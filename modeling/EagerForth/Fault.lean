import EagerForth.Text.Basic

/-!
# Faults and failures

A fault is a mistake in a line that the prompt reports: the line is refused and the
conversation goes on.  A failure is anything that can stop an evaluation.  Besides the faults
these are the digit limit of numerals and a primitive that no one has installed, and no
message is made for either.
-/

namespace EagerForth

/-- A mistake that is reported to whoever wrote the line. -/
inductive Fault where
  /-- A primitive needs more values than the stack holds. -/
  | stackUnderflow
  /-- A quotient by zero was asked for. -/
  | divisionByZero
  /-- A definition has no name, or a numeral for its name. -/
  | invalidWord (word : Text)
  /-- A word is neither a numeral nor in the dictionary. -/
  | unknownWord (word : Text)
deriving DecidableEq, Repr

/-- The report of a fault. -/
def Fault.message : Fault → Text
  | .stackUnderflow => "stack underflow".toList
  | .divisionByZero => "division by zero".toList
  | .invalidWord word => "invalid word: ".toList ++ word
  | .unknownWord word => "unknown word: ".toList ++ word

/-- A reason for an evaluation to stop. -/
inductive Failure where
  /-- The line has a fault. -/
  | fault (fault : Fault)
  /-- A numeral with too many digits had to be read or written. -/
  | digitLimit
  /-- A token names a primitive that is not installed. -/
  | missingPrimitive (name : Text)
deriving DecidableEq, Repr

end EagerForth
