import EagerForth.Text.Basic

/-!
# Decimal numerals

A numeral is an optional sign followed by one or more decimal digits.  Numerals may have at
most {lit}`Numeral.digitLimit` digits, leading zeros included: a longer one can be neither
read nor written, although the integers themselves are unbounded.

Main results:

- Theorem {lit}`Numeral.write?_eq_none_iff`: exactly the integers of a magnitude of at least
  ten to the digit limit cannot be written.
-/

namespace EagerForth

namespace Numeral

/-- The greatest number of digits of a numeral that can be read or written. -/
def digitLimit : Nat := 4300

/-- What a word amounts to when it is read as a numeral. -/
inductive Reading where
  /-- The word is not a numeral. -/
  | notNumeral
  /-- The word is a numeral with too many digits. -/
  | tooLong
  /-- The word is a numeral for the given integer. -/
  | value (n : Int)
deriving DecidableEq, Repr

/-- Whether a numeral starts with a minus sign, and the numeral without its sign. -/
def splitSign : Text → Bool × Text
  | '+' :: digits => (false, digits)
  | '-' :: digits => (true, digits)
  | digits => (false, digits)

/-- The integer with the given sign and decimal digits. -/
def ofDigits (negative : Bool) (digits : Text) : Int :=
  let magnitude : Int := Nat.ofDigitChars 10 digits 0
  if negative then -magnitude else magnitude

/-- Read a word as a numeral. -/
def read (w : Text) : Reading :=
  let (negative, digits) := splitSign w
  if digits.isEmpty || !digits.all Char.isDigit then .notNumeral
  else if digitLimit < digits.length then .tooLong
  else .value (ofDigits negative digits)

/-- The decimal digits of the magnitude of an integer. -/
def magnitudeDigits (n : Int) : Text :=
  Nat.toDigits 10 n.natAbs

/-- An integer in decimal, of any length. -/
def write (n : Int) : Text :=
  if n < 0 then '-' :: magnitudeDigits n else magnitudeDigits n

/-- An integer in decimal, unless that has too many digits. -/
def write? (n : Int) : Option Text :=
  if (magnitudeDigits n).length ≤ digitLimit then some (write n) else none

/-- Exactly the integers of a magnitude of at least ten to the digit limit cannot be
written. -/
theorem write?_eq_none_iff (n : Int) : write? n = none ↔ Nat.pow 10 digitLimit ≤ n.natAbs := by
  have hlen := Nat.length_toDigits_le_iff (b := 10) (n := n.natAbs) (k := digitLimit)
    (by decide) (by decide)
  simp only [write?, magnitudeDigits, ite_eq_right_iff, reduceCtorEq, imp_false, hlen,
    Nat.not_lt, Nat.pow_eq]

end Numeral

end EagerForth
