import EagerForth.Numeral

/-!
# Tokens and expansions

The meaning of a word is a flat list of tokens, its expansion: literals to push and names of
primitives to run.  No token refers to a defined word, so an expansion does not change when
words are defined anew.
-/

namespace EagerForth

/-- One step of an expansion. -/
inductive Token where
  /-- Push an integer. -/
  | literal (n : Int)
  /-- Run the primitive of the given name. -/
  | primitive (name : Text)
deriving DecidableEq, Repr

/-- The tokens a word stands for. -/
abbrev Expansion := List Token

/-- A token in writing: a numeral or the name of a primitive. -/
def Token.write : Token → Text
  | .literal n => Numeral.write n
  | .primitive name => name

/-- Whether a token can be written within the digit limit of numerals. -/
def Token.isWritable : Token → Bool
  | .literal n => (Numeral.write? n).isSome
  | .primitive _ => true

/-- An expansion in writing: its tokens with spaces between them. -/
def Expansion.write (x : Expansion) : Text :=
  Text.unwords (x.map Token.write)

/-- Whether an expansion can be written within the digit limit of numerals. -/
def Expansion.isWritable (x : Expansion) : Bool :=
  x.all Token.isWritable

end EagerForth
