import EagerForth.Text.Basic
import EagerForth.Text.Unprintable

/-!
# Quoted text

How the journal and the usage messages show a text: between quotes, on one line, with the
characters that cannot be seen written by their numbers.  Single quotes are used unless the
text holds a single quote and no double quote.
-/

namespace EagerForth

namespace Text

/-- The single quote. -/
def singleQuote : Char := '\x27'

/-- The double quote. -/
def doubleQuote : Char := '\x22'

/-- The backslash, which introduces an escaped character. -/
def backslash : Char := '\x5c'

/-- A number in lower-case hexadecimal, with at least the given number of digits. -/
def hexadecimal (width n : Nat) : Text :=
  (Nat.toDigits 16 n).leftpad width '0'

/-- A character by its number: two, four or eight hexadecimal digits, the fewest that do. -/
def escapeByNumber (c : Char) : Text :=
  let n := c.toNat
  if n < 0x100 then backslash :: 'x' :: hexadecimal 2 n
  else if n < 0x10000 then backslash :: 'u' :: hexadecimal 4 n
  else backslash :: 'U' :: hexadecimal 8 n

/-- A character as it stands between the given quotes. -/
def escapeChar (quote c : Char) : Text :=
  if c = quote ∨ c = backslash then [backslash, c]
  else if c = '\t' then [backslash, 't']
  else if c = '\n' then [backslash, 'n']
  else if c = '\r' then [backslash, 'r']
  else if isPrintable c then [c]
  else escapeByNumber c

/-- The quote that surrounds a text. -/
def quoteFor (t : Text) : Char :=
  if t.contains singleQuote && !t.contains doubleQuote then doubleQuote else singleQuote

/-- A text between quotes. -/
def quoted (t : Text) : Text :=
  let quote := quoteFor t
  quote :: t.flatMap (escapeChar quote) ++ [quote]

end Text

end EagerForth
