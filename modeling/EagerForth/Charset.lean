import EagerForth.Text.Lowercase

/-!
# Character sets and normal form

Before a line is read, every character that is not accepted becomes a space and the rest is
lowercased.  Printable ASCII is always accepted; a character set names what else is.

Main results:

- Theorem {lit}`Charset.count_normalize`: a printable character below the letter {lit}`a`
  that is neither a capital nor the space occurs in the normal form of a text exactly as
  often as in the text.  The semicolon, which ends a definition, is one of them.
-/

namespace EagerForth

/-- The characters accepted in input: printable ASCII and the {lit}`extra` ones. -/
structure Charset where
  /-- The accepted characters besides printable ASCII. -/
  extra : Text
deriving DecidableEq

namespace Charset

/-- Printable ASCII alone. -/
def plain : Charset := ⟨[]⟩

/-- Printable ASCII and the euro sign. -/
def legacy : Charset := ⟨['€']⟩

/-- The characters from the space to the tilde. -/
def isPrintableAscii (c : Char) : Bool :=
  0x20 ≤ c.toNat && c.toNat ≤ 0x7E

/-- The accepted characters. -/
def accepts (cs : Charset) (c : Char) : Bool :=
  isPrintableAscii c || cs.extra.contains c

/-- A text with a space in place of every character that is not accepted. -/
def blankOut (cs : Charset) (t : Text) : Text :=
  t.map fun c => if cs.accepts c then c else ' '

/-- The form in which a text is read: blanked out, then lowercased. -/
def normalize (cs : Charset) (t : Text) : Text :=
  Text.lowercase (cs.blankOut t)

/-- The words of a text in normal form. -/
def tokenize (cs : Charset) (t : Text) : List Text :=
  Text.words (cs.normalize t)

/-- An empty text is in normal form. -/
@[simp]
theorem normalize_nil (cs : Charset) : cs.normalize [] = [] :=
  rfl

/-- Blanking out works on each part of a text. -/
@[simp]
theorem blankOut_append (cs : Charset) (a b : Text) :
    cs.blankOut (a ++ b) = cs.blankOut a ++ cs.blankOut b := by
  simp [blankOut]

/-- An accepted character other than the space is neither lost nor made by blanking out. -/
theorem count_blankOut (cs : Charset) {x : Char} (hx : cs.accepts x = true) (hsp : x ≠ ' ')
    (t : Text) : (cs.blankOut t).count x = t.count x := by
  induction t with
  | nil => rfl
  | cons c t ih =>
      have hcons : cs.blankOut (c :: t) =
          (if cs.accepts c then c else ' ') :: cs.blankOut t := rfl
      rw [hcons, List.count_cons, List.count_cons, ih]
      by_cases hc : cs.accepts c = true
      · simp [hc]
      · have hne : c ≠ x := by
          rintro rfl
          exact hc hx
        simp [hc, hne, hsp.symm]

/-- A printable character below `a` that is neither a capital nor the space occurs in the
normal form of a text exactly as often as in the text. -/
theorem count_normalize (cs : Charset) {x : Char} (hlo : 0x20 < x.toNat)
    (hhi : x.toNat < 97) (hup : x.isUpper = false) (t : Text) :
    (cs.normalize t).count x = t.count x := by
  have haccepts : cs.accepts x = true := by
    simp [accepts, isPrintableAscii]
    omega
  have hsp : x ≠ ' ' := by
    rintro rfl
    exact absurd hlo (by decide)
  rw [normalize, Text.count_lowercase hhi hup, count_blankOut cs haccepts hsp]

end Charset

end EagerForth
