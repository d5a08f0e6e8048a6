import EagerForth.Text.Basic

/-!
# Blank characters

Blank characters separate the words of a definition, and a text of blanks alone counts as
nothing.  Besides the space they include the ASCII controls used as separators, the line
and paragraph separators and the other white space of Unicode.

Main results:

- Theorem {lit}`Text.all_isBlank_iff_fields_eq_nil`: a text is blank exactly when it has no
  fields between blanks.
-/

namespace EagerForth

namespace Text

/-- The characters that separate the words of a definition. -/
def isBlank (c : Char) : Bool :=
  let n := c.toNat
  (0x09 ≤ n && n ≤ 0x0D) || (0x1C ≤ n && n ≤ 0x20) || n == 0x85 || n == 0xA0 ||
    n == 0x1680 || (0x2000 ≤ n && n ≤ 0x200A) || n == 0x2028 || n == 0x2029 ||
    n == 0x202F || n == 0x205F || n == 0x3000

/-- The space is blank. -/
@[simp]
theorem isBlank_space : isBlank ' ' = true := by
  decide

/-- The characters from `!` to `~` are not blank. -/
theorem isBlank_eq_false_of_printable {c : Char} (hlo : 0x21 ≤ c.toNat)
    (hhi : c.toNat ≤ 0x7E) : isBlank c = false := by
  simp only [isBlank, Bool.or_eq_false_iff, Bool.and_eq_false_iff, decide_eq_false_iff_not,
    beq_eq_false_iff_ne]
  omega

/-- Remove the blanks at both ends of a text. -/
def strip (t : Text) : Text :=
  ((t.dropWhile isBlank).reverse.dropWhile isBlank).reverse

/-- A text is blank exactly when it has no fields between blanks. -/
theorem all_isBlank_iff_fields_eq_nil (t : Text) :
    t.all isBlank = true ↔ fields isBlank t = [] := by
  induction t with
  | nil => simp
  | cons c t ih =>
      by_cases hc : isBlank c = true
      · simp [fields_cons_of_separator _ t hc, hc, ← ih]
      · have hsplit := List.splitOnP_cons_eq_if_modifyHead (p := isBlank) c t
        obtain ⟨w, ws, hws⟩ := List.exists_cons_of_ne_nil (List.splitOnP_ne_nil isBlank t)
        simp [fields, hsplit, hc, hws]

end Text

end EagerForth
