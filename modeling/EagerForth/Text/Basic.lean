/-!
# Text and its fields

A text is a list of Unicode scalar values, so that positions and lengths count characters.
Reading a line means cutting it into fields: the nonempty pieces between separators.  An
expression is cut at spaces, a definition at any blank character; both are instances of
{lit}`Text.fields`.

Main results:

- Theorem {lit}`Text.fields_append_cons`: a separator cuts a text into two texts whose
  fields are read independently.
- Theorem {lit}`Text.fields_eq_singleton`: a nonempty text without separators is one field.
- Theorem {lit}`Text.ne_nil_of_mem_fields`: no field is empty.
- Theorem {lit}`Text.fields_congr`: only the separators that occur in a text matter.
-/

namespace EagerForth

/-- A text is a list of Unicode scalar values. -/
abbrev Text := List Char

namespace Text

/-! ## Fields -/

/-- The nonempty pieces of a text between separators, in order. -/
def fields (isSeparator : Char → Bool) (t : Text) : List Text :=
  (t.splitOnP isSeparator).filter (! ·.isEmpty)

/-- An empty text has no fields. -/
@[simp]
theorem fields_nil (isSeparator : Char → Bool) : fields isSeparator [] = [] := by
  simp [fields]

/-- A separator cuts a text into two texts whose fields are read independently. -/
theorem fields_append_cons (isSeparator : Char → Bool) (a b : Text) {c : Char}
    (hc : isSeparator c = true) :
    fields isSeparator (a ++ c :: b) = fields isSeparator a ++ fields isSeparator b := by
  simp [fields, List.splitOnP_append_cons a b hc]

/-- A leading separator belongs to no field. -/
theorem fields_cons_of_separator (isSeparator : Char → Bool) (b : Text) {c : Char}
    (hc : isSeparator c = true) : fields isSeparator (c :: b) = fields isSeparator b := by
  simpa using fields_append_cons isSeparator [] b hc

/-- A nonempty text without separators is its own only field. -/
theorem fields_eq_singleton (isSeparator : Char → Bool) {t : Text} (hne : t ≠ [])
    (hsep : ∀ c ∈ t, isSeparator c = false) : fields isSeparator t = [t] := by
  simp [fields, List.splitOnP_eq_singleton hsep, hne]

/-- No field is empty. -/
theorem ne_nil_of_mem_fields {isSeparator : Char → Bool} {t w : Text}
    (hw : w ∈ fields isSeparator t) : w ≠ [] := by
  have h := (List.mem_filter.mp hw).2
  simpa using h

/-- Only the separators that occur in a text matter for its fields. -/
theorem fields_congr {isSeparator isSeparator' : Char → Bool} {t : Text}
    (h : ∀ c ∈ t, isSeparator c = isSeparator' c) :
    fields isSeparator t = fields isSeparator' t := by
  have hsplit : t.splitOnP isSeparator = t.splitOnP isSeparator' := by
    induction t with
    | nil => simp
    | cons c t ih =>
        have hc := h c (by simp)
        have ht := ih fun d hd => h d (by simp [hd])
        rw [List.splitOnP_cons_eq_if_modifyHead, List.splitOnP_cons_eq_if_modifyHead, hc, ht]
  simp [fields, hsplit]

/-! ## Words -/

/-- The words of a text are its fields between spaces. -/
def words (t : Text) : List Text :=
  fields (· == ' ') t

/-- Write words one after another with single spaces between them. -/
def unwords (ws : List Text) : Text :=
  [' '].intercalate ws

/-- An empty text has no words. -/
@[simp]
theorem words_nil : words [] = [] :=
  fields_nil _

/-- A leading space belongs to no word. -/
@[simp]
theorem words_cons_space (t : Text) : words (' ' :: t) = words t :=
  fields_cons_of_separator _ t rfl

/-- A space cuts a text into two texts whose words are read independently. -/
theorem words_append_space (a b : Text) : words (a ++ ' ' :: b) = words a ++ words b :=
  fields_append_cons _ a b rfl

/-- A nonempty text without spaces is its own only word. -/
theorem words_eq_singleton {t : Text} (hne : t ≠ []) (hsp : ' ' ∉ t) : words t = [t] := by
  apply fields_eq_singleton _ hne
  intro c hc
  simp only [beq_eq_false_iff_ne]
  rintro rfl
  exact hsp hc

/-- Leading spaces belong to no word. -/
theorem words_dropWhile_space (t : Text) : words (t.dropWhile (· == ' ')) = words t := by
  induction t with
  | nil => rfl
  | cons c t ih =>
      by_cases hc : c = ' '
      · subst hc
        simpa using ih
      · simp [hc]

end Text

end EagerForth
