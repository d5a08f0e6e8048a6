import EagerForth.Text.Blank
import Mathlib.Data.List.TakeWhile

/-!
# Cutting texts and cutting their words

Lines are cut at single characters, by taking what stands before the first semicolon or line
feed and what stands after it.  The words of the two parts can be told from the words of the
whole text: the cut goes through the first word that has the character in it, and spaces
play no part.  So whatever is done to a text by such cuts depends on its words alone.

Main results:

- Theorem {lit}`Text.fields_induction`: a text is a piece without separators, or such a piece
  followed by a separator and another text.
- Theorem {lit}`Text.eq_flatMap_fields`: what is read on the two sides of every separator
  independently is read field by field.
- Theorem {lit}`Text.cut_words`: cutting the words of a text gives the words of the two parts
  of the cut text.
- Theorem {lit}`Text.words_unwords`: words that are written one after another are read again.
-/

namespace EagerForth

namespace Text

/-! ## Cuts at the first occurrence of a character -/

theorem bne_of_not_mem {x : Char} {t : Text} (hx : x ∉ t) : ∀ c ∈ t, (c != x) = true := by
  intro c hc
  rw [bne_iff_ne]
  rintro rfl
  exact hx hc

theorem takeWhile_ne_of_not_mem {x : Char} {t : Text} (hx : x ∉ t) :
    t.takeWhile (· != x) = t :=
  List.takeWhile_eq_self_iff.mpr (bne_of_not_mem hx)

theorem dropWhile_ne_of_not_mem {x : Char} {t : Text} (hx : x ∉ t) :
    t.dropWhile (· != x) = [] :=
  List.dropWhile_eq_nil_iff.mpr (bne_of_not_mem hx)

/-- The text before the first occurrence of a character. -/
theorem takeWhile_ne_append_cons {x : Char} {a : Text} (hx : x ∉ a) (b : Text) :
    (a ++ x :: b).takeWhile (· != x) = a := by
  rw [List.takeWhile_append_of_pos (bne_of_not_mem hx)]
  simp

/-- The text from the first occurrence of a character on. -/
theorem dropWhile_ne_append_cons {x : Char} {a : Text} (hx : x ∉ a) (b : Text) :
    (a ++ x :: b).dropWhile (· != x) = x :: b := by
  rw [List.dropWhile_append_of_pos (bne_of_not_mem hx)]
  simp

/-! ## Fields one by one -/

/-- Prove a statement about texts by following their fields: for a piece without separators,
and for such a piece followed by a separator and a text for which the statement holds. -/
theorem fields_induction {motive : Text → Prop} (isSeparator : Char → Bool)
    (piece : ∀ w : Text, (∀ c ∈ w, isSeparator c = false) → motive w)
    (cut : ∀ (w : Text) (c : Char) (t : Text), (∀ d ∈ w, isSeparator d = false) →
      isSeparator c = true → motive t → motive (w ++ c :: t)) (t : Text) : motive t := by
  have hfree : ∀ c ∈ t.takeWhile (! isSeparator ·), isSeparator c = false := by
    intro c hc
    simpa using List.all_eq_true.mp List.all_takeWhile c hc
  have happ := List.takeWhile_append_dropWhile (p := (! isSeparator ·)) (l := t)
  cases hdrop : t.dropWhile (! isSeparator ·) with
  | nil =>
      rw [hdrop, List.append_nil] at happ
      rw [← happ]
      exact piece _ hfree
  | cons c rest =>
      have hc : isSeparator c = true := by
        have hhead := List.head?_dropWhile_not (! isSeparator ·) t
        simpa [hdrop] using hhead
      have hlt : rest.length < t.length := by
        have hle := (List.dropWhile_suffix (! isSeparator ·) (l := t)).length_le
        rw [hdrop, List.length_cons] at hle
        omega
      rw [hdrop] at happ
      rw [← happ]
      exact cut _ c rest hfree hc (fields_induction isSeparator piece cut rest)
termination_by t.length

/-- A piece without separators is its own only field, unless it is empty. -/
theorem fields_of_free {isSeparator : Char → Bool} {w : Text}
    (h : ∀ c ∈ w, isSeparator c = false) :
    fields isSeparator w = if w = [] then [] else [w] := by
  by_cases hw : w = []
  · rw [if_pos hw, hw, fields_nil]
  · rw [if_neg hw, fields_eq_singleton isSeparator hw h]

/-- What is read on the two sides of every separator independently is read field by field. -/
theorem eq_flatMap_fields {α : Type} (isSeparator : Char → Bool) (f : Text → List α)
    (hnil : f [] = [])
    (happend : ∀ (a b : Text) (c : Char), isSeparator c = true →
      f (a ++ c :: b) = f a ++ f b) (t : Text) :
    f t = (fields isSeparator t).flatMap f := by
  have hpiece : ∀ w : Text, (∀ c ∈ w, isSeparator c = false) →
      f w = (fields isSeparator w).flatMap f := by
    intro w hw
    rw [fields_of_free hw]
    by_cases hempty : w = []
    · rw [if_pos hempty, hempty, hnil, List.flatMap_nil]
    · rw [if_neg hempty, List.flatMap_singleton]
  induction t using fields_induction isSeparator with
  | piece w hw => exact hpiece w hw
  | cut w c t hw hc ih =>
      rw [happend w t c hc, fields_append_cons isSeparator w t hc, List.flatMap_append, ← ih,
        ← hpiece w hw]

/-- The fields of a text between blanks can be told from its words. -/
theorem fields_isBlank_eq_flatMap (t : Text) :
    fields isBlank t = (words t).flatMap (fields isBlank) := by
  apply eq_flatMap_fields (· == ' ')
  · exact fields_nil _
  · intro a b c hc
    rw [beq_iff_eq] at hc
    subst hc
    exact fields_append_cons isBlank a b isBlank_space

/-- The fields of a text between blanks are its words if no blank but the space occurs in it. -/
theorem fields_isBlank_eq_words {t : Text} (h : ∀ c ∈ t, isBlank c = true → c = ' ') :
    fields isBlank t = words t := by
  apply fields_congr
  intro c hc
  rw [Bool.eq_iff_iff, beq_iff_eq]
  constructor
  · exact h c hc
  · rintro rfl
    exact isBlank_space

/-- Whether a text is blank can be told from its words. -/
theorem all_isBlank_congr {s t : Text} (h : words s = words t) :
    s.all isBlank = t.all isBlank := by
  rw [Bool.eq_iff_iff, all_isBlank_iff_fields_eq_nil, all_isBlank_iff_fields_eq_nil,
    fields_isBlank_eq_flatMap s, fields_isBlank_eq_flatMap t, h]

/-- The first character of a text that is no space is the first of its first word. -/
theorem head?_dropWhile_space (t : Text) :
    (t.dropWhile (· == ' ')).head? = (words t).head?.bind List.head? := by
  induction t using fields_induction (· == ' ') with
  | piece w hw =>
      cases w with
      | nil => simp
      | cons c w =>
          have hc : (c == ' ') = false := hw c List.mem_cons_self
          rw [words, fields_of_free hw, List.dropWhile_cons_of_neg (by simp [hc])]
          simp
  | cut w c t hw hc ih =>
      rw [beq_iff_eq] at hc
      subst hc
      rw [words_append_space]
      cases w with
      | nil => simpa using ih
      | cons d w =>
          have hd : (d == ' ') = false := hw d List.mem_cons_self
          rw [words, fields_of_free hw, List.cons_append,
            List.dropWhile_cons_of_neg (by simp [hd])]
          simp

/-! ## Cuts of lists of words -/

/-- The words before the first occurrence of a character, and those after it. -/
def cut (x : Char) : List Text → List Text × List Text
  | [] => ([], [])
  | w :: ws =>
      if x ∈ w then (words (w.takeWhile (· != x)), words (w.dropWhile (· != x)).tail ++ ws)
      else (w :: (cut x ws).1, (cut x ws).2)

/-- A cut goes through the first word, which is given as a piece of text, or behind it. -/
theorem cut_words_append {x : Char} {w : Text} (hw : ' ' ∉ w) (ws : List Text) :
    cut x (words w ++ ws) =
      if x ∈ w then (words (w.takeWhile (· != x)), words (w.dropWhile (· != x)).tail ++ ws)
      else (words w ++ (cut x ws).1, (cut x ws).2) := by
  by_cases hempty : w = []
  · subst hempty
    simp
  · rw [words_eq_singleton hempty hw]
    rfl

/-- Cutting the words of a text gives the words of the two parts of the cut text. -/
theorem cut_words {x : Char} (hx : x ≠ ' ') (t : Text) :
    cut x (words t) =
      (words (t.takeWhile (· != x)), words (t.dropWhile (· != x)).tail) := by
  induction t using fields_induction (· == ' ') with
  | piece w hw =>
      have hsp : ' ' ∉ w := fun hmem => by simpa using hw ' ' hmem
      rw [← List.append_nil (words w), cut_words_append hsp]
      by_cases hmem : x ∈ w
      · rw [if_pos hmem, List.append_nil]
      · rw [if_neg hmem, takeWhile_ne_of_not_mem hmem, dropWhile_ne_of_not_mem hmem]
        simp [cut]
  | cut w c t hw hc ih =>
      rw [beq_iff_eq] at hc
      subst hc
      have hsp : ' ' ∉ w := fun hmem => by simpa using hw ' ' hmem
      rw [words_append_space, cut_words_append hsp, ih]
      by_cases hmem : x ∈ w
      · -- The cut goes through this word, and nothing is done to the words behind it.
        rcases List.eq_append_cons_of_mem hmem with ⟨a, b, rfl, ha⟩
        rw [if_pos hmem, List.append_assoc, List.cons_append, takeWhile_ne_append_cons ha,
          takeWhile_ne_append_cons ha, dropWhile_ne_append_cons ha,
          dropWhile_ne_append_cons ha, List.tail_cons, List.tail_cons, words_append_space]
      · have hspace : (' ' != x) = true := bne_iff_ne.mpr hx.symm
        rw [if_neg hmem, List.takeWhile_append_of_pos (bne_of_not_mem hmem),
          List.takeWhile_cons_of_pos (p := (· != x)) hspace, words_append_space,
          List.dropWhile_append_of_pos (bne_of_not_mem hmem),
          List.dropWhile_cons_of_pos (p := (· != x)) hspace]

/-- The words of the two parts of a cut text can be told from the words of the text. -/
theorem words_cut_congr {s t : Text} (h : words s = words t) {x : Char} (hx : x ≠ ' ') :
    words (s.takeWhile (· != x)) = words (t.takeWhile (· != x)) ∧
      words (s.dropWhile (· != x)).tail = words (t.dropWhile (· != x)).tail := by
  rw [← Prod.mk.injEq, ← cut_words hx s, ← cut_words hx t, h]

/-! ## Words in a row -/

theorem unwords_cons_cons (w w' : Text) (ws : List Text) :
    unwords (w :: w' :: ws) = w ++ ' ' :: unwords (w' :: ws) := by
  simp [unwords, List.intercalate, List.intersperse]

/-- Words that are written one after another are read again. -/
theorem words_unwords {ws : List Text} (h : ∀ w ∈ ws, w ≠ [] ∧ ' ' ∉ w) :
    words (unwords ws) = ws := by
  induction ws with
  | nil => rfl
  | cons w ws ih =>
      rcases List.forall_mem_cons.mp h with ⟨⟨hne, hsp⟩, hws⟩
      cases ws with
      | nil => simpa [unwords, List.intercalate] using words_eq_singleton hne hsp
      | cons w' ws =>
          rw [unwords_cons_cons, words_append_space, words_eq_singleton hne hsp, ih hws]
          rfl

/-- Words that are written one after another bring nothing with them but spaces. -/
theorem eq_space_or_mem_of_mem_unwords {ws : List Text} {c : Char} (hc : c ∈ unwords ws) :
    c = ' ' ∨ ∃ w ∈ ws, c ∈ w := by
  induction ws with
  | nil => cases hc
  | cons w ws ih =>
      cases ws with
      | nil =>
          have hw : c ∈ w := by simpa [unwords, List.intercalate] using hc
          exact Or.inr ⟨w, List.mem_cons_self, hw⟩
      | cons w' ws =>
          rw [unwords_cons_cons, List.mem_append, List.mem_cons] at hc
          rcases hc with hw | hspace | hrest
          · exact Or.inr ⟨w, List.mem_cons_self, hw⟩
          · exact Or.inl hspace
          · rcases ih hrest with hspace | ⟨v, hv, hcv⟩
            · exact Or.inl hspace
            · exact Or.inr ⟨v, List.mem_cons_of_mem _ hv, hcv⟩

end Text

end EagerForth
