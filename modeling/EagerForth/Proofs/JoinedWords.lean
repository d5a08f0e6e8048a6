import EagerForth.Proofs.RepeatedReading

/-!
# The words of joined texts

Between two texts that are joined by a separator no word is lost, made or merged: the words of
the whole are those of the first text and then those of the second.  In the other direction, a
row of words can be joined by spaces and is read again word by word, provided that bringing the
words into normal form leaves them alone.  This is so where the accepted characters are their own
lowercase forms and the words have no ASCII capitals.

Main results:

- Theorem {lit}`Charset.words_ofText_normalize`: reading one word after another from the start of
  a normal form takes the words of the text.
- Theorem {lit}`Charset.of_mem_tokenize`: no word is empty or has a space in it.
- Theorem {lit}`Charset.normalize_eq_self_of_small`: texts that are their own normal forms.
- Theorem {lit}`Charset.tokenize_splits_and_joins`: the words of joined texts, and of words that
  are joined.
-/

namespace EagerForth

namespace Charset

variable {cs : Charset} {t w : Text} {c : Char}

/-! ## Words of a text -/

/-- A separator is the space, or a character that is neither printable ASCII nor added to it. -/
theorem separates_iff (cs : Charset) (c : Char) :
    cs.separates c = true ↔ c = ' ' ∨ isPrintableAscii c = false ∧ c ∉ cs.extra := by
  simp [separates, accepts]

/-- Reading one word after another from the start of a normal form takes the words of the text. -/
theorem words_ofText_normalize (cs : Charset) (t : Text) :
    (Cursor.ofText (cs.normalize t)).words.1 = cs.tokenize t := by
  rw [(Cursor.words_eq _).1, Cursor.remaining_ofText]
  rfl

/-- No word is empty or has a space in it. -/
theorem of_mem_tokenize (hw : w ∈ cs.tokenize t) : w ≠ [] ∧ ' ' ∉ w := by
  refine ⟨Text.ne_nil_of_mem_fields hw, ?_⟩
  intro hspace
  have hfree := (Text.isInfix_of_mem_fields hw).2 ' ' hspace
  cases hfree

/-! ## Texts in normal form -/

/-- Where the characters that are added are their own lowercase forms, so are all that are
accepted but the ASCII capitals. -/
theorem lowercase_eq_of_accepts (hsmall : ∀ c ∈ cs.extra, Text.lowercase [c] = [c])
    (hc : cs.accepts c = true) (hup : c.isUpper = false) : Text.lowercase [c] = [c] := by
  simp only [accepts, Bool.or_eq_true, List.contains_iff_mem] at hc
  rcases hc with hascii | hextra
  · simp only [isPrintableAscii, Bool.and_eq_true, decide_eq_true_eq] at hascii
    have hlower : Text.lowerChar [] c [] = [c.toLower] := Text.lowerChar_of_ascii (by omega) [] []
    rw [Text.lowercase, Text.lowerAfter, hlower, Text.toLower_of_not_isUpper (by simp [hup])]
    rfl
  · exact hsmall c hextra

/-- Then a text of accepted characters without ASCII capitals is in normal form. -/
theorem normalize_eq_self_of_small (hsmall : ∀ c ∈ cs.extra, Text.lowercase [c] = [c])
    (ht : ∀ c ∈ t, cs.accepts c = true ∧ c.isUpper = false) : cs.normalize t = t := by
  have hblank : cs.blankOut t = t := (cs.blankOut_eq_self_iff t).mpr fun c hc => (ht c hc).1
  rw [normalize, hblank]
  apply Text.lowerAfter_eq_self
  intro c hc
  exact lowercase_eq_of_accepts hsmall (ht c hc).1 (ht c hc).2

/-! ## Joined texts and joined words -/

/-- Cutting a text into words splits and joins.  A separator between two texts keeps their words
apart, and no word is empty or has a space in it; the words are those that are read one by one
from the start of the normal form.  Where the accepted characters are their own lowercase forms,
accepted words without ASCII capitals that are joined by spaces are read again. -/
theorem tokenize_splits_and_joins (cs : Charset) :
    (∀ (a b : Text) (x : Char), x = ' ' ∨ isPrintableAscii x = false ∧ x ∉ cs.extra →
        cs.tokenize (a ++ x :: b) = cs.tokenize a ++ cs.tokenize b) ∧
      (∀ a : Text, (Cursor.ofText (cs.normalize a)).words.1 = cs.tokenize a ∧
        ∀ w ∈ cs.tokenize a, w ≠ [] ∧ ' ' ∉ w) ∧
      ((∀ c ∈ cs.extra, Text.lowercase [c] = [c]) → ∀ ws : List Text,
        (∀ w ∈ ws, w ≠ [] ∧ ' ' ∉ w ∧ ∀ c ∈ w, cs.accepts c = true ∧ c.isUpper = false) →
          cs.tokenize (Text.unwords ws) = ws) := by
  refine ⟨?_, ?_, ?_⟩
  · intro a b x hx
    exact cs.tokenize_append_separator a b ((cs.separates_iff x).mpr hx)
  · intro a
    exact ⟨cs.words_ofText_normalize a, fun w hw => of_mem_tokenize hw⟩
  · intro hsmall ws hws
    have hnormal : cs.normalize (Text.unwords ws) = Text.unwords ws := by
      apply normalize_eq_self_of_small hsmall
      intro c hc
      rcases Text.eq_space_or_mem_of_mem_unwords hc with rfl | ⟨w, hw, hcw⟩
      · exact ⟨rfl, rfl⟩
      · exact (hws w hw).2.2 c hcw
    rw [tokenize, hnormal]
    exact Text.words_unwords fun w hw => ⟨(hws w hw).1, (hws w hw).2.1⟩

/-- A tab between a word that ends in a capital sigma and another word, and a row of words one of
which has the euro sign in it. -/
theorem tokenize_splits_and_joins_euro :
    (Charset.mk ['Σ']).tokenize ("AΣ".toList ++ '\t' :: "Σ+".toList) =
        ["aς".toList] ++ ["σ+".toList] ∧
      legacy.tokenize (Text.unwords ["5€".toList, ":".toList, "dup".toList]) =
        ["5€".toList, ":".toList, "dup".toList] := by
  constructor
  · rw [(tokenize_splits_and_joins (Charset.mk ['Σ'])).1 _ _ '\t' (by decide)]
    decide +kernel
  · apply (tokenize_splits_and_joins legacy).2.2 settled_legacy.lowercase_eq
    simp [legacy, accepts, isPrintableAscii]

end Charset

end EagerForth
