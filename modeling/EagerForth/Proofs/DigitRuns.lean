import EagerForth.Proofs.Decimal
import EagerForth.Proofs.Layout

/-!
# Runs of digits

The numerals of a line are made of runs of digits that stand in its text.  Bringing a text into
normal form changes no run of digits, neither by characters that it takes away nor by those it
puts in, and the cuts by which a line is read go between the runs.  So every run of digits in a
word of a line, be it in a definition or in the expression, stands in the normal form of the
text, however often the rest of the line has been brought into normal form.

Main results:

- Theorem {lit}`Charset.digitRuns_normalize`: a text and its normal form have the same runs of
  digits.
- Theorem {lit}`Line.digitRuns_subset`: the runs of digits in the words of a line are runs of
  digits in its text.
- Theorem {lit}`Numeral.exists_digitRun_of_tooLong`: a numeral with too many digits has a run of
  as many.
-/

namespace EagerForth

namespace Text

/-! ## Runs -/

/-- The longest pieces of a text that are made of digits alone, in order. -/
def digitRuns (t : Text) : List Text :=
  fields (! Char.isDigit ·) t

/-- A field of a text stands in the text and has no separators in it. -/
theorem isInfix_of_mem_fields {isSeparator : Char → Bool} {t w : Text}
    (hw : w ∈ fields isSeparator t) : w <:+: t ∧ ∀ c ∈ w, isSeparator c = false := by
  induction t using fields_induction isSeparator with
  | piece p hp =>
      rw [fields_of_free hp] at hw
      split at hw
      · cases hw
      · rw [List.mem_singleton.mp hw]
        exact ⟨List.infix_refl p, hp⟩
  | cut p c t hp hc ih =>
      rw [fields_append_cons isSeparator p t hc, List.mem_append, fields_of_free hp] at hw
      rcases hw with hfirst | hrest
      · split at hfirst
        · cases hfirst
        · rw [List.mem_singleton.mp hfirst]
          exact ⟨(List.prefix_append p (c :: t)).isInfix, hp⟩
      · rcases ih hrest with ⟨hstands, hfree⟩
        have hrest : t <:+ p ++ c :: t := (List.suffix_cons c t).trans (List.suffix_append p _)
        exact ⟨hstands.trans hrest.isInfix, hfree⟩

/-- A character that is no digit cuts a text into two texts whose runs are their own. -/
theorem digitRuns_append_cons (a b : Text) {c : Char} (hc : c.isDigit = false) :
    digitRuns (a ++ c :: b) = digitRuns a ++ digitRuns b :=
  fields_append_cons _ a b (by simp [hc])

/-- Characters that are no digits cut a text like one of them. -/
theorem digitRuns_append_of_ne_nil (a b : Text) {cut : Text} (hne : cut ≠ [])
    (hcut : ∀ c ∈ cut, c.isDigit = false) :
    digitRuns (a ++ cut ++ b) = digitRuns a ++ digitRuns b := by
  induction cut generalizing a with
  | nil => exact absurd rfl hne
  | cons c cut ih =>
      rcases List.forall_mem_cons.mp hcut with ⟨hc, hrest⟩
      rw [List.append_assoc, List.cons_append, digitRuns_append_cons a _ hc]
      cases cut with
      | nil => rfl
      | cons d cut =>
          have hmore := ih [] (List.cons_ne_nil d cut) hrest
          rw [List.nil_append] at hmore
          rw [hmore]
          rfl

/-- Where no digit is a separator, the runs of a text are those of its fields. -/
theorem digitRuns_eq_flatMap_fields {isSeparator : Char → Bool}
    (hsep : ∀ c, isSeparator c = true → c.isDigit = false) (t : Text) :
    digitRuns t = (fields isSeparator t).flatMap digitRuns := by
  apply eq_flatMap_fields isSeparator
  · exact fields_nil _
  · intro a b c hc
    exact digitRuns_append_cons a b (hsep c hc)

/-- A field has no other runs than the text it stands in. -/
theorem digitRuns_subset_of_mem_fields {isSeparator : Char → Bool}
    (hsep : ∀ c, isSeparator c = true → c.isDigit = false) {t w : Text}
    (hw : w ∈ fields isSeparator t) : digitRuns w ⊆ digitRuns t := by
  intro run hrun
  rw [digitRuns_eq_flatMap_fields hsep t]
  exact List.mem_flatMap.mpr ⟨w, hw, hrun⟩

/-- The runs of a text are those of its words. -/
theorem digitRuns_eq_flatMap_words (t : Text) : digitRuns t = (words t).flatMap digitRuns := by
  apply digitRuns_eq_flatMap_fields
  intro c hc
  rw [beq_iff_eq.mp hc]
  rfl

/-- The part of a text before a character that is no digit has no other runs than the text,
and neither has the part behind it. -/
theorem digitRuns_cut_subset {x : Char} (hx : x.isDigit = false) (t : Text) :
    digitRuns (t.takeWhile (· != x)) ⊆ digitRuns t ∧
      digitRuns (t.dropWhile (· != x)).tail ⊆ digitRuns t := by
  by_cases hmem : x ∈ t
  · rcases List.eq_append_cons_of_mem hmem with ⟨a, b, rfl, ha⟩
    rw [takeWhile_ne_append_cons ha, dropWhile_ne_append_cons ha, List.tail_cons,
      digitRuns_append_cons a b hx]
    exact ⟨List.subset_append_left _ _, List.subset_append_right _ _⟩
  · rw [takeWhile_ne_of_not_mem hmem, dropWhile_ne_of_not_mem hmem]
    exact ⟨List.Subset.refl _, List.nil_subset _⟩

/-! ## Runs and normal forms -/

/-- The decimal digits are ASCII and no capitals. -/
theorem ascii_of_isDigit {c : Char} (hc : c.isDigit = true) :
    c.toNat < 128 ∧ c.isUpper = false := by
  have hdigit := Numeral.toNat_of_isDigit hc
  exact ⟨by omega, isUpper_eq_false_of_lt (by omega)⟩

/-- What is no digit is not lowercased to nothing, nor to anything with a digit in it. -/
theorem not_isDigit_of_mem_lowerChar {c : Char} (hc : c.isDigit = false)
    (before rest : Text) :
    lowerChar before c rest ≠ [] ∧
      ∀ d ∈ lowerChar before c rest, d.isDigit = false := by
  constructor
  · unfold lowerChar
    split
    · exact List.cons_ne_nil _ _
    · split
      · split <;> exact List.cons_ne_nil _ _
      · exact List.cons_ne_nil _ _
  · intro d hd
    rcases lowerChar_eq_or_le before c rest with hsame | ⟨-, hle⟩
    · rw [hsame] at hd
      rwa [List.mem_singleton.mp hd]
    · by_contra hdigit
      have hhi := (Numeral.toNat_of_isDigit (c := d) (by simpa using hdigit)).2
      have hlo := hle d hd
      omega

/-- No blank character is a digit. -/
theorem not_isDigit_of_isBlank {c : Char} (hc : isBlank c = true) : c.isDigit = false := by
  by_contra hdigit
  have hrange := Numeral.toNat_of_isDigit (c := c) (by simpa using hdigit)
  rw [isBlank_eq_false_of_printable (by omega) (by omega)] at hc
  cases hc

/-- Lowercasing changes no run of digits. -/
theorem digitRuns_lowerAfter (before t : Text) :
    digitRuns (lowerAfter before t) = digitRuns t := by
  induction t using fields_induction (! Char.isDigit ·) generalizing before with
  | piece w hw =>
      have hascii : ∀ c ∈ w, c.toNat < 128 ∧ c.isUpper = false :=
        fun c hc => ascii_of_isDigit (by simpa using hw c hc)
      have hlower := lowerAfter_append_of_ascii hascii before []
      rw [List.append_nil, lowerAfter, List.append_nil] at hlower
      rw [hlower]
  | cut w c t hw hc ih =>
      have hascii : ∀ c ∈ w, c.toNat < 128 ∧ c.isUpper = false :=
        fun c hc => ascii_of_isDigit (by simpa using hw c hc)
      have hdigit : c.isDigit = false := by simpa using hc
      -- The character behind the run becomes one or more characters that are no digits.
      rcases not_isDigit_of_mem_lowerChar hdigit (w.reverse ++ before) t with ⟨hne, hfree⟩
      rw [lowerAfter_append_of_ascii hascii, lowerAfter, ← List.append_assoc,
        digitRuns_append_of_ne_nil w _ hne hfree, ih, digitRuns_append_cons w t hdigit]

end Text

/-- Blanking out changes no run of digits. -/
theorem Charset.digitRuns_blankOut (cs : Charset) (t : Text) :
    Text.digitRuns (cs.blankOut t) = Text.digitRuns t := by
  have hkeep : ∀ {c : Char}, c.isDigit = true → cs.accepts c = true := by
    intro c hc
    have hdigit := Numeral.toNat_of_isDigit hc
    simp only [accepts, isPrintableAscii, Bool.or_eq_true, Bool.and_eq_true,
      decide_eq_true_eq]
    omega
  have hrun : ∀ {w : Text}, (∀ c ∈ w, (!c.isDigit) = false) → cs.blankOut w = w := by
    intro w hw
    rw [blankOut, List.map_congr_left (g := id), List.map_id]
    intro c hc
    simp [hkeep (by simpa using hw c hc : c.isDigit = true)]
  induction t using Text.fields_induction (! Char.isDigit ·) with
  | piece w hw => rw [hrun hw]
  | cut w c t hw hc ih =>
      have hdigit : c.isDigit = false := by simpa using hc
      have hblank : cs.blankOut (c :: t) =
          (if cs.accepts c then c else ' ') :: cs.blankOut t := rfl
      have hkept : (if cs.accepts c then c else ' ').isDigit = false := by
        split
        · exact hdigit
        · rfl
      rw [blankOut_append, hrun hw, hblank, Text.digitRuns_append_cons w _ hkept, ih,
        Text.digitRuns_append_cons w t hdigit]

/-- A text and its normal form have the same runs of digits. -/
theorem Charset.digitRuns_normalize (cs : Charset) (t : Text) :
    Text.digitRuns (cs.normalize t) = Text.digitRuns t := by
  rw [normalize, Text.lowercase, Text.digitRuns_lowerAfter, digitRuns_blankOut]

/-! ## Runs in lines -/

/-- All words of a definition, its name first. -/
def Definition.words (definition : Definition) : List Text :=
  definition.name.toList ++ definition.body

@[simp]
theorem Definition.words_ofWords (ws : List Text) : (ofWords ws).words = ws := by
  cases ws <;> rfl

/-- All words of a line, those of its definitions first. -/
def Line.words (line : Line) : List Text :=
  line.definitions.flatMap Definition.words ++ line.expression

/-- The words of a line that starts with a definition. -/
theorem Line.words_cons (definition : Definition) (line : Line) :
    words ⟨definition :: line.definitions, line.expression⟩ =
      definition.words ++ line.words := by
  simp [words]

/-- The runs of digits in a definition, and in what follows it, are runs of digits in the text
that it is read from. -/
theorem Clause.digitRuns_ofInside_subset (inside : Text) :
    (∀ w ∈ (ofInside inside).definition.words,
        Text.digitRuns w ⊆ Text.digitRuns inside) ∧
      Text.digitRuns (ofInside inside).rest ⊆ Text.digitRuns inside := by
  rcases Text.digitRuns_cut_subset (x := ';') rfl inside with ⟨hbefore, hbehind⟩
  constructor
  · intro w hw
    rw [ofInside, Definition.words_ofWords] at hw
    have hfield := Text.digitRuns_subset_of_mem_fields (t := inside.takeWhile (· != ';'))
      (fun c hc => Text.not_isDigit_of_isBlank hc) hw
    exact List.Subset.trans hfield hbefore
  · exact List.Subset.trans (Text.digitRuns_cut_subset (x := '\n') rfl _).1 hbehind

/-- A text that starts with a definition has the runs of digits that stand after the colon. -/
theorem Line.digitRuns_inside {cs : Charset} {text inside : Text}
    (h : (cs.normalize text).dropWhile (· == ' ') = ':' :: inside) :
    Text.digitRuns inside = Text.digitRuns text := by
  have hcolon : Text.digitRuns (':' :: inside) = Text.digitRuns inside :=
    Text.digitRuns_append_cons [] inside rfl
  rw [← hcolon, ← h, Text.digitRuns_eq_flatMap_words, Text.words_dropWhile_space,
    ← Text.digitRuns_eq_flatMap_words, cs.digitRuns_normalize]

/-- The runs of digits in the words of a line are runs of digits in its text. -/
theorem Line.digitRuns_subset (cs : Charset) (text : Text) :
    ∀ w ∈ (parse cs text).words, Text.digitRuns w ⊆ Text.digitRuns text := by
  intro w hw
  by_cases hdef : ((cs.normalize text).dropWhile (· == ' ')).head? = some ':'
  · rcases List.head?_eq_some_iff.mp hdef with ⟨inside, hinside⟩
    rcases Clause.digitRuns_ofInside_subset inside with ⟨hdefinition, hrest⟩
    rw [digitRuns_inside hinside] at hdefinition hrest
    rw [parse_of_definition hinside] at hw
    by_cases hblank : (Clause.ofInside inside).rest.all Text.isBlank = true
    · rw [if_pos hblank, words_cons _ ⟨[], []⟩, List.mem_append] at hw
      rcases hw with hw | hw
      · exact hdefinition w hw
      · cases hw
    · rw [if_neg hblank, words_cons, List.mem_append] at hw
      rcases hw with hw | hw
      · exact hdefinition w hw
      · -- The rest has been brought into normal form once more, which changes no run.
        have hlt := count_ofInside_rest_lt hinside hblank
        have hword := digitRuns_subset cs (Clause.ofInside inside).rest w hw
        exact List.Subset.trans hword hrest
  · rw [parse_of_head?_ne hdef] at hw
    intro run hrun
    rw [← cs.digitRuns_normalize text, Text.digitRuns_eq_flatMap_words]
    exact List.mem_flatMap.mpr ⟨w, hw, hrun⟩
termination_by text.count ';'

/-! ## Runs in numerals -/

/-- A numeral with too many digits has a run of as many. -/
theorem Numeral.exists_digitRun_of_tooLong {w : Text} (h : read w = .tooLong) :
    ∃ run ∈ Text.digitRuns w, digitLimit < run.length := by
  rcases read_of_ne_notNumeral (w := w) (by simp [h]) with ⟨hne, hdigits, -⟩
  refine ⟨(splitSign w).2, ?_, digitLimit_lt_of_read h⟩
  have hrun : Text.digitRuns (splitSign w).2 = [(splitSign w).2] :=
    Text.fields_eq_singleton _ hne fun c hc => by simp [hdigits c hc]
  have hsign : Text.digitRuns w = Text.digitRuns (splitSign w).2 := by
    unfold splitSign
    split
    · exact Text.digitRuns_append_cons [] _ rfl
    · exact Text.digitRuns_append_cons [] _ rfl
    · rfl
  rw [hsign, hrun]
  exact List.mem_singleton_self _

end EagerForth
