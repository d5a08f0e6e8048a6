import EagerForth.Proofs.DigitRuns
import EagerForth.Proofs.Expression

/-!
# What the words of a line are made of

The words of a definition and those of an expression are read in different ways, and the text
after a definition is brought into normal form again.  All the same every word of a line is made
of characters that stand in some normal form.  No word is empty, a word of the expression has no
space in it, and a word of a definition has neither a blank nor a semicolon.

Main results:

- Theorem {lit}`Line.parse_induction`: a line is an expression, a definition by itself, or a
  definition followed by a line.
- Theorems {lit}`Line.of_mem_definitions` and {lit}`Line.of_mem_expression`: what the words of
  a line are made of.
- Theorem {lit}`Charset.accepts_or_le_of_mem_normalize`: the characters of a normal form are
  accepted ones and small letters.
- Theorem {lit}`Charset.Settled.isUpper_eq_false_of_mem_normalize`: for a settled character set
  there are no ASCII capitals among them.
- Theorem {lit}`Evaluator.eval_word`: a line of one word is evaluated by running that word.
-/

namespace EagerForth

/-! ## The characters of normal forms -/

/-- A lowercased character yields nothing but itself and characters that are at least `a`. -/
theorem Text.eq_or_le_of_mem_lowerChar {before rest : Text} {c d : Char}
    (hd : d ∈ lowerChar before c rest) : d = c ∨ 97 ≤ d.toNat := by
  rcases lowerChar_eq_or_le before c rest with hsame | ⟨-, hle⟩
  · rw [hsame] at hd
    exact Or.inl (List.mem_singleton.mp hd)
  · exact Or.inr (hle d hd)

/-- If a lowercased character yields nothing but itself and characters with a property, a
lowercased text has no characters but those of the text and some with the property. -/
theorem Text.mem_or_of_mem_lowerAfter {P : Char → Prop}
    (hchar : ∀ {before rest : Text} {c d : Char}, d ∈ lowerChar before c rest → d = c ∨ P d)
    {before t : Text} {d : Char} (hd : d ∈ lowerAfter before t) : d ∈ t ∨ P d := by
  induction t generalizing before with
  | nil => cases hd
  | cons c t ih =>
      rw [lowerAfter, List.mem_append] at hd
      rcases hd with hfirst | hrest
      · rcases hchar hfirst with rfl | hd
        · exact Or.inl List.mem_cons_self
        · exact Or.inr hd
      · rcases ih hrest with hmem | hd
        · exact Or.inl (List.mem_cons_of_mem c hmem)
        · exact Or.inr hd

/-- A lowercased text has no characters but those of the text and some that are at least `a`. -/
theorem Text.mem_or_le_of_mem_lowerAfter {before t : Text} {d : Char}
    (hd : d ∈ lowerAfter before t) : d ∈ t ∨ 97 ≤ d.toNat :=
  mem_or_of_mem_lowerAfter eq_or_le_of_mem_lowerChar hd

namespace Charset

variable {cs : Charset} {t : Text} {c : Char}

theorem accepts_of_mem_blankOut (hc : c ∈ cs.blankOut t) : cs.accepts c = true := by
  rcases List.mem_map.mp hc with ⟨d, -, rfl⟩
  split
  · next hd => exact hd
  · rfl

/-- The characters of a normal form are accepted, or at least `a`. -/
theorem accepts_or_le_of_mem_normalize (hc : c ∈ cs.normalize t) :
    cs.accepts c = true ∨ 97 ≤ c.toNat := by
  rcases Text.mem_or_le_of_mem_lowerAfter hc with hmem | hle
  · exact Or.inl (accepts_of_mem_blankOut hmem)
  · exact Or.inr hle

/-- There are no ASCII capitals in the normal forms of a settled character set. -/
theorem Settled.isUpper_eq_false_of_mem_normalize (hcs : cs.Settled)
    (hc : c ∈ cs.normalize t) : c.isUpper = false := by
  rw [hcs.normalize_eq_map] at hc
  rcases List.mem_map.mp hc with ⟨d, -, rfl⟩
  unfold normalChar
  split
  · by_contra hup
    -- A capital would not be its own small letter.
    rw [Bool.not_eq_false] at hup
    have hsmall := Text.toNat_toLower_of_isUpper hup
    rw [Text.toLower_toLower] at hsmall
    omega
  · rfl

end Charset

/-! ## The words of a line -/

/-- The words of a definition are nonempty pieces of the text it is read from, with no blank and
no semicolon in them. -/
theorem Clause.of_mem_definition {inside w : Text}
    (hw : w ∈ (ofInside inside).definition.words) :
    w ≠ [] ∧ ∀ c ∈ w, c ∈ inside ∧ Text.isBlank c = false ∧ c ≠ ';' := by
  rw [ofInside, Definition.words_ofWords] at hw
  rcases Text.isInfix_of_mem_fields hw with ⟨hstands, hfree⟩
  refine ⟨Text.ne_nil_of_mem_fields hw, ?_⟩
  intro c hc
  have hmem : c ∈ inside.takeWhile (· != ';') := hstands.subset hc
  refine ⟨(List.takeWhile_sublist _).subset hmem, hfree c hc, ?_⟩
  simpa using List.all_eq_true.mp List.all_takeWhile c hmem

namespace Line

variable {cs : Charset}

/-- Prove a statement about texts and the lines they are cut into: for expressions, for a
definition with nothing behind it, and for a definition followed by a text for which the
statement holds. -/
theorem parse_induction {motive : Text → Line → Prop}
    (expression : ∀ text, ((cs.normalize text).dropWhile (· == ' ')).head? ≠ some ':' →
      motive text ⟨[], cs.tokenize text⟩)
    (last : ∀ text inside, (cs.normalize text).dropWhile (· == ' ') = ':' :: inside →
      (Clause.ofInside inside).rest.all Text.isBlank = true →
      motive text ⟨[(Clause.ofInside inside).definition], []⟩)
    (more : ∀ text inside, (cs.normalize text).dropWhile (· == ' ') = ':' :: inside →
      motive (Clause.ofInside inside).rest (parse cs (Clause.ofInside inside).rest) →
      motive text
        ⟨(Clause.ofInside inside).definition ::
            (parse cs (Clause.ofInside inside).rest).definitions,
          (parse cs (Clause.ofInside inside).rest).expression⟩)
    (text : Text) : motive text (parse cs text) := by
  by_cases hdef : ((cs.normalize text).dropWhile (· == ' ')).head? = some ':'
  · rcases List.head?_eq_some_iff.mp hdef with ⟨inside, hinside⟩
    rw [parse_of_definition hinside]
    by_cases hblank : (Clause.ofInside inside).rest.all Text.isBlank = true
    · rw [if_pos hblank]
      exact last text inside hinside hblank
    · have hlt := count_ofInside_rest_lt hinside hblank
      rw [if_neg hblank]
      exact more text inside hinside
        (parse_induction expression last more (Clause.ofInside inside).rest)
  · rw [parse_of_head?_ne hdef]
    exact expression text hdef
termination_by text.count ';'

/-- What stands after the colon of a text stands in its normal form. -/
theorem mem_normalize_of_mem_inside {text inside : Text}
    (h : (cs.normalize text).dropWhile (· == ' ') = ':' :: inside) {c : Char}
    (hc : c ∈ inside) : c ∈ cs.normalize text := by
  apply (List.dropWhile_sublist (· == ' ')).subset
  rw [h]
  exact List.mem_cons_of_mem ':' hc

/-- The words of the definitions of a line are not empty, and their characters stand in a normal
form and are neither blank nor semicolons. -/
theorem of_mem_definitions {P : Char → Prop} (hP : ∀ t, ∀ c ∈ cs.normalize t, P c)
    (text : Text) :
    ∀ definition ∈ (parse cs text).definitions, ∀ w ∈ definition.words,
      w ≠ [] ∧ ∀ c ∈ w, P c ∧ Text.isBlank c = false ∧ c ≠ ';' := by
  have hclause : ∀ {text inside : Text},
      (cs.normalize text).dropWhile (· == ' ') = ':' :: inside →
      ∀ w ∈ (Clause.ofInside inside).definition.words,
        w ≠ [] ∧ ∀ c ∈ w, P c ∧ Text.isBlank c = false ∧ c ≠ ';' := by
    intro text inside h w hw
    rcases Clause.of_mem_definition hw with ⟨hne, hchars⟩
    refine ⟨hne, ?_⟩
    intro c hc
    rcases hchars c hc with ⟨hmem, hfree⟩
    exact ⟨hP text c (mem_normalize_of_mem_inside h hmem), hfree⟩
  apply parse_induction (motive := fun _ line => ∀ definition ∈ line.definitions,
    ∀ w ∈ definition.words, w ≠ [] ∧ ∀ c ∈ w, P c ∧ Text.isBlank c = false ∧ c ≠ ';')
  case expression =>
    intro text _ definition hmem
    cases hmem
  case last =>
    intro text inside h _ definition hmem
    rw [List.mem_singleton.mp hmem]
    exact hclause h
  case more =>
    intro text inside h ih
    exact List.forall_mem_cons.mpr ⟨hclause h, ih⟩

/-- The words of the expression of a line are not empty, and their characters stand in a normal
form and are no spaces. -/
theorem of_mem_expression {P : Char → Prop} (hP : ∀ t, ∀ c ∈ cs.normalize t, P c)
    (text : Text) :
    ∀ w ∈ (parse cs text).expression, w ≠ [] ∧ ∀ c ∈ w, P c ∧ c ≠ ' ' := by
  apply parse_induction (motive := fun _ line => ∀ w ∈ line.expression,
    w ≠ [] ∧ ∀ c ∈ w, P c ∧ c ≠ ' ')
  case expression =>
    intro text _ w hw
    rcases Text.isInfix_of_mem_fields hw with ⟨hstands, hfree⟩
    refine ⟨Text.ne_nil_of_mem_fields hw, ?_⟩
    intro c hc
    exact ⟨hP text c (hstands.subset hc), by simpa using hfree c hc⟩
  case last =>
    intro text inside _ _ w hw
    cases hw
  case more =>
    intro text inside _ ih
    exact ih

/-- All words of a line are not empty, and their characters stand in a normal form. -/
theorem of_mem_words {P : Char → Prop} (hP : ∀ t, ∀ c ∈ cs.normalize t, P c) (text : Text) :
    ∀ w ∈ (parse cs text).words, w ≠ [] ∧ ∀ c ∈ w, P c := by
  intro w hw
  rw [words, List.mem_append, List.mem_flatMap] at hw
  rcases hw with ⟨definition, hdefinition, hw⟩ | hw
  · rcases of_mem_definitions hP text definition hdefinition w hw with ⟨hne, hchars⟩
    exact ⟨hne, fun c hc => (hchars c hc).1⟩
  · rcases of_mem_expression hP text w hw with ⟨hne, hchars⟩
    exact ⟨hne, fun c hc => (hchars c hc).1⟩

end Line

/-! ## Lines of one word -/

/-- The printable characters other than the space and the capitals: a word that is made of them
is its own normal form. -/
def Text.IsWordChar (c : Char) : Prop :=
  0x21 ≤ c.toNat ∧ c.toNat ≤ 0x7E ∧ c.isUpper = false

instance (c : Char) : Decidable (Text.IsWordChar c) :=
  inferInstanceAs (Decidable (_ ∧ _ ∧ _))

theorem Text.isWordChar_of_isDigit {c : Char} (h : c.isDigit = true) : IsWordChar c := by
  have hrange := Numeral.toNat_of_isDigit h
  exact ⟨by omega, by omega, isUpper_eq_false_of_lt (by omega)⟩

/-- A text of spaces and printable characters without capitals is in normal form. -/
theorem Charset.normalize_of_printable (cs : Charset) {t : Text}
    (h : ∀ c ∈ t, c = ' ' ∨ Text.IsWordChar c) : cs.normalize t = t := by
  apply cs.normalize_eq_self
  intro c hc
  rcases h c hc with rfl | ⟨hlo, hhi, hup⟩
  · exact ⟨rfl, rfl⟩
  · refine ⟨?_, hup⟩
    simp only [isPrintableAscii, Bool.and_eq_true, decide_eq_true_eq]
    omega

theorem Charset.normalize_word (cs : Charset) {w : Text} (h : ∀ c ∈ w, Text.IsWordChar c) :
    cs.normalize w = w :=
  cs.normalize_of_printable fun c hc => Or.inr (h c hc)

theorem Charset.tokenize_word (cs : Charset) {w : Text} (hne : w ≠ [])
    (h : ∀ c ∈ w, Text.IsWordChar c) : cs.tokenize w = [w] := by
  rw [tokenize, cs.normalize_word h]
  apply Text.words_eq_singleton hne
  intro hspace
  exact absurd (h ' ' hspace).1 (by decide)

/-- A line of one word that does not start with a colon is evaluated by running that word. -/
theorem Evaluator.eval_word (ev : Evaluator) {w : Text} (hne : w ≠ [])
    (h : ∀ c ∈ w, Text.IsWordChar c) (hcolon : w.head? ≠ some ':') :
    ev.eval w = ev.commit (runWords ev.primitives ev.words [w] ev.stack) := by
  have hwords : Text.words (ev.charset.normalize w) = [w] := ev.charset.tokenize_word hne h
  rw [eval_of_head?_ne, ev.charset.tokenize_word hne h]
  rw [Text.head?_dropWhile_space, hwords]
  exact hcolon

end EagerForth
