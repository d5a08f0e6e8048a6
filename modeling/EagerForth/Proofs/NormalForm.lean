import EagerForth.Charset
import EagerForth.Proofs.Words

/-!
# Normal forms and their words

How the normal form of a text comes together from those of its parts.  A separator, which is
the space or any character that is not accepted, becomes a space, and nothing on one side of
it has an influence on the other: a capital sigma is final or not by what stands up to the
next space.

Main results:

- Theorem {lit}`Charset.tokenize_append_separator`: a separator cuts a text into two texts
  whose words are read independently.
- Theorem {lit}`Charset.tokenize_congr_words`: the words of a normal form can be told from
  those of the text.
- Theorem {lit}`Charset.tokenize_congr_spelling`: they can be told from the text without its
  separators and with its ASCII capitals made small.
- Theorem {lit}`Charset.normalize_eq_self`: printable ASCII without capitals is in normal form.
- Theorem {lit}`Charset.Settled.normalize_eq_map`: for a settled character set, normal forms
  are made character by character.
- Theorem {lit}`Charset.Settled.normalize_normalize`: then normal forms do not change when
  they are read again.
-/

namespace EagerForth

namespace Text

/-! ## Lowercasing and spaces -/

/-- The context of a capital sigma does not reach beyond a space. -/
theorem startsCased_append_space (u v : Text) :
    startsCased (u ++ ' ' :: v) = startsCased u := by
  have hignorable : isCaseIgnorable ' ' = false := by decide +kernel
  have hcased : isCased ' ' = false := by decide +kernel
  unfold startsCased
  rw [List.find?_append]
  cases hfind : u.find? (! isCaseIgnorable ·) with
  | some c => rfl
  | none => simp [hignorable, hcased]

/-- What stands beyond a space before a text has no influence on its lowercase form. -/
theorem lowerAfter_append_space_before (before earlier t : Text) :
    lowerAfter (before ++ ' ' :: earlier) t = lowerAfter before t := by
  induction t generalizing before with
  | nil => rfl
  | cons c t ih =>
      rw [lowerAfter, lowerAfter, ← List.cons_append, ih]
      simp only [lowerChar, startsCased_append_space]

/-- A space cuts a text into two texts that are lowercased independently. -/
theorem lowerAfter_append_space (before u v : Text) :
    lowerAfter before (u ++ ' ' :: v) = lowerAfter before u ++ ' ' :: lowercase v := by
  induction u generalizing before with
  | nil =>
      have hspace : lowerChar before ' ' v = [' '] := rfl
      have hcut := lowerAfter_append_space_before [] before v
      rw [List.nil_append] at hcut
      change lowerChar before ' ' v ++ lowerAfter (' ' :: before) v = ' ' :: lowerAfter [] v
      rw [hspace, hcut]
      rfl
  | cons c u ih =>
      have hchar : lowerChar before c (u ++ ' ' :: v) = lowerChar before c u := by
        simp only [lowerChar, startsCased_append_space]
      rw [List.cons_append, lowerAfter, lowerAfter, hchar, ih, List.append_assoc]

/-! ## Lowercasing and ASCII capitals -/

theorem toLower_toLower (c : Char) : c.toLower.toLower = c.toLower := by
  apply toLower_of_not_isUpper
  intro hsmall
  by_cases hup : c.isUpper = true
  · have hlo := (toNat_of_isUpper hup).1
    have hhi := (toNat_of_isUpper hsmall).2
    have hlower := toNat_toLower_of_isUpper hup
    omega
  · rw [toLower_of_not_isUpper hup] at hsmall
    exact hup hsmall

/-- The two letters with a lowercase form of their own kind lie outside ASCII. -/
theorem lowerChar_of_ascii {c : Char} (hc : c.toNat < 128) (before rest : Text) :
    lowerChar before c rest = [c.toLower] := by
  have hne : ∀ d : Char, 128 ≤ d.toNat → c ≠ d := by
    rintro d hd rfl
    omega
  have hdot := hne 'İ' (by decide)
  have hsigma := hne 'Σ' (by decide)
  rw [lowerChar, if_neg hdot, if_neg hsigma, lowerLetter, if_pos hc]

/-- No range of case-ignorable characters meets the ASCII letters. -/
theorem last_lt_or_lt_first_of_mem_caseIgnorableRanges : ∀ r ∈ caseIgnorableRanges,
    r.last < 65 ∨ (90 < r.first ∧ r.last < 97) ∨ 122 < r.first := by
  decide +kernel

/-- The ASCII letters are cased and are not looked through. -/
theorem isCased_of_letter {c : Char}
    (hc : (65 ≤ c.toNat ∧ c.toNat ≤ 90) ∨ (97 ≤ c.toNat ∧ c.toNat ≤ 122)) :
    isCased c = true ∧ isCaseIgnorable c = false := by
  constructor
  · rcases hc with ⟨hlo, hhi⟩ | ⟨hlo, hhi⟩
    · have hmem : ⟨0x41, 0x5A⟩ ∈ casedRanges := .head _
      exact List.any_eq_true.mpr ⟨_, hmem, by simp [CodeRange.contains, hlo, hhi]⟩
    · have hmem : ⟨0x61, 0x7A⟩ ∈ casedRanges := .tail _ (.head _)
      exact List.any_eq_true.mpr ⟨_, hmem, by simp [CodeRange.contains, hlo, hhi]⟩
  · rw [isCaseIgnorable, CodeRange.anyContains, List.any_eq_false]
    intro r hr
    have hrange := last_lt_or_lt_first_of_mem_caseIgnorableRanges r hr
    simp only [CodeRange.contains, Bool.and_eq_true, decide_eq_true_eq]
    omega

/-- The ASCII letters agree in the properties that decide about a final sigma. -/
theorem isCased_and_isCaseIgnorable_toLower (c : Char) :
    isCased c.toLower = isCased c ∧ isCaseIgnorable c.toLower = isCaseIgnorable c := by
  by_cases hup : c.isUpper = true
  · have hc := toNat_of_isUpper hup
    have hlower := toNat_toLower_of_isUpper hup
    rcases isCased_of_letter (Or.inl hc) with ⟨hcased, hignorable⟩
    rcases isCased_of_letter (c := c.toLower) (by omega) with ⟨hcased', hignorable'⟩
    exact ⟨hcased'.trans hcased.symm, hignorable'.trans hignorable.symm⟩
  · rw [toLower_of_not_isUpper hup]
    exact ⟨rfl, rfl⟩

theorem startsCased_map_toLower (t : Text) :
    startsCased (t.map Char.toLower) = startsCased t := by
  induction t with
  | nil => rfl
  | cons c t ih =>
      rcases isCased_and_isCaseIgnorable_toLower c with ⟨hcased, hignorable⟩
      simp only [startsCased, List.map_cons] at ih ⊢
      by_cases hc : isCaseIgnorable c = true
      · rw [List.find?_cons_of_neg (by simp [hignorable, hc]),
          List.find?_cons_of_neg (by simp [hc]), ih]
      · rw [List.find?_cons_of_pos (by simp [hignorable, hc]),
          List.find?_cons_of_pos (by simp [hc])]
        exact hcased

theorem lowerChar_map_toLower (before : Text) (c : Char) (rest : Text) :
    lowerChar (before.map Char.toLower) c.toLower (rest.map Char.toLower) =
      lowerChar before c rest := by
  by_cases hup : c.isUpper = true
  · have hhi := (toNat_of_isUpper hup).2
    have hlower := toNat_toLower_of_isUpper hup
    rw [lowerChar_of_ascii (by omega), lowerChar_of_ascii (by omega), toLower_toLower]
  · unfold lowerChar
    rw [startsCased_map_toLower, startsCased_map_toLower, toLower_of_not_isUpper hup]

/-- Making the ASCII capitals small first does not change the lowercase form of a text. -/
theorem lowerAfter_map_toLower (before t : Text) :
    lowerAfter (before.map Char.toLower) (t.map Char.toLower) = lowerAfter before t := by
  induction t generalizing before with
  | nil => rfl
  | cons c t ih =>
      have hrest := ih (c :: before)
      rw [List.map_cons] at hrest
      rw [List.map_cons, lowerAfter, lowerAfter, lowerChar_map_toLower, hrest]

/-! ## Characters that are their own lowercase -/

/-- A character that is its own lowercase form is so in every context, and no ASCII
capital. -/
theorem lowerChar_of_lowercase_eq {c : Char} (h : lowercase [c] = [c]) (before rest : Text) :
    lowerChar before c rest = [c.toLower] ∧ c.toLower = c := by
  have hchar : lowerChar [] c [] = [c] := by simpa [lowercase, lowerAfter] using h
  have hdot : c ≠ 'İ' := by
    rintro rfl
    exact absurd hchar (by decide)
  have hsigma : c ≠ 'Σ' := by
    rintro rfl
    exact absurd hchar (by decide)
  have hletter : lowerLetter c = c := by
    simpa [lowerChar, hdot, hsigma] using hchar
  have hlower : c.toLower = c := by
    by_cases hup : c.isUpper = true
    · rcases toNat_of_isUpper hup with ⟨-, hhi⟩
      rwa [lowerLetter, if_pos (by omega)] at hletter
    · exact toLower_of_not_isUpper hup
  refine ⟨?_, hlower⟩
  simp only [lowerChar, hdot, hsigma, if_false, hletter, hlower]

/-- The characters before the letters are no capitals. -/
theorem isUpper_eq_false_of_lt {c : Char} (hc : c.toNat < 65) : c.isUpper = false := by
  by_contra hup
  have hlo := (toNat_of_isUpper (by simpa using hup)).1
  omega

/-- ASCII text without capitals stays as it is in front of any text. -/
theorem lowerAfter_append_of_ascii {u : Text}
    (h : ∀ c ∈ u, c.toNat < 128 ∧ c.isUpper = false) (before t : Text) :
    lowerAfter before (u ++ t) = u ++ lowerAfter (u.reverse ++ before) t := by
  induction u generalizing before with
  | nil => rfl
  | cons c u ih =>
      rcases List.forall_mem_cons.mp h with ⟨⟨hascii, hup⟩, hu⟩
      rw [List.cons_append, lowerAfter, lowerChar_of_ascii hascii,
        toLower_of_not_isUpper (by simp [hup]), ih hu, List.reverse_cons, List.append_assoc]
      rfl

end Text

namespace Charset

/-- Printable ASCII without capitals is in normal form, whatever else is accepted. -/
theorem normalize_eq_self (cs : Charset) {t : Text}
    (h : ∀ c ∈ t, isPrintableAscii c = true ∧ c.isUpper = false) : cs.normalize t = t := by
  have hblank : cs.blankOut t = t := by
    rw [blankOut, List.map_congr_left (g := id), List.map_id]
    intro c hc
    simp [accepts, (h c hc).1]
  have hascii : ∀ c ∈ t, c.toNat < 128 ∧ c.isUpper = false := by
    intro c hc
    rcases h c hc with ⟨hprintable, hup⟩
    simp only [isPrintableAscii, Bool.and_eq_true, decide_eq_true_eq] at hprintable
    exact ⟨by omega, hup⟩
  have hlower := Text.lowerAfter_append_of_ascii hascii [] []
  rw [List.append_nil, Text.lowerAfter, List.append_nil] at hlower
  rw [normalize, hblank, Text.lowercase, hlower]

/-! ## Separators -/

/-- The characters that become a space: the space itself and all that are not accepted. -/
def separates (cs : Charset) (c : Char) : Bool :=
  c == ' ' || ! cs.accepts c

/-- A separator cuts a text into two texts whose normal forms are made independently. -/
theorem normalize_append_separator (cs : Charset) (a b : Text) {c : Char}
    (hc : cs.separates c = true) :
    cs.normalize (a ++ c :: b) = cs.normalize a ++ ' ' :: cs.normalize b := by
  have hblank : cs.blankOut (a ++ c :: b) = cs.blankOut a ++ ' ' :: cs.blankOut b := by
    rw [blankOut_append]
    congr 1
    simp only [separates, Bool.or_eq_true, beq_iff_eq, Bool.not_eq_true'] at hc
    rcases hc with rfl | hc
    · simp [blankOut]
    · simp [blankOut, hc]
  rw [normalize, hblank]
  exact Text.lowerAfter_append_space [] _ _

/-- A separator cuts a text into two texts whose words are read independently. -/
theorem tokenize_append_separator (cs : Charset) (a b : Text) {c : Char}
    (hc : cs.separates c = true) :
    cs.tokenize (a ++ c :: b) = cs.tokenize a ++ cs.tokenize b := by
  rw [tokenize, normalize_append_separator cs a b hc, Text.words_append_space]
  rfl

/-- The words of a normal form can be told from those of the text. -/
theorem tokenize_congr_words (cs : Charset) {s t : Text} (h : Text.words s = Text.words t) :
    cs.tokenize s = cs.tokenize t := by
  have hwords : ∀ u : Text, cs.tokenize u = (Text.words u).flatMap cs.tokenize := by
    apply Text.eq_flatMap_fields
    · rfl
    · intro a b c hc
      exact cs.tokenize_append_separator a b (by simp only [separates, hc, Bool.true_or])
  rw [hwords s, hwords t, h]

/-! ## Spelling -/

/-- The pieces of a text between separators, with ASCII capitals made small: all of a text
but its layout. -/
def spelling (cs : Charset) (t : Text) : List Text :=
  (Text.fields cs.separates t).map (·.map Char.toLower)

/-- An ASCII capital and its small letter are accepted by every character set. -/
theorem accepts_of_isUpper (cs : Charset) {c : Char} (hup : c.isUpper = true) :
    cs.accepts c = true ∧ cs.accepts c.toLower = true := by
  rcases Text.toNat_of_isUpper hup with ⟨hlo, hhi⟩
  have hlower := Text.toNat_toLower_of_isUpper hup
  constructor <;> simp [accepts, isPrintableAscii] <;> omega

/-- Making the ASCII capitals of a text small does not change its normal form. -/
theorem normalize_map_toLower (cs : Charset) (t : Text) :
    cs.normalize (t.map Char.toLower) = cs.normalize t := by
  have hblank : cs.blankOut (t.map Char.toLower) = (cs.blankOut t).map Char.toLower := by
    simp only [blankOut, List.map_map]
    apply List.map_congr_left
    intro c _
    by_cases hup : c.isUpper = true
    · simp [cs.accepts_of_isUpper hup]
    · by_cases hc : cs.accepts c = true
      · simp [Text.toLower_of_not_isUpper hup, hc]
      · have hspace : ' '.toLower = ' ' := by decide
        simp [Text.toLower_of_not_isUpper hup, hc, hspace]
  rw [normalize, hblank]
  exact Text.lowerAfter_map_toLower [] _

/-- The words of a normal form can be told from the spelling of the text. -/
theorem tokenize_congr_spelling (cs : Charset) {s t : Text}
    (h : cs.spelling s = cs.spelling t) : cs.tokenize s = cs.tokenize t := by
  have hspelling : ∀ u : Text, cs.tokenize u = (cs.spelling u).flatMap cs.tokenize := by
    intro u
    have hfields := Text.eq_flatMap_fields cs.separates cs.tokenize rfl
      (fun a b c hc => cs.tokenize_append_separator a b hc) u
    rw [hfields, spelling, List.flatMap_map]
    congr 1
    funext w
    rw [tokenize, tokenize, normalize_map_toLower]
  rw [hspelling s, hspelling t, h]

/-! ## Blank characters -/

/-- A character that is accepted and blank is the space, if no other blank is added to printable
ASCII. -/
theorem eq_space_of_accepts {cs : Charset}
    (h : ∀ c ∈ cs.extra, Text.isBlank c = true → c = ' ') {c : Char}
    (hc : cs.accepts c = true) (hblank : Text.isBlank c = true) : c = ' ' := by
  simp only [accepts, Bool.or_eq_true, List.contains_iff_mem] at hc
  rcases hc with hascii | hextra
  · simp only [isPrintableAscii, Bool.and_eq_true, decide_eq_true_eq] at hascii
    by_contra hne
    have hcode : c.toNat ≠ 0x20 := fun heq => hne (Char.ext (UInt32.toNat_inj.mp heq))
    rw [Text.isBlank_eq_false_of_printable (by omega) hascii.2] at hblank
    cases hblank
  · exact h c hextra hblank

/-! ## Settled character sets -/

/-- A character set is settled when the characters it adds are their own lowercase forms, and
none of them is blank but the space. -/
structure Settled (cs : Charset) : Prop where
  lowercase_eq : ∀ c ∈ cs.extra, Text.lowercase [c] = [c]
  eq_space : ∀ c ∈ cs.extra, Text.isBlank c = true → c = ' '

theorem settled_plain : plain.Settled := by
  constructor
  · intro c hc
    cases hc
  · intro c hc
    cases hc

theorem settled_legacy : legacy.Settled := by
  constructor
  · intro c hc
    rw [List.mem_singleton.mp hc]
    decide +kernel
  · intro c hc hblank
    rw [List.mem_singleton.mp hc] at hblank
    exact absurd hblank (by decide)

/-- What a settled character set makes of a single character. -/
def normalChar (cs : Charset) (c : Char) : Char :=
  if cs.accepts c then c.toLower else ' '

namespace Settled

variable {cs : Charset}

/-- An accepted character is lowercased as in ASCII, and the result is accepted. -/
theorem lowerChar_of_accepts (hcs : cs.Settled) {c : Char} (hc : cs.accepts c = true)
    (before rest : Text) :
    Text.lowerChar before c rest = [c.toLower] ∧ cs.accepts c.toLower = true := by
  have hc' := hc
  simp only [accepts, Bool.or_eq_true, List.contains_iff_mem] at hc'
  rcases hc' with hascii | hextra
  · simp only [isPrintableAscii, Bool.and_eq_true, decide_eq_true_eq] at hascii
    constructor
    · exact Text.lowerChar_of_ascii (by omega) before rest
    · by_cases hup : c.isUpper = true
      · exact (cs.accepts_of_isUpper hup).2
      · rwa [Text.toLower_of_not_isUpper hup]
  · rcases Text.lowerChar_of_lowercase_eq (hcs.lowercase_eq c hextra) before rest with
      ⟨hchar, hlower⟩
    refine ⟨hchar, ?_⟩
    rwa [hlower]

/-- A text of accepted characters is lowercased character by character, whatever stands before
it. -/
theorem lowerAfter_eq_map (hcs : cs.Settled) (before : Text) {t : Text}
    (ht : ∀ c ∈ t, cs.accepts c = true) :
    Text.lowerAfter before t = t.map Char.toLower := by
  induction t generalizing before with
  | nil => rfl
  | cons c t ih =>
      rcases List.forall_mem_cons.mp ht with ⟨hc, hrest⟩
      rw [Text.lowerAfter, (hcs.lowerChar_of_accepts hc before t).1, ih _ hrest]
      rfl

/-- For a settled character set, normal forms are made character by character. -/
theorem normalize_eq_map (hcs : cs.Settled) (t : Text) :
    cs.normalize t = t.map cs.normalChar := by
  have haccepts : ∀ c ∈ cs.blankOut t, cs.accepts c = true := by
    intro c hc
    rcases List.mem_map.mp hc with ⟨d, -, rfl⟩
    by_cases hd : cs.accepts d = true
    · rwa [if_pos hd]
    · rw [if_neg hd]
      rfl
  rw [normalize, Text.lowercase, hcs.lowerAfter_eq_map [] haccepts, blankOut, List.map_map]
  apply List.map_congr_left
  intro c _
  simp only [Function.comp, normalChar]
  split <;> rfl

/-- The characters of a normal form are accepted. -/
theorem accepts_of_mem_normalize (hcs : cs.Settled) {t : Text} {c : Char}
    (hc : c ∈ cs.normalize t) : cs.accepts c = true := by
  rw [hcs.normalize_eq_map] at hc
  rcases List.mem_map.mp hc with ⟨d, -, rfl⟩
  unfold normalChar
  split
  · next hd => exact (hcs.lowerChar_of_accepts hd [] []).2
  · rfl

/-- Normal forms do not change when they are read again. -/
theorem normalize_normalize (hcs : cs.Settled) (t : Text) :
    cs.normalize (cs.normalize t) = cs.normalize t := by
  have hchar : ∀ c, cs.normalChar (cs.normalChar c) = cs.normalChar c := by
    intro c
    by_cases hc : cs.accepts c = true
    · have hlower := (hcs.lowerChar_of_accepts hc [] []).2
      simp only [normalChar, hc, hlower, if_true, Text.toLower_toLower]
    · simp only [normalChar, hc]
      rfl
  rw [hcs.normalize_eq_map, hcs.normalize_eq_map, List.map_map]
  apply List.map_congr_left
  intro c _
  exact hchar c

/-- The only blank character of a normal form is the space. -/
theorem eq_space_of_mem_normalize (hcs : cs.Settled) {t : Text} {c : Char}
    (hc : c ∈ cs.normalize t) (hblank : Text.isBlank c = true) : c = ' ' :=
  eq_space_of_accepts hcs.eq_space (hcs.accepts_of_mem_normalize hc) hblank

end Settled

end Charset

end EagerForth
