import EagerForth.Proofs.LineWords

/-!
# Normal forms that are read again

The text behind a definition has been brought into normal form once and is brought into normal
form again.  Lowercasing for the second time does nothing, since lowercase forms have no
capitals left in them, so the second reading can only blank out.  It blanks out what lowercasing
has made of the accepted characters and what is not accepted itself; so it is harmless exactly
for character sets that accept the lowercase forms of their own characters.

Main results:

- Theorem {lit}`Text.CaseRun.not_covers_lower`: no mapping of the case table leads to a letter
  that the table maps further.
- Theorem {lit}`Text.CanBecome.lowercase_eq`: a lowercase form is its own lowercase form.
- Theorem {lit}`Text.exists_canBecome_of_mem_lowerAfter`: the characters of a lowercased text
  are lowercase forms of its characters.
- Theorem {lit}`Text.CanBecome.mem_lowercase`: every lowercase form of a character occurs in the
  lowercase form of a text of at most two characters.
- Theorem {lit}`Charset.normalize_normalize_eq_blankOut`: reading for the second time only
  blanks out.
- Theorem {lit}`Charset.normalize_stable_iff`: for which character sets it does nothing.
-/

namespace EagerForth

namespace Text

/-! ## The images of the case table -/

/-- A set of numbers as a binary number that has a one at the place of each of them. -/
def placesOf (ns : List Nat) : Nat :=
  ns.foldr (fun n places => 1 <<< n ||| places) 0

theorem testBit_placesOf (ns : List Nat) (n : Nat) :
    (placesOf ns).testBit n = true ↔ n ∈ ns := by
  induction ns with
  | nil => simp [placesOf]
  | cons m ns ih =>
      have hcons : placesOf (m :: ns) = 1 <<< m ||| placesOf ns := rfl
      rw [hcons, Nat.testBit_or, Bool.or_eq_true, ih, Nat.one_shiftLeft, Nat.testBit_two_pow,
        decide_eq_true_eq, List.mem_cons, eq_comm]

/-- Sets without a common place have no common number. -/
theorem not_mem_of_places {ms ns : List Nat} (h : placesOf ms &&& placesOf ns = 0) {n : Nat}
    (hm : n ∈ ms) : n ∉ ns := by
  intro hn
  have hboth : (placesOf ms &&& placesOf ns).testBit n = true := by
    rw [Nat.testBit_and, (testBit_placesOf ms n).mpr hm, (testBit_placesOf ns n).mpr hn]
    rfl
  rw [h, Nat.zero_testBit] at hboth
  cases hboth

namespace CaseRun

/-- The letters of a run. -/
def letters (r : CaseRun) : List Nat :=
  List.range' r.first ((r.last - r.first) / r.step + 1) r.step

theorem mem_letters {r : CaseRun} {n : Nat} (h : r.covers n = true) : n ∈ r.letters := by
  simp only [covers, Bool.and_eq_true, decide_eq_true_eq, beq_iff_eq] at h
  obtain ⟨⟨hfirst, hlast⟩, hstep⟩ := h
  rw [letters, List.mem_range']
  refine ⟨(n - r.first) / r.step, ?_, ?_⟩
  · exact Nat.lt_succ_of_le (Nat.div_le_div_right (Nat.sub_le_sub_right hlast _))
  · have hdiv := Nat.div_add_mod (n - r.first) r.step
    omega

/-- The letters of the table and the capital I with a dot, against the images of the table.  As
sets of places they are compared at once; comparing all pairs of runs would take long. -/
theorem places_letters_and_images :
    placesOf (0x130 :: lowerRuns.flatMap letters) &&&
      placesOf (lowerRuns.flatMap fun r => r.letters.map r.lower) = 0 := by
  decide +kernel

/-- No mapping of the table leads to a letter that the table maps further, or to the capital I
with a dot. -/
theorem not_covers_lower {r : CaseRun} (hr : r ∈ lowerRuns) {n : Nat}
    (hn : r.covers n = true) :
    r.lower n ≠ 0x130 ∧ ∀ other ∈ lowerRuns, other.covers (r.lower n) = false := by
  have himage : r.lower n ∈ lowerRuns.flatMap fun r => r.letters.map r.lower :=
    List.mem_flatMap.mpr ⟨r, hr, List.mem_map.mpr ⟨n, mem_letters hn, rfl⟩⟩
  constructor
  · intro hdotted
    apply not_mem_of_places places_letters_and_images _ himage
    rw [hdotted]
    exact List.mem_cons_self
  · intro other hother
    rw [← Bool.not_eq_true]
    intro hcovers
    apply not_mem_of_places places_letters_and_images _ himage
    exact List.mem_cons_of_mem _ (List.mem_flatMap.mpr ⟨other, hother, mem_letters hcovers⟩)

end CaseRun

/-! ## Lowercase forms of single characters -/

/-- A character that is at least `a` and that the table does not map is its own simple lowercase
form. -/
theorem lowerLetter_eq_self {c : Char} (hle : 97 ≤ c.toNat)
    (hfree : 128 ≤ c.toNat → ∀ r ∈ lowerRuns, r.covers c.toNat = false) : lowerLetter c = c := by
  rcases lowerLetter_cases c with hsame | ⟨hup, -⟩ | ⟨hge, r, hr, hcov, -⟩
  · exact hsame
  · have hrange := toNat_of_isUpper hup
    omega
  · rw [hfree hge r hr] at hcov
    cases hcov

/-- A simple lowercase form is its own simple lowercase form, and it is the capital I with a dot
for that letter only. -/
theorem lowerLetter_lowerLetter (c : Char) :
    lowerLetter (lowerLetter c) = lowerLetter c ∧ (lowerLetter c = 'İ' → c = 'İ') := by
  have hdotted : 'İ'.toNat = 0x130 := rfl
  rcases lowerLetter_cases c with hsame | ⟨hup, hcode⟩ | ⟨-, r, hr, hcov, hcode⟩
  · rw [hsame]
    exact ⟨hsame, id⟩
  · have hrange := toNat_of_isUpper hup
    constructor
    · apply lowerLetter_eq_self
      · omega
      · intro hge
        omega
    · intro heq
      rw [heq] at hcode
      omega
  · have hle := (CaseRun.image_valid_of_mem_lowerRuns hr hcov).1
    obtain ⟨hne, hfree⟩ := CaseRun.not_covers_lower hr hcov
    rw [← hcode] at hle hne hfree
    constructor
    · exact lowerLetter_eq_self hle fun _ => hfree
    · intro heq
      rw [heq] at hne
      exact absurd hdotted hne

/-- A character can become another when it does so in the lowercase form of some text. -/
def CanBecome (c d : Char) : Prop :=
  ∃ before rest, d ∈ lowerChar before c rest

/-- The capital I with a dot becomes two characters. -/
theorem canBecome_dotted_iff (d : Char) : CanBecome 'İ' d ↔ d = 'i' ∨ d = '\u0307' := by
  simp [CanBecome, lowerChar]

/-- The capital sigma becomes a final sigma at the end of a word. -/
theorem canBecome_sigma_iff (d : Char) : CanBecome 'Σ' d ↔ d = 'σ' ∨ d = 'ς' := by
  constructor
  · rintro ⟨before, rest, hd⟩
    rw [lowerChar, if_neg (by decide), if_pos rfl] at hd
    split at hd
    · exact Or.inr (List.mem_singleton.mp hd)
    · exact Or.inl (List.mem_singleton.mp hd)
  · rintro (rfl | rfl)
    · exact ⟨[], [], by decide +kernel⟩
    · exact ⟨['a'], [], by decide +kernel⟩

/-- Any other character becomes its simple lowercase form. -/
theorem canBecome_iff {c : Char} (hdotted : c ≠ 'İ') (hsigma : c ≠ 'Σ') (d : Char) :
    CanBecome c d ↔ d = lowerLetter c := by
  simp [CanBecome, lowerChar, hdotted, hsigma]

theorem lowercase_singleton {c : Char} (hdotted : c ≠ 'İ') (hsigma : c ≠ 'Σ') :
    lowercase [c] = [lowerLetter c] := by
  simp [lowercase, lowerAfter, lowerChar, hdotted, hsigma]

/-- A lowercase form is its own lowercase form. -/
theorem CanBecome.lowercase_eq {c d : Char} (h : CanBecome c d) : lowercase [d] = [d] := by
  by_cases hdotted : c = 'İ'
  · subst hdotted
    rcases (canBecome_dotted_iff d).mp h with rfl | rfl
    · decide +kernel
    · decide +kernel
  by_cases hsigma : c = 'Σ'
  · subst hsigma
    rcases (canBecome_sigma_iff d).mp h with rfl | rfl
    · decide +kernel
    · decide +kernel
  obtain rfl := (canBecome_iff hdotted hsigma d).mp h
  obtain ⟨hsame, honly⟩ := lowerLetter_lowerLetter c
  have hsigma' : lowerLetter c ≠ 'Σ' := by
    -- The capital sigma is not its own simple lowercase form.
    intro heq
    rw [heq] at hsame
    exact absurd hsame (by decide +kernel)
  rw [lowercase_singleton (fun heq => hdotted (honly heq)) hsigma', hsame]

/-- Every lowercase form of a character occurs in that of a text of at most two characters: a
capital sigma is final behind another letter. -/
theorem CanBecome.mem_lowercase {c d : Char} (h : CanBecome c d) :
    d ∈ lowercase [c] ∨ d ∈ lowercase ['a', c] := by
  by_cases hdotted : c = 'İ'
  · subst hdotted
    rcases (canBecome_dotted_iff d).mp h with rfl | rfl
    · exact Or.inl (by decide +kernel)
    · exact Or.inl (by decide +kernel)
  by_cases hsigma : c = 'Σ'
  · subst hsigma
    rcases (canBecome_sigma_iff d).mp h with rfl | rfl
    · exact Or.inl (by decide +kernel)
    · exact Or.inr (by decide +kernel)
  rw [lowercase_singleton hdotted hsigma, (canBecome_iff hdotted hsigma d).mp h]
  exact Or.inl (List.mem_singleton_self _)

/-! ## Lowercase forms of texts -/

/-- The characters of a lowercased text are lowercase forms of its characters. -/
theorem exists_canBecome_of_mem_lowerAfter {before t : Text} {d : Char}
    (hd : d ∈ lowerAfter before t) : ∃ c ∈ t, CanBecome c d := by
  induction t generalizing before with
  | nil => cases hd
  | cons c t ih =>
      rw [lowerAfter, List.mem_append] at hd
      rcases hd with hfirst | hrest
      · exact ⟨c, List.mem_cons_self, before, t, hfirst⟩
      · obtain ⟨e, he, hbecome⟩ := ih hrest
        exact ⟨e, List.mem_cons_of_mem c he, hbecome⟩

/-- A text of characters that are their own lowercase forms is its own lowercase form, whatever
stands before it. -/
theorem lowerAfter_eq_self {t : Text} (h : ∀ c ∈ t, lowercase [c] = [c]) (before : Text) :
    lowerAfter before t = t := by
  induction t generalizing before with
  | nil => rfl
  | cons c t ih =>
      obtain ⟨hc, ht⟩ := List.forall_mem_cons.mp h
      obtain ⟨hchar, hlower⟩ := lowerChar_of_lowercase_eq hc before t
      rw [lowerAfter, hchar, hlower, ih ht, List.singleton_append]

end Text

/-! ## The second reading -/

namespace Charset

/-- Exactly the texts of accepted characters have nothing to blank out. -/
theorem blankOut_eq_self_iff (cs : Charset) (t : Text) :
    cs.blankOut t = t ↔ ∀ c ∈ t, cs.accepts c = true := by
  constructor
  · intro h c hc
    rw [← h] at hc
    exact accepts_of_mem_blankOut hc
  · intro h
    rw [blankOut, List.map_congr_left (g := id), List.map_id]
    intro c hc
    rw [if_pos (h c hc), id]

/-- The characters of a normal form are their own lowercase forms. -/
theorem lowercase_eq_of_mem_normalize {cs : Charset} {t : Text} {d : Char}
    (hd : d ∈ cs.normalize t) : Text.lowercase [d] = [d] := by
  obtain ⟨c, -, hbecome⟩ := Text.exists_canBecome_of_mem_lowerAfter hd
  exact hbecome.lowercase_eq

/-- Reading a normal form again only blanks out. -/
theorem normalize_normalize_eq_blankOut (cs : Charset) (t : Text) :
    cs.normalize (cs.normalize t) = cs.blankOut (cs.normalize t) := by
  apply Text.lowerAfter_eq_self
  intro c hc
  obtain ⟨d, hd, rfl⟩ := List.mem_map.mp hc
  split
  · exact lowercase_eq_of_mem_normalize hd
  · decide

/-- A normal form stays as it is exactly when its characters are accepted. -/
theorem normalize_normalize_eq_iff (cs : Charset) (t : Text) :
    cs.normalize (cs.normalize t) = cs.normalize t ↔
      ∀ c ∈ cs.normalize t, cs.accepts c = true := by
  rw [normalize_normalize_eq_blankOut, blankOut_eq_self_iff]

/-- What an accepted ASCII character becomes is accepted. -/
theorem accepts_of_canBecome_ascii (cs : Charset) {c d : Char}
    (hc : isPrintableAscii c = true) (h : Text.CanBecome c d) : cs.accepts d = true := by
  obtain ⟨before, rest, hd⟩ := h
  simp only [isPrintableAscii, Bool.and_eq_true, decide_eq_true_eq] at hc
  rw [Text.lowerChar_of_ascii (by omega), List.mem_singleton] at hd
  subst hd
  by_cases hup : c.isUpper = true
  · exact (cs.accepts_of_isUpper hup).2
  · rw [Text.toLower_of_not_isUpper hup]
    simp [accepts, isPrintableAscii, hc]

/-- Everything that an accepted character can become occurs in a normal form. -/
theorem exists_mem_normalize {cs : Charset} {c d : Char} (hc : cs.accepts c = true)
    (h : Text.CanBecome c d) : ∃ t, d ∈ cs.normalize t := by
  have ha : cs.accepts 'a' = true := rfl
  have hone : cs.blankOut [c] = [c] := by simp [blankOut, hc]
  have htwo : cs.blankOut ['a', c] = ['a', c] := by simp [blankOut, hc, ha]
  rcases h.mem_lowercase with hd | hd
  · exact ⟨[c], by rwa [normalize, hone]⟩
  · exact ⟨['a', c], by rwa [normalize, htwo]⟩

/-- Reading twice is harmless for exactly those character sets that accept everything that
lowercasing can make of the characters they add.  That is both sigmas for the capital sigma, both
characters for the capital I with a dot, and the one lowercase form for any other character. -/
theorem normalize_stable_iff (cs : Charset) :
    ((∀ t, cs.normalize (cs.normalize t) = cs.normalize t) ↔
        ∀ c ∈ cs.extra, ∀ d, Text.CanBecome c d → isPrintableAscii d = true ∨ d ∈ cs.extra) ∧
      (∀ d, Text.CanBecome 'Σ' d ↔ d = 'σ' ∨ d = 'ς') ∧
      (∀ d, Text.CanBecome 'İ' d ↔ d = 'i' ∨ d = '\u0307') ∧
      ∀ c, c ≠ 'İ' → c ≠ 'Σ' → ∀ d, Text.CanBecome c d ↔ Text.lowercase [c] = [d] := by
  have haccepts : ∀ d, cs.accepts d = true ↔ isPrintableAscii d = true ∨ d ∈ cs.extra := by
    intro d
    rw [accepts, Bool.or_eq_true, List.contains_iff_mem]
  refine ⟨?_, Text.canBecome_sigma_iff, Text.canBecome_dotted_iff, ?_⟩
  · simp only [normalize_normalize_eq_iff, ← haccepts]
    constructor
    · intro hstable c hc d hbecome
      obtain ⟨t, hd⟩ := exists_mem_normalize ((haccepts c).mpr (Or.inr hc)) hbecome
      exact hstable t d hd
    · intro hclosed t d hd
      obtain ⟨c, hc, hbecome⟩ := Text.exists_canBecome_of_mem_lowerAfter hd
      rcases (haccepts c).mp (accepts_of_mem_blankOut hc) with hascii | hextra
      · exact cs.accepts_of_canBecome_ascii hascii hbecome
      · exact hclosed c hextra d hbecome
  · intro c hdotted hsigma d
    rw [Text.canBecome_iff hdotted hsigma, Text.lowercase_singleton hdotted hsigma,
      List.singleton_inj, eq_comm]

/-- A character set with all three sigmas can be read twice, one without the final sigma cannot,
and the Kelvin sign, an ordinary letter, becomes a small k. -/
theorem normalize_stable_iff_sigmas :
    (∀ t, (Charset.mk ['Σ', 'σ', 'ς']).normalize ((Charset.mk ['Σ', 'σ', 'ς']).normalize t) =
        (Charset.mk ['Σ', 'σ', 'ς']).normalize t) ∧
      (¬ ∀ t, (Charset.mk ['Σ', 'σ']).normalize ((Charset.mk ['Σ', 'σ']).normalize t) =
        (Charset.mk ['Σ', 'σ']).normalize t) ∧
      Text.CanBecome '\u212a' 'k' := by
  refine ⟨?_, ?_, ?_⟩
  · apply (normalize_stable_iff (Charset.mk ['Σ', 'σ', 'ς'])).1.mpr
    intro c hc d hbecome
    simp only [List.mem_cons, List.not_mem_nil, or_false] at hc ⊢
    rcases hc with rfl | rfl | rfl
    · rcases (Text.canBecome_sigma_iff d).mp hbecome with rfl | rfl
      · simp
      · simp
    · rw [Text.canBecome_iff (by decide) (by decide)] at hbecome
      subst hbecome
      decide +kernel
    · rw [Text.canBecome_iff (by decide) (by decide)] at hbecome
      subst hbecome
      decide +kernel
  · intro hstable
    have hclosed := (normalize_stable_iff (Charset.mk ['Σ', 'σ'])).1.mp hstable
    have hfinal := hclosed 'Σ' (by decide) 'ς' ((Text.canBecome_sigma_iff 'ς').mpr (Or.inr rfl))
    exact absurd hfinal (by decide)
  · exact ((normalize_stable_iff .plain).2.2.2 '\u212a' (by decide) (by decide) 'k').mpr
      (by decide +kernel)

end Charset

end EagerForth
