import EagerForth.Text.Basic
import EagerForth.Text.CaseTable

/-!
# Lowercase

Full Unicode lowercasing of a text.  Two letters need more than the table of simple
mappings: the capital I with a dot becomes two characters, and the capital sigma becomes a
final sigma at the end of a word, which depends on the characters around it.

Main results:

- Theorem {lit}`Text.lowerLetter_cases`: where the simple lowercase form of a character comes
  from.
- Theorem {lit}`Text.lowerChar_eq_or_le`: a lowercased character yields itself alone or
  characters that are at least the letter {lit}`a`.
- Theorem {lit}`Text.count_lowercase`: a character below the letter {lit}`a` that is no
  capital occurs in the lowercased text exactly as often as in the text.
-/

namespace EagerForth

namespace Text

/-! ## Single characters -/

/-- The simple lowercase form of a character. -/
def lowerLetter (c : Char) : Char :=
  if c.toNat < 128 then c.toLower
  else match lowerRuns.find? (·.covers c.toNat) with
    | some r => Char.ofNat (r.lower c.toNat)
    | none => c

/-- A character with a case, those that case context looks through apart. -/
def isCased (c : Char) : Bool :=
  CodeRange.anyContains casedRanges c

/-- A character that case context looks through. -/
def isCaseIgnorable (c : Char) : Bool :=
  CodeRange.anyContains caseIgnorableRanges c

/-- Whether the first character that case context does not look through is cased. -/
def startsCased (t : Text) : Bool :=
  match t.find? (! isCaseIgnorable ·) with
  | some c => isCased c
  | none => false

/-- The lowercase form of a character that stands after the characters {lit}`before`, nearest
first, and before the text {lit}`rest`.  A capital sigma is final when it follows a cased
letter and no cased letter follows it. -/
def lowerChar (before : Text) (c : Char) (rest : Text) : Text :=
  if c = 'İ' then ['i', '\u0307']
  else if c = 'Σ' then
    if startsCased before && !startsCased rest then ['ς'] else ['σ']
  else [lowerLetter c]

/-! ## Texts -/

/-- The lowercase form of a text that follows the characters {lit}`before`, nearest first. -/
def lowerAfter (before : Text) : Text → Text
  | [] => []
  | c :: rest => lowerChar before c rest ++ lowerAfter (c :: before) rest

/-- The lowercase form of a text. -/
def lowercase (t : Text) : Text :=
  lowerAfter [] t

/-- An empty text is its own lowercase form. -/
@[simp]
theorem lowercase_nil : lowercase [] = [] :=
  rfl

/-! ## What lowercasing can produce -/

/-- The scalar values of the ASCII capitals. -/
theorem toNat_of_isUpper {c : Char} (hup : c.isUpper = true) :
    65 ≤ c.toNat ∧ c.toNat ≤ 90 := by
  have hcond : 'A'.val ≤ c.val ∧ c.val ≤ 'Z'.val := of_decide_eq_true hup
  exact ⟨UInt32.le_iff_toNat_le.mp hcond.1, UInt32.le_iff_toNat_le.mp hcond.2⟩

/-- An ASCII capital lies 32 places before its lowercase form. -/
theorem toNat_toLower_of_isUpper {c : Char} (hup : c.isUpper = true) :
    c.toLower.toNat = c.toNat + 32 := by
  have hle := (toNat_of_isUpper hup).2
  have hcond : 'A'.val ≤ c.val ∧ c.val ≤ 'Z'.val := of_decide_eq_true hup
  have hlower : c.toLower.val = c.val + ('a'.val - 'A'.val) :=
    congrArg Char.val (dif_pos hcond)
  have hdiff : 'a'.val - 'A'.val = (32 : UInt32) := by decide
  change c.toLower.val.toNat = c.val.toNat + 32
  rw [hlower, hdiff, UInt32.toNat_add]
  change (c.toNat + 32) % 4294967296 = c.toNat + 32
  omega

/-- What is no ASCII capital is its own ASCII lowercase form. -/
theorem toLower_of_not_isUpper {c : Char} (hup : ¬ c.isUpper = true) : c.toLower = c :=
  dif_neg fun hcond => hup (decide_eq_true hcond)

/-- The simple lowercase form of a character is the character itself, the small letter of an ASCII
capital, or an image of the table. -/
theorem lowerLetter_cases (c : Char) :
    lowerLetter c = c ∨ (c.isUpper = true ∧ (lowerLetter c).toNat = c.toNat + 32) ∨
      128 ≤ c.toNat ∧ ∃ r ∈ lowerRuns, r.covers c.toNat = true ∧
        (lowerLetter c).toNat = r.lower c.toNat := by
  unfold lowerLetter
  split
  · by_cases hup : c.isUpper = true
    · exact Or.inr (Or.inl ⟨hup, toNat_toLower_of_isUpper hup⟩)
    · exact Or.inl (toLower_of_not_isUpper hup)
  · next hge =>
      split
      · next r hr =>
          have hmem := List.mem_of_find?_eq_some hr
          have hcov := List.find?_some (p := fun run => CaseRun.covers run c.toNat) hr
          have hvalid := (CaseRun.image_valid_of_mem_lowerRuns hmem hcov).2
          refine Or.inr (Or.inr ⟨by omega, r, hmem, hcov, ?_⟩)
          rw [Char.ofNat, dif_pos hvalid]
          rfl
      · exact Or.inl rfl

/-- The simple lowercase form of a character is the character itself, unless that is a capital
or lies outside ASCII, when it can also be a character that is at least `a`. -/
theorem lowerLetter_eq_or_le (c : Char) :
    lowerLetter c = c ∨ (c.isUpper = true ∨ 128 ≤ c.toNat) ∧ 97 ≤ (lowerLetter c).toNat := by
  rcases lowerLetter_cases c with hsame | ⟨hup, hcode⟩ | ⟨hge, r, hr, hcov, hcode⟩
  · exact Or.inl hsame
  · have hlo := (toNat_of_isUpper hup).1
    exact Or.inr ⟨Or.inl hup, by omega⟩
  · rw [hcode]
    exact Or.inr ⟨Or.inr hge, (CaseRun.image_valid_of_mem_lowerRuns hr hcov).1⟩

/-- A lowercased character yields itself alone, unless it is a capital or lies outside ASCII,
when all it yields can also be characters that are at least `a`. -/
theorem lowerChar_eq_or_le (before : Text) (c : Char) (rest : Text) :
    lowerChar before c rest = [c] ∨
      (c.isUpper = true ∨ 128 ≤ c.toNat) ∧ ∀ d ∈ lowerChar before c rest, 97 ≤ d.toNat := by
  unfold lowerChar
  split
  · next h =>
      subst h
      refine Or.inr ⟨Or.inr (by decide), ?_⟩
      intro d hd
      simp only [List.mem_cons, List.not_mem_nil, or_false] at hd
      rcases hd with rfl | rfl <;> decide
  · split
    · next h =>
        subst h
        refine Or.inr ⟨Or.inr (by decide), ?_⟩
        intro d hd
        split at hd <;> rw [List.mem_singleton.mp hd] <;> decide
    · rcases lowerLetter_eq_or_le c with h | ⟨hc, hle⟩
      · exact Or.inl (by rw [h])
      · exact Or.inr ⟨hc, by simpa using hle⟩

/-- A character below `a` that is no capital occurs after lowercasing as often as before. -/
theorem count_lowerAfter {x : Char} (hx : x.toNat < 97) (hup : x.isUpper = false)
    (before t : Text) : (lowerAfter before t).count x = t.count x := by
  induction t generalizing before with
  | nil => rfl
  | cons c t ih =>
      rw [lowerAfter, List.count_append, ih, List.count_cons, Nat.add_comm]
      congr 1
      rcases lowerChar_eq_or_le before c t with h | ⟨hc, hle⟩
      · rw [h, List.count_singleton]
      · have hmem : x ∉ lowerChar before c t := by
          intro hmem
          have := hle x hmem
          omega
        have hne : ¬ (c == x) = true := by
          simp only [beq_iff_eq]
          rintro rfl
          rcases hc with hc | hc
          · simp [hc] at hup
          · omega
        rw [List.count_eq_zero_of_not_mem hmem, if_neg hne]

/-- A character below `a` that is no capital occurs in a lowercased text as often as in the
text. -/
theorem count_lowercase {x : Char} (hx : x.toNat < 97) (hup : x.isUpper = false) (t : Text) :
    (lowercase t).count x = t.count x :=
  count_lowerAfter hx hup [] t

end Text

end EagerForth
