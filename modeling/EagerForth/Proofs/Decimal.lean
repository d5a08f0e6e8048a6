import EagerForth.Numeral

/-!
# Reading and writing numerals

A numeral is read as its sign and its digits say, and writing an integer gives a numeral that
is read as that integer.  The limits of reading and of writing meet: what has been read within
the digit limit can be written within it, since leading zeros can only be lost.

Main results:

- Theorem {lit}`Numeral.read_of_splitSign`: what a sign and digits are read as.
- Theorem {lit}`Numeral.read_write`: an integer that can be written is read back.
- Theorem {lit}`Numeral.length_magnitudeDigits_le_of_read`: an integer that has been read can
  be written.
-/

namespace EagerForth

namespace Numeral

/-- The scalar values of the decimal digits. -/
theorem toNat_of_isDigit {c : Char} (hc : c.isDigit = true) :
    48 ≤ c.toNat ∧ c.toNat ≤ 57 := by
  simp only [Char.isDigit, Bool.and_eq_true, decide_eq_true_eq] at hc
  exact ⟨UInt32.le_iff_toNat_le.mp hc.1, UInt32.le_iff_toNat_le.mp hc.2⟩

/-! ## What is read -/

/-- Digits alone have no sign. -/
theorem splitSign_of_digits {digits : Text} (h : ∀ c ∈ digits, c.isDigit = true) :
    splitSign digits = (false, digits) := by
  unfold splitSign
  split
  · exact absurd (h '+' List.mem_cons_self) (by decide)
  · exact absurd (h '-' List.mem_cons_self) (by decide)
  · rfl

/-- A sign, which may be missing, and digits are read as the integer they give, unless there
are too many digits. -/
theorem read_of_splitSign {w digits : Text} {negative : Bool}
    (hsplit : splitSign w = (negative, digits)) (hne : digits ≠ [])
    (hdigits : ∀ c ∈ digits, c.isDigit = true) :
    read w =
      if digitLimit < digits.length then .tooLong else .value (ofDigits negative digits) := by
  have hnumeral : (digits.isEmpty || !digits.all Char.isDigit) = false := by
    simpa [hne] using hdigits
  simp only [read, hsplit, hnumeral, Bool.false_eq_true, if_false]

/-- Whatever is read as a numeral of any kind is a sign, which may be missing, and digits. -/
theorem read_of_ne_notNumeral {w : Text} (h : read w ≠ .notNumeral) :
    (splitSign w).2 ≠ [] ∧ (∀ c ∈ (splitSign w).2, c.isDigit = true) ∧
      read w = if digitLimit < (splitSign w).2.length then .tooLong
        else .value (ofDigits (splitSign w).1 (splitSign w).2) := by
  have hnumeral : (splitSign w).2 ≠ [] ∧ ∀ c ∈ (splitSign w).2, c.isDigit = true := by
    rw [read] at h
    by_cases hnot : ((splitSign w).2.isEmpty || !(splitSign w).2.all Char.isDigit) = true
    · simp only [hnot, if_true] at h
      exact absurd rfl h
    · simpa using hnot
  have hsplit : splitSign w = ((splitSign w).1, (splitSign w).2) := rfl
  exact ⟨hnumeral.1, hnumeral.2, read_of_splitSign hsplit hnumeral.1 hnumeral.2⟩

/-- A numeral with too many digits has more of them than the limit allows. -/
theorem digitLimit_lt_of_read {w : Text} (h : read w = .tooLong) :
    digitLimit < (splitSign w).2.length := by
  rcases read_of_ne_notNumeral (w := w) (by simp [h]) with ⟨-, -, hread⟩
  rw [hread] at h
  split at h
  · next hlimit => exact hlimit
  · cases h

/-! ## Reading after writing -/

/-- The digits of a magnitude are decimal digits. -/
theorem isDigit_of_mem_magnitudeDigits {n : Int} {c : Char} (hc : c ∈ magnitudeDigits n) :
    c.isDigit = true :=
  Nat.isDigit_of_mem_toDigits (by omega) (by omega) hc

theorem magnitudeDigits_ne_nil (n : Int) : magnitudeDigits n ≠ [] :=
  List.length_pos_iff.mp Nat.length_toDigits_pos

/-- A written integer starts with a minus sign exactly when it is negative. -/
theorem splitSign_write (n : Int) :
    splitSign (write n) = (decide (n < 0), magnitudeDigits n) := by
  unfold write
  by_cases hneg : n < 0
  · rw [if_pos hneg, decide_eq_true hneg]
    rfl
  · rw [if_neg hneg, decide_eq_false hneg]
    exact splitSign_of_digits fun c hc => isDigit_of_mem_magnitudeDigits hc

/-- The sign and the digits of an integer give the integer. -/
theorem ofDigits_magnitudeDigits (n : Int) :
    ofDigits (decide (n < 0)) (magnitudeDigits n) = n := by
  unfold ofDigits magnitudeDigits
  rw [Nat.ofDigitChars_ten_toDigits]
  by_cases hneg : n < 0
  · simp only [hneg, decide_true, if_true]
    omega
  · simp only [hneg, decide_false, Bool.false_eq_true, if_false]
    omega

/-- An integer that can be written is read back. -/
theorem read_write {n : Int} (h : (magnitudeDigits n).length ≤ digitLimit) :
    read (write n) = .value n := by
  rw [read_of_splitSign (splitSign_write n) (magnitudeDigits_ne_nil n)
      fun c hc => isDigit_of_mem_magnitudeDigits hc,
    if_neg (Nat.not_lt.mpr h), ofDigits_magnitudeDigits]

/-- A written integer is made of digits and a minus sign. -/
theorem eq_or_isDigit_of_mem_write {n : Int} {c : Char} (hc : c ∈ write n) :
    c = '-' ∨ c.isDigit = true := by
  unfold write at hc
  split at hc
  · rcases List.mem_cons.mp hc with hsign | hdigit
    · exact Or.inl hsign
    · exact Or.inr (isDigit_of_mem_magnitudeDigits hdigit)
  · exact Or.inr (isDigit_of_mem_magnitudeDigits hc)

theorem write_ne_nil (n : Int) : write n ≠ [] := by
  unfold write
  split
  · exact List.cons_ne_nil _ _
  · exact magnitudeDigits_ne_nil n

/-! ## Writing after reading -/

/-- Decimal digits give less than ten to the number of digits. -/
theorem ofDigitChars_lt {digits : Text} (h : ∀ c ∈ digits, c.isDigit = true) :
    Nat.ofDigitChars 10 digits 0 < Nat.pow 10 digits.length := by
  induction digits with
  | nil => simp
  | cons c digits ih =>
      rcases List.forall_mem_cons.mp h with ⟨hc, hdigits⟩
      have hvalue : c.toNat - '0'.toNat ≤ 9 := by
        have hle := (toNat_of_isDigit hc).2
        have hzero : '0'.toNat = 48 := rfl
        omega
      have hrest := ih hdigits
      rw [Nat.pow_eq] at hrest
      rw [Nat.ofDigitChars_cons, Nat.ofDigitChars_eq_ofDigitChars_zero, List.length_cons,
        Nat.pow_eq, Nat.pow_succ, Nat.mul_zero, Nat.zero_add]
      generalize 10 ^ digits.length = unit at hrest ⊢
      calc unit * (c.toNat - '0'.toNat) + Nat.ofDigitChars 10 digits 0
          < unit * (c.toNat - '0'.toNat) + unit := Nat.add_lt_add_left hrest _
        _ = unit * (c.toNat - '0'.toNat + 1) := (Nat.mul_succ _ _).symm
        _ ≤ unit * 10 := Nat.mul_le_mul_left unit (Nat.succ_le_succ hvalue)

/-- The magnitude of an integer is given by its digits alone. -/
theorem natAbs_ofDigits (negative : Bool) (digits : Text) :
    (ofDigits negative digits).natAbs = Nat.ofDigitChars 10 digits 0 := by
  unfold ofDigits
  cases negative <;> simp

/-- An integer is written with at most as many digits as it was given by. -/
theorem length_magnitudeDigits_ofDigits_le {digits : Text} (hne : digits ≠ [])
    (h : ∀ c ∈ digits, c.isDigit = true) (negative : Bool) :
    (magnitudeDigits (ofDigits negative digits)).length ≤ digits.length := by
  rw [magnitudeDigits, natAbs_ofDigits,
    Nat.length_toDigits_le_iff (by decide) (List.length_pos_iff.mpr hne)]
  exact ofDigitChars_lt h

/-- An integer that has been read can be written. -/
theorem length_magnitudeDigits_le_of_read {w : Text} {n : Int} (h : read w = .value n) :
    (magnitudeDigits n).length ≤ digitLimit := by
  rcases read_of_ne_notNumeral (w := w) (by simp [h]) with ⟨hne, hdigits, hread⟩
  rw [hread] at h
  split at h
  · cases h
  · next hlimit =>
      cases h
      exact Nat.le_trans (length_magnitudeDigits_ofDigits_le hne hdigits _)
        (Nat.not_lt.mp hlimit)

end Numeral

end EagerForth
