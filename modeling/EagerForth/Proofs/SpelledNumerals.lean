import EagerForth.Proofs.DefinableNames
import Mathlib.Algebra.Ring.Nat

/-!
# Numerals as they are spelled

A spelling is a sign, which may be absent, and one or more decimal digits.  The words that are
numerals are exactly the spellings written out, and a numeral that is not too long stands for its
sign times the sum of its digits, each multiplied by ten to its position.  Every integer below the
limit has a spelling that is read as that integer, and it has more of them: a plus sign and
leading zeros change nothing, except that zeros count as digits.

Main results:

- Theorem {lit}`Numeral.isNumeral_iff_exists_spelling`: the numerals are the spellings written
  out.
- Theorem {lit}`Numeral.ofDigitChars_writeDigits`: the value of digits as a sum over positions.
- Theorem {lit}`Numeral.Spelling.read_text`: what a spelling is read as.
- Theorem {lit}`Numeral.read_padded`: signs and leading zeros before a written integer.
- Theorem {lit}`Numeral.read_by_spelling`: all words, and all integers below the limit.
-/

namespace EagerForth

namespace Numeral

/-! ## Spellings -/

/-- The sign of a numeral. -/
inductive Sign where
  /-- There is no sign. -/
  | absent
  /-- A plus sign. -/
  | plus
  /-- A minus sign. -/
  | minus
deriving DecidableEq, Repr

/-- A sign in writing. -/
def Sign.text : Sign → Text
  | .absent => []
  | .plus => ['+']
  | .minus => ['-']

/-- What the magnitude behind a sign is multiplied by. -/
def Sign.factor : Sign → Int
  | .absent | .plus => 1
  | .minus => -1

/-- A numeral as it is spelled. -/
structure Spelling where
  /-- The sign before the digits. -/
  sign : Sign
  /-- The decimal digits, in the order in which they are written. -/
  digits : List (Fin 10)
  /-- There is at least one digit. -/
  digits_ne_nil : digits ≠ []

/-- Digits in writing. -/
def writeDigits (digits : List (Fin 10)) : Text :=
  digits.map fun digit => Nat.digitChar digit.val

/-- The sum of digits, each multiplied by ten to its position; the last digit has position
zero. -/
def positionalSum (digits : List (Fin 10)) : Nat :=
  (digits.reverse.mapIdx fun position digit => digit.val * 10 ^ position).sum

namespace Spelling

/-- A spelling written out. -/
def text (s : Spelling) : Text :=
  s.sign.text ++ writeDigits s.digits

/-- The integer that a spelling stands for. -/
def value (s : Spelling) : Int :=
  s.sign.factor * positionalSum s.digits

end Spelling

/-! ## Digits -/

@[simp]
theorem length_writeDigits (digits : List (Fin 10)) :
    (writeDigits digits).length = digits.length :=
  List.length_map _

theorem isDigit_of_mem_writeDigits {digits : List (Fin 10)} {c : Char}
    (hc : c ∈ writeDigits digits) : c.isDigit = true := by
  obtain ⟨digit, -, rfl⟩ := List.mem_map.mp hc
  rw [Nat.isDigit_digitChar]
  exact decide_eq_true digit.isLt

/-- The decimal digits lie one behind the other. -/
theorem toNat_digitChar (digit : Fin 10) : (Nat.digitChar digit).toNat = 48 + digit := by
  revert digit
  decide

/-- Every character that is a decimal digit is written for one of the numbers below ten. -/
theorem exists_digitChar_eq {c : Char} (hc : c.isDigit = true) :
    ∃ digit : Fin 10, Nat.digitChar digit = c := by
  have hrange := toNat_of_isDigit hc
  refine ⟨⟨c.toNat - 48, by omega⟩, ?_⟩
  apply Char.ext
  apply UInt32.toNat_inj.mp
  have hcode := toNat_digitChar ⟨c.toNat - 48, by omega⟩
  change (Nat.digitChar (c.toNat - 48)).toNat = c.toNat
  rw [hcode]
  change 48 + (c.toNat - 48) = c.toNat
  omega

theorem exists_writeDigits_eq {chars : Text} (h : ∀ c ∈ chars, c.isDigit = true) :
    ∃ digits, writeDigits digits = chars := by
  induction chars with
  | nil => exact ⟨[], rfl⟩
  | cons c chars ih =>
      obtain ⟨hc, hchars⟩ := List.forall_mem_cons.mp h
      obtain ⟨digit, rfl⟩ := exists_digitChar_eq hc
      obtain ⟨digits, rfl⟩ := ih hchars
      exact ⟨digit :: digits, rfl⟩

/-- The first of several digits has as many positions behind it as there are other digits. -/
theorem positionalSum_cons (digit : Fin 10) (digits : List (Fin 10)) :
    positionalSum (digit :: digits) = digit * 10 ^ digits.length + positionalSum digits := by
  simp only [positionalSum, List.reverse_cons, List.mapIdx_append, List.sum_append,
    List.mapIdx_cons, List.mapIdx_nil, List.sum_cons, List.sum_nil, List.length_reverse,
    Nat.zero_add, Nat.add_zero]
  exact Nat.add_comm _ _

/-- Reading digits from left to right adds them up by their positions. -/
theorem ofDigitChars_writeDigits (digits : List (Fin 10)) :
    Nat.ofDigitChars 10 (writeDigits digits) 0 = positionalSum digits := by
  induction digits with
  | nil => rfl
  | cons digit digits ih =>
      have hdigit : (Nat.digitChar digit).toNat - '0'.toNat = digit := by
        rw [toNat_digitChar]
        exact Nat.add_sub_cancel_left _ _
      have hcons : writeDigits (digit :: digits) = Nat.digitChar digit :: writeDigits digits := rfl
      rw [hcons, Nat.ofDigitChars_cons, Nat.ofDigitChars_eq_ofDigitChars_zero, ih, hdigit,
        length_writeDigits, Nat.mul_zero, Nat.zero_add, Nat.mul_comm, positionalSum_cons]

/-! ## Reading spellings -/

/-- A sign before digits is told apart from them. -/
theorem splitSign_text_append (sign : Sign) {digits : Text}
    (h : ∀ c ∈ digits, c.isDigit = true) :
    splitSign (sign.text ++ digits) = (decide (sign = .minus), digits) := by
  cases sign with
  | absent => exact splitSign_of_digits h
  | plus => rfl
  | minus => rfl

/-- The integer with the given sign and digits is the sign times the magnitude. -/
theorem ofDigits_eq_factor_mul (sign : Sign) (digits : Text) :
    ofDigits (decide (sign = .minus)) digits =
      sign.factor * (Nat.ofDigitChars 10 digits 0 : Nat) := by
  cases sign <;> simp [ofDigits, Sign.factor]

/-- A spelling is read as the integer it stands for, unless it has too many digits. -/
theorem Spelling.read_text (s : Spelling) :
    read s.text = if digitLimit < s.digits.length then .tooLong else .value s.value := by
  have hdigits : ∀ c ∈ writeDigits s.digits, c.isDigit = true :=
    fun c hc => isDigit_of_mem_writeDigits hc
  have hne : writeDigits s.digits ≠ [] := by
    simpa [writeDigits] using s.digits_ne_nil
  rw [text, read_of_splitSign (splitSign_text_append s.sign hdigits) hne hdigits,
    length_writeDigits, ofDigits_eq_factor_mul, ofDigitChars_writeDigits, value]

/-- The numerals are the spellings written out. -/
theorem isNumeral_iff_exists_spelling (w : Text) :
    IsNumeral w ↔ ∃ s : Spelling, s.text = w := by
  constructor
  · intro h
    cases h with
    | unsigned hne hdigits =>
        obtain ⟨digits, rfl⟩ := exists_writeDigits_eq hdigits
        exact ⟨⟨.absent, digits, by simpa [writeDigits] using hne⟩, rfl⟩
    | signed hsign hne hdigits =>
        obtain ⟨digits, rfl⟩ := exists_writeDigits_eq hdigits
        rcases hsign with rfl | rfl
        · exact ⟨⟨.plus, digits, by simpa [writeDigits] using hne⟩, rfl⟩
        · exact ⟨⟨.minus, digits, by simpa [writeDigits] using hne⟩, rfl⟩
  · rintro ⟨s, rfl⟩
    by_contra hnot
    rw [← read_eq_notNumeral_iff, s.read_text] at hnot
    split at hnot
    · cases hnot
    · cases hnot

/-! ## Written integers -/

/-- Leading zeros do not change the value of digits. -/
theorem ofDigitChars_replicate_append (zeros : Nat) (digits : Text) :
    Nat.ofDigitChars 10 (List.replicate zeros '0' ++ digits) 0 =
      Nat.ofDigitChars 10 digits 0 := by
  induction zeros with
  | zero => rfl
  | succ zeros ih => rw [List.replicate_succ, List.cons_append, Nat.ofDigitChars_cons, ← ih]; rfl

/-- The integers below ten to the limit have at most as many digits as the limit allows. -/
theorem length_magnitudeDigits_le_iff (n : Int) :
    (magnitudeDigits n).length ≤ digitLimit ↔ n.natAbs < Nat.pow 10 digitLimit := by
  rw [magnitudeDigits, Nat.pow_eq, Nat.length_toDigits_le_iff (by decide) (by decide)]

/-- The magnitude of an integer is written with the digits of the integer. -/
theorem write_natAbs (n : Int) : write n.natAbs = magnitudeDigits n := by
  rw [write, if_neg (by omega), magnitudeDigits, Int.natAbs_natCast]
  rfl

/-- A written magnitude with a fitting sign and zeros before it is read as the integer, as long as
there are not too many digits. -/
theorem read_padded {n : Int} {sign : Sign} (hsign : sign.factor * n.natAbs = n) {zeros : Nat}
    (hlimit : zeros + (write n.natAbs).length ≤ digitLimit) :
    read (sign.text ++ List.replicate zeros '0' ++ write n.natAbs) = .value n := by
  rw [write_natAbs] at hlimit ⊢
  have hdigits : ∀ c ∈ List.replicate zeros '0' ++ magnitudeDigits n, c.isDigit = true := by
    intro c hc
    rcases List.mem_append.mp hc with hzero | hdigit
    · rw [List.eq_of_mem_replicate hzero]
      rfl
    · exact isDigit_of_mem_magnitudeDigits hdigit
  have hne : List.replicate zeros '0' ++ magnitudeDigits n ≠ [] :=
    List.append_ne_nil_of_right_ne_nil _ (magnitudeDigits_ne_nil n)
  have hlength : ¬ digitLimit < (List.replicate zeros '0' ++ magnitudeDigits n).length := by
    rw [List.length_append, List.length_replicate]
    omega
  have hmagnitude : Nat.ofDigitChars 10 (magnitudeDigits n) 0 = n.natAbs :=
    Nat.ofDigitChars_ten_toDigits
  rw [List.append_assoc, read_of_splitSign (splitSign_text_append sign hdigits) hne hdigits,
    if_neg hlength, ofDigits_eq_factor_mul, ofDigitChars_replicate_append, hmagnitude, hsign]

/-- Reading numerals, in full.  A word is no numeral exactly when it is not a spelling written out;
it is too long exactly when it is a spelling with more digits than the limit allows; and any other
spelling is read as its sign times its digits, summed up by their positions.  An integer below ten
to the limit is read back when it is written, also with a plus sign and with leading zeros, as
long as the number of digits stays within the limit. -/
theorem read_by_spelling :
    (∀ w : Text,
      (read w = .notNumeral ↔ ¬ ∃ s : Spelling, s.text = w) ∧
      (read w = .tooLong ↔ ∃ s : Spelling, s.text = w ∧ digitLimit < s.digits.length) ∧
      ∀ s : Spelling, s.text = w → s.digits.length ≤ digitLimit →
        read w = .value (s.sign.factor * positionalSum s.digits)) ∧
      ∀ n : Int, n.natAbs < Nat.pow 10 digitLimit →
        read (write n) = .value n ∧
        ∀ (sign : Sign) (zeros : Nat), sign.factor * n.natAbs = n →
          zeros + (write n.natAbs).length ≤ digitLimit →
            read (sign.text ++ List.replicate zeros '0' ++ write n.natAbs) = .value n := by
  constructor
  · intro w
    refine ⟨?_, ?_, ?_⟩
    · rw [read_eq_notNumeral_iff, isNumeral_iff_exists_spelling]
    · constructor
      · intro hlong
        have hnumeral : IsNumeral w := by
          by_contra hnot
          rw [(read_eq_notNumeral_iff w).mpr hnot] at hlong
          cases hlong
        obtain ⟨s, rfl⟩ := (isNumeral_iff_exists_spelling w).mp hnumeral
        rw [s.read_text] at hlong
        split at hlong
        · next hlimit => exact ⟨s, rfl, hlimit⟩
        · cases hlong
      · rintro ⟨s, rfl, hlimit⟩
        rw [s.read_text, if_pos hlimit]
    · rintro s rfl hlimit
      rw [s.read_text, if_neg (Nat.not_lt.mpr hlimit), Spelling.value]
  · intro n hn
    refine ⟨?_, ?_⟩
    · exact read_write ((length_magnitudeDigits_le_iff n).mpr hn)
    · intro sign zeros hsign hlimit
      exact read_padded hsign hlimit

/-- Words that only look like numerals: a trailing line feed, a digit that is not ASCII, an
underscore and a sign alone; a numeral with leading zeros; and an integer with a plus sign and
zeros before it. -/
theorem read_by_spelling_zeros :
    (∀ s : Spelling, s.text ≠ "12\n".toList ∧ s.text ≠ "٣".toList ∧ s.text ≠ "1_0".toList ∧
        s.text ≠ "-".toList) ∧
      read "-007".toList = .value (-1 * positionalSum [0, 0, 7]) ∧
      positionalSum [0, 0, 7] = 7 ∧
      read "+000120".toList = .value 120 := by
  have hnot : ∀ w : Text, read w = .notNumeral → ∀ s : Spelling, s.text ≠ w := by
    intro w hw s hs
    exact (read_by_spelling.1 w).1.mp hw ⟨s, hs⟩
  refine ⟨?_, ?_, by decide, ?_⟩
  · intro s
    exact ⟨hnot _ (by decide) s, hnot _ (by decide) s, hnot _ (by decide) s,
      hnot _ (by decide) s⟩
  · exact (read_by_spelling.1 "-007".toList).2.2 ⟨.minus, [0, 0, 7], by decide⟩ (by decide)
      (by decide)
  · have hbound : (120 : Int).natAbs < Nat.pow 10 digitLimit :=
      (length_magnitudeDigits_le_iff 120).mp (by decide)
    exact (read_by_spelling.2 120 hbound).2 .plus 3 (by decide) (by decide)

end Numeral

end EagerForth
