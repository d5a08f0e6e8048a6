import EagerForth.Proofs.Depth
import EagerForth.Proofs.PrintedExpansions

/-!
# Division rounded toward zero

The quotient of two integers is found from their magnitudes, and its sign by comparing theirs.
This rounds it toward zero: what remains is smaller than the divisor and has the sign of the
dividend, and this determines quotient and remainder.  The remainder is no built-in word, but it
can be had by subtracting the divisor times the quotient from the dividend, which takes eight
words.

Main results:

- Theorem {lit}`Primitive.quotient_eq_tdiv`: the quotient of the magnitudes, with its sign
  restored, is the one rounded toward zero.
- Theorems {lit}`TruncatedDivision.tdiv` and {lit}`TruncatedDivision.eq_tdiv`: there is one
  quotient with its remainder, and only one.
- Theorem {lit}`Primitive.run_two`: a primitive that takes two values and reports no fault.
- Theorem {lit}`interpret_remainderTokens`: how eight tokens leave the remainder.
- Theorem {lit}`Evaluator.division_rounds_toward_zero`: what a division leaves on the stack.
-/

namespace EagerForth

/-! ## Quotients and remainders -/

/-- A quotient and a remainder of two integers.  The remainder is smaller than the divisor, and
it has the sign of the dividend unless it is zero. -/
structure TruncatedDivision (dividend divisor quotient remainder : Int) : Prop where
  eq_add : dividend = quotient * divisor + remainder
  natAbs_lt : remainder.natAbs < divisor.natAbs
  sign_eq : remainder = 0 ∨ remainder.sign = dividend.sign

namespace TruncatedDivision

variable {a b q r : Int}

/-- Division that is rounded toward zero has such a quotient and remainder. -/
theorem tdiv (a : Int) (hb : b ≠ 0) : TruncatedDivision a b (a.tdiv b) (a.tmod b) where
  eq_add := (Int.tdiv_mul_add_tmod a b).symm
  natAbs_lt := by
    rw [Int.natAbs_tmod]
    exact Nat.mod_lt _ (Int.natAbs_pos.mpr hb)
  sign_eq := by
    have hsign := Int.sign_tmod a b
    by_cases hdvd : b ∣ a
    · rw [if_pos hdvd] at hsign
      exact Or.inl (Int.sign_eq_zero_iff_zero.mp hsign)
    · rw [if_neg hdvd] at hsign
      exact Or.inr hsign

/-- There are no other ones.  The remainder is on the same side of zero as the dividend, so there
is one case for each side. -/
theorem eq_tdiv (h : TruncatedDivision a b q r) : q = a.tdiv b ∧ r = a.tmod b := by
  obtain ⟨hadd, hlt, hsign⟩ := h
  have hb : b ≠ 0 := by
    rintro rfl
    exact absurd hlt (Nat.not_lt_zero _)
  have hsum : r + b * q = a := by
    rw [hadd, Int.mul_comm, Int.add_comm]
  rcases Int.le_total 0 a with ha | ha
  · have hr : 0 ≤ r := by
      rcases hsign with rfl | hsign
      · exact Int.le_refl 0
      · rwa [← Int.sign_nonneg_iff, hsign, Int.sign_nonneg_iff]
    obtain ⟨hq, hr⟩ := (Int.tdiv_tmod_unique ha hb).mpr ⟨hsum, hr, by omega⟩
    exact ⟨hq.symm, hr.symm⟩
  · have hr : r ≤ 0 := by
      rcases hsign with rfl | hsign
      · exact Int.le_refl 0
      · rwa [← Int.sign_nonpos_iff, hsign, Int.sign_nonpos_iff]
    obtain ⟨hq, hr⟩ := (Int.tdiv_tmod_unique' ha hb).mpr ⟨hsum, by omega, hr⟩
    exact ⟨hq.symm, hr.symm⟩

end TruncatedDivision

/-- The quotient of the magnitudes, with its sign restored, is the one rounded toward zero.  There
is a case for each pair of signs, in which zero counts with the positive integers. -/
theorem Primitive.quotient_eq_tdiv (dividend divisor : Int) :
    quotient dividend divisor = dividend.tdiv divisor := by
  have hnonneg : ∀ n : Nat, ¬ Int.ofNat n < 0 := fun n => Int.not_lt.mpr (Int.natCast_nonneg n)
  have hneg : ∀ n : Nat, Int.negSucc n < 0 := Int.negSucc_lt_zero
  unfold quotient
  cases dividend with
  | ofNat m =>
      cases divisor with
      | ofNat n =>
          rw [decide_eq_false (hnonneg m), decide_eq_false (hnonneg n)]
          rfl
      | negSucc n =>
          rw [decide_eq_false (hnonneg m), decide_eq_true (hneg n)]
          rfl
  | negSucc m =>
      cases divisor with
      | ofNat n =>
          rw [decide_eq_true (hneg m), decide_eq_false (hnonneg n)]
          rfl
      | negSucc n =>
          rw [decide_eq_true (hneg m), decide_eq_true (hneg n)]
          rfl

/-! ## Running built-in primitives -/

namespace Primitive

/-- A primitive that takes two values and reports no fault leaves its results in their place. -/
theorem run_two (results : Int → Int → List Int) (top second : Int) (rest : Stack) :
    run ⟨2, fun x => .ok (results (x 1) (x 0))⟩ (top :: second :: rest) =
      .done ((results second top).reverse ++ rest) := by
  have harity : 2 ≤ (top :: second :: rest).length := by simp
  rw [run, dif_pos harity]
  rfl

/-- Nothing is left in place of a value that is dropped. -/
theorem run_drop (top : Int) (rest : Stack) : drop.run (top :: rest) = .done rest := by
  have harity : drop.arity ≤ (top :: rest).length := by simp [drop]
  rw [run, dif_pos harity]
  rfl

end Primitive

/-- A token that runs a built-in primitive to its end hands the stack over to the next. -/
theorem Primitives.HasBuiltins.interpret_cons {primitives : Primitives}
    (hbuiltins : primitives.HasBuiltins) (name : Text) (p : Primitive)
    (hp : (name, p) ∈ Primitive.builtins) {stack after : Stack} (hrun : p.run stack = .done after)
    (tokens : List Token) :
    interpret primitives (.primitive name :: tokens) stack =
      interpret primitives tokens after := by
  simp only [interpret, Token.run, hbuiltins name p hp, hrun, Run.andThen]

/-- The words that leave the remainder of a division. -/
def remainderWords : List Text :=
  ["over".toList, "over".toList, "/".toList, "over".toList, "*".toList, "swap".toList,
    "drop".toList, "-".toList]

/-- The tokens of these words. -/
def remainderTokens : List Token :=
  remainderWords.map .primitive

/-- The eight tokens leave the remainder in place of dividend and divisor. -/
theorem interpret_remainderTokens {primitives : Primitives} (hbuiltins : primitives.HasBuiltins)
    (a : Int) {b : Int} (hb : b ≠ 0) (s : Stack) :
    interpret primitives remainderTokens (b :: a :: s) = .done (a.tmod b :: s) := by
  have hover : ∀ (top second : Int) (rest : Stack) (tokens : List Token),
      interpret primitives (.primitive "over".toList :: tokens) (top :: second :: rest) =
        interpret primitives tokens (second :: top :: second :: rest) :=
    fun top second rest => hbuiltins.interpret_cons _ .copySecond (by simp [Primitive.builtins])
      (Primitive.run_two (fun x y => [x, y, x]) top second rest)
  have hdiv := hbuiltins.interpret_cons "/".toList .div (by simp [Primitive.builtins])
    ((Primitive.run_div b a (b :: a :: s)).trans (if_neg hb))
  rw [Primitive.quotient_eq_tdiv] at hdiv
  have hmul := hbuiltins.interpret_cons "*".toList .mul (by simp [Primitive.builtins])
    (Primitive.run_two (fun x y => [x * y]) b (a.tdiv b) (b :: a :: s))
  have hswap := hbuiltins.interpret_cons "swap".toList .swap (by simp [Primitive.builtins])
    (Primitive.run_two (fun x y => [y, x]) (a.tdiv b * b) b (a :: s))
  have hdrop := hbuiltins.interpret_cons "drop".toList .drop (by simp [Primitive.builtins])
    (Primitive.run_drop b (a.tdiv b * b :: a :: s))
  have hsub := hbuiltins.interpret_cons "-".toList .sub (by simp [Primitive.builtins])
    (Primitive.run_two (fun x y => [x - y]) (a.tdiv b * b) a s)
  have hrest : a - a.tdiv b * b = a.tmod b := by
    have hadd := Int.tdiv_mul_add_tmod a b
    omega
  calc interpret primitives remainderTokens (b :: a :: s)
      = interpret primitives (remainderTokens.drop 1) (a :: b :: a :: s) := hover b a s _
    _ = interpret primitives (remainderTokens.drop 2) (b :: a :: b :: a :: s) :=
        hover a b (a :: s) _
    _ = interpret primitives (remainderTokens.drop 3) (a.tdiv b :: b :: a :: s) := hdiv _
    _ = interpret primitives (remainderTokens.drop 4) (b :: a.tdiv b :: b :: a :: s) :=
        hover (a.tdiv b) b (a :: s) _
    _ = interpret primitives (remainderTokens.drop 5) (a.tdiv b * b :: b :: a :: s) := hmul _
    _ = interpret primitives (remainderTokens.drop 6) (b :: a.tdiv b * b :: a :: s) := hswap _
    _ = interpret primitives (remainderTokens.drop 7) (a.tdiv b * b :: a :: s) := hdrop _
    _ = .done ((a - a.tdiv b * b) :: s) := hsub []
    _ = .done (a.tmod b :: s) := by rw [hrest]

namespace Evaluator

/-- The division alone, run over its two operands. -/
theorem interpret_div {ev : Evaluator} (hbuiltins : ev.primitives.HasBuiltins) (a b : Int)
    (s : Stack) :
    ev.interpret [.primitive "/".toList] (b :: a :: s) =
      if b = 0 then .stopped (.fault .divisionByZero) s else .done (a.tdiv b :: s) := by
  have hfind : ev.primitives.find? "/".toList = some .div :=
    hbuiltins _ _ (by simp [Primitive.builtins])
  simp only [interpret, EagerForth.interpret, Token.run, hfind, Primitive.run_div,
    Primitive.quotient_eq_tdiv]
  split
  · rfl
  · rfl

/-- In a new evaluator the eight words stand for the primitives of their names. -/
theorem tokenize_remainderWords (charset : Charset) :
    (new charset).tokenize "over over / over * swap drop -".toList = .ok remainderTokens := by
  have htext : "over over / over * swap drop -".toList = Text.unwords remainderWords := by
    decide
  have hwords : (new charset).charset.tokenize (Text.unwords remainderWords) = remainderWords :=
    Charset.tokenize_unwords _ (by decide)
  rw [tokenize, htext, hwords, words_new]
  rfl

/-- Division rounds toward zero.  It fails as a division by zero exactly when the divisor is zero.
Otherwise it leaves the one quotient that has a remainder smaller than the divisor and of the sign
of the dividend, zero apart; negating an operand negates the quotient; and the tokens of the eight
words leave that remainder.  What lies below the operands stays. -/
theorem division_rounds_toward_zero (ev : Evaluator) (hbuiltins : ev.primitives.HasBuiltins)
    (s : Stack) (a b : Int) :
    ((∃ left, ev.interpret [.primitive "/".toList] (b :: a :: s) =
        .stopped (.fault .divisionByZero) left) ↔ b = 0) ∧
      (b ≠ 0 → ∃ q r, TruncatedDivision a b q r ∧
        (∀ q' r', TruncatedDivision a b q' r' → q' = q ∧ r' = r) ∧
        ev.interpret [.primitive "/".toList] (b :: a :: s) = .done (q :: s) ∧
        ev.interpret [.primitive "/".toList] (b :: -a :: s) = .done (-q :: s) ∧
        ev.interpret [.primitive "/".toList] (-b :: a :: s) = .done (-q :: s) ∧
        ∃ tokens, (new ev.charset).tokenize "over over / over * swap drop -".toList = .ok tokens ∧
          ev.interpret tokens (b :: a :: s) = .done (r :: s)) := by
  simp only [interpret_div hbuiltins]
  constructor
  · constructor
    · rintro ⟨left, hleft⟩
      by_contra hb
      rw [if_neg hb] at hleft
      cases hleft
    · intro hb
      exact ⟨s, if_pos hb⟩
  · intro hb
    refine ⟨a.tdiv b, a.tmod b, .tdiv a hb, fun q r h => h.eq_tdiv, ?_, ?_, ?_, ?_⟩
    · rw [if_neg hb]
    · rw [if_neg hb, Int.neg_tdiv]
    · rw [if_neg (Int.neg_ne_zero.mpr hb), Int.tdiv_neg]
    · exact ⟨remainderTokens, tokenize_remainderWords ev.charset,
        interpret_remainderTokens hbuiltins a hb s⟩

/-- The quotient of a negative dividend is rounded up, its remainder is negative, and there is none
by zero. -/
theorem division_rounds_toward_zero_negative :
    (new .plain).interpret [.primitive "/".toList] [2, -7, 5] = .done [-3, 5] ∧
      (new .plain).interpret [.primitive "/".toList] [2, 7, 5] = .done [3, 5] ∧
      (∃ tokens, (new .plain).tokenize "over over / over * swap drop -".toList = .ok tokens ∧
        (new .plain).interpret tokens [2, -7, 5] = .done [-1, 5]) ∧
      ∃ left, (new .plain).interpret [.primitive "/".toList] [0, -7, 5] =
        .stopped (.fault .divisionByZero) left := by
  have hbuiltins := hasBuiltins_new .plain
  obtain ⟨q, r, -, hunique, hquotient, hnegated, -, hremainder⟩ :=
    (division_rounds_toward_zero (new .plain) hbuiltins [5] (-7) 2).2 (by decide)
  obtain ⟨rfl, rfl⟩ := hunique (-3) (-1) ⟨by decide, by decide, Or.inr (by decide)⟩
  refine ⟨hquotient, hnegated, hremainder, ?_⟩
  exact (division_rounds_toward_zero (new .plain) hbuiltins [5] (-7) 0).1.mpr rfl

end Evaluator

end EagerForth
