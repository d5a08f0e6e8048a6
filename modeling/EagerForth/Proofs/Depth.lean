import EagerForth.Evaluator
import Mathlib.Algebra.Ring.Int.Defs

/-!
# Stack depth

How deep the stack is at any point of a run can be told in advance: every token needs a certain
number of values and changes the depth by a certain amount, whatever the values are.  So a run
fails for want of values exactly where the depths say so, unless a division by zero has stopped
it before.

Main results:

- Theorem {lit}`Primitive.yields_or_eq_div`: the built-in primitives other than the division
  report no fault, and take and change as much as the table says.
- Theorems {lit}`Token.run_of_lt_need`, {lit}`Token.run_of_dividesByZero` and
  {lit}`Token.run_of_need_le`: the three ends of a token.
- Theorem {lit}`interpret_of_not_lacks`: the two ends of tokens none of which lacks values.
- Theorem {lit}`Evaluator.interpret_by_depth`: where a run fails, told from the depths and the
  divisors.
-/

namespace EagerForth

/-! ## Needs and changes -/

/-- How many values the built-in primitives need, and by how much they change the depth of the
stack. -/
def depthTable : List (Text × Nat × Int) :=
  [("+".toList, 2, -1), ("-".toList, 2, -1), ("*".toList, 2, -1), ("/".toList, 2, -1),
    ("dup".toList, 1, 1), ("drop".toList, 1, -1), ("swap".toList, 2, 0),
    ("over".toList, 2, 1)]

namespace Token

/-- The number of values that must be on the stack for a token. -/
def need : Token → Nat
  | .literal _ => 0
  | .primitive name => ((depthTable.lookup name).getD (0, 0)).1

/-- By how much a token changes the depth of the stack. -/
def depthChange : Token → Int
  | .literal _ => 1
  | .primitive name => ((depthTable.lookup name).getD (0, 0)).2

/-- A literal or the name of a built-in primitive. -/
def IsBasic : Token → Prop
  | .literal _ => True
  | .primitive name => ∃ p, (name, p) ∈ Primitive.builtins

/-- The division, with a zero on top of the stack. -/
def DividesByZero (token : Token) (stack : Stack) : Prop :=
  token = .primitive "/".toList ∧ stack.head? = some 0

end Token

/-- The depth of the stack before the token at a position, when the first token finds the given
depth. -/
def depthBefore (depth : Int) (tokens : List Token) (k : Nat) : Int :=
  depth + ((tokens.take k).map Token.depthChange).sum

/-- By the depths alone, the token at a position needs more values than there are. -/
def Lacks (depth : Int) (tokens : List Token) (k : Nat) : Prop :=
  ∃ token, tokens[k]? = some token ∧ depthBefore depth tokens k < token.need

/-- Somewhere among the tokens there is a division that finds a zero on top of the stack when
the tokens before it have been run. -/
def DividesByZero (primitives : Primitives) (tokens : List Token) (stack : Stack) : Prop :=
  ∃ before token after found, tokens = before ++ token :: after ∧
    interpret primitives before stack = .done found ∧ token.DividesByZero found

instance (token : Token) (stack : Stack) : Decidable (token.DividesByZero stack) :=
  inferInstanceAs (Decidable (token = .primitive "/".toList ∧ stack.head? = some 0))

instance (depth : Int) (tokens : List Token) (k : Nat) : Decidable (Lacks depth tokens k) :=
  inferInstanceAs
    (Decidable (∃ token ∈ tokens[k]?, depthBefore depth tokens k < token.need))

/-- The built-in primitives are installed under their own names. -/
def Primitives.HasBuiltins (primitives : Primitives) : Prop :=
  ∀ name p, (name, p) ∈ Primitive.builtins → primitives.find? name = some p

/-! ## Primitives -/

namespace Primitive

/-- A primitive reports no fault, and its results change the depth of the stack by the given
amount. -/
def Yields (p : Primitive) (change : Int) : Prop :=
  ∀ args, ∃ results, p.effect args = .ok results ∧ (results.length : Int) = p.arity + change

/-- The built-in primitives other than the division report no fault, and they take as many values
and change the depth by as much as the table says. -/
theorem yields_or_eq_div {name : Text} {p : Primitive} (h : (name, p) ∈ builtins) :
    name = "/".toList ∧ p = div ∨
      p.arity = (Token.primitive name).need ∧
        p.Yields (Token.primitive name).depthChange := by
  simp only [builtins, List.mem_cons, Prod.mk.injEq, List.not_mem_nil, or_false] at h
  rcases h with ⟨rfl, rfl⟩ | ⟨rfl, rfl⟩ | ⟨rfl, rfl⟩ | ⟨rfl, rfl⟩ | ⟨rfl, rfl⟩ | ⟨rfl, rfl⟩ |
    ⟨rfl, rfl⟩ | ⟨rfl, rfl⟩
  case inr.inr.inr.inl => exact Or.inl ⟨rfl, rfl⟩
  all_goals exact Or.inr ⟨rfl, fun _ => ⟨_, rfl, rfl⟩⟩

theorem arity_eq_need {name : Text} {p : Primitive} (h : (name, p) ∈ builtins) :
    p.arity = (Token.primitive name).need := by
  rcases yields_or_eq_div h with ⟨rfl, rfl⟩ | ⟨harity, -⟩
  · rfl
  · exact harity

/-- A primitive that reports no fault and finds its values comes to its end and changes the
depth as stated. -/
theorem Yields.run {p : Primitive} {change : Int} (hp : p.Yields change) {stack : Stack}
    (h : p.arity ≤ stack.length) :
    ∃ after, p.run stack = .done after ∧ (after.length : Int) = stack.length + change := by
  rcases hp fun i => stack.get (i.castLE h) with ⟨results, hresults, hlength⟩
  refine ⟨results.reverse ++ stack.drop p.arity, ?_, ?_⟩
  · rw [Primitive.run, dif_pos h, hresults]
  · rw [List.length_append, List.length_reverse, List.length_drop]
    omega

/-- The division of the two topmost values. -/
theorem run_div (divisor dividend : Int) (rest : Stack) :
    div.run (divisor :: dividend :: rest) =
      if divisor = 0 then .stopped (.fault .divisionByZero) rest
      else .done (quotient dividend divisor :: rest) := by
  have harity : div.arity ≤ (divisor :: dividend :: rest).length := by
    simp [div]
  have heffect : (div.effect fun i => (divisor :: dividend :: rest).get (i.castLE harity)) =
      if divisor = 0 then .error .divisionByZero else .ok [quotient dividend divisor] := rfl
  rw [run, dif_pos harity, heffect]
  by_cases hzero : divisor = 0
  · rw [if_pos hzero, if_pos hzero]
    rfl
  · rw [if_neg hzero, if_neg hzero]
    rfl

end Primitive

/-! ## Tokens -/

namespace Token

variable {primitives : Primitives} {token : Token} {stack : Stack}

/-- A basic token that is no literal runs its primitive. -/
theorem IsBasic.run_eq (hbuiltins : primitives.HasBuiltins) {name : Text}
    (h : IsBasic (.primitive name)) (stack : Stack) :
    ∃ p, (name, p) ∈ Primitive.builtins ∧
      run primitives (.primitive name) stack = p.run stack := by
  rcases h with ⟨p, hp⟩
  refine ⟨p, hp, ?_⟩
  simp only [run, hbuiltins name p hp]

/-- A token that needs more values than there are fails and leaves the stack alone. -/
theorem run_of_lt_need (hbuiltins : primitives.HasBuiltins) (h : token.IsBasic)
    (hdepth : stack.length < token.need) :
    token.run primitives stack = .stopped (.fault .stackUnderflow) stack := by
  cases token with
  | literal n => exact absurd hdepth (Nat.not_lt_zero _)
  | primitive name =>
      rcases h.run_eq hbuiltins stack with ⟨p, hp, hrun⟩
      rw [← Primitive.arity_eq_need hp] at hdepth
      rw [hrun, Primitive.run, dif_neg (Nat.not_le.mpr hdepth)]

/-- A division by zero that finds its values fails as such. -/
theorem run_of_dividesByZero (hbuiltins : primitives.HasBuiltins)
    (hzero : token.DividesByZero stack) (hdepth : token.need ≤ stack.length) :
    ∃ left, token.run primitives stack = .stopped (.fault .divisionByZero) left := by
  rcases hzero with ⟨rfl, hhead⟩
  rcases List.head?_eq_some_iff.mp hhead with ⟨below, rfl⟩
  cases below with
  | nil => exact absurd hdepth (by decide)
  | cons dividend rest =>
      have hfind : primitives.find? "/".toList = some .div :=
        hbuiltins _ _ (by simp [Primitive.builtins])
      refine ⟨rest, ?_⟩
      simp only [run, hfind, Primitive.run_div, if_true]

/-- A token that finds its values, and no zero to divide by, comes to its end and changes the
depth as the table says. -/
theorem run_of_need_le (hbuiltins : primitives.HasBuiltins) (h : token.IsBasic)
    (hzero : ¬ token.DividesByZero stack) (hdepth : token.need ≤ stack.length) :
    ∃ after, token.run primitives stack = .done after ∧
      (after.length : Int) = stack.length + token.depthChange := by
  cases token with
  | literal n =>
      refine ⟨n :: stack, rfl, ?_⟩
      rw [List.length_cons, depthChange]
      omega
  | primitive name =>
      rcases h.run_eq hbuiltins stack with ⟨p, hp, hrun⟩
      rw [← Primitive.arity_eq_need hp] at hdepth
      rw [hrun]
      rcases Primitive.yields_or_eq_div hp with ⟨rfl, rfl⟩ | ⟨-, hyields⟩
      · match stack, hdepth with
        | divisor :: dividend :: rest, _ =>
            have hdivisor : divisor ≠ 0 := by
              rintro rfl
              exact hzero ⟨rfl, rfl⟩
            refine ⟨Primitive.quotient dividend divisor :: rest, ?_, ?_⟩
            · rw [Primitive.run_div, if_neg hdivisor]
            · have hchange : (primitive "/".toList).depthChange = -1 := rfl
              rw [List.length_cons, List.length_cons, List.length_cons, hchange]
              omega
      · exact hyields.run hdepth

end Token

/-! ## Lists of tokens -/

section Runs

variable {primitives : Primitives} {token : Token} {tokens : List Token} {stack : Stack}

@[simp]
theorem depthBefore_zero (depth : Int) (tokens : List Token) :
    depthBefore depth tokens 0 = depth := by
  simp [depthBefore]

theorem depthBefore_cons_succ (depth : Int) (token : Token) (tokens : List Token) (k : Nat) :
    depthBefore depth (token :: tokens) (k + 1) =
      depthBefore (depth + token.depthChange) tokens k := by
  simp only [depthBefore, List.take_succ_cons, List.map_cons, List.sum_cons]
  omega

/-- The depths behind the first token are those of the other tokens, from where the first has
led. -/
theorem lacks_cons_succ {depth : Int} {k : Nat} :
    Lacks depth (token :: tokens) (k + 1) ↔ Lacks (depth + token.depthChange) tokens k := by
  simp only [Lacks, List.getElem?_cons_succ, depthBefore_cons_succ]

theorem need_le_of_not_lacks (h : ¬ Lacks stack.length (token :: tokens) 0) :
    token.need ≤ stack.length := by
  apply Nat.le_of_not_lt
  intro hlt
  apply h
  refine ⟨token, rfl, ?_⟩
  rw [depthBefore_zero]
  omega

theorem not_dividesByZero_nil : ¬ DividesByZero primitives [] stack := by
  rintro ⟨before, token, after, found, hnil, -, -⟩
  simp at hnil

/-- A division by zero comes first or behind the first token. -/
theorem dividesByZero_cons :
    DividesByZero primitives (token :: tokens) stack ↔
      token.DividesByZero stack ∨
        ∃ after, token.run primitives stack = .done after ∧
          DividesByZero primitives tokens after := by
  constructor
  · rintro ⟨before, divide, behind, found, htokens, hrun, hzero⟩
    cases before with
    | nil =>
        cases htokens
        cases hrun
        exact Or.inl hzero
    | cons first before =>
        cases htokens
        right
        rw [interpret] at hrun
        cases hfirst : token.run primitives stack with
        | done after =>
            rw [hfirst] at hrun
            exact ⟨after, rfl, before, divide, behind, found, rfl, hrun, hzero⟩
        | stopped failure left =>
            rw [hfirst] at hrun
            cases hrun
  · rintro (hzero | ⟨after, hfirst, before, divide, behind, found, rfl, hrun, hzero⟩)
    · exact ⟨[], token, tokens, stack, rfl, rfl, hzero⟩
    · refine ⟨token :: before, divide, behind, found, rfl, ?_, hzero⟩
      rw [interpret, hfirst]
      exact hrun

/-- Whether there is a division by zero is found out by running the tokens. -/
instance decidableDividesByZero (primitives : Primitives) :
    (tokens : List Token) → (stack : Stack) →
      Decidable (DividesByZero primitives tokens stack)
  | [], _ => .isFalse not_dividesByZero_nil
  | token :: tokens, stack =>
      match hrun : token.run primitives stack with
      | .done after =>
          have := decidableDividesByZero primitives tokens after
          decidable_of_iff
            (token.DividesByZero stack ∨ DividesByZero primitives tokens after)
            (by simp [dividesByZero_cons, hrun])
      | .stopped _ _ =>
          decidable_of_iff (token.DividesByZero stack) (by simp [dividesByZero_cons, hrun])

/-- Tokens none of which lacks values come to their end and change the depth by the sum of their
changes, unless one of them divides by zero. -/
theorem interpret_of_not_lacks (hbuiltins : primitives.HasBuiltins)
    (htokens : ∀ token ∈ tokens, token.IsBasic)
    (hlacks : ∀ k, ¬ Lacks stack.length tokens k) :
    (DividesByZero primitives tokens stack →
        ∃ left, interpret primitives tokens stack = .stopped (.fault .divisionByZero) left) ∧
      (¬ DividesByZero primitives tokens stack →
        ∃ after, interpret primitives tokens stack = .done after ∧
          (after.length : Int) = stack.length + (tokens.map Token.depthChange).sum) := by
  induction tokens generalizing stack with
  | nil =>
      constructor
      · intro hzero
        exact absurd hzero not_dividesByZero_nil
      · intro _
        exact ⟨stack, rfl, by simp⟩
  | cons token tokens ih =>
      rcases List.forall_mem_cons.mp htokens with ⟨htoken, hrest⟩
      have hneed := need_le_of_not_lacks (hlacks 0)
      by_cases hzero : token.DividesByZero stack
      · rcases Token.run_of_dividesByZero hbuiltins hzero hneed with ⟨left, hleft⟩
        constructor
        · intro _
          exact ⟨left, by rw [interpret, hleft]; rfl⟩
        · intro hnone
          exact absurd (dividesByZero_cons.mpr (Or.inl hzero)) hnone
      · -- The first token comes to its end, and the others are at the depth it has led to.
        rcases Token.run_of_need_le hbuiltins htoken hzero hneed with ⟨after, hafter, hlength⟩
        have hrun : interpret primitives (token :: tokens) stack =
            interpret primitives tokens after := by
          rw [interpret, hafter]
          rfl
        have hsame : DividesByZero primitives (token :: tokens) stack ↔
            DividesByZero primitives tokens after := by
          simp only [dividesByZero_cons, hzero, false_or, hafter, Run.done.injEq,
            exists_eq_left']
        have hlacks' : ∀ k, ¬ Lacks after.length tokens k := by
          intro k hk
          rw [hlength, ← lacks_cons_succ] at hk
          exact hlacks (k + 1) hk
        rcases ih hrest hlacks' with ⟨hdivides, hends⟩
        rw [hrun, hsame, List.map_cons, List.sum_cons]
        refine ⟨hdivides, ?_⟩
        intro hnone
        rcases hends hnone with ⟨last, hlast, hdepth⟩
        exact ⟨last, hlast, by omega⟩

/-- No token before the first that lacks values lacks any when those tokens are looked at
alone. -/
theorem not_lacks_take {depth : Int} {k : Nat}
    (hfirst : ∀ j < k, ¬ Lacks depth tokens j) (j : Nat) : ¬ Lacks depth (tokens.take k) j := by
  rintro ⟨token, htoken, hneed⟩
  rw [List.getElem?_take] at htoken
  split at htoken
  · next hj =>
      apply hfirst j hj
      refine ⟨token, htoken, ?_⟩
      rwa [depthBefore, List.take_take, Nat.min_eq_left (Nat.le_of_lt hj)] at hneed
  · cases htoken

end Runs

namespace Evaluator

/-- A new evaluator has the built-in primitives. -/
theorem hasBuiltins_new (charset : Charset) : (new charset).primitives.HasBuiltins := by
  intro name p h
  simp only [Primitive.builtins, List.mem_cons, Prod.mk.injEq, List.not_mem_nil,
    or_false] at h
  rcases h with ⟨rfl, rfl⟩ | ⟨rfl, rfl⟩ | ⟨rfl, rfl⟩ | ⟨rfl, rfl⟩ | ⟨rfl, rfl⟩ | ⟨rfl, rfl⟩ |
    ⟨rfl, rfl⟩ | ⟨rfl, rfl⟩
  all_goals rfl

/-- Underflow is decided by depth alone.  When no token lacks values, the tokens run to their end
and change the depth of the stack by the sum of their changes, unless one of them divides by
zero, and then they fail as such.  When there is a first token that lacks values, they fail for
want of values, unless a token before that one divides by zero, and then they fail as such. -/
theorem interpret_by_depth (ev : Evaluator) (hbuiltins : ev.primitives.HasBuiltins)
    (tokens : List Token) (htokens : ∀ token ∈ tokens, token.IsBasic) (stack : Stack) :
    ((∀ k, ¬ Lacks stack.length tokens k) →
        (DividesByZero ev.primitives tokens stack →
          ∃ left, ev.interpret tokens stack = .stopped (.fault .divisionByZero) left) ∧
        (¬ DividesByZero ev.primitives tokens stack →
          ∃ after, ev.interpret tokens stack = .done after ∧
            (after.length : Int) = stack.length + (tokens.map Token.depthChange).sum)) ∧
      ∀ k, Lacks stack.length tokens k → (∀ j < k, ¬ Lacks stack.length tokens j) →
        (DividesByZero ev.primitives (tokens.take k) stack →
          ∃ left, ev.interpret tokens stack = .stopped (.fault .divisionByZero) left) ∧
        (¬ DividesByZero ev.primitives (tokens.take k) stack →
          ∃ left, ev.interpret tokens stack = .stopped (.fault .stackUnderflow) left) := by
  refine ⟨interpret_of_not_lacks hbuiltins htokens, ?_⟩
  rintro k ⟨token, htoken, hneed⟩ hfirst
  rcases List.getElem?_eq_some_iff.mp htoken with ⟨hk, rfl⟩
  -- The tokens before the first that lacks values are run on their own.
  have hsplit : ev.interpret tokens stack =
      (ev.interpret (tokens.take k) stack).andThen (ev.interpret (tokens.drop k)) := by
    rw [interpret, ← List.take_append_drop k tokens, interpret_append]
    simp only [List.take_append_drop]
    rfl
  rcases interpret_of_not_lacks hbuiltins
      (fun token htoken => htokens token (List.mem_of_mem_take htoken))
      (not_lacks_take hfirst) with ⟨hdivides, hends⟩
  constructor
  · intro hzero
    rcases hdivides hzero with ⟨left, hleft⟩
    refine ⟨left, ?_⟩
    rw [hsplit, interpret, hleft]
    rfl
  · intro hnone
    rcases hends hnone with ⟨after, hafter, hlength⟩
    have hlack : after.length < tokens[k].need := by
      rw [depthBefore] at hneed
      omega
    have hstops := Token.run_of_lt_need hbuiltins (htokens _ (List.getElem_mem hk)) hlack
    refine ⟨after, ?_⟩
    rw [hsplit, interpret, hafter, List.drop_eq_getElem_cons hk]
    simp only [Run.andThen, interpret, EagerForth.interpret, hstops]

/-- A quotient of a value by itself, a quotient whose dividend is missing, and a division by zero
before that. -/
theorem interpret_by_depth_quotient :
    (∃ after, (new .plain).interpret
        [.primitive "dup".toList, .primitive "/".toList] [7] = .done after ∧
          (after.length : Int) = 1) ∧
      (∃ left, (new .plain).interpret
        [.literal 3, .primitive "/".toList, .primitive "/".toList] [6] =
          .stopped (.fault .stackUnderflow) left) ∧
      ∃ left, (new .plain).interpret
        [.literal 0, .primitive "/".toList, .primitive "/".toList] [6] =
          .stopped (.fault .divisionByZero) left := by
  have hbasic : ∀ n : Int, ∀ token ∈
      [.literal n, .primitive "/".toList, .primitive "/".toList], Token.IsBasic token := by
    simp [Token.IsBasic, Primitive.builtins]
  refine ⟨?_, ?_, ?_⟩
  · refine ((interpret_by_depth (new .plain) (hasBuiltins_new .plain) _ ?_ [7]).1 ?_).2 ?_
    · simp [Token.IsBasic, Primitive.builtins]
    · rintro (_ | _ | k)
      · decide
      · decide
      · rintro ⟨token, htoken, -⟩
        cases htoken
    · decide
  · exact ((interpret_by_depth (new .plain) (hasBuiltins_new .plain) _ (hbasic 3) [6]).2 2
      (by decide) (by decide)).2 (by decide)
  · exact ((interpret_by_depth (new .plain) (hasBuiltins_new .plain) _ (hbasic 0) [6]).2 2
      (by decide) (by decide)).1 (by decide)

end Evaluator

end EagerForth
