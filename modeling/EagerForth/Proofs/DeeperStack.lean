import EagerForth.Proofs.Evaluation

/-!
# Deeper stacks

Values that lie under a stack are of no concern to what is run over it, as long as the stack
holds enough values of its own.  A run that comes to its end does the same over the deeper
stack and leaves alone what lies below.  So does a run that fails, unless it fails for want of
values: then the values below can let it go on.

Main results:

- Theorem {lit}`Primitive.run_of_not_underflows`: a primitive that does not lack values does
  the same over a deeper stack.
- Theorems {lit}`interpret_of_not_underflows` and {lit}`runWords_of_not_underflows`: so do
  tokens and words that are run one after another.
- Theorem {lit}`Evaluator.interpret_over_deeper_stack`: the law for tokens over any two stacks,
  and for lines that are evaluated.
-/

namespace EagerForth

namespace Run

/-- The same end of a run with more values under its stack. -/
def above (below : Stack) : Run → Run
  | .done stack => .done (stack ++ below)
  | .stopped failure stack => .stopped failure (stack ++ below)

/-- Whether a run failed for want of values. -/
def underflows : Run → Bool
  | .stopped (.fault .stackUnderflow) _ => true
  | _ => false

theorem underflows_stopped {failure : Failure} (h : failure ≠ .fault .stackUnderflow)
    (left : Stack) : (stopped failure left).underflows = false := by
  unfold underflows
  split
  · next heq =>
      cases heq
      exact absurd rfl h
  · rfl

/-- If the whole of two runs in a row does not lack values, the first does not. -/
theorem underflows_of_andThen {r : Run} {next : Stack → Run}
    (h : (r.andThen next).underflows = false) : r.underflows = false := by
  cases r with
  | done stack => rfl
  | stopped failure left => exact h

/-- Two runs in a row do the same over a deeper stack when each of them does. -/
theorem andThen_above {r : Run} {next : Stack → Run} {below : Stack}
    (h : (r.andThen next).underflows = false)
    (hnext : ∀ stack, (next stack).underflows = false →
      next (stack ++ below) = (next stack).above below) :
    (r.above below).andThen next = (r.andThen next).above below := by
  cases r with
  | done stack => exact hnext stack h
  | stopped failure left => rfl

end Run

/-! ## Primitives, tokens and words -/

/-- A primitive that does not lack values does the same over a deeper stack. -/
theorem Primitive.run_of_not_underflows {p : Primitive} {stack : Stack}
    (h : (p.run stack).underflows = false) (below : Stack) :
    p.run (stack ++ below) = (p.run stack).above below := by
  by_cases harity : p.arity ≤ stack.length
  · rw [p.run_append harity below]
    rfl
  · rw [Primitive.run, dif_neg harity] at h
    cases h

/-- A token that does not lack values does the same over a deeper stack. -/
theorem Token.run_of_not_underflows {primitives : Primitives} {token : Token} {stack : Stack}
    (h : (token.run primitives stack).underflows = false) (below : Stack) :
    token.run primitives (stack ++ below) = (token.run primitives stack).above below := by
  cases token with
  | literal n => rfl
  | primitive name =>
      simp only [Token.run] at h ⊢
      cases hfind : primitives.find? name with
      | none => rfl
      | some p =>
          rw [hfind] at h
          exact Primitive.run_of_not_underflows h below

/-- Tokens that do not lack values do the same over a deeper stack. -/
theorem interpret_of_not_underflows {primitives : Primitives} {tokens : List Token}
    {stack : Stack} (h : (interpret primitives tokens stack).underflows = false)
    (below : Stack) :
    interpret primitives tokens (stack ++ below) =
      (interpret primitives tokens stack).above below := by
  induction tokens generalizing stack with
  | nil => rfl
  | cons token tokens ih =>
      have hfirst := Run.underflows_of_andThen h
      rw [interpret, interpret, Token.run_of_not_underflows hfirst below]
      exact Run.andThen_above h fun after hafter => ih hafter

/-- Words that do not lack values do the same over a deeper stack. -/
theorem runWords_of_not_underflows {primitives : Primitives} {d : Dictionary}
    {words : List Text} {stack : Stack}
    (h : (runWords primitives d words stack).underflows = false) (below : Stack) :
    runWords primitives d words (stack ++ below) =
      (runWords primitives d words stack).above below := by
  induction words generalizing stack with
  | nil => rfl
  | cons word words ih =>
      simp only [runWords] at h ⊢
      cases hword : d.resolve word with
      | error failure => rfl
      | ok expansion =>
          rw [hword] at h
          have hfirst := Run.underflows_of_andThen h
          simp only [interpret_of_not_underflows hfirst below]
          exact Run.andThen_above h fun after hafter => ih hafter

/-! ## Lines -/

namespace Evaluator

/-- The same evaluator with more values under its stack. -/
def deepen (ev : Evaluator) (below : Stack) : Evaluator :=
  { ev with stack := ev.stack ++ below }

/-- A line that does not fail for want of values comes to the same over a deeper stack, and
leaves alone what lies below. -/
theorem carryOut_deepen {ev : Evaluator} {line : Line}
    (h : ev.carryOut line ≠ .error (.fault .stackUnderflow)) (below : Stack) :
    (ev.deepen below).carryOut line = (ev.carryOut line).map (·.deepen below) := by
  simp only [carryOut, deepen] at h ⊢
  cases hwords : Dictionary.defineAll ev.words line.definitions with
  | error failure => rfl
  | ok words =>
      simp only [hwords] at h ⊢
      cases hrun : runWords ev.primitives words line.expression ev.stack with
      | done stack =>
          have habove := runWords_of_not_underflows (by rw [hrun]; rfl) below
          rw [habove, hrun]
          rfl
      | stopped failure left =>
          rw [hrun] at h
          have hfailure : failure ≠ .fault .stackUnderflow := by
            rintro rfl
            exact h rfl
          have habove := runWords_of_not_underflows
            (by rw [hrun]; exact Run.underflows_stopped hfailure left) below
          rw [habove, hrun]
          rfl

/-- A text that does not fail for want of values is evaluated in the same way over a deeper
stack. -/
theorem eval_deepen {ev : Evaluator} {text : Text}
    (h : ev.eval text ≠ .error (.fault .stackUnderflow)) (below : Stack) :
    (ev.deepen below).eval text = (ev.eval text).map (·.deepen below) :=
  carryOut_deepen h below

/-- Tokens that run to their end over a stack do so over every deeper one, with the same values
on top and the values below untouched.  Tokens that fail, and not for want of values, fail over
every deeper stack for the same reason.  So a line that is evaluated over a stack is evaluated
in the same way over every deeper one, which it otherwise leaves alone. -/
theorem interpret_over_deeper_stack (ev : Evaluator) (tokens : List Token)
    (stack below : Stack) :
    (∀ after, ev.interpret tokens stack = .done after →
        ev.interpret tokens (stack ++ below) = .done (after ++ below)) ∧
      (∀ failure left, ev.interpret tokens stack = .stopped failure left →
        failure ≠ .fault .stackUnderflow →
        ev.interpret tokens (stack ++ below) = .stopped failure (left ++ below)) ∧
      (∀ text after, ev.eval text = .ok after →
        (ev.deepen below).eval text = .ok (after.deepen below)) ∧
      ∀ text failure, ev.eval text = .error failure → failure ≠ .fault .stackUnderflow →
        (ev.deepen below).eval text = .error failure := by
  have habove : (ev.interpret tokens stack).underflows = false →
      ev.interpret tokens (stack ++ below) = (ev.interpret tokens stack).above below :=
    fun h => interpret_of_not_underflows h below
  refine ⟨?_, ?_, ?_, ?_⟩
  · intro after h
    rw [habove (by rw [h]; rfl), h]
    rfl
  · intro failure left h hfailure
    rw [habove (by rw [h]; exact Run.underflows_stopped hfailure left), h]
    rfl
  · intro text after h
    rw [eval_deepen (by simp [h]), h]
    rfl
  · intro text failure h hfailure
    rw [eval_deepen (by simpa [h] using hfailure), h]
    rfl

/-- An evaluator with one more primitive, which brings the third value to the top. -/
def withRotation : Evaluator :=
  (new .plain).addPrimitive "rot".toList ⟨3, fun x => .ok [x 1, x 0, x 2]⟩

/-- A rotation with a division after it, over just enough values and over two more, and the
same with a zero for a divisor or with a primitive that no one has installed. -/
theorem interpret_over_deeper_stack_rotation :
    withRotation.interpret [.primitive "rot".toList, .primitive "/".toList] [3, 9, 2] =
        .done [1, 9] ∧
      withRotation.interpret [.primitive "rot".toList, .primitive "/".toList]
          ([3, 9, 2] ++ [8, 7]) = .done ([1, 9] ++ [8, 7]) ∧
      withRotation.interpret [.primitive "rot".toList, .primitive "/".toList]
          ([3, 9, 0] ++ [8, 7]) = .stopped (.fault .divisionByZero) ([9] ++ [8, 7]) ∧
      withRotation.interpret [.literal 5, .primitive "roll".toList] ([] ++ [8, 7]) =
        .stopped (.missingPrimitive "roll".toList) ([5] ++ [8, 7]) ∧
      (withRotation.deepen [8, 7]).eval "1 2 3 rot".toList =
        .ok ({ withRotation with stack := [1, 3, 2] }.deepen [8, 7]) := by
  have hrun : withRotation.interpret [.primitive "rot".toList, .primitive "/".toList]
      [3, 9, 2] = .done [1, 9] := rfl
  have heval : withRotation.eval "1 2 3 rot".toList =
      .ok { withRotation with stack := [1, 3, 2] } := by
    rw [eval_of_not_definition rfl]
    rfl
  refine ⟨hrun, ?_, ?_, ?_, ?_⟩
  · exact (interpret_over_deeper_stack withRotation _ _ [8, 7]).1 _ hrun
  · exact (interpret_over_deeper_stack withRotation _ _ [8, 7]).2.1 _ _ rfl (by simp)
  · exact (interpret_over_deeper_stack withRotation _ _ [8, 7]).2.1 _ _ rfl (by simp)
  · exact (interpret_over_deeper_stack withRotation [] [] [8, 7]).2.2.1 _ _ heval

end Evaluator

end EagerForth
