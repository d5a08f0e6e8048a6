import EagerForth.Evaluator

/-!
# What evaluating a line does

The two ways in which the evaluation of a line can end, and how lines whose parts follow one
another are evaluated part by part.

Main results:

- Theorems {lit}`Evaluator.carryOut_eq_ok_iff` and
  {lit}`Evaluator.carryOut_eq_error_iff`: when a line succeeds, when it fails, and what comes
  of it.
- Theorem {lit}`Evaluator.carryOut_definition`: a line that starts with a definition may be
  carried out in two steps, the first being the definition alone.
- Theorem {lit}`Evaluator.carryOut_expression`: an expression may be cut between any two of
  its words.
-/

namespace EagerForth

/-- Definitions are made one after the other. -/
theorem Dictionary.defineAll_cons (d : Dictionary) (definition : Definition)
    (definitions : List Definition) :
    d.defineAll (definition :: definitions) =
      (d.defineAll [definition]).bind fun d' => d'.defineAll definitions := by
  simp only [Dictionary.defineAll]
  split <;> rfl

namespace Evaluator

/-- A text is evaluated by cutting it into a line and carrying that out. -/
theorem eval_eq_carryOut (ev : Evaluator) (text : Text) :
    ev.eval text = ev.carryOut (Line.parse ev.charset text) :=
  rfl

/-- A line succeeds exactly when all its definitions do and its expression then runs to its
end, and the evaluator takes over the dictionary and the stack that these leave. -/
theorem carryOut_eq_ok_iff {ev after : Evaluator} {line : Line} :
    ev.carryOut line = .ok after ↔
      ∃ words stack, Dictionary.defineAll ev.words line.definitions = .ok words ∧
        runWords ev.primitives words line.expression ev.stack = .done stack ∧
        after = { ev with stack := stack, words := words } := by
  unfold carryOut
  constructor
  · intro h
    split at h
    · cases h
    · next words hwords =>
        split at h
        · next stack hstack =>
            cases h
            exact ⟨words, stack, hwords, hstack, rfl⟩
        · cases h
  · rintro ⟨words, stack, hwords, hstack, rfl⟩
    simp only [hwords, hstack]

/-- A line fails exactly when one of its definitions does, or all succeed and its expression
fails. -/
theorem carryOut_eq_error_iff {ev : Evaluator} {line : Line} {failure : Failure} :
    ev.carryOut line = .error failure ↔
      Dictionary.defineAll ev.words line.definitions = .error failure ∨
        ∃ words left, Dictionary.defineAll ev.words line.definitions = .ok words ∧
          runWords ev.primitives words line.expression ev.stack = .stopped failure left := by
  unfold carryOut
  constructor
  · intro h
    split at h
    · next first hfirst =>
        cases h
        exact Or.inl hfirst
    · next words hwords =>
        split at h
        · cases h
        · next first left hleft =>
            cases h
            exact Or.inr ⟨words, left, hwords, hleft⟩
  · rintro (hwords | ⟨words, left, hwords, hleft⟩)
    · simp only [hwords]
    · simp only [hwords, hleft]

/-- A text that is evaluated after a line is cut up as before that line. -/
theorem bind_eval (ev : Evaluator) (line : Line) (text : Text) :
    ((ev.carryOut line).bind fun after => after.eval text) =
      (ev.carryOut line).bind fun after => after.carryOut (Line.parse ev.charset text) := by
  cases h : ev.carryOut line with
  | error failure => rfl
  | ok after =>
      rcases carryOut_eq_ok_iff.mp h with ⟨words, stack, -, -, rfl⟩
      rfl

/-- A line that starts with a definition may be carried out in two steps, the first being the
definition alone. -/
theorem carryOut_definition (ev : Evaluator) (definition : Definition)
    (definitions : List Definition) (expression : List Text) :
    ev.carryOut ⟨definition :: definitions, expression⟩ =
      (ev.carryOut ⟨[definition], []⟩).bind fun after =>
        after.carryOut ⟨definitions, expression⟩ := by
  simp only [carryOut, Dictionary.defineAll_cons ev.words definition definitions]
  cases Dictionary.defineAll ev.words [definition] with
  | error failure => rfl
  | ok words => rfl

/-- An expression may be cut between any two of its words. -/
theorem carryOut_expression (ev : Evaluator) (xs ys : List Text) :
    ev.carryOut ⟨[], xs ++ ys⟩ =
      (ev.carryOut ⟨[], xs⟩).bind fun after => after.carryOut ⟨[], ys⟩ := by
  simp only [carryOut, Dictionary.defineAll, runWords_append]
  cases runWords ev.primitives ev.words xs ev.stack with
  | done stack => rfl
  | stopped failure left => rfl

end Evaluator

end EagerForth
