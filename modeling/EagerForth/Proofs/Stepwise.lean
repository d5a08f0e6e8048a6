import EagerForth.Proofs.Layout

/-!
# Reading a line while it is evaluated

A line can be evaluated without cutting it up first: read a definition, make it, go on with the
text behind it, and at last read one word of the expression after another, running each before
the next is read.  Here the reading can go wrong on its own, because the text has ended where a
definition is to be read, or because there is nothing to be read where a word is expected.
Neither ever happens, and otherwise this comes to the same as evaluating the line.

Main results:

- Theorem {lit}`Cursor.nextWord_ne_noMatch`: after the spaces there is a word or the end of
  the text.
- Theorem {lit}`Cursor.runWords_eq`: words can be read and run in turn.
- Theorem {lit}`Evaluator.evalStepwise_eq_eval`: a line that is read while it is evaluated
  meets with the failures of its evaluation and no mishap of its reading.
-/

namespace EagerForth

/-- What can stop a line that is read while it is evaluated. -/
inductive Mishap where
  /-- The evaluation failed. -/
  | failure (failure : Failure)
  /-- The text had ended where a definition was to be read. -/
  | endOfText
  /-- There was nothing to be read where a word was expected. -/
  | noWord
deriving DecidableEq, Repr

/-! ## Words -/

namespace Cursor

/-- Read the words that remain, and resolve and run each before the next is read. -/
def runWords (primitives : Primitives) (d : Dictionary) (c : Cursor) (stack : Stack) :
    Except Mishap Stack :=
  match _h : c.nextWord with
  | (.endOfText, _) => .ok stack
  | (.noMatch, _) => .error .noWord
  | (.taken word, after) =>
      match d.resolve word with
      | .error failure => .error (.failure failure)
      | .ok expansion =>
          match interpret primitives expansion stack with
          | .done stack => runWords primitives d after stack
          | .stopped failure _ => .error (.failure failure)
termination_by c.remaining.length
decreasing_by
  have hlt := length_remaining_nextWord (c := c) (w := word) (by rw [_h])
  rwa [_h] at hlt

/-- What remains after reading spaces does not start with one. -/
theorem head?_remaining_spaces_ne (c : Cursor) : c.spaces.2.remaining.head? ≠ some ' ' := by
  have hhead := List.head?_dropWhile_not (· == ' ') c.remaining
  simp only [spaces, remaining_takeWhile]
  intro hspace
  rw [hspace] at hhead
  cases hhead

/-- After the spaces there is a word or the end of the text. -/
theorem nextWord_ne_noMatch (c : Cursor) : c.nextWord.1 ≠ .noMatch := by
  cases hremaining : c.spaces.2.remaining with
  | nil =>
      have hfinished : c.spaces.2.isFinished = true := (isFinished_iff _).mpr hremaining
      simp [nextWord, word, takeWhile, hfinished]
  | cons x rest =>
      have hx : x ≠ ' ' := by
        rintro rfl
        exact c.head?_remaining_spaces_ne (by rw [hremaining]; rfl)
      have hfinished : c.spaces.2.isFinished = false := by
        rw [← Bool.not_eq_true, isFinished_iff, hremaining]
        exact List.cons_ne_nil x rest
      simp [nextWord, word, takeWhile, hfinished, hremaining, hx]

/-- Words can be read and run in turn. -/
theorem runWords_eq (primitives : Primitives) (d : Dictionary) (c : Cursor) (stack : Stack) :
    c.runWords primitives d stack =
      match EagerForth.runWords primitives d (Text.words c.remaining) stack with
      | .done stack => .ok stack
      | .stopped failure _ => .error (.failure failure) := by
  fun_induction runWords primitives d c stack with
  | case1 c stack after h =>
      have hnone := words_remaining_of_nextWord_not_taken (c := c) (by simp [h])
      rw [hnone.1]
      rfl
  | case2 c stack after h => exact absurd (congrArg Prod.fst h) c.nextWord_ne_noMatch
  | case3 c stack word after h failure hword =>
      have hwords := words_remaining_of_nextWord_taken (c := c) (w := word) (by rw [h])
      simp only [hwords, EagerForth.runWords, hword]
  | case4 c stack word after h expansion hword stack' hrun ih =>
      have hwords := words_remaining_of_nextWord_taken (c := c) (w := word) (by rw [h])
      rw [h] at hwords
      simp only [ih, hwords, EagerForth.runWords, hword, hrun, Run.andThen]
  | case5 c stack word after h expansion hword failure left hrun =>
      have hwords := words_remaining_of_nextWord_taken (c := c) (w := word) (by rw [h])
      simp only [hwords, EagerForth.runWords, hword, hrun, Run.andThen]

/-- A definition that was read is the one at the cursor. -/
theorem eq_clause_of_clause?_eq_some {c : Cursor} {clause : Clause}
    (h : c.clause?.1 = some clause) : clause = c.clause.1 := by
  unfold clause? at h
  split at h
  · cases h
  · exact (Option.some.inj h).symm

/-- A definition can be read wherever something remains. -/
theorem clause?_of_remaining_ne_nil {c : Cursor} (h : c.remaining ≠ []) :
    c.clause? = (some c.clause.1, c.clause.2) := by
  have hfinished : ¬ c.isFinished = true := by
    rwa [isFinished_iff]
  rw [clause?, if_neg hfinished]

end Cursor

/-! ## Lines -/

namespace Evaluator

/-- Evaluate a line while it is read. -/
def evalStepwise (ev : Evaluator) (text : Text) : Except Mishap Evaluator :=
  if (Line.start ev.charset text).1 then
    match _h : (Line.start ev.charset text).2.clause?.1 with
    | none => .error .endOfText
    | some clause =>
        match Dictionary.define ev.words clause.definition with
        | (.error failure, _) => .error (.failure failure)
        | (.ok _, words) =>
            if _hblank : clause.rest.all Text.isBlank then .ok { ev with words := words }
            else evalStepwise { ev with words := words } clause.rest
  else
    match (Line.start ev.charset text).2.runWords ev.primitives ev.words ev.stack with
    | .error mishap => .error mishap
    | .ok stack => .ok { ev with stack := stack }
termination_by text.count ';'
decreasing_by
  rw [Cursor.eq_clause_of_clause?_eq_some _h] at _hblank ⊢
  apply Line.count_rest_lt
  intro hnil
  rw [hnil] at _hblank
  exact _hblank rfl

/-- One definition of a line that is read while it is evaluated. -/
theorem evalStepwise_of_definition {ev : Evaluator} {text inside : Text}
    (h : (ev.charset.normalize text).dropWhile (· == ' ') = ':' :: inside) :
    ev.evalStepwise text =
      match Dictionary.define ev.words (Clause.ofInside inside).definition with
      | (.error failure, _) => .error (.failure failure)
      | (.ok _, words) =>
          if (Clause.ofInside inside).rest.all Text.isBlank then .ok { ev with words := words }
          else evalStepwise { ev with words := words } (Clause.ofInside inside).rest := by
  have hstart : (Line.start ev.charset text).1 = true := by
    rw [Line.start_fst, h]
    rfl
  have hclause : (Line.start ev.charset text).2.clause?.1 =
      some (Clause.ofInside inside) := by
    rw [Cursor.clause?_of_remaining_ne_nil, Line.clause_start h]
    rw [Line.remaining_start, h]
    exact List.cons_ne_nil _ _
  rw [evalStepwise, if_pos hstart]
  split
  · next hnone =>
      rw [hclause] at hnone
      cases hnone
  · next clause hsome =>
      rw [hclause, Option.some.injEq] at hsome
      subst hsome
      rfl

/-- The expression of a line that is read while it is evaluated. -/
theorem evalStepwise_of_head?_ne {ev : Evaluator} {text : Text}
    (h : ((ev.charset.normalize text).dropWhile (· == ' ')).head? ≠ some ':') :
    ev.evalStepwise text = (ev.eval text).mapError .failure := by
  have hstart : (Line.start ev.charset text).1 = false := by
    rw [Line.start_fst, beq_eq_false_iff_ne]
    exact h
  have hwords : Text.words (Line.start ev.charset text).2.remaining =
      ev.charset.tokenize text := by
    rw [Line.remaining_start, Text.words_dropWhile_space]
    rfl
  rw [evalStepwise, hstart, if_neg Bool.false_ne_true, Cursor.runWords_eq, hwords,
    eval_of_not_definition hstart]
  cases runWords ev.primitives ev.words (ev.charset.tokenize text) ev.stack with
  | done stack => rfl
  | stopped failure left => rfl

/-- A definition by itself is carried out by making it. -/
theorem carryOut_single (ev : Evaluator) (definition : Definition) :
    ev.carryOut ⟨[definition], []⟩ =
      match Dictionary.define ev.words definition with
      | (.error failure, _) => .error failure
      | (.ok _, words) => .ok { ev with words := words } := by
  simp only [carryOut, Dictionary.defineAll]
  rcases Dictionary.define ev.words definition with ⟨failure | expansion, words⟩
  · rfl
  · rfl

/-- A line that is read while it is evaluated meets with the failures of its evaluation and no
mishap of its reading, and otherwise leaves the same evaluator. -/
theorem evalStepwise_eq_eval (ev : Evaluator) (text : Text) :
    ev.evalStepwise text = (ev.eval text).mapError .failure := by
  by_cases hdef : ((ev.charset.normalize text).dropWhile (· == ' ')).head? = some ':'
  · rcases List.head?_eq_some_iff.mp hdef with ⟨inside, hinside⟩
    have hsingle := ev.carryOut_single (Clause.ofInside inside).definition
    rw [evalStepwise_of_definition hinside, eval_eq_carryOut, Line.parse_of_definition hinside]
    by_cases hblank : (Clause.ofInside inside).rest.all Text.isBlank = true
    · simp only [hblank, if_true, hsingle]
      rcases Dictionary.define ev.words (Clause.ofInside inside).definition with
        ⟨failure | expansion, words⟩
      · rfl
      · rfl
    · simp only [hblank, Bool.false_eq_true, if_false, carryOut_definition, hsingle]
      rcases Dictionary.define ev.words (Clause.ofInside inside).definition with
        ⟨failure | expansion, words⟩
      · rfl
      · -- The rest is a line of its own, with fewer semicolons.
        have hlt := Line.count_ofInside_rest_lt hinside hblank
        exact evalStepwise_eq_eval { ev with words := words } (Clause.ofInside inside).rest
  · exact evalStepwise_of_head?_ne hdef
termination_by text.count ';'

end Evaluator

end EagerForth
