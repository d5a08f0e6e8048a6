import EagerForth.Proofs.Descent
import EagerForth.Proofs.Stepwise

/-!
# The levels of an evaluation

A text that starts with a definition is evaluated on several levels: the definition is made, and
then the evaluation calls itself on the text behind it.  Nothing in this control flow says that it
comes to an end.  Here it is cut into steps, each of which leads from one stage to the next and
asks for no reason why there should be a last one.  That there is, and in which order things are
done until then, is proved from what a single step can do.

Main results:

- Theorem {lit}`Stage.moves_step`: what a step of an evaluation can do.
- Theorem {lit}`Stage.run_eq_ended`: an evaluation ends within a number of steps that its text
  tells, and its outcome is that of {lit}`Evaluator.eval`.
- Theorems {lit}`Stage.acts_run_isPrefix` and {lit}`Stage.acts_run_of_ok`: every evaluation
  performs a beginning of the script of its text, and all of it if it succeeds.
- Theorem {lit}`Evaluator.levels_descend`: the levels of an evaluation, and what is done on them.
-/

namespace EagerForth

/-- The first word of an expression is run by itself, and the others after it. -/
theorem Evaluator.carryOut_cons (ev : Evaluator) (word : Text) (words : List Text) :
    ev.carryOut ⟨[], word :: words⟩ =
      match runWords ev.primitives ev.words [word] ev.stack with
      | .done stack => { ev with stack := stack }.carryOut ⟨[], words⟩
      | .stopped failure _ => .error failure := by
  rw [← List.singleton_append, carryOut_expression]
  simp only [carryOut, Dictionary.defineAll]
  cases runWords ev.primitives ev.words [word] ev.stack with
  | done stack => rfl
  | stopped failure left => rfl

/-! ## Steps -/

/-- Where the evaluation of a line stands.  The evaluator is the working copy, with the
definitions that have been made and the stack that has been reached. -/
inductive Stage where
  /-- A level is about to read its text. -/
  | level (text : Text) (ev : Evaluator)
  /-- The words that remain before a cursor are to be run. -/
  | expression (c : Cursor) (ev : Evaluator)
  /-- The evaluation has come to its end. -/
  | ended (outcome : Except Mishap Evaluator)

namespace Stage

/-- Go on to the next stage, and tell what is done on the way. -/
def step : Stage → List Act × Stage
  | .level text ev =>
      if (Line.start ev.charset text).1 then
        match (Line.start ev.charset text).2.clause?.1 with
        | none => ([], .ended (.error .endOfText))
        | some clause =>
            match Dictionary.define ev.words clause.definition with
            | (.error failure, _) =>
                ([.define clause.definition], .ended (.error (.failure failure)))
            | (.ok _, words) =>
                if clause.rest.all Text.isBlank then
                  ([.define clause.definition], .ended (.ok { ev with words := words }))
                else
                  ([.define clause.definition, .call clause.rest],
                    .level clause.rest { ev with words := words })
      else ([], .expression (Line.start ev.charset text).2 ev)
  | .expression c ev =>
      match c.nextWord with
      | (.endOfText, _) => ([], .ended (.ok ev))
      | (.noMatch, _) => ([], .ended (.error .noWord))
      | (.taken word, after) =>
          match Dictionary.resolve ev.words word with
          | .error failure => ([.run word], .ended (.error (.failure failure)))
          | .ok expansion =>
              match interpret ev.primitives expansion ev.stack with
              | .stopped failure _ => ([.run word], .ended (.error (.failure failure)))
              | .done stack => ([.run word], .expression after { ev with stack := stack })
  | .ended outcome => ([], .ended outcome)

/-- Go on for a number of steps, and tell what is done. -/
def run : Nat → Stage → List Act × Stage
  | 0, s => ([], s)
  | n + 1, s => (s.step.1 ++ (run n s.step.2).1, (run n s.step.2).2)

/-- What a step does, and when.  A text never ends where a definition is to be read, and there is
always something to be read where a word is expected. -/
inductive Moves : Stage → List Act → Stage → Prop where
  /-- A definition is refused. -/
  | refuse {text inside : Text} {ev : Evaluator} {failure : Failure} {d : Dictionary}
      (h : (ev.charset.normalize text).dropWhile (· == ' ') = ':' :: inside)
      (hdefine : ev.words.define (Clause.ofInside inside).definition = (.error failure, d)) :
      Moves (.level text ev) [.define (Clause.ofInside inside).definition]
        (.ended (.error (.failure failure)))
  /-- A definition is made, and nothing follows it. -/
  | last {text inside : Text} {ev : Evaluator} {x : Expansion} {d : Dictionary}
      (h : (ev.charset.normalize text).dropWhile (· == ' ') = ':' :: inside)
      (hdefine : ev.words.define (Clause.ofInside inside).definition = (.ok x, d))
      (hblank : (Clause.ofInside inside).rest.all Text.isBlank = true) :
      Moves (.level text ev) [.define (Clause.ofInside inside).definition]
        (.ended (.ok { ev with words := d }))
  /-- A definition is made, and the evaluation calls itself on the text behind it. -/
  | call {text inside : Text} {ev : Evaluator} {x : Expansion} {d : Dictionary}
      (h : (ev.charset.normalize text).dropWhile (· == ' ') = ':' :: inside)
      (hdefine : ev.words.define (Clause.ofInside inside).definition = (.ok x, d))
      (hblank : ¬ (Clause.ofInside inside).rest.all Text.isBlank = true) :
      Moves (.level text ev)
        [.define (Clause.ofInside inside).definition, .call (Clause.ofInside inside).rest]
        (.level (Clause.ofInside inside).rest { ev with words := d })
  /-- The text is an expression. -/
  | express {text : Text} {ev : Evaluator} {c : Cursor}
      (h : ((ev.charset.normalize text).dropWhile (· == ' ')).head? ≠ some ':')
      (hcursor : c.remaining = (ev.charset.normalize text).dropWhile (· == ' ')) :
      Moves (.level text ev) [] (.expression c ev)
  /-- A word is run. -/
  | word {c after : Cursor} {ev : Evaluator} {word : Text} {stack : Stack}
      (hwords : Text.words c.remaining = word :: Text.words after.remaining)
      (hlength : after.remaining.length < c.remaining.length)
      (hrun : runWords ev.primitives ev.words [word] ev.stack = .done stack) :
      Moves (.expression c ev) [.run word] (.expression after { ev with stack := stack })
  /-- A word fails. -/
  | fail {c after : Cursor} {ev : Evaluator} {word : Text} {failure : Failure} {left : Stack}
      (hwords : Text.words c.remaining = word :: Text.words after.remaining)
      (hrun : runWords ev.primitives ev.words [word] ev.stack = .stopped failure left) :
      Moves (.expression c ev) [.run word] (.ended (.error (.failure failure)))
  /-- No word is left. -/
  | finish {c : Cursor} {ev : Evaluator} (hwords : Text.words c.remaining = []) :
      Moves (.expression c ev) [] (.ended (.ok ev))
  /-- Nothing is done any more. -/
  | stay {outcome : Except Mishap Evaluator} : Moves (.ended outcome) [] (.ended outcome)

/-- The step of a level. -/
theorem moves_step_level (text : Text) (ev : Evaluator) :
    Moves (.level text ev) (step (.level text ev)).1 (step (.level text ev)).2 := by
  by_cases hdef : ((ev.charset.normalize text).dropWhile (· == ' ')).head? = some ':'
  · obtain ⟨inside, h⟩ := List.head?_eq_some_iff.mp hdef
    have hstart : (Line.start ev.charset text).1 = true := by
      rw [Line.start_fst, hdef]
      rfl
    have hremaining : (Line.start ev.charset text).2.remaining ≠ [] := by
      rw [Line.remaining_start, h]
      exact List.cons_ne_nil _ _
    simp only [step, hstart, if_true, Cursor.clause?_of_remaining_ne_nil hremaining,
      Line.clause_start h]
    rcases hdefine : ev.words.define (Clause.ofInside inside).definition with
      ⟨failure | x, d⟩
    · exact .refuse h hdefine
    · by_cases hblank : (Clause.ofInside inside).rest.all Text.isBlank = true
      · simp only [hblank, if_true]
        exact .last h hdefine hblank
      · simp only [hblank]
        exact .call h hdefine hblank
  · have hstart : (Line.start ev.charset text).1 = false := by
      rw [Line.start_fst, beq_eq_false_iff_ne]
      exact hdef
    simp only [step, hstart, Bool.false_eq_true, if_false]
    exact .express hdef (Line.remaining_start ev.charset text)

/-- The step of an expression. -/
theorem moves_step_expression (c : Cursor) (ev : Evaluator) :
    Moves (.expression c ev) (step (.expression c ev)).1 (step (.expression c ev)).2 := by
  rcases hnext : c.nextWord with ⟨- | - | word, after⟩
  · have hnone := Cursor.words_remaining_of_nextWord_not_taken (c := c) (by simp [hnext])
    simp only [step, hnext]
    exact .finish hnone.1
  · exact absurd (congrArg Prod.fst hnext) c.nextWord_ne_noMatch
  · have hfst : c.nextWord.1 = .taken word := by rw [hnext]
    have hwords := Cursor.words_remaining_of_nextWord_taken hfst
    have hlength := Cursor.length_remaining_nextWord hfst
    rw [hnext] at hwords hlength
    simp only [step, hnext]
    cases hresolve : Dictionary.resolve ev.words word with
    | error failure =>
        have hrun : runWords ev.primitives ev.words [word] ev.stack =
            .stopped failure ev.stack := by
          simp only [runWords, hresolve]
        exact .fail hwords hrun
    | ok expansion =>
        have hrun : runWords ev.primitives ev.words [word] ev.stack =
            (interpret ev.primitives expansion ev.stack).andThen .done := by
          simp only [runWords, hresolve]
        simp only
        cases hinterpret : interpret ev.primitives expansion ev.stack with
        | stopped failure left =>
            rw [hinterpret] at hrun
            exact .fail hwords hrun
        | done stack =>
            rw [hinterpret] at hrun
            exact .word hwords hlength hrun

/-- What a step does is one of these moves. -/
theorem moves_step (s : Stage) : Moves s s.step.1 s.step.2 := by
  cases s with
  | level text ev => exact moves_step_level text ev
  | expression c ev => exact moves_step_expression c ev
  | ended outcome => exact .stay

/-! ## What a step changes -/

/-- A number of steps within which an evaluation comes to its end. -/
def size : Stage → Nat
  | .level text ev => (ev.charset.normalize text).length + 2
  | .expression c _ => c.remaining.length + 1
  | .ended _ => 0

/-- The outcome that an evaluation comes to. -/
def outcome : Stage → Except Mishap Evaluator
  | .level text ev => (ev.eval text).mapError .failure
  | .expression c ev => (ev.carryOut ⟨[], Text.words c.remaining⟩).mapError .failure
  | .ended outcome => outcome

/-- All that is still to be done, if nothing fails. -/
def script : Stage → List Act
  | .level text ev => Line.script ev.charset text
  | .expression c _ => (Text.words c.remaining).map .run
  | .ended _ => []

variable {s s' : Stage} {acts : List Act}

/-- Every move brings the evaluation nearer to its end. -/
theorem Moves.size_le (h : Moves s acts s') : s'.size ≤ s.size - 1 := by
  cases h with
  | refuse | last | fail | finish | stay => exact Nat.zero_le _
  | call h hdefine hblank =>
      have hlength := (Line.descends_rest h hblank).length_lt
      simp only [size]
      omega
  | @express text ev c h hcursor =>
      have hspaces := List.dropWhile_sublist (· == ' ') (l := ev.charset.normalize text)
      have hlength := hspaces.length_le
      simp only [size, hcursor]
      omega
  | word hwords hlength hrun =>
      simp only [size]
      omega

/-- No move changes the outcome. -/
theorem Moves.outcome_eq (h : Moves s acts s') : s'.outcome = s.outcome := by
  -- On a level, a line that is read while it is evaluated goes on in the same way as the stages.
  cases h with
  | refuse h hdefine =>
      simp only [outcome, ← Evaluator.evalStepwise_eq_eval,
        Evaluator.evalStepwise_of_definition h, hdefine]
  | last h hdefine hblank =>
      simp only [outcome, ← Evaluator.evalStepwise_eq_eval,
        Evaluator.evalStepwise_of_definition h, hdefine, hblank, if_true]
  | call h hdefine hblank =>
      simp only [outcome, ← Evaluator.evalStepwise_eq_eval,
        Evaluator.evalStepwise_of_definition h, hdefine, hblank]
      rfl
  | express h hcursor =>
      simp only [outcome, Evaluator.eval_eq_carryOut, Line.parse_of_head?_ne h, hcursor,
        Text.words_dropWhile_space]
      rfl
  | word hwords hlength hrun =>
      rw [outcome, outcome, hwords, Evaluator.carryOut_cons, hrun]
  | fail hwords hrun =>
      rw [outcome, outcome, hwords, Evaluator.carryOut_cons, hrun]
      rfl
  | finish hwords =>
      rw [outcome, outcome, hwords]
      rfl
  | stay => rfl

/-- A move takes its acts off the script, and if it does not keep the rest, it has failed. -/
theorem Moves.script_eq (h : Moves s acts s') :
    acts ++ s'.script = s.script ∨
      acts <+: s.script ∧ ∃ mishap, s' = .ended (.error mishap) := by
  cases h with
  | refuse h hdefine =>
      -- The definition is the first act of the script, whether anything follows it or not.
      refine Or.inr ⟨?_, _, rfl⟩
      rw [script, Line.script_of_definition h]
      split
      · exact List.prefix_rfl
      · exact List.prefix_append [_] _
  | last h hdefine hblank =>
      rw [script, script, Line.script_of_definition h, if_pos hblank]
      exact Or.inl rfl
  | call h hdefine hblank =>
      rw [script, script, Line.script_of_definition h, if_neg hblank]
      exact Or.inl rfl
  | express h hcursor =>
      rw [script, script, Line.script_of_head?_ne h, hcursor, Text.words_dropWhile_space]
      exact Or.inl rfl
  | word hwords hlength hrun =>
      rw [script, script, hwords]
      exact Or.inl rfl
  | fail hwords hrun =>
      refine Or.inr ⟨?_, _, rfl⟩
      rw [script, hwords]
      exact List.prefix_append [_] _
  | finish hwords =>
      rw [script, script, hwords]
      exact Or.inl rfl
  | stay => exact Or.inl rfl

/-! ## Runs -/

/-- Nothing is done after the end. -/
theorem run_ended (n : Nat) (outcome : Except Mishap Evaluator) :
    run n (.ended outcome) = ([], .ended outcome) := by
  induction n with
  | zero => rfl
  | succ n ih => simp only [run, step, ih, List.append_nil]

/-- Where no step is needed, the end has been reached. -/
theorem exists_eq_ended (h : s.size ≤ 0) : ∃ outcome, s = .ended outcome := by
  cases s with
  | level text ev => exact absurd h (Nat.not_succ_le_zero _)
  | expression c ev => exact absurd h (Nat.not_succ_le_zero _)
  | ended outcome => exact ⟨outcome, rfl⟩

/-- An evaluation comes to its end, with the outcome it had from the start. -/
theorem run_eq_ended {n : Nat} (h : s.size ≤ n) : (run n s).2 = .ended s.outcome := by
  induction n generalizing s with
  | zero =>
      obtain ⟨outcome, rfl⟩ := exists_eq_ended h
      rfl
  | succ n ih =>
      have hsize := s.moves_step.size_le
      rw [run, ih (by omega), s.moves_step.outcome_eq]

/-- As far as an evaluation has come, it has performed a beginning of its script. -/
theorem acts_run_isPrefix (n : Nat) (s : Stage) : (run n s).1 <+: s.script := by
  induction n generalizing s with
  | zero => exact List.nil_prefix
  | succ n ih =>
      rw [run]
      rcases s.moves_step.script_eq with hscript | ⟨hacts, mishap, hended⟩
      · rw [← hscript, List.prefix_append_right_inj]
        exact ih s.step.2
      · rw [hended, run_ended, List.append_nil]
        exact hacts

/-- An evaluation that succeeds performs its whole script. -/
theorem acts_run_of_ok {n : Nat} {after : Evaluator} (h : s.size ≤ n)
    (hok : s.outcome = .ok after) : (run n s).1 = s.script := by
  induction n generalizing s with
  | zero =>
      obtain ⟨outcome, rfl⟩ := exists_eq_ended h
      rfl
  | succ n ih =>
      have hsize := s.moves_step.size_le
      have houtcome := s.moves_step.outcome_eq.trans hok
      rw [run]
      rcases s.moves_step.script_eq with hscript | ⟨-, mishap, hended⟩
      · rw [← hscript, ih (by omega) houtcome]
      · rw [hended] at houtcome
        cases houtcome

end Stage

/-! ## Levels -/

/-- The evaluation of a line, which calls itself on the text behind each definition, comes to its
end, though a normal form can be longer than its text.  It ends within as many steps as its
normal form has characters and two more, with the outcome of {lit}`Evaluator.eval`; if it
succeeds, it has made all definitions of the line and run all words of its expression.  However
far it has come, every call was given a text whose normal form has fewer semicolons than that of
the calling level and is shorter, there were at most as many definitions as the line has
semicolons and one more, and words were run on the last level only, after all definitions of the
line. -/
theorem Evaluator.levels_descend (ev : Evaluator) (text : Text) :
    (∀ t, (ev.charset.normalize t).length =
        t.length + if ev.charset.accepts 'İ' then t.count 'İ' else 0) ∧
      (∀ n, (ev.charset.normalize text).length + 2 ≤ n →
        ((Stage.level text ev).run n).2 = .ended ((ev.eval text).mapError .failure) ∧
          ∀ after, ev.eval text = .ok after →
            let acts := ((Stage.level text ev).run n).1
            acts.filterMap Act.definition? = (Line.parse ev.charset text).definitions ∧
              acts.filterMap Act.word? = (Line.parse ev.charset text).expression) ∧
      ∀ n,
        let acts := ((Stage.level text ev).run n).1
        (text :: acts.filterMap Act.call?).IsChain ev.charset.Descends ∧
          (acts.filterMap Act.definition?).length ≤ text.count ';' + 1 ∧
          ∃ before words, acts = before ++ words.map .run ∧ (∀ word, .run word ∉ before) ∧
            words <+: ev.charset.tokenize ((acts.filterMap Act.call?).getLastD text) ∧
            (words ≠ [] →
              acts.filterMap Act.definition? = (Line.parse ev.charset text).definitions) := by
  refine ⟨ev.charset.length_normalize, ?_, ?_⟩
  · intro n hn
    refine ⟨Stage.run_eq_ended hn, ?_⟩
    intro after hok
    have houtcome : (Stage.level text ev).outcome = .ok after := by
      rw [Stage.outcome, hok]
      rfl
    rw [Stage.acts_run_of_ok hn houtcome]
    exact ⟨Line.definitions_script ev.charset text, Line.words_script ev.charset text⟩
  · intro n acts
    have hacts : acts <+: Line.script ev.charset text :=
      Stage.acts_run_isPrefix n (.level text ev)
    refine ⟨?_, ?_, Line.exists_append_of_isPrefix hacts⟩
    · have hchain := Line.isChain_calls_script ev.charset text
      exact List.IsChain.prefix hchain
        ((List.prefix_cons_inj text).mpr (hacts.filterMap Act.call?))
    · have hmade := hacts.filterMap Act.definition?
      rw [Line.definitions_script] at hmade
      exact hmade.length_le.trans (Line.length_definitions_le ev.charset text)

/-- A line whose first definition has a capital I with a dot for its name. -/
def dottedLine : Text :=
  ": İ 2 ; : square dup * ; 3 square".toList

/-- What is done while that line is evaluated. -/
def dottedActs : List Act :=
  [.define ⟨some "i\u0307".toList, ["2".toList]⟩,
    .call " : square dup * ; 3 square".toList,
    .define ⟨some "square".toList, ["dup".toList, "*".toList]⟩,
    .call " 3 square".toList,
    .run "3".toList, .run "square".toList]

/-- The normal form of the line is longer than the line.  All the same its three levels descend,
and the words of its expression are run after both definitions. -/
theorem Evaluator.levels_descend_dotted :
    dottedLine.length < ((Charset.mk ['İ']).normalize dottedLine).length ∧
      ((Stage.level dottedLine (.new ⟨['İ']⟩)).run 5).1 = dottedActs ∧
      [dottedLine, " : square dup * ; 3 square".toList, " 3 square".toList].IsChain
        (Charset.mk ['İ']).Descends := by
  have hacts : ((Stage.level dottedLine (.new ⟨['İ']⟩)).run 5).1 = dottedActs := by
    decide +kernel
  have hchain := ((levels_descend (.new ⟨['İ']⟩) dottedLine).2.2 5).1
  rw [hacts] at hchain
  exact ⟨by decide +kernel, hacts, hchain⟩

end EagerForth
