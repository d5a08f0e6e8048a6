import EagerForth.Proofs.Evaluation
import Mathlib.Logic.Function.Basic

/-!
# Working copies

An evaluator can keep its stack and its dictionary in cells that are changed in place.  A
line is then carried out on copies in new cells: every definition and every word changes the
copies, also those before a failure, and a primitive that fails or a definition that cannot
be announced leaves its own change behind.  The evaluator moves over to the copies when the
whole line has succeeded, and stays at its own cells otherwise.

Main results:

- Theorem {lit}`Store.keeps_carryOut`: carrying out a line, whether it succeeds or fails
  anywhere, changes no cells but those it works on.
- Theorem {lit}`Host.exists_view`: every evaluator can be kept in cells.
- Theorems {lit}`Host.eval_of_ok` and {lit}`Host.eval_of_error`: seen from outside, an
  evaluator in cells evaluates lines exactly as {lit}`Evaluator.eval` does.
- Theorem {lit}`Host.session_succeeded`: lines that fail leave no trace in a whole session.
-/

namespace EagerForth

/-! ## Cells -/

/-- Stacks and dictionaries in numbered cells.  The cells from {lit}`next` on have not been
given out yet. -/
structure Store where
  stackAt : Nat → Stack
  wordsAt : Nat → Dictionary
  next : Nat

/-- The cell of a stack and the cell of a dictionary. -/
structure Place where
  stack : Nat
  words : Nat

namespace Store

/-- Change the stack in a cell. -/
def writeStack (s : Store) (cell : Nat) (stack : Stack) : Store :=
  { s with stackAt := Function.update s.stackAt cell stack }

/-- Change the dictionary in a cell. -/
def writeWords (s : Store) (cell : Nat) (words : Dictionary) : Store :=
  { s with wordsAt := Function.update s.wordsAt cell words }

/-- The cells that are given out next. -/
def fresh (s : Store) : Place :=
  ⟨s.next, s.next⟩

/-- Give out new cells and copy the stack and the dictionary of a place to them. -/
def copy (s : Store) (place : Place) : Store where
  stackAt := Function.update s.stackAt s.next (s.stackAt place.stack)
  wordsAt := Function.update s.wordsAt s.next (s.wordsAt place.words)
  next := s.next + 1

end Store

/-! ## Work in place -/

/-- How far some work has come: the failure that stopped it, if there was one, and the store
with everything that was done up to then. -/
structure Attempt where
  failure : Option Failure
  store : Store

/-- Go on with more work unless there was a failure. -/
def Attempt.andThen (a : Attempt) (more : Store → Attempt) : Attempt :=
  match a.failure with
  | none => more a.store
  | some _ => a

namespace Store

/-- Make a definition in the dictionary of a place. -/
def define (place : Place) (definition : Definition) (s : Store) : Attempt :=
  match Dictionary.define (s.wordsAt place.words) definition with
  | (.ok _, words) => ⟨none, s.writeWords place.words words⟩
  | (.error failure, words) => ⟨some failure, s.writeWords place.words words⟩

/-- Make definitions one after another. -/
def defineAll (place : Place) : List Definition → Store → Attempt
  | [], s => ⟨none, s⟩
  | definition :: definitions, s =>
      (s.define place definition).andThen (defineAll place definitions)

/-- Leave the stack of a run at a place, also when the run failed. -/
def ofRun (place : Place) (s : Store) : Run → Attempt
  | .done stack => ⟨none, s.writeStack place.stack stack⟩
  | .stopped failure stack => ⟨some failure, s.writeStack place.stack stack⟩

/-- Resolve a word in the dictionary of a place and run it over the stack there. -/
def runWord (primitives : Primitives) (place : Place) (word : Text) (s : Store) : Attempt :=
  match Dictionary.resolve (s.wordsAt place.words) word with
  | .error failure => ⟨some failure, s⟩
  | .ok expansion => s.ofRun place (interpret primitives expansion (s.stackAt place.stack))

/-- Run words one after another. -/
def runWords (primitives : Primitives) (place : Place) : List Text → Store → Attempt
  | [], s => ⟨none, s⟩
  | word :: words, s =>
      (s.runWord primitives place word).andThen (runWords primitives place words)

/-- Make the definitions of a line, then run its expression. -/
def carryOut (primitives : Primitives) (place : Place) (line : Line) (s : Store) : Attempt :=
  (s.defineAll place line.definitions).andThen (runWords primitives place line.expression)

/-! ## What work in place leaves alone -/

/-- Nothing has changed outside the cells of a place. -/
structure Keeps (place : Place) (s s' : Store) : Prop where
  next_eq : s'.next = s.next
  stackAt_eq : ∀ cell, cell ≠ place.stack → s'.stackAt cell = s.stackAt cell
  wordsAt_eq : ∀ cell, cell ≠ place.words → s'.wordsAt cell = s.wordsAt cell

variable {place : Place} {s s' s'' : Store}

theorem Keeps.refl (place : Place) (s : Store) : Keeps place s s := by
  constructor
  · rfl
  · intro cell _
    rfl
  · intro cell _
    rfl

theorem Keeps.trans (h : Keeps place s s') (h' : Keeps place s' s'') : Keeps place s s'' := by
  constructor
  · rw [h'.next_eq, h.next_eq]
  · intro cell hcell
    rw [h'.stackAt_eq cell hcell, h.stackAt_eq cell hcell]
  · intro cell hcell
    rw [h'.wordsAt_eq cell hcell, h.wordsAt_eq cell hcell]

/-- Changing the stack of a place changes nothing outside it. -/
theorem keeps_writeStack (place : Place) (s : Store) (stack : Stack) :
    Keeps place s (s.writeStack place.stack stack) := by
  constructor
  · rfl
  · intro cell hcell
    exact Function.update_of_ne hcell _ _
  · intro cell _
    rfl

/-- Changing the dictionary of a place changes nothing outside it. -/
theorem keeps_writeWords (place : Place) (s : Store) (words : Dictionary) :
    Keeps place s (s.writeWords place.words words) := by
  constructor
  · rfl
  · intro cell _
    rfl
  · intro cell hcell
    exact Function.update_of_ne hcell _ _

/-- Work that goes on only after success keeps what both parts of it keep. -/
theorem keeps_andThen {a : Attempt} {more : Store → Attempt} (ha : Keeps place s a.store)
    (hmore : ∀ t, Keeps place t (more t).store) : Keeps place s (a.andThen more).store := by
  unfold Attempt.andThen
  split
  · exact ha.trans (hmore a.store)
  · exact ha

/-- A definition changes its own dictionary only, also when it fails. -/
theorem keeps_define (place : Place) (definition : Definition) (s : Store) :
    Keeps place s (s.define place definition).store := by
  unfold define
  split
  · exact keeps_writeWords place s _
  · exact keeps_writeWords place s _

/-- Definitions change their own dictionary only, wherever they fail. -/
theorem keeps_defineAll (place : Place) (definitions : List Definition) (s : Store) :
    Keeps place s (s.defineAll place definitions).store := by
  induction definitions generalizing s with
  | nil => exact Keeps.refl place s
  | cons definition definitions ih => exact keeps_andThen (keeps_define place definition s) ih

/-- A word changes the stack it is run over only, also when it fails. -/
theorem keeps_runWord (primitives : Primitives) (place : Place) (word : Text) (s : Store) :
    Keeps place s (s.runWord primitives place word).store := by
  unfold runWord
  split
  · exact Keeps.refl place s
  · next expansion _ =>
      cases interpret primitives expansion (s.stackAt place.stack) with
      | done stack => exact keeps_writeStack place s stack
      | stopped failure stack => exact keeps_writeStack place s stack

/-- Words change the stack they are run over only, wherever they fail. -/
theorem keeps_runWords (primitives : Primitives) (place : Place) (words : List Text)
    (s : Store) : Keeps place s (s.runWords primitives place words).store := by
  induction words generalizing s with
  | nil => exact Keeps.refl place s
  | cons word words ih => exact keeps_andThen (keeps_runWord primitives place word s) ih

/-- Carrying out a line changes no cells but those it works on, wherever it fails. -/
theorem keeps_carryOut (primitives : Primitives) (place : Place) (line : Line) (s : Store) :
    Keeps place s (s.carryOut primitives place line).store :=
  keeps_andThen (keeps_defineAll place line.definitions s)
    (keeps_runWords primitives place line.expression)

/-! ## What work in place computes -/

@[simp]
theorem writeWords_self (s : Store) (cell : Nat) :
    s.writeWords cell (s.wordsAt cell) = s := by
  simp [writeWords]

@[simp]
theorem writeStack_self (s : Store) (cell : Nat) : s.writeStack cell (s.stackAt cell) = s := by
  simp [writeStack]

@[simp]
theorem writeWords_writeWords (s : Store) (cell : Nat) (words words' : Dictionary) :
    (s.writeWords cell words).writeWords cell words' = s.writeWords cell words' := by
  simp [writeWords]

@[simp]
theorem writeStack_writeStack (s : Store) (cell : Nat) (stack stack' : Stack) :
    (s.writeStack cell stack).writeStack cell stack' = s.writeStack cell stack' := by
  simp [writeStack]

@[simp]
theorem wordsAt_writeWords (s : Store) (cell : Nat) (words : Dictionary) :
    (s.writeWords cell words).wordsAt cell = words := by
  simp [writeWords]

@[simp]
theorem stackAt_writeStack (s : Store) (cell : Nat) (stack : Stack) :
    (s.writeStack cell stack).stackAt cell = stack := by
  simp [writeStack]

@[simp]
theorem stackAt_writeWords (s : Store) (cell : Nat) (words : Dictionary) :
    (s.writeWords cell words).stackAt = s.stackAt :=
  rfl

@[simp]
theorem wordsAt_writeStack (s : Store) (cell : Nat) (stack : Stack) :
    (s.writeStack cell stack).wordsAt = s.wordsAt :=
  rfl

/-- Definitions in place succeed when those of the dictionary as a value do, and then leave
the same dictionary. -/
theorem defineAll_of_ok {definitions : List Definition} {words : Dictionary}
    (h : Dictionary.defineAll (s.wordsAt place.words) definitions = .ok words) :
    s.defineAll place definitions = ⟨none, s.writeWords place.words words⟩ := by
  induction definitions generalizing s with
  | nil =>
      cases h
      rw [defineAll, writeWords_self]
  | cons definition definitions ih =>
      simp only [Dictionary.defineAll] at h
      split at h
      · next expansion d hdefine =>
          have hrest := ih (s := s.writeWords place.words d) (by simpa using h)
          simpa [defineAll, define, hdefine, Attempt.andThen] using hrest
      · cases h

/-- Definitions in place fail when those of the dictionary as a value do, for the same
reason. -/
theorem defineAll_of_error {definitions : List Definition} {failure : Failure}
    (h : Dictionary.defineAll (s.wordsAt place.words) definitions = .error failure) :
    (s.defineAll place definitions).failure = some failure := by
  induction definitions generalizing s with
  | nil => cases h
  | cons definition definitions ih =>
      simp only [Dictionary.defineAll] at h
      split at h
      · next expansion d hdefine =>
          have hrest := ih (s := s.writeWords place.words d) (by simpa using h)
          simpa [defineAll, define, hdefine, Attempt.andThen] using hrest
      · next first d hdefine =>
          cases h
          simp [defineAll, define, hdefine, Attempt.andThen]

/-- What a run leaves at a place does not depend on the stack that was there. -/
theorem ofRun_writeStack (place : Place) (s : Store) (stack : Stack) (r : Run) :
    (s.writeStack place.stack stack).ofRun place r = s.ofRun place r := by
  cases r with
  | done after => simp only [ofRun, writeStack_writeStack]
  | stopped failure after => simp only [ofRun, writeStack_writeStack]

/-- Going on in place after a run is going on with the run. -/
theorem ofRun_andThen {r : Run} {more : Store → Attempt} {next : Stack → Run}
    (h : ∀ stack, more (s.writeStack place.stack stack) = s.ofRun place (next stack)) :
    (s.ofRun place r).andThen more = s.ofRun place (r.andThen next) := by
  cases r with
  | done stack => exact h stack
  | stopped failure stack => rfl

/-- Running words in place is running them over the stack as a value. -/
theorem runWords_eq_ofRun (primitives : Primitives) (place : Place) (words : List Text)
    (s : Store) :
    s.runWords primitives place words = s.ofRun place
      (EagerForth.runWords primitives (s.wordsAt place.words) words
        (s.stackAt place.stack)) := by
  induction words generalizing s with
  | nil => simp [runWords, ofRun]
  | cons word words ih =>
      simp only [runWords, runWord, EagerForth.runWords]
      cases hword : Dictionary.resolve (s.wordsAt place.words) word with
      | error failure => simp only [Attempt.andThen, ofRun, writeStack_self]
      | ok expansion =>
          apply ofRun_andThen
          intro stack
          rw [ih, ofRun_writeStack, wordsAt_writeStack, stackAt_writeStack]

end Store

/-! ## Evaluators in cells -/

/-- An evaluator that keeps its stack and its dictionary in cells that a store has given out.
The other cells may hold anything. -/
structure Host where
  store : Store
  place : Place
  primitives : Primitives
  charset : Charset
  stack_lt : place.stack < store.next
  words_lt : place.words < store.next

namespace Host

/-- What can be seen of an evaluator in cells. -/
def view (host : Host) : Evaluator where
  stack := host.store.stackAt host.place.stack
  words := host.store.wordsAt host.place.words
  primitives := host.primitives
  charset := host.charset

/-- Carry out a line on copies of the stack and the dictionary. -/
def attempt (host : Host) (text : Text) : Attempt :=
  (host.store.copy host.place).carryOut host.primitives host.store.fresh
    (Line.parse host.charset text)

/-- Work on copies gives out the cells of the copies and no others. -/
theorem next_attempt (host : Host) (text : Text) :
    (host.attempt text).store.next = host.store.next + 1 :=
  (Store.keeps_carryOut _ _ _ _).next_eq

/-- Evaluate a line: carry it out on copies and, when that has succeeded, move over to
them. -/
def eval (host : Host) (text : Text) : Option Failure × Host :=
  match (host.attempt text).failure with
  | none =>
      (none,
        { host with
          store := (host.attempt text).store
          place := host.store.fresh
          stack_lt := by
            rw [next_attempt]
            exact Nat.lt_succ_self _
          words_lt := by
            rw [next_attempt]
            exact Nat.lt_succ_self _ })
  | some failure =>
      (some failure,
        { host with
          store := (host.attempt text).store
          stack_lt := by
            rw [next_attempt]
            exact Nat.lt_succ_of_lt host.stack_lt
          words_lt := by
            rw [next_attempt]
            exact Nat.lt_succ_of_lt host.words_lt })

/-- Work on copies does not change the cells of the evaluator. -/
theorem attempt_store_eq (host : Host) (text : Text) :
    (host.attempt text).store.stackAt host.place.stack =
        host.store.stackAt host.place.stack ∧
      (host.attempt text).store.wordsAt host.place.words =
        host.store.wordsAt host.place.words := by
  have hkeeps := Store.keeps_carryOut host.primitives host.store.fresh
    (Line.parse host.charset text) (host.store.copy host.place)
  -- The cells of the copies are new, so neither of them is a cell of the evaluator.
  have hstack : host.place.stack ≠ host.store.next := Nat.ne_of_lt host.stack_lt
  have hwords : host.place.words ≠ host.store.next := Nat.ne_of_lt host.words_lt
  constructor
  · rw [attempt, hkeeps.stackAt_eq _ hstack]
    exact Function.update_of_ne hstack _ _
  · rw [attempt, hkeeps.wordsAt_eq _ hwords]
    exact Function.update_of_ne hwords _ _

/-- The copies start with the dictionary of the evaluator. -/
@[simp]
theorem wordsAt_copy (host : Host) :
    (host.store.copy host.place).wordsAt host.store.fresh.words = host.view.words :=
  Function.update_self _ _ _

/-- The copies start with the stack of the evaluator. -/
@[simp]
theorem stackAt_copy (host : Host) :
    (host.store.copy host.place).stackAt host.store.fresh.stack = host.view.stack :=
  Function.update_self _ _ _

/-- When the definitions of a line succeed, what is left of the work on the copies is to run
its expression. -/
theorem attempt_of_defineAll {host : Host} {text : Text} {words : Dictionary}
    (h : Dictionary.defineAll host.view.words (Line.parse host.charset text).definitions =
      .ok words) :
    host.attempt text =
      ((host.store.copy host.place).writeWords host.store.fresh.words words).ofRun
        host.store.fresh (runWords host.primitives words
          (Line.parse host.charset text).expression host.view.stack) := by
  rw [← wordsAt_copy] at h
  rw [attempt, Store.carryOut, Store.defineAll_of_ok h]
  simp only [Attempt.andThen, Store.runWords_eq_ofRun, Store.wordsAt_writeWords,
    Store.stackAt_writeWords, stackAt_copy]

/-- A line that succeeds with values succeeds on the copies and leaves the same stack and
dictionary there. -/
theorem attempt_of_ok {host : Host} {text : Text} {after : Evaluator}
    (h : host.view.eval text = .ok after) :
    (host.attempt text).failure = none ∧
      (host.attempt text).store.stackAt host.store.fresh.stack = after.stack ∧
      (host.attempt text).store.wordsAt host.store.fresh.words = after.words ∧
      after.primitives = host.primitives ∧ after.charset = host.charset := by
  rw [Evaluator.eval_eq_carryOut, Evaluator.carryOut_eq_ok_iff] at h
  rcases h with ⟨words, stack, hwords, hstack, rfl⟩
  have hrun : runWords host.primitives words (Line.parse host.charset text).expression
      host.view.stack = .done stack := hstack
  rw [attempt_of_defineAll hwords, hrun]
  exact ⟨rfl, by simp [Store.ofRun], by simp [Store.ofRun], rfl, rfl⟩

/-- A line that fails with values fails on the copies for the same reason. -/
theorem attempt_of_error {host : Host} {text : Text} {failure : Failure}
    (h : host.view.eval text = .error failure) :
    (host.attempt text).failure = some failure := by
  rw [Evaluator.eval_eq_carryOut, Evaluator.carryOut_eq_error_iff] at h
  rcases h with hwords | ⟨words, left, hwords, hleft⟩
  · rw [← wordsAt_copy] at hwords
    have hfailure := Store.defineAll_of_error hwords
    unfold attempt Store.carryOut Attempt.andThen
    split
    · next hnone =>
        have hsome := hfailure.symm.trans hnone
        cases hsome
    · exact hfailure
  · have hrun : runWords host.primitives words (Line.parse host.charset text).expression
        host.view.stack = .stopped failure left := hleft
    rw [attempt_of_defineAll hwords, hrun]
    rfl

/-- Seen from outside, a line that succeeds with values succeeds in cells and leaves the same
evaluator. -/
theorem eval_of_ok {host : Host} {text : Text} {after : Evaluator}
    (h : host.view.eval text = .ok after) :
    (host.eval text).1 = none ∧ (host.eval text).2.view = after := by
  rcases attempt_of_ok h with ⟨hnone, hstack, hwords, hprimitives, hcharset⟩
  unfold eval
  split
  · refine ⟨rfl, ?_⟩
    apply Evaluator.ext
    · exact hstack
    · exact hwords
    · exact hprimitives.symm
    · exact hcharset.symm
  · next failure hsome =>
      rw [hnone] at hsome
      cases hsome

/-- Seen from outside, a line that fails with values fails in cells for the same reason and
leaves the evaluator as it was, whatever has become of the copies. -/
theorem eval_of_error {host : Host} {text : Text} {failure : Failure}
    (h : host.view.eval text = .error failure) :
    (host.eval text).1 = some failure ∧ (host.eval text).2.view = host.view := by
  have hsome := attempt_of_error h
  rcases host.attempt_store_eq text with ⟨hstack, hwords⟩
  unfold eval
  split
  · next hnone =>
      rw [hnone] at hsome
      cases hsome
  · next other hother =>
      rw [hother, Option.some.injEq] at hsome
      refine ⟨congrArg some hsome, ?_⟩
      apply Evaluator.ext
      · exact hstack
      · exact hwords
      · rfl
      · rfl

/-! ## Sessions -/

/-- One line of a session: the evaluator before it, its text, the failure it met with and the
evaluator after it. -/
structure Step where
  before : Evaluator
  text : Text
  failure : Option Failure
  after : Evaluator

/-- Whether a line met with no failure. -/
def Step.succeeded (step : Step) : Bool :=
  step.failure.isNone

/-- Evaluate lines one after another, going on after those that fail. -/
def session (host : Host) : List Text → List Step
  | [] => []
  | text :: texts =>
      ⟨host.view, text, (host.eval text).1, (host.eval text).2.view⟩ ::
        session (host.eval text).2 texts

/-- The evaluator after a session. -/
def finish (host : Host) (texts : List Text) : Host :=
  texts.foldl (fun host text => (host.eval text).2) host

/-- The texts of a session that met with no failure. -/
def keptTexts (host : Host) (texts : List Text) : List Text :=
  ((host.session texts).filter Step.succeeded).map Step.text

/-- Every evaluator is the view of one in cells. -/
theorem exists_view (ev : Evaluator) : ∃ host : Host, host.view = ev :=
  ⟨{ store := ⟨fun _ => ev.stack, fun _ => ev.words, 1⟩
     place := ⟨0, 0⟩
     primitives := ev.primitives
     charset := ev.charset
     stack_lt := Nat.zero_lt_one
     words_lt := Nat.zero_lt_one }, rfl⟩

/-- What comes of a line depends on nothing but the view of the evaluator. -/
theorem eval_congr {host host' : Host} (h : host.view = host'.view) (text : Text) :
    (host.eval text).1 = (host'.eval text).1 ∧
      (host.eval text).2.view = (host'.eval text).2.view := by
  cases hev : host.view.eval text with
  | ok after =>
      rcases eval_of_ok hev with ⟨hnone, hafter⟩
      rcases eval_of_ok (h ▸ hev) with ⟨hnone', hafter'⟩
      exact ⟨hnone.trans hnone'.symm, hafter.trans hafter'.symm⟩
  | error failure =>
      rcases eval_of_error hev with ⟨hsome, hafter⟩
      have hev' : host'.view.eval text = .error failure := h ▸ hev
      rcases eval_of_error hev' with ⟨hsome', hafter'⟩
      exact ⟨hsome.trans hsome'.symm, hafter.trans (h.trans hafter'.symm)⟩

/-- A session depends on nothing but the view of the evaluator. -/
theorem session_congr {host host' : Host} (h : host.view = host'.view) (texts : List Text) :
    host.session texts = host'.session texts ∧
      (host.finish texts).view = (host'.finish texts).view := by
  induction texts generalizing host host' with
  | nil => exact ⟨rfl, h⟩
  | cons text texts ih =>
      rcases eval_congr h text with ⟨hfailure, hview⟩
      rcases ih hview with ⟨hsession, hfinish⟩
      constructor
      · simp only [session, h, hfailure, hview, hsession]
      · exact hfinish

/-- A line that fails leaves the view of the evaluator as it was. -/
theorem view_eval_of_failure {host : Host} {text : Text}
    (h : (host.eval text).1 ≠ none) : (host.eval text).2.view = host.view := by
  cases hev : host.view.eval text with
  | ok after => exact absurd (eval_of_ok hev).1 h
  | error failure => exact (eval_of_error hev).2

/-- Every line of a session is evaluated as with values, and a line that fails leaves the
evaluator as it was. -/
theorem step_of_mem_session {host : Host} {texts : List Text} {step : Step}
    (h : step ∈ host.session texts) :
    step.before.eval step.text =
        (match step.failure with
        | none => .ok step.after
        | some failure => .error failure) ∧
      (step.failure ≠ none → step.after = step.before) := by
  induction texts generalizing host with
  | nil => cases h
  | cons text texts ih =>
      rcases List.mem_cons.mp h with rfl | hrest
      · refine ⟨?_, view_eval_of_failure⟩
        cases hev : host.view.eval text with
        | ok after =>
            rcases eval_of_ok hev with ⟨hnone, hafter⟩
            simp only [hnone, hafter]
        | error failure => simp only [(eval_of_error hev).1]
      · exact ih hrest

/-- A line that succeeds is kept. -/
theorem filter_session_cons_of_success {host : Host} {text : Text} (texts : List Text)
    (h : (host.eval text).1 = none) :
    (host.session (text :: texts)).filter Step.succeeded =
      ⟨host.view, text, none, (host.eval text).2.view⟩ ::
        ((host.eval text).2.session texts).filter Step.succeeded := by
  rw [session, h]
  exact List.filter_cons_of_pos rfl

/-- A line that fails is left out. -/
theorem filter_session_cons_of_failure {host : Host} {text : Text} {failure : Failure}
    (texts : List Text) (h : (host.eval text).1 = some failure) :
    (host.session (text :: texts)).filter Step.succeeded =
      ((host.eval text).2.session texts).filter Step.succeeded := by
  rw [session, h]
  exact List.filter_cons_of_neg (by simp [Step.succeeded])

/-- Lines that fail leave no trace in a session.  The lines that did not fail, evaluated from
the same start, all succeed again and pass through the same evaluators to the same end. -/
theorem session_succeeded (host : Host) (texts : List Text) :
    host.session (host.keptTexts texts) = (host.session texts).filter Step.succeeded ∧
      (host.finish (host.keptTexts texts)).view = (host.finish texts).view := by
  induction texts generalizing host with
  | nil => exact ⟨rfl, rfl⟩
  | cons text texts ih =>
      rcases ih (host.eval text).2 with ⟨hsession, hfinish⟩
      cases hfailure : (host.eval text).1 with
      | none =>
          have hsteps := filter_session_cons_of_success texts hfailure
          have hkept : host.keptTexts (text :: texts) =
              text :: (host.eval text).2.keptTexts texts := by
            rw [keptTexts, hsteps]
            rfl
          rw [hkept, hsteps, ← hsession, session, hfailure]
          exact ⟨rfl, hfinish⟩
      | some failure =>
          have hsteps := filter_session_cons_of_failure texts hfailure
          have hkept : host.keptTexts (text :: texts) =
              (host.eval text).2.keptTexts texts := by
            rw [keptTexts, hsteps]
            rfl
          -- The failed line is left out, and the rest may as well start without it.
          have hview : (host.eval text).2.view = host.view :=
            view_eval_of_failure (by simp [hfailure])
          rcases session_congr hview.symm ((host.eval text).2.keptTexts texts) with
            ⟨hsame, hend⟩
          rw [hkept, hsteps, ← hsession, hsame, hend]
          exact ⟨rfl, hfinish⟩

/-- A session with the failed lines left out is the same session: it has the same steps but
for the failed ones, and the same end.  Each step does what the evaluation of its text with
values says, and a step that fails, wherever in its line, leaves stack and dictionary as they
were. -/
theorem failed_lines_leave_no_trace (host : Host) (texts : List Text) :
    host.session (host.keptTexts texts) = (host.session texts).filter Step.succeeded ∧
      (host.finish (host.keptTexts texts)).view = (host.finish texts).view ∧
      ∀ step ∈ host.session texts,
        step.before.eval step.text =
            (match step.failure with
            | none => .ok step.after
            | some failure => .error failure) ∧
          (step.failure ≠ none → step.after = step.before) := by
  rcases session_succeeded host texts with ⟨hsession, hfinish⟩
  refine ⟨hsession, hfinish, ?_⟩
  intro step hstep
  exact step_of_mem_session hstep

end Host

end EagerForth
