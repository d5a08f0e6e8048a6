import EagerForth.Proofs.DigitRuns
import EagerForth.Proofs.Expression
import EagerForth.Proofs.Stepwise

/-!
# Grounded evaluators

The dictionary of an evaluator and its primitives are two tables, and different actions change
them: lines and single definitions change the one, a new primitive changes both.  The expansions
in the dictionary stay grounded in the primitives all the same: each token is a literal that can
be written or names a primitive that is installed, whatever names have been given new meanings.
So lines only ever fail with a fault or at a numeral that has too many digits in the line itself.

Main results:

- Theorem {lit}`Dictionary.Grounded.define_eq_error`: a definition over grounded expansions
  fails before anything is stored.
- Theorem {lit}`Evaluator.Grounded.perform`: no action makes a grounded evaluator ungrounded.
- Theorem {lit}`Evaluator.Grounded.eval_eq_error`: what a line can fail with.
- Theorem {lit}`Evaluator.only_faults_and_long_numerals`: both for every evaluator that actions
  lead to from a new one.
-/

namespace EagerForth

/-! ## Grounded tokens -/

/-- A token is grounded in the installed primitives when it is a literal that can be written, or
names one of them. -/
def Token.Grounded (primitives : Primitives) : Token → Prop
  | .literal n => (Numeral.magnitudeDigits n).length ≤ Numeral.digitLimit
  | .primitive name => primitives.contains name = true

/-- All tokens of an expansion are grounded. -/
def Expansion.Grounded (primitives : Primitives) (expansion : Expansion) : Prop :=
  ∀ token ∈ expansion, token.Grounded primitives

/-- All expansions in a dictionary are grounded. -/
def Dictionary.Grounded (primitives : Primitives) (d : Dictionary) : Prop :=
  ∀ name expansion, d.find? name = some expansion → expansion.Grounded primitives

/-- All expansions of an evaluator are grounded in its primitives. -/
def Evaluator.Grounded (ev : Evaluator) : Prop :=
  ev.words.Grounded ev.primitives

variable {primitives : Primitives}

/-- A primitive that is installed takes the ground from no token, even if it takes the place of
another. -/
theorem Token.Grounded.insert {token : Token} (h : token.Grounded primitives) (name : Text)
    (p : Primitive) : token.Grounded (primitives.insert name p) := by
  cases token with
  | literal n => exact h
  | primitive other =>
      simp only [Token.Grounded, NameTable.contains] at h ⊢
      by_cases hname : other = name
      · rw [hname, NameTable.find?_insert_self]
        rfl
      · rwa [NameTable.find?_insert_of_ne _ hname]

/-- A grounded expansion can be written. -/
theorem Expansion.Grounded.isWritable {expansion : Expansion}
    (h : expansion.Grounded primitives) : expansion.isWritable = true := by
  rw [Expansion.isWritable, List.all_eq_true]
  intro token htoken
  cases token with
  | literal n =>
      have hlength : (Numeral.magnitudeDigits n).length ≤ Numeral.digitLimit := h _ htoken
      simp [Token.isWritable, Numeral.write?, hlength]
  | primitive name => rfl

/-- A primitive stops with a fault, if at all. -/
theorem Primitive.exists_fault_of_run {p : Primitive} {stack left : Stack} {failure : Failure}
    (h : p.run stack = .stopped failure left) : ∃ fault, failure = .fault fault := by
  unfold Primitive.run at h
  split at h
  · split at h
    · cases h
    · next fault _ =>
        cases h
        exact ⟨fault, rfl⟩
  · cases h
    exact ⟨.stackUnderflow, rfl⟩

/-- A grounded token stops with a fault, if at all: its primitive is there to be run. -/
theorem Token.Grounded.exists_fault_of_run {token : Token} (h : token.Grounded primitives)
    {stack left : Stack} {failure : Failure}
    (hrun : token.run primitives stack = .stopped failure left) :
    ∃ fault, failure = .fault fault := by
  cases token with
  | literal n => cases hrun
  | primitive name =>
      rcases Option.isSome_iff_exists.mp h with ⟨p, hp⟩
      simp only [Token.run, hp] at hrun
      exact Primitive.exists_fault_of_run hrun

/-- Grounded tokens stop with a fault, if at all. -/
theorem Expansion.Grounded.exists_fault_of_interpret {expansion : Expansion}
    (h : expansion.Grounded primitives) {stack left : Stack} {failure : Failure}
    (hrun : interpret primitives expansion stack = .stopped failure left) :
    ∃ fault, failure = .fault fault := by
  induction expansion generalizing stack with
  | nil => cases hrun
  | cons token tokens ih =>
      rcases List.forall_mem_cons.mp h with ⟨htoken, htokens⟩
      rw [interpret] at hrun
      cases hfirst : token.run primitives stack with
      | done after =>
          rw [hfirst] at hrun
          exact ih htokens hrun
      | stopped first after =>
          rw [hfirst] at hrun
          cases hrun
          exact htoken.exists_fault_of_run hfirst

/-! ## Failures that words account for -/

/-- A failure that comes of the given words: a fault of any kind, or the digit limit when one of
the words is a numeral with too many digits. -/
def Failure.DueTo (words : List Text) : Failure → Prop
  | .fault _ => True
  | .digitLimit => ∃ w ∈ words, Numeral.read w = .tooLong
  | .missingPrimitive _ => False

theorem Failure.DueTo.mono {words words' : List Text} {failure : Failure}
    (h : failure.DueTo words) (hsubset : words ⊆ words') : failure.DueTo words' := by
  cases failure with
  | fault fault => trivial
  | digitLimit =>
      rcases h with ⟨w, hw, hread⟩
      exact ⟨w, hsubset hw, hread⟩
  | missingPrimitive name => exact h

namespace Dictionary

variable {d d' : Dictionary}

/-- A word that cannot be resolved accounts for the failure. -/
theorem dueTo_of_resolve {word : Text} {failure : Failure}
    (h : d.resolve word = .error failure) : failure.DueTo [word] := by
  rcases resolve_eq_error_iff.mp h with ⟨hread, rfl⟩ | ⟨-, -, rfl⟩
  · exact ⟨word, List.mem_singleton_self word, hread⟩
  · trivial

/-- Words that cannot be expanded account for the failure. -/
theorem dueTo_of_expand {words : List Text} {failure : Failure}
    (h : d.expand words = .error failure) : failure.DueTo words := by
  rcases expand_eq_error_iff.mp h with ⟨before, word, after, tokens, rfl, -, hword⟩
  exact (dueTo_of_resolve hword).mono (by simp)

/-- A name that cannot be given accounts for the failure. -/
theorem dueTo_of_checkName {name? : Option Text} {failure : Failure}
    (h : checkName name? = .error failure) : failure.DueTo name?.toList := by
  cases name? with
  | none =>
      cases h
      trivial
  | some name =>
      simp only [checkName] at h
      split at h
      · cases h
        trivial
      · split at h
        · cases h
          trivial
        · next hread =>
            cases h
            exact ⟨name, List.mem_singleton_self name, hread⟩
        · cases h

/-- The words of a definition account for the failure to make an entry of it. -/
theorem dueTo_of_entryOf {definition : Definition} {failure : Failure}
    (h : d.entryOf definition = .error failure) : failure.DueTo definition.words := by
  unfold entryOf at h
  split at h
  · next first hname =>
      cases h
      exact (dueTo_of_checkName hname).mono (List.subset_append_left _ _)
  · split at h
    · next first hbody =>
        cases h
        exact (dueTo_of_expand hbody).mono (List.subset_append_right _ _)
    · cases h

end Dictionary

/-! ## Grounded dictionaries -/

namespace Dictionary.Grounded

variable {d d' : Dictionary}

/-- A grounded expansion under any name keeps a dictionary grounded. -/
theorem insert (h : d.Grounded primitives) {expansion : Expansion}
    (hexpansion : expansion.Grounded primitives) (name : Text) :
    Dictionary.Grounded primitives (NameTable.insert d name expansion) := by
  intro other found hfound
  by_cases hname : other = name
  · rw [hname, NameTable.find?_insert_self, Option.some.injEq] at hfound
    exact hfound ▸ hexpansion
  · rw [NameTable.find?_insert_of_ne _ hname] at hfound
    exact h other found hfound

/-- A primitive that is installed takes the ground from no expansion in a dictionary. -/
theorem install (h : d.Grounded primitives) (name : Text) (p : Primitive) :
    d.Grounded (primitives.insert name p) :=
  fun other expansion hfind token htoken => (h other expansion hfind token htoken).insert name p

/-- A name may stand for a primitive that is installed under it. -/
theorem addBuiltin (h : d.Grounded primitives) {name : Text}
    (hname : primitives.contains name = true) : (d.addBuiltin name).Grounded primitives := by
  apply h.insert
  intro token htoken
  rw [List.mem_singleton.mp htoken]
  exact hname

/-- What a word stands for is grounded: a numeral that has been read can be written. -/
theorem of_resolve (h : d.Grounded primitives) {word : Text} {expansion : Expansion}
    (hword : d.resolve word = .ok expansion) : expansion.Grounded primitives := by
  unfold Dictionary.resolve at hword
  split at hword
  · next n hread =>
      cases hword
      intro token htoken
      rw [List.mem_singleton.mp htoken]
      exact Numeral.length_magnitudeDigits_le_of_read hread
  · cases hword
  · split at hword
    · next hfound =>
        cases hword
        exact h word expansion hfound
    · cases hword

/-- What words stand for is grounded. -/
theorem of_expand (h : d.Grounded primitives) {words : List Text} {expansion : Expansion}
    (hwords : d.expand words = .ok expansion) : expansion.Grounded primitives := by
  induction words generalizing expansion with
  | nil =>
      cases hwords
      intro token htoken
      cases htoken
  | cons word words ih =>
      simp only [Dictionary.expand] at hwords
      split at hwords
      · cases hwords
      · next first hfirst =>
          split at hwords
          · cases hwords
          · next rest hrest =>
              cases hwords
              exact List.forall_mem_append.mpr ⟨h.of_resolve hfirst, ih hrest⟩

/-- The entry that a definition makes is grounded. -/
theorem of_entryOf (h : d.Grounded primitives) {definition : Definition} {name : Text}
    {expansion : Expansion} (hentry : d.entryOf definition = .ok (name, expansion)) :
    expansion.Grounded primitives :=
  h.of_expand (entryOf_eq_ok hentry).2.2

/-- A definition keeps a dictionary grounded, also when it fails. -/
theorem define (h : d.Grounded primitives) (definition : Definition) :
    (d.define definition).2.Grounded primitives := by
  unfold Dictionary.define
  split
  · exact h
  · next name expansion hentry => exact h.insert (h.of_entryOf hentry) name

/-- A definition over grounded expansions fails before anything is stored, since its expansion
can be written. -/
theorem define_eq_error (h : d.Grounded primitives) {definition : Definition}
    {failure : Failure} (hdefine : d.define definition = (.error failure, d')) :
    d.entryOf definition = .error failure ∧ d' = d := by
  unfold Dictionary.define at hdefine
  split at hdefine
  · next first hentry =>
      cases hdefine
      exact ⟨hentry, rfl⟩
  · next name expansion hentry =>
      rw [(h.of_entryOf hentry).isWritable, if_pos rfl] at hdefine
      cases hdefine

/-- Definitions made one after another keep a dictionary grounded. -/
theorem defineAll (h : d.Grounded primitives) {definitions : List Definition}
    (hdefine : d.defineAll definitions = .ok d') : d'.Grounded primitives := by
  induction definitions generalizing d with
  | nil =>
      cases hdefine
      exact h
  | cons definition definitions ih =>
      simp only [Dictionary.defineAll] at hdefine
      split at hdefine
      · next expansion next hnext =>
          have hgrounded := h.define definition
          rw [hnext] at hgrounded
          exact ih hgrounded hdefine
      · cases hdefine

/-- The words of definitions account for their failure. -/
theorem dueTo_of_defineAll (h : d.Grounded primitives) {definitions : List Definition}
    {failure : Failure} (hdefine : d.defineAll definitions = .error failure) :
    failure.DueTo (definitions.flatMap Definition.words) := by
  induction definitions generalizing d with
  | nil => cases hdefine
  | cons definition definitions ih =>
      rw [List.flatMap_cons]
      simp only [Dictionary.defineAll] at hdefine
      split at hdefine
      · next expansion next hnext =>
          have hgrounded := h.define definition
          rw [hnext] at hgrounded
          exact (ih hgrounded hdefine).mono (List.subset_append_right _ _)
      · next first next hfirst =>
          cases hdefine
          exact (dueTo_of_entryOf (h.define_eq_error hfirst).1).mono
            (List.subset_append_left _ _)

/-- Words that are run account for the failure that stops them. -/
theorem dueTo_of_runWords (h : d.Grounded primitives) {words : List Text}
    {stack left : Stack} {failure : Failure}
    (hrun : runWords primitives d words stack = .stopped failure left) :
    failure.DueTo words := by
  induction words generalizing stack with
  | nil => cases hrun
  | cons word words ih =>
      simp only [runWords] at hrun
      split at hrun
      · next first hword =>
          cases hrun
          exact (dueTo_of_resolve hword).mono (by simp)
      · next expansion hword =>
          cases hfirst : interpret primitives expansion stack with
          | done after =>
              rw [hfirst] at hrun
              exact (ih hrun).mono (List.subset_cons_self word words)
          | stopped first after =>
              rw [hfirst] at hrun
              cases hrun
              rcases (h.of_resolve hword).exists_fault_of_interpret hfirst with ⟨fault, rfl⟩
              trivial

end Dictionary.Grounded

/-! ## Grounded evaluators -/

/-- What can be done with an evaluator. -/
inductive Action where
  /-- Evaluate a line, and go on if it fails. -/
  | line (text : Text)
  /-- Install a primitive. -/
  | install (name : Text) (p : Primitive)
  /-- Make a definition in the dictionary, and go on if it fails. -/
  | define (definition : Definition)

namespace Evaluator

/-- The evaluator after an action. -/
def perform (ev : Evaluator) : Action → Evaluator
  | .line text =>
      match ev.eval text with
      | .ok after => after
      | .error _ => ev
  | .install name p => ev.addPrimitive name p
  | .define definition => { ev with words := (Dictionary.define ev.words definition).2 }

/-- The evaluator after actions that are taken one after another. -/
def performAll (ev : Evaluator) (actions : List Action) : Evaluator :=
  actions.foldl perform ev

namespace Grounded

variable {ev after : Evaluator}

/-- A new primitive and its name keep an evaluator grounded. -/
theorem addPrimitive (h : ev.Grounded) (name : Text) (p : Primitive) :
    (ev.addPrimitive name p).Grounded :=
  (Dictionary.Grounded.install h name p).addBuiltin (by simp [NameTable.contains])

/-- A line that succeeds keeps an evaluator grounded. -/
theorem eval (h : ev.Grounded) {text : Text} (heval : ev.eval text = .ok after) :
    after.Grounded := by
  rcases carryOut_eq_ok_iff.mp heval with ⟨words, stack, hwords, -, rfl⟩
  exact h.defineAll hwords

/-- No action makes a grounded evaluator ungrounded. -/
theorem perform (h : ev.Grounded) (action : Action) : (ev.perform action).Grounded := by
  cases action with
  | line text =>
      simp only [Evaluator.perform]
      split
      · next after heval => exact h.eval heval
      · exact h
  | install name p => exact h.addPrimitive name p
  | define definition => exact h.define definition

/-- No row of actions makes a grounded evaluator ungrounded. -/
theorem performAll (h : ev.Grounded) (actions : List Action) :
    (ev.performAll actions).Grounded := by
  induction actions generalizing ev with
  | nil => exact h
  | cons action actions ih => exact ih (h.perform action)

/-- The words of a line account for its failure. -/
theorem dueTo_of_eval (h : ev.Grounded) {text : Text} {failure : Failure}
    (heval : ev.eval text = .error failure) :
    failure.DueTo (Line.parse ev.charset text).words := by
  rcases carryOut_eq_error_iff.mp heval with hdefine | ⟨words, left, hwords, hrun⟩
  · exact (h.dueTo_of_defineAll hdefine).mono (List.subset_append_left _ _)
  · have hgrounded := Dictionary.Grounded.defineAll h hwords
    exact (hgrounded.dueTo_of_runWords hrun).mono (List.subset_append_right _ _)

/-- A line over a grounded evaluator fails with a fault, or it has too many digits in a row. -/
theorem eval_eq_error (h : ev.Grounded) {text : Text} {failure : Failure}
    (heval : ev.eval text = .error failure) :
    (∃ fault, failure = .fault fault) ∨
      failure = .digitLimit ∧ ∃ run, run <:+: ev.charset.normalize text ∧
        (∀ c ∈ run, c.isDigit = true) ∧ Numeral.digitLimit < run.length := by
  have hdue := h.dueTo_of_eval heval
  cases failure with
  | fault fault => exact Or.inl ⟨fault, rfl⟩
  | missingPrimitive name => exact hdue.elim
  | digitLimit =>
      rcases hdue with ⟨w, hw, hread⟩
      rcases Numeral.exists_digitRun_of_tooLong hread with ⟨run, hrun, hlong⟩
      have htext := Line.digitRuns_subset ev.charset text w hw hrun
      rw [← ev.charset.digitRuns_normalize text] at htext
      rcases Text.isInfix_of_mem_fields htext with ⟨hstands, hdigits⟩
      exact Or.inr ⟨rfl, run, hstands, fun c hc => by simpa using hdigits c hc, hlong⟩

end Grounded

/-- A new evaluator is grounded, being made by installing one primitive after another. -/
theorem grounded_new (charset : Charset) : (new charset).Grounded := by
  have hfold : ∀ (entries : List (Text × Primitive)) (ev : Evaluator), ev.Grounded →
      (entries.foldl (fun ev entry => ev.addPrimitive entry.1 entry.2) ev).Grounded := by
    intro entries
    induction entries with
    | nil => exact fun ev h => h
    | cons entry entries ih => exact fun ev h => ih _ (h.addPrimitive entry.1 entry.2)
  apply hfold
  intro name expansion hfind
  cases hfind

/-- Whatever lines are evaluated, primitives installed and definitions made, with success or
not, every token in the dictionary is a literal within the digit limit or names a primitive that
is installed.  So a line, even when it is read while it is evaluated, succeeds, or fails with a
fault, or fails at the digit limit; and the latter only if its normal form has more digits in a
row than the limit allows. -/
theorem only_faults_and_long_numerals (charset : Charset) (actions : List Action) :
    let ev := (new charset).performAll actions
    ev.Grounded ∧ ∀ text,
      ev.evalStepwise text = (ev.eval text).mapError .failure ∧
        ∀ failure, ev.eval text = .error failure →
          (∃ fault, failure = .fault fault) ∨
            failure = .digitLimit ∧ ∃ run, run <:+: ev.charset.normalize text ∧
              (∀ c ∈ run, c.isDigit = true) ∧ Numeral.digitLimit < run.length := by
  intro ev
  have hgrounded : ev.Grounded := (grounded_new charset).performAll actions
  refine ⟨hgrounded, ?_⟩
  intro text
  exact ⟨evalStepwise_eq_eval ev text, fun failure heval => hgrounded.eval_eq_error heval⟩

/-- A line that fails, a word built on a primitive, and the replacement of that primitive. -/
def replacement : List Action :=
  [.line "1 +".toList, .define ⟨some "twice".toList, ["dup".toList, "+".toList]⟩,
    .install "dup".toList ⟨0, fun _ => .ok [7, -7]⟩]

/-- The word then runs the replacement, and a division after it fails. -/
theorem only_faults_and_long_numerals_replacement :
    ((new .legacy).performAll replacement).Grounded ∧
      ((new .legacy).performAll replacement).eval "1 twice /".toList =
        .error (.fault .divisionByZero) ∧
      ((∃ fault, Failure.fault .divisionByZero = .fault fault) ∨
        Failure.fault .divisionByZero = .digitLimit ∧
          ∃ run, run <:+: ((new .legacy).performAll replacement).charset.normalize
              "1 twice /".toList ∧
            (∀ c ∈ run, c.isDigit = true) ∧ Numeral.digitLimit < run.length) := by
  have hline : (new .legacy).eval "1 +".toList = .error (.fault .stackUnderflow) := by
    rw [eval_of_not_definition rfl]
    rfl
  have heval : ((new .legacy).performAll replacement).eval "1 twice /".toList =
      .error (.fault .divisionByZero) := by
    simp only [performAll, replacement, List.foldl_cons, List.foldl_nil, perform, hline]
    rw [eval_of_not_definition rfl]
    rfl
  rcases only_faults_and_long_numerals .legacy replacement with ⟨hgrounded, hlines⟩
  exact ⟨hgrounded, heval, (hlines "1 twice /".toList).2 _ heval⟩

end Evaluator

end EagerForth
