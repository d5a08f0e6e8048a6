import EagerForth.Proofs.Depth
import EagerForth.Proofs.Grounded
import EagerForth.Proofs.LineWords

/-!
# Sessions

A session is a row of lines that are evaluated one after another from a new evaluator, where a
line that fails leaves everything as it was.  No line changes the accepted characters or the
primitives, so the only faults in a session are those of the built-in primitives and of the
words of the line that is evaluated.

Main results:

- Theorem {lit}`Evaluator.origin_of_eval`: where the failure of a line can come from.
- Theorem {lit}`Evaluator.charset_afterLines` and {lit}`Evaluator.primitives_afterLines`: what
  stays the same in a session.
- Theorem {lit}`Evaluator.word_of_fault`: the word that a fault in a session names is a word of
  the line, unless the fault names none.
-/

namespace EagerForth

/-! ## Where failures come from -/

/-- A failure that a line can meet with: a name that cannot be given, a word that cannot be
resolved, an entry that cannot be announced, or tokens that fail when they are run. -/
inductive Origin (primitives : Primitives) (line : Line) : Failure → Prop where
  | name {definition : Definition} {failure : Failure}
      (hmem : definition ∈ line.definitions)
      (hname : Dictionary.checkName definition.name = .error failure) :
      Origin primitives line failure
  | word {d : Dictionary} {word : Text} {failure : Failure} (hmem : word ∈ line.words)
      (hword : d.resolve word = .error failure) : Origin primitives line failure
  | announcement : Origin primitives line .digitLimit
  | run {tokens : List Token} {stack left : Stack} {failure : Failure}
      (hrun : interpret primitives tokens stack = .stopped failure left) :
      Origin primitives line failure

variable {primitives : Primitives} {line : Line}

/-- The failure of a definition of a line. -/
theorem Dictionary.origin_of_define {d : Dictionary} {definition : Definition}
    (hmem : definition ∈ line.definitions) {failure : Failure}
    (h : (d.define definition).1 = .error failure) : Origin primitives line failure := by
  unfold define entryOf at h
  cases hname : checkName definition.name with
  | error first =>
      simp only [hname, Except.error.injEq] at h
      exact .name hmem (h ▸ hname)
  | ok name =>
      cases hbody : d.expand definition.body with
      | error first =>
          simp only [hname, hbody, Except.error.injEq] at h
          rcases expand_eq_error_iff.mp (h ▸ hbody) with
            ⟨before, word, after, tokens, hwords, -, hword⟩
          refine .word ?_ hword
          rw [Line.words, List.mem_append, List.mem_flatMap]
          refine Or.inl ⟨definition, hmem, ?_⟩
          rw [Definition.words, hwords]
          simp
      | ok expansion =>
          simp only [hname, hbody] at h
          split at h
          · cases h
          · cases h
            exact .announcement

/-- The failure of definitions of a line that are made one after another. -/
theorem Dictionary.origin_of_defineAll {d : Dictionary} {definitions : List Definition}
    (hsubset : definitions ⊆ line.definitions) {failure : Failure}
    (h : d.defineAll definitions = .error failure) : Origin primitives line failure := by
  induction definitions generalizing d with
  | nil => cases h
  | cons definition definitions ih =>
      rcases List.cons_subset.mp hsubset with ⟨hmem, hrest⟩
      simp only [defineAll] at h
      split at h
      · exact ih hrest h
      · next first next hfirst =>
          cases h
          exact origin_of_define hmem (by rw [hfirst])

/-- The failure of words of a line that are run one after another. -/
theorem origin_of_runWords {d : Dictionary} {words : List Text} (hsubset : words ⊆ line.words)
    {stack left : Stack} {failure : Failure}
    (h : runWords primitives d words stack = .stopped failure left) :
    Origin primitives line failure := by
  induction words generalizing stack with
  | nil => cases h
  | cons word words ih =>
      rcases List.cons_subset.mp hsubset with ⟨hmem, hrest⟩
      simp only [runWords] at h
      split at h
      · next first hword =>
          cases h
          exact .word hmem hword
      · next expansion _ =>
          cases hfirst : interpret primitives expansion stack with
          | done after =>
              rw [hfirst] at h
              exact ih hrest h
          | stopped first after =>
              rw [hfirst] at h
              cases h
              exact .run hfirst

/-- Where the failure of a line can come from. -/
theorem Evaluator.origin_of_eval {ev : Evaluator} {text : Text} {failure : Failure}
    (h : ev.eval text = .error failure) :
    Origin ev.primitives (Line.parse ev.charset text) failure := by
  rcases carryOut_eq_error_iff.mp h with hdefine | ⟨words, left, -, hrun⟩
  · exact Dictionary.origin_of_defineAll (List.Subset.refl _) hdefine
  · exact origin_of_runWords (List.subset_append_right _ _) hrun

/-! ## The words that faults name -/

/-- The word that a fault names; it is empty when the fault names none. -/
def Fault.word : Fault → Text
  | .stackUnderflow | .divisionByZero => []
  | .invalidWord word | .unknownWord word => word

/-- No primitive reports a fault that names a word. -/
def Primitives.NameNoWord (primitives : Primitives) : Prop :=
  ∀ name p, primitives.find? name = some p →
    ∀ args fault, p.effect args = .error fault → fault.word = []

/-- The built-in primitives report no fault but the division by zero. -/
theorem Primitive.eq_divisionByZero_of_mem_builtins {name : Text} {p : Primitive}
    (h : (name, p) ∈ builtins) {args : Fin p.arity → Int} {fault : Fault}
    (heffect : p.effect args = .error fault) : fault = .divisionByZero := by
  rcases yields_or_eq_div h with ⟨-, rfl⟩ | ⟨-, hyields⟩
  · simp only [div] at heffect
    split at heffect
    · cases heffect
      rfl
    · cases heffect
  · rcases hyields args with ⟨results, hresults, -⟩
    rw [hresults] at heffect
    cases heffect

/-- Primitives that name no word do not do so when tokens run them. -/
theorem Primitives.NameNoWord.interpret (hprimitives : primitives.NameNoWord)
    {tokens : List Token} {stack left : Stack} {fault : Fault}
    (h : interpret primitives tokens stack = .stopped (.fault fault) left) :
    fault.word = [] := by
  have htoken : ∀ {token : Token} {stack left : Stack},
      token.run primitives stack = .stopped (.fault fault) left → fault.word = [] := by
    intro token stack left hrun
    cases token with
    | literal n => cases hrun
    | primitive name =>
        cases hfind : primitives.find? name with
        | none =>
            simp only [Token.run, hfind] at hrun
            cases hrun
        | some p =>
            simp only [Token.run, hfind, Primitive.run] at hrun
            split at hrun
            · split at hrun
              · cases hrun
              · next heffect =>
                  cases hrun
                  exact hprimitives name p hfind _ _ heffect
            · cases hrun
              rfl
  induction tokens generalizing stack with
  | nil => cases h
  | cons token tokens ih =>
      rw [EagerForth.interpret] at h
      cases hfirst : token.run primitives stack with
      | done after =>
          rw [hfirst] at h
          exact ih h
      | stopped failure after =>
          rw [hfirst] at h
          cases h
          exact htoken hfirst

/-- The word that a fault of a line names is a word of the line, unless the fault names none. -/
theorem Origin.word_of_fault (hprimitives : primitives.NameNoWord) {fault : Fault}
    (h : Origin primitives line (.fault fault)) :
    fault.word = [] ∨ fault.word ∈ line.words := by
  cases h with
  | @name definition _ hmem hname =>
      cases hword : definition.name with
      | none =>
          rw [hword] at hname
          cases hname
          exact Or.inl rfl
      | some name =>
          rw [hword] at hname
          simp only [Dictionary.checkName] at hname
          split at hname
          · cases hname
            exact Or.inl rfl
          · split at hname
            · cases hname
              right
              rw [Line.words, List.mem_append, List.mem_flatMap]
              refine Or.inl ⟨definition, hmem, ?_⟩
              rw [Definition.words, hword]
              exact List.mem_cons_self
            · cases hname
            · cases hname
  | word hmem hword =>
      rcases Dictionary.resolve_eq_error_iff.mp hword with ⟨-, hlimit⟩ | ⟨-, -, hunknown⟩
      · cases hlimit
      · cases hunknown
        exact Or.inr hmem
  | run hrun => exact Or.inl (hprimitives.interpret hrun)

/-! ## Lines in a row -/

namespace Evaluator

/-- The evaluator after lines that are evaluated one after another, where a line that fails
leaves everything as it was. -/
def afterLines (ev : Evaluator) (lines : List Text) : Evaluator :=
  ev.performAll (lines.map .line)

@[simp]
theorem afterLines_nil (ev : Evaluator) : ev.afterLines [] = ev :=
  rfl

@[simp]
theorem afterLines_cons (ev : Evaluator) (line : Text) (lines : List Text) :
    ev.afterLines (line :: lines) = (ev.perform (.line line)).afterLines lines :=
  rfl

theorem afterLines_append (ev : Evaluator) (before lines : List Text) :
    ev.afterLines (before ++ lines) = (ev.afterLines before).afterLines lines := by
  simp only [afterLines, performAll, List.map_append, List.foldl_append]

/-- A line that succeeds changes neither the accepted characters nor the primitives. -/
theorem eval_eq_ok_keeps {ev after : Evaluator} {text : Text} (h : ev.eval text = .ok after) :
    after.charset = ev.charset ∧ after.primitives = ev.primitives := by
  rcases carryOut_eq_ok_iff.mp h with ⟨words, stack, -, -, rfl⟩
  exact ⟨rfl, rfl⟩

/-- A statement about evaluators that every successful line keeps true stays true in a
session. -/
theorem afterLines_induction {P : Evaluator → Prop}
    (hstep : ∀ {ev after : Evaluator} {text : Text}, P ev → ev.eval text = .ok after → P after)
    {ev : Evaluator} (h : P ev) (lines : List Text) : P (ev.afterLines lines) := by
  induction lines generalizing ev with
  | nil => exact h
  | cons line lines ih =>
      rw [afterLines_cons]
      apply ih
      simp only [perform]
      split
      · next after heval => exact hstep h heval
      · exact h

@[simp]
theorem charset_afterLines (ev : Evaluator) (lines : List Text) :
    (ev.afterLines lines).charset = ev.charset := by
  apply afterLines_induction (P := fun after => after.charset = ev.charset)
  · intro before after text h heval
    rw [(eval_eq_ok_keeps heval).1, h]
  · rfl

@[simp]
theorem primitives_afterLines (ev : Evaluator) (lines : List Text) :
    (ev.afterLines lines).primitives = ev.primitives := by
  apply afterLines_induction (P := fun after => after.primitives = ev.primitives)
  · intro before after text h heval
    rw [(eval_eq_ok_keeps heval).2, h]
  · rfl

theorem grounded_afterLines (charset : Charset) (lines : List Text) :
    ((new charset).afterLines lines).Grounded :=
  (grounded_new charset).performAll _

/-- Primitives that are installed one after another are the only ones. -/
theorem mem_of_find?_addPrimitive {entries : List (Text × Primitive)} {ev : Evaluator}
    {name : Text} {p : Primitive}
    (h : (entries.foldl (fun ev entry => ev.addPrimitive entry.1 entry.2) ev).primitives.find?
      name = some p) : (name, p) ∈ entries ∨ ev.primitives.find? name = some p := by
  induction entries generalizing ev with
  | nil => exact Or.inr h
  | cons entry entries ih =>
      rcases ih h with hmem | hfind
      · exact Or.inl (List.mem_cons_of_mem entry hmem)
      · simp only [addPrimitive] at hfind
        by_cases hname : name = entry.1
        · rw [hname, NameTable.find?_insert_self, Option.some.injEq] at hfind
          left
          rw [hname, ← hfind]
          exact List.mem_cons_self
        · rw [NameTable.find?_insert_of_ne _ hname] at hfind
          exact Or.inr hfind

/-- The built-in primitives name no word in their faults. -/
theorem nameNoWord_new (charset : Charset) : (new charset).primitives.NameNoWord := by
  intro name p hfind args fault heffect
  rcases mem_of_find?_addPrimitive hfind with hmem | hbare
  · rw [Primitive.eq_divisionByZero_of_mem_builtins hmem heffect]
    rfl
  · cases hbare

/-- The word that a fault in a session names is a word of the line, unless the fault names
none. -/
theorem word_of_fault {charset : Charset} {lines : List Text} {text : Text} {fault : Fault}
    (h : ((new charset).afterLines lines).eval text = .error (.fault fault)) :
    fault.word = [] ∨ fault.word ∈ (Line.parse charset text).words := by
  have horigin := origin_of_eval h
  rw [charset_afterLines, primitives_afterLines] at horigin
  exact horigin.word_of_fault (nameNoWord_new charset)

end Evaluator

end EagerForth
