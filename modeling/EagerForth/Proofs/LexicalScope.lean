import EagerForth.Evaluator

/-!
# Expansions and lexical scope

A dictionary stores a flat expansion for every word.  The other way to give words a meaning
is to keep the bodies as they were written and to look each word of a body up when it is
run, in the history as it stood just before the definition it belongs to.  A history is a
list of definitions, the latest first, so what follows a definition in it is the history the
definition was made in.

Main results:

- Theorem {lit}`Dictionary.define_eq_ok`: what a definition that succeeds has done.
- Theorem {lit}`runWords_eq_interpret`: words that can be expanded run as their expansion.
- Theorem {lit}`History.call_eq_defineAll`: after any definitions, calling a word through the
  history and running its stored expansion are the same.
- Theorem {lit}`History.runWords_eq_run`: so are running words over the dictionary and over
  the history, with the same failure at the same place when there is one.
-/

namespace EagerForth

/-! ## The reference interpreter -/

/-- Definitions as they were written, the latest first. -/
abbrev History := List Definition

namespace History

/-- Run words one after another, each by the given rule, up to the first that fails. -/
def sequence (runWord : Text → Stack → Run) : List Text → Stack → Run
  | [], stack => .done stack
  | word :: words, stack => (runWord word stack).andThen (sequence runWord words)

/-- Push the value of a numeral, and leave any other word to the given rule. -/
def meet (call : Text → Stack → Run) (word : Text) (stack : Stack) : Run :=
  match Numeral.read word with
  | .value n => .done (n :: stack)
  | .tooLong => .stopped .digitLimit stack
  | .notNumeral => call word stack

/-- Run a word that is no numeral.  The latest definition of that name is run in the history
it was made in, so that none of its words can mean itself or anything defined later.  A name
without a definition means the primitive of that name, if it is one of the built-in names. -/
def call (primitives : Primitives) (builtins : List Text) : History → Text → Stack → Run
  | [], word, stack =>
      if word ∈ builtins then (Token.primitive word).run primitives stack
      else .stopped (.fault (.unknownWord word)) stack
  | definition :: earlier, word, stack =>
      if definition.name = some word then
        sequence (meet (call primitives builtins earlier)) definition.body stack
      else call primitives builtins earlier word stack

/-- Run words in a history. -/
def run (primitives : Primitives) (builtins : List Text) (history : History) :
    List Text → Stack → Run :=
  sequence (meet (call primitives builtins history))

end History

/-! ## What dictionaries do with words -/

namespace Dictionary

/-- The dictionary in which some names stand for their primitives and nothing else is
defined. -/
def ofBuiltins (names : List Text) : Dictionary :=
  names.foldl addBuiltin .empty

/-- Run the stored expansion of a word that is no numeral. -/
def call (primitives : Primitives) (d : Dictionary) (word : Text) (stack : Stack) : Run :=
  match d.find? word with
  | some expansion => interpret primitives expansion stack
  | none => .stopped (.fault (.unknownWord word)) stack

/-- Adding built-in names changes the meaning of those names only. -/
theorem find?_foldl_addBuiltin (names : List Text) (d : Dictionary) (word : Text) :
    (names.foldl addBuiltin d).find? word =
      if word ∈ names then some [.primitive word] else d.find? word := by
  induction names generalizing d with
  | nil => simp
  | cons name names ih =>
      rw [List.foldl_cons, ih]
      by_cases hmem : word ∈ names
      · simp [hmem]
      · by_cases hword : word = name
        · subst hword
          simp [hmem, addBuiltin]
        · simp [hmem, hword, addBuiltin]

/-- The names of a dictionary of built-in words stand for their primitives. -/
theorem find?_ofBuiltins (names : List Text) (word : Text) :
    (ofBuiltins names).find? word =
      if word ∈ names then some [.primitive word] else none := by
  rw [ofBuiltins, find?_foldl_addBuiltin, NameTable.find?_empty]

/-- A name that can be given is no numeral. -/
theorem checkName_eq_ok {name? : Option Text} {name : Text} (h : checkName name? = .ok name) :
    name? = some name ∧ Numeral.read name = .notNumeral := by
  cases name? with
  | none => cases h
  | some word =>
      simp only [checkName] at h
      split at h
      · cases h
      · split at h
        · cases h
        · cases h
        · next hread =>
            cases h
            exact ⟨rfl, hread⟩

/-- An entry comes from a name that can be given and a body that can be expanded. -/
theorem entryOf_eq_ok {d : Dictionary} {definition : Definition} {name : Text}
    {expansion : Expansion} (h : d.entryOf definition = .ok (name, expansion)) :
    definition.name = some name ∧ Numeral.read name = .notNumeral ∧
      d.expand definition.body = .ok expansion := by
  unfold entryOf at h
  split at h
  · cases h
  · next hname =>
      split at h
      · cases h
      · next hbody =>
          cases h
          rcases checkName_eq_ok hname with ⟨hgiven, hread⟩
          exact ⟨hgiven, hread, hbody⟩

/-- A definition that succeeds stores the entry that it makes. -/
theorem exists_entryOf_of_define {d d' : Dictionary} {definition : Definition}
    {expansion : Expansion} (h : d.define definition = (.ok expansion, d')) :
    ∃ name, d.entryOf definition = .ok (name, expansion) ∧ d' = d.insert name expansion := by
  unfold define at h
  split at h
  · cases h
  · next name tokens hentry =>
      split at h
      · cases h
        exact ⟨name, hentry, rfl⟩
      · cases h

/-- A definition that succeeds has a name that is no numeral and a body that could be
expanded, and its only effect is to store that expansion under that name. -/
theorem define_eq_ok {d d' : Dictionary} {definition : Definition} {expansion : Expansion}
    (h : d.define definition = (.ok expansion, d')) :
    ∃ name, definition.name = some name ∧ Numeral.read name = .notNumeral ∧
      d.expand definition.body = .ok expansion ∧ d' = d.insert name expansion := by
  rcases exists_entryOf_of_define h with ⟨name, hentry, hstored⟩
  rcases entryOf_eq_ok hentry with ⟨hname, hread, hbody⟩
  exact ⟨name, hname, hread, hbody, hstored⟩

end Dictionary

/-- Words are run over a dictionary by calling those that are no numerals. -/
theorem runWords_eq_sequence (primitives : Primitives) (d : Dictionary) :
    runWords primitives d = History.sequence (History.meet (Dictionary.call primitives d)) := by
  funext words
  induction words with
  | nil => rfl
  | cons word words ih =>
      funext stack
      rw [History.sequence, ← ih]
      simp only [runWords, Dictionary.resolve, History.meet, Dictionary.call]
      cases hread : Numeral.read word with
      | value n => rfl
      | tooLong => rfl
      | notNumeral => cases hfind : d.find? word <;> rfl

/-- Words that can be expanded run as their expansion. -/
theorem runWords_eq_interpret (primitives : Primitives) {d : Dictionary} {words : List Text}
    {expansion : Expansion} (h : d.expand words = .ok expansion) (stack : Stack) :
    runWords primitives d words stack = interpret primitives expansion stack := by
  induction words generalizing expansion stack with
  | nil =>
      cases h
      rfl
  | cons word words ih =>
      simp only [Dictionary.expand] at h
      cases hword : d.resolve word with
      | error failure => simp [hword] at h
      | ok first =>
          cases hwords : d.expand words with
          | error failure => simp [hword, hwords] at h
          | ok rest =>
              simp only [hword, hwords, Except.ok.injEq] at h
              subst h
              rw [interpret_append]
              simp only [runWords, hword]
              congr 1
              funext after
              exact ih hwords after

/-! ## The two ways agree -/

namespace History

/-- Without definitions, a word is called through the history as through the dictionary of
built-in words. -/
theorem call_nil (primitives : Primitives) (builtins : List Text) :
    call primitives builtins [] = Dictionary.call primitives (.ofBuiltins builtins) := by
  funext word stack
  rw [call, Dictionary.call, Dictionary.find?_ofBuiltins]
  by_cases hmem : word ∈ builtins
  · simp only [if_pos hmem, interpret]
    cases (Token.primitive word).run primitives stack <;> rfl
  · simp only [if_neg hmem]

/-- One more definition keeps history and dictionary in agreement. -/
theorem call_cons_of_define {primitives : Primitives} {builtins : List Text}
    {history : History} {d d' : Dictionary} {definition : Definition} {expansion : Expansion}
    (hagree : call primitives builtins history = Dictionary.call primitives d)
    (hdefine : d.define definition = (.ok expansion, d')) :
    call primitives builtins (definition :: history) = Dictionary.call primitives d' := by
  rcases Dictionary.define_eq_ok hdefine with ⟨name, hname, -, hbody, rfl⟩
  funext word stack
  rw [call, hagree]
  by_cases hword : word = name
  · subst hword
    -- The body was expanded by the dictionary that the earlier history agrees with.
    rw [if_pos hname, ← runWords_eq_sequence, runWords_eq_interpret primitives hbody,
      Dictionary.call, NameTable.find?_insert_self]
  · have hother : ¬ definition.name = some word := by
      rw [hname, Option.some.injEq]
      exact fun heq => hword heq.symm
    rw [if_neg hother, Dictionary.call, Dictionary.call, NameTable.find?_insert_of_ne _ hword]

/-- Definitions made one after another keep history and dictionary in agreement. -/
theorem call_append_of_defineAll {primitives : Primitives} {builtins : List Text}
    {definitions : List Definition} {history : History} {d d' : Dictionary}
    (hagree : call primitives builtins history = Dictionary.call primitives d)
    (hdefine : d.defineAll definitions = .ok d') :
    call primitives builtins (definitions.reverse ++ history) =
      Dictionary.call primitives d' := by
  induction definitions generalizing history d with
  | nil =>
      cases hdefine
      exact hagree
  | cons definition definitions ih =>
      simp only [Dictionary.defineAll] at hdefine
      split at hdefine
      · next expansion next hnext =>
          rw [List.reverse_cons, List.append_assoc]
          exact ih (call_cons_of_define hagree hnext) hdefine
      · cases hdefine

/-- After any definitions, calling a word through the history and running its stored
expansion are the same. -/
theorem call_eq_defineAll {primitives : Primitives} {builtins : List Text}
    {definitions : List Definition} {d : Dictionary}
    (h : (Dictionary.ofBuiltins builtins).defineAll definitions = .ok d) :
    call primitives builtins definitions.reverse = Dictionary.call primitives d := by
  have hall := call_append_of_defineAll (call_nil primitives builtins) h
  rwa [List.append_nil] at hall

/-- Running words over the expansions that definitions have stored is the same as running
them over the history of these definitions: the run ends with the same stack, or it fails
for the same reason and leaves the same stack behind. -/
theorem runWords_eq_run (primitives : Primitives) (builtins : List Text)
    (definitions : List Definition) (d : Dictionary)
    (h : (Dictionary.ofBuiltins builtins).defineAll definitions = .ok d)
    (words : List Text) (stack : Stack) :
    runWords primitives d words stack =
      run primitives builtins definitions.reverse words stack := by
  rw [runWords_eq_sequence, run, call_eq_defineAll h]

/-- A word that is built on a primitive, the name of that primitive given a new meaning, and
the word defined anew in terms of itself. -/
def redefinitions : List Definition :=
  [⟨some "double".toList, ["dup".toList, "+".toList]⟩,
    ⟨some "dup".toList, ["5".toList]⟩,
    ⟨some "double".toList, ["double".toList, "double".toList]⟩]

/-- After the redefinitions both interpreters double twice, and the name of the primitive has
its new meaning outside the earlier definition only. -/
theorem runWords_eq_run_redefinitions :
    ∃ d, (Dictionary.ofBuiltins (Primitive.builtins.map Prod.fst)).defineAll redefinitions =
        .ok d ∧
      runWords (Evaluator.new .plain).primitives d
          ["3".toList, "double".toList, "dup".toList] [] =
        run (Evaluator.new .plain).primitives (Primitive.builtins.map Prod.fst)
          redefinitions.reverse ["3".toList, "double".toList, "dup".toList] [] ∧
      run (Evaluator.new .plain).primitives (Primitive.builtins.map Prod.fst)
        redefinitions.reverse ["3".toList, "double".toList, "dup".toList] [] =
          .done [5, 12] := by
  refine ⟨_, rfl, ?_, by decide +kernel⟩
  exact runWords_eq_run _ _ redefinitions _ rfl _ _

end History

end EagerForth
