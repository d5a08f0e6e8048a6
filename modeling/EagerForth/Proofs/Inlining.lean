import EagerForth.Proofs.LexicalScope

/-!
# Inlining definitions

A definition can be done without: wherever its name is called, the words of its body can be
written instead.  They are read in the dictionary as it was before the definition, so a name
that occurs in its own body has its earlier meaning there, and the replacement is made once and
not again in what has been put in.  Nothing changes by that, neither the tokens that words stand
for nor what comes of running the words one by one, and a word that cannot be resolved is met at
the same place.

Main results:

- Theorems {lit}`Dictionary.resolve_insert_self` and {lit}`Dictionary.resolve_insert_of_ne`:
  what a new entry does to the meaning of words.
- Theorem {lit}`Dictionary.expand_inlineCalls` and {lit}`runWords_inlineCalls`: words have the
  same tokens and the same run after the definition as with its body written out before it.
- Theorem {lit}`definition_can_be_inlined`: both for every definition that succeeds.
-/

namespace EagerForth

/-- Words with the words of a body in place of every call of a name. -/
def inlineCalls (name : Text) (body words : List Text) : List Text :=
  words.flatMap fun word => if word = name then body else [word]

@[simp]
theorem inlineCalls_nil (name : Text) (body : List Text) : inlineCalls name body [] = [] :=
  rfl

@[simp]
theorem inlineCalls_cons_self (name : Text) (body words : List Text) :
    inlineCalls name body (name :: words) = body ++ inlineCalls name body words := by
  simp [inlineCalls]

@[simp]
theorem inlineCalls_cons_of_ne {name word : Text} (hne : word ≠ name)
    (body words : List Text) :
    inlineCalls name body (word :: words) = word :: inlineCalls name body words := by
  simp [inlineCalls, hne]

namespace Dictionary

variable {d : Dictionary} {name word : Text} {body words : List Text} {expansion : Expansion}

/-! ## What a new entry does -/

/-- A name that is no numeral stands for the expansion it has been given. -/
theorem resolve_insert_self (hname : Numeral.read name = .notNumeral) (d : Dictionary)
    (expansion : Expansion) : resolve (d.insert name expansion) name = .ok expansion := by
  simp only [resolve, hname, NameTable.find?_insert_self]

/-- Other words stand for what they stood for. -/
theorem resolve_insert_of_ne (hne : word ≠ name) (d : Dictionary) (expansion : Expansion) :
    resolve (d.insert name expansion) word = d.resolve word := by
  simp only [resolve, NameTable.find?_insert_of_ne _ hne]

/-- The first word is expanded before the others. -/
theorem expand_cons (d : Dictionary) (word : Text) (words : List Text) :
    d.expand (word :: words) =
      (d.resolve word).bind fun first => (d.expand words).map fun rest => first ++ rest := by
  rw [expand]
  cases d.resolve word with
  | error failure => rfl
  | ok first => cases d.expand words <;> rfl

/-! ## Tokens -/

/-- Words have the same tokens after a definition as with its body written out before it. -/
theorem expand_inlineCalls (hname : Numeral.read name = .notNumeral)
    (hbody : d.expand body = .ok expansion) (words : List Text) :
    expand (d.insert name expansion) words = d.expand (inlineCalls name body words) := by
  induction words with
  | nil => rfl
  | cons word words ih =>
      rw [expand_cons, ih]
      by_cases hword : word = name
      · subst hword
        rw [resolve_insert_self hname, inlineCalls_cons_self, expand_append, hbody]
      · rw [resolve_insert_of_ne hword, inlineCalls_cons_of_ne hword, expand_cons]

end Dictionary

/-! ## Runs -/

/-- Words run in the same way after a definition as with its body written out before it. -/
theorem runWords_inlineCalls {d : Dictionary} {name : Text} {body : List Text}
    {expansion : Expansion} (hname : Numeral.read name = .notNumeral)
    (hbody : d.expand body = .ok expansion) (primitives : Primitives) (words : List Text)
    (stack : Stack) :
    runWords primitives (d.insert name expansion) words stack =
      runWords primitives d (inlineCalls name body words) stack := by
  induction words generalizing stack with
  | nil => rfl
  | cons word words ih =>
      by_cases hword : word = name
      · subst hword
        -- Running the body before the definition is running the expansion that was stored.
        rw [inlineCalls_cons_self, runWords_append, runWords_eq_interpret primitives hbody]
        simp only [runWords, Dictionary.resolve_insert_self hname]
        congr 1
        funext after
        exact ih after
      · rw [inlineCalls_cons_of_ne hword]
        simp only [runWords, Dictionary.resolve_insert_of_ne hword]
        cases d.resolve word with
        | error failure => rfl
        | ok tokens =>
            simp only
            congr 1
            funext after
            exact ih after

/-- A definition that succeeds can be inlined.  Whatever words are used after it, they have the
same tokens as the words with the body in place of the name have before it, and are run over any
stack with the same result; when there is a failure, it is the same one. -/
theorem definition_can_be_inlined (d d' : Dictionary) (name : Text) (body : List Text)
    (expansion : Expansion) (h : d.define ⟨some name, body⟩ = (.ok expansion, d'))
    (words : List Text) :
    d'.expand words = d.expand (inlineCalls name body words) ∧
      ∀ (primitives : Primitives) (stack : Stack),
        runWords primitives d' words stack =
          runWords primitives d (inlineCalls name body words) stack := by
  rcases Dictionary.define_eq_ok h with ⟨given, hgiven, hname, hbody, rfl⟩
  cases hgiven
  constructor
  · exact Dictionary.expand_inlineCalls hname hbody words
  · intro primitives stack
    exact runWords_inlineCalls hname hbody primitives words stack

/-- The built-in words with the name of a primitive given a new meaning by means of itself. -/
def withDupTwice : Dictionary :=
  (Evaluator.new .plain).words.insert "dup".toList
    [.primitive "dup".toList, .primitive "dup".toList]

/-- The new meaning is written out before and behind a word that is not known, and run. -/
theorem definition_can_be_inlined_dup :
    Dictionary.define (Evaluator.new .plain).words
          ⟨some "dup".toList, ["dup".toList, "dup".toList]⟩ =
        (.ok [.primitive "dup".toList, .primitive "dup".toList], withDupTwice) ∧
      withDupTwice.expand ["dup".toList, "nip".toList, "dup".toList] =
        .error (.fault (.unknownWord "nip".toList)) ∧
      runWords (Evaluator.new .plain).primitives withDupTwice ["3".toList, "dup".toList] [] =
        .done [3, 3, 3] := by
  have hdefine : Dictionary.define (Evaluator.new .plain).words
      ⟨some "dup".toList, ["dup".toList, "dup".toList]⟩ =
        (.ok [.primitive "dup".toList, .primitive "dup".toList], withDupTwice) := rfl
  refine ⟨hdefine, ?_, ?_⟩
  · rw [(definition_can_be_inlined _ _ _ _ _ hdefine _).1]
    rfl
  · rw [(definition_can_be_inlined _ _ _ _ _ hdefine _).2]
    rfl

end EagerForth
