import EagerForth.Dictionary
import EagerForth.Primitive

/-!
# Running tokens and words

Tokens are run one after another over a stack.  Of a list of words, each is resolved and run
before the next is resolved, so the first word that fails decides the failure.

Main results:

- Theorems {lit}`interpret_append` and {lit}`runWords_append`: lists are run one after the
  other.
-/

namespace EagerForth

/-- The installed primitives by name. -/
abbrev Primitives := NameTable Primitive

/-- Run one token. -/
def Token.run (primitives : Primitives) : Token → Stack → Run
  | .literal n, stack => .done (n :: stack)
  | .primitive name, stack =>
      match primitives.find? name with
      | some p => p.run stack
      | none => .stopped (.missingPrimitive name) stack

/-- Run tokens one after another, up to the first that fails. -/
def interpret (primitives : Primitives) : List Token → Stack → Run
  | [], stack => .done stack
  | token :: tokens, stack => (token.run primitives stack).andThen (interpret primitives tokens)

/-- Resolve and run words one after another, up to the first that fails. -/
def runWords (primitives : Primitives) (d : Dictionary) : List Text → Stack → Run
  | [], stack => .done stack
  | word :: words, stack =>
      match d.resolve word with
      | .error failure => .stopped failure stack
      | .ok expansion =>
          (interpret primitives expansion stack).andThen (runWords primitives d words)

/-- Three runs in a row may be grouped either way. -/
theorem Run.andThen_andThen (r : Run) (f g : Stack → Run) :
    (r.andThen f).andThen g = r.andThen fun stack => (f stack).andThen g := by
  cases r <;> rfl

/-- No tokens leave the stack as it is. -/
@[simp]
theorem interpret_nil (primitives : Primitives) (stack : Stack) :
    interpret primitives [] stack = .done stack :=
  rfl

/-- Token lists are run one after the other. -/
theorem interpret_append (primitives : Primitives) (xs ys : List Token) (stack : Stack) :
    interpret primitives (xs ++ ys) stack =
      (interpret primitives xs stack).andThen (interpret primitives ys) := by
  induction xs generalizing stack with
  | nil => rfl
  | cons x xs ih =>
      simp only [List.cons_append, interpret, Run.andThen_andThen]
      congr 1
      funext after
      exact ih after

/-- No words leave the stack as it is. -/
@[simp]
theorem runWords_nil (primitives : Primitives) (d : Dictionary) (stack : Stack) :
    runWords primitives d [] stack = .done stack :=
  rfl

/-- Word lists are run one after the other. -/
theorem runWords_append (primitives : Primitives) (d : Dictionary) (xs ys : List Text)
    (stack : Stack) :
    runWords primitives d (xs ++ ys) stack =
      (runWords primitives d xs stack).andThen (runWords primitives d ys) := by
  induction xs generalizing stack with
  | nil => rfl
  | cons x xs ih =>
      simp only [List.cons_append, runWords]
      split
      · rfl
      · rw [Run.andThen_andThen]
        congr 1
        funext after
        exact ih after

end EagerForth
