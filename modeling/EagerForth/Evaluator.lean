import EagerForth.Line
import EagerForth.Machine

/-!
# Evaluators

An evaluator holds a stack and a dictionary and evaluates lines against them.  A line is
evaluated completely or not at all: when anything in it fails, the evaluator stays as it was.

Main results:

- Theorem {lit}`Evaluator.eval_of_not_definition`: a line without definitions changes the
  stack only.
-/

namespace EagerForth

/-- The state that lines are evaluated against. -/
@[ext]
structure Evaluator where
  /-- The data stack, its top first. -/
  stack : Stack
  /-- The meaning of words. -/
  words : Dictionary
  /-- The installed primitives. -/
  primitives : Primitives
  /-- The characters accepted in lines. -/
  charset : Charset

namespace Evaluator

/-- An evaluator without primitives and words. -/
def bare (charset : Charset) : Evaluator where
  stack := []
  words := .empty
  primitives := .empty
  charset := charset

/-- Install a primitive and let its name stand for it. -/
def addPrimitive (ev : Evaluator) (name : Text) (p : Primitive) : Evaluator :=
  { ev with
    primitives := ev.primitives.insert name p
    words := Dictionary.addBuiltin ev.words name }

/-- An evaluator with an empty stack and the built-in words. -/
def new (charset : Charset) : Evaluator :=
  Primitive.builtins.foldl (fun ev entry => ev.addPrimitive entry.1 entry.2) (bare charset)

/-- Carry out a line that has been cut into definitions and an expression: make its
definitions, then run its expression. -/
def carryOut (ev : Evaluator) (line : Line) : Except Failure Evaluator :=
  match Dictionary.defineAll ev.words line.definitions with
  | .error failure => .error failure
  | .ok words =>
      match runWords ev.primitives words line.expression ev.stack with
      | .done stack => .ok { ev with stack := stack, words := words }
      | .stopped failure _ => .error failure

/-- Evaluate a line. -/
def eval (ev : Evaluator) (text : Text) : Except Failure Evaluator :=
  ev.carryOut (Line.parse ev.charset text)

/-- The tokens that the words of a text stand for, definitions not being recognised. -/
def tokenize (ev : Evaluator) (text : Text) : Except Failure (List Token) :=
  Dictionary.expand ev.words (ev.charset.tokenize text)

/-- Run tokens over a given stack with the installed primitives. -/
def interpret (ev : Evaluator) (tokens : List Token) (stack : Stack) : Run :=
  EagerForth.interpret ev.primitives tokens stack

/-- The stack in writing, its bottom first, unless one of its values has too many digits. -/
def formatStack (ev : Evaluator) : Option Text :=
  (ev.stack.reverse.mapM Numeral.write?).map Text.unwords

/-- A line without definitions changes the stack only. -/
theorem eval_of_not_definition {ev : Evaluator} {text : Text}
    (h : (Line.start ev.charset text).1 = false) :
    ev.eval text =
      match runWords ev.primitives ev.words (ev.charset.tokenize text) ev.stack with
      | .done stack => .ok { ev with stack := stack }
      | .stopped failure _ => .error failure := by
  rw [eval, Line.parse_of_not_definition h]
  rfl

end Evaluator

end EagerForth
