import EagerForth.Fault

/-!
# Stacks and primitives

A stack of integers is a list with the top at the head.  A primitive takes a fixed number of
values from the stack and pushes any number of results.

Main results:

- Theorem {lit}`Primitive.run_append`: what lies below the values that a primitive takes has
  no influence on it.
-/

namespace EagerForth

/-- A stack of integers, its top first. -/
abbrev Stack := List Int

/-- The end of a run over a stack. -/
inductive Run where
  /-- The run came to its end and left the given stack. -/
  | done (stack : Stack)
  /-- The run failed and left the given stack behind. -/
  | stopped (failure : Failure) (stack : Stack)
deriving DecidableEq, Repr

/-- The stack after a run, whether it came to its end or failed. -/
def Run.stack : Run → Stack
  | .done stack => stack
  | .stopped _ stack => stack

/-- Go on with another run if the first came to its end. -/
def Run.andThen (r : Run) (next : Stack → Run) : Run :=
  match r with
  | .done stack => next stack
  | .stopped failure stack => .stopped failure stack

/-- An operation on the topmost values of a stack. -/
structure Primitive where
  /-- The number of values it takes. -/
  arity : Nat
  /-- Its results, in the order in which they are pushed.  The first argument is the value
  that was on top. -/
  effect : (Fin arity → Int) → Except Fault (List Int)

namespace Primitive

/-- Run a primitive.  Nothing is taken from a stack that does not hold enough values; what was
taken is lost when the primitive reports a fault. -/
def run (p : Primitive) (stack : Stack) : Run :=
  if h : p.arity ≤ stack.length then
    match p.effect fun i => stack.get (i.castLE h) with
    | .ok results => .done (results.reverse ++ stack.drop p.arity)
    | .error fault => .stopped (.fault fault) (stack.drop p.arity)
  else .stopped (.fault .stackUnderflow) stack

/-- What lies below the values that a primitive takes has no influence on it. -/
theorem run_append (p : Primitive) {stack : Stack} (h : p.arity ≤ stack.length)
    (below : Stack) :
    p.run (stack ++ below) =
      match p.run stack with
      | .done after => .done (after ++ below)
      | .stopped failure after => .stopped failure (after ++ below) := by
  have h' : p.arity ≤ (stack ++ below).length := by
    rw [List.length_append]
    omega
  have hargs : (fun i : Fin p.arity => (stack ++ below).get (i.castLE h')) =
      fun i => stack.get (i.castLE h) := by
    funext i
    simp [List.getElem_append_left (Nat.lt_of_lt_of_le i.isLt h)]
  have hdrop : (stack ++ below).drop p.arity = stack.drop p.arity ++ below :=
    List.drop_append_of_le_length h
  simp only [run, h, h', dif_pos, hargs, hdrop]
  cases p.effect fun i => stack.get (i.castLE h) <;> simp

/-! ## The built-in primitives -/

/-- The sum of the two topmost values. -/
def add : Primitive := ⟨2, fun x => .ok [x 1 + x 0]⟩

/-- The second value less the topmost one. -/
def sub : Primitive := ⟨2, fun x => .ok [x 1 - x 0]⟩

/-- The product of the two topmost values. -/
def mul : Primitive := ⟨2, fun x => .ok [x 1 * x 0]⟩

/-- The quotient of two values: that of their magnitudes, rounded down, and negated if one of the
two values is negative and the other is not. -/
def quotient (dividend divisor : Int) : Int :=
  let magnitude : Int := (dividend.natAbs / divisor.natAbs : Nat)
  if decide (dividend < 0) != decide (divisor < 0) then -magnitude else magnitude

/-- The second value divided by the topmost one. -/
def div : Primitive :=
  ⟨2, fun x => if x 0 = 0 then .error .divisionByZero else .ok [quotient (x 1) (x 0)]⟩

/-- The topmost value twice. -/
def dup : Primitive := ⟨1, fun x => .ok [x 0, x 0]⟩

/-- Nothing in place of the topmost value. -/
def drop : Primitive := ⟨1, fun _ => .ok []⟩

/-- The two topmost values exchanged. -/
def swap : Primitive := ⟨2, fun x => .ok [x 0, x 1]⟩

/-- The second value once more on top. -/
def copySecond : Primitive := ⟨2, fun x => .ok [x 1, x 0, x 1]⟩

/-- The primitives that are there from the start. -/
def builtins : List (Text × Primitive) :=
  [("+".toList, add), ("-".toList, sub), ("*".toList, mul), ("/".toList, div),
    ("dup".toList, dup), ("drop".toList, drop), ("swap".toList, swap),
    ("over".toList, copySecond)]

end Primitive

end EagerForth
