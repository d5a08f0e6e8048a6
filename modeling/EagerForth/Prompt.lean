import EagerForth.Journal

/-!
# The prompt

A conversation answers each line with the stack after it, or with the fault that the line
has, until someone says good-bye or the lines run out.  A failure that is no fault ends it
too.
-/

namespace EagerForth

/-- What the prompt prints first. -/
def banner : Text :=
  "Type \"BYE\" or input an end of file (Ctrl+D) to quit.".toList

/-- What the prompt has to say about a line, and the evaluator after it. -/
structure Reply where
  /-- The answer, or the failure that ends the conversation. -/
  answer : Except Failure Text
  /-- The evaluator after the line. -/
  after : Evaluator

/-- Evaluate a line and say what came of it.  A line that leaves a stack that cannot be
written has been evaluated all the same. -/
def respond (ev : Evaluator) (line : Text) : Reply :=
  match ev.eval line with
  | .error (.fault fault) => ⟨.ok (" ? ".toList ++ fault.message), ev⟩
  | .error failure => ⟨.error failure, ev⟩
  | .ok after =>
      match after.formatStack with
      | some stack => ⟨.ok (stack ++ " ok".toList), after⟩
      | none => ⟨.error .digitLimit, after⟩

/-- Whether a line is a good-bye, in any mixture of capitals and small letters. -/
def isBye (line : Text) : Bool :=
  (Text.strip line).map Char.toLower == "bye".toList

/-- How a conversation ends. -/
inductive Ending where
  /-- Someone said good-bye. -/
  | bye
  /-- The lines ran out. -/
  | endOfInput
  /-- A line failed without having a fault. -/
  | failed (failure : Failure)
deriving DecidableEq, Repr

/-- A whole conversation. -/
structure Transcript where
  /-- The answers, in order. -/
  answers : List Text
  /-- The journal of all lines that were evaluated. -/
  journal : List Record
  /-- How the conversation ended. -/
  ending : Ending
  /-- The lines after the one that ended it. -/
  unread : List Text
  /-- The evaluator at the end. -/
  final : Evaluator

/-- Answer lines until someone says good-bye, a line fails or the lines run out. -/
def converse (ev : Evaluator) : List Text → Transcript
  | [] => ⟨[], [], .endOfInput, [], ev⟩
  | line :: lines =>
      if isBye line then ⟨[], [], .bye, lines, ev⟩
      else match respond ev line with
        | ⟨.error failure, after⟩ => ⟨[], ev.records line, .failed failure, lines, after⟩
        | ⟨.ok answer, after⟩ =>
            let rest := converse after lines
            { rest with
              answers := answer :: rest.answers
              journal := ev.records line ++ rest.journal }

end EagerForth
