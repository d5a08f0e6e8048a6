import EagerForth.Options
import EagerForth.Prompt

/-!
# The program

The program as a function from its arguments and its input lines to everything that can be
seen of it: what it prints, its journal, how it ends and which lines it leaves unread.
-/

namespace EagerForth

/-- How the program ends. -/
inductive Status where
  /-- The conversation came to its end. -/
  | finished
  /-- There was no conversation; the given code is the exit code. -/
  | exited (code : Nat)
  /-- A failure ended the conversation. -/
  | failed (failure : Failure)
deriving DecidableEq, Repr

/-- Everything that can be seen of a run of the program. -/
structure Report where
  /-- What is printed. -/
  output : Text
  /-- What is printed besides: the journal, or why the command line is not accepted. -/
  errors : Text
  /-- How the program ends. -/
  status : Status
  /-- The lines that were not read. -/
  unread : List Text
deriving DecidableEq

namespace Program

/-- End every text with a line feed. -/
def writeLines (ts : List Text) : Text :=
  ts.flatMap (· ++ ['\n'])

/-- The part of a journal that is shown, in writing. -/
def writeJournal (verbosity : Verbosity) (journal : List Record) : Text :=
  writeLines ((journal.filter fun r => verbosity.shows r.level).map Record.write)

/-- The end of the program after a conversation. -/
def statusOf : Ending → Status
  | .bye | .endOfInput => .finished
  | .failed failure => .failed failure

/-- Run the program on its arguments and input lines. -/
def run (arguments lines : List Text) : Report :=
  match Invocation.ofArguments arguments with
  | .help => ⟨Invocation.helpText, [], .exited 0, lines⟩
  | .refuse e => ⟨[], Invocation.refusal e, .exited 2, lines⟩
  | .start options =>
      let transcript := converse (.new options.charset) lines
      { output := writeLines (banner :: transcript.answers)
        errors := writeJournal options.verbosity
          (.started options.charset :: transcript.journal)
        status := statusOf transcript.ending
        unread := transcript.unread }

end Program

end EagerForth
