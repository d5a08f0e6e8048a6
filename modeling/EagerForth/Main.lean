import EagerForth.Program

/-!
# The command

The interactive prompt on standard input and output, with the journal on standard error.
-/

namespace EagerForth

/-- Print the records of a journal that are shown. -/
def printJournal (verbosity : Verbosity) (journal : List Record) : IO Unit :=
  IO.eprint (String.ofList (Program.writeJournal verbosity journal))

/-- Answer lines from standard input until the conversation ends. -/
partial def answerLines (verbosity : Verbosity) (ev : Evaluator) : IO UInt32 := do
  let line ← (← IO.getStdin).getLine
  if line.isEmpty then
    return 0
  let text := if line.endsWith "\n" then line.toList.dropLast else line.toList
  if isBye text then
    return 0
  printJournal verbosity (ev.records text)
  let reply := respond ev text
  match reply.answer with
  | .ok answer =>
      IO.println (String.ofList answer)
      answerLines verbosity reply.after
  | .error _ =>
      IO.eprintln "the conversation cannot go on"
      return 1

end EagerForth

/-- Run the prompt as the command line asks. -/
def main (arguments : List String) : IO UInt32 := do
  match EagerForth.Invocation.ofArguments (arguments.map String.toList) with
  | .help =>
      IO.print (String.ofList EagerForth.Invocation.helpText)
      return 0
  | .refuse e =>
      IO.eprint (String.ofList (EagerForth.Invocation.refusal e))
      return 2
  | .start options =>
      EagerForth.printJournal options.verbosity [.started options.charset]
      IO.println (String.ofList EagerForth.banner)
      EagerForth.answerLines options.verbosity (.new options.charset)
