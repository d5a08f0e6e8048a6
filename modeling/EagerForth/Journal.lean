import EagerForth.Evaluator
import EagerForth.Text.Quoted

/-!
# The journal

While a conversation goes on, a journal records that an evaluator was started, which lines it
evaluates, what they define and which of them are refused.  A definition is recorded when it
is made, even if a later part of its line fails and the whole line is then taken back; in
that case the line is recorded as refused.
-/

namespace EagerForth

/-- How much a record matters. -/
inductive Level where
  /-- A status message. -/
  | info
  /-- A detail for finding mistakes. -/
  | debug
deriving DecidableEq, Repr

/-- How much of the journal is shown. -/
inductive Verbosity where
  /-- Nothing. -/
  | quiet
  /-- Status messages. -/
  | status
  /-- Everything. -/
  | everything
deriving DecidableEq, Repr

/-- Whether records of a level are shown. -/
def Verbosity.shows : Verbosity → Level → Bool
  | .quiet, _ => false
  | .status, .info => true
  | .status, .debug => false
  | .everything, _ => true

/-- An entry of the journal. -/
inductive Record where
  /-- An evaluator was started with a character set. -/
  | started (charset : Charset)
  /-- A line is about to be evaluated. -/
  | evaluating (line : Text)
  /-- A word was defined. -/
  | defined (name : Text) (expansion : Expansion)
  /-- A line has a fault and was taken back. -/
  | refused (line : Text) (fault : Fault)
deriving DecidableEq

namespace Record

/-- The start of an evaluator is a status message; all else is detail. -/
def level : Record → Level
  | .started _ => .info
  | .evaluating _ | .defined _ _ | .refused _ _ => .debug

/-- The part of the program that makes a record. -/
def source : Record → Text
  | .started _ => "forthlet_repl".toList
  | .evaluating _ | .refused _ _ => "forthlet.evaluator".toList
  | .defined _ _ => "forthlet.dictionary".toList

/-- What a record says. -/
def message : Record → Text
  | .started charset =>
      "starting evaluator (extra characters: ".toList ++ Text.quoted charset.extra ++
        ")".toList
  | .evaluating line => "eval ".toList ++ Text.quoted line
  | .defined name expansion =>
      "defined ".toList ++ name ++ " as [".toList ++ expansion.write ++ "]".toList
  | .refused line fault =>
      Text.quoted line ++ " failed (".toList ++ fault.message ++
        "); state left unchanged".toList

/-- The name of a level. -/
def levelName : Level → Text
  | .info => "INFO".toList
  | .debug => "DEBUG".toList

/-- A record as it is shown: its level, its source and its message. -/
def write (r : Record) : Text :=
  levelName r.level ++ ":".toList ++ r.source ++ ":".toList ++ r.message

end Record

/-- The records of definitions that are made one after another, up to the first that
fails. -/
def Dictionary.definitionRecords (d : Dictionary) : List Definition → List Record
  | [] => []
  | definition :: definitions =>
      match d.entryOf definition, d.define definition with
      | .ok (name, _), (.ok expansion, d') =>
          .defined name expansion :: definitionRecords d' definitions
      | _, _ => []

/-- The records of the evaluation of a line. -/
def Evaluator.records (ev : Evaluator) (text : Text) : List Record :=
  .evaluating text ::
    (Dictionary.definitionRecords ev.words (Line.parse ev.charset text).definitions ++
      match ev.eval text with
      | .error (.fault fault) => [.refused text fault]
      | _ => [])

end EagerForth
