import EagerForth.Text.Basic
import EagerForth.Text.Blank
import EagerForth.Text.CodeRange
import EagerForth.Text.CaseTable
import EagerForth.Text.Lowercase
import EagerForth.Text.Unprintable
import EagerForth.Text.Quoted
import EagerForth.Charset
import EagerForth.Numeral
import EagerForth.Fault
import EagerForth.NameTable
import EagerForth.Token
import EagerForth.Definition
import EagerForth.Cursor
import EagerForth.Line
import EagerForth.Dictionary
import EagerForth.Primitive
import EagerForth.Machine
import EagerForth.Evaluator
import EagerForth.Journal
import EagerForth.Prompt
import EagerForth.Options
import EagerForth.Program
import EagerForth.Main
import EagerForth.Proofs.Evaluation
import EagerForth.Proofs.LexicalScope
import EagerForth.Proofs.WorkingCopies
import EagerForth.Proofs.Words
import EagerForth.Proofs.NormalForm
import EagerForth.Proofs.Layout
import EagerForth.Proofs.Statements
import EagerForth.Proofs.Decimal
import EagerForth.Proofs.DeeperStack
import EagerForth.Proofs.Expression
import EagerForth.Proofs.StackText
import EagerForth.Proofs.Stepwise
import EagerForth.Proofs.DigitRuns
import EagerForth.Proofs.Grounded
import EagerForth.Proofs.Depth
import EagerForth.Proofs.LineWords
import EagerForth.Proofs.Sessions
import EagerForth.Proofs.Conversation
import EagerForth.Proofs.Replies
import EagerForth.Proofs.DefinableNames
import EagerForth.Proofs.DefinitionOutcome
import EagerForth.Proofs.Inlining
import EagerForth.Proofs.Readings
import EagerForth.Proofs.WrittenJournal
import EagerForth.Proofs.Replay
import EagerForth.Proofs.IndependentDefinitions
import EagerForth.Proofs.PrintedExpansions
import EagerForth.Proofs.StackLeftBehind
import EagerForth.Proofs.DefinitionParts
import EagerForth.Proofs.RepeatedReading
import EagerForth.Proofs.JoinedWords
import EagerForth.Proofs.SpelledNumerals
import EagerForth.Proofs.TruncatedDivision
import EagerForth.Proofs.Descent
import EagerForth.Proofs.Levels
