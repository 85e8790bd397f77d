import Concord.Agreement.RuleTable
import Concord.Agreement.VerbRule
import Concord.CommandLine.Help
import Concord.CommandLine.Options
import Concord.CommandLine.Program
import Concord.Dictionary
import Concord.Error
import Concord.Evaluation.Environment
import Concord.Evaluation.Evaluate
import Concord.Expr.Basic
import Concord.Expr.Inspect
import Concord.Expr.Render
import Concord.Grammar.Case
import Concord.Grammar.Mood
import Concord.Log
import Concord.Main
import Concord.Parsing.Parser
import Concord.Parsing.SyntaxError
import Concord.Parsing.Vocabulary
import Concord.Proofs.Agreement.LastWriter
import Concord.Proofs.Agreement.OfferedVerbs
import Concord.Proofs.Agreement.Validation
import Concord.Proofs.CommandLine.OptionSets
import Concord.Proofs.Dictionary
import Concord.Proofs.Evaluation.Leaves
import Concord.Proofs.Expr.Inspection
import Concord.Proofs.Grammar.Names
import Concord.Proofs.Parsing.ClosedTags
import Concord.Proofs.Parsing.Complaints
import Concord.Proofs.Parsing.EarliestErrors
import Concord.Proofs.Parsing.ErrorPlaces
import Concord.Proofs.Parsing.Fallbacks
import Concord.Proofs.Parsing.LineStrings
import Concord.Proofs.Parsing.Messages
import Concord.Proofs.Parsing.Policies
import Concord.Proofs.Parsing.Progress
import Concord.Proofs.Parsing.Recasing
import Concord.Proofs.Parsing.Recognition
import Concord.Proofs.Parsing.Resumption
import Concord.Proofs.Parsing.RoundTrip
import Concord.Proofs.Parsing.SideBySide
import Concord.Proofs.Parsing.Spelling
import Concord.Proofs.Parsing.Stages
import Concord.Proofs.Session.Aftermath
import Concord.Proofs.Session.AnswerLines
import Concord.Proofs.Session.Discipline
import Concord.Proofs.Session.Escapes
import Concord.Proofs.Session.Exchanges
import Concord.Proofs.Session.Framing
import Concord.Proofs.Session.LineBlocks
import Concord.Proofs.Session.LoggedEvents
import Concord.Proofs.Session.Steps
import Concord.Proofs.Session.StreamLines
import Concord.Proofs.Session.Truncation
import Concord.Proofs.Session.Turns
import Concord.Proofs.Source.Lexeme
import Concord.Proofs.Source.Likeness
import Concord.Proofs.Source.Passage
import Concord.Proofs.Source.Places
import Concord.Proofs.Source.Requests
import Concord.Proofs.Source.Strings
import Concord.Proofs.Source.Tokenization
import Concord.Proofs.Terminal.ColouredLines
import Concord.Proofs.Terminal.CompletedWords
import Concord.Proofs.Terminal.Layout
import Concord.Proofs.Text.Blanks
import Concord.Proofs.Text.Bytes
import Concord.Proofs.Text.Decoding
import Concord.Proofs.Text.Delimited
import Concord.Proofs.Text.Offsets
import Concord.Proofs.Text.Plain
import Concord.Proofs.Unicode.LetterCase
import Concord.Proofs.Unicode.Lowercasing
import Concord.Session.Action
import Concord.Session.Basic
import Concord.Session.Outcome
import Concord.Session.Reading
import Concord.Session.Transcript
import Concord.Source.Cursor
import Concord.Source.Lexer
import Concord.Source.Position
import Concord.Source.Token
import Concord.Terminal.Completion
import Concord.Terminal.Highlight
import Concord.Terminal.Paint
import Concord.Text.Blank
import Concord.Text.Join
import Concord.Text.Quoted
import Concord.Text.Slice
import Concord.Text.Utf8
import Concord.Unicode.Alphabetic
import Concord.Unicode.Cased
import Concord.Unicode.Hidden
import Concord.Unicode.Lowercase
import Concord.Unicode.RangeTable
import Concord.Value
