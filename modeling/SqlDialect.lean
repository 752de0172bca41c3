import SqlDialect.Clause
import SqlDialect.CommandLine.Arguments
import SqlDialect.CommandLine.Run
import SqlDialect.Config
import SqlDialect.Decimal.Binary64
import SqlDialect.Decimal.Scaling
import SqlDialect.Decimal.Shortest
import SqlDialect.Dialect
import SqlDialect.Dialect.Json
import SqlDialect.Error
import SqlDialect.FileTree
import SqlDialect.Json.Basic
import SqlDialect.Json.Printer
import SqlDialect.Json.Reader
import SqlDialect.Log
import SqlDialect.Log.Directive
import SqlDialect.Log.Event
import SqlDialect.Log.Pattern
import SqlDialect.Log.Pattern.Parser
import SqlDialect.Main
import SqlDialect.Mismatch
import SqlDialect.Pipeline
import SqlDialect.Proofs.Absence
import SqlDialect.Proofs.AppendedLimits
import SqlDialect.Proofs.AssembledQuery
import SqlDialect.Proofs.BooleanComparisons
import SqlDialect.Proofs.BooleanNames
import SqlDialect.Proofs.Brackets
import SqlDialect.Proofs.CallHeads
import SqlDialect.Proofs.CaseBlind
import SqlDialect.Proofs.Changes
import SqlDialect.Proofs.Channels
import SqlDialect.Proofs.Characters
import SqlDialect.Proofs.Composition
import SqlDialect.Proofs.ConfigOverrides
import SqlDialect.Proofs.Constructs
import SqlDialect.Proofs.DateArguments
import SqlDialect.Proofs.DelimitedNames
import SqlDialect.Proofs.DistinctKeys
import SqlDialect.Proofs.Elimination
import SqlDialect.Proofs.FragmentLists
import SqlDialect.Proofs.HintLists
import SqlDialect.Proofs.JsonRoundTrip
import SqlDialect.Proofs.LetterCase
import SqlDialect.Proofs.LimitWords
import SqlDialect.Proofs.LiteralChains
import SqlDialect.Proofs.LiteralContents
import SqlDialect.Proofs.LiteralGaps
import SqlDialect.Proofs.MonthOpenings
import SqlDialect.Proofs.Outcome
import SqlDialect.Proofs.PageClauses
import SqlDialect.Proofs.Parentheses
import SqlDialect.Proofs.RowLimits
import SqlDialect.Proofs.RuleOrder
import SqlDialect.Proofs.Seams
import SqlDialect.Proofs.SecondPass
import SqlDialect.Proofs.Spellings
import SqlDialect.Proofs.StatementTails
import SqlDialect.Proofs.Steps
import SqlDialect.Proofs.Sweep
import SqlDialect.Proofs.TopCounts
import SqlDialect.Proofs.Trailers
import SqlDialect.Proofs.TwoSweeps
import SqlDialect.Proofs.Weights
import SqlDialect.Query.BooleanColumn
import SqlDialect.Query.BracketedName
import SqlDialect.Query.DateCall
import SqlDialect.Query.FetchClause
import SqlDialect.Query.Literal
import SqlDialect.Query.RandomCall
import SqlDialect.Query.RowLimit
import SqlDialect.Query.ScalarCall
import SqlDialect.Query.SelectTop
import SqlDialect.Query.StatementTail
import SqlDialect.Query.TableHint
import SqlDialect.Rule
import SqlDialect.Scan.Basic
import SqlDialect.Scan.Repeat
import SqlDialect.Scan.Sweep
import SqlDialect.Text.Alphanumeric
import SqlDialect.Text.Blank
import SqlDialect.Text.CaseFold
import SqlDialect.Text.CaseSpan
import SqlDialect.Text.CodeRange
import SqlDialect.Text.Digit
import SqlDialect.Text.Lowercase
import SqlDialect.Text.Quoted
import SqlDialect.Text.Unprintable
import SqlDialect.Text.Word
import SqlDialect.Toml.Basic
import SqlDialect.Toml.Parser
import SqlDialect.Toml.Scalar
import SqlDialect.Translator
