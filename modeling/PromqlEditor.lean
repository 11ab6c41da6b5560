import PromqlEditor.Text.Basic
import PromqlEditor.Text.Position
import PromqlEditor.Text.Line
import PromqlEditor.Text.Blank
import PromqlEditor.Text.Stretches
import PromqlEditor.Text.Graphic
import PromqlEditor.Text.Alphanumeric
import PromqlEditor.Text.Lowercase
import PromqlEditor.Text.Quoted
import PromqlEditor.Category
import PromqlEditor.Table.Basic
import PromqlEditor.Table.Promql
import PromqlEditor.Tree.Basic
import PromqlEditor.Tree.Address
import PromqlEditor.Tree.Nesting
import PromqlEditor.Highlight.Basic
import PromqlEditor.Highlight.Front
import PromqlEditor.Token.Basic
import PromqlEditor.Token.Decode
import PromqlEditor.Diagnostic
import PromqlEditor.Completion.Vocabulary
import PromqlEditor.Completion.Basic
import PromqlEditor.Decimal.Word
import PromqlEditor.Decimal.Count
import PromqlEditor.Decimal.Shortest
import PromqlEditor.Json.Value
import PromqlEditor.Json.Fault
import PromqlEditor.Json.Number
import PromqlEditor.Json.Text
import PromqlEditor.Json.Grammar
import PromqlEditor.Settings.Basic
import PromqlEditor.Settings.Schema
import PromqlEditor.Settings.Notations
import PromqlEditor.Settings.Options
import PromqlEditor.Settings.Environment
import PromqlEditor.Settings.Values
import PromqlEditor.Service.Strategy
import PromqlEditor.Service.Basic
import PromqlEditor.Service.Session
import PromqlEditor.Service.History
import PromqlEditor.Logging.Record
import PromqlEditor.Logging.Directive
import PromqlEditor.Logging.Filter
import PromqlEditor.Logging.SessionLog
import PromqlEditor.Logging.Directory
import PromqlEditor.Logging.Start
import PromqlEditor.CommandLine.Arguments
import PromqlEditor.CommandLine.Report
import PromqlEditor.CommandLine.Help
import PromqlEditor.CommandLine.Outcome
import PromqlEditor.Main
import PromqlEditor.Proofs.Text.Order
import PromqlEditor.Proofs.Text.Place
import PromqlEditor.Proofs.Highlight.Rank
import PromqlEditor.Proofs.Highlight.Sweep
import PromqlEditor.Proofs.Highlight.Runs
import PromqlEditor.Proofs.Token.Marks
import PromqlEditor.Proofs.Token.Order
import PromqlEditor.Proofs.Token.Painting
import PromqlEditor.Proofs.Highlight.Depth
import PromqlEditor.Proofs.Token.Deepest
import PromqlEditor.Proofs.Highlight.Apart
import PromqlEditor.Proofs.Text.Content
import PromqlEditor.Proofs.Text.Breaks
import PromqlEditor.Proofs.Text.Offset
import PromqlEditor.Proofs.Token.Content
import PromqlEditor.Proofs.Token.Reading
import PromqlEditor.Proofs.Service.Runs
import PromqlEditor.Proofs.Service.LateBinding
import PromqlEditor.Proofs.Service.InFlight
import PromqlEditor.Proofs.Service.AllOrNothing
import PromqlEditor.Proofs.Service.Independence
import PromqlEditor.Proofs.Completion.Insertion
import PromqlEditor.Proofs.Completion.Matching
import PromqlEditor.Proofs.Text.Words
import PromqlEditor.Proofs.Table.Declared
import PromqlEditor.Proofs.Table.Offence
import PromqlEditor.Proofs.Table.Rebuilding
import PromqlEditor.Proofs.Highlight.Errors
import PromqlEditor.Proofs.Json.Ordered
import PromqlEditor.Proofs.Json.Digits
import PromqlEditor.Proofs.Json.Number
import PromqlEditor.Proofs.Json.String
import PromqlEditor.Proofs.Json.Reading
import PromqlEditor.Proofs.Json.Writing
import PromqlEditor.Proofs.Settings.Records
import PromqlEditor.Proofs.Settings.Conformance
import PromqlEditor.Proofs.Settings.Overrides
import PromqlEditor.Proofs.Settings.ReadBack
import PromqlEditor.Proofs.Service.LoadedSettings
import PromqlEditor.Proofs.Service.Limits
import PromqlEditor.Proofs.Logging.Retention
import PromqlEditor.Proofs.Logging.FirstStart
import PromqlEditor.Proofs.CommandLine.Completion
import PromqlEditor.Proofs.CommandLine.Groups
import PromqlEditor.Proofs.Completion.Word
import PromqlEditor.Proofs.Completion.Narrowing
import PromqlEditor.Proofs.Text.Joining
import PromqlEditor.Proofs.Text.LineEnds
import PromqlEditor.Proofs.Text.Ranges
import PromqlEditor.Proofs.Highlight.Rearranged
import PromqlEditor.Proofs.Token.Alike
import PromqlEditor.Proofs.Token.Empty
import PromqlEditor.Proofs.Diagnostic.Nesting
import PromqlEditor.Proofs.Text.Trimming
import PromqlEditor.Proofs.Text.Lowercase
import PromqlEditor.Proofs.Decimal.Count
import PromqlEditor.Proofs.Settings.Variables
import PromqlEditor.Proofs.Settings.Faults
import PromqlEditor.Proofs.Settings.Overriding
import PromqlEditor.Proofs.Settings.Notations
import PromqlEditor.Proofs.Tree.Visits
