import DemoQuery.ByteSize
import DemoQuery.Calendar
import DemoQuery.Clause.Cursor
import DemoQuery.Clause.Reader
import DemoQuery.CommandError
import DemoQuery.Config
import DemoQuery.Disk
import DemoQuery.Environment
import DemoQuery.Expr
import DemoQuery.Field
import DemoQuery.Invocation.Reader
import DemoQuery.Json
import DemoQuery.Json.Reader
import DemoQuery.Json.Token
import DemoQuery.Key
import DemoQuery.Main
import DemoQuery.Proofs.ByteSize.Units
import DemoQuery.Proofs.Calendar.Shown
import DemoQuery.Proofs.Clause.Complete
import DemoQuery.Proofs.Clause.Cursor
import DemoQuery.Proofs.Clause.Faults
import DemoQuery.Proofs.Clause.Forms
import DemoQuery.Proofs.Clause.Grammar
import DemoQuery.Proofs.Clause.Joining
import DemoQuery.Proofs.Clause.Order
import DemoQuery.Proofs.Clause.Reading
import DemoQuery.Proofs.Clause.Spans
import DemoQuery.Proofs.Clause.Tuples
import DemoQuery.Proofs.Clause.Values
import DemoQuery.Proofs.Clause.Writing
import DemoQuery.Proofs.Config.Loading
import DemoQuery.Proofs.Config.RoundTrip
import DemoQuery.Proofs.Disk.Making
import DemoQuery.Proofs.Disk.Writing
import DemoQuery.Proofs.Expr.Text
import DemoQuery.Proofs.Failure
import DemoQuery.Proofs.Key.Suggestion
import DemoQuery.Proofs.Path
import DemoQuery.Proofs.Path.LastStep
import DemoQuery.Proofs.Query.Agreement
import DemoQuery.Proofs.Query.Integers
import DemoQuery.Proofs.Query.Meaning
import DemoQuery.Proofs.Query.Negation
import DemoQuery.Proofs.Query.NormalForm
import DemoQuery.Proofs.Query.Refusals
import DemoQuery.Proofs.Query.Requirements
import DemoQuery.Proofs.Record.Loading
import DemoQuery.Proofs.Report.Colours
import DemoQuery.Proofs.Report.Query
import DemoQuery.Proofs.Report.ReadBack
import DemoQuery.Proofs.Report.Streak
import DemoQuery.Proofs.Report.Table
import DemoQuery.Proofs.Run.Colours
import DemoQuery.Proofs.Run.Precedence
import DemoQuery.Proofs.Run.Settings
import DemoQuery.Proofs.Selection.Defaults
import DemoQuery.Proofs.Selection.Interchange
import DemoQuery.Proofs.Selection.Laziness
import DemoQuery.Proofs.Selection.Lookup
import DemoQuery.Proofs.Selection.Passes
import DemoQuery.Proofs.Selection.Supplied
import DemoQuery.Proofs.Text.Digits
import DemoQuery.Proofs.Text.Numeral
import DemoQuery.Proofs.Toml.Lines
import DemoQuery.Query
import DemoQuery.Record
import DemoQuery.Record.Reader
import DemoQuery.Report.Config
import DemoQuery.Report.Keys
import DemoQuery.Report.Query
import DemoQuery.Report.Records
import DemoQuery.Run
import DemoQuery.Selection
import DemoQuery.Text.Reading
import DemoQuery.Text.Showing
import DemoQuery.Toml
import DemoQuery.Toml.Number
import DemoQuery.Toml.Reader
import DemoQuery.Toml.Text
