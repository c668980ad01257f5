import Crosstab.Binary64
import Crosstab.CommandLine.Environment
import Crosstab.CommandLine.Help
import Crosstab.CommandLine.Invocation
import Crosstab.CommandLine.Outcome
import Crosstab.Decimal.Layout
import Crosstab.Decimal.Numeral
import Crosstab.Decimal.Shortest
import Crosstab.Directive
import Crosstab.Directive.Keyword
import Crosstab.Discovery
import Crosstab.Engine.Affinity
import Crosstab.Engine.Archive
import Crosstab.Engine.Builtin
import Crosstab.Engine.Catalog
import Crosstab.Engine.Cell
import Crosstab.Engine.Command
import Crosstab.Engine.Database
import Crosstab.Engine.Declaration
import Crosstab.Engine.Error
import Crosstab.Engine.Execution
import Crosstab.Engine.Inventory
import Crosstab.Engine.Keyword
import Crosstab.Engine.Location
import Crosstab.Engine.Negation
import Crosstab.Engine.Reader
import Crosstab.Engine.Relation
import Crosstab.Engine.Resolution
import Crosstab.Engine.Roster
import Crosstab.Engine.Scaled
import Crosstab.Engine.SchemaTable
import Crosstab.Engine.Statistics
import Crosstab.Engine.Storage.Balance
import Crosstab.Engine.Storage.Distribution
import Crosstab.Engine.Storage.Pages
import Crosstab.Engine.Storage.Record
import Crosstab.Engine.Storage.Summary
import Crosstab.Engine.Storage.Tree
import Crosstab.Engine.Table
import Crosstab.Error
import Crosstab.Interchange
import Crosstab.Json.Basic
import Crosstab.Json.Decode
import Crosstab.Json.Printer
import Crosstab.Json.Token
import Crosstab.Json.Tree
import Crosstab.Log.Channel
import Crosstab.Log.Entry
import Crosstab.Options
import Crosstab.Proofs.Decimal.Reading
import Crosstab.Proofs.Decimal.Rounding
import Crosstab.Proofs.Decimal.Shortest
import Crosstab.Proofs.Run.Calls
import Crosstab.Proofs.Run.Course
import Crosstab.Proofs.Sql.Naming
import Crosstab.Proofs.Sql.Quoting
import Crosstab.Proofs.Sql.Scanning
import Crosstab.Proofs.Sql.Statement
import Crosstab.Proofs.Sql.Template
import Crosstab.Proofs.Text.Quoted
import Crosstab.Run
import Crosstab.Spec
import Crosstab.Sql.ColumnNaming
import Crosstab.Sql.Dialect
import Crosstab.Sql.Quote
import Crosstab.Sql.Reserved
import Crosstab.Sql.Statement
import Crosstab.Sql.StatementError
import Crosstab.Sql.Token
import Crosstab.Store
import Crosstab.Store.Recording
import Crosstab.Store.Result
import Crosstab.Text.Alphanumeric
import Crosstab.Text.AsciiCase
import Crosstab.Text.Blank
import Crosstab.Text.CaseTable
import Crosstab.Text.Hexadecimal
import Crosstab.Text.LowerCase
import Crosstab.Text.Quoted
import Crosstab.Text.Ranges
import Crosstab.Value
import Crosstab.ValueSet
import Crosstab.Main
import Crosstab.Proofs.Engine.Reading
import Crosstab.Proofs.Engine.ColumnNames
import Crosstab.Proofs.Engine.Commands
import Crosstab.Proofs.Engine.Comparison
import Crosstab.Proofs.Engine.Creation
import Crosstab.Proofs.Engine.Discovered
import Crosstab.Proofs.Engine.Persistence
import Crosstab.Proofs.Engine.Reached
import Crosstab.Proofs.Run.CrossTabulation
import Crosstab.Proofs.Engine.Lookup
import Crosstab.Proofs.Run.Frame
import Crosstab.Proofs.Engine.Aspects
import Crosstab.Proofs.Run.Prediction
import Crosstab.Proofs.Run.Repetition
import Crosstab.Proofs.Run.Coverage
import Crosstab.Proofs.Directive
import Crosstab.Proofs.Log.Delivery
import Crosstab.Proofs.Engine.FreeNames
import Crosstab.Proofs.Engine.SourceNames
import Crosstab.Proofs.Run.Logging
import Crosstab.Proofs.Run.Creation
import Crosstab.Proofs.Run.Columns
import Crosstab.Proofs.Run.UnknownNames
import Crosstab.Proofs.Text.Words
import Crosstab.Proofs.Directive.Language
import Crosstab.Proofs.Sql.Blame
import Crosstab.Proofs.Json.Scanning
import Crosstab.Proofs.Json.Printing
import Crosstab.Proofs.Interchange
import Crosstab.Proofs.Engine.WholeTable
import Crosstab.Proofs.CommandLine.Settings
import Crosstab.Proofs.CommandLine.Outcome
import Crosstab.Proofs.Directive.Reordering
import Crosstab.Proofs.Directive.Writing
import Crosstab.Proofs.Decimal.Nearest
import Crosstab.Proofs.ValueSet
import Crosstab.Proofs.Discovery
import Crosstab.Proofs.Sql.Literals
import Crosstab.Proofs.ValueSet.Steps
import Crosstab.Proofs.Discovery.Numbers
import Crosstab.Proofs.Sql.BareNames
import Crosstab.Proofs.Text.LowerCase
import Crosstab.Proofs.Options
import Crosstab.Proofs.Store.Records
import Crosstab.Proofs.Json.Numerals
import Crosstab.Proofs.Json.Strings
import Crosstab.Proofs.Json.Values
import Crosstab.Proofs.Json.Grammar
import Crosstab.Proofs.Interchange.Values
import Crosstab.Proofs.Interchange.Fields
import Crosstab.Proofs.Lookup
