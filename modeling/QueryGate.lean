import QueryGate.Command.Arguments
import QueryGate.Command.Basic
import QueryGate.Command.LogFilter
import QueryGate.Command.Program
import QueryGate.Command.Run
import QueryGate.Compile.AliasMap
import QueryGate.Compile.Condition
import QueryGate.Compile.Query
import QueryGate.Compile.Scope
import QueryGate.Contract.Basic
import QueryGate.Contract.Check
import QueryGate.Contract.Describe
import QueryGate.Contract.Document
import QueryGate.Contract.Storefront
import QueryGate.Files.Fault
import QueryGate.Files.Path
import QueryGate.Files.Storage
import QueryGate.Files.Tree
import QueryGate.Guard.Binding
import QueryGate.Guard.Columns
import QueryGate.Guard.Database
import QueryGate.Guard.Session
import QueryGate.Json.Cursor
import QueryGate.Json.Document
import QueryGate.Json.Fault
import QueryGate.Json.Printer
import QueryGate.Json.Reader
import QueryGate.Json.Shape
import QueryGate.Json.Value
import QueryGate.Main
import QueryGate.NameTable
import QueryGate.Number.Binary64
import QueryGate.Number.Decimal
import QueryGate.Number.Layout
import QueryGate.Number.Reading
import QueryGate.Number.Shortest
import QueryGate.Pattern.Atom
import QueryGate.Pattern.Bracket
import QueryGate.Pattern.Check
import QueryGate.Pattern.Flags
import QueryGate.Plan.Catalog
import QueryGate.Plan.Comparison
import QueryGate.Plan.FieldRef
import QueryGate.Plan.Index
import QueryGate.Plan.Limit
import QueryGate.Plan.Raw
import QueryGate.Plan.Validate
import QueryGate.Planner.Answer
import QueryGate.Planner.Metrics
import QueryGate.Planner.Service
import QueryGate.Proofs.Compile.AliasMap
import QueryGate.Proofs.Compile.Binding
import QueryGate.Proofs.Compile.Flags
import QueryGate.Proofs.Compile.Limit
import QueryGate.Proofs.Compile.Noise
import QueryGate.Proofs.Compile.OtherContract
import QueryGate.Proofs.Compile.Outcome
import QueryGate.Proofs.Compile.Parameters
import QueryGate.Proofs.Compile.Projection
import QueryGate.Proofs.Compile.Reencoding
import QueryGate.Proofs.Compile.Scope
import QueryGate.Proofs.Compile.Typing
import QueryGate.Proofs.Compile.ValueIndependence
import QueryGate.Proofs.Compile.Whitelist
import QueryGate.Proofs.Contract.Consistency
import QueryGate.Proofs.Contract.Report
import QueryGate.Proofs.Guard.Columns
import QueryGate.Proofs.Guard.Protocol
import QueryGate.Proofs.Guard.Wrapping
import QueryGate.Proofs.Json.Member
import QueryGate.Proofs.Meaning.Agreement
import QueryGate.Proofs.Meaning.Database
import QueryGate.Proofs.Meaning.Like
import QueryGate.Proofs.Meaning.Malformed
import QueryGate.Proofs.Meaning.Plan
import QueryGate.Proofs.Meaning.Search
import QueryGate.Proofs.Meaning.Select
import QueryGate.Proofs.NameTable
import QueryGate.Proofs.Number.Nearest
import QueryGate.Proofs.Number.Reading
import QueryGate.Proofs.Number.Rounding
import QueryGate.Proofs.Number.Value
import QueryGate.Proofs.Plan.Blank
import QueryGate.Proofs.Plan.FieldRef
import QueryGate.Proofs.Plan.Keys
import QueryGate.Proofs.Plan.Limit
import QueryGate.Proofs.Plan.Noise
import QueryGate.Proofs.Plan.NormalName
import QueryGate.Proofs.Plan.Resolution
import QueryGate.Proofs.Plan.Validation
import QueryGate.Proofs.Planner.Answer
import QueryGate.Proofs.Planner.Counting
import QueryGate.Proofs.Settings.RoundTrip
import QueryGate.Proofs.Statement.Blank
import QueryGate.Proofs.Statement.Brackets
import QueryGate.Proofs.Statement.ColumnRefs
import QueryGate.Proofs.Statement.Conjunction
import QueryGate.Proofs.Statement.Frame
import QueryGate.Proofs.Statement.Lexeme
import QueryGate.Proofs.Statement.Parser
import QueryGate.Proofs.Statement.Piece
import QueryGate.Proofs.Statement.Placement
import QueryGate.Proofs.Statement.Reading
import QueryGate.Proofs.Statement.RoundTrip
import QueryGate.Proofs.Statement.Separation
import QueryGate.Proofs.Statement.Typing
import QueryGate.Proofs.Statement.Untyped
import QueryGate.Proofs.Text.Latin
import QueryGate.Proofs.Text.LowerCase
import QueryGate.Proofs.Text.NormalForm
import QueryGate.Settings.Address
import QueryGate.Settings.Address.Fault
import QueryGate.Settings.Address.Host
import QueryGate.Settings.Address.Name
import QueryGate.Settings.Address.NameChar
import QueryGate.Settings.Address.Numeric
import QueryGate.Settings.Address.Parameter
import QueryGate.Settings.Configuration
import QueryGate.Settings.Directory
import QueryGate.Settings.Environment
import QueryGate.Settings.JsonSchema
import QueryGate.Settings.Pool
import QueryGate.Settings.Runtime
import QueryGate.Settings.Secret
import QueryGate.Statement.Builder
import QueryGate.Statement.Layout
import QueryGate.Statement.Layout.Token
import QueryGate.Statement.Layout.Words
import QueryGate.Statement.Render
import QueryGate.Statement.Select
import QueryGate.Text.Alphanumeric
import QueryGate.Text.Blank
import QueryGate.Text.CombiningClass
import QueryGate.Text.Composition
import QueryGate.Text.Decomposition
import QueryGate.Text.Decomposition.Forms
import QueryGate.Text.Decomposition.Ideographs
import QueryGate.Text.Decomposition.Letters
import QueryGate.Text.Decomposition.Supplementary
import QueryGate.Text.Decomposition.Symbols
import QueryGate.Text.Direction
import QueryGate.Text.FoldedCase
import QueryGate.Text.Hexadecimal
import QueryGate.Text.Invisible
import QueryGate.Text.Joining
import QueryGate.Text.LowerCase
import QueryGate.Text.Mark
import QueryGate.Text.Normal
import QueryGate.Text.Percent
import QueryGate.Text.Punycode
import QueryGate.Text.Range
import QueryGate.Text.Split
import QueryGate.Text.Utf8
import QueryGate.Text.Visible
import QueryGate.Text.WordChar
