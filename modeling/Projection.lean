import Projection.CompiledQuery
import Projection.Config
import Projection.Description
import Projection.Entity
import Projection.EnvFile.Assignment
import Projection.EnvFile.Line
import Projection.EnvFile.Value
import Projection.Environment
import Projection.Failure
import Projection.FieldType
import Projection.Files
import Projection.Invocation
import Projection.Items
import Projection.Json.Basic
import Projection.Json.Container
import Projection.Json.Numeral
import Projection.Json.Quoted
import Projection.Json.Reader
import Projection.Json.Record
import Projection.Json.Scalar
import Projection.Json.Skip
import Projection.Json.Writer
import Projection.Kind
import Projection.Layout
import Projection.Lexeme
import Projection.Lexer
import Projection.Listing
import Projection.LogFilter
import Projection.Main
import Projection.Mode
import Projection.Number.Decimal
import Projection.Number.Digits
import Projection.Number.Double
import Projection.Outcome
import Projection.Pattern.Bracket
import Projection.Pattern.Expression
import Projection.Pattern.Flags
import Projection.Pattern.Group
import Projection.Pattern.Piece
import Projection.Proofs.Absence
import Projection.Proofs.Agreement
import Projection.Proofs.Assignments
import Projection.Proofs.Binding
import Projection.Proofs.Canonical
import Projection.Proofs.Cells
import Projection.Proofs.Compilation
import Projection.Proofs.Conformity
import Projection.Proofs.DataFile
import Projection.Proofs.Distinction
import Projection.Proofs.Environment
import Projection.Proofs.Exchange
import Projection.Proofs.Execution
import Projection.Proofs.FirstStop
import Projection.Proofs.History
import Projection.Proofs.Identity
import Projection.Proofs.Interchange
import Projection.Proofs.Interleaving
import Projection.Proofs.Json.Apart
import Projection.Proofs.Json.Blanks
import Projection.Proofs.Json.Container
import Projection.Proofs.Json.Depth
import Projection.Proofs.Json.Entries
import Projection.Proofs.Json.Equality
import Projection.Proofs.Json.Figure
import Projection.Proofs.Json.Reads
import Projection.Proofs.Json.Record
import Projection.Proofs.Json.Sameness
import Projection.Proofs.Json.Value
import Projection.Proofs.Keyword
import Projection.Proofs.KeywordCase
import Projection.Proofs.Layers
import Projection.Proofs.LifeCycle
import Projection.Proofs.Lineage
import Projection.Proofs.ListedLines
import Projection.Proofs.Modes
import Projection.Proofs.Noninterference
import Projection.Proofs.Number.Reach
import Projection.Proofs.Number.Rounding
import Projection.Proofs.OrderText
import Projection.Proofs.Progress
import Projection.Proofs.RecordEquality
import Projection.Proofs.Rendering
import Projection.Proofs.Requests
import Projection.Proofs.RowText
import Projection.Proofs.Separation
import Projection.Proofs.Source
import Projection.Proofs.Statement
import Projection.Proofs.TokenList
import Projection.Proofs.TypeText
import Projection.Proofs.Views
import Projection.Proofs.WordLexer
import Projection.Proofs.Writing
import Projection.Query
import Projection.QueryError
import Projection.RawText
import Projection.Record
import Projection.SampleData
import Projection.Session
import Projection.Settings
import Projection.Taken
import Projection.Text.Alphanumeric
import Projection.Text.Bytes
import Projection.Text.CodePoint
import Projection.Text.Lines
import Projection.Text.Whitespace
import Projection.Token
import Projection.Toml.Basic
import Projection.Toml.Document
import Projection.Toml.Quoted
import Projection.Toml.Scalar
import Projection.Toml.Tree
import Projection.Toml.Value
