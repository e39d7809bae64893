import WireSchema.Command.Arguments
import WireSchema.Command.Run
import WireSchema.Comment.Filter
import WireSchema.Comment.Reader
import WireSchema.Comment.Trim
import WireSchema.Decimal.Binary64
import WireSchema.Decimal.Layout
import WireSchema.Decimal.Shortest
import WireSchema.Disk.Path
import WireSchema.Disk.Store
import WireSchema.Generation.Error
import WireSchema.Generation.Generator
import WireSchema.Generation.Group
import WireSchema.Generation.Run
import WireSchema.Grammar.Cursor
import WireSchema.Grammar.Expression
import WireSchema.Grammar.File
import WireSchema.Grammar.Item
import WireSchema.Grammar.Lexer
import WireSchema.Grammar.Literal
import WireSchema.Grammar.Path
import WireSchema.Grammar.Pattern
import WireSchema.Grammar.Rule
import WireSchema.Grammar.Statement
import WireSchema.Grammar.Token
import WireSchema.Grammar.Type
import WireSchema.Json.Compound
import WireSchema.Json.Failure
import WireSchema.Json.Reader
import WireSchema.Json.Scalar
import WireSchema.Json.Value
import WireSchema.Main
import WireSchema.Name.Case
import WireSchema.Name.Keyword
import WireSchema.Schema.Default
import WireSchema.Schema.Document
import WireSchema.Schema.Error
import WireSchema.Schema.FieldType
import WireSchema.Schema.Load
import WireSchema.Schema.Message
import WireSchema.Schema.Normalize
import WireSchema.Schema.Record
import WireSchema.Settings.Basic
import WireSchema.Settings.Entries
import WireSchema.Settings.Level
import WireSchema.Source.Check
import WireSchema.Source.Codec
import WireSchema.Source.Compile
import WireSchema.Source.Diagnostic
import WireSchema.Source.Error
import WireSchema.Source.Item
import WireSchema.Source.Line
import WireSchema.Source.Piece
import WireSchema.Source.Sheet
import WireSchema.Text.Blank
import WireSchema.Text.CaseTable
import WireSchema.Text.IdentifierChar
import WireSchema.Text.Letter
import WireSchema.Text.Lines
import WireSchema.Text.Numeral
import WireSchema.Text.Printable
import WireSchema.Text.Quoted
import WireSchema.Text.Utf8
import WireSchema.Version.Condition
import WireSchema.Version.Range
import WireSchema.Wire.Bundled
import WireSchema.Wire.Codec
import WireSchema.Wire.Decoder
import WireSchema.Wire.Document
import WireSchema.Wire.Encoder
import WireSchema.Wire.Error
import WireSchema.Wire.Layout
import WireSchema.Wire.Shape
import WireSchema.Wire.Word
import WireSchema.Proofs.Text.Utf8
import WireSchema.Proofs.Wire.Format
import WireSchema.Proofs.Text.Numeral
import WireSchema.Proofs.Grammar.Lexer
import WireSchema.Proofs.Grammar.Word
import WireSchema.Proofs.Version.Formula
import WireSchema.Proofs.Wire.RoundTrip
import WireSchema.Proofs.Source.Gating
import WireSchema.Proofs.Wire.Truncation
import WireSchema.Proofs.Comment.Filter
import WireSchema.Proofs.Comment.Requests
import WireSchema.Proofs.Comment.Reader
import WireSchema.Proofs.Json.Place
import WireSchema.Proofs.Json.Record
import WireSchema.Proofs.Schema.WellFormed
import WireSchema.Proofs.Schema.Load
import WireSchema.Proofs.Schema.Position
import WireSchema.Proofs.Text.Lines
import WireSchema.Proofs.Source.Sheet
import WireSchema.Proofs.Name.Case
import WireSchema.Proofs.Name.Keyword
import WireSchema.Proofs.Name.Normal
import WireSchema.Proofs.Name.Identifier
import WireSchema.Proofs.Schema.Record
import WireSchema.Proofs.Source.Remark
import WireSchema.Proofs.Source.Balance
import WireSchema.Proofs.Source.Declaration
import WireSchema.Proofs.Source.Reference
import WireSchema.Proofs.Generation.Group
import WireSchema.Proofs.Generation.Routing
import WireSchema.Proofs.Disk.Store
import WireSchema.Proofs.Generation.Delivery
import WireSchema.Proofs.Generation.Isolation
import WireSchema.Proofs.Generation.Order
import WireSchema.Proofs.Generation.Overwriting
import WireSchema.Proofs.Source.Check
import WireSchema.Proofs.Generation.Accounting
import WireSchema.Proofs.Schema.Resolution
import WireSchema.Proofs.Disk.Path
import WireSchema.Proofs.Generation.FileName
import WireSchema.Proofs.Comment.Lines
import WireSchema.Proofs.Comment.Session
import WireSchema.Proofs.Address
import WireSchema.Proofs.Source.Fault
import WireSchema.Proofs.Wire.Oversize
import WireSchema.Proofs.Wire.Sequence
import WireSchema.Proofs.Text.Positional
import WireSchema.Proofs.Text.Quoted
import WireSchema.Proofs.Schema.Integer
import WireSchema.Proofs.Source.Numeral
import WireSchema.Proofs.Source.Quoted
import WireSchema.Proofs.Source.Indentation
import WireSchema.Proofs.Version.Spelling
import WireSchema.Proofs.Schema.Normalize
import WireSchema.Proofs.Source.Item
import WireSchema.Proofs.Comment.Trim
import WireSchema.Proofs.Version.Redundancy
import WireSchema.Proofs.Name.Words
import WireSchema.Proofs.Program.Syntax
import WireSchema.Proofs.Program.Run
import WireSchema.Proofs.Program.Member
import WireSchema.Proofs.Program.Codec
