import SqlCompose.Aggregate.Catalog
import SqlCompose.Aggregate.Column
import SqlCompose.Bindings
import SqlCompose.Calendar.Date
import SqlCompose.Calendar.Reader
import SqlCompose.Calendar.Timestamp
import SqlCompose.Condition
import SqlCompose.Config
import SqlCompose.Criteria.Basic
import SqlCompose.Criteria.Predicate
import SqlCompose.Criteria.Reader
import SqlCompose.Decimal.Binary64
import SqlCompose.Decimal.Fixed
import SqlCompose.Decimal.Notation
import SqlCompose.Decimal.Numeral
import SqlCompose.Decimal.Shortest
import SqlCompose.Error
import SqlCompose.Expr.Basic
import SqlCompose.Expr.Writing
import SqlCompose.Form.Basic
import SqlCompose.Form.Description
import SqlCompose.Form.Expr
import SqlCompose.Form.Reader
import SqlCompose.Frame.Basic
import SqlCompose.Frame.Reader
import SqlCompose.Identifier
import SqlCompose.Interval
import SqlCompose.Json.Basic
import SqlCompose.Json.Fault
import SqlCompose.Json.Printer
import SqlCompose.Json.Reader
import SqlCompose.JsonPath.Basic
import SqlCompose.JsonPath.Reader
import SqlCompose.Log
import SqlCompose.Operator.Basic
import SqlCompose.Operator.Reader
import SqlCompose.Reply.Cell
import SqlCompose.Reply.Record
import SqlCompose.Scalar.Call
import SqlCompose.Scalar.Unit
import SqlCompose.Schema.Basic
import SqlCompose.Schema.ColumnType
import SqlCompose.Session
import SqlCompose.Statement
import SqlCompose.Text.Alphanumeric
import SqlCompose.Text.Blank
import SqlCompose.Text.Printable
import SqlCompose.Text.Quoted
import SqlCompose.Toml.Basic
import SqlCompose.Toml.Reader
import SqlCompose.Typing
import SqlCompose.Uuid.Basic
import SqlCompose.Uuid.Reader
import SqlCompose.Value
import SqlCompose.Window
import SqlCompose.Proofs.Refusals
import SqlCompose.Proofs.Template
import SqlCompose.Proofs.ExprTemplate
import SqlCompose.Proofs.Numbering
import SqlCompose.Proofs.Written
import SqlCompose.Proofs.References
import SqlCompose.Proofs.Windows
import SqlCompose.Proofs.Summaries
import SqlCompose.Proofs.Placeholders
import SqlCompose.Proofs.Statements
import SqlCompose.Proofs.Grammar
import SqlCompose.Proofs.Layout
import SqlCompose.Proofs.Operands
import SqlCompose.Proofs.Formula
import SqlCompose.Proofs.Connectives
import SqlCompose.Proofs.Joining
import SqlCompose.Proofs.Retyping
import SqlCompose.Proofs.TypedStatements
import SqlCompose.Proofs.Acceptance
import SqlCompose.Proofs.Shapes
import SqlCompose.Proofs.Digits
import SqlCompose.Proofs.Scanning
import SqlCompose.Proofs.ScannedConstants
import SqlCompose.Proofs.CalendarTexts
import SqlCompose.Proofs.UuidTexts
import SqlCompose.Proofs.DayNumbers
import SqlCompose.Proofs.DecodedTexts
import SqlCompose.Proofs.PathGrammar
import SqlCompose.Proofs.PathTexts
import SqlCompose.Proofs.WindowCalls
import SqlCompose.Proofs.StoredValues
import SqlCompose.Proofs.StoredExpressions
import SqlCompose.Proofs.ArrowChains
import SqlCompose.Proofs.SentValues
import SqlCompose.Proofs.Demands
import SqlCompose.Proofs.CatalogDemands
import SqlCompose.Proofs.MalformedTexts
import SqlCompose.Proofs.ConstantLists
import SqlCompose.Proofs.NullTests
import SqlCompose.Proofs.KeyOrder
import SqlCompose.Proofs.DocumentCriteria
import SqlCompose.Proofs.MirroredTexts
import SqlCompose.Proofs.IntervalTexts
import SqlCompose.Proofs.ServerIntervals
import SqlCompose.Proofs.BinarySizes
import SqlCompose.Proofs.Rounding
import SqlCompose.Proofs.WholeDecimals
import SqlCompose.Proofs.DecodedRows
import SqlCompose.Proofs.DecodedNulls
import SqlCompose.Proofs.KeptColumns
import SqlCompose.Proofs.LegalFrames
import SqlCompose.Proofs.NamedColumns
import SqlCompose.Proofs.ShortestDecimals
import SqlCompose.Proofs.SqlTokens
import SqlCompose.Proofs.ConstantTexts
import SqlCompose.Proofs.QuotedNames
import SqlCompose.Proofs.KeyWords
