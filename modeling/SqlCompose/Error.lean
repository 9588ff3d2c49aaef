/-
# Errors

Every refusal names its cause: the function, column or clause that did not accept
its input.  The wording of all causes stands in one place, `Error.message`.
-/

import SqlCompose.Calendar.Reader
import SqlCompose.Decimal.Notation
import SqlCompose.Frame.Basic
import SqlCompose.Json.Fault
import SqlCompose.Schema.ColumnType
import SqlCompose.Uuid.Reader

namespace SqlCompose

open Decimal (Binary64 FloatStyle Numeral.text)

/-- Why a text is no value of the type of its column. -/
inductive LiteralFault where
  | date (fault : Calendar.Fault)
  | timestamp (fault : Calendar.Fault)
  | uuid (fault : Uuid.Fault)
  deriving DecidableEq

/-- The type that the text should have been a value of, and the wording. -/
def LiteralFault.message : LiteralFault → String
  | .date fault => ColumnType.date.sqlName ++ ": " ++ fault.message
  | .timestamp fault => ColumnType.timestamp.sqlName ++ ": " ++ fault.message
  | .uuid fault => ColumnType.uuid.sqlName ++ ": " ++ fault.message

/-- Why a criterion cannot be used. -/
inductive CriterionFault where
  /-- The criteria are no JSON object. -/
  | notObject
  /-- An array is not an operator with a value. -/
  | notPair
  /-- The operator of a pair is unknown. -/
  | unknownOperator (word : String)
  /-- A text is no value of the type of its column. -/
  | malformed (text : String) (fault : LiteralFault)
  deriving DecidableEq

/-- The wording of a criterion's fault. -/
def CriterionFault.message : CriterionFault → String
  | .notObject => "criteria must be a JSON object"
  | .notPair => "expected an [operator, value] pair"
  | .unknownOperator word => "unknown operator '" ++ word ++ "'"
  | .malformed text fault => "'" ++ text ++ "' is not a valid " ++ fault.message

/-- Why the fractions of a percentile cannot be used. -/
inductive FractionFault where
  | noFraction
  | outside (fraction : Binary64)
  deriving DecidableEq

/-- The wording of a fraction's fault. -/
def FractionFault.message : FractionFault → String
  | .noFraction => "list is empty"
  | .outside x => FloatStyle.plain.text x ++ " is outside [0, 1]"

/-- Why two boundaries make no frame. -/
inductive FrameFault where
  | startsUnboundedFollowing
  | stopsUnboundedPreceding
  | crossed (start stop : Boundary)
  | negativeOffset (offset : Int64)
  deriving DecidableEq

/-- The wording of a frame's fault. -/
def FrameFault.message : FrameFault → String
  | .startsUnboundedFollowing => "frame start cannot be UNBOUNDED FOLLOWING"
  | .stopsUnboundedPreceding => "frame end cannot be UNBOUNDED PRECEDING"
  | .crossed start stop =>
    "frame starting at " ++ start.text ++ " cannot end at " ++ stop.text
  | .negativeOffset offset =>
    "boundary offset must not be negative (got " ++ Numeral.text offset.toInt ++ ")"

/-- Why a text is no JSON path. -/
inductive PathFault where
  /-- The text does not begin with a step. -/
  | noSegment (text : String)
  /-- Something that is no step follows the path. -/
  | trailing (rest : String)
  deriving DecidableEq

/-- The wording of a path's fault. -/
def PathFault.message : PathFault → String
  | .noSegment text => "expected a key or [index] in '" ++ text ++ "'"
  | .trailing rest => "unexpected trailing content: '" ++ rest ++ "'"

/-- Why a value that a server sent cannot be decoded. -/
inductive DecodingFault where
  /-- No decoder for the type, and its values are no text either. -/
  | noDecoder (column type : String)
  /-- An array has an item without a value. -/
  | nullItem
  /-- The decimal is not a number. -/
  | decimalNaN
  /-- The text of a document is refused. -/
  | document (fault : Json.Fault)
  deriving DecidableEq

/-- The wording of a decoding fault in the column of an index. -/
def DecodingFault.message (index : Nat) : DecodingFault → String
  | .noDecoder column type =>
    "cannot decode column '" ++ column ++ "' of type " ++ type ++ ": " ++
      inColumn ("mismatched types; Rust type `core::option::Option<alloc::string::String>` " ++
        "(as SQL type `TEXT`) is not compatible with SQL type `" ++ type ++ "`")
  | .nullItem => inColumn "unexpected null; try decoding as an `Option`"
  | .decimalNaN => inColumn "Decimal does not support NaN values"
  | .document fault => inColumn fault.message
where
  /-- The wording of what went wrong in the column. -/
  inColumn (text : String) : String :=
    "error occurred while decoding column " ++ Numeral.text index ++ ": " ++ text

/-- Why a configuration cannot be used. -/
inductive ConfigFault where
  /-- The text of the configuration is malformed or holds a wrong value. -/
  | malformed
  /-- No database is named. -/
  | noDatabase (setting : String)
  /-- A table is not declared. -/
  | unknownTable (name : String)
  deriving DecidableEq

/-- The wording of a configuration's fault. -/
def ConfigFault.message : ConfigFault → String
  | .malformed => "malformed configuration"
  | .noDatabase setting =>
    "no database_url configured (set it in config.toml or " ++ setting ++ ")"
  | .unknownTable name => "table '" ++ name ++ "' is not declared"

/-- The cause of a refusal. -/
inductive Error where
  /-- The column is not declared on the table. -/
  | unknownColumn (table column : String)
  /-- A column of JSON documents is given to a function without a path. -/
  | jsonPathRequired (function column : String)
  /-- A path is given for a column that holds no JSON documents. -/
  | unexpectedJsonPath (function column : String)
  /-- The function does not take columns of the type. -/
  | unsupportedColumnType (function column : String) (type : ColumnType)
  | unknownDateUnit (word : String)
  | unknownConversionType (word : String)
  | invalidOperator (word : String)
  | invalidCriterion (column : String) (fault : CriterionFault)
  | invalidFraction (function : String) (fault : FractionFault)
  /-- A boundary of this kind needs an offset. -/
  | missingBoundaryOffset (kind : String)
  /-- A boundary of this kind takes no offset. -/
  | unexpectedBoundaryOffset (kind : String) (offset : Int64)
  | invalidBoundaryType (word : String)
  | invalidFrame (fault : FrameFault)
  /-- A clause is given no columns. -/
  | emptyClause (clause : String)
  | invalidExclusion (word : String)
  | jsonPath (position : Nat) (fault : PathFault)
  /-- A value in a column of a reply cannot be decoded. -/
  | decoding (index : Nat) (fault : DecodingFault)
  /-- The server cannot be reached. -/
  | connection (text : String)
  /-- The server refuses the statement. -/
  | execution (text : String)
  | config (fault : ConfigFault)
  /-- The file of a configuration does not exist. -/
  | fileMissing
  deriving DecidableEq

/-- The wording of an error. -/
def Error.message : Error → String
  | .unknownColumn table column =>
    "Unknown column '" ++ column ++ "' on table '" ++ table ++ "'"
  | .jsonPathRequired function column =>
    function ++ ": column '" ++ column ++ "' is JSON-typed and requires a path"
  | .unexpectedJsonPath function column =>
    function ++ ": column '" ++ column ++ "' is not JSON-typed, a path is not allowed"
  | .unsupportedColumnType function column type =>
    function ++ ": column '" ++ column ++ "' of type " ++ type.sqlName ++ " is not supported"
  | .unknownDateUnit word => "Unknown date unit: '" ++ word ++ "'"
  | .unknownConversionType word => "Unknown conversion type: '" ++ word ++ "'"
  | .invalidOperator word => "Invalid operator: '" ++ word ++ "'"
  | .invalidCriterion column fault =>
    "Invalid criterion for column '" ++ column ++ "': " ++ fault.message
  | .invalidFraction function fault => function ++ ": invalid fraction " ++ fault.message
  | .missingBoundaryOffset kind =>
    "Required number boundary type: '" ++ kind ++ "' needs an offset"
  | .unexpectedBoundaryOffset kind offset =>
    "Boundary type '" ++ kind ++ "' does not take an offset (got " ++
      Numeral.text offset.toInt ++ ")"
  | .invalidBoundaryType word => "Invalid boundary type: '" ++ word ++ "'"
  | .invalidFrame fault => "Invalid window frame: " ++ fault.message
  | .emptyClause clause => clause ++ " requires at least one column"
  | .invalidExclusion word =>
    "Invalid exclude option: '" ++ word ++ "'. Expected: current row, group, ties"
  | .jsonPath position fault =>
    "Invalid JSON path at position " ++ Numeral.text position ++ ": " ++ fault.message
  | .decoding index fault => "Database error: " ++ fault.message index
  | .connection text => "Connection error: " ++ text
  | .execution text => "Execution error: " ++ text
  | .config fault => "Configuration error: " ++ fault.message
  | .fileMissing => "IO error: No such file or directory (os error 2)"

end SqlCompose
