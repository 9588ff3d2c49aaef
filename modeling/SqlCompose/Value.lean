/-
# Values

The values that a statement compares with, assigns or selects.  Each can be written
into a statement as a constant of SQL.
-/

import SqlCompose.Calendar.Timestamp
import SqlCompose.Json.Printer
import SqlCompose.Text.Quoted
import SqlCompose.Uuid.Basic

namespace SqlCompose

open Decimal (Binary64 FloatStyle Numeral.text Numeral.toInt64?)

/-- A value. -/
inductive Value where
  | null
  | bool (value : Bool)
  | int (value : Int64)
  | float (value : Binary64)
  | text (value : String)
  /-- A document, of which a server keeps the binary form. -/
  | json (value : Json)
  | date (value : Date)
  | timestamp (value : Timestamp)
  | uuid (value : Uuid)
  /-- A list, written item by item. -/
  | array (items : List Value)

namespace Value

/-- Whether the value is the absent one. -/
def isNull : Value → Bool
  | .null => true
  | _ => false

/-- A list written item by item. -/
def arrayText (items : List String) : String :=
  "ARRAY[" ++ ", ".intercalate items ++ "]"

mutual

/-- The value as a constant of SQL. -/
def literal : Value → String
  | .null => "NULL"
  | .bool true => "TRUE"
  | .bool false => "FALSE"
  | .int n => Numeral.text n.toInt
  | .float x => FloatStyle.plain.text x
  | .text s => Text.quoteLiteral s
  | .json document => Text.quoteLiteral document.text ++ "::jsonb"
  | .date d => "DATE '" ++ d.text ++ "'"
  | .timestamp t => "TIMESTAMP '" ++ t.text ' ' ++ "'"
  | .uuid u => "'" ++ u.text ++ "'::uuid"
  | .array items => arrayText (literals items)

/-- The items of a list as constants of SQL. -/
def literals : List Value → List String
  | [] => []
  | item :: rest => literal item :: literals rest

end

/-- The value of a number of a document: a whole number if it fits 64 bits. -/
def ofNumber : JsonNumber → Value
  | .int i =>
    match Numeral.toInt64? i with
    | some n => .int n
    | none => .float (Binary64.ofInt i)
  | .float x => .float x

/-- The value of a document.  Arrays and objects stay documents. -/
def ofJson : Json → Value
  | .null => .null
  | .bool b => .bool b
  | .number n => ofNumber n
  | .string s => .text s
  | document => .json document

end Value

end SqlCompose
