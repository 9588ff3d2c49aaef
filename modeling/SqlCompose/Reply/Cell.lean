/-
# Cells of a reply

What a server sends for a column of a row is a value of the column's type, or nothing
where the column is NULL.  A cell is decoded to a JSON document: whole numbers and truth
values as such, other numbers as binary64 numbers where they are finite, moments, spans
and identifiers as text, and a document by reading its text.
-/

import SqlCompose.Calendar.Timestamp
import SqlCompose.Decimal.Fixed
import SqlCompose.Error
import SqlCompose.Interval
import SqlCompose.Json.Reader
import SqlCompose.Uuid.Basic

namespace SqlCompose

open Decimal (Binary64 Fixed Numeral.toInt64?)

/-- A decimal as it is sent. -/
inductive WireDecimal where
  | nan
  | number (value : Fixed)
  deriving DecidableEq

/-- A type of which values can be decoded. -/
inductive WireType where
  | bool
  | int2 | int4 | int8
  | float4 | float8
  | numeric
  | text | varchar | name
  | json | jsonb
  | date | timestamp | timestamptz
  | uuid
  | interval
  deriving DecidableEq

namespace WireType

/-- All types of which values can be decoded. -/
def all : List WireType :=
  [.bool, .int2, .int4, .int8, .float4, .float8, .numeric, .text, .varchar, .name, .json, .jsonb,
   .date, .timestamp, .timestamptz, .uuid, .interval]

/-- The name by which a server calls the type. -/
def label : WireType → String
  | .bool => "BOOL"
  | .int2 => "INT2"
  | .int4 => "INT4"
  | .int8 => "INT8"
  | .float4 => "FLOAT4"
  | .float8 => "FLOAT8"
  | .numeric => "NUMERIC"
  | .text => "TEXT"
  | .varchar => "VARCHAR"
  | .name => "NAME"
  | .json => "JSON"
  | .jsonb => "JSONB"
  | .date => "DATE"
  | .timestamp => "TIMESTAMP"
  | .timestamptz => "TIMESTAMPTZ"
  | .uuid => "UUID"
  | .interval => "INTERVAL"

/-- The values of a type.  A moment with a time zone is sent in universal time, and a
document as its text. -/
abbrev Carrier : WireType → Type
  | .bool => Bool
  | .int2 => Int16
  | .int4 => Int32
  | .int8 => Int64
  | .float4 | .float8 => Binary64
  | .numeric => WireDecimal
  | .text | .varchar | .name => String
  | .json | .jsonb => String
  | .date => Date
  | .timestamp | .timestamptz => Timestamp
  | .uuid => Uuid
  | .interval => Interval

/-- A decimal as a document: a whole number within 64 bits as such, any other as a
binary64 number. -/
def decodeDecimal (d : Fixed) : Json :=
  match d.whole?.bind Numeral.toInt64? with
  | some n => .int n.toInt
  | none => .ofFloat d.toBinary64

/-- A value as a document. -/
def decode : (type : WireType) → type.Carrier → Except DecodingFault Json
  | .bool, (b : Bool) => .ok (.bool b)
  | .int2, (n : Int16) => .ok (.int n.toInt)
  | .int4, (n : Int32) => .ok (.int n.toInt)
  | .int8, (n : Int64) => .ok (.int n.toInt)
  | .float4, (x : Binary64) | .float8, (x : Binary64) => .ok (.ofFloat x)
  | .numeric, .nan => .error .decimalNaN
  | .numeric, .number d => .ok (decodeDecimal d)
  | .text, (s : String) | .varchar, (s : String) | .name, (s : String) => .ok (.string s)
  | .json, (s : String) | .jsonb, (s : String) =>
    (Json.Reader.document s).mapError DecodingFault.document
  | .date, (d : Date) => .ok (.string d.text)
  | .timestamp, (t : Timestamp) => .ok (.string (t.text 'T'))
  | .timestamptz, (t : Timestamp) => .ok (.string (t.text 'T' ++ "+00:00"))
  | .uuid, (u : Uuid) => .ok (.string u.text)
  | .interval, (i : Interval) => .ok (.string i.text)

end WireType

/-- The type of a column of a reply. -/
inductive ReplyType where
  | scalar (type : WireType)
  | array (type : WireType)
  /-- A type without a decoder whose values are text. -/
  | textual (label : String)
  /-- A type without a decoder whose values are no text. -/
  | foreign (label : String)
  deriving DecidableEq

namespace ReplyType

/-- The labels of the types without a decoder whose values are text. -/
def textualLabels : List String :=
  ["CHAR", "UNKNOWN"]

/-- The type of a label. -/
def ofLabel (label : String) : ReplyType :=
  match WireType.all.find? (·.label = label) with
  | some type => .scalar type
  | none =>
    match WireType.all.find? (·.label ++ "[]" = label) with
    | some type => .array type
    | none => if textualLabels.contains label then .textual label else .foreign label

/-- The values of a type. -/
abbrev Carrier : ReplyType → Type
  | .scalar type => type.Carrier
  | .array type => List (Option type.Carrier)
  | .textual _ => String
  | .foreign _ => Unit

/-- An item of an array as a document. -/
def decodeItem (type : WireType) : Option type.Carrier → Except DecodingFault Json
  | some value => type.decode value
  | none => .error .nullItem

/-- A value of a column as a document. -/
def decode (column : String) : (type : ReplyType) → type.Carrier → Except DecodingFault Json
  | .scalar type, (value : type.Carrier) => type.decode value
  | .array type, (items : List (Option type.Carrier)) =>
    (items.mapM (decodeItem type)).map Json.array
  | .textual _, (s : String) => .ok (.string s)
  | .foreign label, _ => .error (.noDecoder column label)

/-- Whether values of the type are decoded as text for want of a decoder. -/
def lacksDecoder : ReplyType → Bool
  | .textual _ | .foreign _ => true
  | _ => false

end ReplyType

/-- What a server sends for a column of a row. -/
structure Cell where
  column : String
  type : ReplyType
  /-- The value, absent where the column is NULL. -/
  content : Option type.Carrier

namespace Cell

/-- A cell as a document. -/
def decode (cell : Cell) : Except DecodingFault Json :=
  match cell.content with
  | some value => cell.type.decode cell.column value
  | none => .ok .null

end Cell

end SqlCompose
