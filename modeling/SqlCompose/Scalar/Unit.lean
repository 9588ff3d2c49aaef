/-
# Units of time and target types

The units in which dates are moved and taken apart, and the types to which a value
is converted.  Both are given by words, without regard to case and to blanks around
them; a unit may also stand in the plural.
-/

import SqlCompose.Error
import SqlCompose.Text.Blank

namespace SqlCompose

open Decimal (Numeral.text)

/-- A unit of time. -/
inductive DateUnit where
  | millisecond | second | minute | hour | day | week | month | quarter | year | decade | century
  deriving DecidableEq

namespace DateUnit

/-- The name of a unit. -/
def name : DateUnit → String
  | .millisecond => "millisecond"
  | .second => "second"
  | .minute => "minute"
  | .hour => "hour"
  | .day => "day"
  | .week => "week"
  | .month => "month"
  | .quarter => "quarter"
  | .year => "year"
  | .decade => "decade"
  | .century => "century"

/-- The spellings of the units without the `s` of a plural. -/
def spellings : List (String × DateUnit) :=
  [("millisecond", .millisecond), ("second", .second), ("sec", .second), ("minute", .minute),
   ("min", .minute), ("hour", .hour), ("day", .day), ("week", .week), ("month", .month),
   ("quarter", .quarter), ("year", .year), ("decade", .decade), ("century", .century),
   ("centurie", .century)]

/-- Reads a unit. -/
def read (word : String) : Except Error DateUnit :=
  let singular := ((Text.folded word).reverse.dropWhile (· = 's')).reverse
  match spellings.lookup (String.ofList singular) with
  | some unit => .ok unit
  | none => .error (.unknownDateUnit word)

/-- The nearest number that is a signed word of 64 bits. -/
def saturate (n : Int) : Int :=
  max Int64.minValue.toInt (min n Int64.maxValue.toInt)

/-- A number of units as an interval.  There is no interval of quarters, so months
stand for them. -/
def interval (unit : DateUnit) (amount : Int64) : String :=
  match unit with
  | .quarter => "INTERVAL '" ++ Numeral.text (saturate (3 * amount.toInt)) ++ " month'"
  | unit => "INTERVAL '" ++ Numeral.text amount.toInt ++ " " ++ unit.name ++ "'"

end DateUnit

/-- A type to which a value is converted. -/
inductive ConversionType where
  | text | integer | bigint | numeric | float | real | boolean | date | time | timestamp
  | timestamptz | json | jsonb | uuid
  deriving DecidableEq

namespace ConversionType

/-- The SQL text of a type. -/
def sqlName : ConversionType → String
  | .text => "text"
  | .integer => "integer"
  | .bigint => "bigint"
  | .numeric => "numeric"
  | .float => "float8"
  | .real => "real"
  | .boolean => "boolean"
  | .date => "date"
  | .time => "time"
  | .timestamp => "timestamp"
  | .timestamptz => "timestamptz"
  | .json => "json"
  | .jsonb => "jsonb"
  | .uuid => "uuid"

/-- The spellings of the types. -/
def spellings : List (String × ConversionType) :=
  [("text", .text), ("string", .text), ("varchar", .text),
   ("integer", .integer), ("int", .integer), ("int4", .integer),
   ("bigint", .bigint), ("int8", .bigint), ("numeric", .numeric), ("decimal", .numeric),
   ("float", .float), ("float8", .float), ("double", .float), ("double precision", .float),
   ("real", .real), ("float4", .real), ("boolean", .boolean), ("bool", .boolean),
   ("date", .date), ("time", .time), ("timestamp", .timestamp), ("timestamptz", .timestamptz),
   ("json", .json), ("jsonb", .jsonb), ("uuid", .uuid)]

/-- Reads a type. -/
def read (word : String) : Except Error ConversionType :=
  match spellings.lookup (String.ofList (Text.folded word)) with
  | some type => .ok type
  | none => .error (.unknownConversionType word)

end ConversionType

end SqlCompose
