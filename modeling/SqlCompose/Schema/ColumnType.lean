/-
# Column types

The types of columns between which statements are told apart.
-/

namespace SqlCompose

/-- The declared type of a column. -/
inductive ColumnType where
  | smallint | integer | bigint | numeric | real | double
  | text | boolean
  | date | timestamp | timestamptz | interval
  | uuid | json | jsonb
  deriving DecidableEq

namespace ColumnType

/-- All column types. -/
def all : List ColumnType :=
  [.smallint, .integer, .bigint, .numeric, .real, .double, .text, .boolean, .date, .timestamp,
   .timestamptz, .interval, .uuid, .json, .jsonb]

/-- The name of a type in a declaration. -/
def name : ColumnType → String
  | .smallint => "smallint"
  | .integer => "integer"
  | .bigint => "bigint"
  | .numeric => "numeric"
  | .real => "real"
  | .double => "double"
  | .text => "text"
  | .boolean => "boolean"
  | .date => "date"
  | .timestamp => "timestamp"
  | .timestamptz => "timestamptz"
  | .interval => "interval"
  | .uuid => "uuid"
  | .json => "json"
  | .jsonb => "jsonb"

/-- The type of a name in a declaration. -/
def ofName? (name : String) : Option ColumnType :=
  all.find? (·.name = name)

/-- The SQL text of a type. -/
def sqlName : ColumnType → String
  | .double => "double precision"
  | type => type.name

/-- A type of JSON documents. -/
def isJson : ColumnType → Bool
  | .json | .jsonb => true
  | _ => false

/-- A type of numbers. -/
def isNumeric : ColumnType → Bool
  | .smallint | .integer | .bigint | .numeric | .real | .double => true
  | _ => false

/-- A type of days, moments or spans of time. -/
def isTemporal : ColumnType → Bool
  | .date | .timestamp | .timestamptz | .interval => true
  | _ => false

end ColumnType

end SqlCompose
