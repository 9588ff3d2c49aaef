/-
# Schemas

A table is declared by its name and its columns with their types.  Where a function
or a clause takes a column it may also take a path into the documents of a column
of JSON.  Of two declarations of one name the first counts.
-/

import SqlCompose.Error
import SqlCompose.JsonPath.Basic

namespace SqlCompose

/-- The declaration of a column. -/
structure Column where
  name : String
  type : ColumnType
  deriving DecidableEq

/-- The declaration of a table. -/
structure Schema where
  name : String
  columns : List Column
  deriving DecidableEq

namespace Schema

/-- The declaration of a column, if there is one. -/
def find? (schema : Schema) (name : String) : Option Column :=
  schema.columns.find? (·.name = name)

/-- The declaration of a column, which must exist. -/
def require (schema : Schema) (name : String) : Except Error Column :=
  match schema.find? name with
  | some column => .ok column
  | none => .error (.unknownColumn schema.name name)

end Schema

/-- A column as it is given to a function or a clause. -/
inductive ColumnArgument where
  | plain (name : String)
  | json (name : String) (path : JsonPath)
  deriving DecidableEq

namespace ColumnArgument

/-- The name of the column. -/
def name : ColumnArgument → String
  | .plain name => name
  | .json name _ => name

end ColumnArgument

end SqlCompose
