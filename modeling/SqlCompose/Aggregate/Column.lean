/-
# Columns of functions over rows

A column that is given to such a function or to a clause of its window has to be
declared.  A column of JSON documents needs a path, and no other column may have
one.  How the path is followed depends on what the function takes: a document, a
text, or the text cast to a type.
-/

import SqlCompose.Expr.Basic
import SqlCompose.Schema.Basic

namespace SqlCompose

/-- What a path into a document is followed to. -/
inductive Extraction where
  | document
  | text
  | typed (type : String)
  deriving DecidableEq

namespace Extraction

/-- The expression of the part of a document to which a path leads. -/
def apply (column : String) (path : JsonPath) : Extraction → Expr
  | .document => .jsonAccess (.column column) path false
  | .text => .jsonAccess (.column column) path true
  | .typed type => .cast (.jsonAccess (.column column) path true) type

end Extraction

/-- A column that was found in a schema.  The type is absent behind a path. -/
structure ResolvedColumn where
  expr : Expr
  type : Option ColumnType

namespace Schema

/-- Finds the column that is given to a function. -/
def resolve (schema : Schema) (function : String) (extraction : Extraction) :
    ColumnArgument → Except Error ResolvedColumn
  | .plain name => do
    let column ← schema.require name
    if column.type.isJson then .error (.jsonPathRequired function name)
    else .ok ⟨.column name, some column.type⟩
  | .json name path => do
    let column ← schema.require name
    if column.type.isJson then .ok ⟨extraction.apply name path, none⟩
    else .error (.unexpectedJsonPath function name)

/-- Finds the column that is given to a function, whose type must be admitted. -/
def resolveTyped (schema : Schema) (function : String) (extraction : Extraction)
    (admits : ColumnType → Bool) (arg : ColumnArgument) : Except Error Expr := do
  let resolved ← schema.resolve function extraction arg
  match resolved.type with
  | some type =>
    if admits type then .ok resolved.expr
    else .error (.unsupportedColumnType function arg.name type)
  | none => .ok resolved.expr

end Schema

end SqlCompose
