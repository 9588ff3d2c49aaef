/-
# Statements

The three statements on a table: selecting, updating and deleting the rows that meet
some criteria.  A statement is written from left to right with placeholders, and its
values are bound on the way: those of the selected expressions or the assignments
first, those of the criteria after them.
-/

import SqlCompose.Aggregate.Catalog
import SqlCompose.Criteria.Basic
import SqlCompose.Expr.Writing
import SqlCompose.Log
import SqlCompose.Typing

namespace SqlCompose

/-- What is selected. -/
inductive Selection where
  | column (name : String)
  | expr (expr : Expr)
  /-- A function over rows, built for the schema of the table when it is known. -/
  | aggregate (name : String) (build : Schema → Except Error Expr)

namespace Selection

/-- The expression under another name, instead of the one it may have already. -/
def rename (name : String) : Expr → Expr
  | .aliased e _ => .aliased e name
  | e => .aliased e name

/-- The expression of a selection. -/
def compile (schema : Schema) : Selection → Except Error Expr
  | .column name => .ok (.column name)
  | .expr e => .ok e
  | .aggregate name build => (build schema).map (rename name)

end Selection

/-- A statement on a table. -/
inductive Statement where
  /-- The rows that meet the criteria.  No selection stands for all columns. -/
  | select (selections : List Selection) (criteria : Criteria)
  | update (assignments : List (String × Value)) (criteria : Criteria)
  | delete (criteria : Criteria)

/-- The text of a statement and the values bound to it. -/
structure Query where
  sql : String
  params : List Value

/-- A step of writing a statement: what is kept of the values changes, and the step may
be refused. -/
abbrev Compilation (σ : Type) : Type → Type :=
  StateT σ (Except Error)

namespace Compilation

/-- A step that is never refused. -/
def ofState {σ α : Type} (step : StateM σ α) : Compilation σ α :=
  fun b => .ok (step b)

/-- Writes an expression as a part of a statement. -/
def expr {σ : Type} (w : ValueWriter σ) (e : Expr) : Compilation σ String :=
  ofState (e.write w)

end Compilation

namespace Statement

section Writing

variable {σ : Type} (w : ValueWriter σ) (schema : Schema)

/-- Writes the condition on the rows, which is left out if there are no criteria. -/
def condition (criteria : Criteria) : Compilation σ String :=
  if criteria.entries.isEmpty then return ""
  else do
    let predicate ← criteria.expr.typed schema
    return " WHERE " ++ (← Compilation.expr w predicate)

/-- Writes one selection. -/
def selection (s : Selection) : Compilation σ String := do
  let e ← s.compile schema
  Compilation.expr w e

/-- Writes the selected expressions. -/
def projection (selections : List Selection) : Compilation σ String :=
  if selections.isEmpty then return "*"
  else do return Expr.listed (← selections.mapM (selection w schema))

/-- The value that is assigned to a column. -/
def assigned (column : String) (value : Value) : Except Error Expr :=
  match schema.find? column with
  | some declared => declared.typedValue value
  | none => .ok (.literal value)

/-- Writes an assignment. -/
def assignment (pair : String × Value) : Compilation σ String := do
  let value ← assigned schema pair.1 pair.2
  return Identifier.quote pair.1 ++ " = " ++ (← Compilation.expr w value)

/-- Writes a statement. -/
def write : Statement → Compilation σ String
  | .select selections criteria => do
    let projection ← projection w schema selections
    let condition ← condition w schema criteria
    return "SELECT " ++ projection ++ " FROM " ++ Identifier.quoteQualified schema.name ++ condition
  | .update assignments criteria =>
    if assignments.isEmpty then throw (.emptyClause "update_where")
    else do
      let list ← assignments.mapM (assignment w schema)
      let condition ← condition w schema criteria
      return "UPDATE " ++ Identifier.quoteQualified schema.name ++ " SET " ++
        Expr.listed list ++ condition
  | .delete criteria => do
    let condition ← condition w schema criteria
    return "DELETE FROM " ++ Identifier.quoteQualified schema.name ++ condition ++ " RETURNING *"

end Writing

/-- The text of a statement and the values bound to it. -/
def compile (schema : Schema) (s : Statement) : Except Error Query := do
  let (sql, bindings) ← (s.write ValueWriter.placeholders schema).run {}
  return ⟨sql, bindings.values⟩

/-- The event of a statement that was compiled. -/
def compiledEvent : Statement → Event
  | .select .. => ⟨.debug, "compiled select"⟩
  | .update .. => ⟨.debug, "compiled update"⟩
  | .delete .. => ⟨.debug, "compiled delete"⟩

/-- Compiles a statement and tells of it. -/
def compileLogged (schema : Schema) (s : Statement) : Logged Query := do
  let query ← Logged.ofExcept (s.compile schema)
  Logged.past [s.compiledEvent]
  return query

end Statement

end SqlCompose
