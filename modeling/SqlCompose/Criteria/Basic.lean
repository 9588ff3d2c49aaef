/-
# Criteria

A list of columns, each with the condition that it has to meet.  All of them have to
be met, in the order in which they are given; no criteria are met by every row.
-/

import SqlCompose.Criteria.Predicate

namespace SqlCompose

/-- The condition of one column. -/
inductive Criterion where
  /-- The column equals a value. -/
  | equals (value : Value)
  | compare (op : Comparison) (value : Value)
  /-- A condition that is built for the column when it is needed. -/
  | built (condition : String → Condition)

namespace Criterion

/-- The expression of a criterion for its column. -/
def expr (column : String) : Criterion → Expr
  | .equals value => (Predicate.equals column value).expr
  | .compare op value => (Predicate.compare column op value).expr
  | .built condition => (condition column).expr

end Criterion

/-- Columns with their criteria. -/
structure Criteria where
  entries : List (String × Criterion) := []

namespace Criteria

/-- No criteria. -/
def empty : Criteria :=
  ⟨[]⟩

/-- Adds a criterion behind the others. -/
def add (criteria : Criteria) (column : String) (criterion : Criterion) : Criteria :=
  ⟨criteria.entries ++ [(column, criterion)]⟩

/-- The criteria that each of some columns equals a value. -/
def ofValues (pairs : List (String × Value)) : Criteria :=
  ⟨pairs.map fun (column, value) => (column, .equals value)⟩

/-- The number of criteria. -/
def size (criteria : Criteria) : Nat :=
  criteria.entries.length

/-- The expressions of all criteria. -/
def exprs (criteria : Criteria) : List Expr :=
  criteria.entries.map fun (column, criterion) => criterion.expr column

/-- The expression that all criteria are met. -/
def expr (criteria : Criteria) : Expr :=
  match criteria.exprs with
  | [] => .always
  | [single] => single
  | exprs => .logical .and exprs

end Criteria

end SqlCompose
