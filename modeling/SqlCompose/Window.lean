/-
# Windows

A window is built clause by clause: how the rows are parted, how they are ordered,
which of them a frame covers, and what is left out of the frame.  A phase says how
far a window has come, and a step leads from one phase to a later one.  So no clause
occurs twice, and none before another that it has to follow: a frame of values or of
groups has an order before it, and an exclusion has a frame.
-/

import SqlCompose.Aggregate.Catalog

namespace SqlCompose

/-- How far a window has come. -/
inductive Phase where
  | fresh | partitioned | ordered | framed | excluded
  deriving DecidableEq

namespace Phase

/-- Whether the rows can still be ordered. -/
def admitsOrder : Phase → Bool
  | .fresh | .partitioned => true
  | _ => false

/-- Whether a frame can still be given. -/
def admitsFrame : Phase → Bool
  | .fresh | .partitioned | .ordered => true
  | _ => false

end Phase

/-- A column by which rows are ordered. -/
structure OrderKey where
  column : ColumnArgument
  order : SortOrder := .asc
  deriving DecidableEq

/-- A step from one phase of a window to another. -/
inductive WindowStep : Phase → Phase → Type where
  | partitionBy (columns : List ColumnArgument) : WindowStep .fresh .partitioned
  | orderBy {p : Phase} (admitted : p.admitsOrder = true) (keys : List OrderKey) :
      WindowStep p .ordered
  | rows {p : Phase} (admitted : p.admitsFrame = true) (frame : Frame) : WindowStep p .framed
  | range (frame : Frame) : WindowStep .ordered .framed
  | groups (frame : Frame) : WindowStep .ordered .framed
  | exclude (exclusion : Exclusion) : WindowStep .framed .excluded

/-- A function over a window that has come to a phase. -/
structure Window (phase : Phase) where
  schema : Schema
  function : Expr
  cast : Option NumericCast
  clauses : List WindowClause

namespace Window

/-- The window of all rows. -/
def fresh (schema : Schema) (function : Expr) (cast : Option NumericCast) : Window .fresh :=
  ⟨schema, function, cast, []⟩

/-- The window with one more clause, in the phase that the clause leads to. -/
def push {p : Phase} (w : Window p) (q : Phase) (clause : WindowClause) : Window q :=
  { w with clauses := w.clauses ++ [clause] }

/-- The expressions of the columns by which rows are parted; at least one. -/
def partitionClause (schema : Schema) (columns : List ColumnArgument) :
    Except Error WindowClause := do
  let resolved ← columns.mapM (schema.resolve "partition_by" .document)
  if resolved.isEmpty then .error (.emptyClause "partition_by")
  else return .partitionBy (resolved.map ResolvedColumn.expr)

/-- The key of an order for a column. -/
def sortKey (schema : Schema) (key : OrderKey) : Except Error SortKey := do
  let resolved ← schema.resolve "order_by" .document key.column
  return ⟨resolved.expr, key.order⟩

/-- The keys by which rows are ordered; at least one. -/
def orderClause (schema : Schema) (keys : List OrderKey) : Except Error WindowClause := do
  let resolved ← keys.mapM (sortKey schema)
  if resolved.isEmpty then .error (.emptyClause "order_by")
  else return .orderBy resolved

/-- The clause that a step adds. -/
def clause {p q : Phase} (schema : Schema) : WindowStep p q → Except Error WindowClause
  | .partitionBy columns => partitionClause schema columns
  | .orderBy _ keys => orderClause schema keys
  | .rows _ frame => .ok (.frame .rows frame)
  | .range frame => .ok (.frame .range frame)
  | .groups frame => .ok (.frame .groups frame)
  | .exclude exclusion => .ok (.exclude exclusion)

/-- Takes a step. -/
def step {p q : Phase} (w : Window p) (s : WindowStep p q) : Except Error (Window q) :=
  (clause w.schema s).map (w.push q)

/-- The window as an expression, its result cast as that of the function. -/
def toExpr {p : Phase} (w : Window p) : Expr :=
  NumericCast.apply w.cast (.window w.function w.clauses)

end Window

/-- The aggregate over a window. -/
def Aggregate.window (schema : Schema) (a : Aggregate) : Window .fresh :=
  .fresh schema a.expr a.cast

/-- The ranking over a window. -/
def Ranking.window (schema : Schema) (r : Ranking) : Window .fresh :=
  .fresh schema r.expr (some .integer)

end SqlCompose
