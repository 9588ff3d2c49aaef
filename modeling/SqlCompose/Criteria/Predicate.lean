/-
# Predicates over one column

The conditions that can be built for a given column: comparisons with values, tests
for NULL, membership in a list and ranges, and comparisons between chains of scalar
calls.
-/

import SqlCompose.Condition

namespace SqlCompose

/-- A side of a comparison. -/
inductive Operand where
  | scalar (expr : Expr)
  | literal (value : Value)

/-- The expression of a side of a comparison. -/
def Operand.expr : Operand → Expr
  | .scalar e => e
  | .literal v => .literal v

namespace Predicate

/-- A comparison of two operands. -/
def comparing (left : Operand) (op : Comparison) (right : Operand) : Condition :=
  .leaf (.compare left.expr op right.expr)

/-- A comparison of a column with a value. -/
def compare (column : String) (op : Comparison) (value : Value) : Condition :=
  comparing (.scalar (.column column)) op (.literal value)

/-- The column equals a value. -/
def equals (column : String) (value : Value) : Condition :=
  compare column .eq value

/-- The column is NULL. -/
def isNull (column : String) : Condition :=
  compare column .is .null

/-- The column is not NULL. -/
def isNotNull (column : String) : Condition :=
  compare column .isNot .null

/-- The column is one of some values. -/
def inList (column : String) (values : List Value) : Condition :=
  compare column .isIn (.array values)

/-- The column lies between two values; with `symmetric` they may come in either order. -/
def between (column : String) (low high : Value) (symmetric : Bool) : Condition :=
  .leaf (.between (.column column) (.literal low) (.literal high) symmetric)

end Predicate

end SqlCompose
