/-
# Conditions

Boolean expressions that are joined step by step.  Each step joins one condition, or
a list that is first joined in itself by the same connective; an empty list changes
nothing.  A run of one connective becomes a single node of the expression.
-/

import SqlCompose.Expr.Basic

namespace SqlCompose

/-- A boolean expression that can be joined with others. -/
inductive Condition where
  | leaf (expr : Expr)
  | joined (op : Connective) (left right : Condition)

/-- What is joined in one step. -/
inductive Branch where
  | one (condition : Condition)
  | many (conditions : List Condition)

namespace Condition

/-- A list of conditions joined from left to right; nothing if there is none. -/
def fold? (op : Connective) : List Condition → Option Condition
  | [] => none
  | first :: rest => some (rest.foldl (Condition.joined op) first)

/-- Joins a branch to a condition. -/
def join (c : Condition) (op : Connective) : Branch → Condition
  | .one other => .joined op c other
  | .many others =>
    match fold? op others with
    | some folded => .joined op c folded
    | none => c

/-- Appends an operand to an expression.  An expression of the same connective with
more than one operand takes it in; any other becomes the first operand. -/
def appendOperand (op : Connective) (left right : Expr) : Expr :=
  match left with
  | .logical inner (a :: b :: rest) =>
    if inner = op then .logical op ((a :: b :: rest) ++ [right]) else .logical op [left, right]
  | _ => .logical op [left, right]

/-- The expression of a condition. -/
def expr : Condition → Expr
  | .leaf e => e
  | .joined op left right => appendOperand op left.expr right.expr

end Condition

end SqlCompose
