/-
# Joined conditions

A condition is built in steps, and each step joins one condition or a list of them to what
is there already.  What comes of it as an expression depends on how the steps follow each
other: a run of one connective becomes a single node, and an expression that was given as
a connective of several operands is taken up into such a node.  None of this can be seen
from the truth of the result, which is that of the steps taken from left to right, nor from
its operands, which are those that were given, in the order in which they were given
(`Condition.truth_and_leaves_joinAll`).

The truth of a node is compared before anything is written.  Whether its text is read with
that truth is another matter.
-/

import SqlCompose.Condition
import SqlCompose.Proofs.Connectives

namespace SqlCompose

namespace Connective

@[simp]
theorem unit_join (op : Connective) (a : Truth) : op.join op.unit a = a := by
  cases op <;> cases a <;> rfl

/-- The last operand of a connective joins what the others amount to. -/
theorem foldr_join_append (op : Connective) (truths : List Truth) (last : Truth) :
    (truths ++ [last]).foldr op.join op.unit = op.join (truths.foldr op.join op.unit) last := by
  induction truths with
  | nil => simp
  | cons first rest ih => simp only [List.cons_append, List.foldr_cons, ih, join_assoc]

/-- Joins some truth values with each other, from left to right, and then the result with
what came before them.  Without any, that stays as it is. -/
def joinList (op : Connective) (before : Truth) : List Truth → Truth
  | [] => before
  | first :: rest => op.join before (rest.foldl op.join first)

end Connective

namespace Expr

theorem truth_appendOperand (v : Expr → Truth) (op : Connective) (left right : Expr) :
    (Condition.appendOperand op left right).truth v =
      op.join (left.truth v) (right.truth v) := by
  fun_cases Condition.appendOperand op left right with
  | case1 a b rest =>
      simp only [truth, truths_eq, List.map_append, List.map_cons, List.map_nil]
      exact op.foldr_join_append _ _
  | case2 | case3 => simp [truth, truths_eq]

theorem leaves_appendOperand (op : Connective) (left right : Expr) :
    (Condition.appendOperand op left right).leaves = left.leaves ++ right.leaves := by
  fun_cases Condition.appendOperand op left right with
  | case1 a b rest => simp [leaves, leavesAll_eq]
  | case2 | case3 => simp [leaves, leavesAll_eq]

end Expr

/-- The conditions of a branch. -/
def Branch.conditions : Branch → List Condition
  | .one condition => [condition]
  | .many conditions => conditions

namespace Condition

/-- The truth of a condition, given that of the expressions that are no connectives. -/
def truth (v : Expr → Truth) : Condition → Truth
  | .leaf e => e.truth v
  | .joined op left right => op.join (left.truth v) (right.truth v)

/-- The operands of a condition that are no connectives, as they were given. -/
def leaves : Condition → List Expr
  | .leaf e => e.leaves
  | .joined _ left right => left.leaves ++ right.leaves

/-- Takes steps one after another. -/
def joinAll (start : Condition) (steps : List (Connective × Branch)) : Condition :=
  steps.foldl (fun c step => c.join step.1 step.2) start

@[simp]
theorem joinAll_nil (start : Condition) : start.joinAll [] = start := rfl

@[simp]
theorem joinAll_cons (start : Condition) (step : Connective × Branch)
    (rest : List (Connective × Branch)) :
    start.joinAll (step :: rest) = (start.join step.1 step.2).joinAll rest := rfl

/-! ## The expression of a condition -/

/-- Taking operands into a node keeps the truth. -/
theorem truth_expr (v : Expr → Truth) (c : Condition) : c.expr.truth v = c.truth v := by
  induction c with
  | leaf e => rfl
  | joined op left right ihLeft ihRight =>
      rw [expr, Expr.truth_appendOperand, ihLeft, ihRight, truth]

/-- Taking operands into a node keeps their order. -/
theorem leaves_expr (c : Condition) : c.expr.leaves = c.leaves := by
  induction c with
  | leaf e => rfl
  | joined op left right ihLeft ihRight =>
      rw [expr, Expr.leaves_appendOperand, ihLeft, ihRight, leaves]

/-! ## One step -/

theorem truth_foldl_joined (v : Expr → Truth) (op : Connective) (first : Condition)
    (rest : List Condition) :
    (rest.foldl (joined op) first).truth v = (rest.map (truth v)).foldl op.join (first.truth v) := by
  induction rest generalizing first with
  | nil => rfl
  | cons next rest ih => simp only [List.foldl_cons, List.map_cons, ih, truth]

theorem leaves_foldl_joined (op : Connective) (first : Condition) (rest : List Condition) :
    (rest.foldl (joined op) first).leaves = first.leaves ++ rest.flatMap leaves := by
  induction rest generalizing first with
  | nil => simp
  | cons next rest ih => simp [ih, leaves]

/-- A step joins the truths of its branch to the truth of what was there. -/
theorem truth_join (v : Expr → Truth) (c : Condition) (op : Connective) (branch : Branch) :
    (c.join op branch).truth v = op.joinList (c.truth v) (branch.conditions.map (truth v)) := by
  match branch with
  | .one other => rfl
  | .many [] => rfl
  | .many (first :: rest) =>
      have folded := truth_foldl_joined v op first rest
      simp only [join, fold?, truth, folded]
      rfl

/-- A step puts the operands of its branch behind those that were there. -/
theorem leaves_join (c : Condition) (op : Connective) (branch : Branch) :
    (c.join op branch).leaves = c.leaves ++ branch.conditions.flatMap leaves := by
  match branch with
  | .one other => simp [join, leaves, Branch.conditions]
  | .many [] => simp [join, fold?, Branch.conditions]
  | .many (first :: rest) =>
      simp [join, fold?, leaves, leaves_foldl_joined, Branch.conditions]

/-! ## All steps -/

theorem truth_joinAll (v : Expr → Truth) (start : Condition) (steps : List (Connective × Branch)) :
    (start.joinAll steps).truth v =
      steps.foldl (fun before step =>
        step.1.joinList before (step.2.conditions.map (truth v))) (start.truth v) := by
  induction steps generalizing start with
  | nil => rfl
  | cons step rest ih => rw [joinAll_cons, ih, truth_join, List.foldl_cons]

theorem leaves_joinAll (start : Condition) (steps : List (Connective × Branch)) :
    (start.joinAll steps).leaves =
      start.leaves ++ steps.flatMap fun step => step.2.conditions.flatMap leaves := by
  induction steps generalizing start with
  | nil => simp
  | cons step rest ih =>
      rw [joinAll_cons, ih, leaves_join, List.flatMap_cons, List.append_assoc]

/-- The expression of a condition that is joined in steps is as true as the steps are when
their truths are joined from left to right, those of a list with each other first, whatever
the truth of the operands.  Its operands are those of the start and then those of the
steps, one after another, and none is lost, repeated or moved. -/
theorem truth_and_leaves_joinAll (start : Condition) (steps : List (Connective × Branch)) :
    (∀ v : Expr → Truth, (start.joinAll steps).expr.truth v =
      steps.foldl (fun before step =>
        step.1.joinList before (step.2.conditions.map (truth v))) (start.truth v)) ∧
      (start.joinAll steps).expr.leaves =
        start.leaves ++ steps.flatMap fun step => step.2.conditions.flatMap leaves := by
  constructor
  · intro v
    rw [truth_expr, truth_joinAll]
  · rw [leaves_expr, leaves_joinAll]

/-- A list joined by OR to a conjunction that was given as one node, and another condition
joined by AND to both: the conjunction takes nothing in. -/
example (a b c d e : String) :
    ((leaf (.logical .and [.column a, .column b])).joinAll
      [(.or, .many [.leaf (.column c), .leaf (.column d)]), (.or, .many []),
        (.and, .one (.leaf (.column e)))]).expr =
      .logical .and
        [.logical .or
          [.logical .and [.column a, .column b], .logical .or [.column c, .column d]],
          .column e] := rfl

end Condition

end SqlCompose
