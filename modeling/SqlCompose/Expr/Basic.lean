/-
# Expressions

The tree of a statement's expressions.  It is finished text in all but two respects:
where parentheses stand and how values are written is decided when it is printed.
-/

import SqlCompose.Frame.Basic
import SqlCompose.JsonPath.Basic
import SqlCompose.Operator.Basic
import SqlCompose.Value

namespace SqlCompose

mutual

/-- An expression. -/
inductive Expr where
  /-- All columns. -/
  | star
  /-- A column, by a name that may be qualified. -/
  | column (name : String)
  | literal (value : Value)
  /-- Text that is written as it stands: keywords, types, intervals. -/
  | raw (sql : String)
  | call (name : String) (args : List Expr)
  /-- A call whose arguments are separated by keywords. -/
  | keywordCall (name : String) (args : List KeywordArgument)
  | binary (left : Expr) (op : BinaryOperator) (right : Expr)
  | cast (expr : Expr) (type : String)
  | compare (left : Expr) (op : Comparison) (right : Expr)
  | between (expr low high : Expr) (symmetric : Bool)
  /-- Any number of operands with one connective. -/
  | logical (op : Connective) (operands : List Expr)
  /-- Steps into a JSON document, the last one to its text if `asText` is set. -/
  | jsonAccess (base : Expr) (path : JsonPath) (asText : Bool)
  | array (items : List Expr)
  /-- A call that summarises rows, over ordered rows if `withinGroup` gives the order. -/
  | aggregate (name : String) (args : List Expr) (distinct : Bool) (withinGroup : Option Expr)
  /-- A function over a window. -/
  | window (function : Expr) (clauses : List WindowClause)
  | aliased (expr : Expr) (name : String)

/-- An argument behind its keyword. -/
structure KeywordArgument where
  keyword : Option String
  arg : Expr

/-- A key of an order. -/
structure SortKey where
  expr : Expr
  order : SortOrder

/-- A clause of a window. -/
inductive WindowClause where
  | partitionBy (exprs : List Expr)
  | orderBy (keys : List SortKey)
  | frame (unit : FrameUnit) (extent : Frame)
  | exclude (exclusion : Exclusion)

end

namespace Expr

/-- The predicate that holds of every row. -/
def always : Expr :=
  .literal (.bool true)

/-- Whether the expression is an operator between its operands, so that it takes
parentheses as an operand itself. -/
def isInfix : Expr → Bool
  | .binary .. | .compare .. | .between .. | .logical .. => true
  | _ => false

/-- Whether the expression is a connective of more than one operand, so that it takes
parentheses as the operand of another. -/
def isCompoundLogical : Expr → Bool
  | .logical _ (_ :: _ :: _) => true
  | _ => false

end Expr

end SqlCompose
