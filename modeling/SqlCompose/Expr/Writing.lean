/-
# Writing expressions

One pass writes an expression, whatever becomes of its values.  An operand of an infix
operator takes parentheses when it is infix itself; a connective takes them as the
operand of another only when it has more than one operand of its own.

A comparison whose right side is the constant NULL is a test for NULL, and one with
an empty list of constants is decided at once: nothing is in it.  The left side of
the latter is written all the same and then left out, so its values stay bound.  The
clauses of a window are written before its function, behind which they stand.
-/

import SqlCompose.Bindings
import SqlCompose.Expr.Basic
import SqlCompose.Identifier

namespace SqlCompose

open Decimal (Numeral.text)

namespace Value

mutual

/-- Writes a value.  NULL and truth values are keywords, and a list is written item by
item. -/
def write {σ : Type} (w : ValueWriter σ) : Value → StateM σ String
  | .array items => do return arrayText (← writeAll w items)
  | .null => return literal .null
  | .bool b => return literal (.bool b)
  | v => w v

/-- Writes the items of a list. -/
def writeAll {σ : Type} (w : ValueWriter σ) : List Value → StateM σ (List String)
  | [] => return []
  | item :: rest => do
    let text ← write w item
    let texts ← writeAll w rest
    return text :: texts

end

end Value

namespace PathSegment

/-- A step as the operand of an arrow. -/
def literal : PathSegment → String
  | .key name => Text.quoteLiteral name
  | .index i => Numeral.text i.toInt

end PathSegment

namespace JsonPath

/-- The chain of arrows of the steps of a path.  The last one leads to a text if
`asText` is set. -/
def arrows (asText : Bool) : List PathSegment → String
  | [] => ""
  | [last] => (if asText then "->>" else "->") ++ last.literal
  | segment :: rest => "->" ++ segment.literal ++ arrows asText rest

/-- What is written behind the expression of a document to follow a path in it. -/
def access (path : JsonPath) (asText : Bool) : String :=
  if path.isRoot then (if asText then " #>> '\x7b\x7d'" else "")
  else arrows asText path.segments

end JsonPath

namespace Expr

/-- A text in parentheses where it needs them. -/
def bracketed (needed : Bool) (sql : String) : String :=
  if needed then "(" ++ sql ++ ")" else sql

/-- Texts with commas between them. -/
def listed (parts : List String) : String :=
  ", ".intercalate parts

/-- Writes a comparison whose left side is written already and whose right side is a
constant. -/
def writeConstant {σ : Type} (w : ValueWriter σ) (left : String) (op : Comparison) (right : Value) :
    StateM σ String :=
  match op, right with
  | .eq, .null | .is, .null => return left ++ " IS NULL"
  | .ne, .null | .isNot, .null => return left ++ " IS NOT NULL"
  | .isIn, .array [] => return "FALSE"
  | .notIn, .array [] => return "TRUE"
  | .isIn, .array items | .notIn, .array items => do
    let list ← Value.writeAll w items
    return left ++ " " ++ op.symbol ++ " " ++ bracketed true (listed list)
  | _, _ => do
    let value ← right.write w
    return left ++ " " ++ op.symbol ++ " " ++ bracketed op.takesList value

mutual

/-- Writes an expression. -/
def write {σ : Type} (w : ValueWriter σ) : Expr → StateM σ String
  | .star => return "*"
  | .column name => return Identifier.quoteQualified name
  | .literal value => value.write w
  | .raw sql => return sql
  | .call name args => do return name ++ "(" ++ listed (← writeAll w args) ++ ")"
  | .keywordCall name args => do
    return name ++ "(" ++ " ".intercalate (← writeArguments w args) ++ ")"
  | .binary left op right => do
    let leftText ← write w left
    let rightText ← write w right
    return bracketed left.isInfix leftText ++ " " ++ op.symbol ++ " " ++
      bracketed right.isInfix rightText
  | .cast expr type => do return "CAST(" ++ (← write w expr) ++ " AS " ++ type ++ ")"
  | .compare left op right => do
    let leftText := bracketed left.isInfix (← write w left)
    match right with
    | .literal value => writeConstant w leftText op value
    | .array items => do
      let list := listed (← writeAll w items)
      return leftText ++ " " ++ op.symbol ++ " " ++
        (if op.takesList then "(" ++ list ++ ")" else "ARRAY[" ++ list ++ "]")
    | right => do
      let rightText ← write w right
      return leftText ++ " " ++ op.symbol ++ " " ++
        bracketed (op.takesList || right.isInfix) rightText
  | .between expr low high symmetric => do
    let exprText ← write w expr
    let lowText ← write w low
    let highText ← write w high
    return bracketed expr.isInfix exprText ++
      (if symmetric then " BETWEEN SYMMETRIC " else " BETWEEN ") ++
      bracketed low.isInfix lowText ++ " AND " ++ bracketed high.isInfix highText
  | .logical op [] => return op.neutral
  | .logical _ [single] => write w single
  | .logical op operands => do
    return (" " ++ op.keyword ++ " ").intercalate (← writeOperands w operands)
  | .jsonAccess base path asText => do
    return bracketed base.isInfix (← write w base) ++ path.access asText
  | .array items => do return "ARRAY[" ++ listed (← writeAll w items) ++ "]"
  | .aggregate name args distinct withinGroup => do
    let call := name ++ "(" ++ (if distinct then "DISTINCT " else "") ++
      listed (← writeAll w args) ++ ")"
    match withinGroup with
    | none => return call
    | some order => return call ++ " WITHIN GROUP (ORDER BY " ++ (← write w order) ++ ")"
  | .window function clauses => do
    let clauseTexts ← writeClauses w clauses
    let functionText ← write w function
    return functionText ++ " OVER (" ++ " ".intercalate clauseTexts ++ ")"
  | .aliased expr name => do return (← write w expr) ++ " AS " ++ Identifier.quote name

/-- Writes expressions. -/
def writeAll {σ : Type} (w : ValueWriter σ) : List Expr → StateM σ (List String)
  | [] => return []
  | expr :: rest => do
    let text ← write w expr
    let texts ← writeAll w rest
    return text :: texts

/-- Writes the operands of a connective. -/
def writeOperands {σ : Type} (w : ValueWriter σ) : List Expr → StateM σ (List String)
  | [] => return []
  | expr :: rest => do
    let text ← write w expr
    let texts ← writeOperands w rest
    return bracketed expr.isCompoundLogical text :: texts

/-- Writes arguments with their keywords before them. -/
def writeArguments {σ : Type} (w : ValueWriter σ) : List KeywordArgument → StateM σ (List String)
  | [] => return []
  | ⟨keyword, arg⟩ :: rest => do
    let text ← write w arg
    let texts ← writeArguments w rest
    return (match keyword with
      | some keyword => keyword ++ " " ++ text
      | none => text) :: texts

/-- Writes the keys of an order. -/
def writeKeys {σ : Type} (w : ValueWriter σ) : List SortKey → StateM σ (List String)
  | [] => return []
  | ⟨expr, order⟩ :: rest => do
    let text ← write w expr
    let texts ← writeKeys w rest
    return (text ++ " " ++ order.keyword) :: texts

/-- Writes the clauses of a window. -/
def writeClauses {σ : Type} (w : ValueWriter σ) : List WindowClause → StateM σ (List String)
  | [] => return []
  | clause :: rest => do
    let text ← writeClause w clause
    let texts ← writeClauses w rest
    return text :: texts

/-- Writes a clause of a window. -/
def writeClause {σ : Type} (w : ValueWriter σ) : WindowClause → StateM σ String
  | .partitionBy exprs => do return "PARTITION BY " ++ listed (← writeAll w exprs)
  | .orderBy keys => do return "ORDER BY " ++ listed (← writeKeys w keys)
  | .frame unit extent => return unit.keyword ++ " " ++ extent.text
  | .exclude exclusion => return "EXCLUDE " ++ exclusion.keyword

end

/-- The text of an expression with its values as constants. -/
def sql (e : Expr) : String :=
  (e.write ValueWriter.constants ()).1

/-- The text of an expression with placeholders, and the bindings with its values. -/
def bind (e : Expr) (b : Bindings) : String × Bindings :=
  e.write ValueWriter.placeholders b

end Expr

end SqlCompose
