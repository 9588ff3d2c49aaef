/-
# Typing of text constants

A text that is compared with a column or assigned to it is bound as a text, and a
server will not compare a text with a date.  So a text constant takes the type of the
column: dates, timestamps and UUIDs are read here, which refuses a malformed one
before a statement exists; for the other types the text is cast.

A comparison is typed when a column stands on its left, a range when its two bounds
are constants.  The operands of connectives are typed one by one; everything else
stays as it is.
-/

import SqlCompose.Expr.Basic
import SqlCompose.Identifier
import SqlCompose.Schema.Basic

namespace SqlCompose

namespace Column

/-- The refusal of a text for a column. -/
def malformed (column : Column) (text : String) (fault : LiteralFault) : Error :=
  .invalidCriterion column.name (.malformed text fault)

/-- A text as a constant of the type of a column. -/
def typedText (column : Column) (text : String) : Except Error Expr :=
  match column.type with
  | .text | .json | .jsonb => .ok (.literal (.text text))
  | .date =>
    match Date.read text with
    | .ok date => .ok (.literal (.date date))
    | .error fault => .error (column.malformed text (.date fault))
  | .timestamp =>
    match Timestamp.read text with
    | .ok timestamp => .ok (.literal (.timestamp timestamp))
    | .error fault => .error (column.malformed text (.timestamp fault))
  | .uuid =>
    match Uuid.read text with
    | .ok uuid => .ok (.literal (.uuid uuid))
    | .error fault => .error (column.malformed text (.uuid fault))
  | type => .ok (.cast (.literal (.text text)) type.sqlName)

mutual

/-- A value as a constant of the type of a column.  Only texts change, also inside a
list that has items. -/
def typedValue (column : Column) : Value → Except Error Expr
  | .array (item :: rest) => do
    let item ← typedValue column item
    let rest ← typedValues column rest
    return .array (item :: rest)
  | .text text => column.typedText text
  | value => .ok (.literal value)

/-- The items of a list as constants of the type of a column. -/
def typedValues (column : Column) : List Value → Except Error (List Expr)
  | [] => .ok []
  | item :: rest => do
    let item ← typedValue column item
    let rest ← typedValues column rest
    return item :: rest

end

end Column

namespace Expr

/-- The declaration of the column that an expression is.  Of a qualified name the
last part counts. -/
def declaredColumn? (schema : Schema) : Expr → Option Column
  | .column name => schema.find? (Identifier.lastPart name)
  | _ => none

/-- The right side of a comparison, typed by the left one. -/
def typedRight (schema : Schema) (left right : Expr) : Except Error Expr :=
  match left.declaredColumn? schema, right with
  | some declared, .literal value => declared.typedValue value
  | _, right => .ok right

/-- The bounds of a range, typed by the expression between them. -/
def typedBounds (schema : Schema) (expr low high : Expr) : Except Error (Expr × Expr) :=
  match expr.declaredColumn? schema, low, high with
  | some declared, .literal low, .literal high => do
    let low ← declared.typedValue low
    let high ← declared.typedValue high
    return (low, high)
  | _, low, high => .ok (low, high)

mutual

/-- The predicate with its text constants typed by the columns of a schema. -/
def typed (schema : Schema) : Expr → Except Error Expr
  | .compare left op right => do
    let right ← typedRight schema left right
    return .compare left op right
  | .between expr low high symmetric => do
    let (low, high) ← typedBounds schema expr low high
    return .between expr low high symmetric
  | .logical op operands => do
    let operands ← typedOperands schema operands
    return .logical op operands
  | expr => .ok expr

/-- The operands of a connective with their text constants typed. -/
def typedOperands (schema : Schema) : List Expr → Except Error (List Expr)
  | [] => .ok []
  | expr :: rest => do
    let expr ← typed schema expr
    let rest ← typedOperands schema rest
    return expr :: rest

end

end Expr

end SqlCompose
