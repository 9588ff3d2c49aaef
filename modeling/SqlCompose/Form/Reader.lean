/-
# Reading stored values

The documents under which values, paths, frames and expressions are stored are read
back.  A case without fields is its name or an object with its name over null; every
other case is an object with exactly one key.  Keys of an object that name no field are
passed over, and a field that may be absent may be missing.

The recursion is bounded by the depth of the document.
-/

import SqlCompose.Form.Expr

namespace SqlCompose

open Decimal (Binary64 Numeral.toInt64?)

namespace Json

/-- The name of a case and its content, which is missing where only the name is given. -/
def case? : Json → Option (String × Option Json)
  | .string name => some (name, none)
  | .object [(name, content)] => some (name, some content)
  | _ => none

/-- The name of a case without fields. -/
def caseName? (j : Json) : Option String :=
  match j.case? with
  | some (name, none) => some name
  | some (name, some .null) => some name
  | _ => none

/-- The text of a string. -/
def string? : Json → Option String
  | .string s => some s
  | _ => none

/-- The value of a truth value. -/
def bool? : Json → Option Bool
  | .bool b => some b
  | _ => none

/-- The items of an array. -/
def array? : Json → Option (List Json)
  | .array items => some items
  | _ => none

/-- A signed word of 64 bits. -/
def int64? : Json → Option Int64
  | .number (.int i) => Numeral.toInt64? i
  | _ => none

/-- A word of 64 bits without a sign. -/
def uint64? : Json → Option UInt64
  | .number (.int i) => if 0 ≤ i ∧ i < UInt64.size then some (UInt64.ofNat i.toNat) else none
  | _ => none

/-- A binary64 number.  A whole number is taken for one. -/
def float? : Json → Option Binary64
  | .number (.int i) => some (Binary64.ofInt i)
  | .number (.float x) => some x
  | _ => none

/-- The two items of a pair. -/
def pair? : Json → Option (Json × Json)
  | .array [first, second] => some (first, second)
  | _ => none

/-- The values of the fields of a record, given by their names or all of them in order. -/
def recordFields? (names : List String) (j : Json) : Option (List Json) :=
  match j with
  | .object _ => names.mapM fun name => j.field? name
  | .array items => if items.length = names.length then some items else none
  | _ => none

end Json

/-- Reads a stored date. -/
def Date.ofJson? (j : Json) : Option Date := do
  (Calendar.readDate Calendar.looseDateFormat (← j.string?).toList).toOption

/-- Reads a stored timestamp. -/
def Timestamp.ofJson? (j : Json) : Option Timestamp := do
  (Calendar.readTimestamp Calendar.looseTimestampFormat (← j.string?).toList).toOption

/-- Reads a stored UUID. -/
def Uuid.ofJson? (j : Json) : Option Uuid := do
  (Uuid.readForm (← j.string?).toList).toOption

namespace Value

/-- Reads the content of a value other than a list. -/
def ofContent? (name : String) (content : Json) : Option Value :=
  match name with
  | "Null" => if content matches .null then some .null else none
  | "Bool" => content.bool?.map .bool
  | "Int" => content.int64?.map .int
  | "Float" => content.float?.map .float
  | "Text" => content.string?.map .text
  | "Json" => some (.json content)
  | "Date" => (Date.ofJson? content).map .date
  | "Timestamp" => (Timestamp.ofJson? content).map .timestamp
  | "Uuid" => (Uuid.ofJson? content).map .uuid
  | _ => none

/-- Reads a value of at most a given depth. -/
def ofJsonWithin? : Nat → Json → Option Value
  | 0, _ => none
  | fuel + 1, j =>
    match j.case? with
    | some ("Null", none) => some .null
    | some ("Array", some content) => do
      let items ← (← content.array?).mapM (ofJsonWithin? fuel)
      return .array items
    | some (name, some content) => ofContent? name content
    | _ => none

/-- Reads a stored value. -/
def ofStored? (j : Json) : Option Value :=
  ofJsonWithin? j.depth j

end Value

/-- Reads a stored step of a path. -/
def PathSegment.ofJson? (j : Json) : Option PathSegment :=
  match j.case? with
  | some ("Key", some content) => content.string?.map .key
  | some ("Index", some content) => content.int64?.map .index
  | _ => none

/-- Reads a stored path. -/
def JsonPath.ofJson? (j : Json) : Option JsonPath :=
  match j.recordFields? ["segments"] with
  | some [segments] => do
    let segments ← (← segments.array?).mapM PathSegment.ofJson?
    return ⟨segments⟩
  | _ => none

/-- Reads a stored boundary. -/
def Boundary.ofJson? (j : Json) : Option Boundary :=
  match j.case? with
  | some ("Preceding", some content) => content.uint64?.map .preceding
  | some ("Following", some content) => content.uint64?.map .following
  | _ =>
    match j.caseName? with
    | some "UnboundedPreceding" => some .unboundedPreceding
    | some "CurrentRow" => some .currentRow
    | some "UnboundedFollowing" => some .unboundedFollowing
    | _ => none

/-- Reads a stored frame.  It is taken as it is, legal or not. -/
def Frame.ofJson? (j : Json) : Option Frame :=
  match j.recordFields? ["between", "and"] with
  | some [start, stop] => do
    let start ← Boundary.ofJson? start
    let stop ← Boundary.ofJson? stop
    return ⟨start, stop⟩
  | _ => none

namespace Expr

/-- Reads a list of values, each by a reader. -/
def readList {α : Type} (read : Json → Option α) (j : Json) : Option (List α) := do
  (← j.array?).mapM read

/-- Reads a field of an object. -/
def readField {α : Type} (read : Json → Option α) (name : String) (j : Json) : Option α := do
  read (← j.field? name)

/-- Reads a field of an object that may be missing or null. -/
def readOptional {α : Type} (read : Json → Option α) (name : String) (j : Json) :
    Option (Option α) :=
  match j.field? name with
  | none => some none
  | some .null => some none
  | some content => (read content).map some

/-- Reads an argument behind its keyword. -/
def readArgument (read : Json → Option Expr) (j : Json) : Option KeywordArgument := do
  let (keyword, arg) ← j.pair?
  let arg ← read arg
  match keyword with
  | .null => return ⟨none, arg⟩
  | .string keyword => return ⟨some keyword, arg⟩
  | _ => none

/-- Reads a key of an order. -/
def readKey (read : Json → Option Expr) (j : Json) : Option SortKey := do
  let (expr, order) ← j.pair?
  let expr ← read expr
  let order ← SortOrder.ofName? (← order.caseName?)
  return ⟨expr, order⟩

/-- Reads a clause of a window. -/
def readClause (read : Json → Option Expr) (j : Json) : Option WindowClause :=
  match j.case? with
  | some ("PartitionBy", some content) => (readList read content).map .partitionBy
  | some ("OrderBy", some content) => (readList (readKey read) content).map .orderBy
  | some ("Frame", some content) => do
    let unit ← FrameUnit.ofName? (← readField Json.caseName? "unit" content)
    let extent ← readField Frame.ofJson? "spec" content
    return .frame unit extent
  | some ("Exclude", some content) => do
    return .exclude (← Exclusion.ofName? (← content.caseName?))
  | _ => none

/-- Reads an expression from the name of its case and its content, and the expressions
in it by a reader. -/
def ofContent? (read : Json → Option Expr) (name : String) (content : Json) : Option Expr :=
  match name with
  | "Star" => if content matches .null then some .star else none
  | "Column" => content.string?.map .column
  | "Literal" => (Value.ofStored? content).map .literal
  | "Raw" => content.string?.map .raw
  | "Function" => do
    let name ← readField Json.string? "name" content
    let args ← readField (readList read) "args" content
    return .call name args
  | "Special" => do
    let name ← readField Json.string? "name" content
    let args ← readField (readList (readArgument read)) "args" content
    return .keywordCall name args
  | "Binary" => do
    let left ← readField read "left" content
    let op ← BinaryOperator.ofName? (← readField Json.caseName? "op" content)
    let right ← readField read "right" content
    return .binary left op right
  | "Cast" => do
    let expr ← readField read "expr" content
    let type ← readField Json.string? "target_type" content
    return .cast expr type
  | "Compare" => do
    let left ← readField read "left" content
    let op ← Comparison.ofName? (← readField Json.caseName? "op" content)
    let right ← readField read "right" content
    return .compare left op right
  | "Between" => do
    let expr ← readField read "expr" content
    let low ← readField read "low" content
    let high ← readField read "high" content
    let symmetric ← readField Json.bool? "symmetric" content
    return .between expr low high symmetric
  | "Logical" => do
    let op ← Connective.ofName? (← readField Json.caseName? "op" content)
    let operands ← readField (readList read) "operands" content
    return .logical op operands
  | "JsonAccess" => do
    let base ← readField read "base" content
    let path ← readField JsonPath.ofJson? "path" content
    let asText ← readField Json.bool? "as_text" content
    return .jsonAccess base path asText
  | "Array" => (readList read content).map .array
  | "Aggregate" => do
    let name ← readField Json.string? "name" content
    let args ← readField (readList read) "args" content
    let distinct ← readField Json.bool? "distinct" content
    let withinGroup ← readOptional read "within_group" content
    return .aggregate name args distinct withinGroup
  | "Window" => do
    let function ← readField read "function" content
    let clauses ← readField (readList (readClause read)) "clauses" content
    return .window function clauses
  | "Aliased" => do
    let expr ← readField read "expr" content
    let name ← readField Json.string? "alias" content
    return .aliased expr name
  | _ => none

/-- Reads an expression of at most a given depth. -/
def ofJsonWithin? : Nat → Json → Option Expr
  | 0, _ => none
  | fuel + 1, j =>
    match j.case? with
    | some ("Star", none) => some .star
    | some (name, some content) => ofContent? (ofJsonWithin? fuel) name content
    | _ => none

/-- Reads a stored expression. -/
def ofStored? (j : Json) : Option Expr :=
  ofJsonWithin? j.depth j

end Expr

end SqlCompose
