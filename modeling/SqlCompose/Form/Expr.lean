/-
# Forms of expressions and what is built from them

The names of cases and fields under which values, paths, frames, windows, expressions,
schemas, selections and criteria are stored and described.
-/

import SqlCompose.Criteria.Basic
import SqlCompose.Form.Basic
import SqlCompose.Schema.Basic
import SqlCompose.Statement

namespace SqlCompose

namespace Value

mutual

/-- The form of a value. -/
def form : Value → Form
  | .null => .case "Null"
  | .bool b => .tagged "Bool" [.bool b]
  | .int n => .tagged "Int" [.int n.toInt]
  | .float x => .tagged "Float" [.float x]
  | .text s => .tagged "Text" [.word s]
  | .json document => .tagged "Json" [.document document]
  | .date d => .tagged "Date" [.bare d.text]
  | .timestamp t => .tagged "Timestamp" [.bare (t.text 'T')]
  | .uuid u => .tagged "Uuid" [.bare u.text]
  | .array items => .tagged "Array" [.list (forms items)]

/-- The forms of some values. -/
def forms : List Value → List Form
  | [] => []
  | item :: rest => form item :: forms rest

end

end Value

/-- The form of a step of a path. -/
def PathSegment.form : PathSegment → Form
  | .key name => .tagged "Key" [.word name]
  | .index i => .tagged "Index" [.int i.toInt]

/-- The form of a path. -/
def JsonPath.form (path : JsonPath) : Form :=
  .record "JsonPath" [("segments", .list (path.segments.map PathSegment.form))]

/-- The form of a boundary. -/
def Boundary.form : Boundary → Form
  | .unboundedPreceding => .case "UnboundedPreceding"
  | .preceding n => .tagged "Preceding" [.int n.toNat]
  | .currentRow => .case "CurrentRow"
  | .following n => .tagged "Following" [.int n.toNat]
  | .unboundedFollowing => .case "UnboundedFollowing"

/-- The form of the extent of a frame. -/
def Frame.form (f : Frame) : Form :=
  .record "FrameSpec" [("between", f.start.form), ("and", f.stop.form)]

namespace Expr

/-- The form of a keyword before an argument. -/
def keywordForm : Option String → Form
  | none => .absent
  | some keyword => .present (.word keyword)

mutual

/-- The form of an expression. -/
def form : Expr → Form
  | .star => .case "Star"
  | .column name => .tagged "Column" [.word name]
  | .literal value => .tagged "Literal" [value.form]
  | .raw sql => .tagged "Raw" [.word sql]
  | .call name args => .variant "Function" [("name", .word name), ("args", .list (forms args))]
  | .keywordCall name args =>
    .variant "Special" [("name", .word name), ("args", .list (argumentForms args))]
  | .binary left op right =>
    .variant "Binary" [("left", form left), ("op", .case op.name), ("right", form right)]
  | .cast expr type => .variant "Cast" [("expr", form expr), ("target_type", .word type)]
  | .compare left op right =>
    .variant "Compare" [("left", form left), ("op", .case op.name), ("right", form right)]
  | .between expr low high symmetric =>
    .variant "Between" [("expr", form expr), ("low", form low), ("high", form high),
      ("symmetric", .bool symmetric)]
  | .logical op operands =>
    .variant "Logical" [("op", .case op.name), ("operands", .list (forms operands))]
  | .jsonAccess base path asText =>
    .variant "JsonAccess" [("base", form base), ("path", path.form), ("as_text", .bool asText)]
  | .array items => .tagged "Array" [.list (forms items)]
  | .aggregate name args distinct withinGroup =>
    .variant "Aggregate" [("name", .word name), ("args", .list (forms args)),
      ("distinct", .bool distinct), ("within_group", orderForm withinGroup)]
  | .window function clauses =>
    .variant "Window" [("function", form function), ("clauses", .list (clauseForms clauses))]
  | .aliased expr name => .variant "Aliased" [("expr", form expr), ("alias", .word name)]

/-- The forms of some expressions. -/
def forms : List Expr → List Form
  | [] => []
  | expr :: rest => form expr :: forms rest

/-- The forms of arguments behind keywords. -/
def argumentForms : List KeywordArgument → List Form
  | [] => []
  | ⟨keyword, arg⟩ :: rest => .pair (keywordForm keyword) (form arg) :: argumentForms rest

/-- The form of the order of the rows of an aggregate. -/
def orderForm : Option Expr → Form
  | none => .absent
  | some order => .present (form order)

/-- The forms of the keys of an order. -/
def keyForms : List SortKey → List Form
  | [] => []
  | ⟨expr, order⟩ :: rest => .pair (form expr) (.case order.name) :: keyForms rest

/-- The forms of the clauses of a window. -/
def clauseForms : List WindowClause → List Form
  | [] => []
  | .partitionBy exprs :: rest => .tagged "PartitionBy" [.list (forms exprs)] :: clauseForms rest
  | .orderBy keys :: rest => .tagged "OrderBy" [.list (keyForms keys)] :: clauseForms rest
  | .frame unit extent :: rest =>
    .variant "Frame" [("unit", .case unit.name), ("spec", extent.form)] :: clauseForms rest
  | .exclude exclusion :: rest => .tagged "Exclude" [.case exclusion.name] :: clauseForms rest

end

end Expr

/-- The form of the declaration of a column. -/
def Column.form (column : Column) : Form :=
  .record "ColumnDef" [("name", .word column.name), ("type", .case column.type.name)]

/-- The form of the declaration of a table. -/
def Schema.form (schema : Schema) : Form :=
  .record "TableSchema" [("name", .word schema.name),
    ("columns", .list (schema.columns.map Column.form))]

/-- The form of a selection.  How an aggregate is built is not shown. -/
def Selection.form : Selection → Form
  | .column name => .tagged "Column" [.word name]
  | .expr e => .tagged "Expr" [e.form]
  | .aggregate name _ => .partially "Aggregate" [("alias", .word name)]

/-- The form of a criterion.  How a condition is built is not shown. -/
def Criterion.form : Criterion → Form
  | .equals value => .tagged "Literal" [value.form]
  | .compare op value => .tagged "Compare" [.case op.name, value.form]
  | .built _ => .case "Builder(..)"

/-- The form of criteria. -/
def Criteria.form (criteria : Criteria) : Form :=
  .record "CriteriaMap" [("entries", .list (criteria.entries.map fun (column, criterion) =>
    .pair (.word column) criterion.form))]

end SqlCompose
