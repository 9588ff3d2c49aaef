/-
# Shapes

Two expressions have the same shape if they are equal once the contents of their values are
taken away: a number stays a number and a text a text, lists keep their length, and NULL and the
truth values stay as they are.  What is written for an expression around its placeholders
depends on its shape only, for its template has the shape of the expression
(`Expr.template_shape`), and so does which column a text belongs to (`Expr.slots_shape`).

Typing looks into texts, but only to read other values from them or to refuse them.  So two
statements of the same shape that are both compiled have the same text, whatever stands in
their values, and values of the same kinds are bound to them
(`Statement.compile_sameShape`).
-/

import SqlCompose.Proofs.TypedStatements

namespace SqlCompose

/-- The UUID of zeros. -/
def Uuid.zeros : Uuid :=
  ⟨List.replicate 32 ⟨0, by decide⟩, List.length_replicate⟩

/-- The day from which days are counted. -/
def Date.start : Date :=
  ⟨2000, 1, 1, by decide, by decide⟩

namespace Value

mutual

/-- A value without its contents: one fixed value of each kind stands for the others. -/
def shape : Value → Value
  | .null => .null
  | .bool b => .bool b
  | .int _ => .int 0
  | .float _ => .float (.zero false)
  | .text _ => .text ""
  | .json _ => .json .null
  | .date _ => .date .start
  | .timestamp _ => .timestamp (.midnight .start)
  | .uuid _ => .uuid .zeros
  | .array items => .array (shapes items)

/-- The items of a list without their contents. -/
def shapes : List Value → List Value
  | [] => []
  | item :: rest => item.shape :: shapes rest

end

end Value

namespace Expr

mutual

/-- An expression without the contents of its values. -/
def shape : Expr → Expr
  | .literal v => .literal v.shape
  | .call name args => .call name (shapes args)
  | .keywordCall name args => .keywordCall name (argumentShapes args)
  | .binary left op right => .binary left.shape op right.shape
  | .cast e type => .cast e.shape type
  | .compare left op right => .compare left.shape op right.shape
  | .between e low high symmetric => .between e.shape low.shape high.shape symmetric
  | .logical op operands => .logical op (shapes operands)
  | .jsonAccess base path asText => .jsonAccess base.shape path asText
  | .array items => .array (shapes items)
  | .aggregate name args distinct none => .aggregate name (shapes args) distinct none
  | .aggregate name args distinct (some order) =>
    .aggregate name (shapes args) distinct (some order.shape)
  | .window function clauses => .window function.shape (clauseShapes clauses)
  | .aliased e name => .aliased e.shape name
  | .star => .star
  | .column name => .column name
  | .raw sql => .raw sql

/-- Expressions without the contents of their values. -/
def shapes : List Expr → List Expr
  | [] => []
  | e :: rest => e.shape :: shapes rest

/-- Arguments without the contents of their values. -/
def argumentShapes : List KeywordArgument → List KeywordArgument
  | [] => []
  | ⟨keyword, arg⟩ :: rest => ⟨keyword, arg.shape⟩ :: argumentShapes rest

/-- The keys of an order without the contents of their values. -/
def keyShapes : List SortKey → List SortKey
  | [] => []
  | ⟨e, order⟩ :: rest => ⟨e.shape, order⟩ :: keyShapes rest

/-- The clauses of a window without the contents of their values. -/
def clauseShapes : List WindowClause → List WindowClause
  | [] => []
  | clause :: rest => clauseShape clause :: clauseShapes rest

/-- A clause of a window without the contents of its values. -/
def clauseShape : WindowClause → WindowClause
  | .partitionBy exprs => .partitionBy (shapes exprs)
  | .orderBy keys => .orderBy (keyShapes keys)
  | .frame unit extent => .frame unit extent
  | .exclude exclusion => .exclude exclusion

end

end Expr

/-- Whether two values are equal up to their contents. -/
def Value.SameShape (v w : Value) : Prop :=
  v.shape = w.shape

/-- Whether two expressions are equal up to the contents of their values. -/
def Expr.SameShape (e d : Expr) : Prop :=
  e.shape = d.shape

/-! ## The shape of a template -/

namespace Template

/-- A template without the contents of its values. -/
def shape : Template → Template
  | .text sql => .text sql
  | .value v => .value v.shape
  | .silenced t => .silenced t.shape
  | .append first second => .append first.shape second.shape
  | .crossed first second => .crossed first.shape second.shape

@[simp]
theorem shape_text (sql : String) : (text sql).shape = .text sql := rfl

@[simp]
theorem shape_silenced (t : Template) : t.silenced.shape = t.shape.silenced := rfl

@[simp]
theorem shape_append (first second : Template) :
    (first ++ second).shape = first.shape ++ second.shape := rfl

@[simp]
theorem shape_crossed (first second : Template) :
    (crossed first second).shape = crossed first.shape second.shape := rfl

@[simp]
theorem shape_enclosed (opening : String) (t : Template) (closing : String) :
    (enclosed opening t closing).shape = enclosed opening t.shape closing := rfl

@[simp]
theorem shape_bracketed (needed : Bool) (t : Template) :
    (bracketed needed t).shape = bracketed needed t.shape := by
  cases needed <;> rfl

@[simp]
theorem shape_separated (separator : String) (ts : List Template) :
    (separated separator ts).shape = separated separator (ts.map shape) := by
  induction ts with
  | nil => rfl
  | cons t rest ih =>
      cases rest with
      | nil => rfl
      | cons next rest => simp only [separated, shape_append, shape_text, ih, List.map_cons]

theorem values_shape (t : Template) : t.shape.values = t.values.map Value.shape := by
  induction t with
  | text | value => rfl
  | silenced t ih => exact ih
  | append first second ihFirst ihSecond | crossed first second ihFirst ihSecond =>
      simp only [shape, values, ihFirst, ihSecond, List.map_append]

theorem size_shape (t : Template) : t.shape.size = t.size := by
  rw [size, values_shape, List.length_map, size]

/-- The pieces of a template depend on its shape only. -/
theorem pieces_shape (bound : Nat) (t : Template) : t.shape.pieces bound = t.pieces bound := by
  induction t generalizing bound with
  | text | value | silenced => rfl
  | append first second ihFirst ihSecond | crossed first second ihFirst ihSecond =>
      simp only [shape, pieces, ihFirst, ihSecond, size_shape]

end Template

/-! ## The shape of an expression is that of its template -/

namespace Value

theorem shape_eq_null_iff (v : Value) : v.shape = .null ↔ v = .null := by
  cases v <;> simp [shape]

theorem shape_eq_array_iff (v : Value) :
    (∃ items, v.shape = .array items) ↔ ∃ items, v = .array items := by
  cases v <;> simp [shape]

theorem shape_eq_text_iff (v : Value) :
    (∃ text, v.shape = .text text) ↔ ∃ text, v = .text text := by
  cases v <;> simp [shape]

theorem shapes_eq (items : List Value) : shapes items = items.map shape := by
  induction items with
  | nil => rfl
  | cons item rest ih => simp [shapes, ih]

mutual

theorem template_shape : ∀ v : Value, v.shape.template = v.template.shape
  | .array items => by simp [shape, template, templates_shapes items]
  | .null | .bool _ | .int _ | .float _ | .text _ | .json _ | .date _ | .timestamp _
  | .uuid _ => rfl

theorem templates_shapes :
    ∀ items : List Value, templates (shapes items) = (templates items).map Template.shape
  | [] => rfl
  | item :: rest => by simp [shapes, templates, template_shape item, templates_shapes rest]

end

end Value

namespace Expr

theorem isInfix_shape (e : Expr) : e.shape.isInfix = e.isInfix := by
  cases e with
  | aggregate name args distinct withinGroup => cases withinGroup <;> rfl
  | _ => rfl

theorem isCompoundLogical_shape (e : Expr) :
    e.shape.isCompoundLogical = e.isCompoundLogical := by
  cases e with
  | logical op operands =>
      match operands with
      | [] | [_] | _ :: _ :: _ => rfl
  | aggregate name args distinct withinGroup => cases withinGroup <;> rfl
  | _ => rfl

theorem constantTemplate_shape (left : Expr) (leftTemplate : Template) (op : Comparison)
    (v : Value) :
    constantTemplate left.shape leftTemplate.shape op v.shape =
      (constantTemplate left leftTemplate op v).shape := by
  -- A test for NULL and an empty list decide the form of the text, and both belong to the shape.
  by_cases noNull : v = .null
  · subst noNull
    cases op <;> simp [constantTemplate, isInfix_shape, Value.shape, Value.template]
  by_cases noList : ∃ items, v = .array items
  · obtain ⟨items, rfl⟩ := noList
    cases items with
    | nil =>
        cases op <;>
          simp [constantTemplate, isInfix_shape, Value.shape, Value.shapes, Value.template,
            Value.templates]
    | cons item rest =>
        rw [Value.shape, Value.shapes, constantTemplate_list, constantTemplate_list]
        simp [isInfix_shape, Value.shapes_eq, Value.template_shape, Function.comp_def]
  · have shapeNoNull := mt (Value.shape_eq_null_iff v).mp noNull
    have shapeNoList := mt (Value.shape_eq_array_iff v).mp noList
    rw [not_exists] at noList shapeNoList
    rw [constantTemplate_single _ _ op noNull noList,
      constantTemplate_single _ _ op shapeNoNull shapeNoList]
    simp [isInfix_shape, Value.template_shape]

theorem shape_eq_literal_iff (e : Expr) :
    (∃ v, e.shape = .literal v) ↔ ∃ v, e = .literal v := by
  cases e with
  | aggregate name args distinct withinGroup => cases withinGroup <;> simp [shape]
  | _ => simp [shape]

theorem shape_eq_array_iff (e : Expr) :
    (∃ items, e.shape = .array items) ↔ ∃ items, e = .array items := by
  cases e with
  | aggregate name args distinct withinGroup => cases withinGroup <;> simp [shape]
  | _ => simp [shape]

/-- The template of a comparison of two expressions. -/
theorem template_compare (left : Expr) (op : Comparison) {right : Expr}
    (noConstant : ¬ ∃ v, right = .literal v) (noArray : ¬ ∃ items, right = .array items) :
    (compare left op right).template =
      .bracketed left.isInfix left.template ++ .text (" " ++ op.symbol ++ " ") ++
        .bracketed (op.takesList || right.isInfix) right.template := by
  rw [not_exists] at noConstant noArray
  rw [template]
  · exact noConstant
  · exact noArray

theorem template_shape_compare {left right : Expr} (op : Comparison)
    (noConstant : ¬ ∃ v, right = .literal v) (noArray : ¬ ∃ items, right = .array items)
    (leftShape : left.shape.template = left.template.shape)
    (rightShape : right.shape.template = right.template.shape) :
    (compare left op right).shape.template = (compare left op right).template.shape := by
  have shapeNoConstant := mt (shape_eq_literal_iff right).mp noConstant
  have shapeNoArray := mt (shape_eq_array_iff right).mp noArray
  rw [shape, template_compare _ op shapeNoConstant shapeNoArray,
    template_compare _ op noConstant noArray]
  simp [leftShape, rightShape, isInfix_shape]

mutual

/-- The template of an expression has the shape of the expression. -/
theorem template_shape : ∀ e : Expr, e.shape.template = e.template.shape
  | .star | .column _ | .raw _ => rfl
  | .literal v => v.template_shape
  | .call name args => by simp [shape, template, templates_shapes args]
  | .keywordCall name args => by simp [shape, template, argumentTemplates_shapes args]
  | .binary left op right => by
      simp [shape, template, template_shape left, template_shape right, isInfix_shape]
  | .cast e type => by simp [shape, template, template_shape e]
  | .compare left op right => by
      have leftShape := template_shape left
      have rightShape := template_shape right
      cases right with
      | literal v =>
          simp only [shape, template, leftShape]
          exact constantTemplate_shape left left.template op v
      | array items =>
          simp [shape, template, leftShape, isInfix_shape, templates_shapes items]
      | _ =>
          exact template_shape_compare op (by simp) (by simp) leftShape rightShape
  | .between e low high symmetric => by
      simp [shape, template, template_shape e, template_shape low, template_shape high,
        isInfix_shape]
  | .logical op [] => rfl
  | .logical op [single] => by simp [shape, shapes, template, template_shape single]
  | .logical op (first :: second :: rest) => by
      have operands := operandTemplates_shapes (first :: second :: rest)
      simp only [shapes] at operands
      simp [shape, shapes, template, operands]
  | .jsonAccess base path asText => by simp [shape, template, template_shape base, isInfix_shape]
  | .array items => by simp [shape, template, templates_shapes items]
  | .aggregate name args distinct none => by simp [shape, template, templates_shapes args]
  | .aggregate name args distinct (some order) => by
      simp [shape, template, templates_shapes args, template_shape order]
  | .window function clauses => by
      simp [shape, template, template_shape function, clauseTemplates_shapes clauses]
  | .aliased e name => by simp [shape, template, template_shape e]

theorem templates_shapes :
    ∀ es : List Expr, templates (shapes es) = (templates es).map Template.shape
  | [] => rfl
  | e :: rest => by simp [shapes, templates, template_shape e, templates_shapes rest]

theorem operandTemplates_shapes :
    ∀ es : List Expr, operandTemplates (shapes es) = (operandTemplates es).map Template.shape
  | [] => rfl
  | e :: rest => by
      simp [shapes, operandTemplates, template_shape e, operandTemplates_shapes rest,
        isCompoundLogical_shape]

theorem argumentTemplates_shapes :
    ∀ args : List KeywordArgument,
      argumentTemplates (argumentShapes args) = (argumentTemplates args).map Template.shape
  | [] => rfl
  | ⟨some keyword, arg⟩ :: rest | ⟨none, arg⟩ :: rest => by
      simp [argumentShapes, argumentTemplates, template_shape arg, argumentTemplates_shapes rest]

theorem keyTemplates_shapes :
    ∀ keys : List SortKey, keyTemplates (keyShapes keys) = (keyTemplates keys).map Template.shape
  | [] => rfl
  | ⟨e, order⟩ :: rest => by
      simp [keyShapes, keyTemplates, template_shape e, keyTemplates_shapes rest]

theorem clauseTemplates_shapes :
    ∀ clauses : List WindowClause,
      clauseTemplates (clauseShapes clauses) = (clauseTemplates clauses).map Template.shape
  | [] => rfl
  | clause :: rest => by
      simp [clauseShapes, clauseTemplates, clauseTemplate_shape clause,
        clauseTemplates_shapes rest]

theorem clauseTemplate_shape :
    ∀ clause : WindowClause, clauseTemplate (clauseShape clause) = (clauseTemplate clause).shape
  | .partitionBy exprs => by simp [clauseShape, clauseTemplate, templates_shapes exprs]
  | .orderBy keys => by simp [clauseShape, clauseTemplate, keyTemplates_shapes keys]
  | .frame _ _ | .exclude _ => rfl

end

end Expr

/-! ## The shapes of slots -/

namespace Slot

/-- A slot without the contents of its value. -/
def shape (slot : Slot) : Slot :=
  ⟨slot.value.shape, slot.column⟩

theorem castName_shape (slot : Slot) : slot.shape.castName = slot.castName := by
  obtain ⟨v, column⟩ := slot
  cases column <;> cases v <;> rfl

/-- What is written around a place depends on the shape of its slot only. -/
theorem spellAt_shape (slots : List Slot) (place : Nat → String) (n : Nat) :
    spellAt (slots.map shape) place n = spellAt slots place n := by
  cases n with
  | zero => rfl
  | succ n => simp [spellAt, spell, castName_shape, Function.comp_def]

theorem shape_map_free (vs : List Value) :
    (vs.map free).map shape = (vs.map Value.shape).map free := by
  simp [shape, free, Function.comp_def]

end Slot

/-- All texts become values of one kind for a column. -/
theorem Column.Binds.sameShape {c : Column} {text text' : String} {bound bound' : Value}
    (binds : c.Binds text bound) (binds' : c.Binds text' bound') : bound.SameShape bound' := by
  unfold Column.Binds at binds binds'
  cases type : c.type <;> simp only [type] at binds binds'
  case date | timestamp | uuid =>
    obtain ⟨_, -, rfl⟩ := binds
    obtain ⟨_, -, rfl⟩ := binds'
    rfl
  all_goals
    obtain rfl := binds
    obtain rfl := binds'
    rfl

/-- A value that is no text is bound as it is. -/
theorem Slot.binds_of_noText {v : Value} (noText : ¬ ∃ text, v = .text text)
    (column : Option Column) (bound : Value) : Slot.Binds ⟨v, column⟩ bound ↔ bound = v := by
  rw [not_exists] at noText
  rw [Slot.Binds]
  exact fun text _ isText => noText text (congrArg Slot.value isText)

/-- Values of one kind are bound for slots of the same shape. -/
theorem Slot.Binds.sameShape {slot slot' : Slot} {bound bound' : Value} (binds : slot.Binds bound)
    (binds' : slot'.Binds bound') (same : slot.shape = slot'.shape) :
    bound.SameShape bound' := by
  obtain ⟨v, column⟩ := slot
  obtain ⟨v', column'⟩ := slot'
  obtain ⟨sameValue, rfl⟩ := Slot.mk.inj same
  have sameText : (∃ text, v = .text text) ↔ ∃ text, v' = .text text := by
    rw [← v.shape_eq_text_iff, ← v'.shape_eq_text_iff, sameValue]
  -- Only a text may become a value of another kind, which its column determines.
  by_cases isText : ∃ text, v = .text text
  · obtain ⟨text, rfl⟩ := isText
    obtain ⟨text', rfl⟩ := sameText.mp ⟨text, rfl⟩
    cases column with
    | none =>
        obtain rfl := (Slot.free_binds _ bound).mp binds
        obtain rfl := (Slot.free_binds _ bound').mp binds'
        rfl
    | some c => exact Column.Binds.sameShape (c := c) binds binds'
  · obtain rfl := (Slot.binds_of_noText isText column bound).mp binds
    obtain rfl := (Slot.binds_of_noText (mt sameText.mpr isText) column bound').mp binds'
    exact sameValue

theorem Value.slots_shape (c : Column) (v : Value) :
    v.shape.slots c = (v.slots c).map Slot.shape := by
  simp [slots, Value.template_shape, Template.values_shape, Slot.shape, Function.comp_def]

namespace Expr

variable {schema : Schema}

theorem values_shape (e : Expr) : e.shape.values = e.values.map Value.shape := by
  rw [values, template_shape, Template.values_shape, values]

theorem freeSlots_shape (e : Expr) : e.shape.freeSlots = e.freeSlots.map Slot.shape := by
  rw [freeSlots, freeSlots, values_shape, Slot.shape_map_free]

theorem declaredColumn?_shape (e : Expr) :
    e.shape.declaredColumn? schema = e.declaredColumn? schema := by
  cases e with
  | aggregate name args distinct withinGroup => cases withinGroup <;> rfl
  | _ => rfl

theorem shapes_eq (es : List Expr) : shapes es = es.map shape := by
  induction es with
  | nil => rfl
  | cons e rest ih => rw [shapes, ih, List.map_cons]

/-- Only a constant that is compared with a declared column takes a type. -/
theorem slots_compare_of_undeclared {left right : Expr} (op : Comparison)
    (undeclared : ¬ ∃ c v, left.declaredColumn? schema = some c ∧ right = .literal v) :
    (compare left op right).slots schema = (compare left op right).freeSlots := by
  rw [slots]
  exact fun c v declared isLiteral => undeclared ⟨c, v, declared, isLiteral⟩

/-- Only constants that bound a range of a declared column take a type, and only together. -/
theorem slots_between_of_undeclared {e low high : Expr} (symmetric : Bool)
    (undeclared : ¬ ∃ c v w, e.declaredColumn? schema = some c ∧ low = .literal v ∧
      high = .literal w) :
    (between e low high symmetric).slots schema = (between e low high symmetric).freeSlots := by
  rw [slots]
  exact fun c v w declared isLow isHigh => undeclared ⟨c, v, w, declared, isLow, isHigh⟩

theorem slots_compare_shape (left right : Expr) (op : Comparison) :
    (compare left op right).shape.slots schema =
      ((compare left op right).slots schema).map Slot.shape := by
  by_cases declared : ∃ c v, left.declaredColumn? schema = some c ∧ right = .literal v
  · obtain ⟨c, v, declared, rfl⟩ := declared
    have shapeDeclared := (declaredColumn?_shape left).trans declared
    rw [shape, shape, slots_compare_of_declared op _ shapeDeclared,
      slots_compare_of_declared op v declared, Value.slots_shape]
  · -- Taking contents away turns nothing into a constant that was none.
    have shapeUndeclared : ¬ ∃ c v, left.shape.declaredColumn? schema = some c ∧
        right.shape = .literal v := by
      rintro ⟨c, v, isDeclared, isLiteral⟩
      obtain ⟨w, rfl⟩ := (shape_eq_literal_iff right).mp ⟨v, isLiteral⟩
      exact declared ⟨c, w, declaredColumn?_shape left ▸ isDeclared, rfl⟩
    rw [slots_compare_of_undeclared op declared, ← freeSlots_shape]
    exact slots_compare_of_undeclared op shapeUndeclared

theorem slots_between_shape (e low high : Expr) (symmetric : Bool) :
    (between e low high symmetric).shape.slots schema =
      ((between e low high symmetric).slots schema).map Slot.shape := by
  by_cases declared : ∃ c v w, e.declaredColumn? schema = some c ∧ low = .literal v ∧
      high = .literal w
  · obtain ⟨c, v, w, declared, rfl, rfl⟩ := declared
    have shapeDeclared := (declaredColumn?_shape e).trans declared
    rw [shape, shape, shape, slots_between_of_declared _ _ symmetric shapeDeclared,
      slots_between_of_declared v w symmetric declared, Value.slots_shape, Value.slots_shape,
      List.map_append]
  · have shapeUndeclared : ¬ ∃ c v w, e.shape.declaredColumn? schema = some c ∧
        low.shape = .literal v ∧ high.shape = .literal w := by
      rintro ⟨c, v, w, isDeclared, isLow, isHigh⟩
      obtain ⟨v', rfl⟩ := (shape_eq_literal_iff low).mp ⟨v, isLow⟩
      obtain ⟨w', rfl⟩ := (shape_eq_literal_iff high).mp ⟨w, isHigh⟩
      exact declared ⟨c, v', w', declaredColumn?_shape e ▸ isDeclared, rfl, rfl⟩
    rw [slots_between_of_undeclared symmetric declared, ← freeSlots_shape]
    exact slots_between_of_undeclared symmetric shapeUndeclared

/-- Which column a value belongs to depends on the shape of the expression only. -/
theorem slots_shape (e : Expr) : e.shape.slots schema = (e.slots schema).map Slot.shape := by
  induction e using children_induction with
  | step e ih =>
      cases e with
      | compare left op right => exact slots_compare_shape left right op
      | between e low high symmetric => exact slots_between_shape e low high symmetric
      | logical op operands =>
          rw [shape, slots, slots, operandSlots_eq, operandSlots_eq, shapes_eq, List.flatMap_map,
            List.map_flatMap]
          exact List.flatMap_congr ih
      | aggregate name args distinct withinGroup => cases withinGroup <;> exact freeSlots_shape _
      | _ => exact freeSlots_shape _

end Expr

/-! ## Statements of the same shape -/

namespace Selection

variable {schema : Schema}

theorem rename_shape (name : String) (e : Expr) :
    (rename name e).shape = rename name e.shape := by
  cases e with
  | aggregate function args distinct withinGroup => cases withinGroup <;> rfl
  | _ => rfl

/-- Whether two selections are equal up to the contents of the values in their expressions.  What
is built for a schema is compared if both are built. -/
def SameShape (schema : Schema) : Selection → Selection → Prop
  | .column name, .column name' => name = name'
  | .expr e, .expr d => e.SameShape d
  | .aggregate name build, .aggregate name' build' =>
    name = name' ∧ ∀ e d, build schema = .ok e → build' schema = .ok d → e.SameShape d
  | _, _ => False

theorem SameShape.compile {s t : Selection} {e d : Expr} (same : s.SameShape schema t)
    (found : s.compile schema = .ok e) (found' : t.compile schema = .ok d) : e.SameShape d := by
  cases s <;> cases t <;> try exact same.elim
  case column.column name name' =>
    obtain rfl : name = name' := same
    obtain rfl := Except.ok.inj found
    obtain rfl := Except.ok.inj found'
    rfl
  case expr.expr =>
    obtain rfl := Except.ok.inj found
    obtain rfl := Except.ok.inj found'
    exact same
  case aggregate.aggregate name build name' build' =>
    obtain ⟨rfl, sameBuilt⟩ := same
    obtain ⟨e, built, rfl⟩ := map_eq_ok_iff.mp found
    obtain ⟨d, built', rfl⟩ := map_eq_ok_iff.mp found'
    rw [Expr.SameShape, rename_shape, rename_shape, sameBuilt e d built built']

end Selection

/-- Whether criteria have expressions that are equal up to the contents of their values.  No criteria
and a criterion that is always met have the same expression, but only the latter is
written. -/
def Criteria.SameShape (c d : Criteria) : Prop :=
  c.entries.isEmpty = d.entries.isEmpty ∧ c.expr.SameShape d.expr

namespace GivenPart

/-- A part without the contents of its values. -/
def shape (part : GivenPart) : GivenPart :=
  ⟨part.before, part.expr.shape, part.column⟩

theorem slots_shape (part : GivenPart) : part.shape.slots = part.slots.map Slot.shape := by
  simp [slots, shape, Expr.values_shape, Slot.shape, Function.comp_def]

end GivenPart

namespace Given

variable {schema : Schema}

/-- The expressions of a statement without the contents of their values. -/
def shape (g : Given) : Given :=
  ⟨g.listed.map GivenPart.shape, g.predicate.map Expr.shape⟩

theorem slots_shape (g : Given) : g.shape.slots schema = (g.slots schema).map Slot.shape := by
  have listed : g.shape.listed.flatMap GivenPart.slots =
      (g.listed.flatMap GivenPart.slots).map Slot.shape := by
    simp [shape, List.flatMap_map, List.map_flatMap, GivenPart.slots_shape]
  have predicate : g.shape.predicate.toList.flatMap (Expr.slots schema) =
      (g.predicate.toList.flatMap (Expr.slots schema)).map Slot.shape := by
    cases noPredicate : g.predicate <;> simp [shape, noPredicate, Expr.slots_shape]
  rw [slots, listed, predicate, ← List.map_append, slots]

/-- The template of a statement depends on the shape of its expressions only. -/
theorem template_shape (s : Statement) (g : Given) :
    s.template schema g.shape.parts = (s.template schema g.parts).shape := by
  have predicate : Statement.conditionTemplate g.shape.predicate =
      (Statement.conditionTemplate g.predicate).shape := by
    cases noPredicate : g.predicate <;>
      simp [shape, noPredicate, Statement.conditionTemplate, Expr.template_shape]
  simp only [Statement.template, parts, Template.shape_append, Template.shape_text,
    Template.shape_separated, predicate]
  simp [shape, GivenPart.shape, Statement.listedTemplate, Expr.template_shape, Function.comp_def]

end Given

namespace Statement

variable {schema : Schema}

/-- Whether two statements are equal up to the contents of their values: they select the same
columns and names, assign to the same columns, and their expressions and values have the same
shape. -/
def SameShape (schema : Schema) : Statement → Statement → Prop
  | .select selections criteria, .select selections' criteria' =>
    List.Forall₂ (Selection.SameShape schema) selections selections' ∧
      criteria.SameShape criteria'
  | .update assignments criteria, .update assignments' criteria' =>
    List.Forall₂ (fun pair pair' => pair.1 = pair'.1 ∧ pair.2.SameShape pair'.2)
        assignments assignments' ∧
      criteria.SameShape criteria'
  | .delete criteria, .delete criteria' => criteria.SameShape criteria'
  | _, _ => False

namespace SameShape

variable {s t : Statement}

/-- Statements of the same shape differ in their expressions only. -/
theorem template_eq (same : s.SameShape schema t) (p : Parts) :
    s.template schema p = t.template schema p := by
  cases s <;> cases t <;> try exact same.elim
  case select.select selections criteria selections' criteria' =>
    have sameEmpty : selections.isEmpty = selections'.isEmpty := by
      cases same.1 <;> rfl
    rw [template, template, opening, opening, sameEmpty]
    rfl
  case update.update | delete.delete => rfl

theorem givenSelection_eq_ok {s : Selection} {part : GivenPart}
    (found : Statement.givenSelection schema s = .ok part) :
    ∃ e, s.compile schema = .ok e ∧ part = ⟨"", e, none⟩ := by
  obtain ⟨_, isSelected, rfl⟩ := map_eq_ok_iff.mp found
  obtain ⟨e, compiled, rfl⟩ := map_eq_ok_iff.mp isSelected
  exact ⟨e, compiled, rfl⟩

theorem givenSelections {selections selections' : List Selection} {parts parts' : List GivenPart}
    (same : List.Forall₂ (Selection.SameShape schema) selections selections')
    (found : selections.mapM (givenSelection schema) = .ok parts)
    (found' : selections'.mapM (givenSelection schema) = .ok parts') :
    parts.map GivenPart.shape = parts'.map GivenPart.shape := by
  rw [mapM_eq_ok_iff] at found found'
  induction same generalizing parts parts' with
  | nil =>
      cases found
      cases found'
      rfl
  | cons first rest ih =>
      cases found with
      | cons foundFirst foundRest =>
      cases found' with
      | cons foundFirst' foundRest' =>
      obtain ⟨e, compiled, rfl⟩ := givenSelection_eq_ok foundFirst
      obtain ⟨d, compiled', rfl⟩ := givenSelection_eq_ok foundFirst'
      have sameExpr : e.shape = d.shape := first.compile compiled compiled'
      simp only [List.map_cons, GivenPart.shape, sameExpr, ih foundRest foundRest']

theorem givenAssignments {assignments assignments' : List (String × Value)}
    (same : List.Forall₂ (fun pair pair' => pair.1 = pair'.1 ∧ pair.2.SameShape pair'.2)
      assignments assignments') :
    (assignments.map (givenAssignment schema)).map GivenPart.shape =
      (assignments'.map (givenAssignment schema)).map GivenPart.shape := by
  induction same with
  | nil => rfl
  | @cons pair pair' _ _ first rest ih =>
      obtain ⟨sameName, sameValue⟩ := first
      have sameLiteral : (Expr.literal pair.2).shape = (Expr.literal pair'.2).shape :=
        congrArg Expr.literal sameValue
      simp only [List.map_cons, ih, givenAssignment, GivenPart.shape, sameName, sameLiteral]

theorem givenPredicate {criteria criteria' : Criteria} (same : criteria.SameShape criteria') :
    (Statement.givenPredicate criteria).map Expr.shape =
      (Statement.givenPredicate criteria').map Expr.shape := by
  obtain ⟨sameEmpty, sameExpr⟩ := same
  unfold Statement.givenPredicate
  rw [sameEmpty]
  split
  · rfl
  · exact congrArg some sameExpr

theorem given {g h : Given} (same : s.SameShape schema t) (isGiven : s.given schema = .ok g)
    (isGiven' : t.given schema = .ok h) : g.shape = h.shape := by
  cases s <;> cases t <;> try exact same.elim
  case select.select selections criteria selections' criteria' =>
    obtain ⟨parts, found, isGiven⟩ := bind_eq_ok_iff.mp isGiven
    obtain ⟨parts', found', isGiven'⟩ := bind_eq_ok_iff.mp isGiven'
    obtain rfl := pure_eq_ok_iff.mp isGiven
    obtain rfl := pure_eq_ok_iff.mp isGiven'
    simp only [Given.shape, givenSelections same.1 found found', givenPredicate same.2]
  case update.update assignments criteria assignments' criteria' =>
    obtain rfl := Except.ok.inj isGiven
    obtain rfl := Except.ok.inj isGiven'
    simp only [Given.shape, givenAssignments same.1, givenPredicate same.2]
  case delete.delete criteria criteria' =>
    obtain rfl := Except.ok.inj isGiven
    obtain rfl := Except.ok.inj isGiven'
    simp only [Given.shape, givenPredicate same]

end SameShape

/-- Values of the same kinds are bound for slots of the same shape. -/
theorem sameShape_of_binds {slots slots' : List Slot} {bound bound' : List Value}
    (same : slots.map Slot.shape = slots'.map Slot.shape)
    (binds : List.Forall₂ Slot.Binds slots bound)
    (binds' : List.Forall₂ Slot.Binds slots' bound') :
    List.Forall₂ Value.SameShape bound bound' := by
  induction binds generalizing slots' bound' with
  | nil =>
      cases binds' with
      | nil => exact .nil
      | cons => simp at same
  | cons first rest ih =>
      cases binds' with
      | nil => simp at same
      | cons first' rest' =>
          obtain ⟨sameFirst, sameRest⟩ := List.cons.inj same
          exact .cons (first.sameShape first' sameFirst) (ih sameRest rest')

/-- Values never reach the text of a statement.  If two statements are equal up to the contents of
their values and both are compiled, they have the same text, and as many values of the same
kinds in the same order are bound to them. -/
theorem compile_sameShape {s t : Statement} {query query' : Query} (same : s.SameShape schema t)
    (compiled : s.compile schema = .ok query) (compiled' : t.compile schema = .ok query') :
    query.sql = query'.sql ∧ List.Forall₂ Value.SameShape query.params query'.params := by
  obtain ⟨g, isGiven, -, sql, binds, -⟩ := compile_given compiled
  obtain ⟨h, isGiven', -, sql', binds', -⟩ := compile_given compiled'
  have sameGiven := same.given isGiven isGiven'
  have sameSlots : (g.slots schema).map Slot.shape = (h.slots schema).map Slot.shape := by
    rw [← g.slots_shape, sameGiven, h.slots_shape]
  have sameSpelled : Slot.spellAt (g.slots schema) placeholder =
      Slot.spellAt (h.slots schema) placeholder := by
    funext n
    rw [← Slot.spellAt_shape, sameSlots, Slot.spellAt_shape]
  have samePieces := calc (s.template schema g.parts).pieces 0
    _ = (s.template schema g.shape.parts).pieces 0 := by
      rw [g.template_shape, Template.pieces_shape]
    _ = (t.template schema h.shape.parts).pieces 0 := by rw [sameGiven, same.template_eq]
    _ = (t.template schema h.parts).pieces 0 := by rw [h.template_shape, Template.pieces_shape]
  constructor
  · rw [sql, sql', samePieces, sameSpelled]
  · exact sameShape_of_binds sameSlots binds binds'

/-- A name that tries to end the statement changes nothing but what is bound. -/
theorem update_with_hostile_name :
    ∃ query query',
      (update [("name", .text "Ann")]
        ⟨[("shift", .compare .isIn (.array [.null, .text "02:00:00"]))]⟩).compile
          ⟨"employees", [⟨"name", .text⟩, ⟨"shift", .interval⟩]⟩ = .ok query ∧
      (update [("name", .text "'; DROP TABLE employees; -- $1")]
        ⟨[("shift", .compare .isIn (.array [.null, .text "$2"]))]⟩).compile
          ⟨"employees", [⟨"name", .text⟩, ⟨"shift", .interval⟩]⟩ = .ok query' ∧
      query'.sql =
        "UPDATE employees SET name = $1 WHERE shift IN (NULL, CAST($2 AS interval))" ∧
      query'.params = [.text "'; DROP TABLE employees; -- $1", .text "$2"] ∧
      query.sql = query'.sql ∧ List.Forall₂ Value.SameShape query.params query'.params := by
  have same : (update [("name", .text "Ann")]
        ⟨[("shift", .compare .isIn (.array [.null, .text "02:00:00"]))]⟩).SameShape
      ⟨"employees", [⟨"name", .text⟩, ⟨"shift", .interval⟩]⟩
      (update [("name", .text "'; DROP TABLE employees; -- $1")]
        ⟨[("shift", .compare .isIn (.array [.null, .text "$2"]))]⟩) :=
    And.intro (.cons ⟨rfl, rfl⟩ .nil) ⟨rfl, rfl⟩
  refine ⟨_, _, rfl, rfl, rfl, rfl, ?_⟩
  exact compile_sameShape same rfl rfl

end Statement

end SqlCompose
