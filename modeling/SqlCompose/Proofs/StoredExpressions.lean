/-
# Stored expressions are read back

What is stored for an expression is read back as the expression, so nothing that can be done with
it is changed by storing it (`Expr.read_stored`).  Stored is a document; how documents are written
as texts is no part of this.  A case is told by its name, a field is found by its name, and an order
that is absent differs from every order that is there, because no expression is stored as null.  Of
the constants only a number that is not finite is lost.

An expression is read one level at a time: it is read back if the expressions directly in it are,
each from a bound on the depth that is smaller by one (`Expr.ofJsonWithin?_succ`).  The bound at the
start is the depth of the whole document, and the documents of the parts are less deep
(`Expr.depth_lt_of_mem_operands`), so it is never used up.
-/

import SqlCompose.Proofs.References
import SqlCompose.Proofs.StoredValues

namespace SqlCompose

/-! ## Names -/

@[simp]
theorem BinaryOperator.ofName?_name (op : BinaryOperator) : ofName? op.name = some op := by
  cases op <;> rfl

@[simp]
theorem Comparison.ofName?_name (op : Comparison) : ofName? op.name = some op := by
  cases op <;> rfl

@[simp]
theorem Connective.ofName?_name (op : Connective) : ofName? op.name = some op := by
  cases op <;> rfl

@[simp]
theorem SortOrder.ofName?_name (order : SortOrder) : ofName? order.name = some order := by
  cases order <;> rfl

@[simp]
theorem FrameUnit.ofName?_name (unit : FrameUnit) : ofName? unit.name = some unit := by
  cases unit <;> rfl

@[simp]
theorem Exclusion.ofName?_name (exclusion : Exclusion) :
    ofName? exclusion.name = some exclusion := by
  cases exclusion <;> rfl

/-! ## The forms of the parts of an expression -/

/-- The form of an argument behind its keyword. -/
def KeywordArgument.form (a : KeywordArgument) : Form :=
  .pair (Expr.keywordForm a.keyword) a.arg.form

/-- The form of a key of an order. -/
def SortKey.form (k : SortKey) : Form :=
  .pair k.expr.form (.case k.order.name)

/-- The form of a clause of a window. -/
def WindowClause.form : WindowClause → Form
  | .partitionBy exprs => .tagged "PartitionBy" [.list (exprs.map Expr.form)]
  | .orderBy keys => .tagged "OrderBy" [.list (keys.map SortKey.form)]
  | .frame unit extent => .variant "Frame" [("unit", .case unit.name), ("spec", extent.form)]
  | .exclude exclusion => .tagged "Exclude" [.case exclusion.name]

namespace Expr

theorem forms_eq (es : List Expr) : forms es = es.map form := by
  induction es with
  | nil => rfl
  | cons e rest ih => rw [forms, ih, List.map_cons]

theorem argumentForms_eq (args : List KeywordArgument) :
    argumentForms args = args.map KeywordArgument.form := by
  induction args with
  | nil => rfl
  | cons a rest ih =>
      obtain ⟨keyword, arg⟩ := a
      rw [argumentForms, ih, List.map_cons, KeywordArgument.form]

theorem keyForms_eq (keys : List SortKey) : keyForms keys = keys.map SortKey.form := by
  induction keys with
  | nil => rfl
  | cons k rest ih =>
      obtain ⟨expr, order⟩ := k
      rw [keyForms, ih, List.map_cons, SortKey.form]

theorem clauseForms_eq (clauses : List WindowClause) :
    clauseForms clauses = clauses.map WindowClause.form := by
  induction clauses with
  | nil => rfl
  | cons clause rest ih =>
      cases clause with
      | partitionBy exprs => rw [clauseForms, ih, forms_eq, List.map_cons, WindowClause.form]
      | orderBy keys => rw [clauseForms, ih, keyForms_eq, List.map_cons, WindowClause.form]
      | frame unit extent => rw [clauseForms, ih, List.map_cons, WindowClause.form]
      | exclude exclusion => rw [clauseForms, ih, List.map_cons, WindowClause.form]

/-! ## Reading the parts of an expression -/

section Parts

variable (read : Json → Option Expr)

@[simp]
theorem readList_array {α : Type} (store : α → Json) (read : Json → Option α) (items : List α) :
    readList read (.array (items.map store)) = some items ↔ ∀ a ∈ items, read (store a) = some a :=
  mapM_map_eq_some_iff store read items

@[simp]
theorem readField_ofFields {α : Type} (read : Json → Option α) (name : String)
    (fields : List (String × Json)) :
    readField read name (.ofFields fields) = (fields.reverse.lookup name).bind read := by
  rw [readField, Json.field?_ofFields]
  rfl

@[simp]
theorem readArgument_form (a : KeywordArgument) :
    readArgument read a.form.toJson = some a ↔ read a.arg.form.toJson = some a.arg := by
  obtain ⟨keyword, arg⟩ := a
  cases keyword <;>
    simp [KeywordArgument.form, keywordForm, Form.toJson, readArgument, Json.pair?,
      Option.bind_eq_some_iff]

@[simp]
theorem readKey_form (k : SortKey) :
    readKey read k.form.toJson = some k ↔ read k.expr.form.toJson = some k.expr := by
  obtain ⟨expr, order⟩ := k
  simp [SortKey.form, Form.toJson, readKey, Json.pair?, Option.bind_eq_some_iff]

@[simp]
theorem readClause_form (clause : WindowClause) :
    readClause read clause.form.toJson = some clause ↔
      ∀ e ∈ clause.exprs, read e.form.toJson = some e := by
  cases clause with
  | partitionBy exprs | orderBy keys =>
      simp [WindowClause.form, Form.toJson, Form.content, readClause, Json.case?,
        WindowClause.exprs]
  | frame unit extent =>
      simp [WindowClause.form, Form.toJson, Form.fieldsToJson, readClause, Json.case?,
        WindowClause.exprs]
  | exclude exclusion =>
      simp [WindowClause.form, Form.toJson, Form.content, readClause, Json.case?,
        WindowClause.exprs]

/-- The order of the rows of an aggregate is read back if its expression is. -/
theorem readOptional_orderForm (name : String) {j : Json} {order : Option Expr}
    (found : j.field? name = some (orderForm order).toJson) :
    readOptional read name j = some order ↔ ∀ e ∈ order.toList, read e.form.toJson = some e := by
  rw [readOptional, found]
  cases order with
  | none => simp [orderForm, Form.toJson]
  | some e =>
      have noNull : e.form.toJson ≠ .null := by
        cases e <;> simp [form, Form.toJson]
      rw [orderForm, Form.toJson]
      split
      case h_1 isAbsent => cases isAbsent
      case h_2 isNull => exact absurd (Option.some.inj isNull) noNull
      case h_3 content isThere =>
        obtain rfl := Option.some.inj isThere
        simp

end Parts

/-! ## Reading an expression -/

/-- The binary64 numbers in an expression if it is a constant. -/
def ownFloats : Expr → List Decimal.Binary64
  | .literal v => v.floats
  | _ => []

/-- The binary64 numbers in all constants of an expression. -/
def floats (e : Expr) : List Decimal.Binary64 :=
  e.nodes.flatMap ownFloats

theorem floats_eq (e : Expr) : e.floats = e.ownFloats ++ e.operands.flatMap floats := by
  rw [floats, nodes_eq, List.flatMap_cons, List.flatMap_assoc]
  rfl

theorem ofJsonWithin?_tagged (fuel : Nat) (name : String) (content : Form) :
    ofJsonWithin? (fuel + 1) (Form.tagged name [content]).toJson =
      ofContent? (ofJsonWithin? fuel) name content.toJson := by
  simp [Form.toJson, Form.content, ofJsonWithin?, Json.case?]

theorem ofJsonWithin?_variant (fuel : Nat) (name : String) (fields : List (String × Form)) :
    ofJsonWithin? (fuel + 1) (Form.variant name fields).toJson =
      ofContent? (ofJsonWithin? fuel) name (.ofFields (Form.fieldsToJson fields)) := by
  simp [Form.toJson, ofJsonWithin?, Json.case?]

/-- An expression is read back exactly if all expressions directly in it are, from a bound that is
smaller by one, and no number in it is lost. -/
theorem ofJsonWithin?_succ (fuel : Nat) (e : Expr) :
    ofJsonWithin? (fuel + 1) e.form.toJson = some e ↔
      (∀ x ∈ e.ownFloats, x.isFinite = true) ∧
        ∀ c ∈ e.operands, ofJsonWithin? fuel c.form.toJson = some c := by
  cases e with
  | star => simp [form, Form.toJson, ofJsonWithin?, Json.case?, ownFloats, operands, children]
  | column | raw =>
      rw [form, ofJsonWithin?_tagged]
      simp [ofContent?, Form.toJson, ownFloats, operands, children]
  | literal v =>
      rw [form, ofJsonWithin?_tagged]
      simp [ofContent?, v.ofStored?_form, ownFloats, operands, children]
  | array items =>
      rw [form, ofJsonWithin?_tagged, forms_eq]
      simp [ofContent?, Form.toJson, ownFloats, operands, children]
  | binary | compare | between | cast | aliased | jsonAccess =>
      rw [form, ofJsonWithin?_variant]
      simp [ofContent?, Form.toJson, Form.fieldsToJson, Option.bind_eq_some_iff,
        ownFloats, operands, children]
  | call | logical =>
      rw [form, ofJsonWithin?_variant, forms_eq]
      simp [ofContent?, Form.toJson, Form.fieldsToJson, Option.bind_eq_some_iff,
        ownFloats, operands, children]
  | keywordCall name args =>
      rw [form, ofJsonWithin?_variant, argumentForms_eq]
      simp [ofContent?, Form.toJson, Form.fieldsToJson, Option.bind_eq_some_iff,
        ownFloats, operands, children]
  | aggregate name args distinct withinGroup =>
      rw [form, ofJsonWithin?_variant, forms_eq]
      simp [ofContent?, Form.toJson, Form.fieldsToJson, Option.bind_eq_some_iff,
        readOptional_orderForm, Json.field?_ofFields, ownFloats, operands, children, or_imp,
        forall_and]
  | window function clauses =>
      rw [form, ofJsonWithin?_variant, clauseForms_eq]
      simp [ofContent?, Form.toJson, Form.fieldsToJson, Option.bind_eq_some_iff,
        ownFloats, operands, children, List.forall_mem_flatMap, -List.mem_flatMap]

/-! ## The depth of a document -/

theorem depth_lt_of_mem_exprs {clause : WindowClause} {c : Expr} (inside : c ∈ clause.exprs) :
    c.form.toJson.depth < clause.form.toJson.depth := by
  cases clause with
  | partitionBy exprs =>
      have inList := Form.depth_list (List.mem_map_of_mem (f := form) inside)
      exact inList.trans (Form.depth_tagged "PartitionBy" _)
  | orderBy keys =>
      obtain ⟨k, inKeys, rfl⟩ := List.mem_map.mp inside
      have inKey : k.expr.form.toJson.depth < k.form.toJson.depth := Form.depth_pair (.inl rfl)
      have inList := Form.depth_list (List.mem_map_of_mem (f := SortKey.form) inKeys)
      exact (inKey.trans inList).trans (Form.depth_tagged "OrderBy" _)
  | frame | exclude => cases inside

/-- The document of an expression is deeper than those of the expressions directly in it. -/
theorem depth_lt_of_mem_operands {e c : Expr} (inside : c ∈ e.operands) :
    c.form.toJson.depth < e.form.toJson.depth := by
  have listed {es : List Expr} (inList : c ∈ es) :
      c.form.toJson.depth < (Form.list (forms es)).toJson.depth := by
    rw [forms_eq]
    exact Form.depth_list (List.mem_map_of_mem (f := form) inList)
  cases e with
  | star | column | literal | raw => cases inside
  | array items => exact (listed inside).trans (Form.depth_tagged "Array" _)
  | call name args => exact (listed inside).trans (Form.depth_variant "Function" "args" rfl)
  | logical op es => exact (listed inside).trans (Form.depth_variant "Logical" "operands" rfl)
  | binary left op right =>
      rcases List.mem_pair.mp inside with rfl | rfl
      · exact Form.depth_variant "Binary" "left" rfl
      · exact Form.depth_variant "Binary" "right" rfl
  | compare left op right =>
      rcases List.mem_pair.mp inside with rfl | rfl
      · exact Form.depth_variant "Compare" "left" rfl
      · exact Form.depth_variant "Compare" "right" rfl
  | between e low high symmetric =>
      simp only [operands, children, List.mem_cons, List.not_mem_nil, or_false] at inside
      rcases inside with rfl | rfl | rfl
      · exact Form.depth_variant "Between" "expr" rfl
      · exact Form.depth_variant "Between" "low" rfl
      · exact Form.depth_variant "Between" "high" rfl
  | cast e type =>
      obtain rfl := List.mem_singleton.mp inside
      exact Form.depth_variant "Cast" "expr" rfl
  | aliased e name =>
      obtain rfl := List.mem_singleton.mp inside
      exact Form.depth_variant "Aliased" "expr" rfl
  | jsonAccess base path asText =>
      obtain rfl := List.mem_singleton.mp inside
      exact Form.depth_variant "JsonAccess" "base" rfl
  | keywordCall name args =>
      obtain ⟨a, inArgs, rfl⟩ := List.mem_map.mp inside
      have inArg : a.arg.form.toJson.depth < a.form.toJson.depth := Form.depth_pair (.inr rfl)
      have inList := Form.depth_list (List.mem_map_of_mem (f := KeywordArgument.form) inArgs)
      rw [← argumentForms_eq] at inList
      exact (inArg.trans inList).trans (Form.depth_variant "Special" "args" rfl)
  | aggregate name args distinct withinGroup =>
      rcases List.mem_append.mp inside with inArgs | isOrder
      · exact (listed inArgs).trans (Form.depth_variant "Aggregate" "args" rfl)
      · obtain rfl := Option.mem_toList.mp isOrder
        have inOrder : (orderForm (some c)).toJson.depth <
            (aggregate name args distinct (some c)).form.toJson.depth :=
          Form.depth_variant "Aggregate" "within_group" rfl
        exact inOrder
  | window function clauses =>
      rcases List.mem_cons.mp inside with rfl | inClauses
      · exact Form.depth_variant "Window" "function" rfl
      · obtain ⟨clause, isClause, inClause⟩ := List.mem_flatMap.mp inClauses
        have inList := Form.depth_list (List.mem_map_of_mem (f := WindowClause.form) isClause)
        rw [← clauseForms_eq] at inList
        exact ((depth_lt_of_mem_exprs inClause).trans inList).trans
          (Form.depth_variant "Window" "clauses" rfl)

/-! ## Whole expressions -/

/-- An expression is read back from every bound that the depth of its document keeps to, exactly if
the numbers in its constants are finite. -/
theorem ofJsonWithin?_form (e : Expr) {fuel : Nat} (deep : e.form.toJson.depth ≤ fuel) :
    ofJsonWithin? fuel e.form.toJson = some e ↔ ∀ x ∈ e.floats, x.isFinite = true := by
  induction e using operands_induction generalizing fuel with
  | step e ih =>
      obtain ⟨fuel, rfl⟩ := Nat.exists_eq_add_one.mpr (e.form.toJson.depth_pos.trans_le deep)
      rw [ofJsonWithin?_succ, floats_eq, List.forall_mem_append, List.forall_mem_flatMap]
      refine and_congr_right fun _ => forall₂_congr fun c inside => ih c inside ?_
      have := depth_lt_of_mem_operands inside
      omega

theorem ofStored?_form (e : Expr) :
    ofStored? e.form.toJson = some e ↔ ∀ x ∈ e.floats, x.isFinite = true :=
  ofJsonWithin?_form e le_rfl

/-- An expression without numbers that are not finite is read back from what is stored for it.  So
its text is the same with constants and with placeholders, whatever was bound before, and the same
values are bound. -/
theorem read_stored (e : Expr) (finite : ∀ x ∈ e.floats, x.isFinite = true) :
    ofStored? e.form.toJson = some e ∧
      (ofStored? e.form.toJson).map sql = some e.sql ∧
      ∀ b : Bindings, (ofStored? e.form.toJson).map (fun d => d.bind b) = some (e.bind b) := by
  have readBack := (ofStored?_form e).mpr finite
  refine ⟨readBack, ?_, fun b => ?_⟩
  · rw [readBack, Option.map_some]
  · rw [readBack, Option.map_some]

/-- A number that is none is stored as null and is not read back. -/
example : ofStored? (literal (.float .nan)).form.toJson = none := by rfl

/-- A sum over a window is read back with its zero below zero, its document, its lists and the
largest offset that a frame can have. -/
theorem window_is_read_back :
    let zero : Expr := .literal (.float (.zero true))
    let document : Expr := .jsonAccess (.literal (.json (.array [.null, .ofFloat .nan])))
      ((JsonPath.root.key "0").index (-1)) true
    let e : Expr := .window (.aggregate "SUM" [zero, .star] true (some document))
      [.partitionBy [.literal (.array [.int (-1), .null, .array []])],
        .orderBy [⟨.column "a", .desc⟩],
        .frame .groups ⟨.preceding 18446744073709551615, .currentRow⟩, .exclude .ties]
    ofStored? e.form.toJson = some e ∧
      (ofStored? e.form.toJson).map sql = some e.sql ∧
      ∀ b : Bindings, (ofStored? e.form.toJson).map (fun d => d.bind b) = some (e.bind b) := by
  intro zero document e
  have floats : e.floats = [.zero true] := by
    simp [e, zero, document, floats_eq, ownFloats, operands, children, WindowClause.exprs,
      Value.floats, Value.floatsOfItems]
  apply read_stored e
  rw [floats, List.forall_mem_singleton]
  decide

end Expr

end SqlCompose
