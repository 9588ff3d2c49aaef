/-
# Malformed texts

A text for a column of dates, timestamps or UUIDs has to be one of these.  Where a statement holds
such a text can be told from the statement as it is given: it is assigned to the column, or it is
compared with it in the criteria, under any number of connectives and inside of lists
(`Statement.typedTexts`).  A statement is refused exactly if it holds a malformed one, apart from an
update that assigns nothing.  The first malformed text decides the error, in the order in
which the statement is written (`Statement.refused_at_first_malformed`).

The proof follows the functions that give texts their types, one lemma for each: what a function
demands of its input are the texts in it, one after another.
-/

import SqlCompose.Proofs.Acceptance
import SqlCompose.Proofs.Demands

namespace SqlCompose

/-! ## Texts that take a type -/

/-- A text, and the declaration of the column that gives it a type. -/
structure TypedText where
  column : Column
  text : String

/-- Whether a column has its texts read, and this one cannot be read for the given reason. -/
def Column.Rejects (c : Column) (text : String) : LiteralFault → Prop
  | .date fault => c.type = .date ∧ Date.read text = .error fault
  | .timestamp fault => c.type = .timestamp ∧ Timestamp.read text = .error fault
  | .uuid fault => c.type = .uuid ∧ Uuid.read text = .error fault

namespace TypedText

/-- Whether the text is no value of the type of its column. -/
def IsMalformed (t : TypedText) : Prop :=
  ∃ fault, t.column.Rejects t.text fault

/-- The demand that a text be a value of the type of its column.  The refusal names the column. -/
def demand (t : TypedText) : Demand where
  Met := ¬ t.IsMalformed
  Refusal e := ∃ fault, t.column.Rejects t.text fault ∧
    e = .invalidCriterion t.column.name (.malformed t.text fault)

end TypedText

namespace Value

mutual

/-- The texts in a value: the value itself, or the texts in the items of a list. -/
def texts : Value → List String
  | .text s => [s]
  | .array items => allTexts items
  | _ => []

/-- The texts in the items of a list. -/
def allTexts : List Value → List String
  | [] => []
  | item :: rest => texts item ++ allTexts rest

end

/-- The texts in a value for a column, if that is declared. -/
def textsFor (column : Option Column) (v : Value) : List TypedText :=
  column.toList.flatMap fun c => v.texts.map (⟨c, ·⟩)

@[simp]
theorem textsFor_none (v : Value) : v.textsFor none = [] := rfl

theorem textsFor_some (c : Column) (v : Value) : v.textsFor (some c) = v.texts.map (⟨c, ·⟩) := by
  rw [textsFor, Option.toList_some, List.flatMap_singleton]

end Value

namespace Expr

mutual

/-- The texts of a predicate that are compared with declared columns: in a constant on the right of
a comparison with a column, or in two constants that bound a range of one.  The last part of a
qualified name counts. -/
def comparedTexts (schema : Schema) : Expr → List TypedText
  | .compare (.column name) _ (.literal v) => v.textsFor (schema.find? (Identifier.lastPart name))
  | .between (.column name) (.literal low) (.literal high) _ =>
    low.textsFor (schema.find? (Identifier.lastPart name)) ++
      high.textsFor (schema.find? (Identifier.lastPart name))
  | .logical _ operands => allComparedTexts schema operands
  | _ => []

/-- The texts of the operands of a connective. -/
def allComparedTexts (schema : Schema) : List Expr → List TypedText
  | [] => []
  | e :: rest => comparedTexts schema e ++ allComparedTexts schema rest

end

theorem allComparedTexts_eq (schema : Schema) (es : List Expr) :
    allComparedTexts schema es = es.flatMap (comparedTexts schema) := by
  induction es with
  | nil => rfl
  | cons e rest ih => simp [allComparedTexts, ih]

end Expr

/-- The texts of criteria that are compared with declared columns. -/
def Criteria.comparedTexts (schema : Schema) (criteria : Criteria) : List TypedText :=
  criteria.exprs.flatMap (Expr.comparedTexts schema)

namespace Statement

/-- The texts of a statement that take a type, in the order in which they are written: those that
are assigned to a column of exactly the given name, and then those of the criteria. -/
def typedTexts (schema : Schema) : Statement → List TypedText
  | .update assignments criteria =>
    (assignments.flatMap fun (name, v) => v.textsFor (schema.find? name)) ++
      criteria.comparedTexts schema
  | .select _ criteria | .delete criteria => criteria.comparedTexts schema

/-- Whether nothing that a statement selects has to be built for the schema. -/
def IsPlain : Statement → Prop
  | .select selections _ => ∀ s ∈ selections, ∀ name build, s ≠ .aggregate name build
  | .update _ _ | .delete _ => True

end Statement

/-! ## What is asked of values -/

namespace Column

variable {c : Column} {text : String}

theorem typedText_eq_error_iff {e : Error} :
    c.typedText text = .error e ↔ ∃ fault, c.Rejects text fault ∧ e = c.malformed text fault := by
  constructor
  · intro refused
    unfold typedText at refused
    split at refused
    case h_4 type =>
      split at refused
      case h_1 => cases refused
      case h_2 fault unread =>
        exact ⟨.date fault, ⟨type, unread⟩, (Except.error.inj refused).symm⟩
    case h_5 type =>
      split at refused
      case h_1 => cases refused
      case h_2 fault unread =>
        exact ⟨.timestamp fault, ⟨type, unread⟩, (Except.error.inj refused).symm⟩
    case h_6 type =>
      split at refused
      case h_1 => cases refused
      case h_2 fault unread =>
        exact ⟨.uuid fault, ⟨type, unread⟩, (Except.error.inj refused).symm⟩
    all_goals cases refused
  · rintro ⟨fault, rejects, rfl⟩
    cases fault <;> simp [typedText, rejects.1, rejects.2]

variable (c)

theorem enforces_typedText (text : String) :
    Enforces (c.typedText text) [(⟨c, text⟩ : TypedText).demand] := by
  apply Enforces.single
  · simp only [exists_eq_ok_iff, ne_eq, typedText_eq_error_iff]
    constructor
    · rintro accepted ⟨fault, rejects⟩
      exact accepted _ ⟨fault, rejects, rfl⟩
    · rintro wellFormed e ⟨fault, rejects, -⟩
      exact wellFormed ⟨fault, rejects⟩
  · intro e
    rw [typedText_eq_error_iff]
    constructor
    · rintro ⟨fault, rejects, rfl⟩
      exact ⟨not_not_intro ⟨fault, rejects⟩, fault, rejects, rfl⟩
    · exact fun refused => refused.2

mutual

/-- A value for a column has its texts read one after another. -/
theorem enforces_typedValue :
    ∀ v : Value, Enforces (c.typedValue v) ((v.texts.map (⟨c, ·⟩)).map TypedText.demand)
  | .array (item :: rest) => by
      have items := (enforces_typedValues (item :: rest)).map Expr.array
      simpa [typedValue, typedValues, Value.texts] using items
  | .text s => enforces_typedText c s
  | .array [] | .null | .bool _ | .int _ | .float _ | .json _ | .date _ | .timestamp _
  | .uuid _ => .ok _

theorem enforces_typedValues :
    ∀ vs : List Value, Enforces (c.typedValues vs)
      (((Value.allTexts vs).map (⟨c, ·⟩)).map TypedText.demand)
  | [] => .ok _
  | item :: rest => by
      have items := (enforces_typedValue item).bind fun first _ =>
        (enforces_typedValues rest).map (first :: ·)
      simpa [typedValues, Value.allTexts] using items

end

end Column

/-- A value is read for a column if that is declared, and left as it is otherwise. -/
theorem Statement.enforces_assigned (schema : Schema) (column : String) (v : Value) :
    Enforces (assigned schema column v)
      ((v.textsFor (schema.find? column)).map TypedText.demand) := by
  rw [assigned]
  cases schema.find? column with
  | none => exact .ok _
  | some c =>
      rw [Value.textsFor_some]
      exact c.enforces_typedValue v

/-! ## What is asked of predicates -/

namespace Expr

variable {schema : Schema}

theorem comparedTexts_compare (left : Expr) (op : Comparison) (v : Value) :
    (compare left op (literal v)).comparedTexts schema =
      v.textsFor (left.declaredColumn? schema) := by
  cases left <;> simp [comparedTexts, declaredColumn?]

theorem comparedTexts_between (e : Expr) (low high : Value) (symmetric : Bool) :
    (between e (literal low) (literal high) symmetric).comparedTexts schema =
      low.textsFor (e.declaredColumn? schema) ++ high.textsFor (e.declaredColumn? schema) := by
  cases e <;> simp [comparedTexts, declaredColumn?]

/-- The right side of a comparison is read for the column on the left. -/
theorem enforces_typedRight (left : Expr) (op : Comparison) (right : Expr) :
    Enforces (typedRight schema left right)
      (((compare left op right).comparedTexts schema).map TypedText.demand) := by
  unfold typedRight
  split
  case h_1 c v declared =>
    rw [comparedTexts_compare, declared, Value.textsFor_some]
    exact c.enforces_typedValue v
  case h_2 right _ _ undeclared =>
    -- No column is declared on the left, or no constant stands on the right.
    have none : (compare left op right).comparedTexts schema = [] := by
      unfold comparedTexts
      split
      case h_1 name _ v isCompare =>
        cases isCompare
        cases found : schema.find? (Identifier.lastPart name) with
        | none => rfl
        | some c => exact (undeclared c v found rfl).elim
      case h_4 => rfl
      all_goals contradiction
    rw [none]
    exact .ok right

/-- The bounds of a range are read for the column between them, the lower one first. -/
theorem enforces_typedBounds (e low high : Expr) (symmetric : Bool) :
    Enforces (typedBounds schema e low high)
      (((between e low high symmetric).comparedTexts schema).map TypedText.demand) := by
  unfold typedBounds
  split
  case h_1 c lowValue highValue declared =>
    rw [comparedTexts_between, declared, Value.textsFor_some, Value.textsFor_some, List.map_append]
    refine (c.enforces_typedValue lowValue).bind fun low _ => ?_
    exact (c.enforces_typedValue highValue).map (low, ·)
  case h_2 low high _ _ _ undeclared =>
    have none : (between e low high symmetric).comparedTexts schema = [] := by
      unfold comparedTexts
      split
      case h_2 name lowValue highValue _ isBetween =>
        cases isBetween
        cases found : schema.find? (Identifier.lastPart name) with
        | none => rfl
        | some c => exact (undeclared c lowValue highValue found rfl rfl).elim
      case h_4 => rfl
      all_goals contradiction
    rw [none]
    exact .ok (low, high)

/-- The texts of a predicate are read from left to right. -/
theorem enforces_typed (e : Expr) :
    Enforces (e.typed schema) ((e.comparedTexts schema).map TypedText.demand) := by
  induction e using children_induction with
  | step e ih =>
      cases e with
      | compare left op right => exact (enforces_typedRight left op right).map (compare left op ·)
      | between e low high symmetric =>
          exact (enforces_typedBounds e low high symmetric).map fun bounds =>
            between e bounds.1 bounds.2 symmetric
      | logical op operands =>
          have each := (Enforces.mapM ih).map (logical op)
          rw [typed, typedOperands_eq, comparedTexts, allComparedTexts_eq, List.map_flatMap]
          exact each
      | _ => exact .ok _

end Expr

/-- Criteria are typed one after another. -/
theorem Criteria.comparedTexts_expr (schema : Schema) (criteria : Criteria) :
    criteria.expr.comparedTexts schema = criteria.comparedTexts schema := by
  unfold Criteria.expr Criteria.comparedTexts
  split
  case h_1 none =>
    rw [none]
    rfl
  case h_2 single isSingle => rw [isSingle, List.flatMap_singleton]
  case h_3 => rw [Expr.comparedTexts, Expr.allComparedTexts_eq]

/-! ## What is asked of statements -/

namespace Statement

variable (schema : Schema)

theorem enforces_predicate (criteria : Criteria) :
    Enforces (predicate schema criteria)
      ((criteria.comparedTexts schema).map TypedText.demand) := by
  unfold predicate
  split
  case isTrue empty =>
    rw [Criteria.comparedTexts, Criteria.exprs, List.isEmpty_iff.mp empty]
    exact .ok none
  case isFalse =>
    rw [← Criteria.comparedTexts_expr]
    exact criteria.expr.enforces_typed.map some

/-- What is assigned is read in the order of the assignments. -/
theorem enforces_assignments (assignments : List (String × Value)) :
    Enforces (assignments.mapM (assignedPart schema))
      ((assignments.flatMap fun (name, v) => v.textsFor (schema.find? name)).map
        TypedText.demand) := by
  rw [List.map_flatMap]
  exact .mapM fun pair _ => (enforces_assigned schema pair.1 pair.2).map _

/-- What has nothing to be built for the schema is selected without fail. -/
theorem enforces_selections {selections : List Selection} {criteria : Criteria}
    (plain : (select selections criteria).IsPlain) :
    Enforces (selections.mapM (selected schema)) [] := by
  have each : ∀ s ∈ selections, Enforces (selected schema s) [] := by
    intro s inSelections
    cases s with
    | column | expr => exact .ok _
    | aggregate name build => exact (plain _ inSelections name build rfl).elim
  have none : (selections.flatMap fun _ => ([] : List Demand)) = [] := by simp
  exact none ▸ Enforces.mapM each

/-- The demand that an update assign something. -/
def fillDemand (s : Statement) : Demand where
  Met := s.IsFilled
  Refusal e := e = .emptyClause "update_where"

theorem enforces_parts {s : Statement} (plain : s.IsPlain) :
    Enforces (s.parts schema) (s.fillDemand :: (s.typedTexts schema).map TypedText.demand) := by
  have behind (criteria : Criteria) (listed : List (String × Expr)) :=
    (enforces_predicate schema criteria).map (Parts.mk listed)
  cases s with
  | select selections criteria =>
      have selected := enforces_selections schema plain
      exact (selected.bind fun listed _ => behind criteria listed).cons_of_met trivial
  | update assignments criteria =>
      cases assignments with
      -- Nothing of the criteria is looked at then.
      | nil => exact .error (fun filled => filled rfl) fun _ => Iff.rfl
      | cons pair rest =>
          have assigned := enforces_assignments schema (pair :: rest)
          have whole := assigned.bind fun listed _ => behind criteria listed
          rw [← List.map_append] at whole
          exact whole.cons_of_met (List.cons_ne_nil pair rest)
  | delete criteria => exact (behind criteria []).cons_of_met trivial

/-- Compiling a statement is finding its expressions, and then it is written without fail. -/
theorem exists_compile_eq_map (s : Statement) :
    ∃ query : Parts → Query, s.compile schema = query <$> s.parts schema := by
  refine ⟨fun p =>
    let (sql, bindings) := (s.template schema p).write ValueWriter.placeholders {}
    ⟨sql, bindings.values⟩, ?_⟩
  rw [compile, write_eq_template]
  cases s.parts schema <;> rfl

/-- A statement with nothing to be built is refused exactly if it is an update that assigns nothing
or if it holds a malformed text.  An update that assigns nothing is refused as such; otherwise the
first malformed text decides, behind none but texts that are read, and the error names its
column. -/
theorem refused_at_first_malformed (s : Statement) (plain : s.IsPlain) :
    ((∃ e, s.compile schema = .error e) ↔
        ¬ s.IsFilled ∨ ∃ t ∈ s.typedTexts schema, t.IsMalformed) ∧
      ∀ e, s.compile schema = .error e ↔
        (¬ s.IsFilled ∧ e = .emptyClause "update_where") ∨
          (s.IsFilled ∧ ∃ before t after fault, s.typedTexts schema = before ++ t :: after ∧
            (∀ b ∈ before, ¬ b.IsMalformed) ∧ t.column.Rejects t.text fault ∧
              e = .invalidCriterion t.column.name (.malformed t.text fault)) := by
  obtain ⟨query, compiles⟩ := exists_compile_eq_map schema s
  have enforces := (enforces_parts schema plain).map query
  rw [← compiles] at enforces
  constructor
  · rw [enforces.exists_error_iff]
    simp [fillDemand, TypedText.demand]
  · intro e
    rw [enforces.error_iff, firstUnmet_cons_iff, firstUnmet_map_iff]
    apply or_congr Iff.rfl
    apply and_congr_right
    intro filled
    constructor
    · rintro ⟨before, t, after, texts, wellFormed, -, fault, rejects, isError⟩
      exact ⟨before, t, after, fault, texts, wellFormed, rejects, isError⟩
    · rintro ⟨before, t, after, fault, texts, wellFormed, rejects, isError⟩
      exact ⟨before, t, after, texts, wellFormed, not_not_intro ⟨fault, rejects⟩, fault, rejects,
        isError⟩

/-- A date is assigned that is one, and the criteria ask for a guest by a text that is no UUID
before they ask for a day that does not exist.  Where they ask for the day first, which they call by
a qualified name, the day is refused. -/
theorem guest_is_refused_before_day :
    let schema : Schema := ⟨"bookings", [⟨"day", .date⟩, ⟨"guest", .uuid⟩]⟩
    let guest := Condition.leaf (.compare (.column "guest") .isIn
      (.literal (.array [.null, .array [.text "me"]])))
    let day := Condition.leaf (.between (.column "bookings.day") (.literal (.text "2023-02-29"))
      (.literal (.text "soon")) false)
    let s := Statement.update [("day", .text "2024-02-29"), ("note", .text "soon")]
      ⟨[("guest", .built fun _ => .joined .or guest day)]⟩
    let turned := Statement.delete ⟨[("guest", .built fun _ => .joined .or day guest)]⟩
    s.compile schema =
        .error (.invalidCriterion "guest" (.malformed "me" (.uuid (.character 'm' 0)))) ∧
      turned.compile schema =
        .error (.invalidCriterion "day" (.malformed "2023-02-29" (.date .outOfRange))) := by
  intro schema guest day s turned
  have isDate : Date.read "2024-02-29" = .ok ⟨2024, 2, 29, by decide, by decide⟩ := rfl
  have noDate : Date.read "2023-02-29" = .error .outOfRange := rfl
  have noUuid : Uuid.read "me" = .error (.character 'm' 0) := rfl
  constructor
  · have filled : s.IsFilled := List.cons_ne_nil _ _
    refine ((refused_at_first_malformed schema s trivial).2 _).mpr (.inr ⟨filled, ?_⟩)
    refine ⟨[⟨⟨"day", .date⟩, "2024-02-29"⟩], ⟨⟨"guest", .uuid⟩, "me"⟩, _, .uuid _, rfl, ?_,
      ⟨rfl, noUuid⟩, rfl⟩
    rw [List.forall_mem_singleton]
    rintro ⟨fault | fault | fault, isType, unread⟩
    · cases isDate.symm.trans unread
    all_goals cases isType
  · refine ((refused_at_first_malformed schema turned trivial).2 _).mpr (.inr ⟨trivial, ?_⟩)
    exact ⟨[], ⟨⟨"day", .date⟩, "2023-02-29"⟩, _, .date _, rfl, nofun, ⟨rfl, noDate⟩, rfl⟩

end Statement

end SqlCompose
