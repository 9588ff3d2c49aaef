/-
# Accepted statements

Whether a statement is compiled, and which values are bound to it, depends on its slots alone.
Each slot is read by itself: a text for a column of dates, timestamps or UUIDs has to be one
of these, and everything else is kept.  The values that are bound are what is read from the
slots, one by one in their order, and the first slot that cannot be read refuses the
statement (`Statement.params_compile`).

Once a statement is compiled its values are bound without fail.  Of all values a list alone
cannot be bound, and no list is left: it is written item by item
(`Expr.isSingle_of_mem_values`).
-/

import SqlCompose.Proofs.References
import SqlCompose.Proofs.TypedStatements
import SqlCompose.Session

namespace SqlCompose

/-! ## Reading slots -/

namespace Column

/-- The value that a column has bound for a text, which has to be one of its type. -/
def readText (c : Column) (text : String) : Except Error Value :=
  match c.type with
  | .date => ((Date.read text).map Value.date).mapError fun fault => c.malformed text (.date fault)
  | .timestamp =>
    ((Timestamp.read text).map Value.timestamp).mapError fun fault =>
      c.malformed text (.timestamp fault)
  | .uuid => ((Uuid.read text).map Value.uuid).mapError fun fault => c.malformed text (.uuid fault)
  | _ => .ok (.text text)

theorem readText_eq_ok_iff {c : Column} {text : String} {bound : Value} :
    c.readText text = .ok bound ↔ c.Binds text bound := by
  unfold readText Binds
  cases c.type with
  | date => cases Date.read text <;> simp [Except.map, Except.mapError, eq_comm]
  | timestamp => cases Timestamp.read text <;> simp [Except.map, Except.mapError, eq_comm]
  | uuid => cases Uuid.read text <;> simp [Except.map, Except.mapError, eq_comm]
  | _ => simp [eq_comm]

end Column

namespace Slot

/-- The value that is bound for a slot. -/
def read : Slot → Except Error Value
  | ⟨.text text, some c⟩ => c.readText text
  | slot => .ok slot.value

theorem read_eq_ok_iff {slot : Slot} {bound : Value} :
    slot.read = .ok bound ↔ slot.Binds bound := by
  unfold read Binds
  split
  · exact Column.readText_eq_ok_iff
  · simp [eq_comm]

theorem read_free (v : Value) : (free v).read = .ok v := by
  rw [read_eq_ok_iff, free_binds]

theorem mapM_read_free (vs : List Value) : (vs.map free).mapM read = pure vs := by
  apply mapM_eq_ok_iff.mpr
  rw [List.forall₂_map_left_iff, List.forall₂_same]
  intro v _
  exact read_free v

end Slot

/-! ## Typing reads slots -/

namespace Expr

/-- The values of a comparison are those of its sides, whichever rule writes it. -/
theorem values_compare (left : Expr) (op : Comparison) (right : Expr) :
    (compare left op right).values = left.values ++ right.values := by
  unfold values
  cases right with
  | literal v => simp [template, values_constantTemplate]
  | _ => simp [template]

theorem values_between (e low high : Expr) (symmetric : Bool) :
    (between e low high symmetric).values = e.values ++ low.values ++ high.values := by
  simp [values, template]

theorem values_array (items : List Expr) : (array items).values = items.flatMap values := by
  rw [values, template, templates_eq, Template.values_enclosed, Template.values_separated,
    List.flatMap_map]
  rfl

theorem values_logical (op : Connective) (operands : List Expr) :
    (logical op operands).values = operands.flatMap values := by
  match operands with
  | [] => rfl
  | [single] => simp [values, template]
  | first :: second :: rest =>
      rw [values, template_logical, Template.values_separated, List.flatMap_map]
      simp only [Template.values_bracketed]
      rfl

end Expr

namespace Column

variable (c : Column)

theorem values_typedText (text : String) :
    Expr.values <$> c.typedText text = (fun bound => [bound]) <$> c.readText text := by
  unfold typedText readText
  cases c.type with
  | date => cases Date.read text <;> rfl
  | timestamp => cases Timestamp.read text <;> rfl
  | uuid => cases Uuid.read text <;> rfl
  | _ => rfl

mutual

/-- What is bound for a value that is compared with a column or assigned to it is read from the
slots of the value. -/
theorem values_typedValue :
    ∀ v : Value, Expr.values <$> c.typedValue v = (v.slots c).mapM Slot.read
  | .array (item :: rest) => by
      rw [slots_list, ← values_typedValues (item :: rest)]
      simp [typedValue, typedValues, Expr.values_array]
  | .text text => by
      rw [typedValue, values_typedText]
      simp [Value.slots, Value.template, Template.values, Slot.read]
  | .array [] | .null | .bool _ | .int _ | .float _ | .json _ | .date _ | .timestamp _
  | .uuid _ => rfl

theorem values_typedValues :
    ∀ vs : List Value, List.flatMap Expr.values <$> c.typedValues vs =
      (vs.flatMap (Value.slots c)).mapM Slot.read
  | [] => rfl
  | item :: rest => by
      rw [List.flatMap_cons, List.mapM_append, ← values_typedValue item, ← values_typedValues rest]
      simp [typedValues]

end

end Column

namespace Expr

variable {schema : Schema}

/-- What is bound for a typed predicate is read from the slots of the predicate. -/
theorem values_typed (e : Expr) : values <$> e.typed schema = (e.slots schema).mapM Slot.read := by
  induction e using children_induction with
  | step e ih =>
      cases e with
      | compare left op right =>
          rw [typed, map_bind]
          simp only [map_pure, values_compare]
          unfold typedRight
          split
          case h_1 c v declared =>
            rw [slots_compare_of_declared op v declared, ← Column.values_typedValue]
            simp [values_of_declared declared]
          case h_2 undeclared =>
            rw [slots, freeSlots, Slot.mapM_read_free, values_compare]
            · rfl
            · exact undeclared
      | between e low high symmetric =>
          rw [typed, map_bind]
          simp only [map_pure, values_between]
          unfold typedBounds
          split
          case h_1 c lowValue highValue declared =>
            rw [slots_between_of_declared lowValue highValue symmetric declared, List.mapM_append,
              ← Column.values_typedValue, ← Column.values_typedValue]
            simp [values_of_declared declared]
          case h_2 undeclared =>
            rw [slots, freeSlots, Slot.mapM_read_free, values_between]
            · rfl
            · exact undeclared
      | logical op operands =>
          have each : List.flatMap values <$> operands.mapM (typed schema) =
              (operands.flatMap (slots schema)).mapM Slot.read := flatMap_mapM ih
          rw [typed, typedOperands_eq, slots, operandSlots_eq, ← each]
          simp [values_logical]
      | _ => exact (Slot.mapM_read_free _).symm

end Expr

namespace Statement

variable {schema : Schema}

/-- A statement is filled unless it is an update that assigns nothing. -/
def IsFilled : Statement → Prop
  | .update assignments _ => assignments ≠ []
  | .select _ _ | .delete _ => True

/-- The values of listed expressions. -/
def listedValues (parts : List (String × Expr)) : List Value :=
  parts.flatMap fun part => part.2.values

/-- What is selected takes no type. -/
theorem values_selections (selections : List Selection) :
    listedValues <$> selections.mapM (selected schema) = (do
      let listed ← selections.mapM (givenSelection schema)
      (listed.flatMap GivenPart.slots).mapM Slot.read) := by
  have given : selections.mapM (givenSelection schema) =
      List.map (fun part => ⟨part.1, part.2, none⟩) <$> selections.mapM (selected schema) := by
    induction selections with
    | nil => rfl
    | cons s rest ih => simp [ih, givenSelection]
  have free (parts : List (String × Expr)) :
      (parts.map fun part => (⟨part.1, part.2, none⟩ : GivenPart)).flatMap GivenPart.slots =
        (listedValues parts).map Slot.free := by
    rw [List.flatMap_map, listedValues, List.map_flatMap]
    rfl
  rw [given, bind_map_left, map_eq_pure_bind]
  simp only [free, Slot.mapM_read_free]

/-- What is assigned takes the type of its column. -/
theorem values_assignments (assignments : List (String × Value)) :
    listedValues <$> assignments.mapM (assignedPart schema) =
      ((assignments.map (givenAssignment schema)).flatMap GivenPart.slots).mapM Slot.read := by
  rw [List.flatMap_map]
  apply flatMap_mapM
  intro pair _
  rw [assignedPart, Functor.map_map, GivenPart.slots, givenAssignment, assigned]
  cases declared : schema.find? pair.1 with
  | some c => exact Column.values_typedValue c pair.2
  | none => exact (Slot.mapM_read_free _).symm

theorem values_predicate (criteria : Criteria) :
    (fun found => found.toList.flatMap Expr.values) <$> predicate schema criteria =
      ((givenPredicate criteria).toList.flatMap (Expr.slots schema)).mapM Slot.read := by
  unfold predicate givenPredicate
  split
  case isTrue => rfl
  case isFalse =>
    rw [Functor.map_map, Option.toList_some, List.flatMap_singleton, ← Expr.values_typed]
    simp

/-- The values of a statement are read from its slots if those of its listed expressions are. -/
theorem values_listed (found : Except Error (List (String × Expr)))
    (given : Except Error (List GivenPart)) (criteria : Criteria)
    (listed : listedValues <$> found = (do
      let parts ← given
      (parts.flatMap GivenPart.slots).mapM Slot.read)) :
    (fun p : Parts => p.exprs.flatMap Expr.values) <$> (do
        return ⟨← found, ← predicate schema criteria⟩) = (do
      let g ← (do return ⟨← given, givenPredicate criteria⟩ : Except Error Given)
      (g.slots schema).mapM Slot.read) := by
  have exprs (p : Parts) : p.exprs.flatMap Expr.values =
      listedValues p.listed ++ p.predicate.toList.flatMap Expr.values := by
    rw [Parts.exprs, List.flatMap_append, List.flatMap_map, listedValues]
  calc
    _ = (do
        let first ← listedValues <$> found
        let rest ← (fun e => e.toList.flatMap Expr.values) <$> predicate schema criteria
        return first ++ rest) := by
      simp [exprs]
    _ = _ := by
      rw [listed, values_predicate]
      simp [Given.slots]

/-- The values of the expressions of a statement are read from its slots. -/
theorem values_parts {s : Statement} (filled : s.IsFilled) :
    (fun p => p.exprs.flatMap Expr.values) <$> s.parts schema = (do
      let g ← s.given schema
      (g.slots schema).mapM Slot.read) := by
  cases s with
  | select selections criteria => exact values_listed _ _ criteria (values_selections selections)
  | update assignments criteria =>
      rw [parts, if_neg (List.isEmpty_iff.not.mpr filled)]
      exact values_listed _ (pure _) criteria (values_assignments assignments)
  | delete criteria => exact values_listed (pure []) (pure []) criteria rfl

/-- A statement that is filled is compiled exactly if its selections are built and its slots are
read, and the values bound to it are what is read from the slots. -/
theorem params_compile {s : Statement} (filled : s.IsFilled) :
    Query.params <$> s.compile schema = (do
      let g ← s.given schema
      (g.slots schema).mapM Slot.read) := by
  rw [← values_parts filled]
  cases found : s.parts schema with
  | error e =>
      rw [compile, write_eq_template, found]
      rfl
  | ok p =>
      obtain ⟨query, compiled, spelled⟩ := spelledBy_of_parts found
      rw [compiled, map_eq_pure_bind, map_eq_pure_bind]
      exact congrArg Except.ok spelled.params

end Statement

/-! ## Binding values -/

namespace Value

/-- Whether a value is bound as it is: keywords are written, and a list is bound item by item. -/
def IsSingle : Value → Prop
  | .null | .bool _ | .array _ => False
  | .int _ | .float _ | .text _ | .json _ | .date _ | .timestamp _ | .uuid _ => True

mutual

theorem isSingle_of_mem_values : ∀ {v w : Value}, w ∈ v.template.values → w.IsSingle
  | .array items, w, inside => by
      rw [template, Template.values_enclosed, Template.values_separated] at inside
      exact isSingle_of_mem_templates inside
  | .int _, _, .head _ | .float _, _, .head _ | .text _, _, .head _ | .json _, _, .head _
  | .date _, _, .head _ | .timestamp _, _, .head _ | .uuid _, _, .head _ => trivial

theorem isSingle_of_mem_templates :
    ∀ {items : List Value} {w : Value}, w ∈ (templates items).flatMap Template.values → w.IsSingle
  | item :: rest, w, inside => by
      rw [templates, List.flatMap_cons, List.mem_append] at inside
      rcases inside with here | there
      · exact isSingle_of_mem_values here
      · exact isSingle_of_mem_templates there

end

theorem IsSingle.exists_bound {v : Value} (single : v.IsSingle) : ∃ b, v.bound = .ok b := by
  cases v with
  | null | bool _ | array _ => exact single.elim
  | _ => exact ⟨_, rfl⟩

end Value

namespace Expr

theorem values_keywordCall (name : String) (args : List KeywordArgument) :
    (keywordCall name args).values = args.flatMap fun a => a.arg.values := by
  rw [values, template, argumentTemplates_eq, Template.values_enclosed, Template.values_separated,
    List.flatMap_map]
  congr 1
  funext a
  cases a.keyword <;> rfl

theorem values_clauseTemplate (clause : WindowClause) :
    (clauseTemplate clause).values = clause.exprs.flatMap values := by
  cases clause with
  | partitionBy es =>
      rw [clauseTemplate, templates_eq, Template.values_append, Template.values_separated,
        List.flatMap_map]
      rfl
  | orderBy keys =>
      simp [clauseTemplate, keyTemplates_eq, WindowClause.exprs, List.flatMap_map, values]
  | frame unit extent | exclude exclusion => rfl

/-- The values of the clauses of a window come first. -/
theorem values_window (function : Expr) (clauses : List WindowClause) :
    (window function clauses).values =
      (clauses.flatMap WindowClause.exprs).flatMap values ++ function.values := by
  rw [values, template, Template.values, Template.values_enclosed, Template.values_separated,
    clauseTemplates_eq, List.flatMap_map, List.flatMap_assoc]
  simp only [values_clauseTemplate]
  rfl

/-- The values of an expression are those of a constant, or they come from the expressions in it. -/
theorem mem_values {e : Expr} {v : Value} (bound : v ∈ e.values) :
    (∃ c, e = literal c ∧ v ∈ c.template.values) ∨ ∃ c ∈ e.operands, v ∈ c.values := by
  cases e with
  | literal c => exact .inl ⟨c, rfl, bound⟩
  | compare left op right => simpa [values_compare, operands] using bound
  | between e low high symmetric => simpa [values_between, operands, children] using bound
  | logical op es => simpa [values_logical, operands, children] using bound
  | array es => simpa [values_array, operands, children] using bound
  | call name args => simpa [values, template, templates_eq, operands, children] using bound
  | keywordCall name args => simpa [values_keywordCall, operands, children] using bound
  | window function clauses =>
      rw [values_window, List.mem_append, or_comm] at bound
      right
      simpa [operands, children] using bound
  | aggregate name args distinct withinGroup =>
      cases withinGroup <;> simpa [values, template, templates_eq, operands, children] using bound
  | star | column name | raw sql => cases bound
  | _ => simpa [values, template, operands, children] using bound

/-- Every value that is bound for an expression is bound as it is. -/
theorem isSingle_of_mem_values {e : Expr} {v : Value} (bound : v ∈ e.values) : v.IsSingle := by
  induction e using operands_induction with
  | step e ih =>
      rcases mem_values bound with ⟨c, rfl, bound⟩ | ⟨c, inside, bound⟩
      · exact Value.isSingle_of_mem_values bound
      · exact ih c inside bound

end Expr

namespace Statement

variable {schema : Schema}

theorem isSingle_of_compile {s : Statement} {query : Query}
    (compiled : s.compile schema = .ok query) : ∀ v ∈ query.params, v.IsSingle := by
  obtain ⟨p, -, spelled⟩ := spelledBy_of_compile compiled
  intro v inParams
  rw [spelled.params] at inParams
  obtain ⟨e, -, bound⟩ := List.mem_flatMap.mp inParams
  exact Expr.isSingle_of_mem_values bound

/-- Once a statement is compiled all its values are bound. -/
theorem bind_of_compile {s : Statement} {query : Query} (compiled : s.compile schema = .ok query) :
    ∃ bounds, query.bind = .ok bounds := by
  have each : ∀ v ∈ query.params, ∃ b, v.bound = .ok b := fun v inParams =>
    (isSingle_of_compile compiled v inParams).exists_bound
  exact exists_mapM each

/-- A statement whose slots can all be read is compiled, and its values are bound. -/
theorem exists_compile {s : Statement} {g : Given} (filled : s.IsFilled)
    (isGiven : s.given schema = .ok g)
    (each : ∀ slot ∈ g.slots schema, ∃ bound, slot.Binds bound) :
    ∃ query bounds, s.compile schema = .ok query ∧ query.bind = .ok bounds ∧
      (g.slots schema).mapM Slot.read = .ok query.params := by
  obtain ⟨params, isRead⟩ : ∃ params, (g.slots schema).mapM Slot.read = .ok params := by
    apply exists_mapM
    intro slot inSlots
    simpa only [Slot.read_eq_ok_iff] using each slot inSlots
  have compiles : Query.params <$> s.compile schema = .ok params := by
    rw [params_compile filled, isGiven]
    exact isRead
  obtain ⟨query, compiled, rfl⟩ := map_eq_ok_iff.mp compiles
  obtain ⟨bounds, isBound⟩ := bind_of_compile compiled
  exact ⟨query, bounds, compiled, isBound, isRead⟩

end Statement

end SqlCompose
