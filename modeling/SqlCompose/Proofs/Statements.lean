/-
# The placeholders of statements

A statement is put together from expressions: what is selected or assigned first, and
then the condition on the rows.  Which expressions these are is settled before anything
is written (`Statement.parts`), so a statement has a template as an expression has one,
and what is known of the numbers of a template holds of statements.

A statement that is executed should have the placeholders $1, $2 and so on, one for each
value bound to it, in the order of the values.  Two things stand against it.  The left
side of a comparison that is decided at once is left out of the text after its values
were bound, and the windows with values on both sides have them in the wrong order.
Without these the numbers are right, and with either of them they are wrong
(`Statement.compile_placeholders`).
-/

import SqlCompose.Proofs.Placeholders
import SqlCompose.Scalar.Call
import SqlCompose.Statement

namespace SqlCompose

namespace Expr

/-- Whether a comparison is decided at once while its left side has values: they are
bound, and their places are left out. -/
def DropsValues : Expr → Prop
  | .compare left op right => right.isDecided op = true ∧ left.values ≠ []
  | _ => False

theorem keepsValues_iff (e : Expr) :
    e.template.KeepsValues ↔ ∀ d ∈ e.written, ¬ d.DropsValues := by
  rw [Template.KeepsValues, all_template_iff]
  apply forall₂_congr
  intro d _
  cases d <;> simp [Locally, DropsValues, values]

end Expr

namespace Statement

/-- The expressions that a statement is put together from. -/
structure Parts where
  /-- The selected expressions or the assigned values, behind what is written before
  each. -/
  listed : List (String × Expr)
  /-- The condition on the rows, if there is one. -/
  predicate : Option Expr

/-- The expressions in the order in which they stand. -/
def Parts.exprs (p : Parts) : List Expr :=
  p.listed.map Prod.snd ++ p.predicate.toList

section Parts

variable (schema : Schema)

def selected (s : Selection) : Except Error (String × Expr) :=
  (fun e => ("", e)) <$> s.compile schema

def assignedPart (pair : String × Value) : Except Error (String × Expr) :=
  (fun e => (Identifier.quote pair.1 ++ " = ", e)) <$> assigned schema pair.1 pair.2

def predicate (criteria : Criteria) : Except Error (Option Expr) :=
  if criteria.entries.isEmpty then pure none
  else some <$> criteria.expr.typed schema

/-- Finds the expressions of a statement. -/
def parts : Statement → Except Error Parts
  | .select selections criteria => do
    return ⟨← selections.mapM (selected schema), ← predicate schema criteria⟩
  | .update assignments criteria =>
    if assignments.isEmpty then throw (.emptyClause "update_where")
    else do return ⟨← assignments.mapM (assignedPart schema), ← predicate schema criteria⟩
  | .delete criteria => do return ⟨[], ← predicate schema criteria⟩

/-- What a statement has before its listed expressions. -/
def opening : Statement → String
  | .select selections _ => "SELECT " ++ (if selections.isEmpty then "*" else "")
  | .update _ _ => "UPDATE " ++ Identifier.quoteQualified schema.name ++ " SET "
  | .delete _ => "DELETE FROM " ++ Identifier.quoteQualified schema.name

/-- What a statement has between its listed expressions and its condition. -/
def middle : Statement → String
  | .select _ _ => " FROM " ++ Identifier.quoteQualified schema.name
  | .update _ _ | .delete _ => ""

/-- What a statement has behind its condition. -/
def closing : Statement → String
  | .select _ _ | .update _ _ => ""
  | .delete _ => " RETURNING *"

/-- A listed expression behind what is written before it. -/
def listedTemplate (part : String × Expr) : Template :=
  .text part.1 ++ part.2.template

/-- The condition behind its keyword. -/
def conditionTemplate : Option Expr → Template
  | none => .text ""
  | some predicate => .text " WHERE " ++ predicate.template

/-- The template of a statement with the given expressions. -/
def template (s : Statement) (p : Parts) : Template :=
  .text (s.opening schema) ++ .separated ", " (p.listed.map listedTemplate) ++
    .text (s.middle schema) ++ conditionTemplate p.predicate ++ .text s.closing

end Parts

/-! ## Statements are written as their templates -/

end Statement

namespace Compilation

variable {σ α β : Type}

@[simp]
theorem ofState_pure (a : α) : ofState (pure a : StateM σ α) = pure a := rfl

@[simp]
theorem ofState_bind (step : StateM σ α) (next : α → StateM σ β) :
    ofState (step >>= next) = ofState step >>= fun a => ofState (next a) := rfl

@[simp]
theorem ofState_map (f : α → β) (step : StateM σ α) :
    ofState (f <$> step) = f <$> ofState step := rfl

/-- What may be refused can be settled before a step that is never refused. -/
theorem ofState_bind_lift {γ : Type} (step : StateM σ α) (find : Except Error β)
    (next : α → β → Compilation σ γ) :
    (do
      let a ← ofState step
      let b ← find
      next a b) =
    (do
      let b ← (find : Compilation σ β)
      let a ← ofState step
      next a b) := by
  cases find <;> rfl

theorem mapM_ofState (find : α → Except Error β) (step : β → StateM σ String) (as : List α) :
    (as.mapM fun a => do
      let found ← (find a : Compilation σ β)
      ofState (step found)) =
    (do
      let found ← (liftM (as.mapM find) : Compilation σ (List β))
      ofState (found.mapM step)) := by
  induction as with
  | nil => simp
  | cons a rest ih => simp [ih, ofState_bind_lift]

end Compilation

namespace Statement

section Writing

variable {σ : Type} (w : ValueWriter σ) (schema : Schema)

theorem selection_eq (s : Selection) :
    selection w schema s = (do
      let part ← (selected schema s : Compilation σ _)
      Compilation.ofState ((listedTemplate part).write w)) := by
  simp [selection, selected, Compilation.expr, listedTemplate, Expr.write_eq_template]

theorem assignment_eq (pair : String × Value) :
    assignment w schema pair = (do
      let part ← (assignedPart schema pair : Compilation σ _)
      Compilation.ofState ((listedTemplate part).write w)) := by
  simp [assignment, assignedPart, Compilation.expr, listedTemplate, Expr.write_eq_template]

theorem condition_eq (criteria : Criteria) :
    condition w schema criteria = (do
      let found ← (predicate schema criteria : Compilation σ _)
      Compilation.ofState ((conditionTemplate found).write w)) := by
  unfold condition predicate
  split
  · simp [conditionTemplate]
  · simp [Compilation.expr, conditionTemplate, Expr.write_eq_template]

theorem projection_eq (selections : List Selection) :
    projection w schema selections = (do
      let found ← (liftM (selections.mapM (selected schema)) : Compilation σ _)
      let list ← Compilation.ofState ((Template.separated ", " (found.map listedTemplate)).write w)
      return (if selections.isEmpty then "*" else "") ++ list) := by
  cases selections with
  | nil => simp [projection]
  | cons s rest =>
      have listed := Compilation.mapM_ofState (selected schema)
        (fun part => (listedTemplate part).write w) (s :: rest)
      simp only [projection, List.isEmpty_cons, Bool.false_eq_true, if_false]
      rw [funext (selection_eq w schema), listed]
      simp [Expr.listed, Function.comp_def]

/-- Writing a statement is finding its expressions and writing its template, whatever
becomes of the values. -/
theorem write_eq_template (s : Statement) :
    s.write w schema = (do
      let p ← (s.parts schema : Compilation σ Parts)
      Compilation.ofState ((s.template schema p).write w)) := by
  cases s with
  | select selections criteria =>
      simp [write, parts, template, projection_eq, condition_eq, opening, middle, closing,
        Compilation.ofState_bind_lift, String.append_assoc]
  | update assignments criteria =>
      cases assignments with
      | nil => rfl
      | cons pair rest =>
          have listed := Compilation.mapM_ofState (assignedPart schema)
            (fun part => (listedTemplate part).write w) (pair :: rest)
          rw [write, funext (assignment_eq w schema), listed]
          simp [parts, template, condition_eq, opening, middle, closing,
            Compilation.ofState_bind_lift, String.append_assoc, Expr.listed, Function.comp_def]
  | delete criteria =>
      simp [write, parts, template, condition_eq, opening, middle, closing]

/-- A statement whose expressions are found is written as its template. -/
theorem write_of_parts {s : Statement} {p : Parts} (found : s.parts schema = .ok p) (b : σ) :
    (s.write w schema).run b = .ok ((s.template schema p).write w b) := by
  rw [write_eq_template, found]
  rfl

end Writing

/-! ## The values of a statement -/

/-- The values of a statement are those of its expressions, one expression after
another. -/
theorem values_template (schema : Schema) (s : Statement) (p : Parts) :
    (s.template schema p).values = p.exprs.flatMap Expr.values := by
  cases p with
  | mk listed predicate =>
      cases predicate <;>
        simp [template, Parts.exprs, listedTemplate, conditionTemplate, Expr.values,
          List.flatMap_map]

/-- What is asked of all parts of a statement is asked of its expressions. -/
theorem all_template_iff {silence : Template → Prop} {crossing : Template → Template → Prop}
    (schema : Schema) (s : Statement) (p : Parts) :
    (s.template schema p).All silence crossing ↔
      ∀ e ∈ p.exprs, e.template.All silence crossing := by
  have ofListed : (∀ t ∈ p.listed.map listedTemplate, t.All silence crossing) ↔
      ∀ e ∈ p.listed.map Prod.snd, e.template.All silence crossing := by
    simp only [List.forall_mem_map, listedTemplate, Template.all_append, Template.all_text,
      true_and]
  have ofPredicate : (conditionTemplate p.predicate).All silence crossing ↔
      ∀ e ∈ p.predicate.toList, e.template.All silence crossing := by
    cases p.predicate <;> simp [conditionTemplate]
  simp only [template, Parts.exprs, Template.all_append, Template.all_text, Template.all_separated,
    ofListed, ofPredicate, List.forall_mem_append, true_and, and_true]

/-! ## The placeholders of a statement -/

/-- A statement comes from pieces as its expressions do: with placeholders, with those
moved behind values that are bound already, and with constants it is spelled by the same
pieces, and the values bound to it are those of its expressions in their order. -/
structure SpelledBy (schema : Schema) (s : Statement) (query : Query) (p : Parts)
    (pieces : List Piece) : Prop where
  params : query.params = p.exprs.flatMap Expr.values
  sql : query.sql = Piece.spell placeholder pieces
  placeholders : ∀ b : Bindings, (s.write ValueWriter.placeholders schema).run b =
    .ok (Piece.spell (fun n => placeholder (b.index + n)) pieces,
      ⟨b.index + query.params.length, b.values ++ query.params⟩)
  constants : (s.write ValueWriter.constants schema).run () =
    .ok (Piece.spell (constantAt query.params) pieces, ())

/-- The numbers of a statement count up from 1 exactly if no expression in it loses a
value or writes one too early. -/
theorem numbers_template_iff (schema : Schema) (s : Statement) (p : Parts) :
    (s.template schema p).numbers 0 = List.range' 1 (s.template schema p).size ↔
      ∀ e ∈ p.exprs, ∀ d ∈ e.written, ¬ d.DropsValues ∧ ¬ d.Overtakes := by
  have keepsValues : (s.template schema p).KeepsValues ↔ ∀ e ∈ p.exprs, e.template.KeepsValues :=
    all_template_iff schema s p
  have keepsOrder : (s.template schema p).KeepsOrder ↔ ∀ e ∈ p.exprs, e.template.KeepsOrder :=
    all_template_iff schema s p
  rw [Template.numbers_eq_range_iff, keepsValues, keepsOrder]
  simp only [Expr.keepsValues_iff, Expr.keepsOrder_iff, forall_and]

/-- A statement whose expressions are found is compiled, and it is spelled by the pieces
of its template. -/
theorem spelledBy_of_parts {schema : Schema} {s : Statement} {p : Parts}
    (found : s.parts schema = .ok p) :
    ∃ query, s.compile schema = .ok query ∧
      s.SpelledBy schema query p ((s.template schema p).pieces 0) := by
  let t := s.template schema p
  have written : ∀ b : Bindings, (s.write ValueWriter.placeholders schema).run b =
      .ok (Piece.spell (fun n => placeholder (b.index + n)) (t.pieces 0),
        ⟨b.index + t.values.length, b.values ++ t.values⟩) := by
    intro b
    rw [write_of_parts _ schema found, Template.write_placeholders,
      ← Template.spell_pieces_add placeholder t b.index 0]
    rfl
  have constants : (s.write ValueWriter.constants schema).run () =
      .ok (Piece.spell (constantAt t.values) (t.pieces 0), ()) := by
    rw [write_of_parts _ schema found, Template.write_constants,
      Template.spell_pieces_constants (constantAt t.values)]
    intro i inRange
    simp [constantAt, Nat.add_comm 0, inRange]
  refine ⟨⟨Piece.spell placeholder (t.pieces 0), t.values⟩, ?_, ?_⟩
  · rw [compile, written]
    simp [bind, Except.bind, pure, Except.pure]
  · exact ⟨values_template schema s p, rfl, written, constants⟩

/-- A statement that is compiled consists of pieces, whose numbers are 1, 2, 3 and so on
up to the number of its values, without a gap and in the order of the text, exactly if
its expressions contain neither a comparison that drops values nor a window that
overtakes. -/
theorem compile_placeholders {schema : Schema} {s : Statement} {query : Query}
    (compiled : s.compile schema = .ok query) :
    ∃ p pieces, s.parts schema = .ok p ∧ s.SpelledBy schema query p pieces ∧
      (Piece.numbers pieces).Nodup ∧
      (∀ n ∈ Piece.numbers pieces, 1 ≤ n ∧ n ≤ query.params.length) ∧
      (Piece.numbers pieces = List.range' 1 query.params.length ↔
        ∀ e ∈ p.exprs, ∀ d ∈ e.written, ¬ d.DropsValues ∧ ¬ d.Overtakes) := by
  cases found : s.parts schema with
  | error e =>
      rw [compile, write_eq_template, found] at compiled
      cases compiled
  | ok p =>
      obtain ⟨written, compiledWritten, spelled⟩ := spelledBy_of_parts found
      obtain rfl : written = query := by
        rw [compiledWritten] at compiled
        exact Except.ok.inj compiled
      have size : (s.template schema p).size = written.params.length := by
        rw [Template.size, values_template, spelled.params]
      refine ⟨p, _, rfl, spelled, Template.nodup_numbers 0 _, ?_, ?_⟩
      · intro n inPieces
        have := Template.mem_numbers inPieces
        omega
      · rw [← size]
        exact numbers_template_iff schema s p

/-- A row is deleted by its name. -/
theorem delete_by_name_placeholders :
    ∃ pieces, Piece.numbers pieces = [1] ∧
      Piece.spell placeholder pieces = "DELETE FROM employees WHERE name = $1 RETURNING *" := by
  have compiled : (delete ⟨[("name", .equals (.text "Ann"))]⟩).compile
      ⟨"employees", [⟨"name", .text⟩]⟩ =
        .ok ⟨"DELETE FROM employees WHERE name = $1 RETURNING *", [.text "Ann"]⟩ := rfl
  obtain ⟨p, pieces, found, spelled, -, -, counted⟩ := compile_placeholders compiled
  obtain rfl : ⟨[], some (.compare (.column "name") .eq (.literal (.text "Ann")))⟩ = p :=
    Except.ok.inj found
  refine ⟨pieces, counted.mpr ?_, spelled.sql.symm⟩
  intro e inExprs
  obtain rfl : e = .compare (.column "name") .eq (.literal (.text "Ann")) := by
    simpa [Parts.exprs] using inExprs
  rw [Expr.written_eq]
  simp [Expr.children, Expr.isDecided, Expr.written_eq (.column _), Expr.written_eq (.literal _),
    Expr.DropsValues, Expr.Overtakes]

/-- Rows whose name, or the text none in place of a missing one, is in an empty list.  The
condition is false and nothing refers to that text, but it is bound. -/
theorem delete_in_nothing_keeps_a_value :
    ∃ query,
      (delete ⟨[("name", .built fun column =>
        Predicate.comparing
          (.scalar ((Expr.column column).chain [.coalesce [.literal (.text "none")]])) .isIn
          (.literal (.array [])))]⟩).compile ⟨"employees", [⟨"name", .text⟩]⟩ = .ok query ∧
      ¬ ∃ pieces, query.sql = Piece.spell placeholder pieces ∧
        Piece.numbers pieces = List.range' 1 query.params.length := by
  refine ⟨⟨"DELETE FROM employees WHERE FALSE RETURNING *", [.text "none"]⟩, rfl, ?_⟩
  rintro ⟨pieces, spelled, counted⟩
  have placed : 1 ∈ Piece.numbers pieces := by
    rw [counted]
    decide
  have dollar := Piece.dollar_mem_spell placed
  rw [← spelled] at dollar
  revert dollar
  decide

end Statement

end SqlCompose
