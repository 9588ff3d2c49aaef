/-
# The columns of what is built over rows

Whatever is built from the catalog for a schema refers to the columns it was given: an aggregate,
a call over ordered rows, or a function over a window with its clauses.  A step of a window
refers to its own columns, behind those of the steps before it
(`WindowSteps.refersTo_added`), and neither a cast nor a name changes what an expression
refers to.  So a finished expression holds no column that the schema does not declare, and no
column of documents without its path (`Summary.columns_of_builds`).
-/

import SqlCompose.Proofs.Windows

namespace SqlCompose

/-- The clauses of steps refer to the columns given to the steps, in the same order. -/
theorem WindowStep.refersTo_added {schema : Schema} {p q : Phase} {s : WindowStep p q}
    (fits : s.Fits schema) :
    List.Forall₂ (ColumnArgument.Reaches schema) s.arguments
      (s.added.exprs.flatMap Expr.references) := by
  have extracted (columns : List ColumnArgument) (fit : ∀ arg ∈ columns, arg.Fits schema) :
      List.Forall₂ (ColumnArgument.Reaches schema) columns
        (columns.flatMap fun arg => (arg.extracted .document).references) := by
    induction columns with
    | nil => exact .nil
    | cons arg rest ih =>
        have first := Expr.RefersTo.extracted (fit arg List.mem_cons_self) .document
        have behind := ih fun arg inRest => fit arg (List.mem_cons_of_mem _ inRest)
        exact List.rel_append first behind
  have refers := extracted s.arguments fits.2
  cases s with
  | partitionBy columns =>
      simpa [added, arguments, WindowClause.exprs, List.flatMap_map] using refers
  | orderBy admitted keys =>
      simpa [added, arguments, WindowClause.exprs, OrderKey.sortKey, List.flatMap_map,
        Function.comp_def] using refers
  | rows admitted frame | range frame | groups frame | exclude exclusion => exact refers

theorem WindowSteps.refersTo_added {schema : Schema} {p q : Phase} {steps : WindowSteps p q}
    (fit : steps.Fit schema) :
    List.Forall₂ (ColumnArgument.Reaches schema) steps.arguments
      ((steps.added.flatMap WindowClause.exprs).flatMap Expr.references) := by
  induction steps with
  | none => exact .nil
  | next first rest ih =>
      rw [added, List.flatMap_cons, List.flatMap_append]
      exact List.rel_append (WindowStep.refersTo_added fit.1) (ih fit.2)

/-- A function over the rows of a group or of a window, as it is asked for. -/
inductive Summary where
  | aggregate (call : AggregateCall)
  | orderedSet (call : OrderedSetCall)
  | window {q : Phase} (function : WindowFunction) (steps : WindowSteps .fresh q)

namespace Summary

/-- The columns that are given, those of the function before those of the window. -/
def arguments : Summary → List ColumnArgument
  | .aggregate call => call.arguments
  | .orderedSet call => call.arguments
  | .window function steps => function.arguments ++ steps.arguments

/-- The expression of a summary, under a name if one is asked for. -/
def build (schema : Schema) (name : Option String) : Summary → Except Error Expr
  | .aggregate call => do return (← call.build schema).toExpr.named name
  | .orderedSet call => do return (← call.build schema).toExpr.named name
  | .window function steps => function.expr schema steps name

/-- The selection of a summary under a name, whatever name the summary has by itself. -/
def selection (s : Summary) (name : String) (inner : Option String) : Selection :=
  .aggregate name fun schema => s.build schema inner

/-- The ways in which the expression of a summary comes about. -/
inductive Builds (schema : Schema) (s : Summary) : Expr → Prop where
  | direct {name : Option String} {e : Expr} (built : s.build schema name = .ok e) :
      Builds schema s e
  | selected {name : String} {inner : Option String} {e : Expr}
      (compiled : (s.selection name inner).compile schema = .ok e) : Builds schema s e

variable {schema : Schema} {s : Summary} {e : Expr}

theorem refersTo_named {args : List ColumnArgument} (refers : e.RefersTo schema args)
    (name : Option String) : (e.named name).RefersTo schema args := by
  cases name with
  | none => exact refers
  | some name => exact refers.aliased name

theorem refersTo_rename {args : List ColumnArgument} (refers : e.RefersTo schema args)
    (name : String) : (Selection.rename name e).RefersTo schema args := by
  unfold Selection.rename
  split
  case h_1 e _ =>
    rw [Expr.RefersTo, Expr.references_aliased] at refers
    exact Expr.RefersTo.aliased refers name
  case h_2 => exact refers.aliased name

/-- The window of a function refers to the columns of the function and of the steps. -/
theorem refersTo_window {q : Phase} {f : WindowFunction} {steps : WindowSteps .fresh q}
    {w : Window q} (ran : f.run schema steps = .ok w) :
    w.toExpr.RefersTo schema (f.arguments ++ steps.arguments) := by
  obtain ⟨a, built, fit, rfl⟩ := WindowFunction.run_eq_ok_iff.mp ran
  have function := (WindowFunction.refersTo_build built).2
  apply Expr.RefersTo.numericCast
  rw [Expr.RefersTo, Expr.references_window]
  exact List.rel_append function (WindowSteps.refersTo_added fit)

theorem refersTo_build {name : Option String} (built : s.build schema name = .ok e) :
    e.RefersTo schema s.arguments := by
  cases s with
  | aggregate call =>
      obtain ⟨a, called, rfl⟩ := map_eq_ok_iff.mp built
      exact refersTo_named ((AggregateCall.refersTo_build called).2.numericCast a.cast) name
  | orderedSet call =>
      obtain ⟨o, called, rfl⟩ := map_eq_ok_iff.mp built
      exact refersTo_named ((OrderedSetCall.refersTo_build called).numericCast o.cast) name
  | window function steps =>
      obtain ⟨w, ran, rfl⟩ := map_eq_ok_iff.mp built
      exact refersTo_named (refersTo_window ran) name

theorem Builds.refersTo (builds : s.Builds schema e) : e.RefersTo schema s.arguments := by
  cases builds with
  | direct built => exact refersTo_build built
  | selected compiled =>
      obtain ⟨e, built, rfl⟩ := map_eq_ok_iff.mp compiled
      exact refersTo_rename (refersTo_build built) _

/-- What is built over rows refers to the columns that were given, in their order, each as the
schema asks for.  Every column in it is declared.  A column that is declared for documents stands
nowhere but directly under a path that was given for it, and a path is followed nowhere but from
such a column. -/
theorem columns_of_builds (builds : s.Builds schema e) :
    List.Forall₂ (ColumnArgument.Reaches schema) s.arguments e.references ∧
      (∀ name, .column name ∈ e.nodes → ∃ c, schema.find? name = some c) ∧
      (∀ name c, schema.find? name = some c → c.type.isJson = true →
        e ≠ .column name ∧ ∀ d ∈ e.nodes, .column name ∈ d.operands →
          ∃ path asText, d = .jsonAccess (.column name) path asText ∧
            .json name path ∈ s.arguments) ∧
      ∀ base path asText, .jsonAccess base path asText ∈ e.nodes →
        ∃ name c, base = .column name ∧ schema.find? name = some c ∧ c.type.isJson = true ∧
          .json name path ∈ s.arguments := by
  have refers := builds.refersTo
  refine ⟨refers, ?_, ?_, ?_⟩
  · intro name inside
    exact refers.declared inside
  · intro name c declared isJson
    exact refers.accessed declared isJson
  · intro base path asText inside
    exact refers.given inside

/-- An average of salaries over rows that are parted by a column and by a part of a document. -/
theorem columns_of_average_by_team :
    let schema : Schema := ⟨"employees", [⟨"salary", .integer⟩, ⟨"dept", .text⟩, ⟨"info", .jsonb⟩]⟩
    let path := JsonPath.root.key "team"
    let s : Summary := .window (.aggregate (.avg (.plain "salary")))
      (.next (.partitionBy [.plain "dept", .json "info" path]) .none)
    ∃ e, s.Builds schema e ∧ e ≠ .column "info" ∧
      (∀ d ∈ e.nodes, .column "info" ∈ d.operands →
        ∃ path asText, d = .jsonAccess (.column "info") path asText ∧
          .json "info" path ∈ s.arguments) ∧
      List.Forall₂ (ColumnArgument.Reaches schema)
        [.plain "salary", .plain "dept", .json "info" path] e.references := by
  intro schema path s
  have succeeds : ∃ e, (s.selection "average" none).compile schema = .ok e := ⟨_, rfl⟩
  obtain ⟨e, compiled⟩ := succeeds
  have builds : s.Builds schema e := .selected compiled
  obtain ⟨refers, -, accessed, -⟩ := columns_of_builds builds
  obtain ⟨noColumn, onlyUnderPath⟩ := accessed "info" ⟨"info", .jsonb⟩ rfl rfl
  exact ⟨e, builds, noColumn, onlyUnderPath, refers⟩

end Summary

end SqlCompose
