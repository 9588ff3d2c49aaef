/-
# Calls over windows

A server runs over a window neither a call over ordered rows nor one that leaves out repeated
values, and the catalog is laid out so that an ordered call cannot be given a window at all.  What
is built from it has at most one window, and the function of the window is the call that the
catalog builds (`Summary.windowed_of_builds`).  It is never ordered.  It leaves out repeated values
in a single case: the count of distinct values can be given a window like any other aggregate.
-/

import SqlCompose.Proofs.Summaries

namespace SqlCompose

namespace Expr

/-! ## The windows of an expression -/

/-- The function of a window. -/
def windowed? : Expr → Option Expr
  | .window function _ => some function
  | _ => none

/-- The functions of all windows in an expression. -/
def windowed (e : Expr) : List Expr :=
  e.nodes.filterMap windowed?

theorem windowed_eq (e : Expr) :
    e.windowed = e.windowed?.toList ++ e.operands.flatMap windowed := by
  have inside : (e.operands.flatMap nodes).filterMap windowed? = e.operands.flatMap windowed :=
    List.filterMap_flatMap
  rw [windowed, nodes_eq, List.filterMap_cons, inside]
  cases e.windowed? <;> rfl

@[simp]
theorem windowed_star : star.windowed = [] := by
  rw [windowed_eq]
  rfl

@[simp]
theorem windowed_column (name : String) : (column name).windowed = [] := by
  rw [windowed_eq]
  rfl

@[simp]
theorem windowed_literal (v : Value) : (literal v).windowed = [] := by
  rw [windowed_eq]
  rfl

@[simp]
theorem windowed_raw (sql : String) : (raw sql).windowed = [] := by
  rw [windowed_eq]
  rfl

@[simp]
theorem windowed_jsonAccess (base : Expr) (path : JsonPath) (asText : Bool) :
    (jsonAccess base path asText).windowed = base.windowed := by
  rw [windowed_eq]
  simp [windowed?, operands, children]

@[simp]
theorem windowed_cast (e : Expr) (type : String) : (cast e type).windowed = e.windowed := by
  rw [windowed_eq]
  simp [windowed?, operands, children]

@[simp]
theorem windowed_aliased (e : Expr) (name : String) : (aliased e name).windowed = e.windowed := by
  rw [windowed_eq]
  simp [windowed?, operands, children]

@[simp]
theorem windowed_array (items : List Expr) :
    (array items).windowed = items.flatMap windowed := by
  rw [windowed_eq]
  rfl

@[simp]
theorem windowed_call (name : String) (args : List Expr) :
    (call name args).windowed = args.flatMap windowed := by
  rw [windowed_eq]
  rfl

@[simp]
theorem windowed_keywordCall (name : String) (args : List KeywordArgument) :
    (keywordCall name args).windowed = (args.map KeywordArgument.arg).flatMap windowed := by
  rw [windowed_eq]
  rfl

@[simp]
theorem windowed_aggregate (name : String) (args : List Expr) (distinct : Bool)
    (withinGroup : Option Expr) :
    (aggregate name args distinct withinGroup).windowed =
      args.flatMap windowed ++ withinGroup.toList.flatMap windowed := by
  rw [windowed_eq]
  simp [windowed?, operands, children]

@[simp]
theorem windowed_window (function : Expr) (clauses : List WindowClause) :
    (window function clauses).windowed =
      function :: (function.windowed ++
        (clauses.flatMap WindowClause.exprs).flatMap windowed) := by
  rw [windowed_eq]
  simp [windowed?, operands, children]

end Expr

@[simp]
theorem ColumnArgument.windowed_extracted (arg : ColumnArgument) (extraction : Extraction) :
    (arg.extracted extraction).windowed = [] := by
  cases arg with
  | plain name => exact Expr.windowed_column name
  | json name path => cases extraction <;> simp [extracted, Extraction.apply]

@[simp]
theorem NumericCast.windowed_apply (cast : Option NumericCast) (e : Expr) :
    (NumericCast.apply cast e).windowed = e.windowed := by
  cases cast with
  | none => rfl
  | some type => exact Expr.windowed_cast e type.sqlName

@[simp]
theorem Expr.windowed_named (name : Option String) (e : Expr) :
    (e.named name).windowed = e.windowed := by
  cases name with
  | none => rfl
  | some name => exact windowed_aliased e name

@[simp]
theorem Selection.windowed_rename (name : String) (e : Expr) :
    (Selection.rename name e).windowed = e.windowed := by
  unfold rename
  split <;> simp

/-! ## The calls of the catalog -/

namespace AggregateCall

variable {schema : Schema}

theorem isDistinct_iff {call : AggregateCall} :
    call.isDistinct = true ↔ ∃ column, call = .countDistinct column := by
  cases call <;> simp [isDistinct]

theorem Operands.windowed {args : List ColumnArgument} {es : List Expr}
    (operands : Operands schema args es) : es.flatMap Expr.windowed = [] := by
  induction operands with
  | none => rfl
  | star rest ih | constant v rest ih | column fits extraction rest ih
  | cast fits extraction type rest ih => simpa using ih

theorem Yields.windowed {call : AggregateCall} {e : Expr} (yields : call.Yields schema e) :
    e.windowed = [] := by
  obtain ⟨name, args, rfl, operands⟩ := yields
  simp [operands.windowed]

end AggregateCall

namespace OrderedSetCall

variable {schema : Schema}

@[simp]
theorem windowed_fractions (fractions : Fractions) : fractions.expr.windowed = [] := by
  cases fractions with
  | one x => exact Expr.windowed_literal _
  | many xs => simp [Fractions.expr, List.flatMap_map]

/-- A call over ordered rows has no window, neither around it nor in it. -/
theorem Yields.windowed {args : List ColumnArgument} {e : Expr} (yields : Yields schema args e) :
    e.windowed = [] := by
  cases yields with
  | call fits name fractions extraction => cases fractions <;> simp [ordered]
  | moment fits name fractions extraction => simp [ordered]

end OrderedSetCall

/-! ## Functions over windows -/

/-- The clause of a step has no window in it. -/
theorem WindowStep.windowed_added {p q : Phase} (s : WindowStep p q) :
    s.added.exprs.flatMap Expr.windowed = [] := by
  cases s with
  | partitionBy columns => simp [added, WindowClause.exprs]
  | orderBy admitted keys => simp [added, WindowClause.exprs, OrderKey.sortKey]
  | rows admitted frame | range frame | groups frame | exclude exclusion => rfl

theorem WindowSteps.windowed_added {p q : Phase} (steps : WindowSteps p q) :
    (steps.added.flatMap WindowClause.exprs).flatMap Expr.windowed = [] := by
  induction steps with
  | none => rfl
  | next first rest ih =>
      rw [added, List.flatMap_cons, List.flatMap_append, first.windowed_added, ih]
      rfl

namespace WindowFunction

variable {schema : Schema} {f : WindowFunction}

/-- Whether a function leaves out repeated values. -/
def isDistinct : WindowFunction → Bool
  | .aggregate call => call.isDistinct
  | .ranking _ => false

theorem isDistinct_iff :
    f.isDistinct = true ↔ ∃ column, f = .aggregate (.countDistinct column) := by
  cases f with
  | aggregate call => simp [isDistinct, AggregateCall.isDistinct_iff]
  | ranking function => simp [isDistinct]

/-- The call of a function is over unordered rows, and it has no window in it. -/
theorem windowed_build {a : Aggregate} (built : f.build schema = .ok a) :
    (∃ name args, a.expr = .aggregate name args f.isDistinct none) ∧ a.expr.windowed = [] := by
  cases f with
  | aggregate call =>
      have noWindow := (AggregateCall.yields_build built).windowed
      obtain ⟨name, args, isCall, -⟩ := AggregateCall.yields_build built
      exact ⟨⟨name, args, isCall⟩, noWindow⟩
  | ranking function =>
      obtain rfl := Except.ok.inj built
      exact ⟨⟨_, _, rfl⟩, by simp [Ranking.expr, Expr.summary]⟩

/-- The only window is the one that was asked for, whatever its steps. -/
theorem windowed_run {q : Phase} {steps : WindowSteps .fresh q} {w : Window q}
    (ran : f.run schema steps = .ok w) :
    ∃ a, f.build schema = .ok a ∧ w.toExpr.windowed = [a.expr] := by
  obtain ⟨a, built, -, rfl⟩ := run_eq_ok_iff.mp ran
  refine ⟨a, built, ?_⟩
  rw [Window.toExpr, NumericCast.windowed_apply, Expr.windowed_window, (windowed_build built).2,
    steps.windowed_added]
  rfl

end WindowFunction

namespace Summary

variable {schema : Schema} {s : Summary} {e : Expr}

/-- The function for which a window is asked for. -/
def function? : Summary → Option WindowFunction
  | .window function _ => some function
  | _ => none

/-- Whether some functions of windows are those of a summary: the call of its function if a window
is asked for, and none otherwise. -/
def Windowed (schema : Schema) (s : Summary) (functions : List Expr) : Prop :=
  match s.function? with
  | some f => ∃ a, f.build schema = .ok a ∧ functions = [a.expr]
  | none => functions = []

theorem windowed_build {name : Option String} (built : s.build schema name = .ok e) :
    s.Windowed schema e.windowed := by
  cases s with
  | aggregate call =>
      obtain ⟨a, called, rfl⟩ := map_eq_ok_iff.mp built
      simp [Windowed, function?, Aggregate.toExpr, (AggregateCall.yields_build called).windowed]
  | orderedSet call =>
      obtain ⟨o, called, rfl⟩ := map_eq_ok_iff.mp built
      simp [Windowed, function?, OrderedSet.toExpr, (OrderedSetCall.yields_build called).windowed]
  | window function steps =>
      obtain ⟨w, ran, rfl⟩ := map_eq_ok_iff.mp built
      rw [Expr.windowed_named]
      exact WindowFunction.windowed_run ran

theorem Builds.windowed (builds : s.Builds schema e) : s.Windowed schema e.windowed := by
  cases builds with
  | direct built => exact windowed_build built
  | selected compiled =>
      obtain ⟨d, built, rfl⟩ := map_eq_ok_iff.mp compiled
      rw [Selection.windowed_rename]
      exact windowed_build built

/-- The function of every window in what is built over rows is the call of the aggregate or the
ranking for which the window was asked for, and it is never over ordered rows.  All of them keep
repeated values, as a server wants it, unless the window was asked for of a count of distinct
values, and in this case they never do. -/
theorem windowed_of_builds (builds : s.Builds schema e) :
    (∀ d ∈ e.windowed, ∃ f a name args distinct, s.function? = some f ∧
      f.build schema = .ok a ∧ d = a.expr ∧ d = .aggregate name args distinct none) ∧
      ((∀ d ∈ e.windowed, ∃ name args, d = .aggregate name args false none) ↔
        ∀ column, s.function? ≠ some (.aggregate (.countDistinct column))) := by
  have windowed := builds.windowed
  unfold Windowed at windowed
  split at windowed
  case h_1 f isFunction =>
    obtain ⟨a, built, isOnly⟩ := windowed
    obtain ⟨⟨name, args, isCall⟩, -⟩ := WindowFunction.windowed_build built
    have keeps : (∃ name args, a.expr = .aggregate name args false none) ↔
        f.isDistinct = false := by
      simp [isCall]
    constructor
    · intro d inside
      obtain rfl : d = a.expr := by simpa [isOnly] using inside
      exact ⟨f, a, name, args, f.isDistinct, isFunction, built, rfl, isCall⟩
    · simp only [isOnly, List.forall_mem_singleton, keeps, isFunction, ne_eq, Option.some.injEq]
      rw [← Bool.not_eq_true, WindowFunction.isDistinct_iff, not_exists]
  case h_2 isFunction =>
    simp [windowed, isFunction]

/-- A sum of salaries, parted by a column, keeps repeated values. -/
theorem windowed_of_sum_by_department :
    let schema : Schema := ⟨"employees", [⟨"salary", .integer⟩, ⟨"dept", .text⟩]⟩
    let s : Summary := .window (.aggregate (.sum (.plain "salary")))
      (.next (.partitionBy [.plain "dept"]) .none)
    ∃ e, s.Builds schema e ∧ e.windowed = [.aggregate "SUM" [.column "salary"] false none] ∧
      ∀ d ∈ e.windowed, ∃ name args, d = .aggregate name args false none := by
  intro schema s
  have succeeds : ∃ e, s.build schema (some "total") = .ok e := ⟨_, rfl⟩
  obtain ⟨e, built⟩ := succeeds
  have builds : s.Builds schema e := .direct built
  have keeps := (windowed_of_builds builds).2.mpr (by simp [s, function?])
  obtain ⟨a, called, isOnly⟩ : s.Windowed schema e.windowed := builds.windowed
  obtain rfl := Except.ok.inj called
  exact ⟨e, builds, isOnly, keeps⟩

/-- A count of distinct names can be given the window of all rows, and it is still a count of
distinct names. -/
theorem count_distinct_over_all_rows :
    let schema : Schema := ⟨"employees", [⟨"name", .text⟩]⟩
    let s : Summary := .window (.aggregate (.countDistinct (.plain "name"))) .none
    let call : Expr := .aggregate "COUNT" [.column "name"] true none
    s.build schema none = .ok (.cast (.window call []) "integer") ∧
      call ∈ (Expr.cast (.window call []) "integer").windowed := by
  intro schema s call
  exact ⟨rfl, by simp⟩

end Summary

end SqlCompose
