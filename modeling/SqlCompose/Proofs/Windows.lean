/-
# Built windows

A window is built by steps, and the phases say which step may follow which.  What a single
step does is said once: it succeeds exactly if the columns given to it fit the schema and are
not none, and then it adds one clause that is known beforehand (`Window.step_eq_ok_iff`).
Steps one after another add the clauses of the steps in their order
(`Window.run_eq_ok_iff`).

The order of the clauses is a matter of the phases alone.  `Arranged` is what holds of the
clauses of a window that has come to a phase; each step keeps it, so every run does, and the
properties of a finished window are read off it (`WindowFunction.run_arranged`).
-/

import SqlCompose.Frame.Reader
import SqlCompose.Proofs.References
import SqlCompose.Statement
import SqlCompose.Window

namespace SqlCompose

/-- Steps one after another, each in the phase to which the one before it has led. -/
inductive WindowSteps : Phase → Phase → Type where
  | none {p : Phase} : WindowSteps p p
  | next {p q r : Phase} (first : WindowStep p q) (rest : WindowSteps q r) : WindowSteps p r

/-- The kinds of clauses, in the order in which a server wants them. -/
inductive ClauseKind where
  | partition | order | frame | exclusion
  deriving DecidableEq

namespace ClauseKind

/-- All kinds of clauses. -/
def all : List ClauseKind :=
  [.partition, .order, .frame, .exclusion]

end ClauseKind

/-- The kind of a clause. -/
def WindowClause.kind : WindowClause → ClauseKind
  | .partitionBy _ => .partition
  | .orderBy _ => .order
  | .frame _ _ => .frame
  | .exclude _ => .exclusion

/-- The kinds of clauses that a window may have when it has come to a phase. -/
def Phase.passed : Phase → List ClauseKind
  | .fresh => []
  | .partitioned => [.partition]
  | .ordered => [.partition, .order]
  | .framed => [.partition, .order, .frame]
  | .excluded => ClauseKind.all

theorem Phase.passed_sublist (p : Phase) : p.passed.Sublist ClauseKind.all := by
  cases p <;> decide

/-! ## One step -/

/-- The key of an order for a column that is found. -/
def OrderKey.sortKey (key : OrderKey) : SortKey :=
  ⟨key.column.extracted .document, key.order⟩

namespace WindowStep

variable {p q : Phase}

/-- The clause that a step adds if its columns are found. -/
def added : WindowStep p q → WindowClause
  | .partitionBy columns => .partitionBy (columns.map (ColumnArgument.extracted .document))
  | .orderBy _ keys => .orderBy (keys.map OrderKey.sortKey)
  | .rows _ frame => .frame .rows frame
  | .range frame => .frame .range frame
  | .groups frame => .frame .groups frame
  | .exclude exclusion => .exclude exclusion

/-- The columns given to a step. -/
def arguments : WindowStep p q → List ColumnArgument
  | .partitionBy columns => columns
  | .orderBy _ keys => keys.map OrderKey.column
  | .rows _ _ | .range _ | .groups _ | .exclude _ => []

/-- Whether a step that takes columns is given any. -/
def IsFilled : WindowStep p q → Prop
  | .partitionBy columns => columns ≠ []
  | .orderBy _ keys => keys ≠ []
  | .rows _ _ | .range _ | .groups _ | .exclude _ => True

/-- Whether a step can be taken for a schema. -/
def Fits (schema : Schema) (s : WindowStep p q) : Prop :=
  s.IsFilled ∧ ∀ arg ∈ s.arguments, arg.Fits schema

end WindowStep

namespace Window

variable {schema : Schema}

theorem partitionClause_eq_ok_iff {columns : List ColumnArgument} {clause : WindowClause} :
    partitionClause schema columns = .ok clause ↔
      (columns ≠ [] ∧ ∀ arg ∈ columns, arg.Fits schema) ∧
        clause = .partitionBy (columns.map (ColumnArgument.extracted .document)) := by
  have resolved (rs : List ResolvedColumn) :
      columns.mapM (schema.resolve "partition_by" .document) = .ok rs ↔
        (∀ arg ∈ columns, arg.Fits schema) ∧
          rs = columns.map fun arg => ⟨arg.extracted .document, arg.declaredType schema⟩ :=
    mapM_eq_ok_iff_map fun _ _ => Schema.resolve_eq_ok_iff
  simp only [partitionClause, bind_eq_ok_iff, resolved]
  constructor
  · rintro ⟨_, ⟨fits, rfl⟩, built⟩
    split at built
    case isTrue => cases built
    case isFalse filled =>
      obtain rfl := pure_eq_ok_iff.mp built
      refine ⟨⟨by simpa using filled, fits⟩, ?_⟩
      simp [Function.comp_def]
  · rintro ⟨⟨filled, fits⟩, rfl⟩
    refine ⟨_, ⟨fits, rfl⟩, ?_⟩
    rw [if_neg (by simpa using filled)]
    simp [pure, Except.pure, Function.comp_def]

theorem sortKey_eq_ok_iff {key : OrderKey} {sorted : SortKey} :
    sortKey schema key = .ok sorted ↔ key.column.Fits schema ∧ sorted = key.sortKey := by
  simp only [sortKey, bind_eq_ok_iff, Schema.resolve_eq_ok_iff, pure_eq_ok_iff]
  constructor
  · rintro ⟨_, ⟨fits, rfl⟩, rfl⟩
    exact ⟨fits, rfl⟩
  · rintro ⟨fits, rfl⟩
    exact ⟨_, ⟨fits, rfl⟩, rfl⟩

theorem orderClause_eq_ok_iff {keys : List OrderKey} {clause : WindowClause} :
    orderClause schema keys = .ok clause ↔
      (keys ≠ [] ∧ ∀ arg ∈ keys.map OrderKey.column, arg.Fits schema) ∧
        clause = .orderBy (keys.map OrderKey.sortKey) := by
  have sorted (found : List SortKey) :
      keys.mapM (sortKey schema) = .ok found ↔
        (∀ key ∈ keys, key.column.Fits schema) ∧ found = keys.map OrderKey.sortKey :=
    mapM_eq_ok_iff_map fun _ _ => sortKey_eq_ok_iff
  simp only [orderClause, bind_eq_ok_iff, sorted, List.forall_mem_map]
  constructor
  · rintro ⟨_, ⟨fits, rfl⟩, built⟩
    split at built
    case isTrue => cases built
    case isFalse filled =>
      obtain rfl := pure_eq_ok_iff.mp built
      exact ⟨⟨by simpa using filled, fits⟩, rfl⟩
  · rintro ⟨⟨filled, fits⟩, rfl⟩
    refine ⟨_, ⟨fits, rfl⟩, ?_⟩
    rw [if_neg (by simpa using filled)]
    rfl

theorem clause_eq_ok_iff {p q : Phase} {s : WindowStep p q} {added : WindowClause} :
    clause schema s = .ok added ↔ s.Fits schema ∧ added = s.added := by
  cases s with
  | partitionBy columns => exact partitionClause_eq_ok_iff
  | orderBy admitted keys => exact orderClause_eq_ok_iff
  | rows admitted frame | range frame | groups frame | exclude exclusion =>
      simp [clause, WindowStep.Fits, WindowStep.IsFilled, WindowStep.arguments, WindowStep.added,
        eq_comm]

/-- A step can be taken exactly if it fits the schema, and it adds its clause and changes
nothing else. -/
theorem step_eq_ok_iff {p q : Phase} {w : Window p} {s : WindowStep p q} {w' : Window q} :
    w.step s = .ok w' ↔ s.Fits w.schema ∧ w' = w.push q s.added := by
  show w.push q <$> clause w.schema s = .ok w' ↔ _
  simp only [map_eq_ok_iff, clause_eq_ok_iff]
  constructor
  · rintro ⟨_, ⟨fits, rfl⟩, rfl⟩
    exact ⟨fits, rfl⟩
  · rintro ⟨fits, rfl⟩
    exact ⟨_, ⟨fits, rfl⟩, rfl⟩

end Window

/-- A window has no name of its own, so that a name is put around it. -/
theorem Window.rename_toExpr {p : Phase} (w : Window p) {name : String} :
    Selection.rename name w.toExpr = .aliased w.toExpr name := by
  cases cast : w.cast <;> simp [toExpr, cast, NumericCast.apply, Selection.rename]

/-! ## All steps -/

namespace WindowSteps

variable {p q : Phase}

/-- The clauses that steps add. -/
def added {p q : Phase} : WindowSteps p q → List WindowClause
  | .none => []
  | .next first rest => first.added :: rest.added

/-- The columns given to steps, in the order in which they are given. -/
def arguments {p q : Phase} : WindowSteps p q → List ColumnArgument
  | .none => []
  | .next first rest => first.arguments ++ rest.arguments

/-- Whether all steps can be taken for a schema. -/
def Fit {p q : Phase} (schema : Schema) : WindowSteps p q → Prop
  | .none => True
  | .next first rest => first.Fits schema ∧ rest.Fit schema

end WindowSteps

/-- Takes steps one after another. -/
def Window.run {p q : Phase} (w : Window p) : WindowSteps p q → Except Error (Window q)
  | .none => .ok w
  | .next first rest => do (← w.step first).run rest

/-- Steps can be taken exactly if each fits the schema, and they add their clauses. -/
theorem Window.run_eq_ok_iff {p q : Phase} {w : Window p} {steps : WindowSteps p q}
    {w' : Window q} :
    w.run steps = .ok w' ↔
      steps.Fit w.schema ∧ w' = ⟨w.schema, w.function, w.cast, w.clauses ++ steps.added⟩ := by
  induction steps with
  | none =>
      simp only [Window.run, Except.ok.injEq, WindowSteps.Fit, true_and, WindowSteps.added,
        List.append_nil]
      exact eq_comm
  | next first rest ih =>
      simp only [Window.run, bind_eq_ok_iff, Window.step_eq_ok_iff, ih, WindowSteps.Fit,
        WindowSteps.added]
      constructor
      · rintro ⟨_, ⟨fits, rfl⟩, fitRest, rfl⟩
        exact ⟨⟨fits, fitRest⟩, by simp [Window.push]⟩
      · rintro ⟨⟨fits, fitRest⟩, rfl⟩
        exact ⟨_, ⟨fits, rfl⟩, fitRest, by simp [Window.push]⟩

/-! ## The order of the clauses -/

/-- Clauses as they come together on the way to a phase. -/
structure Arranged (p : Phase) (clauses : List WindowClause) : Prop where
  kinds : (clauses.map WindowClause.kind).Sublist p.passed
  ordered : p = .ordered → ∃ keys, .orderBy keys ∈ clauses
  framed : p = .framed → ∃ before unit extent, clauses = before ++ [.frame unit extent]
  frames : ∀ before unit extent, before ++ [.frame unit extent] <+: clauses → unit ≠ .rows →
    ∃ keys, .orderBy keys ∈ before
  exclusions : ∀ before exclusion, before ++ [.exclude exclusion] <+: clauses →
    ∃ earlier unit extent, before = earlier ++ [.frame unit extent]

theorem Arranged.fresh : Arranged .fresh [] where
  kinds := .refl _
  ordered := by simp
  framed := by simp
  frames := by simp
  exclusions := by simp

/-- A step adds a clause of a kind that the next phase has passed, behind all others. -/
theorem WindowStep.passed_append_sublist {p q : Phase} (s : WindowStep p q) :
    (p.passed ++ [s.added.kind]).Sublist q.passed := by
  cases s with
  | partitionBy columns => exact .refl _
  | orderBy admitted keys =>
      show (p.passed ++ [ClauseKind.order]).Sublist [.partition, .order]
      cases p with
      | fresh | partitioned => decide
      | ordered | framed | excluded => simp [Phase.admitsOrder] at admitted
  | rows admitted frame =>
      show (p.passed ++ [ClauseKind.frame]).Sublist [.partition, .order, .frame]
      cases p with
      | fresh | partitioned | ordered => decide
      | framed | excluded => simp [Phase.admitsFrame] at admitted
  | range frame | groups frame | exclude exclusion => exact .refl _

namespace Arranged

variable {p q : Phase} {clauses : List WindowClause}

theorem frames_added (arranged : Arranged p clauses) (s : WindowStep p q)
    {before : List WindowClause} {unit : FrameUnit} {extent : Frame}
    (inFront : before ++ [.frame unit extent] <+: clauses ++ [s.added]) (noRows : unit ≠ .rows) :
    ∃ keys, .orderBy keys ∈ before := by
  rcases List.prefix_concat_iff.mp inFront with last | inFront
  · obtain ⟨rfl, isAdded⟩ := List.append_inj' last rfl
    cases s with
    | partitionBy columns | orderBy admitted keys | exclude exclusion =>
        simp [WindowStep.added] at isAdded
    | rows admitted frame =>
        simp only [WindowStep.added, List.cons.injEq, WindowClause.frame.injEq] at isAdded
        exact absurd isAdded.1.1 noRows
    -- A frame of values or of groups can be given right behind an order only.
    | range frame | groups frame => exact arranged.ordered rfl
  · exact arranged.frames before unit extent inFront noRows

theorem exclusions_added (arranged : Arranged p clauses) (s : WindowStep p q)
    {before : List WindowClause} {exclusion : Exclusion}
    (inFront : before ++ [.exclude exclusion] <+: clauses ++ [s.added]) :
    ∃ earlier unit extent, before = earlier ++ [.frame unit extent] := by
  rcases List.prefix_concat_iff.mp inFront with last | inFront
  · obtain ⟨rfl, isAdded⟩ := List.append_inj' last rfl
    cases s with
    | partitionBy columns | orderBy admitted keys | rows admitted frame | range frame
    | groups frame => simp [WindowStep.added] at isAdded
    | exclude exclusion => exact arranged.framed rfl
  · exact arranged.exclusions before exclusion inFront

/-- One more clause keeps the order of the clauses. -/
theorem added (arranged : Arranged p clauses) (s : WindowStep p q) :
    Arranged q (clauses ++ [s.added]) where
  kinds := by
    rw [List.map_append, List.map_singleton]
    exact (arranged.kinds.append (.refl _)).trans s.passed_append_sublist
  ordered := by
    intro isOrdered
    cases s with
    | orderBy admitted keys => exact ⟨keys.map OrderKey.sortKey, by simp [WindowStep.added]⟩
    | _ => cases isOrdered
  framed := by
    intro isFramed
    cases s with
    | rows admitted frame | range frame | groups frame => exact ⟨clauses, _, _, rfl⟩
    | _ => cases isFramed
  frames := fun _ _ _ inFront noRows => arranged.frames_added s inFront noRows
  exclusions := fun _ _ inFront => arranged.exclusions_added s inFront

/-- Any number of steps keep the order of the clauses. -/
theorem addedAll (arranged : Arranged p clauses) (steps : WindowSteps p q) :
    Arranged q (clauses ++ steps.added) := by
  induction steps generalizing clauses with
  | none => simpa [WindowSteps.added] using arranged
  | next first rest ih =>
      have behind := ih (arranged.added first)
      rwa [List.append_assoc] at behind

end Arranged

/-- Frames that are made in one of the checked ways. -/
inductive Frame.Made : Frame → Prop where
  | whole : Made .whole
  | bounded {start stop : Boundary} {f : Frame} (made : Frame.of start stop = .ok f) : Made f
  | read {start stop : String × Option Int64} {f : Frame} (made : Frame.read start stop = .ok f) :
      Made f

theorem Frame.Made.isLegal {f : Frame} (made : f.Made) : f.IsLegal := by
  cases made with
  | whole => decide
  | bounded made => exact (Frame.of_eq_ok_iff.mp made).2
  | read made =>
      obtain ⟨_, -, made⟩ := bind_eq_ok_iff.mp made
      obtain ⟨_, -, made⟩ := bind_eq_ok_iff.mp made
      exact (Frame.of_eq_ok_iff.mp made).2

theorem WindowSteps.isFilled_of_fit {schema : Schema} {p q : Phase} {steps : WindowSteps p q}
    (fit : steps.Fit schema) :
    (∀ exprs, .partitionBy exprs ∈ steps.added → exprs ≠ []) ∧
      ∀ keys, .orderBy keys ∈ steps.added → keys ≠ [] := by
  induction steps with
  | none => simp [WindowSteps.added]
  | next first rest ih =>
      obtain ⟨⟨filled, -⟩, fitRest⟩ := fit
      obtain ⟨partitions, orders⟩ := ih fitRest
      constructor
      · intro exprs inAdded
        rcases List.mem_cons.mp inAdded with isFirst | inRest
        · cases first with
          | partitionBy columns =>
              obtain rfl := WindowClause.partitionBy.inj isFirst
              simpa [WindowStep.IsFilled] using filled
          | _ => cases isFirst
        · exact partitions exprs inRest
      · intro keys inAdded
        rcases List.mem_cons.mp inAdded with isFirst | inRest
        · cases first with
          | orderBy admitted given =>
              obtain rfl := WindowClause.orderBy.inj isFirst
              simpa [WindowStep.IsFilled] using filled
          | _ => cases isFirst
        · exact orders keys inRest

/-! ## Functions over a window -/

/-- An expression under a name if one is asked for. -/
def Expr.named (name : Option String) (e : Expr) : Expr :=
  name.elim e (.aliased e)

/-- A function that can run over a window. -/
inductive WindowFunction where
  | aggregate (call : AggregateCall)
  | ranking (function : Ranking)

namespace WindowFunction

/-- The call of a function, and the type to which its result is cast. -/
def build (schema : Schema) : WindowFunction → Except Error Aggregate
  | .aggregate call => call.build schema
  | .ranking function => .ok ⟨function.expr, some .integer⟩

/-- The function over the window of all rows. -/
def window (schema : Schema) : WindowFunction → Except Error (Window .fresh)
  | .aggregate call => do return (← call.build schema).window schema
  | .ranking function => .ok (function.window schema)

/-- The function over a window that is built by steps. -/
def run {q : Phase} (schema : Schema) (f : WindowFunction) (steps : WindowSteps .fresh q) :
    Except Error (Window q) := do
  (← f.window schema).run steps

/-- The expression of a function over a window, under a name if one is asked for. -/
def expr {q : Phase} (schema : Schema) (f : WindowFunction) (steps : WindowSteps .fresh q)
    (name : Option String) : Except Error Expr := do
  return (← f.run schema steps).toExpr.named name

variable {schema : Schema} {f : WindowFunction}

theorem window_eq_ok_iff {w : Window .fresh} :
    f.window schema = .ok w ↔
      ∃ a, f.build schema = .ok a ∧ w = ⟨schema, a.expr, a.cast, []⟩ := by
  cases f with
  | aggregate call =>
      simp only [window, build, bind_eq_ok_iff, pure_eq_ok_iff]
      exact exists_congr fun a => and_congr_right fun _ => eq_comm
  | ranking function =>
      simp only [window, build, Except.ok.injEq, exists_eq_left']
      exact eq_comm

/-- A function over a window is built exactly if its call is and all steps fit the schema. -/
theorem run_eq_ok_iff {q : Phase} {steps : WindowSteps .fresh q} {w : Window q} :
    f.run schema steps = .ok w ↔
      ∃ a, f.build schema = .ok a ∧ steps.Fit schema ∧
        w = ⟨schema, a.expr, a.cast, steps.added⟩ := by
  simp only [run, bind_eq_ok_iff, window_eq_ok_iff, Window.run_eq_ok_iff]
  constructor
  · rintro ⟨_, ⟨a, built, rfl⟩, fit, rfl⟩
    exact ⟨a, built, fit, rfl⟩
  · rintro ⟨a, built, fit, rfl⟩
    exact ⟨_, ⟨a, built, rfl⟩, fit, rfl⟩

/-- The columns of the call of a function. -/
def arguments : WindowFunction → List ColumnArgument
  | .aggregate call => call.arguments
  | .ranking _ => []

/-- What runs over a window is a call over all its rows, and it refers to the columns that it
was given. -/
theorem refersTo_build {a : Aggregate} (built : f.build schema = .ok a) :
    (∃ name args distinct, a.expr = .aggregate name args distinct none) ∧
      a.expr.RefersTo schema f.arguments := by
  cases f with
  | aggregate call => exact AggregateCall.refersTo_build built
  | ranking function =>
      obtain rfl := Except.ok.inj built
      refine ⟨⟨_, _, _, rfl⟩, ?_⟩
      simp [Expr.RefersTo, Ranking.expr, Expr.summary, arguments]

/-- A window that was built has at most one clause of each kind, in the order in which a server
wants them, and they are those that the steps ask for: the columns by which rows are parted
and ordered are at least one each and stand in the order in which they were given, each key
with its own order.  A frame of values or of groups has an order before it, and an
exclusion a frame right before it; every frame that was made in a checked way is legal.  The
expression is the window of the uncast call, the cast of the call around it under the name of its
type, and a name outermost if one is asked for, also where another is asked for of the
selection. -/
theorem run_arranged {q : Phase} {steps : WindowSteps .fresh q} {w : Window q}
    (ran : f.run schema steps = .ok w) :
    w.clauses = steps.added ∧
      (w.clauses.map WindowClause.kind).Sublist ClauseKind.all ∧
      (∀ exprs, .partitionBy exprs ∈ w.clauses → exprs ≠ []) ∧
      (∀ keys, .orderBy keys ∈ w.clauses → keys ≠ []) ∧
      (∀ before unit extent, before ++ [.frame unit extent] <+: w.clauses → unit ≠ .rows →
        ∃ keys, .orderBy keys ∈ before) ∧
      (∀ before exclusion, before ++ [.exclude exclusion] <+: w.clauses →
        ∃ earlier unit extent, before = earlier ++ [.frame unit extent]) ∧
      (∀ extent : Frame, extent.Made → extent.IsLegal) ∧
      ∃ a, f.build schema = .ok a ∧
        (∃ name args distinct, a.expr = .aggregate name args distinct none) ∧
        (w.toExpr =
          match a.cast with
          | none => .window a.expr w.clauses
          | some .float8 => .cast (.window a.expr w.clauses) "float8"
          | some .float8Array => .cast (.window a.expr w.clauses) "float8[]"
          | some .integer => .cast (.window a.expr w.clauses) "integer") ∧
        (∀ name, f.expr schema steps (some name) = .ok (.aliased w.toExpr name)) ∧
        ∀ name inner, (Selection.aggregate name fun schema => f.expr schema steps inner).compile
          schema = .ok (.aliased w.toExpr name) := by
  obtain ⟨a, built, fit, isBuilt⟩ := run_eq_ok_iff.mp ran
  have clauses : w.clauses = steps.added := by rw [isBuilt]
  have arranged : Arranged q w.clauses := clauses ▸ Arranged.fresh.addedAll steps
  obtain ⟨partitions, orders⟩ := WindowSteps.isFilled_of_fit fit
  refine ⟨clauses, arranged.kinds.trans q.passed_sublist, clauses ▸ partitions, clauses ▸ orders,
    arranged.frames, arranged.exclusions, fun _ => Frame.Made.isLegal, a, built,
    (refersTo_build built).1, ?_, fun name => by rw [expr, ran]; rfl, fun name inner => ?_⟩
  · rw [isBuilt]
    obtain ⟨call, _ | _ | _ | _⟩ := a <;> rfl
  · show (f.expr schema steps inner).map (Selection.rename name) = _
    rw [expr, ran]
    cases inner with
    | some _ => rfl
    | none => exact congrArg Except.ok w.rename_toExpr

/-- The sum of salaries over groups of peers, as it is asked for of a table of employees, with a
frame that is read and under a name. -/
theorem run_sum_over_groups :
    let schema : Schema := ⟨"employees", [⟨"salary", .integer⟩, ⟨"dept", .text⟩, ⟨"info", .jsonb⟩]⟩
    let extent : Frame := ⟨.preceding 1, .currentRow⟩
    let steps : WindowSteps .fresh .excluded :=
      .next (.partitionBy [.plain "dept", .json "info" (JsonPath.root.key "team")])
        (.next (.orderBy rfl [⟨.plain "salary", .desc⟩])
          (.next (.groups extent) (.next (.exclude .ties) .none)))
    Frame.read ("Preceding", some 1) ("current row", none) = .ok extent ∧ extent.IsLegal ∧
      ∃ w, (aggregate (.sum (.plain "salary"))).run schema steps = .ok w ∧
        (w.clauses.map WindowClause.kind).Sublist ClauseKind.all ∧
        w.clauses = [.partitionBy [.column "dept",
            .jsonAccess (.column "info") (JsonPath.root.key "team") false],
          .orderBy [⟨.column "salary", .desc⟩], .frame .groups extent, .exclude .ties] ∧
        w.toExpr = .cast
          (.window (.aggregate "SUM" [.column "salary"] false none) w.clauses) "float8" ∧
        (Selection.aggregate "others" fun schema =>
          (aggregate (.sum (.plain "salary"))).expr schema steps none).compile schema =
            .ok (.aliased w.toExpr "others") := by
  intro schema extent steps
  have isRead : Frame.read ("Preceding", some 1) ("current row", none) = .ok extent := by
    decide +kernel
  have succeeds : ∃ w, (aggregate (.sum (.plain "salary"))).run schema steps = .ok w := ⟨_, rfl⟩
  obtain ⟨w, ran⟩ := succeeds
  obtain ⟨clauses, kinds, -, -, -, -, legal, a, built, -, shape, -, selected⟩ := run_arranged ran
  have isSum : a = ⟨.aggregate "SUM" [.column "salary"] false none, some .float8⟩ :=
    (Except.ok.inj built).symm
  refine ⟨isRead, legal extent (.read isRead), w, ran, kinds, clauses, ?_, selected "others" none⟩
  rw [shape, isSum]

end WindowFunction

end SqlCompose
