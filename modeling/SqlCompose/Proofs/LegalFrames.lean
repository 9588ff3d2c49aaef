/-
# Frames in accepted expressions

There are two ways to a frame in an expression: a step of a window is given one, or it is read from
a document in which an expression is stored.  What is built over rows has exactly the frames that
its steps were given (`Summary.frames_of_builds`), so all of them are legal if they were made in a
checked way.  A stored frame is taken as it is.  The frames of an expression that is read are
those that are stored in the document, at any depth (`Expr.mem_frames_iff`), and they are legal
exactly if the stored ones are.

A document is read one level at a time, so it is enough to know of one level that its parts are read
from the parts of the document (`Expr.reads_of_ofJsonWithin?`).
-/

import SqlCompose.Proofs.StoredExpressions
import SqlCompose.Proofs.WindowCalls

namespace SqlCompose

/-! ## The frames of an expression -/

/-- The frame of a clause, if it is one. -/
def WindowClause.extents : WindowClause → List Frame
  | .frame _ extent => [extent]
  | _ => []

namespace Expr

/-- The frames in the clauses of an expression, if it is a window. -/
def ownFrames : Expr → List Frame
  | .window _ clauses => clauses.flatMap WindowClause.extents
  | _ => []

/-- The frames of all windows in an expression. -/
def frames (e : Expr) : List Frame :=
  e.nodes.flatMap ownFrames

theorem frames_eq (e : Expr) : e.frames = e.ownFrames ++ e.operands.flatMap frames := by
  rw [frames, nodes_eq, List.flatMap_cons, List.flatMap_assoc]
  rfl

@[simp]
theorem frames_cast (e : Expr) (type : String) : (cast e type).frames = e.frames := by
  rw [frames_eq]
  simp [ownFrames, operands, children]

@[simp]
theorem frames_aliased (e : Expr) (name : String) : (aliased e name).frames = e.frames := by
  rw [frames_eq]
  simp [ownFrames, operands, children]

/-- Without a window there is no frame. -/
theorem frames_of_windowed {e : Expr} (none : e.windowed = []) : e.frames = [] := by
  rw [frames, List.flatMap_eq_nil_iff]
  intro d inside
  rw [windowed, List.filterMap_eq_nil_iff] at none
  have noWindow := none d inside
  cases d with
  | window function clauses => cases noWindow
  | _ => rfl

theorem flatMap_frames_of_windowed {es : List Expr} (none : es.flatMap windowed = []) :
    es.flatMap frames = [] := by
  rw [List.flatMap_eq_nil_iff] at none ⊢
  exact fun e inside => frames_of_windowed (none e inside)

@[simp]
theorem frames_named (name : Option String) (e : Expr) : (e.named name).frames = e.frames := by
  cases name with
  | none => rfl
  | some name => exact frames_aliased e name

end Expr

@[simp]
theorem NumericCast.frames_apply (cast : Option NumericCast) (e : Expr) :
    (NumericCast.apply cast e).frames = e.frames := by
  cases cast with
  | none => rfl
  | some type => exact Expr.frames_cast e type.sqlName

@[simp]
theorem Selection.frames_rename (name : String) (e : Expr) :
    (Selection.rename name e).frames = e.frames := by
  unfold rename
  split <;> simp

/-! ## Frames that are built -/

/-- The frame that a step is given, if it takes one. -/
def WindowStep.frames {p q : Phase} : WindowStep p q → List Frame
  | .rows _ frame => [frame]
  | .range frame => [frame]
  | .groups frame => [frame]
  | .partitionBy _ | .orderBy _ _ | .exclude _ => []

/-- The frames that steps are given. -/
def WindowSteps.frames {p q : Phase} : WindowSteps p q → List Frame
  | .none => []
  | .next first rest => first.frames ++ rest.frames

theorem WindowSteps.extents_added {p q : Phase} (steps : WindowSteps p q) :
    steps.added.flatMap WindowClause.extents = steps.frames := by
  induction steps with
  | none => rfl
  | next first rest ih =>
      rw [added, frames, List.flatMap_cons, ih]
      cases first <;> rfl

/-- The frames of a function over a window are those that its steps are given. -/
theorem WindowFunction.frames_run {schema : Schema} {f : WindowFunction} {q : Phase}
    {steps : WindowSteps .fresh q} {w : Window q} (ran : f.run schema steps = .ok w) :
    w.toExpr.frames = steps.frames := by
  obtain ⟨a, built, -, rfl⟩ := run_eq_ok_iff.mp ran
  have inFunction := Expr.frames_of_windowed (windowed_build built).2
  have inClauses := Expr.flatMap_frames_of_windowed steps.windowed_added
  rw [Window.toExpr, NumericCast.frames_apply, Expr.frames_eq]
  simp [Expr.ownFrames, Expr.operands, Expr.children, steps.extents_added, inFunction, inClauses,
    -List.flatMap_eq_nil_iff]

namespace Summary

variable {schema : Schema} {s : Summary} {e : Expr}

/-- The frames that a summary is given. -/
def frames : Summary → List Frame
  | .window _ steps => steps.frames
  | _ => []

theorem frames_build {name : Option String} (built : s.build schema name = .ok e) :
    e.frames = s.frames := by
  cases s with
  | aggregate call =>
      obtain ⟨a, called, rfl⟩ := map_eq_ok_iff.mp built
      have noWindow := (AggregateCall.yields_build called).windowed
      simp [frames, Aggregate.toExpr, Expr.frames_of_windowed noWindow]
  | orderedSet call =>
      obtain ⟨o, called, rfl⟩ := map_eq_ok_iff.mp built
      have noWindow := (OrderedSetCall.yields_build called).windowed
      simp [frames, OrderedSet.toExpr, Expr.frames_of_windowed noWindow]
  | window function steps =>
      obtain ⟨w, ran, rfl⟩ := map_eq_ok_iff.mp built
      rw [Expr.frames_named]
      exact WindowFunction.frames_run ran

/-- What is built over rows has exactly the frames that its steps were given. -/
theorem frames_of_builds (builds : s.Builds schema e) : e.frames = s.frames := by
  cases builds with
  | direct built => exact frames_build built
  | selected compiled =>
      obtain ⟨d, built, rfl⟩ := map_eq_ok_iff.mp compiled
      rw [Selection.frames_rename]
      exact frames_build built

end Summary

/-! ## Frames that are stored -/

namespace Json

/-- The items of an array; any other document has none. -/
def items (j : Json) : List Json :=
  j.array?.getD []

/-- The fields of some names that an object has. -/
def fieldsOf (names : List String) (j : Json) : List Json :=
  names.filterMap fun name => j.field? name

/-- The documents of the expressions in a stored clause of a window. -/
def clauseExprs (j : Json) : List Json :=
  match j.case? with
  | some ("PartitionBy", some content) => content.items
  | some ("OrderBy", some content) => content.items.filterMap fun key => key.pair?.map Prod.fst
  | _ => []

/-- The document of the frame in a stored clause of a window. -/
def clauseExtents (j : Json) : List Json :=
  match j.case? with
  | some ("Frame", some content) => content.fieldsOf ["spec"]
  | _ => []

/-- The documents of the expressions directly in a stored expression, of which the name of the case
and the content are given. -/
def contentOperands (name : String) (content : Json) : List Json :=
  match name with
  | "Function" => (content.fieldsOf ["args"]).flatMap items
  | "Special" =>
    ((content.fieldsOf ["args"]).flatMap items).filterMap fun arg => arg.pair?.map Prod.snd
  | "Binary" | "Compare" => content.fieldsOf ["left", "right"]
  | "Cast" | "Aliased" => content.fieldsOf ["expr"]
  | "Between" => content.fieldsOf ["expr", "low", "high"]
  | "Logical" => (content.fieldsOf ["operands"]).flatMap items
  | "JsonAccess" => content.fieldsOf ["base"]
  | "Array" => content.items
  | "Aggregate" =>
    (content.fieldsOf ["args"]).flatMap items ++
      (content.fieldsOf ["within_group"]).filter fun order => !(order matches .null)
  | "Window" =>
    content.fieldsOf ["function"] ++
      ((content.fieldsOf ["clauses"]).flatMap items).flatMap clauseExprs
  | _ => []

/-- The documents of the frames in the clauses of a stored window, of which the name of the case and the
content are given. -/
def contentExtents (name : String) (content : Json) : List Json :=
  match name with
  | "Window" => ((content.fieldsOf ["clauses"]).flatMap items).flatMap clauseExtents
  | _ => []

/-- The documents of the expressions directly in a stored expression. -/
def storedOperands (j : Json) : List Json :=
  match j.case? with
  | some (name, some content) => contentOperands name content
  | _ => []

/-- The documents of the frames in the clauses of a stored expression, if it is a window. -/
def storedExtents (j : Json) : List Json :=
  match j.case? with
  | some (name, some content) => contentExtents name content
  | _ => []

/-- Whether the document of an expression has the document of a frame in the clauses of its windows,
at any depth. -/
inductive StoresExtent : Json → Json → Prop where
  | own {j extent : Json} (inClauses : extent ∈ j.storedExtents) : StoresExtent j extent
  | inside {j part extent : Json} (operand : part ∈ j.storedOperands)
      (stores : StoresExtent part extent) : StoresExtent j extent

end Json

/-! ## Reading one level -/

/-- Whether some things are read from some documents, one from each. -/
abbrev ReadFrom {α : Type} (read : Json → Option α) : List Json → List α → Prop :=
  List.Forall₂ fun j a => read j = some a

namespace ReadFrom

variable {α : Type} {read : Json → Option α}

theorem of_mapM {js : List Json} {as : List α} (found : js.mapM read = some as) :
    ReadFrom read js as := by
  induction js generalizing as with
  | nil =>
      obtain rfl := Option.some.inj found
      exact .nil
  | cons j rest ih =>
      simp only [List.mapM_cons, Option.bind_eq_bind, Option.bind_eq_some_iff] at found
      obtain ⟨a, here, others, foundRest, same⟩ := found
      obtain rfl := Option.some.inj same
      exact .cons here (ih foundRest)

theorem of_readList {j : Json} {as : List α} (found : Expr.readList read j = some as) :
    ReadFrom read j.items as := by
  obtain ⟨items, isArray, found⟩ := Option.bind_eq_some_iff.mp found
  rw [Json.items, isArray]
  exact of_mapM found

/-- The first of some fields is read and so are the others. -/
theorem cons_readField {j : Json} {name : String} {names : List String} {a : α} {as : List α}
    (found : Expr.readField read name j = some a) (others : ReadFrom read (j.fieldsOf names) as) :
    ReadFrom read (j.fieldsOf (name :: names)) (a :: as) := by
  obtain ⟨content, isField, found⟩ := Option.bind_eq_some_iff.mp found
  rw [Json.fieldsOf, List.filterMap_cons, isField]
  exact .cons found others

theorem of_readField {j : Json} {name : String} {a : α}
    (found : Expr.readField read name j = some a) : ReadFrom read (j.fieldsOf [name]) [a] :=
  cons_readField found .nil

theorem of_readListField {j : Json} {name : String} {as : List α}
    (found : Expr.readField (Expr.readList read) name j = some as) :
    ReadFrom read ((j.fieldsOf [name]).flatMap Json.items) as := by
  obtain ⟨content, isField, found⟩ := Option.bind_eq_some_iff.mp found
  simpa [Json.fieldsOf, isField] using of_readList found

/-- What is read from a part of each document is read from these parts. -/
theorem filterMap_map {β : Type} {readWhole : Json → Option β} {part : Json → Option Json}
    {content : β → α} {js : List Json} {bs : List β} (reads : ReadFrom readWhole js bs)
    (each : ∀ j b, readWhole j = some b → ∃ c, part j = some c ∧ read c = some (content b)) :
    ReadFrom read (js.filterMap part) (bs.map content) := by
  induction reads with
  | nil => exact .nil
  | cons here rest ih =>
      obtain ⟨c, isPart, isRead⟩ := each _ _ here
      rw [List.filterMap_cons_some isPart]
      exact .cons isRead ih

theorem exists_of_mem {js : List Json} {as : List α} (reads : ReadFrom read js as) {j : Json}
    (inside : j ∈ js) : ∃ a ∈ as, read j = some a := by
  induction reads with
  | nil => cases inside
  | cons here _ ih =>
      rcases List.mem_cons.mp inside with rfl | inRest
      · exact ⟨_, List.mem_cons_self, here⟩
      · obtain ⟨a, isThere, isRead⟩ := ih inRest
        exact ⟨a, List.mem_cons_of_mem _ isThere, isRead⟩

/-- What is read is what the reader makes of one of the documents. -/
theorem mem_iff {js : List Json} {as : List α} (reads : ReadFrom read js as) {a : α} :
    a ∈ as ↔ ∃ j ∈ js, read j = some a := by
  constructor
  · intro isThere
    induction reads with
    | nil => cases isThere
    | cons here _ ih =>
        rcases List.mem_cons.mp isThere with rfl | inRest
        · exact ⟨_, List.mem_cons_self, here⟩
        · obtain ⟨j, inside, isRead⟩ := ih inRest
          exact ⟨j, List.mem_cons_of_mem _ inside, isRead⟩
  · rintro ⟨j, inside, isRead⟩
    obtain ⟨b, isThere, same⟩ := reads.exists_of_mem inside
    obtain rfl := Option.some.inj (isRead.symm.trans same)
    exact isThere

end ReadFrom

namespace Expr

variable {read : Json → Option Expr} {j : Json}

theorem exists_of_readArgument {a : KeywordArgument} (found : readArgument read j = some a) :
    ∃ c, j.pair?.map Prod.snd = some c ∧ read c = some a.arg := by
  obtain ⟨⟨keyword, arg⟩, isPair, found⟩ := Option.bind_eq_some_iff.mp found
  obtain ⟨e, isRead, found⟩ := Option.bind_eq_some_iff.mp found
  refine ⟨arg, by rw [isPair]; rfl, ?_⟩
  rw [isRead]
  split at found
  case h_1 | h_2 =>
    obtain rfl := Option.some.inj found
    rfl
  case h_3 => cases found

theorem exists_of_readKey {k : SortKey} (found : readKey read j = some k) :
    ∃ c, j.pair?.map Prod.fst = some c ∧ read c = some k.expr := by
  obtain ⟨⟨expr, order⟩, isPair, found⟩ := Option.bind_eq_some_iff.mp found
  obtain ⟨e, isRead, found⟩ := Option.bind_eq_some_iff.mp found
  obtain ⟨name, -, found⟩ := Option.bind_eq_some_iff.mp found
  obtain ⟨order, -, found⟩ := Option.bind_eq_some_iff.mp found
  obtain rfl := Option.some.inj found
  exact ⟨expr, by rw [isPair]; rfl, isRead⟩

/-- The expressions of a clause and its frame are read from their documents in the stored clause. -/
theorem reads_of_readClause {clause : WindowClause} (found : readClause read j = some clause) :
    ReadFrom read j.clauseExprs clause.exprs ∧
      ReadFrom Frame.ofJson? j.clauseExtents clause.extents := by
  unfold readClause at found
  split at found
  case h_1 content isCase =>
    obtain ⟨es, isRead, rfl⟩ := Option.map_eq_some_iff.mp found
    rw [Json.clauseExprs, Json.clauseExtents, isCase]
    exact ⟨.of_readList isRead, .nil⟩
  case h_2 content isCase =>
    obtain ⟨keys, isRead, rfl⟩ := Option.map_eq_some_iff.mp found
    rw [Json.clauseExprs, Json.clauseExtents, isCase]
    exact ⟨(ReadFrom.of_readList isRead).filterMap_map fun _ _ => exists_of_readKey, .nil⟩
  case h_3 content isCase =>
    obtain ⟨name, -, found⟩ := Option.bind_eq_some_iff.mp found
    obtain ⟨unit, -, found⟩ := Option.bind_eq_some_iff.mp found
    obtain ⟨extent, isRead, found⟩ := Option.bind_eq_some_iff.mp found
    obtain rfl := Option.some.inj found
    rw [Json.clauseExprs, Json.clauseExtents, isCase]
    exact ⟨.nil, .of_readField isRead⟩
  case h_4 content isCase =>
    obtain ⟨name, -, found⟩ := Option.bind_eq_some_iff.mp found
    obtain ⟨exclusion, -, found⟩ := Option.bind_eq_some_iff.mp found
    obtain rfl := Option.some.inj found
    rw [Json.clauseExprs, Json.clauseExtents, isCase]
    exact ⟨.nil, .nil⟩
  case h_5 => cases found

theorem reads_of_readClauses {clauses : List WindowClause}
    (found : readField (readList (readClause read)) "clauses" j = some clauses) :
    ReadFrom read (((j.fieldsOf ["clauses"]).flatMap Json.items).flatMap Json.clauseExprs)
        (clauses.flatMap WindowClause.exprs) ∧
      ReadFrom Frame.ofJson? (((j.fieldsOf ["clauses"]).flatMap Json.items).flatMap
        Json.clauseExtents) (clauses.flatMap WindowClause.extents) := by
  have each := (ReadFrom.of_readListField found).imp fun _ _ => reads_of_readClause
  exact ⟨List.rel_flatMap each fun _ _ clause => clause.1,
    List.rel_flatMap each fun _ _ clause => clause.2⟩

theorem reads_of_readOrder {order : Option Expr}
    (found : readOptional read "within_group" j = some order) :
    ReadFrom read ((j.fieldsOf ["within_group"]).filter fun order => !(order matches .null))
      order.toList := by
  unfold readOptional at found
  split at found
  case h_1 isAbsent =>
    obtain rfl := Option.some.inj found
    simp [Json.fieldsOf, isAbsent]
  case h_2 isNull =>
    obtain rfl := Option.some.inj found
    simp [Json.fieldsOf, isNull]
  case h_3 content notNull isThere =>
    obtain ⟨e, isRead, rfl⟩ := Option.map_eq_some_iff.mp found
    cases content with
    | null => exact (notNull rfl).elim
    | _ => simp [Json.fieldsOf, isThere, isRead]

/-- Of one level, the expressions directly in an expression and its own frames are read from their
documents. -/
theorem reads_of_ofContent? {name : String} {e : Expr}
    (found : ofContent? read name j = some e) :
    ReadFrom read (j.contentOperands name) e.operands ∧
      ReadFrom Frame.ofJson? (j.contentExtents name) e.ownFrames := by
  unfold ofContent? at found
  split at found
  case h_1 =>
    split at found
    case h_1 =>
      obtain rfl := Option.some.inj found
      exact ⟨.nil, .nil⟩
    case h_2 => cases found
  case h_2 | h_3 | h_4 =>
    obtain ⟨_, -, rfl⟩ := Option.map_eq_some_iff.mp found
    exact ⟨.nil, .nil⟩
  case h_13 =>
    obtain ⟨items, isRead, rfl⟩ := Option.map_eq_some_iff.mp found
    exact ⟨.of_readList isRead, .nil⟩
  case h_17 => cases found
  all_goals
    simp only [Option.bind_eq_bind, Option.bind_eq_some_iff, Option.pure_def,
      Option.some.injEq] at found
  case h_5 =>
    obtain ⟨name, -, args, ofArgs, rfl⟩ := found
    exact ⟨.of_readListField ofArgs, .nil⟩
  case h_6 =>
    obtain ⟨name, -, args, ofArgs, rfl⟩ := found
    have eachArg := ReadFrom.of_readListField ofArgs
    exact ⟨eachArg.filterMap_map fun _ _ => exists_of_readArgument, .nil⟩
  case h_7 | h_9 =>
    obtain ⟨left, ofLeft, _, -, op, -, right, ofRight, rfl⟩ := found
    exact ⟨.cons_readField ofLeft (.of_readField ofRight), .nil⟩
  case h_8 | h_16 =>
    obtain ⟨e, ofExpr, text, -, rfl⟩ := found
    exact ⟨.of_readField ofExpr, .nil⟩
  case h_10 =>
    obtain ⟨e, ofExpr, low, ofLow, high, ofHigh, symmetric, -, rfl⟩ := found
    exact ⟨.cons_readField ofExpr (.cons_readField ofLow (.of_readField ofHigh)), .nil⟩
  case h_11 =>
    obtain ⟨_, -, op, -, operands, ofOperands, rfl⟩ := found
    exact ⟨.of_readListField ofOperands, .nil⟩
  case h_12 =>
    obtain ⟨base, ofBase, path, -, asText, -, rfl⟩ := found
    exact ⟨.of_readField ofBase, .nil⟩
  case h_14 =>
    obtain ⟨name, -, args, ofArgs, distinct, -, order, ofOrder, rfl⟩ := found
    exact ⟨List.rel_append (ReadFrom.of_readListField ofArgs) (reads_of_readOrder ofOrder), .nil⟩
  case h_15 =>
    obtain ⟨function, ofFunction, clauses, ofClauses, rfl⟩ := found
    obtain ⟨ofExprs, ofExtents⟩ := reads_of_readClauses ofClauses
    exact ⟨List.rel_append (ReadFrom.of_readField ofFunction) ofExprs, ofExtents⟩

theorem reads_of_ofJsonWithin? {fuel : Nat} {e : Expr}
    (found : ofJsonWithin? (fuel + 1) j = some e) :
    ReadFrom (ofJsonWithin? fuel) j.storedOperands e.operands ∧
      ReadFrom Frame.ofJson? j.storedExtents e.ownFrames := by
  unfold ofJsonWithin? at found
  split at found
  case h_1 isStar =>
    obtain rfl := Option.some.inj found
    rw [Json.storedOperands, Json.storedExtents, isStar]
    exact ⟨.nil, .nil⟩
  case h_2 name content isCase =>
    rw [Json.storedOperands, Json.storedExtents, isCase]
    exact reads_of_ofContent? found
  case h_3 => cases found

/-! ## Frames that are read -/

theorem mem_frames_iff_within {fuel : Nat} {e : Expr} (found : ofJsonWithin? fuel j = some e)
    {f : Frame} :
    f ∈ e.frames ↔ ∃ extent, j.StoresExtent extent ∧ Frame.ofJson? extent = some f := by
  induction fuel generalizing j e with
  | zero => cases found
  | succ fuel ih =>
      obtain ⟨ofParts, ofOwn⟩ := reads_of_ofJsonWithin? found
      rw [frames_eq, List.mem_append, List.mem_flatMap]
      constructor
      · rintro (isOwn | ⟨c, isPart, inPart⟩)
        · obtain ⟨extent, inClauses, isRead⟩ := ofOwn.mem_iff.mp isOwn
          exact ⟨extent, .own inClauses, isRead⟩
        · obtain ⟨part, operand, isRead⟩ := ofParts.mem_iff.mp isPart
          obtain ⟨extent, stores, isFrame⟩ := (ih isRead).mp inPart
          exact ⟨extent, .inside operand stores, isFrame⟩
      · rintro ⟨extent, stores, isFrame⟩
        cases stores with
        | own inClauses => exact .inl (ofOwn.mem_iff.mpr ⟨extent, inClauses, isFrame⟩)
        | inside operand stores =>
            obtain ⟨c, isPart, isRead⟩ := ofParts.exists_of_mem operand
            exact .inr ⟨c, isPart, (ih isRead).mpr ⟨extent, stores, isFrame⟩⟩

/-- The frames of an expression that is read are those that are stored in its document, at any
depth. -/
theorem mem_frames_iff {e : Expr} (found : ofStored? j = some e) {f : Frame} :
    f ∈ e.frames ↔ ∃ extent, j.StoresExtent extent ∧ Frame.ofJson? extent = some f :=
  mem_frames_iff_within found

/-! ## Frames in accepted expressions -/

/-- What an expression comes from: what is asked for over rows, with frames that were made in a
checked way, or the document in which the expression is stored. -/
inductive Origin where
  | built (schema : Schema) (s : Summary) (made : ∀ f ∈ s.frames, f.Made)
  | stored (j : Json)

namespace Origin

/-- Whether an expression comes from an origin. -/
def Yields : Origin → Expr → Prop
  | .built schema s _, e => s.Builds schema e
  | .stored j, e => ofStored? j = some e

/-- Whether a frame is given by an origin. -/
def Gives : Origin → Frame → Prop
  | .built _ s _, f => f ∈ s.frames
  | .stored j, f => ∃ extent, j.StoresExtent extent ∧ Frame.ofJson? extent = some f

theorem mem_frames_iff {origin : Origin} {e : Expr} (yields : origin.Yields e) {f : Frame} :
    f ∈ e.frames ↔ origin.Gives f := by
  cases origin with
  | built schema s made =>
      rw [Summary.frames_of_builds yields]
      rfl
  | stored j => exact Expr.mem_frames_iff yields

end Origin

/-- The frames of an expression are those that its origin gives.  They are all legal unless the
expression is read from a document that has an illegal one, and then they are not. -/
theorem frames_of_accepted {origin : Origin} {e : Expr} (yields : origin.Yields e) :
    (∀ f, f ∈ e.frames ↔ origin.Gives f) ∧
      ((∀ f ∈ e.frames, f.IsLegal) ↔ ∀ j, origin = .stored j →
        ∀ extent f, j.StoresExtent extent → Frame.ofJson? extent = some f → f.IsLegal) := by
  have given {f : Frame} : f ∈ e.frames ↔ origin.Gives f := Origin.mem_frames_iff yields
  refine ⟨fun f => given, ?_⟩
  simp only [given]
  cases origin with
  | built schema s made =>
      have legal : ∀ f, f ∈ s.frames → f.IsLegal := fun f isGiven => (made f isGiven).isLegal
      exact iff_of_true legal (by simp)
  | stored j =>
      constructor
      · rintro legal _ ⟨⟩ extent f stores isFrame
        exact legal f ⟨extent, stores, isFrame⟩
      · rintro legal f ⟨extent, stores, isFrame⟩
        exact legal j rfl extent f stores isFrame

/-- A sum over the last three rows, as it is built and as it is read. -/
theorem frames_of_last_rows :
    let schema : Schema := ⟨"employees", [⟨"salary", .integer⟩]⟩
    let f : Frame := ⟨.preceding 2, .currentRow⟩
    let s : Summary := .window (.aggregate (.sum (.plain "salary"))) (.next (.rows rfl f) .none)
    let e : Expr := .window (.aggregate "SUM" [.column "salary"] false none) [.frame .rows f]
    (∃ built, s.Builds schema built ∧ ∀ g ∈ built.frames, g.IsLegal) ∧
      ofStored? e.form.toJson = some e ∧
      ∃ extent, e.form.toJson.StoresExtent extent ∧ Frame.ofJson? extent = some f := by
  intro schema f s e
  have made : ∀ g ∈ s.frames, g.Made := by
    rintro g (_ | ⟨_, ⟨⟩⟩)
    exact .bounded (show Frame.of (.preceding 2) .currentRow = .ok f from rfl)
  have succeeds : ∃ built, s.build schema none = .ok built := ⟨_, rfl⟩
  obtain ⟨built, runs⟩ := succeeds
  have builds : (Origin.built schema s made).Yields built := .direct runs
  have legal := (frames_of_accepted builds).2.mpr nofun
  have own : e.frames = [f] := by
    simp [e, frames_eq, ownFrames, operands, children, WindowClause.extents, WindowClause.exprs]
  have readBack : (Origin.stored e.form.toJson).Yields e := by
    rw [Origin.Yields, ofStored?_form]
    simp [e, floats_eq, ownFloats, operands, children, WindowClause.exprs]
  have isStored := ((frames_of_accepted readBack).1 f).mp (by simp [own])
  exact ⟨⟨built, builds, legal⟩, readBack, isStored⟩

/-- A frame that no checked way accepts is read from a document and written out. -/
theorem backward_frame_is_read :
    let e : Expr := .window (.aggregate "SUM" [.column "salary"] false none)
      [.frame .rows ⟨.unboundedFollowing, .unboundedPreceding⟩]
    Frame.of .unboundedFollowing .unboundedPreceding =
        .error (.invalidFrame .startsUnboundedFollowing) ∧
      ofStored? e.form.toJson = some e ∧
      (∃ f ∈ e.frames, ¬f.IsLegal) ∧
      e.sql = "SUM(salary) OVER (ROWS BETWEEN UNBOUNDED FOLLOWING AND UNBOUNDED PRECEDING)" := by
  intro e
  have own : e.frames = [⟨.unboundedFollowing, .unboundedPreceding⟩] := by
    simp [e, frames_eq, ownFrames, operands, children, WindowClause.extents, WindowClause.exprs]
  have readBack : ofStored? e.form.toJson = some e := by
    rw [ofStored?_form]
    simp [e, floats_eq, ownFloats, operands, children, WindowClause.exprs]
  refine ⟨rfl, readBack, ?_, by rfl⟩
  rw [own]
  decide

end Expr

end SqlCompose
