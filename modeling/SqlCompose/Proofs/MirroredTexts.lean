/-
# Mirrored comparisons

A text can be compared with a column from either side, for `'2021-01-05' < hired_at` says the same
as `hired_at > '2021-01-05'`.  So the text should be treated alike in both: read as a value of the
type of the column, or cast to it, or refused if it is malformed.

It is not.  A text takes a type only on the right of the column; on the left it is bound as the text
that it is, whatever the column, and nothing is refused.  So the two sides agree for the columns
that keep their texts, and for no others (`Statement.compile_mirrored`).

The rest of the two statements is the same, and so is what is written and bound around the
comparison: an expression has a context in the statement (`Template.IsContext`).
-/

import SqlCompose.Proofs.MalformedTexts

namespace SqlCompose

/-- The comparison that says the same with its sides exchanged. -/
def Comparison.mirror? : Comparison → Option Comparison
  | .eq => some .eq
  | .ne => some .ne
  | .lt => some .gt
  | .lte => some .gte
  | .gt => some .lt
  | .gte => some .lte
  | _ => none

/-! ## Contexts -/

namespace Template

/-- Whether what is put into a template is written in it between two templates that do not depend
on it, and bound between their values. -/
def IsContext (context : Template → Template) : Prop :=
  ∃ front back : Template, ∀ t,
    (context t).values = front.values ++ t.values ++ back.values ∧
      ∀ name bound, Piece.spell name ((context t).pieces bound) =
        Piece.spell name (front.pieces bound) ++ Piece.spell name (t.pieces (bound + front.size)) ++
          Piece.spell name (back.pieces (bound + front.size + t.size))

namespace IsContext

variable {context : Template → Template}

theorem hole : IsContext fun t => t :=
  ⟨.text "", .text "", fun t => by simp [pieces, Piece.spell]⟩

theorem behind (first : Template) (isContext : IsContext context) :
    IsContext fun t => first ++ context t := by
  obtain ⟨front, back, around⟩ := isContext
  refine ⟨first ++ front, back, fun t => ?_⟩
  obtain ⟨values, text⟩ := around t
  simp [values, text, size, Nat.add_assoc, String.append_assoc]

theorem before (isContext : IsContext context) (last : Template) :
    IsContext fun t => context t ++ last := by
  obtain ⟨front, back, around⟩ := isContext
  refine ⟨front, back ++ last, fun t => ?_⟩
  obtain ⟨values, text⟩ := around t
  simp [values, text, size, Nat.add_assoc, String.append_assoc]

theorem separated (separator : String) (ts us : List Template) :
    IsContext fun t => .separated separator (ts ++ t :: us) := by
  induction ts with
  | nil =>
      cases us with
      | nil => exact hole
      | cons next rest =>
          exact (hole.before (.text separator)).before (.separated separator (next :: rest))
  | cons first rest ih =>
      cases rest with
      | nil => exact ih.behind (first ++ .text separator)
      | cons next rest => exact ih.behind (first ++ .text separator)

end IsContext

end Template

/-! ## One criterion among others -/

namespace Expr

variable {schema : Schema}

/-- The expression that all of some expressions are met. -/
def conjunction : List Expr → Expr
  | [] => .always
  | [single] => single
  | exprs => .logical .and exprs

theorem typed_conjunction (es : List Expr) :
    (conjunction es).typed schema = conjunction <$> es.mapM (typed schema) := by
  match es with
  | [] => rfl
  | [single] =>
      rw [conjunction, List.mapM_cons, List.mapM_nil]
      cases single.typed schema <;> rfl
  | first :: second :: rest =>
      change (do return logical .and (← typedOperands schema (first :: second :: rest))) = _
      rw [typedOperands_eq, List.mapM_cons, List.mapM_cons]
      cases first.typed schema with
      | error => rfl
      | ok => cases second.typed schema with
        | error => rfl
        | ok => cases rest.mapM (typed schema) <;> rfl

theorem template_conjunction {es : List Expr} (several : 2 ≤ es.length) :
    (conjunction es).template =
      .separated " AND " (es.map fun e => .bracketed e.isCompoundLogical e.template) := by
  match es with
  | first :: second :: rest => exact template_logical .and first second rest

/-- What needs no parentheses is written among others as it is written alone. -/
theorem isContext_conjunction (es fs : List Expr) :
    ∃ context, Template.IsContext context ∧ ∀ e : Expr, e.isCompoundLogical = false →
      (conjunction (es ++ e :: fs)).template = context e.template := by
  by_cases alone : es = [] ∧ fs = []
  · obtain ⟨rfl, rfl⟩ := alone
    exact ⟨_, .hole, fun e _ => rfl⟩
  · have several (e : Expr) : 2 ≤ (es ++ e :: fs).length := by
      rw [← List.length_eq_zero_iff, ← List.length_eq_zero_iff] at alone
      rw [List.length_append, List.length_cons]
      omega
    refine ⟨_, .separated " AND " (es.map fun e => .bracketed e.isCompoundLogical e.template)
      (fs.map fun e => .bracketed e.isCompoundLogical e.template), fun e single => ?_⟩
    rw [template_conjunction (several e), List.map_append, List.map_cons, single]
    rfl

end Expr

namespace Criteria

/-- Criteria with a condition between others. -/
def around (before behind : List (String × Criterion)) (key : String) (condition : Condition) :
    Criteria :=
  ⟨before ++ (key, .built fun _ => condition) :: behind⟩

theorem expr_around (before behind : List (String × Criterion)) (key : String)
    (condition : Condition) :
    (around before behind key condition).expr =
      .conjunction ((mk before).exprs ++ condition.expr :: (mk behind).exprs) := by
  have exprs : (around before behind key condition).exprs =
      (mk before).exprs ++ condition.expr :: (mk behind).exprs := by
    simp [Criteria.exprs, around, Criterion.expr]
  rw [← exprs]
  rfl

end Criteria

namespace Statement

variable (schema : Schema) (s : Statement)

/-- The statement with other criteria. -/
def withCriteria (criteria : Criteria) : Statement → Statement
  | .select selections _ => .select selections criteria
  | .update assignments _ => .update assignments criteria
  | .delete _ => .delete criteria

/-- What a statement selects or assigns. -/
def listedParts : Statement → Except Error (List (String × Expr))
  | .select selections _ => selections.mapM (selected schema)
  | .update assignments _ =>
    if assignments.isEmpty then throw (.emptyClause "update_where")
    else assignments.mapM (assignedPart schema)
  | .delete _ => .ok []

theorem parts_withCriteria (criteria : Criteria) :
    (s.withCriteria criteria).parts schema =
      (do return ⟨← s.listedParts schema, ← predicate schema criteria⟩) := by
  cases s with
  | select | delete => rfl
  | update assignments =>
      rw [withCriteria, parts, listedParts]
      split <;> rfl

/-- The conditions of a statement are typed from left to right, each by itself. -/
theorem parts_around (before behind : List (String × Criterion)) (key : String)
    (condition : Condition) :
    (s.withCriteria (.around before behind key condition)).parts schema = (do
      let listed ← s.listedParts schema
      let front ← (Criteria.mk before).exprs.mapM (Expr.typed schema)
      let e ← condition.expr.typed schema
      let back ← (Criteria.mk behind).exprs.mapM (Expr.typed schema)
      return ⟨listed, some (.conjunction (front ++ e :: back))⟩) := by
  have isPredicate : predicate schema (.around before behind key condition) =
      some <$> (Criteria.around before behind key condition).expr.typed schema :=
    if_neg (by simp [Criteria.around])
  rw [parts_withCriteria, isPredicate, Criteria.expr_around, Expr.typed_conjunction]
  simp

/-- What stands in the conditions of a statement is written and bound between what stands before
and behind it. -/
theorem isContext_template (listed : List (String × Expr)) (front back : List Expr) :
    ∃ context, Template.IsContext context ∧ ∀ criteria (e : Expr), e.isCompoundLogical = false →
      (s.withCriteria criteria).template schema
        ⟨listed, some (.conjunction (front ++ e :: back))⟩ = context e.template := by
  obtain ⟨context, isContext, inConjunction⟩ := Expr.isContext_conjunction front back
  refine ⟨_, (((isContext.behind (.text " WHERE ")).behind (.text (s.opening schema) ++
    .separated ", " (listed.map listedTemplate) ++ .text (s.middle schema))).before
      (.text s.closing)), ?_⟩
  intro criteria e single
  rw [← inConjunction e single]
  cases s <;> rfl

/-- What is found for a statement around a condition. -/
structure Surroundings (before behind : List (String × Criterion)) (listed : List (String × Expr))
    (front back : List Expr) : Prop where
  listed : s.listedParts schema = .ok listed
  front : (Criteria.mk before).exprs.mapM (Expr.typed schema) = .ok front
  back : (Criteria.mk behind).exprs.mapM (Expr.typed schema) = .ok back

section Surroundings

variable {schema s} {before behind : List (String × Criterion)} {key : String}
  {condition : Condition} {listed : List (String × Expr)} {front back : List Expr} {e : Expr}

theorem parts_around_eq_ok_iff {p : Parts} :
    (s.withCriteria (.around before behind key condition)).parts schema = .ok p ↔
      ∃ listed front back e, Surroundings schema s before behind listed front back ∧
        condition.expr.typed schema = .ok e ∧
        p = ⟨listed, some (.conjunction (front ++ e :: back))⟩ := by
  simp only [parts_around, bind_eq_ok_iff, pure_eq_ok_iff]
  constructor
  · rintro ⟨listed, foundListed, front, typedFront, e, typed, back, typedBack, rfl⟩
    exact ⟨listed, front, back, e, ⟨foundListed, typedFront, typedBack⟩, typed, rfl⟩
  · rintro ⟨listed, front, back, e, found, typed, rfl⟩
    exact ⟨listed, found.listed, front, found.front, e, typed, back, found.back, rfl⟩

/-- A statement is compiled if its condition is typed and what is around it is found. -/
theorem exists_compile_around_iff :
    (∃ query, (s.withCriteria (.around before behind key condition)).compile schema = .ok query) ↔
      (∃ listed front back, Surroundings schema s before behind listed front back) ∧
        ∃ e, condition.expr.typed schema = .ok e := by
  obtain ⟨query, compiles⟩ :=
    exists_compile_eq_map schema (s.withCriteria (.around before behind key condition))
  simp only [compiles, map_eq_ok_iff, parts_around_eq_ok_iff]
  constructor
  · rintro ⟨_, _, ⟨listed, front, back, e, found, typed, rfl⟩, rfl⟩
    exact ⟨⟨listed, front, back, found⟩, e, typed⟩
  · rintro ⟨⟨listed, front, back, found⟩, e, typed⟩
    exact ⟨_, _, ⟨listed, front, back, e, found, typed, rfl⟩, rfl⟩

/-- A condition that is refused decides the error if nothing before it is refused. -/
theorem compile_around_of_refused {fault : Error}
    (found : Surroundings schema s before behind listed front back)
    (refused : condition.expr.typed schema = .error fault) :
    (s.withCriteria (.around before behind key condition)).compile schema = .error fault := by
  obtain ⟨query, compiles⟩ :=
    exists_compile_eq_map schema (s.withCriteria (.around before behind key condition))
  rw [compiles, parts_around, found.listed, found.front, refused]
  rfl

theorem Surroundings.unique {listed' : List (String × Expr)} {front' back' : List Expr}
    (found : Surroundings schema s before behind listed front back)
    (found' : Surroundings schema s before behind listed' front' back') :
    listed' = listed ∧ front' = front ∧ back' = back :=
  ⟨Except.ok.inj (found'.listed.symm.trans found.listed),
    Except.ok.inj (found'.front.symm.trans found.front),
    Except.ok.inj (found'.back.symm.trans found.back)⟩

/-- What is written and bound around a condition does not depend on it, apart from the number of
its values. -/
theorem Surroundings.exists_around
    (found : Surroundings schema s before behind listed front back) :
    ∃ opening closing first rest, ∀ key (condition : Condition) (e : Expr) (query : Query),
      condition.expr.typed schema = .ok e → e.isCompoundLogical = false → e.template.size = 1 →
        (s.withCriteria (.around before behind key condition)).compile schema = .ok query →
          query.sql =
              opening ++ Piece.spell placeholder (e.template.pieces first.length) ++ closing ∧
            query.params = first ++ e.template.values ++ rest := by
  obtain ⟨context, ⟨first, rest, around⟩, isTemplate⟩ :=
    isContext_template schema s listed front back
  refine ⟨Piece.spell placeholder (first.pieces 0),
    Piece.spell placeholder (rest.pieces (first.size + 1)), first.values, rest.values, ?_⟩
  intro key condition e query typed single one compiled
  obtain ⟨p, isParts, spelled⟩ := spelledBy_of_compile compiled
  obtain ⟨_, _, _, _, found', typed', rfl⟩ := parts_around_eq_ok_iff.mp isParts
  obtain ⟨rfl, rfl, rfl⟩ := found.unique found'
  obtain rfl := Except.ok.inj (typed.symm.trans typed')
  have isTemplate := isTemplate (.around before behind key condition) e single
  obtain ⟨values, text⟩ := around e.template
  constructor
  · rw [spelled.sql, isTemplate, text, one, Nat.zero_add]
    rfl
  · rw [spelled.params, ← values, ← isTemplate, values_template]

end Surroundings

end Statement

/-! ## The two sides of a comparison -/

namespace Expr

variable {schema : Schema} {c : Column} {op : Comparison} (name text : String)

/-- A text before a column is bound as it is. -/
theorem written_textFirst (noList : op.takesList = false) (k : Nat) :
    (compare (.literal (.text text)) op (.column name)).template.values = [.text text] ∧
      Piece.spell placeholder
          ((compare (.literal (.text text)) op (.column name)).template.pieces k) =
        placeholder (k + 1) ++ " " ++ op.symbol ++ " " ++ Identifier.quoteQualified name := by
  simp [template, Value.template, isInfix, Template.bracketed, noList, Template.values,
    Template.pieces, Piece.spell, String.append_assoc]

/-- A text behind a column is typed. -/
theorem typed_textLast (declared : (column name).declaredColumn? schema = some c) :
    (compare (.column name) op (.literal (.text text))).typed schema =
      compare (.column name) op <$> c.typedText text := by
  have read : typedRight schema (column name) (.literal (.text text)) = c.typedText text := by
    simp [typedRight, declared, Column.typedValue]
  rw [typed, read]
  rfl

/-- A text behind a column is bound and written as the column has it. -/
theorem written_textLast {e : Expr} (noList : op.takesList = false)
    (typed : c.typedText text = .ok e) (k : Nat) :
    ∃ bound, (⟨.text text, some c⟩ : Slot).Binds bound ∧
      (compare (.column name) op e).template.values = [bound] ∧
      Piece.spell placeholder ((compare (.column name) op e).template.pieces k) =
        Identifier.quoteQualified name ++ " " ++ op.symbol ++ " " ++
          Slot.spell ⟨.text text, some c⟩ (placeholder (k + 1)) := by
  have retyped : Template.Retyped [⟨.text text, some c⟩]
      (compare (.column name) op (.literal (.text text))).template
      (compare (.column name) op e).template :=
    retyped_compare op rfl (v := .text text) typed
  obtain ⟨bound, others, binds, none, isValues⟩ := List.forall₂_cons_left_iff.mp retyped.binds
  obtain rfl := List.forall₂_nil_left_iff.mp none
  refine ⟨bound, binds, isValues, ?_⟩
  have spelled := retyped.spell_pieces placeholder
    (fun _ => Slot.spell ⟨.text text, some c⟩ (placeholder (k + 1))) k
  rw [spelled]
  · simp [template, constantTemplate, Value.template, isInfix, Template.bracketed, noList,
      Template.pieces, Piece.spell, String.append_assoc]
  · intro i inRange
    obtain rfl : i = 0 := by simpa using inRange
    rfl

end Expr

namespace Statement

theorem noList_of_mirror? {op op' : Comparison} (mirrored : op.mirror? = some op') :
    op.takesList = false ∧ op'.takesList = false := by
  cases op <;> cases mirrored <;> exact ⟨rfl, rfl⟩

section Sides

variable {schema : Schema} {s : Statement} {before behind : List (String × Criterion)}
  {key name text : String} {c : Column} {op : Comparison}
  {listed : List (String × Expr)} {front back : List Expr}

/-- A text before a column is never refused. -/
theorem exists_compile_textFirst_iff :
    (∃ query, (s.withCriteria (.around before behind key
        (Predicate.comparing (.literal (.text text)) op (.scalar (.column name))))).compile schema =
          .ok query) ↔
      ∃ listed front back, Surroundings schema s before behind listed front back :=
  exists_compile_around_iff.trans (and_iff_left ⟨_, rfl⟩)

/-- A text behind a column is refused if it is malformed. -/
theorem exists_compile_textLast_iff
    (declared : (Expr.column name).declaredColumn? schema = some c) :
    (∃ query, (s.withCriteria (.around before behind key
        (Predicate.comparing (.scalar (.column name)) op (.literal (.text text))))).compile schema =
          .ok query) ↔
      (∃ listed front back, Surroundings schema s before behind listed front back) ∧
        ∀ fault, ¬ c.Rejects text fault := by
  have wellFormed : (∃ e, c.typedText text = .ok e) ↔ ∀ fault, ¬ c.Rejects text fault := by
    simpa [TypedText.demand, TypedText.IsMalformed] using (c.enforces_typedText text).ok_iff
  refine exists_compile_around_iff.trans (and_congr_right fun _ => ?_)
  rw [← wellFormed]
  change (∃ e, (Expr.compare (.column name) op (.literal (.text text))).typed schema = .ok e) ↔ _
  rw [Expr.typed_textLast name text declared]
  cases c.typedText text <;> simp

theorem compile_textLast_of_rejects
    (declared : (Expr.column name).declaredColumn? schema = some c)
    (found : Surroundings schema s before behind listed front back) {fault : LiteralFault}
    (rejects : c.Rejects text fault) :
    (s.withCriteria (.around before behind key
      (Predicate.comparing (.scalar (.column name)) op (.literal (.text text))))).compile schema =
        .error (.invalidCriterion c.name (.malformed text fault)) := by
  have refused : c.typedText text = .error (c.malformed text fault) :=
    Column.typedText_eq_error_iff.mpr ⟨fault, rejects, rfl⟩
  apply compile_around_of_refused found
  exact (Expr.typed_textLast name text declared).trans (by rw [refused]; rfl)

/-- A text before a column and one behind it are written between the same texts and bound between
the same values. -/
theorem Surroundings.exists_mirrored {op' : Comparison}
    (found : Surroundings schema s before behind listed front back)
    (declared : (Expr.column name).declaredColumn? schema = some c)
    (mirrored : op.mirror? = some op') :
    ∃ opening closing first rest,
      (∀ query, (s.withCriteria (.around before behind key
          (Predicate.comparing (.literal (.text text)) op (.scalar (.column name))))).compile
            schema = .ok query →
        query.sql = opening ++ placeholder (first.length + 1) ++ " " ++ op.symbol ++ " " ++
            Identifier.quoteQualified name ++ closing ∧
          query.params = first ++ .text text :: rest) ∧
      ∀ query, (s.withCriteria (.around before behind key
          (Predicate.comparing (.scalar (.column name)) op' (.literal (.text text))))).compile
            schema = .ok query →
        ∃ bound place, c.Receives text bound (placeholder (first.length + 1)) place ∧
          query.sql = opening ++ Identifier.quoteQualified name ++ " " ++ op'.symbol ++ " " ++
            place ++ closing ∧
          query.params = first ++ bound :: rest := by
  obtain ⟨noList, noList'⟩ := noList_of_mirror? mirrored
  obtain ⟨opening, closing, first, rest, written⟩ := found.exists_around
  refine ⟨opening, closing, first, rest, ?_, ?_⟩
  · intro query compiled
    obtain ⟨values, sql⟩ := Expr.written_textFirst name text noList first.length
    obtain ⟨isSql, params⟩ := written key _
      (.compare (.literal (.text text)) op (.column name)) query rfl rfl
      (congrArg List.length values) compiled
    rw [isSql, sql, params, values]
    exact ⟨by simp only [String.append_assoc], by simp⟩
  · intro query compiled
    obtain ⟨-, e, typed⟩ := exists_compile_around_iff.mp ⟨query, compiled⟩
    obtain ⟨e, read, rfl⟩ :=
      map_eq_ok_iff.mp ((Expr.typed_textLast name text declared).symm.trans typed)
    obtain ⟨bound, binds, values, sql⟩ := Expr.written_textLast name text noList' read first.length
    obtain ⟨isSql, params⟩ := written key _ _ query typed rfl (congrArg List.length values) compiled
    refine ⟨bound, _, Column.receives_of_binds (first.length + 1) binds, ?_⟩
    rw [isSql, sql, params, values]
    exact ⟨by simp only [String.append_assoc], by simp⟩

end Sides

/-- A text is compared with a column from the left, and in another statement from the right, all
else being the same.  The one with the text on the right is refused if the text is malformed for the
column, and then the error names the column; the one with the text on the left is not.  If both are
compiled, they have the same text and the same values around the comparison.  On the left the
text is bound as it is and nothing stands around its placeholder, and on the right it is what the
column receives, so that the two agree for the columns of the types text, json and jsonb only. -/
theorem compile_mirrored (schema : Schema) (s : Statement)
    (before behind : List (String × Criterion)) (key : String) {name : String} {c : Column}
    (declared : (Expr.column name).declaredColumn? schema = some c) {op op' : Comparison}
    (mirrored : op.mirror? = some op') (text : String) :
    let given := fun condition => s.withCriteria (.around before behind key condition)
    let left := given (Predicate.comparing (.literal (.text text)) op (.scalar (.column name)))
    let right := given (Predicate.comparing (.scalar (.column name)) op' (.literal (.text text)))
    ((∃ query, right.compile schema = .ok query) ↔
        (∃ query, left.compile schema = .ok query) ∧ ∀ fault, ¬ c.Rejects text fault) ∧
      (∀ query fault, left.compile schema = .ok query → c.Rejects text fault →
        right.compile schema = .error (.invalidCriterion c.name (.malformed text fault))) ∧
      ∀ queryLeft queryRight, left.compile schema = .ok queryLeft →
        right.compile schema = .ok queryRight →
        ∃ opening closing first rest bound place,
          queryLeft.sql = opening ++ placeholder (first.length + 1) ++ " " ++ op.symbol ++ " " ++
            Identifier.quoteQualified name ++ closing ∧
          queryRight.sql = opening ++ Identifier.quoteQualified name ++ " " ++ op'.symbol ++ " " ++
            place ++ closing ∧
          queryLeft.params = first ++ .text text :: rest ∧
          queryRight.params = first ++ bound :: rest ∧
          c.Receives text bound (placeholder (first.length + 1)) place ∧
          (queryLeft.params = queryRight.params ∧ place = placeholder (first.length + 1) ↔
            c.type = .text ∨ c.type = .json ∨ c.type = .jsonb) := by
  refine ⟨?_, ?_, ?_⟩
  · rw [exists_compile_textFirst_iff]
    exact exists_compile_textLast_iff declared
  · intro query fault compiled rejects
    obtain ⟨listed, front, back, found⟩ := exists_compile_textFirst_iff.mp ⟨query, compiled⟩
    exact compile_textLast_of_rejects declared found rejects
  · intro queryLeft queryRight compiledLeft compiledRight
    obtain ⟨listed, front, back, found⟩ := exists_compile_textFirst_iff.mp ⟨queryLeft, compiledLeft⟩
    obtain ⟨opening, closing, first, rest, ofLeft, ofRight⟩ :=
      found.exists_mirrored declared mirrored
    obtain ⟨sqlLeft, paramsLeft⟩ := ofLeft queryLeft compiledLeft
    obtain ⟨bound, place, received, sqlRight, paramsRight⟩ := ofRight queryRight compiledRight
    refine ⟨opening, closing, first, rest, bound, place, sqlLeft, sqlRight, paramsLeft,
      paramsRight, received, ?_⟩
    rw [paramsLeft, paramsRight, ← received.bare_iff]
    simp [eq_comm]

/-- A span of time is cast on the right of its column only, and a text that is no day is refused on
the right of its column, behind a criterion that is accepted. -/
theorem span_and_day_behind_their_columns :
    (∃ opening closing place, place ≠ "$1" ∧
      "DELETE FROM employees WHERE $1 <= shift RETURNING *" =
        opening ++ "$1" ++ " " ++ "<=" ++ " " ++ "shift" ++ closing ∧
      "DELETE FROM employees WHERE shift >= CAST($1 AS interval) RETURNING *" =
        opening ++ "shift" ++ " " ++ ">=" ++ " " ++ place ++ closing) ∧
      ((delete .empty).withCriteria (.around [("id", .equals (.int 4))] [] "hired_at"
        (Predicate.comparing (.scalar (.column "hired_at")) .gt (.literal (.text "soon"))))).compile
          ⟨"employees", [⟨"id", .bigint⟩, ⟨"hired_at", .date⟩]⟩ =
        .error (.invalidCriterion "hired_at" (.malformed "soon" (.date .wrongCharacter))) := by
  constructor
  · have declared : (Expr.column "shift").declaredColumn? ⟨"employees", [⟨"shift", .interval⟩]⟩ =
        some ⟨"shift", .interval⟩ := rfl
    have mirrored : Comparison.lte.mirror? = some .gte := rfl
    obtain ⟨-, -, written⟩ := compile_mirrored ⟨"employees", [⟨"shift", .interval⟩]⟩
      (delete .empty) [] [] "shift" declared mirrored "02:00:00"
    obtain ⟨opening, closing, first, rest, bound, place, textLeft, textRight, params, -, -, same⟩ :=
      written ⟨"DELETE FROM employees WHERE $1 <= shift RETURNING *", [.text "02:00:00"]⟩
        ⟨"DELETE FROM employees WHERE shift >= CAST($1 AS interval) RETURNING *",
          [.text "02:00:00"]⟩ rfl rfl
    obtain rfl : first = [] := by
      cases first with
      | nil => rfl
      | cons => simp at params
    refine ⟨opening, closing, place, fun bare => ?_, textLeft, textRight⟩
    exact absurd (same.mp ⟨rfl, bare⟩) (by decide)
  · have declared : (Expr.column "hired_at").declaredColumn?
        ⟨"employees", [⟨"id", .bigint⟩, ⟨"hired_at", .date⟩]⟩ = some ⟨"hired_at", .date⟩ := rfl
    have mirrored : Comparison.lt.mirror? = some .gt := rfl
    have unread : Date.read "soon" = .error .wrongCharacter := rfl
    obtain ⟨-, refused, -⟩ := compile_mirrored
      ⟨"employees", [⟨"id", .bigint⟩, ⟨"hired_at", .date⟩]⟩ (delete .empty)
      [("id", .equals (.int 4))] [] "hired_at" declared mirrored "soon"
    have compiled : ((delete .empty).withCriteria (.around [("id", .equals (.int 4))] [] "hired_at"
        (Predicate.comparing (.literal (.text "soon")) .lt (.scalar (.column "hired_at"))))).compile
          ⟨"employees", [⟨"id", .bigint⟩, ⟨"hired_at", .date⟩]⟩ =
        .ok ⟨"DELETE FROM employees WHERE id = $1 AND $2 < hired_at RETURNING *",
          [.int 4, .text "soon"]⟩ := rfl
    exact refused _ (.date .wrongCharacter) compiled ⟨rfl, unread⟩

/-- The same day is bound as a text before its column and as a date behind it. -/
theorem day_before_its_column :
    ∃ queryLeft queryRight day,
      (delete ⟨[("hired_at", .built fun column => Predicate.comparing
        (.literal (.text "2021-01-05")) .lt (.scalar (.column column)))]⟩).compile
          ⟨"employees", [⟨"hired_at", .date⟩]⟩ = .ok queryLeft ∧
      (delete ⟨[("hired_at", .built fun column => Predicate.comparing
        (.scalar (.column column)) .gt (.literal (.text "2021-01-05")))]⟩).compile
          ⟨"employees", [⟨"hired_at", .date⟩]⟩ = .ok queryRight ∧
      queryLeft.params = [.text "2021-01-05"] ∧ queryRight.params = [.date day] ∧
      queryLeft.params ≠ queryRight.params := by
  have read : Date.read "2021-01-05" = .ok ⟨2021, 1, 5, by decide, by decide⟩ := rfl
  have parts : (delete ⟨[("hired_at", .built fun column => Predicate.comparing
      (.scalar (.column column)) .gt (.literal (.text "2021-01-05")))]⟩).parts
        ⟨"employees", [⟨"hired_at", .date⟩]⟩ =
      .ok ⟨[], some (.compare (.column "hired_at") .gt
        (.literal (.date ⟨2021, 1, 5, by decide, by decide⟩)))⟩ := calc
    _ = (do
      let day ← (⟨"hired_at", .date⟩ : Column).typedText "2021-01-05"
      return Parts.mk [] (some (.compare (.column "hired_at") .gt day))) := rfl
    _ = _ := by
      rw [Column.typedText, read]
      rfl
  obtain ⟨queryRight, compiled, spelled⟩ := spelledBy_of_parts parts
  have params : queryRight.params = [.date ⟨2021, 1, 5, by decide, by decide⟩] := spelled.params
  refine ⟨⟨"DELETE FROM employees WHERE $1 < hired_at RETURNING *", [.text "2021-01-05"]⟩,
    queryRight, _, rfl, compiled, rfl, params, ?_⟩
  rw [params]
  simp

end Statement

end SqlCompose
