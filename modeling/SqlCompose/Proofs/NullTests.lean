/-
# Tests for NULL

A comparison with the constant NULL is never true, so one by = or != is written as the test for
NULL that was meant by it.  To say that none of them is left in a statement, each is replaced
by the test in the tree of the expression (`Expr.nullTested`).  No comparison with NULL is in that
tree, and the statement should be written as if it had been given the tree.

It is, but for the comparisons that have NULL on their left and something else on their right:
they are written as they stand.  What is written for such a comparison is shorter than the test, so
the text of a whole statement tells whether it holds one (`Statement.compile_tests_null`).
-/

import SqlCompose.Proofs.Shapes

namespace SqlCompose

/-! ## Comparisons with NULL -/

/-- The test for NULL that is meant by a comparison with it. -/
def Comparison.nullTest? : Comparison → Option Comparison
  | .eq => some .is
  | .ne => some .isNot
  | _ => none

namespace Expr

/-- Whether the expression is the constant NULL. -/
def isNull : Expr → Bool
  | .literal .null => true
  | _ => false

/-- Whether the expression compares something with NULL by = or !=. -/
def ComparesNull : Expr → Prop
  | .compare left op right =>
    op.nullTest?.isSome = true ∧ (left.isNull = true ∨ right.isNull = true)
  | _ => False

/-- Whether the expression compares NULL by = or != with something that is not NULL itself. -/
def LeadsWithNull : Expr → Prop
  | .compare left op right =>
    op.nullTest?.isSome = true ∧ left.isNull = true ∧ right.isNull = false
  | _ => False

/-- A comparison, or the test for NULL if it compares something with NULL by = or !=. -/
def testingNull (left : Expr) (op : Comparison) (right : Expr) : Expr :=
  match op.nullTest? with
  | some test =>
    if right.isNull then .compare left test (.literal .null)
    else if left.isNull then .compare right test (.literal .null)
    else .compare left op right
  | none => .compare left op right

mutual

/-- An expression with a test for NULL in place of every comparison with it.  Nothing is written of
the sides of a comparison that is decided at once, so they are left as they are. -/
def nullTested : Expr → Expr
  | .call name args => .call name (allNullTested args)
  | .keywordCall name args => .keywordCall name (argumentsNullTested args)
  | .binary left op right => .binary left.nullTested op right.nullTested
  | .cast e type => .cast e.nullTested type
  | .compare left op right =>
    if right.isDecided op then .compare left op right
    else testingNull left.nullTested op right.nullTested
  | .between e low high symmetric =>
    .between e.nullTested low.nullTested high.nullTested symmetric
  | .logical op operands => .logical op (allNullTested operands)
  | .jsonAccess base path asText => .jsonAccess base.nullTested path asText
  | .array items => .array (allNullTested items)
  | .aggregate name args distinct none => .aggregate name (allNullTested args) distinct none
  | .aggregate name args distinct (some order) =>
    .aggregate name (allNullTested args) distinct (some order.nullTested)
  | .window function clauses => .window function.nullTested (clausesNullTested clauses)
  | .aliased e name => .aliased e.nullTested name
  | .star => .star
  | .column name => .column name
  | .literal v => .literal v
  | .raw sql => .raw sql

def allNullTested : List Expr → List Expr
  | [] => []
  | e :: rest => e.nullTested :: allNullTested rest

def argumentsNullTested : List KeywordArgument → List KeywordArgument
  | [] => []
  | ⟨keyword, arg⟩ :: rest => ⟨keyword, arg.nullTested⟩ :: argumentsNullTested rest

def keysNullTested : List SortKey → List SortKey
  | [] => []
  | ⟨e, order⟩ :: rest => ⟨e.nullTested, order⟩ :: keysNullTested rest

def clausesNullTested : List WindowClause → List WindowClause
  | [] => []
  | clause :: rest => clauseNullTested clause :: clausesNullTested rest

def clauseNullTested : WindowClause → WindowClause
  | .partitionBy exprs => .partitionBy (allNullTested exprs)
  | .orderBy keys => .orderBy (keysNullTested keys)
  | .frame unit extent => .frame unit extent
  | .exclude exclusion => .exclude exclusion

end

theorem allNullTested_eq (es : List Expr) : allNullTested es = es.map nullTested := by
  induction es with
  | nil => rfl
  | cons e rest ih => rw [allNullTested, ih, List.map_cons]

theorem argumentsNullTested_eq (args : List KeywordArgument) :
    argumentsNullTested args = args.map fun a => ⟨a.keyword, a.arg.nullTested⟩ := by
  induction args with
  | nil => rfl
  | cons a rest ih =>
      obtain ⟨keyword, arg⟩ := a
      rw [argumentsNullTested, ih, List.map_cons]

theorem keysNullTested_eq (keys : List SortKey) :
    keysNullTested keys = keys.map fun key => ⟨key.expr.nullTested, key.order⟩ := by
  induction keys with
  | nil => rfl
  | cons key rest ih =>
      obtain ⟨e, order⟩ := key
      rw [keysNullTested, ih, List.map_cons]

theorem clausesNullTested_eq (clauses : List WindowClause) :
    clausesNullTested clauses = clauses.map clauseNullTested := by
  induction clauses with
  | nil => rfl
  | cons clause rest ih => rw [clausesNullTested, ih, List.map_cons]

theorem exprs_clauseNullTested (clause : WindowClause) :
    (clauseNullTested clause).exprs = clause.exprs.map nullTested := by
  cases clause with
  | partitionBy exprs => exact allNullTested_eq exprs
  | orderBy keys =>
      simp [clauseNullTested, WindowClause.exprs, keysNullTested_eq, Function.comp_def]
  | frame unit extent | exclude exclusion => rfl

theorem testingNull_eq_compare (left : Expr) (op : Comparison) (right : Expr) :
    ∃ left' op' right', testingNull left op right = compare left' op' right' := by
  unfold testingNull
  split
  · split_ifs <;> exact ⟨_, _, _, rfl⟩
  · exact ⟨_, _, _, rfl⟩

/-- A comparison stays one. -/
theorem nullTested_compare_eq (left : Expr) (op : Comparison) (right : Expr) :
    ∃ left' op' right', (compare left op right).nullTested = compare left' op' right' := by
  rw [nullTested]
  split_ifs
  · exact ⟨_, _, _, rfl⟩
  · exact testingNull_eq_compare _ _ _

theorem isInfix_nullTested (e : Expr) : e.nullTested.isInfix = e.isInfix := by
  cases e with
  | compare left op right =>
      obtain ⟨_, _, _, isCompare⟩ := nullTested_compare_eq left op right
      rw [isCompare]
      rfl
  | aggregate name args distinct withinGroup => cases withinGroup <;> rfl
  | _ => rfl

theorem isCompoundLogical_nullTested (e : Expr) :
    e.nullTested.isCompoundLogical = e.isCompoundLogical := by
  cases e with
  | compare left op right =>
      obtain ⟨_, _, _, isCompare⟩ := nullTested_compare_eq left op right
      rw [isCompare]
      rfl
  | logical op operands =>
      match operands with
      | [] | [_] | _ :: _ :: _ => rfl
  | aggregate name args distinct withinGroup => cases withinGroup <;> rfl
  | _ => rfl

theorem nullTested_eq_literal_iff (e : Expr) (v : Value) :
    e.nullTested = .literal v ↔ e = .literal v := by
  cases e with
  | compare left op right =>
      obtain ⟨_, _, _, isCompare⟩ := nullTested_compare_eq left op right
      simp [isCompare]
  | aggregate name args distinct withinGroup => cases withinGroup <;> simp [nullTested]
  | _ => simp [nullTested]

theorem exists_nullTested_eq_array_iff (e : Expr) :
    (∃ items, e.nullTested = .array items) ↔ ∃ items, e = .array items := by
  cases e with
  | compare left op right =>
      obtain ⟨_, _, _, isCompare⟩ := nullTested_compare_eq left op right
      simp [isCompare]
  | aggregate name args distinct withinGroup => cases withinGroup <;> simp [nullTested]
  | _ => simp [nullTested]

theorem isNull_iff (e : Expr) : e.isNull = true ↔ e = .literal .null := by
  cases e with
  | literal v => cases v <;> simp [isNull]
  | _ => simp [isNull]

theorem isNull_nullTested (e : Expr) : e.nullTested.isNull = e.isNull := by
  rw [Bool.eq_iff_iff, isNull_iff, isNull_iff, nullTested_eq_literal_iff]

/-! ## No comparison with NULL is left -/

theorem not_comparesNull_testingNull (left : Expr) (op : Comparison) (right : Expr) :
    ¬ (testingNull left op right).ComparesNull := by
  unfold testingNull
  split
  case h_1 test isTest =>
    have noTest : test.nullTest? = none := by
      cases op <;> cases isTest <;> rfl
    split_ifs with nullRight nullLeft
    · simp [ComparesNull, noTest]
    · simp [ComparesNull, noTest]
    · simp [ComparesNull, nullRight, nullLeft]
  case h_2 noTest => simp [ComparesNull, noTest]

theorem mem_children_testingNull {left right c : Expr} {op : Comparison}
    (child : c ∈ (testingNull left op right).children) :
    c = left ∨ c = right ∨ c = .literal .null := by
  have ofCompare {left' right' : Expr} {op' : Comparison}
      (child : c ∈ (compare left' op' right').children) : c = left' ∨ c = right' := by
    rw [children] at child
    split_ifs at child
    · cases child
    · exact List.mem_pair.mp child
  unfold testingNull at child
  split at child
  · split_ifs at child
    · exact (ofCompare child).imp_right .inr
    · exact .inr (ofCompare child)
    · exact (ofCompare child).imp_right .inl
  · exact (ofCompare child).imp_right .inl

/-- Only a membership is decided at once. -/
theorem nullTest?_of_isDecided {op : Comparison} {right : Expr}
    (decided : right.isDecided op = true) : op.nullTest? = none := by
  cases right with
  | literal v =>
      have takesList := ((isDecided_literal_iff op v).mp decided).1
      cases op <;> simp [Comparison.takesList] at takesList <;> rfl
  | _ => cases decided

theorem not_comparesNull_nullTested (e : Expr) : ¬ e.nullTested.ComparesNull := by
  cases e with
  | compare left op right =>
      rw [nullTested]
      split_ifs with decided
      · simp [ComparesNull, nullTest?_of_isDecided decided]
      · exact not_comparesNull_testingNull _ _ _
  | aggregate name args distinct withinGroup => cases withinGroup <;> exact id
  | _ => exact id

/-- The parts of an expression are tested for NULL one by one. -/
theorem children_nullTested {e : Expr} (noComparison : ∀ left op right, e ≠ compare left op right) :
    e.nullTested.children = e.children.map nullTested := by
  cases e with
  | compare left op right => exact (noComparison left op right rfl).elim
  | call name args | logical op args | array args =>
      simp [nullTested, children, allNullTested_eq]
  | keywordCall name args => simp [nullTested, children, argumentsNullTested_eq]
  | aggregate name args distinct withinGroup =>
      cases withinGroup <;> simp [nullTested, children, allNullTested_eq]
  | window function clauses =>
      simp [nullTested, children, clausesNullTested_eq, List.flatMap_map, exprs_clauseNullTested,
        List.map_flatMap]
  | _ => rfl

theorem mem_children_nullTested {e c : Expr} (child : c ∈ e.nullTested.children) :
    c = .literal .null ∨ ∃ d ∈ e.children, c = d.nullTested := by
  by_cases isComparison : ∃ left op right, e = compare left op right
  · obtain ⟨left, op, right, rfl⟩ := isComparison
    rw [nullTested] at child
    split_ifs at child with decided
    · simp [children, decided] at child
    · rw [children, if_neg decided]
      rcases mem_children_testingNull child with rfl | rfl | isNull
      · exact .inr ⟨left, List.mem_cons_self, rfl⟩
      · exact .inr ⟨right, List.mem_pair.mpr (.inr rfl), rfl⟩
      · exact .inl isNull
  · simp only [not_exists] at isComparison
    rw [children_nullTested isComparison] at child
    obtain ⟨d, inside, rfl⟩ := List.mem_map.mp child
    exact .inr ⟨d, inside, rfl⟩

theorem forall_written_nullTested (e : Expr) : ∀ d ∈ e.nullTested.written, ¬ d.ComparesNull := by
  induction e using children_induction with
  | step e ih =>
      rw [forall_mem_written]
      refine ⟨not_comparesNull_nullTested e, ?_⟩
      intro c child
      rcases mem_children_nullTested child with rfl | ⟨d, inside, rfl⟩
      · simp [written_eq (.literal _), children, ComparesNull]
      · exact ih d inside

end Expr

/-! ## Texts that may grow -/

namespace Template

/-- Whether one template is written as another, with the same values in the same places, and if
not, what is written for it is longer. -/
structure Stretches (kept : Prop) (t t' : Template) : Prop where
  values : t'.values = t.values
  same : kept → ∀ (name : Nat → String) (bound : Nat),
    Piece.spell name (t'.pieces bound) = Piece.spell name (t.pieces bound)
  longer : ¬ kept → ∀ (name : Nat → String) (bound : Nat),
    (Piece.spell name (t.pieces bound)).length < (Piece.spell name (t'.pieces bound)).length

namespace Stretches

variable {kept kept' : Prop} {t t' first first' second second' : Template}

theorem refl (t : Template) : Stretches True t t :=
  ⟨rfl, fun _ _ _ => rfl, fun never => (never trivial).elim⟩

theorem of_iff (stretches : Stretches kept t t') (same : kept' ↔ kept) : Stretches kept' t t' :=
  ⟨stretches.values, fun h => stretches.same (same.mp h),
    fun h => stretches.longer fun h' => h (same.mpr h')⟩

theorem size_eq (stretches : Stretches kept t t') : t'.size = t.size := by
  rw [size, stretches.values, size]

theorem length_le (stretches : Stretches kept t t') (name : Nat → String) (bound : Nat) :
    (Piece.spell name (t.pieces bound)).length ≤ (Piece.spell name (t'.pieces bound)).length := by
  by_cases isKept : kept
  · rw [stretches.same isKept]
  · exact (stretches.longer isKept name bound).le

/-- The text tells whether a template is written as the other. -/
theorem spell_eq_iff (stretches : Stretches kept t t') (name : Nat → String) (bound : Nat) :
    Piece.spell name (t'.pieces bound) = Piece.spell name (t.pieces bound) ↔ kept := by
  constructor
  · intro same
    by_contra notKept
    have grown := stretches.longer notKept name bound
    rw [same] at grown
    exact lt_irrefl _ grown
  · exact fun isKept => stretches.same isKept name bound

/-- Two texts in a row are kept if both are, and longer if one of them is. -/
theorem lengths_lt {a a' b b' : String} (first : a.length ≤ a'.length)
    (second : b.length ≤ b'.length) (one : a.length < a'.length ∨ b.length < b'.length) :
    (a ++ b).length < (a' ++ b').length := by
  rw [String.length_append, String.length_append]
  omega

theorem append (before : Stretches kept first first') (behind : Stretches kept' second second') :
    Stretches (kept ∧ kept') (first ++ second) (first' ++ second') where
  values := by rw [values_append, values_append, before.values, behind.values]
  same := by
    rintro ⟨keptBefore, keptBehind⟩ name bound
    rw [pieces_append, pieces_append, Piece.spell_append, Piece.spell_append,
      before.same keptBefore, before.size_eq, behind.same keptBehind]
  longer := by
    intro notKept name bound
    rw [pieces_append, pieces_append, Piece.spell_append, Piece.spell_append, before.size_eq]
    refine lengths_lt (before.length_le name _) (behind.length_le name _) ?_
    exact (not_and_or.mp notKept).imp (before.longer · name _) (behind.longer · name _)

theorem crossed (before : Stretches kept first first') (behind : Stretches kept' second second') :
    Stretches (kept ∧ kept') (.crossed first second) (.crossed first' second') where
  values := by rw [Template.values, Template.values, before.values, behind.values]
  same := by
    rintro ⟨keptBefore, keptBehind⟩ name bound
    rw [pieces, pieces, Piece.spell_append, Piece.spell_append, behind.size_eq,
      before.same keptBefore, behind.same keptBehind]
  longer := by
    intro notKept name bound
    rw [pieces, pieces, Piece.spell_append, Piece.spell_append, behind.size_eq]
    refine lengths_lt (before.length_le name _) (behind.length_le name _) ?_
    exact (not_and_or.mp notKept).imp (before.longer · name _) (behind.longer · name _)

theorem behind (sql : String) (inner : Stretches kept t t') :
    Stretches kept (.text sql ++ t) (.text sql ++ t') :=
  ((refl (.text sql)).append inner).of_iff (by simp)

theorem before (inner : Stretches kept t t') (sql : String) :
    Stretches kept (t ++ .text sql) (t' ++ .text sql) :=
  (inner.append (refl (.text sql))).of_iff (by simp)

theorem enclosed (opening : String) (inner : Stretches kept t t') (closing : String) :
    Stretches kept (.enclosed opening t closing) (.enclosed opening t' closing) :=
  (inner.behind opening).before closing

theorem bracketed (needed : Bool) (inner : Stretches kept t t') :
    Stretches kept (.bracketed needed t) (.bracketed needed t') := by
  cases needed with
  | false => exact inner
  | true => exact inner.enclosed "(" ")"

theorem separated {α : Type} {kept : α → Prop} {f g : α → Template} (separator : String)
    {as : List α} (each : ∀ a ∈ as, Stretches (kept a) (f a) (g a)) :
    Stretches (∀ a ∈ as, kept a) (.separated separator (as.map f))
      (.separated separator (as.map g)) := by
  induction as with
  | nil => exact (refl (.text "")).of_iff (by simp)
  | cons a rest ih =>
      rw [List.forall_mem_cons] at each
      have others := ih each.2
      cases rest with
      | nil => exact each.1.of_iff (by simp)
      | cons next rest =>
          exact ((each.1.before separator).append others).of_iff List.forall_mem_cons

/-- A template between two texts grows as the template does. -/
theorem of_enclosed {opening closing : String}
    (whole : Stretches kept (.enclosed opening t closing) (.enclosed opening t' closing)) :
    Stretches kept t t' where
  values := by simpa using whole.values
  same := by
    intro isKept name bound
    have same := whole.same isKept name bound
    simpa [Template.enclosed, pieces, Piece.spell] using same
  longer := by
    intro notKept name bound
    have grown := whole.longer notKept name bound
    simp [Template.enclosed, pieces, Piece.spell] at grown
    omega

/-- A text before a template is replaced by a longer one behind it. -/
theorem turned (inner : Stretches kept t t') {lead middle tail : String}
    (longer : (lead ++ middle).length < tail.length) :
    Stretches False (.text lead ++ .text middle ++ t) (t' ++ .text tail) where
  values := by simp [inner.values]
  same := False.elim
  longer := by
    intro _ name bound
    have grown := inner.length_le name bound
    rw [String.length_append] at longer
    have free : (text lead ++ text middle).size = 0 := rfl
    simp [pieces, Piece.spell, free]
    omega

end Stretches

end Template

/-! ## Comparisons are written as tests -/

namespace Expr

open Template (Stretches)

/-- What is written for a test for NULL, and for a comparison with NULL on its right. -/
theorem template_nullTest (e : Expr) {op test : Comparison} (isTest : op.nullTest? = some test) :
    (compare e op (.literal .null)).template =
        .bracketed e.isInfix e.template ++ .text (" " ++ test.symbol ++ " NULL") ∧
      (compare e test (.literal .null)).template =
        .bracketed e.isInfix e.template ++ .text (" " ++ test.symbol ++ " NULL") := by
  cases op <;> cases isTest <;> exact ⟨rfl, rfl⟩

/-- What is written for a comparison with NULL on its left. -/
theorem template_leadingNull {e : Expr} {op test : Comparison} (isTest : op.nullTest? = some test)
    (notNull : e.isNull = false) :
    (compare (.literal .null) op e).template =
      .text "NULL" ++ .text (" " ++ op.symbol ++ " ") ++ .bracketed e.isInfix e.template := by
  cases e with
  | literal v =>
      cases op <;> cases isTest <;> cases v <;> first | rfl | cases notNull
  | _ => cases op <;> cases isTest <;> rfl

section Writing

variable {σ : Type} (w : ValueWriter σ) (kept : σ) (e : Expr) {op test : Comparison}

theorem write_nullTest (isTest : op.nullTest? = some test) :
    (compare e test (.literal .null)).write w kept =
      (bracketed e.isInfix (e.write w kept).1 ++ " " ++ test.symbol ++ " NULL",
        (e.write w kept).2) := by
  rw [write_eq_template, (template_nullTest e isTest).2, write_eq_template]
  simp [bracketed, String.append_assoc, Template.map_run]

theorem write_trailingNull (isTest : op.nullTest? = some test) :
    (compare e op (.literal .null)).write w kept =
      (compare e test (.literal .null)).write w kept := by
  rw [write_eq_template, write_eq_template, (template_nullTest e isTest).1,
    (template_nullTest e isTest).2]

theorem write_leadingNull (isTest : op.nullTest? = some test) (notNull : e.isNull = false) :
    (compare (.literal .null) op e).write w kept =
      ("NULL" ++ (" " ++ op.symbol ++ " ") ++ bracketed e.isInfix (e.write w kept).1,
        (e.write w kept).2) := by
  rw [write_eq_template, template_leadingNull isTest notNull, write_eq_template]
  simp [bracketed, String.append_assoc, Template.map_run, -String.reduceAppend]

/-- What is written with NULL on the left is too short for the test. -/
theorem write_leadingNull_iff (isTest : op.nullTest? = some test) :
    (compare (.literal .null) op e).write w kept =
        (compare e test (.literal .null)).write w kept ↔
      e.isNull = true := by
  constructor
  · intro same
    by_contra notNull
    rw [Bool.not_eq_true] at notNull
    rw [write_leadingNull w kept e isTest notNull, write_nullTest w kept e isTest] at same
    have lengths := congrArg (fun written => written.1.length) same
    have longer : ("NULL" ++ (" " ++ op.symbol ++ " ")).length <
        (" " ++ test.symbol ++ " NULL").length := by
      cases op <;> cases isTest <;> decide
    simp only [String.length_append] at lengths longer
    omega
  · intro isNull
    obtain rfl := (isNull_iff e).mp isNull
    exact write_trailingNull w kept (.literal .null) isTest

end Writing

theorem stretches_constant {left left' : Expr} {op : Comparison} {v : Value} {kept : Prop}
    (undecided : (literal v).isDecided op = false) (sameBrackets : left'.isInfix = left.isInfix)
    (inner : Stretches kept left.template left'.template) :
    Stretches kept (constantTemplate left left.template op v)
      (constantTemplate left' left'.template op v) := by
  have bracketed := inner.bracketed left.isInfix
  unfold constantTemplate
  rw [sameBrackets]
  split
  case h_5 | h_6 => cases undecided
  case h_1 | h_2 | h_3 | h_4 => exact bracketed.before _
  all_goals
    exact ((bracketed.before _).append (.refl _)).of_iff (by simp)

theorem stretches_compare {left right : Expr} {op : Comparison} {keptLeft keptRight : Prop}
    (undecided : right.isDecided op = false)
    (ofLeft : Stretches keptLeft left.template left.nullTested.template)
    (ofRight : Stretches keptRight right.template right.nullTested.template) :
    Stretches (keptLeft ∧ keptRight) (compare left op right).template
      (compare left.nullTested op right.nullTested).template := by
  have before := (ofLeft.bracketed left.isInfix).before (" " ++ op.symbol ++ " ")
  by_cases isConstant : ∃ v, right = .literal v
  · obtain ⟨v, rfl⟩ := isConstant
    have kept : keptRight := (ofRight.spell_eq_iff (fun _ => "") 0).mp rfl
    have whole := stretches_constant undecided (isInfix_nullTested left) ofLeft
    exact whole.of_iff (and_iff_left kept)
  by_cases isArray : ∃ items, right = .array items
  · obtain ⟨items, rfl⟩ := isArray
    simp only [nullTested, template] at ofRight
    simp only [nullTested, template, isInfix_nullTested]
    exact before.append (ofRight.of_enclosed.enclosed _ _)
  · have testedNoConstant : ¬ ∃ v, right.nullTested = .literal v := by
      simpa only [nullTested_eq_literal_iff] using isConstant
    have testedNoArray := mt (exists_nullTested_eq_array_iff right).mp isArray
    rw [template_compare left op isConstant isArray,
      template_compare _ op testedNoConstant testedNoArray, isInfix_nullTested, isInfix_nullTested]
    exact before.append (ofRight.bracketed _)

/-- A comparison with NULL on its right is written as the test, and one with NULL on its left alone
is not. -/
theorem stretches_testingNull {left right : Expr} {op : Comparison} {keptLeft keptRight : Prop}
    (undecided : right.isDecided op = false)
    (ofLeft : Stretches keptLeft left.template left.nullTested.template)
    (ofRight : Stretches keptRight right.template right.nullTested.template) :
    Stretches (¬ (compare left op right).LeadsWithNull ∧ keptLeft ∧ keptRight)
      (compare left op right).template
      (testingNull left.nullTested op right.nullTested).template := by
  have compared := stretches_compare undecided ofLeft ofRight
  unfold testingNull
  split
  case h_2 noTest =>
    exact compared.of_iff (by simp [LeadsWithNull, noTest])
  case h_1 test isTest =>
    rw [isNull_nullTested, isNull_nullTested]
    split_ifs with nullRight nullLeft
    · obtain rfl := (isNull_iff right).mp nullRight
      have kept : keptRight := (ofRight.spell_eq_iff (fun _ => "") 0).mp rfl
      rw [(template_nullTest left isTest).1, (template_nullTest left.nullTested isTest).2,
        isInfix_nullTested]
      exact ((ofLeft.bracketed _).before _).of_iff (by simp [LeadsWithNull, nullRight, kept])
    · obtain rfl := (isNull_iff left).mp nullLeft
      rw [Bool.not_eq_true] at nullRight
      rw [template_leadingNull isTest nullRight, (template_nullTest right.nullTested isTest).2,
        isInfix_nullTested]
      have leads : (compare (.literal .null) op right).LeadsWithNull :=
        ⟨by rw [isTest]; rfl, rfl, nullRight⟩
      have longer : ("NULL" ++ (" " ++ op.symbol ++ " ")).length <
          (" " ++ test.symbol ++ " NULL").length := by
        cases op <;> cases isTest <;> decide
      have turned := (ofRight.bracketed right.isInfix).turned longer
      exact turned.of_iff (by simp [leads])
    · exact compared.of_iff (by simp [LeadsWithNull, nullLeft])

/-- Whether no comparison that is written in the expression has NULL on its left alone. -/
def TestsNull (e : Expr) : Prop :=
  ∀ d ∈ e.written, ¬ d.LeadsWithNull

theorem testsNull_iff (e : Expr) :
    e.TestsNull ↔ ¬ e.LeadsWithNull ∧ ∀ c ∈ e.children, c.TestsNull :=
  forall_mem_written

/-- The clauses of a window are written from their parts as before. -/
theorem stretches_clause {clause : WindowClause}
    (each : ∀ c ∈ clause.exprs, Stretches c.TestsNull c.template c.nullTested.template) :
    Stretches (∀ c ∈ clause.exprs, c.TestsNull) (clauseTemplate clause)
      (clauseTemplate (clauseNullTested clause)) := by
  cases clause with
  | partitionBy exprs =>
      simp only [clauseNullTested, clauseTemplate, templates_eq, allNullTested_eq, List.map_map]
      exact (Stretches.separated ", " each).behind _
  | orderBy keys =>
      simp only [WindowClause.exprs, List.forall_mem_map] at each ⊢
      simp only [clauseNullTested, clauseTemplate, keyTemplates_eq, keysNullTested_eq,
        List.map_map]
      exact (Stretches.separated ", " fun key inside => (each key inside).before _).behind _
  | frame unit extent | exclude exclusion =>
      exact (Stretches.refl _).of_iff (by simp [WindowClause.exprs])

/-- What is no comparison is written from its parts as before. -/
theorem stretches_of_children {e : Expr} (noComparison : ∀ left op right, e ≠ compare left op right)
    (each : ∀ c ∈ e.children, Stretches c.TestsNull c.template c.nullTested.template) :
    Stretches (∀ c ∈ e.children, c.TestsNull) e.template e.nullTested.template := by
  cases e with
  | compare left op right => exact (noComparison left op right rfl).elim
  | star | column name | literal v | raw sql =>
      exact (Stretches.refl _).of_iff (by simp [children])
  | call name items | array items =>
      simp only [nullTested, template, templates_eq, allNullTested_eq, List.map_map]
      exact (Stretches.separated ", " each).enclosed _ _
  | keywordCall name args =>
      simp only [children, List.forall_mem_map] at each ⊢
      simp only [nullTested, template, argumentTemplates_eq, argumentsNullTested_eq, List.map_map]
      refine (Stretches.separated " " fun a inside => ?_).enclosed _ _
      obtain ⟨_ | keyword, arg⟩ := a
      · exact each _ inside
      · exact (each _ inside).behind _
  | binary left op right =>
      have ofLeft := each left List.mem_cons_self
      have ofRight := each right (List.mem_pair.mpr (.inr rfl))
      simp only [nullTested, template, isInfix_nullTested]
      have sides := ((ofLeft.bracketed left.isInfix).before (" " ++ op.symbol ++ " ")).append
        (ofRight.bracketed right.isInfix)
      exact sides.of_iff (by simp [children])
  | between inner low high symmetric =>
      simp only [children, List.forall_mem_cons] at each
      obtain ⟨ofInner, ofLow, ofHigh, -⟩ := each
      simp only [nullTested, template, isInfix_nullTested]
      have opened := ((ofInner.bracketed inner.isInfix).before
        (if symmetric then " BETWEEN SYMMETRIC " else " BETWEEN ")).append
          (ofLow.bracketed low.isInfix)
      have range := (opened.before " AND ").append (ofHigh.bracketed high.isInfix)
      exact range.of_iff (by simp [children, and_assoc])
  | cast inner type =>
      have ofInner := each inner List.mem_cons_self
      exact (ofInner.enclosed _ _).of_iff (by simp [children])
  | jsonAccess base path asText =>
      have ofBase := each base List.mem_cons_self
      simp only [nullTested, template, isInfix_nullTested]
      exact ((ofBase.bracketed _).before _).of_iff (by simp [children])
  | aliased inner name =>
      have ofInner := each inner List.mem_cons_self
      exact (ofInner.before _).of_iff (by simp [children])
  | logical op operands =>
      rcases operands with _ | ⟨first, _ | ⟨second, rest⟩⟩
      · exact (Stretches.refl _).of_iff (by simp [children])
      · exact (each first List.mem_cons_self).of_iff (by simp [children])
      · have list := Stretches.separated (" " ++ op.keyword ++ " ")
          fun c (inside : c ∈ first :: second :: rest) =>
            (each c inside).bracketed c.isCompoundLogical
        rw [nullTested, allNullTested_eq, List.map_cons, List.map_cons, template_logical,
          template_logical, ← List.map_cons, ← List.map_cons, List.map_map]
        simpa only [children, Function.comp_def, isCompoundLogical_nullTested] using list
  | aggregate name args distinct withinGroup =>
      have list := Stretches.separated ", " fun c (inside : c ∈ args) =>
        each c (List.mem_append_left _ inside)
      have call := list.enclosed (name ++ "(" ++ (if distinct then "DISTINCT " else "")) ")"
      cases withinGroup with
      | none =>
          simp only [nullTested, template, templates_eq, allNullTested_eq, List.map_map]
          exact call.of_iff (by simp [children])
      | some order =>
          have ofOrder := each order (List.mem_append_right _ (Option.mem_toList.mpr rfl))
          simp only [nullTested, template, templates_eq, allNullTested_eq, List.map_map]
          refine Stretches.of_iff (call.append (ofOrder.enclosed _ _)) ?_
          simp [children, or_imp, forall_and]
  | window function clauses =>
      have ofFunction := each function List.mem_cons_self
      have list := Stretches.separated " " fun c (inside : c ∈ clauses) =>
        stretches_clause fun e inClause =>
          each e (List.mem_cons_of_mem _ (List.mem_flatMap.mpr ⟨c, inside, inClause⟩))
      simp only [nullTested, template, clauseTemplates_eq, clausesNullTested_eq, List.map_map]
      refine Stretches.of_iff (ofFunction.crossed (list.enclosed " OVER (" ")")) ?_
      rw [children, List.forall_mem_cons, List.forall_mem_flatMap]

/-- An expression is written as the one with tests for NULL, unless a comparison that is written in
it has NULL on its left alone. -/
theorem stretches_nullTested (e : Expr) :
    Stretches e.TestsNull e.template e.nullTested.template := by
  induction e using children_induction with
  | step e ih =>
      by_cases isComparison : ∃ left op right, e = compare left op right
      · obtain ⟨left, op, right, rfl⟩ := isComparison
        rw [nullTested]
        split_ifs with decided
        · have noTest := nullTest?_of_isDecided decided
          refine (Stretches.refl _).of_iff ?_
          rw [testsNull_iff]
          simp [children, decided, LeadsWithNull, noTest]
        · rw [children, if_neg decided] at ih
          have whole := stretches_testingNull (Bool.not_eq_true _ ▸ decided)
            (ih left List.mem_cons_self) (ih right (List.mem_pair.mpr (.inr rfl)))
          refine whole.of_iff ?_
          rw [testsNull_iff]
          simp [children, decided]
      · simp only [not_exists] at isComparison
        refine (stretches_of_children isComparison ih).of_iff ?_
        rw [testsNull_iff, and_iff_right]
        intro leads
        cases e with
        | compare left op right => exact isComparison left op right rfl
        | _ => exact leads

end Expr

/-! ## Statements -/

namespace Statement

open Template (Stretches)

variable {schema : Schema}

/-- The expressions of a statement with tests for NULL in place of the comparisons with it. -/
def Parts.nullTested (p : Parts) : Parts :=
  ⟨p.listed.map fun part => (part.1, part.2.nullTested), p.predicate.map Expr.nullTested⟩

theorem exprs_nullTested (p : Parts) : p.nullTested.exprs = p.exprs.map Expr.nullTested := by
  cases p with
  | mk listed predicate =>
      cases predicate <;> simp [Parts.exprs, Parts.nullTested, Function.comp_def]

theorem stretches_template (s : Statement) (p : Parts) :
    Stretches (∀ e ∈ p.exprs, e.TestsNull) (s.template schema p)
      (s.template schema p.nullTested) := by
  have listed := Stretches.separated ", " fun part (_ : part ∈ p.listed) =>
    (Expr.stretches_nullTested part.2).behind part.1
  have condition : Stretches (∀ e ∈ p.predicate.toList, e.TestsNull)
      (conditionTemplate p.predicate) (conditionTemplate p.nullTested.predicate) := by
    cases isPredicate : p.predicate with
    | none =>
        rw [Parts.nullTested, isPredicate]
        exact (Stretches.refl _).of_iff (by simp)
    | some e =>
        rw [Parts.nullTested, isPredicate]
        exact ((Expr.stretches_nullTested e).behind " WHERE ").of_iff (by simp)
  have opened := (listed.behind (s.opening schema)).before (s.middle schema)
  have whole := (opened.append condition).before s.closing
  rw [template, template, Parts.nullTested, List.map_map]
  refine whole.of_iff ?_
  rw [Parts.exprs, List.forall_mem_append, List.forall_mem_map]

/-- A comparison of an operand with NULL by = or != is written as the test for NULL if the operand
stands on the left, whatever becomes of the values.  If NULL stands on the left the comparison is
written as it is, unless the operand is NULL as well.

A statement is written as if it had been given tests for NULL in place of all these comparisons,
with constants and with placeholders, exactly if no comparison in it has NULL on its left
alone.  The same values are bound in any case, and in the expressions with the tests no
comparison with NULL is left. -/
theorem compile_tests_null {schema : Schema} {s : Statement} {query : Query}
    (compiled : s.compile schema = .ok query) :
    (∀ (x : Operand) (op test : Comparison), op.nullTest? = some test →
      ∀ {σ : Type} (w : ValueWriter σ) (kept : σ),
        let tested := (Expr.compare x.expr test (.literal .null)).write w kept
        tested = (Expr.bracketed x.expr.isInfix (x.expr.write w kept).1 ++ " " ++ test.symbol ++
          " NULL", (x.expr.write w kept).2) ∧
        (Predicate.comparing x op (.literal .null)).expr.write w kept = tested ∧
        ((Predicate.comparing (.literal .null) op x).expr.write w kept = tested ↔
          x.expr.isNull = true)) ∧
      ∃ p, s.parts schema = .ok p ∧
        s.SpelledBy schema query p ((s.template schema p).pieces 0) ∧
        (∀ e ∈ p.nullTested.exprs, ∀ d ∈ e.written, ¬ d.ComparesNull) ∧
        query.params = p.nullTested.exprs.flatMap Expr.values ∧
        ∀ name, Piece.spell name ((s.template schema p).pieces 0) =
            Piece.spell name ((s.template schema p.nullTested).pieces 0) ↔
          ∀ e ∈ p.exprs, ∀ d ∈ e.written, ¬ d.LeadsWithNull := by
  constructor
  · intro x op test isTest σ w kept
    exact ⟨Expr.write_nullTest w kept x.expr isTest, Expr.write_trailingNull w kept x.expr isTest,
      Expr.write_leadingNull_iff w kept x.expr isTest⟩
  · obtain ⟨p, found, spelled⟩ := spelledBy_of_compile compiled
    have stretches : Stretches _ (s.template schema p) (s.template schema p.nullTested) :=
      stretches_template s p
    refine ⟨p, found, spelled, ?_, ?_, ?_⟩
    · rw [exprs_nullTested, List.forall_mem_map]
      exact fun e _ => e.forall_written_nullTested
    · rw [← values_template schema s, stretches.values, values_template]
      exact spelled.params
    · exact fun name => eq_comm.trans (stretches.spell_eq_iff name 0)

/-- Those who have no manager are deleted: the comparison with NULL on its right is the test. -/
theorem delete_without_manager :
    (Predicate.comparing (.scalar (.column "manager_id")) .eq (.literal .null)).expr.sql =
        "manager_id IS NULL" ∧
      ∃ query p,
        (delete ⟨[("manager_id", .equals .null)]⟩).compile
          ⟨"employees", [⟨"manager_id", .bigint⟩]⟩ = .ok query ∧
        query.sql = "DELETE FROM employees WHERE manager_id IS NULL RETURNING *" ∧
        (delete ⟨[("manager_id", .equals .null)]⟩).parts
          ⟨"employees", [⟨"manager_id", .bigint⟩]⟩ = .ok p ∧
        query.sql = Piece.spell placeholder
          (((delete ⟨[("manager_id", .equals .null)]⟩).template
            ⟨"employees", [⟨"manager_id", .bigint⟩]⟩ p.nullTested).pieces 0) := by
  have compiled : (delete ⟨[("manager_id", .equals .null)]⟩).compile
      ⟨"employees", [⟨"manager_id", .bigint⟩]⟩ =
        .ok ⟨"DELETE FROM employees WHERE manager_id IS NULL RETURNING *", []⟩ := rfl
  obtain ⟨comparisons, p, found, spelled, -, -, same_iff⟩ := compile_tests_null compiled
  obtain ⟨tested, trailing, -⟩ :=
    comparisons (.scalar (.column "manager_id")) .eq .is rfl ValueWriter.constants ()
  refine ⟨congrArg Prod.fst (trailing.trans tested), ?_⟩
  refine ⟨_, p, compiled, rfl, found, spelled.sql.trans ((same_iff placeholder).mpr ?_)⟩
  obtain rfl : ⟨[], some (.compare (.column "manager_id") .eq (.literal .null))⟩ = p :=
    Except.ok.inj found
  simp [Parts.exprs, Expr.written_eq (.compare _ _ _), Expr.written_eq (.column _),
    Expr.written_eq (.literal _), Expr.children, Expr.isDecided, Expr.LeadsWithNull, Expr.isNull]

/-- The same with NULL on the left: no one is deleted. -/
theorem delete_with_leading_null :
    ∃ query, (delete ⟨[("manager_id", .built fun column =>
        Predicate.comparing (.literal .null) .eq (.scalar (.column column)))]⟩).compile
          ⟨"employees", [⟨"manager_id", .bigint⟩]⟩ = .ok query ∧
      query.sql = "DELETE FROM employees WHERE NULL = manager_id RETURNING *" ∧
      query.sql ≠ "DELETE FROM employees WHERE manager_id IS NULL RETURNING *" :=
  ⟨_, rfl, rfl, by decide⟩

end Statement

end SqlCompose
