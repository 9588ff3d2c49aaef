/-
# Operands keep their grouping

Whether an operand takes parentheses is decided by its kind alone, whatever operator it
belongs to and on which side it stands.  That is enough for everything but steps into
documents.  These are operators as well, and they bind no tighter than the operators on
texts and arrays and less tight than arithmetic, but an access is written bare wherever
it stands.  So the sum of an access and an interval is read as an access by a sum.

An expression is compared with what its text is read as.  Its tree has an operator for
every operator in the text and a group for every pair of parentheses; calls, casts by
name, lists and all else that is closed in itself is an operand as a whole.  A constant
may bring a sign or a cast of its own, where a placeholder is an operand.
-/

import SqlCompose.Proofs.Layout
import SqlCompose.Proofs.Written
import SqlCompose.Scalar.Call

namespace SqlCompose

open Decimal Grammar

namespace Grammar

/-- The text of a number: a sign before an unsigned one, if it is negative. -/
def signed (sql : String) : SyntaxTree Template :=
  match sql.toList with
  | '-' :: digits => .negated (.atom (.text (String.ofList digits)))
  | _ => .atom (.text sql)

end Grammar

/-- The tree of a step into a document. -/
def PathSegment.tree : PathSegment → SyntaxTree Template
  | .key name => .atom (.text (Text.quoteLiteral name))
  | .index i => signed (Numeral.text i.toInt)

namespace JsonPath

/-- The tree of a chain of arrows behind the tree of a document. -/
def arrowsTree (asText : Bool) (base : SyntaxTree Template) : List PathSegment → SyntaxTree Template
  | [] => base
  | [last] => .operation base (.arrow asText) last.tree
  | segment :: next :: rest =>
    arrowsTree asText (.operation base (.arrow false) segment.tree) (next :: rest)

/-- The tree of a path behind the tree of a document. -/
def accessTree (path : JsonPath) (asText : Bool) (base : SyntaxTree Template) :
    SyntaxTree Template :=
  if path.isRoot then
    if asText then .operation base .path (.atom (.text "'\x7b\x7d'")) else base
  else arrowsTree asText base path.segments

end JsonPath

namespace Value

/-- The tree of a value that is written as a constant. -/
def constantTree : Value → SyntaxTree Template
  | .int n => signed (Numeral.text n.toInt)
  | .float x => signed (FloatStyle.plain.text x)
  | .json document => .cast (.atom (.text (Text.quoteLiteral document.text))) "jsonb"
  | .uuid u => .cast (.atom (.text ("'" ++ u.text ++ "'"))) "uuid"
  | v => .atom v.template

/-- The tree of a value that a placeholder stands for. -/
def placeholderTree (v : Value) : SyntaxTree Template :=
  .atom v.template

end Value

namespace Expr

section Trees

variable (leaf : Value → SyntaxTree Template)

/-- The tree of a comparison with a constant. -/
def comparisonTree (left : Expr) (leftTree : SyntaxTree Template) (op : Comparison)
    (right : Value) : SyntaxTree Template :=
  match op, right with
  | .eq, .null | .is, .null =>
    .operation (leftTree.bracketed left.isInfix) (.comparison .is) (.atom (.text "NULL"))
  | .ne, .null | .isNot, .null =>
    .operation (leftTree.bracketed left.isInfix) (.comparison .isNot) (.atom (.text "NULL"))
  | .isIn, .array [] | .notIn, .array [] =>
    .atom (constantTemplate left left.template op right)
  | .isIn, .array items | .notIn, .array items =>
    .operation (leftTree.bracketed left.isInfix) (.comparison op)
      (.atom (.bracketed true (.separated ", " (Value.templates items))))
  | _, _ =>
    .operation (leftTree.bracketed left.isInfix) (.comparison op)
      ((leaf right).bracketed op.takesList)

/-- The tree of an expression, given those of the values in it. -/
def tree : Expr → SyntaxTree Template
  | .literal value => leaf value
  | .binary left op right =>
    .operation (left.tree.bracketed left.isInfix) (.arithmetic op)
      (right.tree.bracketed right.isInfix)
  | .compare left op right =>
    match right with
    | .literal value => comparisonTree leaf left left.tree op value
    | .array items =>
      .operation (left.tree.bracketed left.isInfix) (.comparison op)
        (.atom (.enclosed (if op.takesList then "(" else "ARRAY[")
          (.separated ", " (templates items)) (if op.takesList then ")" else "]")))
    | right =>
      .operation (left.tree.bracketed left.isInfix) (.comparison op)
        (right.tree.bracketed (op.takesList || right.isInfix))
  | .between expr low high symmetric =>
    .range (expr.tree.bracketed expr.isInfix) (low.tree.bracketed low.isInfix)
      (high.tree.bracketed high.isInfix) symmetric
  | .jsonAccess base path asText => path.accessTree asText (base.tree.bracketed base.isInfix)
  | e => .atom e.template

end Trees

end Expr

/-! ## The text of the tree is the text of the expression -/

section Writing

variable {σ : Type} (w : ValueWriter σ)

namespace Grammar

@[simp]
theorem write_signed (sql : String) : ((signed sql).template id).write w = pure sql := by
  unfold signed
  split
  case h_1 digits negative =>
    have whole : sql = "-" ++ String.ofList digits := by
      apply String.toList_injective
      simp [negative]
    simp [SyntaxTree.template, whole]
  case h_2 => simp [SyntaxTree.template]

end Grammar

@[simp]
theorem PathSegment.write_tree (segment : PathSegment) :
    (segment.tree.template id).write w = pure segment.literal := by
  cases segment <;> simp [PathSegment.tree, PathSegment.literal, SyntaxTree.template]

namespace JsonPath

theorem write_arrowsTree (asText : Bool) (base : SyntaxTree Template)
    (segments : List PathSegment) :
    ((arrowsTree asText base segments).template id).write w =
      (base.template id ++ .text (arrows asText segments)).write w := by
  induction segments generalizing base with
  | nil => simp [arrowsTree, arrows]
  | cons segment rest ih =>
      cases rest with
      | nil => simp [arrowsTree, arrows, SyntaxTree.template, Operator.symbol, String.append_assoc]
      | cons next rest =>
          simp [arrowsTree, arrows, ih, SyntaxTree.template, Operator.symbol, String.append_assoc]

theorem write_accessTree (path : JsonPath) (asText : Bool) (base : SyntaxTree Template) :
    ((path.accessTree asText base).template id).write w =
      (base.template id ++ .text (path.access asText)).write w := by
  unfold accessTree access
  split
  · have joined : " #>> " ++ "'\x7b\x7d'" = " #>> '\x7b\x7d'" := rfl
    cases asText <;> simp [SyntaxTree.template, Operator.symbol, String.append_assoc, joined]
  · exact write_arrowsTree w asText base path.segments

end JsonPath

namespace Expr

variable {w} {leaf : Value → SyntaxTree Template}

theorem write_comparisonTree
    (spelled : ∀ v, ((leaf v).template id).write w = v.template.write w)
    (left : Expr) (op : Comparison) (right : Value) {leftTree : SyntaxTree Template}
    (leftSpelled : (leftTree.template id).write w = left.template.write w) :
    ((comparisonTree leaf left leftTree op right).template id).write w =
      (constantTemplate left left.template op right).write w := by
  have isNull : " " ++ (Comparison.is.symbol ++ " NULL") = " IS NULL" := rfl
  have isNotNull : " " ++ (Comparison.isNot.symbol ++ " NULL") = " IS NOT NULL" := rfl
  unfold comparisonTree constantTemplate
  split <;>
    simp [SyntaxTree.template, Operator.symbol, leftSpelled, spelled, isNull, isNotNull,
      String.append_assoc]

theorem write_compareTree (left : Expr) (op : Comparison) (right : Expr)
    (noConstant : ∀ v, right ≠ .literal v) (noArray : ∀ items, right ≠ .array items)
    (leftSpelled : ((left.tree leaf).template id).write w = left.template.write w)
    (rightSpelled : ((right.tree leaf).template id).write w = right.template.write w) :
    (((compare left op right).tree leaf).template id).write w =
      (compare left op right).template.write w := by
  simp [tree, template, SyntaxTree.template, Operator.symbol, leftSpelled, rightSpelled,
    String.append_assoc]

/-- Written, the tree of an expression is the expression. -/
theorem write_tree (spelled : ∀ v, ((leaf v).template id).write w = v.template.write w) :
    ∀ e : Expr, ((e.tree leaf).template id).write w = e.template.write w
  | .literal value => spelled value
  | .binary left op right => by
      simp [tree, template, SyntaxTree.template, Operator.symbol, write_tree spelled left,
        write_tree spelled right, String.append_assoc]
  | .compare left op right => by
      have leftSpelled := write_tree spelled left
      have rightSpelled := write_tree spelled right
      cases right with
      | literal value =>
          simpa [tree, template] using write_comparisonTree spelled left op value leftSpelled
      | array items =>
          simp [tree, template, SyntaxTree.template, Operator.symbol, leftSpelled,
            String.append_assoc]
      | _ =>
          exact write_compareTree left op _ (by simp) (by simp) leftSpelled rightSpelled
  | .between expr low high symmetric => by
      simp [tree, template, SyntaxTree.template, Operator.symbol, Connective.keyword,
        write_tree spelled expr, write_tree spelled low, write_tree spelled high,
        String.append_assoc]
  | .jsonAccess base path asText => by
      simp [tree, template, JsonPath.write_accessTree, write_tree spelled base]
  | .star | .column _ | .raw _ | .call _ _ | .keywordCall _ _ | .cast _ _ | .logical _ _
  | .array _ | .aggregate _ _ _ _ | .window _ _ | .aliased _ _ => rfl

end Expr

end Writing

/-! ## Where the grouping is kept -/

namespace Grammar

theorem level_signed (sql : String) : 9 ≤ (signed sql).level := by
  unfold signed
  split <;> simp [SyntaxTree.level]

theorem wellGrouped_signed (sql : String) : (signed sql).WellGrouped := by
  unfold signed
  split <;> simp [SyntaxTree.WellGrouped, SyntaxTree.level]

end Grammar

theorem PathSegment.level_tree (segment : PathSegment) : 9 ≤ segment.tree.level := by
  cases segment with
  | key name => simp [PathSegment.tree, SyntaxTree.level]
  | index i => exact level_signed _

theorem PathSegment.wellGrouped_tree (segment : PathSegment) : segment.tree.WellGrouped := by
  cases segment with
  | key name => trivial
  | index i => exact wellGrouped_signed _

namespace JsonPath

/-- A step into a document is grouped well if the document is one that binds as tight. -/
theorem wellGrouped_arrow {base : SyntaxTree Template} (tight : 6 ≤ base.level) (asText : Bool)
    (segment : PathSegment) :
    (SyntaxTree.operation base (.arrow asText) segment.tree).WellGrouped ↔ base.WellGrouped := by
  have above := segment.level_tree
  simp only [SyntaxTree.WellGrouped, Operator.level, segment.wellGrouped_tree, and_true]
  constructor
  · rintro ⟨-, -, grouped⟩
    exact grouped
  · intro grouped
    exact ⟨tight, by omega, grouped⟩

theorem wellGrouped_arrowsTree (asText : Bool) (segments : List PathSegment)
    {base : SyntaxTree Template} (tight : 6 ≤ base.level) :
    (arrowsTree asText base segments).WellGrouped ↔ base.WellGrouped := by
  induction segments generalizing base with
  | nil => rfl
  | cons segment rest ih =>
      cases rest with
      | nil => exact wellGrouped_arrow tight asText segment
      | cons next rest =>
          rw [arrowsTree, ih (by simp [SyntaxTree.level, Operator.level]),
            wellGrouped_arrow tight false segment]

theorem level_arrowsTree (asText : Bool) {segments : List PathSegment} (steps : segments ≠ [])
    (base : SyntaxTree Template) : (arrowsTree asText base segments).level = 6 := by
  induction segments generalizing base with
  | nil => exact absurd rfl steps
  | cons segment rest ih =>
      cases rest with
      | nil => rfl
      | cons next rest => exact ih (by simp) _

/-- Following a path keeps the grouping of a document that binds as tight as a step. -/
theorem wellGrouped_accessTree (path : JsonPath) (asText : Bool) {base : SyntaxTree Template}
    (tight : 6 ≤ base.level) :
    (path.accessTree asText base).WellGrouped ↔ base.WellGrouped := by
  unfold accessTree
  split
  · cases asText with
    | false => rfl
    | true =>
        constructor
        · rintro ⟨-, -, grouped, -⟩
          exact grouped
        · intro grouped
          exact ⟨tight, by decide, grouped, trivial⟩
  · exact wellGrouped_arrowsTree asText path.segments tight

theorem level_accessTree (path : JsonPath) (asText : Bool) (base : SyntaxTree Template) :
    (path.accessTree asText base).level =
      if path.isRoot && !asText then base.level else 6 := by
  unfold accessTree
  cases root : path.isRoot
  · have steps : path.segments ≠ [] := by simpa [isRoot] using root
    simp [level_arrowsTree asText steps base]
  · cases asText <;> simp [SyntaxTree.level, Operator.level]

end JsonPath

namespace Expr

/-- Whether the text of an expression as an operand is a step into a document that no
parentheses enclose.  A path that leads nowhere leaves the document as it is. -/
def isBareAccess : Expr → Bool
  | .jsonAccess base path asText =>
    if path.isRoot && !asText then !base.isInfix && base.isBareAccess else true
  | _ => false

/-- Whether an operand of an expression has a bare step into a document as its outermost
operator, which does not bind tight enough for the place. -/
def Misgrouped : Expr → Prop
  | .binary left op right =>
    left.isBareAccess = true ∧ 6 < (Operator.arithmetic op).level ∨ right.isBareAccess = true
  | .compare _ op right => right.isBareAccess = true ∧ (Operator.comparison op).level = 6
  | _ => False

section Grouping

variable {leaf : Value → SyntaxTree Template}

/-- How tight an expression binds as an operand: as a step into a document, or tighter than
all operators between operands. -/
theorem level_operand (tight : ∀ v, 9 ≤ (leaf v).level) :
    ∀ e : Expr, if e.isBareAccess then ((e.tree leaf).bracketed e.isInfix).level = 6
      else 9 ≤ ((e.tree leaf).bracketed e.isInfix).level
  | .literal value => by simpa [isBareAccess, isInfix, tree] using tight value
  | .jsonAccess base path asText => by
      have ofBase := level_operand tight base
      rw [SyntaxTree.level_bracketed] at ofBase
      change if isBareAccess (jsonAccess base path asText) then
        (path.accessTree asText ((base.tree leaf).bracketed base.isInfix)).level = 6
        else 9 ≤ (path.accessTree asText ((base.tree leaf).bracketed base.isInfix)).level
      rw [JsonPath.level_accessTree, SyntaxTree.level_bracketed, isBareAccess]
      cases path.isRoot && !asText with
      | false => simp
      | true =>
          cases compound : base.isInfix with
          | true => simp
          | false => simpa [compound] using ofBase
  | .binary _ _ _ | .compare _ _ _ | .between _ _ _ _ | .logical _ _ => by
      simp [isBareAccess, isInfix]
  | .star | .column _ | .raw _ | .call _ _ | .keywordCall _ _ | .cast _ _
  | .array _ | .aggregate _ _ _ _ | .window _ _ | .aliased _ _ => by
      simp [isBareAccess, isInfix, tree]

/-- A bare step into a document is the only operand that might not bind tight enough. -/
theorem le_level_operand_iff (tight : ∀ v, 9 ≤ (leaf v).level) (e : Expr) {n : Nat}
    (le : n ≤ 9) :
    n ≤ ((e.tree leaf).bracketed e.isInfix).level ↔ (e.isBareAccess = true → n ≤ 6) := by
  have operand := level_operand tight e
  split at operand
  case isTrue bare => simp [operand, bare]
  case isFalse bare =>
    simp only [bare, Bool.false_eq_true, false_imp_iff, iff_true]
    omega

theorem level_comparison_le (op : Comparison) : (Operator.comparison op).level ≤ 6 := by
  cases op <;> decide

theorem le_level_arithmetic (op : BinaryOperator) : 6 ≤ (Operator.arithmetic op).level := by
  cases op <;> decide

/-- An operand is never looser than a step into a document. -/
theorem le_level_operand (tight : ∀ v, 9 ≤ (leaf v).level) (e : Expr) :
    6 ≤ ((e.tree leaf).bracketed e.isInfix).level :=
  (le_level_operand_iff tight e (by decide)).mpr fun _ => Nat.le_refl 6

theorem wellGrouped_binary_iff (tight : ∀ v, 9 ≤ (leaf v).level) (left : Expr)
    (op : BinaryOperator) (right : Expr) :
    ((binary left op right).tree leaf).WellGrouped ↔
      ¬ (binary left op right).Misgrouped ∧
        (left.tree leaf).WellGrouped ∧ (right.tree leaf).WellGrouped := by
  have atMost := (Operator.arithmetic op).level_le
  have atLeast := le_level_arithmetic op
  have leftTight := le_level_operand_iff tight left (Nat.le_succ_of_le atMost)
  have rightTight := le_level_operand_iff tight right (Nat.succ_le_succ atMost)
  have rightBare : (right.isBareAccess = true → (Operator.arithmetic op).level + 1 ≤ 6) ↔
      ¬ right.isBareAccess = true :=
    imp_congr_right fun _ => by simp; omega
  have fits : ¬ (binary left op right).Misgrouped ↔
      (left.isBareAccess = true → (Operator.arithmetic op).level ≤ 6) ∧
        ¬ right.isBareAccess = true := by
    simp only [Misgrouped, not_or, not_and, Nat.not_lt]
  simp only [tree, SyntaxTree.WellGrouped, SyntaxTree.wellGrouped_bracketed, leftTight,
    Nat.lt_iff_add_one_le, rightTight, rightBare, fits, and_assoc]

/-- A comparison with something tighter than all comparisons is grouped well if its left
side is. -/
theorem wellGrouped_comparison (tight : ∀ v, 9 ≤ (leaf v).level) (left : Expr)
    (op : Comparison) {right : SyntaxTree Template} (rightTight : 9 ≤ right.level)
    (rightGrouped : right.WellGrouped) :
    (SyntaxTree.operation ((left.tree leaf).bracketed left.isInfix) (.comparison op)
      right).WellGrouped ↔
      (left.tree leaf).WellGrouped := by
  have leftTight := le_level_operand tight left
  have atMost := level_comparison_le op
  simp only [SyntaxTree.WellGrouped, SyntaxTree.wellGrouped_bracketed, rightGrouped, and_true]
  constructor
  · rintro ⟨-, -, leftGrouped⟩
    exact leftGrouped
  · intro leftGrouped
    exact ⟨by omega, by omega, leftGrouped⟩

theorem wellGrouped_comparisonTree_iff (tight : ∀ v, 9 ≤ (leaf v).level)
    (grouped : ∀ v, (leaf v).WellGrouped) (left : Expr) (op : Comparison) (right : Value) :
    (comparisonTree leaf left (left.tree leaf) op right).WellGrouped ↔
      (literal right).isDecided op = true ∨ (left.tree leaf).WellGrouped := by
  by_cases decided : (literal right).isDecided op = true
  · obtain ⟨takes, rfl⟩ := (isDecided_literal_iff op right).mp decided
    cases op <;> simp [Comparison.takesList] at takes <;>
      simp [comparisonTree, SyntaxTree.WellGrouped, decided]
  · rw [or_iff_right decided]
    rw [isDecided_literal_iff] at decided
    unfold comparisonTree
    split
    case h_5 | h_6 => simp [Comparison.takesList] at decided
    case h_1 | h_2 | h_3 | h_4 | h_7 | h_8 =>
      exact wellGrouped_comparison tight left _ (by simp) trivial
    case h_9 =>
      refine wellGrouped_comparison tight left _ ?_ (by simp [grouped])
      rw [SyntaxTree.level_bracketed]
      split
      · decide
      · exact tight right

/-- A comparison of two expressions is grouped well if its sides are, and no step into a
document on the right is as tight as the comparison. -/
theorem wellGrouped_compareTree_iff (tight : ∀ v, 9 ≤ (leaf v).level) (left : Expr)
    (op : Comparison) (right : Expr) (noConstant : ∀ v, right ≠ .literal v)
    (noArray : ∀ items, right ≠ .array items) :
    ((compare left op right).tree leaf).WellGrouped ↔
      ¬ (compare left op right).Misgrouped ∧
        (left.tree leaf).WellGrouped ∧ (right.tree leaf).WellGrouped := by
  have leftTight := le_level_operand tight left
  have atMost := level_comparison_le op
  have rightTight := le_level_operand_iff tight right (n := (Operator.comparison op).level + 1)
    (by omega)
  have rightFits : (Operator.comparison op).level <
      ((right.tree leaf).bracketed (op.takesList || right.isInfix)).level ↔
        ¬ (compare left op right).Misgrouped := by
    cases takes : op.takesList with
    | true =>
        have loose : (Operator.comparison op).level = 5 := by
          cases op <;> simp [Comparison.takesList] at takes <;> rfl
        simp [Misgrouped, loose]
    | false =>
        rw [Bool.false_or, Nat.lt_iff_add_one_le, rightTight]
        simp only [Misgrouped, not_and]
        apply imp_congr_right
        intro _
        omega
  simp only [tree, SyntaxTree.WellGrouped, SyntaxTree.wellGrouped_bracketed, rightFits]
  constructor
  · rintro ⟨-, parts⟩
    exact parts
  · intro parts
    exact ⟨by omega, parts⟩

theorem wellGrouped_compare_iff (tight : ∀ v, 9 ≤ (leaf v).level)
    (grouped : ∀ v, (leaf v).WellGrouped) (left : Expr) (op : Comparison) (right : Expr) :
    ((compare left op right).tree leaf).WellGrouped ↔
      ¬ (compare left op right).Misgrouped ∧
        (right.isDecided op = true ∨
          (left.tree leaf).WellGrouped ∧ (right.tree leaf).WellGrouped) := by
  cases right with
  | literal v =>
      simp [tree, wellGrouped_comparisonTree_iff tight grouped, Misgrouped, isBareAccess, grouped v]
  | array items =>
      have ofLeft : ((compare left op (.array items)).tree leaf).WellGrouped ↔
          (left.tree leaf).WellGrouped :=
        wellGrouped_comparison tight left op (by simp) trivial
      rw [ofLeft]
      simp [tree, Misgrouped, isBareAccess, isDecided, SyntaxTree.WellGrouped]
  | _ =>
      rw [wellGrouped_compareTree_iff tight left op _ (by simp) (by simp)]
      simp [isDecided]

theorem wellGrouped_between_iff (tight : ∀ v, 9 ≤ (leaf v).level) (expr low high : Expr)
    (symmetric : Bool) :
    ((between expr low high symmetric).tree leaf).WellGrouped ↔
      (expr.tree leaf).WellGrouped ∧ (low.tree leaf).WellGrouped ∧
        (high.tree leaf).WellGrouped := by
  have exprTight := le_level_operand tight expr
  have lowTight := le_level_operand tight low
  have highTight := le_level_operand tight high
  simp only [tree, SyntaxTree.WellGrouped, SyntaxTree.wellGrouped_bracketed]
  constructor
  · rintro ⟨-, -, -, parts⟩
    exact parts
  · intro parts
    exact ⟨by omega, by omega, by omega, parts⟩

section

variable (tight : ∀ v, 9 ≤ (leaf v).level) (grouped : ∀ v, (leaf v).WellGrouped)

include tight grouped

/-- An expression whose children are grouped well is grouped well, unless it has an operand
that is too loose. -/
theorem wellGrouped_tree_iff {e : Expr} (parts : ∀ c ∈ e.children, (c.tree leaf).WellGrouped) :
    (e.tree leaf).WellGrouped ↔ ¬ e.Misgrouped := by
  cases e with
  | literal v => simp [tree, grouped v, Misgrouped]
  | binary left op right =>
      rw [wellGrouped_binary_iff tight]
      exact and_iff_left ⟨parts left (by simp [children]), parts right (by simp [children])⟩
  | compare left op right =>
      rw [wellGrouped_compare_iff tight grouped]
      apply and_iff_left
      rw [or_iff_not_imp_left]
      intro undecided
      exact ⟨parts left (by simp [children, undecided]),
        parts right (by simp [children, undecided])⟩
  | between expr low high symmetric =>
      have inside : ((between expr low high symmetric).tree leaf).WellGrouped :=
        (wellGrouped_between_iff tight expr low high symmetric).mpr
          ⟨parts expr (by simp [children]), parts low (by simp [children]),
            parts high (by simp [children])⟩
      simp [inside, Misgrouped]
  | jsonAccess base path asText =>
      have ofBase := parts base (by simp [children])
      simp [tree, JsonPath.wellGrouped_accessTree path asText (le_level_operand tight base), ofBase,
        Misgrouped]
  | _ => simp [tree, SyntaxTree.WellGrouped, Misgrouped]

/-- All that is written is grouped well exactly if no operand in it is too loose. -/
theorem wellGrouped_written_iff (e : Expr) :
    (∀ d ∈ e.written, (d.tree leaf).WellGrouped) ↔ ∀ d ∈ e.written, ¬ d.Misgrouped := by
  induction e using children_induction with
  | step e ih =>
      rw [forall_mem_written, forall_mem_written, ← forall₂_congr ih]
      apply and_congr_left
      intro below
      apply wellGrouped_tree_iff tight grouped
      intro c child
      exact below c child c c.self_mem_written

end

end Grouping

end Expr

namespace Value

theorem level_constantTree (v : Value) : 9 ≤ v.constantTree.level := by
  cases v with
  | int n => exact level_signed _
  | float x => exact level_signed _
  | _ => simp [constantTree]

theorem wellGrouped_constantTree (v : Value) : v.constantTree.WellGrouped := by
  cases v with
  | int n => exact wellGrouped_signed _
  | float x => exact wellGrouped_signed _
  | _ => simp [constantTree, SyntaxTree.WellGrouped]

theorem level_placeholderTree (v : Value) : 9 ≤ v.placeholderTree.level := by
  simp [placeholderTree]

theorem wellGrouped_placeholderTree (v : Value) : v.placeholderTree.WellGrouped := trivial

/-- Written as a constant, the tree of a value is the value. -/
theorem write_constantTree (v : Value) :
    (v.constantTree.template id).write ValueWriter.constants =
      v.template.write ValueWriter.constants := by
  cases v with
  | int n => simp [constantTree, template, ValueWriter.constants, literal]
  | float x => simp [constantTree, template, ValueWriter.constants, literal]
  | json document =>
      simp [constantTree, template, SyntaxTree.template, ValueWriter.constants, literal]
  | uuid u =>
      have quoted : "'::uuid" = "'" ++ "::uuid" := rfl
      simp [constantTree, template, SyntaxTree.template, ValueWriter.constants, literal, quoted,
        String.append_assoc]
  | _ => simp [constantTree, SyntaxTree.template]

end Value

namespace Expr

/-- The tokens of an expression with the blanks among them, given the trees of values. -/
def layout (leaf : Value → SyntaxTree Template) (e : Expr) : Layout Template :=
  (e.tree leaf).layout

/-- What is read from the tokens of an expression is its tree. -/
def IsReadBack (leaf : Value → SyntaxTree Template) (e : Expr) : Prop :=
  Grammar.read (e.layout leaf).reduceOption = some (e.tree leaf)

theorem isReadBack_iff {leaf : Value → SyntaxTree Template} (e : Expr) :
    e.IsReadBack leaf ↔ (e.tree leaf).WellGrouped := by
  rw [IsReadBack, layout, reduceOption_layout, read_eq_some_iff]
  exact and_iff_left rfl

/-- The text of an expression is that of its tokens, with constants and with placeholders.
In either text the operators in an expression all have operands that are tight enough, and
all in it is read back, exactly if no bare step into a document is an operand of arithmetic
or the right operand of an operator that is as tight. -/
theorem operands_keep_grouping (e : Expr) :
    (∀ d : Expr,
      ((d.layout Value.constantTree).template id).write ValueWriter.constants =
          d.write ValueWriter.constants ∧
        ((d.layout Value.placeholderTree).template id).write ValueWriter.placeholders =
          d.write ValueWriter.placeholders) ∧
      ∀ leaf ∈ [Value.constantTree, Value.placeholderTree],
        ((∀ d ∈ e.written, (d.tree leaf).WellGrouped) ↔ ∀ d ∈ e.written, ¬ d.Misgrouped) ∧
          ((∀ d ∈ e.written, d.IsReadBack leaf) ↔ ∀ d ∈ e.written, ¬ d.Misgrouped) := by
  constructor
  · intro d
    constructor
    · rw [layout, write_layout, write_tree Value.write_constantTree, write_eq_template]
    · rw [layout, write_layout, write_tree (fun v => rfl), write_eq_template]
  · intro leaf mode
    have grouped : (∀ d ∈ e.written, (d.tree leaf).WellGrouped) ↔
        ∀ d ∈ e.written, ¬ d.Misgrouped := by
      rcases List.mem_pair.mp mode with rfl | rfl
      · exact wellGrouped_written_iff Value.level_constantTree Value.wellGrouped_constantTree e
      · exact wellGrouped_written_iff Value.level_placeholderTree
          Value.wellGrouped_placeholderTree e
    simp only [isReadBack_iff]
    exact ⟨grouped, grouped⟩

/-- A day after the date in a field of a document.  The text is the field that is found one
day after the name of the field. -/
theorem day_after_field_loses_grouping :
    ∃ e : Expr, e = (column "profile").chain
        [.jsonGet ⟨[.key "joined"]⟩, .dateAdd 1 .day] ∧
      e.sql = "profile->'joined' + INTERVAL '1 day'" ∧
      Grammar.read (e.layout Value.constantTree).reduceOption =
        some (.operation (.atom (.text "profile")) (.arrow false)
          (.operation (.atom (.text "'joined'")) (.arithmetic .add)
            (.atom (.text "INTERVAL '1 day'")))) ∧
      ¬ ∀ d ∈ e.written, (d.tree Value.constantTree).WellGrouped := by
  refine ⟨_, rfl, rfl, rfl, ?_⟩
  intro grouped
  have sumTight := (grouped _ (self_mem_written _)).1
  revert sumTight
  decide

end Expr

end SqlCompose
