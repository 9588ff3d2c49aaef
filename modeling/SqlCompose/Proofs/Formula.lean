/-
# Formulas

A formula joins operands by AND and OR, with the parentheses that stand in its text.  It
need not be grouped as it is read: an operand of AND may be a disjunction that no
parentheses enclose.  A reader takes such a disjunction apart, for AND binds tighter than
OR, and what it reads is given here by regrouping (`read_tokens`).

Regrouping keeps the truth of a formula if no operand of AND is a bare disjunction.  If
one is, and the operands can take any truth values independently of each other, some of
them make the formula false and its regrouping true.
-/

import SqlCompose.Proofs.Grammar

namespace SqlCompose

/-- A truth value of SQL. -/
inductive Truth where
  | false | unknown | true
  deriving DecidableEq

namespace Truth

/-- A conjunction is as true as the less true of its sides. -/
def and : Truth → Truth → Truth
  | .false, _ | _, .false => .false
  | .unknown, _ | _, .unknown => .unknown
  | .true, .true => .true

/-- A disjunction is as true as the truer of its sides. -/
def or : Truth → Truth → Truth
  | .true, _ | _, .true => .true
  | .unknown, _ | _, .unknown => .unknown
  | .false, .false => .false

end Truth

namespace Connective

/-- The truth of two operands joined by a connective. -/
def join : Connective → Truth → Truth → Truth
  | .and => Truth.and
  | .or => Truth.or

/-- The truth of a connective of no operands. -/
def unit : Connective → Truth
  | .and => .true
  | .or => .false

theorem join_assoc (op : Connective) (a b c : Truth) :
    op.join (op.join a b) c = op.join a (op.join b c) := by
  cases op <;> cases a <;> cases b <;> cases c <;> rfl

@[simp]
theorem join_unit (op : Connective) (a : Truth) : op.join a op.unit = a := by
  cases op <;> cases a <;> rfl

@[simp]
theorem join_self (op : Connective) (a : Truth) : op.join a a = a := by
  cases op <;> cases a <;> rfl

@[simp]
theorem and_false (a : Truth) : Connective.and.join a .false = .false := by
  cases a <;> rfl

@[simp]
theorem false_and (a : Truth) : Connective.and.join .false a = .false := by
  cases a <;> rfl

@[simp]
theorem or_true (a : Truth) : Connective.or.join a .true = .true := by
  cases a <;> rfl

@[simp]
theorem true_or (a : Truth) : Connective.or.join .true a = .true := by
  cases a <;> rfl

end Connective

/-- Operands joined by connectives, with the parentheses that stand in the text. -/
inductive Formula (α : Type) where
  | atom (a : α)
  | group (inner : Formula α)
  | joined (left : Formula α) (op : Connective) (right : Formula α)

namespace Formula

open Grammar

variable {α : Type}

/-- A formula as a tree of operators. -/
def tree : Formula α → SyntaxTree α
  | .atom a => .atom a
  | .group inner => .group inner.tree
  | .joined left op right => .operation left.tree (.connective op) right.tree

/-- The tokens of a formula. -/
def tokens (f : Formula α) : List (Token α) :=
  f.tree.tokens

@[simp]
theorem tokens_group (f : Formula α) : f.group.tokens = .opening :: (f.tokens ++ [.closing]) := rfl

@[simp]
theorem tokens_joined (left : Formula α) (op : Connective) (right : Formula α) :
    (joined left op right).tokens =
      left.tokens ++ .operator (.connective op) :: right.tokens := rfl

/-- The truth of a formula, given that of its operands. -/
def truth (v : α → Truth) : Formula α → Truth
  | .atom a => v a
  | .group inner => inner.truth v
  | .joined left op right => op.join (left.truth v) (right.truth v)

/-- Whether a formula is a disjunction that no parentheses enclose. -/
def IsDisjunction : Formula α → Prop
  | .joined _ .or _ => True
  | _ => False

/-- Whether an operand of AND in a formula is a disjunction that no parentheses enclose. -/
def HasBareDisjunction : Formula α → Prop
  | .atom _ => False
  | .group inner => inner.HasBareDisjunction
  | .joined left op right =>
    op = .and ∧ (left.IsDisjunction ∨ right.IsDisjunction) ∨
      left.HasBareDisjunction ∨ right.HasBareDisjunction

/-! ## What is read -/

/-- Two products joined by AND, as they are read. -/
def andProduct (left : Formula α) : Formula α → Formula α
  | .joined right₁ .and right₂ => .joined (andProduct left right₁) .and right₂
  | right => .joined left .and right

/-- A formula and a product joined by AND, as they are read: the last product of the formula
meets the other one. -/
def andLast : Formula α → Formula α → Formula α
  | .joined left₁ .or left₂, right => .joined left₁ .or (andProduct left₂ right)
  | left, right => andProduct left right

/-- Two formulas joined by AND, as they are read: the last product of the one meets the
first product of the other. -/
def andAlso (left : Formula α) : Formula α → Formula α
  | .joined right₁ .or right₂ => .joined (andAlso left right₁) .or right₂
  | right => andLast left right

/-- Two formulas joined by OR, as they are read. -/
def orElse (left : Formula α) : Formula α → Formula α
  | .joined right₁ .or right₂ => .joined (orElse left right₁) .or right₂
  | right => .joined left .or right

/-- A formula as it is read. -/
def regroup : Formula α → Formula α
  | .atom a => .atom a
  | .group inner => .group inner.regroup
  | .joined left .and right => andAlso left.regroup right.regroup
  | .joined left .or right => orElse left.regroup right.regroup

theorem tokens_andProduct (left right : Formula α) :
    (andProduct left right).tokens =
      left.tokens ++ .operator (.connective .and) :: right.tokens := by
  fun_induction andProduct left right with
  | case1 right₁ right₂ ih => simp [ih]
  | case2 right => rfl

theorem tokens_andLast (left right : Formula α) :
    (andLast left right).tokens =
      left.tokens ++ .operator (.connective .and) :: right.tokens := by
  fun_cases andLast left right with
  | case1 left₁ left₂ => simp [tokens_andProduct]
  | case2 => exact tokens_andProduct left right

theorem tokens_andAlso (left right : Formula α) :
    (andAlso left right).tokens =
      left.tokens ++ .operator (.connective .and) :: right.tokens := by
  fun_induction andAlso left right with
  | case1 right₁ right₂ ih => simp [ih]
  | case2 right => exact tokens_andLast left right

theorem tokens_orElse (left right : Formula α) :
    (orElse left right).tokens =
      left.tokens ++ .operator (.connective .or) :: right.tokens := by
  fun_induction orElse left right with
  | case1 right₁ right₂ ih => simp [ih]
  | case2 right => rfl

/-- Regrouping keeps the text. -/
theorem tokens_regroup (f : Formula α) : f.regroup.tokens = f.tokens := by
  fun_induction regroup f with
  | case1 a => rfl
  | case2 inner ih => simp [ih]
  | case3 left right ihLeft ihRight => simp [tokens_andAlso, ihLeft, ihRight]
  | case4 left right ihLeft ihRight => simp [tokens_orElse, ihLeft, ihRight]

/-- Whether a formula is closed in itself. -/
def IsFactor : Formula α → Prop
  | .joined _ _ _ => False
  | _ => True

theorem level_tree_iff (f : Formula α) : 1 < f.tree.level ↔ ¬ f.IsDisjunction := by
  cases f with
  | atom a => simp [tree, IsDisjunction]
  | group inner => simp [tree, IsDisjunction]
  | joined left op right => cases op <;> simp [tree, IsDisjunction, Operator.level]

theorem isFactor_iff (f : Formula α) : 2 < f.tree.level ↔ f.IsFactor := by
  cases f with
  | atom a => simp [tree, IsFactor]
  | group inner => simp [tree, IsFactor]
  | joined left op right => cases op <;> simp [tree, IsFactor, Operator.level]

/-- A conjunction is grouped well if it joins a product to a factor. -/
theorem wellGrouped_and_iff (left right : Formula α) :
    (joined left .and right).tree.WellGrouped ↔
      ¬ left.IsDisjunction ∧ right.IsFactor ∧ left.tree.WellGrouped ∧ right.tree.WellGrouped := by
  rw [← level_tree_iff, ← isFactor_iff]
  rfl

/-- A disjunction is grouped well if it joins a formula to a product. -/
theorem wellGrouped_or_iff (left right : Formula α) :
    (joined left .or right).tree.WellGrouped ↔
      ¬ right.IsDisjunction ∧ left.tree.WellGrouped ∧ right.tree.WellGrouped := by
  have positive : 1 ≤ left.tree.level := by
    cases left with
    | atom a => simp [tree]
    | group inner => simp [tree]
    | joined left op right => cases op <;> simp [tree, Operator.level]
  rw [← level_tree_iff]
  constructor
  · exact And.right
  · exact And.intro positive

theorem not_isDisjunction {f : Formula α}
    (noDisjunction : ∀ left right, f = joined left .or right → False) : ¬ f.IsDisjunction := by
  cases f with
  | joined left op right =>
      cases op with
      | and => exact id
      | or => exact (noDisjunction left right rfl).elim
  | _ => exact id

theorem wellGrouped_andProduct {left right : Formula α} (leftProduct : ¬ left.IsDisjunction)
    (rightProduct : ¬ right.IsDisjunction) (leftGrouped : left.tree.WellGrouped)
    (rightGrouped : right.tree.WellGrouped) :
    ¬ (andProduct left right).IsDisjunction ∧ (andProduct left right).tree.WellGrouped := by
  fun_induction andProduct left right with
  | case1 right₁ right₂ ih =>
      obtain ⟨product, factor, grouped₁, grouped₂⟩ :=
        (wellGrouped_and_iff right₁ right₂).mp rightGrouped
      obtain ⟨productBefore, groupedBefore⟩ := ih product grouped₁
      exact ⟨id, (wellGrouped_and_iff _ _).mpr ⟨productBefore, factor, groupedBefore, grouped₂⟩⟩
  | case2 right noConjunction =>
      have factor : right.IsFactor := by
        cases right with
        | joined right₁ op right₂ =>
            cases op with
            | and => exact (noConjunction right₁ right₂ rfl).elim
            | or => exact (rightProduct trivial).elim
        | _ => trivial
      exact ⟨id, (wellGrouped_and_iff _ _).mpr ⟨leftProduct, factor, leftGrouped, rightGrouped⟩⟩

theorem wellGrouped_andLast {left right : Formula α} (rightProduct : ¬ right.IsDisjunction)
    (leftGrouped : left.tree.WellGrouped) (rightGrouped : right.tree.WellGrouped) :
    (andLast left right).tree.WellGrouped := by
  fun_cases andLast left right with
  | case1 left₁ left₂ =>
      obtain ⟨product, grouped₁, grouped₂⟩ := (wellGrouped_or_iff left₁ left₂).mp leftGrouped
      obtain ⟨productLast, groupedLast⟩ :=
        wellGrouped_andProduct product rightProduct grouped₂ rightGrouped
      exact (wellGrouped_or_iff _ _).mpr ⟨productLast, grouped₁, groupedLast⟩
  | case2 =>
      have leftProduct : ¬ left.IsDisjunction := not_isDisjunction ‹_›
      exact (wellGrouped_andProduct leftProduct rightProduct leftGrouped rightGrouped).2

theorem wellGrouped_andAlso {left right : Formula α} (leftGrouped : left.tree.WellGrouped)
    (rightGrouped : right.tree.WellGrouped) : (andAlso left right).tree.WellGrouped := by
  fun_induction andAlso left right with
  | case1 right₁ right₂ ih =>
      obtain ⟨product, grouped₁, grouped₂⟩ := (wellGrouped_or_iff right₁ right₂).mp rightGrouped
      exact (wellGrouped_or_iff _ _).mpr ⟨product, ih grouped₁, grouped₂⟩
  | case2 right noDisjunction =>
      have rightProduct := not_isDisjunction noDisjunction
      exact wellGrouped_andLast rightProduct leftGrouped rightGrouped

theorem wellGrouped_orElse {left right : Formula α} (leftGrouped : left.tree.WellGrouped)
    (rightGrouped : right.tree.WellGrouped) : (orElse left right).tree.WellGrouped := by
  fun_induction orElse left right with
  | case1 right₁ right₂ ih =>
      obtain ⟨product, grouped₁, grouped₂⟩ := (wellGrouped_or_iff right₁ right₂).mp rightGrouped
      exact (wellGrouped_or_iff _ _).mpr ⟨product, ih grouped₁, grouped₂⟩
  | case2 right noDisjunction =>
      have rightProduct := not_isDisjunction noDisjunction
      exact (wellGrouped_or_iff _ _).mpr ⟨rightProduct, leftGrouped, rightGrouped⟩

/-- A regrouped formula is grouped well, whatever the formula was. -/
theorem wellGrouped_regroup (f : Formula α) : f.regroup.tree.WellGrouped := by
  fun_induction regroup f with
  | case1 a => trivial
  | case2 inner ih => exact ih
  | case3 left right ihLeft ihRight => exact wellGrouped_andAlso ihLeft ihRight
  | case4 left right ihLeft ihRight => exact wellGrouped_orElse ihLeft ihRight

/-- What is read from the text of a formula is the formula regrouped. -/
theorem read_tokens (f : Formula α) : Grammar.read f.tokens = some f.regroup.tree := by
  rw [← tokens_regroup]
  exact Grammar.read_tokens f.wellGrouped_regroup

/-! ## What regrouping does to the truth -/

section Truth

variable (v : α → Truth)

theorem truth_andProduct (left right : Formula α) :
    (andProduct left right).truth v = Connective.and.join (left.truth v) (right.truth v) := by
  fun_induction andProduct left right with
  | case1 right₁ right₂ ih => rw [truth, truth, ih, Connective.join_assoc]
  | case2 right => rfl

theorem truth_orElse (left right : Formula α) :
    (orElse left right).truth v = Connective.or.join (left.truth v) (right.truth v) := by
  fun_induction orElse left right with
  | case1 right₁ right₂ ih => rw [truth, truth, ih, Connective.join_assoc]
  | case2 right => rfl

theorem andAlso_of_products {left right : Formula α} (leftProduct : ¬ left.IsDisjunction)
    (rightProduct : ¬ right.IsDisjunction) : andAlso left right = andProduct left right := by
  fun_cases andAlso left right with
  | case1 right₁ right₂ => exact (rightProduct trivial).elim
  | case2 =>
      fun_cases andLast left right with
      | case1 left₁ left₂ => exact (leftProduct trivial).elim
      | case2 => rfl

theorem isDisjunction_orElse (left right : Formula α) : (orElse left right).IsDisjunction := by
  fun_cases orElse left right <;> trivial

theorem not_isDisjunction_andProduct (left right : Formula α) :
    ¬ (andProduct left right).IsDisjunction := by
  fun_cases andProduct left right <;> exact id

/-- Without a bare disjunction under AND, disjunctions are where they were. -/
theorem isDisjunction_regroup_iff {f : Formula α} (fine : ¬ f.HasBareDisjunction) :
    f.regroup.IsDisjunction ↔ f.IsDisjunction := by
  fun_induction regroup f with
  | case1 a => rfl
  | case2 inner ih => rfl
  | case3 left right ihLeft ihRight =>
      simp only [HasBareDisjunction, true_and, not_or] at fine
      obtain ⟨⟨leftProduct, rightProduct⟩, leftFine, rightFine⟩ := fine
      rw [← ihLeft leftFine] at leftProduct
      rw [← ihRight rightFine] at rightProduct
      rw [andAlso_of_products leftProduct rightProduct]
      exact iff_of_false (not_isDisjunction_andProduct _ _) id
  | case4 left right => exact iff_of_true (isDisjunction_orElse _ _) trivial

/-- Without a bare disjunction under AND, regrouping keeps the truth. -/
theorem truth_regroup {f : Formula α} (fine : ¬ f.HasBareDisjunction) :
    f.regroup.truth v = f.truth v := by
  fun_induction regroup f with
  | case1 a => rfl
  | case2 inner ih => exact ih fine
  | case3 left right ihLeft ihRight =>
      simp only [HasBareDisjunction, true_and, not_or] at fine
      obtain ⟨⟨leftProduct, rightProduct⟩, leftFine, rightFine⟩ := fine
      rw [← isDisjunction_regroup_iff leftFine] at leftProduct
      rw [← isDisjunction_regroup_iff rightFine] at rightProduct
      rw [andAlso_of_products leftProduct rightProduct, truth_andProduct, ihLeft leftFine,
        ihRight rightFine, truth]
  | case4 left right ihLeft ihRight =>
      simp only [HasBareDisjunction, reduceCtorEq, false_and, false_or, not_or] at fine
      rw [truth_orElse, ihLeft fine.1, ihRight fine.2, truth]

end Truth

/-! ## A bare disjunction under AND is read wrong -/

/-- The operands of a formula from left to right. -/
def atoms : Formula α → List α
  | .atom a => [a]
  | .group inner => inner.atoms
  | .joined left _ right => left.atoms ++ right.atoms

/-- The operands among some tokens. -/
def operands (tokens : List (Token α)) : List α :=
  tokens.filterMap fun
    | .atom a => some a
    | _ => none

theorem operands_tokens (f : Formula α) : operands f.tokens = f.atoms := by
  induction f with
  | atom a => rfl
  | group inner ih => simpa [operands, atoms] using ih
  | joined left op right ihLeft ihRight =>
      simp only [operands] at ihLeft ihRight
      simp [operands, atoms, ihLeft, ihRight]

theorem atoms_regroup (f : Formula α) : f.regroup.atoms = f.atoms := by
  rw [← operands_tokens, tokens_regroup, operands_tokens]

/-- The truth of a formula depends on its operands only. -/
theorem truth_congr {v w : α → Truth} {f : Formula α} (same : ∀ a ∈ f.atoms, v a = w a) :
    f.truth v = f.truth w := by
  induction f with
  | atom a => exact same a (by simp [atoms])
  | group inner ih => exact ih same
  | joined left op right ihLeft ihRight =>
      simp only [atoms, List.forall_mem_append] at same
      rw [truth, truth, ihLeft same.1, ihRight same.2]

/-- A formula of operands with one truth value has that truth value. -/
theorem truth_of_forall {v : α → Truth} {f : Formula α} {x : Truth}
    (all : ∀ a ∈ f.atoms, v a = x) : f.truth v = x := by
  induction f with
  | atom a => exact all a (by simp [atoms])
  | group inner ih => exact ih all
  | joined left op right ihLeft ihRight =>
      simp only [atoms, List.forall_mem_append] at all
      rw [truth, ihLeft all.1, ihRight all.2, Connective.join_self]

theorem truth_regroup_congr {v w : α → Truth} {f : Formula α} (same : ∀ a ∈ f.atoms, v a = w a) :
    f.regroup.truth v = f.regroup.truth w :=
  truth_congr (by rwa [atoms_regroup])

theorem eq_of_isDisjunction {f : Formula α} (disjunction : f.IsDisjunction) :
    ∃ left right, f = joined left .or right := by
  cases f with
  | joined left op right =>
      cases op with
      | and => exact disjunction.elim
      | or => exact ⟨left, right, rfl⟩
  | _ => exact disjunction.elim

/-- If the first summand of a disjunction is true, so is what is read when AND follows the
last one. -/
theorem truth_andAlso_of_left {v : α → Truth} {left₁ left₂ : Formula α} (right : Formula α)
    (first : left₁.truth v = .true) :
    (andAlso (joined left₁ .or left₂) right).truth v = .true := by
  induction right with
  | joined right₁ op right₂ ih =>
      cases op with
      | and => simp [andAlso, andLast, truth, first]
      | or => simp [andAlso, truth, ih]
  | _ => simp [andAlso, andLast, truth, first]

/-- Whether a formula can be false while what is read is true. -/
def IsMisread (f : Formula α) : Prop :=
  ∃ v : α → Truth, f.truth v = .false ∧ f.regroup.truth v = .true

section Sides

variable {left right : Formula α} (apart : ∀ a ∈ left.atoms, ∀ b ∈ right.atoms, a ≠ b)

include apart

/-- The operands on two sides without a common operand can be assigned truth values
independently. -/
theorem exists_assignment (v w : α → Truth) :
    ∃ u : α → Truth, (∀ a ∈ left.atoms, u a = v a) ∧ ∀ a ∈ right.atoms, u a = w a := by
  classical
  refine ⟨fun a => if a ∈ left.atoms then v a else w a, ?_, ?_⟩
  · intro a inLeft
    exact if_pos inLeft
  · intro a inRight
    apply if_neg
    intro inLeft
    exact apart a inLeft a inRight rfl

theorem isMisread_or (misread : left.IsMisread ∨ right.IsMisread) :
    (joined left .or right).IsMisread := by
  rcases misread with ⟨v, isFalse, isTrue⟩ | ⟨v, isFalse, isTrue⟩
  · obtain ⟨u, onLeft, onRight⟩ := exists_assignment apart v fun _ => .false
    refine ⟨u, ?_, ?_⟩
    · rw [truth, truth_congr onLeft, isFalse, truth_of_forall onRight, Connective.join_self]
    · rw [regroup, truth_orElse, truth_regroup_congr onLeft, isTrue, Connective.true_or]
  · obtain ⟨u, onLeft, onRight⟩ := exists_assignment apart (fun _ => .false) v
    refine ⟨u, ?_, ?_⟩
    · rw [truth, truth_of_forall onLeft, truth_congr onRight, isFalse, Connective.join_self]
    · rw [regroup, truth_orElse, truth_regroup_congr onRight, isTrue, Connective.or_true]

/-- AND joins only the neighbouring products of its sides, so a true summand of one side is
enough whatever the other side is. -/
theorem isMisread_and_of_disjunction
    (disjunction : left.regroup.IsDisjunction ∨ right.regroup.IsDisjunction) :
    (joined left .and right).IsMisread := by
  rcases disjunction with disjunction | disjunction
  · obtain ⟨u, onLeft, onRight⟩ := exists_assignment apart (fun _ => .true) fun _ => .false
    refine ⟨u, ?_, ?_⟩
    · rw [truth, truth_of_forall onRight, Connective.and_false]
    · rw [← atoms_regroup] at onLeft
      obtain ⟨left₁, left₂, isJoined⟩ := eq_of_isDisjunction disjunction
      rw [isJoined, atoms, List.forall_mem_append] at onLeft
      rw [regroup, isJoined]
      exact truth_andAlso_of_left _ (truth_of_forall onLeft.1)
  · obtain ⟨u, onLeft, onRight⟩ := exists_assignment apart (fun _ => .false) fun _ => .true
    refine ⟨u, ?_, ?_⟩
    · rw [truth, truth_of_forall onLeft, Connective.false_and]
    · rw [← atoms_regroup] at onRight
      obtain ⟨right₁, right₂, isJoined⟩ := eq_of_isDisjunction disjunction
      rw [isJoined, atoms, List.forall_mem_append] at onRight
      rw [regroup, isJoined, andAlso, truth, truth_of_forall onRight.2, Connective.or_true]

theorem isMisread_and_of_products (leftProduct : ¬ left.regroup.IsDisjunction)
    (rightProduct : ¬ right.regroup.IsDisjunction)
    (misread : left.IsMisread ∨ right.IsMisread) : (joined left .and right).IsMisread := by
  have joins (u : α → Truth) : (joined left .and right).regroup.truth u =
      Connective.and.join (left.regroup.truth u) (right.regroup.truth u) := by
    rw [regroup, andAlso_of_products leftProduct rightProduct, truth_andProduct]
  rcases misread with ⟨v, isFalse, isTrue⟩ | ⟨v, isFalse, isTrue⟩
  · obtain ⟨u, onLeft, onRight⟩ := exists_assignment apart v fun _ => .true
    refine ⟨u, ?_, ?_⟩
    · rw [truth, truth_congr onLeft, isFalse, Connective.false_and]
    · rw [← atoms_regroup] at onRight
      rw [joins, truth_regroup_congr onLeft, isTrue, truth_of_forall onRight,
        Connective.join_self]
  · obtain ⟨u, onLeft, onRight⟩ := exists_assignment apart (fun _ => .true) v
    refine ⟨u, ?_, ?_⟩
    · rw [truth, truth_congr onRight, isFalse, Connective.and_false]
    · rw [← atoms_regroup] at onLeft
      rw [joins, truth_of_forall onLeft, truth_regroup_congr onRight, isTrue,
        Connective.join_self]

end Sides

theorem isDisjunction_regroup {f : Formula α} (disjunction : f.IsDisjunction) :
    f.regroup.IsDisjunction := by
  cases f with
  | joined left op right =>
      cases op with
      | and => exact disjunction.elim
      | or => exact isDisjunction_orElse _ _
  | _ => exact disjunction.elim

/-- If the operands of a formula are all different and a disjunction under AND is bare, the
formula can be false while what is read is true. -/
theorem isMisread_of_bare {f : Formula α} (distinct : f.atoms.Nodup)
    (bare : f.HasBareDisjunction) : f.IsMisread := by
  induction f with
  | atom a => exact bare.elim
  | group inner ih => exact ih distinct bare
  | joined left op right ihLeft ihRight =>
      obtain ⟨leftDistinct, rightDistinct, apart⟩ := List.nodup_append.mp distinct
      have inside (below : left.HasBareDisjunction ∨ right.HasBareDisjunction) :
          left.IsMisread ∨ right.IsMisread :=
        below.imp (ihLeft leftDistinct) (ihRight rightDistinct)
      rcases bare with ⟨rfl, disjunction⟩ | below
      · exact isMisread_and_of_disjunction apart
          (disjunction.imp isDisjunction_regroup isDisjunction_regroup)
      · cases op with
        | or => exact isMisread_or apart (inside below)
        | and =>
            by_cases disjunction : left.regroup.IsDisjunction ∨ right.regroup.IsDisjunction
            · exact isMisread_and_of_disjunction apart disjunction
            · rw [not_or] at disjunction
              exact isMisread_and_of_products apart disjunction.1 disjunction.2 (inside below)

/-- A formula of different operands is read with the same truth, whatever that of the
operands, exactly if no disjunction under AND is bare. -/
theorem truth_regroup_iff {f : Formula α} (distinct : f.atoms.Nodup) :
    (∀ v : α → Truth, f.regroup.truth v = f.truth v) ↔ ¬ f.HasBareDisjunction := by
  constructor
  · intro same bare
    obtain ⟨v, isFalse, isTrue⟩ := isMisread_of_bare distinct bare
    rw [same v, isFalse] at isTrue
    cases isTrue
  · intro fine v
    exact truth_regroup v fine

end Formula

end SqlCompose
