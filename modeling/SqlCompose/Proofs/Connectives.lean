/-
# Connectives keep their operands

A connective of several operands encloses an operand in parentheses if that is such a
connective itself.  One of a single operand is written as that operand, and it is not
enclosed.  So a disjunction within a connective of one operand can come to stand bare
between the ANDs of a conjunction, and it is taken apart when it is read.

Operands that are no connectives are opaque here, whatever they are.  Without a bare
disjunction between ANDs the text of an expression is read with the truth of the
expression, whatever the truth of the operands; with one it is not, as long as the
operands are all different and no connective is empty.
-/

import SqlCompose.Proofs.Formula
import SqlCompose.Proofs.Layout
import SqlCompose.Proofs.Written

namespace SqlCompose

open Grammar

/-- An operand of a formula: a connective of no operands, or an expression that is no
connective. -/
inductive LogicalAtom where
  | neutral (op : Connective)
  | operand (e : Expr)

namespace LogicalAtom

/-- The text of an operand. -/
def template : LogicalAtom → Template
  | .neutral op => .text op.neutral
  | .operand e => e.template

/-- The truth of an operand, given that of the expressions. -/
def truth (v : Expr → Truth) : LogicalAtom → Truth
  | .neutral op => op.unit
  | .operand e => v e

end LogicalAtom

namespace Formula

variable {α : Type}

/-- A formula in parentheses where it needs them. -/
def bracketed (needed : Bool) (f : Formula α) : Formula α :=
  if needed then .group f else f

/-- Formulas joined by one connective, from left to right. -/
def chain (op : Connective) (first : Formula α) : List (Formula α) → Formula α
  | [] => first
  | next :: rest => chain op (.joined first op next) rest

end Formula

namespace Expr

mutual

/-- The formula that the text of an expression is written from. -/
def formula : Expr → Formula LogicalAtom
  | .logical op [] => .atom (.neutral op)
  | .logical _ [single] => single.formula
  | .logical op (first :: second :: rest) =>
    .chain op (first.formula.bracketed first.isCompoundLogical) (operandFormulas (second :: rest))
  | e => .atom (.operand e)

/-- The formulas of operands of a connective. -/
def operandFormulas : List Expr → List (Formula LogicalAtom)
  | [] => []
  | e :: rest => e.formula.bracketed e.isCompoundLogical :: operandFormulas rest

end

mutual

/-- The truth of an expression, given that of the expressions that are no connectives. -/
def truth (v : Expr → Truth) : Expr → Truth
  | .logical op operands => (truths v operands).foldr op.join op.unit
  | e => v e

/-- The truths of expressions. -/
def truths (v : Expr → Truth) : List Expr → List Truth
  | [] => []
  | e :: rest => e.truth v :: truths v rest

end

mutual

/-- The connectives of an expression: itself, if it is one, and those of its operands. -/
def connected : Expr → List Expr
  | .logical op operands => .logical op operands :: connectedAll operands
  | _ => []

/-- The connectives of expressions. -/
def connectedAll : List Expr → List Expr
  | [] => []
  | e :: rest => e.connected ++ connectedAll rest

end

mutual

/-- The operands of the connectives of an expression that are no connectives themselves. -/
def leaves : Expr → List Expr
  | .logical _ operands => leavesAll operands
  | e => [e]

/-- The operands of the connectives of expressions. -/
def leavesAll : List Expr → List Expr
  | [] => []
  | e :: rest => e.leaves ++ leavesAll rest

end

/-- Whether an expression is written as a disjunction of several operands. -/
def isDisjunction : Expr → Bool
  | .logical _ [single] => single.isDisjunction
  | .logical .or (_ :: _ :: _) => true
  | _ => false

/-- Whether an expression is a conjunction of several operands, one of which is written as a
disjunction without parentheses. -/
def LosesGrouping : Expr → Prop
  | .logical .and (first :: second :: rest) =>
    ∃ d ∈ first :: second :: rest, d.isCompoundLogical = false ∧ d.isDisjunction = true
  | _ => False

end Expr

/-! ## Chains of one connective -/

/-- Templates with a separator are written alike if they are one by one. -/
theorem Template.write_separated_map {α σ : Type} (w : ValueWriter σ) (separator : String)
    {as : List α} {f g : α → Template} (same : ∀ a ∈ as, (f a).write w = (g a).write w) :
    (separated separator (as.map f)).write w = (separated separator (as.map g)).write w := by
  have texts : (as.map f).mapM (write w) = (as.map g).mapM (write w) := by
    induction as with
    | nil => rfl
    | cons a rest ih =>
        rw [List.forall_mem_cons] at same
        simp only [List.map_cons, List.mapM_cons, same.1, ih same.2]
  simp only [write_separated, texts]

namespace Formula

variable {α : Type}

theorem write_chain {σ : Type} (w : ValueWriter σ) (spell : α → Template) (op : Connective)
    (first : Formula α) (rest : List (Formula α)) :
    ((chain op first rest).tree.template spell).write w =
      (Template.separated (" " ++ op.keyword ++ " ")
        (first.tree.template spell :: rest.map fun f => f.tree.template spell)).write w := by
  induction rest generalizing first with
  | nil => rfl
  | cons next rest ih =>
      rw [chain, ih]
      cases rest with
      | nil => simp [Template.separated, tree, SyntaxTree.template, Operator.symbol]
      | cons after rest =>
          simp only [List.map_cons, Template.separated]
          simp [tree, SyntaxTree.template, Operator.symbol, String.append_assoc]

theorem truth_chain (v : α → Truth) (op : Connective) (first : Formula α)
    (rest : List (Formula α)) :
    (chain op first rest).truth v =
      op.join (first.truth v) ((rest.map (truth v)).foldr op.join op.unit) := by
  induction rest generalizing first with
  | nil => simp [chain]
  | cons next rest ih => simp [chain, ih, truth, Connective.join_assoc]

theorem atoms_chain (op : Connective) (first : Formula α) (rest : List (Formula α)) :
    (chain op first rest).atoms = first.atoms ++ rest.flatMap atoms := by
  induction rest generalizing first with
  | nil => simp [chain]
  | cons next rest ih => simp [chain, ih, atoms]

theorem isDisjunction_chain (op : Connective) (first next : Formula α)
    (rest : List (Formula α)) :
    (chain op first (next :: rest)).IsDisjunction ↔ op = .or := by
  induction rest generalizing first next with
  | nil => cases op <;> simp [chain, IsDisjunction]
  | cons after rest ih => exact ih (.joined first op next) after

@[simp]
theorem isDisjunction_joined (left : Formula α) (op : Connective) (right : Formula α) :
    (joined left op right).IsDisjunction ↔ op = .or := by
  cases op <;> simp [IsDisjunction]

/-- A conjunction of several formulas has a bare disjunction if one of them is one or has
one, a disjunction if one of them has one. -/
theorem hasBareDisjunction_chain (op : Connective) (first next : Formula α)
    (rest : List (Formula α)) :
    (chain op first (next :: rest)).HasBareDisjunction ↔
      ∃ f ∈ first :: next :: rest,
        op = .and ∧ f.IsDisjunction ∨ f.HasBareDisjunction := by
  induction rest generalizing first next with
  | nil =>
      simp [chain, HasBareDisjunction]
      tauto
  | cons after rest ih =>
      rw [chain, ih]
      cases op with
      | or => simp [HasBareDisjunction, or_assoc]
      | and =>
          simp [HasBareDisjunction, or_assoc, or_left_comm]

@[simp]
theorem tree_bracketed (needed : Bool) (f : Formula α) :
    (f.bracketed needed).tree = f.tree.bracketed needed := by
  cases needed <;> rfl

@[simp]
theorem truth_bracketed (v : α → Truth) (needed : Bool) (f : Formula α) :
    (f.bracketed needed).truth v = f.truth v := by
  cases needed <;> rfl

@[simp]
theorem atoms_bracketed (needed : Bool) (f : Formula α) :
    (f.bracketed needed).atoms = f.atoms := by
  cases needed <;> rfl

@[simp]
theorem isDisjunction_bracketed (needed : Bool) (f : Formula α) :
    (f.bracketed needed).IsDisjunction ↔ needed = false ∧ f.IsDisjunction := by
  cases needed <;> simp [bracketed, IsDisjunction]

@[simp]
theorem hasBareDisjunction_bracketed (needed : Bool) (f : Formula α) :
    (f.bracketed needed).HasBareDisjunction ↔ f.HasBareDisjunction := by
  cases needed <;> rfl

end Formula

namespace Expr

/-- The formula of an operand of a connective. -/
def operandFormula (e : Expr) : Formula LogicalAtom :=
  e.formula.bracketed e.isCompoundLogical

theorem operandFormulas_eq (es : List Expr) : operandFormulas es = es.map operandFormula := by
  induction es with
  | nil => rfl
  | cons e rest ih => simp [operandFormulas, operandFormula, ih]

theorem formula_logical (op : Connective) (first second : Expr) (rest : List Expr) :
    (logical op (first :: second :: rest)).formula =
      .chain op first.operandFormula ((second :: rest).map operandFormula) := by
  rw [formula, operandFormulas_eq, operandFormula]

theorem truths_eq (v : Expr → Truth) (es : List Expr) : truths v es = es.map (truth v) := by
  induction es with
  | nil => rfl
  | cons e rest ih => simp [truths, ih]

theorem connectedAll_eq (es : List Expr) : connectedAll es = es.flatMap connected := by
  induction es with
  | nil => rfl
  | cons e rest ih => simp [connectedAll, ih]

theorem leavesAll_eq (es : List Expr) : leavesAll es = es.flatMap leaves := by
  induction es with
  | nil => rfl
  | cons e rest ih => simp [leavesAll, ih]

/-- Written, the formula of an expression is the expression. -/
theorem write_formula {σ : Type} (w : ValueWriter σ) (e : Expr) :
    (e.formula.tree.template LogicalAtom.template).write w = e.template.write w := by
  induction e using children_induction with
  | step e ih =>
      cases e with
      | logical op operands =>
          match operands with
          | [] => rfl
          | [single] => simpa [formula, template] using ih single (by simp [children])
          | first :: second :: rest =>
              have written : ∀ e ∈ first :: second :: rest,
                  (e.operandFormula.tree.template LogicalAtom.template).write w =
                  (Template.bracketed e.isCompoundLogical e.template).write w := by
                intro e child
                simp [operandFormula, ih e child]
              have list := Template.write_separated_map w (" " ++ op.keyword ++ " ") written
              rw [formula_logical, Formula.write_chain, List.map_map, template_logical]
              exact list
      | _ => rfl

/-- The truth of an expression is that of its formula. -/
theorem truth_formula (v : Expr → Truth) (e : Expr) :
    e.formula.truth (LogicalAtom.truth v) = e.truth v := by
  induction e using children_induction with
  | step e ih =>
      cases e with
      | logical op operands =>
          have inside : operands.map (truth v) =
              operands.map fun e => e.operandFormula.truth (LogicalAtom.truth v) :=
            List.map_congr_left fun e child => by simp [operandFormula, ih e child]
          rw [truth, truths_eq, inside]
          match operands with
          | [] => rfl
          | [single] => simp [formula, operandFormula]
          | first :: second :: rest =>
              simp [formula_logical, Formula.truth_chain, Function.comp_def]
      | _ => rfl

theorem isDisjunction_formula_iff (e : Expr) :
    e.formula.IsDisjunction ↔ e.isDisjunction = true := by
  induction e using children_induction with
  | step e ih =>
      cases e with
      | logical op operands =>
          match operands with
          | [] => cases op <;> simp [formula, Formula.IsDisjunction, isDisjunction]
          | [single] => simpa [formula, isDisjunction] using ih single (by simp [children])
          | first :: second :: rest =>
              rw [formula_logical, List.map_cons, Formula.isDisjunction_chain]
              cases op <;> simp [isDisjunction]
      | _ => simp [formula, Formula.IsDisjunction, isDisjunction]

/-- The formula of an expression has a bare disjunction exactly if a conjunction in it
loses the grouping of an operand. -/
theorem hasBareDisjunction_formula_iff (e : Expr) :
    e.formula.HasBareDisjunction ↔ ∃ d ∈ e.connected, d.LosesGrouping := by
  induction e using children_induction with
  | step e ih =>
      cases e with
      | logical op operands =>
          have inside : (∃ c ∈ operands, c.formula.HasBareDisjunction) ↔
              ∃ d ∈ operands.flatMap connected, d.LosesGrouping := by
            simp only [List.mem_flatMap]
            constructor
            · rintro ⟨c, child, bare⟩
              obtain ⟨d, connective, loses⟩ := (ih c child).mp bare
              exact ⟨d, ⟨c, child, connective⟩, loses⟩
            · rintro ⟨d, ⟨c, child, connective⟩, loses⟩
              exact ⟨c, child, (ih c child).mpr ⟨d, connective, loses⟩⟩
          rw [connected, connectedAll_eq]
          simp only [List.exists_mem_cons_iff, ← inside]
          match operands with
          | [] => simp [formula, Formula.HasBareDisjunction, LosesGrouping]
          | [single] => simp [formula, LosesGrouping]
          | first :: second :: rest =>
              rw [formula_logical, List.map_cons, Formula.hasBareDisjunction_chain, ← List.map_cons,
                ← List.map_cons]
              cases op with
              | or => simp [operandFormula, LosesGrouping]
              | and =>
                  simp only [List.mem_map, exists_exists_and_eq_and, true_and, LosesGrouping,
                    operandFormula, Formula.isDisjunction_bracketed,
                    Formula.hasBareDisjunction_bracketed, isDisjunction_formula_iff, and_or_left,
                    exists_or]
      | _ => simp [formula, Formula.HasBareDisjunction, connected]

/-- If no connective is empty, the operands of the formula of an expression are the
operands that are no connectives. -/
theorem atoms_formula {e : Expr} (full : ∀ d ∈ e.connected, ∀ op, d ≠ .logical op []) :
    e.formula.atoms = e.leaves.map .operand := by
  induction e using children_induction with
  | step e ih =>
      cases e with
      | logical op operands =>
          rw [connected, connectedAll_eq, List.forall_mem_cons] at full
          obtain ⟨nonempty, below⟩ := full
          have inside : ∀ e ∈ operands, e.operandFormula.atoms = e.leaves.map .operand := by
            intro e child
            rw [operandFormula, Formula.atoms_bracketed]
            exact ih e child fun d connective =>
              below d (List.mem_flatMap.mpr ⟨e, child, connective⟩)
          rw [leaves, leavesAll_eq, List.map_flatMap, ← List.flatMap_congr inside]
          match operands with
          | [] => exact (nonempty op rfl).elim
          | [single] => simp [formula, operandFormula]
          | first :: second :: rest =>
              simp [formula_logical, Formula.atoms_chain, List.flatMap_map]
      | _ => rfl

/-- The tokens of the connectives of an expression with the blanks among them. -/
def connectiveLayout (e : Expr) : Layout LogicalAtom :=
  e.formula.tree.layout

/-- Without a conjunction that loses the grouping of an operand, what is read from the text
of an expression is as true as the expression. -/
theorem truth_regroup {e : Expr} (keeps : ∀ d ∈ e.connected, ¬ d.LosesGrouping)
    (v : Expr → Truth) : e.formula.regroup.truth (LogicalAtom.truth v) = e.truth v := by
  have fine : ¬ e.formula.HasBareDisjunction := by
    rw [hasBareDisjunction_formula_iff]
    rintro ⟨d, connective, loses⟩
    exact keeps d connective loses
  rw [Formula.truth_regroup _ fine, truth_formula]

/-- With such a conjunction it is not, if the operands are all different and no connective
is empty. -/
theorem truth_regroup_iff {e : Expr} (distinct : e.leaves.Nodup)
    (full : ∀ d ∈ e.connected, ∀ op, d ≠ .logical op []) :
    (∀ v : Expr → Truth, e.formula.regroup.truth (LogicalAtom.truth v) = e.truth v) ↔
      ∀ d ∈ e.connected, ¬ d.LosesGrouping := by
  have atoms := atoms_formula full
  have distinctAtoms : e.formula.atoms.Nodup := by
    rw [atoms]
    exact distinct.map fun _ _ => LogicalAtom.operand.inj
  constructor
  · intro same
    have everywhere : ∀ u : LogicalAtom → Truth,
        e.formula.regroup.truth u = e.formula.truth u := by
      intro u
      let v : Expr → Truth := fun e => u (.operand e)
      have agree : ∀ a ∈ e.formula.atoms, LogicalAtom.truth v a = u a := by
        rw [atoms]
        intro a inLeaves
        obtain ⟨leaf, -, rfl⟩ := List.mem_map.mp inLeaves
        rfl
      rw [← Formula.truth_regroup_congr agree, ← Formula.truth_congr agree, same v,
        truth_formula]
    have fine := (Formula.truth_regroup_iff distinctAtoms).mp everywhere
    rw [hasBareDisjunction_formula_iff] at fine
    intro d connective loses
    exact fine ⟨d, connective, loses⟩
  · intro keeps v
    exact truth_regroup keeps v

/-- The text of an expression is that of the tokens of its connectives and their operands, and
a formula is read from these.  It is as true as the expression, whatever the truth of the
operands, if no conjunction has an operand that is written as a disjunction without
parentheses; and only then, if the operands are all different and no connective is
empty. -/
theorem connectives_keep_truth (e : Expr) :
    ∃ f : Formula LogicalAtom,
      (∀ {σ : Type} (w : ValueWriter σ),
        (e.connectiveLayout.template LogicalAtom.template).write w = e.write w) ∧
      Grammar.read e.connectiveLayout.reduceOption = some f.tree ∧
      ((∀ d ∈ e.connected, ¬ d.LosesGrouping) →
        ∀ v : Expr → Truth, f.truth (LogicalAtom.truth v) = e.truth v) ∧
      (e.leaves.Nodup → (∀ d ∈ e.connected, ∀ op, d ≠ .logical op []) →
        ((∀ v : Expr → Truth, f.truth (LogicalAtom.truth v) = e.truth v) ↔
          ∀ d ∈ e.connected, ¬ d.LosesGrouping)) := by
  refine ⟨e.formula.regroup, fun w => ?_, ?_, truth_regroup, truth_regroup_iff⟩
  · rw [connectiveLayout, write_layout, write_formula, write_eq_template]
  · rw [connectiveLayout, reduceOption_layout]
    exact e.formula.read_tokens

/-- A disjunction in a connective of one operand, as an operand of a conjunction.  If its
first operand is true and the rest is false, so is the conjunction, but what is read from
its text is true. -/
theorem wrapped_disjunction_loses_grouping :
    ∃ e : Expr, e = .logical .and [.logical .or [.logical .or [.column "a", .column "b"]],
        .column "c"] ∧
      e.sql = "a OR b AND c" ∧
      ∃ f : Formula LogicalAtom, Grammar.read e.connectiveLayout.reduceOption = some f.tree ∧
        ∃ v : Expr → Truth, e.truth v = .false ∧ f.truth (LogicalAtom.truth v) = .true := by
  let onlyA : Expr → Truth
    | .column name => if name = "a" then .true else .false
    | _ => .false
  refine ⟨_, rfl, rfl, .joined (.atom (.operand (.column "a"))) .or
    (.joined (.atom (.operand (.column "b"))) .and (.atom (.operand (.column "c")))), rfl,
    onlyA, ?_, ?_⟩
  · decide
  · decide

end Expr

end SqlCompose
