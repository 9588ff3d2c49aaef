/-
# Lists of constants

A comparison with several values can be given them in two forms: as one list of constants, or as a
list of expressions that are constants.  Both are written item by item, in parentheses behind IN
and NOT IN and as an array behind every other operator, so it should not matter which form
is chosen, and typing a comparison may turn the one into the other.

It does matter in one case.  Nothing is in a list without items, so a comparison of this kind is
decided before it is written, but only if its list is one of constants.  The other form is
written out, with nothing between its parentheses (`Expr.constant_lists_agree`).
-/

import SqlCompose.Proofs.Placeholders

namespace SqlCompose

namespace Expr

variable (left : Expr) (op : Comparison) (vs : List Value)

theorem templates_literals : templates (vs.map literal) = vs.map Value.template := by
  rw [templates_eq, List.map_map]
  rfl

/-- The two forms of a list have one template, unless it is empty and asked for its members. -/
theorem template_lists (notEmpty : ¬ (op.takesList = true ∧ vs = [])) :
    (compare left op (.literal (.array vs))).template =
      (compare left op (.array (vs.map literal))).template := by
  cases vs with
  | nil =>
      have noList : op.takesList = false := by simpa using notEmpty
      cases op <;> simp [Comparison.takesList] at noList <;> rfl
  | cons item rest =>
      rw [template, constantTemplate_list, template, templates_literals]

section Writing

variable {σ : Type} (w : ValueWriter σ) (kept : σ)

theorem write_lists (notEmpty : ¬ (op.takesList = true ∧ vs = [])) :
    (compare left op (.literal (.array vs))).write w =
      (compare left op (.array (vs.map literal))).write w := by
  rw [write_eq_template, write_eq_template, template_lists left op vs notEmpty]

/-- A comparison with an empty list of constants is decided, after its left side was written. -/
theorem write_emptyConstants (takesList : op.takesList = true) :
    (compare left op (.literal (.array []))).write w kept =
      (if op = .isIn then "FALSE" else "TRUE", (left.write w kept).2) := by
  cases op <;> simp [Comparison.takesList] at takesList <;> rfl

/-- A comparison with an empty list of expressions is written out. -/
theorem write_emptyArray (takesList : op.takesList = true) :
    (compare left op (.array [])).write w kept =
      (bracketed left.isInfix (left.write w kept).1 ++ " " ++ op.symbol ++ " ()",
        (left.write w kept).2) := by
  simp [write, writeAll, listed, takesList, Template.bind_run, Template.pure_run,
    String.append_assoc]

theorem decided_ne_membership (text : String) :
    (if op = .isIn then "FALSE" else "TRUE") ≠ text ++ " ()" := by
  intro same
  have last := congrArg (fun s : String => s.toList.getLast?) same
  split at last <;> simp at last

/-- The same values are bound for both forms of a list, and what is written for the one is written
for the other unless the list is empty and asked for its members. -/
theorem write_lists_iff :
    ((compare left op (.literal (.array vs))).write w kept).2 =
        ((compare left op (.array (vs.map literal))).write w kept).2 ∧
      (((compare left op (.literal (.array vs))).write w kept).1 =
          ((compare left op (.array (vs.map literal))).write w kept).1 ↔
        ¬ (op.takesList = true ∧ vs = [])) := by
  by_cases empty : op.takesList = true ∧ vs = []
  · obtain ⟨takesList, rfl⟩ := empty
    rw [write_emptyConstants left op w kept takesList, List.map_nil,
      write_emptyArray left op w kept takesList]
    exact ⟨rfl, iff_of_false (decided_ne_membership op _) (not_not_intro ⟨takesList, rfl⟩)⟩
  · rw [write_lists left op vs w empty]
    exact ⟨rfl, iff_of_true rfl empty⟩

end Writing

/-- A list of constants and the list of the same constants as expressions are written alike, with
constants and with placeholders, and the same values are bound for them, unless the list is empty
and a comparison asks for its members.  Then the first form is decided, and the second is written
out with empty parentheses. -/
theorem constant_lists_agree :
    let constants := compare left op (.literal (.array vs))
    let exprs := compare left op (.array (vs.map literal))
    (constants.sql = exprs.sql ↔ ¬ (op.takesList = true ∧ vs = [])) ∧
      (∀ b, (constants.bind b).2 = (exprs.bind b).2 ∧
        ((constants.bind b).1 = (exprs.bind b).1 ↔ ¬ (op.takesList = true ∧ vs = []))) ∧
      (op.takesList = true → vs = [] →
        constants.sql = (if op = .isIn then "FALSE" else "TRUE") ∧
          exprs.sql = bracketed left.isInfix left.sql ++ " " ++ op.symbol ++ " ()" ∧
          ∀ b, (constants.bind b).1 = (if op = .isIn then "FALSE" else "TRUE") ∧
            (exprs.bind b).1 =
              bracketed left.isInfix (left.bind b).1 ++ " " ++ op.symbol ++ " ()") := by
  refine ⟨(write_lists_iff left op vs ValueWriter.constants ()).2,
    fun b => write_lists_iff left op vs ValueWriter.placeholders b, ?_⟩
  rintro takesList rfl
  have decided {σ : Type} (w : ValueWriter σ) (kept : σ) :=
    congrArg Prod.fst (write_emptyConstants left op w kept takesList)
  have writtenOut {σ : Type} (w : ValueWriter σ) (kept : σ) :=
    congrArg Prod.fst (write_emptyArray left op w kept takesList)
  exact ⟨decided ValueWriter.constants (), writtenOut ValueWriter.constants (),
    fun b => ⟨decided ValueWriter.placeholders b, writtenOut ValueWriter.placeholders b⟩⟩

/-- Every row is outside of an empty list, and only the list of constants says so. -/
theorem outside_of_nothing :
    (compare (.column "id") .notIn (.literal (.array []))).sql = "TRUE" ∧
      (compare (.column "id") .notIn (.array ([].map literal))).sql = "id NOT IN ()" := by
  obtain ⟨-, -, empty⟩ := constant_lists_agree (.column "id") .notIn []
  obtain ⟨decided, writtenOut, -⟩ := empty rfl rfl
  exact ⟨decided, writtenOut⟩

/-- Nothing is in an empty list, but as a list of expressions it is written out. -/
theorem empty_array_is_written_out :
    (compare (.column "id") .isIn (.literal (.array []))).sql = "FALSE" ∧
      (compare (.column "id") .isIn (.array ([].map literal))).sql = "id IN ()" ∧
      (compare (.column "id") .isIn (.array ([].map literal))).sql ≠ "FALSE" := by
  decide +kernel

end Expr

end SqlCompose
