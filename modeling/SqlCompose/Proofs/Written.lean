/-
# Written expressions

An expression is written from the expressions in it.  All of them are written, but for
the operands of a comparison that is decided at once: nothing is in an empty list, so
neither side of it is looked at.  A condition on the parts of a template is a condition
on the written expressions one by one (`Expr.all_template_iff`), which is how a fact
about a whole text becomes one about single nodes.
-/

import SqlCompose.Proofs.ExprTemplate
import SqlCompose.Proofs.Numbering

namespace SqlCompose

/-- The expressions of a clause of a window. -/
def WindowClause.exprs : WindowClause → List Expr
  | .partitionBy exprs => exprs
  | .orderBy keys => keys.map SortKey.expr
  | .frame _ _ | .exclude _ => []

namespace Expr

/-- Whether a comparison with this right side is decided at once: nothing is in an empty
list of constants. -/
def isDecided (op : Comparison) : Expr → Bool
  | .literal (.array []) => op.takesList
  | _ => false

/-- The expressions that an expression is directly written from. -/
def children : Expr → List Expr
  | .star | .column _ | .literal _ | .raw _ => []
  | .call _ args => args
  | .keywordCall _ args => args.map KeywordArgument.arg
  | .binary left _ right => [left, right]
  | .cast expr _ => [expr]
  | .compare left op right => if right.isDecided op then [] else [left, right]
  | .between expr low high _ => [expr, low, high]
  | .logical _ operands => operands
  | .jsonAccess base _ _ => [base]
  | .array items => items
  | .aggregate _ args _ withinGroup => args ++ withinGroup.toList
  | .window function clauses => function :: clauses.flatMap WindowClause.exprs
  | .aliased expr _ => [expr]

theorem sizeOf_lt_of_mem_exprs {clause : WindowClause} {c : Expr} (inClause : c ∈ clause.exprs) :
    sizeOf c < sizeOf clause := by
  cases clause with
  | partitionBy exprs =>
      have := List.sizeOf_lt_of_mem (show c ∈ exprs from inClause)
      simp
      omega
  | orderBy keys =>
      obtain ⟨⟨e, order⟩, inKeys, rfl⟩ := List.mem_map.mp inClause
      have := List.sizeOf_lt_of_mem inKeys
      simp at this ⊢
      omega
  | frame unit extent | exclude exclusion => simp [WindowClause.exprs] at inClause

theorem sizeOf_lt_of_mem_children {e c : Expr} (child : c ∈ e.children) : sizeOf c < sizeOf e := by
  cases e with
  | star | column name | literal value | raw sql => simp [children] at child
  | call name items | logical op items | array items =>
      have := List.sizeOf_lt_of_mem (show c ∈ items from child)
      simp
      omega
  | keywordCall name args =>
      obtain ⟨⟨keyword, arg⟩, inArgs, rfl⟩ := List.mem_map.mp child
      have := List.sizeOf_lt_of_mem inArgs
      simp at this ⊢
      omega
  | binary left op right =>
      rw [binary.sizeOf_spec]
      rcases List.mem_pair.mp child with rfl | rfl
      · omega
      · omega
  | compare left op right =>
      rw [children] at child
      split at child
      · simp at child
      · rw [compare.sizeOf_spec]
        rcases List.mem_pair.mp child with rfl | rfl
        · omega
        · omega
  | between expr low high symmetric =>
      simp only [children, List.mem_cons, List.not_mem_nil, or_false] at child
      rcases child with rfl | rfl | rfl <;> simp <;> omega
  | cast expr _ | jsonAccess expr _ _ | aliased expr _ =>
      obtain rfl := List.mem_singleton.mp child
      simp
      omega
  | aggregate name args distinct withinGroup =>
      rcases List.mem_append.mp child with inArgs | inOrder
      · have := List.sizeOf_lt_of_mem inArgs
        simp
        omega
      · obtain rfl := Option.mem_toList.mp inOrder
        simp
        omega
  | window function clauses =>
      rcases List.mem_cons.mp child with rfl | inClauses
      · simp
        omega
      · obtain ⟨clause, inClauses, inClause⟩ := List.mem_flatMap.mp inClauses
        have := List.sizeOf_lt_of_mem inClauses
        have := sizeOf_lt_of_mem_exprs inClause
        simp
        omega

/-- What holds of an expression whenever it holds of those that it is written from holds of
all expressions. -/
theorem children_induction {motive : Expr → Prop}
    (step : ∀ e, (∀ c ∈ e.children, motive c) → motive e) (e : Expr) : motive e :=
  step e fun c _ => children_induction step c
termination_by sizeOf e
decreasing_by exact sizeOf_lt_of_mem_children ‹_›

/-- The expression and the expressions in it, as far as they are written. -/
def written (e : Expr) : List Expr :=
  e :: e.children.attach.flatMap fun c => c.1.written
termination_by sizeOf e
decreasing_by exact sizeOf_lt_of_mem_children c.2

theorem written_eq (e : Expr) : e.written = e :: e.children.flatMap written := by
  rw [written]
  simp

theorem self_mem_written (e : Expr) : e ∈ e.written := by
  simp [written_eq e]

/-- What holds of all that is written holds of the expression, and of all that is written
of its children. -/
theorem forall_mem_written {P : Expr → Prop} {e : Expr} :
    (∀ d ∈ e.written, P d) ↔ P e ∧ ∀ c ∈ e.children, ∀ d ∈ c.written, P d := by
  simp only [written_eq e, List.forall_mem_cons, List.mem_flatMap]
  apply and_congr_right
  intro _
  constructor
  · intro all c child d inChild
    exact all d ⟨c, child, inChild⟩
  · rintro all d ⟨c, child, inChild⟩
    exact all c child d inChild

/-- The template of the window behind its function. -/
def overTemplate (clauses : List WindowClause) : Template :=
  .enclosed " OVER (" (.separated " " (clauseTemplates clauses)) ")"

/-- What `Template.All` asks of an expression itself. -/
def Locally (silence : Template → Prop) (crossing : Template → Template → Prop) : Expr → Prop
  | .compare left op right => right.isDecided op = true → silence left.template
  | .window function clauses => crossing function.template (overTemplate clauses)
  | _ => True

section All

variable {silence : Template → Prop} {crossing : Template → Template → Prop}

mutual

theorem all_valueTemplate : ∀ v : Value, v.template.All silence crossing
  | .array items => by simpa [Value.template] using all_valueTemplates items
  | .null | .bool _ | .int _ | .float _ | .text _ | .json _ | .date _ | .timestamp _
  | .uuid _ => trivial

theorem all_valueTemplates :
    ∀ items : List Value, ∀ t ∈ Value.templates items, t.All silence crossing
  | [] => by simp [Value.templates]
  | item :: rest => by
      simpa [Value.templates, all_valueTemplate item] using all_valueTemplates rest

end

theorem isDecided_literal_iff (op : Comparison) (v : Value) :
    (literal v).isDecided op = true ↔ op.takesList = true ∧ v = .array [] := by
  cases v with
  | array items => cases items <;> simp [isDecided]
  | _ => simp [isDecided]

theorem all_constantTemplate (left : Expr) (op : Comparison) (v : Value) :
    (constantTemplate left left.template op v).All silence crossing ↔
      if (literal v).isDecided op then silence left.template
      else left.template.All silence crossing := by
  by_cases decided : (literal v).isDecided op = true
  · obtain ⟨takes, rfl⟩ := (isDecided_literal_iff op v).mp decided
    rw [if_pos decided]
    cases op <;> simp [Comparison.takesList] at takes <;> simp [constantTemplate]
  · rw [if_neg decided]
    rw [isDecided_literal_iff] at decided
    unfold constantTemplate
    split
    case h_5 | h_6 => simp [Comparison.takesList] at decided
    case h_7 items _ | h_8 items _ =>
      simpa using fun _ => all_valueTemplates items
    all_goals simp [all_valueTemplate]

/-- A comparison of two expressions is not decided at once. -/
theorem all_compare_iff (left : Expr) (op : Comparison) (right : Expr)
    (noConstant : ∀ v, right ≠ .literal v) (noArray : ∀ items, right ≠ .array items) :
    (compare left op right).template.All silence crossing ↔
      left.template.All silence crossing ∧ right.template.All silence crossing := by
  simp [template]

theorem all_templates_iff (es : List Expr) :
    (∀ t ∈ templates es, t.All silence crossing) ↔ ∀ c ∈ es, c.template.All silence crossing := by
  rw [templates_eq, List.forall_mem_map]

theorem all_operandTemplates_iff (es : List Expr) :
    (∀ t ∈ operandTemplates es, t.All silence crossing) ↔
      ∀ c ∈ es, c.template.All silence crossing := by
  simp [operandTemplates_eq]

theorem all_argumentTemplates_iff (args : List KeywordArgument) :
    (∀ t ∈ argumentTemplates args, t.All silence crossing) ↔
      ∀ c ∈ args.map KeywordArgument.arg, c.template.All silence crossing := by
  rw [argumentTemplates_eq, List.forall_mem_map, List.forall_mem_map]
  apply forall₂_congr
  intro a _
  cases a.keyword <;> simp

theorem all_keyTemplates_iff (keys : List SortKey) :
    (∀ t ∈ keyTemplates keys, t.All silence crossing) ↔
      ∀ c ∈ keys.map SortKey.expr, c.template.All silence crossing := by
  simp [keyTemplates_eq]

theorem all_clauseTemplates_iff (clauses : List WindowClause) :
    (∀ t ∈ clauseTemplates clauses, t.All silence crossing) ↔
      ∀ c ∈ clauses.flatMap WindowClause.exprs, c.template.All silence crossing := by
  have ofClause (clause : WindowClause) : (clauseTemplate clause).All silence crossing ↔
      ∀ c ∈ clause.exprs, c.template.All silence crossing := by
    cases clause with
    | partitionBy exprs =>
        simpa [clauseTemplate, WindowClause.exprs] using all_templates_iff exprs
    | orderBy keys => simpa [clauseTemplate, WindowClause.exprs] using all_keyTemplates_iff keys
    | frame unit extent | exclude exclusion => simp [clauseTemplate, WindowClause.exprs]
  simp only [clauseTemplates_eq, List.forall_mem_map, ofClause, List.forall_mem_flatMap]

/-- A condition on the parts of a template, of an expression and its children. -/
theorem all_template_children (e : Expr) :
    e.template.All silence crossing ↔
      e.Locally silence crossing ∧ ∀ c ∈ e.children, c.template.All silence crossing := by
  cases e with
  | star | column name | raw sql => simp [template, Locally, children]
  | literal v => simp [template, Locally, children, all_valueTemplate]
  | call name items | array items => simp [template, Locally, children, all_templates_iff]
  | keywordCall name args =>
      simpa [template, Locally, children] using all_argumentTemplates_iff args
  | binary left op right => simp [template, Locally, children]
  | cast expr type | jsonAccess expr path asText | aliased expr name =>
      simp [template, Locally, children]
  | compare left op right =>
      cases right with
      | literal v =>
          cases decided : (literal v).isDecided op <;>
            simp [template, Locally, children, all_constantTemplate, decided, all_valueTemplate]
      | array items => simp [template, Locally, children, isDecided, all_templates_iff]
      | _ =>
          rw [all_compare_iff left op _ (by simp) (by simp)]
          simp [Locally, children, isDecided]
  | between expr low high symmetric => simp [template, Locally, children, and_assoc]
  | logical op operands =>
      match operands with
      | [] | [single] => simp [template, Locally, children]
      | first :: second :: rest =>
          simpa [template, Locally, children] using
            all_operandTemplates_iff (first :: second :: rest)
  | aggregate name args distinct withinGroup =>
      cases withinGroup <;>
        simp [template, Locally, children, all_templates_iff, or_imp, forall_and]
  | window function clauses =>
      simp [template, Locally, children, overTemplate, all_clauseTemplates_iff]

/-- A condition on the parts of a template is met exactly if every written expression
meets it. -/
theorem all_template_iff (e : Expr) :
    e.template.All silence crossing ↔ ∀ d ∈ e.written, d.Locally silence crossing := by
  induction e using children_induction with
  | step e ih =>
      rw [all_template_children, forall_mem_written]
      apply and_congr_right
      intro _
      exact forall₂_congr ih

end All

end Expr

end SqlCompose
