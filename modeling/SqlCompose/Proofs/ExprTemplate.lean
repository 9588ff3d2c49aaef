/-
# Templates of expressions

The template of an expression, by recursion on the expression alone, and the simulation
that ties it to the pass: whatever becomes of the values, writing an expression is
writing its template (`Expr.write_eq_template`).  A constant and a placeholder are then
two readings of one tree, and everything that holds of both is proved of the tree.
-/

import SqlCompose.Expr.Writing
import SqlCompose.Proofs.Template

namespace SqlCompose

namespace Value

mutual

/-- The template of a value. -/
def template : Value → Template
  | .array items =>
    Template.enclosed "ARRAY[" (Template.separated ", " (templates items)) "]"
  | .null => .text (literal .null)
  | .bool b => .text (literal (.bool b))
  | v => .value v

/-- The templates of the items of a list. -/
def templates : List Value → List Template
  | [] => []
  | item :: rest => template item :: templates rest

end

mutual

theorem write_eq_template {σ : Type} (w : ValueWriter σ) :
    ∀ v : Value, v.write w = v.template.write w
  | .array items => by simp [write, template, arrayText, writeAll_eq_templates w items]
  | .null | .bool _ | .int _ | .float _ | .text _ | .json _ | .date _ | .timestamp _
  | .uuid _ => by simp [write, template]

theorem writeAll_eq_templates {σ : Type} (w : ValueWriter σ) :
    ∀ items : List Value, writeAll w items = (templates items).mapM (Template.write w)
  | [] => by simp [writeAll, templates]
  | item :: rest => by
      simp [writeAll, templates, write_eq_template w item, writeAll_eq_templates w rest]

end

end Value

theorem Value.templates_eq (items : List Value) : templates items = items.map template := by
  induction items with
  | nil => rfl
  | cons item rest ih => simp [templates, ih]

namespace Expr

/-- The template of a comparison with a constant. -/
def constantTemplate (left : Expr) (leftTemplate : Template) (op : Comparison) (right : Value) :
    Template :=
  match op, right with
  | .eq, .null | .is, .null => .bracketed left.isInfix leftTemplate ++ .text " IS NULL"
  | .ne, .null | .isNot, .null => .bracketed left.isInfix leftTemplate ++ .text " IS NOT NULL"
  | .isIn, .array [] => leftTemplate.silenced ++ .text "FALSE"
  | .notIn, .array [] => leftTemplate.silenced ++ .text "TRUE"
  | .isIn, .array items | .notIn, .array items =>
    .bracketed left.isInfix leftTemplate ++ .text (" " ++ op.symbol ++ " ") ++
      .bracketed true (.separated ", " (Value.templates items))
  | _, _ =>
    .bracketed left.isInfix leftTemplate ++ .text (" " ++ op.symbol ++ " ") ++
      .bracketed op.takesList right.template

mutual

/-- The template of an expression. -/
def template : Expr → Template
  | .star => .text "*"
  | .column name => .text (Identifier.quoteQualified name)
  | .literal value => value.template
  | .raw sql => .text sql
  | .call name args => .enclosed (name ++ "(") (.separated ", " (templates args)) ")"
  | .keywordCall name args =>
    .enclosed (name ++ "(") (.separated " " (argumentTemplates args)) ")"
  | .binary left op right =>
    .bracketed left.isInfix left.template ++ .text (" " ++ op.symbol ++ " ") ++
      .bracketed right.isInfix right.template
  | .cast expr type => .enclosed "CAST(" expr.template (" AS " ++ type ++ ")")
  | .compare left op right =>
    match right with
    | .literal value => constantTemplate left left.template op value
    | .array items =>
      .bracketed left.isInfix left.template ++ .text (" " ++ op.symbol ++ " ") ++
        .enclosed (if op.takesList then "(" else "ARRAY[") (.separated ", " (templates items))
          (if op.takesList then ")" else "]")
    | right =>
      .bracketed left.isInfix left.template ++ .text (" " ++ op.symbol ++ " ") ++
        .bracketed (op.takesList || right.isInfix) right.template
  | .between expr low high symmetric =>
    .bracketed expr.isInfix expr.template ++
      .text (if symmetric then " BETWEEN SYMMETRIC " else " BETWEEN ") ++
      .bracketed low.isInfix low.template ++ .text " AND " ++
      .bracketed high.isInfix high.template
  | .logical op [] => .text op.neutral
  | .logical _ [single] => single.template
  | .logical op operands =>
    .separated (" " ++ op.keyword ++ " ") (operandTemplates operands)
  | .jsonAccess base path asText =>
    .bracketed base.isInfix base.template ++ .text (path.access asText)
  | .array items => .enclosed "ARRAY[" (.separated ", " (templates items)) "]"
  | .aggregate name args distinct withinGroup =>
    let call : Template := .enclosed (name ++ "(" ++ (if distinct then "DISTINCT " else ""))
      (.separated ", " (templates args)) ")"
    match withinGroup with
    | none => call
    | some order => call ++ .enclosed " WITHIN GROUP (ORDER BY " order.template ")"
  | .window function clauses =>
    .crossed function.template
      (.enclosed " OVER (" (.separated " " (clauseTemplates clauses)) ")")
  | .aliased expr name => expr.template ++ .text (" AS " ++ Identifier.quote name)

/-- The templates of expressions. -/
def templates : List Expr → List Template
  | [] => []
  | expr :: rest => expr.template :: templates rest

/-- The templates of the operands of a connective. -/
def operandTemplates : List Expr → List Template
  | [] => []
  | expr :: rest => .bracketed expr.isCompoundLogical expr.template :: operandTemplates rest

/-- The templates of arguments with their keywords before them. -/
def argumentTemplates : List KeywordArgument → List Template
  | [] => []
  | ⟨some keyword, arg⟩ :: rest =>
    (.text (keyword ++ " ") ++ arg.template) :: argumentTemplates rest
  | ⟨none, arg⟩ :: rest => arg.template :: argumentTemplates rest

/-- The templates of the keys of an order. -/
def keyTemplates : List SortKey → List Template
  | [] => []
  | ⟨expr, order⟩ :: rest =>
    (expr.template ++ .text (" " ++ order.keyword)) :: keyTemplates rest

/-- The templates of the clauses of a window. -/
def clauseTemplates : List WindowClause → List Template
  | [] => []
  | clause :: rest => clauseTemplate clause :: clauseTemplates rest

/-- The template of a clause of a window. -/
def clauseTemplate : WindowClause → Template
  | .partitionBy exprs => .text "PARTITION BY " ++ .separated ", " (templates exprs)
  | .orderBy keys => .text "ORDER BY " ++ .separated ", " (keyTemplates keys)
  | .frame unit extent => .text (unit.keyword ++ " " ++ extent.text)
  | .exclude exclusion => .text ("EXCLUDE " ++ exclusion.keyword)

end

theorem templates_eq (es : List Expr) : templates es = es.map template := by
  induction es with
  | nil => rfl
  | cons e rest ih => simp [templates, ih]

theorem operandTemplates_eq (es : List Expr) :
    operandTemplates es = es.map fun e => .bracketed e.isCompoundLogical e.template := by
  induction es with
  | nil => rfl
  | cons e rest ih => simp [operandTemplates, ih]

theorem argumentTemplates_eq (args : List KeywordArgument) :
    argumentTemplates args = args.map fun a => match a.keyword with
      | some keyword => .text (keyword ++ " ") ++ a.arg.template
      | none => a.arg.template := by
  induction args with
  | nil => rfl
  | cons a rest ih =>
      obtain ⟨keyword, arg⟩ := a
      cases keyword <;> simp [argumentTemplates, ih]

theorem keyTemplates_eq (keys : List SortKey) :
    keyTemplates keys =
      keys.map fun key => key.expr.template ++ .text (" " ++ key.order.keyword) := by
  induction keys with
  | nil => rfl
  | cons key rest ih =>
      obtain ⟨e, order⟩ := key
      rw [keyTemplates, ih, List.map_cons]

theorem clauseTemplates_eq (clauses : List WindowClause) :
    clauseTemplates clauses = clauses.map clauseTemplate := by
  induction clauses with
  | nil => rfl
  | cons clause rest ih => rw [clauseTemplates, ih, List.map_cons]

theorem template_logical (op : Connective) (first second : Expr) (rest : List Expr) :
    (logical op (first :: second :: rest)).template =
      .separated (" " ++ op.keyword ++ " ")
        ((first :: second :: rest).map fun e => .bracketed e.isCompoundLogical e.template) := by
  simp [template, operandTemplates_eq]

/-- A constant that is neither NULL nor a list is compared as it is written. -/
theorem constantTemplate_single (left : Expr) (leftTemplate : Template) (op : Comparison)
    {v : Value} (notNull : v ≠ .null) (noList : ∀ items, v ≠ .array items) :
    constantTemplate left leftTemplate op v =
      .bracketed left.isInfix leftTemplate ++ .text (" " ++ op.symbol ++ " ") ++
        .bracketed op.takesList v.template := by
  unfold constantTemplate
  split
  case h_1 | h_2 | h_3 | h_4 => exact (notNull rfl).elim
  case h_5 | h_6 | h_7 | h_8 => exact (noList _ rfl).elim
  case h_9 => rfl

/-- A list of constants with items is compared as a list of expressions is. -/
theorem constantTemplate_list (left : Expr) (leftTemplate : Template) (op : Comparison)
    (item : Value) (rest : List Value) :
    constantTemplate left leftTemplate op (.array (item :: rest)) =
      .bracketed left.isInfix leftTemplate ++ .text (" " ++ op.symbol ++ " ") ++
        .enclosed (if op.takesList then "(" else "ARRAY[")
          (.separated ", " ((item :: rest).map Value.template))
          (if op.takesList then ")" else "]") := by
  cases op <;> simp [constantTemplate, Comparison.takesList, Template.bracketed, Value.template,
    Value.templates_eq]

variable {σ : Type} (w : ValueWriter σ)

/-- A comparison with a constant is written as its template, if its left side is. -/
theorem writeConstant_eq_template (left : Expr) (op : Comparison) (right : Value)
    (written : left.write w = left.template.write w) :
    (do writeConstant w (bracketed left.isInfix (← left.write w)) op right) =
      (constantTemplate left left.template op right).write w := by
  unfold writeConstant constantTemplate
  split <;>
    simp [written, bracketed, listed, Value.write_eq_template, Value.writeAll_eq_templates,
      String.append_assoc]

/-- A comparison of two expressions is written as its template, if its sides are. -/
theorem write_compare_eq_template (left : Expr) (op : Comparison) (right : Expr)
    (noConstant : ∀ v, right ≠ .literal v) (noArray : ∀ items, right ≠ .array items)
    (leftWritten : left.write w = left.template.write w)
    (rightWritten : right.write w = right.template.write w) :
    (compare left op right).write w = (compare left op right).template.write w := by
  simp [write, template, leftWritten, rightWritten, bracketed, String.append_assoc]

mutual

/-- Writing an expression is writing its template, whatever becomes of the values. -/
theorem write_eq_template : ∀ e : Expr, e.write w = e.template.write w
  | .star => by simp [write, template]
  | .column _ => by simp [write, template]
  | .literal v => by simp [write, template, Value.write_eq_template]
  | .raw _ => by simp [write, template]
  | .call name args => by simp [write, template, listed, writeAll_eq_templates args]
  | .keywordCall name args => by simp [write, template, writeArguments_eq_templates args]
  | .binary left op right => by
      simp [write, template, write_eq_template left, write_eq_template right, bracketed,
        String.append_assoc]
  | .cast expr type => by simp [write, template, write_eq_template expr, String.append_assoc]
  | .compare left op right => by
      have leftWritten := write_eq_template left
      have rightWritten := write_eq_template right
      cases right with
      | literal value =>
          simpa [write, template] using writeConstant_eq_template w left op value leftWritten
      | array items =>
          cases takes : op.takesList <;>
            simp [write, template, leftWritten, writeAll_eq_templates items, bracketed, listed,
              takes, String.append_assoc]
      | _ =>
          exact write_compare_eq_template w left op _ (by simp) (by simp) leftWritten rightWritten
  | .between expr low high symmetric => by
      simp [write, template, write_eq_template expr, write_eq_template low,
        write_eq_template high, bracketed, String.append_assoc]
  | .logical op [] => by simp [write, template]
  | .logical op [single] => by simp [write, template, write_eq_template single]
  | .logical op (first :: second :: rest) => by
      simp [write, template, writeOperands_eq_templates (first :: second :: rest)]
  | .jsonAccess base path asText => by
      simp [write, template, write_eq_template base, bracketed]
  | .array items => by simp [write, template, listed, writeAll_eq_templates items]
  | .aggregate name args distinct none => by
      simp [write, template, listed, writeAll_eq_templates args]
  | .aggregate name args distinct (some order) => by
      simp [write, template, listed, writeAll_eq_templates args, write_eq_template order,
        String.append_assoc, -String.reduceAppend]
  | .window function clauses => by
      simp [write, template, write_eq_template function, writeClauses_eq_templates clauses,
        String.append_assoc]
  | .aliased expr name => by
      simp [write, template, write_eq_template expr, String.append_assoc]

theorem writeAll_eq_templates :
    ∀ es : List Expr, writeAll w es = (templates es).mapM (Template.write w)
  | [] => by simp [writeAll, templates]
  | e :: rest => by simp [writeAll, templates, write_eq_template e, writeAll_eq_templates rest]

theorem writeOperands_eq_templates :
    ∀ es : List Expr, writeOperands w es = (operandTemplates es).mapM (Template.write w)
  | [] => by simp [writeOperands, operandTemplates]
  | e :: rest => by
      simp [writeOperands, operandTemplates, write_eq_template e,
        writeOperands_eq_templates rest, bracketed]

theorem writeArguments_eq_templates :
    ∀ args : List KeywordArgument,
      writeArguments w args = (argumentTemplates args).mapM (Template.write w)
  | [] => by simp [writeArguments, argumentTemplates]
  | ⟨some keyword, arg⟩ :: rest => by
      simp [writeArguments, argumentTemplates, write_eq_template arg,
        writeArguments_eq_templates rest]
  | ⟨none, arg⟩ :: rest => by
      simp [writeArguments, argumentTemplates, write_eq_template arg,
        writeArguments_eq_templates rest]

theorem writeKeys_eq_templates :
    ∀ keys : List SortKey, writeKeys w keys = (keyTemplates keys).mapM (Template.write w)
  | [] => by simp [writeKeys, keyTemplates]
  | ⟨e, order⟩ :: rest => by
      simp [writeKeys, keyTemplates, write_eq_template e, writeKeys_eq_templates rest,
        String.append_assoc]

theorem writeClauses_eq_templates :
    ∀ clauses : List WindowClause,
      writeClauses w clauses = (clauseTemplates clauses).mapM (Template.write w)
  | [] => by simp [writeClauses, clauseTemplates]
  | clause :: rest => by
      simp [writeClauses, clauseTemplates, writeClause_eq_template clause,
        writeClauses_eq_templates rest]

theorem writeClause_eq_template :
    ∀ clause : WindowClause, writeClause w clause = (clauseTemplate clause).write w
  | .partitionBy exprs => by simp [writeClause, clauseTemplate, listed, writeAll_eq_templates exprs]
  | .orderBy keys => by simp [writeClause, clauseTemplate, listed, writeKeys_eq_templates keys]
  | .frame _ _ => by simp [writeClause, clauseTemplate]
  | .exclude _ => by simp [writeClause, clauseTemplate]

end

end Expr

end SqlCompose
