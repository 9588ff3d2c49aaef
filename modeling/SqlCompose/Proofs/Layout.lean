/-
# From trees to texts

The text of a tree of operators is the texts of its tokens, with blanks around all
operators but the steps into documents.  What a token looks like does not depend on where
it stands, so a text laid out in this way has the tokens of the tree and nothing else
(`reduceOption_layout`).
-/

import SqlCompose.Proofs.Grammar
import SqlCompose.Proofs.Template
import Mathlib.Data.List.ReduceOption

namespace SqlCompose.Grammar

variable {α : Type}

/-- The text of a token, given the texts of the operands. -/
def Token.template (spell : α → Template) : Token α → Template
  | .atom a => spell a
  | .opening => .text "("
  | .closing => .text ")"
  | .operator op => .text op.symbol
  | .between symmetric => .text (if symmetric then "BETWEEN SYMMETRIC" else "BETWEEN")
  | .cast type => .text ("::" ++ type)

/-- A row of tokens with the blanks among them. -/
abbrev Layout (α : Type) : Type :=
  List (Option (Token α))

/-- The text of a layout, given the texts of the operands. -/
def Layout.template (spell : α → Template) : Layout α → Template
  | [] => .text ""
  | none :: rest => .text " " ++ Layout.template spell rest
  | some token :: rest => token.template spell ++ Layout.template spell rest

/-- An operator with its blanks. -/
def Operator.layout (op : Operator) : Layout α :=
  match op with
  | .arrow _ => [some (.operator op)]
  | _ => [none, some (.operator op), none]

/-- The keywords of a range with their blanks. -/
def rangeLayout (symmetric : Bool) : Layout α :=
  [none, some (.between symmetric), none]

namespace SyntaxTree

/-- The tokens of a tree with the blanks among them. -/
def layout : SyntaxTree α → Layout α
  | .atom a => [some (.atom a)]
  | .group inner => some .opening :: (inner.layout ++ [some .closing])
  | .negated operand => some (.operator sign) :: operand.layout
  | .cast operand type => operand.layout ++ [some (.cast type)]
  | .operation left op right => left.layout ++ (op.layout ++ right.layout)
  | .range expr low high symmetric =>
    expr.layout ++ (rangeLayout symmetric ++
      (low.layout ++ (conjunction.layout ++ high.layout)))

/-- The text of a tree, given the texts of the operands. -/
def template (spell : α → Template) : SyntaxTree α → Template
  | .atom a => spell a
  | .group inner => .enclosed "(" (inner.template spell) ")"
  | .negated operand => .text "-" ++ operand.template spell
  | .cast operand type => operand.template spell ++ .text ("::" ++ type)
  | .operation left op right =>
    left.template spell ++ op.layout.template spell ++ right.template spell
  | .range expr low high symmetric =>
    expr.template spell ++ (rangeLayout symmetric).template spell ++ low.template spell ++
      conjunction.layout.template spell ++ high.template spell

end SyntaxTree

@[simp]
theorem reduceOption_range (symmetric : Bool) :
    (rangeLayout symmetric : Layout α).reduceOption = [.between symmetric] := rfl

@[simp]
theorem reduceOption_operator (op : Operator) :
    (op.layout : Layout α).reduceOption = [.operator op] := by
  cases op <;> rfl

/-- Without its blanks the layout of a tree is its tokens. -/
theorem reduceOption_layout (t : SyntaxTree α) : t.layout.reduceOption = t.tokens := by
  induction t with
  | atom a => rfl
  | group inner ih => simp [SyntaxTree.layout, SyntaxTree.tokens, List.reduceOption_append, ih]
  | negated operand ih => simp [SyntaxTree.layout, SyntaxTree.tokens, ih]
  | cast operand type ih =>
      simp [SyntaxTree.layout, SyntaxTree.tokens, List.reduceOption_append, ih]
  | operation left op right ihLeft ihRight =>
      simp [SyntaxTree.layout, SyntaxTree.tokens, List.reduceOption_append, ihLeft, ihRight]
  | range expr low high symmetric ihExpr ihLow ihHigh =>
      simp [SyntaxTree.layout, SyntaxTree.tokens, List.reduceOption_append, ihExpr, ihLow, ihHigh]

section Writing

variable {σ : Type} (w : ValueWriter σ) (spell : α → Template)

@[simp]
theorem SyntaxTree.template_bracketed (needed : Bool) (t : SyntaxTree α) :
    (t.bracketed needed).template spell = Template.bracketed needed (t.template spell) := by
  cases needed <;> rfl

/-- An operator is written with its blanks. -/
@[simp]
theorem write_operator (op : Operator) :
    ((op.layout : Layout α).template spell).write w =
      pure (match op with
        | .arrow _ => op.symbol
        | _ => " " ++ op.symbol ++ " ") := by
  cases op <;> simp [Operator.layout, Layout.template, Token.template, String.append_assoc]

@[simp]
theorem write_range (symmetric : Bool) :
    ((rangeLayout symmetric : Layout α).template spell).write w =
      pure (if symmetric then " BETWEEN SYMMETRIC " else " BETWEEN ") := by
  cases symmetric <;> simp [rangeLayout, Layout.template, Token.template]

theorem write_layout_append (first second : Layout α) :
    (Layout.template spell (first ++ second)).write w =
      (Layout.template spell first ++ Layout.template spell second).write w := by
  induction first with
  | nil => simp [Layout.template]
  | cons piece rest ih => cases piece <;> simp [Layout.template, ih, String.append_assoc]

/-- Laid out, a tree is written as its text. -/
theorem write_layout (t : SyntaxTree α) :
    (Layout.template spell t.layout).write w = (t.template spell).write w := by
  induction t with
  | atom a => simp [SyntaxTree.layout, SyntaxTree.template, Layout.template, Token.template]
  | group inner ih =>
      simp [SyntaxTree.layout, SyntaxTree.template, Layout.template, Token.template,
        write_layout_append, ih, String.append_assoc]
  | negated operand ih =>
      simp [SyntaxTree.layout, SyntaxTree.template, Layout.template, Token.template, ih,
        Operator.symbol, BinaryOperator.symbol]
  | cast operand type ih =>
      simp [SyntaxTree.layout, SyntaxTree.template, Layout.template, Token.template,
        write_layout_append, ih]
  | operation left op right ihLeft ihRight =>
      simp [SyntaxTree.layout, SyntaxTree.template, write_layout_append, ihLeft, ihRight,
        String.append_assoc]
  | range expr low high symmetric ihExpr ihLow ihHigh =>
      simp [SyntaxTree.layout, SyntaxTree.template, write_layout_append, ihExpr, ihLow, ihHigh,
        String.append_assoc]

end Writing

end SqlCompose.Grammar
