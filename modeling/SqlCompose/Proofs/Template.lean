/-
# Templates

A template is a statement or a part of one before its values are written: texts with
places for values between them.  The pass that writes an expression never looks at the
text of a value, so what it does can be laid down beforehand in such a tree, and every
way of writing values is a reading of the same tree.

The places of a template are numbered in the order in which values are bound.  That is
the order of the places in the text but for two cases.  A value may be bound without a
place, since the text that referred to it is not written.  And a part may stand before
another whose values are bound before its own.
-/

import SqlCompose.Bindings
import Mathlib.Data.List.Basic
import Mathlib.Data.List.Range

namespace SqlCompose

/-- A statement or a part of one before its values are written. -/
inductive Template where
  | text (sql : String)
  /-- A value and its place. -/
  | value (value : Value)
  /-- The values of a template without their places. -/
  | silenced (template : Template)
  | append (first second : Template)
  /-- Two templates in the order in which they stand; the values of the second one are
  bound first. -/
  | crossed (first second : Template)

/-- A piece of written text: a text of its own, or the place of the value of a number. -/
inductive Piece where
  | text (sql : String)
  | place (number : Nat)
  deriving DecidableEq

namespace Piece

/-- The numbers of the places among some pieces, from left to right. -/
def numbers : List Piece → List Nat
  | [] => []
  | .text _ :: rest => numbers rest
  | .place n :: rest => n :: numbers rest

/-- The text of some pieces, given what stands for each number. -/
def spell (name : Nat → String) : List Piece → String
  | [] => ""
  | .text sql :: rest => sql ++ spell name rest
  | .place n :: rest => name n ++ spell name rest

@[simp]
theorem numbers_append (first second : List Piece) :
    numbers (first ++ second) = numbers first ++ numbers second := by
  induction first with
  | nil => rfl
  | cons piece rest ih => cases piece <;> simp [numbers, ih]

@[simp]
theorem spell_append (name : Nat → String) (first second : List Piece) :
    spell name (first ++ second) = spell name first ++ spell name second := by
  induction first with
  | nil => simp [spell]
  | cons piece rest ih => cases piece <;> simp [spell, ih, String.append_assoc]

end Piece

namespace Template

instance : Append Template :=
  ⟨append⟩

/-- Writes a template. -/
def write {σ : Type} (w : ValueWriter σ) : Template → StateM σ String
  | .text sql => return sql
  | .value v => w v
  | .silenced t => do
    let _ ← t.write w
    return ""
  | .append first second => do
    let firstText ← first.write w
    let secondText ← second.write w
    return firstText ++ secondText
  | .crossed first second => do
    let secondText ← second.write w
    let firstText ← first.write w
    return firstText ++ secondText

/-- The values that a template binds, in the order in which they are bound. -/
def values : Template → List Value
  | .text _ => []
  | .value v => [v]
  | .silenced t => t.values
  | .append first second => first.values ++ second.values
  | .crossed first second => second.values ++ first.values

/-- How many values a template binds. -/
def size (t : Template) : Nat :=
  t.values.length

/-- The pieces of a template, where `bound` values are bound already. -/
def pieces (bound : Nat) : Template → List Piece
  | .text sql => [.text sql]
  | .value _ => [.place (bound + 1)]
  | .silenced _ => []
  | .append first second => first.pieces bound ++ second.pieces (bound + first.size)
  | .crossed first second => first.pieces (bound + second.size) ++ second.pieces bound

/-- How many places a template has. -/
def places : Template → Nat
  | .text _ | .silenced _ => 0
  | .value _ => 1
  | .append first second | .crossed first second => first.places + second.places

/-- The text with its values as constants. -/
def inline : Template → String
  | .text sql => sql
  | .value v => v.literal
  | .silenced _ => ""
  | .append first second | .crossed first second => first.inline ++ second.inline

/-- Templates with a text between each two of them. -/
def separated (separator : String) : List Template → Template
  | [] => .text ""
  | [t] => t
  | t :: next :: rest => t ++ .text separator ++ separated separator (next :: rest)

/-- A template between two texts. -/
def enclosed (opening : String) (t : Template) (closing : String) : Template :=
  .text opening ++ t ++ .text closing

/-- A template in parentheses where it needs them. -/
def bracketed (needed : Bool) (t : Template) : Template :=
  if needed then enclosed "(" t ")" else t

section Writing

variable {σ : Type} (w : ValueWriter σ)

@[simp]
theorem write_text (sql : String) : (text sql).write w = pure sql := rfl

@[simp]
theorem write_value (v : Value) : (value v).write w = w v := rfl

@[simp]
theorem write_silenced (t : Template) : t.silenced.write w = (fun _ => "") <$> t.write w := by
  simp [write]

@[simp]
theorem write_append (first second : Template) :
    (first ++ second).write w =
      (do
        let firstText ← first.write w
        (firstText ++ ·) <$> second.write w) := by
  change write w (.append first second) = _
  simp [write]

@[simp]
theorem write_crossed (first second : Template) :
    (crossed first second).write w =
      (do
        let secondText ← second.write w
        (· ++ secondText) <$> first.write w) := by
  simp [write]

@[simp]
theorem write_enclosed (opening : String) (t : Template) (closing : String) :
    (enclosed opening t closing).write w =
      (fun text => opening ++ text ++ closing) <$> t.write w := by
  simp [enclosed]

@[simp]
theorem write_bracketed (needed : Bool) (t : Template) :
    (bracketed needed t).write w =
      (fun text => if needed then "(" ++ text ++ ")" else text) <$> t.write w := by
  cases needed <;> simp [bracketed]

@[simp]
theorem write_separated (separator : String) (ts : List Template) :
    (separated separator ts).write w = separator.intercalate <$> ts.mapM (write w) := by
  induction ts with
  | nil => simp [separated]
  | cons t rest ih =>
      cases rest with
      | nil => simp [separated]
      | cons next rest =>
          simp [separated, ih, String.intercalate_cons_cons]

end Writing

end Template

end SqlCompose
