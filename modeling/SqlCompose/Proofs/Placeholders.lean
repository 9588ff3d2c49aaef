/-
# Placeholders and constants

An expression is written in two ways, once to be read and once to be executed, and the
two have to be the same text with the same values.  They are: its pieces give both, the
one with a constant for each number and the other with a placeholder.

What is not always so is that the numbers count up.  The clauses of a window are bound
before its function, behind which they stand, so a window with values in both has the
numbers of its function after those of its clauses.  No other pieces would do better:
the numbers can be read off the texts themselves once those are written behind so many
other values that no text between the placeholders looks like one (`numbers_unique`).
-/

import SqlCompose.Proofs.Numbering
import SqlCompose.Proofs.Written
import Mathlib.Algebra.Order.BigOperators.Group.List
import Mathlib.Algebra.Order.Group.Nat

namespace SqlCompose

open Decimal

namespace Piece

/-- How much text stands between the places. -/
def textLength : List Piece → Nat
  | [] => 0
  | .text sql :: rest => sql.toList.length + textLength rest
  | .place _ :: rest => textLength rest

/-- The number of digits at the beginning of a text. -/
def leadingDigits (cs : List Char) : Nat :=
  (cs.takeWhile Char.isDigit).length

/-- What stands behind the dollar signs of a text that are followed by as many digits as
asked for. -/
def marks (width : Nat) : List Char → List (List Char)
  | [] => []
  | c :: rest =>
    if c = '$' ∧ width ≤ leadingDigits rest then rest.take width :: marks width rest
    else marks width rest

theorem toList_placeholder (n : Nat) : (placeholder n).toList = '$' :: Numeral.ofNat n := by
  simp [placeholder, Numeral.text, Numeral.ofInt]

/-- A text with a place has a dollar sign. -/
theorem dollar_mem_spell {n : Nat} {ps : List Piece} (placed : n ∈ numbers ps) :
    '$' ∈ (spell placeholder ps).toList := by
  induction ps with
  | nil => simp [numbers] at placed
  | cons p rest ih =>
      cases p with
      | text sql => simp [spell, ih placed]
      | place m => simp [spell, toList_placeholder]

theorem isDigit_of_mem_ofNat {n : Nat} {c : Char} (digit : c ∈ Numeral.ofNat n) :
    c.isDigit = true :=
  Nat.isDigit_of_mem_toDigits (by decide) (by decide) digit

theorem leadingDigits_append_le (cs rest : List Char) :
    leadingDigits (cs ++ rest) ≤ cs.length + leadingDigits rest := by
  induction cs with
  | nil => simp
  | cons c cs ih =>
      unfold leadingDigits at ih ⊢
      cases digit : c.isDigit
      · simp [digit]
      · simp [digit]
        omega

theorem le_leadingDigits_append (ds rest : List Char) (digits : ∀ c ∈ ds, c.isDigit = true) :
    ds.length ≤ leadingDigits (ds ++ rest) := by
  rw [leadingDigits, List.takeWhile_append_of_pos digits]
  simp

/-- A text with too few digits to come has no mark of its own. -/
theorem marks_append_of_lt {width : Nat} (cs rest : List Char)
    (short : cs.length + leadingDigits rest < width) :
    marks width (cs ++ rest) = marks width rest := by
  induction cs with
  | nil => rfl
  | cons c cs ih =>
      have shorter : cs.length + leadingDigits rest < width := by simp at short; omega
      have few := leadingDigits_append_le cs rest
      rw [List.cons_append, marks, if_neg (by omega), ih shorter]

/-- Digits have no mark of their own. -/
theorem marks_digits_append (width : Nat) (ds rest : List Char)
    (digits : ∀ c ∈ ds, c.isDigit = true) : marks width (ds ++ rest) = marks width rest := by
  induction ds with
  | nil => rfl
  | cons d ds ih =>
      have noDollar : d ≠ '$' := by
        rintro rfl
        simpa using digits '$' (by simp)
      rw [List.cons_append, marks, if_neg (by simp [noDollar])]
      apply ih
      intro c inRest
      exact digits c (List.mem_cons_of_mem d inRest)

theorem marks_placeholder_append (n : Nat) (rest : List Char) :
    marks (Numeral.ofNat n).length ((placeholder n).toList ++ rest) =
      Numeral.ofNat n :: marks (Numeral.ofNat n).length rest := by
  have digits : ∀ c ∈ Numeral.ofNat n, c.isDigit = true := fun _ => isDigit_of_mem_ofNat
  rw [toList_placeholder, List.cons_append, marks,
    if_pos ⟨rfl, le_leadingDigits_append _ rest digits⟩, List.take_left',
    marks_digits_append _ _ rest digits]
  rfl

theorem leadingDigits_spell_le (shift : Nat) (ps : List Piece) :
    leadingDigits (spell (fun n => placeholder (shift + n)) ps).toList ≤ textLength ps := by
  induction ps with
  | nil => simp [spell, leadingDigits]
  | cons p rest ih =>
      cases p with
      | text sql =>
          have := leadingDigits_append_le sql.toList
            (spell (fun n => placeholder (shift + n)) rest).toList
          simp only [spell, String.toList_append, textLength]
          omega
      | place n => simp [spell, toList_placeholder, leadingDigits]

/-- Behind so many values that every placeholder is longer than all the text around the
places, the placeholders of a text are its marks. -/
theorem marks_spell {width shift : Nat} (ps : List Piece) (long : textLength ps < width)
    (wide : ∀ n ∈ numbers ps, (Numeral.ofNat (shift + n)).length = width) :
    marks width (spell (fun n => placeholder (shift + n)) ps).toList =
      (numbers ps).map fun n => Numeral.ofNat (shift + n) := by
  induction ps with
  | nil => rfl
  | cons p rest ih =>
      cases p with
      | text sql =>
          have few := leadingDigits_spell_le shift rest
          simp only [textLength] at long
          rw [spell, String.toList_append, marks_append_of_lt _ _ (by omega),
            ih (by omega) wide, numbers]
      | place n =>
          have here := wide n (by simp [numbers])
          have there : ∀ m ∈ numbers rest, (Numeral.ofNat (shift + m)).length = width :=
            fun m inRest => wide m (by simp [numbers, inRest])
          rw [spell, String.toList_append, ← here, marks_placeholder_append, here,
            ih (by simpa [textLength] using long) there, numbers, List.map_cons]

theorem ofNat_injective : Function.Injective Numeral.ofNat :=
  Function.LeftInverse.injective Numeral.toNat_ofNat

theorem length_ofNat_eq {width n : Nat} (atLeast : 10 ^ width ≤ n) (below : n < 10 ^ (width + 1)) :
    (Numeral.ofNat n).length = width + 1 := by
  have upper : (Numeral.ofNat n).length ≤ width + 1 :=
    (Nat.length_toDigits_le_iff (by decide) (by omega)).mpr below
  have lower : ¬ (Numeral.ofNat n).length ≤ width := by
    intro short
    cases width with
    | zero => exact Nat.toDigits_ne_nil (List.length_eq_zero_iff.mp (Nat.le_zero.mp short))
    | succ width =>
        have := (Nat.length_toDigits_le_iff (by decide) (by omega)).mp short
        omega
  omega

/-- Pieces that are spelled alike behind any number of values have the same numbers. -/
theorem numbers_unique (ps qs : List Piece)
    (alike : ∀ shift, spell (fun n => placeholder (shift + n)) ps =
      spell (fun n => placeholder (shift + n)) qs) :
    numbers ps = numbers qs := by
  let width := textLength ps + textLength qs + (numbers ps).sum + (numbers qs).sum
  have large : width < 10 ^ width := Nat.lt_pow_self (by decide)
  have wide : ∀ n ≤ width, (Numeral.ofNat (10 ^ width + n)).length = width + 1 := fun n le =>
    length_ofNat_eq (by omega) (by rw [Nat.pow_succ]; omega)
  have left := marks_spell ps (by omega) fun n inPs =>
    wide n (by have := List.le_sum_of_mem inPs; omega)
  have right := marks_spell qs (by omega) fun n inQs =>
    wide n (by have := List.le_sum_of_mem inQs; omega)
  rw [alike, right] at left
  exact List.map_injective_iff.mpr
    (fun n m same => Nat.add_left_cancel (ofNat_injective same)) left.symm

end Piece

/-- The constant of the value of a number. -/
def constantAt (values : List Value) : Nat → String
  | 0 => ""
  | n + 1 => (values[n]?.map Value.literal).getD ""

namespace Expr

/-- The values of an expression, in the order in which they are bound. -/
def values (e : Expr) : List Value :=
  e.template.values

/-- The pieces of an expression, its own values being numbered from 1. -/
def pieces (e : Expr) : List Piece :=
  e.template.pieces 0

/-- Both ways of writing an expression come from the same values and pieces: with
constants it is the pieces with the constant of each number, and with placeholders it is
the pieces with the numbers moved behind those of the values bound already, which stay
as they are. -/
structure SpelledBy (e : Expr) (values : List Value) (pieces : List Piece) : Prop where
  constants : e.sql = Piece.spell (constantAt values) pieces
  placeholders : ∀ b : Bindings, b.index = b.values.length →
    e.bind b = (Piece.spell (fun n => placeholder (b.index + n)) pieces,
      ⟨b.index + values.length, b.values ++ values⟩)

theorem sql_eq_spell (e : Expr) : e.sql = Piece.spell (constantAt e.values) e.pieces := by
  rw [sql, write_eq_template, Template.write_constants, pieces,
    Template.spell_pieces_constants (constantAt e.values)]
  intro i inRange
  simp [constantAt, values, Nat.add_comm 0, inRange]

theorem bind_eq_spell (e : Expr) (b : Bindings) :
    e.bind b = (Piece.spell (fun n => placeholder (b.index + n)) e.pieces,
      ⟨b.index + e.values.length, b.values ++ e.values⟩) := by
  rw [bind, write_eq_template, Template.write_placeholders, pieces,
    ← Template.spell_pieces_add placeholder e.template b.index 0]
  rfl

theorem spelledBy_pieces (e : Expr) : e.SpelledBy e.values e.pieces :=
  ⟨e.sql_eq_spell, fun b _ => e.bind_eq_spell b⟩

/-- The numbers of an expression can be read off its texts. -/
theorem SpelledBy.numbers_eq {e : Expr} {values : List Value} {pieces : List Piece}
    (spelled : e.SpelledBy values pieces) : Piece.numbers pieces = Piece.numbers e.pieces := by
  apply Piece.numbers_unique
  intro shift
  let before : Bindings := ⟨shift, List.replicate shift .null⟩
  have one := spelled.placeholders before (by simp [before])
  rw [e.bind_eq_spell before] at one
  exact (congrArg Prod.fst one).symm

/-- The texts of expressions one behind the other, where `index` values are bound
already. -/
def spellAll (index : Nat) : List Expr → List String
  | [] => []
  | e :: rest =>
    Piece.spell (fun n => placeholder (index + n)) e.pieces ::
      spellAll (index + e.values.length) rest

theorem writeAll_placeholders (es : List Expr) (b : Bindings) :
    writeAll ValueWriter.placeholders es b =
      (spellAll b.index es,
        ⟨b.index + (es.flatMap values).length, b.values ++ es.flatMap values⟩) := by
  induction es generalizing b with
  | nil => simp [writeAll, spellAll, Template.pure_run]
  | cons e rest ih =>
      have first := e.bind_eq_spell b
      rw [bind] at first
      simp [writeAll, spellAll, Template.bind_run, Template.map_run, first, ih, Nat.add_assoc]

/-- Whether a window has values both in its function and in its clauses: those of the
clauses, which stand behind, are bound first. -/
def Overtakes : Expr → Prop
  | .window function clauses => function.template.places ≠ 0 ∧ (overTemplate clauses).places ≠ 0
  | _ => False

theorem keepsOrder_iff (e : Expr) : e.template.KeepsOrder ↔ ∀ d ∈ e.written, ¬ d.Overtakes := by
  rw [Template.KeepsOrder, all_template_iff]
  apply forall₂_congr
  intro d _
  cases d <;> simp [Locally, Overtakes, Template.Apart, or_iff_not_imp_left]

/-- The two ways of writing an expression agree: it has values and pieces of its own from
which both are spelled, and so are several expressions written one behind the other.  No
value has two places.  The numbers can be had in increasing order, by these pieces or by
any others, exactly if no window in the expression has values on both sides. -/
theorem constants_and_placeholders_agree (e : Expr) :
    e.SpelledBy e.values e.pieces ∧
      (∀ es b, writeAll ValueWriter.placeholders es b =
        (spellAll b.index es,
          ⟨b.index + (es.flatMap values).length, b.values ++ es.flatMap values⟩)) ∧
      (Piece.numbers e.pieces).Nodup ∧
      (∀ n ∈ Piece.numbers e.pieces, 1 ≤ n ∧ n ≤ e.values.length) ∧
      ((∃ values pieces, e.SpelledBy values pieces ∧
          (Piece.numbers pieces).Pairwise (· < ·) ∧
          ∀ n ∈ Piece.numbers pieces, 1 ≤ n ∧ n ≤ values.length) ↔
        ∀ d ∈ e.written, ¬ d.Overtakes) := by
  have within : ∀ n ∈ Piece.numbers e.pieces, 1 ≤ n ∧ n ≤ e.values.length := by
    intro n inPieces
    obtain ⟨positive, atMost⟩ := Template.mem_numbers inPieces
    exact ⟨positive, Nat.zero_add e.values.length ▸ atMost⟩
  refine ⟨e.spelledBy_pieces, writeAll_placeholders, Template.nodup_numbers 0 _, within, ?_⟩
  rw [← keepsOrder_iff, ← Template.pairwise_numbers_iff 0]
  constructor
  · rintro ⟨values, pieces, spelled, increasing, -⟩
    rwa [spelled.numbers_eq] at increasing
  · intro increasing
    exact ⟨e.values, e.pieces, e.spelledBy_pieces, increasing, within⟩

/-- A sum over a window with a value in the sum and one in the partition.  The sum is
written first and numbered second. -/
theorem sum_over_partition_numbers_decrease :
    ¬ ∃ values pieces,
      (window (.aggregate "SUM" [.literal (.int 1)] false none)
          [.partitionBy [.literal (.int 2)]]).SpelledBy values pieces ∧
        (Piece.numbers pieces).Pairwise (· < ·) ∧
        ∀ n ∈ Piece.numbers pieces, 1 ≤ n ∧ n ≤ values.length := by
  rintro ⟨values, pieces, spelled, increasing, -⟩
  rw [spelled.numbers_eq] at increasing
  revert increasing
  decide

end Expr

end SqlCompose
