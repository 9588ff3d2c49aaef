/-
# The numbers of placeholders

How the places of a template are numbered, and when the numbers count up.  Two things
can go wrong on the way from left to right.  A value can be bound whose place is not
written, so that its number is missing; and of two parts that both have places the
first one to stand can be the second one to be bound.  If neither happens in a template
its numbers are 1, 2, 3 and so on, and only then (`numbers_eq_range_iff`).
-/

import SqlCompose.Proofs.Template
import Mathlib.Data.List.Sort

namespace SqlCompose.Template

@[simp]
theorem values_text (sql : String) : (text sql).values = [] := rfl

@[simp]
theorem values_append (first second : Template) :
    (first ++ second).values = first.values ++ second.values := rfl

@[simp]
theorem values_enclosed (opening : String) (t : Template) (closing : String) :
    (enclosed opening t closing).values = t.values := by
  simp [enclosed]

@[simp]
theorem values_bracketed (needed : Bool) (t : Template) :
    (bracketed needed t).values = t.values := by
  cases needed <;> simp [bracketed]

@[simp]
theorem values_separated (separator : String) (ts : List Template) :
    (separated separator ts).values = ts.flatMap values := by
  induction ts with
  | nil => rfl
  | cons t rest ih =>
      cases rest with
      | nil => simp [separated]
      | cons next rest => simp [separated, ih]

@[simp]
theorem size_text (sql : String) : (text sql).size = 0 := rfl

@[simp]
theorem size_value (v : Value) : (value v).size = 1 := rfl

@[simp]
theorem size_silenced (t : Template) : t.silenced.size = t.size := rfl

@[simp]
theorem size_append (first second : Template) :
    (append first second).size = first.size + second.size := by
  simp [size, values]

@[simp]
theorem size_crossed (first second : Template) :
    (crossed first second).size = second.size + first.size := by
  simp [size, values]

/-! ## What is written for a template -/

section Steps

variable {σ α β : Type}

theorem pure_run (a : α) (s : σ) : (pure a : StateM σ α) s = (a, s) := rfl

theorem bind_run (step : StateM σ α) (next : α → StateM σ β) (s : σ) :
    (step >>= next) s = next (step s).1 (step s).2 := rfl

theorem map_run (f : α → β) (step : StateM σ α) (s : σ) :
    (f <$> step) s = (f (step s).1, (step s).2) := rfl

end Steps

/-- Written with constants a template is its own text. -/
theorem write_constants (t : Template) : t.write ValueWriter.constants () = (t.inline, ()) := by
  induction t with
  | text | value => rfl
  | silenced t ih => simp [write, inline, map_run, ih]
  | append first second ihFirst ihSecond | crossed first second ihFirst ihSecond =>
      simp [write, inline, bind_run, map_run, ihFirst, ihSecond]

/-- Written with placeholders a template is spelled by its pieces, and its values are
bound behind those that are bound already. -/
theorem write_placeholders (t : Template) (b : Bindings) :
    t.write ValueWriter.placeholders b =
      (Piece.spell placeholder (t.pieces b.index), ⟨b.index + t.size, b.values ++ t.values⟩) := by
  induction t generalizing b with
  | text sql => simp [write, pieces, Piece.spell, values, pure_run]
  | value v => simp [write, pieces, Piece.spell, values, ValueWriter.placeholders, Bindings.add]
  | silenced t ih =>
      simp [write, pieces, Piece.spell, values, map_run, ih]
  | append first second ihFirst ihSecond | crossed first second ihFirst ihSecond =>
      simp [write, pieces, values, bind_run, map_run, ihFirst, ihSecond, Nat.add_assoc]

/-- Values bound before shift all numbers alike. -/
theorem spell_pieces_add (name : Nat → String) (t : Template) (before bound : Nat) :
    Piece.spell name (t.pieces (before + bound)) =
      Piece.spell (fun n => name (before + n)) (t.pieces bound) := by
  induction t generalizing bound with
  | text | value | silenced => rfl
  | append first second ihFirst ihSecond | crossed first second ihFirst ihSecond =>
      simp [pieces, Nat.add_assoc, ihFirst, ihSecond]

/-- The text with constants is that of the pieces with a constant for each number. -/
theorem spell_pieces_constants (name : Nat → String) (t : Template) (bound : Nat)
    (named : ∀ i (h : i < t.values.length), name (bound + i + 1) = t.values[i].literal) :
    Piece.spell name (t.pieces bound) = t.inline := by
  induction t generalizing bound with
  | text | silenced => simp [pieces, Piece.spell, inline]
  | value v => simpa [pieces, Piece.spell, inline, values] using named 0 (by simp [values])
  | append first second ihFirst ihSecond =>
      have firstNamed := ihFirst bound fun i h => by
        have := named i (by simp [values]; omega)
        simpa [values, List.getElem_append_left h] using this
      have secondNamed := ihSecond (bound + first.size) fun i h => by
        have := named (first.values.length + i) (by simp [values]; omega)
        simpa [values, size, Nat.add_assoc] using this
      simp [pieces, inline, firstNamed, secondNamed]
  | crossed first second ihFirst ihSecond =>
      have secondNamed := ihSecond bound fun i h => by
        have := named i (by simp [values]; omega)
        simpa [values, List.getElem_append_left h] using this
      have firstNamed := ihFirst (bound + second.size) fun i h => by
        have := named (second.values.length + i) (by simp [values]; omega)
        simpa [values, size, Nat.add_assoc] using this
      simp [pieces, inline, firstNamed, secondNamed]

/-! ## Which numbers a template has -/

/-- The numbers of the places of a template, from left to right. -/
def numbers (bound : Nat) (t : Template) : List Nat :=
  Piece.numbers (t.pieces bound)

@[simp]
theorem numbers_append (bound : Nat) (first second : Template) :
    (append first second).numbers bound =
      first.numbers bound ++ second.numbers (bound + first.size) := by
  simp [numbers, pieces]

@[simp]
theorem numbers_crossed (bound : Nat) (first second : Template) :
    (crossed first second).numbers bound =
      first.numbers (bound + second.size) ++ second.numbers bound := by
  simp [numbers, pieces]

theorem length_numbers (bound : Nat) (t : Template) : (t.numbers bound).length = t.places := by
  induction t generalizing bound with
  | text | value | silenced => rfl
  | append first second ihFirst ihSecond | crossed first second ihFirst ihSecond =>
      simp [places, ihFirst, ihSecond]

/-- A number of a template belongs to one of its own values. -/
theorem mem_numbers {bound : Nat} {t : Template} {n : Nat} (written : n ∈ t.numbers bound) :
    bound < n ∧ n ≤ bound + t.size := by
  induction t generalizing bound with
  | text | silenced => simp [numbers, pieces, Piece.numbers] at written
  | value v =>
      simp [numbers, pieces, Piece.numbers] at written
      simp [written]
  | append first second ihFirst ihSecond =>
      rcases List.mem_append.mp (numbers_append bound first second ▸ written) with h | h
      · have := ihFirst h
        simp
        omega
      · have := ihSecond h
        simp
        omega
  | crossed first second ihFirst ihSecond =>
      rcases List.mem_append.mp (numbers_crossed bound first second ▸ written) with h | h
      · have := ihFirst h
        simp
        omega
      · have := ihSecond h
        simp
        omega

/-- No value has two places. -/
theorem nodup_numbers (bound : Nat) (t : Template) : (t.numbers bound).Nodup := by
  induction t generalizing bound with
  | text | value | silenced => simp [numbers, pieces, Piece.numbers]
  | append first second ihFirst ihSecond =>
      rw [numbers_append]
      refine List.nodup_append.mpr ⟨ihFirst bound, ihSecond _, ?_⟩
      intro n inFirst m inSecond
      have := mem_numbers inFirst
      have := mem_numbers inSecond
      omega
  | crossed first second ihFirst ihSecond =>
      rw [numbers_crossed]
      refine List.nodup_append.mpr ⟨ihFirst _, ihSecond bound, ?_⟩
      intro n inFirst m inSecond
      have := mem_numbers inFirst
      have := mem_numbers inSecond
      omega

theorem places_le_size (t : Template) : t.places ≤ t.size := by
  induction t with
  | text | value | silenced => simp [places]
  | append first second ihFirst ihSecond | crossed first second ihFirst ihSecond =>
      simp [places]
      omega

/-! ## When the numbers count up -/

/-- Every part of a template that is bound without being written meets a condition, and
so does every pair of parts that are bound in the other order than they stand.  What
is not written itself does not count. -/
def All (silence : Template → Prop) (crossing : Template → Template → Prop) : Template → Prop
  | .text _ | .value _ => True
  | .silenced t => silence t
  | .append first second => first.All silence crossing ∧ second.All silence crossing
  | .crossed first second =>
    crossing first second ∧ first.All silence crossing ∧ second.All silence crossing

section All

variable {silence : Template → Prop} {crossing : Template → Template → Prop}

@[simp]
theorem all_text (sql : String) : (text sql).All silence crossing := trivial

@[simp]
theorem all_value (v : Value) : (value v).All silence crossing := trivial

@[simp]
theorem all_silenced (t : Template) : t.silenced.All silence crossing ↔ silence t := Iff.rfl

@[simp]
theorem all_append (first second : Template) :
    (first ++ second).All silence crossing ↔
      first.All silence crossing ∧ second.All silence crossing := Iff.rfl

@[simp]
theorem all_crossed (first second : Template) :
    (crossed first second).All silence crossing ↔
      crossing first second ∧ first.All silence crossing ∧ second.All silence crossing := Iff.rfl

@[simp]
theorem all_enclosed (opening : String) (t : Template) (closing : String) :
    (enclosed opening t closing).All silence crossing ↔ t.All silence crossing := by
  simp [enclosed]

@[simp]
theorem all_bracketed (needed : Bool) (t : Template) :
    (bracketed needed t).All silence crossing ↔ t.All silence crossing := by
  cases needed <;> simp [bracketed]

@[simp]
theorem all_separated (separator : String) (ts : List Template) :
    (separated separator ts).All silence crossing ↔ ∀ t ∈ ts, t.All silence crossing := by
  induction ts with
  | nil => simp [separated]
  | cons t rest ih =>
      cases rest with
      | nil => simp [separated]
      | cons next rest => simp [separated, ih]

end All

/-- One of two templates has no place. -/
def Apart (first second : Template) : Prop :=
  first.places = 0 ∨ second.places = 0

/-- No value is bound without a place. -/
def KeepsValues (t : Template) : Prop :=
  t.All (fun hidden => hidden.values = []) fun _ _ => True

/-- No places are written in the other order than they are bound. -/
def KeepsOrder (t : Template) : Prop :=
  t.All (fun _ => True) Apart

theorem places_eq_size_iff (t : Template) : t.places = t.size ↔ t.KeepsValues := by
  unfold KeepsValues
  induction t with
  | text | value => simp [places, All]
  | silenced t => exact eq_comm.trans List.length_eq_zero_iff
  | append first second ihFirst ihSecond | crossed first second ihFirst ihSecond =>
      have := places_le_size first
      have := places_le_size second
      simp only [places, All, size_append, size_crossed, true_and, ← ihFirst, ← ihSecond]
      omega

theorem numbers_eq_nil_iff (bound : Nat) (t : Template) : t.numbers bound = [] ↔ t.places = 0 := by
  rw [← List.length_eq_zero_iff, length_numbers]

theorem pairwise_numbers_iff (bound : Nat) (t : Template) :
    (t.numbers bound).Pairwise (· < ·) ↔ t.KeepsOrder := by
  unfold KeepsOrder
  induction t generalizing bound with
  | text | value | silenced => simp [numbers, pieces, Piece.numbers, All]
  | append first second ihFirst ihSecond =>
      have between : ∀ n ∈ first.numbers bound, ∀ m ∈ second.numbers (bound + first.size),
          n < m := by
        intro n inFirst m inSecond
        have := mem_numbers inFirst
        have := mem_numbers inSecond
        omega
      rw [numbers_append, List.pairwise_append, ihFirst, ihSecond, All]
      constructor
      · rintro ⟨firstKeeps, secondKeeps, -⟩
        exact ⟨firstKeeps, secondKeeps⟩
      · rintro ⟨firstKeeps, secondKeeps⟩
        exact ⟨firstKeeps, secondKeeps, between⟩
  | crossed first second ihFirst ihSecond =>
      -- Every number of the first part is above every number of the second one, so the
      -- numbers can only increase when there are none on one side.
      have above : ∀ n ∈ first.numbers (bound + second.size), ∀ m ∈ second.numbers bound,
          m < n := by
        intro n inFirst m inSecond
        have := mem_numbers inFirst
        have := mem_numbers inSecond
        omega
      have apart : (∀ n ∈ first.numbers (bound + second.size), ∀ m ∈ second.numbers bound,
          n < m) ↔ Apart first second := by
        rw [Apart, ← numbers_eq_nil_iff (bound + second.size) first,
          ← numbers_eq_nil_iff bound second]
        constructor
        · intro increasing
          by_contra both
          push Not at both
          obtain ⟨n, inFirst⟩ := List.exists_mem_of_ne_nil _ both.1
          obtain ⟨m, inSecond⟩ := List.exists_mem_of_ne_nil _ both.2
          exact lt_asymm (increasing n inFirst m inSecond) (above n inFirst m inSecond)
        · rintro (none | none) <;> simp [none]
      rw [numbers_crossed, List.pairwise_append, ihFirst, ihSecond, apart, All]
      tauto

/-- The numbers of a template count up from the first one without a gap exactly if no
value is bound without a place and no places are written in the wrong order. -/
theorem numbers_eq_range_iff (bound : Nat) (t : Template) :
    t.numbers bound = List.range' (bound + 1) t.size ↔ t.KeepsValues ∧ t.KeepsOrder := by
  rw [← places_eq_size_iff, ← pairwise_numbers_iff bound]
  constructor
  · intro counted
    rw [← length_numbers bound, counted]
    exact ⟨List.length_range', List.pairwise_lt_range'⟩
  · rintro ⟨complete, increasing⟩
    have within : t.numbers bound ⊆ List.range' (bound + 1) t.size := by
      intro n written
      have := mem_numbers written
      simp only [List.mem_range'_1]
      omega
    have length : (List.range' (bound + 1) t.size).length ≤ (t.numbers bound).length := by
      rw [length_numbers, complete, List.length_range']
    have same := (List.subperm_of_subset (nodup_numbers bound t) within).perm_of_length_le length
    exact same.eq_of_pairwise' increasing List.pairwise_lt_range'

end SqlCompose.Template
