/-
# Printed digits

What a row of digits is made of, for all who read or scan one: each of its characters is a
digit, it is as wide as it is asked to be unless the number needs more, and it stands for the
number that was printed.

A whole number of 64 bits has many numerals, with and without leading zeros (`Denotes`).  What is
read as such a number is one of them (`readInt64?_eq_some_iff`), and so is what is printed for it
(`denotes_ofInt`).
-/

import SqlCompose.Decimal.Numeral
import Mathlib.Data.List.Basic

namespace SqlCompose.Decimal.Numeral

theorem isDigit_ofNat (n : Nat) : ∀ c ∈ ofNat n, c.isDigit = true :=
  fun _ digit => Nat.isDigit_of_mem_toDigits (by decide) (by decide) digit

theorem isDigit_zeros (k : Nat) : ∀ c ∈ List.replicate k '0', c.isDigit = true := by
  intro c inside
  rw [List.eq_of_mem_replicate inside]
  rfl

theorem isDigit_padded (width n : Nat) : ∀ c ∈ padded width n, c.isDigit = true := by
  intro c inside
  rcases List.mem_append.mp inside with inZeros | inDigits
  · exact isDigit_zeros _ c inZeros
  · exact isDigit_ofNat n c inDigits

/-- A number that is small enough takes no more than the width. -/
theorem length_padded {width n : Nat} (positive : 0 < width) (small : n < Nat.pow 10 width) :
    (padded width n).length = width := by
  have short : (ofNat n).length ≤ width :=
    (Nat.length_toDigits_le_iff (by decide) positive).mpr small
  simp only [padded, List.length_append, List.length_replicate]
  omega

theorem padded_ne_nil (width n : Nat) : padded width n ≠ [] :=
  List.append_ne_nil_of_right_ne_nil _ Nat.toDigits_ne_nil

/-- Zeros in front of the digits do not matter. -/
theorem toNat_zeros_append (k : Nat) (digits : List Char) :
    toNat (List.replicate k '0' ++ digits) = toNat digits := by
  rw [toNat, Nat.ofDigitChars_append, Nat.ofDigitChars_replicate_zero, Nat.mul_zero, toNat]

theorem toNat_padded (width n : Nat) : toNat (padded width n) = n := by
  rw [padded, toNat_zeros_append, toNat_ofNat]

/-! ## Whole numbers of 64 bits -/

/-- The numerals of a whole number of 64 bits: at least one digit, and a minus sign before the
digits or none. -/
inductive Denotes : List Char → Int64 → Prop where
  | plain {digits : List Char} {i : Int64} (filled : digits ≠ [])
      (isDigit : ∀ c ∈ digits, c.isDigit = true) (value : i.toInt = toNat digits) :
      Denotes digits i
  | minus {digits : List Char} {i : Int64} (filled : digits ≠ [])
      (isDigit : ∀ c ∈ digits, c.isDigit = true) (value : i.toInt = -(toNat digits : Int)) :
      Denotes ('-' :: digits) i

/-- A numeral has no plus sign. -/
theorem Denotes.plus_notMem {word : List Char} {i : Int64} (denotes : Denotes word i) :
    '+' ∉ word := by
  cases denotes with
  | plain filled isDigit value => exact fun inside => absurd (isDigit _ inside) (by decide)
  | minus filled isDigit value =>
      rw [List.mem_cons, not_or]
      exact ⟨by decide, fun inside => absurd (isDigit _ inside) (by decide)⟩

theorem Denotes.exists_cons {word : List Char} {i : Int64} (denotes : Denotes word i) :
    ∃ c cs, word = c :: cs ∧ (c = '-' ∨ c.isDigit = true) := by
  cases denotes with
  | plain filled isDigit value =>
      obtain ⟨c, cs, rfl⟩ := List.exists_cons_of_ne_nil filled
      exact ⟨c, cs, rfl, .inr (isDigit c List.mem_cons_self)⟩
  | minus filled isDigit value => exact ⟨'-', _, rfl, .inl rfl⟩

/-- A run of characters of one kind ends before a character of another kind. -/
theorem takeWhile_run_append {p : Char → Bool} {run rest : List Char}
    (inRun : ∀ c ∈ run, p c = true) (ends : ∀ c ∈ rest.head?, p c = false) :
    (run ++ rest).takeWhile p = run ∧ (run ++ rest).dropWhile p = rest := by
  rw [List.takeWhile_append_of_pos inRun, List.dropWhile_append_of_pos inRun]
  cases rest with
  | nil => simp
  | cons c rest => simp [ends c rfl]

/-- Behind a row of digits that no digit follows the row ends. -/
theorem takeWhile_digits_append {digits rest : List Char}
    (isDigit : ∀ c ∈ digits, c.isDigit = true) (ends : ∀ c ∈ rest.head?, c.isDigit = false) :
    (digits ++ rest).takeWhile Char.isDigit = digits ∧
      (digits ++ rest).dropWhile Char.isDigit = rest :=
  takeWhile_run_append isDigit ends

theorem toInt64?_eq_some_iff {n : Int} {i : Int64} : toInt64? n = some i ↔ i.toInt = n := by
  unfold toInt64?
  split
  case isTrue within =>
    have least : Int64.minValue.toInt = -2 ^ 63 := rfl
    have greatest : Int64.maxValue.toInt = 2 ^ 63 - 1 := rfl
    have kept : (Int64.ofInt n).toInt = n := Int64.toInt_ofInt_of_le (by omega) (by omega)
    rw [Option.some.injEq, ← Int64.toInt_inj, kept]
    exact eq_comm
  case isFalse outside =>
    simp only [reduceCtorEq, false_iff]
    rintro rfl
    exact outside ⟨i.minValue_le_toInt, i.toInt_le⟩

theorem toInt64?_toInt (i : Int64) : toInt64? i.toInt = some i :=
  toInt64?_eq_some_iff.mpr rfl

theorem readNat?_eq_some_iff {cs : List Char} {n : Nat} :
    readNat? cs = some n ↔ (cs ≠ [] ∧ ∀ c ∈ cs, c.isDigit = true) ∧ n = toNat cs := by
  unfold readNat?
  simp only [List.all_eq_true]
  split
  case isTrue numeral =>
    rw [Option.some.injEq]
    exact ⟨fun value => ⟨numeral, value.symm⟩, fun found => found.2.symm⟩
  case isFalse noNumeral =>
    simp only [reduceCtorEq, false_iff]
    exact fun found => noNumeral found.1

/-- A number behind its sign, if it has one. -/
theorem map_readNat?_eq_some_iff {cs : List Char} {f : Int → Int} {i : Int} :
    (readNat? cs : Option Int).map f = some i ↔
      (cs ≠ [] ∧ ∀ c ∈ cs, c.isDigit = true) ∧ i = f (toNat cs) := by
  simp only [Option.map_eq_some_iff, Option.bind_eq_bind, Option.bind_eq_some_iff,
    readNat?_eq_some_iff, Option.pure_def, Option.some.injEq]
  constructor
  · rintro ⟨_, ⟨_, ⟨numeral, rfl⟩, rfl⟩, rfl⟩
    exact ⟨numeral, rfl⟩
  · rintro ⟨numeral, rfl⟩
    exact ⟨_, ⟨_, ⟨numeral, rfl⟩, rfl⟩, rfl⟩

/-- What is read as a whole number of 64 bits and has no plus sign is a numeral of the number. -/
theorem readInt64?_eq_some_iff {cs : List Char} (noPlus : '+' ∉ cs) {i : Int64} :
    readInt64? cs = some i ↔ Denotes cs i := by
  simp only [readInt64?, Option.bind_eq_some_iff, toInt64?_eq_some_iff, exists_eq_right']
  unfold readInt?
  split
  case h_1 digits =>
    refine map_readNat?_eq_some_iff.trans ⟨?_, ?_⟩
    · rintro ⟨⟨filled, isDigit⟩, value⟩
      exact .minus filled isDigit value
    · intro denotes
      cases denotes with
      | plain _ isDigit _ => exact absurd (isDigit '-' List.mem_cons_self) (by decide)
      | minus filled isDigit value => exact ⟨⟨filled, isDigit⟩, value⟩
  case h_2 => exact absurd List.mem_cons_self noPlus
  case h_3 noMinus _ =>
    refine map_readNat?_eq_some_iff.trans ⟨?_, ?_⟩
    · rintro ⟨⟨filled, isDigit⟩, value⟩
      exact .plain filled isDigit value
    · intro denotes
      cases denotes with
      | plain filled isDigit value => exact ⟨⟨filled, isDigit⟩, value⟩
      | minus => exact absurd rfl (noMinus _)

/-- The text that is printed for a number is one of its numerals. -/
theorem denotes_ofInt (i : Int64) : Denotes (ofInt i.toInt) i := by
  have isDigit := isDigit_ofNat i.toInt.natAbs
  have value := toNat_ofNat i.toInt.natAbs
  have filled : ofNat i.toInt.natAbs ≠ [] := Nat.toDigits_ne_nil
  unfold ofInt
  split
  case isTrue negative => exact .minus filled isDigit (by omega)
  case isFalse positive => exact .plain filled isDigit (by omega)

/-! ## Printed numbers are read -/

theorem readNat?_padded (width n : Nat) : readNat? (padded width n) = some n :=
  readNat?_eq_some_iff.mpr
    ⟨⟨padded_ne_nil width n, isDigit_padded width n⟩, (toNat_padded width n).symm⟩

theorem readInt?_ofInt (i : Int) : readInt? (ofInt i) = some i := by
  have isDigit := isDigit_ofNat i.natAbs
  have numeral : readNat? (ofNat i.natAbs) = some i.natAbs :=
    readNat?_eq_some_iff.mpr ⟨⟨Nat.toDigits_ne_nil, isDigit⟩, (toNat_ofNat i.natAbs).symm⟩
  by_cases negative : i < 0
  · have text : ofInt i = '-' :: ofNat i.natAbs := if_pos negative
    have value : -(i.natAbs : Int) = i := by omega
    rw [text, readInt?, numeral]
    exact congrArg some value
  · have text : ofInt i = ofNat i.natAbs := if_neg negative
    rw [text]
    unfold readInt?
    split
    case h_1 signed => exact absurd (isDigit '-' (by simp [signed])) (by decide)
    case h_2 signed => exact absurd (isDigit '+' (by simp [signed])) (by decide)
    case h_3 =>
      have value : (i.natAbs : Int) = i := by omega
      rw [numeral]
      exact congrArg some value

end SqlCompose.Decimal.Numeral
