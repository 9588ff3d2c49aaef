/-
# Decimals in a reply

A decimal that a server sends is decoded to a whole number if its value is one that 64 bits hold,
whatever zeros stand behind its point, and to that very number (`Cell.decode_decimals`).
Every other decimal becomes a binary64 number.  That number is rounded in several steps, but a decimal
has at most 96 bits and 28 places, so none of the steps leaves the range of the format: there is
always a number to decode to (`Fixed.isFinite_toBinary64`).

A whole number beyond 64 bits is rounded as well, and two of them may become one
(`Cell.decode_beyond_int64`).
-/

import SqlCompose.Proofs.Digits
import SqlCompose.Proofs.Refusals
import SqlCompose.Proofs.Rounding
import SqlCompose.Reply.Cell

namespace SqlCompose

open Decimal (Binary64 Fixed)

namespace Decimal.Fixed

/-- The value of a decimal. -/
def value (d : Fixed) : ℚ :=
  d.coefficient / 10 ^ d.scale

theorem denominator_pos (d : Fixed) : 0 < d.denominator :=
  Nat.pow_pos (by decide)

/-! ## Rounding a decimal -/

/-- A decimal becomes a finite number: its parts are below `2 ^ 96`, and scaling them by a power of ten
of up to 28 adds at most 112 binary digits. -/
theorem isFinite_toBinary64 (d : Fixed) : d.toBinary64.isFinite = true := by
  have small : d.coefficient.natAbs < 2 ^ 96 := d.coefficient_lt
  have part {n : Nat} (le : n ≤ d.coefficient.natAbs) :
      (Binary64.ofRatio false n 1).AtMost 96 := by
    have bounded : (n : ℚ) / (1 : Nat) ≤ 2 ^ 96 := by
      rw [Nat.cast_one, div_one]
      exact_mod_cast le.trans small.le
    exact (Binary64.atMost_ofRatio false Nat.one_pos (by decide) bounded).1
  have whole := part (Nat.div_le_self d.coefficient.natAbs d.denominator)
  have numerator := part (Nat.mod_le d.coefficient.natAbs d.denominator)
  have fraction := Binary64.atMost_scaleDown numerator (Binary64.one_le_size_powerOfTen d.scale_le)
    (by decide)
  obtain ⟨unit, one_le_unit⟩ := Binary64.atMost_power_ten d.scale_le
  have sum := Binary64.atMost_sum whole fraction (by decide)
  have scaled := (Binary64.atMost_scaleUp sum unit (by decide)).1
  have rounded := Binary64.atMost_roundWhole scaled (by decide)
  have result := Binary64.atMost_scaleDown rounded one_le_unit (by decide)
  unfold toBinary64
  dsimp only
  split
  · exact whole.1
  · exact result.1

/-! ## Whole decimals -/

/-- A decimal is whole if its coefficient is a multiple of the power of ten under it. -/
theorem value_eq_iff (d : Fixed) (n : Int) :
    d.value = n ↔ d.coefficient = n * d.denominator := by
  have power : (10 : ℚ) ^ d.scale = (d.denominator : Int) := by
    rw [denominator, Nat.pow_eq]
    push_cast
    rfl
  have filled : ((d.denominator : Int) : ℚ) ≠ 0 := by exact_mod_cast d.denominator_pos.ne'
  rw [value, power, div_eq_iff filled]
  exact_mod_cast Iff.rfl

theorem whole?_eq_some_iff (d : Fixed) (n : Int) : d.whole? = some n ↔ d.value = n := by
  have filled : (d.denominator : Int) ≠ 0 := by exact_mod_cast d.denominator_pos.ne'
  rw [value_eq_iff]
  unfold whole?
  split
  case isTrue multiple =>
    rw [Option.some.injEq]
    exact Int.ediv_eq_iff_eq_mul_left filled (Int.dvd_of_emod_eq_zero multiple)
  case isFalse broken =>
    refine iff_of_false nofun fun multiple => broken ?_
    rw [multiple, Int.mul_emod_left]

end Decimal.Fixed

/-! ## Decoding decimals -/

namespace WireType

open Decimal.Numeral (toInt64? toInt64?_eq_some_iff)

theorem bind_toInt64?_eq_some_iff (d : Fixed) (i : Int64) :
    d.whole?.bind toInt64? = some i ↔ d.value = (i.toInt : Int) := by
  rw [← Fixed.whole?_eq_some_iff]
  simp [Option.bind_eq_some_iff, toInt64?_eq_some_iff]

/-- A decimal is decoded to a word of 64 bits if its value is one, and to a binary64 number
otherwise. -/
theorem decodeDecimal_cases (d : Fixed) :
    (∃ i : Int64, d.value = (i.toInt : Int) ∧ decodeDecimal d = .int i.toInt) ∨
      (∀ i : Int64, d.value ≠ (i.toInt : Int)) ∧
        decodeDecimal d = .number (.float d.toBinary64) := by
  unfold decodeDecimal
  split
  case h_1 i word => exact .inl ⟨i, (bind_toInt64?_eq_some_iff d i).mp word, rfl⟩
  case h_2 none =>
    refine .inr ⟨fun i whole => ?_, if_pos d.isFinite_toBinary64⟩
    rw [(bind_toInt64?_eq_some_iff d i).mpr whole] at none
    cases none

/-- A decimal is decoded to a whole number exactly if this is its value and 64 bits hold it. -/
theorem decodeDecimal_eq_int_iff (d : Fixed) (n : Int) :
    decodeDecimal d = .int n ↔
      d.value = n ∧ Int64.minValue.toInt ≤ n ∧ n ≤ Int64.maxValue.toInt := by
  rcases decodeDecimal_cases d with ⟨i, value, decoded⟩ | ⟨noWord, decoded⟩
  · have int_iff : decodeDecimal d = .int n ↔ i.toInt = n := by
      simp [decoded, Json.int]
    rw [int_iff, value, Int.cast_inj]
    constructor
    · rintro rfl
      exact ⟨rfl, i.minValue_le_toInt, i.toInt_le⟩
    · exact And.left
  · refine iff_of_false (by simp [decoded, Json.int]) ?_
    rintro ⟨value, least, greatest⟩
    have word : toInt64? n = some (Int64.ofInt n) := if_pos ⟨least, greatest⟩
    exact noWord (Int64.ofInt n) (by rw [toInt64?_eq_some_iff.mp word, value])

/-- A decimal is decoded to a binary64 number exactly if its value is not whole or 64 bits do not
hold it. -/
theorem exists_decodeDecimal_float_iff (d : Fixed) :
    (∃ x, x.isFinite = true ∧ decodeDecimal d = .number (.float x)) ↔
      ∀ n : Int, d.value = n → n < Int64.minValue.toInt ∨ Int64.maxValue.toInt < n := by
  constructor
  · rintro ⟨x, -, decoded⟩ n value
    by_contra within
    rw [not_or, not_lt, not_lt] at within
    have whole := (decodeDecimal_eq_int_iff d n).mpr ⟨value, within.1, within.2⟩
    rw [decoded] at whole
    cases whole
  · intro beyond
    rcases decodeDecimal_cases d with ⟨i, value, -⟩ | ⟨-, decoded⟩
    · have below := i.minValue_le_toInt
      have above := i.toInt_le
      have outside := beyond i.toInt value
      omega
    · exact ⟨d.toBinary64, d.isFinite_toBinary64, decoded⟩

end WireType

namespace Cell

open WireType (decodeDecimal)

/-- A column of decimals and a column of lists of decimals. -/
def ofDecimal (column : String) (d : Fixed) : Cell :=
  ⟨column, .scalar .numeric, some (WireDecimal.number d)⟩

def ofDecimals (column : String) (ds : List Fixed) : Cell :=
  ⟨column, .array .numeric, some (ds.map fun d => some (WireDecimal.number d))⟩

/-- Each decimal of a list is decoded as it is on its own. -/
theorem decode_ofDecimals (column : String) (ds : List Fixed) :
    (ofDecimals column ds).decode = .ok (.array (ds.map decodeDecimal)) := by
  have items : (ds.map fun d => some (WireDecimal.number d)).mapM
      (ReplyType.decodeItem .numeric) = .ok (ds.map decodeDecimal) := by
    rw [mapM_eq_ok_iff, List.forall₂_map_left_iff, List.forall₂_map_right_iff, List.forall₂_same]
    exact fun d _ => rfl
  have list : (ofDecimals column ds).decode =
      ((ds.map fun d => some (WireDecimal.number d)).mapM
        (ReplyType.decodeItem .numeric)).map Json.array := rfl
  rw [list, items]
  rfl

/-- A decimal that 64 bits hold as a whole number is decoded to that number, whatever its scale, alone
and in a list.  Exactly the others are decoded to binary64 numbers. -/
theorem decode_decimals (d : Fixed) :
    (∀ column, (ofDecimal column d).decode = .ok (decodeDecimal d)) ∧
      (∀ column before after, (ofDecimals column (before ++ d :: after)).decode =
        .ok (.array (before.map decodeDecimal ++ decodeDecimal d :: after.map decodeDecimal))) ∧
      (∀ n : Int, decodeDecimal d = .int n ↔
        d.value = n ∧ Int64.minValue.toInt ≤ n ∧ n ≤ Int64.maxValue.toInt) ∧
      ((∃ x, x.isFinite = true ∧ decodeDecimal d = .number (.float x)) ↔
        ∀ n : Int, d.value = n → n < Int64.minValue.toInt ∨ Int64.maxValue.toInt < n) := by
  refine ⟨fun column => rfl, fun column before after => ?_, WireType.decodeDecimal_eq_int_iff d,
    WireType.exists_decodeDecimal_float_iff d⟩
  rw [decode_ofDecimals, List.map_append, List.map_cons]

/-- The first whole number but one beyond 64 bits is rounded to its neighbour. -/
theorem decode_beyond_int64 :
    let d : Fixed := ⟨9223372036854775809, 0, by decide, by decide⟩
    let rounded : Binary64 := ⟨false, 1086, 0⟩
    d.value = (9223372036854775809 : Int) ∧ rounded.value = 9223372036854775808 ∧
      ∀ column, (ofDecimal column d).decode = .ok (.number (.float rounded)) := by
  intro d rounded
  have binary : d.toBinary64 = rounded := by decide +kernel
  have value : d.value = (9223372036854775809 : Int) := by
    rw [Fixed.value_eq_iff]
    rfl
  have size : rounded.value = 9223372036854775808 := by
    have significand : rounded.significand = 2 ^ 52 := by decide +kernel
    have scale : rounded.scale = 11 := by decide +kernel
    have positive : rounded.value = rounded.size := rfl
    rw [positive, Binary64.size, significand, scale]
    norm_num
  refine ⟨value, size, fun column => ?_⟩
  rcases WireType.decodeDecimal_cases d with ⟨i, word, -⟩ | ⟨-, decoded⟩
  · have above : i.toInt ≤ 9223372036854775807 := i.toInt_le
    rw [value, Int.cast_inj] at word
    omega
  · rw [binary] at decoded
    exact congrArg Except.ok decoded

end Cell

end SqlCompose
