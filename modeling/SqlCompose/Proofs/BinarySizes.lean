/-
# The size of a binary64 number

A finite number is its significand scaled by a power of two.  Its size is that product as a rational
number, and with the sign it is the value of the number.  What is computed with such numbers
goes through quotients of natural numbers, and each of them is the size of a number again.
-/

import Mathlib.Algebra.Order.Field.Power
import Mathlib.Tactic.NormNum
import SqlCompose.Decimal.Binary64

namespace SqlCompose.Decimal.Binary64

/-- The absolute value of a finite number. -/
def size (x : Binary64) : ℚ :=
  x.significand * 2 ^ x.scale

/-- The value of a finite number. -/
def value (x : Binary64) : ℚ :=
  if x.negative then -x.size else x.size

variable {x : Binary64}

theorem significand_lt (x : Binary64) : x.significand < 2 ^ 53 := by
  have fraction := x.fraction.isLt
  unfold significand leadingBit
  split <;> omega

theorem significand_of_normal (normal : x.exponent ≠ 0) :
    x.significand = 2 ^ 52 + x.fraction.toNat := by
  rw [significand, if_neg normal]
  rfl

theorem significand_eq_zero_iff : x.significand = 0 ↔ x.isZero = true := by
  by_cases subnormal : x.exponent = 0
  · simp [significand, isZero, subnormal, ← BitVec.toNat_inj]
  · have noZero : x.isZero = false := by
      rw [isZero, decide_eq_false_iff_not]
      exact fun zero => subnormal zero.1
    simp [significand_of_normal subnormal, noZero]

theorem size_nonneg (x : Binary64) : 0 ≤ x.size := by
  unfold size
  positivity

theorem size_eq_zero_iff : x.size = 0 ↔ x.isZero = true := by
  have scaled : (2 : ℚ) ^ x.scale ≠ 0 := zpow_ne_zero _ two_ne_zero
  rw [size, mul_eq_zero, or_iff_left scaled, Nat.cast_eq_zero, significand_eq_zero_iff]

/-! ## Quotients -/

theorem scaledRatio_pos (n : Nat) (e : Int) : 0 < (scaledRatio n e).2 := by
  unfold scaledRatio
  split
  · exact Nat.zero_lt_one
  · rw [Nat.shiftLeft_eq]
    positivity

/-- A natural number scaled by a power of two is a quotient of natural numbers. -/
theorem ratio_scaledRatio (n : Nat) (e : Int) :
    ((scaledRatio n e).1 : ℚ) / (scaledRatio n e).2 = n * 2 ^ e := by
  unfold scaledRatio
  split
  case isTrue whole =>
    obtain ⟨k, rfl⟩ := Int.eq_ofNat_of_zero_le whole
    simp [Nat.shiftLeft_eq]
  case isFalse broken =>
    obtain ⟨k, rfl⟩ : ∃ k : Nat, e = -k := ⟨(-e).toNat, by omega⟩
    simp [Nat.shiftLeft_eq, div_eq_mul_inv]

theorem ratio_magnitude (x : Binary64) : (x.magnitude.1 : ℚ) / x.magnitude.2 = x.size :=
  ratio_scaledRatio x.significand x.scale

theorem magnitude_pos (x : Binary64) : 0 < x.magnitude.2 :=
  scaledRatio_pos x.significand x.scale

end SqlCompose.Decimal.Binary64
