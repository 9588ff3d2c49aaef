/-
# Shortest decimals read back

A finite number is written as a decimal of few digits, which is not the number itself but one that
is rounded to it.  The reals that are rounded to a number form an interval around it, half a unit wide
on each side, or a quarter below a power of two, where the units change
(`Binary64.IsRoundedFrom`).  Whatever quotient lies in this interval, rounding it yields the number
again (`Binary64.ofRatio_of_isRoundedFrom`).

A decimal is taken from a grid only if it lies in the interval, so it remains to see that one is
found.  The points of the grid of 17 digits are closer together than the interval is wide: a
number has at most 53 binary digits, and 2 ^ 53 is less than 10 ^ 16
(`Shortest.isRoundedFrom_decimal`).
-/

import SqlCompose.Decimal.Shortest
import SqlCompose.Proofs.Rounding

namespace SqlCompose.Decimal

namespace Binary64

/-! ## The interval of a number -/

/-- How far the interval of a number reaches below it, in units of its last binary digit. -/
def lowerReach (x : Binary64) : ℚ :=
  if x.fraction = 0 ∧ 1 < x.exponent.toNat then 1 / 4 else 1 / 2

/-- Whether a finite number is the one to which a rational is rounded.  The ends of the interval are
rounded to it if its significand is even. -/
structure IsRoundedFrom (x : Binary64) (q : ℚ) : Prop where
  low : (x.significand - x.lowerReach) * 2 ^ x.scale ≤ q
  high : q ≤ (x.significand + 1 / 2) * 2 ^ x.scale
  ends : q = (x.significand - x.lowerReach) * 2 ^ x.scale ∨
    q = (x.significand + 1 / 2) * 2 ^ x.scale → x.significand % 2 = 0

theorem lowerReach_le (x : Binary64) : x.lowerReach ≤ 1 / 2 := by
  unfold lowerReach
  split_ifs <;> norm_num

/-- Only zero has zero in its interval. -/
theorem IsRoundedFrom.pos {x : Binary64} {q : ℚ} (rounded : x.IsRoundedFrom q)
    (nonzero : x.isZero = false) : 0 < q := by
  have some : 0 < x.significand := by
    rw [Nat.pos_iff_ne_zero]
    intro none
    rw [significand_eq_zero_iff.mp none] at nonzero
    cases nonzero
  have atLeast : (1 : ℚ) ≤ x.significand := by exact_mod_cast some
  have reach := x.lowerReach_le
  have above : 0 < x.significand - x.lowerReach := by linarith
  exact (mul_pos above (by positivity)).trans_le rounded.low

theorem least_le_scale (x : Binary64) : -1074 ≤ x.scale := by
  unfold scale
  omega

theorem scale_of_few {x : Binary64} (few : x.significand < 2 ^ 52) : x.scale = -1074 := by
  by_cases subnormal : x.exponent = 0
  · rw [scale, subnormal]
    rfl
  · rw [significand_of_normal subnormal] at few
    omega

/-- A finite number is packed from its own significand and scale. -/
theorem pack_significand {x : Binary64} (finite : x.isFinite = true) :
    pack x.negative x.significand x.scale = x := by
  have leading : leadingBit = 2 ^ 52 := rfl
  have bound := x.fraction.isLt
  have short := x.significand_lt
  unfold pack
  rw [leading, if_pos (by omega)]
  dsimp only
  by_cases subnormal : x.exponent = 0
  · have isFraction : x.significand = x.fraction.toNat := if_pos subnormal
    rw [isFraction, if_pos bound, BitVec.ofNat_toNat, BitVec.setWidth_eq, ← subnormal]
  · have normal : x.exponent.toNat ≠ 0 := fun zero =>
      subnormal (BitVec.eq_of_toNat_eq zero)
    have exponent : (x.scale + 1075).toNat = x.exponent.toNat := by
      unfold scale
      omega
    have small : x.exponent.toNat < 2047 := by
      have other : x.exponent.toNat ≠ 2047 := fun same =>
        of_decide_eq_true finite (BitVec.eq_of_toNat_eq same)
      have := x.exponent.isLt
      omega
    rw [significand_of_normal subnormal, if_neg (by omega), exponent, if_pos small,
      Nat.add_sub_cancel_left, BitVec.ofNat_toNat, BitVec.setWidth_eq, BitVec.ofNat_toNat,
      BitVec.setWidth_eq]

/-! ## Rounding within the interval -/

/-- A quotient is rounded to a whole number that is less than a half away, or just a half if the whole
number is even. -/
theorem roundHalfEven_eq {n d k : Nat} (positive : 0 < d) (low : (k : ℚ) - 1 / 2 ≤ n / d)
    (high : (n : ℚ) / d ≤ k + 1 / 2)
    (ends : (n : ℚ) / d = k - 1 / 2 ∨ (n : ℚ) / d = k + 1 / 2 → k % 2 = 0) :
    roundHalfEven n d = k := by
  have cast : (0 : ℚ) < d := by exact_mod_cast positive
  have lowWhole : 2 * (k * d) ≤ 2 * n + d := by
    rw [le_div_iff₀ cast] at low
    have : 2 * ((k : ℚ) * d) ≤ 2 * n + d := by linarith
    exact_mod_cast this
  have highWhole : 2 * n ≤ 2 * (k * d) + d := by
    rw [div_le_iff₀ cast] at high
    have : 2 * (n : ℚ) ≤ 2 * (k * d) + d := by linarith
    exact_mod_cast this
  have endsWhole : 2 * (k * d) = 2 * n + d ∨ 2 * n = 2 * (k * d) + d → k % 2 = 0 := by
    rw [div_eq_iff cast.ne', div_eq_iff cast.ne'] at ends
    rintro (isLow | isHigh)
    · have : 2 * ((k : ℚ) * d) = 2 * n + d := by exact_mod_cast isLow
      exact ends (.inl (by linarith))
    · have : 2 * (n : ℚ) = 2 * (k * d) + d := by exact_mod_cast isHigh
      exact ends (.inr (by linarith))
  have parts := Nat.div_add_mod' n d
  have rest := Nat.mod_lt n positive
  have near : n / d = k ∨ n / d + 1 = k := by
    have notAbove : n / d ≤ k := by
      by_contra above
      have := Nat.mul_le_mul_right d (Nat.lt_of_not_le above)
      rw [Nat.succ_mul] at this
      omega
    have notBelow : k ≤ n / d + 1 := by
      by_contra below
      have := Nat.mul_le_mul_right d (Nat.lt_of_not_le below)
      rw [Nat.succ_mul, Nat.succ_mul] at this
      omega
    omega
  unfold roundHalfEven
  dsimp only
  rcases near with same | next
  · rw [same] at parts ⊢
    split_ifs <;> omega
  · have expanded : k * d = n / d * d + d := by rw [← next, Nat.succ_mul]
    rw [expanded] at lowWhole endsWhole
    split_ifs <;> omega

theorem unitExponent_eq {p n d : Nat} {least e : Int} (numerator : 0 < n) (denominator : 0 < d)
    (bound : least ≤ e) (low : e = least ∨ (2 : ℚ) ^ (e + p) ≤ n / d)
    (high : (n : ℚ) / d < 2 ^ (e + p + 1)) : unitExponent (p + 1) least n d = e := by
  obtain ⟨exact, unit, lowExact, highExact⟩ := exists_unitExponent p least numerator denominator
  have notAbove : exact ≤ e := by
    have := (zpow_lt_zpow_iff_right₀ (one_lt_two (α := ℚ))).mp (lowExact.trans_lt high)
    omega
  rw [unit]
  rcases low with isLeast | low
  · omega
  · have := (zpow_lt_zpow_iff_right₀ (one_lt_two (α := ℚ))).mp (low.trans_lt highExact)
    omega

/-- A quotient is nearest to a multiple of its unit that is less than half a unit away, or just half a
unit if the multiple is an even one. -/
theorem nearest_eq {p n d k : Nat} {least e : Int} (denominator : 0 < d)
    (unit : unitExponent (p + 1) least n d = e) (low : (k - 1 / 2) * 2 ^ e ≤ (n : ℚ) / d)
    (high : (n : ℚ) / d ≤ (k + 1 / 2) * 2 ^ e)
    (ends : (n : ℚ) / d = (k - 1 / 2) * 2 ^ e ∨ (n : ℚ) / d = (k + 1 / 2) * 2 ^ e → k % 2 = 0) :
    nearest (p + 1) least n d = (k, e) := by
  obtain ⟨positive, scaled⟩ := ratio_scaled (n := n) denominator (-e)
  have scale : (0 : ℚ) < 2 ^ e := by positivity
  rw [zpow_neg, ← div_eq_mul_inv] at scaled
  have rounded : roundHalfEven (scaledRatio n (-e)).1 ((scaledRatio n (-e)).2 * d) = k := by
    apply roundHalfEven_eq positive
    · rwa [scaled, le_div_iff₀ scale]
    · rwa [scaled, div_le_iff₀ scale]
    · rwa [scaled, div_eq_iff scale.ne', div_eq_iff scale.ne']
  simp only [nearest, unit, rounded]

theorem lowerReach_of_power {x : Binary64} (above : x.scale ≠ -1074)
    (isPower : x.significand = 2 ^ 52) : x.lowerReach = 1 / 4 := by
  have large : 1 < x.exponent.toNat := by
    unfold scale at above
    omega
  have normal : x.exponent ≠ 0 := by
    intro zero
    rw [zero] at large
    exact absurd large (by decide)
  rw [significand_of_normal normal] at isPower
  have noFraction : x.fraction = 0 :=
    BitVec.eq_of_toNat_eq (show x.fraction.toNat = 0 by omega)
  exact if_pos ⟨noFraction, large⟩

/-- Below a power of two the units are half as large, and what is in the interval of the power is
rounded up to it. -/
theorem nearest_below_power {x : Binary64} {n d : Nat} (numerator : 0 < n) (denominator : 0 < d)
    (rounded : x.IsRoundedFrom (n / d)) (above : x.scale ≠ -1074)
    (below : (n : ℚ) / d < 2 ^ (x.scale + 52)) :
    x.significand = 2 ^ 52 ∧ nearest 53 (-1074) n d = (2 ^ 53, x.scale - 1) := by
  have scale : (0 : ℚ) < 2 ^ x.scale := by positivity
  have times (k : Nat) (e : Int) : (2 : ℚ) ^ (e + k) = 2 ^ k * 2 ^ e := by
    rw [zpow_add₀ two_ne_zero, mul_comm, zpow_natCast]
  have half : (2 : ℚ) ^ x.scale = 2 * 2 ^ (x.scale - 1) := by
    rw [← zpow_one_add₀ two_ne_zero, add_sub_cancel]
  have halfUnit : (0 : ℚ) < 2 ^ (x.scale - 1) := by positivity
  have below : (n : ℚ) / d < 2 ^ 52 * 2 ^ x.scale := below.trans_eq (times 52 x.scale)
  have reach := x.lowerReach_le
  have isPower : x.significand = 2 ^ 52 := by
    have atLeast : 2 ^ 52 ≤ x.significand := by
      by_contra few
      exact above (scale_of_few (Nat.lt_of_not_le few))
    have less := lt_of_mul_lt_mul_right (rounded.low.trans_lt below) scale.le
    have atMost : (x.significand : ℚ) < 2 ^ 52 + 1 := by linarith
    have : x.significand < 2 ^ 52 + 1 := by exact_mod_cast atMost
    omega
  have low := rounded.low
  rw [lowerReach_of_power above isPower, isPower, half] at low
  rw [half] at below
  have least := x.least_le_scale
  have unit : unitExponent 53 (-1074) n d = x.scale - 1 := by
    apply unitExponent_eq numerator denominator (by omega)
    · right
      rw [times]
      push_cast at low
      linarith
    · rw [add_assoc]
      refine lt_of_lt_of_eq ?_ (times 53 (x.scale - 1)).symm
      linarith
  refine ⟨isPower, nearest_eq denominator unit ?_ ?_ fun _ => rfl⟩
  · push_cast at low ⊢
    linarith
  · push_cast
    linarith

/-- A quotient in the interval of a number is rounded to the number. -/
theorem ofRatio_of_isRoundedFrom {x : Binary64} {n d : Nat} (finite : x.isFinite = true)
    (numerator : 0 < n) (denominator : 0 < d) (rounded : x.IsRoundedFrom (n / d)) :
    ofRatio x.negative n d = x := by
  have scale : (0 : ℚ) < 2 ^ x.scale := by positivity
  have reach := x.lowerReach_le
  rw [ofRatio, if_neg numerator.ne']
  by_cases regular : x.scale = -1074 ∨ (2 : ℚ) ^ (x.scale + 52) ≤ n / d
  · have top : (n : ℚ) / d < 2 ^ (x.scale + 52 + 1) := by
      have short : (x.significand : ℚ) + 1 ≤ 2 ^ (53 : Int) := by exact_mod_cast x.significand_lt
      calc (n : ℚ) / d ≤ (x.significand + 1 / 2) * 2 ^ x.scale := rounded.high
        _ < 2 ^ (53 : Int) * 2 ^ x.scale := by
            apply mul_lt_mul_of_pos_right _ scale
            linarith
        _ = 2 ^ (x.scale + 52 + 1) := by
            rw [← zpow_add₀ two_ne_zero]
            congr 1
            omega
    have unit := unitExponent_eq (p := 52) numerator denominator x.least_le_scale regular top
    have low : ((x.significand : ℚ) - 1 / 2) * 2 ^ x.scale ≤
        (x.significand - x.lowerReach) * 2 ^ x.scale :=
      mul_le_mul_of_nonneg_right (by linarith) scale.le
    have isNearest : nearest 53 (-1074) n d = (x.significand, x.scale) := by
      apply nearest_eq denominator unit (low.trans rounded.low) rounded.high
      rintro (isLow | isHigh)
      · exact rounded.ends (.inl ((isLow.le.trans low).antisymm rounded.low))
      · exact rounded.ends (.inr isHigh)
    rw [isNearest]
    exact pack_significand finite
  · rw [not_or, not_le] at regular
    obtain ⟨isPower, isNearest⟩ :=
      nearest_below_power numerator denominator rounded regular.1 regular.2
    have halved : pack x.negative (2 ^ 53) (x.scale - 1) =
        pack x.negative (2 ^ 52) (x.scale - 1 + 1) := rfl
    rw [sub_add_cancel] at halved
    rw [isNearest]
    dsimp only
    rw [halved, ← isPower]
    exact pack_significand finite

end Binary64

/-! ## Decimals -/

namespace Scientific

/-- The value of a decimal. -/
def value (d : Scientific) : ℚ :=
  d.coefficient * 10 ^ d.exponent

theorem value_dropZeros (fuel : Nat) (d : Scientific) : (dropZeros fuel d).value = d.value := by
  induction fuel generalizing d with
  | zero => rfl
  | succ fuel ih =>
      rw [dropZeros]
      split
      case isTrue zero =>
        have tens : (d.coefficient : ℚ) = (d.coefficient / 10 : Nat) * 10 := by
          exact_mod_cast (Nat.div_mul_cancel (Nat.dvd_of_mod_eq_zero zero.2)).symm
        rw [ih, value, value, tens, zpow_add_one₀ (by norm_num)]
        ring
      case isFalse => rfl

@[simp]
theorem value_normalized (d : Scientific) : d.normalized.value = d.value :=
  value_dropZeros _ d

end Scientific

namespace Shortest

open Binary64 (lowerReach IsRoundedFrom scaledRatio)

/-! ## Points of a grid -/

/-- The multiple of a unit that is written for an interval, if one of the two neighbours of the number
lies in it. -/
def Rounding.point (tie : Tie) (r : Rounding) (unit : Nat) : Option Nat :=
  let floor := r.value / unit
  let below := r.admits (floor * unit)
  let above := r.admits ((floor + 1) * unit)
  if below && above then
    let rest := 2 * (r.value % unit)
    if rest < unit then some floor
    else if unit < rest then some (floor + 1)
    else
      match tie with
      | .up => some (floor + 1)
      | .toEven => some (floor + floor % 2)
  else if below then some floor
  else if above then some (floor + 1)
  else none

namespace Rounding

variable {tie : Tie} {r : Rounding} {unit : Nat}

theorem admits_of_point {c : Nat} (found : r.point tie unit = some c) :
    r.admits (c * unit) = true := by
  unfold point at found
  dsimp only at found
  split at found
  case isTrue both =>
    rw [Bool.and_eq_true] at both
    have neighbour : c = r.value / unit ∨ c = r.value / unit + 1 := by
      split at found
      case isTrue => exact .inl (Option.some.inj found).symm
      case isFalse =>
        split at found
        case isTrue => exact .inr (Option.some.inj found).symm
        case isFalse =>
          cases tie with
          | up => exact .inr (Option.some.inj found).symm
          | toEven =>
              have := Option.some.inj found
              omega
    rcases neighbour with rfl | rfl
    · exact both.1
    · exact both.2
  case isFalse =>
    split at found
    case isTrue below =>
      obtain rfl := Option.some.inj found
      exact below
    case isFalse =>
      split at found
      case isTrue above =>
        obtain rfl := Option.some.inj found
        exact above
      case isFalse => cases found

/-- An interval that is wider than a unit has one of the neighbours of its number in it. -/
theorem point_ne_none (low : r.low < r.value) (high : r.value < r.high) (positive : 0 < unit)
    (wide : r.low + unit < r.high) : r.point tie unit ≠ none := by
  have floor := Nat.div_mul_le_self r.value unit
  have ceiling := Nat.lt_div_mul_add positive (a := r.value)
  have admitted : r.admits (r.value / unit * unit) = true ∨
      r.admits ((r.value / unit + 1) * unit) = true := by
    rw [Nat.succ_mul]
    unfold admits
    split <;>
      · simp only [decide_eq_true_eq]
        omega
  unfold point
  dsimp only
  split_ifs with both rest next below above
  · simp
  · simp
  · cases tie <;> simp
  · simp
  · simp
  · exact absurd admitted (not_or.mpr ⟨below, above⟩)

end Rounding

/-! ## Points in the interval of a number -/

variable {x : Binary64}

/-- The bounds of the interval are those of the rationals that are rounded to the number, over the
denominator of the interval. -/
structure Rounding.Bounds (x : Binary64) (r : Rounding) : Prop where
  denominator : 0 < r.denominator
  low : (r.low : ℚ) = (x.significand - x.lowerReach) * 2 ^ x.scale * r.denominator
  value : (r.value : ℚ) = x.size * r.denominator
  high : (r.high : ℚ) = (x.significand + 1 / 2) * 2 ^ x.scale * r.denominator
  closed : r.closed = true ↔ x.significand % 2 = 0

theorem bounds_interval (nonzero : x.isZero = false) : (interval x).Bounds x := by
  have denominator : 0 < (scaledRatio 1 (x.scale - 2)).2 := Binary64.scaledRatio_pos _ _
  have some : x.significand ≠ 0 := by
    rw [Ne, Binary64.significand_eq_zero_iff, nonzero]
    exact Bool.false_ne_true
  have ratio := Binary64.ratio_scaledRatio 1 (x.scale - 2)
  have positive : ((scaledRatio 1 (x.scale - 2)).2 : ℚ) ≠ 0 := by exact_mod_cast denominator.ne'
  have quarter : (2 : ℚ) ^ x.scale = 4 * 2 ^ (x.scale - 2) := by
    rw [zpow_sub₀ two_ne_zero]
    norm_num
    ring
  rw [Nat.cast_one, one_mul, div_eq_iff positive] at ratio
  have reach : (((if x.fraction = 0 ∧ 1 < x.exponent.toNat then 1 else 2 : Nat)) : ℚ) =
      4 * x.lowerReach := by
    unfold lowerReach
    split_ifs <;> norm_num
  have little : (if x.fraction = 0 ∧ 1 < x.exponent.toNat then 1 else 2) ≤ 4 * x.significand := by
    split_ifs <;> omega
  refine ⟨denominator, ?_, ?_, ?_, ?_⟩
  · rw [interval, Nat.cast_mul, Nat.cast_sub little, reach, ratio, quarter]
    push_cast
    ring
  · rw [interval, Nat.cast_mul, ratio, Binary64.size, quarter]
    push_cast
    ring
  · rw [interval, Nat.cast_mul, ratio, quarter]
    push_cast
    ring
  · exact decide_eq_true_iff

/-- The interval in smaller units, of which there are some in each one. -/
def Rounding.times (r : Rounding) (up : Nat) : Rounding :=
  ⟨r.low * up, r.value * up, r.high * up, r.denominator * up, r.closed⟩

theorem Rounding.Bounds.times {r : Rounding} (bounds : r.Bounds x) {up : Nat} (positive : 0 < up) :
    (r.times up).Bounds x where
  denominator := Nat.mul_pos bounds.denominator positive
  low := by
    rw [Rounding.times, Nat.cast_mul, Nat.cast_mul, bounds.low]
    ring
  value := by
    rw [Rounding.times, Nat.cast_mul, Nat.cast_mul, bounds.value]
    ring
  high := by
    rw [Rounding.times, Nat.cast_mul, Nat.cast_mul, bounds.high]
    ring
  closed := bounds.closed

/-- A grid is tried in units that keep the interval and the points of the grid whole. -/
theorem exists_onGrid {r : Rounding} (bounds : r.Bounds x) (tie : Tie) (e : Int) :
    ∃ (scaled : Rounding) (unit : Nat), scaled.Bounds x ∧
      (unit : ℚ) = 10 ^ e * scaled.denominator ∧ onGrid tie r e = scaled.point tie unit := by
  by_cases whole : 0 ≤ e
  · refine ⟨r.times 1, r.denominator * Nat.pow 10 e.toNat, bounds.times Nat.one_pos, ?_, ?_⟩
    · obtain ⟨k, rfl⟩ := Int.eq_ofNat_of_zero_le whole
      simp [Rounding.times, mul_comm]
    · rw [onGrid, if_pos whole]
      rfl
  · have power : 0 < Nat.pow 10 (-e).toNat := Nat.pow_pos (by decide)
    refine ⟨r.times (Nat.pow 10 (-e).toNat), r.denominator * 1, bounds.times power, ?_, ?_⟩
    · obtain ⟨k, rfl⟩ : ∃ k : Nat, e = -k := ⟨(-e).toNat, by omega⟩
      simp [Rounding.times]
      field_simp
    · rw [onGrid, if_neg whole]
      rfl

theorem isRoundedFrom_of_admits {r : Rounding} (bounds : r.Bounds x) {e : Int} {unit c : Nat}
    (step : (unit : ℚ) = 10 ^ e * r.denominator) (admitted : r.admits (c * unit) = true) :
    x.IsRoundedFrom (c * 10 ^ e) := by
  have positive : (0 : ℚ) < r.denominator := by exact_mod_cast bounds.denominator
  have point : ((c * unit : Nat) : ℚ) = c * 10 ^ e * r.denominator := by
    rw [Nat.cast_mul, step, mul_assoc]
  unfold Rounding.admits at admitted
  split at admitted
  case isTrue closed =>
    rw [decide_eq_true_eq, ← Nat.cast_le (α := ℚ), ← Nat.cast_le (α := ℚ), bounds.low, bounds.high,
      point, mul_le_mul_iff_left₀ positive, mul_le_mul_iff_left₀ positive] at admitted
    exact ⟨admitted.1, admitted.2, fun _ => bounds.closed.mp closed⟩
  case isFalse =>
    rw [decide_eq_true_eq, ← Nat.cast_lt (α := ℚ), ← Nat.cast_lt (α := ℚ), bounds.low, bounds.high,
      point, mul_lt_mul_iff_left₀ positive, mul_lt_mul_iff_left₀ positive] at admitted
    refine ⟨admitted.1.le, admitted.2.le, ?_⟩
    rintro (isLow | isHigh)
    · exact absurd isLow admitted.1.ne'
    · exact absurd isHigh admitted.2.ne

/-- A point of a grid that is written for a number is rounded to it. -/
theorem isRoundedFrom_of_onGrid (nonzero : x.isZero = false) {tie : Tie} {e : Int} {c : Nat}
    (found : onGrid tie (interval x) e = some c) : x.IsRoundedFrom (c * 10 ^ e) := by
  obtain ⟨scaled, unit, bounds, step, isPoint⟩ := exists_onGrid (bounds_interval nonzero) tie e
  rw [isPoint] at found
  exact isRoundedFrom_of_admits bounds step (Rounding.admits_of_point found)

/-- A grid whose points are closer together than the interval is wide has a point in it. -/
theorem onGrid_ne_none (nonzero : x.isZero = false) {tie : Tie} {e : Int}
    (fine : (10 : ℚ) ^ e < (x.lowerReach + 1 / 2) * 2 ^ x.scale) :
    onGrid tie (interval x) e ≠ none := by
  obtain ⟨scaled, unit, bounds, step, isPoint⟩ := exists_onGrid (bounds_interval nonzero) tie e
  have positive : (0 : ℚ) < scaled.denominator := by exact_mod_cast bounds.denominator
  have power : (0 : ℚ) < 2 ^ x.scale := by positivity
  have reach : 0 < x.lowerReach := by
    unfold lowerReach
    split_ifs <;> norm_num
  rw [isPoint]
  apply Rounding.point_ne_none
  · rw [← Nat.cast_lt (α := ℚ), bounds.low, bounds.value, Binary64.size,
      mul_lt_mul_iff_left₀ positive, mul_lt_mul_iff_left₀ power]
    linarith
  · rw [← Nat.cast_lt (α := ℚ), bounds.high, bounds.value, Binary64.size,
      mul_lt_mul_iff_left₀ positive, mul_lt_mul_iff_left₀ power]
    linarith
  · rw [← Nat.cast_pos (α := ℚ), step]
    positivity
  · rw [← Nat.cast_lt (α := ℚ), Nat.cast_add, bounds.low, bounds.high, step, ← add_mul,
      mul_lt_mul_iff_left₀ positive]
    linarith

/-! ## The leading digit -/

theorem lt_ten_pow_length (n : Nat) : n < 10 ^ (Nat.toDigits 10 n).length :=
  (Nat.length_toDigits_le_iff (by decide) (List.length_pos_iff.mpr Nat.toDigits_ne_nil)).mp le_rfl

theorem ten_pow_length_le {n : Nat} (positive : 0 < n) :
    10 ^ ((Nat.toDigits 10 n).length - 1) ≤ n := by
  by_contra below
  have filled : 0 < (Nat.toDigits 10 n).length := List.length_pos_iff.mpr Nat.toDigits_ne_nil
  rcases Nat.eq_zero_or_pos ((Nat.toDigits 10 n).length - 1) with single | several
  · rw [single] at below
    omega
  · have := (Nat.length_toDigits_le_iff (by decide) several).mpr (Nat.lt_of_not_le below)
    omega

/-- A quotient is not below the power of ten of its leading digit. -/
theorem leadingExponent_le {n d : Nat} (numerator : 0 < n) (denominator : 0 < d) :
    (10 : ℚ) ^ leadingExponent n d ≤ n / d := by
  have castN : (0 : ℚ) < n := by exact_mod_cast numerator
  have castD : (0 : ℚ) < d := by exact_mod_cast denominator
  unfold leadingExponent
  split
  case isTrue whole =>
    have quotient : 0 < n / d := Nat.div_pos whole denominator
    have filled : 0 < (Nat.toDigits 10 (n / d)).length :=
      List.length_pos_iff.mpr Nat.toDigits_ne_nil
    have digits : (((Nat.toDigits 10 (n / d)).length : Int) - 1) =
        ((Nat.toDigits 10 (n / d)).length - 1 : Nat) := by omega
    rw [digits, zpow_natCast]
    calc (10 : ℚ) ^ ((Nat.toDigits 10 (n / d)).length - 1) ≤ (n / d : Nat) := by
          exact_mod_cast ten_pow_length_le quotient
      _ ≤ n / d := Nat.cast_div_le
  case isFalse =>
    dsimp only
    have ceiling : d ≤ (d + n - 1) / n * n := by
      have := Nat.lt_div_mul_add numerator (a := d + n - 1)
      omega
    have digits := lt_ten_pow_length ((d + n - 1) / n - 1)
    have within : d ≤ 10 ^ (Nat.toDigits 10 ((d + n - 1) / n - 1)).length * n :=
      ceiling.trans (Nat.mul_le_mul_right n (by omega))
    rw [Int.negOfNat_eq, zpow_neg, Int.ofNat_eq_natCast, zpow_natCast, inv_le_comm₀ (by positivity)
      (by positivity), inv_div, div_le_iff₀ castN]
    exact_mod_cast within

/-! ## The shortest decimal -/

/-- The points of a grid of 17 digits are closer together than the interval of a number is wide. -/
theorem fine_of_leading (x : Binary64) {leading : Int} (le : (10 : ℚ) ^ leading ≤ x.size) :
    (10 : ℚ) ^ (leading - 16) < (x.lowerReach + 1 / 2) * 2 ^ x.scale := by
  have power : (0 : ℚ) < 2 ^ x.scale := by positivity
  have few : (x.significand : ℚ) < (x.lowerReach + 1 / 2) * 10 ^ 16 := by
    unfold lowerReach
    split
    case isTrue isPower =>
      have normal : x.exponent ≠ 0 := by
        intro zero
        rw [zero] at isPower
        exact absurd isPower.2 (by decide)
      have noFraction : x.fraction.toNat = 0 := by
        rw [isPower.1]
        rfl
      rw [Binary64.significand_of_normal normal, noFraction]
      norm_num
    case isFalse =>
      have short : (x.significand : ℚ) < 2 ^ 53 := by exact_mod_cast x.significand_lt
      exact short.trans (by norm_num)
  have split : (10 : ℚ) ^ leading = 10 ^ (leading - 16) * 10 ^ 16 := by
    rw [← zpow_natCast, ← zpow_add₀ (by norm_num)]
    congr 1
    omega
  refine lt_of_mul_lt_mul_right ?_ (by positivity : (0 : ℚ) ≤ 10 ^ 16)
  calc (10 : ℚ) ^ (leading - 16) * 10 ^ 16 ≤ x.significand * 2 ^ x.scale := split ▸ le
    _ < (x.lowerReach + 1 / 2) * 10 ^ 16 * 2 ^ x.scale := mul_lt_mul_of_pos_right few power
    _ = (x.lowerReach + 1 / 2) * 2 ^ x.scale * 10 ^ 16 := by ring

/-- The decimal that is written for a number is rounded to it. -/
theorem isRoundedFrom_decimal (tie : Tie) (nonzero : x.isZero = false) :
    x.IsRoundedFrom (decimal tie x).value := by
  have bounds := bounds_interval nonzero
  have denominator : ((interval x).denominator : ℚ) ≠ 0 := by
    exact_mod_cast bounds.denominator.ne'
  have size : ((interval x).value : ℚ) / (interval x).denominator = x.size := by
    rw [bounds.value, mul_div_cancel_right₀ _ denominator]
  have positive : 0 < (interval x).value := by
    rw [Nat.pos_iff_ne_zero]
    intro zero
    rw [zero, Nat.cast_zero, zero_div] at size
    rw [Binary64.size_eq_zero_iff.mp size.symm] at nonzero
    cases nonzero
  have leading := leadingExponent_le positive bounds.denominator
  rw [size] at leading
  unfold decimal
  dsimp only
  split
  case h_1 d found =>
    obtain ⟨e, -, found⟩ := List.exists_of_findSome?_eq_some found
    obtain ⟨c, isPoint, rfl⟩ := Option.map_eq_some_iff.mp found
    rw [Scientific.value_normalized]
    exact isRoundedFrom_of_onGrid nonzero isPoint
  case h_2 none =>
    rw [List.findSome?_eq_none_iff] at none
    have last := none _ (List.mem_map_of_mem (List.mem_range.mpr (by decide : 16 < 17)))
    rw [Option.map_eq_none_iff] at last
    exact absurd last (onGrid_ne_none nonzero (fine_of_leading x leading))

end Shortest

end SqlCompose.Decimal
