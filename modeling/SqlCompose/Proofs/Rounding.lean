/-
# Rounding to binary64 numbers

A quotient is rounded to a multiple of a power of two, its unit, that is chosen so that the multiple
has 53 binary digits, or fewer where the format has no smaller unit.  A power of two has one
digit, so it is a number of the format as it stands: a quotient that does not exceed it is not
rounded beyond it, and one that reaches it is not rounded below it.  This is enough to bound the
result of a whole computation, rounding at every step (`Binary64.atMost_ofRatio`), and to see that it
stays finite.
-/

import Mathlib.Algebra.Order.Field.Basic
import Mathlib.Data.Nat.Cast.Order.Field
import Mathlib.Tactic.FieldSimp
import Mathlib.Tactic.Linarith
import Mathlib.Tactic.Ring
import SqlCompose.Proofs.BinarySizes

namespace SqlCompose.Decimal.Binary64

/-! ## Whole numbers -/

section Whole

variable {n d k : Nat}

theorem roundHalfEven_le (positive : 0 < d) (le : (n : ℚ) / d ≤ k) : roundHalfEven n d ≤ k := by
  have within : n ≤ k * d := by
    have cast : (0 : ℚ) < d := by exact_mod_cast positive
    rw [div_le_iff₀ cast] at le
    exact_mod_cast le
  have parts := Nat.div_add_mod n d
  have quotient : n / d ≤ k := Nat.div_le_of_le_mul (by rwa [Nat.mul_comm])
  -- A quotient that is `k` itself leaves no rest, and is not rounded up.
  rcases quotient.lt_or_eq with below | same
  · unfold roundHalfEven
    dsimp only
    split_ifs <;> omega
  · have rest : n % d = 0 := by
      rw [same, Nat.mul_comm] at parts
      omega
    unfold roundHalfEven
    dsimp only
    rw [rest, if_pos (by omega)]
    exact quotient

theorem le_roundHalfEven (positive : 0 < d) (le : (k : ℚ) ≤ n / d) : k ≤ roundHalfEven n d := by
  have within : k * d ≤ n := by
    have cast : (0 : ℚ) < d := by exact_mod_cast positive
    rw [le_div_iff₀ cast] at le
    exact_mod_cast le
  have quotient : k ≤ n / d := (Nat.le_div_iff_mul_le positive).mpr within
  unfold roundHalfEven
  dsimp only
  split_ifs <;> omega

end Whole

/-! ## The unit -/

section Unit

variable {n d : Nat}

/-- The binary logarithms of its parts place a quotient between two powers of two. -/
theorem log2_bounds (numerator : 0 < n) (denominator : 0 < d) :
    (2 : ℚ) ^ ((n.log2 : Int) - d.log2 - 1) < n / d ∧
      (n : ℚ) / d < 2 ^ ((n.log2 : Int) - d.log2 + 1) := by
  have positive : (0 : ℚ) < d := by exact_mod_cast denominator
  have lowN : (2 : ℚ) ^ (n.log2 : Int) ≤ n := by
    exact_mod_cast Nat.log2_self_le numerator.ne'
  have highN : (n : ℚ) < 2 ^ ((n.log2 : Int) + 1) := by
    exact_mod_cast Nat.lt_log2_self
  have lowD : (2 : ℚ) ^ (d.log2 : Int) ≤ d := by
    exact_mod_cast Nat.log2_self_le denominator.ne'
  have highD : (d : ℚ) < 2 ^ ((d.log2 : Int) + 1) := by
    exact_mod_cast Nat.lt_log2_self
  constructor
  · rw [lt_div_iff₀ positive]
    calc (2 : ℚ) ^ ((n.log2 : Int) - d.log2 - 1) * d
        < 2 ^ ((n.log2 : Int) - d.log2 - 1) * 2 ^ ((d.log2 : Int) + 1) :=
          mul_lt_mul_of_pos_left highD (by positivity)
      _ = 2 ^ (n.log2 : Int) := by
          rw [← zpow_add₀ two_ne_zero]
          congr 1
          omega
      _ ≤ n := lowN
  · rw [div_lt_iff₀ positive]
    calc (n : ℚ) < 2 ^ ((n.log2 : Int) + 1) := highN
      _ = 2 ^ ((n.log2 : Int) - d.log2 + 1) * 2 ^ (d.log2 : Int) := by
          rw [← zpow_add₀ two_ne_zero]
          congr 1
          omega
      _ ≤ 2 ^ ((n.log2 : Int) - d.log2 + 1) * d :=
          mul_le_mul_of_nonneg_left lowD (by positivity)

theorem ratio_scaled (denominator : 0 < d) (e : Int) :
    0 < (scaledRatio n e).2 * d ∧
      ((scaledRatio n e).1 : ℚ) / ((scaledRatio n e).2 * d : Nat) = n / d * 2 ^ e := by
  refine ⟨Nat.mul_pos (scaledRatio_pos n e) denominator, ?_⟩
  rw [Nat.cast_mul, ← div_div, ratio_scaledRatio]
  ring

variable (p : Nat) (least : Int)

/-- The unit of a quotient is the one for which it has `p + 1` binary digits, or the least one. -/
theorem exists_unitExponent (numerator : 0 < n) (denominator : 0 < d) :
    ∃ exact, unitExponent (p + 1) least n d = max exact least ∧
      (2 : ℚ) ^ (exact + p) ≤ n / d ∧ (n : ℚ) / d < 2 ^ (exact + p + 1) := by
  obtain ⟨low, high⟩ := log2_bounds numerator denominator
  let estimate : Int := (n.log2 : Int) - d.log2 - p
  obtain ⟨positive, scaled⟩ := ratio_scaled (n := n) denominator (-estimate)
  have small_iff : (scaledRatio n (-estimate)).1 < ((scaledRatio n (-estimate)).2 * d) <<< p ↔
      (n : ℚ) / d < 2 ^ (estimate + p) := by
    have cast : (0 : ℚ) < ((scaledRatio n (-estimate)).2 * d : Nat) := by exact_mod_cast positive
    rw [zpow_add₀ two_ne_zero, ← div_lt_iff₀' (by positivity), div_eq_mul_inv _ ((2 : ℚ) ^ estimate),
      ← zpow_neg, ← scaled, div_lt_iff₀ cast, Nat.shiftLeft_eq, zpow_natCast, mul_comm]
    norm_cast
  let exact := if (scaledRatio n (-estimate)).1 < ((scaledRatio n (-estimate)).2 * d) <<< p
    then estimate - 1 else estimate
  refine ⟨exact, rfl, ?_⟩
  have isEstimate : estimate = (n.log2 : Int) - d.log2 - p := rfl
  by_cases small : (scaledRatio n (-estimate)).1 < ((scaledRatio n (-estimate)).2 * d) <<< p
  · have below : exact = estimate - 1 := if_pos small
    rw [small_iff] at small
    have least : exact + p = (n.log2 : Int) - d.log2 - 1 := by omega
    have next : exact + p + 1 = estimate + p := by omega
    rw [least] at next ⊢
    rw [next]
    exact ⟨low.le, small⟩
  · have same : exact = estimate := if_neg small
    rw [small_iff, not_lt] at small
    have next : exact + p + 1 = (n.log2 : Int) - d.log2 + 1 := by omega
    rw [next, same]
    exact ⟨small, high⟩

/-- A quotient that is rounded to a multiple of its unit stays on its side of every power of two that
is a multiple of the least unit. -/
theorem exists_nearest (numerator : 0 < n) (denominator : 0 < d) :
    ∃ m e, nearest (p + 1) least n d = (m, e) ∧ least ≤ e ∧ m ≤ 2 ^ (p + 1) ∧
      (m < 2 ^ p → e = least) ∧ ∀ k, least ≤ k →
        ((n : ℚ) / d ≤ 2 ^ k → (m : ℚ) * 2 ^ e ≤ 2 ^ k) ∧
          ((2 : ℚ) ^ k ≤ n / d → (2 : ℚ) ^ k ≤ m * 2 ^ e) := by
  obtain ⟨exact, unit, low, high⟩ := exists_unitExponent p least numerator denominator
  let e := max exact least
  obtain ⟨positive, scaled⟩ := ratio_scaled (n := n) denominator (-e)
  let m := roundHalfEven (scaledRatio n (-e)).1 ((scaledRatio n (-e)).2 * d)
  have le_of_le {j : Nat} (le : (n : ℚ) / d ≤ 2 ^ (e + j)) : m ≤ 2 ^ j := by
    apply roundHalfEven_le positive
    rw [scaled, zpow_neg, ← div_eq_mul_inv, div_le_iff₀' (by positivity)]
    rw [zpow_add₀ two_ne_zero, zpow_natCast] at le
    exact_mod_cast le
  have ge_of_ge {j : Nat} (ge : (2 : ℚ) ^ (e + j) ≤ n / d) : 2 ^ j ≤ m := by
    apply le_roundHalfEven positive
    rw [scaled, zpow_neg, ← div_eq_mul_inv, le_div_iff₀' (by positivity)]
    rw [zpow_add₀ two_ne_zero, zpow_natCast] at ge
    exact_mod_cast ge
  have isNearest : nearest (p + 1) least n d = (m, e) := by
    simp only [nearest, unit]
    rfl
  have short : m ≤ 2 ^ (p + 1) := by
    apply le_of_le
    have exponent : exact + p + 1 ≤ e + (p + 1 : Nat) := by
      have : exact ≤ e := le_max_left _ _
      omega
    exact high.le.trans (zpow_le_zpow_right₀ one_le_two exponent)
  have isExact (above : least < e) : e = exact := max_eq_left (by omega)
  have long (above : least < e) : 2 ^ p ≤ m := by
    apply ge_of_ge
    rwa [isExact above]
  refine ⟨m, e, isNearest, le_max_right _ _, short, fun few => ?_, fun k bounded => ?_⟩
  · by_contra other
    have above : least < e := lt_of_le_of_ne (le_max_right _ _) (Ne.symm other)
    exact (long above).not_gt few
  · rcases le_or_gt e k with multiple | finer
    · obtain ⟨j, rfl⟩ : ∃ j : Nat, k = e + j := ⟨(k - e).toNat, by omega⟩
      have scale : (2 : ℚ) ^ (e + j) = (2 ^ j : Nat) * 2 ^ e := by
        rw [zpow_add₀ two_ne_zero, zpow_natCast, mul_comm]
        norm_cast
      have unit : (0 : ℚ) ≤ 2 ^ e := by positivity
      constructor
      · intro le
        rw [scale]
        exact mul_le_mul_of_nonneg_right (by exact_mod_cast le_of_le le) unit
      · intro ge
        rw [scale]
        exact mul_le_mul_of_nonneg_right (by exact_mod_cast ge_of_ge ge) unit
    · -- A power of two that is no multiple of the unit is below the quotient anyway.
      have above : least < e := by omega
      have less : (2 : ℚ) ^ k < 2 ^ (e + p) := zpow_lt_zpow_right₀ one_lt_two (by omega)
      rw [← isExact above] at low
      refine ⟨fun le => absurd (low.trans le) less.not_ge, fun _ => ?_⟩
      have one_le : (1 : ℚ) ≤ m := by
        exact_mod_cast Nat.one_le_two_pow.trans (long above)
      calc (2 : ℚ) ^ k ≤ 2 ^ e := zpow_le_zpow_right₀ one_le_two finer.le
        _ ≤ m * 2 ^ e := le_mul_of_one_le_left (by positivity) one_le

end Unit

/-! ## Numbers of the format -/

section Pack

variable {m : Nat} {e : Int}

/-- A multiple below the range of normal numbers is packed as it stands. -/
theorem pack_subnormal (negative : Bool) (small : m < 2 ^ 52) :
    (pack negative m (-1074)).isFinite = true ∧
      (pack negative m (-1074)).size = m * 2 ^ (-1074 : Int) := by
  have leading : leadingBit = 2 ^ 52 := rfl
  have packed : pack negative m (-1074) = ⟨negative, 0, BitVec.ofNat 52 m⟩ := by
    unfold pack
    rw [leading, if_pos (by omega)]
    exact if_pos small
  rw [packed]
  refine ⟨rfl, ?_⟩
  have significand : (⟨negative, 0, BitVec.ofNat 52 m⟩ : Binary64).significand = m :=
    Nat.mod_eq_of_lt small
  rw [size, significand]
  rfl

/-- A multiple with 53 binary digits is packed without its leading one. -/
theorem pack_normal (negative : Bool) (low : 2 ^ 52 ≤ m) (high : m < 2 ^ 53) (least : -1074 ≤ e)
    (small : e < 972) :
    (pack negative m e).isFinite = true ∧ (pack negative m e).size = m * 2 ^ e := by
  have leading : leadingBit = 2 ^ 52 := rfl
  have packed : pack negative m e =
      ⟨negative, BitVec.ofNat 11 (e + 1075).toNat, BitVec.ofNat 52 (m - 2 ^ 52)⟩ := by
    unfold pack
    rw [leading, if_pos (by omega)]
    dsimp only
    rw [if_neg (by omega), if_pos (by omega)]
  have exponent : (BitVec.ofNat 11 (e + 1075).toNat).toNat = (e + 1075).toNat := by
    rw [BitVec.toNat_ofNat]
    omega
  have fraction : (BitVec.ofNat 52 (m - 2 ^ 52)).toNat = m - 2 ^ 52 := by
    rw [BitVec.toNat_ofNat]
    omega
  have other (n : Nat) (isOther : (e + 1075).toNat ≠ n % 2 ^ 11) :
      BitVec.ofNat 11 (e + 1075).toNat ≠ BitVec.ofNat 11 n := by
    rwa [Ne, ← BitVec.toNat_inj, exponent, BitVec.toNat_ofNat]
  have finite : BitVec.ofNat 11 (e + 1075).toNat ≠ 2047 := other 2047 (by omega)
  have normal : BitVec.ofNat 11 (e + 1075).toNat ≠ 0 := other 0 (by omega)
  rw [packed]
  refine ⟨decide_eq_true finite, ?_⟩
  rw [size, significand_of_normal normal, scale, exponent, fraction]
  have significand : 2 ^ 52 + (m - 2 ^ 52) = m := by omega
  have scale : max ((e + 1075).toNat : Int) 1 - 1075 = e := by omega
  rw [significand, scale]

theorem scale_lt_of_size_lt (low : 2 ^ 52 ≤ m) (small : (m : ℚ) * 2 ^ e < 2 ^ (1024 : Int)) :
    e < 972 := by
  by_contra large
  have digits : (2 : ℚ) ^ (52 : Int) ≤ m := by exact_mod_cast low
  have unit : (2 : ℚ) ^ (972 : Int) ≤ 2 ^ e := zpow_le_zpow_right₀ one_le_two (by omega)
  have beyond : (2 : ℚ) ^ (1024 : Int) ≤ m * 2 ^ e :=
    calc (2 : ℚ) ^ (1024 : Int) = 2 ^ (52 : Int) * 2 ^ (972 : Int) := by
          rw [← zpow_add₀ two_ne_zero]
          norm_num
      _ ≤ m * 2 ^ e := mul_le_mul digits unit (by positivity) (by positivity)
  exact beyond.not_gt small

/-- A multiple is packed as it stands if it is not beyond the range of the format. -/
theorem pack_spec (negative : Bool) (short : m ≤ 2 ^ 53) (least : -1074 ≤ e)
    (few : m < 2 ^ 52 → e = -1074) (small : (m : ℚ) * 2 ^ e < 2 ^ (1024 : Int)) :
    (pack negative m e).isFinite = true ∧ (pack negative m e).size = m * 2 ^ e := by
  rcases lt_or_ge m (2 ^ 52) with subnormal | low
  · obtain rfl := few subnormal
    exact pack_subnormal negative subnormal
  rcases short.lt_or_eq with high | full
  · exact pack_normal negative low high least (scale_lt_of_size_lt low small)
  · -- Rounding up may need a digit more, and the last of the digits is then zero.
    have halved : pack negative m e = pack negative (2 ^ 52) (e + 1) := by
      subst full
      rfl
    have scaled : (m : ℚ) * 2 ^ e = (2 ^ 52 : Nat) * 2 ^ (e + 1) := by
      rw [full, zpow_add_one₀ two_ne_zero]
      push_cast
      ring
    rw [scaled] at small ⊢
    rw [halved]
    exact pack_normal negative le_rfl (by norm_num) (by omega) (scale_lt_of_size_lt le_rfl small)

end Pack

/-! ## Bounds that rounding keeps -/

/-- Whether a number is finite and its size is at most a power of two. -/
def AtMost (x : Binary64) (k : Nat) : Prop :=
  x.isFinite = true ∧ x.size ≤ 2 ^ k

section Bounds

variable {n d k : Nat}

/-- A number of the format nearest to a quotient keeps the bounds of the quotient. -/
theorem atMost_ofRatio (negative : Bool) (denominator : 0 < d) (within : k ≤ 1023)
    (le : (n : ℚ) / d ≤ 2 ^ k) :
    (ofRatio negative n d).AtMost k ∧
      (1 ≤ (n : ℚ) / d → 1 ≤ (ofRatio negative n d).size) := by
  by_cases zero : n = 0
  · subst zero
    have isZero : ofRatio negative 0 d = Binary64.zero negative := rfl
    have size : (Binary64.zero negative).size = 0 := size_eq_zero_iff.mpr rfl
    rw [isZero, AtMost, size]
    refine ⟨⟨rfl, by positivity⟩, fun ge => ?_⟩
    rw [Nat.cast_zero, zero_div] at ge
    exact absurd ge (by norm_num)
  · obtain ⟨m, e, isNearest, least, short, few, bounds⟩ :=
      exists_nearest 52 (-1074) (Nat.pos_of_ne_zero zero) denominator
    have above := (bounds k (by omega)).1 (by exact_mod_cast le)
    have small : (m : ℚ) * 2 ^ e < 2 ^ (1024 : Int) :=
      above.trans_lt (zpow_lt_zpow_right₀ one_lt_two (by omega))
    obtain ⟨finite, size⟩ := pack_spec negative short least few small
    have packed : ofRatio negative n d = pack negative m e := by
      rw [ofRatio, if_neg zero, isNearest]
    rw [packed, AtMost, size]
    refine ⟨⟨finite, by exact_mod_cast above⟩, fun ge => ?_⟩
    have below := (bounds 0 (by decide)).2 (by simpa using ge)
    simpa using below

end Bounds

section Operations

variable {x y : Binary64} {a b : Nat}

theorem AtMost.mono (bounded : x.AtMost a) (le : a ≤ b) : x.AtMost b :=
  ⟨bounded.1, bounded.2.trans (pow_le_pow_right₀ one_le_two le)⟩

theorem denominator_pos (x y : Binary64) : 0 < x.magnitude.2 * y.magnitude.2 :=
  Nat.mul_pos x.magnitude_pos y.magnitude_pos

theorem atMost_scaleUp (left : x.AtMost a) (right : y.AtMost b) (within : a + b ≤ 1023) :
    (x.scaleUp y).AtMost (a + b) ∧ (1 ≤ x.size → 1 ≤ y.size → 1 ≤ (x.scaleUp y).size) := by
  have product : ((x.magnitude.1 * y.magnitude.1 : Nat) : ℚ) /
      (x.magnitude.2 * y.magnitude.2 : Nat) = x.size * y.size := by
    rw [Nat.cast_mul, Nat.cast_mul, mul_div_mul_comm, ratio_magnitude, ratio_magnitude]
  have le : x.size * y.size ≤ 2 ^ (a + b) := by
    rw [pow_add]
    exact mul_le_mul left.2 right.2 y.size_nonneg (by positivity)
  have rounded := atMost_ofRatio x.negative (denominator_pos x y) within (product.le.trans le)
  refine ⟨rounded.1, fun first second => rounded.2 ?_⟩
  rw [product]
  exact one_le_mul_of_one_le_of_one_le first second

/-- A quotient by a number that is not below one is not greater than what is divided. -/
theorem atMost_scaleDown (left : x.AtMost a) (right : 1 ≤ y.size) (within : a ≤ 1023) :
    (x.scaleDown y).AtMost a := by
  have numerator : 0 < y.magnitude.1 := by
    rw [Nat.pos_iff_ne_zero]
    intro zero
    have noSize := y.ratio_magnitude
    rw [zero, Nat.cast_zero, zero_div] at noSize
    exact absurd (noSize ▸ right) (by norm_num)
  have quotient : ((x.magnitude.1 * y.magnitude.2 : Nat) : ℚ) /
      (x.magnitude.2 * y.magnitude.1 : Nat) = x.size / y.size := by
    rw [Nat.cast_mul, Nat.cast_mul, mul_div_mul_comm, ← ratio_magnitude x, ← ratio_magnitude y,
      div_div_eq_mul_div, mul_div_assoc]
  have le : x.size / y.size ≤ 2 ^ a := (div_le_self x.size_nonneg right).trans left.2
  exact (atMost_ofRatio x.negative (Nat.mul_pos x.magnitude_pos numerator) within
    (quotient.le.trans le)).1

theorem atMost_sum (left : x.AtMost a) (right : y.AtMost a) (within : a + 1 ≤ 1023) :
    (x.sum y).AtMost (a + 1) := by
  have positive (z : Binary64) : (z.magnitude.2 : ℚ) ≠ 0 := by
    exact_mod_cast z.magnitude_pos.ne'
  have sum : ((x.magnitude.1 * y.magnitude.2 + y.magnitude.1 * x.magnitude.2 : Nat) : ℚ) /
      (x.magnitude.2 * y.magnitude.2 : Nat) = x.size + y.size := by
    rw [← ratio_magnitude x, ← ratio_magnitude y, div_add_div _ _ (positive x) (positive y)]
    push_cast
    ring
  have le : x.size + y.size ≤ 2 ^ (a + 1) := by
    rw [pow_succ]
    linarith [left.2, right.2]
  exact (atMost_ofRatio false (denominator_pos x y) within (sum.le.trans le)).1

theorem atMost_roundWhole (bounded : x.AtMost a) (within : a + 1 ≤ 1023) :
    x.roundWhole.AtMost (a + 1) := by
  have positive : (0 : ℚ) < x.magnitude.2 := by exact_mod_cast x.magnitude_pos
  have floor : (((2 * x.magnitude.1 + x.magnitude.2) / (2 * x.magnitude.2) : Nat) : ℚ) ≤
      x.size + 1 / 2 :=
    calc (((2 * x.magnitude.1 + x.magnitude.2) / (2 * x.magnitude.2) : Nat) : ℚ)
        ≤ ((2 * x.magnitude.1 + x.magnitude.2 : Nat) : ℚ) / (2 * x.magnitude.2 : Nat) :=
          Nat.cast_div_le
      _ = x.size + 1 / 2 := by
          rw [← ratio_magnitude x]
          push_cast
          field_simp
  have one_le : (1 : ℚ) ≤ 2 ^ a := one_le_pow₀ one_le_two
  have le : x.size + 1 / 2 ≤ 2 ^ (a + 1) := by
    rw [pow_succ]
    linarith [bounded.2]
  have rounded : x.roundWhole = ofRatio x.negative
      ((2 * x.magnitude.1 + x.magnitude.2) / (2 * x.magnitude.2)) 1 := rfl
  rw [rounded]
  apply (atMost_ofRatio x.negative Nat.one_pos within _).1
  rw [Nat.cast_one, div_one]
  exact floor.trans le

/-- Squaring again and again stays in the range as long as the last square does. -/
theorem atMost_timesPower {n : Nat} (product : x.AtMost a) (square : y.AtMost b)
    (one_le_product : 1 ≤ x.size) (one_le_square : 1 ≤ y.size) (within : a + 2 * (b * n) ≤ 1023) :
    (timesPower x y n).AtMost (a + b * n) ∧ 1 ≤ (timesPower x y n).size := by
  induction n using Nat.strong_induction_on generalizing x y a b with
  | _ n ih =>
      unfold timesPower
      split
      case isTrue zero =>
        rw [zero]
        exact ⟨product, one_le_product⟩
      case isFalse positive =>
        have digits : b * n = b * (n % 2) + (b + b) * (n / 2) := by
          rw [← two_mul, mul_comm 2 b, mul_assoc, ← mul_add, Nat.mod_add_div]
        have one_le : b ≤ b * n := Nat.le_mul_of_pos_right b (Nat.pos_of_ne_zero positive)
        obtain ⟨squared, one_le_squared⟩ := atMost_scaleUp square square (by omega)
        have halved : (b + b) * (n / 2) ≤ b * n := by omega
        by_cases odd : n % 2 = 1
        · rw [if_pos odd]
          rw [odd, mul_one] at digits
          obtain ⟨multiplied, one_le_multiplied⟩ := atMost_scaleUp product square (by omega)
          obtain ⟨bounded, one_le_result⟩ := ih (n / 2) (by omega) multiplied squared
            (one_le_multiplied one_le_product one_le_square)
            (one_le_squared one_le_square one_le_square) (by omega)
          exact ⟨bounded.mono (by omega), one_le_result⟩
        · rw [if_neg odd]
          obtain ⟨bounded, one_le_result⟩ := ih (n / 2) (by omega) product squared
            one_le_product (one_le_squared one_le_square one_le_square) (by omega)
          exact ⟨bounded.mono (by omega), one_le_result⟩

/-- The number nearest to a power of ten is not below one. -/
theorem one_le_size_powerOfTen {n : Nat} (small : n ≤ 28) : 1 ≤ (powerOfTen n).size := by
  have one_le : (1 : ℚ) ≤ (Nat.pow 10 n : Nat) / (1 : Nat) := by
    rw [Nat.cast_one, div_one]
    exact_mod_cast Nat.one_le_pow n 10 (by decide)
  have le : ((Nat.pow 10 n : Nat) : ℚ) / (1 : Nat) ≤ 2 ^ 112 := by
    have power : Nat.pow 10 n ≤ 10 ^ 28 := Nat.pow_le_pow_right (by decide) small
    have bounded : Nat.pow 10 n ≤ 2 ^ 112 := power.trans (by norm_num)
    rw [Nat.cast_one, div_one]
    exact_mod_cast bounded
  exact (atMost_ofRatio false Nat.one_pos (by decide) le).2 one_le

/-- A power of ten by repeated squaring. -/
theorem atMost_power_ten {n : Nat} (small : n ≤ 28) :
    ((ofInt 10).power n).AtMost 112 ∧ 1 ≤ ((ofInt 10).power n).size := by
  have one : (ofInt 1).AtMost 0 ∧ (1 ≤ ((1 : Nat) : ℚ) / (1 : Nat) → 1 ≤ (ofInt 1).size) :=
    atMost_ofRatio false Nat.one_pos (by decide) (by norm_num)
  have ten : (ofInt 10).AtMost 4 ∧ (1 ≤ ((10 : Nat) : ℚ) / (1 : Nat) → 1 ≤ (ofInt 10).size) :=
    atMost_ofRatio false Nat.one_pos (by decide) (by norm_num)
  obtain ⟨bounded, one_le⟩ := atMost_timesPower (n := n) one.1 ten.1 (one.2 (by norm_num))
    (ten.2 (by norm_num)) (by omega)
  exact ⟨bounded.mono (by omega), one_le⟩

end Operations

end SqlCompose.Decimal.Binary64
