/-
# The fewest digits that read back

A finite number above zero stands for an interval of reals: all that round to it,
the ends included exactly when its significand is even.  Its shortest decimal is
the first one found when the grids of 1, 2, … 17 significant digits are tried in
turn.  On each grid only the two neighbours of the number come into question; if
both lie in the interval the nearer wins, and an exact tie is decided by the format
that writes the number.
-/

import SqlCompose.Decimal.Binary64

namespace SqlCompose.Decimal

/-- Which of two equally near decimals is written. -/
inductive Tie where
  /-- The one with the even last digit. -/
  | toEven
  /-- The greater one. -/
  | up
  deriving DecidableEq

/-- A decimal `coefficient · 10 ^ exponent`. -/
structure Scientific where
  coefficient : Nat
  exponent : Int
  deriving DecidableEq

namespace Scientific

/-- Moves up to `fuel` trailing zeros of the coefficient into the exponent. -/
def dropZeros : Nat → Scientific → Scientific
  | 0, d => d
  | fuel + 1, d =>
    if d.coefficient ≠ 0 ∧ d.coefficient % 10 = 0 then
      dropZeros fuel ⟨d.coefficient / 10, d.exponent + 1⟩
    else d

/-- The decimal without trailing zeros. -/
def normalized (d : Scientific) : Scientific :=
  dropZeros (Nat.toDigits 10 d.coefficient).length d

end Scientific

namespace Shortest

/-- The exponent of the leading decimal digit of a quotient above zero. -/
def leadingExponent (numerator denominator : Nat) : Int :=
  if denominator ≤ numerator then
    ((Nat.toDigits 10 (numerator / denominator)).length : Int) - 1
  else
    let ceiling := (denominator + numerator - 1) / numerator
    Int.negOfNat (Nat.toDigits 10 (ceiling - 1)).length

/-- The reals that round to a number, in units that keep all three bounds whole:
`low`, `value` and `high` are numerators over one denominator. -/
structure Rounding where
  low : Nat
  value : Nat
  high : Nat
  denominator : Nat
  /-- Whether the two ends round to the number, too. -/
  closed : Bool

/-- The interval of a finite number above zero.  The lower half of it is narrower
where the number is the least of its binary exponent. -/
def interval (x : Binary64) : Rounding :=
  let m := x.significand
  let below := if x.fraction = 0 ∧ 1 < x.exponent.toNat then 1 else 2
  let (factor, denominator) := Binary64.scaledRatio 1 (x.scale - 2)
  { low := (4 * m - below) * factor
    value := 4 * m * factor
    high := (4 * m + 2) * factor
    denominator := denominator
    closed := m % 2 = 0 }

/-- Whether a numerator over the denominator of the interval lies in it. -/
def Rounding.admits (r : Rounding) (n : Nat) : Bool :=
  if r.closed then r.low ≤ n ∧ n ≤ r.high else r.low < n ∧ n < r.high

/-- The point of the grid `10 ^ e · ℕ` that is written for the interval, if one of
the two neighbours of the number lies in it. -/
def onGrid (tie : Tie) (r : Rounding) (e : Int) : Option Nat :=
  let (up, down) := if 0 ≤ e then (1, Nat.pow 10 e.toNat) else (Nat.pow 10 (-e).toNat, 1)
  -- a grid point `c` is the numerator `c * unit` once everything is scaled by `up`
  let scaled : Rounding :=
    { r with low := r.low * up, value := r.value * up, high := r.high * up }
  let unit := r.denominator * down
  let floor := scaled.value / unit
  let below := scaled.admits (floor * unit)
  let above := scaled.admits ((floor + 1) * unit)
  if below && above then
    let rest := 2 * (scaled.value % unit)
    if rest < unit then some floor
    else if unit < rest then some (floor + 1)
    else
      match tie with
      | .up => some (floor + 1)
      | .toEven => some (floor + floor % 2)
  else if below then some floor
  else if above then some (floor + 1)
  else none

/-- The decimal with the fewest digits that rounds to a finite number above zero. -/
def decimal (tie : Tie) (x : Binary64) : Scientific :=
  let r := interval x
  let leading := leadingExponent r.value r.denominator
  let grids : List Int := (List.range 17).map fun (n : Nat) => leading - n
  match grids.findSome? fun e => (onGrid tie r e).map (Scientific.mk · e) with
  | some d => d.normalized
  | none => ⟨0, 0⟩

end Shortest

end SqlCompose.Decimal
