/-
# Fixed-point decimals

A decimal as a database keeps it: a whole coefficient of at most 96 bits over a
power of ten of at most 28.  The zeros behind the point belong to it: they say
nothing about its value, but the steps in which a binary64 number is computed from it
depend on its scale.
-/

import SqlCompose.Decimal.Numeral
import SqlCompose.Decimal.Binary64

namespace SqlCompose.Decimal

/-- The decimal `coefficient / 10 ^ scale`. -/
structure Fixed where
  coefficient : Int
  scale : Nat
  coefficient_lt : coefficient.natAbs < 1 <<< 96
  scale_le : scale ≤ 28
  deriving DecidableEq

namespace Fixed

/-- The decimal of a coefficient and a scale, if it is within the limits. -/
def ofParts? (coefficient : Int) (scale : Nat) : Option Fixed :=
  if h : coefficient.natAbs < 1 <<< 96 ∧ scale ≤ 28 then some ⟨coefficient, scale, h.1, h.2⟩
  else none

/-- Reads digits with an optional sign and an optional point. -/
def read? (text : String) : Option Fixed := do
  let (sign, cs) : Int × List Char :=
    match text.toList with
    | '-' :: rest => (-1, rest)
    | '+' :: rest => (1, rest)
    | rest => (1, rest)
  let whole := cs.takeWhile Char.isDigit
  let fraction ←
    match cs.dropWhile Char.isDigit with
    | [] => some []
    | '.' :: rest => some rest
    | _ => none
  let n ← Numeral.readNat? (whole ++ fraction)
  ofParts? (sign * n) fraction.length

/-- The power of ten under the coefficient. -/
def denominator (d : Fixed) : Nat :=
  Nat.pow 10 d.scale

/-- The value as a whole number, if it is one. -/
def whole? (d : Fixed) : Option Int :=
  if d.coefficient % d.denominator = 0 then some (d.coefficient / d.denominator) else none

/-- The binary64 number of a decimal, computed by parts.  The whole part and the fraction
are rounded each by itself and summed; the sum is scaled up, rounded to a whole number and
scaled down again.  Each step rounds, so the result need not be the nearest number. -/
def toBinary64 (d : Fixed) : Binary64 :=
  let whole := Binary64.ofRatio false (d.coefficient.natAbs / d.denominator) 1
  let numerator := Binary64.ofRatio false (d.coefficient.natAbs % d.denominator) 1
  let fraction := numerator.scaleDown (Binary64.powerOfTen d.scale)
  let unit := (Binary64.ofInt 10).power d.scale
  let magnitude :=
    if fraction.isZero then whole
    else (((whole.sum fraction).scaleUp unit).roundWhole).scaleDown unit
  { magnitude with negative := d.coefficient < 0 }

end Fixed

end SqlCompose.Decimal
