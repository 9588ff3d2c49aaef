/-
# Binary64 numbers

A number of the IEEE format binary64 by its three fields.  A finite one stands for
`significand · 2 ^ scale`.  Quotients of natural numbers are rounded to the nearest
number of the format, an exact tie to the even significand; this one rounding
yields whole numbers, decimals, sums, products and quotients, and the narrowing to
the format binary32.
-/

namespace SqlCompose.Decimal

/-- A number of the format binary64: its sign, its biased exponent and its fraction. -/
structure Binary64 where
  /-- Whether the sign is a minus.  A zero and a NaN have a sign, too. -/
  negative : Bool
  /-- The exponent, biased by 1023; 0 marks zeros and subnormal numbers, 2047 infinities and NaN. -/
  exponent : BitVec 11
  /-- The bits behind the leading one. -/
  fraction : BitVec 52
  deriving DecidableEq

namespace Binary64

/-- Zero of the given sign. -/
def zero (negative : Bool) : Binary64 :=
  ⟨negative, 0, 0⟩

/-- Infinity of the given sign. -/
def infinity (negative : Bool) : Binary64 :=
  ⟨negative, 2047, 0⟩

/-- The quiet NaN. -/
def nan : Binary64 :=
  ⟨false, 2047, BitVec.twoPow 52 51⟩

/-- Neither an infinity nor NaN. -/
def isFinite (x : Binary64) : Bool :=
  x.exponent ≠ 2047

/-- Not a number. -/
def isNaN (x : Binary64) : Bool :=
  x.exponent = 2047 ∧ x.fraction ≠ 0

/-- Zero of either sign. -/
def isZero (x : Binary64) : Bool :=
  x.exponent = 0 ∧ x.fraction = 0

/-- The leading one of a significand, which is not among the bits of the fraction. -/
def leadingBit : Nat :=
  1 <<< 52

/-- The integer significand of a finite number, its leading one included. -/
def significand (x : Binary64) : Nat :=
  if x.exponent = 0 then x.fraction.toNat else leadingBit + x.fraction.toNat

/-- The power of two by which the significand of a finite number is scaled. -/
def scale (x : Binary64) : Int :=
  max (x.exponent.toNat : Int) 1 - 1075

/-- `n · 2 ^ e` as a quotient of natural numbers. -/
def scaledRatio (n : Nat) (e : Int) : Nat × Nat :=
  if 0 ≤ e then (n <<< e.toNat, 1) else (n, 1 <<< (-e).toNat)

/-- The absolute value of a finite number as a quotient of natural numbers. -/
def magnitude (x : Binary64) : Nat × Nat :=
  scaledRatio x.significand x.scale

/-- The quotient rounded to the nearest natural number, a half to the even one. -/
def roundHalfEven (numerator denominator : Nat) : Nat :=
  let quotient := numerator / denominator
  let rest := numerator % denominator
  if 2 * rest < denominator then quotient
  else if denominator < 2 * rest then quotient + 1
  else quotient + quotient % 2

/-- The exponent `e` for which the quotient, scaled by `2 ^ -e`, has `precision`
binary digits; no less than `least`, below which a format has no digits. -/
def unitExponent (precision : Nat) (least : Int) (numerator denominator : Nat) : Int :=
  let estimate : Int := (numerator.log2 : Int) - denominator.log2 - (precision - 1 : Nat)
  let (n, d) := scaledRatio numerator (-estimate)
  let exact := if n < (d * denominator) <<< (precision - 1) then estimate - 1 else estimate
  max exact least

/-- The multiple `m · 2 ^ e` of the unit of a format that is nearest to a quotient. -/
def nearest (precision : Nat) (least : Int) (numerator denominator : Nat) : Nat × Int :=
  let e := unitExponent precision least numerator denominator
  let (n, d) := scaledRatio numerator (-e)
  (roundHalfEven n (d * denominator), e)

/-- The number `m · 2 ^ e` for `m ≤ 2 ^ 53`, where `m < 2 ^ 52` only if `e = -1074`. -/
def pack (negative : Bool) (m : Nat) (e : Int) : Binary64 :=
  let (m, e) := if m < 2 * leadingBit then (m, e) else (m / 2, e + 1)
  if m < leadingBit then ⟨negative, 0, BitVec.ofNat 52 m⟩
  else
    let biased := (e + 1075).toNat
    if biased < 2047 then ⟨negative, BitVec.ofNat 11 biased, BitVec.ofNat 52 (m - leadingBit)⟩
    else infinity negative

/-- The number of the format nearest to a quotient of natural numbers. -/
def ofRatio (negative : Bool) (numerator denominator : Nat) : Binary64 :=
  if numerator = 0 then zero negative
  else
    let (m, e) := nearest 53 (-1074) numerator denominator
    pack negative m e

/-- The number of the format nearest to a whole number. -/
def ofInt (i : Int) : Binary64 :=
  ofRatio (i < 0) i.natAbs 1

/-- The product of a finite number with a finite number that is not negative. -/
def scaleUp (x y : Binary64) : Binary64 :=
  let (a, b) := x.magnitude
  let (c, d) := y.magnitude
  ofRatio x.negative (a * c) (b * d)

/-- The quotient of a finite number by a finite number above zero. -/
def scaleDown (x y : Binary64) : Binary64 :=
  let (a, b) := x.magnitude
  let (c, d) := y.magnitude
  ofRatio x.negative (a * d) (b * c)

/-- The sum of two finite numbers that are not negative. -/
def sum (x y : Binary64) : Binary64 :=
  let (a, b) := x.magnitude
  let (c, d) := y.magnitude
  ofRatio false (a * d + c * b) (b * d)

/-- The whole number nearest to a finite number, a half away from zero. -/
def roundWhole (x : Binary64) : Binary64 :=
  let (a, b) := x.magnitude
  ofRatio x.negative ((2 * a + b) / (2 * b)) 1

/-- A product with the powers of a number that is squared again and again, one power
for each binary digit 1 of `n`, and each product rounded. -/
def timesPower (product square : Binary64) (n : Nat) : Binary64 :=
  if h : n = 0 then product
  else
    timesPower (if n % 2 = 1 then product.scaleUp square else product) (square.scaleUp square)
      (n / 2)
termination_by n
decreasing_by omega

/-- A power of a finite number above zero by repeated squaring. -/
def power (x : Binary64) (n : Nat) : Binary64 :=
  timesPower (ofInt 1) x n

/-- The number nearest to a power of ten. -/
def powerOfTen (n : Nat) : Binary64 :=
  ofRatio false (Nat.pow 10 n) 1

/-- A finite number times a power of ten, rounded after each factor.  A factor
beyond the range of the format is applied in two steps; a result beyond it is refused. -/
def timesPowerOfTen (x : Binary64) (e : Int) : Option Binary64 :=
  if x.isZero then some x
  else if 308 < e then none
  else if 0 ≤ e then
    let y := x.scaleUp (powerOfTen e.toNat)
    if y.isFinite then some y else none
  else if -308 ≤ e then some (x.scaleDown (powerOfTen (-e).toNat))
  else
    let y := x.scaleDown (powerOfTen 308)
    if -616 ≤ e then some (y.scaleDown (powerOfTen (-e - 308).toNat)) else some (zero x.negative)

/-- The number nearest to `n · 10 ^ e`.  Where the digits of `n` and `e` alone show that the
number is far beyond the range of the format, no power is computed. -/
def ofDecimal (negative : Bool) (n : Nat) (e : Int) : Binary64 :=
  let leading : Int := (Nat.toDigits 10 n).length + e
  if n = 0 ∨ leading < -400 then zero negative
  else if 400 < leading then infinity negative
  else if 0 ≤ e then ofRatio negative (n * Nat.pow 10 e.toNat) 1
  else ofRatio negative n (Nat.pow 10 (-e).toNat)

/-- A number narrowed to the format binary32 and held in binary64 again. -/
def toSingle (x : Binary64) : Binary64 :=
  if !x.isFinite || x.isZero then x
  else
    let (a, b) := x.magnitude
    let (m, e) := nearest 24 (-149) a b
    let (n, d) := scaledRatio m e
    if d <<< 128 ≤ n then infinity x.negative else ofRatio x.negative n d

/-- Whether a number lies between 0 and 1, both included.  NaN does not. -/
def inUnitInterval (x : Binary64) : Bool :=
  x.isZero ||
    (!x.negative && (x.exponent.toNat < 1023 || (x.exponent = 1023 ∧ x.fraction = 0)))

end Binary64

end SqlCompose.Decimal
