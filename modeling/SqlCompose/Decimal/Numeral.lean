/-
# Decimal numerals

Whole numbers in decimal digits, with leading zeros up to a width where a field
asks for it, and the reading of digits.  `toNat_ofNat` states that a printed
number is read back.
-/

namespace SqlCompose.Decimal.Numeral

/-- The digits of a natural number. -/
def ofNat (n : Nat) : List Char :=
  Nat.toDigits 10 n

/-- The number that a row of digits stands for. -/
def toNat (digits : List Char) : Nat :=
  Nat.ofDigitChars 10 digits 0

/-- Printed digits are read back. -/
theorem toNat_ofNat (n : Nat) : toNat (ofNat n) = n :=
  Nat.ofDigitChars_toDigits (by decide) (by decide)

/-- The digits of a natural number, with leading zeros up to a width. -/
def padded (width n : Nat) : List Char :=
  let digits := ofNat n
  List.replicate (width - digits.length) '0' ++ digits

/-- A whole number: a minus sign before the digits of a negative one. -/
def ofInt (i : Int) : List Char :=
  if i < 0 then '-' :: ofNat i.natAbs else ofNat i.natAbs

/-- The text of a whole number. -/
def text (i : Int) : String :=
  String.ofList (ofInt i)

/-- Reads a number of at least one digit. -/
def readNat? (cs : List Char) : Option Nat :=
  if cs ≠ [] ∧ cs.all Char.isDigit then some (toNat cs) else none

/-- Reads a whole number with an optional sign and at least one digit. -/
def readInt? : List Char → Option Int
  | '-' :: cs => (readNat? cs).map fun n => -(n : Int)
  | '+' :: cs => (readNat? cs).map fun n => (n : Int)
  | cs => (readNat? cs).map fun n => (n : Int)

/-- A number as a signed word of 64 bits, if it is one. -/
def toInt64? (i : Int) : Option Int64 :=
  if Int64.minValue.toInt ≤ i ∧ i ≤ Int64.maxValue.toInt then some (Int64.ofInt i) else none

/-- Reads a signed word of 64 bits. -/
def readInt64? (cs : List Char) : Option Int64 :=
  (readInt? cs).bind toInt64?

end SqlCompose.Decimal.Numeral
