/-
# Written forms of a binary64 number

Three forms are in use, and each is one record: `plain` in statements, messages
and results, `document` in the text of a JSON document, `described` where a value
is shown for a person.  All three write the fewest digits that read back; they
differ in where an exponent is written and how, in the mark of a whole number and
in which of two equally near decimals they prefer.
-/

import SqlCompose.Decimal.Numeral
import SqlCompose.Decimal.Shortest

namespace SqlCompose.Decimal

/-- How a binary64 number is written. -/
structure FloatStyle where
  /-- Whether a number whose leading digit has this decimal exponent is written
  without an exponent. -/
  positional : Int → Bool
  /-- Whether a whole number in positional form ends in `.0`. -/
  marksWhole : Bool
  /-- Whether an exponent that is not negative bears a plus sign. -/
  signsExponent : Bool
  /-- Which of two equally near decimals is written. -/
  tie : Tie

namespace FloatStyle

/-- Never an exponent, and no mark on whole numbers. -/
def plain : FloatStyle :=
  ⟨fun _ => true, false, false, .up⟩

/-- Positional from 0.00001 to below 10^16, and a whole number ends in `.0`. -/
def document : FloatStyle :=
  ⟨fun e => -5 ≤ e && e ≤ 15, true, true, .toEven⟩

/-- Positional from 0.0001 to below 10^16, and a whole number ends in `.0`. -/
def described : FloatStyle :=
  ⟨fun e => -4 ≤ e && e ≤ 15, true, false, .up⟩

/-- Digits without an exponent, where `leading` is the exponent of the first. -/
def positionalText (style : FloatStyle) (digits : List Char) (leading : Int) : List Char :=
  if leading < 0 then
    '0' :: '.' :: (List.replicate (-leading - 1).toNat '0' ++ digits)
  else
    let places := leading.toNat + 1
    let whole := digits.take places ++ List.replicate (places - digits.length) '0'
    match digits.drop places with
    | [] => if style.marksWhole then whole ++ ['.', '0'] else whole
    | fraction => whole ++ '.' :: fraction

/-- One digit before the point, the others behind it, and the exponent. -/
def exponentText (style : FloatStyle) (digits : List Char) (leading : Int) : List Char :=
  let point := if digits.length ≤ 1 then [] else ['.']
  let sign := if style.signsExponent && 0 ≤ leading then ['+'] else []
  digits.take 1 ++ point ++ digits.drop 1 ++ 'e' :: (sign ++ Numeral.ofInt leading)

/-- The text of a finite number without its sign. -/
def magnitudeText (style : FloatStyle) (x : Binary64) : List Char :=
  if x.isZero then style.positionalText ['0'] 0
  else
    let d := Shortest.decimal style.tie x
    let digits := Numeral.ofNat d.coefficient
    let leading := d.exponent + digits.length - 1
    if style.positional leading then style.positionalText digits leading
    else style.exponentText digits leading

/-- The text of a number. -/
def text (style : FloatStyle) (x : Binary64) : String :=
  if x.isNaN then "NaN"
  else
    let sign := if x.negative then ['-'] else []
    let magnitude := if x.isFinite then style.magnitudeText x else ['i', 'n', 'f']
    String.ofList (sign ++ magnitude)

end FloatStyle

end SqlCompose.Decimal
