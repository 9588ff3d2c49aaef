/-
# Intervals

A span of time in months, days and microseconds.  Its text has years, months and
days, each with its unit and only when it is not zero, and then the clock time,
which is left out when it is zero and something stands before it.  Years and months
divide the months toward zero, so both have the sign of the whole.
-/

import SqlCompose.Decimal.Numeral

namespace SqlCompose

open Decimal (Numeral.text Numeral.padded)

/-- A span of time. -/
structure Interval where
  months : Int32
  days : Int32
  microseconds : Int64
  deriving DecidableEq

namespace Interval

/-- A number with its unit, in the plural unless it is one; nothing for zero. -/
def unitText (n : Int) (unit : String) : List String :=
  if n = 0 then []
  else if n = 1 then [Numeral.text n ++ " " ++ unit]
  else [Numeral.text n ++ " " ++ unit ++ "s"]

/-- The six digits of a part of a second without the zeros at their end. -/
def fractionDigits (microseconds : Nat) : List Char :=
  ((Numeral.padded 6 microseconds).reverse.dropWhile (· = '0')).reverse

/-- The clock time of a number of microseconds: hours of at least two digits,
minutes, seconds, and a fraction if there is one. -/
def clockText (microseconds : Int) : String :=
  let total := microseconds.natAbs
  let seconds := total / 1000000
  let fraction := total % 1000000
  let sign := if microseconds < 0 then ['-'] else []
  let clock := Numeral.padded 2 (seconds / 3600) ++ ':' :: (Numeral.padded 2 (seconds / 60 % 60) ++
    ':' :: Numeral.padded 2 (seconds % 60))
  let rest := if fraction = 0 then [] else '.' :: fractionDigits fraction
  String.ofList (sign ++ clock ++ rest)

/-- The parts of the text before the clock time. -/
def calendarParts (i : Interval) : List String :=
  unitText (i.months.toInt.tdiv 12) "year" ++ unitText (i.months.toInt.tmod 12) "mon" ++
    unitText i.days.toInt "day"

/-- The text of an interval. -/
def text (i : Interval) : String :=
  let parts := i.calendarParts
  let clock :=
    if i.microseconds.toInt = 0 ∧ parts ≠ [] then [] else [clockText i.microseconds.toInt]
  " ".intercalate (parts ++ clock)

end Interval

end SqlCompose
