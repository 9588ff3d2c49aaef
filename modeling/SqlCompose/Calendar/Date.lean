/-
# Calendar dates

The days of the proleptic Gregorian calendar from the year -262143 to the year
262142.  A date is its year, month and day, with the proof that there is such a
day.  Days are counted from 2000-01-01; `Date.dayNumber` counts and
`Date.ofDayNumber?` finds the date of a count.
-/

import SqlCompose.Decimal.Numeral

namespace SqlCompose

open Decimal (Numeral.ofNat Numeral.padded)

namespace Calendar

/-- Every fourth year is a leap year, of the full centuries only every fourth. -/
def isLeapYear (year : Int) : Bool :=
  year % 4 = 0 ∧ (year % 100 ≠ 0 ∨ year % 400 = 0)

/-- The number of days of a month; none for a number that names no month. -/
def daysInMonth (year : Int) (month : Nat) : Nat :=
  match month with
  | 2 => if isLeapYear year then 29 else 28
  | 4 | 6 | 9 | 11 => 30
  | 1 | 3 | 5 | 7 | 8 | 10 | 12 => 31
  | _ => 0

/-- The number of days from 0001-01-01 to the first day of a year. -/
def daysBeforeYear (year : Int) : Int :=
  let complete := year - 1
  365 * complete + complete / 4 - complete / 100 + complete / 400

/-- The number of days of a year before the first day of a month. -/
def daysBeforeMonth (year : Int) : Nat → Nat
  | 0 => 0
  | month + 1 => if month = 0 then 0 else daysBeforeMonth year month + daysInMonth year month

end Calendar

open Calendar

/-- A day of the calendar. -/
structure Date where
  year : Int
  month : Nat
  day : Nat
  year_mem : -262143 ≤ year ∧ year ≤ 262142
  day_mem : 1 ≤ day ∧ day ≤ daysInMonth year month
  deriving DecidableEq

namespace Date

/-- The date of a year, a month and a day, if there is one. -/
def ofParts? (year : Int) (month day : Nat) : Option Date :=
  if h : (-262143 ≤ year ∧ year ≤ 262142) ∧ 1 ≤ day ∧ day ≤ daysInMonth year month then
    some ⟨year, month, day, h.1, h.2⟩
  else none

/-- The number of days from 0001-01-01 to 2000-01-01. -/
def epochOffset : Int :=
  daysBeforeYear 2000

/-- The number of days since 2000-01-01. -/
def dayNumber (d : Date) : Int :=
  daysBeforeYear d.year + daysBeforeMonth d.year d.month + (d.day - 1 : Int) - epochOffset

/-- The year that holds the given day since 0001-01-01, and the days of that year before it.
Four centuries repeat exactly; the last century of four, and the last year of four,
are longer by the leap day that the others lack. -/
def splitYear (days : Int) : Int × Nat :=
  let cycle := days / 146097
  let inCycle := (days % 146097).toNat
  let century := min (inCycle / 36524) 3
  let inCentury := inCycle - century * 36524
  let quad := inCentury / 1461
  let inQuad := inCentury % 1461
  let single := min (inQuad / 365) 3
  (400 * cycle + 100 * century + 4 * quad + single + 1, inQuad - single * 365)

/-- The month that holds a day of a year counted from 0, and the day of that month,
searched from `month` on among the next `months` of them. -/
def splitMonth (year : Int) : (months month rest : Nat) → Nat × Nat
  | 0, month, rest => (month, rest + 1)
  | months + 1, month, rest =>
    if rest < daysInMonth year month then (month, rest + 1)
    else splitMonth year months (month + 1) (rest - daysInMonth year month)

/-- The date that lies a number of days after 2000-01-01, if the calendar reaches it. -/
def ofDayNumber? (days : Int) : Option Date :=
  let (year, rest) := splitYear (days + epochOffset)
  let (month, day) := splitMonth year 11 1 rest
  ofParts? year month day

/-- The digits of a year: four at least, with a sign outside the years 0 to 9999. -/
def yearText (year : Int) : List Char :=
  let digits := Numeral.padded 4 year.natAbs
  if year < 0 then '-' :: digits
  else if 9999 < year then '+' :: digits
  else digits

/-- The characters of `year-month-day`. -/
def characters (d : Date) : List Char :=
  yearText d.year ++ '-' :: (Numeral.padded 2 d.month ++ '-' :: Numeral.padded 2 d.day)

/-- The text `year-month-day`. -/
def text (d : Date) : String :=
  String.ofList d.characters

end Date

end SqlCompose
