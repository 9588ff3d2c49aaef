/-
# Timestamps

A date with a time of day to the nanosecond and without a time zone.  The second
of a minute may be 60, a leap second, and is kept as such.  The fraction of a
second is written with three, six or nine digits, as few as lose nothing, and not
at all when it is zero.
-/

import SqlCompose.Calendar.Date

namespace SqlCompose

open Decimal (Numeral.padded)

/-- A date with a time of day. -/
structure Timestamp where
  date : Date
  hour : Fin 24
  minute : Fin 60
  second : Fin 61
  nanosecond : Fin 1000000000
  deriving DecidableEq

namespace Timestamp

/-- The first moment of a day. -/
def midnight (d : Date) : Timestamp :=
  ⟨d, 0, 0, 0, 0⟩

/-- The timestamp of a date and the numbers of a time of day, if there is such a time. -/
def ofParts? (date : Date) (hour minute second nanosecond : Nat) : Option Timestamp :=
  if h : hour < 24 ∧ minute < 60 ∧ second < 61 ∧ nanosecond < 1000000000 then
    some ⟨date, ⟨hour, h.1⟩, ⟨minute, h.2.1⟩, ⟨second, h.2.2.1⟩, ⟨nanosecond, h.2.2.2⟩⟩
  else none

/-- The number of seconds from midnight. -/
def secondOfDay (t : Timestamp) : Nat :=
  (t.hour.val * 60 + t.minute.val) * 60 + t.second.val

/-- The number of microseconds since 2000-01-01 00:00:00; a part of one is cut off
toward that moment. -/
def microseconds (t : Timestamp) : Int :=
  let seconds := t.date.dayNumber * 86400 + t.secondOfDay
  (seconds * 1000000000 + t.nanosecond.val).tdiv 1000

/-- The timestamp that lies a number of microseconds after 2000-01-01 00:00:00, if
the calendar reaches it. -/
def ofMicroseconds? (microseconds : Int) : Option Timestamp := do
  let date ← Date.ofDayNumber? (microseconds / 86400000000)
  let rest := (microseconds % 86400000000).toNat
  let seconds := rest / 1000000
  ofParts? date (seconds / 3600) (seconds / 60 % 60) (seconds % 60) (rest % 1000000 * 1000)

/-- The fraction of a second behind its point. -/
def fractionText (nanosecond : Nat) : List Char :=
  if nanosecond = 0 then []
  else if nanosecond % 1000000 = 0 then '.' :: Numeral.padded 3 (nanosecond / 1000000)
  else if nanosecond % 1000 = 0 then '.' :: Numeral.padded 6 (nanosecond / 1000)
  else '.' :: Numeral.padded 9 nanosecond

/-- The time of day. -/
def timeText (t : Timestamp) : List Char :=
  Numeral.padded 2 t.hour.val ++ ':' :: (Numeral.padded 2 t.minute.val ++
    ':' :: (Numeral.padded 2 t.second.val ++ fractionText t.nanosecond.val))

/-- The text of a timestamp, with a given character between the date and the time. -/
def text (separator : Char) (t : Timestamp) : String :=
  String.ofList (t.date.characters ++ separator :: t.timeText)

end Timestamp

end SqlCompose
