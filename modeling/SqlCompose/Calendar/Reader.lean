/-
# Reading dates and timestamps

A format is a list of items: numbers, single characters, blanks and the optional
fraction of a second.  A text is read item by item, and the first item that does
not fit decides what is wrong with it.  Whether the day exists is asked last.

Before a number blanks are skipped.  A year behind a sign has any number of digits
and one without a sign up to four; every other number has one or two.
-/

import SqlCompose.Calendar.Timestamp
import SqlCompose.Text.Blank

namespace SqlCompose.Calendar

open Decimal (Numeral.toNat)

/-- What is wrong with the text of a date or a timestamp. -/
inductive Fault where
  /-- The text ends where a digit or a character of the format is needed. -/
  | endsEarly
  /-- Another character stands where a digit or a character of the format is needed. -/
  | wrongCharacter
  /-- A number names no such part of a date, or there is no such day. -/
  | outOfRange
  /-- More text follows. -/
  | trailing
  deriving DecidableEq

/-- The wording of a fault. -/
def Fault.message : Fault → String
  | .endsEarly => "premature end of input"
  | .wrongCharacter => "input contains invalid characters"
  | .outOfRange => "input is out of range"
  | .trailing => "trailing input"

/-- A number in the text of a date or a timestamp. -/
inductive Part where
  | year | month | day | hour | minute | second
  deriving DecidableEq

/-- An item of a format. -/
inductive Item where
  | number (part : Part)
  | character (c : Char)
  | blanks
  | fraction
  deriving DecidableEq

/-- The numbers read so far. -/
structure Parts where
  year : Int := 0
  month : Nat := 0
  day : Nat := 0
  hour : Nat := 0
  minute : Nat := 0
  second : Nat := 0
  nanosecond : Nat := 0

/-- Up to `limit` digits from the front of a text; at least one is needed.  A number
beyond a signed word of 64 bits is out of range. -/
def readDigits (limit : Option Nat) (cs : List Char) : Except Fault (List Char × List Char) :=
  let digits :=
    match limit with
    | some limit => (cs.take limit).takeWhile Char.isDigit
    | none => cs.takeWhile Char.isDigit
  if digits = [] then .error (if cs = [] then .endsEarly else .wrongCharacter)
  else if Int64.maxValue.toInt < Numeral.toNat digits then .error .outOfRange
  else .ok (digits, cs.drop digits.length)

/-- A number of a date or a timestamp, signed only if it is a year. -/
def readNumber (part : Part) (cs : List Char) : Except Fault (Int × List Char) := do
  match part, Text.trimStart cs with
  | .year, '-' :: rest =>
    let (digits, rest) ← readDigits none rest
    return (-(Numeral.toNat digits : Int), rest)
  | .year, '+' :: rest =>
    let (digits, rest) ← readDigits none rest
    return (Numeral.toNat digits, rest)
  | .year, rest =>
    let (digits, rest) ← readDigits (some 4) rest
    return (Numeral.toNat digits, rest)
  | _, rest =>
    let (digits, rest) ← readDigits (some 2) rest
    return (Numeral.toNat digits, rest)

/-- Stores a number, if the part may have it at all. -/
def Parts.set (parts : Parts) (part : Part) (n : Int) : Except Fault Parts :=
  match part with
  | .year =>
    if Int32.minValue.toInt ≤ n ∧ n ≤ Int32.maxValue.toInt then .ok { parts with year := n }
    else .error .outOfRange
  | .month =>
    if 1 ≤ n ∧ n ≤ 12 then .ok { parts with month := n.toNat } else .error .outOfRange
  | .day =>
    if 1 ≤ n ∧ n ≤ 31 then .ok { parts with day := n.toNat } else .error .outOfRange
  | .hour =>
    if 0 ≤ n ∧ n ≤ 23 then .ok { parts with hour := n.toNat } else .error .outOfRange
  | .minute =>
    if 0 ≤ n ∧ n ≤ 59 then .ok { parts with minute := n.toNat } else .error .outOfRange
  | .second =>
    if 0 ≤ n ∧ n ≤ 60 then .ok { parts with second := n.toNat } else .error .outOfRange

/-- The fraction of a second: a point and digits, of which the first nine count. -/
def readFraction (parts : Parts) : List Char → Except Fault (Parts × List Char)
  | '.' :: rest => do
    let (digits, rest) ← readDigits (some 9) rest
    let nanosecond := Numeral.toNat digits * Nat.pow 10 (9 - digits.length)
    return ({ parts with nanosecond := nanosecond }, rest.dropWhile Char.isDigit)
  | rest => .ok (parts, rest)

/-- Reads one item. -/
def readItem (parts : Parts) (item : Item) (cs : List Char) :
    Except Fault (Parts × List Char) :=
  match item with
  | .number part => do
    let (n, rest) ← readNumber part cs
    let parts ← parts.set part n
    return (parts, rest)
  | .character c =>
    match cs with
    | [] => .error .endsEarly
    | d :: rest => if c = d then .ok (parts, rest) else .error .wrongCharacter
  | .blanks => .ok (parts, Text.trimStart cs)
  | .fraction => readFraction parts cs

/-- Reads the items of a format and the end of the text behind them. -/
def readItems (parts : Parts) : List Item → List Char → Except Fault Parts
  | [], [] => .ok parts
  | [], _ :: _ => .error .trailing
  | item :: items, cs => do
    let (parts, rest) ← readItem parts item cs
    readItems parts items rest

/-- The date of the numbers read, if there is such a day. -/
def Parts.date (parts : Parts) : Except Fault Date :=
  match Date.ofParts? parts.year parts.month parts.day with
  | some date => .ok date
  | none => .error .outOfRange

/-- The timestamp of the numbers read, if there is such a moment. -/
def Parts.timestamp (parts : Parts) : Except Fault Timestamp := do
  let date ← parts.date
  match Timestamp.ofParts? date parts.hour parts.minute parts.second parts.nanosecond with
  | some timestamp => .ok timestamp
  | none => .error .outOfRange

/-- The format `year-month-day`. -/
def dateFormat : List Item :=
  [.number .year, .character '-', .number .month, .character '-', .number .day]

/-- The format of a time of day behind what separates it from the date. -/
def timeFormat : List Item :=
  [.number .hour, .character ':', .number .minute, .character ':', .number .second, .fraction]

/-- The format `year-month-day` with blanks allowed around its characters. -/
def looseDateFormat : List Item :=
  [.number .year, .blanks, .character '-', .number .month, .blanks, .character '-',
   .number .day, .blanks]

/-- The format of a timestamp with a `T`, and blanks allowed around its characters. -/
def looseTimestampFormat : List Item :=
  looseDateFormat ++
    [.character 'T', .number .hour, .blanks, .character ':', .number .minute, .blanks,
     .character ':', .number .second, .fraction, .blanks]

/-- Reads a date in a format. -/
def readDate (format : List Item) (cs : List Char) : Except Fault Date := do
  (← readItems {} format cs).date

/-- Reads a timestamp in a format. -/
def readTimestamp (format : List Item) (cs : List Char) : Except Fault Timestamp := do
  (← readItems {} format cs).timestamp

end SqlCompose.Calendar

namespace SqlCompose

open Calendar

/-- Reads a date as it is given for a column, blanks around it aside. -/
def Date.read (text : String) : Except Fault Date :=
  readDate dateFormat (Text.trim text.toList)

/-- Reads a timestamp as it is given for a column, blanks around it aside: with a `T`,
with blanks, or the date alone, which stands for its midnight.  What is wrong with a
text that is none of them is said by the second format. -/
def Timestamp.read (text : String) : Except Fault Timestamp :=
  let cs := Text.trim text.toList
  match readTimestamp (dateFormat ++ .character 'T' :: timeFormat) cs with
  | .ok timestamp => .ok timestamp
  | .error _ =>
    match readTimestamp (dateFormat ++ .blanks :: timeFormat) cs with
    | .ok timestamp => .ok timestamp
    | .error fault =>
      match readDate dateFormat cs with
      | .ok date => .ok (.midnight date)
      | .error _ => .error fault

end SqlCompose
