/-
# Reading JSON text

A whole number within 64 bits is kept as such; every other number becomes a
binary64 number: the leading digits that fit an unsigned word of 64 bits are
rounded once and then scaled by the power of ten that is left.  A minus zero is a
binary64 number, because no whole number has that sign.

The recursion is bounded by the length of the text, since every nested value
starts behind at least one character of its own; arrays and objects may not be nested
deeper than `maxDepth`.  A reader that cannot go on says why and where.
-/

import SqlCompose.Json.Basic
import SqlCompose.Json.Fault

namespace SqlCompose.Json.Reader

open Decimal (Binary64 Numeral.toNat)

/-- A reader takes what it reads off the front of the text. -/
abbrev Reading (α : Type) := List Char → Except Stop (α × List Char)

/-- Stops in front of a text. -/
def stop {α : Type} (cause : Cause) (rest : List Char) : Except Stop α :=
  .error ⟨cause, Text.byteLength rest⟩

/-- Stops behind the first byte of a text, which is what is wrong. -/
def stopBehind {α : Type} (cause : Cause) (rest : List Char) : Except Stop α :=
  .error ⟨cause, Text.byteLength rest - 1⟩

/-- The most arrays and objects around a value, an array or an object itself included. -/
def maxDepth : Nat :=
  127

/-- The text behind the blanks of the JSON grammar. -/
def skipBlanks (cs : List Char) : List Char :=
  cs.dropWhile fun c => c = ' ' || c = '\n' || c = '\t' || c = '\r'

/-- The text behind a word, of which the first letter is taken already. -/
def readWord : List Char → List Char → Except Stop (List Char)
  | [], cs => .ok cs
  | _ :: _, [] => stop .endInValue []
  | expected :: more, c :: cs =>
    if c = expected then readWord more cs else stopBehind .unknownWord (c :: cs)

/-- The value of a hexadecimal digit of either case. -/
def hexValue? (c : Char) : Option Nat :=
  if c.isDigit then some (c.toNat - '0'.toNat)
  else if 'a' ≤ c ∧ c ≤ 'f' then some (c.toNat - 'a'.toNat + 10)
  else if 'A' ≤ c ∧ c ≤ 'F' then some (c.toNat - 'A'.toNat + 10)
  else none

/-- The code unit of four hexadecimal digits. -/
def readUnit (cs : List Char) : Except Stop (Nat × List Char) :=
  match (cs.take 4).mapM hexValue? with
  | some [a, b, c, d] => .ok (((a * 16 + b) * 16 + c) * 16 + d, cs.drop 4)
  | _ =>
    if Text.byteLength cs < 4 then stop .endInString []
    else .error ⟨.invalidEscape, Text.byteLength cs - 4⟩

/-- The text behind the backslash and the `u` between the two code units of a pair. -/
def skipPairMark (cs : List Char) : Except Stop (List Char) :=
  match cs with
  | '\\' :: 'u' :: rest => .ok rest
  | [] | ['\\'] => stop .endInString []
  | '\\' :: rest => stopBehind .halfPair rest
  | rest => stopBehind .halfPair rest

/-- The character of the code unit behind `\u`, or of the two units that form a pair. -/
def readEscapedUnit (cs : List Char) : Except Stop (Char × List Char) := do
  let (high, rest) ← readUnit cs
  if 0xDC00 ≤ high ∧ high < 0xE000 then stop .loneUnit rest
  else if high < 0xD800 ∨ 0xE000 ≤ high then .ok (Char.ofNat high, rest)
  else
    let (low, rest) ← readUnit (← skipPairMark rest)
    if 0xDC00 ≤ low ∧ low < 0xE000 then
      .ok (Char.ofNat (0x10000 + (high - 0xD800) * 0x400 + (low - 0xDC00)), rest)
    else stop .loneUnit rest

/-- The characters that a letter behind a backslash stands for. -/
def escapes : List (Char × Char) :=
  [('"', '"'), ('\\', '\\'), ('/', '/'), ('b', '\x08'), ('f', '\x0c'), ('n', '\n'), ('r', '\r'),
   ('t', '\t')]

/-- The character of an escape behind its backslash. -/
def readEscape (cs : List Char) : Except Stop (Char × List Char) :=
  match cs with
  | [] => stop .endInString []
  | 'u' :: rest => readEscapedUnit rest
  | letter :: rest =>
    match escapes.lookup letter with
    | some c => .ok (c, rest)
    | none => stopBehind .invalidEscape (letter :: rest)

/-- The characters of a string up to its closing quote, at most `fuel` of them. -/
def readCharacters : Nat → Reading (List Char)
  | 0, _ | _ + 1, [] => stop .endInString []
  | _ + 1, '"' :: rest => .ok ([], rest)
  | fuel + 1, c :: rest => do
    let (c, rest) ←
      if c = '\\' then readEscape rest
      else if c.toNat < 0x20 then stop .controlCharacter rest
      else .ok (c, rest)
    let (cs, rest) ← readCharacters fuel rest
    return (c :: cs, rest)

/-- A string behind its opening quote. -/
def readString (cs : List Char) : Except Stop (String × List Char) := do
  let (characters, rest) ← readCharacters (cs.length + 1) cs
  return (String.ofList characters, rest)

/-- A significand that fits an unsigned word of 64 bits, and the power of ten it lacks. -/
structure Scaled where
  significand : Nat
  exponent : Int

/-- The greatest significand that is kept exactly. -/
def maxSignificand : Nat :=
  UInt64.size - 1

/-- Appends the digits of the whole part; once one no longer fits, it and all
behind it only count. -/
def Scaled.appendWhole (s : Scaled) : List Char → Scaled
  | [] => s
  | c :: cs =>
    let next := s.significand * 10 + (c.toNat - '0'.toNat)
    if next ≤ maxSignificand then Scaled.appendWhole { s with significand := next } cs
    else { s with exponent := s.exponent + (cs.length + 1) }

/-- Appends the digits of the fraction; once one no longer fits, it and all behind
it are dropped. -/
def Scaled.appendFraction (s : Scaled) : List Char → Scaled
  | [] => s
  | c :: cs =>
    let next := s.significand * 10 + (c.toNat - '0'.toNat)
    if next ≤ maxSignificand then Scaled.appendFraction ⟨next, s.exponent - 1⟩ cs else s

/-- The binary64 number of a sign, a significand and a power of ten. -/
def toFloat? (negative : Bool) (s : Scaled) : Option Binary64 :=
  (Binary64.ofRatio negative s.significand 1).timesPowerOfTen s.exponent

/-- The number of digits after which an exponent exceeds a signed word of 32 bits. -/
def overflowLength? (digits : List Char) : Option Nat :=
  (List.range (digits.length + 1)).find? fun n =>
    Int32.maxValue.toInt < Numeral.toNat (digits.take n)

/-- The exponent behind the `e` of a number, if there is one.  An exponent that is too
large for a word is refused at once, unless the number is zero anyway. -/
def readExponent (significand : Nat) (cs : List Char) : Except Stop (Int × List Char) :=
  match cs with
  | 'e' :: rest | 'E' :: rest =>
    let (sign, rest) : Int × List Char :=
      match rest with
      | '+' :: rest => (1, rest)
      | '-' :: rest => (-1, rest)
      | rest => (1, rest)
    let digits := rest.takeWhile Char.isDigit
    if rest = [] then stop .endInValue []
    else if digits = [] then stopBehind .invalidNumber rest
    else
      match overflowLength? digits, decide (significand ≠ 0 ∧ 0 < sign) with
      | some n, true => stop .numberTooLarge (rest.drop n)
      | _, _ => .ok (sign * Numeral.toNat digits, rest.dropWhile Char.isDigit)
  | rest => .ok (0, rest)

/-- The digits behind the point of a number, none if it has no point. -/
def readFraction (cs : List Char) : Except Stop (List Char × List Char) :=
  match cs with
  | '.' :: rest =>
    let digits := rest.takeWhile Char.isDigit
    if rest = [] then stop .endInValue []
    else if digits = [] then stopBehind .invalidNumber rest
    else .ok (digits, rest.dropWhile Char.isDigit)
  | rest => .ok ([], rest)

/-- A whole number within 64 bits, or the binary64 number it becomes. -/
def wholeNumber (negative : Bool) (digits : List Char) : Option JsonNumber :=
  let n := Numeral.toNat digits
  if negative then
    if 0 < n ∧ Int64.minValue.toInt ≤ -n then some (.int (-n))
    else (toFloat? true (Scaled.appendWhole ⟨0, 0⟩ digits)).map .float
  else if n ≤ maxSignificand then some (.int n)
  else (toFloat? false (Scaled.appendWhole ⟨0, 0⟩ digits)).map .float

/-- A number behind its sign. -/
def readMagnitude (negative : Bool) (cs : List Char) : Except Stop (JsonNumber × List Char) :=
  let whole := cs.takeWhile Char.isDigit
  let rest := cs.dropWhile Char.isDigit
  match whole with
  | [] => if cs = [] then stop .endInValue [] else stopBehind .invalidNumber cs
  | '0' :: _ :: _ => stopBehind .invalidNumber (cs.drop 1)
  | _ => do
    let (fraction, afterFraction) ← readFraction rest
    let s := (Scaled.appendWhole ⟨0, 0⟩ whole).appendFraction fraction
    let (exponent, afterExponent) ← readExponent s.significand afterFraction
    let number? :=
      if afterExponent.length = rest.length then wholeNumber negative whole
      else (toFloat? negative { s with exponent := s.exponent + exponent }).map .float
    match number? with
    | some n => return (n, afterExponent)
    | none => stop .numberTooLarge afterExponent

/-- A number. -/
def readNumber (cs : List Char) : Except Stop (JsonNumber × List Char) :=
  match cs with
  | [] => stop .endInValue []
  | '-' :: rest => readMagnitude true rest
  | c :: rest =>
    if c.isDigit then readMagnitude false (c :: rest) else stopBehind .noValue (c :: rest)

mutual

/-- A value in which arrays and objects are nested up to `depth` times. -/
def readValue : Nat → Nat → Reading Json
  | 0, _, cs => stop .endInValue cs
  | fuel + 1, depth, cs =>
    match skipBlanks cs, depth with
    | 'n' :: rest, _ => do return (.null, ← readWord ['u', 'l', 'l'] rest)
    | 't' :: rest, _ => do return (.bool true, ← readWord ['r', 'u', 'e'] rest)
    | 'f' :: rest, _ => do return (.bool false, ← readWord ['a', 'l', 's', 'e'] rest)
    | '"' :: rest, _ => do
      let (s, rest) ← readString rest
      return (.string s, rest)
    | '[' :: rest, 0 | '\x7b' :: rest, 0 => stop .tooDeep rest
    | '[' :: rest, depth + 1 =>
      match skipBlanks rest with
      | [] => stop .endInArray []
      | ']' :: rest => .ok (.array [], rest)
      | rest => do
        let (items, rest) ← readItems fuel depth rest
        return (.array items, rest)
    | '\x7b' :: rest, depth + 1 =>
      match skipBlanks rest with
      | [] => stop .endInObject []
      | '\x7d' :: rest => .ok (.object [], rest)
      | rest => do
        let (fields, rest) ← readFields fuel depth rest
        return (ofFields fields, rest)
    | rest, _ => do
      let (n, rest) ← readNumber rest
      return (.number n, rest)

/-- The items of an array from the first one that is not read, up to the closing bracket. -/
def readItems : Nat → Nat → Reading (List Json)
  | 0, _, cs => stop .endInArray cs
  | fuel + 1, depth, cs => do
    let (item, rest) ← readValue fuel depth cs
    match skipBlanks rest with
    | [] => stop .endInArray []
    | ']' :: rest => return ([item], rest)
    | ',' :: rest =>
      match skipBlanks rest with
      | ']' :: rest => stop .trailingComma rest
      | rest => do
        let (items, rest) ← readItems fuel depth rest
        return (item :: items, rest)
    | rest => stopBehind .noItemEnd rest

/-- The fields of an object from the first one that is not read, up to the closing brace. -/
def readFields : Nat → Nat → Reading (List (String × Json))
  | 0, _, cs => stop .endInObject cs
  | fuel + 1, depth, cs =>
    match cs with
    | '"' :: rest => do
      let (key, rest) ← readString rest
      match skipBlanks rest with
      | ':' :: rest => do
        let (value, rest) ← readValue fuel depth rest
        match skipBlanks rest with
        | [] => stop .endInObject []
        | '\x7d' :: rest => return ([(key, value)], rest)
        | ',' :: rest =>
          match skipBlanks rest with
          | [] => stop .endInValue []
          | '\x7d' :: rest => stop .trailingComma rest
          | rest => do
            let (fields, rest) ← readFields fuel depth rest
            return ((key, value) :: fields, rest)
        | rest => stopBehind .noFieldEnd rest
      | [] => stop .endInObject []
      | rest => stopBehind .noColon rest
    | rest => stopBehind .invalidKey rest

end

/-- The document that a whole text holds. -/
def readDocument (cs : List Char) : Except Stop Json := do
  let (value, rest) ← readValue (cs.length + 1) maxDepth cs
  match skipBlanks rest with
  | [] => return value
  | rest => stopBehind .trailingText rest

/-- The document that a text holds. -/
def document (text : String) : Except Fault Json :=
  (readDocument text.toList).mapError (Fault.ofStop text.toList)

/-- The document that a text holds, if it holds one. -/
def document? (text : String) : Option Json :=
  (document text).toOption

end SqlCompose.Json.Reader
