/-
# Reading TOML

A document is a sequence of lines: a header of a table or of an array of tables, a key
with its value, or nothing; a comment may end each of them.  Only whether the text is
a document matters, so a reader that refuses it gives no reason.

A reader takes what it reads off the front of the text.  Recursion is bounded by the
length of the text, of which every step takes a part; brackets and keys may not be
nested deeper than `maxDepth`.
-/

import SqlCompose.Calendar.Date
import SqlCompose.Decimal.Numeral
import SqlCompose.Toml.Basic

namespace SqlCompose.Toml.Reader

open Decimal (Binary64 Numeral.toNat Numeral.toInt64?)

/-- A reader takes what it reads off the front of the text. -/
abbrev Reading (α : Type) := List Char → Option (α × List Char)

/-- The most parts of a key, and the most brackets around a value. -/
def maxDepth : Nat :=
  79

/-- The text behind spaces and tabs. -/
def skipBlanks (cs : List Char) : List Char :=
  cs.dropWhile fun c => c = ' ' || c = '\t'

/-- A control character that may stand nowhere. -/
def isControl (c : Char) : Bool :=
  (c.toNat < 0x20 && c ≠ '\t') || c.toNat = 0x7F

/-- The text behind a comment, if one stands in front. -/
def skipComment : List Char → List Char
  | '#' :: rest => rest.dropWhile fun c => !isControl c
  | cs => cs

/-- The text behind the end of a line, or the end of the document. -/
def endLine? : List Char → Option (List Char)
  | [] => some []
  | '\n' :: rest => some rest
  | '\r' :: '\n' :: rest => some rest
  | _ => none

/-- The text behind spaces, tabs and ends of lines, at most `fuel` of them. -/
def skipSpace : Nat → List Char → List Char
  | 0, cs => cs
  | _ + 1, [] => []
  | fuel + 1, c :: cs =>
    match endLine? (skipBlanks (c :: cs)) with
    | some rest => skipSpace fuel rest
    | none => skipBlanks (c :: cs)

/-- The text behind the rest of a line, which holds a comment at most. -/
def finishLine? (cs : List Char) : Option (List Char) :=
  endLine? (skipComment (skipBlanks cs))

/-- The text behind blanks, comments and ends of lines, at most `fuel` of them. -/
def skipLines : Nat → List Char → List Char
  | 0, cs => cs
  | fuel + 1, cs =>
    match skipComment (skipBlanks cs) with
    | '\n' :: rest => skipLines fuel rest
    | '\r' :: '\n' :: rest => skipLines fuel rest
    | rest => rest

/-- The value of a digit of either case, up to base 16. -/
def digitValue? (c : Char) : Option Nat :=
  if c.isDigit then some (c.toNat - '0'.toNat)
  else if 'a' ≤ c ∧ c ≤ 'f' then some (c.toNat - 'a'.toNat + 10)
  else if 'A' ≤ c ∧ c ≤ 'F' then some (c.toNat - 'A'.toNat + 10)
  else none

/-- The number of a row of digits of a base. -/
def inBase (base : Nat) (digits : List Char) : Option Nat :=
  digits.foldlM (fun n c => do
    let d ← digitValue? c
    if d < base then some (n * base + d) else none) 0

/-- The character of `size` hexadecimal digits. -/
def readCodePoint (size : Nat) (cs : List Char) : Option (Char × List Char) := do
  let digits := cs.take size
  if digits.length < size then none
  else
    let n ← inBase 16 digits
    if n < 0xD800 ∨ (0xE000 ≤ n ∧ n < 0x110000) then some (Char.ofNat n, cs.drop size) else none

/-- The character of an escape behind its backslash. -/
def readEscape : List Char → Option (Char × List Char)
  | 'b' :: rest => some ('\x08', rest)
  | 't' :: rest => some ('\t', rest)
  | 'n' :: rest => some ('\n', rest)
  | 'f' :: rest => some ('\x0c', rest)
  | 'r' :: rest => some ('\r', rest)
  | '"' :: rest => some ('"', rest)
  | '\\' :: rest => some ('\\', rest)
  | 'u' :: rest => readCodePoint 4 rest
  | 'U' :: rest => readCodePoint 8 rest
  | _ => none

/-- A string of one line behind its opening quote. -/
def readBasic : Nat → Reading (List Char)
  | 0, _ => none
  | _ + 1, '"' :: rest => some ([], rest)
  | fuel + 1, '\\' :: rest => do
    let (c, rest) ← readEscape rest
    let (cs, rest) ← readBasic fuel rest
    some (c :: cs, rest)
  | fuel + 1, c :: rest =>
    if isControl c then none
    else do
      let (cs, rest) ← readBasic fuel rest
      some (c :: cs, rest)
  | _ + 1, [] => none

/-- A string without escapes behind its opening quote. -/
def readLiteral (cs : List Char) : Option (List Char × List Char) :=
  match cs.dropWhile fun c => c ≠ '\'' && !isControl c with
  | '\'' :: rest => some (cs.takeWhile fun c => c ≠ '\'', rest)
  | _ => none

/-- The quotes in front of a text, five at most, of which the last three close a string of
several lines. -/
def closingQuotes (quote : Char) (cs : List Char) : Nat :=
  ((cs.take 5).takeWhile (· = quote)).length

/-- A string of several lines behind its opening quotes.  A backslash at the end of a
line joins it with the next text. -/
def readLines (quote : Char) (escapes : Bool) : Nat → Reading (List Char)
  | 0, _ => none
  | _ + 1, [] => none
  | fuel + 1, c :: rest =>
    let quotes := closingQuotes quote (c :: rest)
    if 3 ≤ quotes then some (List.replicate (quotes - 3) quote, (c :: rest).drop quotes)
    else if escapes && c = '\\' then
      match endLine? (skipBlanks rest) with
      | some next => readLines quote escapes fuel (skipSpace (next.length + 1) next)
      | none => do
        let (c, rest) ← readEscape rest
        let (cs, rest) ← readLines quote escapes fuel rest
        some (c :: cs, rest)
    else
      match endLine? (c :: rest) with
      | some next => do
        let (cs, rest) ← readLines quote escapes fuel next
        some ('\n' :: cs, rest)
      | none =>
        if isControl c then none
        else do
          let (cs, rest) ← readLines quote escapes fuel rest
          some (c :: cs, rest)

/-- The text without the end of a line in front of it. -/
def dropFirstBreak (cs : List Char) : List Char :=
  match cs with
  | [] => []
  | cs => (endLine? cs).getD cs

/-- A string of any form, if one stands in front. -/
def readString (cs : List Char) : Option (String × List Char) :=
  let read :=
    match cs with
    | '"' :: '"' :: '"' :: rest => readLines '"' true (rest.length + 1) (dropFirstBreak rest)
    | '\'' :: '\'' :: '\'' :: rest => readLines '\'' false (rest.length + 1) (dropFirstBreak rest)
    | '"' :: rest => readBasic (rest.length + 1) rest
    | '\'' :: rest => readLiteral rest
    | _ => none
  read.map fun (text, rest) => (String.ofList text, rest)

/-- A character of a key without quotes. -/
def isKeyCharacter (c : Char) : Bool :=
  c.isAlphanum || c = '_' || c = '-'

/-- A part of a key. -/
def readKeyPart (cs : List Char) : Option (String × List Char) :=
  match cs with
  | '"' :: rest => (readBasic (rest.length + 1) rest).map fun (s, rest) => (String.ofList s, rest)
  | '\'' :: rest => (readLiteral rest).map fun (s, rest) => (String.ofList s, rest)
  | cs =>
    let word := cs.takeWhile isKeyCharacter
    if word = [] then none else some (String.ofList word, cs.dropWhile isKeyCharacter)

/-- The parts of a key, which are separated by dots. -/
def readKeyParts : Nat → Reading (List String)
  | 0, _ => none
  | fuel + 1, cs => do
    let (part, rest) ← readKeyPart (skipBlanks cs)
    match skipBlanks rest with
    | '.' :: rest =>
      let (parts, rest) ← readKeyParts fuel rest
      some (part :: parts, rest)
    | rest => some ([part], rest)

/-- A key of at most `maxDepth` parts. -/
def readKey (cs : List Char) : Option (List String × List Char) :=
  (readKeyParts (cs.length + 1) cs).filter fun (parts, _) => parts.length ≤ maxDepth

/-- Digits of a base with single underscores between them. -/
def digits? (base : Nat) (cs : List Char) : Option (List Char) :=
  let spaced := ('_' :: cs).zip (cs ++ ['_'])
  if cs = [] ∨ spaced.any fun (c, d) => c = '_' && d = '_' then none
  else
    let digits := cs.filter (· ≠ '_')
    (inBase base digits).map fun _ => digits

/-- Decimal digits that do not begin with a zero before others. -/
def plainDigits? (cs : List Char) : Option (List Char) := do
  let digits ← digits? 10 cs
  if digits.head? = some '0' ∧ 1 < digits.length then none else some digits

/-- A sign in front of a number, and the text behind it. -/
def splitSign : List Char → Int × List Char
  | '-' :: rest => (-1, rest)
  | '+' :: rest => (1, rest)
  | rest => (1, rest)

/-- A whole number within 64 bits. -/
def wholeNumber? (word : List Char) : Option Int := do
  let n ←
    match word with
    | '0' :: 'x' :: rest => (digits? 16 rest).bind (inBase 16) |>.map Int.ofNat
    | '0' :: 'o' :: rest => (digits? 8 rest).bind (inBase 8) |>.map Int.ofNat
    | '0' :: 'b' :: rest => (digits? 2 rest).bind (inBase 2) |>.map Int.ofNat
    | word =>
      let (sign, rest) := splitSign word
      (plainDigits? rest).map fun digits => sign * Numeral.toNat digits
  (Numeral.toInt64? n).map Int64.toInt

/-- The digits of a fraction behind its point, if a point stands in front. -/
def fractionDigits? : List Char → Option (List Char)
  | [] => some []
  | _ :: cs => digits? 10 cs

/-- The exponent behind its letter, if a letter stands in front. -/
def exponent? : List Char → Option Int
  | [] => some 0
  | _ :: cs => do
    let (sign, rest) := splitSign cs
    (digits? 10 rest).map fun digits => sign * Numeral.toNat digits

/-- A number with a fraction or an exponent.  Infinities have a name; a number beyond the
range of the format is an infinity, too, and is refused above zero. -/
def float? (word : List Char) : Option Binary64 := do
  let negative := (splitSign word).1 < 0
  let rest := (splitSign word).2
  if rest = ['i', 'n', 'f'] then some (.infinity negative)
  else if rest = ['n', 'a', 'n'] then some { Binary64.nan with negative }
  else
    let mantissa := rest.takeWhile fun c => c ≠ 'e' && c ≠ 'E'
    let whole := mantissa.takeWhile (· ≠ '.')
    if whole = rest then none
    else
      let digits ← plainDigits? whole
      let fraction ← fractionDigits? (mantissa.drop whole.length)
      let exponent ← exponent? (rest.drop mantissa.length)
      let value := Binary64.ofDecimal negative (Numeral.toNat (digits ++ fraction))
        (exponent - fraction.length)
      if value = .infinity false then none else some value

/-- Whether a text matches a pattern of digits, for which `0` stands, and other characters. -/
def hasPattern (pattern cs : List Char) : Bool :=
  pattern.length = cs.length &&
    (pattern.zip cs).all fun (p, c) => if p = '0' then c.isDigit else p = c

/-- Whether a word is a day. -/
def isDay (cs : List Char) : Bool :=
  let year := Numeral.toNat (cs.take 4)
  let month := Numeral.toNat ((cs.drop 5).take 2)
  let day := Numeral.toNat (cs.drop 8)
  hasPattern "0000-00-00".toList cs && 1 ≤ day && day ≤ Calendar.daysInMonth year month

/-- Whether a word is an hour and a minute of a day. -/
def isHourMinute (cs : List Char) : Bool :=
  hasPattern "00:00".toList cs && Numeral.toNat (cs.take 2) < 24 && Numeral.toNat (cs.drop 3) < 60

/-- Whether a word is a time of day with an optional fraction. -/
def isTime (cs : List Char) : Bool :=
  let seconds := (cs.drop 5).take 3
  let fractionFits :=
    match cs.drop 8 with
    | [] => true
    | '.' :: digits => digits ≠ [] && digits.all Char.isDigit
    | _ => false
  isHourMinute (cs.take 5) && hasPattern ":00".toList seconds &&
    Numeral.toNat (seconds.drop 1) ≤ 60 && fractionFits

/-- Whether a word is an offset from universal time. -/
def isOffset : List Char → Bool
  | '+' :: cs | '-' :: cs => isHourMinute cs
  | cs => cs = ['Z'] || cs = ['z']

/-- Whether a word is a day, a time of day or both. -/
def isMoment (cs : List Char) : Bool :=
  let day := cs.take 10
  let clock := (cs.drop 11).takeWhile fun c => c.isDigit || c = ':' || c = '.'
  let offset := (cs.drop 11).drop clock.length
  isTime cs || isDay cs ||
    (isDay day && ['T', 't', ' '].any (cs[10]? = some ·) && isTime clock &&
      (offset = [] || isOffset offset))

/-- The word in front of a text.  A space between a day and a digit belongs to a moment. -/
def scalarWord (cs : List Char) : List Char :=
  let isWord (c : Char) : Bool :=
    c.isAlphanum || c = '_' || c = '-' || c = '+' || c = '.' || c = ':'
  let word := cs.takeWhile isWord
  match cs.drop word.length with
  | ' ' :: c :: rest =>
    if isDay word && c.isDigit then word ++ ' ' :: (c :: rest).takeWhile isWord else word
  | _ => word

/-- A truth value, a number or a moment. -/
def readScalar (cs : List Char) : Option (Value × List Char) :=
  let word := scalarWord cs
  let text := String.ofList word
  let value :=
    if text = "true" then some (.boolean true)
    else if text = "false" then some (.boolean false)
    else if isMoment word then some (.moment text)
    else ((wholeNumber? word).map Value.integer).orElse fun _ => (float? word).map .float
  value.map (·, cs.drop word.length)

mutual

/-- A value with at most `depth` brackets around another. -/
def readValue : Nat → Nat → Reading Value
  | 0, _, _ => none
  | fuel + 1, depth, cs =>
    match cs, depth with
    | '"' :: _, _ | '\'' :: _, _ => (readString cs).map fun (s, rest) => (.string s, rest)
    | '[' :: _, 0 | '\x7b' :: _, 0 => none
    | '[' :: rest, depth + 1 =>
      (readItems fuel depth rest).map fun (items, rest) => (.array items, rest)
    | '\x7b' :: rest, depth + 1 =>
      match skipBlanks rest with
      | '\x7d' :: rest => some (.table [], rest)
      | rest =>
        (readFields fuel depth [] rest).map fun (fields, rest) =>
          (.table (finishFields fields), rest)
    | cs, _ => readScalar cs

/-- The items of an array behind its bracket, up to the closing one. -/
def readItems : Nat → Nat → Reading (List Value)
  | 0, _, _ => none
  | fuel + 1, depth, cs =>
    match skipLines (cs.length + 1) cs with
    | ']' :: rest => some ([], rest)
    | cs => do
      let (item, rest) ← readValue fuel depth cs
      match skipLines (rest.length + 1) rest with
      | ',' :: rest =>
        let (items, rest) ← readItems fuel depth rest
        some (item :: items, rest)
      | ']' :: rest => some ([item], rest)
      | _ => none

/-- The fields of a table in braces behind those that were read, up to the closing brace. -/
def readFields : Nat → Nat → Fields → Reading Fields
  | 0, _, _, _ => none
  | fuel + 1, depth, fields, cs => do
    let (key, rest) ← readKey cs
    match rest with
    | '=' :: rest =>
      let (value, rest) ← readValue fuel depth (skipBlanks rest)
      let fields ← fields.assign value key
      match skipBlanks rest with
      | ',' :: rest => readFields fuel depth fields rest
      | '\x7d' :: rest => some (fields, rest)
      | _ => none
    | _ => none

end

/-- A document that is being read: its fields, and the path of the table to which
keys are added. -/
structure Document where
  fields : Fields := []
  path : List String := []

/-- Adds the table of a header and makes it the one to which keys are added. -/
def Document.startTable (document : Document) (path : List String)
    (add : String → Fields → Option Fields) : Option Document := do
  let key ← path.getLast?
  let fields ← document.fields.descend (add key) path.dropLast
  some ⟨fields, path⟩

/-- A header, a key with its value, or neither, up to the end of the line. -/
def readLine (document : Document) (cs : List Char) : Option (Document × List Char) :=
  match skipBlanks cs with
  | '[' :: '[' :: rest => do
    let (path, rest) ← readKey rest
    match rest with
    | ']' :: ']' :: rest =>
      let document ← document.startTable path Fields.append
      (finishLine? rest).map (document, ·)
    | _ => none
  | '[' :: rest => do
    let (path, rest) ← readKey rest
    match rest with
    | ']' :: rest =>
      let document ← document.startTable path Fields.declare
      (finishLine? rest).map (document, ·)
    | _ => none
  | cs =>
    match finishLine? cs with
    | some rest => some (document, rest)
    | none => do
      let (key, rest) ← readKey cs
      match rest with
      | '=' :: rest =>
        let (value, rest) ← readValue (rest.length + 1) maxDepth (skipBlanks rest)
        let fields ← document.fields.descend (Fields.assign value key) document.path
        (finishLine? rest).map (⟨fields, document.path⟩, ·)
      | _ => none

/-- The lines of a document, at most `fuel` of them. -/
def readDocument : Nat → Document → List Char → Option Document
  | _, document, [] => some document
  | 0, _, _ => none
  | fuel + 1, document, cs => do
    let (document, rest) ← readLine document cs
    readDocument fuel document rest

/-- The document that a text holds.  A byte order mark in front does not count. -/
def document? (text : String) : Option Value := do
  let cs :=
    match text.toList with
    | '\ufeff' :: rest => rest
    | cs => cs
  let document ← readDocument (cs.length + 1) {} cs
  some (.table (finishFields document.fields))

end SqlCompose.Toml.Reader
