/-
# Reading JSON paths

A path is a first step and any number of further ones: an index in brackets, or a
key behind a dot, where the first key has none.  A key is any text in double quotes
without one inside, or a run of letters, digits, `_`, `-` and `$`.  A bare key that
is a whole number within 64 bits is an index.

Blanks around the path do not count.  A text that is no path is refused at the byte
at which the longest path in front of it ends.
-/

import SqlCompose.Error
import SqlCompose.JsonPath.Basic
import SqlCompose.Text.Alphanumeric

namespace SqlCompose.JsonPath

open Decimal (Numeral.readInt64?)

/-- A character of a bare key. -/
def isKeyCharacter (c : Char) : Bool :=
  Text.isAlphanumeric c || c == '_' || c == '-' || c == '$'

/-- The step that a bare key stands for. -/
def bareSegment (word : List Char) : PathSegment :=
  match Numeral.readInt64? word with
  | some i => .index i
  | none => .key (String.ofList word)

/-- A key at the front of a text, and the text behind it. -/
def readKey? : List Char → Option (PathSegment × List Char)
  | '"' :: cs =>
    match cs.dropWhile (· ≠ '"') with
    | _ :: rest => some (.key (String.ofList (cs.takeWhile (· ≠ '"'))), rest)
    | [] => none
  | cs =>
    let word := cs.takeWhile isKeyCharacter
    if word = [] then none else some (bareSegment word, cs.dropWhile isKeyCharacter)

/-- A sign that may stand before an index, and the text behind it. -/
def splitSign : List Char → List Char × List Char
  | '-' :: cs => (['-'], cs)
  | cs => ([], cs)

/-- An index in brackets at the front of a text, and the text behind it. -/
def readIndex? : List Char → Option (PathSegment × List Char)
  | '[' :: cs =>
    let (sign, cs) := splitSign cs
    let digits := cs.takeWhile Char.isDigit
    match cs.dropWhile Char.isDigit with
    | ']' :: rest =>
      if digits = [] then none
      else (Numeral.readInt64? (sign ++ digits)).map fun i => (.index i, rest)
    | _ => none
  | _ => none

/-- The first step of a path. -/
def readFirst? (cs : List Char) : Option (PathSegment × List Char) :=
  (readIndex? cs).or (readKey? cs)

/-- A further step of a path. -/
def readNext? (cs : List Char) : Option (PathSegment × List Char) :=
  match cs with
  | '.' :: rest => readKey? rest
  | _ => readIndex? cs

/-- The further steps of a path, at most `fuel` of them, and the text behind them. -/
def readMany : Nat → List Char → List PathSegment × List Char
  | 0, cs => ([], cs)
  | fuel + 1, cs =>
    match readNext? cs with
    | some (segment, rest) =>
      let (segments, rest) := readMany fuel rest
      (segment :: segments, rest)
    | none => ([], cs)

/-- Reads a path. -/
def read (text : String) : Except Error JsonPath :=
  let cs := Text.trim text.toList
  match readFirst? cs with
  | none => .error (.jsonPath 0 (.noSegment (String.ofList cs)))
  | some (first, rest) =>
    -- each step takes at least one character
    let (segments, rest) := readMany rest.length rest
    if rest = [] then .ok ⟨first :: segments⟩
    else
      .error (.jsonPath (Text.byteLength cs - Text.byteLength rest)
        (.trailing (String.ofList rest)))

end SqlCompose.JsonPath
