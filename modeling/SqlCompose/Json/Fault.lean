/-
# What is wrong with JSON text

A reader that cannot go on stops with a cause and with the number of bytes that it has
not taken.  A fault is such a cause at its place in the text: a line, and the bytes of
that line up to the place.  A text may be well formed and still be refused, because its
arrays and objects are nested too deep or a number is beyond the range of binary64.
-/

import SqlCompose.Decimal.Numeral
import SqlCompose.Text.Blank

namespace SqlCompose.Json

open Decimal (Numeral.text)

/-- Why a text is refused. -/
inductive Cause where
  /-- The text ends inside an array. -/
  | endInArray
  /-- The text ends inside an object. -/
  | endInObject
  /-- The text ends inside a string. -/
  | endInString
  /-- The text ends where a value is needed. -/
  | endInValue
  /-- A key is not followed by a colon. -/
  | noColon
  /-- An item of an array is followed by neither a comma nor the bracket. -/
  | noItemEnd
  /-- A field of an object is followed by neither a comma nor the brace. -/
  | noFieldEnd
  /-- A word is not the one that its first letter promises. -/
  | unknownWord
  /-- No value begins here. -/
  | noValue
  /-- A backslash is followed by no escape. -/
  | invalidEscape
  /-- A number is malformed. -/
  | invalidNumber
  /-- A number is beyond the range of binary64. -/
  | numberTooLarge
  /-- A control character stands in a string. -/
  | controlCharacter
  /-- A key is no string. -/
  | invalidKey
  /-- The code unit of an escape belongs to a pair and stands alone. -/
  | loneUnit
  /-- No escape follows the first code unit of a pair. -/
  | halfPair
  /-- A comma stands in front of a closing bracket or brace. -/
  | trailingComma
  /-- More text follows the value. -/
  | trailingText
  /-- Arrays and objects are nested too deep. -/
  | tooDeep
  deriving DecidableEq

/-- The wording of a cause. -/
def Cause.message : Cause → String
  | .endInArray => "EOF while parsing a list"
  | .endInObject => "EOF while parsing an object"
  | .endInString => "EOF while parsing a string"
  | .endInValue => "EOF while parsing a value"
  | .noColon => "expected `:`"
  | .noItemEnd => "expected `,` or `]`"
  | .noFieldEnd => "expected `,` or `\x7d`"
  | .unknownWord => "expected ident"
  | .noValue => "expected value"
  | .invalidEscape => "invalid escape"
  | .invalidNumber => "invalid number"
  | .numberTooLarge => "number out of range"
  | .controlCharacter => "control character (\\u0000-\\u001F) found while parsing a string"
  | .invalidKey => "key must be a string"
  | .loneUnit => "lone leading surrogate in hex escape"
  | .halfPair => "unexpected end of hex escape"
  | .trailingComma => "trailing comma"
  | .trailingText => "trailing characters"
  | .tooDeep => "recursion limit exceeded"

/-- A place in a text: a line, and the bytes of the line in front of the place. -/
structure Place where
  line : Nat
  column : Nat
  deriving DecidableEq

/-- The place `bytes` bytes behind another one, at which the given text begins. -/
def Place.advance (place : Place) (bytes : Nat) : List Char → Place
  | [] => place
  | c :: cs =>
    if c.utf8Size ≤ bytes then
      let next : Place :=
        if c = '\n' then ⟨place.line + 1, 0⟩ else ⟨place.line, place.column + c.utf8Size⟩
      next.advance (bytes - c.utf8Size) cs
    else ⟨place.line, place.column + bytes⟩

/-- Where a reader stops: the cause, and the bytes of the text that it has not taken. -/
structure Stop where
  cause : Cause
  left : Nat
  deriving DecidableEq

/-- A cause at its place in a text. -/
structure Fault where
  cause : Cause
  place : Place
  deriving DecidableEq

namespace Fault

/-- The fault of a reader that stopped in a text. -/
def ofStop (text : List Char) (stop : Stop) : Fault :=
  ⟨stop.cause, Place.advance ⟨1, 0⟩ (Text.byteLength text - stop.left) text⟩

/-- The wording of a fault. -/
def message (fault : Fault) : String :=
  fault.cause.message ++ " at line " ++ Numeral.text fault.place.line ++ " column " ++
    Numeral.text fault.place.column

end Fault

end SqlCompose.Json
