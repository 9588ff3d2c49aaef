/-
# Descriptions

How a value is shown to a person: the name of its case, its fields in parentheses, or
in braces with their names.  A text stands in quotes, and a character that has no form
of its own is written by its code point.
-/

import SqlCompose.Decimal.Notation
import SqlCompose.Form.Basic
import SqlCompose.Json.Printer
import SqlCompose.Text.Printable

namespace SqlCompose

open Decimal (FloatStyle Numeral.text)

namespace Description

/-- The digits of a number in base 16, in lower case. -/
def hexDigits (n : Nat) : List Char :=
  Nat.toDigits 16 n

/-- A character as it is written between quotes. -/
def escape (c : Char) : List Char :=
  if c = '"' then ['\\', '"']
  else if c = '\\' then ['\\', '\\']
  else if c = '\n' then ['\\', 'n']
  else if c = '\r' then ['\\', 'r']
  else if c = '\t' then ['\\', 't']
  else if c.toNat = 0 then ['\\', '0']
  else if Text.isPrintable c then [c]
  else '\\' :: 'u' :: '\x7b' :: (hexDigits c.toNat ++ ['\x7d'])

/-- A text in quotes. -/
def quoted (text : String) : String :=
  String.ofList ('"' :: (text.toList.flatMap escape ++ ['"']))

/-- Descriptions with commas between them. -/
def commas (items : List String) : String :=
  ", ".intercalate items

/-- Descriptions in braces behind a name; no braces if there are none. -/
def braced (name : String) (fields : List String) : String :=
  if fields = [] then name else name ++ " \x7b " ++ commas fields ++ " \x7d"

/-- Descriptions in brackets. -/
def bracketed (items : List String) : String :=
  "[" ++ commas items ++ "]"

mutual

/-- The description of a JSON document. -/
def document : Json → String
  | .null => "Null"
  | .bool true => "Bool(true)"
  | .bool false => "Bool(false)"
  | .number n => "Number(" ++ n.text ++ ")"
  | .string s => "String(" ++ quoted s ++ ")"
  | .array items => "Array " ++ bracketed (documents items)
  | .object fields => "Object \x7b" ++ commas (documentFields fields) ++ "\x7d"

/-- The descriptions of JSON documents. -/
def documents : List Json → List String
  | [] => []
  | item :: rest => document item :: documents rest

/-- The descriptions of the fields of a JSON object. -/
def documentFields : List (String × Json) → List String
  | [] => []
  | (key, value) :: rest => (quoted key ++ ": " ++ document value) :: documentFields rest

end

end Description

namespace Form

open Description (quoted commas braced bracketed)

mutual

/-- The description of a value. -/
def describe : Form → String
  | .bool true => "true"
  | .bool false => "false"
  | .int i => Numeral.text i
  | .float x => FloatStyle.described.text x
  | .word text => quoted text
  | .bare text => text
  | .document j => Description.document j
  | .absent => "None"
  | .present form => "Some(" ++ describe form ++ ")"
  | .list items => bracketed (describeItems items)
  | .pair first second => "(" ++ commas [describe first, describe second] ++ ")"
  | .case name => name
  | .tagged name fields => name ++ "(" ++ commas (describeItems fields) ++ ")"
  | .variant name fields => braced name (describeFields fields)
  | .record name fields => braced name (describeFields fields)
  | .partially name fields => braced name (describeFields fields ++ [".."])

/-- The descriptions of some forms. -/
def describeItems : List Form → List String
  | [] => []
  | form :: rest => describe form :: describeItems rest

/-- The descriptions of named forms. -/
def describeFields : List (String × Form) → List String
  | [] => []
  | (name, form) :: rest => (name ++ ": " ++ describe form) :: describeFields rest

end

end Form

end SqlCompose
