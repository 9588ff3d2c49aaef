/-
# Names in a statement

A name is written bare when it is a plain lower-case word that is not reserved,
and in double quotes otherwise.  A dot separates the parts of a qualified name,
each of which is written on its own; a star stands for all columns and stays bare.
-/

import SqlCompose.Text.Quoted

namespace SqlCompose.Identifier

/-- The words that are never written bare as a name. -/
def reserved : List String :=
  ["all", "and", "any", "as", "asc", "between", "by", "case", "check", "column", "default",
   "desc", "distinct", "else", "end", "false", "from", "group", "groups", "in", "is", "limit",
   "not", "null", "offset", "on", "or", "order", "over", "partition", "primary", "range",
   "references", "rows", "select", "table", "then", "true", "user", "when", "where", "window"]

/-- A character that may begin a bare name. -/
def isStart (c : Char) : Bool :=
  c.isLower || c == '_'

/-- A character that may continue a bare name. -/
def isContinuation (c : Char) : Bool :=
  c.isLower || c.isDigit || c == '_'

/-- Whether the word has the shape of a bare name. -/
def isPlain : List Char → Bool
  | [] => false
  | c :: cs => isStart c && cs.all isContinuation

/-- One name, in double quotes unless it may stand bare. -/
def quote (name : String) : String :=
  if isPlain name.toList && !reserved.contains name then name else Text.enclose '"' name

/-- The parts of a text between the occurrences of a separator.  There is always one. -/
def parts (separator : Char) : List Char → List (List Char)
  | [] => [[]]
  | c :: cs =>
    if c = separator then [] :: parts separator cs
    else
      match parts separator cs with
      | [] => [[c]]
      | part :: rest => (c :: part) :: rest

/-- The parts of a qualified name. -/
def dotted (name : String) : List String :=
  (parts '.' name.toList).map String.ofList

/-- The part of a qualified name that names the column. -/
def lastPart (name : String) : String :=
  (dotted name).getLast?.getD name

/-- One part of a qualified name. -/
def quotePart (part : String) : String :=
  if part = "*" then part else quote part

/-- A qualified name, each part quoted on its own. -/
def quoteQualified (name : String) : String :=
  ".".intercalate ((dotted name).map quotePart)

end SqlCompose.Identifier
