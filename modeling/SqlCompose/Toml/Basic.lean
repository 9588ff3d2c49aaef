/-
# TOML documents

A document is a table of values.  While it is read a table also knows how it came
about, because that decides whether a later line may still add to it: a table that a
header names may be named by no second header, one made by dotted keys only grows by
dotted keys, and a value is never added to.

A record may be written in two ways, as a table with its keys or as an array in which
every field has its place.  A name that stands for itself may be written as a string or
as the one key of a table that holds nothing.
-/

import SqlCompose.Decimal.Binary64

namespace SqlCompose.Toml

open Decimal (Binary64)

/-- A value of a document.  Of moments only the text is kept. -/
inductive Value where
  | string (text : String)
  | integer (value : Int)
  | float (value : Binary64)
  | boolean (value : Bool)
  | moment (text : String)
  | array (items : List Value)
  | table (fields : List (String × Value))

/-- How a table came about. -/
inductive Origin where
  /-- On the way to the table of a header. -/
  | implied
  | header
  | dotted
  deriving DecidableEq

/-- A part of a document that is being read. -/
inductive Node where
  | value (value : Value)
  | table (origin : Origin) (fields : List (String × Node))
  /-- An array of tables, of which the last may still grow. -/
  | tables (items : List (List (String × Node)))

/-- The fields of a table that is being read. -/
abbrev Fields := List (String × Node)

namespace Fields

/-- Sets a field, in its place if there is one of that key. -/
def set (key : String) (node : Node) : Fields → Fields
  | [] => [(key, node)]
  | (k, n) :: rest => if k = key then (key, node) :: rest else (k, n) :: set key node rest

/-- The fields below a step of the path of a header, changed by `change`.  A missing
table is implied, and of an array of tables the last one counts. -/
def enter (key : String) (change : Fields → Option Fields) (fields : Fields) : Option Fields :=
  match fields.lookup key with
  | none => (change []).map fun below => set key (.table .implied below) fields
  | some (.table origin below) =>
    (change below).map fun below => set key (.table origin below) fields
  | some (.tables items) =>
    match items.getLast? with
    | some below =>
      (change below).map fun below => set key (.tables (items.dropLast ++ [below])) fields
    | none => none
  | some (.value _) => none

/-- Changes the fields at the end of the path of a header. -/
def descend (change : Fields → Option Fields) : List String → Fields → Option Fields
  | [] => change
  | key :: path => enter key (descend change path)

/-- Declares the table that a header names. -/
def declare (key : String) (fields : Fields) : Option Fields :=
  match fields.lookup key with
  | none => some (set key (.table .header []) fields)
  | some (.table .implied below) => some (set key (.table .header below) fields)
  | some _ => none

/-- Appends a table to the array of tables that a header names. -/
def append (key : String) (fields : Fields) : Option Fields :=
  match fields.lookup key with
  | none => some (set key (.tables [[]]) fields)
  | some (.tables items) => some (set key (.tables (items ++ [[]])) fields)
  | some _ => none

/-- Adds a value below a dotted key.  The key may lead through tables that headers only
imply and into the last of an array of tables, but the table that takes the value must have
come about by dotted keys, unless the key has no dots. -/
def assign (value : Value) : List String → Fields → Option Fields
  | [], _ => none
  | [key], fields =>
    match fields.lookup key with
    | none => some (set key (.value value) fields)
    | some _ => none
  | key :: path, fields =>
    match fields.lookup key, path with
    | none, _ => (assign value path []).map fun below => set key (.table .dotted below) fields
    | some (.table .dotted below), _ =>
      (assign value path below).map fun below => set key (.table .dotted below) fields
    | some (.table .implied below), _ :: _ :: _ =>
      (assign value path below).map fun below => set key (.table .implied below) fields
    | some (.tables items), _ :: _ :: _ =>
      match items.getLast? with
      | some below =>
        (assign value path below).map fun below =>
          set key (.tables (items.dropLast ++ [below])) fields
      | none => none
    | some _, _ => none

end Fields

mutual

/-- The value of a part of a document that was read. -/
def Node.finish : Node → Value
  | .value value => value
  | .table _ fields => .table (finishFields fields)
  | .tables items => .array (finishTables items)

/-- The fields of a table that was read. -/
def finishFields : List (String × Node) → List (String × Value)
  | [] => []
  | (key, node) :: rest => (key, node.finish) :: finishFields rest

/-- The tables of an array that was read. -/
def finishTables : List (List (String × Node)) → List Value
  | [] => []
  | fields :: rest => .table (finishFields fields) :: finishTables rest

end

namespace Value

/-- A field of a table. -/
def field? (key : String) : Value → Option Value
  | .table fields => fields.lookup key
  | _ => none

/-- A field of a record: of a table by its key, of an array by its place. -/
def member? (key : String) (place : Nat) : Value → Option Value
  | .table fields => fields.lookup key
  | .array items => items[place]?
  | _ => none

/-- A name that stands for itself: a string, or the only key of a table whose value is an
empty table or an empty array. -/
def name? : Value → Option String
  | .string name | .table [(name, .table [])] | .table [(name, .array [])] => some name
  | _ => none

/-- The text of a string. -/
def string? : Value → Option String
  | .string text => some text
  | _ => none

/-- The value of a whole number. -/
def integer? : Value → Option Int
  | .integer i => some i
  | _ => none

/-- The value of a truth value. -/
def boolean? : Value → Option Bool
  | .boolean b => some b
  | _ => none

/-- The items of an array. -/
def array? : Value → Option (List Value)
  | .array items => some items
  | _ => none

end Value

end SqlCompose.Toml
