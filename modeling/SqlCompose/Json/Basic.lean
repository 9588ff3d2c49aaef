/-
# JSON documents

A document as a tree.  A number is a whole number or a binary64 number and keeps
its kind: `1` and `1.0` are two documents.  The fields of an object stand in the
order of their keys and no key occurs twice; `ofFields` and `insert` see to that.
-/

import SqlCompose.Decimal.Binary64

namespace SqlCompose

open Decimal (Binary64)

/-- A number of a JSON document. -/
inductive JsonNumber where
  | int (value : Int)
  | float (value : Binary64)
  deriving DecidableEq

/-- A JSON document. -/
inductive Json where
  | null
  | bool (value : Bool)
  | number (value : JsonNumber)
  | string (value : String)
  | array (items : List Json)
  | object (fields : List (String × Json))

namespace Json

/-- A whole number. -/
def int (i : Int) : Json :=
  .number (.int i)

/-- A binary64 number; null when it is not finite. -/
def ofFloat (x : Binary64) : Json :=
  if x.isFinite then .number (.float x) else .null

/-- Sets a field, keeping the keys in order.  A field of the same key is replaced. -/
def insert (key : String) (value : Json) : List (String × Json) → List (String × Json)
  | [] => [(key, value)]
  | (k, v) :: rest =>
    if key < k then (key, value) :: (k, v) :: rest
    else if key = k then (key, value) :: rest
    else (k, v) :: insert key value rest

/-- The object with the given fields; of two fields with one key the last counts. -/
def ofFields (fields : List (String × Json)) : Json :=
  .object (fields.foldl (fun sorted field => insert field.1 field.2 sorted) [])

/-- A field of an object. -/
def field? (key : String) : Json → Option Json
  | .object fields => fields.lookup key
  | _ => none

mutual

/-- How deep arrays and objects are nested in a document, itself included. -/
def depth : Json → Nat
  | .array items => depthOfItems items + 1
  | .object fields => depthOfFields fields + 1
  | _ => 1

/-- The depth of the deepest item. -/
def depthOfItems : List Json → Nat
  | [] => 0
  | item :: rest => max (depth item) (depthOfItems rest)

/-- The depth of the deepest field. -/
def depthOfFields : List (String × Json) → Nat
  | [] => 0
  | (_, value) :: rest => max (depth value) (depthOfFields rest)

end

end Json

end SqlCompose
