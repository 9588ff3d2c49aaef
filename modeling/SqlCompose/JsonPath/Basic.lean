/-
# JSON paths

A path leads from a JSON document to one of its parts, each step into a field of
an object or an item of an array.  A path is only described here and never followed
in a document; it becomes a chain of arrows in a statement.
-/

import SqlCompose.Decimal.Numeral

namespace SqlCompose

open Decimal (Numeral.text)

/-- One step of a path.  A negative index counts from the end. -/
inductive PathSegment where
  | key (name : String)
  | index (position : Int64)
  deriving DecidableEq

/-- A path into a JSON document. -/
structure JsonPath where
  segments : List PathSegment
  deriving DecidableEq

namespace PathSegment

/-- The text of a step. -/
def text : PathSegment → String
  | .key name => name
  | .index i => "[" ++ Numeral.text i.toInt ++ "]"

/-- The text of a step behind another. -/
def tailText : PathSegment → String
  | .key name => "." ++ name
  | .index i => text (.index i)

end PathSegment

namespace JsonPath

/-- The document itself. -/
def root : JsonPath :=
  ⟨[]⟩

/-- The path that goes on into a field. -/
def key (path : JsonPath) (name : String) : JsonPath :=
  ⟨path.segments ++ [.key name]⟩

/-- The path that goes on into an item. -/
def index (path : JsonPath) (position : Int64) : JsonPath :=
  ⟨path.segments ++ [.index position]⟩

/-- Whether the path stays at the document. -/
def isRoot (path : JsonPath) : Bool :=
  path.segments.isEmpty

/-- The text of a path: a dot before each field but the first, and indexes in brackets. -/
def text (path : JsonPath) : String :=
  match path.segments with
  | [] => ""
  | first :: rest => rest.foldl (fun text segment => text ++ segment.tailText) first.text

end JsonPath

end SqlCompose
