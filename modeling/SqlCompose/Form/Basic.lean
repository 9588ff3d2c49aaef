/-
# Forms

The form of a value is how it is made up: the name of its case and its fields, down to
texts and numbers.  Both ways of showing a value are taken from its form: the JSON
document under which it is stored, and the description for a person.

In a document a case without fields is its name, any other case is an object whose one
key is its name, and a field that is absent is null.
-/

import SqlCompose.Json.Basic

namespace SqlCompose

open Decimal (Binary64)

/-- How a value is made up. -/
inductive Form where
  | bool (value : Bool)
  | int (value : Int)
  | float (value : Binary64)
  | word (text : String)
  /-- A day, a moment or an identifier by its text, which is described without quotes. -/
  | bare (text : String)
  | document (value : Json)
  | absent
  | present (form : Form)
  | list (items : List Form)
  | pair (first second : Form)
  /-- A case without fields. -/
  | case (name : String)
  /-- A case whose fields have no names. -/
  | tagged (name : String) (fields : List Form)
  /-- A case whose fields have names. -/
  | variant (name : String) (fields : List (String × Form))
  /-- A value that has one case only. -/
  | record (name : String) (fields : List (String × Form))
  /-- A value of which only some fields are shown. -/
  | partially (name : String) (fields : List (String × Form))

namespace Form

/-- The content of a case with some unnamed fields: the one, or a list of all. -/
def content : List Json → Json
  | [single] => single
  | fields => .array fields

mutual

/-- The document under which a value is stored. -/
def toJson : Form → Json
  | .bool b => .bool b
  | .int i => .int i
  | .float x => .ofFloat x
  | .word text => .string text
  | .bare text => .string text
  | .document j => j
  | .absent => .null
  | .present form => toJson form
  | .list items => .array (itemsToJson items)
  | .pair first second => .array [toJson first, toJson second]
  | .case name => .string name
  | .tagged name fields => .object [(name, content (itemsToJson fields))]
  | .variant name fields => .object [(name, .ofFields (fieldsToJson fields))]
  | .record _ fields => .ofFields (fieldsToJson fields)
  | .partially _ fields => .ofFields (fieldsToJson fields)

/-- The documents of some forms. -/
def itemsToJson : List Form → List Json
  | [] => []
  | form :: rest => toJson form :: itemsToJson rest

/-- The documents of named forms. -/
def fieldsToJson : List (String × Form) → List (String × Json)
  | [] => []
  | (name, form) :: rest => (name, toJson form) :: fieldsToJson rest

end

end Form

end SqlCompose
