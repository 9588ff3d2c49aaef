/-
# Records of a reply

A row of a reply becomes a record of its columns' documents, keyed by the names of the
columns.  Of two columns with one name the last one counts.  The cells are decoded from
left to right and the rows from first to last; the first cell that cannot be decoded
refuses the whole reply.
-/

import SqlCompose.Log
import SqlCompose.Reply.Cell

namespace SqlCompose

/-- The documents of a row by the names of its columns, in the order of the names. -/
abbrev Record := List (String × Json)

/-- What a server answers to a statement. -/
inductive Reply where
  | rows (rows : List (List Cell))
  | affected (count : Nat)
  | refused (text : String)

namespace Cell

/-- The document of the cell at an index. -/
def decodeAt (index : Nat) (cell : Cell) : Logged Json := do
  if cell.type.lacksDecoder then Logged.event .debug "no decoder, trying text"
  match cell.decode with
  | .ok document => return document
  | .error fault => Logged.ofExcept (.error (.decoding index fault))

end Cell

namespace Record

/-- Adds the cells from an index on to a record. -/
def addCells (record : Record) (index : Nat) : List Cell → Logged Record
  | [] => pure record
  | cell :: rest => do
    let document ← cell.decodeAt index
    addCells (Json.insert cell.column document record) (index + 1) rest

/-- The record of a row. -/
def ofRow (row : List Cell) : Logged Record :=
  addCells [] 0 row

/-- The records of some rows. -/
def ofRows : List (List Cell) → Logged (List Record)
  | [] => pure []
  | row :: rest => do
    let record ← ofRow row
    let records ← ofRows rest
    return record :: records

end Record

end SqlCompose
