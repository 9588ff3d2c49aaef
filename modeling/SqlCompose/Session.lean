/-
# Sessions

A session executes statements on one table.  A statement is compiled and told of, its
values are bound, and it is sent to the server; the rows of the answer become records.

The server is an argument: connecting asks whether it can be reached under an address,
and an exchange is given what it replies.
-/

import SqlCompose.Config
import SqlCompose.Reply.Record
import SqlCompose.Statement

namespace SqlCompose

open Decimal (Binary64)

/-- A value as it is bound to a statement. -/
inductive Bound where
  | null
  | bool (value : Bool)
  | int8 (value : Int64)
  | float8 (value : Binary64)
  | text (value : String)
  /-- A document by its text. -/
  | jsonb (text : String)
  /-- A day by its number since 2000-01-01. -/
  | date (days : Int)
  /-- A moment by its microseconds since 2000-01-01 00:00:00. -/
  | timestamp (microseconds : Int)
  | uuid (value : Uuid)
  deriving DecidableEq

namespace Value

/-- Binds a value.  A list has to be written item by item before. -/
def bound : Value → Except Error Bound
  | .null => .ok .null
  | .bool b => .ok (.bool b)
  | .int n => .ok (.int8 n)
  | .float x => .ok (.float8 x)
  | .text s => .ok (.text s)
  | .json document => .ok (.jsonb document.text)
  | .date d => .ok (.date d.dayNumber)
  | .timestamp t => .ok (.timestamp t.microseconds)
  | .uuid u => .ok (.uuid u)
  | .array _ => .error (.execution "array parameters must be expanded before binding")

end Value

/-- The values of a statement as they are bound to it. -/
def Query.bind (query : Query) : Except Error (List Bound) :=
  query.params.mapM Value.bound

/-- A session on one table. -/
structure Session where
  schema : Schema
  /-- Whether executed statements are told of as information and not only in detail. -/
  statementLog : Bool := false

/-- What a statement yields. -/
inductive Yield where
  | records (records : List Record)
  /-- The number of rows that were changed. -/
  | affected (count : Nat)

/-- A statement that was sent, and the values bound to it. -/
structure Sent where
  sql : String
  bound : List Bound

/-- One statement from its compilation to its yield. -/
structure Exchange where
  /-- What the server received; nothing if the statement did not get so far. -/
  sent : Option Sent
  result : Logged Yield

namespace Session

/-- Connects to the database of a configuration.  `reach` tells whether a server answers
at an address. -/
def connect (config : Config) (reach : String → Except String Unit) (schema : Schema) :
    Logged Session := do
  let url ← Logged.ofExcept config.requireDatabase
  match reach url with
  | .error text => Logged.ofExcept (.error (.connection text))
  | .ok () => pure ()
  Logged.event .info "connected"
  return ⟨schema, config.statementLog⟩

/-- The event of a statement that is sent. -/
def executingEvent (session : Session) : Event :=
  ⟨if session.statementLog then .info else .debug, "executing"⟩

/-- The event of a statement that the server accepted. -/
def acceptedEvent : Statement → Event
  | .select .. => ⟨.info, "select_where"⟩
  | .update .. => ⟨.info, "update_where"⟩
  | .delete .. => ⟨.info, "delete_where"⟩

/-- What a statement yields by the reply of the server. -/
def yield (s : Statement) (reply : Reply) : Logged Yield := do
  match reply with
  | .refused text =>
    Logged.ofExcept (.error (.execution ("error returned from database: " ++ text)))
  | .rows rows =>
    Logged.past [acceptedEvent s]
    match s with
    | .update .. => return .affected rows.length
    | _ => return .records (← Record.ofRows rows)
  | .affected count =>
    Logged.past [acceptedEvent s]
    match s with
    | .update .. => return .affected count
    | _ => return .records []

/-- Executes a statement, given what the server replies. -/
def execute (session : Session) (s : Statement) (reply : Reply) : Exchange :=
  let compiled := s.compileLogged session.schema
  match compiled.outcome with
  | .error e => ⟨none, ⟨compiled.events, .error e⟩⟩
  | .ok query =>
    let told := compiled.events ++ [session.executingEvent]
    match query.bind with
    | .error e => ⟨none, ⟨told, .error e⟩⟩
    | .ok bound => ⟨some ⟨query.sql, bound⟩, Logged.past told >>= fun () => yield s reply⟩

end Session

end SqlCompose
