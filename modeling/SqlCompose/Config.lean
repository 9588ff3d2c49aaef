/-
# Configurations

Which database is used, how many connections are kept, how executed statements are
told of, and which tables are declared.  A configuration is built by hand or read from
a TOML document; a setting of the environment may name another database.
-/

import SqlCompose.Log
import SqlCompose.Schema.Basic
import SqlCompose.Toml.Reader

namespace SqlCompose

/-- A configuration. -/
structure Config where
  databaseUrl : Option String := none
  maxConnections : UInt32 := 5
  /-- Whether executed statements are told of as information and not only in detail. -/
  statementLog : Bool := false
  tables : List Schema := []

namespace Config

/-- The setting of the environment that names the database. -/
def databaseSetting : String :=
  "CRITQL_DATABASE_URL"

/-- The declaration of a column: a record of its name and its type. -/
def readColumn (value : Toml.Value) : Option Column := do
  let name ← (← value.member? "name" 0).string?
  let type ← ColumnType.ofName? (← (← value.member? "type" 1).name?)
  return ⟨name, type⟩

/-- The declaration of a table: a record of its name and its columns. -/
def readTable (value : Toml.Value) : Option Schema := do
  let name ← (← value.member? "name" 0).string?
  let columns ← (← (← value.member? "columns" 1).array?).mapM readColumn
  return ⟨name, columns⟩

/-- The value of a key that may be absent. -/
def readOptional {α : Type} (document : Toml.Value) (key : String) (default : α)
    (read : Toml.Value → Option α) : Option α :=
  match document.field? key with
  | some value => read value
  | none => some default

/-- A number of connections. -/
def readCount (value : Toml.Value) : Option UInt32 := do
  let n ← value.integer?
  if 0 ≤ n ∧ n < UInt32.size then some (UInt32.ofNat n.toNat) else none

/-- The configuration of a document.  Keys that mean nothing here are passed over. -/
def ofDocument? (document : Toml.Value) : Option Config := do
  let databaseUrl ← readOptional document "database_url" none fun value => value.string?.map some
  let maxConnections ← readOptional document "max_connections" 5 readCount
  let statementLog ← readOptional document "statement_log" false Toml.Value.boolean?
  let tables ← readOptional document "tables" [] fun value => do
    (← value.array?).mapM readTable
  return { databaseUrl, maxConnections, statementLog, tables }

/-- Reads a configuration. -/
def read (text : String) : Except Error Config :=
  match (Toml.Reader.document? text).bind ofDocument? with
  | some config => .ok config
  | none => .error (.config .malformed)

/-- Reads a configuration from the text of a file, which may not exist. -/
def readContent (content : Option String) : Logged Config := do
  Logged.event .debug "loading config"
  match content with
  | some text => Logged.ofExcept (read text)
  | none => Logged.ofExcept (.error .fileMissing)

/-- The configuration with the database that the environment names, if it names one. -/
def withSetting (config : Config) (setting : Option String) : Config :=
  match setting with
  | some url => if url = "" then config else { config with databaseUrl := some url }
  | none => config

/-- The configuration of a file, or the default one if there is no file, with the setting
of the environment. -/
def load (content : Option String) (setting : Option String) : Logged Config := do
  match content with
  | some text => return (← readContent (some text)).withSetting setting
  | none => return ({} : Config).withSetting setting

/-- The database of the configuration, which must be named. -/
def requireDatabase (config : Config) : Except Error String :=
  match config.databaseUrl with
  | some url => .ok url
  | none => .error (.config (.noDatabase databaseSetting))

/-- The declaration of a table, which must exist. -/
def requireTable (config : Config) (name : String) : Except Error Schema :=
  match config.tables.find? (·.name = name) with
  | some table => .ok table
  | none => .error (.config (.unknownTable name))

end Config

end SqlCompose
