/-
# The columns that records keep

A record has one document for each name, and a server may send a row with several columns of one
name: two calls of one function without names of their own are enough.  Of such columns the
record keeps the last one (`Record.KeepsLast`).  Nothing else is lost: a record has an entry for every
name in the row, and it keeps all columns exactly if no two of them share a name
(`Record.keepsAll_iff`).

The keys of a record are in order, each once, so that their number is the number of names.  That is
an invariant of adding cells; what stands under a name is known from the rows themselves.
-/

import Mathlib.Data.List.Dedup
import SqlCompose.Proofs.Acceptance
import SqlCompose.Proofs.DecodedRows
import SqlCompose.Proofs.KeyOrder

namespace SqlCompose

/-! ## The names in a record -/

namespace Json

theorem InByteOrder.nodup {keys : List String} (ordered : InByteOrder keys) : keys.Nodup := by
  refine List.Pairwise.imp ?_ ordered
  intro key next before same
  rw [Text.bytes_lt_iff, same] at before
  exact lt_irrefl next before

end Json

namespace Record

variable {record result : Record} {row : List Cell}

/-- The names of the fields of a record. -/
def names (record : Record) : List String :=
  record.map Prod.fst

theorem exists_lookup_iff {name : String} :
    (∃ document, record.lookup name = some document) ↔ name ∈ record.names := by
  induction record with
  | nil => simp [names]
  | cons field rest ih =>
      obtain ⟨other, content⟩ := field
      rw [Json.lookup_cons_eq, names, List.map_cons, List.mem_cons]
      by_cases same : name = other
      · simp [same]
      · rw [if_neg same, or_iff_right same]
        exact ih

/-- Adding cells keeps the names in order, and adds those of the cells. -/
theorem names_addCells {index : Nat} (added : (addCells record index row).outcome = .ok result)
    (ordered : Json.InByteOrder record.names) :
    Json.InByteOrder result.names ∧
      ∀ name, name ∈ result.names ↔ name ∈ record.names ∨ name ∈ row.map Cell.column := by
  induction row generalizing record index with
  | nil =>
      obtain rfl := Except.ok.inj added
      exact ⟨ordered, fun name => by simp⟩
  | cons cell rest ih =>
      cases decoded : cell.decode with
      | error fault =>
          rw [addCells_cons_of_error decoded] at added
          cases added
      | ok document =>
          rw [addCells_cons_of_ok decoded] at added
          obtain ⟨kept, isName⟩ := ih added (Json.inByteOrder_insert cell.column document ordered)
          refine ⟨kept, fun name => ?_⟩
          have inserted := Json.mem_keys_insert cell.column document record name
          rw [isName, names, inserted, List.map_cons, List.mem_cons, or_assoc, or_left_comm]
          rfl

/-- The names of the record of a row are those of its columns, each once. -/
theorem names_ofRow (decoded : (ofRow row).outcome = .ok record) :
    record.names.Nodup ∧ ∀ name, name ∈ record.names ↔ name ∈ row.map Cell.column := by
  obtain ⟨ordered, isName⟩ := names_addCells decoded List.Pairwise.nil
  exact ⟨ordered.nodup, fun name => by simpa [names] using isName name⟩

/-! ## Records of rows -/

/-- Whether a record has one entry for each name in a row, with the document of the last column of
this name. -/
structure KeepsLast (row : List Cell) (record : Record) : Prop where
  names : ∀ name, (∃ document, record.lookup name = some document) ↔ name ∈ row.map Cell.column
  documents : ∀ cell : Cell, cell.IsLastIn row →
    ∃ document, cell.decode = .ok document ∧ record.lookup cell.column = some document
  size : record.length = (row.map Cell.column).dedup.length

/-- Whether a record has the document of every column of a row, and as many entries as the row has
columns. -/
structure KeepsAll (row : List Cell) (record : Record) : Prop where
  documents : ∀ cell ∈ row,
    ∃ document, cell.decode = .ok document ∧ record.lookup cell.column = some document
  size : record.length = row.length

theorem keepsLast_ofRow (decoded : (ofRow row).outcome = .ok record) : KeepsLast row record where
  names := by
    intro name
    rw [exists_lookup_iff, (names_ofRow decoded).2]
  documents := by
    intro cell last
    obtain ⟨document, isDecoded⟩ := exists_ofRow_iff.mp ⟨record, decoded⟩ cell last.mem
    exact ⟨document, isDecoded, (lookup_column decoded last).mpr isDecoded⟩
  size := by
    obtain ⟨once, isName⟩ := names_ofRow decoded
    have same : record.names.Perm (row.map Cell.column).dedup := by
      rw [List.perm_ext_iff_of_nodup once (List.nodup_dedup _)]
      intro name
      rw [isName, List.mem_dedup]
    simpa [names] using same.length_eq

end Record

/-- In a row without repeated names every column is the last one of its name. -/
theorem Cell.isLastIn_of_nodup {cell : Cell} {row : List Cell} (inside : cell ∈ row)
    (once : (row.map Cell.column).Nodup) : cell.IsLastIn row := by
  obtain ⟨before, after, rfl⟩ := List.append_of_mem inside
  refine ⟨before, after, rfl, fun other isAfter same => ?_⟩
  rw [List.map_append, List.map_cons] at once
  have noOther := (List.nodup_cons.mp once.of_append_right).1
  exact noOther (same ▸ List.mem_map_of_mem isAfter)

namespace Record

variable {record : Record} {row : List Cell}

/-- A record keeps all columns of its row exactly if no two of them share a name. -/
theorem keepsAll_iff (kept : KeepsLast row record) :
    KeepsAll row record ↔ (row.map Cell.column).Nodup := by
  constructor
  · intro all
    have short : (row.map Cell.column).dedup.length = (row.map Cell.column).length := by
      rw [← kept.size, all.size, List.length_map]
    rw [← List.dedup_eq_self]
    exact (List.dedup_sublist _).eq_of_length short
  · intro once
    refine ⟨fun cell inside => kept.documents cell (Cell.isLastIn_of_nodup inside once), ?_⟩
    rw [kept.size, List.dedup_eq_self.mpr once, List.length_map]

end Record

/-! ## Replies -/

/-- The rows that a server sends with a reply. -/
def Reply.sentRows : Reply → List (List Cell)
  | .rows sent => sent
  | .affected _ | .refused _ => []

namespace Session

variable {s : Statement} {session : Session} {reply : Reply}

/-- A statement that is compiled yields what the reply makes of it. -/
theorem outcome_execute (session : Session) (s : Statement) (reply : Reply) :
    (session.execute s reply).result.outcome =
      s.compile session.schema >>= fun _ => (yield s reply).outcome := by
  cases compiled : s.compile session.schema with
  | error e =>
      have refused : (s.compileLogged session.schema).outcome = .error e := by
        rw [Statement.compileLogged, compiled]
        rfl
      simp only [execute, refused]
      rfl
  | ok query =>
      have outcome : (s.compileLogged session.schema).outcome = .ok query := by
        rw [Statement.compileLogged, compiled]
        rfl
      obtain ⟨bounds, bound⟩ := Statement.bind_of_compile compiled
      simp only [execute, outcome, bound]
      rfl

/-- What a reply yields are the records of its rows, one for each in their order. -/
theorem yield_eq_ok_iff (records : s.YieldsRecords) {y : Yield} :
    (yield s reply).outcome = .ok y ↔ (∀ text, reply ≠ .refused text) ∧
      ∃ found, (Record.ofRows reply.sentRows).outcome = .ok found ∧ y = .records found := by
  cases reply with
  | rows rows =>
      rw [outcome_yield records, map_eq_ok_iff]
      simp [Reply.sentRows, eq_comm]
  | affected count =>
      have none : (yield s (.affected count)).outcome = .ok (.records []) := by
        cases s with
        | update => exact records.elim
        | select | delete => rfl
      have empty : (Record.ofRows []).outcome = .ok [] := rfl
      simp [none, Reply.sentRows, empty, eq_comm]
  | refused text =>
      have refused : ∃ e, (yield s (.refused text)).outcome = .error e := ⟨_, rfl⟩
      obtain ⟨e, refused⟩ := refused
      simp [refused]

/-- A statement that yields records is compiled and accepted, and the rows become records. -/
theorem execute_eq_ok_iff (records : s.YieldsRecords) {y : Yield} :
    (session.execute s reply).result.outcome = .ok y ↔
      (∃ query, s.compile session.schema = .ok query) ∧ (∀ text, reply ≠ .refused text) ∧
        ∃ found, List.Forall₂ (fun row record => (Record.ofRow row).outcome = .ok record)
          reply.sentRows found ∧ y = .records found := by
  rw [outcome_execute, bind_eq_ok_iff, exists_and_right, yield_eq_ok_iff records]
  simp only [Record.outcome_ofRows, mapM_eq_ok_iff]

/-- A statement that yields records gives them exactly if it is compiled, the server accepts it and
every cell of every row can be decoded.  Then it gives one record for each row, in the order of the
rows.  A record has an entry for every name in its row and no other entries, and it has the
document of the last column of each name; it has those of all columns, and as many entries as there
are columns, exactly if no two columns of the row share a name. -/
theorem columns_of_records (records : s.YieldsRecords) (session : Session) (reply : Reply) :
    ((∃ y, (session.execute s reply).result.outcome = .ok y) ↔
      (∃ query, s.compile session.schema = .ok query) ∧ (∀ text, reply ≠ .refused text) ∧
        ∀ row ∈ reply.sentRows, ∀ cell ∈ row, ∃ document, cell.decode = .ok document) ∧
    ∀ y, (session.execute s reply).result.outcome = .ok y →
      ∃ found, y = .records found ∧
        List.Forall₂ (fun row record => Record.KeepsLast row record ∧
          (Record.KeepsAll row record ↔ (row.map Cell.column).Nodup)) reply.sentRows found := by
  constructor
  · have decoded : (∃ found, List.Forall₂ (fun row record => (Record.ofRow row).outcome = .ok record)
        reply.sentRows found) ↔
          ∀ row ∈ reply.sentRows, ∀ cell ∈ row, ∃ document, cell.decode = .ok document := by
      simp only [← mapM_eq_ok_iff, exists_mapM_iff, Record.exists_ofRow_iff]
    rw [← decoded]
    simp only [execute_eq_ok_iff records]
    constructor
    · rintro ⟨y, compiled, accepted, found, each, -⟩
      exact ⟨compiled, accepted, found, each⟩
    · rintro ⟨compiled, accepted, found, each⟩
      exact ⟨_, compiled, accepted, found, each, rfl⟩
  · intro y given
    obtain ⟨-, -, found, each, rfl⟩ := (execute_eq_ok_iff records).mp given
    refine ⟨found, rfl, each.imp fun row record decoded => ?_⟩
    have kept := Record.keepsLast_ofRow decoded
    exact ⟨kept, Record.keepsAll_iff kept⟩

/-- The names and the numbers of two employees: each record has both. -/
theorem columns_of_employees :
    let session : Session := ⟨⟨"employees", [⟨"id", .bigint⟩, ⟨"name", .text⟩]⟩, false⟩
    let s : Statement := .select [.column "name", .column "id"] ⟨[]⟩
    let row (name : String) (id : Int64) : List Cell :=
      [⟨"name", .scalar .text, some name⟩, ⟨"id", .scalar .int8, some id⟩]
    let rows := [row "Ann" 7, row "Bo" 4]
    s.YieldsRecords ∧ ∃ found,
      (session.execute s (.rows rows)).result.outcome = .ok (.records found) ∧
        List.Forall₂ Record.KeepsAll rows found := by
  intro session s row rows
  have records : s.YieldsRecords := trivial
  obtain ⟨given, kept⟩ := columns_of_records records session (.rows rows)
  have decoded : ∀ row ∈ rows, ∀ cell ∈ row, ∃ document, cell.decode = .ok document := by
    simp only [rows, row, List.forall_mem_cons, List.not_mem_nil, false_imp_iff, implies_true,
      and_true]
    exact ⟨⟨⟨_, rfl⟩, ⟨_, rfl⟩⟩, ⟨⟨_, rfl⟩, ⟨_, rfl⟩⟩⟩
  obtain ⟨y, yields⟩ := given.mpr ⟨⟨_, rfl⟩, nofun, decoded⟩
  obtain ⟨found, rfl, each⟩ := kept y yields
  obtain _ | ⟨⟨-, first⟩, _ | ⟨⟨-, second⟩, _ | _⟩⟩ := each
  have once : ["name", "id"].Nodup := by decide
  exact ⟨records, _, yields, .cons (first.mpr once) (.cons (second.mpr once) .nil)⟩

/-- Two calls of one function have columns of one name, and the record keeps the second one only. -/
theorem second_upper_hides_first :
    let session : Session := ⟨⟨"people", [⟨"name", .text⟩, ⟨"city", .text⟩]⟩, false⟩
    let s : Statement := .select
      [.expr (.call "UPPER" [.column "name"]), .expr (.call "UPPER" [.column "city"])] ⟨[]⟩
    let row : List Cell :=
      [⟨"upper", .scalar .text, some "ANN"⟩, ⟨"upper", .scalar .text, some "BERN"⟩]
    let record : Record := [("upper", .string "BERN")]
    (session.execute s (.rows [row])).result.outcome = .ok (.records [record]) ∧
      ¬ Record.KeepsAll row record := by
  intro session s row record
  exact ⟨rfl, fun all => absurd all.size (by decide)⟩

end Session

end SqlCompose
