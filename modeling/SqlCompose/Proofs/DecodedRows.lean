/-
# Rows of a reply

A row is decoded cell by cell into a record.  It is refused for the first cell that cannot be decoded,
and the refusal names the place of this cell (`Record.ofRow_eq_error_iff`).  A record that is given has
for each name the document of the last cell of that name (`Record.lookup_ofRow`).  A reply is decoded
row by row and is refused for its first row that is (`Record.outcome_ofRows`).
-/

import SqlCompose.Proofs.Refusals
import SqlCompose.Proofs.StoredValues
import SqlCompose.Session

namespace SqlCompose

namespace Logged

variable {α β : Type}

theorem outcome_bind (step : Logged α) (next : α → Logged β) :
    (step >>= next).outcome = step.outcome >>= fun a => (next a).outcome := by
  simp only [bind, Except.bind]
  cases step.outcome <;> rfl

end Logged

open Logged (outcome_bind)

/-! ## Cells of a row -/

namespace Cell

/-- The place of a cell is named in its refusal, and events do not matter. -/
theorem outcome_decodeAt (index : Nat) (cell : Cell) :
    (cell.decodeAt index).outcome = cell.decode.mapError (.decoding index) := by
  unfold decodeAt
  cases cell.decode <;> cases cell.type.lacksDecoder <;> rfl

/-- Whether a cell is the last one of its column in a row. -/
def IsLastIn (cell : Cell) (row : List Cell) : Prop :=
  ∃ before after, row = before ++ cell :: after ∧ ∀ other ∈ after, other.column ≠ cell.column

theorem IsLastIn.mem {cell : Cell} {row : List Cell} (last : cell.IsLastIn row) : cell ∈ row := by
  obtain ⟨before, after, rfl, -⟩ := last
  exact List.mem_append_right before List.mem_cons_self

theorem not_isLastIn_nil (cell : Cell) : ¬ cell.IsLastIn [] := by
  rintro ⟨before, after, split, -⟩
  exact List.append_ne_nil_of_right_ne_nil before (List.cons_ne_nil cell after) split.symm

theorem isLastIn_cons_iff {cell first : Cell} {rest : List Cell} :
    cell.IsLastIn (first :: rest) ↔
      (cell = first ∧ ∀ other ∈ rest, other.column ≠ cell.column) ∨ cell.IsLastIn rest := by
  constructor
  · rintro ⟨before, after, split, others⟩
    cases before with
    | nil =>
        obtain ⟨rfl, rfl⟩ := List.cons.inj split
        exact .inl ⟨rfl, others⟩
    | cons head before =>
        obtain ⟨rfl, rfl⟩ := List.cons.inj split
        exact .inr ⟨before, after, rfl, others⟩
  · rintro (⟨rfl, others⟩ | ⟨before, after, rfl, others⟩)
    · exact ⟨[], rest, rfl, others⟩
    · exact ⟨first :: before, after, rfl, others⟩

end Cell

/-! ## Records -/

namespace Record

variable {record result : Record} {index : Nat} {row : List Cell} {cell : Cell} {rest : List Cell}

theorem addCells_cons_of_error {fault : DecodingFault} (refused : cell.decode = .error fault) :
    (addCells record index (cell :: rest)).outcome = .error (.decoding index fault) := by
  rw [addCells, outcome_bind, Cell.outcome_decodeAt, refused]
  rfl

theorem addCells_cons_of_ok {document : Json} (decoded : cell.decode = .ok document) :
    (addCells record index (cell :: rest)).outcome =
      (addCells (Json.insert cell.column document record) (index + 1) rest).outcome := by
  rw [addCells, outcome_bind, Cell.outcome_decodeAt, decoded]
  rfl

/-- The first cell that cannot be decoded refuses those that are added. -/
theorem addCells_eq_error_iff {e : Error} :
    (addCells record index row).outcome = .error e ↔
      ∃ before cell after, row = before ++ cell :: after ∧
        (∀ other ∈ before, ∃ document, other.decode = .ok document) ∧
          ∃ fault, cell.decode = .error fault ∧ e = .decoding (index + before.length) fault := by
  induction row generalizing record index with
  | nil => simp [addCells, pure]
  | cons cell rest ih =>
      rw [exists_first_cons_iff (p := fun other : Cell => ∃ document, other.decode = .ok document)
        (q := fun place (here : Cell) => ∃ fault, here.decode = .error fault ∧
          e = .decoding (index + place) fault)]
      cases decoded : cell.decode with
      | error fault => simp [addCells_cons_of_error decoded, eq_comm]
      | ok document =>
          rw [addCells_cons_of_ok decoded, ih]
          simp only [Nat.add_assoc, Nat.add_comm 1]
          simp

/-- Cells are added exactly if all of them can be decoded. -/
theorem exists_addCells_iff :
    (∃ result, (addCells record index row).outcome = .ok result) ↔
      ∀ cell ∈ row, ∃ document, cell.decode = .ok document := by
  induction row generalizing record index with
  | nil => exact iff_of_true ⟨record, rfl⟩ (List.forall_mem_nil _)
  | cons cell rest ih =>
      rw [List.forall_mem_cons]
      cases decoded : cell.decode with
      | error fault =>
          rw [addCells_cons_of_error decoded]
          simp
      | ok document =>
          rw [addCells_cons_of_ok decoded, ih]
          simp

/-- Under a name stands the document of the last cell of this name, or what stood there before. -/
theorem lookup_addCells (added : (addCells record index row).outcome = .ok result)
    {name : String} {document : Json} :
    result.lookup name = some document ↔
      (∃ cell : Cell, cell.IsLastIn row ∧ cell.column = name ∧ cell.decode = .ok document) ∨
        (∀ cell ∈ row, cell.column ≠ name) ∧ record.lookup name = some document := by
  induction row generalizing record index with
  | nil =>
      obtain rfl := Except.ok.inj added
      simp [Cell.not_isLastIn_nil]
  | cons cell rest ih =>
      cases decoded : cell.decode with
      | error fault =>
          rw [addCells_cons_of_error decoded] at added
          cases added
      | ok own =>
          rw [addCells_cons_of_ok decoded] at added
          rw [ih added, Json.lookup_insert, Json.lookup_cons_eq, List.forall_mem_cons]
          simp only [Cell.isLastIn_cons_iff, or_and_right, exists_or, and_assoc, exists_eq_left,
            decoded]
          by_cases same : name = cell.column
          · subst same
            simp [or_comm]
          · simp [same, Ne.symm same]

/-! ## Rows -/

/-- A row is refused for its first cell that cannot be decoded, and the place of the cell is named. -/
theorem ofRow_eq_error_iff {e : Error} :
    (ofRow row).outcome = .error e ↔ ∃ before cell after, row = before ++ cell :: after ∧
      (∀ other ∈ before, ∃ document, other.decode = .ok document) ∧
        ∃ fault, cell.decode = .error fault ∧ e = .decoding before.length fault := by
  rw [ofRow, addCells_eq_error_iff]
  simp only [Nat.zero_add]

/-- A row becomes a record exactly if all its cells can be decoded. -/
theorem exists_ofRow_iff :
    (∃ record, (ofRow row).outcome = .ok record) ↔
      ∀ cell ∈ row, ∃ document, cell.decode = .ok document :=
  exists_addCells_iff

/-- Under the name of a column stands the document of the last cell of this name. -/
theorem lookup_ofRow (decoded : (ofRow row).outcome = .ok record) {name : String} {document : Json} :
    record.lookup name = some document ↔
      ∃ cell : Cell, cell.IsLastIn row ∧ cell.column = name ∧ cell.decode = .ok document := by
  rw [lookup_addCells decoded]
  simp

/-- The document of the last cell of a column is what stands for the column. -/
theorem lookup_column (decoded : (ofRow row).outcome = .ok record) (last : cell.IsLastIn row)
    {document : Json} : record.lookup cell.column = some document ↔ cell.decode = .ok document := by
  obtain ⟨own, isDecoded⟩ := exists_ofRow_iff.mp ⟨record, decoded⟩ cell last.mem
  have found : record.lookup cell.column = some own :=
    (lookup_ofRow decoded).mpr ⟨cell, last, rfl, isDecoded⟩
  rw [found, isDecoded, Option.some.injEq, Except.ok.injEq]

/-- The rows of a reply become records one after another. -/
theorem outcome_ofRows (rows : List (List Cell)) :
    (ofRows rows).outcome = rows.mapM fun row => (ofRow row).outcome := by
  induction rows with
  | nil => rfl
  | cons row rest ih =>
      rw [ofRows, List.mapM_cons, outcome_bind]
      congr 1
      funext record
      rw [outcome_bind, ih]
      rfl

end Record

/-! ## Replies -/

/-- Whether the rows of the reply to a statement become records; those of an update are counted. -/
def Statement.YieldsRecords : Statement → Prop
  | .update .. => False
  | _ => True

namespace Session

variable {s : Statement} {rows : List (List Cell)} {row : List Cell}

/-- A statement yields the records of the rows, if they become records. -/
theorem outcome_yield (records : s.YieldsRecords) :
    (yield s (.rows rows)).outcome = Yield.records <$> (Record.ofRows rows).outcome := by
  have decoded : (do return Yield.records (← Record.ofRows rows) : Logged Yield).outcome =
      Yield.records <$> (Record.ofRows rows).outcome := by
    rw [outcome_bind]
    cases (Record.ofRows rows).outcome <;> rfl
  cases s with
  | update => exact records.elim
  | select | delete => exact decoded

/-- If a row of a reply is refused, so is the reply, for a cell of this row or of one before it. -/
theorem exists_yield_error (records : s.YieldsRecords) (sent : row ∈ rows)
    (refused : ∃ e, (Record.ofRow row).outcome = .error e) :
    ∃ index fault, (yield s (.rows rows)).outcome = .error (.decoding index fault) := by
  have failed : ∃ e, (Record.ofRows rows).outcome = .error e := by
    by_contra given
    rw [Record.outcome_ofRows, not_exists, ← exists_eq_ok_iff, exists_mapM_iff] at given
    obtain ⟨record, decoded⟩ := given row sent
    obtain ⟨e, refused⟩ := refused
    rw [decoded] at refused
    cases refused
  obtain ⟨e, failed⟩ := failed
  rw [outcome_yield records, failed]
  rw [Record.outcome_ofRows, mapM_eq_error_iff] at failed
  obtain ⟨-, other, -, -, -, refused⟩ := failed
  obtain ⟨before, -, -, -, -, fault, -, rfl⟩ := Record.ofRow_eq_error_iff.mp refused
  exact ⟨before.length, fault, rfl⟩

end Session

end SqlCompose
