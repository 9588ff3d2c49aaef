/-
# Nulls of a reply

A null in a record should say that a column is NULL, or that its document is null.  What a
document cannot state is to refuse the reply instead: a decimal that is not a number, a text that is no
document, an item that is NULL, a value of a type without a decoder.

Numbers that are not finite are let through.  They become nulls, alone and in arrays, and are the only
ones that do (`Cell.decode_eq_null_iff`, `Cell.null_mem_items_iff`).  A decimal never becomes one,
since it is rounded to a finite number.
-/

import SqlCompose.Proofs.DecodedRows
import SqlCompose.Proofs.WholeDecimals

namespace SqlCompose

open Decimal (Binary64)

/-! ## The document null -/

namespace Json

/-- A blank of the JSON grammar. -/
def IsBlank (c : Char) : Prop :=
  c = ' ' ∨ c = '\n' ∨ c = '\t' ∨ c = '\r'

/-- Whether a text is the word for null between blanks. -/
def IsNullText (text : String) : Prop :=
  ∃ before after, (∀ c ∈ before, IsBlank c) ∧ (∀ c ∈ after, IsBlank c) ∧
    text.toList = before ++ 'n' :: 'u' :: 'l' :: 'l' :: after

namespace Reader

theorem skipBlanks_append {blanks : List Char} (blank : ∀ c ∈ blanks, IsBlank c) (cs : List Char) :
    skipBlanks (blanks ++ cs) = skipBlanks cs := by
  refine List.dropWhile_append_of_pos fun c isIn => ?_
  simpa [IsBlank, or_assoc] using blank c isIn

theorem exists_blanks (cs : List Char) :
    ∃ blanks, (∀ c ∈ blanks, IsBlank c) ∧ cs = blanks ++ skipBlanks cs := by
  refine ⟨_, fun c isIn => ?_, (List.takeWhile_append_dropWhile).symm⟩
  simpa [IsBlank, or_assoc] using List.mem_takeWhile_imp isIn

theorem skipBlanks_eq_nil_iff (cs : List Char) : skipBlanks cs = [] ↔ ∀ c ∈ cs, IsBlank c := by
  rw [skipBlanks, List.dropWhile_eq_nil_iff]
  simp [IsBlank, or_assoc]

theorem readWord_eq_ok_iff {word cs rest : List Char} :
    readWord word cs = .ok rest ↔ cs = word ++ rest := by
  induction word generalizing cs with
  | nil => simp [readWord]
  | cons expected more ih =>
      cases cs with
      | nil => simp [readWord, stop]
      | cons c cs =>
          unfold readWord
          split
          case isTrue same => simp [ih, same]
          case isFalse differ => simp [stopBehind, differ]

/-- Only the word for null is read as null. -/
theorem readValue_eq_null_iff {fuel depth : Nat} {cs rest : List Char} :
    readValue (fuel + 1) depth cs = .ok (.null, rest) ↔
      skipBlanks cs = 'n' :: 'u' :: 'l' :: 'l' :: rest := by
  have ofBind {α : Type} {step : Except Stop α} {content : α → Json} {left : α → List Char}
      (other : ∀ a, content a ≠ .null) :
      (do let a ← step; pure (content a, left a)) ≠ Except.ok (Json.null, rest) := by
    intro isRead
    obtain ⟨a, -, isRead⟩ := bind_eq_ok_iff.mp isRead
    exact other a (Prod.mk.inj (pure_eq_ok_iff.mp isRead)).1
  unfold readValue
  split
  case h_1 begins =>
    rw [bind_eq_ok_iff, begins]
    simp [pure_eq_ok_iff, readWord_eq_ok_iff]
  case h_2 begins | h_3 begins | h_4 begins =>
    refine iff_of_false (ofBind ?_) (by simp [begins])
    exact fun _ => nofun
  case h_5 begins | h_6 begins => exact iff_of_false nofun (by simp [begins])
  case h_7 begins | h_8 begins =>
    refine iff_of_false ?_ (by simp [begins])
    split
    · nofun
    · nofun
    · apply ofBind
      exact fun _ => nofun
  case h_9 noWord _ _ _ _ _ _ _ =>
    refine iff_of_false (ofBind ?_) (noWord _)
    exact fun _ => nofun

/-- A text holds the document null exactly if it is the word for it. -/
theorem document_eq_null_iff (text : String) : document text = .ok .null ↔ IsNullText text := by
  rw [document, mapError_eq_ok_iff, readDocument, bind_eq_ok_iff]
  constructor
  · rintro ⟨⟨value, rest⟩, isRead, ends⟩
    dsimp only at ends
    split at ends
    case h_2 => cases ends
    case h_1 noRest =>
      obtain rfl := pure_eq_ok_iff.mp ends
      obtain ⟨before, blank, begins⟩ := exists_blanks text.toList
      rw [readValue_eq_null_iff.mp isRead] at begins
      exact ⟨before, rest, blank, (skipBlanks_eq_nil_iff rest).mp noRest, begins⟩
  · rintro ⟨before, after, blankBefore, blankAfter, isText⟩
    have begins : skipBlanks text.toList = 'n' :: 'u' :: 'l' :: 'l' :: after := by
      rw [isText, skipBlanks_append blankBefore]
      rfl
    refine ⟨(.null, after), readValue_eq_null_iff.mpr begins, ?_⟩
    dsimp only
    rw [(skipBlanks_eq_nil_iff after).mpr blankAfter]
    rfl

end Reader

end Json

/-! ## Values -/

namespace WireType

/-- The types of documents. -/
def IsDocument : WireType → Prop
  | .json | .jsonb => True
  | _ => False

/-- Whether a value is a number that is not finite. -/
def IsNonFinite : (type : WireType) → type.Carrier → Prop
  | .float4, (x : Binary64) | .float8, (x : Binary64) => x.isFinite = false
  | _, _ => False

/-- Whether a value is the document null. -/
def IsNull : (type : WireType) → type.Carrier → Prop
  | .json, (s : String) | .jsonb, (s : String) => Json.IsNullText s
  | _, _ => False

theorem IsNull.isDocument {type : WireType} {value : type.Carrier} (null : type.IsNull value) :
    type.IsDocument := by
  cases type with
  | json | jsonb => trivial
  | _ => exact null.elim

/-- Why a value of a type has no document. -/
inductive Refuses : (type : WireType) → type.Carrier → DecodingFault → Prop where
  | numeric : Refuses .numeric WireDecimal.nan .decimalNaN
  | json {text : String} {fault : Json.Fault} (malformed : Json.Reader.document text = .error fault) :
    Refuses .json text (.document fault)
  | jsonb {text : String} {fault : Json.Fault} (malformed : Json.Reader.document text = .error fault) :
    Refuses .jsonb text (.document fault)

/-- A decimal is a number in a document as well. -/
theorem exists_decodeDecimal_eq_number (d : Decimal.Fixed) : ∃ n, decodeDecimal d = .number n := by
  rcases decodeDecimal_cases d with ⟨i, -, decoded⟩ | ⟨-, decoded⟩
  · exact ⟨.int i.toInt, decoded⟩
  · exact ⟨.float d.toBinary64, decoded⟩

variable {type : WireType} {value : type.Carrier} {fault : DecodingFault}

theorem decode_eq_error_iff : type.decode value = .error fault ↔ type.Refuses value fault := by
  have document {text : String} (refused :
      (Json.Reader.document text).mapError DecodingFault.document = .error fault) :
      ∃ cause, Json.Reader.document text = .error cause ∧ .document cause = fault :=
    mapError_eq_error_iff.mp refused
  constructor
  · intro refused
    cases type with
    | numeric =>
        cases value with
        | nan =>
            obtain rfl := Except.error.inj refused
            exact .numeric
        | number d => cases refused
    | json =>
        obtain ⟨cause, malformed, rfl⟩ := document refused
        exact .json malformed
    | jsonb =>
        obtain ⟨cause, malformed, rfl⟩ := document refused
        exact .jsonb malformed
    | _ => cases refused
  · intro refuses
    cases refuses with
    | numeric => rfl
    | json malformed | jsonb malformed => exact mapError_eq_error_iff.mpr ⟨_, malformed, rfl⟩

/-- A value becomes null if it is the document null or a number that is not finite. -/
theorem decode_eq_null_iff :
    type.decode value = .ok .null ↔ type.IsNull value ∨ type.IsNonFinite value := by
  have document (text : String) :
      (Json.Reader.document text).mapError DecodingFault.document = .ok .null ↔
        Json.IsNullText text ∨ False := by
    rw [mapError_eq_ok_iff, Json.Reader.document_eq_null_iff, or_false]
  have float (x : Binary64) :
      Except.ok (Json.ofFloat x) = (.ok .null : Except DecodingFault Json) ↔
        False ∨ x.isFinite = false := by
    unfold Json.ofFloat
    cases x.isFinite <;> simp
  cases type with
  | float4 | float8 => exact float value
  | json | jsonb => exact document value
  | numeric =>
      refine iff_of_false ?_ (not_or.mpr ⟨nofun, nofun⟩)
      cases value with
      | nan => nofun
      | number d =>
          show Except.ok (decodeDecimal d) ≠ .ok .null
          obtain ⟨n, decoded⟩ := exists_decodeDecimal_eq_number d
          rw [decoded]
          nofun
  | _ => exact iff_of_false nofun (not_or.mpr ⟨nofun, nofun⟩)

/-- Only a document becomes an array. -/
theorem isDocument_of_decode_eq_array {items : List Json}
    (decoded : type.decode value = .ok (.array items)) : type.IsDocument := by
  cases type with
  | json | jsonb => trivial
  | float4 | float8 =>
      change Except.ok (Json.ofFloat value) = _ at decoded
      unfold Json.ofFloat at decoded
      split at decoded <;> cases decoded
  | numeric =>
      cases value with
      | nan => cases decoded
      | number d =>
          change Except.ok (decodeDecimal d) = _ at decoded
          obtain ⟨n, isNumber⟩ := exists_decodeDecimal_eq_number d
          rw [isNumber] at decoded
          cases decoded
  | _ => cases decoded

end WireType

/-! ## Cells -/

namespace ReplyType

/-- The types of documents and of arrays of documents. -/
def HoldsDocuments : ReplyType → Prop
  | .scalar type | .array type => type.IsDocument
  | _ => False

/-- Why an item of an array has no document. -/
def RefusesItem (type : WireType) : Option type.Carrier → DecodingFault → Prop
  | some value, fault => type.Refuses value fault
  | none, fault => fault = .nullItem

/-- Why an array has no document: the first of its items that has none decides. -/
def RefusesItems (type : WireType) (items : List (Option type.Carrier)) (fault : DecodingFault) :
    Prop :=
  ∃ before item after, items = before ++ item :: after ∧
    (∀ other ∈ before, ∀ cause, ¬ RefusesItem type other cause) ∧ RefusesItem type item fault

theorem decodeItem_eq_error_iff {type : WireType} {item : Option type.Carrier}
    {fault : DecodingFault} : decodeItem type item = .error fault ↔ RefusesItem type item fault := by
  cases item with
  | some value => exact WireType.decode_eq_error_iff
  | none => exact ⟨fun refused => (Except.error.inj refused).symm, fun isNull => by rw [isNull]; rfl⟩

theorem exists_decodeItem_iff {type : WireType} {item : Option type.Carrier} :
    (∃ document, decodeItem type item = .ok document) ↔ ∀ fault, ¬ RefusesItem type item fault := by
  simp only [exists_eq_ok_iff, ne_eq, decodeItem_eq_error_iff]

theorem decode_array_eq_error_iff (column : String) {type : WireType}
    {items : List (Option type.Carrier)} {fault : DecodingFault} :
    decode column (.array type) items = .error fault ↔ RefusesItems type items fault := by
  have refused : (items.mapM (decodeItem type)).map Json.array = .error fault ↔
      items.mapM (decodeItem type) = .error fault := by
    cases items.mapM (decodeItem type) <;> simp [Except.map]
  rw [decode, refused, mapM_eq_error_iff]
  simp only [exists_decodeItem_iff, decodeItem_eq_error_iff]
  rfl

/-- A NULL among the items of an array is refused, so that only a number that is not finite becomes
null, or a document that is. -/
theorem null_mem_decode_array_iff (column : String) {type : WireType}
    {items : List (Option type.Carrier)} {documents : List Json}
    (decoded : decode column (.array type) items = .ok (.array documents)) :
    .null ∈ documents ↔ ∃ value, some value ∈ items ∧ (type.IsNull value ∨ type.IsNonFinite value) := by
  obtain ⟨found, isFound, isArray⟩ : ∃ found, items.mapM (decodeItem type) = .ok found ∧
    Json.array found = .array documents := map_eq_ok_iff.mp decoded
  obtain rfl := Json.array.inj isArray
  rw [mem_mapM_iff isFound]
  constructor
  · rintro ⟨item, isIn, isNull⟩
    cases item with
    | none => cases isNull
    | some value => exact ⟨value, isIn, WireType.decode_eq_null_iff.mp isNull⟩
  · rintro ⟨value, isIn, isNull⟩
    exact ⟨some value, isIn, WireType.decode_eq_null_iff.mpr isNull⟩

end ReplyType

namespace Cell

/-- Whether a column is NULL or its document is null. -/
def IsNull : Cell → Prop
  | ⟨_, _, none⟩ => True
  | ⟨_, .scalar type, some value⟩ => type.IsNull value
  | _ => False

/-- Whether the value of a cell is a number that is not finite. -/
def IsNonFinite : Cell → Prop
  | ⟨_, .scalar type, some value⟩ => type.IsNonFinite value
  | _ => False

/-- Whether an item of an array is a number that is not finite. -/
def HasNonFiniteItem : Cell → Prop
  | ⟨_, .array type, some items⟩ => ∃ value, some value ∈ items ∧ type.IsNonFinite value
  | _ => False

/-- Why a cell has no document. -/
def Refuses : Cell → DecodingFault → Prop
  | ⟨_, _, none⟩, _ => False
  | ⟨_, .scalar type, some value⟩, fault => type.Refuses value fault
  | ⟨_, .array type, some items⟩, fault => ReplyType.RefusesItems type items fault
  | ⟨column, .foreign label, some _⟩, fault => fault = .noDecoder column label
  | _, _ => False

variable {cell : Cell}

theorem decode_eq_error_iff {fault : DecodingFault} :
    cell.decode = .error fault ↔ cell.Refuses fault := by
  obtain ⟨column, type, content⟩ := cell
  cases content with
  | none => exact iff_of_false nofun nofun
  | some value =>
      cases type with
      | scalar type => exact WireType.decode_eq_error_iff
      | array type => exact ReplyType.decode_array_eq_error_iff column
      | textual label => exact iff_of_false nofun nofun
      | foreign label =>
          exact ⟨fun refused => (Except.error.inj refused).symm, fun isLabel => by rw [isLabel]; rfl⟩

theorem exists_decode_iff :
    (∃ document, cell.decode = .ok document) ↔ ∀ fault, ¬ cell.Refuses fault := by
  simp only [exists_eq_ok_iff, ne_eq, decode_eq_error_iff]

/-- A cell becomes null if it is null or a number that is not finite. -/
theorem decode_eq_null_iff : cell.decode = .ok .null ↔ cell.IsNull ∨ cell.IsNonFinite := by
  obtain ⟨column, type, content⟩ := cell
  cases content with
  | none => exact iff_of_true rfl (.inl trivial)
  | some value =>
      cases type with
      | scalar type => exact WireType.decode_eq_null_iff
      | array type =>
          change List (Option type.Carrier) at value
          refine iff_of_false ?_ (not_or.mpr ⟨nofun, nofun⟩)
          show (value.mapM (ReplyType.decodeItem type)).map Json.array ≠ .ok .null
          cases value.mapM (ReplyType.decodeItem type) <;> nofun
      | textual _ | foreign _ => exact iff_of_false nofun (not_or.mpr ⟨nofun, nofun⟩)

/-- The nulls in an array that holds no documents are its numbers that are not finite. -/
theorem null_mem_items_iff {items : List Json} (decoded : cell.decode = .ok (.array items))
    (noDocuments : ¬ cell.type.HoldsDocuments) : .null ∈ items ↔ cell.HasNonFiniteItem := by
  obtain ⟨column, type, content⟩ := cell
  cases content with
  | none => cases decoded
  | some value =>
      cases type with
      | scalar type => exact (noDocuments (WireType.isDocument_of_decode_eq_array decoded)).elim
      | array type =>
          have plain (value : type.Carrier) :
              type.IsNull value ∨ type.IsNonFinite value ↔ type.IsNonFinite value :=
            or_iff_right fun isNull => noDocuments isNull.isDocument
          have items := ReplyType.null_mem_decode_array_iff column decoded
          simp only [plain] at items
          exact items
      | textual _ => cases decoded
      | foreign _ => cases decoded

/-- Whether a cell cannot be decoded. -/
def IsRefused (cell : Cell) : Prop :=
  ∃ fault, cell.Refuses fault

/-- Whether a number in the cell is not finite, alone or in an array. -/
def HoldsNonFinite (cell : Cell) : Prop :=
  cell.IsNonFinite ∨ cell.HasNonFiniteItem

end Cell

/-! ## Rows -/

namespace Record

/-- Whether no null stands in the record of a row by accident: it stands for a column that is NULL or
whose document is null, an array has nulls only if it holds documents, and everything else without a
document refuses the reply. -/
structure NullsAreSent (row : List Cell) : Prop where
  columns : ∀ record name, (ofRow row).outcome = .ok record → record.lookup name = some .null →
    ∃ cell : Cell, cell.IsLastIn row ∧ cell.column = name ∧ cell.IsNull
  items : ∀ record name items, (ofRow row).outcome = .ok record →
    record.lookup name = some (.array items) → .null ∈ items →
      ∃ cell : Cell, cell.IsLastIn row ∧ cell.column = name ∧ cell.type.HoldsDocuments
  refused : ∀ cell ∈ row, cell.IsRefused ∨ cell.HoldsNonFinite →
    ∀ (s : Statement) (rows : List (List Cell)), s.YieldsRecords → row ∈ rows →
      ∃ index fault, (Session.yield s (.rows rows)).outcome = .error (.decoding index fault)

variable {row : List Cell} {record : Record}

theorem exists_ofRow_error_iff :
    (∃ e, (ofRow row).outcome = .error e) ↔ ∃ cell ∈ row, cell.IsRefused := by
  have refused : (∃ e, (ofRow row).outcome = .error e) ↔
      ¬ ∃ record, (ofRow row).outcome = .ok record := by
    cases (ofRow row).outcome <;> simp
  rw [refused, exists_ofRow_iff]
  simp only [Cell.exists_decode_iff]
  push Not
  rfl

/-- If no cell is refused, the nulls are those that are sent exactly if all numbers are finite. -/
theorem nullsAreSent_iff_of_decoded (decoded : (ofRow row).outcome = .ok record) :
    NullsAreSent row ↔ ∀ cell ∈ row, ¬ cell.HoldsNonFinite := by
  have noneRefused : ∀ cell ∈ row, ¬ cell.IsRefused := by
    intro cell isIn refused
    obtain ⟨e, failed⟩ := exists_ofRow_error_iff.mpr ⟨cell, isIn, refused⟩
    rw [decoded] at failed
    cases failed
  constructor
  · intro sent cell isIn nonFinite
    have records : (Statement.delete ⟨[]⟩).YieldsRecords := trivial
    obtain ⟨index, fault, failed⟩ := sent.refused cell isIn (.inr nonFinite) _ [row] records
      List.mem_cons_self
    have given : (Record.ofRows [row]).outcome = .ok [record] := by
      rw [outcome_ofRows, List.mapM_cons, decoded]
      rfl
    rw [Session.outcome_yield records, given] at failed
    cases failed
  · intro finite
    refine ⟨fun other name isRecord isNull => ?_, fun other name items isRecord isArray isIn => ?_,
      fun cell isIn undecodable => ?_⟩
    · obtain ⟨cell, last, named, isNull⟩ := (lookup_ofRow isRecord).mp isNull
      have noNumber : ¬ cell.IsNonFinite := fun number => finite cell last.mem (.inl number)
      exact ⟨cell, last, named, (Cell.decode_eq_null_iff.mp isNull).resolve_right noNumber⟩
    · obtain ⟨cell, last, named, isArray⟩ := (lookup_ofRow isRecord).mp isArray
      refine ⟨cell, last, named, ?_⟩
      by_contra noDocuments
      exact finite cell last.mem (.inr ((Cell.null_mem_items_iff isArray noDocuments).mp isIn))
    · exact (undecodable.elim (noneRefused cell isIn) (finite cell isIn)).elim

/-- No null stands in the record of a row by accident, if the row is refused or all numbers in it are
finite. -/
theorem nullsAreSent_iff :
    NullsAreSent row ↔ (∃ cell ∈ row, cell.IsRefused) ∨ ∀ cell ∈ row, ¬ cell.HoldsNonFinite := by
  cases outcome : (ofRow row).outcome with
  | ok record =>
      have noneRefused : ¬ ∃ cell ∈ row, cell.IsRefused := by
        rw [← exists_ofRow_error_iff, outcome]
        nofun
      rw [nullsAreSent_iff_of_decoded outcome, or_iff_right noneRefused]
  | error e =>
      have refused : ∃ e, (ofRow row).outcome = .error e := ⟨e, outcome⟩
      refine iff_of_true ⟨fun record name isRecord => ?_, fun record name items isRecord => ?_,
        fun cell isIn undecodable s rows records sent => ?_⟩ (.inl (exists_ofRow_error_iff.mp refused))
      · rw [outcome] at isRecord
        cases isRecord
      · rw [outcome] at isRecord
        cases isRecord
      · exact Session.exists_yield_error records sent refused

/-- A row is refused for its first cell without a document.  In the record of another row a column is
null exactly if it is sent as null or as a number that is not finite, and so are the items of an array
that holds no documents.  So no null stands there by accident exactly if the row is refused or all its
numbers are finite. -/
theorem nulls_of_row (row : List Cell) :
    (∀ e, (ofRow row).outcome = .error e ↔ ∃ before cell after fault, row = before ++ cell :: after ∧
      (∀ other ∈ before, ¬ other.IsRefused) ∧ cell.Refuses fault ∧
        e = .decoding before.length fault) ∧
    (∀ record, (ofRow row).outcome = .ok record → ∀ cell : Cell, cell.IsLastIn row →
      (record.lookup cell.column = some .null ↔ cell.IsNull ∨ cell.IsNonFinite) ∧
        ∀ items, record.lookup cell.column = some (.array items) → ¬ cell.type.HoldsDocuments →
          (.null ∈ items ↔ cell.HasNonFiniteItem)) ∧
    (NullsAreSent row ↔
      (∃ cell ∈ row, cell.IsRefused) ∨ ∀ cell ∈ row, ¬ cell.HoldsNonFinite) := by
  refine ⟨fun e => ?_, fun record decoded cell last => ⟨?_, fun items isArray noDocuments => ?_⟩,
    nullsAreSent_iff⟩
  · rw [ofRow_eq_error_iff]
    simp only [Cell.exists_decode_iff, Cell.decode_eq_error_iff, Cell.IsRefused, not_exists,
      exists_and_left]
  · rw [lookup_column decoded last, Cell.decode_eq_null_iff]
  · exact Cell.null_mem_items_iff ((lookup_column decoded last).mp isArray) noDocuments

/-- A column that is sent as a number becomes null in the record, since the number is not finite. -/
theorem nan_becomes_null :
    let row : List Cell := [⟨"ratio", .scalar .float8, some Binary64.nan⟩]
    (ofRow row).outcome = .ok [("ratio", .null)] ∧ ¬ NullsAreSent row := by
  intro row
  have decoded : (ofRow row).outcome = .ok [("ratio", .null)] := rfl
  refine ⟨decoded, fun sent => ?_⟩
  have finite := (nullsAreSent_iff_of_decoded decoded).mp sent
  exact finite _ List.mem_cons_self (.inl rfl)

end Record

end SqlCompose
