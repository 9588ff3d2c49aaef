/-
# Criteria from documents

Criteria can be given as a document instead of being built.  What a document is in JSON does not
tell what it means here: an array may be an operator with its value, the list that another operator
asks for, a document that is compared as a whole, or nothing at all.  Which of these a field is,
and which criterion it asks for, is laid down by itself (`Json.AsksFor`, `Json.Faulty`), and the
reader accepts a document exactly if it is an object with nothing but such fields.

The criteria that are read are those that are built by hand, field by field in the order of the
keys, and of several fields that ask for nothing the one with the first key is refused
(`Criteria.read_document`).
-/

import SqlCompose.Criteria.Reader
import SqlCompose.Proofs.Demands
import SqlCompose.Proofs.KeyOrder

namespace SqlCompose

/-! ## What a field asks for -/

namespace Json

/-- Whether a document asks for a criterion: that the column equals its value, or, for an operator
with a value, that the column compares with that.  Only an operator that takes a list can have an
array taken as one; for any other the array is a document like an object. -/
inductive AsksFor : Json → Criterion → Prop where
  | equals {document : Json} (noArray : ∀ items, document ≠ .array items) :
      AsksFor document (.equals (.ofJson document))
  | compare {word : String} {op : Comparison} {document : Json}
      (isOperator : Comparison.read word = .ok op)
      (noList : op.takesList = true → ∀ items, document ≠ .array items) :
      AsksFor (.array [.string word, document]) (.compare op (.ofJson document))
  | member {word : String} {op : Comparison} (isOperator : Comparison.read word = .ok op)
      (takesList : op.takesList = true) (items : List Json) :
      AsksFor (.array [.string word, .array items]) (.compare op (.array (items.map Value.ofJson)))

/-- Whether a document asks for nothing, and why. -/
inductive Faulty : Json → CriterionFault → Prop where
  | notPair {items : List Json} (noPair : ∀ word document, items ≠ [.string word, document]) :
      Faulty (.array items) .notPair
  | unknownOperator {word : String} {document : Json} {e : Error}
      (unknown : Comparison.read word = .error e) :
      Faulty (.array [.string word, document]) (.unknownOperator word)

/-- Whether a document, if it is an array, is an operator with a value. -/
def IsCriterion : Json → Prop
  | .array items => ∃ word op document, items = [.string word, document] ∧
    Comparison.read word = .ok op
  | _ => True

end Json

namespace Criteria

/-- Whether criteria are built by hand from the fields of an object, one criterion behind the
other. -/
inductive BuiltFrom : List (String × Json) → Criteria → Prop where
  | empty : BuiltFrom [] .empty
  | add {fields : List (String × Json)} {criteria : Criteria} {document : Json}
      {criterion : Criterion} (before : BuiltFrom fields criteria) (column : String)
      (asks : document.AsksFor criterion) :
      BuiltFrom (fields ++ [(column, document)]) (criteria.add column criterion)

/-! ## What is read of a field -/

theorem ofWord?_eq_some_iff {word : String} {op : Comparison} :
    Comparison.ofWord? word = some op ↔ Comparison.read word = .ok op := by
  unfold Comparison.read
  split <;> simp [*]

theorem ofWord?_eq_none_iff {word : String} :
    Comparison.ofWord? word = none ↔ ∃ e, Comparison.read word = .error e := by
  unfold Comparison.read
  split <;> simp [*]

theorem pairValue_single {op : Comparison} {document : Json}
    (noList : op.takesList = true → ∀ items, document ≠ .array items) :
    pairValue op document = .ofJson document := by
  unfold pairValue
  split
  case h_1 items =>
    rw [if_neg]
    exact fun takesList => noList takesList items rfl
  case h_2 => rfl

/-- The value of a pair is a list only where one is asked for. -/
theorem asksFor_pair {word : String} {op : Comparison} (isOperator : Comparison.read word = .ok op)
    (document : Json) :
    (Json.array [.string word, document]).AsksFor (.compare op (pairValue op document)) := by
  by_cases isList : op.takesList = true ∧ ∃ items, document = .array items
  · obtain ⟨takesList, items, rfl⟩ := isList
    rw [pairValue, if_pos takesList]
    exact .member isOperator takesList items
  · have noList : op.takesList = true → ∀ items, document ≠ .array items :=
      fun takesList items isArray => isList ⟨takesList, items, isArray⟩
    rw [pairValue_single noList]
    exact .compare isOperator noList

/-- Of a document that is read the criterion is the one that it asks for, and otherwise the fault
is its own. -/
theorem readCriterion_spec (document : Json) :
    (∃ criterion, readCriterion document = .ok criterion ∧ document.AsksFor criterion) ∨
      ∃ fault, readCriterion document = .error fault ∧ document.Faulty fault := by
  unfold readCriterion
  split
  case h_1 items =>
    unfold readPair
    split
    case h_1 word document =>
      split
      case h_1 op isOperator =>
        exact .inl ⟨_, rfl, asksFor_pair (ofWord?_eq_some_iff.mp isOperator) document⟩
      case h_2 unknown =>
        obtain ⟨e, unknown⟩ := ofWord?_eq_none_iff.mp unknown
        exact .inr ⟨_, rfl, .unknownOperator unknown⟩
    case h_2 noPair => exact .inr ⟨_, rfl, .notPair noPair⟩
  case h_2 noArray => exact .inl ⟨_, rfl, .equals noArray⟩

theorem readCriterion_of_asksFor {document : Json} {criterion : Criterion}
    (asks : document.AsksFor criterion) : readCriterion document = .ok criterion := by
  cases asks with
  | equals noArray =>
      unfold readCriterion
      split
      case h_1 items => exact (noArray items rfl).elim
      case h_2 => rfl
  | compare isOperator noList =>
      simp [readCriterion, readPair, ofWord?_eq_some_iff.mpr isOperator, pairValue_single noList]
  | member isOperator takesList items =>
      simp [readCriterion, readPair, ofWord?_eq_some_iff.mpr isOperator, pairValue, takesList]

theorem readCriterion_of_faulty {document : Json} {fault : CriterionFault}
    (faulty : document.Faulty fault) : readCriterion document = .error fault := by
  cases faulty with
  | notPair noPair =>
      unfold readCriterion readPair
      dsimp only
      split
      case h_1 word document => exact (noPair word document rfl).elim
      case h_2 => rfl
  | unknownOperator unknown =>
      rw [readCriterion, readPair, ofWord?_eq_none_iff.mpr ⟨_, unknown⟩]

theorem readCriterion_eq_ok_iff {document : Json} {criterion : Criterion} :
    readCriterion document = .ok criterion ↔ document.AsksFor criterion := by
  refine ⟨fun isRead => ?_, readCriterion_of_asksFor⟩
  rcases readCriterion_spec document with ⟨found, isFound, asks⟩ | ⟨fault, refused, -⟩
  · exact Except.ok.inj (isFound.symm.trans isRead) ▸ asks
  · cases refused.symm.trans isRead

theorem readCriterion_eq_error_iff {document : Json} {fault : CriterionFault} :
    readCriterion document = .error fault ↔ document.Faulty fault := by
  refine ⟨fun refused => ?_, readCriterion_of_faulty⟩
  rcases readCriterion_spec document with ⟨found, isFound, -⟩ | ⟨other, isRefused, faulty⟩
  · cases isFound.symm.trans refused
  · exact Except.error.inj (isRefused.symm.trans refused) ▸ faulty

theorem isCriterion_of_asksFor {document : Json} {criterion : Criterion}
    (asks : document.AsksFor criterion) : document.IsCriterion := by
  cases asks with
  | equals noArray =>
      cases document with
      | array items => exact (noArray items rfl).elim
      | _ => trivial
  | compare isOperator _ | member isOperator _ _ => exact ⟨_, _, _, rfl, isOperator⟩

theorem not_isCriterion_of_faulty {document : Json} {fault : CriterionFault}
    (faulty : document.Faulty fault) : ¬ document.IsCriterion := by
  cases faulty with
  | notPair noPair =>
      rintro ⟨word, op, document, isPair, -⟩
      exact noPair word document isPair
  | unknownOperator unknown =>
      rintro ⟨word, op, document, isPair, isOperator⟩
      cases isPair
      cases unknown.symm.trans isOperator

/-! ## What is read of an object -/

/-- The demand that a field be a criterion.  The refusal names its key. -/
def fieldDemand (field : String × Json) : Demand where
  Met := field.2.IsCriterion
  Refusal e := ∃ fault, field.2.Faulty fault ∧ e = .invalidCriterion field.1 fault

def readField (field : String × Json) : Except Error (String × Criterion) :=
  match readCriterion field.2 with
  | .error fault => .error (.invalidCriterion field.1 fault)
  | .ok criterion => .ok (field.1, criterion)

theorem readFields_eq (fields : List (String × Json)) :
    readFields fields = fields.mapM readField := by
  induction fields with
  | nil => rfl
  | cons field rest ih =>
      rw [readFields, List.mapM_cons, ← ih, readField]
      cases readCriterion field.2 with
      | error fault => rfl
      | ok criterion => cases readFields rest <;> rfl

theorem readField_eq_ok_iff {field : String × Json} {entry : String × Criterion} :
    readField field = .ok entry ↔ entry.1 = field.1 ∧ field.2.AsksFor entry.2 := by
  rw [← readCriterion_eq_ok_iff, readField]
  cases readCriterion field.2 <;> simp [Prod.ext_iff, eq_comm]

theorem enforces_readField (field : String × Json) :
    Enforces (readField field) [fieldDemand field] := by
  rw [readField]
  cases isRead : readCriterion field.2 with
  | ok criterion =>
      have asks := readCriterion_eq_ok_iff.mp isRead
      exact (Enforces.ok _).cons_of_met (isCriterion_of_asksFor asks)
  | error fault =>
      have faulty := readCriterion_eq_error_iff.mp isRead
      refine Enforces.error (not_isCriterion_of_faulty faulty) fun e => ?_
      constructor
      · rintro ⟨other, otherFaulty, rfl⟩
        have same := isRead.symm.trans (readCriterion_eq_error_iff.mpr otherFaulty)
        rw [Except.error.inj same]
      · rintro rfl
        exact ⟨fault, faulty, rfl⟩

/-- The fields are read one after another. -/
theorem enforces_readFields (fields : List (String × Json)) :
    Enforces (readFields fields) (fields.map fieldDemand) := by
  rw [readFields_eq, List.map_eq_flatMap]
  exact Enforces.mapM fun field _ => enforces_readField field

theorem readFields_eq_ok_iff {fields : List (String × Json)}
    {entries : List (String × Criterion)} :
    readFields fields = .ok entries ↔
      List.Forall₂ (fun field entry => entry.1 = field.1 ∧ field.2.AsksFor entry.2)
        fields entries := by
  simp only [readFields_eq, mapM_eq_ok_iff, readField_eq_ok_iff]

theorem BuiltFrom.append {done fields : List (String × Json)} {criteria : Criteria}
    {entries : List (String × Criterion)} (before : BuiltFrom done criteria)
    (each : List.Forall₂ (fun field entry => entry.1 = field.1 ∧ field.2.AsksFor entry.2)
      fields entries) :
    BuiltFrom (done ++ fields) ⟨criteria.entries ++ entries⟩ := by
  induction each generalizing done criteria with
  | nil =>
      rw [List.append_nil, List.append_nil]
      exact before
  | @cons field entry rest others here _ ih =>
      obtain ⟨column, document⟩ := field
      obtain ⟨name, criterion⟩ := entry
      obtain ⟨rfl, asks⟩ : name = column ∧ document.AsksFor criterion := here
      have behind := ih (before.add name asks)
      rwa [List.append_assoc, Criteria.add, List.append_assoc] at behind

/-- What is built by hand is what is read of the fields. -/
theorem builtFrom_iff {fields : List (String × Json)} {criteria : Criteria} :
    BuiltFrom fields criteria ↔ readFields fields = .ok criteria.entries := by
  rw [readFields_eq_ok_iff]
  constructor
  · intro built
    induction built with
    | empty => exact .nil
    | add _ column asks ih => exact List.rel_append ih (.cons ⟨rfl, asks⟩ .nil)
  · exact fun each => BuiltFrom.append .empty each

theorem columns_of_builtFrom {fields : List (String × Json)} {criteria : Criteria}
    (built : BuiltFrom fields criteria) :
    criteria.entries.map Prod.fst = fields.map Prod.fst := by
  induction built with
  | empty => rfl
  | add _ column _ ih => simp [Criteria.add, ih]

/-- Where keys are in order, those before a key are those that are less. -/
theorem forall_mem_before_iff {before after : List (String × Json)} {field : String × Json}
    (ordered : Json.InByteOrder ((before ++ field :: after).map Prod.fst))
    {holds : String × Json → Prop} :
    (∀ other ∈ before, holds other) ↔
      ∀ other ∈ before ++ field :: after, Text.bytes other.1 < Text.bytes field.1 →
        holds other := by
  rw [Json.InByteOrder, List.pairwise_map, List.pairwise_append, List.pairwise_cons] at ordered
  obtain ⟨-, ⟨behind, -⟩, ahead⟩ := ordered
  constructor
  · intro each other inFields less
    rcases List.mem_append.mp inFields with inBefore | inRest
    · exact each other inBefore
    · rcases List.mem_cons.mp inRest with rfl | inAfter
      · exact (List.lt_irrefl _ less).elim
      · exact (List.lt_asymm less (behind other inAfter)).elim
  · intro each other inBefore
    have less := ahead other inBefore field List.mem_cons_self
    exact each other (List.mem_append_left _ inBefore) less

/-- The first field that asks for nothing is refused, the first one in the order of the keys. -/
theorem readFields_eq_error_iff {fields : List (String × Json)} {e : Error}
    (ordered : Json.InByteOrder (fields.map Prod.fst)) :
    readFields fields = .error e ↔
      ∃ key document fault, (key, document) ∈ fields ∧ document.Faulty fault ∧
        (∀ field ∈ fields, Text.bytes field.1 < Text.bytes key → field.2.IsCriterion) ∧
        e = .invalidCriterion key fault := by
  rw [(enforces_readFields fields).error_iff, firstUnmet_map_iff]
  constructor
  · rintro ⟨before, ⟨key, document⟩, after, rfl, met, -, fault, faulty, rfl⟩
    exact ⟨key, document, fault, by simp, faulty, (forall_mem_before_iff ordered).mp met, rfl⟩
  · rintro ⟨key, document, fault, inFields, faulty, met, rfl⟩
    obtain ⟨before, after, rfl⟩ := List.append_of_mem inFields
    exact ⟨before, (key, document), after, rfl, (forall_mem_before_iff ordered).mpr met,
      not_isCriterion_of_faulty faulty, fault, faulty, rfl⟩

theorem read_eq_ok_iff {j : Json} {criteria : Criteria} :
    read j = .ok criteria ↔ ∃ fields, j = .object fields ∧ BuiltFrom fields criteria := by
  cases j with
  | object fields =>
      have isRead : read (.object fields) = .ok criteria ↔
          readFields fields = .ok criteria.entries := by
        change mk <$> readFields fields = .ok criteria ↔ _
        rw [map_eq_ok_iff]
        exact ⟨fun ⟨entries, found, same⟩ => same ▸ found, fun found => ⟨_, found, rfl⟩⟩
      rw [isRead, ← builtFrom_iff]
      simp
  | _ => simp [read]

theorem read_eq_error_iff {j : Json} {e : Error} :
    read j = .error e ↔
      ((∀ fields, j ≠ .object fields) ∧ e = .invalidCriterion "*" .notObject) ∨
        ∃ fields, j = .object fields ∧ readFields fields = .error e := by
  cases j with
  | object fields =>
      have refused : read (.object fields) = .error e ↔ readFields fields = .error e := by
        rw [read]
        cases readFields fields <;> simp [Except.map]
      rw [refused]
      simp
  | _ => simp [read, eq_comm]

theorem exists_read_iff {j : Json} :
    (∃ criteria, read j = .ok criteria) ↔
      ∃ fields, j = .object fields ∧ ∀ field ∈ fields, field.2.IsCriterion := by
  have accepted (fields : List (String × Json)) :
      (∃ criteria, BuiltFrom fields criteria) ↔ ∀ field ∈ fields, field.2.IsCriterion := by
    have met : (∃ entries, readFields fields = .ok entries) ↔
        ∀ field ∈ fields, field.2.IsCriterion :=
      (enforces_readFields fields).ok_iff.trans List.forall_mem_map
    rw [← met]
    constructor
    · rintro ⟨criteria, built⟩
      exact ⟨_, builtFrom_iff.mp built⟩
    · rintro ⟨entries, isRead⟩
      exact ⟨⟨entries⟩, builtFrom_iff.mpr isRead⟩
  simp only [read_eq_ok_iff, ← accepted]
  exact ⟨fun ⟨criteria, fields, isObject, built⟩ => ⟨fields, isObject, criteria, built⟩,
    fun ⟨fields, isObject, criteria, built⟩ => ⟨criteria, fields, isObject, built⟩⟩

/-- A document is read exactly if it is an object in which every array is an operator with a value.
The criteria are those that are built by hand from the fields, in the order of the bytes of
the keys.  If it is not read, the error names the first key of a field that asks for nothing, or
none if the document is no object. -/
theorem read_document (j : Json) (ordered : j.KeysOrdered) :
    ((∃ criteria, read j = .ok criteria) ↔
        ∃ fields, j = .object fields ∧ ∀ field ∈ fields, field.2.IsCriterion) ∧
      (∀ criteria, read j = .ok criteria ↔
        ∃ fields, j = .object fields ∧ BuiltFrom fields criteria) ∧
      (∀ criteria fields, read j = .ok criteria → j = .object fields →
        criteria.entries.map Prod.fst = fields.map Prod.fst ∧
          Json.InByteOrder (criteria.entries.map Prod.fst) ∧
          ∀ byHand, BuiltFrom fields byHand → criteria.expr = byHand.expr) ∧
      ∀ e, read j = .error e ↔
        ((∀ fields, j ≠ .object fields) ∧ e = .invalidCriterion "*" .notObject) ∨
          ∃ fields key document fault, j = .object fields ∧ (key, document) ∈ fields ∧
            document.Faulty fault ∧
            (∀ field ∈ fields, Text.bytes field.1 < Text.bytes key → field.2.IsCriterion) ∧
            e = .invalidCriterion key fault := by
  refine ⟨exists_read_iff, fun criteria => read_eq_ok_iff, ?_, ?_⟩
  · rintro criteria fields isRead rfl
    obtain ⟨_, isObject, built⟩ := read_eq_ok_iff.mp isRead
    cases isObject
    have columns := columns_of_builtFrom built
    refine ⟨columns, columns ▸ ordered, fun byHand builtByHand => ?_⟩
    have isByHand := read_eq_ok_iff.mpr ⟨fields, rfl, builtByHand⟩
    rw [Except.ok.inj (isRead.symm.trans isByHand)]
  · intro e
    rw [read_eq_error_iff]
    apply or_congr_right
    constructor
    · rintro ⟨fields, rfl, refused⟩
      obtain ⟨key, document, fault, refused⟩ := (readFields_eq_error_iff ordered).mp refused
      exact ⟨fields, key, document, fault, rfl, refused⟩
    · rintro ⟨fields, key, document, fault, rfl, refused⟩
      exact ⟨fields, rfl, (readFields_eq_error_iff ordered).mpr ⟨key, document, fault, refused⟩⟩

/-- Those who are active and none of some numbers are asked for.  Of two fields that ask for nothing
the one with the lesser key is refused, although it was given last. -/
theorem read_numbers_and_refuse_name :
    (∃ criteria, read (Json.ofFields [("is_active", .bool true),
        ("id", .array [.string " NOT IN", .array [.int 5, .null]])]) = .ok criteria ∧
      criteria.expr = .logical .and
        [.compare (.column "id") .notIn (.literal (.array [.int 5, .null])),
          .compare (.column "is_active") .eq (.literal (.bool true))]) ∧
      read (Json.ofFields [("salary", .array [.string "between", .int 1]), ("id", .int 5),
          ("name", .array [.string "like"])]) =
        .error (.invalidCriterion "name" .notPair) := by
  constructor
  · obtain ⟨-, built, -, -⟩ := read_document (Json.ofFields [("is_active", .bool true),
      ("id", .array [.string " NOT IN", .array [.int 5, .null]])]) (Json.keysOrdered_ofFields _)
    have byHand : BuiltFrom ([] ++ [("id", .array [.string " NOT IN", .array [.int 5, .null]])] ++
        [("is_active", .bool true)])
          ((empty.add "id" (.compare .notIn (.array [.int 5, .null]))).add "is_active"
            (.equals (.bool true))) :=
      (BuiltFrom.empty.add "id" (.member rfl rfl [.int 5, .null])).add "is_active" (.equals nofun)
    exact ⟨_, (built _).mpr ⟨_, rfl, byHand⟩, rfl⟩
  · obtain ⟨-, -, -, refused⟩ := read_document (Json.ofFields
      [("salary", .array [.string "between", .int 1]), ("id", .int 5),
        ("name", .array [.string "like"])]) (Json.keysOrdered_ofFields _)
    have inOrder : Json.ofFields [("salary", .array [.string "between", .int 1]), ("id", .int 5),
        ("name", .array [.string "like"])] =
        .object [("id", .int 5), ("name", .array [.string "like"]),
          ("salary", .array [.string "between", .int 1])] := rfl
    refine (refused _).mpr (.inr ⟨_, "name", .array [.string "like"], .notPair, inOrder, ?_, ?_,
      ?_, rfl⟩)
    · exact List.mem_cons_of_mem _ List.mem_cons_self
    · exact .notPair (by simp)
    · simp only [List.forall_mem_cons, Text.bytes_lt_iff]
      exact ⟨fun _ => trivial, fun less => absurd less (by decide),
        fun less => absurd less (by decide), nofun⟩

end Criteria

end SqlCompose
