/-
# Stored values are read back

Values, paths and frames are stored as documents and read back from them.  In a document the fields
of a case stand in the order of their names and not in the one in which they were given, so a
field is looked up by its name (`Form.field?_fieldsToJson`).  The readers go no deeper than the
document, and every part of a form is stored in a smaller document than the whole
(`Form.depth_list`, `Form.depth_tagged`, `Form.depth_variant`).

Only a number that is not finite is lost: it is stored as null.  So a value is read back exactly if
all numbers in it are finite (`Value.ofStored?_form`).
-/

import SqlCompose.Form.Reader
import SqlCompose.Proofs.UuidTexts

namespace SqlCompose

open Decimal (Binary64)

/-! ## Fields and depths of documents -/

namespace Json

@[simp]
theorem lookup_cons_eq {α : Type} (name : String) (a : α) (rest : List (String × α))
    (key : String) : ((name, a) :: rest).lookup key = if key = name then some a else rest.lookup key := by
  rw [List.lookup_cons]
  by_cases same : key = name
  · simp [same]
  · rw [beq_eq_false_iff_ne.mpr same, if_neg same]

theorem lookup_insert (name : String) (value : Json) (fields : List (String × Json))
    (key : String) :
    (insert name value fields).lookup key = ((name, value) :: fields).lookup key := by
  induction fields with
  | nil => rfl
  | cons field rest ih =>
      obtain ⟨other, content⟩ := field
      unfold insert
      split
      case isTrue => rfl
      case isFalse =>
        split
        case isTrue same =>
          subst same
          simp only [lookup_cons_eq]
          split <;> rfl
        case isFalse differ =>
          simp only [lookup_cons_eq] at ih ⊢
          rw [ih]
          by_cases isOther : key = other
          · have new : ¬ key = name := fun isName => differ (isName.symm.trans isOther)
            rw [if_pos isOther, if_neg new, if_pos isOther]
          · rw [if_neg isOther, if_neg isOther]

/-- Of the fields that are given for a key the last is found. -/
theorem field?_ofFields (fields : List (String × Json)) (key : String) :
    (ofFields fields).field? key = fields.reverse.lookup key := by
  have set (sorted : List (String × Json)) :
      (fields.foldl (fun sorted field => insert field.1 field.2 sorted) sorted).lookup key =
        (fields.reverse ++ sorted).lookup key := by
    induction fields generalizing sorted with
    | nil => rfl
    | cons field rest ih =>
        rw [List.foldl_cons, ih, List.reverse_cons, List.append_assoc, List.lookup_append,
          List.lookup_append, lookup_insert]
        rfl
  rw [ofFields, field?, set, List.append_nil]

@[simp]
theorem string?_string (s : String) : (string s).string? = some s := rfl

@[simp]
theorem bool?_bool (b : Bool) : (bool b).bool? = some b := rfl

@[simp]
theorem array?_array (items : List Json) : (array items).array? = some items := rfl

@[simp]
theorem caseName?_string (name : String) : (string name).caseName? = some name := rfl

/-- The fields of a record that is stored as an object are found by their names. -/
theorem recordFields?_ofFields (names : List String) (fields : List (String × Json)) :
    (ofFields fields).recordFields? names = names.mapM fun name => (ofFields fields).field? name :=
  rfl

theorem depth_pos (j : Json) : 0 < j.depth := by
  cases j <;> exact Nat.succ_pos _

theorem depth_lt_of_mem {items : List Json} {j : Json} (inside : j ∈ items) :
    j.depth < (array items).depth := by
  rw [depth, Nat.lt_succ_iff]
  induction items with
  | nil => cases inside
  | cons item rest ih =>
      rw [depthOfItems]
      rcases List.mem_cons.mp inside with rfl | inRest
      · exact Nat.le_max_left _ _
      · exact (ih inRest).trans (Nat.le_max_right _ _)

theorem depth_lt_of_field? {j content : Json} (key : String) (found : j.field? key = some content) :
    content.depth < j.depth := by
  cases j with
  | null | bool | number | string | array => cases found
  | object fields =>
      rw [depth, Nat.lt_succ_iff]
      induction fields with
      | nil => cases found
      | cons field rest ih =>
          rw [depthOfFields]
          rw [field?, lookup_cons_eq] at found
          split at found
          · obtain rfl := Option.some.inj found
            exact Nat.le_max_left _ _
          · exact (ih found).trans (Nat.le_max_right _ _)

end Json

namespace Form

@[simp]
theorem itemsToJson_eq (items : List Form) : itemsToJson items = items.map toJson := by
  induction items with
  | nil => rfl
  | cons item rest ih => rw [itemsToJson, ih, List.map_cons]

theorem fieldsToJson_eq (fields : List (String × Form)) :
    fieldsToJson fields = fields.map fun field => (field.1, field.2.toJson) := by
  induction fields with
  | nil => rfl
  | cons field rest ih => rw [fieldsToJson, ih, List.map_cons]

theorem toJson_list (items : List Form) : (list items).toJson = .array (items.map toJson) := by
  rw [toJson, itemsToJson_eq]

/-- A field is stored under its name. -/
theorem field?_fieldsToJson {fields : List (String × Form)} {name : String} {form : Form}
    (found : fields.reverse.lookup name = some form) :
    (Json.ofFields (fieldsToJson fields)).field? name = some form.toJson := by
  have stored (fields : List (String × Form)) :
      (fields.map fun field => (field.1, field.2.toJson)).lookup name =
        (fields.lookup name).map toJson := by
    induction fields with
    | nil => rfl
    | cons field rest ih =>
        obtain ⟨other, content⟩ := field
        rw [List.map_cons, Json.lookup_cons_eq, Json.lookup_cons_eq, ih]
        split <;> rfl
  rw [Json.field?_ofFields, fieldsToJson_eq, ← List.map_reverse, stored, found]
  rfl

theorem depth_list {items : List Form} {form : Form} (inside : form ∈ items) :
    form.toJson.depth < (list items).toJson.depth := by
  rw [toJson_list]
  exact Json.depth_lt_of_mem (List.mem_map_of_mem inside)

theorem depth_pair {first second form : Form} (inside : form = first ∨ form = second) :
    form.toJson.depth < (pair first second).toJson.depth := by
  rw [toJson]
  apply Json.depth_lt_of_mem
  rcases inside with rfl | rfl <;> simp

theorem depth_tagged (name : String) (form : Form) :
    form.toJson.depth < (tagged name [form]).toJson.depth :=
  Json.depth_lt_of_field? name (by simp [toJson, content, Json.field?])

theorem depth_variant {fields : List (String × Form)} {form : Form} (name field : String)
    (found : fields.reverse.lookup field = some form) :
    form.toJson.depth < (variant name fields).toJson.depth := by
  have inContent := Json.depth_lt_of_field? field (field?_fieldsToJson found)
  have inWhole : (Json.ofFields (fieldsToJson fields)).depth < (variant name fields).toJson.depth :=
    Json.depth_lt_of_field? name (by simp [toJson, Json.field?])
  exact inContent.trans inWhole

end Form

/-- A list is read back exactly if each of its items is. -/
theorem mapM_map_eq_some_iff {α β : Type} (store : α → β) (read : β → Option α) (items : List α) :
    (items.map store).mapM read = some items ↔ ∀ a ∈ items, read (store a) = some a := by
  induction items with
  | nil => simp
  | cons item rest ih =>
      rw [List.map_cons, List.mapM_cons, List.forall_mem_cons, ← ih]
      simp [Option.bind_eq_some_iff]


/-! ## Values -/

namespace Json

@[simp]
theorem int64?_int (n : Int64) : (int n.toInt).int64? = some n :=
  Decimal.Numeral.toInt64?_toInt n

@[simp]
theorem uint64?_int (n : UInt64) : (int n.toNat).uint64? = some n := by
  have fits : (0 : Int) ≤ n.toNat ∧ (n.toNat : Int) < UInt64.size := by
    have := n.toNat_lt
    simp only [UInt64.size]
    omega
  rw [int, uint64?, if_pos fits, Int.toNat_natCast, UInt64.ofNat_toNat]

/-- A number that is not finite is stored as null, which is no number. -/
@[simp]
theorem float?_ofFloat (x : Binary64) :
    (ofFloat x).float? = if x.isFinite = true then some x else none := by
  unfold ofFloat
  split <;> rfl

end Json

@[simp]
theorem Date.ofJson?_text (d : Date) : Date.ofJson? (.string d.text) = some d := by
  have read : Calendar.readDate Calendar.looseDateFormat d.characters = .ok d := by
    rw [Calendar.readDate, ← Calendar.readItems_filter _ d.characters_noBlank]
    exact Calendar.readDate_characters d
  rw [Date.ofJson?, Json.string?, text]
  simp only [Option.bind_eq_bind, Option.bind_some, String.toList_ofList, read]
  rfl

@[simp]
theorem Timestamp.ofJson?_text (t : Timestamp) :
    Timestamp.ofJson? (.string (t.text 'T')) = some t := by
  have read : Calendar.readTimestamp Calendar.looseTimestampFormat
      (t.date.characters ++ 'T' :: t.timeText) = .ok t := by
    rw [Calendar.readTimestamp, ← Calendar.readItems_filter _ t.characters_noBlank]
    exact Calendar.readTimestamp_characters t
  rw [Timestamp.ofJson?, Json.string?, text]
  simp only [Option.bind_eq_bind, Option.bind_some, String.toList_ofList, read]
  rfl

@[simp]
theorem Uuid.ofJson?_text (u : Uuid) : Uuid.ofJson? (.string u.text) = some u := by
  rw [Uuid.ofJson?, Json.string?]
  simp only [Option.bind_eq_bind, Option.bind_some, u.readForm_text]
  rfl

namespace Value

mutual

/-- The binary64 numbers in a value.  A document is not looked into. -/
def floats : Value → List Binary64
  | .float x => [x]
  | .array items => floatsOfItems items
  | _ => []

/-- The binary64 numbers in some values. -/
def floatsOfItems : List Value → List Binary64
  | [] => []
  | item :: rest => floats item ++ floatsOfItems rest

end

theorem floatsOfItems_eq (items : List Value) : floatsOfItems items = items.flatMap floats := by
  induction items with
  | nil => rfl
  | cons item rest ih => rw [floatsOfItems, ih, List.flatMap_cons]

theorem forms_eq (items : List Value) : forms items = items.map form := by
  induction items with
  | nil => rfl
  | cons item rest ih => rw [forms, ih, List.map_cons]

/-- What holds of single values, and of a list if it holds of its items, holds of all values. -/
theorem items_induction {motive : Value → Prop}
    (single : ∀ v, (∀ items, v ≠ .array items) → motive v)
    (array : ∀ items, (∀ v ∈ items, motive v) → motive (.array items)) (v : Value) : motive v := by
  cases v with
  | array items => exact array items fun v _ => items_induction single array v
  | null | bool | int | float | text | json | date | timestamp | uuid =>
      exact single _ fun _ isArray => by cases isArray

/-- A single value is read back unless it is a number that is not finite. -/
theorem ofJsonWithin?_single (fuel : Nat) {v : Value} (single : ∀ items, v ≠ .array items) :
    ofJsonWithin? (fuel + 1) v.form.toJson = some v ↔ ∀ x ∈ v.floats, x.isFinite = true := by
  have tagged {name : String} {form : Form} (isForm : v.form = .tagged name [form])
      (noArray : name ≠ "Array") :
      ofJsonWithin? (fuel + 1) v.form.toJson = ofContent? name form.toJson := by
    simp [isForm, Form.toJson, Form.content, ofJsonWithin?, Json.case?]
  cases v with
  | array items => exact absurd rfl (single items)
  | null => simp [form, Form.toJson, ofJsonWithin?, Json.case?, floats]
  | bool | int | float | text | json | date | timestamp | uuid =>
      rw [tagged rfl (by decide)]
      simp [ofContent?, Form.toJson, floats]

/-- A list is read back exactly if its items are, from a bound that is smaller by one. -/
theorem ofJsonWithin?_array (fuel : Nat) (items : List Value) :
    ofJsonWithin? (fuel + 1) (array items).form.toJson = some (array items) ↔
      ∀ v ∈ items, ofJsonWithin? fuel v.form.toJson = some v := by
  rw [← mapM_map_eq_some_iff (fun v => v.form.toJson) (ofJsonWithin? fuel)]
  simp [form, forms_eq, Form.toJson, Form.content, ofJsonWithin?, Json.case?,
    Function.comp_def, Option.bind_eq_some_iff]

/-- A value is read back from every bound that the depth of its document keeps to, exactly if its
numbers are finite. -/
theorem ofJsonWithin?_form (v : Value) {fuel : Nat} (deep : v.form.toJson.depth ≤ fuel) :
    ofJsonWithin? fuel v.form.toJson = some v ↔ ∀ x ∈ v.floats, x.isFinite = true := by
  induction v using items_induction generalizing fuel with
  | single v single =>
      obtain ⟨_, rfl⟩ := Nat.exists_eq_add_one.mpr (v.form.toJson.depth_pos.trans_le deep)
      exact ofJsonWithin?_single _ single
  | array items ih =>
      obtain ⟨fuel, rfl⟩ := Nat.exists_eq_add_one.mpr ((Json.depth_pos _).trans_le deep)
      rw [ofJsonWithin?_array, floats, floatsOfItems_eq, List.forall_mem_flatMap]
      refine forall₂_congr fun v inside => ih v inside ?_
      have inList : v.form.toJson.depth < (Form.list (items.map form)).toJson.depth :=
        Form.depth_list (List.mem_map_of_mem inside)
      have inWhole := Form.depth_tagged "Array" (.list (items.map form))
      rw [form, forms_eq] at deep
      omega

theorem ofStored?_form (v : Value) :
    ofStored? v.form.toJson = some v ↔ ∀ x ∈ v.floats, x.isFinite = true :=
  ofJsonWithin?_form v le_rfl

end Value

theorem PathSegment.ofJson?_form (s : PathSegment) : ofJson? s.form.toJson = some s := by
  cases s with
  | key name => rfl
  | index i => exact congrArg (Option.map index) (Json.int64?_int i)

@[simp]
theorem JsonPath.ofJson?_form (path : JsonPath) : ofJson? path.form.toJson = some path := by
  have segments : (path.segments.map (Form.toJson ∘ PathSegment.form)).mapM PathSegment.ofJson? =
      some path.segments :=
    (mapM_map_eq_some_iff _ _ _).mpr fun s _ => s.ofJson?_form
  simp [form, Form.toJson, Form.fieldsToJson, ofJson?, Json.recordFields?_ofFields,
    Json.field?_ofFields, segments]

@[simp]
theorem Boundary.ofJson?_form (b : Boundary) : ofJson? b.form.toJson = some b := by
  cases b with
  | unboundedPreceding | currentRow | unboundedFollowing => rfl
  | preceding n | following n =>
      simp [form, Form.toJson, Form.content, ofJson?, Json.case?]

@[simp]
theorem Frame.ofJson?_form (f : Frame) : ofJson? f.form.toJson = some f := by
  simp [form, Form.toJson, Form.fieldsToJson, ofJson?, Json.recordFields?_ofFields,
    Json.field?_ofFields]

end SqlCompose
