/-
# Text constants that take a type

A text that is compared with a declared column takes the type of that column before it is
written.  For dates, timestamps and UUIDs the text is read and another value is bound in its
place, for most other types the text is bound as it is and cast around its placeholder, and
nothing else in the expression changes: not what is written around the values, not their
number and not their order, although a list of constants becomes a list of expressions on the
way (`Expr.typed_retypes`).

To say which text takes which type, each value of an expression is put into a slot with the
column that it is compared with.  The slots of an expression are found in the expression as it
is given, and a template with its slots determines the typed template up to what is read
from the texts (`Template.Retyped`).
-/

import SqlCompose.Proofs.Placeholders
import SqlCompose.Proofs.Refusals
import SqlCompose.Typing

namespace SqlCompose

/-! ## Slots -/

namespace Column

/-- The type to which a text is cast for a column; nothing for a column whose texts stay as
they are or are read. -/
def castName (column : Column) : Option String :=
  match column.type with
  | .text | .json | .jsonb | .date | .timestamp | .uuid => none
  | type => some type.sqlName

/-- Whether a value is what a column has bound for a text: the date, timestamp or UUID that is
read from it, and for the other types the text itself. -/
def Binds (column : Column) (text : String) (bound : Value) : Prop :=
  match column.type with
  | .date => ∃ date, Date.read text = .ok date ∧ bound = .date date
  | .timestamp => ∃ timestamp, Timestamp.read text = .ok timestamp ∧ bound = .timestamp timestamp
  | .uuid => ∃ uuid, Uuid.read text = .ok uuid ∧ bound = .uuid uuid
  | _ => bound = .text text

end Column

/-- An expression within a cast, if there is one. -/
def Expr.castTo (e : Expr) : Option String → Expr
  | none => e
  | some type => .cast e type

/-- A value of an expression, and the column from which it takes its type if it is a text. -/
structure Slot where
  value : Value
  column : Option Column

namespace Slot

/-- A value that takes no type. -/
def free (v : Value) : Slot :=
  ⟨v, none⟩

/-- The type to which the value of a slot is cast. -/
def castName : Slot → Option String
  | ⟨.text _, some column⟩ => column.castName
  | _ => none

/-- Whether a value is what is bound for a slot. -/
def Binds : Slot → Value → Prop
  | ⟨.text text, some column⟩, bound => column.Binds text bound
  | slot, bound => bound = slot.value

/-- What is written for a slot around its place. -/
def spell (slot : Slot) (place : String) : String :=
  match slot.castName with
  | none => place
  | some type => "CAST(" ++ place ++ " AS " ++ type ++ ")"

theorem spell_of_uncast (slot : Slot) (uncast : slot.castName = none) (place : String) :
    slot.spell place = place := by
  rw [spell, uncast]

theorem spell_of_cast (slot : Slot) {type : String} (isCast : slot.castName = some type)
    (place : String) : slot.spell place = "CAST(" ++ place ++ " AS " ++ type ++ ")" := by
  rw [spell, isCast]

/-- What is written for the value of a number, given what is written for its place. -/
def spellAt (slots : List Slot) (place : Nat → String) : Nat → String
  | 0 => place 0
  | n + 1 => (slots[n]?.map fun slot => slot.spell (place (n + 1))).getD (place (n + 1))

@[simp]
theorem free_value (v : Value) : (free v).value = v := rfl

@[simp]
theorem free_column (v : Value) : (free v).column = none := rfl

@[simp]
theorem free_binds (v bound : Value) : (free v).Binds bound ↔ bound = v := by
  cases v <;> rfl

@[simp]
theorem free_spell (v : Value) (place : String) : (free v).spell place = place := by
  cases v <;> rfl

end Slot

/-- The slots of a value that is compared with a column. -/
def Value.slots (column : Column) (v : Value) : List Slot :=
  v.template.values.map fun single => ⟨single, some column⟩

namespace Expr

/-- The slots of an expression whose values take no type. -/
def freeSlots (e : Expr) : List Slot :=
  e.values.map Slot.free

mutual

/-- The values of a predicate in the order in which they are bound, each with the column it is
compared with: a constant that stands on the right of a comparison with a column, or that
bounds a range of one. -/
def slots (schema : Schema) : Expr → List Slot
  | .compare left op right =>
    match left.declaredColumn? schema, right with
    | some declared, .literal v => v.slots declared
    | _, right => (compare left op right).freeSlots
  | .between expr low high symmetric =>
    match expr.declaredColumn? schema, low, high with
    | some declared, .literal low, .literal high => low.slots declared ++ high.slots declared
    | _, low, high => (between expr low high symmetric).freeSlots
  | .logical _ operands => operandSlots schema operands
  | e => e.freeSlots

/-- The slots of the operands of a connective. -/
def operandSlots (schema : Schema) : List Expr → List Slot
  | [] => []
  | e :: rest => e.slots schema ++ operandSlots schema rest

end

end Expr

/-! ## Typed templates -/

namespace Piece

/-- A text depends only on what stands for the numbers in it. -/
theorem spell_congr {name other : Nat → String} {ps : List Piece}
    (same : ∀ n ∈ numbers ps, name n = other n) : spell name ps = spell other ps := by
  induction ps with
  | nil => rfl
  | cons p rest ih =>
      cases p with
      | text sql => rw [spell, spell, ih same]
      | place n =>
          rw [numbers, List.forall_mem_cons] at same
          rw [spell, spell, same.1, ih same.2]

end Piece

namespace Template

@[simp]
theorem pieces_append (bound : Nat) (first second : Template) :
    (first ++ second).pieces bound = first.pieces bound ++ second.pieces (bound + first.size) := rfl

/-- Whether one template is another with the values in its slots typed. -/
inductive Retyped : List Slot → Template → Template → Prop where
  | same (t : Template) : Retyped (t.values.map Slot.free) t t
  | bare {slot : Slot} {bound : Value} (binds : slot.Binds bound) (uncast : slot.castName = none) :
      Retyped [slot] (.value slot.value) (.value bound)
  | cast {slot : Slot} {bound : Value} {type : String} (binds : slot.Binds bound)
      (isCast : slot.castName = some type) :
      Retyped [slot] (.value slot.value)
        (.enclosed "CAST(" (.value bound) (" AS " ++ type ++ ")"))
  | append {firstSlots secondSlots : List Slot} {first first' second second' : Template}
      (before : Retyped firstSlots first first') (behind : Retyped secondSlots second second') :
      Retyped (firstSlots ++ secondSlots) (first ++ second) (first' ++ second')

namespace Retyped

variable {slots : List Slot} {t t' : Template}

/-- A template without values stays as it is. -/
theorem unchanged (t : Template) (noValues : t.values = []) : Retyped [] t t := by
  simpa [noValues] using same t

theorem text (sql : String) : Retyped [] (.text sql) (.text sql) :=
  unchanged (.text sql) rfl

/-- A text before a template. -/
theorem behind (sql : String) (inner : Retyped slots t t') :
    Retyped slots (.text sql ++ t) (.text sql ++ t') :=
  (text sql).append inner

/-- A text behind a template. -/
theorem before (inner : Retyped slots t t') (sql : String) :
    Retyped slots (t ++ .text sql) (t' ++ .text sql) := by
  have whole := inner.append (text sql)
  rwa [List.append_nil] at whole

theorem enclosed (opening : String) (inner : Retyped slots t t') (closing : String) :
    Retyped slots (.enclosed opening t closing) (.enclosed opening t' closing) :=
  (inner.behind opening).before closing

theorem bracketed (needed : Bool) (inner : Retyped slots t t') :
    Retyped slots (.bracketed needed t) (.bracketed needed t') := by
  cases needed with
  | false => exact inner
  | true => exact inner.enclosed "(" ")"

/-- Templates are typed in a row if they are one by one. -/
theorem separated {α β : Type} {f : α → List Slot} {g : α → Template} {h : β → Template}
    (separator : String) {as : List α} {bs : List β}
    (each : List.Forall₂ (fun a b => Retyped (f a) (g a) (h b)) as bs) :
    Retyped (as.flatMap f) (.separated separator (as.map g)) (.separated separator (bs.map h)) := by
  induction each with
  | nil => exact text ""
  | @cons a b as bs first rest ih =>
      cases rest with
      | nil => simpa [Template.separated] using first
      | cons _ _ => exact (first.before separator).append ih

theorem map_value (typed : Retyped slots t t') : slots.map Slot.value = t.values := by
  induction typed with
  | same t => simp [Function.comp_def]
  | bare | cast => rfl
  | append _ _ ihFirst ihSecond => rw [List.map_append, ihFirst, ihSecond, values_append]

theorem length_slots (typed : Retyped slots t t') : slots.length = t.size := by
  rw [size, ← typed.map_value, List.length_map]

/-- The values of the typed template are those that are bound for the slots. -/
theorem binds (typed : Retyped slots t t') : List.Forall₂ Slot.Binds slots t'.values := by
  induction typed with
  | same t => simp [List.forall₂_map_left_iff, List.forall₂_same]
  | bare binds _ => exact .cons binds .nil
  | cast binds _ => exact .cons binds .nil
  | append _ _ ihFirst ihSecond => exact List.rel_append ihFirst ihSecond

theorem size_eq (typed : Retyped slots t t') : t'.size = t.size := by
  rw [← typed.length_slots, size, typed.binds.length_eq]

/-- The typed template has the pieces of the other one, each place with a cast around it if
its slot has one. -/
theorem spell_pieces (typed : Retyped slots t t') (name other : Nat → String) (bound : Nat)
    (named : ∀ i (h : i < slots.length),
      other (bound + i + 1) = slots[i].spell (name (bound + i + 1))) :
    Piece.spell name (t'.pieces bound) = Piece.spell other (t.pieces bound) := by
  induction typed generalizing bound with
  | same t =>
      apply Piece.spell_congr
      intro n placed
      obtain ⟨above, within⟩ := mem_numbers placed
      obtain ⟨i, rfl⟩ : ∃ i, n = bound + i + 1 := ⟨n - bound - 1, by omega⟩
      have inRange : i < (t.values.map Slot.free).length := by
        rw [List.length_map]
        exact (by omega : i < t.size)
      simpa using (named i inRange).symm
  | @bare slot bound binds uncast =>
      have here := named 0 (by simp)
      simpa [pieces, Piece.spell, Slot.spell_of_uncast slot uncast] using here.symm
  | @cast slot bound type binds isCast =>
      have here := named 0 (by simp)
      simpa [Template.enclosed, pieces, Piece.spell, Slot.spell_of_cast slot isCast,
        String.append_assoc] using here.symm
  | @append firstSlots secondSlots first first' second second' before behind ihFirst ihSecond =>
      have firstNamed := ihFirst bound fun i h => by
        have := named i (by simp; omega)
        simpa [List.getElem_append_left h] using this
      have secondNamed := ihSecond (bound + first.size) fun i h => by
        have := named (firstSlots.length + i) (by simp; omega)
        simpa [Nat.add_assoc, before.length_slots] using this
      rw [pieces_append, pieces_append, Piece.spell_append, Piece.spell_append, firstNamed,
        before.size_eq, secondNamed]

/-- A value that takes a type has its place in the text. -/
theorem placed (typed : Retyped slots t t') (bound : Nat) {i : Nat} (h : i < slots.length)
    (isTyped : slots[i].column ≠ none) : bound + i + 1 ∈ t.numbers bound := by
  induction typed generalizing bound i with
  | same t => simp at isTyped
  | bare | cast =>
      obtain rfl : i = 0 := by simpa using h
      simp [numbers, pieces, Piece.numbers]
  | @append firstSlots secondSlots first first' second second' before behind ihFirst ihSecond =>
      rw [show first ++ second = first.append second from rfl, numbers_append, List.mem_append]
      by_cases inFirst : i < firstSlots.length
      · left
        apply ihFirst bound inFirst
        rwa [List.getElem_append_left inFirst] at isTyped
      · right
        rw [List.length_append] at h
        have inSecond : i - firstSlots.length < secondSlots.length := by omega
        have there := ihSecond (bound + first.size) inSecond
          (by rwa [List.getElem_append_right (by omega)] at isTyped)
        rw [← before.length_slots] at there ⊢
        convert there using 1
        omega

end Retyped

end Template

/-! ## Typed values -/

namespace Column

open Template (Retyped)

variable {c : Column} {text : String} {e : Expr}

/-- A text for a column becomes the constant that is bound for it, within the cast to the type
of the column if there is one. -/
theorem typedText_eq_ok_iff :
    c.typedText text = .ok e ↔
      ∃ bound, c.Binds text bound ∧ e = (Expr.literal bound).castTo c.castName := by
  unfold typedText Binds castName
  cases c.type with
  | date => cases Date.read text <;> simp [Expr.castTo, eq_comm]
  | timestamp => cases Timestamp.read text <;> simp [Expr.castTo, eq_comm]
  | uuid => cases Uuid.read text <;> simp [Expr.castTo, eq_comm]
  | _ => simp [Expr.castTo, eq_comm]

theorem Binds.template_eq {bound : Value} (binds : c.Binds text bound) :
    bound.template = .value bound := by
  unfold Binds at binds
  split at binds
  case h_1 | h_2 | h_3 =>
    obtain ⟨_, -, rfl⟩ := binds
    rfl
  case h_4 =>
    obtain rfl := binds
    rfl

theorem retyped_typedText (typed : c.typedText text = .ok e) :
    Retyped [⟨.text text, some c⟩] (.value (.text text)) e.template := by
  obtain ⟨bound, binds, rfl⟩ := typedText_eq_ok_iff.mp typed
  have slotBinds : Slot.Binds ⟨.text text, some c⟩ bound := binds
  cases type : c.castName with
  | none =>
      rw [Expr.castTo, Expr.template, binds.template_eq]
      exact .bare slotBinds type
  | some type =>
      rw [Expr.castTo, Expr.template, Expr.template, binds.template_eq]
      exact .cast slotBinds ‹_›

/-- A constant that is neither NULL nor a list becomes such a constant, within a cast or not. -/
theorem castTo_of_typedValue {v : Value} (notNull : v ≠ .null) (noList : ∀ items, v ≠ .array items)
    (typed : c.typedValue v = .ok e) :
    ∃ bound type, e = (Expr.literal bound).castTo type ∧ bound ≠ .null ∧
      ∀ items, bound ≠ .array items := by
  unfold typedValue at typed
  split at typed
  case h_1 item rest => exact (noList _ rfl).elim
  case h_2 text =>
    obtain ⟨bound, binds, rfl⟩ := typedText_eq_ok_iff.mp typed
    have single := binds.template_eq
    refine ⟨bound, c.castName, rfl, ?_, ?_⟩
    · rintro rfl
      simp [Value.template] at single
    · rintro items rfl
      simp [Value.template, Template.enclosed, HAppend.hAppend, Append.append] at single
  case h_3 =>
    obtain rfl := Except.ok.inj typed
    exact ⟨v, none, rfl, notNull, noList⟩

theorem isInfix_typedValue {v : Value} (typed : c.typedValue v = .ok e) : e.isInfix = false := by
  unfold typedValue at typed
  split at typed
  case h_1 item rest =>
    obtain ⟨item', -, typed⟩ := bind_eq_ok_iff.mp typed
    obtain ⟨rest', -, typed⟩ := bind_eq_ok_iff.mp typed
    obtain rfl := pure_eq_ok_iff.mp typed
    rfl
  case h_2 text =>
    obtain ⟨bound, -, rfl⟩ := typedText_eq_ok_iff.mp typed
    cases c.castName <;> rfl
  case h_3 =>
    obtain rfl := Except.ok.inj typed
    rfl

theorem slots_list (items : List Value) :
    (Value.array items).slots c = items.flatMap (Value.slots c) := by
  simp only [Value.slots, Value.template, Template.enclosed, Value.templates_eq,
    Template.values_append, Template.values_separated, Template.values_text, List.nil_append,
    List.append_nil, List.flatMap_map, List.map_flatMap]
  rfl

mutual

/-- A value is typed by typing the texts in it. -/
theorem retyped_typedValue : ∀ {v : Value} {e : Expr}, c.typedValue v = .ok e →
    Retyped (v.slots c) v.template e.template
  | .array (item :: rest), e, typed => by
      obtain ⟨item', typedItem, typed⟩ := bind_eq_ok_iff.mp typed
      obtain ⟨rest', typedRest, typed⟩ := bind_eq_ok_iff.mp typed
      obtain rfl := pure_eq_ok_iff.mp typed
      have list := Retyped.separated ", "
        (.cons (retyped_typedValue typedItem) (retyped_typedValues typedRest))
      rw [slots_list, Value.template, Value.templates_eq, Expr.template, Expr.templates_eq]
      exact list.enclosed "ARRAY[" "]"
  | .text text, e, typed => retyped_typedText typed
  | .array [], _, rfl | .null, _, rfl | .bool _, _, rfl => .unchanged _ rfl
  | .int _, _, rfl | .float _, _, rfl | .json _, _, rfl | .date _, _, rfl | .timestamp _, _, rfl
  | .uuid _, _, rfl => .bare rfl rfl

theorem retyped_typedValues : ∀ {vs : List Value} {es : List Expr}, c.typedValues vs = .ok es →
    List.Forall₂ (fun v e => Retyped (v.slots c) v.template e.template) vs es
  | [], _, rfl => .nil
  | item :: rest, es, typed => by
      obtain ⟨item', typedItem, typed⟩ := bind_eq_ok_iff.mp typed
      obtain ⟨rest', typedRest, typed⟩ := bind_eq_ok_iff.mp typed
      obtain rfl := pure_eq_ok_iff.mp typed
      exact .cons (retyped_typedValue typedItem) (retyped_typedValues typedRest)

end

end Column

/-! ## Typed predicates -/

namespace Expr

open Template (Retyped)

variable {schema : Schema}

/-- Only a column is declared, and a column has no values. -/
theorem values_of_declared {e : Expr} {c : Column} (declared : e.declaredColumn? schema = some c) :
    e.values = [] := by
  cases e with
  | column name => rfl
  | _ => simp [declaredColumn?] at declared

/-- A constant is bound behind the left side of its comparison, however that is written. -/
theorem values_constantTemplate (left : Expr) (leftTemplate : Template) (op : Comparison)
    (v : Value) :
    (constantTemplate left leftTemplate op v).values = leftTemplate.values ++ v.template.values := by
  unfold constantTemplate
  split <;> simp [Template.values, Value.template, Value.templates]

theorem template_compare_castTo (left : Expr) (op : Comparison) {v : Value} (notNull : v ≠ .null)
    (noList : ∀ items, v ≠ .array items) (type : Option String) :
    (compare left op ((literal v).castTo type)).template =
      .bracketed left.isInfix left.template ++ .text (" " ++ op.symbol ++ " ") ++
        .bracketed op.takesList ((literal v).castTo type).template := by
  cases type with
  | none => simp only [castTo, template, constantTemplate_single left _ op notNull noList]
  | some type => simp only [castTo, template, isInfix, Bool.or_false]

/-- A constant that is compared with a column is typed where it stands, whether the comparison
is a test for NULL, asks for a list or is decided at once. -/
theorem retyped_compare {left right : Expr} {c : Column} {v : Value} (op : Comparison)
    (leftFree : left.values = []) (typed : c.typedValue v = .ok right) :
    Retyped (v.slots c) (compare left op (.literal v)).template
      (compare left op right).template := by
  have leftSame : Retyped []
      (.bracketed left.isInfix left.template ++ .text (" " ++ op.symbol ++ " "))
      (.bracketed left.isInfix left.template ++ .text (" " ++ op.symbol ++ " ")) :=
    ((Retyped.unchanged left.template leftFree).bracketed left.isInfix).before _
  have unchanged (noValues : v.template.values = []) :
      Retyped [] (compare left op (.literal v)).template
        (compare left op (.literal v)).template := by
    apply Retyped.unchanged
    rw [template, values_constantTemplate, noValues, List.append_nil]
    exact leftFree
  by_cases notNull : v = .null
  · subst notNull
    obtain rfl := Except.ok.inj typed
    exact unchanged rfl
  by_cases noList : ∃ items, v = .array items
  · obtain ⟨items, rfl⟩ := noList
    cases items with
    | nil =>
        obtain rfl := Except.ok.inj typed
        exact unchanged rfl
    | cons item rest =>
        obtain ⟨item', typedItem, typed⟩ := bind_eq_ok_iff.mp typed
        obtain ⟨rest', typedRest, typed⟩ := bind_eq_ok_iff.mp typed
        obtain rfl := pure_eq_ok_iff.mp typed
        -- Items are now expressions: another rule writes them, with the same brackets.
        have list := Retyped.separated ", "
          (.cons (Column.retyped_typedValue typedItem) (Column.retyped_typedValues typedRest))
        rw [template, constantTemplate_list, template, templates_eq, Column.slots_list]
        exact leftSame.append (list.enclosed _ _)
  · rw [not_exists] at noList
    -- What is read from a text is never NULL or a list, so no other rule can apply to it.
    obtain ⟨bound, type, rfl, notNullBound, noListBound⟩ :=
      Column.castTo_of_typedValue notNull noList typed
    rw [template_compare_castTo left op notNullBound noListBound, template,
      constantTemplate_single left _ op notNull noList]
    exact leftSame.append ((Column.retyped_typedValue typed).bracketed op.takesList)

theorem retyped_between {e low high : Expr} {c : Column} {lowValue highValue : Value}
    (symmetric : Bool) (free : e.values = []) (typedLow : c.typedValue lowValue = .ok low)
    (typedHigh : c.typedValue highValue = .ok high) :
    Retyped (lowValue.slots c ++ highValue.slots c)
      (between e (.literal lowValue) (.literal highValue) symmetric).template
      (between e low high symmetric).template := by
  have retypedLow := Column.retyped_typedValue typedLow
  have retypedHigh := Column.retyped_typedValue typedHigh
  have same := (Retyped.unchanged e.template free).bracketed e.isInfix
  have opened := same.before (if symmetric then " BETWEEN SYMMETRIC " else " BETWEEN ")
  have whole := ((opened.append retypedLow).before " AND ").append retypedHigh
  simp only [template, Column.isInfix_typedValue typedLow, Column.isInfix_typedValue typedHigh]
  exact whole

theorem typedOperands_eq (es : List Expr) : typedOperands schema es = es.mapM (typed schema) := by
  induction es with
  | nil => rfl
  | cons e rest ih => simp [typedOperands, ih]

theorem forall₂_of_typedOperands {es es' : List Expr}
    (isTyped : typedOperands schema es = .ok es') :
    List.Forall₂ (fun e e' => e.typed schema = .ok e') es es' := by
  rw [typedOperands_eq, mapM_eq_ok_iff] at isTyped
  exact isTyped

theorem isCompoundLogical_typed {e e' : Expr} (typed : e.typed schema = .ok e') :
    e'.isCompoundLogical = e.isCompoundLogical := by
  cases e with
  | compare left op right =>
      obtain ⟨right', -, typed⟩ := bind_eq_ok_iff.mp typed
      obtain rfl := pure_eq_ok_iff.mp typed
      rfl
  | between e low high symmetric =>
      obtain ⟨bounds, -, typed⟩ := bind_eq_ok_iff.mp typed
      obtain rfl := pure_eq_ok_iff.mp typed
      rfl
  | logical op operands =>
      obtain ⟨operands', typedOperands, typed⟩ := bind_eq_ok_iff.mp typed
      obtain rfl := pure_eq_ok_iff.mp typed
      cases forall₂_of_typedOperands typedOperands with
      | nil => rfl
      | cons first rest => cases rest <;> rfl
  | _ =>
      obtain rfl := Except.ok.inj typed
      rfl

theorem slots_compare_of_declared {left : Expr} {c : Column} (op : Comparison) (v : Value)
    (declared : left.declaredColumn? schema = some c) :
    (compare left op (.literal v)).slots schema = v.slots c := by
  simp [slots, declared]

theorem slots_between_of_declared {e : Expr} {c : Column} (low high : Value) (symmetric : Bool)
    (declared : e.declaredColumn? schema = some c) :
    (between e (.literal low) (.literal high) symmetric).slots schema =
      low.slots c ++ high.slots c := by
  simp [slots, declared]

theorem operandSlots_eq (es : List Expr) : operandSlots schema es = es.flatMap (slots schema) := by
  induction es with
  | nil => rfl
  | cons e rest ih => simp [operandSlots, ih]

theorem retyped_logical (op : Connective) {operands operands' : List Expr}
    (each : List.Forall₂ (fun e e' => e'.isCompoundLogical = e.isCompoundLogical ∧
      Retyped (e.slots schema) e.template e'.template) operands operands') :
    Retyped ((logical op operands).slots schema) (logical op operands).template
      (logical op operands').template := by
  have bracketed : List.Forall₂ (fun e e' => Retyped (e.slots schema)
      (.bracketed e.isCompoundLogical e.template)
      (.bracketed e'.isCompoundLogical e'.template)) operands operands' :=
    each.imp fun e e' retyped => retyped.1 ▸ retyped.2.bracketed _
  rw [slots, operandSlots_eq]
  match each with
  | .nil => exact .text op.neutral
  | .cons single .nil =>
      rw [List.flatMap_singleton]
      exact single.2
  | .cons _ (.cons _ _) =>
      rw [template_logical, template_logical]
      exact Retyped.separated _ bracketed

/-- A predicate is typed by typing the texts in it that are compared with columns. -/
theorem retyped_typed {e e' : Expr} (typed : e.typed schema = .ok e') :
    Retyped (e.slots schema) e.template e'.template := by
  induction e using children_induction generalizing e' with
  | step e ih =>
      cases e with
      | compare left op right =>
          obtain ⟨right', typedRight, typed⟩ := bind_eq_ok_iff.mp typed
          obtain rfl := pure_eq_ok_iff.mp typed
          unfold Expr.typedRight at typedRight
          split at typedRight
          case h_1 c v declared =>
            rw [slots_compare_of_declared op v declared]
            exact retyped_compare op (values_of_declared declared) typedRight
          case h_2 undeclared =>
            obtain rfl := Except.ok.inj typedRight
            rw [slots]
            · exact .same _
            · exact undeclared
      | between e low high symmetric =>
          obtain ⟨⟨low', high'⟩, typedBounds, typed⟩ := bind_eq_ok_iff.mp typed
          obtain rfl := pure_eq_ok_iff.mp typed
          unfold Expr.typedBounds at typedBounds
          split at typedBounds
          case h_1 c lowValue highValue declared =>
            obtain ⟨low', typedLow, typedBounds⟩ := bind_eq_ok_iff.mp typedBounds
            obtain ⟨high', typedHigh, typedBounds⟩ := bind_eq_ok_iff.mp typedBounds
            obtain ⟨rfl, rfl⟩ := Prod.mk.inj (pure_eq_ok_iff.mp typedBounds)
            rw [slots_between_of_declared lowValue highValue symmetric declared]
            exact retyped_between symmetric (values_of_declared declared) typedLow typedHigh
          case h_2 undeclared =>
            obtain ⟨rfl, rfl⟩ := Prod.mk.inj (Except.ok.inj typedBounds)
            rw [slots]
            · exact .same _
            · exact undeclared
      | logical op operands =>
          obtain ⟨operands', typedOperands, typed⟩ := bind_eq_ok_iff.mp typed
          obtain rfl := pure_eq_ok_iff.mp typed
          have each := (List.forall₂_and_left _ _).mpr ⟨ih, forall₂_of_typedOperands typedOperands⟩
          exact retyped_logical op (each.imp fun e e' typed =>
            ⟨isCompoundLogical_typed typed.2, typed.1 typed.2⟩)
      | _ =>
          obtain rfl := Except.ok.inj typed
          exact .same _

theorem mem_columns_of_declared {e : Expr} {c : Column}
    (declared : e.declaredColumn? schema = some c) : c ∈ schema.columns := by
  cases e with
  | column name => exact List.mem_of_find?_eq_some declared
  | _ => simp [declaredColumn?] at declared

theorem column_of_mem_slots {v : Value} {c : Column} {slot : Slot} (inSlots : slot ∈ v.slots c) :
    slot.column = some c := by
  obtain ⟨single, -, rfl⟩ := List.mem_map.mp inSlots
  rfl

theorem column_of_mem_freeSlots {e : Expr} {slot : Slot} (inSlots : slot ∈ e.freeSlots) :
    slot.column = none := by
  obtain ⟨single, -, rfl⟩ := List.mem_map.mp inSlots
  rfl

/-- A text takes the type of a column that is declared. -/
theorem mem_columns_of_mem_slots {e : Expr} {slot : Slot} {c : Column}
    (inSlots : slot ∈ e.slots schema) (typed : slot.column = some c) : c ∈ schema.columns := by
  have notFree {e : Expr} (inSlots : slot ∈ e.freeSlots) : c ∈ schema.columns := by
    simp [column_of_mem_freeSlots inSlots] at typed
  have ofValue {v : Value} {declared : Column} (inSlots : slot ∈ v.slots declared)
      (isDeclared : declared ∈ schema.columns) : c ∈ schema.columns := by
    rw [column_of_mem_slots inSlots] at typed
    exact Option.some.inj typed ▸ isDeclared
  induction e using children_induction with
  | step e ih =>
      unfold slots at inSlots
      split at inSlots
      case h_1 left op right =>
        split at inSlots
        case h_1 declared _ isDeclared =>
          exact ofValue inSlots (mem_columns_of_declared isDeclared)
        case h_2 => exact notFree inSlots
      case h_2 e low high symmetric =>
        split at inSlots
        case h_1 declared _ _ isDeclared =>
          rcases List.mem_append.mp inSlots with inLow | inHigh
          · exact ofValue inLow (mem_columns_of_declared isDeclared)
          · exact ofValue inHigh (mem_columns_of_declared isDeclared)
        case h_2 => exact notFree inSlots
      case h_3 op operands =>
        rw [operandSlots_eq] at inSlots
        obtain ⟨operand, child, inSlots⟩ := List.mem_flatMap.mp inSlots
        exact ih operand child inSlots
      case h_4 => exact notFree inSlots

/-- Typing a predicate changes its texts and nothing else.  Its values are those of the slots, as
many as before and in the same order, each of them the value that was there or, for a text
that is compared with a date, timestamp or UUID column, what is read from the text.  And it
is written with the pieces of the predicate that was given, behind any values, some of
its placeholders within a cast to the type of the column that is compared. -/
theorem typed_retypes {e e' : Expr} (typed : e.typed schema = .ok e') :
    (e.slots schema).map Slot.value = e.values ∧
      (∀ slot ∈ e.slots schema, ∀ c, slot.column = some c → c ∈ schema.columns) ∧
      List.Forall₂ Slot.Binds (e.slots schema) e'.values ∧
      ∀ b : Bindings,
        e.bind b =
          (Piece.spell (fun n => placeholder (b.index + n)) e.pieces,
            ⟨b.index + e.values.length, b.values ++ e.values⟩) ∧
        e'.bind b =
          (Piece.spell (Slot.spellAt (e.slots schema) fun n => placeholder (b.index + n)) e.pieces,
            ⟨b.index + e.values.length, b.values ++ e'.values⟩) := by
  have retyped := retyped_typed typed
  refine ⟨retyped.map_value, fun slot inSlots c => mem_columns_of_mem_slots inSlots, retyped.binds, ?_⟩
  intro b
  refine ⟨e.bind_eq_spell b, ?_⟩
  have size : e'.values.length = e.values.length := retyped.size_eq
  have text : Piece.spell (fun n => placeholder (b.index + n)) e'.pieces =
      Piece.spell (Slot.spellAt (e.slots schema) fun n => placeholder (b.index + n)) e.pieces := by
    apply retyped.spell_pieces
    intro i inRange
    simp [Slot.spellAt, inRange]
  rw [e'.bind_eq_spell, text, size]

/-- A day among the items of a list is read and bound as a date, and a span of time is cast. -/
theorem typed_day_and_span :
    let schema : Schema := ⟨"employees", [⟨"hired_at", .date⟩, ⟨"shift", .interval⟩]⟩
    let e : Expr := .logical .and
      [.compare (.column "hired_at") .isIn (.literal (.array [.null, .text " 2020-01-01"])),
        .compare (.column "shift") .gt (.literal (.text "02:00:00"))]
    ∃ e', e.typed schema = .ok e' ∧
      e.bind ⟨1, [.int 7]⟩ =
        ("hired_at IN (NULL, $2) AND shift > $3",
          ⟨3, [.int 7, .text " 2020-01-01", .text "02:00:00"]⟩) ∧
      e'.bind ⟨1, [.int 7]⟩ =
        ("hired_at IN (NULL, $2) AND shift > CAST($3 AS interval)",
          ⟨3, [.int 7, .date ⟨2020, 1, 1, by decide, by decide⟩, .text "02:00:00"]⟩) := by
  intro schema e
  have day : Date.read " 2020-01-01" = .ok ⟨2020, 1, 1, by decide, by decide⟩ := by decide +kernel
  have typed : e.typed schema = .ok (.logical .and
      [.compare (.column "hired_at") .isIn
          (.array [.literal .null, .literal (.date ⟨2020, 1, 1, by decide, by decide⟩)]),
        .compare (.column "shift") .gt
          (.cast (.literal (.text "02:00:00")) "interval")]) := calc
    e.typed schema = (do
      let day ← (⟨"hired_at", .date⟩ : Column).typedText " 2020-01-01"
      return .logical .and
        [.compare (.column "hired_at") .isIn (.array [.literal .null, day]),
          .compare (.column "shift") .gt
            (.cast (.literal (.text "02:00:00")) "interval")]) := rfl
    _ = _ := by
      rw [Column.typedText, day]
      rfl
  obtain ⟨-, -, -, written⟩ := typed_retypes typed
  obtain ⟨given, retyped⟩ := written ⟨1, [.int 7]⟩
  exact ⟨_, typed, given, retyped⟩

end Expr

end SqlCompose
