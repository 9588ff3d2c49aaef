/-
# Texts of replies that are given back

A date, a timestamp or a UUID of a reply is decoded to a text, and the text may be given back: in
the criteria of another statement, as a document or built, or as a value that is assigned.
For a column of the same type it should be accepted and bound as the value that was
decoded, wherever it stands.  It is (`Replied.text_given_back`).

Three things are needed for this.  What is printed is read again, which is shown where the texts
are read.  Every use of a text that is meant here puts it into a slot of its column
(`Statement.mem_slots_of_uses`), and a slot is read by itself, so that no other value of the
statement can change what becomes of it.
-/

import SqlCompose.Criteria.Reader
import SqlCompose.Proofs.Acceptance
import SqlCompose.Proofs.CalendarTexts
import SqlCompose.Proofs.DayNumbers
import SqlCompose.Proofs.Joining
import SqlCompose.Proofs.UuidTexts

namespace SqlCompose

/-! ## Values that are decoded to texts -/

/-- A value of a reply that is decoded to a text of its type. -/
inductive Replied where
  | date (value : Date)
  | timestamp (value : Timestamp)
  | uuid (value : Uuid)

namespace Replied

/-- The cell of a column that holds the value. -/
def cell (column : String) : Replied → Cell
  | .date d => ⟨column, .scalar .date, some d⟩
  | .timestamp t => ⟨column, .scalar .timestamp, some t⟩
  | .uuid u => ⟨column, .scalar .uuid, some u⟩

/-- The type that a column of such values is declared with. -/
def columnType : Replied → ColumnType
  | .date _ => .date
  | .timestamp _ => .timestamp
  | .uuid _ => .uuid

def value : Replied → Value
  | .date d => .date d
  | .timestamp t => .timestamp t
  | .uuid u => .uuid u

/-- The value as it is sent with a statement. -/
def bound : Replied → Bound
  | .date d => .date d.dayNumber
  | .timestamp t => .timestamp t.microseconds
  | .uuid u => .uuid u

/-- Whether the value is what a server has sent in this form. -/
def SentAs : Replied → Bound → Prop
  | .date d, .date days => Date.ofDayNumber? days = some d
  | .timestamp t, .timestamp microseconds => Timestamp.ofMicroseconds? microseconds = some t
  | .uuid u, .uuid bytes => bytes = u
  | _, _ => False

def text : Replied → String
  | .date d => d.text
  | .timestamp t => t.text 'T'
  | .uuid u => u.text

variable (r : Replied)

theorem decode_cell (column : String) : (r.cell column).decode = .ok (.string r.text) := by
  cases r <;> rfl

/-- The text is read as the value that it was printed for. -/
theorem binds_text {c : Column} (ofType : c.type = r.columnType) : c.Binds r.text r.value := by
  cases r with
  | date d =>
      rw [Column.Binds, ofType]
      exact ⟨d, d.read_text, rfl⟩
  | timestamp t =>
      rw [Column.Binds, ofType]
      exact ⟨t, t.read_text, rfl⟩
  | uuid u =>
      rw [Column.Binds, ofType]
      exact ⟨u, u.read_text, rfl⟩

theorem bound_value : r.value.bound = .ok r.bound := by
  cases r <;> rfl

/-- What a server has sent is sent back. -/
theorem bound_of_sentAs {b : Bound} (sent : r.SentAs b) : r.bound = b := by
  unfold SentAs at sent
  split at sent
  case h_1 d days => exact congrArg Bound.date (Date.dayNumber_of_ofDayNumber? sent)
  case h_2 t microseconds =>
    exact congrArg Bound.timestamp (Timestamp.microseconds_of_ofMicroseconds? sent)
  case h_3 u bytes => exact congrArg Bound.uuid sent.symm
  case h_4 => exact sent.elim

end Replied

/-! ## Uses of a text -/

/-- Whether a condition compares a column with a text: with the text itself, with a list that it is
an item of, or with a range that it bounds. -/
inductive Condition.Asks (column text : String) : Condition → Prop where
  | compare (op : Comparison) : Asks column text (Predicate.compare column op (.text text))
  | item (op : Comparison) {items : List Value} (inItems : .text text ∈ items) :
      Asks column text (Predicate.compare column op (.array items))
  | low (high : Value) (symmetric : Bool) :
      Asks column text (Predicate.between column (.text text) high symmetric)
  | high (low : Value) (symmetric : Bool) :
      Asks column text (Predicate.between column low (.text text) symmetric)
  | left (op : Connective) {left : Condition} (right : Condition) (inLeft : Asks column text left) :
      Asks column text (.joined op left right)
  | right (op : Connective) (left : Condition) {right : Condition}
      (inRight : Asks column text right) : Asks column text (.joined op left right)

/-- Whether the document of a criterion compares its column with a text: the text alone, or behind
an operator the text or a list with it. -/
inductive Json.Asks (text : String) : Json → Prop where
  | equals : Asks text (.string text)
  | pair {word : String} {op : Comparison} (isOperator : Comparison.ofWord? word = some op) :
      Asks text (.array [.string word, .string text])
  | item {word : String} {op : Comparison} (isOperator : Comparison.ofWord? word = some op)
      (takesList : op.takesList = true) {items : List Json} (inItems : .string text ∈ items) :
      Asks text (.array [.string word, .array items])

/-- The condition of a criterion for its column. -/
def Criterion.condition (column : String) : Criterion → Condition
  | .equals value => Predicate.equals column value
  | .compare op value => Predicate.compare column op value
  | .built condition => condition column

theorem Criterion.expr_eq (column : String) (criterion : Criterion) :
    criterion.expr column = (criterion.condition column).expr := by
  cases criterion <;> rfl

namespace Statement

def criteria : Statement → Criteria
  | .select _ criteria | .update _ criteria | .delete criteria => criteria

/-- Whether a statement uses a text for a declared column: one of its criteria compares the column
with the text, be it built or read from a document, or the text is assigned to the column. -/
inductive Uses (schema : Schema) (c : Column) (text : String) : Statement → Prop where
  | built {s : Statement} {name column : String} {criterion : Criterion}
      (given : (name, criterion) ∈ s.criteria.entries)
      (asks : (criterion.condition name).Asks column text)
      (refers : (Expr.column column).declaredColumn? schema = some c) : Uses schema c text s
  | read {s : Statement} {fields : List (String × Json)} {name : String} {document : Json}
      (isRead : Criteria.read (.object fields) = .ok s.criteria)
      (given : (name, document) ∈ fields) (asks : document.Asks text)
      (refers : (Expr.column name).declaredColumn? schema = some c) : Uses schema c text s
  | assigned {assignments : List (String × Value)} {name : String} (criteria : Criteria)
      (given : (name, .text text) ∈ assignments) (declared : schema.find? name = some c) :
      Uses schema c text (.update assignments criteria)

end Statement

/-! ## Criteria that are read -/

namespace Criteria

/-- The document of a criterion is read, whatever the text in it. -/
theorem exists_readCriterion {document : Json} {text : String} (asks : document.Asks text) :
    ∃ criterion, readCriterion document = .ok criterion ∧
      ∀ column, (criterion.condition column).Asks column text := by
  cases asks with
  | equals => exact ⟨.equals (.text text), rfl, fun column => .compare .eq⟩
  | @pair word op isOperator =>
      refine ⟨.compare op (.text text), ?_, fun column => .compare op⟩
      rw [readCriterion, readPair, isOperator]
      rfl
  | @item word op isOperator takesList items inItems =>
      refine ⟨.compare op (.array (items.map Value.ofJson)), ?_, fun column => .item op ?_⟩
      · rw [readCriterion, readPair, isOperator]
        simp [pairValue, takesList]
      · exact List.mem_map_of_mem inItems (f := Value.ofJson)

/-- Every field of an object is read as a criterion. -/
theorem mem_of_readFields {fields : List (String × Json)} {entries : List (String × Criterion)}
    {column : String} {document : Json} (isRead : readFields fields = .ok entries)
    (inFields : (column, document) ∈ fields) :
    ∃ criterion, readCriterion document = .ok criterion ∧ (column, criterion) ∈ entries := by
  induction fields generalizing entries with
  | nil => cases inFields
  | cons field rest ih =>
      rw [readFields] at isRead
      split at isRead
      case h_1 => cases isRead
      case h_2 criterion readHere =>
        obtain ⟨others, readRest, rfl⟩ := map_eq_ok_iff.mp isRead
        rcases List.mem_cons.mp inFields with rfl | inRest
        · exact ⟨criterion, readHere, List.mem_cons_self⟩
        · obtain ⟨found, readThere, inOthers⟩ := ih readRest inRest
          exact ⟨found, readThere, List.mem_cons_of_mem _ inOthers⟩

end Criteria

/-! ## The slot of a text -/

section Slots

variable {schema : Schema} {c : Column} {text : String}

theorem Expr.slots_appendOperand (op : Connective) (left right : Expr) :
    (Condition.appendOperand op left right).slots schema =
      left.slots schema ++ right.slots schema := by
  fun_cases Condition.appendOperand op left right with
  | case1 a b rest => simp [slots, operandSlots_eq]
  | case2 | case3 => simp [slots, operandSlots_eq]

/-- A condition that compares a column with a text has a slot for it. -/
theorem Condition.Asks.mem_slots {column : String} {condition : Condition}
    (asks : condition.Asks column text)
    (refers : (Expr.column column).declaredColumn? schema = some c) :
    ⟨.text text, some c⟩ ∈ condition.expr.slots schema := by
  have single : (⟨.text text, some c⟩ : Slot) ∈ (Value.text text).slots c := .head _
  induction asks with
  | compare op =>
      show _ ∈ (Expr.compare (.column column) op (.literal (.text text))).slots schema
      rw [Expr.slots_compare_of_declared op _ refers]
      exact single
  | @item op items inItems =>
      show _ ∈ (Expr.compare (.column column) op (.literal (.array items))).slots schema
      rw [Expr.slots_compare_of_declared op _ refers, Column.slots_list]
      exact List.mem_flatMap.mpr ⟨_, inItems, single⟩
  | low high symmetric =>
      show _ ∈ (Expr.between (.column column) (.literal (.text text)) (.literal high)
        symmetric).slots schema
      rw [Expr.slots_between_of_declared _ high symmetric refers]
      exact List.mem_append_left _ single
  | high low symmetric =>
      show _ ∈ (Expr.between (.column column) (.literal low) (.literal (.text text))
        symmetric).slots schema
      rw [Expr.slots_between_of_declared low _ symmetric refers]
      exact List.mem_append_right _ single
  | left op right inLeft ih =>
      rw [expr, Expr.slots_appendOperand]
      exact List.mem_append_left _ ih
  | right op left inRight ih =>
      rw [expr, Expr.slots_appendOperand]
      exact List.mem_append_right _ ih

/-- The slots of criteria are those of each of them. -/
theorem Criteria.slots_expr (criteria : Criteria) :
    criteria.expr.slots schema = criteria.exprs.flatMap (Expr.slots schema) := by
  unfold Criteria.expr
  split
  case h_1 none =>
    rw [none]
    rfl
  case h_2 single isSingle => rw [isSingle, List.flatMap_singleton]
  case h_3 => rw [Expr.slots, Expr.operandSlots_eq]

namespace Statement

theorem predicate_given {s : Statement} {g : Given} (isGiven : s.given schema = .ok g) :
    g.predicate = givenPredicate s.criteria := by
  cases s with
  | select selections criteria =>
      obtain ⟨listed, -, isGiven⟩ := bind_eq_ok_iff.mp isGiven
      obtain rfl := pure_eq_ok_iff.mp isGiven
      rfl
  | update assignments criteria | delete criteria =>
      obtain rfl := Except.ok.inj isGiven
      rfl

/-- The slot of a criterion is one of the statement. -/
theorem mem_slots_of_criterion {s : Statement} {g : Given} {slot : Slot} {name : String}
    {criterion : Criterion} (isGiven : s.given schema = .ok g)
    (inCriteria : (name, criterion) ∈ s.criteria.entries)
    (inSlots : slot ∈ (criterion.expr name).slots schema) : slot ∈ g.slots schema := by
  have filled : ¬ s.criteria.entries.isEmpty := by
    intro empty
    rw [List.isEmpty_iff.mp empty] at inCriteria
    cases inCriteria
  have inExprs : criterion.expr name ∈ s.criteria.exprs :=
    List.mem_map.mpr ⟨(name, criterion), inCriteria, rfl⟩
  rw [Given.slots, predicate_given isGiven, givenPredicate, if_neg filled, Option.toList_some,
    List.flatMap_singleton, Criteria.slots_expr]
  exact List.mem_append_right _ (List.mem_flatMap.mpr ⟨_, inExprs, inSlots⟩)

/-- Wherever a statement uses a text for a column, it has a slot for the text and the column. -/
theorem mem_slots_of_uses {s : Statement} {g : Given} (isGiven : s.given schema = .ok g)
    (uses : s.Uses schema c text) : ⟨.text text, some c⟩ ∈ g.slots schema := by
  cases uses with
  | @built _ name column criterion inCriteria asks refers =>
      apply mem_slots_of_criterion isGiven inCriteria
      rw [Criterion.expr_eq]
      exact asks.mem_slots refers
  | @read _ fields name document isRead inFields asks refers =>
      obtain ⟨entries, readEntries, isCriteria⟩ := map_eq_ok_iff.mp isRead
      obtain ⟨criterion, readHere, inEntries⟩ := Criteria.mem_of_readFields readEntries inFields
      obtain ⟨found, readText, asksText⟩ := Criteria.exists_readCriterion asks
      obtain rfl : found = criterion := Except.ok.inj (readText.symm.trans readHere)
      have inCriteria : (name, found) ∈ s.criteria.entries := by
        rw [← isCriteria]
        exact inEntries
      apply mem_slots_of_criterion isGiven inCriteria
      rw [Criterion.expr_eq]
      exact (asksText name).mem_slots refers
  | @assigned assignments name criteria inAssignments declared =>
      obtain rfl := Except.ok.inj isGiven
      have inPart : ⟨.text text, some c⟩ ∈
          (givenAssignment schema (name, .text text)).slots := by
        rw [GivenPart.slots, givenAssignment, declared]
        exact .head _
      apply List.mem_append_left
      exact List.mem_flatMap.mpr ⟨_, List.mem_map_of_mem inAssignments, inPart⟩

end Statement

end Slots

/-! ## Texts that are given back -/

namespace Replied

/-- What a reply holds can be given back.  A date, a timestamp or a UUID is decoded to a text, and
a document that asks for the text is read as a criterion.  A statement that uses the text for
a column of the same type is compiled and bound if its other texts suit their columns.  Then
the text has its place in the statement, and for every such place the value is bound that
was decoded: the day, the moment or the bytes that the server sent. -/
theorem text_given_back (r : Replied) :
    ∃ text, (∀ column, (r.cell column).decode = .ok (.string text)) ∧
      (∀ document : Json, document.Asks text →
        ∃ criterion, Criteria.readCriterion document = .ok criterion) ∧
      (∀ b, r.SentAs b → r.bound = b) ∧
      ∀ (schema : Schema) (c : Column) (s : Statement) (g : Given), c.type = r.columnType →
        s.Uses schema c text → s.IsFilled → s.given schema = .ok g →
        (∀ slot ∈ g.slots schema, slot ≠ ⟨.text text, some c⟩ → ∃ v, slot.Binds v) →
        ∃ query bounds, s.compile schema = .ok query ∧ query.bind = .ok bounds ∧
          query.sql = Piece.spell (Slot.spellAt (g.slots schema) placeholder)
            ((s.template schema g.parts).pieces 0) ∧
          ⟨.text text, some c⟩ ∈ g.slots schema ∧
          ∀ i, (g.slots schema)[i]? = some ⟨.text text, some c⟩ →
            i + 1 ∈ (s.template schema g.parts).numbers 0 ∧
              query.params[i]? = some r.value ∧ bounds[i]? = some r.bound := by
  refine ⟨r.text, r.decode_cell, ?_, fun b => r.bound_of_sentAs, ?_⟩
  · intro document asks
    obtain ⟨criterion, isRead, -⟩ := Criteria.exists_readCriterion asks
    exact ⟨criterion, isRead⟩
  intro schema c s g ofType uses filled isGiven others
  have binds : ∀ slot ∈ g.slots schema, ∃ v, slot.Binds v := by
    intro slot inSlots
    by_cases isText : slot = ⟨.text r.text, some c⟩
    · exact isText ▸ ⟨r.value, r.binds_text ofType⟩
    · exact others slot inSlots isText
  obtain ⟨query, bounds, compiled, isBound, isRead⟩ :=
    Statement.exists_compile filled isGiven binds
  obtain ⟨g', isGiven', -, sql, -, placed⟩ := Statement.compile_given compiled
  obtain rfl : g = g' := Except.ok.inj (isGiven.symm.trans isGiven')
  refine ⟨query, bounds, compiled, isBound, sql, Statement.mem_slots_of_uses isGiven uses, ?_⟩
  intro i isSlot
  have isParam : query.params[i]? = some r.value := by
    apply getElem?_mapM isRead isSlot
    exact Slot.read_eq_ok_iff.mpr (r.binds_text ofType)
  obtain ⟨inRange, isHere⟩ := List.getElem?_eq_some_iff.mp isSlot
  have typed : (g.slots schema)[i].column ≠ none := by simp [isHere]
  exact ⟨placed i inRange typed, isParam, getElem?_mapM isBound isParam r.bound_value⟩

/-- A leap day of a year with five digits is an item of a list that a document gives. -/
theorem leap_day_given_back :
    let schema : Schema := ⟨"bookings", [⟨"day", .date⟩]⟩
    let document : Json := .object
      [("day", .array [.string "in", .array [.null, .string "+12024-02-29"]])]
    ∃ criteria query bounds, Criteria.read document = .ok criteria ∧
      (Statement.delete criteria).compile schema = .ok query ∧ query.bind = .ok bounds ∧
      query.params[0]? = some (.date ⟨12024, 2, 29, by decide, by decide⟩) ∧
      bounds[0]? = some (.date 3661250) := by
  intro schema document
  let day : Date := ⟨12024, 2, 29, by decide, by decide⟩
  obtain ⟨text, decoded, -, -, givenBack⟩ := text_given_back (.date day)
  have printed : day.text = "+12024-02-29" := by decide +kernel
  obtain rfl : day.text = text := Json.string.inj (Except.ok.inj (decoded "day"))
  have isIn : Comparison.ofWord? "in" = some .isIn := by decide +kernel
  let criteria : Criteria := ⟨[("day", .compare .isIn (.array [.null, .text "+12024-02-29"]))]⟩
  have isRead : Criteria.read document = .ok criteria := by
    simp only [document, Criteria.read, Criteria.readFields, Criteria.readCriterion,
      Criteria.readPair, isIn]
    rfl
  have uses : (Statement.delete criteria).Uses schema ⟨"day", .date⟩ day.text := by
    rw [printed]
    exact .read isRead (.head _) (.item isIn rfl (.tail _ (.head _))) rfl
  obtain ⟨query, bounds, compiled, isBound, -, -, back⟩ :=
    givenBack schema ⟨"day", .date⟩ _ _ rfl uses trivial rfl (by
      intro slot inSlots isOther
      rw [printed] at isOther
      exact (isOther (List.mem_singleton.mp inSlots)).elim)
  obtain ⟨-, isParam, isSent⟩ := back 0 (by rw [printed]; rfl)
  have isNumber : day.dayNumber = 3661250 := by decide +kernel
  rw [bound, isNumber] at isSent
  exact ⟨_, query, bounds, isRead, compiled, isBound, isParam, isSent⟩

end Replied

end SqlCompose
