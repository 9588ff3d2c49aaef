/-
# The texts of a statement

A statement is given with texts, and each text that is assigned to a declared column or
compared with one has to suit the column before a server sees it.  What is written and bound
for a statement is compared here with the statement as it is given: the two have the same
pieces, and the slots of the statement say which text belongs to which column
(`Statement.retyped_parts`).

A text that is bound as it is, with nothing around its placeholder, suits a column of texts.
For every other type it should be read as a value of that type or stand within a cast to
it.  For documents it is neither: a text for a column of the type json or jsonb stays bare as
well (`Statement.compile_types_texts`), and the server refuses the statement.
-/

import SqlCompose.Proofs.Retyping
import SqlCompose.Proofs.Statements

namespace SqlCompose

/-- A selected or assigned expression as it is given, behind what is written before it, with the
column to which it is assigned if that is declared. -/
structure GivenPart where
  before : String
  expr : Expr
  column : Option Column

/-- The slots of a part: what is assigned to a column takes its type. -/
def GivenPart.slots (part : GivenPart) : List Slot :=
  part.expr.values.map fun v => ⟨v, part.column⟩

/-- The expressions of a statement before any of their texts takes a type. -/
structure Given where
  listed : List GivenPart
  predicate : Option Expr

namespace Given

/-- The expressions with what is written before each. -/
def parts (g : Given) : Statement.Parts :=
  ⟨g.listed.map fun part => (part.before, part.expr), g.predicate⟩

/-- The values of a statement in the order in which they are bound, each with the column that
it is assigned to or compared with. -/
def slots (schema : Schema) (g : Given) : List Slot :=
  g.listed.flatMap GivenPart.slots ++ g.predicate.toList.flatMap (Expr.slots schema)

end Given

namespace Statement

section Given

variable (schema : Schema)

def givenSelection (s : Selection) : Except Error GivenPart :=
  (fun part => ⟨part.1, part.2, none⟩) <$> selected schema s

def givenAssignment (pair : String × Value) : GivenPart :=
  ⟨Identifier.quote pair.1 ++ " = ", .literal pair.2, schema.find? pair.1⟩

def givenPredicate (criteria : Criteria) : Option Expr :=
  if criteria.entries.isEmpty then none else some criteria.expr

/-- The expressions of a statement as it is given. -/
def given : Statement → Except Error Given
  | .select selections criteria => do
    return ⟨← selections.mapM (givenSelection schema), givenPredicate criteria⟩
  | .update assignments criteria =>
    .ok ⟨assignments.map (givenAssignment schema), givenPredicate criteria⟩
  | .delete criteria => .ok ⟨[], givenPredicate criteria⟩

end Given

open Template (Retyped)

variable {schema : Schema}

/-! ## Statements are typed part by part -/

/-- What is selected is written as it is given. -/
theorem retyped_selections {selections : List Selection} {parts : List (String × Expr)}
    (found : selections.mapM (selected schema) = .ok parts) :
    ∃ given, selections.mapM (givenSelection schema) = .ok given ∧
      List.Forall₂ (fun part found =>
        Retyped part.slots (listedTemplate (part.before, part.expr)) (listedTemplate found))
        given parts := by
  refine ⟨parts.map fun part => ⟨part.1, part.2, none⟩, ?_, ?_⟩
  · rw [mapM_eq_ok_iff] at found ⊢
    rw [List.forall₂_map_right_iff]
    exact found.imp fun s part isFound => by rw [givenSelection, isFound]; rfl
  · rw [List.forall₂_map_left_iff, List.forall₂_same]
    intro part _
    exact (Retyped.same part.2.template).behind part.1

/-- What is assigned to a declared column takes its type. -/
theorem retyped_assignment {pair : String × Value} {part : String × Expr}
    (found : assignedPart schema pair = .ok part) :
    Retyped (givenAssignment schema pair).slots
      (listedTemplate ((givenAssignment schema pair).before, (givenAssignment schema pair).expr))
      (listedTemplate part) := by
  obtain ⟨e, isAssigned, rfl⟩ := map_eq_ok_iff.mp found
  apply Retyped.behind
  unfold assigned at isAssigned
  rw [GivenPart.slots, givenAssignment]
  split at isAssigned
  case h_1 c declared =>
    rw [declared]
    exact Column.retyped_typedValue isAssigned
  case h_2 undeclared =>
    obtain rfl := Except.ok.inj isAssigned
    rw [undeclared]
    exact Retyped.same _

theorem retyped_predicate {criteria : Criteria} {found : Option Expr}
    (isFound : predicate schema criteria = .ok found) :
    Retyped ((givenPredicate criteria).toList.flatMap (Expr.slots schema))
      (conditionTemplate (givenPredicate criteria)) (conditionTemplate found) := by
  unfold predicate at isFound
  unfold givenPredicate
  split at isFound
  case isTrue none =>
    obtain rfl := pure_eq_ok_iff.mp isFound
    rw [if_pos none]
    exact Retyped.text ""
  case isFalse some =>
    obtain ⟨e, typed, rfl⟩ := map_eq_ok_iff.mp isFound
    rw [if_neg some, Option.toList_some, List.flatMap_singleton]
    exact (Expr.retyped_typed typed).behind " WHERE "

theorem retyped_template (s : Statement) {g : Given} {p : Parts}
    (listed : List.Forall₂ (fun part found =>
      Retyped part.slots (listedTemplate (part.before, part.expr)) (listedTemplate found))
      g.listed p.listed)
    (condition : Retyped (g.predicate.toList.flatMap (Expr.slots schema))
      (conditionTemplate g.predicate) (conditionTemplate p.predicate)) :
    Retyped (g.slots schema) (s.template schema g.parts) (s.template schema p) := by
  have list := (Retyped.separated ", " listed).behind (s.opening schema)
  have whole := ((list.before (s.middle schema)).append condition).before s.closing
  rw [template, template, Given.parts, List.map_map]
  exact whole

/-- What is written for a statement is the statement as it is given, with its texts typed. -/
theorem retyped_parts {s : Statement} {p : Parts} (found : s.parts schema = .ok p) :
    ∃ g, s.given schema = .ok g ∧
      Retyped (g.slots schema) (s.template schema g.parts) (s.template schema p) := by
  cases s with
  | select selections criteria =>
      obtain ⟨parts, foundListed, found⟩ := bind_eq_ok_iff.mp found
      obtain ⟨predicate, foundPredicate, found⟩ := bind_eq_ok_iff.mp found
      obtain rfl := pure_eq_ok_iff.mp found
      obtain ⟨given, foundGiven, listed⟩ := retyped_selections foundListed
      refine ⟨⟨given, givenPredicate criteria⟩, ?_, ?_⟩
      · rw [Statement.given, foundGiven]
        rfl
      · exact retyped_template _ listed (retyped_predicate foundPredicate)
  | update assignments criteria =>
      rw [parts] at found
      split at found
      · cases found
      · obtain ⟨parts, foundListed, found⟩ := bind_eq_ok_iff.mp found
        obtain ⟨predicate, foundPredicate, found⟩ := bind_eq_ok_iff.mp found
        obtain rfl := pure_eq_ok_iff.mp found
        refine ⟨⟨assignments.map (givenAssignment schema), givenPredicate criteria⟩, rfl, ?_⟩
        apply retyped_template _ _ (retyped_predicate foundPredicate)
        rw [List.forall₂_map_left_iff]
        exact (mapM_eq_ok_iff.mp foundListed).imp fun pair part => retyped_assignment
  | delete criteria =>
      obtain ⟨predicate, foundPredicate, found⟩ := bind_eq_ok_iff.mp found
      obtain rfl := pure_eq_ok_iff.mp found
      exact ⟨⟨[], givenPredicate criteria⟩, rfl,
        retyped_template _ .nil (retyped_predicate foundPredicate)⟩

/-- A statement that is compiled is spelled by the pieces of its template. -/
theorem spelledBy_of_compile {s : Statement} {query : Query}
    (compiled : s.compile schema = .ok query) :
    ∃ p, s.parts schema = .ok p ∧
      s.SpelledBy schema query p ((s.template schema p).pieces 0) := by
  cases found : s.parts schema with
  | error e =>
      rw [compile, write_eq_template, found] at compiled
      cases compiled
  | ok p =>
      obtain ⟨written, isWritten, spelled⟩ := spelledBy_of_parts found
      obtain rfl : written = query := Except.ok.inj (isWritten.symm.trans compiled)
      exact ⟨p, rfl, spelled⟩

/-- A compiled statement is spelled by the pieces of the statement as it is given, and what is
bound to it is what the slots bind. -/
theorem compile_given {s : Statement} {query : Query} (compiled : s.compile schema = .ok query) :
    ∃ g, s.given schema = .ok g ∧
      (g.slots schema).map Slot.value = g.parts.exprs.flatMap Expr.values ∧
      query.sql = Piece.spell (Slot.spellAt (g.slots schema) placeholder)
        ((s.template schema g.parts).pieces 0) ∧
      List.Forall₂ Slot.Binds (g.slots schema) query.params ∧
      ∀ i (h : i < (g.slots schema).length), (g.slots schema)[i].column ≠ none →
        i + 1 ∈ (s.template schema g.parts).numbers 0 := by
  obtain ⟨p, found, spelled⟩ := spelledBy_of_compile compiled
  obtain ⟨g, isGiven, retyped⟩ := retyped_parts found
  refine ⟨g, isGiven, ?_, ?_, ?_, ?_⟩
  · rw [retyped.map_value, values_template]
  · rw [spelled.sql]
    apply retyped.spell_pieces
    intro i inRange
    simp [Slot.spellAt, inRange]
  · rw [spelled.params, ← values_template schema s p]
    exact retyped.binds
  · intro i inRange typed
    simpa using retyped.placed 0 inRange typed

end Statement

/-! ## How a text reaches a statement -/

namespace Column

/-- Whether a value is read from a text as one of the type of a column. -/
def Reads (c : Column) (text : String) (bound : Value) : Prop :=
  (c.type = .date ∧ ∃ date, Date.read text = .ok date ∧ bound = .date date) ∨
    (c.type = .timestamp ∧ ∃ timestamp, Timestamp.read text = .ok timestamp ∧
      bound = .timestamp timestamp) ∨
    (c.type = .uuid ∧ ∃ uuid, Uuid.read text = .ok uuid ∧ bound = .uuid uuid)

/-- How a text for a column reaches a statement, given the value that is bound and what is written
around its placeholder. -/
structure Receives (c : Column) (text : String) (bound : Value) (place written : String) :
    Prop where
  bare_iff : (bound = .text text ∧ written = place) ↔
    c.type = .text ∨ c.type = .json ∨ c.type = .jsonb
  typed : c.type ≠ .text → c.type ≠ .json → c.type ≠ .jsonb →
    (c.Reads text bound ∧ written = place) ∨
      (bound = .text text ∧ written = "CAST(" ++ place ++ " AS " ++ c.type.sqlName ++ ")")

theorem placeholder_ne_cast (n : Nat) (place type : String) :
    "CAST(" ++ place ++ " AS " ++ type ++ ")" ≠ placeholder n := by
  intro same
  have first := congrArg (fun s : String => s.toList.head?) same
  simp [Piece.toList_placeholder] at first

/-- A column keeps a text, reads it or has it cast. -/
theorem binds_cases {c : Column} {text : String} {bound : Value} (binds : c.Binds text bound) :
    ((c.type = .text ∨ c.type = .json ∨ c.type = .jsonb) ∧ c.castName = none ∧
        bound = .text text) ∨
      (¬ (c.type = .text ∨ c.type = .json ∨ c.type = .jsonb) ∧
        ((c.castName = none ∧ c.Reads text bound) ∨
          (c.castName = some c.type.sqlName ∧ bound = .text text))) := by
  unfold Binds at binds
  unfold castName Reads
  cases type : c.type <;> simp_all

theorem Reads.ne_text {c : Column} {text : String} {bound : Value} (reads : c.Reads text bound) :
    bound ≠ .text text := by
  rcases reads with ⟨-, _, -, rfl⟩ | ⟨-, _, -, rfl⟩ | ⟨-, _, -, rfl⟩ <;> simp

/-- What a slot binds and writes for a text is what its column receives. -/
theorem receives_of_binds {c : Column} {text : String} {bound : Value} (n : Nat)
    (binds : Slot.Binds ⟨.text text, some c⟩ bound) :
    c.Receives text bound (placeholder n)
      (Slot.spell ⟨.text text, some c⟩ (placeholder n)) := by
  rcases binds_cases binds with
    ⟨kept, uncast, isText⟩ | ⟨notKept, ⟨uncast, reads⟩ | ⟨isCast, isText⟩⟩
  · rw [Slot.spell_of_uncast ⟨.text text, some c⟩ uncast]
    exact ⟨iff_of_true ⟨isText, rfl⟩ kept, by tauto⟩
  · rw [Slot.spell_of_uncast ⟨.text text, some c⟩ uncast]
    exact ⟨iff_of_false (fun bare => reads.ne_text bare.1) notKept, fun _ _ _ => .inl ⟨reads, rfl⟩⟩
  · rw [Slot.spell_of_cast ⟨.text text, some c⟩ isCast]
    exact ⟨iff_of_false (fun bare => placeholder_ne_cast n _ _ bare.2) notKept,
      fun _ _ _ => .inr ⟨isText, rfl⟩⟩

end Column

namespace Statement

/-- The values of a compiled statement are those of the statement as it is given, in the order of
its slots, and every text that is assigned to a declared column or compared with one has a
single place of its own.  It stands there bare, bound as the text that it is, exactly if the
column is declared as text, json or jsonb.  For a column of any other type it is read as a
date, timestamp or UUID, as the type asks for, or it stands within a cast to the type. -/
theorem compile_types_texts {schema : Schema} {s : Statement} {query : Query}
    (compiled : s.compile schema = .ok query) :
    ∃ g pieces, s.given schema = .ok g ∧ pieces = (s.template schema g.parts).pieces 0 ∧
      (g.slots schema).map Slot.value = g.parts.exprs.flatMap Expr.values ∧
      query.sql = Piece.spell (Slot.spellAt (g.slots schema) placeholder) pieces ∧
      (Piece.numbers pieces).Nodup ∧
      ∀ i text c, (g.slots schema)[i]? = some ⟨.text text, some c⟩ →
        i + 1 ∈ Piece.numbers pieces ∧
          ∃ bound, query.params[i]? = some bound ∧
            c.Receives text bound (placeholder (i + 1))
              (Slot.spellAt (g.slots schema) placeholder (i + 1)) := by
  obtain ⟨g, isGiven, values, text, binds, placed⟩ := compile_given compiled
  refine ⟨g, _, isGiven, rfl, values, text, Template.nodup_numbers 0 _, ?_⟩
  intro i text c isSlot
  obtain ⟨inRange, isHere⟩ := List.getElem?_eq_some_iff.mp isSlot
  have isBound : i < query.params.length := binds.length_eq ▸ inRange
  have bindsHere := binds.get inRange isBound
  rw [List.get_eq_getElem, isHere] at bindsHere
  refine ⟨placed i inRange (by simp [isHere]), _, List.getElem?_eq_getElem isBound, ?_⟩
  rw [Slot.spellAt, isSlot]
  exact Column.receives_of_binds (i + 1) bindsHere

/-- A span of time is assigned, and it is cast. -/
theorem assigned_span_is_cast :
    ∃ query, (update [("shift", .text "02:00:00")] ⟨[("id", .equals (.int 4))]⟩).compile
        ⟨"employees", [⟨"id", .bigint⟩, ⟨"shift", .interval⟩]⟩ = .ok query ∧
      query.sql = "UPDATE employees SET shift = CAST($1 AS interval) WHERE id = $2" ∧
      ∃ bound, query.params[0]? = some bound ∧
        (⟨"shift", .interval⟩ : Column).Receives "02:00:00" bound "$1"
          "CAST($1 AS interval)" := by
  have compiled : (update [("shift", .text "02:00:00")] ⟨[("id", .equals (.int 4))]⟩).compile
      ⟨"employees", [⟨"id", .bigint⟩, ⟨"shift", .interval⟩]⟩ =
        .ok ⟨"UPDATE employees SET shift = CAST($1 AS interval) WHERE id = $2",
          [.text "02:00:00", .int 4]⟩ := rfl
  obtain ⟨g, pieces, isGiven, -, -, -, -, received⟩ := compile_types_texts compiled
  obtain rfl := Except.ok.inj isGiven
  exact ⟨_, compiled, rfl, (received 0 "02:00:00" ⟨"shift", .interval⟩ rfl).2⟩

/-- A document is assigned as a text to a column of documents: it is bound as a text, and no cast
stands around it. -/
theorem assigned_document_stays_bare :
    ∃ query, (update [("settings", .text "[]")] ⟨[]⟩).compile
        ⟨"profiles", [⟨"settings", .jsonb⟩]⟩ = .ok query ∧
      query.sql = "UPDATE profiles SET settings = $1" ∧
      query.sql ≠ "UPDATE profiles SET settings = CAST($1 AS jsonb)" ∧
      query.params = [.text "[]"] := by
  refine ⟨_, rfl, rfl, ?_, rfl⟩
  decide

end Statement

end SqlCompose
