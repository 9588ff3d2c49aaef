/-
# Values as they are sent

The values of a statement are sent beside its text, each as a value of its own type.  Three kinds
of values have no such form here: NULL and truth values are keywords of the text, and a list is
written item by item.  None of them may therefore be left among the values of a statement, or the
server would be sent a NULL without a type, or nothing at all.

That none is left is an invariant of writing.  Whatever expression is written behind values that
can be sent, only values that can be sent stand behind it (`Expr.bind_keeps_single`).  A statement
starts without values, so that once it is compiled nothing stands between it and the server
(`Session.compiled_is_sent`).
-/

import SqlCompose.Proofs.Acceptance

namespace SqlCompose

/-- How a value is sent: as a value of its own type, documents by their text, days and moments by
their distance from the start of the year 2000. -/
inductive Value.SentAs : Value → Bound → Prop where
  | int (n : Int64) : SentAs (.int n) (.int8 n)
  | float (x : Decimal.Binary64) : SentAs (.float x) (.float8 x)
  | text (s : String) : SentAs (.text s) (.text s)
  | json (document : Json) : SentAs (.json document) (.jsonb document.text)
  | date (d : Date) : SentAs (.date d) (.date d.dayNumber)
  | timestamp (t : Timestamp) : SentAs (.timestamp t) (.timestamp t.microseconds)
  | uuid (u : Uuid) : SentAs (.uuid u) (.uuid u)

namespace Value

variable {v : Value} {b : Bound}

theorem SentAs.bound_eq (sent : v.SentAs b) : v.bound = .ok b := by
  cases sent <;> rfl

/-- NULL is sent for no value. -/
theorem null_notMem_of_sentAs {vs : List Value} {bs : List Bound}
    (sent : List.Forall₂ SentAs vs bs) : .null ∉ bs := by
  induction sent with
  | nil => exact List.not_mem_nil
  | cons first rest ih =>
      rw [List.mem_cons, not_or]
      refine ⟨?_, ih⟩
      cases first <;> nofun

/-- Exactly the single values are sent. -/
theorem exists_sentAs_iff : (∃ b, v.SentAs b) ↔ v.IsSingle := by
  constructor
  · rintro ⟨b, sent⟩
    cases sent <;> trivial
  · intro single
    cases v with
    | null | bool _ | array _ => exact single.elim
    | int n => exact ⟨_, .int n⟩
    | float x => exact ⟨_, .float x⟩
    | text s => exact ⟨_, .text s⟩
    | json document => exact ⟨_, .json document⟩
    | date d => exact ⟨_, .date d⟩
    | timestamp t => exact ⟨_, .timestamp t⟩
    | uuid u => exact ⟨_, .uuid u⟩

end Value

/-- Writing an expression adds no other values to those that are bound already. -/
theorem Expr.bind_keeps_single (e : Expr) {b : Bindings} (single : ∀ v ∈ b.values, v.IsSingle) :
    ∀ v ∈ (e.bind b).2.values, v.IsSingle := by
  rw [e.bind_eq_spell, List.forall_mem_append]
  exact ⟨single, fun v bound => Expr.isSingle_of_mem_values bound⟩

/-- Single values are bound, each as it is sent. -/
theorem Query.exists_bind {query : Query} (single : ∀ v ∈ query.params, v.IsSingle) :
    ∃ bounds, query.bind = .ok bounds ∧ List.Forall₂ Value.SentAs query.params bounds := by
  simp only [bind, mapM_eq_ok_iff]
  generalize query.params = params at single
  induction params with
  | nil => exact ⟨[], .nil, .nil⟩
  | cons v rest ih =>
      rw [List.forall_mem_cons] at single
      obtain ⟨b, sent⟩ := Value.exists_sentAs_iff.mpr single.1
      obtain ⟨bounds, areBound, areSent⟩ := ih single.2
      exact ⟨b :: bounds, .cons sent.bound_eq areBound, .cons sent areSent⟩

namespace Session

/-- What is compiled and bound reaches the server, whatever it replies. -/
theorem sent_execute {session : Session} {s : Statement} {query : Query} {bounds : List Bound}
    (compiled : s.compile session.schema = .ok query) (bound : query.bind = .ok bounds)
    (reply : Reply) : (session.execute s reply).sent = some ⟨query.sql, bounds⟩ := by
  have outcome : (s.compileLogged session.schema).outcome = .ok query := by
    rw [Statement.compileLogged, compiled]
    rfl
  simp only [execute, outcome, bound]

/-- Wherever an expression is written, no NULL, no truth value and no list is left among the values,
if there was none before.  So the values of a compiled statement are bound without fail, each of
them as a value of its own type and none as NULL, and the statement is sent with them. -/
theorem compiled_is_sent :
    (∀ (e : Expr) (b : Bindings), (∀ v ∈ b.values, v.IsSingle) →
        ∀ v ∈ (e.bind b).2.values, v.IsSingle) ∧
      ∀ (session : Session) (s : Statement) (query : Query),
        s.compile session.schema = .ok query →
          (∀ v ∈ query.params, v.IsSingle) ∧
            ∃ bounds, query.bind = .ok bounds ∧
              List.Forall₂ Value.SentAs query.params bounds ∧ .null ∉ bounds ∧
                ∀ reply, (session.execute s reply).sent = some ⟨query.sql, bounds⟩ := by
  refine ⟨fun e b single => e.bind_keeps_single single, fun session s query compiled => ?_⟩
  have single := Statement.isSingle_of_compile compiled
  obtain ⟨bounds, bound, sent⟩ := Query.exists_bind single
  exact ⟨single, bounds, bound, sent, Value.null_notMem_of_sentAs sent, sent_execute compiled bound⟩

/-- A list that is assigned holds a NULL and another list with a truth value in it, and the criteria
ask for a NULL among some keys.  Three values are sent, none of them NULL. -/
theorem nested_list_is_sent :
    let session : Session := ⟨⟨"notes", [⟨"id", .bigint⟩, ⟨"tags", .text⟩]⟩, true⟩
    let s : Statement := .update
      [("tags", .array [.text "a", .null, .array [.bool true, .int 7]])]
      ⟨[("id", .compare .isIn (.array [.int 4, .null]))]⟩
    let sql := "UPDATE notes SET tags = ARRAY[$1, NULL, ARRAY[TRUE, $2]] WHERE id IN ($3, NULL)"
    s.compile session.schema = .ok ⟨sql, [.text "a", .int 7, .int 4]⟩ ∧
      ∀ reply, (session.execute s reply).sent = some ⟨sql, [.text "a", .int8 7, .int8 4]⟩ := by
  intro session s sql
  have compiled : s.compile session.schema = .ok ⟨sql, [.text "a", .int 7, .int 4]⟩ := by
    subst session s sql
    rfl
  obtain ⟨-, bounds, bound, -, -, sent⟩ := compiled_is_sent.2 session s _ compiled
  obtain rfl : [.text "a", .int8 7, .int8 4] = bounds := Except.ok.inj bound
  exact ⟨compiled, sent⟩

end Session

end SqlCompose
