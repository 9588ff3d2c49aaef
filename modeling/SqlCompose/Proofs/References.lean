/-
# The columns of an expression

A function of the catalog takes columns as arguments, some of them with a path into their
documents, and what it builds should refer to these columns and to no others.  What an
expression refers to is read off its tree: a column, or a step into documents with all that
it starts from (`Expr.references`).  Every entry of the catalog finds its columns in the same
way, so what finding a column gives is said once (`Schema.resolve_eq_ok_iff`), and the entries
differ only in what they put around it.  What they build is said once, too
(`AggregateCall.yields_build`, `OrderedSetCall.yields_build`), and that it refers to the columns
it was given is read off from there.
-/

import SqlCompose.Aggregate.Catalog
import SqlCompose.Proofs.Refusals
import SqlCompose.Proofs.Written

namespace SqlCompose

namespace Expr

/-! ## All expressions in an expression -/

/-- The expressions directly in an expression, also those that are never written. -/
def operands : Expr → List Expr
  | .compare left _ right => [left, right]
  | e => e.children

theorem sizeOf_lt_of_mem_operands {e c : Expr} (inside : c ∈ e.operands) : sizeOf c < sizeOf e := by
  unfold operands at inside
  split at inside
  case h_1 left op right =>
    rw [compare.sizeOf_spec]
    rcases List.mem_pair.mp inside with rfl | rfl
    · omega
    · omega
  case h_2 => exact sizeOf_lt_of_mem_children inside

/-- What holds of an expression whenever it holds of those directly in it holds of all
expressions. -/
theorem operands_induction {motive : Expr → Prop}
    (step : ∀ e, (∀ c ∈ e.operands, motive c) → motive e) (e : Expr) : motive e :=
  step e fun c _ => operands_induction step c
termination_by sizeOf e
decreasing_by exact sizeOf_lt_of_mem_operands ‹_›

/-- The expression and all expressions in it. -/
def nodes (e : Expr) : List Expr :=
  e :: e.operands.attach.flatMap fun c => c.1.nodes
termination_by sizeOf e
decreasing_by exact sizeOf_lt_of_mem_operands c.2

theorem nodes_eq (e : Expr) : e.nodes = e :: e.operands.flatMap nodes := by
  rw [nodes]
  simp

theorem nodes_column (name : String) : (column name).nodes = [column name] := by
  rw [nodes_eq]
  rfl

theorem nodes_jsonAccess (base : Expr) (path : JsonPath) (asText : Bool) :
    (jsonAccess base path asText).nodes = jsonAccess base path asText :: base.nodes := by
  rw [nodes_eq]
  simp [operands, children]

/-! ## References -/

/-- Whether an expression is a column or follows a path into documents. -/
def isReference : Expr → Bool
  | .column _ | .jsonAccess .. => true
  | _ => false

/-- The columns of an expression from left to right.  In place of a column from which a path
is followed stands the whole step into its documents. -/
def references (e : Expr) : List Expr :=
  if e.isReference then [e] else e.operands.attach.flatMap fun c => c.1.references
termination_by sizeOf e
decreasing_by exact sizeOf_lt_of_mem_operands c.2

theorem references_of_isReference {e : Expr} (isRef : e.isReference = true) :
    e.references = [e] := by
  rw [references, if_pos isRef]

theorem references_of_operands {e : Expr} (noRef : e.isReference = false) :
    e.references = e.operands.flatMap references := by
  rw [references, if_neg (by simp [noRef])]
  simp

@[simp]
theorem references_star : star.references = [] := by
  rw [references_of_operands rfl]
  rfl

@[simp]
theorem references_literal (v : Value) : (literal v).references = [] := by
  rw [references_of_operands rfl]
  rfl

@[simp]
theorem references_raw (sql : String) : (raw sql).references = [] := by
  rw [references_of_operands rfl]
  rfl

@[simp]
theorem references_cast (e : Expr) (type : String) : (cast e type).references = e.references := by
  rw [references_of_operands rfl]
  simp [operands, children]

@[simp]
theorem references_aliased (e : Expr) (name : String) :
    (aliased e name).references = e.references := by
  rw [references_of_operands rfl]
  simp [operands, children]

@[simp]
theorem references_array (items : List Expr) :
    (array items).references = items.flatMap references := by
  rw [references_of_operands rfl]
  rfl

@[simp]
theorem references_call (name : String) (args : List Expr) :
    (call name args).references = args.flatMap references := by
  rw [references_of_operands rfl]
  rfl

@[simp]
theorem references_keywordCall (name : String) (args : List KeywordArgument) :
    (keywordCall name args).references = (args.map KeywordArgument.arg).flatMap references := by
  rw [references_of_operands rfl]
  rfl

@[simp]
theorem references_aggregate (name : String) (args : List Expr) (distinct : Bool)
    (withinGroup : Option Expr) :
    (aggregate name args distinct withinGroup).references =
      args.flatMap references ++ withinGroup.toList.flatMap references := by
  rw [references_of_operands rfl]
  simp [operands, children]

@[simp]
theorem references_window (function : Expr) (clauses : List WindowClause) :
    (window function clauses).references =
      function.references ++ (clauses.flatMap WindowClause.exprs).flatMap references := by
  rw [references_of_operands rfl]
  simp [operands, children]

/-- A column anywhere in an expression, and a step into documents, is a reference of the
expression or stands within one. -/
theorem exists_reference {e d : Expr} (isRef : d.isReference = true) (inside : d ∈ e.nodes) :
    ∃ r ∈ e.references, d ∈ r.nodes := by
  induction e using operands_induction with
  | step e ih =>
      cases here : e.isReference with
      | true => exact ⟨e, by simp [references_of_isReference here], inside⟩
      | false =>
          rw [nodes_eq, List.mem_cons, List.mem_flatMap] at inside
          rcases inside with rfl | ⟨c, inOperands, inside⟩
          · rw [isRef] at here
            cases here
          · obtain ⟨r, inReferences, inRef⟩ := ih c inOperands inside
            refine ⟨r, ?_, inRef⟩
            rw [references_of_operands here]
            exact List.mem_flatMap.mpr ⟨c, inOperands, inReferences⟩

/-- A reference directly in some part of an expression is a reference of the expression, unless
the part stands within one. -/
theorem mem_references_of_operand {e d c : Expr} (inside : d ∈ e.nodes) (operand : c ∈ d.operands)
    (isRef : c.isReference = true) : c ∈ e.references ∨ ∃ r ∈ e.references, d ∈ r.nodes := by
  induction e using operands_induction with
  | step e ih =>
      cases here : e.isReference with
      | true => exact .inr ⟨e, by simp [references_of_isReference here], inside⟩
      | false =>
          rw [references_of_operands here]
          rw [nodes_eq, List.mem_cons, List.mem_flatMap] at inside
          rcases inside with rfl | ⟨b, inOperands, inside⟩
          · left
            exact List.mem_flatMap.mpr ⟨c, operand, by simp [references_of_isReference isRef]⟩
          · rcases ih b inOperands inside with isOne | ⟨r, inReferences, inRef⟩
            · left
              exact List.mem_flatMap.mpr ⟨b, inOperands, isOne⟩
            · right
              exact ⟨r, List.mem_flatMap.mpr ⟨b, inOperands, inReferences⟩, inRef⟩

end Expr

/-! ## Finding a column -/

namespace ColumnArgument

/-- Whether a schema declares the column of an argument, for documents if the argument has a
path and for no documents if it has none. -/
def Fits (schema : Schema) : ColumnArgument → Prop
  | .plain name => ∃ c, schema.find? name = some c ∧ c.type.isJson = false
  | .json name _ => ∃ c, schema.find? name = some c ∧ c.type.isJson = true

/-- The declared type of an argument without a path. -/
def declaredType (schema : Schema) : ColumnArgument → Option ColumnType
  | .plain name => (schema.find? name).map Column.type
  | .json _ _ => none

/-- The expression of an argument whose path is followed to a document, a text or a type. -/
def extracted (extraction : Extraction) : ColumnArgument → Expr
  | .plain name => .column name
  | .json name path => extraction.apply name path

/-- Whether an expression refers to the column of an argument as a schema asks for: to a
column that is declared and holds no documents, or along the path of the argument into one
that does. -/
def Reaches (schema : Schema) (arg : ColumnArgument) (reference : Expr) : Prop :=
  arg.Fits schema ∧
    match arg with
    | .plain name => reference = .column name
    | .json name path => ∃ asText, reference = .jsonAccess (.column name) path asText

end ColumnArgument

theorem Schema.require_eq_ok_iff {schema : Schema} {name : String} {c : Column} :
    schema.require name = .ok c ↔ schema.find? name = some c := by
  unfold Schema.require
  cases schema.find? name <;> simp

/-- A column is found exactly if the argument fits the schema. -/
theorem Schema.resolve_eq_ok_iff {schema : Schema} {function : String} {extraction : Extraction}
    {arg : ColumnArgument} {r : ResolvedColumn} :
    schema.resolve function extraction arg = .ok r ↔
      arg.Fits schema ∧ r = ⟨arg.extracted extraction, arg.declaredType schema⟩ := by
  cases arg with
  | plain name =>
      rw [Schema.resolve, bind_eq_ok_iff]
      constructor
      · rintro ⟨c, required, resolved⟩
        have declared := Schema.require_eq_ok_iff.mp required
        cases isJson : c.type.isJson with
        | true => simp [isJson] at resolved
        | false =>
            simp only [isJson, Bool.false_eq_true, if_false, Except.ok.injEq] at resolved
            refine ⟨⟨c, declared, isJson⟩, ?_⟩
            simp [← resolved, ColumnArgument.extracted, ColumnArgument.declaredType, declared]
      · rintro ⟨⟨c, declared, isJson⟩, rfl⟩
        refine ⟨c, Schema.require_eq_ok_iff.mpr declared, ?_⟩
        simp [isJson, ColumnArgument.extracted, ColumnArgument.declaredType, declared]
  | json name path =>
      rw [Schema.resolve, bind_eq_ok_iff]
      constructor
      · rintro ⟨c, required, resolved⟩
        have declared := Schema.require_eq_ok_iff.mp required
        cases isJson : c.type.isJson with
        | false => simp [isJson] at resolved
        | true =>
            simp only [isJson, if_true, Except.ok.injEq] at resolved
            exact ⟨⟨c, declared, isJson⟩, resolved.symm⟩
      · rintro ⟨⟨c, declared, isJson⟩, rfl⟩
        refine ⟨c, Schema.require_eq_ok_iff.mpr declared, ?_⟩
        simp [isJson, ColumnArgument.extracted, ColumnArgument.declaredType]

/-- A step behind which a column is found goes on with the column of the argument. -/
theorem Schema.of_resolve_bind {α : Type} {schema : Schema} {function : String}
    {extraction : Extraction} {arg : ColumnArgument} {next : ResolvedColumn → Except Error α}
    {a : α}
    (found : schema.resolve function extraction arg >>= next = .ok a) :
    arg.Fits schema ∧ next ⟨arg.extracted extraction, arg.declaredType schema⟩ = .ok a := by
  obtain ⟨r, resolved, found⟩ := bind_eq_ok_iff.mp found
  obtain ⟨fits, rfl⟩ := Schema.resolve_eq_ok_iff.mp resolved
  exact ⟨fits, found⟩

/-- A column whose type has to be admitted is found as any other. -/
theorem Schema.resolveTyped_eq_ok {schema : Schema} {function : String} {extraction : Extraction}
    {admits : ColumnType → Bool} {arg : ColumnArgument} {e : Expr}
    (found : schema.resolveTyped function extraction admits arg = .ok e) :
    arg.Fits schema ∧ e = arg.extracted extraction := by
  obtain ⟨fits, admitted⟩ := Schema.of_resolve_bind found
  refine ⟨fits, ?_⟩
  split at admitted
  · split at admitted
    · exact (Except.ok.inj admitted).symm
    · cases admitted
  · exact (Except.ok.inj admitted).symm

/-! ## The references of what the catalog builds -/

/-- Whether the references of an expression are those of some arguments, in their order. -/
def Expr.RefersTo (schema : Schema) (args : List ColumnArgument) (e : Expr) : Prop :=
  List.Forall₂ (ColumnArgument.Reaches schema) args e.references

namespace Expr.RefersTo

variable {schema : Schema} {args : List ColumnArgument} {e : Expr}

theorem extracted {arg : ColumnArgument} (fits : arg.Fits schema) (extraction : Extraction) :
    (arg.extracted extraction).RefersTo schema [arg] := by
  cases arg with
  | plain name =>
      rw [RefersTo, ColumnArgument.extracted, references_of_isReference rfl]
      exact .cons ⟨fits, rfl⟩ .nil
  | json name path =>
      have access (asText : Bool) :
          (jsonAccess (column name) path asText).RefersTo schema [.json name path] := by
        rw [RefersTo, references_of_isReference rfl]
        exact .cons ⟨fits, asText, rfl⟩ .nil
      cases extraction with
      | document => exact access false
      | text => exact access true
      | typed type => simpa [RefersTo, ColumnArgument.extracted, Extraction.apply] using access true

theorem cast (refers : e.RefersTo schema args) (type : String) :
    (Expr.cast e type).RefersTo schema args := by
  rwa [RefersTo, references_cast]

theorem aliased (refers : e.RefersTo schema args) (name : String) :
    (Expr.aliased e name).RefersTo schema args := by
  rwa [RefersTo, references_aliased]

theorem numericCast (refers : e.RefersTo schema args) (cast : Option NumericCast) :
    (NumericCast.apply cast e).RefersTo schema args := by
  cases cast with
  | none => exact refers
  | some type => exact refers.cast _

/-- Each reference is one that some argument asks for. -/
theorem exists_argument (refers : e.RefersTo schema args) {r : Expr} (inside : r ∈ e.references) :
    ∃ arg ∈ args, arg.Reaches schema r := by
  obtain ⟨i, inBounds, rfl⟩ := List.mem_iff_getElem.mp inside
  have sameLength := List.Forall₂.length_eq refers
  refine ⟨args[i], List.getElem_mem _, ?_⟩
  exact (List.forall₂_iff_get.mp refers).2 i (by omega) inBounds

/-- Every column is declared. -/
theorem declared (refers : e.RefersTo schema args) {name : String}
    (inside : column name ∈ e.nodes) : ∃ c, schema.find? name = some c := by
  obtain ⟨r, inReferences, inRef⟩ := exists_reference rfl inside
  obtain ⟨arg, -, fits, isRef⟩ := refers.exists_argument inReferences
  cases arg with
  | plain given =>
      subst isRef
      obtain ⟨c, declared, -⟩ := fits
      obtain rfl : name = given := by simpa [nodes_column] using inRef
      exact ⟨c, declared⟩
  | json given path =>
      obtain ⟨asText, rfl⟩ := isRef
      obtain ⟨c, declared, -⟩ := fits
      obtain rfl : name = given := by simpa [nodes_jsonAccess, nodes_column] using inRef
      exact ⟨c, declared⟩

/-- A path is followed only from a column of documents, and only as it was given. -/
theorem given (refers : e.RefersTo schema args) {base : Expr} {path : JsonPath} {asText : Bool}
    (inside : jsonAccess base path asText ∈ e.nodes) :
    ∃ name c, base = column name ∧ schema.find? name = some c ∧ c.type.isJson = true ∧
      .json name path ∈ args := by
  obtain ⟨r, inReferences, inRef⟩ := exists_reference rfl inside
  obtain ⟨arg, inArgs, fits, isRef⟩ := refers.exists_argument inReferences
  cases arg with
  | plain name =>
      subst isRef
      simp [nodes_column] at inRef
  | json name followed =>
      obtain ⟨_, rfl⟩ := isRef
      obtain ⟨c, declared, isJson⟩ := fits
      simp only [nodes_jsonAccess, nodes_column, List.mem_cons, jsonAccess.injEq, reduceCtorEq,
        List.not_mem_nil, or_false] at inRef
      obtain ⟨rfl, rfl, -⟩ := inRef
      exact ⟨name, c, rfl, declared, isJson, inArgs⟩

/-- A column of documents stands nowhere but under a path that was given for it. -/
theorem accessed (refers : e.RefersTo schema args) {name : String} {c : Column}
    (declared : schema.find? name = some c) (isJson : c.type.isJson = true) :
    e ≠ column name ∧ ∀ d ∈ e.nodes, column name ∈ d.operands →
      ∃ path asText, d = jsonAccess (column name) path asText ∧ .json name path ∈ args := by
  have hidden : column name ∉ e.references := by
    intro inReferences
    obtain ⟨arg, -, fits, isRef⟩ := refers.exists_argument inReferences
    cases arg with
    | plain given =>
        obtain rfl := column.inj isRef
        obtain ⟨c', declared', noJson⟩ := fits
        rw [declared, Option.some.injEq] at declared'
        simp [← declared', isJson] at noJson
    | json given path =>
        obtain ⟨_, isAccess⟩ := isRef
        cases isAccess
  constructor
  · rintro rfl
    simp [references_of_isReference (e := column name) rfl] at hidden
  · intro d inside operand
    rcases mem_references_of_operand inside operand rfl with inReferences | ⟨r, inReferences, inRef⟩
    · exact absurd inReferences hidden
    obtain ⟨arg, inArgs, -, isRef⟩ := refers.exists_argument inReferences
    cases arg with
    | plain given =>
        subst isRef
        obtain rfl : d = column given := by simpa [nodes_column] using inRef
        cases operand
    | json given path =>
        obtain ⟨asText, rfl⟩ := isRef
        rw [nodes_jsonAccess, nodes_column, List.mem_pair] at inRef
        rcases inRef with rfl | rfl
        · obtain rfl : name = given := by simpa [operands, children] using operand
          exact ⟨path, asText, rfl, inArgs⟩
        · cases operand

end Expr.RefersTo

namespace AggregateCall

variable {schema : Schema}

/-- The columns of a call in the order in which they are given. -/
def arguments : AggregateCall → List ColumnArgument
  | .count => []
  | .countColumn column | .countDistinct column | .sum column | .avg column | .min column
  | .max column | .statistic _ column | .boolAnd column | .boolOr column | .stringAgg column _
  | .arrayAgg column | .jsonAgg column => [column]
  | .pair _ y x => [y, x]
  | .jsonObjectAgg key value => [key, value]

/-- Whether a call leaves out repeated values. -/
def isDistinct : AggregateCall → Bool
  | .countDistinct _ => true
  | _ => false

/-- What the catalog puts into a call for some columns: each column in turn, as it is extracted
from its row, with nothing but constants between them. -/
inductive Operands (schema : Schema) : List ColumnArgument → List Expr → Prop where
  | none : Operands schema [] []
  | star {args : List ColumnArgument} {es : List Expr} (rest : Operands schema args es) :
      Operands schema args (.star :: es)
  | constant {args : List ColumnArgument} {es : List Expr} (v : Value)
      (rest : Operands schema args es) : Operands schema args (.literal v :: es)
  | column {arg : ColumnArgument} {args : List ColumnArgument} {es : List Expr}
      (fits : arg.Fits schema) (extraction : Extraction) (rest : Operands schema args es) :
      Operands schema (arg :: args) (arg.extracted extraction :: es)
  | cast {arg : ColumnArgument} {args : List ColumnArgument} {es : List Expr}
      (fits : arg.Fits schema) (extraction : Extraction) (type : String)
      (rest : Operands schema args es) :
      Operands schema (arg :: args) (.cast (arg.extracted extraction) type :: es)

/-- Whether an expression is a call over unordered rows of what the catalog puts into it. -/
def Yields (schema : Schema) (call : AggregateCall) (e : Expr) : Prop :=
  ∃ name args, e = .aggregate name args call.isDistinct none ∧ Operands schema call.arguments args

theorem buildSum_eq_ok {name sqlName : String} {arg : ColumnArgument} {a : Aggregate}
    (built : buildSum schema name sqlName arg = .ok a) :
    arg.Fits schema ∧ a.expr = .summary sqlName [arg.extracted number] := by
  obtain ⟨r, -, built⟩ := bind_eq_ok_iff.mp built
  obtain ⟨e, found, built⟩ := bind_eq_ok_iff.mp built
  obtain rfl := pure_eq_ok_iff.mp built
  obtain ⟨fits, rfl⟩ := Schema.resolveTyped_eq_ok found
  exact ⟨fits, rfl⟩

theorem buildBoolean_eq_ok {name sqlName : String} {arg : ColumnArgument} {a : Aggregate}
    (built : buildBoolean schema name sqlName arg = .ok a) :
    arg.Fits schema ∧ a.expr = .summary sqlName [arg.extracted (.typed "boolean")] := by
  obtain ⟨e, found, built⟩ := bind_eq_ok_iff.mp built
  obtain rfl := pure_eq_ok_iff.mp built
  obtain ⟨fits, rfl⟩ := Schema.resolveTyped_eq_ok found
  exact ⟨fits, rfl⟩

/-- What every entry of the catalog builds. -/
theorem yields_build {call : AggregateCall} {a : Aggregate} (built : call.build schema = .ok a) :
    call.Yields schema a.expr := by
  cases call with
  | count =>
      obtain rfl := Except.ok.inj built
      exact ⟨_, _, rfl, .star .none⟩
  | countColumn arg | countDistinct arg | min arg | max arg | arrayAgg arg | jsonAgg arg =>
      obtain ⟨fits, built⟩ := Schema.of_resolve_bind built
      obtain rfl := pure_eq_ok_iff.mp built
      exact ⟨_, _, rfl, .column fits _ .none⟩
  | sum arg | avg arg =>
      obtain ⟨fits, isCall⟩ := buildSum_eq_ok built
      exact ⟨_, _, isCall, .column fits _ .none⟩
  | boolAnd arg | boolOr arg =>
      obtain ⟨fits, isCall⟩ := buildBoolean_eq_ok built
      exact ⟨_, _, isCall, .column fits _ .none⟩
  | statistic function arg =>
      obtain ⟨e, found, built⟩ := bind_eq_ok_iff.mp built
      obtain rfl := pure_eq_ok_iff.mp built
      obtain ⟨fits, rfl⟩ := Schema.resolveTyped_eq_ok found
      exact ⟨_, _, rfl, .column fits _ .none⟩
  | pair function y x =>
      obtain ⟨e, foundFirst, built⟩ := bind_eq_ok_iff.mp built
      obtain ⟨d, foundSecond, built⟩ := bind_eq_ok_iff.mp built
      obtain rfl := pure_eq_ok_iff.mp built
      obtain ⟨fitsFirst, rfl⟩ := Schema.resolveTyped_eq_ok foundFirst
      obtain ⟨fitsSecond, rfl⟩ := Schema.resolveTyped_eq_ok foundSecond
      exact ⟨_, _, rfl, .column fitsFirst _ (.column fitsSecond _ .none)⟩
  | jsonObjectAgg key value =>
      obtain ⟨fitsKey, built⟩ := Schema.of_resolve_bind built
      obtain ⟨fitsValue, built⟩ := Schema.of_resolve_bind built
      obtain rfl := pure_eq_ok_iff.mp built
      exact ⟨_, _, rfl, .column fitsKey _ (.column fitsValue _ .none)⟩
  | stringAgg arg delimiter =>
      obtain ⟨fits, built⟩ := Schema.of_resolve_bind built
      obtain rfl := pure_eq_ok_iff.mp built
      refine ⟨_, _, rfl, ?_⟩
      -- A column that is no text is cast to one.
      split
      · exact .column fits .text (.constant _ .none)
      · exact .cast fits .text "text" (.constant _ .none)

/-- The operands of a call refer to its columns in their order. -/
theorem Operands.references {args : List ColumnArgument} {es : List Expr}
    (operands : Operands schema args es) :
    List.Forall₂ (ColumnArgument.Reaches schema) args (es.flatMap Expr.references) := by
  induction operands with
  | none => exact .nil
  | star rest ih => simpa using ih
  | constant v rest ih => simpa using ih
  | column fits extraction rest ih =>
      exact List.rel_append (Expr.RefersTo.extracted fits extraction) ih
  | cast fits extraction type rest ih =>
      exact List.rel_append ((Expr.RefersTo.extracted fits extraction).cast type) ih

/-- An aggregate is a call over all rows of a group, and it refers to the columns it was given. -/
theorem refersTo_build {call : AggregateCall} {a : Aggregate} (built : call.build schema = .ok a) :
    (∃ name args distinct, a.expr = .aggregate name args distinct none) ∧
      a.expr.RefersTo schema call.arguments := by
  obtain ⟨name, args, isCall, operands⟩ := yields_build built
  refine ⟨⟨name, args, _, isCall⟩, ?_⟩
  rw [isCall, Expr.RefersTo, Expr.references_aggregate]
  simpa using operands.references

end AggregateCall

namespace OrderedSetCall

variable {schema : Schema}

/-- The columns of a call in the order in which they are given. -/
def arguments : OrderedSetCall → List ColumnArgument
  | .mode column | .percentileCont _ column | .percentileDisc _ column => [column]

/-- The expressions to which calls over ordered rows come: a call in the order of a column, with
fractions or without, and the moment that is computed from the seconds of a column. -/
inductive Yields (schema : Schema) : List ColumnArgument → Expr → Prop where
  | call {arg : ColumnArgument} (fits : arg.Fits schema) (name : String)
      (fractions : Option Fractions) (extraction : Extraction) :
      Yields schema [arg]
        (ordered name (fractions.toList.map Fractions.expr) (arg.extracted extraction))
  | moment {arg : ColumnArgument} (fits : arg.Fits schema) (name : String) (fractions : Fractions)
      (extraction : Extraction) :
      Yields schema [arg] (.call "TO_TIMESTAMP" [ordered name [fractions.expr]
        (.keywordCall "EXTRACT"
          [⟨none, .raw "EPOCH"⟩, ⟨some "FROM", arg.extracted extraction⟩])])

theorem yields_buildPercentile {arg : ColumnArgument} {fractions : Fractions} {o : OrderedSet}
    {extraction : Extraction} {type : Option ColumnType} (fits : arg.Fits schema)
    (built : buildPercentile arg fractions ⟨arg.extracted extraction, type⟩ = .ok o) :
    Yields schema [arg] o.expr := by
  have plain := Yields.call fits "PERCENTILE_CONT" (some fractions) extraction
  unfold buildPercentile at built
  split at built
  case h_1 =>
    obtain rfl := Except.ok.inj built
    exact plain
  case h_2 =>
    split at built
    case isTrue =>
      obtain rfl := Except.ok.inj built
      exact plain
    case isFalse =>
      split at built
      case h_1 =>
        obtain rfl := Except.ok.inj built
        exact plain
      case h_2 | h_3 | h_4 =>
        obtain rfl := Except.ok.inj built
        exact .moment fits _ _ _
      case h_5 => cases built

/-- What every entry of the catalog builds. -/
theorem yields_build {call : OrderedSetCall} {o : OrderedSet}
    (built : call.build schema = .ok o) : Yields schema call.arguments o.expr := by
  cases call with
  | mode arg =>
      obtain ⟨fits, built⟩ := Schema.of_resolve_bind built
      obtain rfl := pure_eq_ok_iff.mp built
      exact .call fits "MODE" none .document
  | percentileCont fractions arg =>
      obtain ⟨-, -, built⟩ := bind_eq_ok_iff.mp built
      obtain ⟨fits, built⟩ := Schema.of_resolve_bind built
      exact yields_buildPercentile fits built
  | percentileDisc fractions arg =>
      obtain ⟨-, -, built⟩ := bind_eq_ok_iff.mp built
      obtain ⟨fits, built⟩ := Schema.of_resolve_bind built
      obtain rfl := pure_eq_ok_iff.mp built
      exact .call fits "PERCENTILE_DISC" (some fractions) .document

@[simp]
theorem references_fractions (fractions : Fractions) : fractions.expr.references = [] := by
  cases fractions with
  | one x => exact Expr.references_literal _
  | many xs => simp [Fractions.expr, List.flatMap_map]

theorem Yields.refersTo {args : List ColumnArgument} {e : Expr} (yields : Yields schema args e) :
    e.RefersTo schema args := by
  cases yields with
  | call fits name fractions extraction =>
      have refers := Expr.RefersTo.extracted fits extraction
      cases fractions <;> simpa [Expr.RefersTo, ordered] using refers
  | moment fits name fractions extraction =>
      -- The seconds of a moment are a keyword and the column, and only the column is referred to.
      have refers := Expr.RefersTo.extracted fits extraction
      simpa [Expr.RefersTo, ordered] using refers

/-- A call over ordered rows refers to the column by which they are ordered. -/
theorem refersTo_build {call : OrderedSetCall} {o : OrderedSet}
    (built : call.build schema = .ok o) : o.expr.RefersTo schema call.arguments :=
  (yields_build built).refersTo

end OrderedSetCall

end SqlCompose
