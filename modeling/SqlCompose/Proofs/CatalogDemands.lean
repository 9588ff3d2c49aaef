/-
# What the catalog demands of its arguments

Each function over rows is asked for with columns, and the percentiles with fractions as well.  What
has to hold for a call to be built is listed here in the order in which it is looked at: at least
one fraction is given, and each lies between 0 and 1; then, one column after another, that it is
declared, that it has a path exactly if it holds documents, and that a function which is not defined
for every type admits its type.

A call is built exactly if all of this holds, and otherwise the first point that fails
decides the error.  For what is built the type to which the result is cast is known from the call
and the declarations alone (`CatalogCall.build_demands`).
-/

import SqlCompose.Proofs.BinarySizes
import SqlCompose.Proofs.Demands
import SqlCompose.Proofs.References
import SqlCompose.Window

namespace SqlCompose

open Decimal (Binary64)

/-! ## Numbers between 0 and 1 -/

namespace Decimal.Binary64

variable {x : Binary64}

theorem size_le_one_of_lt (small : x.exponent.toNat < 1023) : x.size ≤ 1 := by
  have significand : (x.significand : ℚ) ≤ 2 ^ (53 : ℤ) := by
    exact_mod_cast (significand_lt x).le
  have scale : x.scale ≤ -53 := by
    unfold Binary64.scale
    omega
  calc x.size ≤ 2 ^ (53 : ℤ) * 2 ^ (-53 : ℤ) :=
        mul_le_mul significand (zpow_le_zpow_right₀ (by norm_num) scale) (by positivity)
          (by positivity)
    _ = 1 := by norm_num

theorem one_lt_size_of_lt (large : 1023 < x.exponent.toNat) : 1 < x.size := by
  have normal : x.exponent ≠ 0 := by
    rintro subnormal
    simp [subnormal] at large
  have significand : (2 : ℚ) ^ (52 : ℤ) ≤ x.significand := by
    rw [significand_of_normal normal]
    exact_mod_cast Nat.le_add_right _ _
  have scale : -51 ≤ x.scale := by
    unfold Binary64.scale
    omega
  calc (1 : ℚ) < 2 ^ (52 : ℤ) * 2 ^ (-51 : ℤ) := by norm_num
    _ ≤ x.size :=
        mul_le_mul significand (zpow_le_zpow_right₀ (by norm_num) scale) (by positivity)
          (by positivity)

/-- Between 1 and 2 the bits of the fraction tell how much a number is above 1. -/
theorem size_le_one_iff_of_eq (exponent : x.exponent = 1023) : x.size ≤ 1 ↔ x.fraction = 0 := by
  have normal : x.exponent ≠ 0 := by
    rw [exponent]
    decide
  have scale : x.scale = -52 := by simp [Binary64.scale, exponent]
  have size : x.size = 1 + x.fraction.toNat * 2 ^ (-52 : ℤ) := by
    rw [Binary64.size, significand_of_normal normal, scale]
    push_cast
    rw [add_mul]
    norm_num
  have unit : (0 : ℚ) < 2 ^ (-52 : ℤ) := by positivity
  rw [size, add_le_iff_nonpos_right, ← not_lt, mul_pos_iff_of_pos_right unit, ← BitVec.toNat_inj]
  simp

theorem size_le_one_iff :
    x.size ≤ 1 ↔ x.exponent.toNat < 1023 ∨ (x.exponent = 1023 ∧ x.fraction = 0) := by
  have ofNat : x.exponent = 1023 ↔ x.exponent.toNat = 1023 := by rw [← BitVec.toNat_inj]; rfl
  rcases lt_trichotomy x.exponent.toNat 1023 with small | isOne | large
  · exact iff_of_true (size_le_one_of_lt small) (.inl small)
  · have exponent := ofNat.mpr isOne
    rw [size_le_one_iff_of_eq exponent]
    simp [exponent]
  · rw [ofNat]
    exact iff_of_false (one_lt_size_of_lt large).not_ge (by omega)

theorem isFinite_of_size_le_one (small : x.size ≤ 1) : x.isFinite = true := by
  -- The exponent of infinities and of NaN is larger than that of every finite number.
  have exponent : x.exponent.toNat ≤ 1023 := not_lt.mp fun large =>
    (one_lt_size_of_lt large).not_ge small
  rw [isFinite, decide_eq_true_iff]
  rintro infinite
  simp [infinite] at exponent

/-- The fields of a number tell that it lies between 0 and 1 exactly if it is finite and its value
does.  A negative zero is one of these numbers, and NaN is none. -/
theorem inUnitInterval_iff :
    x.inUnitInterval = true ↔ x.isFinite = true ∧ 0 ≤ x.value ∧ x.value ≤ 1 := by
  have nonneg := x.size_nonneg
  by_cases zero : x.isZero = true
  · have noSize : x.size = 0 := size_eq_zero_iff.mpr zero
    have finite : x.isFinite = true := isFinite_of_size_le_one (by rw [noSize]; exact zero_le_one)
    simp [inUnitInterval, zero, value, noSize, finite]
  · have size : 0 < x.size := nonneg.lt_of_ne fun noSize => zero (size_eq_zero_iff.mp noSize.symm)
    cases sign : x.negative with
    | true => simp [inUnitInterval, zero, value, sign, size]
    | false =>
        have small : x.inUnitInterval = true ↔ x.size ≤ 1 := by
          simp [size_le_one_iff, inUnitInterval, zero, sign]
        simp only [small, value, sign]
        exact ⟨fun le => ⟨isFinite_of_size_le_one le, nonneg, le⟩, fun ⟨_, _, le⟩ => le⟩

end Decimal.Binary64

/-! ## What is asked of an argument -/

namespace ColumnArgument

/-- Whether an argument has a path into the documents of its column. -/
def hasPath : ColumnArgument → Bool
  | .plain _ => false
  | .json _ _ => true

variable (schema : Schema)

/-- The demand that a column be declared. -/
def declaredDemand (arg : ColumnArgument) : Demand where
  Met := ∃ c, schema.find? arg.name = some c
  Refusal e := e = .unknownColumn schema.name arg.name

/-- The demand that a column have a path exactly if it holds documents. -/
def pathDemand (function : String) (arg : ColumnArgument) : Demand where
  Met := ∀ c, schema.find? arg.name = some c → (arg.hasPath = true ↔ c.type.isJson = true)
  Refusal e :=
    e = if arg.hasPath then .unexpectedJsonPath function arg.name
      else .jsonPathRequired function arg.name

theorem pathDemand_met_iff (function : String) (arg : ColumnArgument) {c : Column}
    (declared : schema.find? arg.name = some c) :
    (arg.pathDemand schema function).Met ↔ (arg.hasPath = true ↔ c.type.isJson = true) := by
  simp [pathDemand, declared]

/-- The demand that a function admit the type of a column, if it is given without a path. -/
def typeDemand (function : String) (admits : ColumnType → Bool) (arg : ColumnArgument) :
    Demand where
  Met := ∀ type, arg.declaredType schema = some type → admits type = true
  Refusal e := ∃ type, arg.declaredType schema = some type ∧
    e = .unsupportedColumnType function arg.name type

/-- What a function that admits some types demands of a column. -/
def demands (function : String) (admits : ColumnType → Bool) (arg : ColumnArgument) :
    List Demand :=
  [arg.declaredDemand schema, arg.pathDemand schema function,
    arg.typeDemand schema function admits]

end ColumnArgument

namespace Schema

variable (schema : Schema) (function : String) (extraction : Extraction) (arg : ColumnArgument)

theorem enforces_require : Enforces (schema.require arg.name) [arg.declaredDemand schema] := by
  unfold require
  cases declared : schema.find? arg.name with
  | some c => exact (Enforces.ok c).cons_of_met ⟨c, declared⟩
  | none =>
      refine .error ?_ fun e => Iff.rfl
      rintro ⟨c, found⟩
      cases declared.symm.trans found

/-- A column is found if it is declared and has a path as it should. -/
theorem enforces_resolve : Enforces (schema.resolve function extraction arg)
    [arg.declaredDemand schema, arg.pathDemand schema function] := by
  have isDeclared := schema.enforces_require arg
  cases arg with
  | plain name =>
      refine isDeclared.bind fun c required => ?_
      have met_iff := ColumnArgument.pathDemand_met_iff schema function (.plain name)
        (require_eq_ok_iff.mp required)
      split
      case isTrue isJson =>
        refine .error ?_ fun e => Iff.rfl
        simp [met_iff, ColumnArgument.hasPath, isJson]
      case isFalse noJson =>
        refine (Enforces.ok _).cons_of_met ?_
        simp [met_iff, ColumnArgument.hasPath, noJson]
  | json name path =>
      refine isDeclared.bind fun c required => ?_
      have met_iff := ColumnArgument.pathDemand_met_iff schema function (.json name path)
        (require_eq_ok_iff.mp required)
      split
      case isTrue isJson =>
        refine (Enforces.ok _).cons_of_met ?_
        simp [met_iff, ColumnArgument.hasPath, isJson]
      case isFalse noJson =>
        refine .error ?_ fun e => Iff.rfl
        simp [met_iff, ColumnArgument.hasPath, noJson]

/-- A function that is defined for every type demands nothing more of a column. -/
theorem enforces_resolve_any : Enforces (schema.resolve function extraction arg)
    (arg.demands schema function fun _ => true) := by
  have anyType : ∀ d ∈ [arg.typeDemand schema function fun _ => true], d.Met :=
    List.forall_mem_singleton.mpr fun _ _ => rfl
  exact (schema.enforces_resolve function extraction arg).append_of_met anyType

variable {function arg} in
/-- A step that succeeds without a type and for the admitted ones, and is refused for the others. -/
theorem enforces_type {α : Type} {step : Except Error α} {admits : ColumnType → Bool}
    (untyped : arg.declaredType schema = none → ∃ a, step = .ok a)
    (admitted : ∀ type, arg.declaredType schema = some type → admits type = true →
      ∃ a, step = .ok a)
    (rejected : ∀ type, arg.declaredType schema = some type → admits type = false →
      step = .error (.unsupportedColumnType function arg.name type)) :
    Enforces step [arg.typeDemand schema function admits] := by
  cases declared : arg.declaredType schema with
  | none =>
      obtain ⟨a, rfl⟩ := untyped declared
      refine (Enforces.ok a).cons_of_met fun type found => ?_
      cases declared.symm.trans found
  | some type =>
      cases isAdmitted : admits type with
      | true =>
          obtain ⟨a, rfl⟩ := admitted type declared isAdmitted
          refine (Enforces.ok a).cons_of_met fun other found => ?_
          obtain rfl : type = other := Option.some.inj (declared.symm.trans found)
          exact isAdmitted
      | false =>
          rw [rejected type declared isAdmitted]
          refine .error (fun met => ?_) fun e => ?_
          · cases isAdmitted.symm.trans (met type declared)
          · simp [ColumnArgument.typeDemand, declared]

/-- A column whose type has to be admitted is found first, and then its type is looked at. -/
theorem enforces_resolveTyped (admits : ColumnType → Bool) :
    Enforces (schema.resolveTyped function extraction admits arg)
      (arg.demands schema function admits) := by
  refine (schema.enforces_resolve function extraction arg).bind fun r found => ?_
  obtain ⟨-, rfl⟩ := resolve_eq_ok_iff.mp found
  apply schema.enforces_type
  · intro untyped
    simp [untyped]
  · intro type declared admitted
    simp [declared, admitted]
  · intro type declared rejected
    simp [declared, rejected]

end Schema

/-! ## What is asked of fractions -/

namespace Fractions

/-- The demand that a fraction lie between 0 and 1. -/
def demand (function : String) (x : Binary64) : Demand where
  Met := x.isFinite = true ∧ 0 ≤ x.value ∧ x.value ≤ 1
  Refusal e := e = .invalidFraction function (.outside x)

/-- What is asked of the fractions of a percentile: that there is one, and that each lies between 0
and 1. -/
def demands (function : String) (fractions : Fractions) : List Demand :=
  { Met := fractions.toList ≠ []
    Refusal e := e = .invalidFraction function .noFraction } ::
  fractions.toList.map (demand function)

theorem enforces_find (function : String) (xs : List Binary64) :
    Enforces
      (match xs.find? fun x => !x.inUnitInterval with
        | some x => .error (.invalidFraction function (.outside x))
        | none => .ok ())
      (xs.map (demand function)) := by
  induction xs with
  | nil => exact .ok ()
  | cons x rest ih =>
      rw [List.find?_cons]
      cases inside : x.inUnitInterval with
      | true => exact ih.cons_of_met (Binary64.inUnitInterval_iff.mp inside)
      | false =>
          refine .error (fun met => ?_) fun e => Iff.rfl
          cases inside.symm.trans (Binary64.inUnitInterval_iff.mpr met)

theorem enforces_validate (function : String) (fractions : Fractions) :
    Enforces (fractions.validate function) (fractions.demands function) := by
  unfold validate
  split
  case isTrue none => exact .error (fun given => given none) fun e => Iff.rfl
  case isFalse given => exact (enforces_find function fractions.toList).cons_of_met given

end Fractions

/-! ## What is asked of calls -/

namespace AggregateCall

variable (schema : Schema)

/-- The name under which a refusal tells of a function. -/
def functionName : AggregateCall → String
  | .count | .countColumn _ => "count"
  | .countDistinct _ => "count_distinct"
  | .sum _ => "sum"
  | .avg _ => "avg"
  | .min _ => "min"
  | .max _ => "max"
  | .statistic function _ => function.name
  | .pair function _ _ => function.name
  | .boolAnd _ => "bool_and"
  | .boolOr _ => "bool_or"
  | .stringAgg _ _ => "string_agg"
  | .arrayAgg _ => "array_agg"
  | .jsonAgg _ => "json_agg"
  | .jsonObjectAgg _ _ => "json_object_agg"

/-- The types of columns for which a function is defined. -/
def admits : AggregateCall → ColumnType → Bool
  | .sum _, type | .avg _, type => type.isNumeric || type = .interval
  | .statistic _ _, type | .pair _ _ _, type => type.isNumeric
  | .boolAnd _, type | .boolOr _, type => type = .boolean
  | _, _ => true

/-- The type to which the result of a function is cast. -/
def castFor : AggregateCall → Option NumericCast
  | .count | .countColumn _ | .countDistinct _ | .pair .regrCount _ _ => some .integer
  | .sum column | .avg column =>
    if column.declaredType schema = some .interval then none else some .float8
  | .statistic _ _ | .pair _ _ _ => some .float8
  | _ => none

/-- What is asked of the columns of a call, one column after another. -/
def demands (call : AggregateCall) : List Demand :=
  call.arguments.flatMap (ColumnArgument.demands schema call.functionName call.admits)

/-- A sum or an average looks for its column twice, which asks for nothing that was not asked for
before. -/
theorem enforces_buildSum (name sqlName : String) (arg : ColumnArgument) :
    Enforces (buildSum schema name sqlName arg) (arg.demands schema name isSummable) := by
  have resolved := schema.enforces_resolve name number arg
  refine resolved.bind fun r found => ?_
  -- What the first look has found is met when the column is looked for again.
  have again := schema.enforces_resolveTyped name number arg isSummable
  exact (again.of_append (resolved.ok_iff.mp ⟨r, found⟩)).map _

/-- A call is built if all is well with its columns. -/
theorem enforces_build (call : AggregateCall) :
    Enforces (call.build schema) (call.demands schema) := by
  cases call with
  | count => exact .ok _
  | countColumn arg | countDistinct arg | min arg | max arg | stringAgg arg | arrayAgg arg
  | jsonAgg arg => exact (schema.enforces_resolve_any _ _ arg).map _
  | sum arg | avg arg => exact enforces_buildSum schema _ _ arg
  | statistic function arg => exact (schema.enforces_resolveTyped _ _ arg _).map _
  | boolAnd arg | boolOr arg => exact (schema.enforces_resolveTyped _ _ arg _).map _
  | pair function y x =>
      exact (schema.enforces_resolveTyped _ _ y _).bind fun _ _ =>
        (schema.enforces_resolveTyped _ _ x _).map _
  | jsonObjectAgg key value =>
      exact (schema.enforces_resolve_any _ _ key).bind fun _ _ =>
        (schema.enforces_resolve_any _ _ value).map _

variable {schema}

theorem cast_buildSum {name sqlName : String} {arg : ColumnArgument} {a : Aggregate}
    (built : buildSum schema name sqlName arg = .ok a) :
    a.cast = if arg.declaredType schema = some .interval then none else some .float8 := by
  obtain ⟨-, built⟩ := Schema.of_resolve_bind built
  obtain ⟨e, -, built⟩ := bind_eq_ok_iff.mp built
  obtain rfl := pure_eq_ok_iff.mp built
  rfl

theorem cast_build {call : AggregateCall} {a : Aggregate} (built : call.build schema = .ok a) :
    a.cast = call.castFor schema := by
  cases call with
  | count =>
      obtain rfl := Except.ok.inj built
      rfl
  | sum arg | avg arg => exact cast_buildSum built
  | countColumn arg | countDistinct arg | min arg | max arg | stringAgg arg | arrayAgg arg
  | jsonAgg arg | statistic function arg =>
      obtain ⟨_, -, built⟩ := bind_eq_ok_iff.mp built
      obtain rfl := pure_eq_ok_iff.mp built
      rfl
  | boolAnd arg | boolOr arg =>
      obtain ⟨_, -, built⟩ := bind_eq_ok_iff.mp built
      obtain rfl := pure_eq_ok_iff.mp built
      rfl
  | jsonObjectAgg key value =>
      obtain ⟨_, -, built⟩ := bind_eq_ok_iff.mp built
      obtain ⟨_, -, built⟩ := bind_eq_ok_iff.mp built
      obtain rfl := pure_eq_ok_iff.mp built
      rfl
  | pair function y x =>
      obtain ⟨_, -, built⟩ := bind_eq_ok_iff.mp built
      obtain ⟨_, -, built⟩ := bind_eq_ok_iff.mp built
      obtain rfl := pure_eq_ok_iff.mp built
      cases function <;> rfl

end AggregateCall

namespace OrderedSetCall

variable (schema : Schema)

/-- The name under which a refusal tells of a function. -/
def functionName : OrderedSetCall → String
  | .mode _ => "mode"
  | .percentileCont _ _ => "percentile_cont"
  | .percentileDisc _ _ => "percentile_disc"

/-- The types of columns for which a function is defined.  Between moments one fraction can be
taken, and no list of fractions, not even of a single one. -/
def admits : OrderedSetCall → ColumnType → Bool
  | .percentileCont _ _, .interval => true
  | .percentileCont (.one _) _, .date | .percentileCont (.one _) _, .timestamp
  | .percentileCont (.one _) _, .timestamptz => true
  | .percentileCont _ _, type => type.isNumeric
  | _, _ => true

/-- The type to which the result of a function is cast.  A percentile between numbers is a number,
and several of them are a list of numbers. -/
def castFor : OrderedSetCall → Option NumericCast
  | .percentileCont (.one _) column =>
    if (column.declaredType schema).all ColumnType.isNumeric then some .float8 else none
  | .percentileCont (.many _) column =>
    if (column.declaredType schema).all ColumnType.isNumeric then some .float8Array else none
  | _ => none

/-- What is asked of the fractions of a call. -/
def fractionDemands (call : OrderedSetCall) : List Demand :=
  match call with
  | .mode _ => []
  | .percentileCont fractions _ | .percentileDisc fractions _ => fractions.demands call.functionName

/-- What is asked of a call: first of its fractions, and then of its column. -/
def demands (call : OrderedSetCall) : List Demand :=
  call.fractionDemands ++
    call.arguments.flatMap (ColumnArgument.demands schema call.functionName call.admits)

theorem enforces_buildPercentile (fractions : Fractions) (arg : ColumnArgument)
    (extraction : Extraction) :
    Enforces (buildPercentile arg fractions ⟨arg.extracted extraction, arg.declaredType schema⟩)
      [arg.typeDemand schema "percentile_cont" (percentileCont fractions arg).admits] := by
  apply schema.enforces_type
  · intro untyped
    simp [buildPercentile, untyped]
  · intro type declared admitted
    rw [declared]
    cases type with
    | smallint | integer | bigint | numeric | real | double | interval => exact ⟨_, rfl⟩
    | date | timestamp | timestamptz =>
        cases fractions with
        | one x => exact ⟨_, rfl⟩
        | many xs => cases admitted
    | text | boolean | uuid | json | jsonb => cases admitted
  · intro type declared rejected
    rw [declared]
    cases type with
    | smallint | integer | bigint | numeric | real | double | interval => cases rejected
    | date | timestamp | timestamptz =>
        cases fractions with
        | one x => cases rejected
        | many xs => rfl
    | text | boolean | uuid | json | jsonb => rfl

theorem enforces_build (call : OrderedSetCall) :
    Enforces (call.build schema) (call.demands schema) := by
  cases call with
  | mode arg => exact (schema.enforces_resolve_any _ _ arg).map _
  | percentileDisc fractions arg =>
      exact (fractions.enforces_validate _).bind fun _ _ =>
        (schema.enforces_resolve_any _ _ arg).map _
  | percentileCont fractions arg =>
      refine (fractions.enforces_validate _).bind fun _ _ => ?_
      refine (schema.enforces_resolve _ _ arg).bind fun r found => ?_
      obtain ⟨-, rfl⟩ := Schema.resolve_eq_ok_iff.mp found
      exact enforces_buildPercentile schema fractions arg _

variable {schema}

theorem cast_buildPercentile {arg : ColumnArgument} {fractions : Fractions}
    {column : ResolvedColumn} {o : OrderedSet}
    (built : buildPercentile arg fractions column = .ok o) :
    o.cast = if column.type.all ColumnType.isNumeric then some fractions.cast else none := by
  unfold buildPercentile at built
  split at built
  case h_1 untyped =>
    obtain rfl := Except.ok.inj built
    simp [untyped]
  case h_2 type typed =>
    split at built
    case isTrue numeric =>
      obtain rfl := Except.ok.inj built
      simp [typed, numeric]
    case isFalse noNumber =>
      have noCast : (if column.type.all ColumnType.isNumeric then some fractions.cast else none) =
          none := by simp [typed, noNumber]
      rw [noCast]
      split at built
      case h_5 => cases built
      all_goals
        obtain rfl := Except.ok.inj built
        rfl

theorem cast_build {call : OrderedSetCall} {o : OrderedSet} (built : call.build schema = .ok o) :
    o.cast = call.castFor schema := by
  cases call with
  | mode arg =>
      obtain ⟨_, -, built⟩ := bind_eq_ok_iff.mp built
      obtain rfl := pure_eq_ok_iff.mp built
      rfl
  | percentileDisc fractions arg =>
      obtain ⟨_, -, built⟩ := bind_eq_ok_iff.mp built
      obtain ⟨_, -, built⟩ := bind_eq_ok_iff.mp built
      obtain rfl := pure_eq_ok_iff.mp built
      rfl
  | percentileCont fractions arg =>
      obtain ⟨_, -, built⟩ := bind_eq_ok_iff.mp built
      obtain ⟨-, built⟩ := Schema.of_resolve_bind built
      rw [cast_buildPercentile built]
      cases fractions <;> rfl

end OrderedSetCall

/-- A call of one of the functions of the catalog. -/
inductive CatalogCall where
  | aggregate (call : AggregateCall)
  | orderedSet (call : OrderedSetCall)
  | ranking (function : Ranking)

namespace CatalogCall

variable (schema : Schema)

/-- What is built for a call, and the type to which its result is cast. -/
def build : CatalogCall → Except Error Aggregate
  | .aggregate call => call.build schema
  | .orderedSet call => (fun o => ⟨o.expr, o.cast⟩) <$> call.build schema
  | .ranking function => .ok ⟨function.expr, (function.window schema).cast⟩

/-- What is asked of a call in the order in which it is looked at.  Rankings have no arguments. -/
def demands : CatalogCall → List Demand
  | .aggregate call => call.demands schema
  | .orderedSet call => call.demands schema
  | .ranking _ => []

/-- The type to which the result of a call is cast: counts and ranks are whole numbers. -/
def castFor : CatalogCall → Option NumericCast
  | .aggregate call => call.castFor schema
  | .orderedSet call => call.castFor schema
  | .ranking _ => some .integer

theorem enforces_build (call : CatalogCall) :
    Enforces (call.build schema) (call.demands schema) := by
  cases call with
  | aggregate call => exact call.enforces_build schema
  | orderedSet call => exact (call.enforces_build schema).map _
  | ranking function => exact .ok _

theorem cast_build {call : CatalogCall} {a : Aggregate} (built : call.build schema = .ok a) :
    a.cast = call.castFor schema := by
  cases call with
  | aggregate call => exact AggregateCall.cast_build built
  | orderedSet call =>
      obtain ⟨o, isCall, rfl⟩ := map_eq_ok_iff.mp built
      exact OrderedSetCall.cast_build isCall
  | ranking function =>
      obtain rfl := Except.ok.inj built
      rfl

/-- A call is built exactly if all that is asked of its fractions and columns holds, and otherwise
the first point that fails decides the error.  What is built has the cast that the call and
the declared types ask for. -/
theorem build_demands (call : CatalogCall) :
    ((∃ a, call.build schema = .ok a) ↔ ∀ d ∈ call.demands schema, d.Met) ∧
      (∀ e, call.build schema = .error e ↔ FirstUnmet (call.demands schema) e) ∧
      ∀ a, call.build schema = .ok a → a.cast = call.castFor schema := by
  have enforces := call.enforces_build schema
  exact ⟨enforces.ok_iff, enforces.error_iff, fun _ => cast_build schema⟩

/-- Of two declarations the first counts, so that an average is one of spans of time and keeps its
type.  A fraction that is no number is refused before a column that is not declared.  A correlation
takes numbers and what is found along a path, but no spans of time; documents without a path are
refused before the second column is looked at, and so is a path into numbers. -/
theorem calls_on_employees :
    let schema : Schema := ⟨"employees", [⟨"shift", .interval⟩, ⟨"shift", .text⟩,
      ⟨"salary", .integer⟩, ⟨"profile", .jsonb⟩]⟩
    let half := Binary64.ofRatio false 1 2
    let age := ColumnArgument.json "profile" (JsonPath.root.key "age")
    let corr := fun y x => CatalogCall.aggregate (.pair .corr y x)
    (∃ a, (CatalogCall.aggregate (.avg (.plain "shift"))).build schema = .ok a ∧ a.cast = none) ∧
      (CatalogCall.orderedSet (.percentileDisc (.many [half, .nan]) (.plain "wage"))).build schema =
        .error (.invalidFraction "percentile_disc" (.outside .nan)) ∧
      (∃ a, (corr (.plain "salary") age).build schema = .ok a ∧ a.cast = some .float8) ∧
      (corr age (.plain "shift")).build schema =
        .error (.unsupportedColumnType "corr" "shift" .interval) ∧
      (corr (.plain "profile") (.plain "wage")).build schema =
        .error (.jsonPathRequired "corr" "profile") ∧
      (corr (.json "salary" .root) (.plain "wage")).build schema =
        .error (.unexpectedJsonPath "corr" "salary") := by
  intro schema half age corr
  have path_iff (arg : ColumnArgument) {c : Column} (found : schema.find? arg.name = some c) :=
    ColumnArgument.pathDemand_met_iff schema "corr" arg found
  have ageIsDeclared : (age.declaredDemand schema).Met := ⟨_, rfl⟩
  have ageHasPath : (age.pathDemand schema "corr").Met := (path_iff age rfl).mpr (by decide)
  have ageHasNoType : (age.typeDemand schema "corr" (AggregateCall.pair .corr age age).admits).Met :=
    nofun
  refine ⟨?average, ?fraction, ?correlation, ?span, ?documents, ?path⟩
  case average =>
    obtain ⟨a, built⟩ : ∃ a, (CatalogCall.aggregate (.avg (.plain "shift"))).build schema = .ok a :=
      ⟨_, rfl⟩
    exact ⟨a, built, (build_demands schema _).2.2 a built⟩
  case fraction =>
    have inside : half.inUnitInterval = true := by decide +kernel
    refine ((build_demands schema _).2.1 _).mpr (.later (List.cons_ne_nil _ _) ?_)
    refine .later (Binary64.inUnitInterval_iff.mp inside) (.here ?_ rfl)
    exact fun met => absurd met.1 (by decide)
  case correlation =>
    have salary : ((ColumnArgument.plain "salary").typeDemand schema "corr"
        (AggregateCall.pair .corr age age).admits).Met := by
      rintro _ ⟨⟩
      rfl
    have met : ∀ d ∈ (corr (.plain "salary") age).demands schema, d.Met := by
      show ∀ d ∈ ([_, _, _, _, _, _] : List Demand), d.Met
      simp only [List.forall_mem_cons]
      exact ⟨⟨_, rfl⟩, (path_iff _ rfl).mpr (by decide), salary, ageIsDeclared, ageHasPath,
        ageHasNoType, nofun⟩
    obtain ⟨a, built⟩ := (build_demands schema _).1.mpr met
    exact ⟨a, built, (build_demands schema _).2.2 a built⟩
  case span =>
    refine ((build_demands schema _).2.1 _).mpr (.later ageIsDeclared (.later ageHasPath ?_))
    refine .later ageHasNoType (.later (⟨_, rfl⟩) (.later ((path_iff _ rfl).mpr (by decide)) ?_))
    exact .here (fun met => absurd (met .interval rfl) (by decide)) ⟨.interval, rfl, rfl⟩
  case documents =>
    refine ((build_demands schema _).2.1 _).mpr (.later (⟨_, rfl⟩) (.here ?_ rfl))
    exact fun met => absurd ((path_iff _ rfl).mp met) (by decide)
  case path =>
    refine ((build_demands schema _).2.1 _).mpr (.later (⟨_, rfl⟩) (.here ?_ rfl))
    exact fun met => absurd ((path_iff _ rfl).mp met) (by decide)

end CatalogCall

end SqlCompose
