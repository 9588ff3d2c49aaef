/-
# Functions over rows

The catalog of the functions that summarise rows, in three kinds: aggregates, which
can also run over a window; ordered-set aggregates, which cannot; and rankings, which
exist over a window only.  A result that is a number is cast to one fixed type,
whatever the type of the column.
-/

import SqlCompose.Aggregate.Column

namespace SqlCompose

open Decimal (Binary64)

/-- The fixed type of a numeric result. -/
inductive NumericCast where
  | float8 | float8Array | integer
  deriving DecidableEq

namespace NumericCast

/-- The SQL text of the type. -/
def sqlName : NumericCast → String
  | .float8 => "float8"
  | .float8Array => "float8[]"
  | .integer => "integer"

/-- The expression with the cast around it, if there is one. -/
def apply (cast : Option NumericCast) (e : Expr) : Expr :=
  match cast with
  | some type => .cast e type.sqlName
  | none => e

end NumericCast

/-- An aggregate function of one numeric column. -/
inductive Statistic where
  | stddevPop | stddevSamp | varPop | varSamp
  deriving DecidableEq

namespace Statistic

/-- The name of the function in messages. -/
def name : Statistic → String
  | .stddevPop => "stddev_pop"
  | .stddevSamp => "stddev_samp"
  | .varPop => "var_pop"
  | .varSamp => "var_samp"

/-- The SQL name of the function. -/
def sqlName : Statistic → String
  | .stddevPop => "STDDEV_POP"
  | .stddevSamp => "STDDEV_SAMP"
  | .varPop => "VAR_POP"
  | .varSamp => "VAR_SAMP"

end Statistic

/-- An aggregate function of two numeric columns. -/
inductive PairStatistic where
  | corr | covarPop | covarSamp
  | regrSlope | regrIntercept | regrR2 | regrCount | regrAvgx | regrAvgy | regrSxx | regrSyy
  | regrSxy
  deriving DecidableEq

namespace PairStatistic

/-- The name of the function in messages. -/
def name : PairStatistic → String
  | .corr => "corr"
  | .covarPop => "covar_pop"
  | .covarSamp => "covar_samp"
  | .regrSlope => "regr_slope"
  | .regrIntercept => "regr_intercept"
  | .regrR2 => "regr_r2"
  | .regrCount => "regr_count"
  | .regrAvgx => "regr_avgx"
  | .regrAvgy => "regr_avgy"
  | .regrSxx => "regr_sxx"
  | .regrSyy => "regr_syy"
  | .regrSxy => "regr_sxy"

/-- The SQL name of the function. -/
def sqlName : PairStatistic → String
  | .corr => "CORR"
  | .covarPop => "COVAR_POP"
  | .covarSamp => "COVAR_SAMP"
  | .regrSlope => "REGR_SLOPE"
  | .regrIntercept => "REGR_INTERCEPT"
  | .regrR2 => "REGR_R2"
  | .regrCount => "REGR_COUNT"
  | .regrAvgx => "REGR_AVGX"
  | .regrAvgy => "REGR_AVGY"
  | .regrSxx => "REGR_SXX"
  | .regrSyy => "REGR_SYY"
  | .regrSxy => "REGR_SXY"

/-- The type of the result. -/
def cast : PairStatistic → NumericCast
  | .regrCount => .integer
  | _ => .float8

end PairStatistic

/-- A call of an aggregate that can also run over a window. -/
inductive AggregateCall where
  /-- All rows. -/
  | count
  /-- The rows in which the column is not NULL. -/
  | countColumn (column : ColumnArgument)
  | countDistinct (column : ColumnArgument)
  | sum (column : ColumnArgument)
  | avg (column : ColumnArgument)
  | min (column : ColumnArgument)
  | max (column : ColumnArgument)
  | statistic (function : Statistic) (column : ColumnArgument)
  | pair (function : PairStatistic) (y x : ColumnArgument)
  | boolAnd (column : ColumnArgument)
  | boolOr (column : ColumnArgument)
  | stringAgg (column : ColumnArgument) (delimiter : String)
  | arrayAgg (column : ColumnArgument)
  | jsonAgg (column : ColumnArgument)
  | jsonObjectAgg (key value : ColumnArgument)
  deriving DecidableEq

/-- An aggregate that was built, with the type to which its result is cast. -/
structure Aggregate where
  expr : Expr
  cast : Option NumericCast

/-- The aggregate as an expression. -/
def Aggregate.toExpr (a : Aggregate) : Expr :=
  NumericCast.apply a.cast a.expr

/-- A plain call of an aggregate function. -/
def Expr.summary (name : String) (args : List Expr) : Expr :=
  .aggregate name args false none

namespace AggregateCall

/-- A column of numbers. -/
def number : Extraction :=
  .typed "numeric"

/-- A type of which sums and averages can be taken. -/
def isSummable (type : ColumnType) : Bool :=
  type.isNumeric || type = .interval

/-- A sum or an average: a span of time keeps its type, a number is cast. -/
def buildSum (schema : Schema) (name sqlName : String) (arg : ColumnArgument) :
    Except Error Aggregate := do
  let resolved ← schema.resolve name number arg
  let expr ← schema.resolveTyped name number isSummable arg
  let cast := if resolved.type = some .interval then none else some NumericCast.float8
  return ⟨.summary sqlName [expr], cast⟩

/-- The conjunction or disjunction of a column of truth values. -/
def buildBoolean (schema : Schema) (name sqlName : String) (arg : ColumnArgument) :
    Except Error Aggregate := do
  let expr ← schema.resolveTyped name (.typed "boolean") (· = .boolean) arg
  return ⟨.summary sqlName [expr], none⟩

/-- Builds an aggregate for the columns of a schema. -/
def build (schema : Schema) : AggregateCall → Except Error Aggregate
  | .count => .ok ⟨.summary "COUNT" [.star], some .integer⟩
  | .countColumn arg => do
    let column ← schema.resolve "count" .document arg
    return ⟨.summary "COUNT" [column.expr], some .integer⟩
  | .countDistinct arg => do
    let column ← schema.resolve "count_distinct" .document arg
    return ⟨.aggregate "COUNT" [column.expr] true none, some .integer⟩
  | .sum arg => buildSum schema "sum" "SUM" arg
  | .avg arg => buildSum schema "avg" "AVG" arg
  | .min arg => do
    let column ← schema.resolve "min" number arg
    return ⟨.summary "MIN" [column.expr], none⟩
  | .max arg => do
    let column ← schema.resolve "max" number arg
    return ⟨.summary "MAX" [column.expr], none⟩
  | .statistic function arg => do
    let expr ← schema.resolveTyped function.name number ColumnType.isNumeric arg
    return ⟨.summary function.sqlName [expr], some .float8⟩
  | .pair function y x => do
    let y ← schema.resolveTyped function.name number ColumnType.isNumeric y
    let x ← schema.resolveTyped function.name number ColumnType.isNumeric x
    return ⟨.summary function.sqlName [y, x], some function.cast⟩
  | .boolAnd arg => buildBoolean schema "bool_and" "BOOL_AND" arg
  | .boolOr arg => buildBoolean schema "bool_or" "BOOL_OR" arg
  | .stringAgg arg delimiter => do
    let column ← schema.resolve "string_agg" .text arg
    let isText := column.type = none ∨ column.type = some .text
    let expr := if isText then column.expr else .cast column.expr "text"
    return ⟨.summary "STRING_AGG" [expr, .literal (.text delimiter)], none⟩
  | .arrayAgg arg => do
    let column ← schema.resolve "array_agg" .document arg
    return ⟨.summary "ARRAY_AGG" [column.expr], none⟩
  | .jsonAgg arg => do
    let column ← schema.resolve "json_agg" .document arg
    return ⟨.summary "JSON_AGG" [column.expr], none⟩
  | .jsonObjectAgg key value => do
    let key ← schema.resolve "json_object_agg" .text key
    let value ← schema.resolve "json_object_agg" .document value
    return ⟨.summary "JSON_OBJECT_AGG" [key.expr, value.expr], none⟩

end AggregateCall

/-- The fractions of a percentile: one, or a list of them. -/
inductive Fractions where
  | one (fraction : Binary64)
  | many (fractions : List Binary64)
  deriving DecidableEq

namespace Fractions

/-- The fractions in order. -/
def toList : Fractions → List Binary64
  | .one x => [x]
  | .many xs => xs

/-- There is at least one fraction, and each lies between 0 and 1. -/
def validate (function : String) (fractions : Fractions) : Except Error Unit :=
  if fractions.toList = [] then .error (.invalidFraction function .noFraction)
  else
    match fractions.toList.find? fun x => !x.inUnitInterval with
    | some x => .error (.invalidFraction function (.outside x))
    | none => .ok ()

/-- The fractions as an argument. -/
def expr : Fractions → Expr
  | .one x => .literal (.float x)
  | .many xs => .array (xs.map fun x => .literal (.float x))

/-- The type of a numeric percentile. -/
def cast : Fractions → NumericCast
  | .one _ => .float8
  | .many _ => .float8Array

end Fractions

/-- A call of an ordered-set aggregate. -/
inductive OrderedSetCall where
  /-- The most frequent value. -/
  | mode (column : ColumnArgument)
  /-- A percentile between two values, interpolated. -/
  | percentileCont (fractions : Fractions) (column : ColumnArgument)
  /-- A percentile that is one of the values. -/
  | percentileDisc (fractions : Fractions) (column : ColumnArgument)
  deriving DecidableEq

/-- An ordered-set aggregate that was built, with the type to which its result is cast. -/
structure OrderedSet where
  expr : Expr
  cast : Option NumericCast

/-- The ordered-set aggregate as an expression. -/
def OrderedSet.toExpr (o : OrderedSet) : Expr :=
  NumericCast.apply o.cast o.expr

namespace OrderedSetCall

/-- A call over rows in the order of an expression. -/
def ordered (name : String) (direct : List Expr) (order : Expr) : Expr :=
  .aggregate name direct false (some order)

/-- The interpolated percentile of a column that was found.  Moments are interpolated
on their seconds since 1970, and for one fraction only. -/
def buildPercentile (arg : ColumnArgument) (fractions : Fractions) (column : ResolvedColumn) :
    Except Error OrderedSet :=
  let percentile := ordered "PERCENTILE_CONT" [fractions.expr]
  let numeric : OrderedSet := ⟨percentile column.expr, some fractions.cast⟩
  match column.type with
  | none => .ok numeric
  | some type =>
    if type.isNumeric then .ok numeric
    else
      match type, fractions with
      | .interval, _ => .ok ⟨percentile column.expr, none⟩
      | .date, .one _ | .timestamp, .one _ | .timestamptz, .one _ =>
        let seconds := .keywordCall "EXTRACT" [⟨none, .raw "EPOCH"⟩, ⟨some "FROM", column.expr⟩]
        .ok ⟨.call "TO_TIMESTAMP" [percentile seconds], none⟩
      | type, _ => .error (.unsupportedColumnType "percentile_cont" arg.name type)

/-- Builds an ordered-set aggregate for the columns of a schema. -/
def build (schema : Schema) : OrderedSetCall → Except Error OrderedSet
  | .mode arg => do
    let column ← schema.resolve "mode" .document arg
    return ⟨ordered "MODE" [] column.expr, none⟩
  | .percentileCont fractions arg => do
    fractions.validate "percentile_cont"
    let column ← schema.resolve "percentile_cont" AggregateCall.number arg
    buildPercentile arg fractions column
  | .percentileDisc fractions arg => do
    fractions.validate "percentile_disc"
    let column ← schema.resolve "percentile_disc" .document arg
    return ⟨ordered "PERCENTILE_DISC" [fractions.expr] column.expr, none⟩

end OrderedSetCall

/-- A ranking function. -/
inductive Ranking where
  | rowNumber | rank | denseRank
  deriving DecidableEq

namespace Ranking

/-- The SQL name of a ranking function. -/
def sqlName : Ranking → String
  | .rowNumber => "ROW_NUMBER"
  | .rank => "RANK"
  | .denseRank => "DENSE_RANK"

/-- The call of a ranking function, which has no arguments. -/
def expr (r : Ranking) : Expr :=
  .summary r.sqlName []

end Ranking

end SqlCompose
