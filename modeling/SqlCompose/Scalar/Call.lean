/-
# Scalar calls

The functions that are applied to one expression at a time.  A chain of calls wraps
an expression from the inside out, so `lower` and then `left 1` of a column is the
call `LEFT(LOWER(column), 1)`.

Lengths, positions and digits are written into the statement and not bound to it: a
bound number has 64 bits, and the functions take integers of 32.
-/

import SqlCompose.Expr.Basic
import SqlCompose.Scalar.Unit

namespace SqlCompose

open Decimal (Numeral.text)

/-- A function of one expression and nothing else. -/
inductive PlainFunction where
  | upper | lower | initcap | trim | ltrim | rtrim | reverse | length
  | abs | floor | ceil | sqrt | sign
  | sin | cos | tan | asin | acos | atan
  deriving DecidableEq

/-- The SQL name of a plain function. -/
def PlainFunction.sqlName : PlainFunction → String
  | .upper => "UPPER"
  | .lower => "LOWER"
  | .initcap => "INITCAP"
  | .trim => "TRIM"
  | .ltrim => "LTRIM"
  | .rtrim => "RTRIM"
  | .reverse => "REVERSE"
  | .length => "LENGTH"
  | .abs => "ABS"
  | .floor => "FLOOR"
  | .ceil => "CEIL"
  | .sqrt => "SQRT"
  | .sign => "SIGN"
  | .sin => "SIN"
  | .cos => "COS"
  | .tan => "TAN"
  | .asin => "ASIN"
  | .acos => "ACOS"
  | .atan => "ATAN"

/-- A part of a date with a name of its own. -/
inductive DateField where
  | year | month | day
  deriving DecidableEq

/-- The SQL name of a part of a date. -/
def DateField.sqlName : DateField → String
  | .year => "YEAR"
  | .month => "MONTH"
  | .day => "DAY"

/-- The expressions of the present moment. -/
inductive Present where
  | timestamp | date | time
  deriving DecidableEq

/-- The expression of the present moment. -/
def Present.expr : Present → Expr
  | .timestamp => .raw "CURRENT_TIMESTAMP"
  | .date => .raw "CURRENT_DATE"
  | .time => .raw "CURRENT_TIME"

/-- A call that can be applied to an expression. -/
inductive ScalarCall where
  | plain (function : PlainFunction)
  | concat (parts : List Expr)
  | substring (start : Int64) (length : Option Int64)
  | left (length : Int64)
  | right (length : Int64)
  | replace (needle replacement : String)
  | repeated (times : Int64)
  | position (needle : String)
  | round (digits : Option Int64)
  | trunc (digits : Option Int64)
  | modulo (divisor : Value)
  | power (exponent : Value)
  | datePart (unit : DateUnit)
  | extract (field : DateField)
  | dateFormat (format : String)
  | dateAdd (amount : Int64) (unit : DateUnit)
  | dateSub (amount : Int64) (unit : DateUnit)
  /-- The age, measured at a given moment or at the present one. -/
  | age (moment : Option Expr)
  | coalesce (fallbacks : List Expr)
  | nullif (value : Value)
  | greatest (others : List Expr)
  | least (others : List Expr)
  | convert (type : ConversionType)
  | toNumber (format : Option String)
  | jsonGet (path : JsonPath)
  | jsonArrayLength (path : JsonPath)
  | jsonTypeof (path : JsonPath)

namespace ScalarCall

/-- A whole number that is written into the statement. -/
def integer (n : Int64) : Expr :=
  .raw (Numeral.text n.toInt)

/-- A constant text. -/
def textLiteral (s : String) : Expr :=
  .literal (.text s)

/-- A function that rounds to a number of digits.  It does so for numerics only, so the
expression is cast to one. -/
def rounded (name : String) (digits : Option Int64) (e : Expr) : Expr :=
  match digits with
  | some d => .call name [.cast e "numeric", integer d]
  | none => .call name [e]

/-- The expression with the call around it. -/
def apply (e : Expr) : ScalarCall → Expr
  | .plain function => .call function.sqlName [e]
  | .concat parts => .call "CONCAT" (e :: parts)
  | .substring start length =>
    let range : List KeywordArgument := [⟨none, e⟩, ⟨some "FROM", integer start⟩]
    match length with
    | some n => .keywordCall "SUBSTRING" (range ++ [⟨some "FOR", integer n⟩])
    | none => .keywordCall "SUBSTRING" range
  | .left n => .call "LEFT" [e, integer n]
  | .right n => .call "RIGHT" [e, integer n]
  | .replace needle replacement =>
    .call "REPLACE" [e, textLiteral needle, textLiteral replacement]
  | .repeated n => .call "REPEAT" [e, integer n]
  | .position needle => .keywordCall "POSITION" [⟨none, textLiteral needle⟩, ⟨some "IN", e⟩]
  | .round digits => rounded "ROUND" digits e
  | .trunc digits => rounded "TRUNC" digits e
  | .modulo v => .call "MOD" [e, .literal v]
  | .power v => .call "POWER" [e, .literal v]
  | .datePart unit => .call "DATE_PART" [.raw ("'" ++ unit.name ++ "'"), e]
  | .extract field => .keywordCall "EXTRACT" [⟨none, .raw field.sqlName⟩, ⟨some "FROM", e⟩]
  | .dateFormat format => .call "TO_CHAR" [e, textLiteral format]
  | .dateAdd n unit => .binary e .add (.raw (unit.interval n))
  | .dateSub n unit => .binary e .sub (.raw (unit.interval n))
  | .age (some moment) => .call "AGE" [moment, e]
  | .age none => .call "AGE" [e]
  | .coalesce fallbacks => .call "COALESCE" (e :: fallbacks)
  | .nullif v => .call "NULLIF" [e, .literal v]
  | .greatest others => .call "GREATEST" (e :: others)
  | .least others => .call "LEAST" (e :: others)
  | .convert type => .cast e type.sqlName
  | .toNumber (some format) => .call "TO_NUMBER" [e, textLiteral format]
  | .toNumber none => .cast e "numeric"
  | .jsonGet path => .jsonAccess e path false
  | .jsonArrayLength path => .call "JSONB_ARRAY_LENGTH" [.jsonAccess e path false]
  | .jsonTypeof path => .call "JSONB_TYPEOF" [.jsonAccess e path false]

end ScalarCall

/-- The expression with a chain of calls around it, the first call innermost. -/
def Expr.chain (e : Expr) (calls : List ScalarCall) : Expr :=
  calls.foldl ScalarCall.apply e

end SqlCompose
