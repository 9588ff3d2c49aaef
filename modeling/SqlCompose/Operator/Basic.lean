/-
# Operators

Comparisons between a column and a value, the connectives of boolean expressions,
the operators of arithmetic and text, and the orders of sorting.  Each has its SQL
text and, where it is stored or read, its name.
-/

namespace SqlCompose

/-- A comparison. -/
inductive Comparison where
  | eq | ne | gt | gte | lt | lte
  | like | notLike | ilike | notILike
  | isIn | notIn
  | is | isNot
  | contains | containedBy | overlaps
  | regex | regexI
  deriving DecidableEq

namespace Comparison

/-- All comparisons. -/
def all : List Comparison :=
  [.eq, .ne, .gt, .gte, .lt, .lte, .like, .notLike, .ilike, .notILike, .isIn, .notIn, .is, .isNot,
   .contains, .containedBy, .overlaps, .regex, .regexI]

/-- The SQL text of a comparison. -/
def symbol : Comparison → String
  | .eq => "="
  | .ne => "!="
  | .gt => ">"
  | .gte => ">="
  | .lt => "<"
  | .lte => "<="
  | .like => "LIKE"
  | .notLike => "NOT LIKE"
  | .ilike => "ILIKE"
  | .notILike => "NOT ILIKE"
  | .isIn => "IN"
  | .notIn => "NOT IN"
  | .is => "IS"
  | .isNot => "IS NOT"
  | .contains => "@>"
  | .containedBy => "<@"
  | .overlaps => "&&"
  | .regex => "~"
  | .regexI => "~*"

/-- The name under which a comparison is stored. -/
def name : Comparison → String
  | .eq => "Eq"
  | .ne => "Ne"
  | .gt => "Gt"
  | .gte => "Gte"
  | .lt => "Lt"
  | .lte => "Lte"
  | .like => "Like"
  | .notLike => "NotLike"
  | .ilike => "ILike"
  | .notILike => "NotILike"
  | .isIn => "In"
  | .notIn => "NotIn"
  | .is => "Is"
  | .isNot => "IsNot"
  | .contains => "Contains"
  | .containedBy => "ContainedBy"
  | .overlaps => "Overlaps"
  | .regex => "Regex"
  | .regexI => "RegexI"

/-- The comparison stored under a name. -/
def ofName? (name : String) : Option Comparison :=
  all.find? (·.name = name)

/-- Whether the right side is written as a list in parentheses. -/
def takesList : Comparison → Bool
  | .isIn | .notIn => true
  | _ => false

end Comparison

/-- A connective of boolean expressions. -/
inductive Connective where
  | and | or
  deriving DecidableEq

namespace Connective

/-- The SQL text of a connective. -/
def keyword : Connective → String
  | .and => "AND"
  | .or => "OR"

/-- What a connective of no operands amounts to. -/
def neutral : Connective → String
  | .and => "TRUE"
  | .or => "FALSE"

/-- The name under which a connective is stored. -/
def name : Connective → String
  | .and => "And"
  | .or => "Or"

/-- The connective stored under a name. -/
def ofName? (name : String) : Option Connective :=
  [and, or].find? (·.name = name)

end Connective

/-- An operator of arithmetic or text. -/
inductive BinaryOperator where
  | concat | add | sub | mul | div | rem
  deriving DecidableEq

namespace BinaryOperator

/-- All operators of arithmetic and text. -/
def all : List BinaryOperator :=
  [.concat, .add, .sub, .mul, .div, .rem]

/-- The SQL text of an operator. -/
def symbol : BinaryOperator → String
  | .concat => "||"
  | .add => "+"
  | .sub => "-"
  | .mul => "*"
  | .div => "/"
  | .rem => "%"

/-- The name under which an operator is stored. -/
def name : BinaryOperator → String
  | .concat => "Concat"
  | .add => "Add"
  | .sub => "Sub"
  | .mul => "Mul"
  | .div => "Div"
  | .rem => "Rem"

/-- The operator stored under a name. -/
def ofName? (name : String) : Option BinaryOperator :=
  all.find? (·.name = name)

end BinaryOperator

/-- An order of sorting. -/
inductive SortOrder where
  | asc | desc | ascNullsFirst | ascNullsLast | descNullsFirst | descNullsLast
  deriving DecidableEq

namespace SortOrder

/-- All orders of sorting. -/
def all : List SortOrder :=
  [.asc, .desc, .ascNullsFirst, .ascNullsLast, .descNullsFirst, .descNullsLast]

/-- The SQL text of an order. -/
def keyword : SortOrder → String
  | .asc => "ASC"
  | .desc => "DESC"
  | .ascNullsFirst => "ASC NULLS FIRST"
  | .ascNullsLast => "ASC NULLS LAST"
  | .descNullsFirst => "DESC NULLS FIRST"
  | .descNullsLast => "DESC NULLS LAST"

/-- The name under which an order is stored. -/
def name : SortOrder → String
  | .asc => "Asc"
  | .desc => "Desc"
  | .ascNullsFirst => "AscNullsFirst"
  | .ascNullsLast => "AscNullsLast"
  | .descNullsFirst => "DescNullsFirst"
  | .descNullsLast => "DescNullsLast"

/-- The order stored under a name. -/
def ofName? (name : String) : Option SortOrder :=
  all.find? (·.name = name)

end SortOrder

end SqlCompose
