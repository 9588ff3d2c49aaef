/-
# Reading comparisons

A comparison is given by its symbol or its words, without regard to case and to
blanks around them.
-/

import SqlCompose.Error
import SqlCompose.Operator.Basic
import SqlCompose.Text.Blank

namespace SqlCompose.Comparison

/-- The spellings of the comparisons. -/
def spellings : List (String × Comparison) :=
  [("=", .eq), ("==", .eq), ("!=", .ne), ("<>", .ne), (">", .gt), (">=", .gte), ("<", .lt),
   ("<=", .lte), ("like", .like), ("not like", .notLike), ("ilike", .ilike),
   ("not ilike", .notILike), ("in", .isIn), ("not in", .notIn), ("is", .is), ("is not", .isNot),
   ("@>", .contains), ("<@", .containedBy), ("&&", .overlaps), ("~", .regex), ("~*", .regexI)]

/-- The comparison that a word spells. -/
def ofWord? (word : String) : Option Comparison :=
  spellings.lookup (String.ofList (Text.folded word))

/-- Reads a comparison. -/
def read (word : String) : Except Error Comparison :=
  match ofWord? word with
  | some comparison => .ok comparison
  | none => .error (.invalidOperator word)

end SqlCompose.Comparison
