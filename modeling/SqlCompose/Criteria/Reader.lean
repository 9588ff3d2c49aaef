/-
# Reading criteria

Criteria are given as a JSON object.  A field with an array is a comparison with the
column: the array holds an operator and a value, and for membership in a list the
value may be an array again.  Any other field asks for equality.
-/

import SqlCompose.Criteria.Basic
import SqlCompose.Log
import SqlCompose.Operator.Reader

namespace SqlCompose.Criteria

/-- The value of a comparison.  An array is a list of values only where one is asked for. -/
def pairValue (op : Comparison) : Json → Value
  | .array items => if op.takesList then .array (items.map Value.ofJson) else .ofJson (.array items)
  | document => .ofJson document

/-- Reads an operator with its value. -/
def readPair : List Json → Except CriterionFault Criterion
  | [.string word, value] =>
    match Comparison.ofWord? word with
    | some op => .ok (.compare op (pairValue op value))
    | none => .error (.unknownOperator word)
  | _ => .error .notPair

/-- Reads the criterion of a column. -/
def readCriterion : Json → Except CriterionFault Criterion
  | .array items => readPair items
  | document => .ok (.equals (.ofJson document))

/-- Reads the criteria of the fields of an object. -/
def readFields : List (String × Json) → Except Error (List (String × Criterion))
  | [] => .ok []
  | (column, document) :: rest =>
    match readCriterion document with
    | .error fault => .error (.invalidCriterion column fault)
    | .ok criterion => (readFields rest).map ((column, criterion) :: ·)

/-- Reads criteria. -/
def read : Json → Except Error Criteria
  | .object fields => (readFields fields).map Criteria.mk
  | _ => .error (.invalidCriterion "*" .notObject)

/-- The warning that goes with a refusal. -/
def warnings : Error → List Event
  | .invalidCriterion _ .notPair => [⟨.warn, "criterion array is not an [operator, value] pair"⟩]
  | .invalidCriterion _ (.unknownOperator _) => [⟨.warn, "unknown operator in criteria"⟩]
  | _ => []

/-- Reads criteria and warns of those that cannot be used. -/
def readLogged (document : Json) : Logged Criteria :=
  match read document with
  | .ok criteria => ⟨[], .ok criteria⟩
  | .error e => ⟨warnings e, .error e⟩

end SqlCompose.Criteria
