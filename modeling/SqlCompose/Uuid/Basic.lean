/-
# UUIDs

Sixteen bytes, held as 32 hexadecimal digits.  The text has lower-case digits in
groups of 8, 4, 4, 4 and 12 with hyphens between them.
-/

namespace SqlCompose

/-- A UUID by its 32 hexadecimal digits. -/
structure Uuid where
  digits : List (Fin 16)
  length_digits : digits.length = 32
  deriving DecidableEq

namespace Uuid

/-- The UUID of 32 digits. -/
def ofDigits? (digits : List (Fin 16)) : Option Uuid :=
  if h : digits.length = 32 then some ⟨digits, h⟩ else none

/-- A hexadecimal digit in lower case. -/
def digitChar (d : Fin 16) : Char :=
  Nat.digitChar d.val

/-- The value of a hexadecimal digit of either case. -/
def digitValue? (c : Char) : Option (Fin 16) :=
  if c.isDigit then some (Fin.ofNat 16 (c.toNat - '0'.toNat))
  else if 'a' ≤ c ∧ c ≤ 'f' then some (Fin.ofNat 16 (c.toNat - 'a'.toNat + 10))
  else if 'A' ≤ c ∧ c ≤ 'F' then some (Fin.ofNat 16 (c.toNat - 'A'.toNat + 10))
  else none

/-- The digits without hyphens. -/
def simpleText (u : Uuid) : String :=
  String.ofList (u.digits.map digitChar)

/-- The five groups of digits. -/
def groups {α : Type} (digits : List α) : List (List α) :=
  [digits.take 8, (digits.drop 8).take 4, (digits.drop 12).take 4, (digits.drop 16).take 4,
   digits.drop 20]

/-- The digits in groups with hyphens between them. -/
def text (u : Uuid) : String :=
  String.ofList (['-'].intercalate (groups (u.digits.map digitChar)))

end Uuid

end SqlCompose
