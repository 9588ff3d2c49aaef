/-
# Reading UUIDs

Four forms are read: 32 digits, the digits in hyphenated groups, the latter in
braces, and the latter behind `urn:uuid:` in letters of either case.  The length of
the text tells the forms apart.

What is wrong with any other text is said by the first of these that holds: it is
empty or longer than every form; it has a character that is neither a digit nor a
hyphen; it has no hyphen at all; it has the wrong number of groups; a group has the
wrong length.  Lengths and positions count bytes.
-/

import SqlCompose.Text.Blank
import SqlCompose.Decimal.Numeral
import SqlCompose.Uuid.Basic

namespace SqlCompose.Uuid

open Decimal (Numeral.text)

/-- What is wrong with the text of a UUID. -/
inductive Fault where
  /-- No form has this length. -/
  | length (found : Nat)
  /-- A character is neither a digit nor a hyphen. -/
  | character (c : Char) (position : Nat)
  /-- The hyphens make a wrong number of groups. -/
  | groupCount (found : Nat)
  /-- A group has a wrong length. -/
  | groupLength (group expected found : Nat)
  deriving DecidableEq

/-- The wording of a fault. -/
def Fault.message : Fault → String
  | .length found => "invalid length: found " ++ Numeral.text found
  | .character c position =>
    "invalid character: found `" ++ String.singleton c ++ "` at " ++ Numeral.text position
  | .groupCount found => "invalid group count: expected 5, found " ++ Numeral.text found
  | .groupLength group expected found =>
    "invalid group length in group " ++ Numeral.text group ++ ": expected " ++
      Numeral.text expected ++ ", found " ++ Numeral.text found

/-- Digits without hyphens. -/
def readSimple (cs : List Char) : Option Uuid := do
  ofDigits? (← cs.mapM digitValue?)

/-- Digits in groups of 8, 4, 4, 4 and 12 with hyphens between them. -/
def readHyphenated (cs : List Char) : Option Uuid := do
  guard (cs.length = 36)
  guard ([8, 13, 18, 23].all fun position => cs[position]? = some '-')
  let digits := cs.take 8 ++ (cs.drop 9).take 4 ++ (cs.drop 14).take 4 ++ (cs.drop 19).take 4 ++
    cs.drop 24
  readSimple digits

/-- The text inside braces that enclose it. -/
def insideBraces? (cs : List Char) : Option (List Char) :=
  match cs with
  | '\x7b' :: rest => if rest.getLast? = some '\x7d' then some rest.dropLast else none
  | _ => none

/-- The characters before a UUID that is written as a uniform resource name. -/
def resourceName : List Char :=
  ['u', 'r', 'n', ':', 'u', 'u', 'i', 'd', ':']

/-- Whether a text is marked as a uniform resource name, in letters of either case. -/
def isNamed (cs : List Char) : Bool :=
  (cs.take 9).map Char.toLower = resourceName

/-- The part of a text that is to hold hyphenated groups, by the length of the text;
none if no form with hyphens has that length and those marks around it. -/
def hyphenatedPart? (cs : List Char) : Option (List Char) :=
  match Text.byteLength cs with
  | 36 => some cs
  | 38 => insideBraces? cs
  | 45 => if isNamed cs then some (cs.drop 9) else none
  | _ => none

/-- The part of a text in which the groups of a UUID are looked for. -/
structure Body where
  characters : List Char
  /-- The bytes of the text in front of the part. -/
  offset : Nat
  /-- The bytes of the whole text. -/
  size : Nat
  /-- Whether the part must consist of groups, because of its length or the marks around it. -/
  grouped : Bool

/-- The body of a text whose length fits no form with hyphens: what is inside its marks. -/
def Body.ofText (cs : List Char) : Body :=
  let size := Text.byteLength cs
  match insideBraces? cs with
  | some inside => ⟨inside, 1, size, true⟩
  | none => if isNamed cs then ⟨cs.drop 9, 9, size, true⟩ else ⟨cs, 0, size, false⟩

/-- The characters with the byte positions at which they start, counted from `start`. -/
def positioned (start : Nat) : List Char → List (Char × Nat)
  | [] => []
  | c :: cs => (c, start) :: positioned (start + c.utf8Size) cs

/-- The groups with their starts within the body and their lengths, the last one excepted. -/
def leadingGroups : List (Nat × Nat × Nat) :=
  [(0, 0, 8), (1, 9, 4), (2, 14, 4), (3, 19, 4)]

/-- What is wrong with a body that holds no UUID. -/
def Body.fault (body : Body) : Fault :=
  let placed := positioned 0 body.characters
  match placed.find? fun (c, _) => c ≠ '-' && (digitValue? c).isNone with
  | some (c, position) => .character c (body.offset + position)
  | none =>
    let hyphens := (placed.filter fun (c, _) => c = '-').map (·.2)
    if hyphens = [] ∧ !body.grouped then .length body.size
    else if hyphens.length ≠ 4 then .groupCount (hyphens.length + 1)
    else
      match (leadingGroups.zip hyphens).find? fun ((_, start, size), hyphen) =>
          hyphen ≠ start + size with
      | some ((group, start, size), hyphen) => .groupLength group size (hyphen - start)
      | none => .groupLength 4 12 (body.size - 24)

/-- What is wrong with a text that is no UUID and whose length fits no form with hyphens. -/
def diagnose (cs : List Char) : Fault :=
  let size := Text.byteLength cs
  if size = 0 ∨ 45 < size then .length size else (Body.ofText cs).fault

/-- Reads a UUID in any of its forms.  A text of the length and with the marks of a form
with hyphens is judged by the part that is to hold them alone. -/
def readForm (cs : List Char) : Except Fault Uuid :=
  match hyphenatedPart? cs with
  | some part =>
    match readHyphenated part with
    | some uuid => .ok uuid
    | none => .error (Body.fault ⟨part, 0, Text.byteLength part, true⟩)
  | none =>
    match if Text.byteLength cs = 32 then readSimple cs else none with
    | some uuid => .ok uuid
    | none => .error (diagnose cs)

/-- Reads a UUID as it is given for a column, blanks around it aside. -/
def read (text : String) : Except Fault Uuid :=
  readForm (Text.trim text.toList)

end SqlCompose.Uuid
