/-
# Constants read as values

The text of a value is read here as a server reads a constant: a key word, a number with its sign, a
quoted text with the name of a type before it or a cast behind it, or a list of constants.  No other
word and no operator belongs to one (`SqlConstant.parse`).  Lists may stand in lists, and the reader
keeps the items of those that are still open.

What is written for a value is read as one constant that denotes the value, whatever texts and
documents are in it, unless a number in it is not finite: the words for such numbers are no
constants (`SqlConstant.reads_literal_iff`).  The number of a constant is a decimal, and a binary64
number is denoted by the decimals that are rounded to it.
-/

import SqlCompose.Expr.Writing
import SqlCompose.Proofs.ScannedConstants
import SqlCompose.Proofs.SqlTokens
import SqlCompose.Proofs.StoredValues

namespace SqlCompose

open Decimal (Binary64 FloatStyle)
open Decimal.Numeral (ofNat)

/-! ## Constants -/

/-- A constant of SQL. -/
inductive SqlConstant where
  | null
  | bool (value : Bool)
  /-- A decimal: its sign, its digits as a whole number and how many of them are behind the
  point. -/
  | number (negative : Bool) (coefficient places : Nat)
  | string (content : String)
  /-- A quoted text of a type that is named with it. -/
  | typed (type content : String)
  | array (items : List SqlConstant)
  deriving Inhabited

namespace SqlConstant

mutual

/-- Reads a constant at the front of some tokens and all that is open around it: of each open list
the items that are read already, the last one first. -/
def parse (stack : List (List SqlConstant)) : List SqlToken → Option SqlConstant
  | .word "null" :: ts => behind stack .null ts
  | .word "true" :: ts => behind stack (.bool true) ts
  | .word "false" :: ts => behind stack (.bool false) ts
  | .word "date" :: .string s :: ts => behind stack (.typed "date" s) ts
  | .word "timestamp" :: .string s :: ts => behind stack (.typed "timestamp" s) ts
  | .word "array" :: .opening :: ts => parse ([] :: stack) ts
  | .number coefficient places :: ts => behind stack (.number false coefficient places) ts
  | .minus :: .number coefficient places :: ts => behind stack (.number true coefficient places) ts
  | .string s :: ts => behind stack (.string s) ts
  | .closing :: ts =>
    match stack with
    | [] :: below => behind below (.array []) ts
    | _ => none
  | _ => none

/-- Reads on behind a constant. -/
def behind (stack : List (List SqlConstant)) (c : SqlConstant) : List SqlToken → Option SqlConstant
  | [] => if stack.isEmpty then some c else none
  | .cast :: .word type :: ts =>
    match c with
    | .string s => behind stack (.typed type s) ts
    | _ => none
  | .comma :: ts =>
    match stack with
    | items :: below => parse ((c :: items) :: below) ts
    | [] => none
  | .closing :: ts =>
    match stack with
    | items :: below => behind below (.array (c :: items).reverse) ts
    | [] => none
  | _ => none

end

/-- Reads a text that is one constant. -/
def read? (s : String) : Option SqlConstant :=
  (SqlToken.scan? s.toList).bind (parse [])

/-- A constant denotes a value.  A whole number is the decimal itself and a binary64 number the one
to which the decimal is rounded; any other single value has the text of the constant, which names
the type of the value. -/
inductive Denotes : SqlConstant → Value → Prop where
  | null : Denotes .null .null
  | bool (b : Bool) : Denotes (.bool b) (.bool b)
  | int {negative : Bool} {coefficient : Nat} {i : Int64}
      (same : i.toInt = if negative then -(coefficient : Int) else coefficient) :
      Denotes (.number negative coefficient 0) (.int i)
  | float {negative : Bool} {coefficient places : Nat} {x : Binary64} (finite : x.isFinite = true)
      (rounded : Binary64.ofRatio negative coefficient (10 ^ places) = x) :
      Denotes (.number negative coefficient places) (.float x)
  | text (s : String) : Denotes (.string s) (.text s)
  | json (document : Json) : Denotes (.typed "jsonb" document.text) (.json document)
  | date (d : Date) : Denotes (.typed "date" d.text) (.date d)
  | timestamp (t : Timestamp) : Denotes (.typed "timestamp" (t.text ' ')) (.timestamp t)
  | uuid (u : Uuid) : Denotes (.typed "uuid" u.text) (.uuid u)
  | array {constants : List SqlConstant} {items : List Value}
      (each : List.Forall₂ Denotes constants items) : Denotes (.array constants) (.array items)

/-- Some tokens are read as a constant, whatever is open before them. -/
def Parses (ts : List SqlToken) (c : SqlConstant) : Prop :=
  ∀ stack behindThem, parse stack (ts ++ behindThem) = behind stack c behindThem

/-- Some tokens begin no constant. -/
def Refused (ts : List SqlToken) : Prop :=
  ∀ stack behindThem, parse stack (ts ++ behindThem) = none

theorem Refused.not_parses {ts : List SqlToken} (refused : Refused ts) (c : SqlConstant) :
    ¬ Parses ts c := by
  intro parses
  cases (refused [] []).symm.trans (parses [] [])

end SqlConstant

/-! ## Lists -/

namespace SqlConstant

open SqlToken

section Lists

variable {α : Type} {tokens : α → List SqlToken} {constant : α → SqlConstant} {items : List α}

/-- The items of a list are read one after the other, and its closing bracket ends it. -/
theorem parse_items (first : α) (rest : List α)
    (parses : ∀ a ∈ first :: rest, Parses (tokens a) (constant a)) (done : List SqlConstant)
    (below : List (List SqlConstant)) (behindThem : List SqlToken) :
    parse (done :: below)
        ([comma].intercalate ((first :: rest).map tokens) ++ .closing :: behindThem) =
      behind below (.array (done.reverse ++ (first :: rest).map constant)) behindThem := by
  have parsesFirst := parses first List.mem_cons_self
  induction rest generalizing first done with
  | nil =>
      have whole := parsesFirst (done :: below) (.closing :: behindThem)
      simp [whole, behind]
  | cons second rest ih =>
      have whole := parsesFirst (done :: below)
        (.comma :: ([comma].intercalate ((second :: rest).map tokens) ++ .closing :: behindThem))
      have next := ih second (fun a inside => parses a (List.mem_cons_of_mem _ inside))
        (constant first :: done) (parses second (List.mem_cons_of_mem _ List.mem_cons_self))
      rw [behind, next] at whole
      simpa [List.intercalate_cons_cons] using whole

theorem parses_list (parses : ∀ a ∈ items, Parses (tokens a) (constant a)) :
    Parses (list (items.map tokens)) (.array (items.map constant)) := by
  intro stack behindThem
  cases items with
  | nil => rfl
  | cons first rest =>
      have whole := parse_items first rest parses [] stack behindThem
      rw [list, List.cons_append, List.cons_append, List.append_assoc]
      exact whole

/-- An item that is refused is come to, whatever is read before it. -/
theorem parse_items_refused (each : ∀ a ∈ items, (∃ c, Parses (tokens a) c) ∨ Refused (tokens a))
    (someRefused : ∃ a ∈ items, Refused (tokens a)) (done : List SqlConstant)
    (below : List (List SqlConstant)) (behindThem : List SqlToken) :
    parse (done :: below) ([comma].intercalate (items.map tokens) ++ behindThem) = none := by
  induction items generalizing done with
  | nil =>
      obtain ⟨_, inside, -⟩ := someRefused
      cases inside
  | cons first items ih =>
      rcases each first List.mem_cons_self with ⟨c, parses⟩ | refused
      · have inRest : ∃ a ∈ items, Refused (tokens a) := by
          obtain ⟨a, inside, refused⟩ := someRefused
          rcases List.mem_cons.mp inside with rfl | inItems
          · exact absurd parses (refused.not_parses c)
          · exact ⟨a, inItems, refused⟩
        have eachRest := fun a inItems => each a (List.mem_cons_of_mem _ inItems)
        cases items with
        | nil =>
            obtain ⟨_, inside, -⟩ := inRest
            cases inside
        | cons second items =>
            have whole := parses (done :: below)
              (.comma :: ([comma].intercalate ((second :: items).map tokens) ++ behindThem))
            rw [behind, ih eachRest inRest (c :: done)] at whole
            simpa [List.intercalate_cons_cons] using whole
      · cases items with
        | nil => simpa using refused (done :: below) behindThem
        | cons second items =>
            have whole := refused (done :: below)
              (.comma :: ([comma].intercalate ((second :: items).map tokens) ++ behindThem))
            simpa [List.intercalate_cons_cons] using whole

theorem refused_list (each : ∀ a ∈ items, (∃ c, Parses (tokens a) c) ∨ Refused (tokens a))
    (someRefused : ∃ a ∈ items, Refused (tokens a)) : Refused (list (items.map tokens)) := by
  intro stack behindThem
  have refused := parse_items_refused each someRefused [] stack (.closing :: behindThem)
  rw [list, List.cons_append, List.cons_append, List.append_assoc]
  exact refused

end Lists

end SqlConstant

/-! ## Values -/

namespace Value

open SqlToken SqlConstant

/-- The tokens of what is written for a value.  They are read as a constant that denotes the value,
unless a number in it is not finite. -/
structure IsCut (v : Value) (ts : List SqlToken) : Prop where
  scans : Scans v.literal.toList ts
  parses : (∀ x ∈ v.floats, x.isFinite = true) → ∃ c, c.Denotes v ∧ Parses ts c
  refused : (¬ ∀ x ∈ v.floats, x.isFinite = true) → Refused ts

/-- A value without numbers of the format binary64, of which the text and its tokens are known. -/
theorem IsCut.of_noFloat {v : Value} {cs : List Char} {ts : List SqlToken} {c : SqlConstant}
    (noFloat : v.floats = []) (text : v.literal.toList = cs) (scans : Scans cs ts)
    (denotes : c.Denotes v) (parses : Parses ts c) : v.IsCut ts where
  scans := text ▸ scans
  parses _ := ⟨c, denotes, parses⟩
  refused notFinite := absurd (by simp [noFloat]) notFinite

/-- A numeral behind its sign is a constant. -/
theorem exists_scans_signed (negative : Bool) {cs : List Char} {coefficient places : Nat}
    (numeral : IsNumeral cs coefficient places) :
    ∃ ts, Scans ((if negative = true then ['-'] else []) ++ cs) ts ∧
      Parses ts (.number negative coefficient places) := by
  cases negative with
  | false => exact ⟨_, scans_numeral numeral, fun _ _ => rfl⟩
  | true => exact ⟨_, scans_minus numeral, fun _ _ => rfl⟩

theorem exists_isCut_int (i : Int64) : ∃ ts, (int i).IsCut ts := by
  have text : (int i).literal.toList =
      (if decide (i.toInt < 0) = true then ['-'] else []) ++ ofNat i.toInt.natAbs := by
    rw [literal, Decimal.Numeral.text, String.toList_ofList, Decimal.Numeral.ofInt]
    by_cases negative : i.toInt < 0 <;> simp [negative]
  obtain ⟨ts, scans, parses⟩ :=
    exists_scans_signed (decide (i.toInt < 0)) (isNumeral_ofNat i.toInt.natAbs)
  refine ⟨ts, .of_noFloat rfl text scans (.int ?_) parses⟩
  simp only [decide_eq_true_eq]
  split <;> omega

/-- The text of a number that is not finite is a word, which no constant begins with. -/
theorem exists_scans_notFinite {x : Binary64} (notFinite : x.isFinite = false) :
    ∃ ts, Scans (float x).literal.toList ts ∧ Refused ts := by
  have nan : Scans ['N', 'a', 'N'] [.word "nan"] := scans_word rfl rfl rfl
  have inf : Scans ['i', 'n', 'f'] [.word "inf"] := scans_word rfl rfl rfl
  rw [literal, FloatStyle.text]
  split
  case isTrue => exact ⟨_, nan, fun _ _ => rfl⟩
  case isFalse =>
    dsimp only
    rw [notFinite, if_neg Bool.false_ne_true, String.toList_ofList]
    cases x.negative with
    | false => exact ⟨_, inf, fun _ _ => rfl⟩
    | true =>
      have minus := inf.cons (t := .minus) ['-'] fun _ => rfl
      exact ⟨_, minus, fun _ _ => rfl⟩

theorem exists_isCut_float (x : Binary64) : ∃ ts, (float x).IsCut ts := by
  have all : (∀ y ∈ (float x).floats, y.isFinite = true) ↔ x.isFinite = true := by
    simp [floats]
  cases finite : x.isFinite with
  | false =>
      obtain ⟨ts, scans, refused⟩ := exists_scans_notFinite finite
      refine ⟨ts, scans, fun allFinite => ?_, fun _ => refused⟩
      rw [all, finite] at allFinite
      cases allFinite
  | true =>
      obtain ⟨coefficient, places, numeral, rounded⟩ := exists_isNumeral_magnitudeText finite
      obtain ⟨ts, scans, parses⟩ := exists_scans_signed x.negative numeral
      have noNaN : x.isNaN = false :=
        decide_eq_false fun isNaN => of_decide_eq_true finite isNaN.1
      have text : (float x).literal.toList =
          (if x.negative = true then ['-'] else []) ++ FloatStyle.plain.magnitudeText x := by
        rw [literal, FloatStyle.text, noNaN, if_neg Bool.false_ne_true, finite, if_pos rfl,
          String.toList_ofList]
      rw [← text] at scans
      exact ⟨ts, scans, fun _ => ⟨_, .float finite rounded, parses⟩,
        fun notFinite => absurd (all.mpr finite) notFinite⟩

theorem isCut_null : null.IsCut [.word "null"] := by
  have text : null.literal.toList = ['N', 'U', 'L', 'L'] := by simp [literal]
  exact .of_noFloat rfl text (scans_word rfl rfl rfl) .null fun _ _ => rfl

theorem exists_isCut_bool (b : Bool) : ∃ ts, (bool b).IsCut ts := by
  cases b with
  | false =>
      have text : (bool false).literal.toList = ['F', 'A', 'L', 'S', 'E'] := by simp [literal]
      exact ⟨_, .of_noFloat rfl text (scans_word rfl rfl rfl) (.bool _) fun _ _ => rfl⟩
  | true =>
      have text : (bool true).literal.toList = ['T', 'R', 'U', 'E'] := by simp [literal]
      exact ⟨_, .of_noFloat rfl text (scans_word rfl rfl rfl) (.bool _) fun _ _ => rfl⟩

theorem isCut_json (document : Json) :
    (json document).IsCut [.string document.text, .cast, .word "jsonb"] := by
  have text : (json document).literal.toList =
      (Text.quoteLiteral document.text).toList ++ ([':', ':'] ++ ['j', 's', 'o', 'n', 'b']) := by
    simp [literal]
  exact .of_noFloat rfl text (scans_cast document.text rfl rfl rfl) (.json document)
    fun _ _ => rfl

theorem isCut_date (d : Date) : (date d).IsCut [.word "date", .string d.text] := by
  have text : (date d).literal.toList =
      ['D', 'A', 'T', 'E'] ++ ' ' :: (Text.quoteLiteral d.text).toList := by
    simp [literal, ← quoteLiteral_of_bland d.text_bland]
  exact .of_noFloat rfl text (scans_typeName d.text rfl rfl rfl) (.date d) fun _ _ => rfl

theorem isCut_timestamp (t : Timestamp) :
    (timestamp t).IsCut [.word "timestamp", .string (t.text ' ')] := by
  have text : (timestamp t).literal.toList =
      ['T', 'I', 'M', 'E', 'S', 'T', 'A', 'M', 'P'] ++
        ' ' :: (Text.quoteLiteral (t.text ' ')).toList := by
    simp [literal, ← quoteLiteral_of_bland t.text_bland]
  exact .of_noFloat rfl text (scans_typeName (t.text ' ') rfl rfl rfl) (.timestamp t)
    fun _ _ => rfl

theorem isCut_uuid (u : Uuid) : (uuid u).IsCut [.string u.text, .cast, .word "uuid"] := by
  have text : (uuid u).literal.toList =
      (Text.quoteLiteral u.text).toList ++ ([':', ':'] ++ ['u', 'u', 'i', 'd']) := by
    simp [literal, ← quoteLiteral_of_bland u.text_bland]
  exact .of_noFloat rfl text (scans_cast u.text rfl rfl rfl) (.uuid u) fun _ _ => rfl

/-- A value that is not a list is cut into the tokens of one constant. -/
theorem exists_isCut_single {v : Value} (single : ∀ items, v ≠ .array items) :
    ∃ ts, v.IsCut ts := by
  cases v with
  | array items => exact absurd rfl (single items)
  | null => exact ⟨_, isCut_null⟩
  | bool b => exact exists_isCut_bool b
  | int i => exact exists_isCut_int i
  | float x => exact exists_isCut_float x
  | text s => exact ⟨_, .of_noFloat rfl rfl (scans_quoteLiteral s) (.text s) fun _ _ => rfl⟩
  | json document => exact ⟨_, isCut_json document⟩
  | date d => exact ⟨_, isCut_date d⟩
  | timestamp t => exact ⟨_, isCut_timestamp t⟩
  | uuid u => exact ⟨_, isCut_uuid u⟩

theorem literals_eq (items : List Value) : literals items = items.map literal := by
  induction items with
  | nil => rfl
  | cons item rest ih => rw [literals, ih, List.map_cons]

theorem toList_literal_array (items : List Value) : (array items).literal.toList =
    ['A', 'R', 'R', 'A', 'Y'] ++
      (['['] ++ ([',', ' '].intercalate (items.map fun v => v.literal.toList) ++ [']'])) := by
  simp [literal, arrayText, literals_eq, String.toList_intercalate, Function.comp_def]

/-- The text of a list is cut into tokens if those of its items are. -/
theorem exists_isCut_array {items : List Value} (each : ∀ v ∈ items, ∃ ts, v.IsCut ts) :
    ∃ ts, (array items).IsCut ts := by
  choose! tokens cut using each
  have all : (∀ x ∈ (array items).floats, x.isFinite = true) ↔
      ∀ v ∈ items, ∀ x ∈ v.floats, x.isFinite = true := by
    rw [floats, floatsOfItems_eq, List.forall_mem_flatMap]
  refine ⟨list (items.map tokens), ?_, fun finite => ?_, fun notAll => ?_⟩
  · rw [toList_literal_array]
    exact scans_list fun v inside => (cut v inside).scans
  · choose! constant denotes parses using
      fun v inside => (cut v inside).parses (all.mp finite v inside)
    refine ⟨_, .array ?_, parses_list parses⟩
    rw [List.forall₂_map_left_iff, List.forall₂_same]
    exact denotes
  · rw [all] at notAll
    simp only [not_forall] at notAll
    obtain ⟨v, inside, x, inValue, notFinite⟩ := notAll
    refine refused_list (fun w inside => ?_)
      ⟨v, inside, (cut v inside).refused fun finite => notFinite (finite x inValue)⟩
    by_cases finite : ∀ x ∈ w.floats, x.isFinite = true
    · obtain ⟨c, -, parses⟩ := (cut w inside).parses finite
      exact .inl ⟨c, parses⟩
    · exact .inr ((cut w inside).refused finite)

theorem exists_isCut (v : Value) : ∃ ts, v.IsCut ts := by
  induction v using items_induction with
  | single v single => exact exists_isCut_single single
  | array items ih => exact exists_isCut_array ih

theorem writeAll_constants {items : List Value}
    (each : ∀ v ∈ items, v.write ValueWriter.constants () = (v.literal, ())) :
    writeAll ValueWriter.constants items () = (literals items, ()) := by
  induction items with
  | nil => rfl
  | cons item rest ih =>
      have first := each item List.mem_cons_self
      have others := ih fun v inside => each v (List.mem_cons_of_mem _ inside)
      simp only [writeAll, literals, bind, StateT.bind, first, others]
      rfl

/-- A value is written into a statement as its constant. -/
theorem write_constants (v : Value) : v.write ValueWriter.constants () = (v.literal, ()) := by
  induction v using items_induction with
  | single v single =>
      cases v with
      | array items => exact absurd rfl (single items)
      | null | bool | int | float | text | json | date | timestamp | uuid => rfl
  | array items ih =>
      simp only [write, literal, bind, StateT.bind, writeAll_constants ih]
      rfl

end Value

namespace SqlConstant

/-- A text that is cut into tokens up to its end is the constant that they are read as. -/
theorem read?_of_scans {s : String} {ts : List SqlToken} (scans : SqlToken.Scans s.toList ts) :
    read? s = parse [] ts := by
  have whole := scans [] fun c begins => nomatch begins
  have done : SqlToken.scan? [] = some [] := by rw [SqlToken.scan?]
  rw [List.append_nil, done, Option.map_some, List.append_nil] at whole
  rw [read?, whole, Option.bind_some]

/-- Written into a statement, the text of a value is read as one constant that denotes the value,
exactly if all numbers in the value are finite. -/
theorem reads_literal_iff (v : Value) :
    (Expr.literal v).sql = v.literal ∧
      ((∃ c, read? (Expr.literal v).sql = some c ∧ c.Denotes v) ↔
        ∀ x ∈ v.floats, x.isFinite = true) := by
  have written : (Expr.literal v).sql = v.literal := congrArg Prod.fst v.write_constants
  refine ⟨written, ?_⟩
  obtain ⟨ts, cut⟩ := v.exists_isCut
  rw [written, read?_of_scans cut.scans]
  constructor
  · rintro ⟨c, found, -⟩
    by_contra notFinite
    have refused := cut.refused notFinite [] []
    rw [List.append_nil, found] at refused
    cases refused
  · intro finite
    obtain ⟨c, denotes, parses⟩ := cut.parses finite
    have whole := parses [] []
    rw [List.append_nil] at whole
    exact ⟨c, whole, denotes⟩

/-- NaN is written as a word that is no constant. -/
theorem nan_is_no_constant :
    (Value.float .nan).literal = "NaN" ∧ read? (Value.float .nan).literal = none := by
  obtain ⟨ts, scans, refused⟩ := Value.exists_scans_notFinite (x := .nan) rfl
  have whole := refused [] []
  rw [List.append_nil] at whole
  exact ⟨rfl, (read?_of_scans scans).trans whole⟩

end SqlConstant

end SqlCompose
