/-
# Constants in a scanned statement

An expression with its values written as constants is read by a scan as what it is: a text that
ends outside of quotes with all brackets closed, whose constants are the texts of its values and
the keys of its paths, in the order in which they stand in the tree.  Quotes in values,
keys and names do not matter, for they are doubled.  What is written as it stands (functions,
keywords, types and raw text) has to be closed by itself, and then it is closed where it stands.

Each node glues the texts of its operands with texts of its own, none of which begins with a quote
behind an operand, so no two constants run together.
-/

import SqlCompose.Proofs.UuidTexts
import SqlCompose.Proofs.Numbering
import SqlCompose.Proofs.Scanning
import SqlCompose.Proofs.Written

namespace SqlCompose

open Decimal
open Scan (Bland Reads Mark)

/-! ## Texts without quotes and brackets -/

namespace Scan

theorem Mark.of_digit {c : Char} (digit : c.isDigit = true) : of c = .other :=
  of_eq_other_of_kind (by decide : characters.any Char.isDigit = false) digit

theorem Bland.ofList {cs : List Char} (unmarked : ∀ c ∈ cs, Mark.of c = .other) :
    Bland (String.ofList cs) := by
  rwa [Bland, String.toList_ofList]

theorem Bland.ofDigits {cs : List Char} (digits : ∀ c ∈ cs, c.isDigit = true) :
    ∀ c ∈ cs, Mark.of c = .other :=
  fun c inside => Mark.of_digit (digits c inside)

end Scan

theorem Decimal.Numeral.text_bland (i : Int) : Bland (text i) := by
  apply Bland.ofList
  have digits := Bland.ofDigits (isDigit_ofNat i.natAbs)
  unfold ofInt
  split
  · exact List.forall_mem_cons.mpr ⟨rfl, digits⟩
  · exact digits

/-- A number without an exponent is digits and at most one point. -/
theorem Decimal.FloatStyle.positionalText_unmarked (style : FloatStyle) {digits : List Char}
    (isDigit : ∀ c ∈ digits, c.isDigit = true) (leading : Int) :
    ∀ c ∈ style.positionalText digits leading, Mark.of c = .other := by
  have zeros (n : Nat) : ∀ c ∈ List.replicate n '0', Mark.of c = .other := by
    intro c inside
    obtain rfl := List.eq_of_mem_replicate inside
    rfl
  have unmarked := Bland.ofDigits isDigit
  have whole (n : Nat) : ∀ c ∈ digits.take n, Mark.of c = .other :=
    fun c inside => unmarked c (List.mem_of_mem_take inside)
  have fraction (n : Nat) : ∀ c ∈ digits.drop n, Mark.of c = .other :=
    fun c inside => unmarked c (List.mem_of_mem_drop inside)
  simp only [positionalText]
  split
  case isTrue =>
    simp only [List.forall_mem_cons, List.forall_mem_append]
    exact ⟨rfl, rfl, zeros _, unmarked⟩
  case isFalse =>
    split
    case h_1 =>
      split
      · simp only [List.forall_mem_append, List.forall_mem_cons]
        exact ⟨⟨whole _, zeros _⟩, rfl, rfl, by simp⟩
      · exact List.forall_mem_append.mpr ⟨whole _, zeros _⟩
    case h_2 =>
      simp only [List.forall_mem_append, List.forall_mem_cons]
      exact ⟨⟨whole _, zeros _⟩, rfl, fraction _⟩

theorem Decimal.FloatStyle.plain_bland (x : Binary64) : Bland (plain.text x) := by
  unfold text
  split
  · decide
  · apply Bland.ofList
    rw [List.forall_mem_append]
    constructor
    · split
      · exact List.forall_mem_singleton.mpr rfl
      · exact List.forall_mem_nil _
    · split
      · unfold magnitudeText
        split
        · exact positionalText_unmarked plain (List.forall_mem_singleton.mpr rfl) 0
        · exact positionalText_unmarked plain (Numeral.isDigit_ofNat _) _
      · exact (by decide : Bland "inf")

theorem Date.characters_unmarked (d : Date) : ∀ c ∈ d.characters, Mark.of c = .other :=
  d.forall_mem_characters (fun _ => Mark.of_digit) rfl rfl

theorem Date.text_bland (d : Date) : Bland d.text :=
  Bland.ofList d.characters_unmarked

theorem Timestamp.text_bland (t : Timestamp) : Bland (t.text ' ') := by
  apply Bland.ofList
  simp only [List.forall_mem_append, List.forall_mem_cons]
  exact ⟨t.date.characters_unmarked, rfl,
    t.forall_mem_timeText (fun _ => Mark.of_digit) rfl rfl⟩

theorem Uuid.text_bland (u : Uuid) : Bland u.text := by
  show ∀ c ∈ u.text.toList, Mark.of c = .other
  exact u.forall_mem_text (by decide) (by decide)

/-! ## Names -/

theorem Identifier.isContinuation_of_isPlain {cs : List Char} (plain : isPlain cs = true) :
    ∀ c ∈ cs, isContinuation c = true := by
  cases cs with
  | nil => simp
  | cons first rest =>
      simp only [isPlain, Bool.and_eq_true, List.all_eq_true] at plain
      obtain ⟨start, others⟩ := plain
      refine List.forall_mem_cons.mpr ⟨?_, others⟩
      simp only [isStart, Bool.or_eq_true] at start
      simp only [isContinuation, Bool.or_eq_true]
      exact start.imp_left .inl

/-- A word that may stand bare has no quotes in it, and any other is quoted. -/
theorem Identifier.reads_quote (name : String) : Reads (quote name) [] := by
  unfold quote
  split
  case isTrue plain =>
    apply Reads.of_bland
    intro c inside
    have isPlain := (Bool.and_eq_true _ _ ▸ plain).1
    exact Mark.of_eq_other_of_kind
      (by decide : Mark.characters.any isContinuation = false)
      (isContinuation_of_isPlain isPlain c inside)
  case isFalse => exact Scan.reads_enclose .double name

/-- The parts of a qualified name stand between dots. -/
theorem Identifier.reads_quoteQualified (name : String) : Reads (quoteQualified name) [] := by
  have part (p : String) : Reads (quotePart p) [] := by
    unfold quotePart
    split
    case isTrue isStar =>
      subst isStar
      exact .of_bland (by decide)
    case isFalse => exact reads_quote p
  have parts := Reads.intercalate (by decide : Bland ".") (by decide) quotePart (fun _ => [])
    (dotted name) fun p _ => part p
  have noConstants : (dotted name).flatMap (fun _ => ([] : List String)) = [] := by
    simp [List.flatMap_eq_nil_iff]
  rwa [noConstants] at parts

/-! ## Paths -/

/-- The constant in a step of a path. -/
def PathSegment.strings : PathSegment → List String
  | .key name => [name]
  | .index _ => []

theorem PathSegment.reads_literal (segment : PathSegment) :
    Reads segment.literal segment.strings := by
  cases segment with
  | key name => exact Scan.reads_quoteLiteral name
  | index position => exact .of_bland (Numeral.text_bland _)

namespace JsonPath

/-- The constants in a path: its keys, and the empty path to the text of a whole document. -/
def strings (path : JsonPath) (asText : Bool) : List String :=
  if path.isRoot then (if asText then ["\x7b\x7d"] else [])
  else path.segments.flatMap PathSegment.strings

theorem detached_arrows (asText : Bool) (segments : List PathSegment) :
    Scan.Detached (arrows asText segments) := by
  match segments with
  | [] => exact (by decide : Bland "").detached
  | [last] =>
      cases asText with
      | false => exact (by decide : Bland "->").detached.append (by decide)
      | true => exact (by decide : Bland "->>").detached.append (by decide)
  | segment :: next :: rest =>
      show Scan.Detached ("->" ++ segment.literal ++ arrows asText (next :: rest))
      rw [String.append_assoc]
      exact (by decide : Bland "->").detached.append (by decide)

theorem reads_arrows (asText : Bool) (segments : List PathSegment) :
    Reads (arrows asText segments) (segments.flatMap PathSegment.strings) := by
  match segments with
  | [] => exact .of_bland (by decide : Bland "")
  | [last] =>
      rw [arrows, List.flatMap_singleton]
      cases asText with
      | false => exact last.reads_literal.behind_bland (by decide : Bland "->")
      | true => exact last.reads_literal.behind_bland (by decide : Bland "->>")
  | segment :: next :: rest =>
      have first := segment.reads_literal.behind_bland (by decide : Bland "->")
      exact first.append (reads_arrows asText (next :: rest)) (detached_arrows asText _)

theorem detached_access (path : JsonPath) (asText : Bool) : Scan.Detached (path.access asText) := by
  unfold access
  split
  · split
    · simp [Scan.Detached, Mark.of]
    · exact (by decide : Bland "").detached
  · exact detached_arrows asText _

theorem reads_access (path : JsonPath) (asText : Bool) :
    Reads (path.access asText) (path.strings asText) := by
  unfold access strings
  split
  · split
    · exact Scan.strings?_eq_some_iff.mp (by decide)
    · exact .of_bland (by decide)
  · exact reads_arrows asText _

end JsonPath

/-! ## Templates and values -/

namespace Template

@[simp]
theorem inline_text (sql : String) : (text sql).inline = sql := rfl

@[simp]
theorem inline_append (first second : Template) :
    (first ++ second).inline = first.inline ++ second.inline := rfl

@[simp]
theorem inline_enclosed (opening : String) (t : Template) (closing : String) :
    (enclosed opening t closing).inline = opening ++ t.inline ++ closing := rfl

@[simp]
theorem inline_separated (separator : String) (ts : List Template) :
    (separated separator ts).inline = separator.intercalate (ts.map inline) := by
  match ts with
  | [] => rfl
  | [t] => simp [separated]
  | t :: next :: rest =>
      simp [separated, inline_separated separator (next :: rest), String.intercalate_cons_cons]

theorem reads_bracketed {t : Template} {found : List String} (needed : Bool)
    (reads : Reads t.inline found) : Reads (bracketed needed t).inline found := by
  cases needed with
  | false => exact reads
  | true => exact (Reads.of_bland (by decide : Bland "")).enclosed .round reads

/-- Parts with a text between them are read one after another. -/
theorem reads_separated {α : Type} {separator : String} (bland : Bland separator)
    (filled : separator ≠ "") (template : α → Template) (strings : α → List String)
    (parts : List α) (reads : ∀ part ∈ parts, Reads (template part).inline (strings part)) :
    Reads (separated separator (parts.map template)).inline (parts.flatMap strings) := by
  rw [inline_separated, List.map_map]
  exact Reads.intercalate bland filled _ strings parts reads

end Template

namespace Value

mutual

/-- The constants in the text of a value. -/
def strings : Value → List String
  | .null | .bool _ | .int _ | .float _ => []
  | .text s => [s]
  | .json document => [document.text]
  | .date d => [d.text]
  | .timestamp t => [t.text ' ']
  | .uuid u => [u.text]
  | .array items => allStrings items

/-- The constants in the texts of the items of a list. -/
def allStrings : List Value → List String
  | [] => []
  | item :: rest => item.strings ++ allStrings rest

end

theorem allStrings_eq (items : List Value) : allStrings items = items.flatMap strings := by
  induction items with
  | nil => rfl
  | cons item rest ih => rw [allStrings, ih, List.flatMap_cons]

/-- A text without quotes is quoted as it is. -/
theorem quoteLiteral_of_bland {text : String} (bland : Bland text) :
    "'" ++ text ++ "'" = Text.quoteLiteral text := by
  have double (cs : List Char) (unmarked : ∀ c ∈ cs, Mark.of c = .other) :
      Text.double '\'' cs = cs := by
    induction cs with
    | nil => rfl
    | cons c cs ih =>
        have noQuote : c ≠ '\'' := by
          rintro rfl
          exact nomatch unmarked '\'' List.mem_cons_self
        have rest := ih fun d inside => unmarked d (List.mem_cons_of_mem _ inside)
        rw [Text.double, if_neg noQuote, rest]
  rw [← String.toList_inj]
  simp [Text.quoteLiteral, Text.enclose, double text.toList bland]

mutual

/-- A value is read as the constants in it. -/
theorem reads_template : ∀ v : Value, Reads v.template.inline v.strings
  | .null => .of_bland (by decide : Bland "NULL")
  | .bool true => .of_bland (by decide : Bland "TRUE")
  | .bool false => .of_bland (by decide : Bland "FALSE")
  | .int n => .of_bland (Numeral.text_bland _)
  | .float x => .of_bland (FloatStyle.plain_bland x)
  | .text s => Scan.reads_quoteLiteral s
  | .json document =>
      (Scan.reads_quoteLiteral document.text).append
        (.of_bland (by decide : Bland "::jsonb")) (by decide : Bland "::jsonb").detached
  | .date d => by
      show Reads ("DATE '" ++ d.text ++ "'") [d.text]
      have quoted := Scan.reads_quoteLiteral d.text
      rw [← quoteLiteral_of_bland d.text_bland] at quoted
      simpa [← String.append_assoc] using quoted.behind_bland (by decide : Bland "DATE ")
  | .timestamp t => by
      show Reads ("TIMESTAMP '" ++ t.text ' ' ++ "'") [t.text ' ']
      have quoted := Scan.reads_quoteLiteral (t.text ' ')
      rw [← quoteLiteral_of_bland t.text_bland] at quoted
      simpa [← String.append_assoc] using quoted.behind_bland (by decide : Bland "TIMESTAMP ")
  | .uuid u => by
      show Reads ("'" ++ u.text ++ "'::uuid") [u.text]
      have quoted := Scan.reads_quoteLiteral u.text
      rw [← quoteLiteral_of_bland u.text_bland] at quoted
      have typed := quoted.append (.of_bland (by decide : Bland "::uuid"))
        (by decide : Bland "::uuid").detached
      simpa [String.append_assoc] using typed
  | .array items => by
      have listed := Template.reads_separated (by decide : Bland ", ") (by decide) template strings
        items (reads_templates items)
      have enclosed := (Reads.of_bland (by decide : Bland "ARRAY")).enclosed .square listed
      rw [strings, allStrings_eq]
      simpa [template, templates_eq, Scan.Bracket.opening, Scan.Bracket.closing] using enclosed

theorem reads_templates :
    ∀ items : List Value, ∀ v ∈ items, Reads v.template.inline v.strings
  | [], _, inside => nomatch inside
  | item :: rest, v, inside => by
      rcases List.mem_cons.mp inside with isItem | inRest
      · rw [isItem]
        exact reads_template item
      · exact reads_templates rest v inRest

end

end Value

/-! ## Expressions -/

namespace Expr

/-- What an expression is made of, from left to right. -/
inductive Part where
  /-- A text that is written as it stands. -/
  | verbatim (text : String)
  /-- A text that is quoted. -/
  | constant (text : String)
  | operand (e : Expr)

/-- The parts of an expression in the order in which they stand in its text.  Nothing is left of
a comparison with an empty list. -/
def parts : Expr → List Part
  | .star | .column _ => []
  | .literal v => v.strings.map .constant
  | .raw sql => [.verbatim sql]
  | .call name args => .verbatim name :: args.map .operand
  | .keywordCall name args =>
    .verbatim name :: args.flatMap fun a => a.keyword.toList.map .verbatim ++ [.operand a.arg]
  | .binary left _ right => [.operand left, .operand right]
  | .cast expr type => [.operand expr, .verbatim type]
  | .compare left op right =>
    if right.isDecided op then [] else [.operand left, .operand right]
  | .between expr low high _ => [.operand expr, .operand low, .operand high]
  | .logical _ operands => operands.map .operand
  | .jsonAccess base path asText => .operand base :: (path.strings asText).map .constant
  | .array items => items.map .operand
  | .aggregate name args _ withinGroup =>
    .verbatim name :: (args ++ withinGroup.toList).map .operand
  | .window function clauses =>
    .operand function :: (clauses.flatMap WindowClause.exprs).map .operand
  | .aliased expr _ => [.operand expr]

/-- The operands among the parts are the expressions from which an expression is written. -/
theorem operand_mem_parts_iff {e c : Expr} : .operand c ∈ e.parts ↔ c ∈ e.children := by
  cases e with
  | compare left op right =>
      simp only [parts, children]
      split <;> simp
  | keywordCall name args =>
      simp [parts, children, eq_comm]
  | _ => simp [parts, children]

/-- The constants in the text of an expression: those of its values and paths and those in the
texts that are written as they stand. -/
def strings (e : Expr) : List String :=
  e.parts.attach.flatMap fun
    | ⟨.verbatim text, _⟩ => (Scan.strings? text).getD []
    | ⟨.constant text, _⟩ => [text]
    | ⟨.operand c, _⟩ => c.strings
termination_by sizeOf e
decreasing_by exact sizeOf_lt_of_mem_children (operand_mem_parts_iff.mp ‹_›)

/-- The constants in a part of an expression. -/
def Part.strings : Part → List String
  | .verbatim text => (Scan.strings? text).getD []
  | .constant text => [text]
  | .operand c => c.strings

theorem strings_eq (e : Expr) : e.strings = e.parts.flatMap Part.strings := by
  rw [strings]
  trans e.parts.attach.flatMap fun p => p.1.strings
  · congr
    funext ⟨part, _⟩
    cases part <;> rfl
  · simp

/-- Whether the texts in an expression that are written as they stand are closed by themselves. -/
def IsClosed (e : Expr) : Prop :=
  ∀ text, .verbatim text ∈ e.parts → (Scan.strings? text).isSome = true

/-- Whether an expression is read as the constants in it. -/
def IsRead (e : Expr) : Prop :=
  Reads e.template.inline e.strings

theorem reads_verbatim {text : String} (closed : (Scan.strings? text).isSome = true) :
    Reads text ((Scan.strings? text).getD []) := by
  apply Scan.strings?_eq_some_iff.mp
  rw [Option.eq_some_iff_get_eq]
  exact ⟨closed, (Option.get_eq_getD _).symm ▸ rfl⟩

theorem flatMap_constants (texts : List String) :
    (texts.map Part.constant).flatMap Part.strings = texts := by
  simp [List.flatMap_map, Part.strings]

theorem flatMap_operands (es : List Expr) :
    (es.map Part.operand).flatMap Part.strings = es.flatMap strings := by
  simp [List.flatMap_map, Part.strings]

theorem strings_literal (v : Value) : (literal v).strings = v.strings := by
  rw [strings_eq, parts, flatMap_constants]

theorem strings_array (items : List Expr) : (array items).strings = items.flatMap strings := by
  rw [strings_eq, parts, flatMap_operands]

/-! ### One node -/

section Nodes

theorem reads_all {es : List Expr} (read : ∀ c ∈ es, c.IsRead) :
    Reads (Template.separated ", " (templates es)).inline (es.flatMap strings) := by
  rw [templates_eq]
  exact Template.reads_separated (by decide) (by decide) template strings es read

/-- A call is read as its name and what stands in its parentheses. -/
theorem reads_call {name inner : String} {found innerFound : List String}
    (closed : Reads name found) (reads : Reads inner innerFound) :
    Reads (name ++ "(" ++ inner ++ ")") (found ++ innerFound) :=
  closed.enclosed .round reads

/-- A text in parentheses behind another one. -/
theorem reads_behind {a lead inner : String} {found innerFound : List String}
    (first : Reads a found) (bland : Bland lead) (filled : lead ≠ "")
    (reads : Reads inner innerFound) :
    Reads (a ++ (lead ++ "(" ++ inner ++ ")")) (found ++ innerFound) := by
  have detached : Scan.Detached (lead ++ "(" ++ inner ++ ")") := by
    rw [String.append_assoc, String.append_assoc]
    exact bland.detached.append filled
  exact first.append (reads_call (.of_bland bland) reads) detached

theorem reads_array {inner : String} {found : List String} (reads : Reads inner found) :
    Reads ("ARRAY[" ++ inner ++ "]") found := by
  have enclosed := (Reads.of_bland (by decide : Bland "ARRAY")).enclosed .square reads
  simpa [Scan.Bracket.opening, Scan.Bracket.closing] using enclosed

/-- A list on the right of a comparison. -/
theorem reads_list {inner : String} {found : List String} (round : Bool)
    (reads : Reads inner found) :
    Reads ((if round then "(" else "ARRAY[") ++ inner ++ (if round then ")" else "]")) found := by
  cases round with
  | true => exact (Reads.of_bland (by decide : Bland "")).enclosed .round reads
  | false => exact reads_array reads

/-- An argument is read behind its keyword. -/
theorem reads_argument {a : KeywordArgument}
    (closed : ∀ keyword ∈ a.keyword, (Scan.strings? keyword).isSome = true) (read : a.arg.IsRead) :
    Reads (match a.keyword with
        | some keyword => .text (keyword ++ " ") ++ a.arg.template
        | none => a.arg.template : Template).inline
      ((a.keyword.toList.map Part.verbatim ++ [Part.operand a.arg]).flatMap Part.strings) := by
  obtain ⟨keyword, arg⟩ := a
  cases keyword with
  | none => simpa [Part.strings, IsRead] using read
  | some keyword =>
      have both := (reads_verbatim (closed keyword rfl)).joined (by decide : Bland " ")
        (by decide) read
      simpa [Part.strings] using both

theorem bland_symbol (op : Comparison) : Bland (" " ++ op.symbol ++ " ") := by
  cases op <;> decide

theorem symbol_filled (symbol : String) : " " ++ symbol ++ " " ≠ "" := by
  intro empty
  simpa using congrArg String.toList empty

variable {left : Expr}

/-- A comparison with an empty list is read as nothing. -/
theorem reads_decided {op : Comparison} (v : Value) (decided : (literal v).isDecided op = true) :
    Reads (constantTemplate left left.template op v).inline [] := by
  obtain ⟨takes, rfl⟩ := (isDecided_literal_iff op v).mp decided
  cases op with
  | isIn => exact .of_bland (by decide : Bland ("" ++ "FALSE"))
  | notIn => exact .of_bland (by decide : Bland ("" ++ "TRUE"))
  | _ => cases takes

/-- Any other comparison with a constant is read as its sides. -/
theorem reads_undecided {op : Comparison} (v : Value) (undecided : (literal v).isDecided op = false)
    (read : left.IsRead) :
    Reads (constantTemplate left left.template op v).inline (left.strings ++ v.strings) := by
  have first := Template.reads_bracketed left.isInfix read
  have tested {test : String} (bland : Bland test) :
      Reads ((Template.bracketed left.isInfix left.template).inline ++ test)
        (left.strings ++ Value.null.strings) :=
    first.append (.of_bland bland) bland.detached
  unfold constantTemplate
  split
  case h_1 | h_2 | h_3 | h_4 => exact tested (by decide)
  case h_5 | h_6 => cases undecided
  case h_7 items _ | h_8 items _ =>
    have list := Template.reads_separated (by decide : Bland ", ") (by decide) Value.template
      Value.strings items (Value.reads_templates items)
    rw [Value.strings, Value.allStrings_eq, Value.templates_eq]
    exact first.joined (bland_symbol _) (symbol_filled _) (Template.reads_bracketed true list)
  case h_9 =>
    exact first.joined (bland_symbol op) (symbol_filled _)
      (Template.reads_bracketed op.takesList v.reads_template)

/-- A comparison is read as its sides, unless it is decided at once.  The items of a list stand in
its own parentheses, so they are asked for by themselves. -/
theorem isRead_compare {op : Comparison} {right : Expr}
    (read : ∀ c ∈ (compare left op right).children, c.IsRead ∧ ∀ d ∈ c.children, d.IsRead) :
    (compare left op right).IsRead := by
  rw [IsRead, strings_eq]
  cases decided : right.isDecided op with
  | true =>
      cases right with
      | literal v => simpa [template, parts, decided] using reads_decided v decided
      | _ => cases decided
  | false =>
      have sides : (compare left op right).children = [left, right] := by
        rw [children, decided, if_neg Bool.false_ne_true]
      have readLeft := (read left (by simp [sides])).1
      obtain ⟨readRight, readItems⟩ := read right (by simp [sides])
      have first := Template.reads_bracketed left.isInfix readLeft
      have found : (compare left op right).parts.flatMap Part.strings =
          left.strings ++ right.strings := by
        simp [parts, decided, Part.strings]
      rw [found]
      cases right with
      | literal v =>
          rw [strings_literal]
          simpa [template] using reads_undecided v decided readLeft
      | array items =>
          have readItems : ∀ c ∈ items, c.IsRead := readItems
          have list := reads_list op.takesList (reads_all readItems)
          rw [strings_array]
          simpa [template] using first.joined (bland_symbol op) (symbol_filled _) list
      | _ =>
          simpa [template] using first.joined (bland_symbol op) (symbol_filled _)
            (Template.reads_bracketed _ readRight)

theorem bland_frame (unit : FrameUnit) (extent : Frame) :
    Bland (unit.keyword ++ " " ++ extent.text) := by
  have keyword : Bland (unit.keyword ++ " ") := by cases unit <;> decide
  have boundary (b : Boundary) : Bland b.text := by
    cases b with
    | preceding n => exact (Numeral.text_bland _).append (by decide)
    | following n => exact (Numeral.text_bland _).append (by decide)
    | _ => exact (by decide)
  have between : Bland "BETWEEN " := by decide
  have conjunction : Bland " AND " := by decide
  exact keyword.append (((between.append (boundary _)).append conjunction).append (boundary _))

/-- A clause of a window is read as its expressions. -/
theorem reads_clauseTemplate {clause : WindowClause} (read : ∀ c ∈ clause.exprs, c.IsRead) :
    Reads (clauseTemplate clause).inline (clause.exprs.flatMap strings) := by
  cases clause with
  | partitionBy exprs => exact (reads_all read).behind_bland (by decide : Bland "PARTITION BY ")
  | orderBy keys =>
      have key : ∀ key ∈ keys,
          Reads (key.expr.template ++ .text (" " ++ key.order.keyword) : Template).inline
            key.expr.strings := by
        intro key inKeys
        have bland : Bland (" " ++ key.order.keyword) := by cases key.order <;> decide
        have whole := Reads.append (read key.expr (List.mem_map_of_mem inKeys)) (.of_bland bland)
          bland.detached
        simpa using whole
      have listed := Template.reads_separated (by decide : Bland ", ") (by decide) _ _ keys key
      have reads := listed.behind_bland (by decide : Bland "ORDER BY ")
      rw [clauseTemplate, keyTemplates_eq]
      simpa [WindowClause.exprs, List.flatMap_map] using reads
  | frame unit extent => exact .of_bland (bland_frame unit extent)
  | exclude exclusion => exact .of_bland (by cases exclusion <;> decide)

/-- A connective is read as its operands; without any it is a keyword. -/
theorem isRead_logical (op : Connective) {operands : List Expr}
    (read : ∀ c ∈ operands, c.IsRead) : (logical op operands).IsRead := by
  have bland : Bland (" " ++ op.keyword ++ " ") := by cases op <;> decide
  rw [IsRead, strings_eq, parts, flatMap_operands]
  cases operands with
  | nil => exact .of_bland (by cases op <;> decide)
  | cons first rest =>
      cases rest with
      | nil => simpa [template, IsRead] using read first List.mem_cons_self
      | cons second rest =>
          rw [template_logical]
          exact Template.reads_separated bland (symbol_filled _) _ strings _ fun c inside =>
            Template.reads_bracketed _ (read c inside)

/-- An aggregate is read as its name, its arguments and the key of its order. -/
theorem isRead_aggregate {name : String} {args : List Expr} (distinct : Bool)
    {withinGroup : Option Expr} (closed : (Scan.strings? name).isSome = true)
    (read : ∀ c ∈ args ++ withinGroup.toList, c.IsRead) :
    (aggregate name args distinct withinGroup).IsRead := by
  have bland : Bland (if distinct then "DISTINCT " else "") := by cases distinct <;> decide
  have readArgs := reads_all fun c inside => read c (List.mem_append_left _ inside)
  have call := reads_call (reads_verbatim closed) (readArgs.behind_bland bland)
  rw [IsRead, strings_eq, parts, List.flatMap_cons, flatMap_operands, List.flatMap_append,
    ← List.append_assoc]
  cases withinGroup with
  | none => simpa [template, String.append_assoc, Part.strings] using call
  | some order =>
      have readOrder := (read order (by simp)).behind_bland (by decide : Bland "ORDER BY ")
      have whole := reads_behind call (by decide : Bland " WITHIN GROUP ") (by decide) readOrder
      have words (rest : String) : " WITHIN GROUP (" ++ ("ORDER BY " ++ rest) =
          " WITHIN GROUP (ORDER BY " ++ rest := by
        simp [← String.append_assoc]
      simpa [template, String.append_assoc, Part.strings, words] using whole

/-- A window is read as its function and then its clauses, although the clauses are bound first. -/
theorem isRead_window {function : Expr} {clauses : List WindowClause}
    (readFunction : function.IsRead)
    (read : ∀ c ∈ clauses.flatMap WindowClause.exprs, c.IsRead) :
    (window function clauses).IsRead := by
  have readClauses := Template.reads_separated (by decide : Bland " ") (by decide) _
    (fun clause => clause.exprs.flatMap strings) clauses fun clause inClauses =>
      reads_clauseTemplate fun c inClause =>
        read c (List.mem_flatMap.mpr ⟨clause, inClauses, inClause⟩)
  have whole := reads_behind readFunction (by decide : Bland " OVER ") (by decide) readClauses
  rw [IsRead, strings_eq, parts, List.flatMap_cons, flatMap_operands, List.flatMap_assoc, template,
    clauseTemplates_eq]
  simpa [Template.inline, Part.strings] using whole

end Nodes

/-- An expression is read as the constants in it if its operands are, with their own operands, and
the texts in it that are written as they stand are closed. -/
theorem isRead_of_children {e : Expr} (closed : e.IsClosed)
    (readAll : ∀ c ∈ e.children, c.IsRead ∧ ∀ d ∈ c.children, d.IsRead) : e.IsRead := by
  have read : ∀ c ∈ e.children, c.IsRead := fun c child => (readAll c child).1
  have verbatim {text : String} (inside : .verbatim text ∈ e.parts) :=
    reads_verbatim (closed text inside)
  rw [IsRead, strings_eq]
  cases e with
  | star => exact .of_bland (by decide : Bland "*")
  | column name => exact Identifier.reads_quoteQualified name
  | literal v =>
      rw [parts, flatMap_constants]
      exact v.reads_template
  | raw sql =>
      have whole := verbatim (List.mem_singleton_self (Part.verbatim sql))
      simpa [parts, Part.strings, template] using whole
  | call name args =>
      rw [parts, List.flatMap_cons, flatMap_operands]
      exact reads_call (verbatim (List.mem_cons_self)) (reads_all read)
  | keywordCall name args =>
      have arguments := Template.reads_separated (by decide : Bland " ") (by decide) _
        (fun a => (a.keyword.toList.map Part.verbatim ++ [Part.operand a.arg]).flatMap Part.strings)
        args fun a inArgs => by
          apply reads_argument
          · intro keyword isKeyword
            exact closed keyword (by simpa [parts] using .inr ⟨a, inArgs, isKeyword⟩)
          · exact read a.arg (List.mem_map_of_mem inArgs)
      rw [parts, List.flatMap_cons, List.flatMap_assoc, template, argumentTemplates_eq]
      exact reads_call (verbatim (List.mem_cons_self)) arguments
  | binary left op right =>
      have bland : Bland (" " ++ op.symbol ++ " ") := by cases op <;> decide
      have readLeft := Template.reads_bracketed left.isInfix (read left (by simp [children]))
      have readRight := Template.reads_bracketed right.isInfix (read right (by simp [children]))
      simpa [parts, Part.strings, template] using readLeft.joined bland (symbol_filled _) readRight
  | cast expr type =>
      have typed : Part.verbatim type ∈ (cast expr type).parts := by simp [parts]
      have inner := (read expr (by simp [children])).joined (by decide : Bland " AS ") (by decide)
        (verbatim typed)
      have enclosed := reads_call (.of_bland (by decide : Bland "CAST")) inner
      simpa [parts, Part.strings, template, String.append_assoc] using enclosed
  | compare left op right =>
      have whole := isRead_compare readAll
      rwa [IsRead, strings_eq] at whole
  | between expr low high symmetric =>
      have range : Bland (if symmetric then " BETWEEN SYMMETRIC " else " BETWEEN ") := by
        cases symmetric <;> decide
      have filled : (if symmetric then " BETWEEN SYMMETRIC " else " BETWEEN ") ≠ "" := by
        cases symmetric <;> decide
      have readExpr := Template.reads_bracketed expr.isInfix (read expr (by simp [children]))
      have readLow := Template.reads_bracketed low.isInfix (read low (by simp [children]))
      have readHigh := Template.reads_bracketed high.isInfix (read high (by simp [children]))
      have whole := (readExpr.joined range filled readLow).joined (by decide : Bland " AND ")
        (by decide) readHigh
      simpa [parts, Part.strings, template] using whole
  | logical op operands =>
      have whole := isRead_logical op read
      rwa [IsRead, strings_eq] at whole
  | jsonAccess base path asText =>
      have readBase := Template.reads_bracketed base.isInfix (read base (by simp [children]))
      rw [parts, List.flatMap_cons, flatMap_constants]
      exact readBase.append (path.reads_access asText) (path.detached_access asText)
  | array items =>
      rw [parts, flatMap_operands]
      exact reads_array (reads_all read)
  | aggregate name args distinct withinGroup =>
      have whole := isRead_aggregate distinct (closed name List.mem_cons_self) read
      rwa [IsRead, strings_eq] at whole
  | window function clauses =>
      have whole := isRead_window (read function List.mem_cons_self) fun c inClauses =>
        read c (List.mem_cons_of_mem _ inClauses)
      rwa [IsRead, strings_eq] at whole
  | aliased expr name =>
      have whole := (read expr (by simp [children])).joined (by decide : Bland " AS ") (by decide)
        (Identifier.reads_quote name)
      simpa [parts, Part.strings, template, String.append_assoc] using whole

/-- Whatever its values, names and keys are, the text of an expression ends outside of quotes with
all brackets closed, and the constants in it are those of the expression, from left to right, if
the texts in it that are written as they stand are closed by themselves. -/
theorem scan_sql {e : Expr} (closed : ∀ d ∈ e.written, d.IsClosed) :
    Scan.strings? e.sql = some e.strings := by
  have read : e.IsRead ∧ ∀ c ∈ e.children, c.IsRead := by
    induction e using children_induction with
    | step e ih =>
        obtain ⟨here, below⟩ := forall_mem_written.mp closed
        have readAll := fun c child => ih c child (below c child)
        exact ⟨isRead_of_children here readAll, fun c child => (readAll c child).1⟩
  rw [Scan.strings?_eq_some_iff, sql, write_eq_template, Template.write_constants]
  exact read.1

/-- A hostile text behind a key and a name with quotes in them. -/
theorem scan_hostile_texts :
    let clock : Expr := .jsonAccess (.column "User's") (JsonPath.root.key "o'clock") true
    let items : List Expr := [.literal (.text "'); --"), .call "upper" [.literal (.text "\"(")]]
    let e : Expr := .aliased (.compare clock .isIn (.array items)) "a\"b"
    (∀ d ∈ e.written, d.IsClosed) ∧
      Scan.strings? e.sql = some ["o'clock", "'); --", "\"("] := by
  intro clock items e
  have closed : ∀ d ∈ e.written, d.IsClosed := by
    have name : (Scan.strings? "upper").isSome = true := by decide
    simpa [e, clock, items, written_eq, children, isDecided, IsClosed, parts] using name
  have strings : e.strings = ["o'clock", "'); --", "\"("] := by
    simp only [e, clock, items, strings_eq, parts, isDecided, Bool.false_eq_true, if_false,
      List.map_cons, List.map_nil, List.flatMap_cons, List.flatMap_nil, flatMap_constants,
      Part.strings, Value.strings]
    decide
  exact ⟨closed, strings ▸ scan_sql closed⟩

end Expr

end SqlCompose
