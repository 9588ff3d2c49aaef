/-
# Columns addressed by their names

A column that a schema declares is given by its name in several places, and each place writes the
name.  The target of an assignment is written as one name, whatever characters it has; everywhere
else the name may be qualified, so it is split at its dots, and a star stands for all columns.
Both are read here as a server reads names (`SqlName.read?`): the text is split at the dots
outside double quotes, a quoted part stands for what is between its quotes, and a bare part is
folded to lower case and must not be a key word.

The two ways to write a name agree exactly for a name that has no dot and is not the star
(`Identifier.quote_eq_quoteQualified_iff`).  Then a declared column is addressed as itself:
wherever its name is given the same text is written, which is read as this one column, and a text
that is assigned to it or compared with it takes the type of the one declaration
(`Schema.exists_addresses_iff`).
-/

import SqlCompose.Proofs.ScannedConstants
import SqlCompose.Proofs.Summaries
import SqlCompose.Statement

namespace SqlCompose

/-! ## Reading names -/

namespace SqlName

/-- The parts of a text between the dots outside double quotes, from a place within quotes or not.
A doubled quote leaves the quotes and enters them again. -/
def split : Bool → List Char → List (List Char)
  | _, [] => [[]]
  | quoted, c :: cs =>
    if c = '.' ∧ quoted = false then [] :: split false cs
    else (split (if c = '"' then !quoted else quoted) cs).modifyHead (c :: ·)

/-- Whether a text has the shape of a name without quotes. -/
def isWord : List Char → Bool
  | [] => false
  | c :: cs => (c.isAlpha || c == '_') && cs.all fun d => d.isAlphanum || d == '_' || d == '$'

/-- Reads one part of a name.  A bare word is folded to lower case and must be none of the key
words. -/
def readPart? (keywords : List String) : List Char → Option String
  | '"' :: cs =>
    if cs.getLast? = some '"' then (Text.undouble '"' cs.dropLast).map String.ofList else none
  | cs =>
    let word := String.ofList (cs.map Char.toLower)
    if isWord cs && !keywords.contains word then some word else none

/-- Reads a name that may be qualified. -/
def read? (keywords : List String) (text : String) : Option (List String) :=
  (split false text.toList).mapM (readPart? keywords)

theorem split_dot (cs : List Char) : split false ('.' :: cs) = [] :: split false cs := by
  rw [split, if_pos ⟨rfl, rfl⟩]

/-- What stands within quotes is not split, and behind them it goes on as before. -/
theorem split_double (cs rest : List Char) :
    split true (Text.double '"' cs ++ '"' :: rest) =
      (split false rest).modifyHead (Text.double '"' cs ++ '"' :: ·) := by
  induction cs with
  | nil => simp [Text.double, split]
  | cons c cs ih =>
      by_cases isQuote : c = '"'
      · subst isQuote
        simp [Text.double, split, ih, List.modifyHead_modifyHead, Function.comp_def]
      · simp [Text.double, split, isQuote, ih, List.modifyHead_modifyHead, Function.comp_def]

theorem split_bare {cs : List Char} (bare : ∀ c ∈ cs, c ≠ '.' ∧ c ≠ '"') (rest : List Char) :
    split false (cs ++ rest) = (split false rest).modifyHead (cs ++ ·) := by
  induction cs with
  | nil => cases h : split false rest <;> simp [h]
  | cons c cs ih =>
      obtain ⟨⟨noDot, noQuote⟩, others⟩ := List.forall_mem_cons.mp bare
      simp [split, noDot, noQuote, ih others, List.modifyHead_modifyHead, Function.comp_def]

end SqlName

/-! ## Written names are read again -/

namespace Identifier

/-- A name that is written as one is not split. -/
theorem split_quote (name : String) (rest : List Char) :
    SqlName.split false ((quote name).toList ++ rest) =
      (SqlName.split false rest).modifyHead ((quote name).toList ++ ·) := by
  unfold quote
  split
  case isTrue plain =>
    have isPlain := (Bool.and_eq_true _ _ ▸ plain).1
    apply SqlName.split_bare
    intro c inside
    have kind := isContinuation_of_isPlain isPlain c inside
    constructor <;>
      · rintro rfl
        revert kind
        decide
  case isFalse =>
    simp [Text.enclose, SqlName.split, SqlName.split_double, List.modifyHead_modifyHead,
      Function.comp_def]

theorem split_quotePart (part : String) (rest : List Char) :
    SqlName.split false ((quotePart part).toList ++ rest) =
      (SqlName.split false rest).modifyHead ((quotePart part).toList ++ ·) := by
  unfold quotePart
  split
  case isTrue isStar =>
    subst isStar
    exact SqlName.split_bare (by simp) rest
  case isFalse => exact split_quote part rest

/-- The parts of a written name are found again. -/
theorem split_intercalate {parts : List String} (some : parts ≠ []) :
    SqlName.split false (".".intercalate (parts.map quotePart)).toList =
      parts.map fun part => (quotePart part).toList := by
  have dot : ".".toList = ['.'] := rfl
  rw [String.toList_intercalate, List.map_map]
  induction parts with
  | nil => exact absurd rfl some
  | cons first rest ih =>
      cases rest with
      | nil =>
          have single := split_quotePart first []
          simpa [SqlName.split] using single
      | cons second rest =>
          have behind := ih (List.cons_ne_nil second rest)
          rw [List.map_cons, List.map_cons, List.intercalate_cons_cons, ← List.map_cons,
            List.append_assoc, Function.comp_apply, split_quotePart, dot, List.singleton_append,
            SqlName.split_dot, ← dot, behind, List.modifyHead_cons, List.append_nil,
            List.map_cons (a := first)]

theorem isLower_iff {c : Char} : c.isLower = true ↔ 'a' ≤ c ∧ c ≤ 'z' := by
  change (decide ('a' ≤ c) && decide (c ≤ 'z')) = true ↔ _
  rw [Bool.and_eq_true, decide_eq_true_iff, decide_eq_true_iff]

theorem isDigit_iff {c : Char} : c.isDigit = true ↔ '0' ≤ c ∧ c ≤ '9' := by
  change (decide ('0' ≤ c) && decide (c ≤ '9')) = true ↔ _
  rw [Bool.and_eq_true, decide_eq_true_iff, decide_eq_true_iff]

theorem toLower_of_isContinuation {c : Char} (kind : isContinuation c = true) :
    c.toLower = c := by
  have notUpper : ¬('A' ≤ c ∧ c ≤ 'Z') := by
    rintro ⟨above, below⟩
    simp only [isContinuation, Bool.or_eq_true, beq_iff_eq] at kind
    rcases kind with (lower | digit) | rfl
    · exact absurd (Char.le_trans (isLower_iff.mp lower).1 below) (by decide)
    · exact absurd (Char.le_trans above (isDigit_iff.mp digit).2) (by decide)
    · exact absurd below (by decide)
  exact dif_neg notUpper

theorem isAlpha_of_isLower {c : Char} (lower : c.isLower = true) : c.isAlpha = true := by
  change (c.isUpper || c.isLower) = true
  rw [lower, Bool.or_true]

theorem isWord_of_isPlain {cs : List Char} (plain : isPlain cs = true) :
    SqlName.isWord cs = true := by
  cases cs with
  | nil => cases plain
  | cons first rest =>
      simp only [isPlain, isStart, isContinuation, SqlName.isWord, Char.isAlphanum,
        Bool.and_eq_true, Bool.or_eq_true, List.all_eq_true] at plain ⊢
      refine ⟨plain.1.imp_left isAlpha_of_isLower, fun c inside => ?_⟩
      rcases plain.2 c inside with (lower | digit) | underscore
      · exact .inl (.inl (.inl (isAlpha_of_isLower lower)))
      · exact .inl (.inl (.inr digit))
      · exact .inl (.inr underscore)

/-- A bare name is read as it is, unless it is a key word. -/
theorem readPart?_of_isPlain {keywords : List String} {word : String}
    (plain : isPlain word.toList = true) (free : word ∉ keywords) :
    SqlName.readPart? keywords word.toList = some word := by
  have kind := isContinuation_of_isPlain plain
  have folded : word.toList.map Char.toLower = word.toList := by
    rw [List.map_congr_left fun c inside => toLower_of_isContinuation (kind c inside), List.map_id']
  unfold SqlName.readPart?
  split
  case h_1 cs isQuoted =>
    rw [isQuoted] at plain
    cases plain
  case h_2 => simp [folded, isWord_of_isPlain plain, free]

theorem readPart?_quote {keywords : List String} {name : String}
    (known : name ∈ keywords → name ∈ reserved) :
    SqlName.readPart? keywords (quote name).toList = some name := by
  unfold quote
  split
  case isTrue plain =>
    obtain ⟨isPlain, notReserved⟩ := Bool.and_eq_true _ _ ▸ plain
    apply readPart?_of_isPlain isPlain
    intro isKeyword
    simp [known isKeyword] at notReserved
  case isFalse =>
    simp [Text.enclose, SqlName.readPart?, Text.undouble_double]

/-- A name that is written as one is read as one, whatever its characters. -/
theorem read?_quote {keywords : List String} {name : String}
    (known : name ∈ keywords → name ∈ reserved) :
    SqlName.read? keywords (quote name) = some [name] := by
  have whole := split_quote name []
  rw [List.append_nil] at whole
  simp [SqlName.read?, whole, SqlName.split, readPart?_quote known]

theorem readPart?_quotePart (part : String) :
    SqlName.readPart? [] (quotePart part).toList = if part = "*" then none else some part := by
  unfold quotePart
  split
  case isTrue isStar =>
    subst isStar
    rfl
  case isFalse => exact readPart?_quote (by simp)

theorem parts_ne_nil (separator : Char) (cs : List Char) : parts separator cs ≠ [] := by
  cases cs with
  | nil => exact List.cons_ne_nil _ _
  | cons c cs =>
      rw [parts]
      split
      · exact List.cons_ne_nil _ _
      · split <;> exact List.cons_ne_nil _ _

theorem dotted_ne_nil (name : String) : dotted name ≠ [] :=
  List.map_eq_nil_iff.not.mpr (parts_ne_nil '.' name.toList)

/-- A name that is written as a qualified one is read as its parts, unless one of them is a star. -/
theorem read?_quoteQualified (name : String) :
    SqlName.read? [] (quoteQualified name) =
      if "*" ∈ dotted name then none else some (dotted name) := by
  rw [SqlName.read?, quoteQualified, split_intercalate (dotted_ne_nil name)]
  induction dotted name with
  | nil => rfl
  | cons part rest ih =>
      rw [List.map_cons, List.mapM_cons, readPart?_quotePart, ih]
      by_cases isStar : part = "*"
      · simp [isStar]
      · by_cases inRest : "*" ∈ rest <;> simp [isStar, Ne.symm isStar, inRest]

/-! ## Names without dots -/

theorem parts_cons_of_ne {separator c : Char} (other : c ≠ separator) (cs : List Char) :
    parts separator (c :: cs) = (parts separator cs).modifyHead (c :: ·) := by
  rw [parts, if_neg other]
  cases split : parts separator cs with
  | nil => exact absurd split (parts_ne_nil separator cs)
  | cons part rest => rfl

theorem not_mem_of_mem_parts {separator : Char} {cs : List Char} :
    ∀ part ∈ parts separator cs, separator ∉ part := by
  induction cs with
  | nil => simp [parts]
  | cons c cs ih =>
      by_cases here : c = separator
      · subst here
        simpa [parts] using ih
      · rw [parts_cons_of_ne here]
        cases split : parts separator cs with
        | nil => exact absurd split (parts_ne_nil separator cs)
        | cons part rest =>
            rw [split] at ih
            obtain ⟨notInPart, others⟩ := List.forall_mem_cons.mp ih
            refine List.forall_mem_cons.mpr ⟨?_, others⟩
            simp [Ne.symm here, notInPart]

theorem parts_eq_singleton {separator : Char} {cs : List Char} (none : separator ∉ cs) :
    parts separator cs = [cs] := by
  induction cs with
  | nil => rfl
  | cons c cs ih =>
      rw [List.mem_cons, not_or] at none
      rw [parts_cons_of_ne (Ne.symm none.1), ih none.2]
      rfl

theorem dotted_eq_singleton_iff {name : String} : dotted name = [name] ↔ '.' ∉ name.toList := by
  constructor
  · intro single
    have isPart : name ∈ dotted name := by simp [single]
    obtain ⟨part, isPart, rfl⟩ := List.mem_map.mp isPart
    rw [String.toList_ofList]
    exact not_mem_of_mem_parts part isPart
  · intro noDot
    rw [dotted, parts_eq_singleton noDot]
    simp

/-- The two ways to write a name agree exactly if it has no dot and is not the star. -/
theorem quote_eq_quoteQualified_iff {name : String} :
    quote name = quoteQualified name ↔ '.' ∉ name.toList ∧ name ≠ "*" := by
  constructor
  · intro same
    have readOne : SqlName.read? [] (quote name) = some [name] := read?_quote (by simp)
    rw [same, read?_quoteQualified] at readOne
    split at readOne
    case isTrue => cases readOne
    case isFalse noStar =>
      have single := Option.some.inj readOne
      refine ⟨dotted_eq_singleton_iff.mp single, ?_⟩
      rintro rfl
      simp [single] at noStar
  · rintro ⟨noDot, noStar⟩
    rw [quoteQualified, dotted_eq_singleton_iff.mpr noDot]
    simp [quotePart, noStar]

end Identifier

/-! ## Places of a column -/

/-- Whether an expression is written as a text, whatever becomes of values. -/
def Expr.Writes (e : Expr) (text : String) : Prop :=
  ∀ {σ : Type} (w : ValueWriter σ), e.write w = pure text

/-- Whether a declared column is addressed as itself by a text. -/
structure Schema.Addresses (keywords : List String) (schema : Schema) (c : Column)
    (text : String) : Prop where
  /-- The text is read as the name of the column alone. -/
  read : SqlName.read? keywords text = some [c.name]
  /-- The text is the target of an assignment, and the value takes the type of the column. -/
  assigned : ∀ {σ : Type} (w : ValueWriter σ) (v : Value),
    Statement.assignment w schema (c.name, v) = (do
      let value ← c.typedValue v
      return text ++ " = " ++ (← Compilation.expr w value))
  /-- A comparison of the column with a value is written with the text in the place of the column,
  and the value takes the type of the column. -/
  compared : ∀ {σ : Type} (w : ValueWriter σ) (op : Comparison) (v : Value),
    (do
      let predicate ← ((Criterion.compare op v).expr c.name).typed schema
      Compilation.expr w predicate : Compilation σ String) = (do
      let value ← c.typedValue v
      Compilation.expr w (.compare (.raw text) op value))
  /-- The same holds of a range of the column and both its bounds. -/
  ranged : ∀ {σ : Type} (w : ValueWriter σ) (low high : Value) (symmetric : Bool),
    (do
      let predicate ← (Predicate.between c.name low high symmetric).expr.typed schema
      Compilation.expr w predicate : Compilation σ String) = (do
      let low ← c.typedValue low
      let high ← c.typedValue high
      Compilation.expr w (.between (.raw text) low high symmetric))
  /-- The text is selected. -/
  selected : ∀ {σ : Type} (w : ValueWriter σ),
    Statement.selection w schema (.column c.name) = pure text
  /-- Where a function over rows takes the column, or rows are parted or ordered by it, with a path
  into its documents or without, the text is written for the column. -/
  summarized : ∀ {s : Summary} {e : Expr}, s.Builds schema e →
    ∀ (i : Nat) (arg : ColumnArgument), s.arguments[i]? = some arg → arg.name = c.name →
      ∃ column : Expr, column.Writes text ∧
        (e.references[i]? = some column ∨
          ∃ path asText, e.references[i]? = some (Expr.jsonAccess column path asText))

namespace Expr

theorem writes_column (name : String) :
    (column name).Writes (Identifier.quoteQualified name) :=
  fun _ => rfl

variable {schema : Schema} {c : Column} {name : String}

theorem declaredColumn?_of_noDot (noDot : '.' ∉ name.toList) :
    (column name).declaredColumn? schema = schema.find? name := by
  rw [declaredColumn?, Identifier.lastPart, Identifier.dotted_eq_singleton_iff.mpr noDot]
  rfl

/-- A value that is compared with a declared column takes the type of the column. -/
theorem typed_compared (declares : (column name).declaredColumn? schema = some c)
    (op : Comparison) (v : Value) :
    ((Criterion.compare op v).expr name).typed schema =
      compare (column name) op <$> c.typedValue v := by
  have right : typedRight schema (column name) (literal v) = c.typedValue v := by
    simp [typedRight, declares]
  change typed schema (compare (column name) op (literal v)) = _
  rw [typed, right]
  rfl

theorem typed_ranged (declares : (column name).declaredColumn? schema = some c)
    (low high : Value) (symmetric : Bool) :
    (Predicate.between name low high symmetric).expr.typed schema = (do
      let low ← c.typedValue low
      let high ← c.typedValue high
      return between (column name) low high symmetric) := by
  have bounds : typedBounds schema (column name) (literal low) (literal high) = (do
      let low ← c.typedValue low
      let high ← c.typedValue high
      return (low, high)) := by
    simp [typedBounds, declares]
  change typed schema (between (column name) (literal low) (literal high) symmetric) = _
  rw [typed, bounds, bind_assoc]
  simp

/-- In a comparison a column is written as its text. -/
theorem write_compared {σ : Type} (w : ValueWriter σ) (op : Comparison) (right : Expr) :
    (compare (column name) op right).write w =
      (compare (raw (Identifier.quoteQualified name)) op right).write w := by
  simp only [write, isInfix]

theorem write_ranged {σ : Type} (w : ValueWriter σ) (low high : Expr) (symmetric : Bool) :
    (between (column name) low high symmetric).write w =
      (between (raw (Identifier.quoteQualified name)) low high symmetric).write w := by
  simp only [write, isInfix]

end Expr

/-- Each column that is given to a function over rows stands in what is built, by itself or with a
path into its documents. -/
theorem Summary.references_column {schema : Schema} {s : Summary} {e : Expr}
    (builds : s.Builds schema e) {i : Nat} {arg : ColumnArgument}
    (isArgument : s.arguments[i]? = some arg) :
    e.references[i]? = some (.column arg.name) ∨
      ∃ path asText, e.references[i]? = some (.jsonAccess (.column arg.name) path asText) := by
  have refers : List.Forall₂ (ColumnArgument.Reaches schema) s.arguments e.references :=
    builds.refersTo
  obtain ⟨inRange, rfl⟩ := List.getElem?_eq_some_iff.mp isArgument
  have isReference : i < e.references.length := refers.length_eq ▸ inRange
  obtain ⟨-, reached⟩ := refers.get inRange isReference
  rw [List.get_eq_getElem, List.get_eq_getElem] at reached
  rw [List.getElem?_eq_getElem isReference]
  cases kind : s.arguments[i] with
  | plain name =>
      rw [kind] at reached
      exact .inl (congrArg some reached)
  | json name path =>
      rw [kind] at reached
      obtain ⟨asText, reached⟩ := reached
      exact .inr ⟨path, asText, congrArg some reached⟩

namespace Schema

variable {keywords : List String} {schema : Schema} {before behind : List Column} {c : Column}

theorem find?_eq_some_of_first (columns : schema.columns = before ++ c :: behind)
    (first : ∀ d ∈ before, d.name ≠ c.name) : schema.find? c.name = some c := by
  rw [find?, columns, List.find?_eq_some_iff_append]
  exact ⟨by simp, before, behind, rfl, by simpa using first⟩

theorem addresses_quote (declared : schema.find? c.name = some c)
    (known : c.name ∈ keywords → c.name ∈ Identifier.reserved) (noDot : '.' ∉ c.name.toList)
    (noStar : c.name ≠ "*") : schema.Addresses keywords c (Identifier.quote c.name) := by
  have declares : (Expr.column c.name).declaredColumn? schema = some c :=
    (Expr.declaredColumn?_of_noDot noDot).trans declared
  have same := Identifier.quote_eq_quoteQualified_iff.mpr ⟨noDot, noStar⟩
  have writes : (Expr.column c.name).Writes (Identifier.quote c.name) := by
    rw [same]
    exact Expr.writes_column c.name
  refine ⟨Identifier.read?_quote known, ?assigned, ?compared, ?ranged, ?selected, ?summarized⟩
  case assigned =>
    intro σ w v
    rw [Statement.assignment, Statement.assigned, declared]
  case compared =>
    intro σ w op v
    rw [Expr.typed_compared declares]
    cases c.typedValue v with
    | error fault => rfl
    | ok value =>
        change Compilation.expr w (.compare (.column c.name) op value) =
          Compilation.expr w (.compare (.raw (Identifier.quote c.name)) op value)
        rw [Compilation.expr, Expr.write_compared, ← same]
        rfl
  case ranged =>
    intro σ w low high symmetric
    rw [Expr.typed_ranged declares]
    cases c.typedValue low with
    | error fault => rfl
    | ok low =>
        cases c.typedValue high with
        | error fault => rfl
        | ok high =>
            change Compilation.expr w (.between (.column c.name) low high symmetric) =
              Compilation.expr w (.between (.raw (Identifier.quote c.name)) low high symmetric)
            rw [Compilation.expr, Expr.write_ranged, ← same]
            rfl
  case selected =>
    intro σ w
    change Compilation.ofState ((Expr.column c.name).write w) = _
    rw [writes w]
    rfl
  case summarized =>
    intro s e builds i arg isArgument sameName
    refine ⟨.column arg.name, ?_, Summary.references_column builds isArgument⟩
    rw [sameName]
    exact writes

/-- The target of an assignment is the name written as one. -/
theorem Addresses.eq_quote {text : String} (declared : schema.find? c.name = some c)
    (addresses : schema.Addresses keywords c text) : text = Identifier.quote c.name := by
  have written := addresses.assigned ValueWriter.constants .null
  rw [Statement.assignment, Statement.assigned, declared] at written
  have same : Identifier.quote c.name ++ " = " ++ "NULL" = text ++ " = " ++ "NULL" :=
    (Prod.mk.inj (Except.ok.inj (congrFun written ()))).1
  rw [String.append_assoc, String.append_assoc, ← String.toList_inj, String.toList_append,
    String.toList_append (s := text)] at same
  exact String.toList_inj.mp (List.append_cancel_right same).symm

/-- The text of a selected column is the name written as a qualified one. -/
theorem Addresses.eq_quoteQualified {text : String} (addresses : schema.Addresses keywords c text) :
    text = Identifier.quoteQualified c.name := by
  have written := addresses.selected ValueWriter.constants
  have same : Identifier.quoteQualified c.name = text :=
    (Prod.mk.inj (Except.ok.inj (congrFun written ()))).1
  exact same.symm

/-- A declared column, the first one of its name, is addressed as itself by one text in all places
exactly if its name has no dot and is not the star.  Of the key words a name may be only one that is
never written bare. -/
theorem exists_addresses_iff (columns : schema.columns = before ++ c :: behind)
    (first : ∀ d ∈ before, d.name ≠ c.name)
    (known : c.name ∈ keywords → c.name ∈ Identifier.reserved) :
    (∃ text, schema.Addresses keywords c text) ↔ '.' ∉ c.name.toList ∧ c.name ≠ "*" := by
  have declared := find?_eq_some_of_first columns first
  constructor
  · rintro ⟨text, addresses⟩
    rw [← Identifier.quote_eq_quoteQualified_iff]
    exact (addresses.eq_quote declared).symm.trans addresses.eq_quoteQualified
  · rintro ⟨noDot, noStar⟩
    exact ⟨_, addresses_quote declared known noDot noStar⟩

/-- The first of two columns of one name is addressed, though its name is a key word. -/
theorem user_is_addressed :
    let schema : Schema := ⟨"logins", [⟨"at", .timestamp⟩, ⟨"user", .uuid⟩, ⟨"user", .text⟩]⟩
    schema.columns = [⟨"at", .timestamp⟩] ++ ⟨"user", .uuid⟩ :: [⟨"user", .text⟩] ∧
      ∃ text, schema.Addresses ["select", "user"] ⟨"user", .uuid⟩ text := by
  intro schema
  have columns : schema.columns =
      [⟨"at", .timestamp⟩] ++ ⟨"user", .uuid⟩ :: [⟨"user", .text⟩] := rfl
  have known : "user" ∈ ["select", "user"] → "user" ∈ Identifier.reserved := fun _ => by
    simp [Identifier.reserved]
  have plain : '.' ∉ "user".toList ∧ "user" ≠ "*" := by simp
  exact ⟨columns, (exists_addresses_iff columns (by simp) known).mpr plain⟩

/-- A column with a dot in its name is assigned as one name and compared as another, and only the
assigned one of two equal texts is cast. -/
theorem dotted_column_is_split :
    let schema : Schema := ⟨"t", [⟨"a.b", .integer⟩]⟩
    schema.find? "a.b" = some ⟨"a.b", .integer⟩ ∧
      (¬∃ text, schema.Addresses [] ⟨"a.b", .integer⟩ text) ∧
      (Statement.update [("a.b", .text "5")] ⟨[("a.b", .equals (.text "5"))]⟩).compile schema =
        .ok ⟨"UPDATE t SET \"a.b\" = CAST($1 AS integer) WHERE a.b = $2",
          [.text "5", .text "5"]⟩ := by
  have compiled :
      (Statement.update [("a.b", .text "5")] ⟨[("a.b", .equals (.text "5"))]⟩).compile
          ⟨"t", [⟨"a.b", .integer⟩]⟩ =
        .ok ⟨"UPDATE t SET \"a.b\" = CAST($1 AS integer) WHERE a.b = $2",
          [.text "5", .text "5"]⟩ := rfl
  intro schema
  have declared : schema.find? "a.b" = some ⟨"a.b", .integer⟩ := rfl
  refine ⟨declared, ?_, compiled⟩
  rintro ⟨text, addresses⟩
  have differ : Identifier.quote "a.b" ≠ Identifier.quoteQualified "a.b" := by decide
  exact differ ((addresses.eq_quote declared).symm.trans addresses.eq_quoteQualified)

end Schema

end SqlCompose
