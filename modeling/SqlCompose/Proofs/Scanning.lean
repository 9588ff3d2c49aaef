/-
# Scanning a statement

A server reads a statement from left to right and keeps three things in mind: whether it
stands in a quoted text, which brackets are still open, and which constants it has met.  Single
quotes enclose constants and double quotes names; a quote that belongs to the text is written
twice, so that a quote ends the text only if no other follows it.  `Scan.strings?` is such
a scan.  It succeeds if the text ends outside of all quotes with every bracket closed.

A text that is read so by itself is read in the same way wherever it stands outside of quotes
(`Scan.strings?_eq_some_iff`), which makes the judgement `Scan.Reads` compositional.  The one thing
to look after is that a text behind another does not begin with a quote, for two quotes side by
side are one quote of a longer text.
-/

import SqlCompose.Text.Quoted
import Mathlib.Data.List.Basic

namespace SqlCompose

namespace Scan

/-- A quote. -/
inductive Quote where
  | single | double
  deriving DecidableEq

namespace Quote

/-- The character of a quote. -/
def char : Quote → Char
  | .single => '\''
  | .double => '"'

end Quote

/-- A pair of brackets. -/
inductive Bracket where
  | round | square
  deriving DecidableEq

namespace Bracket

/-- The left bracket. -/
def opening : Bracket → String
  | .round => "("
  | .square => "["

/-- The right bracket. -/
def closing : Bracket → String
  | .round => ")"
  | .square => "]"

end Bracket

/-- What a character means outside of quotes. -/
inductive Mark where
  | quote (quote : Quote)
  | opening (bracket : Bracket)
  | closing (bracket : Bracket)
  | other
  deriving DecidableEq

namespace Mark

/-- The meaning of a character outside of quotes. -/
def of : Char → Mark
  | '\'' => .quote .single
  | '"' => .quote .double
  | '(' => .opening .round
  | ')' => .closing .round
  | '[' => .opening .square
  | ']' => .closing .square
  | _ => .other

/-- The characters that have a meaning of their own. -/
def characters : List Char :=
  ['\'', '"', '(', ')', '[', ']']

theorem of_char (q : Quote) : of q.char = .quote q := by
  cases q <;> rfl

theorem of_eq_quote_iff {c : Char} {q : Quote} : of c = .quote q ↔ c = q.char := by
  constructor
  · intro isQuote
    unfold of at isQuote
    split at isQuote <;> cases isQuote <;> rfl
  · rintro rfl
    exact of_char q

theorem of_eq_other {c : Char} (unmarked : c ∉ characters) : of c = .other := by
  unfold of
  split
  case h_7 => rfl
  all_goals exact (unmarked (by simp [characters])).elim

/-- No character of a kind has a meaning of its own if none of those that have one is of the
kind. -/
theorem of_eq_other_of_kind {kind : Char → Bool} (none : characters.any kind = false) {c : Char}
    (isKind : kind c = true) : of c = .other := by
  apply of_eq_other
  intro marked
  exact List.any_eq_false.mp none c marked isKind

end Mark

/-- Where a scan stands. -/
inductive Place where
  | outside
  /-- In a quoted text of which some characters are read. -/
  | inside (quote : Quote) (read : List Char)
  /-- Behind a quote that ends the quoted text, or is the first of two. -/
  | behind (quote : Quote) (read : List Char)

end Scan

open Scan in
/-- What is kept in mind on the way through a text. -/
structure Scan where
  place : Place
  /-- The brackets that are open, the innermost first. -/
  brackets : List Bracket
  /-- The constants that were met. -/
  strings : List String

namespace Scan

/-- A quoted text that has come to its end counts if it is a constant. -/
def constants (quote : Quote) (read : List Char) : List String :=
  match quote with
  | .single => [String.ofList read]
  | .double => []

/-- Reads a character outside of quotes. -/
def stepOutside (brackets : List Bracket) (strings : List String) (c : Char) : Option Scan :=
  match Mark.of c with
  | .quote quote => some ⟨.inside quote [], brackets, strings⟩
  | .opening bracket => some ⟨.outside, bracket :: brackets, strings⟩
  | .closing bracket =>
    match brackets with
    | innermost :: rest => if innermost = bracket then some ⟨.outside, rest, strings⟩ else none
    | [] => none
  | .other => some ⟨.outside, brackets, strings⟩

/-- Reads a character. -/
def step (s : Scan) (c : Char) : Option Scan :=
  match s.place with
  | .outside => stepOutside s.brackets s.strings c
  | .inside quote read =>
    if c = quote.char then some { s with place := .behind quote read }
    else some { s with place := .inside quote (read ++ [c]) }
  | .behind quote read =>
    if c = quote.char then some { s with place := .inside quote (read ++ [c]) }
    else stepOutside s.brackets (s.strings ++ constants quote read) c

/-- Reads characters one after another. -/
def run (s : Scan) (cs : List Char) : Option Scan :=
  cs.foldlM step s

/-- The scan if no other quote follows. -/
def settled (s : Scan) : Scan :=
  match s.place with
  | .behind quote read => ⟨.outside, s.brackets, s.strings ++ constants quote read⟩
  | _ => s

/-- The constants of a text from left to right, if it ends outside of quotes and all its brackets
are closed. -/
def strings? (text : String) : Option (List String) :=
  match (run ⟨.outside, [], []⟩ text.toList).map settled with
  | some ⟨.outside, [], strings⟩ => some strings
  | _ => none

theorem run_nil (s : Scan) : s.run [] = some s := rfl

theorem run_cons (s : Scan) (c : Char) (cs : List Char) :
    s.run (c :: cs) = (s.step c).bind fun next => next.run cs := rfl

theorem run_append (s : Scan) (cs ds : List Char) :
    s.run (cs ++ ds) = (s.run cs).bind fun next => next.run ds :=
  List.foldlM_append

/-- Only a quote can tell whether a quote before it has ended a text. -/
theorem step_settled {s : Scan} {c : Char} (noQuote : ∀ q, Mark.of c ≠ .quote q) :
    s.settled.step c = s.step c := by
  obtain ⟨place, brackets, strings⟩ := s
  cases place with
  | outside | inside quote read => rfl
  | behind quote read =>
      have noSecond : c ≠ quote.char := fun same => noQuote quote (Mark.of_eq_quote_iff.mpr same)
      simp [settled, step, noSecond]

/-! ## A text among others -/

/-- The scan with more brackets open around it and more constants met before it. -/
def around (s : Scan) (brackets : List Bracket) (strings : List String) : Scan :=
  ⟨s.place, s.brackets ++ brackets, strings ++ s.strings⟩

theorem settled_around (s : Scan) (brackets : List Bracket) (strings : List String) :
    (s.around brackets strings).settled = s.settled.around brackets strings := by
  obtain ⟨place, _, _⟩ := s
  cases place <;> simp [settled, around]

/-- What is around a text does not matter for a step in it. -/
theorem step_around {s s' : Scan} {c : Char} (brackets : List Bracket) (strings : List String)
    (stepped : s.step c = some s') :
    (s.around brackets strings).step c = some (s'.around brackets strings) := by
  have outside {open' : List Bracket} {met : List String}
      (stepped : stepOutside open' met c = some s') :
      stepOutside (open' ++ brackets) (strings ++ met) c = some (s'.around brackets strings) := by
    unfold stepOutside at stepped ⊢
    split at stepped
    case h_1 | h_2 | h_4 =>
      obtain rfl := Option.some.inj stepped
      rfl
    case h_3 bracket closes =>
      split at stepped
      case h_1 innermost rest =>
        split at stepped
        case isTrue same =>
          obtain rfl := Option.some.inj stepped
          exact if_pos same
        case isFalse => cases stepped
      case h_2 => cases stepped
  obtain ⟨place, _, _⟩ := s
  cases place with
  | outside => exact outside stepped
  | inside quote read =>
      simp only [step] at stepped
      simp only [step, around]
      split at stepped
      case isTrue same =>
        obtain rfl := Option.some.inj stepped
        exact if_pos same
      case isFalse other =>
        obtain rfl := Option.some.inj stepped
        exact if_neg other
  | behind quote read =>
      simp only [step] at stepped
      simp only [step, around]
      split at stepped
      case isTrue same =>
        obtain rfl := Option.some.inj stepped
        exact if_pos same
      case isFalse other =>
        rw [if_neg other, List.append_assoc]
        exact outside stepped

theorem run_around {s s' : Scan} {cs : List Char} (brackets : List Bracket) (strings : List String)
    (ran : s.run cs = some s') :
    (s.around brackets strings).run cs = some (s'.around brackets strings) := by
  induction cs generalizing s with
  | nil =>
      obtain rfl := Option.some.inj ran
      rfl
  | cons c cs ih =>
      rw [run_cons, Option.bind_eq_some_iff] at ran
      obtain ⟨next, stepped, ran⟩ := ran
      rw [run_cons, step_around brackets strings stepped]
      exact ih ran

/-- Whether the constants of a text are met wherever it stands outside of quotes, and the text
leaves everything around it as it was. -/
def Reads (text : String) (found : List String) : Prop :=
  ∀ brackets strings, (run ⟨.outside, brackets, strings⟩ text.toList).map settled =
    some ⟨.outside, brackets, strings ++ found⟩

/-- A text is read in the same way by itself and among others. -/
theorem strings?_eq_some_iff {text : String} {found : List String} :
    strings? text = some found ↔ Reads text found := by
  constructor
  · intro scanned brackets strings
    unfold strings? at scanned
    split at scanned
    case h_2 => cases scanned
    case h_1 found' ended =>
      obtain rfl := Option.some.inj scanned
      obtain ⟨s, ran, isSettled⟩ := Option.map_eq_some_iff.mp ended
      have ranAround := run_around brackets strings ran
      have start : (⟨.outside, brackets, strings⟩ : Scan) =
          around ⟨.outside, [], []⟩ brackets strings := by
        simp [around]
      rw [start, ranAround, Option.map_some, settled_around, isSettled]
      rfl
  · intro reads
    rw [strings?, reads [] []]
    rfl

/-! ## Texts one behind another -/

/-- Whether a text does not begin with a quote. -/
def Detached (text : String) : Prop :=
  ∀ c ∈ text.toList.head?, ∀ q, Mark.of c ≠ .quote q

/-- Whether no character of a text has a meaning of its own. -/
def Bland (text : String) : Prop :=
  ∀ c ∈ text.toList, Mark.of c = .other

/-- The characters of the text are looked at, and not all characters that there are. -/
instance (text : String) : Decidable (Bland text) :=
  List.decidableBAll (fun c => Mark.of c = .other) text.toList

theorem Bland.append {first second : String} (firstBland : Bland first)
    (secondBland : Bland second) : Bland (first ++ second) := by
  intro c inside
  rw [String.toList_append, List.mem_append] at inside
  rcases inside with inFirst | inSecond
  · exact firstBland c inFirst
  · exact secondBland c inSecond

theorem Bland.detached {text : String} (bland : Bland text) : Detached text := by
  intro c isFirst q isQuote
  rw [bland c (List.mem_of_mem_head? isFirst)] at isQuote
  cases isQuote

/-- What stands in front of a text decides how the whole begins. -/
theorem Detached.append {first second : String} (detached : Detached first) (filled : first ≠ "") :
    Detached (first ++ second) := by
  intro c isFirst
  rw [String.toList_append, List.head?_append_of_ne_nil _ (by simpa using filled)] at isFirst
  exact detached c isFirst

theorem detached_opening (bracket : Bracket) : Detached bracket.opening := by
  cases bracket <;> simp [Detached, Bracket.opening, Mark.of]

theorem detached_closing (bracket : Bracket) : Detached bracket.closing := by
  cases bracket <;> simp [Detached, Bracket.closing, Mark.of]

/-- Through a text without quotes and brackets nothing changes. -/
theorem Bland.run {text : String} (bland : Bland text) (brackets : List Bracket)
    (strings : List String) :
    Scan.run ⟨.outside, brackets, strings⟩ text.toList = some ⟨.outside, brackets, strings⟩ := by
  unfold Bland at bland
  generalize text.toList = cs at bland
  induction cs with
  | nil => rfl
  | cons c cs ih =>
      have stepped : step ⟨.outside, brackets, strings⟩ c = some ⟨.outside, brackets, strings⟩ := by
        simp [step, stepOutside, bland c List.mem_cons_self]
      rw [run_cons, stepped]
      exact ih fun d inside => bland d (List.mem_cons_of_mem _ inside)

/-- Behind a text that does not begin with a quote one need not wait for a second quote. -/
theorem run_settled {s : Scan} {text : String} (detached : Detached text) :
    (s.settled.run text.toList).map settled = (s.run text.toList).map settled := by
  unfold Detached at detached
  cases characters : text.toList with
  | nil =>
      obtain ⟨place, _, _⟩ := s
      cases place <;> rfl
  | cons c cs =>
      rw [characters] at detached
      rw [run_cons, run_cons, step_settled (detached c rfl)]

namespace Reads

variable {a b : String} {xs ys : List String}

theorem of_bland (bland : Bland a) : Reads a [] := by
  intro brackets strings
  rw [bland.run, List.append_nil]
  rfl

theorem append (first : Reads a xs) (second : Reads b ys) (detached : Detached b) :
    Reads (a ++ b) (xs ++ ys) := by
  intro brackets strings
  obtain ⟨s, ran, isSettled⟩ := Option.map_eq_some_iff.mp (first brackets strings)
  rw [String.toList_append, run_append, ran, Option.bind_some, ← run_settled detached, isSettled,
    second, List.append_assoc]

/-- Behind a text without quotes even a quote begins a text of its own. -/
theorem behind_bland (bland : Bland a) (second : Reads b ys) : Reads (a ++ b) ys := by
  intro brackets strings
  rw [String.toList_append, run_append, bland.run, Option.bind_some, second]

/-- Two texts with a text between them that holds neither quotes nor brackets. -/
theorem joined {between : String} (first : Reads a xs) (bland : Bland between)
    (filled : between ≠ "") (second : Reads b ys) : Reads (a ++ between ++ b) (xs ++ ys) := by
  rw [String.append_assoc]
  exact first.append (second.behind_bland bland) (bland.detached.append filled)

/-- Any number of texts with a text between them that holds neither quotes nor brackets. -/
theorem intercalate {α : Type} {separator : String} (bland : Bland separator)
    (filled : separator ≠ "") (text : α → String) (strings : α → List String) (parts : List α)
    (reads : ∀ part ∈ parts, Reads (text part) (strings part)) :
    Reads (separator.intercalate (parts.map text)) (parts.flatMap strings) := by
  induction parts with
  | nil => exact of_bland (by simp [Bland])
  | cons part rest ih =>
      have first := reads part List.mem_cons_self
      have others := ih fun part inRest => reads part (List.mem_cons_of_mem _ inRest)
      cases rest with
      | nil => simpa using first
      | cons next rest =>
          rw [List.map_cons, List.map_cons, String.intercalate_cons_cons]
          exact first.joined bland filled others

/-- A text and then one in brackets. -/
theorem enclosed (bracket : Bracket) (first : Reads a xs) (second : Reads b ys) :
    Reads (a ++ bracket.opening ++ b ++ bracket.closing) (xs ++ ys) := by
  have opens (brackets : List Bracket) (strings : List String) :
      run ⟨.outside, brackets, strings⟩ bracket.opening.toList =
        some ⟨.outside, bracket :: brackets, strings⟩ := by
    cases bracket <;> rfl
  have closes (brackets : List Bracket) (strings : List String) :
      run ⟨.outside, bracket :: brackets, strings⟩ bracket.closing.toList =
        some ⟨.outside, brackets, strings⟩ := by
    cases bracket <;> rfl
  have inBrackets : Reads (bracket.opening ++ b ++ bracket.closing) ys := by
    intro brackets strings
    obtain ⟨s, ran, isSettled⟩ := Option.map_eq_some_iff.mp (second (bracket :: brackets) strings)
    rw [String.toList_append, String.toList_append, run_append, run_append, opens,
      Option.bind_some, ran, Option.bind_some, ← run_settled (detached_closing bracket), isSettled,
      closes]
    rfl
  have detached : Detached (bracket.opening ++ b ++ bracket.closing) := by
    rw [String.append_assoc]
    exact (detached_opening bracket).append (by cases bracket <;> decide)
  have whole := first.append inBrackets detached
  simpa only [String.append_assoc] using whole

end Reads

/-! ## Quoted texts -/

/-- In a quoted text its doubled characters are read back. -/
theorem run_double (quote : Quote) (read cs : List Char) (brackets : List Bracket)
    (strings : List String) :
    run ⟨.inside quote read, brackets, strings⟩ (Text.double quote.char cs) =
      some ⟨.inside quote (read ++ cs), brackets, strings⟩ := by
  induction cs generalizing read with
  | nil => simp [Text.double, run_nil]
  | cons c cs ih =>
      by_cases isQuote : c = quote.char
      · subst isQuote
        simp [Text.double, run_cons, step, ih]
      · simp [Text.double, run_cons, step, isQuote, ih]

/-- Whatever stands in a quoted text, it is read as one constant, or as a name. -/
theorem reads_enclose (quote : Quote) (text : String) :
    Reads (Text.enclose quote.char text) (constants quote text.toList) := by
  intro brackets strings
  have opens : step ⟨.outside, brackets, strings⟩ quote.char =
      some ⟨.inside quote [], brackets, strings⟩ := by
    simp [step, stepOutside, Mark.of_char]
  have closes : step ⟨.inside quote text.toList, brackets, strings⟩ quote.char =
      some ⟨.behind quote text.toList, brackets, strings⟩ := by
    simp [step]
  rw [Text.enclose, String.toList_ofList, run_cons, opens, Option.bind_some, run_append, run_double,
    List.nil_append, Option.bind_some, run_cons, closes]
  rfl

/-- A constant is read as the text in it. -/
theorem reads_quoteLiteral (text : String) : Reads (Text.quoteLiteral text) [text] := by
  have enclosed := reads_enclose .single text
  rwa [constants, String.ofList_toList] at enclosed

end Scan

end SqlCompose
