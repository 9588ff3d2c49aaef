/-
# Names given back

A name that is a plain lower-case word and not reserved is written as it is, and any other name is
written in double quotes.  The plain words are those of a regular language (`SqlName.bareWords`),
which is stated here by itself and not by the function that looks at the characters one by one.

A name in quotes is one token of a scan.  The scan goes on until a quote that no other follows
(`Scan.ended?`), and for a written name this is the last character, whatever stands in the name and
whatever follows but a further quote (`SqlName.IsToken`).  In a qualified name only the dots between
the parts stand outside of quotes, so the text is split where the name was.  In both ways of writing
nothing is lost (`Identifier.names_given_back`).
-/

import Mathlib.Computability.Language
import Mathlib.Data.Char
import SqlCompose.Proofs.NamedColumns

namespace SqlCompose

open scoped Computability

/-! ## Plain words -/

namespace SqlName

/-- The characters of a range, each as a word. -/
def range (first last : Char) : Language Char :=
  {word | ∃ c, word = [c] ∧ first ≤ c ∧ c ≤ last}

/-- The words that may stand without quotes: a lower-case letter or an underscore, and then any
number of those and of digits. -/
def bareWords : Language Char :=
  (range 'a' 'z' + range '_' '_') * (range 'a' 'z' + range '0' '9' + range '_' '_')∗

theorem singleton_mem_range {first last c : Char} :
    [c] ∈ range first last ↔ first ≤ c ∧ c ≤ last := by
  constructor
  · rintro ⟨d, same, inRange⟩
    obtain rfl := List.singleton_inj.mp same
    exact inRange
  · intro inRange
    exact ⟨c, rfl, inRange⟩

theorem exists_singleton_of_mem_range {first last : Char} {word : List Char}
    (inRange : word ∈ range first last) : ∃ c, word = [c] := by
  obtain ⟨c, same, -⟩ := inRange
  exact ⟨c, same⟩

/-- A word over single characters is one whose characters all are among them. -/
theorem mem_kstar_of_singletons {l : Language Char} (single : ∀ word ∈ l, ∃ c, word = [c])
    {cs : List Char} : cs ∈ l∗ ↔ ∀ c ∈ cs, [c] ∈ l := by
  rw [Language.mem_kstar]
  constructor
  · rintro ⟨words, rfl, inLanguage⟩ c inside
    obtain ⟨word, isWord, isLetter⟩ := List.mem_flatten.mp inside
    obtain ⟨d, rfl⟩ := single word (inLanguage word isWord)
    obtain rfl := List.mem_singleton.mp isLetter
    exact inLanguage _ isWord
  · intro letters
    refine ⟨cs.map ([·]), ?_, by simpa using letters⟩
    rw [← List.flatMap_def, List.flatMap_singleton']

end SqlName

namespace Identifier

theorem isStart_iff {c : Char} :
    isStart c = true ↔ [c] ∈ SqlName.range 'a' 'z' + SqlName.range '_' '_' := by
  rw [Language.mem_add, SqlName.singleton_mem_range, SqlName.singleton_mem_range,
    ← le_antisymm_iff, eq_comm (a := '_'), isStart, Bool.or_eq_true, isLower_iff, beq_iff_eq]

theorem isContinuation_iff {c : Char} : isContinuation c = true ↔
    [c] ∈ SqlName.range 'a' 'z' + SqlName.range '0' '9' + SqlName.range '_' '_' := by
  rw [Language.mem_add, Language.mem_add, SqlName.singleton_mem_range, SqlName.singleton_mem_range,
    SqlName.singleton_mem_range, ← le_antisymm_iff, eq_comm (a := '_'), isContinuation,
    Bool.or_eq_true, Bool.or_eq_true, isLower_iff, isDigit_iff, beq_iff_eq]

theorem isPlain_iff {cs : List Char} : isPlain cs = true ↔ cs ∈ SqlName.bareWords := by
  have single : ∀ word ∈ SqlName.range 'a' 'z' + SqlName.range '0' '9' + SqlName.range '_' '_',
      ∃ c, word = [c] := by
    intro word inside
    rw [Language.mem_add, Language.mem_add] at inside
    rcases inside with (letter | digit) | underscore
    all_goals exact SqlName.exists_singleton_of_mem_range ‹_›
  rw [SqlName.bareWords, Language.mem_mul]
  constructor
  · intro plain
    cases cs with
    | nil => cases plain
    | cons first rest =>
        simp only [isPlain, Bool.and_eq_true, List.all_eq_true] at plain
        refine ⟨[first], isStart_iff.mp plain.1, rest, ?_, rfl⟩
        rw [SqlName.mem_kstar_of_singletons single]
        exact fun c inside => isContinuation_iff.mp (plain.2 c inside)
  · rintro ⟨start, isFirst, rest, others, rfl⟩
    obtain ⟨first, rfl⟩ : ∃ c, start = [c] := by
      rw [Language.mem_add] at isFirst
      exact isFirst.elim SqlName.exists_singleton_of_mem_range
        SqlName.exists_singleton_of_mem_range
    rw [SqlName.mem_kstar_of_singletons single] at others
    simp only [List.singleton_append, isPlain, Bool.and_eq_true, List.all_eq_true]
    exact ⟨isStart_iff.mpr isFirst, fun c inside => isContinuation_iff.mpr (others c inside)⟩

end Identifier

/-! ## Names in quotes -/

theorem Text.length_le_double (quote : Char) (cs : List Char) :
    cs.length ≤ (double quote cs).length := by
  induction cs with
  | nil => exact le_rfl
  | cons c cs ih =>
      rw [double]
      split <;> simp only [List.length_cons] <;> omega

/-- The first quoted text that comes to its end in a scan, and the text behind the quote that ends
it, which is one that no other follows. -/
def Scan.ended? (s : Scan) : List Char → Option (List Char × List Char)
  | [] =>
    match s.place with
    | .behind _ read => some (read, [])
    | _ => none
  | c :: cs =>
    match s.place with
    | .behind quote read =>
      if c = quote.char then (s.step c).bind fun next => next.ended? cs else some (read, c :: cs)
    | _ => (s.step c).bind fun next => next.ended? cs

/-- A quoted text ends behind its doubled characters. -/
theorem Scan.ended?_double (quote : Quote) (read cs : List Char) (brackets : List Bracket)
    (strings : List String) {rest : List Char} (ends : rest.head? ≠ some quote.char) :
    ended? ⟨.inside quote read, brackets, strings⟩
        (Text.double quote.char cs ++ quote.char :: rest) =
      some (read ++ cs, rest) := by
  induction cs generalizing read with
  | nil =>
      cases rest with
      | nil => simp [Text.double, ended?, step]
      | cons c rest =>
          have noQuote : c ≠ quote.char := fun same => ends (congrArg some same)
          simp [Text.double, ended?, step, noQuote]
  | cons c cs ih =>
      by_cases isQuote : c = quote.char
      · subst isQuote
        simp [Text.double, ended?, step, ih]
      · simp [Text.double, ended?, step, isQuote, ih]

namespace SqlName

/-- A name in double quotes at the front of a text, its doubled quotes undone, and the text behind
it. -/
def token? : List Char → Option (String × List Char)
  | '"' :: cs =>
    (Scan.ended? ⟨.inside .double [], [], []⟩ cs).map fun (name, rest) =>
      (String.ofList name, rest)
  | _ => none

/-- Whether a text is a name in double quotes: a scan ends the name at the last character of the
text, whatever follows but a further quote. -/
def IsToken (text name : String) : Prop :=
  ∀ rest : List Char, rest.head? ≠ some '"' → token? (text.toList ++ rest) = some (name, rest)

/-- Reads one part of a name, in quotes or without any. -/
def unquote? (part : List Char) : Option String :=
  match token? part with
  | some (name, []) => some name
  | _ => if '"' ∈ part then none else some (String.ofList part)

/-- The parts of a name between the dots outside of quotes. -/
def unquoted? (text : String) : Option (List String) :=
  (split false text.toList).mapM unquote?

theorem isToken_enclose (name : String) : IsToken (Text.enclose '"' name) name := by
  intro rest ends
  have ended := Scan.ended?_double .double [] name.toList [] [] ends
  rw [Scan.Quote.char, List.nil_append] at ended
  rw [Text.enclose, String.toList_ofList, List.cons_append, List.append_assoc,
    List.singleton_append, token?, ended, Option.map_some]
  exact congrArg (fun text => some (text, rest)) String.ofList_toList

theorem IsToken.unquote? {text name : String} (token : IsToken text name) :
    SqlName.unquote? text.toList = some name := by
  have whole := token [] nofun
  rw [List.append_nil] at whole
  rw [SqlName.unquote?, whole]

theorem unquote?_of_noQuote {part : List Char} (noQuote : '"' ∉ part) :
    unquote? part = some (String.ofList part) := by
  have noToken : token? part = none := by
    unfold token?
    split
    case h_1 cs => exact absurd List.mem_cons_self noQuote
    case h_2 => rfl
  rw [unquote?, noToken]
  exact if_neg noQuote

end SqlName

/-! ## What is written for a name -/

namespace Identifier

/-- A name is written bare if it is a plain word and not reserved, and in quotes otherwise. -/
theorem quote_cases (name : String) :
    ((name.toList ∈ SqlName.bareWords ∧ name ∉ reserved) ∧ quote name = name) ∨
      (¬(name.toList ∈ SqlName.bareWords ∧ name ∉ reserved) ∧
        quote name = Text.enclose '"' name) := by
  have bare : (isPlain name.toList && !reserved.contains name) = true ↔
      name.toList ∈ SqlName.bareWords ∧ name ∉ reserved := by
    simp [isPlain_iff]
  rw [← bare, quote]
  split
  case isTrue plain => exact .inl ⟨plain, rfl⟩
  case isFalse other => exact .inr ⟨other, rfl⟩

theorem enclose_ne (name : String) : Text.enclose '"' name ≠ name := by
  intro same
  have lengths := congrArg (fun text => text.toList.length) same
  have longer := Text.length_le_double '"' name.toList
  simp only [Text.enclose, String.toList_ofList, List.length_cons, List.length_append] at lengths
  omega

theorem quote_eq_self_iff {name : String} :
    quote name = name ↔ name.toList ∈ SqlName.bareWords ∧ name ∉ reserved := by
  rcases quote_cases name with ⟨bare, written⟩ | ⟨other, written⟩
  · exact iff_of_true written bare
  · exact iff_of_false (written ▸ enclose_ne name) other

theorem isToken_quote_of_ne {name : String} (quoted : quote name ≠ name) :
    SqlName.IsToken (quote name) name := by
  rcases quote_cases name with ⟨-, written⟩ | ⟨-, written⟩
  · exact absurd written quoted
  · exact written ▸ SqlName.isToken_enclose name

/-- There are no quotes in a name that is written as it is. -/
theorem noQuote_of_quote_eq_self {name : String} (written : quote name = name) :
    '"' ∉ name.toList := by
  intro inside
  have plain := isPlain_iff.mpr (quote_eq_self_iff.mp written).1
  have kind := isContinuation_of_isPlain plain _ inside
  revert kind
  decide

theorem unquote?_quote (name : String) :
    SqlName.unquote? (quote name).toList = some name := by
  by_cases written : quote name = name
  · rw [written, SqlName.unquote?_of_noQuote (noQuote_of_quote_eq_self written),
      String.ofList_toList]
  · exact (isToken_quote_of_ne written).unquote?

theorem unquote?_quotePart (part : String) :
    SqlName.unquote? (quotePart part).toList = some part := by
  unfold quotePart
  split
  case isTrue isStar =>
    subst isStar
    exact SqlName.unquote?_of_noQuote (by simp)
  case isFalse => exact unquote?_quote part

/-! ## Parts of a qualified name -/

/-- Nothing but the separators is lost between the parts of a text. -/
theorem intercalate_parts (separator : Char) (cs : List Char) :
    [separator].intercalate (parts separator cs) = cs := by
  induction cs with
  | nil => rfl
  | cons c cs ih =>
      obtain ⟨part, rest, split⟩ := List.exists_cons_of_ne_nil (parts_ne_nil separator cs)
      by_cases here : c = separator
      · rw [parts, if_pos here, split, List.intercalate_cons_cons, ← split, ih, here]
        rfl
      · rw [parts_cons_of_ne here, split, List.modifyHead_cons]
        rw [split] at ih
        cases rest with
        | nil => simpa using ih
        | cons next rest => simpa [List.intercalate_cons_cons] using ih

theorem intercalate_dotted (name : String) : ".".intercalate (dotted name) = name := by
  rw [← String.toList_inj, String.toList_intercalate, dotted, List.map_map]
  simpa [Function.comp_def] using intercalate_parts '.' name.toList

theorem unquoted?_quoteQualified (name : String) :
    SqlName.unquoted? (quoteQualified name) = some (dotted name) := by
  rw [SqlName.unquoted?, quoteQualified, split_intercalate (dotted_ne_nil name)]
  induction dotted name with
  | nil => rfl
  | cons part rest ih =>
      rw [List.map_cons, List.mapM_cons, unquote?_quotePart, ih]
      rfl

theorem quote_injective : Function.Injective quote := by
  intro name other same
  have read := unquote?_quote name
  rw [same, unquote?_quote] at read
  exact (Option.some.inj read).symm

theorem quoteQualified_injective : Function.Injective quoteQualified := by
  intro name other same
  have read := unquoted?_quoteQualified name
  rw [same, unquoted?_quoteQualified] at read
  rw [← intercalate_dotted name, ← intercalate_dotted other, Option.some.inj read]

/-- A name is written as it is exactly if it is a plain word that is not reserved, and as a token
that is read as the name otherwise.  A qualified name is split into its parts again.  So different
names are written differently. -/
theorem names_given_back :
    (∀ name, (quote name = name ↔ name.toList ∈ SqlName.bareWords ∧ name ∉ reserved) ∧
      (quote name = name ∨ SqlName.IsToken (quote name) name)) ∧
    (∀ name, ∃ parts, SqlName.unquoted? (quoteQualified name) = some parts ∧
      ".".intercalate parts = name) ∧
    Function.Injective quote ∧ Function.Injective quoteQualified := by
  refine ⟨fun name => ⟨quote_eq_self_iff, ?_⟩, fun name => ?_, quote_injective,
    quoteQualified_injective⟩
  · exact or_iff_not_imp_left.mpr isToken_quote_of_ne
  · exact ⟨_, unquoted?_quoteQualified name, intercalate_dotted name⟩

end Identifier

end SqlCompose
