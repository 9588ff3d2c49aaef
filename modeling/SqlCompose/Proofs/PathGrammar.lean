/-
# The grammar of JSON paths

Which texts are paths, said without the reader: a first step, which is an index in brackets or a
key, and then any number of further steps, of which a key has a dot before it.  A key is in quotes,
or it is bare and then stands for an index if it is a whole number of 64 bits.

The reader takes the longest step it can (`Follows`): of what a grammar describes at the front of a
text it never takes less, and it takes no more unless a key goes on behind it.  A further step
begins with a bracket or a dot, with which no key goes on, so a path is read step by step as it is
made up, and what is left when no step can be read is what no path reaches.  So the reader accepts
exactly the paths, and a text that is no path is refused where the longest path in front of it ends
(`read_path_or_stop`).
-/

import SqlCompose.JsonPath.Reader
import SqlCompose.Proofs.Digits
import Mathlib.Data.List.TakeWhile

namespace SqlCompose.JsonPath

open Decimal (Numeral.Denotes Numeral.readInt64? Numeral.readInt64?_eq_some_iff)

/-! ## The grammar -/

/-- The texts of bare keys. -/
def IsBare (word : List Char) : Prop :=
  word ≠ [] ∧ ∀ c ∈ word, Text.isAlphanumeric c = true ∨ c = '_' ∨ c = '-' ∨ c = '$'

/-- The texts of keys, and the steps for which they stand. -/
inductive IsKey : List Char → PathSegment → Prop where
  | quoted {name : List Char} (noQuote : '"' ∉ name) :
      IsKey ('"' :: (name ++ ['"'])) (.key (String.ofList name))
  | number {word : List Char} {i : Int64} (bare : IsBare word) (denotes : Numeral.Denotes word i) :
      IsKey word (.index i)
  | word {word : List Char} (bare : IsBare word) (noNumber : ∀ i, ¬ Numeral.Denotes word i) :
      IsKey word (.key (String.ofList word))

/-- The texts of indexes in brackets. -/
inductive IsIndex : List Char → PathSegment → Prop where
  | bracketed {word : List Char} {i : Int64} (denotes : Numeral.Denotes word i) :
      IsIndex ('[' :: (word ++ [']'])) (.index i)

/-- The texts of first steps. -/
inductive IsFirst : List Char → PathSegment → Prop where
  | index {cs : List Char} {s : PathSegment} (isIndex : IsIndex cs s) : IsFirst cs s
  | key {cs : List Char} {s : PathSegment} (isKey : IsKey cs s) : IsFirst cs s

/-- The texts of further steps. -/
inductive IsNext : List Char → PathSegment → Prop where
  | index {cs : List Char} {s : PathSegment} (isIndex : IsIndex cs s) : IsNext cs s
  | key {cs : List Char} {s : PathSegment} (isKey : IsKey cs s) : IsNext ('.' :: cs) s

/-- The texts of any number of further steps. -/
inductive AreNext : List Char → List PathSegment → Prop where
  | none : AreNext [] []
  | next {cs ds : List Char} {s : PathSegment} {rest : List PathSegment} (isNext : IsNext cs s)
      (areNext : AreNext ds rest) : AreNext (cs ++ ds) (s :: rest)

/-- The texts of paths. -/
inductive IsPath : List Char → List PathSegment → Prop where
  | steps {cs ds : List Char} {s : PathSegment} {rest : List PathSegment} (isFirst : IsFirst cs s)
      (areNext : AreNext ds rest) : IsPath (cs ++ ds) (s :: rest)

/-- The longest path at the front of a text. -/
structure IsLongestPath (cs front : List Char) : Prop where
  isFront : front <+: cs
  isPath : ∃ segments, IsPath front segments
  longest : ∀ other segments, other <+: cs → IsPath other segments → other.length ≤ front.length

/-- The byte of a text at which no path goes on: the end of the longest path in front of it, or the
start of a text in front of which there is none. -/
def StopsAt (cs : List Char) (position : Nat) : Prop :=
  (∃ front, IsLongestPath cs front ∧ position = Text.byteLength front) ∨
    (∀ front segments, front <+: cs → ¬ IsPath front segments) ∧ position = 0

/-! ## Keys -/

theorem isKeyCharacter_iff {c : Char} :
    isKeyCharacter c = true ↔ Text.isAlphanumeric c = true ∨ c = '_' ∨ c = '-' ∨ c = '$' := by
  simp [isKeyCharacter, or_assoc]

theorem IsBare.isKeyCharacter {word : List Char} (bare : IsBare word) :
    ∀ c ∈ word, isKeyCharacter c = true :=
  fun c inside => isKeyCharacter_iff.mpr (bare.2 c inside)

theorem isBare_iff {word : List Char} :
    IsBare word ↔ word ≠ [] ∧ ∀ c ∈ word, isKeyCharacter c = true := by
  simp only [IsBare, isKeyCharacter_iff]

/-- A bare key is read as the step for which it stands. -/
theorem isKey_iff_of_isBare {word : List Char} (bare : IsBare word) {s : PathSegment} :
    IsKey word s ↔ s = bareSegment word := by
  have noPlus : '+' ∉ word := fun inside =>
    absurd (bare.isKeyCharacter '+' inside) (by decide)
  have denoted (i : Int64) := Numeral.readInt64?_eq_some_iff noPlus (i := i)
  unfold bareSegment
  constructor
  · intro isKey
    cases isKey with
    | quoted => exact absurd (bare.isKeyCharacter '"' List.mem_cons_self) (by decide)
    | number _ denotes => rw [(denoted _).mpr denotes]
    | word _ noNumber =>
        have isWord : Numeral.readInt64? word = none :=
          Option.eq_none_iff_forall_ne_some.mpr fun i found => noNumber i ((denoted i).mp found)
        rw [isWord]
  · rintro rfl
    split
    case h_1 i found => exact .number bare ((denoted i).mp found)
    case h_2 isWord =>
      refine .word bare fun i denotes => ?_
      rw [(denoted i).mpr denotes] at isWord
      cases isWord

/-! ## Readers of steps -/

/-- Whether no key goes on into a text. -/
def Ends (rest : List Char) : Prop :=
  ∀ c ∈ rest.head?, isKeyCharacter c = false

/-- A reader takes off the front of a text what a grammar describes.  It takes no less than what is
described, and exactly that unless a key goes on behind it. -/
structure Follows (read : List Char → Option (PathSegment × List Char))
    (describes : List Char → PathSegment → Prop) : Prop where
  sound : ∀ cs s rest, read cs = some (s, rest) → ∃ front, cs = front ++ rest ∧ describes front s
  complete : ∀ front s rest, describes front s →
    ∃ found left, read (front ++ rest) = some (found, left) ∧ left.length ≤ rest.length ∧
      (Ends rest → found = s ∧ left = rest)

/-- The rest of a text behind a run of characters begins with another character. -/
theorem ends_dropWhile (rest : List Char) : Ends (rest.dropWhile isKeyCharacter) := by
  intro c begins
  have stopped := List.head?_dropWhile_not isKeyCharacter rest
  rw [Option.mem_def.mp begins] at stopped
  simpa using stopped

theorem readKey?_quoted {name : List Char} (noQuote : '"' ∉ name) (rest : List Char) :
    readKey? ('"' :: (name ++ '"' :: rest)) = some (.key (String.ofList name), rest) := by
  have noEnd : ∀ c ∈ name, decide (c ≠ '"') = true := by
    intro c inside
    exact decide_eq_true fun isQuote => noQuote (isQuote ▸ inside)
  have taken : (name ++ '"' :: rest).takeWhile (· ≠ '"') = name := by
    rw [List.takeWhile_append_of_pos noEnd]
    simp
  have left : (name ++ '"' :: rest).dropWhile (· ≠ '"') = '"' :: rest := by
    rw [List.dropWhile_append_of_pos noEnd]
    simp
  rw [readKey?, left, taken]

theorem readKey?_bare {word rest : List Char} (bare : IsBare word) (ends : Ends rest) :
    readKey? (word ++ rest) = some (bareSegment word, rest) := by
  have isKeyCharacter := bare.isKeyCharacter
  have taken : (word ++ rest).takeWhile JsonPath.isKeyCharacter = word := by
    rw [List.takeWhile_append_of_pos isKeyCharacter]
    cases rest with
    | nil => simp
    | cons c rest => simp [ends c rfl]
  have left : (word ++ rest).dropWhile JsonPath.isKeyCharacter = rest := by
    rw [List.dropWhile_append_of_pos isKeyCharacter]
    cases rest with
    | nil => simp
    | cons c rest => simp [ends c rfl]
  unfold readKey?
  split
  case h_1 cs begins =>
    obtain ⟨c, word, rfl⟩ := List.exists_cons_of_ne_nil bare.1
    cases begins
    exact absurd (isKeyCharacter '"' List.mem_cons_self) (by decide)
  case h_2 =>
    dsimp only
    rw [taken, left, if_neg bare.1]

theorem follows_readKey? : Follows readKey? IsKey where
  sound := by
    intro cs s rest found
    unfold readKey? at found
    split at found
    case h_1 cs =>
      split at found
      case h_1 quote behind left =>
        cases found
        have stopped := List.head?_dropWhile_not (· ≠ '"') cs
        rw [left] at stopped
        have isQuote : quote = '"' := by simpa using stopped
        refine ⟨'"' :: (cs.takeWhile (· ≠ '"') ++ ['"']), ?_, .quoted ?_⟩
        · conv_lhs => rw [← List.takeWhile_append_dropWhile (p := (· ≠ '"')) (l := cs), left]
          simp [isQuote]
        · intro inside
          simpa using List.mem_takeWhile_imp inside
      case h_2 => cases found
    case h_2 =>
      dsimp only at found
      split at found
      case isTrue => cases found
      case isFalse filled =>
        cases found
        have bare : IsBare (cs.takeWhile isKeyCharacter) :=
          isBare_iff.mpr ⟨filled, fun c inside => List.mem_takeWhile_imp inside⟩
        exact ⟨_, List.takeWhile_append_dropWhile.symm, (isKey_iff_of_isBare bare).mpr rfl⟩
  complete := by
    intro front s rest isKey
    -- A bare key takes with it whatever goes on as a key.
    have goesOn (bare : IsBare front) (stands : s = bareSegment front) :
        ∃ found left, readKey? (front ++ rest) = some (found, left) ∧
          left.length ≤ rest.length ∧ (Ends rest → found = s ∧ left = rest) := by
      have whole : IsBare (front ++ rest.takeWhile isKeyCharacter) := by
        refine isBare_iff.mpr ⟨List.append_ne_nil_of_left_ne_nil bare.1 _, ?_⟩
        rw [List.forall_mem_append]
        exact ⟨bare.isKeyCharacter, fun c inside => List.mem_takeWhile_imp inside⟩
      have found := readKey?_bare whole (ends_dropWhile rest)
      rw [List.append_assoc, List.takeWhile_append_dropWhile] at found
      refine ⟨_, _, found, (List.dropWhile_sublist _).length_le, fun ends => ?_⟩
      have same := Option.some.inj (found.symm.trans (readKey?_bare bare ends))
      obtain ⟨isSegment, isRest⟩ := Prod.mk.inj same
      exact ⟨isSegment.trans stands.symm, isRest⟩
    cases isKey with
    | quoted noQuote =>
        refine ⟨_, rest, ?_, le_rfl, fun _ => ⟨rfl, rfl⟩⟩
        simpa using readKey?_quoted noQuote rest
    | number bare denotes =>
        exact goesOn bare ((isKey_iff_of_isBare bare).mp (.number bare denotes))
    | word bare noNumber => exact goesOn bare ((isKey_iff_of_isBare bare).mp (.word bare noNumber))

/-- Digits have no sign in front of them. -/
theorem splitSign_digits {digits : List Char} (filled : digits ≠ [])
    (isDigit : ∀ c ∈ digits, c.isDigit = true) (rest : List Char) :
    splitSign (digits ++ rest) = ([], digits ++ rest) := by
  obtain ⟨c, digits, rfl⟩ := List.exists_cons_of_ne_nil filled
  unfold splitSign
  split
  case h_1 begins =>
    cases begins
    exact absurd (isDigit '-' List.mem_cons_self) (by decide)
  case h_2 => rfl

theorem readIndex?_bracketed {word : List Char} {i : Int64} (denotes : Numeral.Denotes word i)
    (rest : List Char) : readIndex? ('[' :: (word ++ ']' :: rest)) = some (.index i, rest) := by
  have read := (Numeral.readInt64?_eq_some_iff denotes.plus_notMem).mpr denotes
  have ends : ∀ c ∈ (']' :: rest).head?, c.isDigit = false := by simp
  have run {digits : List Char} (isDigit : ∀ c ∈ digits, c.isDigit = true) :=
    Decimal.Numeral.takeWhile_digits_append isDigit ends
  cases denotes with
  | plain filled isDigit value =>
      simp only [readIndex?, splitSign_digits filled isDigit, run isDigit, if_neg filled,
        List.nil_append, read, Option.map_some]
  | minus filled isDigit value =>
      simp only [readIndex?, List.cons_append, splitSign, run isDigit, if_neg filled,
        List.nil_append, read, Option.map_some]

theorem splitSign_append (cs : List Char) : (splitSign cs).1 ++ (splitSign cs).2 = cs := by
  unfold splitSign
  split <;> rfl

theorem plus_notMem_splitSign (cs : List Char) : '+' ∉ (splitSign cs).1 := by
  unfold splitSign
  split <;> simp

theorem follows_readIndex? : Follows readIndex? IsIndex where
  sound := by
    intro cs s rest found
    unfold readIndex? at found
    split at found
    case h_2 => cases found
    case h_1 cs =>
      have whole := splitSign_append cs
      have noPlus := plus_notMem_splitSign cs
      generalize splitSign cs = parts at found whole noPlus
      obtain ⟨sign, unsigned⟩ := parts
      dsimp only at found whole noPlus
      split at found
      case h_2 => cases found
      case h_1 behind left =>
        split at found
        case isTrue => cases found
        case isFalse filled =>
          obtain ⟨i, read, isFound⟩ := Option.map_eq_some_iff.mp found
          cases isFound
          have noPlus : '+' ∉ sign ++ unsigned.takeWhile Char.isDigit := by
            rw [List.mem_append, not_or]
            exact ⟨noPlus, fun inside => absurd (List.mem_takeWhile_imp inside) (by decide)⟩
          have denotes := (Numeral.readInt64?_eq_some_iff noPlus).mp read
          refine ⟨_, ?_, .bracketed denotes⟩
          rw [← whole]
          conv_lhs =>
            rw [← List.takeWhile_append_dropWhile (p := Char.isDigit) (l := unsigned), left]
          simp
  complete := by
    intro front s rest isIndex
    cases isIndex with
    | bracketed denotes =>
        refine ⟨_, rest, ?_, le_rfl, fun _ => ⟨rfl, rfl⟩⟩
        simpa using readIndex?_bracketed denotes rest

/-- A key does not begin as an index does. -/
theorem readIndex?_of_isKey {front : List Char} {s : PathSegment} (isKey : IsKey front s)
    (rest : List Char) : readIndex? (front ++ rest) = none := by
  have ofBare (bare : IsBare front) : readIndex? (front ++ rest) = none := by
    unfold readIndex?
    split
    case h_1 begins =>
      obtain ⟨c, word, rfl⟩ := List.exists_cons_of_ne_nil bare.1
      cases begins
      exact absurd (bare.isKeyCharacter '[' List.mem_cons_self) (by decide)
    case h_2 => rfl
  cases isKey with
  | quoted noQuote => rfl
  | number bare denotes => exact ofBare bare
  | word bare noNumber => exact ofBare bare

theorem follows_readFirst? : Follows readFirst? IsFirst where
  sound := by
    intro cs s rest found
    rcases Option.or_eq_some_iff.mp found with isIndex | ⟨-, isKey⟩
    · obtain ⟨front, whole, isIndex⟩ := follows_readIndex?.sound cs s rest isIndex
      exact ⟨front, whole, .index isIndex⟩
    · obtain ⟨front, whole, isKey⟩ := follows_readKey?.sound cs s rest isKey
      exact ⟨front, whole, .key isKey⟩
  complete := by
    intro front s rest isFirst
    cases isFirst with
    | index isIndex =>
        obtain ⟨found, left, read, exact⟩ := follows_readIndex?.complete front s rest isIndex
        refine ⟨found, left, ?_, exact⟩
        rw [readFirst?, read, Option.some_or]
    | key isKey =>
        obtain ⟨found, left, read, exact⟩ := follows_readKey?.complete front s rest isKey
        refine ⟨found, left, ?_, exact⟩
        rw [readFirst?, readIndex?_of_isKey isKey, Option.none_or, read]

theorem follows_readNext? : Follows readNext? IsNext where
  sound := by
    intro cs s rest found
    unfold readNext? at found
    split at found
    case h_1 cs =>
      obtain ⟨front, rfl, isKey⟩ := follows_readKey?.sound cs s rest found
      exact ⟨'.' :: front, rfl, .key isKey⟩
    case h_2 =>
      obtain ⟨front, whole, isIndex⟩ := follows_readIndex?.sound cs s rest found
      exact ⟨front, whole, .index isIndex⟩
  complete := by
    intro front s rest isNext
    cases isNext with
    | index isIndex =>
        have unread : readNext? (front ++ rest) = readIndex? (front ++ rest) := by
          cases isIndex
          rfl
        rw [unread]
        exact follows_readIndex?.complete front s rest isIndex
    | key isKey => exact follows_readKey?.complete _ s rest isKey

/-! ## Readers of paths -/

theorem IsNext.ends {front : List Char} {s : PathSegment} (isNext : IsNext front s)
    (rest : List Char) : Ends (front ++ rest) := by
  cases isNext with
  | index isIndex =>
      cases isIndex
      rintro c ⟨⟩
      decide
  | key isKey =>
      rintro c ⟨⟩
      decide

/-- A further step takes at least one character. -/
theorem IsNext.ne_nil {front : List Char} {s : PathSegment} (isNext : IsNext front s) :
    front ≠ [] := by
  cases isNext with
  | index isIndex =>
      cases isIndex
      exact List.cons_ne_nil _ _
  | key isKey => exact List.cons_ne_nil _ _

theorem readMany_sound (fuel : Nat) (cs : List Char) :
    ∃ front, cs = front ++ (readMany fuel cs).2 ∧ AreNext front (readMany fuel cs).1 := by
  induction fuel generalizing cs with
  | zero => exact ⟨[], rfl, .none⟩
  | succ fuel ih =>
      rw [readMany]
      split
      case h_1 s rest found =>
        obtain ⟨front, rfl, isNext⟩ := follows_readNext?.sound cs s rest found
        obtain ⟨behind, whole, areNext⟩ := ih rest
        refine ⟨front ++ behind, ?_, .next isNext areNext⟩
        rw [List.append_assoc, ← whole]
      case h_2 => exact ⟨[], rfl, .none⟩

theorem length_readMany_le (fuel : Nat) (cs : List Char) :
    (readMany fuel cs).2.length ≤ cs.length := by
  obtain ⟨front, whole, -⟩ := readMany_sound fuel cs
  have := congrArg List.length whole
  rw [List.length_append] at this
  omega

theorem readMany_of_none {rest : List Char} (stopped : readNext? rest = none) (fuel : Nat) :
    readMany fuel rest = ([], rest) := by
  cases fuel with
  | zero => rfl
  | succ fuel => rw [readMany, stopped]

/-- Of further steps at the front of a text no less than these are read, and exactly these if
neither a key nor a further step goes on behind them. -/
theorem readMany_complete {front : List Char} {segments : List PathSegment}
    (areNext : AreNext front segments) (rest : List Char) {fuel : Nat}
    (enough : (front ++ rest).length ≤ fuel) :
    (readMany fuel (front ++ rest)).2.length ≤ rest.length ∧
      (Ends rest → readNext? rest = none → readMany fuel (front ++ rest) = (segments, rest)) := by
  induction areNext generalizing fuel with
  | none => exact ⟨length_readMany_le fuel rest, fun _ stopped => readMany_of_none stopped fuel⟩
  | @next cs ds s more isNext areNext ih =>
      have filled := List.length_pos_of_ne_nil isNext.ne_nil
      rw [List.append_assoc, List.length_append] at enough
      obtain ⟨fuel, rfl⟩ : ∃ n, fuel = n + 1 := ⟨fuel - 1, by omega⟩
      obtain ⟨found, left, read, noMore, exact⟩ :=
        follows_readNext?.complete cs s (ds ++ rest) isNext
      obtain ⟨noLess, rightBehind⟩ := @ih fuel (by omega)
      rw [List.append_assoc, readMany, read]
      dsimp only
      -- A further step behind this one ends it; the last one may go on as a key.
      cases areNext with
      | none =>
          refine ⟨(length_readMany_le fuel left).trans noMore, fun ends stopped => ?_⟩
          obtain ⟨rfl, rfl⟩ := exact ends
          rw [readMany_of_none stopped]
      | @next cs' ds' s' more' isNext' areNext' =>
          rw [List.append_assoc] at exact
          obtain ⟨rfl, rfl⟩ := exact (isNext'.ends _)
          rw [List.append_assoc] at noLess rightBehind
          refine ⟨noLess, fun ends stopped => ?_⟩
          rw [rightBehind ends stopped]

/-- A path is read off the front of a text as it is made up: no less than the path is read, and
exactly its steps if nothing follows. -/
theorem readFirst?_of_isPath {front : List Char} {segments : List PathSegment}
    (isPath : IsPath front segments) (rest : List Char) :
    ∃ first behind, readFirst? (front ++ rest) = some (first, behind) ∧
      (readMany behind.length behind).2.length ≤ rest.length ∧
      (rest = [] → first :: (readMany behind.length behind).1 = segments) := by
  cases isPath with
  | @steps cs ds s more isFirst areNext =>
      obtain ⟨found, left, read, noMore, exact⟩ :=
        follows_readFirst?.complete cs s (ds ++ rest) isFirst
      refine ⟨found, left, by rw [List.append_assoc, read], ?_⟩
      obtain ⟨noLess, rightBehind⟩ := readMany_complete areNext rest le_rfl
      have nothing : Ends [] := by rintro c ⟨⟩
      cases areNext with
      | none =>
          refine ⟨(length_readMany_le _ left).trans noMore, ?_⟩
          rintro rfl
          obtain ⟨rfl, rfl⟩ := exact nothing
          rfl
      | next isNext areNext =>
          rw [List.append_assoc] at exact noLess rightBehind
          obtain ⟨rfl, rfl⟩ := exact (isNext.ends _)
          refine ⟨noLess, ?_⟩
          rintro rfl
          rw [rightBehind nothing rfl]

theorem readFirst?_eq_none_iff {cs : List Char} :
    readFirst? cs = none ↔ ∀ front segments, front <+: cs → ¬ IsPath front segments := by
  constructor
  · rintro stopped front segments ⟨rest, rfl⟩ isPath
    obtain ⟨first, behind, read, -⟩ := readFirst?_of_isPath isPath rest
    rw [stopped] at read
    cases read
  · intro noPath
    rw [Option.eq_none_iff_forall_ne_some]
    rintro ⟨first, behind⟩ found
    obtain ⟨front, rfl, isFirst⟩ := follows_readFirst?.sound cs first behind found
    exact noPath (front ++ []) [first] ⟨behind, by simp⟩ (.steps isFirst .none)

/-- What is read in front of a text is the longest path there. -/
theorem isLongestPath_of_readFirst? {cs behind : List Char} {first : PathSegment}
    (found : readFirst? cs = some (first, behind)) :
    ∃ front, cs = front ++ (readMany behind.length behind).2 ∧
      IsPath front (first :: (readMany behind.length behind).1) ∧ IsLongestPath cs front := by
  obtain ⟨front, rfl, isFirst⟩ := follows_readFirst?.sound cs first behind found
  obtain ⟨more, whole, areNext⟩ := readMany_sound behind.length behind
  have isPath := IsPath.steps isFirst areNext
  have parts : front ++ behind = (front ++ more) ++ (readMany behind.length behind).2 := by
    rw [List.append_assoc, ← whole]
  refine ⟨front ++ more, parts, isPath, ⟨_, parts.symm⟩, ⟨_, isPath⟩, ?_⟩
  rintro other segments ⟨rest, otherParts⟩ isOther
  obtain ⟨first', behind', read, noLess, -⟩ := readFirst?_of_isPath isOther rest
  rw [otherParts, found] at read
  cases read
  have sameLength := congrArg List.length (otherParts.trans parts)
  simp only [List.length_append] at sameLength ⊢
  omega

/-- A text is read as a path exactly if it is one, blanks around it aside. -/
theorem read_eq_ok_iff {text : String} {path : JsonPath} :
    read text = .ok path ↔ IsPath (Text.trim text.toList) path.segments := by
  unfold read
  generalize Text.trim text.toList = cs
  dsimp only
  constructor
  · intro accepted
    split at accepted
    case h_1 => cases accepted
    case h_2 first behind found =>
      obtain ⟨front, whole, isPath, -⟩ := isLongestPath_of_readFirst? found
      split at accepted
      case isFalse => cases accepted
      case isTrue nothing =>
        cases accepted
        rwa [whole, nothing, List.append_nil]
  · intro isPath
    obtain ⟨first, behind, found, noLess, steps⟩ := readFirst?_of_isPath isPath []
    rw [List.append_nil] at found
    have nothing := List.length_eq_zero_iff.mp (Nat.le_zero.mp noLess)
    rw [found]
    dsimp only
    rw [if_pos nothing, steps rfl]

/-- A text that is refused is refused at the byte at which no path goes on. -/
theorem stopsAt_of_read_eq_error {text : String} {e : Error} (refused : read text = .error e) :
    ∃ position fault, e = .jsonPath position fault ∧
      StopsAt (Text.trim text.toList) position := by
  unfold read at refused
  generalize Text.trim text.toList = cs at refused ⊢
  dsimp only at refused
  split at refused
  case h_1 stopped =>
    cases refused
    exact ⟨0, _, rfl, .inr ⟨readFirst?_eq_none_iff.mp stopped, rfl⟩⟩
  case h_2 first behind found =>
    obtain ⟨front, whole, -, isLongest⟩ := isLongestPath_of_readFirst? found
    split at refused
    case isTrue => cases refused
    case isFalse =>
      cases refused
      refine ⟨_, _, rfl, .inl ⟨front, isLongest, ?_⟩⟩
      have bytes := Text.byteLength_append front (readMany behind.length behind).2
      rw [← whole] at bytes
      omega

/-- A text is a path exactly if it is read as one, and then as the only one that it is.  Any other
text is refused at the byte at which no path goes on; blanks around a text do not count. -/
theorem read_path_or_stop (text : String) :
    (∀ path : JsonPath, read text = .ok path ↔ IsPath (Text.trim text.toList) path.segments) ∧
      ((∃! segments, IsPath (Text.trim text.toList) segments) ∨
        ∃ position fault, read text = .error (.jsonPath position fault) ∧
          StopsAt (Text.trim text.toList) position) := by
  refine ⟨fun _ => read_eq_ok_iff, ?_⟩
  cases result : read text with
  | ok path =>
      refine .inl ⟨path.segments, read_eq_ok_iff.mp result, fun other isOther => ?_⟩
      have sameText : read text = .ok ⟨other⟩ := read_eq_ok_iff.mpr isOther
      rw [result] at sameText
      cases sameText
      rfl
  | error e =>
      obtain ⟨position, fault, rfl, stops⟩ := stopsAt_of_read_eq_error result
      exact .inr ⟨position, fault, rfl, stops⟩

/-- The brackets hold no number, so the path ends before them: behind five bytes, though it has four
characters. -/
theorem letter_in_brackets_stops_path :
    read " café[x]" = .error (.jsonPath 5 (.trailing "[x]")) ∧
      (∀ segments, ¬IsPath (Text.trim " café[x]".toList) segments) ∧
      StopsAt (Text.trim " café[x]".toList) 5 := by
  have refused : read " café[x]" = .error (.jsonPath 5 (.trailing "[x]")) := by decide +kernel
  have noPath : ∀ segments, ¬IsPath (Text.trim " café[x]".toList) segments := by
    intro segments isPath
    have accepted := ((read_path_or_stop " café[x]").1 ⟨segments⟩).mpr isPath
    rw [refused] at accepted
    cases accepted
  refine ⟨refused, noPath, ?_⟩
  rcases (read_path_or_stop " café[x]").2 with ⟨segments, isPath, -⟩ | ⟨position, fault, same, stops⟩
  · exact absurd isPath (noPath segments)
  · rw [refused] at same
    cases same
    exact stops

/-- A dot without a key, and a number beyond 64 bits: the path ends in front of what is no step. -/
example : read " a.0[-7]. " = .error (.jsonPath 7 (.trailing ".")) := by decide

end SqlCompose.JsonPath
