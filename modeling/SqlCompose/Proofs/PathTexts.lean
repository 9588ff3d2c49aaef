/-
# Texts of paths read again

A path is printed with its keys as they are, while a key is read bare only if it is a run of key
characters and no number.  A key of any other kind can be read, in quotes, and these are not
printed.  So the text of a path that was read gives the path again exactly if all its keys are such
as can stand bare (`read_text_iff`); with any other key the text is refused, or read as another
path.
-/

import SqlCompose.Proofs.CalendarTexts
import SqlCompose.Proofs.PathGrammar

namespace SqlCompose

open Decimal (Numeral.Denotes Numeral.text Numeral.ofInt Numeral.ofNat Numeral.denotes_ofInt
  Numeral.isDigit_ofNat)

namespace Text

theorem inRanges_iff {ranges : List (Nat × Nat)} {n : Nat} :
    inRanges ranges n = true ↔ ∃ range ∈ ranges, range.1 ≤ n ∧ n ≤ range.2 := by
  simp [inRanges]

theorem isAlphanum_of_ascii : ∀ n < 0x80, inRanges blankRanges n = true →
    (Char.ofNat n).isAlphanum = false := by
  decide

theorem blankRanges_apart :
    ∀ blank ∈ blankRanges, ∀ letter ∈ alphanumericRanges,
      blank.2 < letter.1 ∨ letter.2 < blank.1 := by
  decide +kernel

/-- A letter or a digit is no blank. -/
theorem isBlank_of_isAlphanumeric {c : Char} (isLetter : isAlphanumeric c = true) :
    isBlank c = false := by
  by_contra isBlank
  rw [Bool.not_eq_false] at isBlank
  unfold isAlphanumeric at isLetter
  split at isLetter
  case isTrue ascii =>
    have noLetter := isAlphanum_of_ascii c.toNat ascii isBlank
    rw [Char.ofNat_toNat, isLetter] at noLetter
    cases noLetter
  case isFalse =>
    obtain ⟨blank, inBlanks, low, high⟩ := inRanges_iff.mp isBlank
    obtain ⟨letter, inLetters, low', high'⟩ := inRanges_iff.mp isLetter
    have := blankRanges_apart blank inBlanks letter inLetters
    omega

/-- Trimming takes characters away and adds none. -/
theorem trim_sublist (cs : List Char) : (trim cs).Sublist cs := by
  have fromEnd (ds : List Char) : (trimEnd ds).Sublist ds := by
    have shorter := (List.dropWhile_sublist (l := ds.reverse) isBlank).reverse
    rwa [List.reverse_reverse] at shorter
  exact (fromEnd _).trans (List.dropWhile_sublist _)

end Text

/-- Whether a step can be read from its text: a key, if it can stand bare. -/
def PathSegment.IsPlain : PathSegment → Prop
  | .key name => JsonPath.IsBare name.toList ∧ ∀ i, ¬ Numeral.Denotes name.toList i
  | .index _ => True

namespace JsonPath

/-! ## The text of a path -/

/-- The text of a path is that of its first step and, behind it, those of the further ones. -/
theorem toList_text (first : PathSegment) (rest : List PathSegment) :
    (JsonPath.text ⟨first :: rest⟩).toList =
      first.text.toList ++ rest.flatMap fun s => s.tailText.toList := by
  have behind (front : String) :
      (rest.foldl (fun text segment => text ++ segment.tailText) front).toList =
        front.toList ++ rest.flatMap fun s => s.tailText.toList := by
    induction rest generalizing front with
    | nil => simp
    | cons s rest ih => simp [ih]
  exact behind first.text

theorem toList_index (i : Int64) :
    (PathSegment.index i).text.toList = '[' :: (Numeral.ofInt i.toInt ++ [']']) := by
  simp [PathSegment.text, Numeral.text]

theorem isIndex_text (i : Int64) : IsIndex (PathSegment.index i).text.toList (.index i) := by
  rw [toList_index]
  exact .bracketed (Numeral.denotes_ofInt i)

theorem isKey_of_isPlain {name : String} (plain : (PathSegment.key name).IsPlain) :
    IsKey name.toList (.key name) := by
  have isKey := IsKey.word plain.1 plain.2
  rwa [String.ofList_toList] at isKey

theorem isFirst_text {s : PathSegment} (plain : s.IsPlain) : IsFirst s.text.toList s := by
  cases s with
  | key name => exact .key (isKey_of_isPlain plain)
  | index i => exact .index (isIndex_text i)

theorem isNext_tailText {s : PathSegment} (plain : s.IsPlain) : IsNext s.tailText.toList s := by
  cases s with
  | key name =>
      have text : (PathSegment.key name).tailText.toList = '.' :: name.toList := by
        simp [PathSegment.tailText]
      rw [text]
      exact .key (isKey_of_isPlain plain)
  | index i => exact .index (isIndex_text i)

theorem areNext_tailTexts {rest : List PathSegment} (plain : ∀ s ∈ rest, s.IsPlain) :
    AreNext (rest.flatMap fun s => s.tailText.toList) rest := by
  induction rest with
  | nil => exact .none
  | cons s rest ih =>
      rw [List.forall_mem_cons] at plain
      rw [List.flatMap_cons]
      exact .next (isNext_tailText plain.1) (ih plain.2)

/-- The text of a path of plain steps is that path. -/
theorem isPath_text {first : PathSegment} {rest : List PathSegment}
    (plain : ∀ s ∈ first :: rest, s.IsPlain) :
    IsPath (JsonPath.text ⟨first :: rest⟩).toList (first :: rest) := by
  rw [List.forall_mem_cons] at plain
  rw [toList_text]
  exact .steps (isFirst_text plain.1) (areNext_tailTexts plain.2)

/-- What holds of the characters of numerals, of the marks between steps and of those of all keys
holds of all characters of the text of a path. -/
theorem forall_mem_text {P : Char → Prop} (digit : ∀ c, c.isDigit = true → P c)
    (minus : P '-') (dot : P '.') (opening : P '[') (closing : P ']') {path : JsonPath}
    (key : ∀ name, .key name ∈ path.segments → ∀ c ∈ name.toList, P c) :
    ∀ c ∈ path.text.toList, P c := by
  have index (i : Int64) : ∀ c ∈ (PathSegment.index i).text.toList, P c := by
    have digits : ∀ c ∈ Numeral.ofNat i.toInt.natAbs, P c :=
      fun c inside => digit c (Numeral.isDigit_ofNat _ c inside)
    have numeral : ∀ c ∈ Numeral.ofInt i.toInt, P c := by
      unfold Numeral.ofInt
      split
      · exact List.forall_mem_cons.mpr ⟨minus, digits⟩
      · exact digits
    rw [toList_index, List.forall_mem_cons, List.forall_mem_append, List.forall_mem_singleton]
    exact ⟨opening, numeral, closing⟩
  obtain ⟨segments⟩ := path
  cases segments with
  | nil =>
      rintro c inside
      cases inside
  | cons first rest =>
      simp only [toList_text, List.forall_mem_append, List.forall_mem_flatMap]
      constructor
      · cases first with
        | key name => exact key name List.mem_cons_self
        | index i => exact index i
      · intro s inRest
        cases s with
        | key name =>
            have ofName := key name (List.mem_cons_of_mem _ inRest)
            simpa [PathSegment.tailText] using ⟨dot, ofName⟩
        | index i => exact index i

/-! ## The steps of a text -/

/-- What holds of indexes and of what the keys within a text stand for holds of all steps of a
path. -/
theorem AreNext.forall_mem {P : PathSegment → Prop} {cs : List Char} {segments : List PathSegment}
    (areNext : AreNext cs segments) (index : ∀ i, P (.index i))
    (key : ∀ word s, word ⊆ cs → IsKey word s → P s) : ∀ s ∈ segments, P s := by
  induction areNext with
  | none => simp
  | @next front ds s rest isNext areNext ih =>
      rw [List.forall_mem_cons]
      constructor
      · cases isNext with
        | index isIndex =>
            cases isIndex
            exact index _
        | key isKey =>
            refine key _ s (fun c inside => ?_) isKey
            exact List.mem_append_left _ (List.mem_cons_of_mem _ inside)
      · exact ih fun word s within => key word s fun c inside =>
          List.mem_append_right _ (within inside)

theorem IsPath.forall_mem {P : PathSegment → Prop} {cs : List Char} {segments : List PathSegment}
    (isPath : IsPath cs segments) (index : ∀ i, P (.index i))
    (key : ∀ word s, word ⊆ cs → IsKey word s → P s) : ∀ s ∈ segments, P s := by
  cases isPath with
  | @steps front ds s rest isFirst areNext =>
      rw [List.forall_mem_cons]
      constructor
      · cases isFirst with
        | index isIndex =>
            cases isIndex
            exact index _
        | key isKey => exact key _ s (List.subset_append_left _ _) isKey
      · exact areNext.forall_mem index fun word s within =>
          key word s fun c inside => List.mem_append_right _ (within inside)

/-- Without quotes all keys are bare. -/
theorem isPlain_of_isPath {cs : List Char} {segments : List PathSegment}
    (isPath : IsPath cs segments) (noQuote : '"' ∉ cs) : ∀ s ∈ segments, s.IsPlain := by
  refine isPath.forall_mem (fun _ => trivial) fun word s within isKey => ?_
  cases isKey with
  | quoted => exact absurd (within List.mem_cons_self) noQuote
  | number => trivial
  | word bare noNumber => simpa [PathSegment.IsPlain] using ⟨bare, noNumber⟩

/-- No key of a text has a quote in it, not even a quoted one. -/
theorem quote_notMem_of_isPath {cs : List Char} {segments : List PathSegment}
    (isPath : IsPath cs segments) {name : String} (inside : .key name ∈ segments) :
    '"' ∉ name.toList := by
  have all : ∀ s ∈ segments, ∀ name, s = .key name → '"' ∉ name.toList := by
    refine isPath.forall_mem (fun _ _ isKey => ?_) fun word s _ isKey name isName => ?_
    · cases isKey
    · cases isKey with
      | quoted noQuote =>
          obtain rfl := PathSegment.key.inj isName
          simpa using noQuote
      | number => cases isName
      | word bare _ =>
          obtain rfl := PathSegment.key.inj isName
          rw [String.toList_ofList]
          exact fun inside => absurd (bare.isKeyCharacter _ inside) (by decide)
  exact all _ inside name rfl

/-! ## Texts read again -/

theorem noBlank_text {path : JsonPath} (plain : ∀ s ∈ path.segments, s.IsPlain) :
    ∀ c ∈ path.text.toList, Text.isBlank c = false := by
  refine forall_mem_text (fun _ => Text.isBlank_of_isDigit) (by decide) (by decide) (by decide)
    (by decide) fun name inside c isHere => ?_
  rcases (plain _ inside).1.2 c isHere with isLetter | rfl | rfl | rfl
  · exact Text.isBlank_of_isAlphanumeric isLetter
  all_goals decide

/-- The text of a path that was read gives the path again exactly if each of its keys can stand
bare: it is a run of letters, digits, underscores, hyphens and dollar signs, and no whole number of
64 bits. -/
theorem read_text_iff {text : String} {path : JsonPath} (accepted : read text = .ok path) :
    read path.text = .ok path ↔ ∀ s ∈ path.segments, s.IsPlain := by
  have isPath := read_eq_ok_iff.mp accepted
  rw [read_eq_ok_iff]
  constructor
  · intro again
    have noQuote : ∀ c ∈ path.text.toList, c ≠ '"' := by
      refine forall_mem_text ?_ (by decide) (by decide) (by decide) (by decide)
        fun name inside c isHere isQuote => ?_
      · rintro c isDigit rfl
        cases isDigit
      · exact quote_notMem_of_isPath isPath inside (isQuote ▸ isHere)
    refine isPlain_of_isPath again fun inside => ?_
    exact noQuote _ ((Text.trim_sublist _).subset inside) rfl
  · intro plain
    rw [Text.trim_of_noBlank (noBlank_text plain)]
    obtain ⟨segments⟩ := path
    generalize Text.trim text.toList = cs at isPath
    cases isPath
    exact isPath_text plain

/-- A path of bare keys and indexes, one of them behind a dot, is read and so is its text. -/
theorem plain_path_is_read_again :
    let path := ((((root.key "orders").index 2).key "line-no").index (-1)).key "qty"
    read " orders[2].line-no.-1.qty" = .ok path ∧ path.text = "orders[2].line-no[-1].qty" ∧
      read path.text = .ok path ∧ ∀ s ∈ path.segments, s.IsPlain := by
  intro path
  have accepted : read " orders[2].line-no.-1.qty" = .ok path := by decide
  have again : read path.text = .ok path := by decide
  exact ⟨accepted, by decide, again, (read_text_iff accepted).mp again⟩

/-- A key that was read in quotes is printed without them: with a blank in it its text is refused
where the blank stands, and of digits only it comes back as an index. -/
theorem quoted_key_is_printed_bare :
    let spaced := ((root.key "orders").index 2).key "line no"
    let numeric := root.key "0"
    read "orders[2].\"line no\"" = .ok spaced ∧ spaced.text = "orders[2].line no" ∧
      read spaced.text = .error (.jsonPath 14 (.trailing " no")) ∧
      read "\"0\"" = .ok numeric ∧ numeric.text = "0" ∧ read numeric.text = .ok (root.index 0) := by
  decide

end JsonPath

end SqlCompose
