/-
# Texts cut into tokens

A text of SQL is cut into tokens as a server cuts it, each as long as it can be: words, numbers,
quoted texts with their doubled quotes undone, and marks (`SqlToken.scan?`).  Only what constants
are made of is read, and any other text is refused.

Behind a constant the text ends, or a comma or a bracket follows.  So a constant is cut in the same
way wherever it stands (`SqlToken.Scans`), and the texts of lists are cut item by item
(`SqlToken.scans_list`).  The text of a finite binary64 number is a numeral whose decimal is rounded
to the number (`SqlToken.exists_isNumeral_magnitudeText`).
-/

import SqlCompose.Proofs.ArrowChains
import SqlCompose.Proofs.ShortestDecimals

namespace SqlCompose

open Decimal (Binary64 FloatStyle)
open Decimal.Numeral

/-! ## Tokens -/

/-- A token of SQL, as far as constants have them. -/
inductive SqlToken where
  /-- A key word or a name in lower case. -/
  | word (text : String)
  /-- A coefficient and the number of its digits behind the point. -/
  | number (coefficient places : Nat)
  /-- A quoted text. -/
  | string (content : String)
  | minus
  /-- The mark before the name of a type. -/
  | cast
  | comma
  | opening
  | closing
  deriving DecidableEq

namespace SqlToken

/-- A character that may begin a word. -/
def isWordStart (c : Char) : Bool :=
  c.isAlpha || c == '_'

/-- A character that may continue a word. -/
def isWordPart (c : Char) : Bool :=
  c.isAlphanum || c == '_' || c == '$'

/-- The digits behind a point, if there is one, and the text behind them. -/
def readFraction : List Char → List Char × List Char
  | '.' :: cs => (cs.takeWhile Char.isDigit, cs.dropWhile Char.isDigit)
  | cs => ([], cs)

/-- A number at the front of a text, and the text behind it, which must be apart from it. -/
def readNumber? (cs : List Char) : Option (SqlToken × List Char) :=
  let whole := cs.takeWhile Char.isDigit
  let (fraction, rest) := readFraction (cs.dropWhile Char.isDigit)
  if rest.head?.any fun c => isWordPart c || c == '.' then none
  else some (.number (toNat (whole ++ fraction)) fraction.length, rest)

/-- A quoted text or a mark at the front of a text, and the text behind it.  Two minus signs would
begin a comment. -/
def readMark? : List Char → Option (SqlToken × List Char)
  | '\'' :: cs =>
    (Text.readQuoted? cs).map fun (content, rest) => (.string (String.ofList content), rest)
  | ':' :: ':' :: cs => some (.cast, cs)
  | '-' :: cs => if cs.head? = some '-' then none else some (.minus, cs)
  | ',' :: cs => some (.comma, cs)
  | '[' :: cs => some (.opening, cs)
  | ']' :: cs => some (.closing, cs)
  | _ => none

/-- A token at the front of a text, and the text behind it. -/
def read? : List Char → Option (SqlToken × List Char)
  | [] => none
  | c :: cs =>
    if c.isDigit then readNumber? (c :: cs)
    else if isWordStart c then
      let word := ((c :: cs).takeWhile isWordPart).map Char.toLower
      some (.word (String.ofList word), (c :: cs).dropWhile isWordPart)
    else readMark? (c :: cs)

theorem length_dropWhile_lt {p : Char → Bool} {c : Char} (begins : p c = true) (cs : List Char) :
    ((c :: cs).dropWhile p).length < (c :: cs).length := by
  have shorter := (List.dropWhile_sublist (l := cs) p).length_le
  rw [List.dropWhile_cons_of_pos begins]
  exact Nat.lt_succ_of_le shorter

theorem length_readFraction_le (cs : List Char) : (readFraction cs).2.length ≤ cs.length := by
  unfold readFraction
  split
  case h_1 cs =>
    have shorter := (List.dropWhile_sublist (l := cs) Char.isDigit).length_le
    exact shorter.trans (Nat.le_succ _)
  case h_2 => exact le_rfl

theorem length_readMark?_lt {cs rest : List Char} {t : SqlToken}
    (found : readMark? cs = some (t, rest)) : rest.length < cs.length := by
  unfold readMark? at found
  split at found
  case h_1 cs =>
    obtain ⟨⟨content, rest⟩, isText, same⟩ := Option.map_eq_some_iff.mp found
    obtain ⟨-, rfl⟩ := Prod.mk.inj same
    exact (Text.length_readQuoted?_lt isText).trans (Nat.lt_succ_self _)
  case h_2 =>
    obtain ⟨-, rfl⟩ := Prod.mk.inj (Option.some.inj found)
    exact Nat.lt_add_of_pos_right Nat.two_pos
  case h_3 =>
    obtain ⟨-, found⟩ := Option.ite_none_left_eq_some.mp found
    obtain ⟨-, rfl⟩ := Prod.mk.inj (Option.some.inj found)
    exact Nat.lt_succ_self _
  case h_4 | h_5 | h_6 =>
    obtain ⟨-, rfl⟩ := Prod.mk.inj (Option.some.inj found)
    exact Nat.lt_succ_self _
  case h_7 => cases found

theorem isWordPart_of_isWordStart {c : Char} (begins : isWordStart c = true) :
    isWordPart c = true := by
  simp only [isWordStart, isWordPart, Char.isAlphanum, Bool.or_eq_true] at begins ⊢
  tauto

theorem length_read?_lt {cs rest : List Char} {t : SqlToken} (found : read? cs = some (t, rest)) :
    rest.length < cs.length := by
  unfold read? at found
  split at found
  case h_1 => cases found
  case h_2 c cs =>
    split at found
    case isTrue isDigit =>
      have digits := length_dropWhile_lt isDigit cs
      have fraction := length_readFraction_le ((c :: cs).dropWhile Char.isDigit)
      obtain ⟨-, found⟩ := Option.ite_none_left_eq_some.mp found
      obtain ⟨-, rfl⟩ := Prod.mk.inj (Option.some.inj found)
      exact fraction.trans_lt digits
    case isFalse =>
      split at found
      case isTrue begins =>
        obtain ⟨-, rfl⟩ := Prod.mk.inj (Option.some.inj found)
        exact length_dropWhile_lt (isWordPart_of_isWordStart begins) cs
      case isFalse => exact length_readMark?_lt found

/-- The tokens of a text, between which there may be blanks. -/
def scan? (cs : List Char) : Option (List SqlToken) :=
  match cs with
  | [] => some []
  | ' ' :: rest => scan? rest
  | c :: cs =>
    match _ : read? (c :: cs) with
    | some (t, rest) => (scan? rest).map (t :: ·)
    | none => none
termination_by cs.length
decreasing_by
  · simp
  · exact length_read?_lt ‹_›

/-- A text that begins with a token is cut behind it. -/
theorem scan?_of_read? {cs rest : List Char} {t : SqlToken} (found : read? cs = some (t, rest)) :
    scan? cs = (scan? rest).map (t :: ·) := by
  rw [scan?.eq_def]
  split
  case h_1 | h_2 => cases found
  case h_3 =>
    split
    case h_1 _ _ other =>
      obtain ⟨rfl, rfl⟩ := Prod.mk.inj (Option.some.inj (found.symm.trans other))
      rfl
    case h_2 other => cases found.symm.trans other

theorem scan?_blank (rest : List Char) : scan? (' ' :: rest) = scan? rest := by
  rw [scan?]

/-! ## Texts in front of the end of an item -/

/-- Behind a constant the text, or the item of a list, ends. -/
def Ends (rest : List Char) : Prop :=
  ∀ c ∈ rest.head?, c = ',' ∨ c = ']'

theorem Ends.not {rest : List Char} {p : Char → Bool} (ends : Ends rest) (comma : p ',' = false)
    (closing : p ']' = false) : ∀ c ∈ rest.head?, p c = false := by
  intro c begins
  rcases ends c begins with rfl | rfl
  · exact comma
  · exact closing

/-- A text is cut into some tokens, whatever stands behind the end of the item. -/
def Scans (cs : List Char) (ts : List SqlToken) : Prop :=
  ∀ rest, Ends rest → scan? (cs ++ rest) = (scan? rest).map (ts ++ ·)

theorem scans_of_read? {cs : List Char} {t : SqlToken}
    (found : ∀ rest, Ends rest → read? (cs ++ rest) = some (t, rest)) : Scans cs [t] :=
  fun rest ends => scan?_of_read? (found rest ends)

/-- A text with a token in front of it, which ends where the text begins. -/
theorem Scans.cons {cs : List Char} {t : SqlToken} {ts : List SqlToken} (f : List Char)
    (scans : Scans cs ts) (found : ∀ rest, read? (f ++ (cs ++ rest)) = some (t, cs ++ rest)) :
    Scans (f ++ cs) (t :: ts) := by
  intro rest ends
  rw [List.append_assoc, scan?_of_read? (found rest), scans rest ends, Option.map_map]
  rfl

theorem Scans.blank {cs : List Char} {ts : List SqlToken} (scans : Scans cs ts) :
    Scans (' ' :: cs) ts := by
  intro rest ends
  rw [List.cons_append, scan?_blank, scans rest ends]

/-- A word is read up to a character that cannot continue it. -/
theorem read?_word {c : Char} {word rest : List Char} (noDigit : c.isDigit = false)
    (begins : isWordStart c = true) (parts : (c :: word).all isWordPart = true)
    (ends : ∀ d ∈ rest.head?, isWordPart d = false) :
    read? (c :: word ++ rest) =
      some (.word (String.ofList ((c :: word).map Char.toLower)), rest) := by
  obtain ⟨run, left⟩ := takeWhile_run_append (List.all_eq_true.mp parts) ends
  rw [List.cons_append] at run left ⊢
  rw [read?, noDigit, if_neg Bool.false_ne_true, if_pos begins]
  dsimp only
  rw [run, left]

/-- A character that begins no number and no word begins a mark. -/
theorem read?_mark {c : Char} (noDigit : c.isDigit = false) (noStart : isWordStart c = false)
    (cs : List Char) : read? (c :: cs) = readMark? (c :: cs) := by
  rw [read?, noDigit, noStart, if_neg Bool.false_ne_true, if_neg Bool.false_ne_true]

theorem scans_word {c : Char} {w : List Char} (noDigit : c.isDigit = false)
    (begins : isWordStart c = true) (parts : (c :: w).all isWordPart = true) :
    Scans (c :: w) [.word (String.ofList ((c :: w).map Char.toLower))] :=
  scans_of_read? fun _ ends => read?_word noDigit begins parts (ends.not rfl rfl)

/-- A quoted text is read with its doubled quotes undone. -/
theorem read?_quoteLiteral (s : String) {rest : List Char} (ends : ∀ c ∈ rest.head?, c ≠ '\'') :
    read? ((Text.quoteLiteral s).toList ++ rest) = some (.string s, rest) := by
  rw [Text.quoteLiteral, Text.enclose, String.toList_ofList, List.cons_append, List.append_assoc,
    read?_mark (by decide) (by decide)]
  simp [readMark?, Text.readQuoted?_double _ ends]

theorem scans_quoteLiteral (s : String) : Scans (Text.quoteLiteral s).toList [.string s] := by
  refine scans_of_read? fun rest ends => read?_quoteLiteral s ?_
  intro c begins
  rcases ends c begins with rfl | rfl <;> decide

/-- A quoted text behind the name of its type. -/
theorem scans_typeName {c : Char} {type : List Char} (s : String) (noDigit : c.isDigit = false)
    (begins : isWordStart c = true) (parts : (c :: type).all isWordPart = true) :
    Scans (c :: type ++ ' ' :: (Text.quoteLiteral s).toList)
      [.word (String.ofList ((c :: type).map Char.toLower)), .string s] := by
  refine (scans_quoteLiteral s).blank.cons (c :: type) fun rest => ?_
  refine read?_word noDigit begins parts ?_
  rintro _ ⟨⟩
  rfl

/-- A quoted text before a cast to its type. -/
theorem scans_cast {c : Char} {type : List Char} (s : String) (noDigit : c.isDigit = false)
    (begins : isWordStart c = true) (parts : (c :: type).all isWordPart = true) :
    Scans ((Text.quoteLiteral s).toList ++ ([':', ':'] ++ c :: type))
      [.string s, .cast, .word (String.ofList ((c :: type).map Char.toLower))] := by
  have cast := (scans_word noDigit begins parts).cons (t := .cast) [':', ':'] fun _ => rfl
  refine cast.cons _ fun rest => read?_quoteLiteral s ?_
  rintro _ ⟨⟩
  decide

/-! ## Numbers -/

/-- A row of digits with a point in it, unless nothing is behind the point, and what it stands for:
a whole number, and how many of its digits are behind the point. -/
inductive IsNumeral : List Char → Nat → Nat → Prop where
  | whole {digits : List Char} (filled : digits ≠ [])
      (isDigit : ∀ c ∈ digits, c.isDigit = true) : IsNumeral digits (toNat digits) 0
  | pointed {whole fraction : List Char} (filled : whole ≠ [])
      (isDigit : ∀ c ∈ whole ++ fraction, c.isDigit = true) :
      IsNumeral (whole ++ '.' :: fraction) (toNat (whole ++ fraction)) fraction.length

/-- A numeral begins with a digit. -/
theorem IsNumeral.exists_cons {cs : List Char} {coefficient places : Nat}
    (numeral : IsNumeral cs coefficient places) : ∃ c ds, cs = c :: ds ∧ c.isDigit = true := by
  cases numeral with
  | whole filled isDigit =>
      obtain ⟨c, ds, rfl⟩ := List.exists_cons_of_ne_nil filled
      exact ⟨c, ds, rfl, isDigit c List.mem_cons_self⟩
  | @pointed whole fraction filled isDigit =>
      obtain ⟨c, ds, rfl⟩ := List.exists_cons_of_ne_nil filled
      exact ⟨c, ds ++ '.' :: fraction, rfl, isDigit c List.mem_cons_self⟩

theorem readNumber?_numeral {cs rest : List Char} {coefficient places : Nat}
    (numeral : IsNumeral cs coefficient places) (ends : Ends rest) :
    readNumber? (cs ++ rest) = some (.number coefficient places, rest) := by
  have apart : (rest.head?.any fun c => isWordPart c || c == '.') = false := by
    rw [Option.any_eq_false]
    intro c begins
    rw [ends.not (p := fun c => isWordPart c || c == '.') rfl rfl c begins]
  cases numeral with
  | whole filled isDigit =>
      obtain ⟨run, left⟩ := takeWhile_run_append isDigit (ends.not rfl rfl)
      have noPoint : readFraction rest = ([], rest) := by
        unfold readFraction
        split
        case h_1 => rcases ends _ rfl with comma | closing <;> contradiction
        case h_2 => rfl
      rw [readNumber?, run, left, noPoint]
      dsimp only
      rw [apart, if_neg Bool.false_ne_true, List.append_nil]
      rfl
  | @pointed whole fraction filled isDigit =>
      have isPoint : ∀ c ∈ ('.' :: (fraction ++ rest)).head?, c.isDigit = false := by
        rintro _ ⟨⟩
        rfl
      have inWhole := fun c inside => isDigit c (List.mem_append_left _ inside)
      have inFraction := fun c inside => isDigit c (List.mem_append_right _ inside)
      obtain ⟨run, left⟩ := takeWhile_run_append inWhole isPoint
      obtain ⟨runFraction, leftFraction⟩ := takeWhile_run_append inFraction (ends.not rfl rfl)
      rw [List.append_assoc, List.cons_append, readNumber?, run, left, readFraction]
      dsimp only
      rw [runFraction, leftFraction, apart, if_neg Bool.false_ne_true]

theorem scans_numeral {cs : List Char} {coefficient places : Nat}
    (numeral : IsNumeral cs coefficient places) : Scans cs [.number coefficient places] := by
  refine scans_of_read? fun rest ends => ?_
  obtain ⟨c, ds, rfl, isDigit⟩ := numeral.exists_cons
  rw [List.cons_append, read?, if_pos isDigit]
  exact readNumber?_numeral numeral ends

/-- A sign before a numeral is a token of its own. -/
theorem scans_minus {cs : List Char} {coefficient places : Nat}
    (numeral : IsNumeral cs coefficient places) :
    Scans ('-' :: cs) [.minus, .number coefficient places] := by
  refine (scans_numeral numeral).cons ['-'] fun rest => ?_
  obtain ⟨c, ds, rfl, isDigit⟩ := numeral.exists_cons
  have noMinus : c ≠ '-' := by
    rintro rfl
    contradiction
  rw [List.singleton_append, read?_mark (by decide) (by decide)]
  simp [readMark?, noMinus]

/-- The digits of a whole number are a numeral of it. -/
theorem isNumeral_ofNat (n : Nat) : IsNumeral (ofNat n) n 0 := by
  have numeral := IsNumeral.whole Nat.toDigits_ne_nil (isDigit_ofNat n)
  rwa [← ofNat, toNat_ofNat] at numeral

/-- A text is a numeral of a number if the numeral stands for it. -/
def IsNumeralOf (cs : List Char) (q : ℚ) : Prop :=
  ∃ coefficient places, IsNumeral cs coefficient places ∧ (coefficient : ℚ) / 10 ^ places = q

section Positional

variable {digits : List Char} {e : Int}

theorem shifted_value {coefficient places n : Nat}
    (same : (coefficient : ℚ) = n * 10 ^ (e + places)) :
    (coefficient : ℚ) / 10 ^ places = n * 10 ^ e := by
  rw [same, zpow_add₀ (by norm_num), zpow_natCast, ← mul_assoc,
    mul_div_cancel_right₀ _ (by positivity)]

/-- Each zero behind the digits stands for a factor of ten. -/
theorem toNat_append_zeros (digits : List Char) (k : Nat) :
    toNat (digits ++ List.replicate k '0') = toNat digits * 10 ^ k := by
  simp only [Decimal.Numeral.toNat, Nat.ofDigitChars_append, Nat.ofDigitChars_replicate_zero,
    Nat.mul_comm]

/-- All digits are behind the point, with zeros between them. -/
theorem isNumeralOf_zeros_append (isDigit : ∀ c ∈ digits, c.isDigit = true) {k : Nat}
    (exponent : e + (k + digits.length : Nat) = 0) :
    IsNumeralOf ('0' :: '.' :: (List.replicate k '0' ++ digits)) (toNat digits * 10 ^ e) := by
  have filled : ['0'] ≠ [] := List.cons_ne_nil _ _
  refine ⟨_, _, .pointed filled ?_, shifted_value ?_⟩
  · rw [List.singleton_append, List.forall_mem_cons, List.forall_mem_append]
    exact ⟨rfl, isDigit_zeros _, isDigit⟩
  · rw [List.singleton_append, ← List.cons_append, ← List.replicate_succ, toNat_zeros_append,
      List.length_append, List.length_replicate, exponent, zpow_zero, mul_one]

/-- All digits are before the point, with zeros between them. -/
theorem isNumeralOf_append_zeros (filled : digits ≠ [])
    (isDigit : ∀ c ∈ digits, c.isDigit = true) {k : Nat} (exponent : e = k) :
    IsNumeralOf (digits ++ List.replicate k '0') (toNat digits * 10 ^ e) := by
  refine ⟨_, _, .whole (List.append_ne_nil_of_left_ne_nil filled _) ?_, shifted_value ?_⟩
  · rw [List.forall_mem_append]
    exact ⟨isDigit, isDigit_zeros _⟩
  · rw [toNat_append_zeros, exponent, Nat.cast_zero, add_zero, zpow_natCast]
    push_cast
    rfl

/-- The point is among the digits. -/
theorem isNumeralOf_take_drop (isDigit : ∀ c ∈ digits, c.isDigit = true) {width : Nat}
    (filled : digits.take width ≠ []) (exponent : e + ((digits.drop width).length : Nat) = 0) :
    IsNumeralOf (digits.take width ++ '.' :: digits.drop width) (toNat digits * 10 ^ e) := by
  refine ⟨_, _, .pointed filled ?_, shifted_value ?_⟩
  · rw [List.take_append_drop]
    exact isDigit
  · rw [List.take_append_drop, exponent, zpow_zero, mul_one]

/-- Digits without an exponent are a numeral of what they stand for, shifted to the exponent of the
first. -/
theorem isNumeralOf_positionalText (filled : digits ≠ [])
    (isDigit : ∀ c ∈ digits, c.isDigit = true) (e : Int) :
    IsNumeralOf (FloatStyle.plain.positionalText digits (e + digits.length - 1))
      (toNat digits * 10 ^ e) := by
  have length := List.length_pos_iff.mpr filled
  unfold FloatStyle.positionalText
  split
  case isTrue small => exact isNumeralOf_zeros_append isDigit (by omega)
  case isFalse large =>
    obtain ⟨width, isWidth⟩ : ∃ width : Nat, (e + digits.length - 1).toNat + 1 = width := ⟨_, rfl⟩
    dsimp only
    rw [isWidth]
    split
    case h_1 short =>
      have few : digits.length ≤ width := List.drop_eq_nil_iff.mp short
      rw [List.take_of_length_le few]
      exact isNumeralOf_append_zeros filled isDigit (by omega)
    case h_2 long =>
      have many : width < digits.length := by
        rw [← not_le, ← List.drop_eq_nil_iff]
        exact long
      have noZeros : width - digits.length = 0 := by omega
      rw [noZeros, List.replicate_zero, List.append_nil]
      refine isNumeralOf_take_drop isDigit ?_ ?_
      · rw [Ne, List.take_eq_nil_iff, not_or]
        exact ⟨by omega, filled⟩
      · rw [List.length_drop]
        omega

end Positional

/-- The digits of a finite number are rounded to it. -/
theorem exists_isNumeral_magnitudeText {x : Binary64} (finite : x.isFinite = true) :
    ∃ coefficient places, IsNumeral (FloatStyle.plain.magnitudeText x) coefficient places ∧
      Binary64.ofRatio x.negative coefficient (10 ^ places) = x := by
  unfold FloatStyle.magnitudeText
  split
  case isTrue isZero =>
    have zero : x = Binary64.zero x.negative := by
      obtain ⟨exponent, fraction⟩ := of_decide_eq_true isZero
      rw [Binary64.zero, ← exponent, ← fraction]
    have numeral : IsNumeral ['0'] 0 0 := isNumeral_ofNat 0
    exact ⟨0, 0, numeral, zero.symm⟩
  case isFalse notZero =>
    have nonzero : x.isZero = false := Bool.eq_false_iff.mpr notZero
    have rounded := Decimal.Shortest.isRoundedFrom_decimal FloatStyle.plain.tie nonzero
    have positive := rounded.pos nonzero
    generalize Decimal.Shortest.decimal FloatStyle.plain.tie x = d at rounded positive ⊢
    have filled : ofNat d.coefficient ≠ [] := Nat.toDigits_ne_nil
    obtain ⟨coefficient, places, numeral, value⟩ :=
      isNumeralOf_positionalText filled (isDigit_ofNat _) d.exponent
    rw [toNat_ofNat, ← Decimal.Scientific.value] at value
    rw [← value] at rounded positive
    refine ⟨coefficient, places, numeral, ?_⟩
    apply Binary64.ofRatio_of_isRoundedFrom finite _ (by positivity)
    · exact_mod_cast rounded
    · rw [Nat.pos_iff_ne_zero]
      rintro rfl
      rw [Nat.cast_zero, zero_div] at positive
      exact positive.false

/-! ## Lists -/

section Lists

variable {α : Type} {text : α → List Char} {tokens : α → List SqlToken} {items : List α}

/-- Between two items there is a comma. -/
theorem Scans.separated {cs ds : List Char} {ts us : List SqlToken} (first : Scans cs ts)
    (second : Scans ds us) : Scans (cs ++ [',', ' '] ++ ds) (ts ++ [comma] ++ us) := by
  intro rest ends
  have separated := second.blank.cons (t := .comma) [','] (fun _ => rfl) rest ends
  have isEnd : Ends ([','] ++ ' ' :: ds ++ rest) := by
    rintro _ ⟨⟩
    exact .inl rfl
  have whole := first _ isEnd
  rw [separated, Option.map_map] at whole
  simpa [Function.comp_def] using whole

/-- A list ends with its closing bracket. -/
theorem Scans.closed {cs : List Char} {ts : List SqlToken} (scans : Scans cs ts) :
    Scans (cs ++ [']']) (ts ++ [closing]) := by
  intro rest ends
  have isEnd : Ends (']' :: rest) := by
    rintro _ ⟨⟩
    exact .inr rfl
  have found : read? (']' :: rest) = some (closing, rest) := rfl
  have whole := scans _ isEnd
  rw [scan?_of_read? found, Option.map_map] at whole
  simpa [Function.comp_def] using whole

theorem scans_intercalate (scans : ∀ a ∈ items, Scans (text a) (tokens a)) :
    Scans ([',', ' '].intercalate (items.map text)) ([comma].intercalate (items.map tokens)) := by
  induction items with
  | nil =>
      intro rest ends
      simp
  | cons first items ih =>
      have scansFirst := scans first List.mem_cons_self
      have scansRest := ih fun a inside => scans a (List.mem_cons_of_mem _ inside)
      cases items with
      | nil => simpa using scansFirst
      | cons second items =>
          have joined := scansFirst.separated scansRest
          rwa [List.map_cons, List.map_cons, ← List.intercalate_cons_cons, ← List.map_cons,
            ← List.intercalate_cons_cons, ← List.map_cons] at joined

/-- The tokens of a list, given those of its items. -/
def list (items : List (List SqlToken)) : List SqlToken :=
  .word "array" :: .opening :: ([comma].intercalate items ++ [.closing])

theorem scans_list (scans : ∀ a ∈ items, Scans (text a) (tokens a)) :
    Scans
      (['A', 'R', 'R', 'A', 'Y'] ++ (['['] ++ ([',', ' '].intercalate (items.map text) ++ [']'])))
      (list (items.map tokens)) := by
  have opened := (scans_intercalate scans).closed.cons (t := .opening) ['['] fun _ => rfl
  refine opened.cons ['A', 'R', 'R', 'A', 'Y'] fun rest => ?_
  refine read?_word rfl rfl rfl ?_
  rintro _ ⟨⟩
  rfl

end Lists

end SqlToken

end SqlCompose
