/-
# Dates and timestamps are read back

The text of a date is read as the date (`Date.read_text`) and that of a timestamp as the timestamp
(`Timestamp.read_text`), in all years of the calendar and to the last nanosecond.  A text is
read item by item, so each item of the format is matched with its part of the text: a year with
its sign or its four digits, every other number with two digits, and the fraction of a second with
three, six or nine.  What follows a number does not matter, except that the digits of a
signed year have to end somewhere.  Where a format also allows blanks, a text without any is read
as if it did not (`readItems_filter`).
-/

import SqlCompose.Calendar.Reader
import SqlCompose.Proofs.Digits
import SqlCompose.Proofs.Refusals
import Mathlib.Data.List.TakeWhile

namespace SqlCompose

open Decimal
open Decimal.Numeral (padded isDigit_padded toNat_padded length_padded padded_ne_nil)

/-! ## Texts without blanks -/

namespace Text

theorem isBlank_of_isDigit {c : Char} (digit : c.isDigit = true) : isBlank c = false := by
  simp only [Char.isDigit, Bool.and_eq_true, decide_eq_true_eq, ge_iff_le] at digit
  have low : 48 ≤ c.toNat := digit.1
  have high : c.toNat ≤ 57 := digit.2
  simp [isBlank, inRanges, blankRanges]
  omega

theorem trimStart_of_noBlank {cs : List Char} (noBlank : ∀ c ∈ cs, isBlank c = false) :
    trimStart cs = cs := by
  cases cs with
  | nil => rfl
  | cons c rest => simp [trimStart, noBlank c List.mem_cons_self]

/-- A text without blanks has none around it. -/
theorem trim_of_noBlank {cs : List Char} (noBlank : ∀ c ∈ cs, isBlank c = false) :
    trim cs = cs := by
  have reversed : ∀ c ∈ cs.reverse, isBlank c = false :=
    fun c inside => noBlank c (List.mem_reverse.mp inside)
  have untouched : cs.reverse.dropWhile isBlank = cs.reverse := trimStart_of_noBlank reversed
  rw [trim, trimStart_of_noBlank noBlank, trimEnd, untouched, List.reverse_reverse]

end Text

namespace Calendar

/-! ## Reading numbers -/

/-- The digits of a number of a fixed width are read whatever follows. -/
theorem readDigits_some {width : Nat} {digits : List Char} (rest : List Char)
    (isDigit : ∀ c ∈ digits, c.isDigit = true) (long : digits.length ≤ width)
    (filled : digits ≠ []) (ended : digits.length = width ∨ rest = [])
    (small : Numeral.toNat digits ≤ 999999999) :
    readDigits (some width) (digits ++ rest) = .ok (digits, rest) := by
  have taken : ((digits ++ rest).take width).takeWhile Char.isDigit = digits := by
    rcases ended with exact | rfl
    · rw [← exact, List.take_left, List.takeWhile_eq_self_iff]
      exact isDigit
    · rw [List.append_nil, List.take_of_length_le long, List.takeWhile_eq_self_iff]
      exact isDigit
  have fits : ¬ Int64.maxValue.toInt < (Numeral.toNat digits : Int) := by
    have : Int64.maxValue.toInt = 9223372036854775807 := rfl
    omega
  simp only [readDigits, taken, if_neg filled, if_neg fits, List.drop_left]

/-- All digits of a number of any width are read. -/
theorem readDigits_none {digits rest : List Char} (isDigit : ∀ c ∈ digits, c.isDigit = true)
    (filled : digits ≠ []) (ended : ∀ c ∈ rest.head?, c.isDigit = false)
    (small : Numeral.toNat digits ≤ 999999999) :
    readDigits none (digits ++ rest) = .ok (digits, rest) := by
  have taken : (digits ++ rest).takeWhile Char.isDigit = digits := by
    rw [List.takeWhile_append_of_pos isDigit]
    cases rest with
    | nil => simp
    | cons c rest => simp [ended c rfl]
  have fits : ¬ Int64.maxValue.toInt < (Numeral.toNat digits : Int) := by
    have : Int64.maxValue.toInt = 9223372036854775807 := rfl
    omega
  simp only [readDigits, taken, if_neg filled, if_neg fits, List.drop_left]

/-- A digit of a number is neither a blank nor a sign. -/
theorem trimStart_digits {digits : List Char} (rest : List Char)
    (isDigit : ∀ c ∈ digits, c.isDigit = true) (filled : digits ≠ []) :
    Text.trimStart (digits ++ rest) = digits ++ rest := by
  cases digits with
  | nil => exact absurd rfl filled
  | cons c ds => simp [Text.trimStart, Text.isBlank_of_isDigit (isDigit c List.mem_cons_self)]

/-- A number that is no year is read from its two digits. -/
theorem readNumber_padded {part : Part} {n : Nat} (noYear : part ≠ .year) (small : n < 100)
    (rest : List Char) : readNumber part (padded 2 n ++ rest) = .ok ((n : Int), rest) := by
  have isDigit := isDigit_padded 2 n
  have length := length_padded (by decide : 0 < 2) small
  have read := readDigits_some rest isDigit length.le (padded_ne_nil 2 n) (.inl length)
    (by rw [toNat_padded]; omega)
  unfold readNumber
  rw [trimStart_digits rest isDigit (padded_ne_nil 2 n)]
  split
  case h_1 | h_2 | h_3 => exact absurd rfl noYear
  case h_4 =>
    refine bind_eq_ok_iff.mpr ⟨_, read, ?_⟩
    simp [toNat_padded, pure, Except.pure]

theorem readNumber_minus {digits rest : List Char}
    (read : readDigits none (digits ++ rest) = .ok (digits, rest)) :
    readNumber .year ('-' :: digits ++ rest) = .ok (-(Numeral.toNat digits : Int), rest) := by
  have sign : Text.trimStart ('-' :: digits ++ rest) = '-' :: digits ++ rest := rfl
  unfold readNumber
  rw [sign]
  exact bind_eq_ok_iff.mpr ⟨_, read, rfl⟩

theorem readNumber_plus {digits rest : List Char}
    (read : readDigits none (digits ++ rest) = .ok (digits, rest)) :
    readNumber .year ('+' :: digits ++ rest) = .ok ((Numeral.toNat digits : Int), rest) := by
  have sign : Text.trimStart ('+' :: digits ++ rest) = '+' :: digits ++ rest := rfl
  unfold readNumber
  rw [sign]
  exact bind_eq_ok_iff.mpr ⟨_, read, rfl⟩

/-- A year without a sign begins with a digit, which is no sign. -/
theorem readNumber_unsigned {digits rest : List Char}
    (isDigit : ∀ c ∈ digits, c.isDigit = true) (filled : digits ≠ [])
    (read : readDigits (some 4) (digits ++ rest) = .ok (digits, rest)) :
    readNumber .year (digits ++ rest) = .ok ((Numeral.toNat digits : Int), rest) := by
  have noSign {c : Char} {cs : List Char} (begins : digits ++ rest = c :: cs) :
      c.isDigit = true := by
    rw [List.append_eq_cons_iff] at begins
    rcases begins with ⟨empty, -⟩ | ⟨ds, isCons, -⟩
    · exact absurd empty filled
    · exact isDigit c (by simp [isCons])
  unfold readNumber
  rw [trimStart_digits rest isDigit filled]
  split
  case h_1 begins => cases noSign begins
  case h_2 begins => cases noSign begins
  case h_3 => exact bind_eq_ok_iff.mpr ⟨_, read, rfl⟩
  case h_4 noYear _ _ => exact absurd rfl noYear

/-- A year is read with its sign if it has one, and from four digits if it has none. -/
theorem readNumber_yearText {year : Int} (bounds : -262143 ≤ year ∧ year ≤ 262142)
    {rest : List Char} (ended : ∀ c ∈ rest.head?, c.isDigit = false) :
    readNumber .year (Date.yearText year ++ rest) = .ok (year, rest) := by
  have isDigit := isDigit_padded 4 year.natAbs
  have filled := padded_ne_nil 4 year.natAbs
  have isYear := toNat_padded 4 year.natAbs
  have small : Numeral.toNat (padded 4 year.natAbs) ≤ 999999999 := by omega
  have signed := readDigits_none isDigit filled ended small
  by_cases negative : year < 0
  · have text : Date.yearText year = '-' :: padded 4 year.natAbs := if_pos negative
    have isNegative : -(Numeral.toNat (padded 4 year.natAbs) : Int) = year := by omega
    rw [text, readNumber_minus signed, isNegative]
  have isPositive : (Numeral.toNat (padded 4 year.natAbs) : Int) = year := by omega
  by_cases large : 9999 < year
  · have text : Date.yearText year = '+' :: padded 4 year.natAbs := by
      simp [Date.yearText, negative, large]
    rw [text, readNumber_plus signed, isPositive]
  · have text : Date.yearText year = padded 4 year.natAbs := by
      simp [Date.yearText, negative, large]
    have short : year.natAbs < 10000 := by omega
    have length := length_padded (by decide : 0 < 4) short
    have read := readDigits_some rest isDigit length.le filled (.inl length) small
    rw [text, readNumber_unsigned isDigit filled read, isPositive]

/-! ## Reading items -/

theorem readItems_cons {parts parts' : Parts} {item : Item} {items : List Item}
    {cs rest : List Char} (read : readItem parts item cs = .ok (parts', rest)) :
    readItems parts (item :: items) cs = readItems parts' items rest := by
  simp only [readItems, read]
  rfl

theorem readItem_number {parts parts' : Parts} {part : Part} {n : Int} {cs rest : List Char}
    (read : readNumber part cs = .ok (n, rest)) (set : parts.set part n = .ok parts') :
    readItem parts (.number part) cs = .ok (parts', rest) :=
  bind_eq_ok_iff.mpr ⟨_, read, bind_eq_ok_iff.mpr ⟨_, set, rfl⟩⟩

/-- A number of two digits that its part may have is stored. -/
theorem readItem_padded {parts parts' : Parts} {part : Part} {n : Nat} (noYear : part ≠ .year)
    (small : n < 100) (set : parts.set part n = .ok parts') (rest : List Char) :
    readItem parts (.number part) (padded 2 n ++ rest) = .ok (parts', rest) :=
  readItem_number (readNumber_padded noYear small rest) set

theorem readItem_character (parts : Parts) (c : Char) (rest : List Char) :
    readItem parts (.character c) (c :: rest) = .ok (parts, rest) :=
  if_pos rfl

theorem month_mem (d : Date) : 1 ≤ d.month ∧ d.month ≤ 12 := by
  have filled := d.day_mem
  unfold daysInMonth at filled
  split at filled <;> omega

theorem day_le (d : Date) : d.day ≤ 31 := by
  have within := d.day_mem.2
  unfold daysInMonth at within
  split at within
  case h_1 => split at within <;> omega
  all_goals omega

/-- The date at the front of a text is read from it. -/
theorem readItems_characters (d : Date) (items : List Item) (rest : List Char) :
    readItems {} (dateFormat ++ items) (d.characters ++ rest) =
      readItems ⟨d.year, d.month, d.day, 0, 0, 0, 0⟩ items rest := by
  have months := month_mem d
  have days := day_le d
  have years := d.year_mem
  have firstDay := d.day_mem.1
  have text : d.characters ++ rest = Date.yearText d.year ++ ('-' :: (padded 2 d.month ++
      ('-' :: (padded 2 d.day ++ rest)))) := by
    simp [Date.characters]
  have year (behind : List Char) (ended : ∀ c ∈ behind.head?, c.isDigit = false) :
      readItem {} (.number .year) (Date.yearText d.year ++ behind) =
        .ok (⟨d.year, 0, 0, 0, 0, 0, 0⟩, behind) := by
    apply readItem_number (readNumber_yearText years ended)
    have : Int32.minValue.toInt = -2147483648 ∧ Int32.maxValue.toInt = 2147483647 := ⟨rfl, rfl⟩
    exact if_pos (by omega)
  have month : Parts.set ⟨d.year, 0, 0, 0, 0, 0, 0⟩ .month d.month =
      .ok ⟨d.year, d.month, 0, 0, 0, 0, 0⟩ := if_pos (by omega)
  have day : Parts.set ⟨d.year, d.month, 0, 0, 0, 0, 0⟩ .day d.day =
      .ok ⟨d.year, d.month, d.day, 0, 0, 0, 0⟩ := if_pos (by omega)
  simp only [text, dateFormat, List.cons_append, List.nil_append]
  rw [readItems_cons (year _ (by simp)), readItems_cons (readItem_character _ _ _),
    readItems_cons (readItem_padded (by decide) (by omega) month _),
    readItems_cons (readItem_character _ _ _),
    readItems_cons (readItem_padded (by decide) (by omega) day _)]

/-- The fraction of a second is read to its nanosecond, whether it has three, six or nine digits or
is left out. -/
theorem readFraction_fractionText (parts : Parts) (nanosecond : Fin 1000000000) :
    readFraction { parts with nanosecond := 0 } (Timestamp.fractionText nanosecond.val) =
      .ok ({ parts with nanosecond := nanosecond.val }, []) := by
  have digits (width : Nat) (scaled : Nat) (within : 0 < width ∧ width ≤ 9)
      (small : scaled < 10 ^ width) (exact : scaled * 10 ^ (9 - width) = nanosecond.val) :
      readFraction { parts with nanosecond := 0 } ('.' :: padded width scaled) =
        .ok ({ parts with nanosecond := nanosecond.val }, []) := by
    have length := length_padded within.1 small
    have le : 10 ^ width ≤ 10 ^ 9 := Nat.pow_le_pow_right (by decide) within.2
    have read : readDigits (some 9) (padded width scaled ++ []) = .ok (padded width scaled, []) :=
      readDigits_some [] (isDigit_padded width scaled) (by omega) (padded_ne_nil width scaled)
        (.inr rfl) (by rw [toNat_padded]; omega)
    rw [List.append_nil] at read
    refine bind_eq_ok_iff.mpr ⟨_, read, ?_⟩
    simp [toNat_padded, length, pure, Except.pure, exact]
  have below := nanosecond.isLt
  unfold Timestamp.fractionText
  split
  case isTrue none =>
    rw [none]
    rfl
  case isFalse =>
    split
    case isTrue => exact digits 3 _ (by decide) (by omega) (by omega)
    case isFalse =>
      split
      case isTrue => exact digits 6 _ (by decide) (by omega) (by omega)
      case isFalse => exact digits 9 _ (by decide) below (by omega)

/-- The time of day at the end of a text is read from it. -/
theorem readItems_timeText (year : Int) (month day : Nat) (t : Timestamp) :
    readItems ⟨year, month, day, 0, 0, 0, 0⟩ timeFormat t.timeText =
      .ok ⟨year, month, day, t.hour.val, t.minute.val, t.second.val, t.nanosecond.val⟩ := by
  have hours := t.hour.isLt
  have minutes := t.minute.isLt
  have seconds := t.second.isLt
  have hour : Parts.set ⟨year, month, day, 0, 0, 0, 0⟩ .hour t.hour.val =
      .ok ⟨year, month, day, t.hour.val, 0, 0, 0⟩ := if_pos (by omega)
  have minute : Parts.set ⟨year, month, day, t.hour.val, 0, 0, 0⟩ .minute t.minute.val =
      .ok ⟨year, month, day, t.hour.val, t.minute.val, 0, 0⟩ := if_pos (by omega)
  have second : Parts.set ⟨year, month, day, t.hour.val, t.minute.val, 0, 0⟩ .second t.second.val =
      .ok ⟨year, month, day, t.hour.val, t.minute.val, t.second.val, 0⟩ := if_pos (by omega)
  have fraction : readItem ⟨year, month, day, t.hour.val, t.minute.val, t.second.val, 0⟩ .fraction
      (Timestamp.fractionText t.nanosecond.val) =
        .ok (⟨year, month, day, t.hour.val, t.minute.val, t.second.val, t.nanosecond.val⟩, []) :=
    readFraction_fractionText
      ⟨year, month, day, t.hour.val, t.minute.val, t.second.val, 0⟩ t.nanosecond
  rw [timeFormat, Timestamp.timeText,
    readItems_cons (readItem_padded (by decide) (by omega) hour _),
    readItems_cons (readItem_character _ _ _),
    readItems_cons (readItem_padded (by decide) (by omega) minute _),
    readItems_cons (readItem_character _ _ _),
    readItems_cons (readItem_padded (by decide) (by omega) second _)]
  exact readItems_cons fraction

/-! ## Blanks in a format -/

theorem readDigits_subset {limit : Option Nat} {cs digits rest : List Char}
    (read : readDigits limit cs = .ok (digits, rest)) : rest ⊆ cs := by
  unfold readDigits at read
  extract_lets found at read
  split at read
  case isTrue => cases read
  case isFalse =>
    split at read
    case isTrue => cases read
    case isFalse =>
      obtain ⟨rfl, rfl⟩ := Prod.mk.inj (Except.ok.inj read)
      exact List.drop_subset _ cs

theorem readNumber_subset {part : Part} {cs rest : List Char} {n : Int}
    (read : readNumber part cs = .ok (n, rest)) : rest ⊆ cs := by
  have trimmed : Text.trimStart cs ⊆ cs := (List.dropWhile_suffix _).subset
  unfold readNumber at read
  split at read
  case h_1 digits isSigned | h_2 digits isSigned =>
    obtain ⟨⟨_, _⟩, taken, read⟩ := bind_eq_ok_iff.mp read
    obtain ⟨-, rfl⟩ := Prod.mk.inj (pure_eq_ok_iff.mp read)
    rw [isSigned] at trimmed
    exact List.Subset.trans (readDigits_subset taken)
      (List.Subset.trans (List.subset_cons_self _ _) trimmed)
  case h_3 | h_4 =>
    obtain ⟨⟨_, _⟩, taken, read⟩ := bind_eq_ok_iff.mp read
    obtain ⟨-, rfl⟩ := Prod.mk.inj (pure_eq_ok_iff.mp read)
    exact List.Subset.trans (readDigits_subset taken) trimmed

theorem readFraction_subset {parts parts' : Parts} {cs rest : List Char}
    (read : readFraction parts cs = .ok (parts', rest)) : rest ⊆ cs := by
  unfold readFraction at read
  split at read
  case h_1 =>
    obtain ⟨⟨_, _⟩, taken, read⟩ := bind_eq_ok_iff.mp read
    obtain ⟨-, rfl⟩ := Prod.mk.inj (pure_eq_ok_iff.mp read)
    exact List.Subset.trans (List.dropWhile_suffix _).subset
      (List.Subset.trans (readDigits_subset taken) (List.subset_cons_self _ _))
  case h_2 =>
    obtain ⟨-, rfl⟩ := Prod.mk.inj (Except.ok.inj read)
    exact List.Subset.refl _

/-- What is left behind an item is part of the text. -/
theorem readItem_subset {parts parts' : Parts} {item : Item} {cs rest : List Char}
    (read : readItem parts item cs = .ok (parts', rest)) : rest ⊆ cs := by
  cases item with
  | number part =>
      obtain ⟨⟨_, _⟩, number, read⟩ := bind_eq_ok_iff.mp read
      obtain ⟨_, -, read⟩ := bind_eq_ok_iff.mp read
      obtain ⟨-, rfl⟩ := Prod.mk.inj (pure_eq_ok_iff.mp read)
      exact readNumber_subset number
  | character c =>
      cases cs with
      | nil => cases read
      | cons d behind =>
          simp only [readItem] at read
          split at read
          case isTrue =>
            obtain ⟨-, rfl⟩ := Prod.mk.inj (Except.ok.inj read)
            exact List.subset_cons_self _ _
          case isFalse => cases read
  | blanks =>
      obtain ⟨-, rfl⟩ := Prod.mk.inj (Except.ok.inj read)
      exact (List.dropWhile_suffix _).subset
  | fraction => exact readFraction_subset read

/-- The blanks of a format do not matter to a text that has none. -/
theorem readItems_filter (items : List Item) {parts : Parts} {cs : List Char}
    (noBlank : ∀ c ∈ cs, Text.isBlank c = false) :
    readItems parts (items.filter (· ≠ .blanks)) cs = readItems parts items cs := by
  induction items generalizing parts cs with
  | nil => rfl
  | cons item items ih =>
      by_cases isBlanks : item = .blanks
      · subst isBlanks
        have skipped : readItem parts .blanks cs = .ok (parts, cs) := by
          rw [readItem, Text.trimStart_of_noBlank noBlank]
        rw [readItems_cons skipped]
        exact ih noBlank
      · rw [List.filter_cons_of_pos (by simpa using isBlanks), readItems, readItems]
        cases read : readItem parts item cs with
        | error fault => rfl
        | ok found => exact ih fun c inside => noBlank c (readItem_subset read inside)

/-! ## Whole texts -/

/-- The numbers of a date are those of the date. -/
theorem readDate_characters (d : Date) : readDate dateFormat d.characters = .ok d := by
  have read := readItems_characters d [] []
  rw [List.append_nil, List.append_nil] at read
  refine bind_eq_ok_iff.mpr ⟨_, read, ?_⟩
  have found : Date.ofParts? d.year d.month d.day = some d := dif_pos ⟨d.year_mem, d.day_mem⟩
  rw [Parts.date, found]

theorem readTimestamp_characters (t : Timestamp) :
    readTimestamp (dateFormat ++ .character 'T' :: timeFormat)
      (t.date.characters ++ 'T' :: t.timeText) = .ok t := by
  have read := readItems_characters t.date (.character 'T' :: timeFormat) ('T' :: t.timeText)
  rw [readItems_cons (readItem_character _ _ _), readItems_timeText] at read
  refine bind_eq_ok_iff.mpr ⟨_, read, ?_⟩
  have foundDate : Date.ofParts? t.date.year t.date.month t.date.day = some t.date :=
    dif_pos ⟨t.date.year_mem, t.date.day_mem⟩
  have found : Timestamp.ofParts? t.date t.hour.val t.minute.val t.second.val t.nanosecond.val =
      some t := dif_pos ⟨t.hour.isLt, t.minute.isLt, t.second.isLt, t.nanosecond.isLt⟩
  refine bind_eq_ok_iff.mpr ⟨t.date, ?_, ?_⟩
  · rw [Parts.date, foundDate]
  · rw [found]

end Calendar

namespace Date

open Calendar

/-- What holds of digits and of signs holds of all characters of a date. -/
theorem forall_mem_characters {P : Char → Prop} (digit : ∀ c, c.isDigit = true → P c)
    (minus : P '-') (plus : P '+') (d : Date) : ∀ c ∈ d.characters, P c := by
  have digits (width n : Nat) : ∀ c ∈ padded width n, P c :=
    fun c inside => digit c (isDigit_padded width n c inside)
  simp only [characters, List.forall_mem_append, List.forall_mem_cons]
  refine ⟨?_, minus, digits _ _, minus, digits _ _⟩
  unfold yearText
  split
  · exact List.forall_mem_cons.mpr ⟨minus, digits _ _⟩
  · split
    · exact List.forall_mem_cons.mpr ⟨plus, digits _ _⟩
    · exact digits _ _

theorem characters_noBlank (d : Date) : ∀ c ∈ d.characters, Text.isBlank c = false :=
  d.forall_mem_characters (fun _ => Text.isBlank_of_isDigit) (by decide) (by decide)

/-- The text of a date is read as the date. -/
theorem read_text (d : Date) : read d.text = .ok d := by
  rw [read, text, String.toList_ofList, Text.trim_of_noBlank d.characters_noBlank]
  exact readDate_characters d

end Date

namespace Timestamp

open Calendar

/-- What holds of digits, colons and points holds of all characters of a time of day. -/
theorem forall_mem_timeText {P : Char → Prop} (digit : ∀ c, c.isDigit = true → P c)
    (colon : P ':') (point : P '.') (t : Timestamp) : ∀ c ∈ t.timeText, P c := by
  have digits (width n : Nat) : ∀ c ∈ padded width n, P c :=
    fun c inside => digit c (isDigit_padded width n c inside)
  simp only [timeText, List.forall_mem_append, List.forall_mem_cons]
  refine ⟨digits _ _, colon, digits _ _, colon, digits _ _, ?_⟩
  unfold fractionText
  split
  · simp
  · split
    · exact List.forall_mem_cons.mpr ⟨point, digits _ _⟩
    · split <;> exact List.forall_mem_cons.mpr ⟨point, digits _ _⟩

theorem timeText_noBlank (t : Timestamp) : ∀ c ∈ t.timeText, Text.isBlank c = false :=
  t.forall_mem_timeText (fun _ => Text.isBlank_of_isDigit) (by decide) (by decide)

theorem characters_noBlank (t : Timestamp) :
    ∀ c ∈ t.date.characters ++ 'T' :: t.timeText, Text.isBlank c = false := by
  simp only [List.forall_mem_append, List.forall_mem_cons]
  exact ⟨t.date.characters_noBlank, by decide, t.timeText_noBlank⟩

/-- The text of a timestamp is read as the timestamp. -/
theorem read_text (t : Timestamp) : read (t.text 'T') = .ok t := by
  rw [read, text, String.toList_ofList, Text.trim_of_noBlank t.characters_noBlank]
  simp only [readTimestamp_characters]

end Timestamp

end SqlCompose
