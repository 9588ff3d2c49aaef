/-
# Spans are read back

The text of a span names years, months and days that are not zero and then the clock time, each with
a sign of its own.  A reader takes it word by word: a number before the name of a unit counts in that
unit, a unit that is not named counts zero, and what is left has to be a clock time or nothing.
The text of every span is read as the months, days and microseconds that it was printed for, so
different spans have different texts (`Interval.readText?_text`).

A span is held in words of 32 and 64 bits, and so is everything that is computed on the way to its
text.  None of it leaves its word, not even for the least span of all (`Interval.figures_exact`).
-/

import SqlCompose.Interval
import SqlCompose.Proofs.Digits
import Mathlib.Algebra.Order.Group.Nat
import Mathlib.Data.List.DropRight

namespace SqlCompose

open Decimal
open Decimal.Numeral (padded ofNat readNat? readInt? readNat?_eq_some_iff isDigit_padded
  isDigit_ofNat length_padded padded_ne_nil toNat_padded readNat?_padded readInt?_ofInt)

namespace Interval

/-! ## Reading -/

/-- Reads a field of exactly two digits that counts up to 59. -/
def readSixtieth? (digits : List Char) : Option Nat := do
  guard (digits.length = 2)
  let n ← readNat? digits
  guard (n < 60)
  return n

/-- Reads the digits behind the point of a second, one to six of them, as microseconds. -/
def readFraction? (digits : List Char) : Option Nat := do
  guard (digits.length ≤ 6)
  let n ← readNat? digits
  return n * 10 ^ (6 - digits.length)

/-- Reads the seconds of a clock time with their fraction, if there is one, as microseconds. -/
def readSeconds? (cs : List Char) : Option Nat :=
  match cs.splitOn '.' with
  | [whole] => return (← readSixtieth? whole) * 1000000
  | [whole, fraction] => return (← readSixtieth? whole) * 1000000 + (← readFraction? fraction)
  | _ => none

/-- Reads hours of at least two digits, minutes and seconds as microseconds. -/
def readClock? (cs : List Char) : Option Nat :=
  match cs.splitOn ':' with
  | [hours, minutes, seconds] => do
    guard (2 ≤ hours.length)
    let hours ← readNat? hours
    let minutes ← readSixtieth? minutes
    let microseconds ← readSeconds? seconds
    return (hours * 3600 + minutes * 60) * 1000000 + microseconds
  | _ => none

/-- Reads a clock time with its sign, if it has one. -/
def readTime? : List Char → Option Int
  | '-' :: cs => do return -(← readClock? cs : Int)
  | '+' :: cs => do return (← readClock? cs : Int)
  | cs => do return (← readClock? cs : Int)

/-- Reads a number and its unit, in the singular or the plural, from the front of some words.  The
number is zero if the words do not begin with one of this unit. -/
def readUnit? (unit : String) : List (List Char) → Option (Int × List (List Char))
  | number :: word :: rest =>
    if word = unit.toList ∨ word = unit.toList ++ ['s'] then do return (← readInt? number, rest)
    else some (0, number :: word :: rest)
  | words => some (0, words)

/-- Reads the text of a span as its months, days and microseconds. -/
def readText? (text : String) : Option (Int × Int × Int) := do
  let (years, words) ← readUnit? "year" (text.toList.splitOn ' ')
  let (months, words) ← readUnit? "mon" words
  let (days, words) ← readUnit? "day" words
  let microseconds ←
    match words with
    | [] => some 0
    | [clock] => readTime? clock
    | _ => none
  return (12 * years + months, days, microseconds)

/-! ## Digits of a clock time -/

theorem not_mem_of_isDigit {c : Char} {digits : List Char}
    (isDigit : ∀ d ∈ digits, d.isDigit = true) (other : c.isDigit = false) : c ∉ digits := by
  intro inside
  rw [isDigit c inside] at other
  cases other

theorem readSixtieth?_padded {n : Nat} (small : n < 60) : readSixtieth? (padded 2 n) = some n := by
  have twoDigits : n < 100 := by omega
  have length : (padded 2 n).length = 2 := length_padded (by decide) twoDigits
  have sized : (guard ((padded 2 n).length = 2) : Option Unit) = some () := if_pos length
  have counted : (guard (n < 60) : Option Unit) = some () := if_pos small
  rw [readSixtieth?, sized, readNat?_padded]
  exact congrArg (fun passed : Option Unit => passed >>= fun _ => some n) counted

theorem isDigit_fractionDigits (microseconds : Nat) :
    ∀ c ∈ fractionDigits microseconds, c.isDigit = true := by
  have front : fractionDigits microseconds <+: padded 6 microseconds := List.rdropWhile_prefix _ _
  exact fun c inside => isDigit_padded 6 microseconds c (front.subset inside)

/-- What is cut off behind the digits of a fraction are zeros. -/
theorem exists_padded_eq_fractionDigits (microseconds : Nat) :
    ∃ zeros, padded 6 microseconds = fractionDigits microseconds ++ List.replicate zeros '0' := by
  let reversed := (padded 6 microseconds).reverse
  have zeros : reversed.takeWhile (· = '0') =
      List.replicate (reversed.takeWhile (· = '0')).length '0' := by
    apply List.eq_replicate_of_mem
    intro c inside
    simpa using List.mem_takeWhile_imp inside
  refine ⟨(reversed.takeWhile (· = '0')).length, ?_⟩
  calc padded 6 microseconds
      = (reversed.takeWhile (· = '0') ++ reversed.dropWhile (· = '0')).reverse := by
        rw [List.takeWhile_append_dropWhile, List.reverse_reverse]
    _ = fractionDigits microseconds ++ (reversed.takeWhile (· = '0')).reverse := by
        rw [List.reverse_append]
        rfl
    _ = fractionDigits microseconds ++
          List.replicate (reversed.takeWhile (· = '0')).length '0' := by
        rw [zeros, List.reverse_replicate, List.length_replicate]

/-- The digits of a fraction stand for its microseconds once the zeros are put back. -/
theorem readFraction?_fractionDigits {microseconds : Nat} (positive : 0 < microseconds)
    (small : microseconds < 1000000) :
    readFraction? (fractionDigits microseconds) = some microseconds := by
  obtain ⟨zeros, whole⟩ := exists_padded_eq_fractionDigits microseconds
  have length : (fractionDigits microseconds).length + zeros = 6 := by
    have padded : (padded 6 microseconds).length = 6 := length_padded (by decide) small
    rw [whole, List.length_append, List.length_replicate] at padded
    exact padded
  have value : 10 ^ zeros * Numeral.toNat (fractionDigits microseconds) = microseconds := by
    have padded := toNat_padded 6 microseconds
    rwa [whole, Numeral.toNat, Nat.ofDigitChars_append, Nat.ofDigitChars_replicate_zero] at padded
  have filled : fractionDigits microseconds ≠ [] := by
    intro empty
    rw [empty] at value
    exact positive.ne value
  have isRead : readNat? (fractionDigits microseconds) =
      some (Numeral.toNat (fractionDigits microseconds)) :=
    readNat?_eq_some_iff.mpr ⟨⟨filled, isDigit_fractionDigits microseconds⟩, rfl⟩
  have cut : 6 - (fractionDigits microseconds).length = zeros := by omega
  have fits : (fractionDigits microseconds).length ≤ 6 := by omega
  have sized : (guard ((fractionDigits microseconds).length ≤ 6) : Option Unit) = some () := if_pos fits
  rw [readFraction?, sized, isRead, cut]
  exact congrArg some ((Nat.mul_comm _ _).trans value)

/-! ## Clock times -/

/-- The seconds of a clock time, with their fraction if there is one. -/
def secondsText (seconds fraction : Nat) : List Char :=
  padded 2 seconds ++ if fraction = 0 then [] else '.' :: fractionDigits fraction

theorem readSeconds?_secondsText {seconds fraction : Nat} (seconds_lt : seconds < 60)
    (fraction_lt : fraction < 1000000) :
    readSeconds? (secondsText seconds fraction) = some (seconds * 1000000 + fraction) := by
  have whole : '.' ∉ padded 2 seconds := not_mem_of_isDigit (isDigit_padded 2 seconds) rfl
  by_cases none : fraction = 0
  · have split : (secondsText seconds fraction).splitOn '.' = [padded 2 seconds] := by
      rw [secondsText, if_pos none, List.append_nil]
      exact List.splitOn_eq_singleton whole
    rw [readSeconds?, split]
    simp [readSixtieth?_padded seconds_lt, none]
  · have digits : '.' ∉ fractionDigits fraction :=
      not_mem_of_isDigit (isDigit_fractionDigits fraction) rfl
    have split : (secondsText seconds fraction).splitOn '.' =
        [padded 2 seconds, fractionDigits fraction] := by
      have joined : secondsText seconds fraction =
          ['.'].intercalate [padded 2 seconds, fractionDigits fraction] := by
        simp [secondsText, none, List.intercalate_cons_cons]
      rw [joined, List.splitOn_intercalate '.' (by simp [whole, digits]) (by simp)]
    rw [readSeconds?, split]
    have positive : 0 < fraction := Nat.pos_of_ne_zero none
    simp [readSixtieth?_padded seconds_lt, readFraction?_fractionDigits positive fraction_lt]

/-- The clock time of a number of microseconds without its sign. -/
def timeText (total : Nat) : List Char :=
  padded 2 (total / 1000000 / 3600) ++ ':' :: (padded 2 (total / 1000000 / 60 % 60) ++
    ':' :: secondsText (total / 1000000 % 60) (total % 1000000))

theorem toList_clockText (microseconds : Int) :
    (clockText microseconds).toList =
      (if microseconds < 0 then ['-'] else []) ++ timeText microseconds.natAbs := by
  simp [clockText, timeText, secondsText]

theorem readClock?_timeText (total : Nat) : readClock? (timeText total) = some total := by
  have isDigit (n : Nat) : ':' ∉ padded 2 n := not_mem_of_isDigit (isDigit_padded 2 n) rfl
  have noColon : ':' ∉ secondsText (total / 1000000 % 60) (total % 1000000) := by
    have digits : ':' ∉ fractionDigits (total % 1000000) :=
      not_mem_of_isDigit (isDigit_fractionDigits _) rfl
    unfold secondsText
    split <;> simp [isDigit, digits]
  have split : (timeText total).splitOn ':' =
      [padded 2 (total / 1000000 / 3600), padded 2 (total / 1000000 / 60 % 60),
        secondsText (total / 1000000 % 60) (total % 1000000)] := by
    have joined : timeText total = [':'].intercalate
        [padded 2 (total / 1000000 / 3600), padded 2 (total / 1000000 / 60 % 60),
          secondsText (total / 1000000 % 60) (total % 1000000)] := by
      simp [timeText, List.intercalate_cons_cons]
    rw [joined, List.splitOn_intercalate ':' (by simp [isDigit, noColon]) (by simp)]
  have long : 2 ≤ (padded 2 (total / 1000000 / 3600)).length := by
    simp only [padded, List.length_append, List.length_replicate]
    omega
  have minutes := readSixtieth?_padded (Nat.mod_lt (total / 1000000 / 60) (by decide : 60 > 0))
  have seconds := readSeconds?_secondsText (Nat.mod_lt (total / 1000000) (by decide : 60 > 0))
    (Nat.mod_lt total (by decide : 1000000 > 0))
  have sized : (guard (2 ≤ (padded 2 (total / 1000000 / 3600)).length) : Option Unit) = some () :=
    if_pos long
  rw [readClock?, split]
  dsimp only
  rw [sized, readNat?_padded, minutes, seconds]
  refine congrArg some ?_
  omega

/-- A clock time without its sign begins with a digit. -/
theorem exists_timeText_eq_cons (total : Nat) :
    ∃ c cs, timeText total = c :: cs ∧ c.isDigit = true := by
  obtain ⟨c, cs, hours⟩ := List.exists_cons_of_ne_nil (padded_ne_nil 2 (total / 1000000 / 3600))
  refine ⟨c, _, by rw [timeText, hours, List.cons_append], ?_⟩
  apply isDigit_padded 2 (total / 1000000 / 3600)
  rw [hours]
  exact List.mem_cons_self

theorem readTime?_clockText (microseconds : Int) :
    readTime? (clockText microseconds).toList = some microseconds := by
  rw [toList_clockText]
  by_cases negative : microseconds < 0
  · have value : -(microseconds.natAbs : Int) = microseconds := by omega
    rw [if_pos negative, List.singleton_append]
    simp only [readTime?, readClock?_timeText]
    exact congrArg some value
  · rw [if_neg negative, List.nil_append]
    obtain ⟨c, cs, begins, digit⟩ := exists_timeText_eq_cons microseconds.natAbs
    unfold readTime?
    split
    case h_1 signed =>
      obtain rfl := (List.cons.inj (begins.symm.trans signed)).1
      cases digit
    case h_2 signed =>
      obtain rfl := (List.cons.inj (begins.symm.trans signed)).1
      cases digit
    case h_3 =>
      have value : (microseconds.natAbs : Int) = microseconds := by omega
      simp only [readClock?_timeText]
      exact congrArg some value

/-! ## The words of a text -/

section Words

variable {α : Type} (separator : List α)

theorem intercalate_append {xs ys : List (List α)} (first : xs ≠ []) (last : ys ≠ []) :
    separator.intercalate (xs ++ ys) =
      separator.intercalate xs ++ (separator ++ separator.intercalate ys) := by
  induction xs with
  | nil => exact absurd rfl first
  | cons x rest ih =>
      cases rest with
      | nil =>
          rw [List.singleton_append, List.intercalate_cons_of_ne_nil last, List.intercalate_singleton,
            List.append_assoc]
      | cons y rest =>
          have joined := ih (List.cons_ne_nil y rest)
          rw [List.cons_append] at joined
          rw [List.cons_append, List.cons_append, List.intercalate_cons_cons, joined,
            List.intercalate_cons_cons]
          simp

/-- Where the same separator stands within groups and between them, the groups do not show. -/
theorem intercalate_flatten {groups : List (List (List α))} (filled : ∀ g ∈ groups, g ≠ []) :
    separator.intercalate (groups.map separator.intercalate) =
      separator.intercalate groups.flatten := by
  induction groups with
  | nil => rfl
  | cons g rest ih =>
      rw [List.forall_mem_cons] at filled
      cases rest with
      | nil => simp
      | cons h rest =>
          have later : (h :: rest).flatten ≠ [] := by
            rw [List.flatten_cons]
            exact List.append_ne_nil_of_left_ne_nil (filled.2 h List.mem_cons_self) _
          rw [List.flatten_cons, intercalate_append separator filled.1 later, ← ih filled.2,
            List.map_cons, List.map_cons, List.intercalate_cons_cons]
          simp

end Words

/-- The name of a unit, in the plural unless there is one of it. -/
def unitName (n : Int) (unit : String) : List Char :=
  if n = 1 then unit.toList else unit.toList ++ ['s']

/-- The field of a number of a unit as its words.  There is none for zero. -/
def unitField (n : Int) (unit : String) : List (List (List Char)) :=
  if n = 0 then [] else [[Numeral.ofInt n, unitName n unit]]

/-- The years of a span. -/
def years (i : Interval) : Int :=
  i.months.toInt.tdiv 12

/-- The months of a span that make no whole year. -/
def monthsOfYear (i : Interval) : Int :=
  i.months.toInt.tmod 12

/-- The fields of the text of a span but for the clock time, each as its words. -/
def calendarFields (i : Interval) : List (List (List Char)) :=
  unitField i.years "year" ++ (unitField i.monthsOfYear "mon" ++ unitField i.days.toInt "day")

/-- The field of the clock time, if it is not left out. -/
def clockField (i : Interval) : List (List (List Char)) :=
  if i.microseconds.toInt = 0 ∧ i.calendarFields ≠ [] then []
  else [[(clockText i.microseconds.toInt).toList]]

/-- The fields of the text of a span, each as its words. -/
def fields (i : Interval) : List (List (List Char)) :=
  i.calendarFields ++ i.clockField

theorem map_unitText (n : Int) (unit : String) :
    (unitText n unit).map String.toList = (unitField n unit).map [' '].intercalate := by
  have numeral : (Numeral.text n).toList = Numeral.ofInt n := String.toList_ofList
  unfold unitText unitField unitName
  split
  case isTrue => rfl
  case isFalse => split <;> simp [numeral, List.intercalate_cons_cons]

theorem map_calendarParts (i : Interval) :
    i.calendarParts.map String.toList = i.calendarFields.map [' '].intercalate := by
  simp [calendarParts, calendarFields, map_unitText, years, monthsOfYear]

/-- The text of a span is its fields with a blank between any two of them. -/
theorem toList_text_fields (i : Interval) :
    i.text.toList = [' '].intercalate (i.fields.map [' '].intercalate) := by
  have blank : " ".toList = [' '] := rfl
  have none_iff : i.calendarParts = [] ↔ i.calendarFields = [] := by
    rw [← List.map_eq_nil_iff (f := String.toList), map_calendarParts, List.map_eq_nil_iff]
  simp only [text, fields, clockField, String.toList_intercalate, List.map_append, map_calendarParts,
    blank, ne_eq, none_iff]
  split <;> simp

theorem fields_filled (i : Interval) : ∀ g ∈ i.fields, g ≠ [] := by
  have unit (n : Int) (name : String) : ∀ g ∈ unitField n name, g ≠ [] := by
    unfold unitField
    split <;> simp
  have clock : ∀ g ∈ i.clockField, g ≠ [] := by
    unfold clockField
    split <;> simp
  simp only [fields, calendarFields, List.forall_mem_append]
  exact ⟨⟨unit _ _, unit _ _, unit _ _⟩, clock⟩

theorem fields_ne_nil (i : Interval) : i.fields ≠ [] := by
  unfold fields clockField
  split
  case isTrue isLeftOut => exact List.append_ne_nil_of_left_ne_nil isLeftOut.2 _
  case isFalse => exact List.append_ne_nil_of_right_ne_nil _ (List.cons_ne_nil _ _)

/-- The characters of minus signs, clock times and names of units. -/
def marks : List Char :=
  "-:.yearmonsd".toList

/-- Whether a character is a digit or one of those that stand beside digits. -/
def IsPlain (c : Char) : Prop :=
  c.isDigit = true ∨ c ∈ marks

theorem isPlain_of_mem_ofInt (n : Int) : ∀ c ∈ Numeral.ofInt n, IsPlain c := by
  have digits : ∀ c ∈ ofNat n.natAbs, IsPlain c :=
    fun c inside => .inl (isDigit_ofNat n.natAbs c inside)
  unfold Numeral.ofInt
  split
  · rw [List.forall_mem_cons]
    exact ⟨.inr (by decide), digits⟩
  · exact digits

theorem isPlain_of_mem_unitName (n : Int) {unit : String}
    (letters : unit.toList ⊆ marks) : ∀ c ∈ unitName n unit, IsPlain c := by
  have singular : ∀ c ∈ unit.toList, IsPlain c := fun c inside => .inr (letters inside)
  unfold unitName
  split
  · exact singular
  · rw [List.forall_mem_append]
    exact ⟨singular, List.forall_mem_singleton.mpr (.inr (by decide))⟩

theorem isPlain_of_mem_clockText (microseconds : Int) :
    ∀ c ∈ (clockText microseconds).toList, IsPlain c := by
  have mark {c : Char} (isMark : c ∈ marks) : IsPlain c := .inr isMark
  have digits {cs : List Char} (isDigit : ∀ c ∈ cs, c.isDigit = true) : ∀ c ∈ cs, IsPlain c :=
    fun c inside => .inl (isDigit c inside)
  have seconds (s fraction : Nat) : ∀ c ∈ secondsText s fraction, IsPlain c := by
    rw [secondsText, List.forall_mem_append]
    refine ⟨digits (isDigit_padded _ _), ?_⟩
    split
    · exact List.forall_mem_nil _
    · rw [List.forall_mem_cons]
      exact ⟨mark (by decide), digits (isDigit_fractionDigits _)⟩
  rw [toList_clockText, timeText]
  simp only [List.forall_mem_append, List.forall_mem_cons]
  refine ⟨?_, digits (isDigit_padded _ _), mark (by decide), digits (isDigit_padded _ _),
    mark (by decide), seconds _ _⟩
  split
  · exact List.forall_mem_singleton.mpr (mark (by decide))
  · exact List.forall_mem_nil _

/-- No word of a text has a blank or a plus sign in it. -/
theorem isPlain_of_mem_fields (i : Interval) : ∀ g ∈ i.fields, ∀ w ∈ g, ∀ c ∈ w, IsPlain c := by
  have unit (n : Int) {name : String} (letters : name.toList ⊆ marks) :
      ∀ g ∈ unitField n name, ∀ w ∈ g, ∀ c ∈ w, IsPlain c := by
    unfold unitField
    split
    · exact List.forall_mem_nil _
    · simp only [List.forall_mem_singleton, List.forall_mem_cons]
      exact ⟨isPlain_of_mem_ofInt n, isPlain_of_mem_unitName n letters⟩
  have clock : ∀ g ∈ i.clockField, ∀ w ∈ g, ∀ c ∈ w, IsPlain c := by
    unfold clockField
    split
    · exact List.forall_mem_nil _
    · simp only [List.forall_mem_singleton]
      exact isPlain_of_mem_clockText _
  simp only [fields, calendarFields, List.forall_mem_append]
  exact ⟨⟨unit _ (by decide), unit _ (by decide), unit _ (by decide)⟩, clock⟩

/-- The words between the blanks of a text are those of its fields. -/
theorem splitOn_text (i : Interval) : i.text.toList.splitOn ' ' = i.fields.flatten := by
  have noBlank : ∀ w ∈ i.fields.flatten, ' ' ∉ w := by
    intro w inFields blank
    obtain ⟨g, inside, inField⟩ := List.mem_flatten.mp inFields
    have plain := i.isPlain_of_mem_fields g inside w inField ' ' blank
    revert plain
    unfold IsPlain
    decide
  have filled : i.fields.flatten ≠ [] := by
    obtain ⟨g, rest, isCons⟩ := List.exists_cons_of_ne_nil i.fields_ne_nil
    rw [isCons, List.flatten_cons]
    apply List.append_ne_nil_of_left_ne_nil
    apply i.fields_filled
    rw [isCons]
    exact List.mem_cons_self
  rw [toList_text_fields, intercalate_flatten [' '] i.fields_filled]
  exact List.splitOn_intercalate ' ' noBlank filled

/-! ## Texts are read -/

/-- The words of a unit are read, and nothing but them. -/
theorem readUnit?_unitField (n : Int) {unit : String} {rest : List (List (List Char))}
    (others : ∀ word ∈ rest.flatten[1]?, word ≠ unit.toList ∧ word ≠ unit.toList ++ ['s']) :
    readUnit? unit (unitField n unit ++ rest).flatten = some (n, rest.flatten) := by
  by_cases zero : n = 0
  · have absent : readUnit? unit rest.flatten = some (0, rest.flatten) := by
      generalize rest.flatten = words at others
      unfold readUnit?
      split
      case h_1 number word rest => exact if_neg (not_or.mpr (others word rfl))
      case h_2 => rfl
    rw [unitField, if_pos zero, zero]
    exact absent
  · have named : unitName n unit = unit.toList ∨ unitName n unit = unit.toList ++ ['s'] :=
      ite_eq_or_eq _ _ _
    rw [unitField, if_neg zero, List.singleton_append, List.flatten_cons, List.cons_append,
      List.cons_append, List.nil_append, readUnit?, if_pos named, readInt?_ofInt]
    rfl

/-- The second word of some fields is the name of the first unit, or that of a later one. -/
theorem forall_second_unitField {P : List Char → Prop} (n : Int) {unit : String}
    {rest : List (List (List Char))} (singular : P unit.toList) (plural : P (unit.toList ++ ['s']))
    (later : ∀ w ∈ rest.flatten[1]?, P w) : ∀ w ∈ (unitField n unit ++ rest).flatten[1]?, P w := by
  unfold unitField
  split
  case isTrue => exact later
  case isFalse =>
    intro w second
    obtain rfl : unitName n unit = w := Option.some.inj second
    unfold unitName
    split
    · exact singular
    · exact plural

theorem clockField_second (i : Interval) : i.clockField.flatten[1]? = none := by
  unfold clockField
  split <;> rfl

/-- The number of years and that of the months that are left make all months. -/
theorem years_add_monthsOfYear (i : Interval) : 12 * i.years + i.monthsOfYear = i.months.toInt :=
  Int.mul_tdiv_add_tmod i.months.toInt 12

/-- A field that is left out is read as zero, and every other one as its number. -/
theorem readText?_eq (i : Interval) :
    readText? i.text = some (i.months.toInt, i.days.toInt, i.microseconds.toInt) := by
  have clock (unit : String) : ∀ w ∈ i.clockField.flatten[1]?,
      w ≠ unit.toList ∧ w ≠ unit.toList ++ ['s'] := by
    simp [clockField_second]
  have days : readUnit? "day" (unitField i.days.toInt "day" ++ i.clockField).flatten =
      some (i.days.toInt, i.clockField.flatten) :=
    readUnit?_unitField _ (clock "day")
  have months : readUnit? "mon" (unitField i.monthsOfYear "mon" ++
      (unitField i.days.toInt "day" ++ i.clockField)).flatten =
        some (i.monthsOfYear, (unitField i.days.toInt "day" ++ i.clockField).flatten) := by
    apply readUnit?_unitField
    exact forall_second_unitField _ (by decide) (by decide) (clock "mon")
  have years : readUnit? "year" i.fields.flatten = some (i.years, (unitField i.monthsOfYear "mon" ++
      (unitField i.days.toInt "day" ++ i.clockField)).flatten) := by
    rw [fields, calendarFields, List.append_assoc, List.append_assoc]
    have second : ∀ w ∈ (unitField i.days.toInt "day" ++ i.clockField).flatten[1]?,
        w ≠ "year".toList ∧ w ≠ "year".toList ++ ['s'] :=
      forall_second_unitField _ (by decide) (by decide) (clock "year")
    exact readUnit?_unitField _ (forall_second_unitField _ (by decide) (by decide) second)
  rw [readText?, splitOn_text, years]
  simp only [Option.bind_eq_bind, Option.bind_some, months, days, years_add_monthsOfYear]
  by_cases leftOut : i.microseconds.toInt = 0 ∧ i.calendarFields ≠ []
  · rw [clockField, if_pos leftOut, leftOut.1]
    rfl
  · rw [clockField, if_neg leftOut]
    simp only [List.flatten_singleton, readTime?_clockText]
    rfl

/-! ## Words of fixed size -/

/-- The numbers that are computed on the way to a text, in words of 32 and 64 bits. -/
structure Figures where
  years : Int32
  months : Int32
  /-- The absolute value of the microseconds, which needs a word without a sign. -/
  total : UInt64
  hours : UInt64
  minutes : UInt64
  seconds : UInt64
  fraction : UInt64

/-- The numbers behind a text as they are computed in words. -/
def figures (i : Interval) : Figures where
  years := i.months / 12
  months := i.months % 12
  total := i.microseconds.abs.toUInt64
  hours := i.microseconds.abs.toUInt64 / 1000000 / 3600
  minutes := i.microseconds.abs.toUInt64 / 1000000 / 60 % 60
  seconds := i.microseconds.abs.toUInt64 / 1000000 % 60
  fraction := i.microseconds.abs.toUInt64 % 1000000

/-- Whether numbers that are computed in words are those that the text is printed from. -/
structure Figures.AreExact (f : Figures) (i : Interval) : Prop where
  years : f.years.toInt = i.years
  months : f.months.toInt = i.monthsOfYear
  total : f.total.toNat = i.microseconds.toInt.natAbs
  hours : f.hours.toNat = i.microseconds.toInt.natAbs / 1000000 / 3600
  minutes : f.minutes.toNat = i.microseconds.toInt.natAbs / 1000000 / 60 % 60
  seconds : f.seconds.toNat = i.microseconds.toInt.natAbs / 1000000 % 60
  fraction : f.fraction.toNat = i.microseconds.toInt.natAbs % 1000000

/-- The least number has no negative in its word, but the bits of its absolute value fit into one
without a sign. -/
theorem toNat_abs (n : Int64) : n.abs.toUInt64.toNat = n.toInt.natAbs := by
  have bits : n.abs.toUInt64.toNat = n.toBitVec.abs.toNat := rfl
  have value : n.toInt = n.toBitVec.toInt := rfl
  have bound := n.toBitVec.isLt
  rw [bits, value, BitVec.toNat_abs, BitVec.toInt_eq_msb_cond]
  split <;> omega

theorem figures_exact (i : Interval) : i.figures.AreExact i := by
  have total := toNat_abs i.microseconds
  constructor
  case years => exact Int32.toInt_div_of_ne_right i.months 12 (by decide)
  case months => exact Int32.toInt_mod i.months 12
  case total => exact total
  case hours => simp only [figures, UInt64.toNat_div, total]; rfl
  case minutes => simp only [figures, UInt64.toNat_div, UInt64.toNat_mod, total]; rfl
  case seconds => simp only [figures, UInt64.toNat_div, UInt64.toNat_mod, total]; rfl
  case fraction => simp only [figures, UInt64.toNat_mod, total]; rfl

/-- The clock time as it is printed from numbers in words. -/
def Figures.clockText (f : Figures) (microseconds : Int64) : String :=
  let sign := if microseconds < 0 then ['-'] else []
  let rest := if f.fraction = 0 then [] else '.' :: fractionDigits f.fraction.toNat
  String.ofList (sign ++ (padded 2 f.hours.toNat ++ ':' :: (padded 2 f.minutes.toNat ++
    ':' :: padded 2 f.seconds.toNat)) ++ rest)

/-- The text as it is printed from numbers in words. -/
def Figures.text (f : Figures) (i : Interval) : String :=
  let parts := unitText f.years.toInt "year" ++ unitText f.months.toInt "mon" ++
    unitText i.days.toInt "day"
  let clock := if i.microseconds = 0 ∧ parts ≠ [] then [] else [f.clockText i.microseconds]
  " ".intercalate (parts ++ clock)

theorem Figures.AreExact.clockText {f : Figures} {i : Interval} (exact : f.AreExact i) :
    f.clockText i.microseconds = Interval.clockText i.microseconds.toInt := by
  have negative : i.microseconds < 0 ↔ i.microseconds.toInt < 0 := Int64.lt_iff_toInt_lt
  have fraction : f.fraction = 0 ↔ i.microseconds.toInt.natAbs % 1000000 = 0 := by
    rw [← UInt64.toNat_inj, exact.fraction]
    rfl
  simp only [Figures.clockText, Interval.clockText, negative, fraction, exact.hours, exact.minutes,
    exact.seconds, exact.fraction]

theorem Figures.AreExact.text {f : Figures} {i : Interval} (exact : f.AreExact i) :
    f.text i = i.text := by
  have zero : i.microseconds = 0 ↔ i.microseconds.toInt = 0 := Int64.toInt_inj.symm
  have parts : unitText f.years.toInt "year" ++ unitText f.months.toInt "mon" ++
      unitText i.days.toInt "day" = i.calendarParts := by
    rw [exact.years, exact.months]
    rfl
  simp only [Figures.text, Interval.text, parts, exact.clockText]
  exact congrArg (fun clock => " ".intercalate (i.calendarParts ++ clock))
    (if_congr (and_congr_left' zero) rfl rfl)

/-! ## The text of a span -/

/-- The text of a span is read as its months, days and microseconds, the least and the greatest
numbers included.  It is never empty, it is printed as well from numbers in words, none of which
leaves its word, and no other span has the same text. -/
theorem readText?_text (i : Interval) :
    readText? i.text = some (i.months.toInt, i.days.toInt, i.microseconds.toInt) ∧ i.text ≠ "" ∧
      (i.figures.AreExact i ∧ i.figures.text i = i.text) ∧
        ∀ j : Interval, j.text = i.text ↔ j = i := by
  have filled : i.text ≠ "" := by
    intro empty
    have isRead := i.readText?_eq
    rw [empty] at isRead
    cases isRead
  have exact := i.figures_exact
  refine ⟨i.readText?_eq, filled, ⟨exact, exact.text⟩, fun j => ⟨fun same => ?_, congrArg text⟩⟩
  have isRead := j.readText?_eq
  rw [same, i.readText?_eq, Option.some.injEq, Prod.mk.injEq, Prod.mk.injEq, Int32.toInt_inj,
    Int32.toInt_inj, Int64.toInt_inj] at isRead
  obtain ⟨months, days, microseconds⟩ := isRead
  cases i
  cases j
  simp_all

end Interval

end SqlCompose
