/-
# Spans as the server prints them

A database server has a text form for spans, too: the years, the months and the days that are not
zero, then the clock time unless it is zero and something stands before it.  Each field has its own
sign, and a positive field behind a negative one has a plus sign, so that `-1 mons +1 day` is not
taken for a month and a day less.

The text of a span here is that of the server without the plus signs.  So the two agree exactly
if no positive field comes directly behind a negative one (`Interval.text_eq_serverText_iff`), and
they differ where a month less meets a day more (`Interval.day_behind_less_months`).
-/

import SqlCompose.Proofs.IntervalTexts
import Mathlib.Data.List.Chain

namespace SqlCompose

open Decimal
open Decimal.Numeral (padded)

namespace Interval

/-! ## The text of the server -/

/-- A field that the server prints: its value, and the text of it with the minus sign of a negative
value. -/
structure ServerField where
  value : Int
  text : List Char

/-- The field of a unit, which is not printed for zero. -/
def serverUnit (n : Int) (unit : String) : List ServerField :=
  if n = 0 then []
  else [⟨n, Numeral.ofInt n ++ ' ' :: (unit.toList ++ if n = 1 then [] else ['s'])⟩]

/-- The clock time.  It is divided toward zero, so each part has the sign of the whole, and the
minus sign is printed once in front. -/
def serverClock (time : Int) : List Char :=
  let hours := time.tdiv 3600000000
  let minutes := (time.tmod 3600000000).tdiv 60000000
  let seconds := (time.tmod 60000000).tdiv 1000000
  let fraction := time.tmod 1000000
  let sign := if hours < 0 ∨ minutes < 0 ∨ seconds < 0 ∨ fraction < 0 then ['-'] else []
  let digits := (padded 6 fraction.natAbs).rdropWhile (· = '0')
  sign ++ padded 2 hours.natAbs ++ ':' :: (padded 2 minutes.natAbs ++
    ':' :: (padded 2 seconds.natAbs ++ if fraction = 0 then [] else '.' :: digits))

/-- The fields that the server prints before the clock time. -/
def serverCalendar (i : Interval) : List ServerField :=
  serverUnit (i.months.toInt.tdiv 12) "year" ++
    (serverUnit (i.months.toInt.tmod 12) "mon" ++ serverUnit i.days.toInt "day")

/-- The fields that the server prints for a span. -/
def serverFields (i : Interval) : List ServerField :=
  let time := i.microseconds.toInt
  i.serverCalendar ++ if time ≠ 0 ∨ i.serverCalendar = [] then [⟨time, serverClock time⟩] else []

/-- The texts of fields with a plus sign on each positive one behind a negative one. -/
def signed (behindNegative : Bool) : List ServerField → List (List Char)
  | [] => []
  | f :: rest =>
    (if behindNegative ∧ 0 < f.value then '+' :: f.text else f.text) :: signed (f.value < 0) rest

/-- The text that the server prints for a span. -/
def serverText (i : Interval) : String :=
  String.ofList ([' '].intercalate (signed false i.serverFields))

/-! ## Plus signs -/

/-- No plus sign is printed exactly if no positive field comes directly behind a negative one. -/
theorem signed_eq_iff (behindNegative : Bool) (fs : List ServerField) :
    signed behindNegative fs = fs.map ServerField.text ↔
      (∀ f ∈ fs.head?, behindNegative = true → f.value ≤ 0) ∧
        fs.IsChain fun f g => f.value < 0 → g.value ≤ 0 := by
  induction fs generalizing behindNegative with
  | nil => simp [signed]
  | cons f rest ih =>
      have first : (if behindNegative = true ∧ 0 < f.value then '+' :: f.text else f.text) = f.text ↔
          (behindNegative = true → f.value ≤ 0) := by
        split
        case isTrue plus => simp [plus]
        case isFalse bare =>
          refine iff_of_true rfl fun negative => ?_
          exact Int.not_lt.mp fun positive => bare ⟨negative, positive⟩
      have others := ih (f.value < 0)
      rw [signed, List.map_cons, List.cons.injEq, first, others, List.isChain_cons]
      simp

/-- Without its plus signs a text is what the fields print. -/
theorem filter_signed (behindNegative : Bool) {fs : List ServerField}
    (noPlus : ∀ f ∈ fs, '+' ∉ f.text) :
    (signed behindNegative fs).map (List.filter (· ≠ '+')) = fs.map ServerField.text := by
  induction fs generalizing behindNegative with
  | nil => rfl
  | cons f rest ih =>
      rw [List.forall_mem_cons] at noPlus
      have bare : f.text.filter (· ≠ '+') = f.text := by
        rw [List.filter_eq_self]
        intro c inside
        rw [decide_eq_true_iff]
        exact fun plus => noPlus.1 (plus ▸ inside)
      have first : (if behindNegative = true ∧ 0 < f.value then '+' :: f.text
          else f.text).filter (· ≠ '+') = f.text := by
        split
        · rw [List.filter_cons_of_neg (by decide), bare]
        · exact bare
      rw [signed, List.map_cons, List.map_cons, first, ih _ noPlus.2]

theorem filter_intercalate (p : Char → Bool) (separator : List Char) (ls : List (List Char)) :
    (separator.intercalate ls).filter p =
      (separator.filter p).intercalate (ls.map (List.filter p)) := by
  induction ls with
  | nil => rfl
  | cons l rest ih =>
      cases rest with
      | nil => simp
      | cons m rest =>
          rw [List.intercalate_cons_cons, List.filter_append, List.filter_append, ih, List.map_cons,
            List.map_cons, List.map_cons, List.intercalate_cons_cons]

/-- A character of a text apart from its separators is one of what they separate. -/
theorem mem_intercalate_iff {c : Char} {separator : List Char} (other : c ∉ separator)
    (ls : List (List Char)) : c ∈ separator.intercalate ls ↔ ∃ l ∈ ls, c ∈ l := by
  induction ls with
  | nil => simp
  | cons l rest ih =>
      cases rest with
      | nil => simp
      | cons m rest =>
          rw [List.intercalate_cons_cons, List.mem_append, List.mem_append, ih]
          simp [other]

/-! ## The fields of both texts -/

/-- A time is negative exactly if one of the parts is into which it is divided toward zero. -/
theorem exists_negative_part_iff (time : Int) :
    (time.tdiv 3600000000 < 0 ∨ (time.tmod 3600000000).tdiv 60000000 < 0 ∨
      (time.tmod 60000000).tdiv 1000000 < 0 ∨ time.tmod 1000000 < 0) ↔ time < 0 := by
  have divided {n : Int} (positive : 0 ≤ n) : n.tdiv 3600000000 = n / 3600000000 ∧
      (n.tmod 3600000000).tdiv 60000000 = n % 3600000000 / 60000000 ∧
        (n.tmod 60000000).tdiv 1000000 = n % 60000000 / 1000000 ∧
          n.tmod 1000000 = n % 1000000 := by
    have parts (k : Int) (filled : k ≠ 0) : 0 ≤ n % k := Int.emod_nonneg n filled
    simp only [Int.tmod_eq_emod_of_nonneg positive, Int.tdiv_eq_ediv_of_nonneg positive,
      Int.tdiv_eq_ediv_of_nonneg (parts 3600000000 (by decide)),
      Int.tdiv_eq_ediv_of_nonneg (parts 60000000 (by decide)), and_self]
  by_cases positive : 0 ≤ time
  · obtain ⟨hours, minutes, seconds, fraction⟩ := divided positive
    rw [hours, minutes, seconds, fraction]
    omega
  · obtain ⟨n, rfl⟩ : ∃ n, time = -n := ⟨-time, by omega⟩
    obtain ⟨hours, minutes, seconds, fraction⟩ := divided (by omega : 0 ≤ n)
    simp only [Int.neg_tdiv, Int.neg_tmod, hours, minutes, seconds, fraction]
    omega

theorem serverClock_eq (time : Int) : serverClock time = (clockText time).toList := by
  have fraction : time.tmod 1000000 = 0 ↔ time.natAbs % 1000000 = 0 := by
    rw [← Int.natAbs_eq_zero, Int.natAbs_tmod]
    rfl
  have minutes : time.natAbs % 3600000000 / 60000000 = time.natAbs / 1000000 / 60 % 60 := by omega
  have hours : time.natAbs / 3600000000 = time.natAbs / 1000000 / 3600 := by omega
  have seconds : time.natAbs % 60000000 / 1000000 = time.natAbs / 1000000 % 60 := by omega
  have parts : (time.tdiv 3600000000).natAbs = time.natAbs / 3600000000 ∧
      ((time.tmod 3600000000).tdiv 60000000).natAbs = time.natAbs % 3600000000 / 60000000 ∧
        ((time.tmod 60000000).tdiv 1000000).natAbs = time.natAbs % 60000000 / 1000000 ∧
          (time.tmod 1000000).natAbs = time.natAbs % 1000000 := by
    simp only [Int.natAbs_tdiv, Int.natAbs_tmod]
    exact ⟨rfl, rfl, rfl, rfl⟩
  simp only [serverClock, exists_negative_part_iff, toList_clockText, timeText, secondsText, parts,
    fraction, minutes, hours, seconds, List.append_assoc]
  rfl

theorem map_text_serverUnit (n : Int) (unit : String) :
    (serverUnit n unit).map ServerField.text = (unitField n unit).map [' '].intercalate := by
  unfold serverUnit unitField unitName
  split
  case isTrue => rfl
  case isFalse => split <;> simp [List.intercalate_cons_cons]

theorem map_text_serverCalendar (i : Interval) :
    i.serverCalendar.map ServerField.text = i.calendarFields.map [' '].intercalate := by
  simp only [serverCalendar, calendarFields, List.map_append, map_text_serverUnit, years,
    monthsOfYear]

/-- Plus signs apart, the server prints the same fields. -/
theorem map_text_serverFields (i : Interval) :
    i.serverFields.map ServerField.text = i.fields.map [' '].intercalate := by
  have calendar := i.map_text_serverCalendar
  have none_iff : i.serverCalendar = [] ↔ i.calendarFields = [] := by
    rw [← List.map_eq_nil_iff (f := ServerField.text), calendar, List.map_eq_nil_iff]
  rw [serverFields, fields, List.map_append, List.map_append, calendar, clockField]
  by_cases leftOut : i.microseconds.toInt = 0 ∧ i.calendarFields ≠ []
  · have skipped : ¬ (i.microseconds.toInt ≠ 0 ∨ i.serverCalendar = []) :=
      not_or.mpr ⟨not_not.mpr leftOut.1, mt none_iff.mp leftOut.2⟩
    rw [if_neg skipped, if_pos leftOut]
    rfl
  · have printed : i.microseconds.toInt ≠ 0 ∨ i.serverCalendar = [] := by
      rw [none_iff]
      by_contra skipped
      exact leftOut ⟨not_not.mp (not_or.mp skipped).1, (not_or.mp skipped).2⟩
    rw [if_pos printed, if_neg leftOut, List.map_singleton, List.map_singleton,
      List.intercalate_singleton, serverClock_eq]

/-- What the server prints for a field has no plus sign of its own. -/
theorem plus_notMem_of_mem_serverFields (i : Interval) : ∀ f ∈ i.serverFields, '+' ∉ f.text := by
  intro f inFields plus
  have printed : f.text ∈ i.fields.map [' '].intercalate := by
    rw [← map_text_serverFields]
    exact List.mem_map_of_mem inFields
  obtain ⟨g, inside, isText⟩ := List.mem_map.mp printed
  have noPlus : ¬ IsPlain '+' := by
    unfold IsPlain
    decide
  rw [← isText, mem_intercalate_iff (by decide)] at plus
  obtain ⟨w, inField, plus⟩ := plus
  exact noPlus (i.isPlain_of_mem_fields g inside w inField '+' plus)

/-! ## Both texts -/

theorem toList_serverText (i : Interval) :
    i.serverText.toList = [' '].intercalate (signed false i.serverFields) :=
  String.toList_ofList

/-- Without its plus signs the text of the server is the text of the span. -/
theorem filter_serverText (i : Interval) :
    i.serverText.toList.filter (· ≠ '+') = i.text.toList := by
  rw [toList_serverText, filter_intercalate, filter_signed _ i.plus_notMem_of_mem_serverFields,
    map_text_serverFields, toList_text_fields]
  rfl

/-- The texts agree exactly if the server prints no plus sign. -/
theorem text_eq_iff_signed (i : Interval) :
    i.text = i.serverText ↔
      signed false i.serverFields = i.serverFields.map ServerField.text := by
  constructor
  · intro same
    have noPlus : ∀ w ∈ signed false i.serverFields, w.filter (· ≠ '+') = w := by
      intro w printed
      rw [List.filter_eq_self]
      intro c inside
      rw [decide_eq_true_iff]
      rintro rfl
      have inText : '+' ∈ i.text.toList := by
        rw [same, toList_serverText, mem_intercalate_iff (by decide)]
        exact ⟨w, printed, inside⟩
      rw [← filter_serverText] at inText
      exact absurd (List.mem_filter.mp inText).2 (by decide)
    rw [← filter_signed false i.plus_notMem_of_mem_serverFields, List.map_congr_left noPlus,
      List.map_id']
  · intro bare
    rw [← String.toList_inj, toList_serverText, bare, map_text_serverFields, toList_text_fields]

/-- The sign of the months is that of the years and of the months that are left. -/
theorem months_parts (i : Interval) : 12 * i.months.toInt.tdiv 12 + i.months.toInt.tmod 12 =
    i.months.toInt ∧ (0 ≤ i.months.toInt → 0 ≤ i.months.toInt.tmod 12) ∧
      (i.months.toInt ≤ 0 → i.months.toInt.tmod 12 ≤ 0) ∧
        -12 < i.months.toInt.tmod 12 ∧ i.months.toInt.tmod 12 < 12 := by
  refine ⟨Int.mul_tdiv_add_tmod _ 12, Int.tmod_nonneg 12, fun negative => ?_,
    Int.lt_tmod_of_pos _ (by decide), Int.tmod_lt_of_pos _ (by decide)⟩
  have flipped := Int.tmod_nonneg 12 (Int.neg_nonneg_of_nonpos negative)
  rw [Int.neg_tmod] at flipped
  omega

/-- A positive field comes directly behind a negative one if a day or a time more follows months
less, or a time more follows days less. -/
theorem isChain_serverFields_iff (i : Interval) :
    (i.serverFields.IsChain fun f g => f.value < 0 → g.value ≤ 0) ↔
      (i.months.toInt < 0 → i.days.toInt ≤ 0 ∧ (i.days.toInt = 0 → i.microseconds.toInt ≤ 0)) ∧
        (i.days.toInt < 0 → i.microseconds.toInt ≤ 0) := by
  have parts := i.months_parts
  unfold serverFields serverCalendar serverUnit
  by_cases years : i.months.toInt.tdiv 12 = 0 <;> by_cases months : i.months.toInt.tmod 12 = 0 <;>
    by_cases days : i.days.toInt = 0 <;> by_cases time : i.microseconds.toInt = 0 <;>
      simp [years, months, days, time] at parts ⊢ <;> omega

/-- The text of a span is that of the server without its plus signs.  It is that of the server as it
stands exactly if no days or time more come behind months less, and no time more behind days
less. -/
theorem text_eq_serverText_iff (i : Interval) :
    i.serverText.toList.filter (· ≠ '+') = i.text.toList ∧
      (i.text = i.serverText ↔
        (i.months.toInt < 0 → i.days.toInt ≤ 0 ∧ (i.days.toInt = 0 → i.microseconds.toInt ≤ 0)) ∧
          (i.days.toInt < 0 → i.microseconds.toInt ≤ 0)) := by
  refine ⟨i.filter_serverText, ?_⟩
  rw [text_eq_iff_signed, signed_eq_iff, isChain_serverFields_iff]
  exact and_iff_right fun f _ impossible => absurd impossible (by decide)

/-- A day more behind a month less. -/
theorem day_behind_less_months :
    let i : Interval := ⟨-1, 1, 0⟩
    i.text = "-1 mons 1 day" ∧ i.serverText = "-1 mons +1 day" ∧ i.text ≠ i.serverText := by
  decide +kernel

end Interval

end SqlCompose
