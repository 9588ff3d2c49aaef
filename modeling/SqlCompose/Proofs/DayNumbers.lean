/-
# Days and moments by number

A server sends a day as the number of days since 2000-01-01 and a moment as the number of
microseconds since the first of that day, and both are sent back in the same way.  The date that is
found for a number has that number (`Date.dayNumber_of_ofDayNumber?`), and so has the
timestamp (`Timestamp.microseconds_of_ofMicroseconds?`): the years and the months are found by
division and by search, and counting them again gives the days that were divided up.
-/

import SqlCompose.Calendar.Timestamp
import Mathlib.Tactic.Common

namespace SqlCompose

open Calendar

namespace Date

/-- Four centuries have 146097 days, a century 36524, four years 1461 and a year 365, wherever they
begin. -/
theorem daysBeforeYear_eq (cycle : Int) {century quad single : Nat} (centuries : century ≤ 3)
    (quads : quad ≤ 24) (singles : single ≤ 3) :
    daysBeforeYear (400 * cycle + 100 * century + 4 * quad + single + 1) =
      146097 * cycle + 36524 * century + 1461 * quad + 365 * single := by
  have fourth : (400 * cycle + 100 * century + 4 * quad + single) / 4 =
      100 * cycle + 25 * century + quad := by omega
  have hundredth : (400 * cycle + 100 * century + 4 * quad + single) / 100 =
      4 * cycle + century := by omega
  have fourHundredth : (400 * cycle + 100 * century + 4 * quad + single) / 400 = cycle := by omega
  rw [daysBeforeYear, Int.add_sub_cancel, fourth, hundredth, fourHundredth]
  omega

/-- The days of a number are those before its year and those of the year. -/
theorem daysBeforeYear_splitYear (days : Int) :
    daysBeforeYear (splitYear days).1 + (splitYear days).2 = days := by
  obtain ⟨inCycle, isRest⟩ : ∃ n : Nat, n = (days % 146097).toNat := ⟨_, rfl⟩
  obtain ⟨century, isCentury⟩ : ∃ n : Nat, n = min (inCycle / 36524) 3 := ⟨_, rfl⟩
  obtain ⟨inCentury, isInCentury⟩ : ∃ n : Nat, n = inCycle - century * 36524 := ⟨_, rfl⟩
  obtain ⟨single, isSingle⟩ : ∃ n : Nat, n = min (inCentury % 1461 / 365) 3 := ⟨_, rfl⟩
  have split : splitYear days =
      (400 * (days / 146097) + 100 * century + 4 * (inCentury / 1461 : Nat) + single + 1,
        inCentury % 1461 - single * 365) := by
    simp only [splitYear, ← isRest, ← isCentury, ← isInCentury, ← isSingle]
  rw [split, daysBeforeYear_eq _ (by omega) (by omega) (by omega)]
  omega

/-- The days before a month that is found are those of the months passed over and the days of the
month itself. -/
theorem daysBeforeMonth_splitMonth (year : Int) (months month rest : Nat) (started : 0 < month) :
    daysBeforeMonth year (splitMonth year months month rest).1 +
        (splitMonth year months month rest).2 = daysBeforeMonth year month + rest + 1 := by
  induction months generalizing month rest with
  | zero => simp [splitMonth, Nat.add_assoc]
  | succ months ih =>
      unfold splitMonth
      split
      case isTrue => simp [Nat.add_assoc]
      case isFalse beyond =>
        rw [ih (month + 1) _ (by omega), daysBeforeMonth, if_neg (by omega)]
        omega

theorem ofParts?_eq_some {year : Int} {month day : Nat} {d : Date}
    (found : ofParts? year month day = some d) : d.year = year ∧ d.month = month ∧ d.day = day := by
  unfold ofParts? at found
  split at found
  case isTrue =>
    obtain rfl := Option.some.inj found
    exact ⟨rfl, rfl, rfl⟩
  case isFalse => cases found

/-- The date that is found for a number of days has that number. -/
theorem dayNumber_of_ofDayNumber? {days : Int} {d : Date} (found : ofDayNumber? days = some d) :
    d.dayNumber = days := by
  let split := splitYear (days + epochOffset)
  let inYear := splitMonth split.1 11 1 split.2
  have found : ofParts? split.1 inYear.1 inYear.2 = some d := found
  obtain ⟨year, month, day⟩ := ofParts?_eq_some found
  have years : daysBeforeYear split.1 + split.2 = days + epochOffset := daysBeforeYear_splitYear _
  have months : daysBeforeMonth split.1 inYear.1 + inYear.2 = 0 + split.2 + 1 :=
    daysBeforeMonth_splitMonth split.1 11 1 split.2 (by decide)
  rw [dayNumber, year, month, day]
  clear_value inYear split
  omega

end Date

namespace Timestamp

theorem ofParts?_eq_some {date : Date} {hour minute second nanosecond : Nat} {t : Timestamp}
    (found : ofParts? date hour minute second nanosecond = some t) :
    t.date = date ∧ t.hour.val = hour ∧ t.minute.val = minute ∧ t.second.val = second ∧
      t.nanosecond.val = nanosecond := by
  unfold ofParts? at found
  split at found
  case isTrue =>
    obtain rfl := Option.some.inj found
    exact ⟨rfl, rfl, rfl, rfl, rfl⟩
  case isFalse => cases found

/-- The timestamp that is found for a number of microseconds has that number. -/
theorem microseconds_of_ofMicroseconds? {microseconds : Int} {t : Timestamp}
    (found : ofMicroseconds? microseconds = some t) : t.microseconds = microseconds := by
  obtain ⟨date, foundDate, found⟩ := Option.bind_eq_some_iff.mp found
  obtain ⟨rfl, hour, minute, second, nanosecond⟩ := ofParts?_eq_some found
  have days := Date.dayNumber_of_ofDayNumber? foundDate
  have exact : (t.date.dayNumber * 86400 + t.secondOfDay) * 1000000000 + t.nanosecond.val =
      microseconds * 1000 := by
    rw [days, secondOfDay, hour, minute, second, nanosecond]
    omega
  rw [Timestamp.microseconds, exact, Int.mul_tdiv_cancel _ (by decide)]

end Timestamp

end SqlCompose
