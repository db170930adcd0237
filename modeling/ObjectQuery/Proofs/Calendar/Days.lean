/-
Days and microseconds count every date and time once.

A day number is taken apart into a span of four hundred years, a year of the span that starts in
March, and a day of that year; put together again it is the same number.  A number of microseconds
falls on one day and into one microsecond of it.
-/
import ObjectQuery.Calendar.Time

namespace ObjectQuery
namespace Calendar

namespace Date

/-- The days of a span before one of its years. -/
def yearStart (year : Nat) : Nat := 365 * year + year / 4 - year / 100

/-- A day of a span is at most the last of the year that it is counted to. -/
theorem yearOfSpan_bounds {day : Nat} (within : day < 146097) :
    yearOfSpan day ≤ 399 ∧ yearStart (yearOfSpan day) ≤ day ∧
      day ≤ yearStart (yearOfSpan day) + 365 := by
  -- With the centuries known, everything else is linear.
  have century : day / 36524 = 0 ∨ day / 36524 = 1 ∨ day / 36524 = 2 ∨ day / 36524 = 3 ∨
      day / 36524 = 4 := by omega
  have last : day / 146096 = 0 ∨ day / 146096 = 1 := by omega
  unfold yearOfSpan yearStart
  rcases century with days | days | days | days | days <;>
    rcases last with leap | leap <;> rw [days, leap] <;>
    generalize made : (day - day / 1460 + _ - _) / 365 = year <;>
    have centuries : year / 100 = 0 ∨ year / 100 = 1 ∨ year / 100 = 2 ∨ year / 100 = 3 := by omega
  all_goals rcases centuries with years | years | years | years <;> rw [years] <;> omega

theorem daysBeforeYear_span (span : Int) {year : Nat} (within : year ≤ 399) :
    daysBeforeYear (span * 400 + year) = 146097 * span + yearStart year := by
  have fourth : (span * 400 + year) / 4 = 100 * span + (year / 4 : Nat) := by omega
  have century : (span * 400 + year) / 100 = 4 * span + (year / 100 : Nat) := by omega
  have whole : (span * 400 + year) / 400 = span := by omega
  unfold daysBeforeYear yearStart
  rw [fourth, century, whole]
  omega

theorem dayNumber_ofDayNumber (number : Int) : (ofDayNumber number).dayNumber = number := by
  have split : 146097 * ((number + epoch) / 146097) +
      (((number + epoch) % 146097).toNat : Int) = number + epoch := by omega
  have within : ((number + epoch) % 146097).toNat < 146097 := by omega
  simp only [ofDayNumber]
  generalize (number + epoch) / 146097 = span at *
  generalize ((number + epoch) % 146097).toNat = day at *
  obtain ⟨year_le, start_le, le_end⟩ := yearOfSpan_bounds within
  have before := daysBeforeYear_span span year_le
  rw [show 365 * yearOfSpan day + yearOfSpan day / 4 - yearOfSpan day / 100 =
    yearStart (yearOfSpan day) from rfl]
  generalize yearOfSpan day = year at *
  generalize yearStart year = start at *
  obtain ⟨dayOfYear, rfl⟩ : ∃ dayOfYear, day = start + dayOfYear := ⟨day - start, by omega⟩
  rw [Nat.add_sub_cancel_left]
  have month_le : (5 * dayOfYear + 2) / 153 ≤ 11 := by omega
  have month_start : daysBeforeMonth ((5 * dayOfYear + 2) / 153) ≤ dayOfYear := by
    rw [daysBeforeMonth]
    omega
  generalize (5 * dayOfYear + 2) / 153 = month at *
  split
  · have marched : (month + 3 + 9) % 12 = month := by omega
    simp only [dayNumber]
    rw [if_neg (by omega), marched, before]
    omega
  · have marched : (month - 9 + 9) % 12 = month := by omega
    simp only [dayNumber]
    rw [if_pos (by omega), marched, Int.add_sub_cancel, before]
    omega

section

variable {date : Date} (valid : date.isValid = true)

include valid

theorem year_of_isValid : firstYear ≤ date.year ∧ date.year ≤ lastYear := by
  simp only [isValid, Bool.and_eq_true, decide_eq_true_eq] at valid
  exact ⟨valid.1.1.1.1.1, valid.1.1.1.1.2⟩

theorem month_day_of_isValid :
    (1 ≤ date.month ∧ date.month ≤ 12) ∧ 1 ≤ date.day ∧ date.day ≤ 31 := by
  have length : daysInMonth date.year date.month ≤ 31 := by
    unfold daysInMonth
    split
    · split <;> decide
    · split <;> decide
  simp only [isValid, Bool.and_eq_true, decide_eq_true_eq] at valid
  exact ⟨⟨valid.1.1.1.2, valid.1.1.2⟩, valid.1.2, Nat.le_trans valid.2 length⟩

end

end Date

namespace Time

/-- A time of day in whole microseconds, outside leap seconds. -/
structure Regular (time : Time) : Prop where
  second_lt : time.second < daySeconds
  nanosecond_lt : time.nanosecond < 1000000000
  whole : time.nanosecond % 1000 = 0

theorem regular_ofMicroseconds (microseconds : Int) : (ofMicroseconds microseconds).Regular := by
  have day : dayMicroseconds = 86400000000 := rfl
  have seconds : daySeconds = 86400 := rfl
  constructor <;> simp only [ofMicroseconds, day, seconds] <;> omega

theorem nanoseconds_ofMicroseconds (microseconds : Int) :
    ((ofMicroseconds microseconds).nanoseconds : Int) =
      microseconds % (dayMicroseconds : Int) * 1000 := by
  have day : dayMicroseconds = 86400000000 := rfl
  simp only [nanoseconds, ofMicroseconds, day]
  omega

end Time

namespace Moment

theorem ofMicroseconds?_eq_some {microseconds : Int} {moment : Moment}
    (supported : ofMicroseconds? microseconds = some moment) :
    moment.date = Date.ofDayNumber (microseconds / (dayMicroseconds : Int)) ∧
      moment.date.isValid = true ∧ moment.time = .ofMicroseconds microseconds := by
  simp only [ofMicroseconds?] at supported
  split at supported
  · next valid =>
    rw [Option.some.injEq] at supported
    subst supported
    exact ⟨rfl, valid, rfl⟩
  · contradiction

/-- A moment is as many microseconds after the start of the year 2000 as it was made from. -/
theorem microseconds_ofMicroseconds? {microseconds : Int} {moment : Moment}
    (supported : ofMicroseconds? microseconds = some moment) :
    moment.microseconds 0 = microseconds := by
  obtain ⟨date, _, time⟩ := ofMicroseconds?_eq_some supported
  have day : (dayMicroseconds : Int) = daySeconds * 1000000 := rfl
  have seconds : (daySeconds : Int) = 86400 := rfl
  have exact : (moment.date.dayNumber * daySeconds - 0) * 1000000000 +
      (moment.time.nanoseconds : Int) = microseconds * 1000 := by
    rw [date, time, Date.dayNumber_ofDayNumber, Time.nanoseconds_ofMicroseconds, day, seconds]
    omega
  rw [Moment.microseconds, exact, Int.mul_tdiv_cancel _ (by decide)]

end Moment

end Calendar
end ObjectQuery
