/-
Dates of the Gregorian calendar, extended over all years, and their day numbers.

Day 0 is the first of January 2000. The year is counted from March, so that the leap day is its last
day and the lengths of the months repeat every five months. Four hundred years have 146097 days.
-/
import ObjectQuery.Number.Padded

namespace ObjectQuery
namespace Calendar

/-- A year, a month from 1 and a day from 1. -/
structure Date where
  year : Int
  month : Nat
  day : Nat
  deriving DecidableEq

namespace Date

/-- The first year that is supported. -/
def firstYear : Int := -262143

/-- The last year that is supported. -/
def lastYear : Int := 262142

def isLeap (year : Int) : Bool := year % 4 = 0 && (year % 100 ≠ 0 || year % 400 = 0)

/-- The number of days of a month. -/
def daysInMonth (year : Int) (month : Nat) : Nat :=
  if month = 2 then if isLeap year then 29 else 28
  else if month = 4 ∨ month = 6 ∨ month = 9 ∨ month = 11 then 30
  else 31

/-- Whether there is such a day, in a supported year. -/
def isValid (date : Date) : Bool :=
  firstYear ≤ date.year && date.year ≤ lastYear
    && 1 ≤ date.month && date.month ≤ 12
    && 1 ≤ date.day && date.day ≤ daysInMonth date.year date.month

/-- The days from the first of March of a year to the first of a month, the months counted from
March. -/
def daysBeforeMonth (month : Nat) : Nat := (153 * month + 2) / 5

/-- The days from the first of March of the year 0 to the first of March of a year. -/
def daysBeforeYear (year : Int) : Int := 365 * year + year / 4 - year / 100 + year / 400

/-- The day number of the first of March of the year 0, with the opposite sign. -/
def epoch : Int := 730425

/-- The number of a day. -/
def dayNumber (date : Date) : Int :=
  let year := if date.month ≤ 2 then date.year - 1 else date.year
  daysBeforeYear year + (daysBeforeMonth ((date.month + 9) % 12) : Nat) + date.day - 1 - epoch

/-- The year, counted from March, of a day of a span of four hundred years. -/
def yearOfSpan (day : Nat) : Nat := (day - day / 1460 + day / 36524 - day / 146096) / 365

/-- The day with a number. -/
def ofDayNumber (number : Int) : Date :=
  let days := number + epoch
  let span := days / 146097
  let day := (days % 146097).toNat
  let year := yearOfSpan day
  let dayOfYear := day - (365 * year + year / 4 - year / 100)
  let month := (5 * dayOfYear + 2) / 153
  let dayOfMonth := dayOfYear - daysBeforeMonth month + 1
  if month < 10 then ⟨span * 400 + year, month + 3, dayOfMonth⟩
  else ⟨span * 400 + year + 1, month - 9, dayOfMonth⟩

/-- A year in at least four digits, with a sign where four digits do not suffice. -/
def writeYear (year : Int) : List Char :=
  if 0 ≤ year ∧ year ≤ 9999 then Number.padded 4 year.toNat
  else (if year < 0 then '-' else '+') :: Number.padded 4 year.natAbs

/-- The date as year, month and day. -/
def write (date : Date) : List Char :=
  writeYear date.year ++ '-' :: Number.padded 2 date.month ++ '-' :: Number.padded 2 date.day

end Date
end Calendar
end ObjectQuery
