/-
Times of day, and points in time.

A leap second is the second before it, prolonged: its nanoseconds go on from a thousand million.
Points in time count microseconds from the start of the year 2000.
-/
import ObjectQuery.Calendar.Date

namespace ObjectQuery
namespace Calendar

def daySeconds : Nat := 86400

/-- The microseconds of a day. -/
def dayMicroseconds : Nat := daySeconds * 1000000

/-- A time of day: the seconds since midnight, and the nanoseconds after them. -/
structure Time where
  second : Nat
  nanosecond : Nat
  deriving DecidableEq

namespace Time

/-- The time of an hour, a minute, a second and a fraction. The sixtieth second is a leap second. -/
def ofClock (hour minute second nanosecond : Nat) : Time :=
  let start := hour * 3600 + minute * 60
  if second < 60 then ⟨start + second, nanosecond⟩ else ⟨start + 59, 1000000000 + nanosecond⟩

/-- The time a number of microseconds after midnight, going on at midnight of the next day. -/
def ofMicroseconds (microseconds : Int) : Time :=
  let rest := (microseconds % (dayMicroseconds : Int)).toNat
  ⟨rest / 1000000, rest % 1000000 * 1000⟩

/-- The nanoseconds since midnight. -/
def nanoseconds (time : Time) : Nat := time.second * 1000000000 + time.nanosecond

/-- The fraction of a second in three, six or nine digits, none if it is zero. -/
def writeFraction (nanosecond : Nat) : List Char :=
  if nanosecond = 0 then []
  else if nanosecond % 1000000 = 0 then '.' :: Number.padded 3 (nanosecond / 1000000)
  else if nanosecond % 1000 = 0 then '.' :: Number.padded 6 (nanosecond / 1000)
  else '.' :: Number.padded 9 nanosecond

/-- The time as hours, minutes and seconds. -/
def write (time : Time) : List Char :=
  let leap := time.nanosecond / 1000000000
  Number.padded 2 (time.second / 3600) ++ ':' :: Number.padded 2 (time.second / 60 % 60)
    ++ ':' :: Number.padded 2 (time.second % 60 + leap)
    ++ writeFraction (time.nanosecond % 1000000000)

end Time

/-- A time on a date. -/
structure Moment where
  date : Date
  time : Time
  deriving DecidableEq

namespace Moment

/-- The microseconds since the start of the year 2000 where clocks are ahead by a number of seconds,
parts of a microsecond dropped toward that start. -/
def microseconds (moment : Moment) (ahead : Int) : Int :=
  Int.tdiv
    ((moment.date.dayNumber * daySeconds - ahead) * 1000000000 + (moment.time.nanoseconds : Nat))
    1000

/-- The moment a number of microseconds after the start of the year 2000, if its year is
supported. -/
def ofMicroseconds? (microseconds : Int) : Option Moment :=
  let date := Date.ofDayNumber (microseconds / (dayMicroseconds : Int))
  if date.isValid then some ⟨date, .ofMicroseconds microseconds⟩ else none

/-- The moment as date and time with a mark between them. -/
def write (mark : Char) (moment : Moment) : List Char :=
  moment.date.write ++ mark :: moment.time.write

end Moment
end Calendar
end ObjectQuery
