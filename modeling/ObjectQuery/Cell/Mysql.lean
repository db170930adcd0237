/-
Cells and parameters of MySQL.

Dates and times come out as MySQL writes them: a date without a time of day is written alone, and a
fraction only where there is one. Times are durations; their days count as hours, and a time with
more hours than fit in 32 bits has no value.
-/
import ObjectQuery.Number.Padded
import ObjectQuery.Text.Utf8
import ObjectQuery.Value

namespace ObjectQuery
namespace Cell

inductive Mysql
  | null
  | bytes (value : List UInt8)
  | int (value : Int64)
  | uint (value : UInt64)
  | float (value : Number.Single)
  | double (value : Number.Double)
  | date (year : UInt16) (month day hour minute second : UInt8) (micros : UInt32)
  | time (negative : Bool) (days : UInt32) (hours minutes seconds : UInt8) (micros : UInt32)
  deriving DecidableEq

namespace Mysql

/-- Hours, minutes and seconds, and the fraction if there is one. -/
def writeClock (hours minutes seconds micros : Nat) : List Char :=
  Number.padded 2 hours ++ ':' :: Number.padded 2 minutes ++ ':' :: Number.padded 2 seconds
    ++ (if micros = 0 then [] else '.' :: Number.padded 6 micros)

/-- A date, and the time of day if it is not midnight. -/
def writeDate (year month day hour minute second micros : Nat) : List Char :=
  Number.padded 4 year ++ '-' :: Number.padded 2 month ++ '-' :: Number.padded 2 day
    ++ (if hour = 0 ∧ minute = 0 ∧ second = 0 ∧ micros = 0 then []
      else ' ' :: writeClock hour minute second micros)

/-- A duration. -/
def writeTime (negative : Bool) (hours minutes seconds micros : Nat) : List Char :=
  (if negative then ['-'] else []) ++ writeClock hours minutes seconds micros

/-- The hours of a duration, those of its days included, unless 32 bits overflow. -/
def hours? (days : UInt32) (hours : UInt8) : Option UInt32 :=
  let total := hours.toNat + days.toNat * 24
  if total < 4294967296 then some (UInt32.ofNat total) else none

/-- The value of a cell. Numbers beyond the largest signed one, dates and times become texts. There
is no value where the hours of a time overflow. -/
def toValue? : Mysql → Option Value
  | null => some .null
  | bytes value => some (.text (Text.Utf8.decodeLossy value))
  | int value => some (.int value)
  | uint value =>
    if value.toNat < 9223372036854775808 then some (.int (Int64.ofNat value.toNat))
    else some (.text (toString value.toNat))
  | float value => some (.float (value.convert .double))
  | double value => some (.float value)
  | date year month day hour minute second micros =>
    some (.text (String.ofList
      (writeDate year.toNat month.toNat day.toNat hour.toNat minute.toNat second.toNat
        micros.toNat)))
  | time negative days hours minutes seconds micros => do
    let hours ← hours? days hours
    return .text (String.ofList
      (writeTime negative hours.toNat minutes.toNat seconds.toNat micros.toNat))

/-- A value as a parameter. Booleans are sent as numbers, and texts as bytes. -/
def ofValue : Value → Mysql
  | .null => null
  | .bool value => int (if value then 1 else 0)
  | .int value => int value
  | .float value => double value
  | .text value => bytes (Text.Utf8.encode value)

end Mysql
end Cell
end ObjectQuery
