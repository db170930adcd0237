/-
Scalar values: the literals of filters and the cells of results.

Dates and timestamps are texts.
-/
import ObjectQuery.Json.Basic
import ObjectQuery.Number.Layout

namespace ObjectQuery

inductive Value
  | null
  | bool (value : Bool)
  | int (value : Int64)
  | float (value : Number.Double)
  | text (value : String)
  deriving DecidableEq

namespace Value

/-- The value as people read it. -/
def display : Value → String
  | null => "null"
  | bool value => if value then "true" else "false"
  | int value => toString value.toInt
  | float value => Number.Layout.plain.write value
  | text value => value

/-- The value in JSON, which has no number that is not finite. -/
def toJson : Value → Json
  | null => .null
  | bool value => .bool value
  | int value => .number (.ofInt64 value)
  | float value =>
    match JsonNumber.ofDouble? value with
    | some number => .number number
    | none => .null
  | text value => .string value

/-- The value as a whole number, if it is one. -/
def toInt64? : Value → Option Int64
  | int value => some value
  | _ => none

end Value
end ObjectQuery
