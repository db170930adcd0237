/-
JSON values.

A number is a whole number of at most 64 bits or a finite binary number; the bounds are part of its
type. An object keeps its members sorted by name.
-/
import ObjectQuery.Number.Binary

namespace ObjectQuery

/-- A JSON number: a whole number that fits 64 bits, signed or unsigned, or a finite number. -/
inductive JsonNumber
  | integer (value : Int) (low_le : -9223372036854775808 ≤ value)
    (lt_high : value < 18446744073709551616)
  | float (value : Number.Double) (finite : value.isFinite = true)
  deriving DecidableEq

inductive Json
  | null
  | bool (value : Bool)
  | number (value : JsonNumber)
  | string (value : String)
  | array (elements : List Json)
  | object (members : List (String × Json))

namespace JsonNumber

/-- The number of a whole number, if it fits. -/
def ofInt? (value : Int) : Option JsonNumber :=
  if low : -9223372036854775808 ≤ value then
    if high : value < 18446744073709551616 then some (.integer value low high) else none
  else none

/-- The number of a signed word. -/
def ofInt64 (value : Int64) : JsonNumber :=
  .integer value.toInt (Int64.le_toInt value)
    (Int.lt_trans (Int64.toInt_lt value) (by decide))

/-- The number of a binary number, if it is finite. -/
def ofDouble? (value : Number.Double) : Option JsonNumber :=
  if finite : value.isFinite = true then some (.float value finite) else none

/-- The number as a signed word, if it is a whole number that fits. -/
def toInt64? : JsonNumber → Option Int64
  | .integer value _ _ => if value < 9223372036854775808 then some (Int64.ofInt value) else none
  | .float _ _ => none

/-- The nearest binary number. -/
def toDouble : JsonNumber → Number.Double
  | .integer value _ _ => .ofInt .double value
  | .float value _ => value

end JsonNumber

namespace Json

/-- Enter a member into sorted members; a later value replaces an earlier one. -/
def insertMember (name : String) (value : Json) : List (String × Json) → List (String × Json)
  | [] => [(name, value)]
  | (other, kept) :: rest =>
    if name < other then (name, value) :: (other, kept) :: rest
    else if name = other then (name, value) :: rest
    else (other, kept) :: insertMember name value rest

/-- The object with some members, entered one after the other. -/
def ofMembers (members : List (String × Json)) : Json :=
  .object (members.foldl (fun sorted member => insertMember member.1 member.2 sorted) [])

end Json
end ObjectQuery
