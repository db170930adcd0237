/-
Filter values as literals of the type that a field declares.

Numbers become whole numbers, toward zero and within 64 bits, or binary numbers. Texts that spell a
number or a truth value are read when the field asks for one, and pass unchanged otherwise. Dates,
timestamps and fields of string type take any scalar as text. Arrays and objects are refused.
-/
import ObjectQuery.FieldType
import ObjectQuery.Json.Writer
import ObjectQuery.Number.Decimal
import ObjectQuery.Number.Integer
import ObjectQuery.Value

namespace ObjectQuery
namespace Literal

open Number

/-- The word nearest to a whole number. -/
def clampInt64 (i : Int) : Int64 :=
  Int64.ofInt (max (-9223372036854775808) (min i 9223372036854775807))

/-- The whole part of a number, toward zero, as a word. -/
def truncate (n : JsonNumber) : Int64 :=
  match n.toInt64? with
  | some value => value
  | none => clampInt64 n.toDouble.truncate

/-- The text of a scalar: a string's own characters, and the JSON text of anything else. -/
def scalarText : Json → String
  | .string value => value
  | other => other.write

def ofIntegerText (text : String) : Value :=
  match (IntegerRange.signed 64).read (Text.trim text) with
  | .ok value => .int (Int64.ofInt value)
  | .error _ => .text text

def ofFloatText (text : String) : Value :=
  match Binary.read .double (Text.trim text) with
  | .ok value => if value.isFinite then .float value else .text text
  | .error _ => .text text

def ofBooleanText (text : String) : Value :=
  if Text.sameIgnoringAsciiCase text "true" then .bool true
  else if Text.sameIgnoringAsciiCase text "false" then .bool false
  else .text text

def ofScalar : FieldType → Json → Value
  | _, .null => .null
  | .integer, .number n => .int (truncate n)
  | .integer, .string s => ofIntegerText s
  | .integer, .bool b => .int (if b then 1 else 0)
  | .float, .number n => .float n.toDouble
  | .float, .string s => ofFloatText s
  | .boolean, .bool b => .bool b
  | .boolean, .string s => ofBooleanText s
  | _, other => .text (scalarText other)

/-- The literal of a scalar for a field without a declared type. -/
def ofUntyped : Json → Value
  | .bool b => .bool b
  | .number n =>
    match n.toInt64? with
    | some value => .int value
    | none => .float n.toDouble
  | .string s => .text s
  | _ => .null

/-- Whether a value is neither an array nor an object. -/
def isScalar : Json → Bool
  | .array _ => false
  | .object _ => false
  | _ => true

def encode (value : Json) (type : Option FieldType) : Except Error Value :=
  if isScalar value then
    match type with
    | some type => .ok (ofScalar type value)
    | none => .ok (ofUntyped value)
  else
    .error (.invalidQuery
      ("filter values must be scalars; got \x60" ++ value.write ++ "\x60"))

end Literal
end ObjectQuery
