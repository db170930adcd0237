/-
Values as PostgreSQL takes them for its parameters.

The server says which type a parameter has, and the value is converted to that type's bytes. Texts
are read as whatever the type asks for; types that are not known get the text as it is.
-/
import ObjectQuery.Calendar.Reader
import ObjectQuery.Cell.BigEndian
import ObjectQuery.Cell.Postgresql.ColumnType
import ObjectQuery.Number.Decimal
import ObjectQuery.Text.Utf8
import ObjectQuery.Value

namespace ObjectQuery
namespace Cell
namespace Postgresql

inductive BindFault
  | mismatch (value : Value) (type : ColumnType)
  | notBool
  | integer (fault : Number.IntegerFault)
  | numeral (fault : Number.NumeralFault)
  | calendar (fault : Calendar.Fault)
  | tooLarge
  deriving DecidableEq

def BindFault.message : BindFault → String
  | mismatch value type =>
    "cannot bind \x60" ++ value.display ++ "\x60 to a parameter of type \x60" ++ type.label
      ++ "\x60"
  | notBool => "provided string was not \x60true\x60 or \x60false\x60"
  | integer fault => fault.message
  | numeral fault => fault.message
  | calendar fault => fault.message
  | tooLarge => "value too large to transmit"

/-- A whole number in a number of bytes. -/
def bindInteger (width : Nat) (i : Int) : Except BindFault (List UInt8) :=
  let range := Number.IntegerRange.signed (8 * width)
  if i < range.low then .error (.integer .tooSmall)
  else if range.high < i then .error (.integer .tooLarge)
  else .ok (bigEndian width i)

/-- A binary number in a number of bytes. -/
def bindBinary {f : Number.Format} (width : Nat) (x : Number.Binary f) : List UInt8 :=
  bigEndian width x.toBits

/-- A number of days or microseconds in a number of bytes. -/
def bindSpan (width : Nat) (span : Int) : Except BindFault (List UInt8) :=
  if (Number.IntegerRange.signed (8 * width)).has span then .ok (bigEndian width span)
  else .error .tooLarge

/-- A text that spells a whole number. -/
def bindIntegerText (width : Nat) (text : String) : Except BindFault (List UInt8) := do
  let i ← ((Number.IntegerRange.signed (8 * width)).read (Text.trim text)).mapError .integer
  bindInteger width i

def bindBinaryText (f : Number.Format) (width : Nat) (text : String) :
    Except BindFault (List UInt8) := do
  let x ← (Number.Binary.read f (Text.trim text)).mapError .numeral
  return bindBinary width x

def bindText (type : ColumnType) (text : String) : Except BindFault (List UInt8) :=
  match type with
  | .bool =>
    if text = "true" then .ok [1] else if text = "false" then .ok [0] else .error .notBool
  | .int2 => bindIntegerText 2 text
  | .int4 => bindIntegerText 4 text
  | .int8 => bindIntegerText 8 text
  | .float4 => bindBinaryText .single 4 text
  | .float8 => bindBinaryText .double 8 text
  | .date => do bindSpan 4 (← (Calendar.Date.read text).mapError .calendar).dayNumber
  | .time => do
    let time ← (Calendar.Time.read text).mapError .calendar
    bindSpan 8 (time.nanoseconds / 1000 : Nat)
  | .timestamp => do
    bindSpan 8 ((← (Calendar.Moment.read text).mapError .calendar).microseconds 0)
  | .timestamptz => do bindSpan 8 (← (Calendar.readMicroseconds text).mapError .calendar)
  | _ => .ok (Text.Utf8.encode text)

/-- A value's display as a parameter of a type that takes any text. -/
def bindDisplay (type : ColumnType) (value : Value) : Except BindFault (List UInt8) :=
  if type.takesText then .ok (Text.Utf8.encode value.display) else .error (.mismatch value type)

/-- A value as a parameter of a type; null has no bytes. -/
def bind (type : ColumnType) (value : Value) : Except BindFault (Option (List UInt8)) :=
  match value, type with
  | .null, _ => .ok none
  | .bool b, .bool => .ok (some [if b then 1 else 0])
  | .int i, .int2 => (bindInteger 2 i.toInt).map some
  | .int i, .int4 => (bindInteger 4 i.toInt).map some
  | .int i, .int8 => (bindInteger 8 i.toInt).map some
  | .int i, .float4 => .ok (some (bindBinary 4 (.ofInt .single i.toInt)))
  | .int i, .float8 => .ok (some (bindBinary 8 (.ofInt .double i.toInt)))
  | .float x, .float4 => .ok (some (bindBinary 4 (x.convert .single)))
  | .float x, .float8 => .ok (some (bindBinary 8 x))
  | .text s, type => (bindText type s).map some
  | value, type => (bindDisplay type value).map some

end Postgresql
end Cell
end ObjectQuery
