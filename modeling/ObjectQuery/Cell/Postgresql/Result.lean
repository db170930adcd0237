/-
Cells of results as PostgreSQL sends them.

Numbers are big-endian; dates are days, times and timestamps are microseconds. A cell has to have
exactly the bytes of its type. Dates and times come out as texts.
-/
import ObjectQuery.Calendar.Time
import ObjectQuery.Cell.BigEndian
import ObjectQuery.Cell.Postgresql.ColumnType
import ObjectQuery.Text.Utf8
import ObjectQuery.Value

namespace ObjectQuery
namespace Cell
namespace Postgresql

/-- Why bytes are no cell of a type. -/
inductive CellFault
  | size
  | tooShort
  | notDrained (what : String)
  | tooLarge
  | text (fault : Text.Utf8.Fault)
  deriving DecidableEq

def CellFault.message : CellFault → String
  | size => "invalid buffer size"
  | tooShort => "failed to fill whole buffer"
  | notDrained what => "invalid message length: " ++ what ++ " not drained"
  | tooLarge => "value too large to decode"
  | text fault => fault.message

def exactly (width : Nat) (surplus : CellFault) (bytes : List UInt8) :
    Except CellFault (List UInt8) :=
  if bytes.length < width then .error .tooShort
  else if width < bytes.length then .error surplus
  else .ok bytes

/-- Read a whole number. -/
def readInteger (width : Nat) (bytes : List UInt8) : Except CellFault Value := do
  return .int (Int64.ofInt (signedOf (← exactly width .size bytes)))

def readBinary (f : Number.Format) (width : Nat) (bytes : List UInt8) :
    Except CellFault (Number.Binary f) := do
  return .ofBits f (unsignedOf (← exactly width .size bytes))

def readDate (bytes : List UInt8) : Except CellFault Value := do
  let date := Calendar.Date.ofDayNumber (signedOf (← exactly 4 (.notDrained "date") bytes))
  if date.isValid then return .text (String.ofList date.write) else throw .tooLarge

def readTime (bytes : List UInt8) : Except CellFault Value := do
  let time := Calendar.Time.ofMicroseconds (signedOf (← exactly 8 (.notDrained "time") bytes))
  return .text (String.ofList time.write)

/-- Read a point in time. -/
def readMoment (bytes : List UInt8) : Except CellFault Calendar.Moment := do
  let microseconds := signedOf (← exactly 8 (.notDrained "timestamp") bytes)
  match Calendar.Moment.ofMicroseconds? microseconds with
  | some moment => return moment
  | none => throw .tooLarge

def readText (bytes : List UInt8) : Except CellFault Value :=
  ((Text.Utf8.decode bytes).mapError .text).map .text

/-- How cells of a type are read, if they are. -/
def reader? : ColumnType → Option (List UInt8 → Except CellFault Value)
  | .bool => some fun bytes =>
    match bytes with
    | [b] => .ok (.bool (b != 0))
    | _ => .error .size
  | .int2 => some (readInteger 2)
  | .int4 => some (readInteger 4)
  | .int8 => some (readInteger 8)
  | .float4 => some fun bytes =>
    (readBinary .single 4 bytes).map fun x => .float (x.convert .double)
  | .float8 => some fun bytes => (readBinary .double 8 bytes).map .float
  | .text | .varchar | .bpchar | .name => some readText
  | .date => some readDate
  | .time => some readTime
  | .timestamp => some fun bytes =>
    (readMoment bytes).map fun moment => .text (String.ofList (moment.write ' '))
  | .timestamptz => some fun bytes =>
    (readMoment bytes).map fun moment =>
      .text (String.ofList (moment.write 'T' ++ ['+', '0', '0', ':', '0', '0']))
  | .unknown | .other _ => none

end Postgresql
end Cell
end ObjectQuery
