/-
Cells and parameters of SQLite.

What is stored decides the value, not the type of a column. A parameter that is no number is kept as
null.
-/
import ObjectQuery.Text.Utf8
import ObjectQuery.Value

namespace ObjectQuery
namespace Cell

inductive Sqlite
  | null
  | integer (value : Int64)
  | real (value : Number.Double)
  | text (value : String)
  | blob (value : List UInt8)
  deriving DecidableEq

namespace Sqlite

/-- The value of a cell. Bytes become the text that they spell. -/
def toValue : Sqlite → Value
  | null => .null
  | integer value => .int value
  | real value => .float value
  | text value => .text value
  | blob value => .text (Text.Utf8.decodeLossy value)

/-- A value as a parameter. Booleans are sent as numbers. -/
def ofValue : Value → Sqlite
  | .null => null
  | .bool value => integer (if value then 1 else 0)
  | .int value => integer value
  | .float value => real value
  | .text value => text value

/-- What the database keeps of a parameter. -/
def kept : Sqlite → Sqlite
  | real value => if value.isNaN then null else real value
  | cell => cell

end Sqlite
end Cell
end ObjectQuery
