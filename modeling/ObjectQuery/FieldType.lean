/-
Declared types of properties.

A declared type, and not the kind of value that a caller happens to give, decides how a filter's
value is encoded. Each type has one name of its own and may be declared by other names.
-/
import ObjectQuery.Error
import ObjectQuery.Text.Ascii
import ObjectQuery.Text.Blank

namespace ObjectQuery

inductive FieldType
  | string
  | integer
  | float
  | boolean
  | date
  | timestamp
  deriving DecidableEq

namespace FieldType

def name : FieldType → String
  | string => "string"
  | integer => "integer"
  | float => "float"
  | boolean => "boolean"
  | date => "date"
  | timestamp => "timestamp"

/-- The names by which a type may be declared. -/
def declared : List (String × FieldType) :=
  [("string", string), ("text", string), ("integer", integer), ("int", integer), ("long", integer),
    ("float", float), ("double", float), ("number", float), ("decimal", float),
    ("boolean", boolean), ("bool", boolean), ("date", date), ("timestamp", timestamp),
    ("datetime", timestamp)]

/-- The type that a name declares, whatever its case and the white space around it. -/
def read (text : String) : Except Error FieldType :=
  match declared.lookup (Text.asciiLower (Text.trim text)) with
  | some type => .ok type
  | none => .error (.invalidSchema ("unknown property type \x60" ++ text ++ "\x60"))

end FieldType
end ObjectQuery
