/-
The shape of the rows that an operator of a plan produces.
-/
import ObjectQuery.Schema.ObjectType

namespace ObjectQuery

/-- A field of a row, with its position in the canonical row of its object type. -/
structure RowField where
  name : String
  type : Option FieldType
  source : Nat
  deriving DecidableEq

/-- The fields of a row, in order. -/
abbrev Row : Type := List RowField

namespace Row

/-- The row with every field of an object type. -/
def canonical (type : ObjectType) : Row :=
  type.fields.zipIdx.map fun (field, source) => ⟨field.name, field.type, source⟩

/-- The position of the first field of a name. -/
def position? (row : Row) (name : String) : Option Nat :=
  row.findIdx? fun field => field.name == name

/-- The fields at some positions, without the positions that the row does not have. -/
def select (row : Row) (positions : List Nat) : Row := positions.filterMap fun i => row[i]?

/-- The names of the fields. -/
def names (row : Row) : List String := row.map RowField.name

end Row
end ObjectQuery
