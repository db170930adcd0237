/-
Results of queries, labelled with logical names.

A label that a database returns is the id's or a property's column, in any ASCII case. A label that
is neither stands for the field selected at its position, and for itself if nothing was selected
there.
-/
import ObjectQuery.Catalog.Connection
import ObjectQuery.Schema.ObjectType
import ObjectQuery.Sql.Select

namespace ObjectQuery

/-- The logical name of a label at a position of the selected columns. -/
def logicalColumn (mapping : Mapping) (select : Sql.Select) (position : Nat) (label : String) :
    String :=
  if Text.sameIgnoringAsciiCase label mapping.idColumn then idField
  else
    ((mapping.propertyIgnoringCase? label).or
      (select.columns[position]?.map Sql.Column.field)).getD label

def logicalColumns (mapping : Mapping) (select : Sql.Select) (labels : List String) :
    List String :=
  labels.zipIdx.map fun (label, position) => logicalColumn mapping select position label

structure QueryResult where
  columns : List String
  rows : List (List Value)
  deriving DecidableEq

namespace QueryResult

/-- The value in a row, in the first column of a name. -/
def get? (result : QueryResult) (row : Nat) (column : String) : Option Value := do
  let position ← result.columns.findIdx? (· == column)
  (← result.rows[row]?)[position]?

/-- A row as an object with a member for each column. -/
def rowToJson (columns : List String) (row : List Value) : Json :=
  .ofMembers (columns.zip (row.map Value.toJson))

def toJson (result : QueryResult) : Json :=
  .ofMembers
    [("columns", .array (result.columns.map .string)),
      ("rows", .array (result.rows.map (rowToJson result.columns)))]

end QueryResult
end ObjectQuery
