/-
Mappings: where an object type is stored.

A mapping names a data source, a table, the column of the id and a column for each property that can
be queried. It can be read in both directions, from a property to its column and back.
-/
import ObjectQuery.Dict
import ObjectQuery.Text.Ascii

namespace ObjectQuery

/-- The physical storage of an object type. -/
structure Mapping where
  connectionId : String
  table : String
  idColumn : String
  columns : Dict String
  deriving DecidableEq

namespace Mapping

def column? (mapping : Mapping) (property : String) : Option String :=
  mapping.columns.get? property

/-- The first property whose column satisfies a test. -/
def propertyWith? (mapping : Mapping) (test : String → Bool) : Option String :=
  (mapping.columns.entries.find? fun entry => test entry.2).map Prod.fst

def property? (mapping : Mapping) (column : String) : Option String :=
  mapping.propertyWith? (· == column)

/-- The property of a column whose label a database may have sent in another case. A label in the
configured case takes precedence. -/
def propertyIgnoringCase? (mapping : Mapping) (label : String) : Option String :=
  (mapping.property? label).or
    (mapping.propertyWith? fun column => Text.sameIgnoringAsciiCase column label)

/-- Whether data source, table and id column are all named. -/
def isConfigured (mapping : Mapping) : Bool :=
  mapping.connectionId ≠ "" && mapping.table ≠ "" && mapping.idColumn ≠ ""

end Mapping
end ObjectQuery
