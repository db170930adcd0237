/-
Object types: logical entities with an id and typed properties.

The fields of an object type are its id, which has no declared type, and its properties in the order
of their declaration. This order is the canonical row that plans refer to by position.
-/
import ObjectQuery.FieldType
import ObjectQuery.Schema.Mapping

namespace ObjectQuery

structure Property where
  name : String
  type : FieldType
  deriving DecidableEq

/-- A field of the canonical row; the id has no declared type. -/
structure Field where
  name : String
  type : Option FieldType
  deriving DecidableEq

/-- The name of the id field, which no property may have. -/
def idField : String := "id"

/-- A logical entity, and where it is stored if it is. -/
structure ObjectType where
  name : String
  properties : List Property
  dataSource : Option Mapping
  deriving DecidableEq

namespace ObjectType

/-- The mapping, if data source, table and id column are all named. -/
def mapping? (type : ObjectType) : Option Mapping := type.dataSource.filter Mapping.isConfigured

/-- The property of a name. -/
def property? (type : ObjectType) (name : String) : Option Property :=
  type.properties.find? fun property => property.name == name

/-- The canonical row. -/
def fields (type : ObjectType) : List Field :=
  ⟨idField, none⟩ :: type.properties.map fun property => ⟨property.name, some property.type⟩

/-- The number of fields. -/
def width (type : ObjectType) : Nat := type.properties.length + 1

/-- The position of a field in the canonical row. -/
def position? (type : ObjectType) (name : String) : Option Nat :=
  type.fields.findIdx? fun field => field.name == name

end ObjectType
end ObjectQuery
