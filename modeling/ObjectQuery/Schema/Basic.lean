/-
Schemas: the declared object types and data sources.

A schema is built from a configuration in which names are unique and every object type is sound. It
keeps both kinds of entry in the order of their declaration, by name.
-/
import ObjectQuery.Schema.DataSource
import ObjectQuery.Schema.Verification

namespace ObjectQuery

/-- Object types and data sources as they are declared, not yet checked. -/
structure SchemaConfig where
  objectTypes : List ObjectType
  dataSources : List DataSource
  deriving DecidableEq

/-- Object types and data sources by name. -/
structure Schema where
  objectTypes : Dict ObjectType
  dataSources : Dict DataSource
  deriving DecidableEq

namespace Schema

/-- Enter items by name; a name that comes again is refused. -/
def register {α : Type} (what : String) (name : α → String) :
    Dict α → List α → Except Error (Dict α)
  | entered, [] => .ok entered
  | entered, item :: rest =>
    if entered.contains (name item) then
      .error (.invalidSchema ("duplicate " ++ what ++ " \x60" ++ name item ++ "\x60"))
    else register what name (entered.insert (name item) item) rest

def ofConfig (config : SchemaConfig) : Except Error Schema := do
  let objectTypes ← register "object type" ObjectType.name .empty config.objectTypes
  let dataSources ← register "data source" DataSource.id .empty config.dataSources
  objectTypes.values.forM ObjectType.verify
  return ⟨objectTypes, dataSources⟩

def objectType? (schema : Schema) (name : String) : Option ObjectType :=
  schema.objectTypes.get? name

/-- The object type of a name, which a query asks for. -/
def objectType (schema : Schema) (name : String) : Except Error ObjectType :=
  match schema.objectType? name with
  | some type => .ok type
  | none => .error (.ofFault (.notFound name))

def dataSource? (schema : Schema) (id : String) : Option DataSource := schema.dataSources.get? id

end Schema

/-- Where the object types of a plan are looked up, and the mappings of those that can be read. -/
structure Resolver where
  objectType? : String → Option ObjectType
  mapping? : String → Option Mapping

/-- A schema answers with every configured mapping. -/
def Schema.toResolver (schema : Schema) : Resolver where
  objectType? := schema.objectType?
  mapping? := fun name => (schema.objectType? name).bind ObjectType.mapping?

end ObjectQuery
