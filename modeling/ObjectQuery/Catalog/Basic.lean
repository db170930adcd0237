/-
Catalogs: the object types that can be queried, each bound to the connection of its data source.

Building a catalog connects to every data source of a supported kind, once each. A data source that
cannot be connected to is left out together with the object types stored in it; the others stay
usable.
-/
import ObjectQuery.Catalog.Connection
import ObjectQuery.Schema.Basic

namespace ObjectQuery

/-- Where an object type is stored: its connection, its mapping and the letter case of its
identifiers. -/
structure Table where
  line : Nat
  source : String
  kind : DatabaseKind
  mapping : Mapping
  identifierCase : IdentifierCase
  deriving DecidableEq

/-- The connected data sources, the object types that can be queried, and the data sources that were
left out. -/
structure Catalog where
  schema : Schema
  connections : Dict Nat
  tables : Dict Table
  failures : Dict Error

/-- How data sources are connected to. -/
abbrev Connect : Type := DataSource → Except Error Connection

/-- A connection's failure as the failure of a data source. -/
def Error.asConnectionFailure (e : Error) (source : String) : Error :=
  if e.is .connectionFailure then e else .ofFault (.connectionFailure source e.toTrace)

namespace Catalog

/-- The catalog of a schema before anything is connected. -/
def unconnected (schema : Schema) : Catalog := ⟨schema, .empty, .empty, .empty⟩

/-- Connect to a data source. -/
def connectTo (connect : Connect) (state : Catalog × Switchboard) (source : DataSource) :
    Catalog × Switchboard :=
  let (catalog, board) := state
  match source.kind with
  | .error e => ({ catalog with failures := catalog.failures.insert source.id e }, board)
  | .ok kind =>
    let board := board.record (.connect source.id)
    match connect source with
    | .ok connection =>
      ({ catalog with connections := catalog.connections.insert source.id board.lines.length },
        board.add source.id kind connection)
    | .error e =>
      ({ catalog with
          failures := catalog.failures.insert source.id (e.asConnectionFailure source.id) },
        board)

/-- The table of an object type whose mapping is configured and whose data source is connected. -/
def tableOf? (catalog : Catalog) (board : Switchboard) (type : ObjectType) : Option Table := do
  let mapping ← type.mapping?
  let line ← catalog.connections.get? mapping.connectionId
  let opened ← board.lines[line]?
  let identifierCase :=
    ((catalog.schema.dataSource? mapping.connectionId).map DataSource.identifierCase).getD .upper
  return ⟨line, mapping.connectionId, opened.kind, mapping, identifierCase⟩

/-- Enter the table of an object type, if it has one. -/
def registerTable (board : Switchboard) (catalog : Catalog) (type : ObjectType) : Catalog :=
  match catalog.tableOf? board type with
  | some table => { catalog with tables := catalog.tables.insert type.name table }
  | none => catalog

/-- The catalog of a schema, and the connections that were opened for it. -/
def build (schema : Schema) (connect : Connect) : Catalog × Switchboard :=
  let (catalog, board) :=
    schema.dataSources.values.foldl (connectTo connect) (unconnected schema, .empty)
  (schema.objectTypes.values.foldl (registerTable board) catalog, board)

def table? (catalog : Catalog) (objectType : String) : Option Table :=
  catalog.tables.get? objectType

/-- A catalog answers with the mappings of the object types that can be queried. -/
def toResolver (catalog : Catalog) : Resolver where
  objectType? := catalog.schema.objectType?
  mapping? := fun name => (catalog.table? name).map Table.mapping

/-- Close every connection. Nothing can be queried afterwards; what was left out stays on record. -/
def close (catalog : Catalog) (board : Switchboard) : Catalog × Switchboard :=
  ({ catalog with connections := .empty, tables := .empty },
    board.closeAll catalog.connections.values)

end Catalog
end ObjectQuery
