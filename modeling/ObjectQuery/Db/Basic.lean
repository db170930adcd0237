/-
Databases of object types: queries in logical names over a catalog.

A query is planned against the schema, rendered in the dialect of the data source that stores its
object type, and sent over that source's connection. Nothing is sent before all of that has
succeeded.
-/
import ObjectQuery.Catalog.Basic
import ObjectQuery.Db.Result
import ObjectQuery.Plan.Planner
import ObjectQuery.Sql.Renderer

namespace ObjectQuery

/-- A catalog with the choices for queries over it. A letter case given here takes the place of the
data sources' own. -/
structure Db where
  catalog : Catalog
  unknownFields : UnknownFields
  identifierCase : Option IdentifierCase

namespace Db

def plan (db : Db) (query : Query) : Except Error Plan :=
  Plan.ofQuery db.catalog.schema db.unknownFields query

/-- The table of a plan's object type. -/
def table (db : Db) (plan : Plan) : Except Error Table :=
  match db.catalog.table? plan.objectType.name with
  | some table => .ok table
  | none => .error (.unresolvedMapping plan.objectType.name none)

def renderer (db : Db) (table : Table) : Sql.Renderer :=
  ⟨db.catalog.toResolver, table.kind, db.identifierCase.getD table.identifierCase⟩

/-- The text of a query's statement, with the values in it. -/
def explain (db : Db) (query : Query) : Except Error String := do
  let plan ← db.plan query
  let table ← db.table plan
  ((db.renderer table).render plan .inline).1

/-- A statement that is ready to be sent, and what it selects. -/
structure Prepared where
  table : Table
  select : Sql.Select
  statement : Statement

/-- Plan and render a query. -/
def prepare (db : Db) (query : Query) : Except Error Prepared := do
  let plan ← db.plan query
  let table ← db.table plan
  let select ← (db.renderer table).lower plan
  let (text, collected) := select.write table.kind (.collect [])
  return ⟨table, select, ⟨text, collected.values⟩⟩

def query (db : Db) (board : Switchboard) (query : Query) :
    Except Error QueryResult × Switchboard :=
  match db.prepare query with
  | .error e => (.error e, board)
  | .ok prepared =>
    let (reply, board) := board.query prepared.table.line prepared.statement
    (reply.map fun rows =>
      ⟨logicalColumns prepared.table.mapping prepared.select rows.columns, rows.rows⟩, board)

end Db
end ObjectQuery
