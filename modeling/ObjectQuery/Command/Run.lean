/-
Carrying out a command line.

The schema is loaded and its data sources are connected to before the query is read. What has been
written before something fails stays written.
-/
import ObjectQuery.Command.Invocation
import ObjectQuery.Db.Basic
import ObjectQuery.Json.Indented
import ObjectQuery.Plan.Display
import ObjectQuery.Query.Reader
import ObjectQuery.Schema.Reader

namespace ObjectQuery
namespace Command

/-- The text of a file, or why it cannot be read. -/
abbrev Files : Type := String → Except String String

/-- Why a command line could not be carried out. -/
inductive Failure
  | schema (path : String) (error : Error)
  | queryFile (path reason : String)
  | query (error : Error)
  deriving DecidableEq

/-- The wording of a failure, with all that stands behind it. -/
def Failure.message : Failure → String
  | schema path error =>
    "loading schema from \x60" ++ path ++ "\x60: " ++ error.toTrace.summary
  | queryFile path reason =>
    (if path = "-" then "reading query from stdin" else "reading query from \x60" ++ path ++ "\x60")
      ++ ": " ++ reason
  | query error => error.toTrace.summary

/-- What was written, and the failure after it if there was one. -/
structure Outcome where
  output : String
  failure : Option Failure
  deriving DecidableEq

/-- The outcome of what either writes something or fails. -/
def Outcome.ofExcept : Except Failure String → Outcome
  | .ok output => ⟨output, none⟩
  | .error failure => ⟨"", some failure⟩

def loadSchema (files : Files) (path : String) : Except Failure Schema :=
  match files path with
  | .error reason =>
    .error (.schema path ((Error.foreign ⟨reason, []⟩).context (.adhoc ("reading " ++ path)) false))
  | .ok text => (Schema.read text).mapError (.schema path)

def loadQuery (files : Files) (path : String) : Except Failure Query :=
  match files path with
  | .error reason => .error (.queryFile path reason)
  | .ok text => (Query.read text).mapError .query

/-- A line for each object type that can be queried, then one for each data source that was left
out. -/
def listCatalog (catalog : Catalog) : String :=
  let tables := catalog.tables.entries.map fun (name, table) =>
    "\t".intercalate
      [name, table.mapping.connectionId, table.kind.name, table.mapping.table ++ "\n"]
  let failures := catalog.failures.entries.map fun (id, e) =>
    "\t".intercalate ["unavailable", id, e.message ++ "\n"]
  "".intercalate (tables ++ failures)

/-- The statement of a query on a line, after its plan if that is asked for. -/
def explain (db : Db) (showsPlan : Bool) (query : Query) : Outcome :=
  let plan := if showsPlan then (db.plan query).map fun plan => plan.display ++ "\n" else .ok ""
  match plan with
  | .error e => ⟨"", some (.query e)⟩
  | .ok shown =>
    match db.explain query with
    | .error e => ⟨shown, some (.query e)⟩
    | .ok statement => ⟨shown ++ statement ++ "\n", none⟩

/-- The rows of a query in JSON. -/
def runQuery (db : Db) (board : Switchboard) (indented : Bool) (query : Query) :
    Except Failure String :=
  match (db.query board query).1 with
  | .error e => .error (.query e)
  | .ok result =>
    .ok ((if indented then result.toJson.writeIndented 0 else result.toJson.write) ++ "\n")

/-- Carry out a command line. -/
def run (files : Files) (connect : Connect) (invocation : Invocation) : Outcome :=
  match loadSchema files invocation.schemaPath with
  | .error failure => ⟨"", some failure⟩
  | .ok schema =>
    let (catalog, board) := Catalog.build schema connect
    let db : Db := ⟨catalog, .skip, none⟩
    match invocation.task with
    | .catalog => ⟨listCatalog catalog, none⟩
    | .explain path showsPlan =>
      match loadQuery files path with
      | .error failure => ⟨"", some failure⟩
      | .ok query => explain db showsPlan query
    | .run path indented => .ofExcept do runQuery db board indented (← loadQuery files path)

end Command
end ObjectQuery
