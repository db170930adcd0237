/-
Data sources within reach: databases in memory, each of its own and empty.

A database file that does not exist is not made, and servers are out of reach.
-/
import ObjectQuery.Catalog.Basic
import ObjectQuery.Sql.Renaming
import ObjectQuery.Target.Basic

namespace ObjectQuery
namespace Command

/-- A failure of a database, as its client reports it. -/
def driverFailure (message : String) (causes : List String) : Error :=
  .ofFault (.driverOperationFailed ⟨message, causes⟩)

/-- The first quoted identifier after the keyword in front of a table. -/
def tableName? : List Sql.Token → Option String
  | [] => none
  | .word source :: rest =>
    if source = "FROM".toList then
      rest.findSome? fun token =>
        match token with
        | .quoted identifier _ => some (String.ofList identifier)
        | _ => none
    else tableName? rest
  | _ :: rest => tableName? rest

/-- What an empty database replies to a statement: it has no tables to read from. -/
def emptyReply (text : String) : Except Error Rows :=
  match (Sql.Token.split (.ofKind .sqlite) text).toOption.bind tableName? with
  | some table =>
    .error (driverFailure ("no such table: " ++ table) ["Error code 1: SQL logic error"])
  | none => .ok ⟨[], []⟩

/-- A connection to an empty database. -/
def emptyDatabase : Connection where
  reply := fun statements =>
    match statements.getLast? with
    | some statement => emptyReply statement.text
    | none => .ok ⟨[], []⟩
  closing := none

/-- Open the database of a path that no file has. -/
def openMissing (path : String) : Except Error Connection :=
  let start := path.toList.takeWhile (· ≠ '\x00')
  if path = ":memory:" then .ok emptyDatabase
  else if start.length < path.length then
    let message :=
      "nul byte found in provided data at position: " ++ toString (Text.Utf8.size start)
    .error (driverFailure message [message])
  else
    .error (driverFailure ("unable to open database file: " ++ path)
      ["Error code 14: Unable to open the database file"])

/-- Connect to a data source. -/
def connect : Connect := fun source => do
  match ← source.target fun _ => none with
  | .sqlite none => return emptyDatabase
  | .sqlite (some path) => openMissing path
  | .postgresql _ => .error (driverFailure "error connecting to server" [])
  | .mysql _ => .error (driverFailure "error connecting to server" [])

end Command
end ObjectQuery
