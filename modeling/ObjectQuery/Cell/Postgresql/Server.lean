/-
Statements sent to a PostgreSQL server.

The server first says which types the parameters and the columns of a statement have, or refuses it.
Then the values are bound and the rows read, and the first value or cell that does not fit its type
ends the statement.
-/
import ObjectQuery.Catalog.Connection
import ObjectQuery.Cell.Postgresql.Parameter
import ObjectQuery.Cell.Postgresql.Result

namespace ObjectQuery
namespace Cell
namespace Postgresql

/-- A column of a statement's rows. -/
structure Column where
  name : String
  type : ColumnType
  deriving DecidableEq

/-- What a server says about a statement. -/
structure Prepared where
  params : List ColumnType
  columns : List Column
  deriving DecidableEq

/-- Bytes as they are sent; null has none. -/
abbrev Wire : Type := Option (List UInt8)

/-- A server: what it says about a statement or why it refuses it, and the rows that it returns. -/
structure Server where
  prepared : Except String Prepared
  rows : List (List Wire)

def failure (what cause : String) : Error := .ofFault (.driverOperationFailed ⟨what, [cause]⟩)

/-- The values from a position on as parameters of their types. -/
def bindAll (position : Nat) : List (ColumnType × Value) → Except Error (List Wire)
  | [] => .ok []
  | (type, value) :: rest =>
    match bind type value with
    | .error fault =>
      .error (failure ("error serializing parameter " ++ toString position) fault.message)
    | .ok wire => (bindAll (position + 1) rest).map (wire :: ·)

def bindParams (types : List ColumnType) (values : List Value) : Except Error (List Wire) :=
  if types.length = values.length then bindAll 0 (types.zip values)
  else
    .error (.ofFault (.driverOperationFailed
      ⟨"expected " ++ toString types.length ++ " parameters but got " ++ toString values.length,
        []⟩))

def readCell (position : Nat) (column : Column) (wire : Wire) : Except Error Value :=
  match reader? column.type, wire with
  | none, _ =>
    .error (.adhoc
      ("unsupported PostgreSQL column type \x60" ++ column.type.label ++ "\x60 for column \x60"
        ++ column.name ++ "\x60"))
  | some _, none => .ok .null
  | some reader, some bytes =>
    match reader bytes with
    | .ok value => .ok value
    | .error fault =>
      .error (failure ("error deserializing column " ++ toString position) fault.message)

def readRow (columns : List Column) (row : List Wire) : Except Error (List Value) :=
  (columns.zip row).zipIdx.mapM fun ((column, wire), position) => readCell position column wire

namespace Server

/-- Send a statement with values for its parameters. The second part of the answer are the
parameters that the server has received. -/
def query (server : Server) (values : List Value) : Except Error Rows × List Wire :=
  match server.prepared with
  | .error message => (.error (failure "db error" ("ERROR: " ++ message)), [])
  | .ok prepared =>
    match bindParams prepared.params values with
    | .error e => (.error e, [])
    | .ok bound =>
      ((server.rows.mapM (readRow prepared.columns)).map fun rows =>
        ⟨prepared.columns.map Column.name, rows⟩, bound)

end Server
end Postgresql
end Cell
end ObjectQuery
