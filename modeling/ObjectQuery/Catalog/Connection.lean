/-
Connections to data sources, and what happens on them.

A connection is what the other side does: how it replies to a statement, given the statements before
it, and what it reports when it is closed. The connections that were opened form a switchboard. They
are referred to by their number, so all holders of a number share one connection. The switchboard
keeps a log, and what a connection has received is read off the log.
-/
import ObjectQuery.Error
import ObjectQuery.Schema.DatabaseKind
import ObjectQuery.Value

namespace ObjectQuery

/-- A statement's text with the values of its parameters. -/
structure Statement where
  text : String
  params : List Value
  deriving DecidableEq

/-- Rows as a database returns them, with its labels for the columns. -/
structure Rows where
  columns : List String
  rows : List (List Value)
  deriving DecidableEq

/-- The other side of a connection: its reply to the last of the statements it has received, and the
error that it reports when it is closed, if it does. -/
structure Connection where
  reply : List Statement → Except Error Rows
  closing : Option Error

/-- An opened connection. -/
structure Line where
  source : String
  kind : DatabaseKind
  connection : Connection
  isOpen : Bool

/-- Something that reached the other side. -/
inductive Event
  | connect (source : String)
  | query (line : Nat) (statement : Statement)
  | close (line : Nat)
  deriving DecidableEq

/-- The connections that were opened, and what happened so far. -/
structure Switchboard where
  lines : List Line
  log : List Event

namespace Switchboard

/-- Nothing opened yet. -/
def empty : Switchboard := ⟨[], []⟩

/-- Write down what happened. -/
def record (board : Switchboard) (event : Event) : Switchboard :=
  { board with log := board.log ++ [event] }

def received (board : Switchboard) (line : Nat) : List Statement :=
  board.log.filterMap fun event =>
    match event with
    | .query number statement => if number = line then some statement else none
    | _ => none

def isClosed (board : Switchboard) (line : Nat) : Bool :=
  match board.lines[line]? with
  | some opened => !opened.isOpen
  | none => true

/-- Add an opened connection. Its number is the number of connections before it. -/
def add (board : Switchboard) (source : String) (kind : DatabaseKind) (connection : Connection) :
    Switchboard :=
  { board with lines := board.lines ++ [⟨source, kind, connection, true⟩] }

def closedError (source : String) : Error :=
  .adhoc ("connection to data source \x60" ++ source ++ "\x60 is closed")

/-- Send a statement over a connection. Nothing is sent over a closed one. -/
def query (board : Switchboard) (line : Nat) (statement : Statement) :
    Except Error Rows × Switchboard :=
  match board.lines[line]? with
  | none => (.error (closedError ""), board)
  | some opened =>
    if opened.isOpen then
      (opened.connection.reply (board.received line ++ [statement]),
        board.record (.query line statement))
    else (.error (closedError opened.source), board)

/-- Close a connection. It counts as closed also when the other side reports an error, and closing
it again does nothing. -/
def close (board : Switchboard) (line : Nat) : Except Error Unit × Switchboard :=
  match board.lines[line]? with
  | none => (.ok (), board)
  | some opened =>
    if opened.isOpen then
      let closed := board.lines.set line { opened with isOpen := false }
      (match opened.connection.closing with
        | some e => .error e
        | none => .ok (),
        { board.record (.close line) with lines := closed })
    else (.ok (), board)

/-- Close connections one after the other, whatever the others report. -/
def closeAll (board : Switchboard) : List Nat → Switchboard
  | [] => board
  | line :: rest => closeAll (board.close line).2 rest

end Switchboard
end ObjectQuery
