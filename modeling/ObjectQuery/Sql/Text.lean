/-
The text of statements.

A statement is written from left to right, and each of its values is handed to the parameters on the
way. Either they collect the value, and a placeholder for its position is written, or its literal is
written. Null is no value here: a comparison with null is fixed text.
-/
import ObjectQuery.Sql.Dialect
import ObjectQuery.Sql.Select

namespace ObjectQuery
namespace Sql

/-- Where the values of a statement go: into its text, or behind the values collected so far. -/
inductive Parameters
  | inline
  | collect (values : List Value)
  deriving DecidableEq

namespace Parameters

/-- Hand over a value. If it is collected, the result has its position, counted from one. -/
def push (value : Value) : Parameters → Option Nat × Parameters
  | .inline => (none, .inline)
  | .collect values => (some (values.length + 1), .collect (values ++ [value]))

/-- The values collected so far. -/
def values : Parameters → List Value
  | .inline => []
  | .collect values => values

end Parameters

/-- A statement as far as it is written. -/
structure Draft where
  text : String
  parameters : Parameters

namespace Draft

def fixed (d : Draft) (text : String) : Draft := { d with text := d.text ++ text }

def identifier (kind : DatabaseKind) (d : Draft) (identifier : String) : Draft :=
  d.fixed (quoteIdentifier kind.identifierQuote identifier)

/-- Write a value, as a placeholder if it is collected. -/
def value (kind : DatabaseKind) (d : Draft) (value : Value) : Draft :=
  match d.parameters.push value with
  | (some index, parameters) => fixed { d with parameters } (kind.placeholder index)
  | (none, parameters) => fixed { d with parameters } (literalText kind value)

/-- Write items, with a separator before each but the first, which has `before` in front of it. -/
def delimited {α : Type} (write : Draft → α → Draft) (separator before : String) (d : Draft) :
    List α → Draft
  | [] => d
  | item :: rest => delimited write separator separator (write (d.fixed before) item) rest

end Draft

namespace Condition

mutual

def write (kind : DatabaseKind) (d : Draft) : Condition → Draft
  | .equals column .null => (d.identifier kind column).fixed " IS NULL"
  | .equals column value => ((d.identifier kind column).fixed " = ").value kind value
  | .all operands => writeAll kind "" d operands

/-- Write operands, with `before` in front of the first. -/
def writeAll (kind : DatabaseKind) (before : String) (d : Draft) : List Condition → Draft
  | [] => d
  | operand :: rest => writeAll kind " AND " (write kind (d.fixed before) operand) rest

end

end Condition

namespace Select

def writeColumn (kind : DatabaseKind) (d : Draft) (column : Column) : Draft :=
  d.identifier kind column.name

def writeTerm (kind : DatabaseKind) (d : Draft) (term : OrderTerm) : Draft :=
  ((d.identifier kind term.column).fixed " ").fixed term.direction.keyword

def writeCondition (kind : DatabaseKind) (d : Draft) : Option Condition → Draft
  | none => d
  | some condition => condition.write kind (d.fixed " WHERE ")

def writeOrder (kind : DatabaseKind) (d : Draft) (order : List OrderTerm) : Draft :=
  if order.isEmpty then d
  else (d.fixed " ORDER BY ").delimited (writeTerm kind) ", " "" order

/-- Write the window. An offset of zero is not written. -/
def writeWindow (d : Draft) : Option Window → Draft
  | none => d
  | some window =>
    let limited := (d.fixed " LIMIT ").fixed (toString window.count)
    if 0 < window.offset then (limited.fixed " OFFSET ").fixed (toString window.offset) else limited

def writeClauses (kind : DatabaseKind) (d : Draft) (select : Select) : Draft :=
  let columns := (d.fixed "SELECT ").delimited (writeColumn kind) ", " "" select.columns
  let table := (columns.fixed " FROM ").identifier kind select.table
  let filtered := writeCondition kind table select.condition
  let ordered := writeOrder kind filtered select.order
  writeWindow ordered select.window

/-- A statement's text, and the parameters with its values. -/
def write (kind : DatabaseKind) (select : Select) (parameters : Parameters) :
    String × Parameters :=
  let written := (writeClauses kind ⟨"", parameters⟩ select).fixed ";"
  (written.text, written.parameters)

end Select
end Sql
end ObjectQuery
