/-
Statements of plans.

A plan whose operators come in the order of a statement's clauses becomes one statement over the
table of its object type. Fields are found by their position in the canonical row. A field without
a column is left out of the selected columns; a filter or a sort on one fails, and so does a
projection to such fields alone. Identifiers are either the physical ones, in a letter case, or
the logical names themselves.
-/
import ObjectQuery.Plan.Basic
import ObjectQuery.Schema.Basic
import ObjectQuery.Sql.Select

namespace ObjectQuery
namespace Sql

/-- Which identifiers a statement has. -/
inductive Naming
  | physical (identifierCase : IdentifierCase)
  | logical
  deriving DecidableEq

/-- An object type with its mapping, and the identifiers to use for it. -/
structure Lowering where
  type : ObjectType
  mapping : Mapping
  naming : Naming

/-- Refuse an operator that does not come after the one it reads from. -/
def verifyOrder (top input : Stage) : Except Error Unit :=
  if input.rank < top.rank then .ok ()
  else
    .error (.adhoc
      ("plan operators out of pipeline order: " ++ top.name ++ " reads from " ++ input.name))

/-- Refuse a plan whose operators are out of order, the one nearest to the scan first. -/
def verifyPipeline : Plan → Except Error Unit
  | .scan _ => .ok ()
  | .filter input _ => do
    verifyPipeline input
    verifyOrder .filter input.stage
  | .project input _ => do
    verifyPipeline input
    verifyOrder .project input.stage
  | .sort input _ => do
    verifyPipeline input
    verifyOrder .sort input.stage
  | .limit input _ _ => do
    verifyPipeline input
    verifyOrder .limit input.stage

namespace Lowering

/-- The table's identifier. -/
def table (l : Lowering) : String :=
  match l.naming with
  | .physical identifierCase => identifierCase.apply l.mapping.table
  | .logical => l.type.name

/-- The identifier of a column that carries a field. -/
def identifier (l : Lowering) (field column : String) : String :=
  match l.naming with
  | .physical identifierCase => identifierCase.apply column
  | .logical => field

/-- The column of the field at a position of the canonical row, if it has one. -/
def column? (l : Lowering) : Nat → Option Column
  | 0 => some ⟨l.identifier idField l.mapping.idColumn, idField⟩
  | index + 1 => do
    let property ← l.type.properties[index]?
    let column ← l.mapping.column? property.name
    return ⟨l.identifier property.name column, property.name⟩

/-- The id column and the columns of the properties that have one. -/
def allColumns (l : Lowering) : List Column := (List.range l.type.width).filterMap l.column?

/-- The columns of a projection's row, which must have one. -/
def projectedColumns (l : Lowering) (row : Row) : Except Error (List Column) :=
  let columns := row.filterMap fun field => l.column? field.source
  if columns.isEmpty then
    .error (.unresolvedMapping l.type.name (row.head?.map RowField.name))
  else .ok columns

def fieldColumn (l : Lowering) (row : Row) (position : Nat) : Except Error String :=
  match row[position]? with
  | none =>
    .error (.adhoc
      ("field position " ++ toString position ++ " is out of range for a row of "
        ++ toString row.length ++ " fields"))
  | some field =>
    match l.column? field.source with
    | some column => .ok column.name
    | none => .error (.unresolvedMapping l.type.name (some field.name))

mutual

def condition (l : Lowering) (row : Row) : Predicate → Except Error Condition
  | .equals position value => do
    let column ← l.fieldColumn row position
    return .equals column value
  | .all operands => do
    let operands ← conditions l row operands
    return .all operands

def conditions (l : Lowering) (row : Row) : List Predicate → Except Error (List Condition)
  | [] => .ok []
  | operand :: rest => do
    let first ← condition l row operand
    let others ← conditions l row rest
    return first :: others

end

def orderTerms (l : Lowering) (row : Row) (keys : List SortKey) : Except Error (List OrderTerm) :=
  keys.mapM fun key => do
    let column ← l.fieldColumn row key.position
    return ⟨column, key.direction⟩

/-- The statement of a plan. Each operator adds its clause to the statement of its input. -/
def select (l : Lowering) : Plan → Except Error Select
  | .scan _ => .ok ⟨l.allColumns, l.table, none, [], none⟩
  | .filter input predicate => do
    let statement ← l.select input
    let condition ← l.condition input.row predicate
    return { statement with condition := some condition }
  | .project input positions => do
    let statement ← l.select input
    let columns ← l.projectedColumns (input.row.select positions)
    return { statement with columns }
  | .sort input keys => do
    let statement ← l.select input
    let order ← l.orderTerms input.row keys
    return { statement with order }
  | .limit input count offset => do
    let statement ← l.select input
    return { statement with window := some ⟨count, offset⟩ }

end Lowering

/-- The statement of a plan, with its object type and mapping looked up by name. -/
def lower (resolver : Resolver) (naming : Naming) (plan : Plan) : Except Error Select := do
  verifyPipeline plan
  let name := plan.objectType.name
  match resolver.objectType? name with
  | none => .error (.ofFault (.notFound name))
  | some type =>
    match resolver.mapping? name with
    | none => .error (.unresolvedMapping name none)
    | some mapping => Lowering.select ⟨type, mapping, naming⟩ plan

end Sql
end ObjectQuery
