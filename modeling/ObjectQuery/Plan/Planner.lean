/-
Planning: the plan of a query.

The plan scans the object type, filters, projects, sorts and limits, in this order, and leaves out
what the query does not ask for. Filters and selections name fields of the canonical row; an order
names fields of the row after selection, so a query can only order by fields that it returns.
-/
import ObjectQuery.Literal
import ObjectQuery.Plan.Basic
import ObjectQuery.Schema.Basic

namespace ObjectQuery

/-- What becomes of an entry that names no field. -/
inductive UnknownFields
  | skip
  | reject
  deriving DecidableEq

namespace UnknownFields

/-- The position of a field in a row, or nothing for an entry that is skipped. -/
def resolve (policy : UnknownFields) (row : Row) (field clause : String) :
    Except Error (Option Nat) :=
  match row.position? field with
  | some position => .ok (some position)
  | none =>
    match policy with
    | .skip => .ok none
    | .reject =>
      .error (.invalidQuery ("unknown field \x60" ++ field ++ "\x60 in " ++ clause))

end UnknownFields

namespace Plan

/-- The equalities of a query's filters over a row. -/
def filterPredicates (policy : UnknownFields) (row : Row) :
    List (String × Json) → Except Error (List Predicate)
  | [] => .ok []
  | (field, value) :: rest => do
    match ← policy.resolve row field "where" with
    | none => filterPredicates policy row rest
    | some position =>
      let literal ← Literal.encode value (row[position]?.bind RowField.type)
      return .equals position literal :: (← filterPredicates policy row rest)

def selectPositions (policy : UnknownFields) (row : Row) :
    List String → Except Error (List Nat)
  | [] => .ok []
  | field :: rest => do
    match ← policy.resolve row field "select" with
    | none => selectPositions policy row rest
    | some position => return position :: (← selectPositions policy row rest)

/-- The keys of a query's order over a row. -/
def sortKeys (policy : UnknownFields) (row : Row) :
    List OrderEntry → Except Error (List SortKey)
  | [] => .ok []
  | entry :: rest => do
    match ← policy.resolve row entry.field "orderBy" with
    | none => sortKeys policy row rest
    | some position => return ⟨position, entry.direction⟩ :: (← sortKeys policy row rest)

/-- Filter a plan, if there is something to filter by. -/
def filtered (plan : Plan) (predicates : List Predicate) : Plan :=
  match Predicate.conjunction? predicates with
  | some condition => .filter plan condition
  | none => plan

/-- Project a plan, if a field is selected. -/
def projected (plan : Plan) (positions : List Nat) : Plan :=
  if positions.isEmpty then plan else plan.projecting positions

/-- Sort a plan, if there is a key. -/
def sorted (plan : Plan) (keys : List SortKey) : Plan :=
  if keys.isEmpty then plan else .sort plan keys

/-- Limit a plan, if the limit is positive. An offset that is not positive skips nothing. -/
def limited (plan : Plan) (count offset : Option Int64) : Plan :=
  match count with
  | some count =>
    if 0 < count.toInt then
      .limit plan count.toInt.toNat ((offset.map fun skipped => skipped.toInt.toNat).getD 0)
    else plan
  | none => plan

def ofQuery (schema : Schema) (policy : UnknownFields) (query : Query) : Except Error Plan := do
  let scan := Plan.scan (← schema.objectType (← query.objectType))
  let filtered := scan.filtered (← filterPredicates policy scan.row query.filters.entries)
  let projected := filtered.projected (← selectPositions policy filtered.row query.select)
  let sorted := projected.sorted (← sortKeys policy projected.row query.order)
  return sorted.limited query.limit query.offset

end Plan
end ObjectQuery
