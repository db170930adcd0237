/-
Relational plans over the fields of one object type.

A plan is a chain of operators over a scan, each reading the rows of its input. Operators refer to
fields by position in the input's row. A projection holds positions that its input has; the row of
every operator follows from the chain.
-/
import ObjectQuery.Plan.Predicate
import ObjectQuery.Query.Basic

namespace ObjectQuery

/-- One key of a sort: a position in the row that the sort reads, and a direction. -/
structure SortKey where
  position : Nat
  direction : SortDirection
  deriving DecidableEq

inductive Plan
  | scan (objectType : ObjectType)
  | filter (input : Plan) (condition : Predicate)
  | project (input : Plan) (positions : List Nat)
  | sort (input : Plan) (keys : List SortKey)
  | limit (input : Plan) (count offset : Nat)

/-- The kinds of operator, in the order in which a statement applies them. -/
inductive Stage
  | scan
  | filter
  | project
  | sort
  | limit
  deriving DecidableEq

/-- The place of a kind of operator in the order. -/
def Stage.rank : Stage → Nat
  | .scan => 0
  | .filter => 1
  | .project => 2
  | .sort => 3
  | .limit => 4

/-- The name of a kind of operator. -/
def Stage.name : Stage → String
  | .scan => "Scan"
  | .filter => "Filter"
  | .project => "Project"
  | .sort => "Sort"
  | .limit => "Limit"

namespace Plan

/-- The kind of the top operator. -/
def stage : Plan → Stage
  | scan _ => .scan
  | filter _ _ => .filter
  | project _ _ => .project
  | sort _ _ => .sort
  | limit _ _ _ => .limit

/-- The plan that the top operator reads; a scan reads none. -/
def input? : Plan → Option Plan
  | scan _ => none
  | filter input _ => some input
  | project input _ => some input
  | sort input _ => some input
  | limit input _ _ => some input

/-- The row that the top operator produces. -/
def row : Plan → Row
  | scan objectType => .canonical objectType
  | filter input _ => input.row
  | project input positions => input.row.select positions
  | sort input _ => input.row
  | limit input _ _ => input.row

/-- The object type at the leaf. -/
def objectType : Plan → ObjectType
  | scan objectType => objectType
  | filter input _ => input.objectType
  | project input _ => input.objectType
  | sort input _ => input.objectType
  | limit input _ _ => input.objectType

/-- The plans that each operator tops, the leaf first. -/
def operators : Plan → List Plan
  | scan objectType => [scan objectType]
  | filter input condition => input.operators ++ [filter input condition]
  | project input positions => input.operators ++ [project input positions]
  | sort input keys => input.operators ++ [sort input keys]
  | limit input count offset => input.operators ++ [limit input count offset]

/-- Narrow and reorder the row to some positions. Positions that the row does not have are left
out. -/
def projecting (plan : Plan) (positions : List Nat) : Plan :=
  .project plan (positions.filter (· < plan.row.length))

end Plan
end ObjectQuery
