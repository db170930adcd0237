/-
Plans as people read them: one operator per line, the last one first, each input indented below the
operator that reads it.
-/
import ObjectQuery.Plan.Basic

namespace ObjectQuery
namespace Plan

/-- The keys of a sort, numbered from the left. -/
def displayKeys (keys : List SortKey) : String :=
  ", ".intercalate (keys.zipIdx.map fun (key, i) =>
    "sort" ++ toString i ++ "=[$" ++ toString key.position ++ "], dir" ++ toString i ++ "=["
      ++ key.direction.keyword ++ "]")

/-- The top operator in one line. -/
def displayOperator : Plan → String
  | scan objectType => "Scan(table=[" ++ objectType.name ++ "])"
  | filter input condition => "Filter(condition=[" ++ condition.display input.row ++ "])"
  | project input positions =>
    "Project("
      ++ ", ".intercalate (((input.row.select positions).zip positions).map fun (field, position) =>
        field.name ++ "=[$" ++ toString position ++ "]")
      ++ ")"
  | sort _ keys => "Sort(" ++ displayKeys keys ++ ")"
  | limit _ count offset =>
    "Limit(offset=[" ++ toString offset ++ "], fetch=[" ++ toString count ++ "])"

/-- The plan, one operator per line. -/
def display (plan : Plan) : String :=
  "\n".intercalate (plan.operators.reverse.zipIdx.map fun (operator, depth) =>
    String.ofList (List.replicate (2 * depth) ' ') ++ operator.displayOperator)

end Plan
end ObjectQuery
