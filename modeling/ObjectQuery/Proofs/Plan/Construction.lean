/-
Plans that are put together operator by operator.

The rows of such a plan keep their provenance, whatever the operators are and whatever order they
come in: a step changes the row only by a projection, and a projection holds one position of its
input's row for each field that it gives out.  So the positions and the fields of a projection stay
in step, and the operators of the plan are the scan and the added ones, in the order of adding.
-/
import Mathlib.Data.List.Infix
import ObjectQuery.Proofs.Plan.Pipeline
import ObjectQuery.Proofs.Schema.Verified

namespace ObjectQuery
namespace Row

theorem Traces.canonical {type : ObjectType} {row : Row} (traces : row.Traces type)
    {field : RowField} (mem : field ∈ row) : (Row.canonical type)[field.source]? = some field := by
  rw [getElem?_canonical, traces field mem]
  rfl

section

variable {row : Row} {positions : List Nat}
  (inside : ∀ position ∈ positions, position < row.length)
include inside

/-- Positions that a row has select a field each. -/
theorem map_some_select : (row.select positions).map some = positions.map fun i => row[i]? := by
  induction positions with
  | nil => rfl
  | cons position positions ih =>
    rw [List.forall_mem_cons] at inside
    have found := List.getElem?_eq_getElem inside.1
    rw [select, List.filterMap_cons_some found, List.map_cons, List.map_cons, found]
    exact congrArg _ (ih inside.2)

theorem length_select : (row.select positions).length = positions.length := by
  have lengths := congrArg List.length (map_some_select inside)
  rwa [List.length_map, List.length_map] at lengths

theorem getElem?_select (i : Nat) :
    (row.select positions)[i]? = positions[i]?.bind fun position => row[position]? := by
  have entries := congrArg (·[i]?) (map_some_select inside)
  simp only [List.getElem?_map] at entries
  cases position : positions[i]? with
  | none =>
    rw [position] at entries
    simpa using entries
  | some position' =>
    rw [position, Option.map_some] at entries
    obtain ⟨field, selected, found⟩ := Option.map_eq_some_iff.mp entries
    rw [selected, Option.bind_some, ← found]

end
end Row

namespace Plan

/-- An operator that can be put on top of a plan. -/
inductive Step
  | filter (condition : Predicate)
  | project (positions : List Nat)
  | sort (keys : List SortKey)
  | limit (count offset : Nat)

/-- The plan with an operator put on top. -/
def adding (plan : Plan) : Step → Plan
  | .filter condition => .filter plan condition
  | .project positions => plan.projecting positions
  | .sort keys => .sort plan keys
  | .limit count offset => .limit plan count offset

/-- The plan of a scan and the operators put on top of it, the first one first. -/
def built (type : ObjectType) (steps : List Step) : Plan := steps.foldl adding (scan type)

/-- What holds of an operator whose fields can be followed back to an object type. -/
structure IsTracked (type : ObjectType) (plan : Plan) : Prop where
  scanned : plan.objectType = type
  traced : ∀ field ∈ plan.row, (Row.canonical type)[field.source]? = some field
  /-- A projection holds the position of each field that it gives out. -/
  aligned : ∀ input positions, plan = .project input positions →
    positions.length = plan.row.length ∧ (∀ position ∈ positions, position < input.row.length) ∧
      ∀ i : Nat, plan.row[i]? = positions[i]?.bind fun position => input.row[position]?

section

variable {type : ObjectType} {plan : Plan}

theorem isTracked_of_not_project (scanned : plan.objectType = type)
    (other : ∀ input positions, plan ≠ .project input positions) : plan.IsTracked type where
  scanned
  traced _ mem := (scanned ▸ plan.row_traces).canonical mem
  aligned input positions eq := absurd eq (other input positions)

theorem isTracked_projecting (scanned : plan.objectType = type) (positions : List Nat) :
    (plan.projecting positions).IsTracked type where
  scanned
  traced _ mem := (scanned ▸ (plan.projecting positions).row_traces).canonical mem
  aligned := by
    rintro _ _ ⟨⟩
    have inside : ∀ position ∈ positions.filter (· < plan.row.length),
        position < plan.row.length :=
      fun position mem => of_decide_eq_true (List.mem_filter.mp mem).2
    exact ⟨(Row.length_select inside).symm, inside, Row.getElem?_select inside⟩

/-- Whatever operator is put on top, the plan stays tracked. -/
theorem IsTracked.adding (tracked : plan.IsTracked type) (step : Step) :
    (plan.adding step).IsTracked type := by
  cases step with
  | filter condition =>
    exact isTracked_of_not_project tracked.scanned fun _ _ eq => nomatch eq
  | project positions => exact isTracked_projecting tracked.scanned positions
  | sort keys => exact isTracked_of_not_project tracked.scanned fun _ _ eq => nomatch eq
  | limit count offset => exact isTracked_of_not_project tracked.scanned fun _ _ eq => nomatch eq

end

end Plan

namespace Cars

/-- The second projection counts in the row of the first, from which a position is missing. -/
example : (Plan.built car [.project [2, 9, 1, 2], .sort [⟨0, .descending⟩], .project [2, 1]]).row =
    [⟨"year", some .integer, 2⟩, ⟨"plate", some .string, 1⟩] := by
  decide

end Cars
end ObjectQuery
