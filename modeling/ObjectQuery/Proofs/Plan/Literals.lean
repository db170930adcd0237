/-
The literals of a plan.

They are the values that its filters compare with.  Planning encodes them from a request, so the
literals of a planned query are finite.
-/
import ObjectQuery.Proofs.Literal
import ObjectQuery.Proofs.Plan.Resolution

namespace ObjectQuery
namespace Plan

def literals : Plan → List Value
  | scan _ => []
  | filter input condition => input.literals ++ condition.equalities.map Prod.snd
  | project input _ => input.literals
  | sort input _ => input.literals
  | limit input _ _ => input.literals

/-- Whether no literal is infinite or undefined. -/
def IsFinite (plan : Plan) : Prop := ∀ value ∈ plan.literals, value.IsFinite

theorem literals_projected (plan : Plan) (positions : List Nat) :
    (plan.projected positions).literals = plan.literals := by
  unfold projected
  split <;> rfl

theorem literals_sorted (plan : Plan) (keys : List SortKey) :
    (plan.sorted keys).literals = plan.literals := by
  unfold sorted
  split <;> rfl

theorem literals_limited (plan : Plan) (count offset : Option Int64) :
    (plan.limited count offset).literals = plan.literals := by
  unfold limited
  split
  · split <;> rfl
  · rfl

theorem isFinite_filterPredicates {policy : UnknownFields} {row : Row}
    {entries : List (String × Json)} {predicates : List Predicate}
    (planned : filterPredicates policy row entries = .ok predicates) :
    ∀ equality ∈ Predicate.equalitiesOfAll predicates, equality.2.IsFinite := by
  intro equality mem
  obtain ⟨_, _, _, encoded⟩ := of_mem_filterPredicates planned equality mem
  exact Literal.isFinite_of_encode encoded

theorem isFinite_ofQuery {schema : Schema} {policy : UnknownFields} {query : Query} {plan : Plan}
    (planned : ofQuery schema policy query = .ok plan) : plan.IsFinite := by
  obtain ⟨_, type, predicates, _, _, _, _, filters, _, _, rfl⟩ := ofQuery_eq_ok planned
  rw [IsFinite, literals_limited, literals_sorted, literals_projected]
  unfold filtered
  split
  · next condition joined =>
    rw [literals, literals, List.nil_append, equalities_conjunction? joined]
    intro value mem
    obtain ⟨equality, listed, rfl⟩ := List.mem_map.mp mem
    exact isFinite_filterPredicates filters equality listed
  · intro value mem
    contradiction

end Plan
end ObjectQuery
