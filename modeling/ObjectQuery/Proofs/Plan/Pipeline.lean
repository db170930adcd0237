/-
The shape of planned queries.

Planning puts operators on top of a scan in the order of a statement's clauses, each at most once,
and the positions that they refer to exist: those of the filter in the canonical row, those of the
sort in the row that it reads.  So lowering finds neither an operator out of order nor a position
out of range in a planned query.
-/
import Mathlib.Data.List.Basic
import ObjectQuery.Proofs.Plan.Resolution
import ObjectQuery.Sql.Lowering

namespace ObjectQuery
namespace Plan

/-- The kinds of a plan's operators, the leaf's first. -/
def stages (plan : Plan) : List Stage := plan.operators.map stage

/-- Whether the positions that the top operator refers to exist.  A filter refers to the canonical
row. -/
def Fits : Plan → Prop
  | filter input condition =>
    input.row = Row.canonical input.objectType ∧
      ∀ equality ∈ condition.equalities, equality.1 < (Row.canonical input.objectType).length
  | sort input keys => ∀ key ∈ keys, key.position < input.row.length
  | scan _ => True
  | project _ _ => True
  | limit _ _ _ => True

/-- A scan with operators in the order of a statement's clauses, over positions that exist. -/
structure WellFormed (plan : Plan) : Prop where
  scan_first : plan.stages.head? = some .scan
  ascending : plan.stages.Pairwise fun a b => a.rank < b.rank
  fits : ∀ operator ∈ plan.operators, operator.Fits

/-! ## One operator after the other -/

/-- Induction along the inputs of a plan, for what does not depend on the kinds of operators. -/
theorem input_induction {motive : Plan → Prop} (scan : ∀ type, motive (.scan type))
    (step : ∀ {plan input}, plan.input? = some input → motive input → motive plan)
    (plan : Plan) : motive plan := by
  induction plan with
  | scan type => exact scan type
  | filter input condition ih => exact step rfl ih
  | project input positions ih => exact step rfl ih
  | sort input keys ih => exact step rfl ih
  | limit input count offset ih => exact step rfl ih

section

variable {plan input : Plan}

theorem operators_of_input? (reads : plan.input? = some input) :
    plan.operators = input.operators ++ [plan] := by
  cases plan <;> cases reads <;> rfl

theorem forall_operators_of_input? (reads : plan.input? = some input) {P : Plan → Prop} :
    (∀ operator ∈ plan.operators, P operator) ↔
      (∀ operator ∈ input.operators, P operator) ∧ P plan := by
  rw [operators_of_input? reads, List.forall_mem_append, List.forall_mem_singleton]

theorem exists_operators_of_input? (reads : plan.input? = some input) {P : Plan → Prop} :
    (∃ operator ∈ plan.operators, P operator) ↔
      (∃ operator ∈ input.operators, P operator) ∨ P plan := by
  simp only [operators_of_input? reads, List.mem_append, List.mem_singleton, or_and_right,
    exists_or, exists_eq_left]

theorem stages_of_input? (reads : plan.input? = some input) :
    plan.stages = input.stages ++ [plan.stage] := by
  rw [stages, operators_of_input? reads, List.map_append]
  rfl

theorem verifyPipeline_of_input? (reads : plan.input? = some input) :
    Sql.verifyPipeline plan = (do
      Sql.verifyPipeline input
      Sql.verifyOrder plan.stage input.stage) := by
  cases plan <;> cases reads <;> rfl

/-- The last stage of a plan is that of its top operator. -/
theorem exists_stages_eq (plan : Plan) : ∃ before, plan.stages = before ++ [plan.stage] := by
  cases reads : plan.input? with
  | some input => exact ⟨input.stages, stages_of_input? reads⟩
  | none =>
    cases plan with
    | scan type => exact ⟨[], rfl⟩
    | _ => contradiction

theorem rank_le_of_mem_stages (ascending : plan.stages.Pairwise fun a b => a.rank < b.rank)
    {stage : Stage} (mem : stage ∈ plan.stages) : stage.rank ≤ plan.stage.rank := by
  obtain ⟨before, split⟩ := plan.exists_stages_eq
  rw [split, List.pairwise_append] at ascending
  rw [split, List.mem_append, List.mem_singleton] at mem
  rcases mem with earlier | rfl
  · exact Nat.le_of_lt (ascending.2.2 stage earlier plan.stage (List.mem_singleton_self _))
  · exact Nat.le_refl _

theorem verifyOrder_eq_ok_iff {top below : Stage} :
    Sql.verifyOrder top below = .ok () ↔ below.rank < top.rank := by
  unfold Sql.verifyOrder
  split <;> simp [*]

/-- The stages of a plan ascend when its top operator comes after its input and the input's stages
ascend. -/
theorem ascending_iff_of_input? (reads : plan.input? = some input) :
    (plan.stages.Pairwise fun a b => a.rank < b.rank) ↔
      (input.stages.Pairwise fun a b => a.rank < b.rank) ∧ input.stage.rank < plan.stage.rank := by
  rw [stages_of_input? reads, List.pairwise_append]
  constructor
  · rintro ⟨below, _, before⟩
    obtain ⟨earlier, split⟩ := input.exists_stages_eq
    exact ⟨below, before input.stage (by simp [split]) plan.stage (List.mem_singleton_self _)⟩
  · rintro ⟨below, next⟩
    refine ⟨below, List.pairwise_singleton _ _, fun a mem b top => ?_⟩
    rw [List.mem_singleton] at top
    rw [top]
    exact Nat.lt_of_le_of_lt (rank_le_of_mem_stages below mem) next

/-- The check of the order passes exactly on the plans whose stages ascend. -/
theorem verifyPipeline_eq_ok_iff (plan : Plan) :
    Sql.verifyPipeline plan = .ok () ↔ plan.stages.Pairwise fun a b => a.rank < b.rank := by
  induction plan using input_induction with
  | scan type => simp [Sql.verifyPipeline, stages, operators]
  | step reads ih =>
    rw [verifyPipeline_of_input? reads, Outcome.check_bind_eq_ok, ih, verifyOrder_eq_ok_iff,
      ascending_iff_of_input? reads]

/-! ## The operators that planning adds -/

theorem wellFormed_scan (type : ObjectType) : (scan type).WellFormed where
  scan_first := rfl
  ascending := List.pairwise_singleton _ _
  fits := by simp [operators, Fits]

/-- An operator that comes after those of a well-formed plan and fits makes another one. -/
theorem WellFormed.step (below : input.WellFormed) (reads : plan.input? = some input)
    (next : input.stage.rank < plan.stage.rank) (fits : plan.Fits) : plan.WellFormed where
  scan_first := by
    rw [stages_of_input? reads, List.head?_append, below.scan_first]
    rfl
  ascending := (ascending_iff_of_input? reads).mpr ⟨below.ascending, next⟩
  fits := (forall_operators_of_input? reads).mpr ⟨below.fits, fits⟩

theorem wellFormed_filtered {type : ObjectType} {predicates : List Predicate}
    (inside : ∀ equality ∈ Predicate.equalitiesOfAll predicates,
      equality.1 < (Row.canonical type).length) :
    ((scan type).filtered predicates).WellFormed ∧
      ((scan type).filtered predicates).stage.rank ≤ Stage.filter.rank := by
  have next : Stage.scan.rank < Stage.filter.rank := by decide
  unfold filtered
  split
  · next condition joined =>
    have fits : (filter (scan type) condition).Fits :=
      ⟨rfl, by rwa [equalities_conjunction? joined]⟩
    exact ⟨(wellFormed_scan type).step rfl next fits, Nat.le_refl _⟩
  · exact ⟨wellFormed_scan type, Nat.le_of_lt next⟩

theorem WellFormed.projected (below : plan.WellFormed)
    (rank : plan.stage.rank ≤ Stage.filter.rank) (positions : List Nat) :
    (plan.projected positions).WellFormed ∧
      (plan.projected positions).stage.rank ≤ Stage.project.rank := by
  have next : Stage.filter.rank < Stage.project.rank := by decide
  unfold Plan.projected
  split
  · exact ⟨below, Nat.le_trans rank (Nat.le_of_lt next)⟩
  · exact ⟨below.step rfl (Nat.lt_of_le_of_lt rank next) trivial, Nat.le_refl _⟩

theorem WellFormed.sorted (below : plan.WellFormed)
    (rank : plan.stage.rank ≤ Stage.project.rank) {keys : List SortKey}
    (inside : ∀ key ∈ keys, key.position < plan.row.length) :
    (plan.sorted keys).WellFormed ∧ (plan.sorted keys).stage.rank ≤ Stage.sort.rank := by
  have next : Stage.project.rank < Stage.sort.rank := by decide
  unfold Plan.sorted
  split
  · exact ⟨below, Nat.le_trans rank (Nat.le_of_lt next)⟩
  · exact ⟨below.step rfl (Nat.lt_of_le_of_lt rank next) inside, Nat.le_refl _⟩

theorem WellFormed.limited (below : plan.WellFormed) (rank : plan.stage.rank ≤ Stage.sort.rank)
    (count offset : Option Int64) : (plan.limited count offset).WellFormed := by
  have next : Stage.sort.rank < Stage.limit.rank := by decide
  unfold Plan.limited
  split
  · split
    · exact below.step rfl (Nat.lt_of_le_of_lt rank next) trivial
    · exact below
  · exact below

end

/-- Every planned query is well-formed. -/
theorem wellFormed_ofQuery {schema : Schema} {policy : UnknownFields} {query : Query} {plan : Plan}
    (planned : ofQuery schema policy query = .ok plan) : plan.WellFormed := by
  obtain ⟨_, type, predicates, positions, keys, _, _, filters, _, sorts, rfl⟩ :=
    ofQuery_eq_ok planned
  have filter_inside : ∀ equality ∈ Predicate.equalitiesOfAll predicates,
      equality.1 < (Row.canonical type).length := fun equality mem => by
    obtain ⟨_, _, resolved, _⟩ := of_mem_filterPredicates filters equality mem
    exact Row.position?_lt resolved
  have sort_inside : ∀ key ∈ keys,
      key.position < (((scan type).filtered predicates).projected positions).row.length :=
    fun key mem => by
      obtain ⟨_, _, resolved, _⟩ := of_mem_sortKeys sorts key mem
      exact Row.position?_lt resolved
  obtain ⟨filtered, filter_rank⟩ := wellFormed_filtered filter_inside
  obtain ⟨projected, project_rank⟩ := filtered.projected filter_rank positions
  obtain ⟨sorted, sort_rank⟩ := projected.sorted project_rank sort_inside
  exact sorted.limited sort_rank query.limit query.offset

end Plan
end ObjectQuery
