/-
Why planned queries cannot be rendered.

Lowering has many ways to fail: operators out of order, positions out of range, an object type that
nobody knows.  A planned query meets none of them.  It fails exactly when the mapping of its object
type is missing or has no column for a field that a filter, a sort or a whole projection needs, and
the error says so.
-/
import Mathlib
import ObjectQuery.Proofs.Plan.Pipeline
import ObjectQuery.Proofs.Schema.Serving
import ObjectQuery.Proofs.Sql.Columns
import ObjectQuery.Sql.Renderer

namespace ObjectQuery

/-- Whether the field at a position of a row has no column. -/
def Mapping.LacksAt (mapping : Mapping) (row : Row) (position : Nat) : Prop :=
  ∃ field, row[position]? = some field ∧ mapping.fieldColumn? field.name = none

/-- Whether the top operator of a plan needs a column that a mapping does not have.  A filter and a
sort need the columns of all their fields, a projection needs one. -/
def Mapping.LacksFor (mapping : Mapping) : Plan → Prop
  | .filter input condition =>
    ∃ equality ∈ condition.equalities, mapping.LacksAt input.row equality.1
  | .project input positions =>
    ∀ field ∈ input.row.select positions, mapping.fieldColumn? field.name = none
  | .sort input keys => ∃ key ∈ keys, mapping.LacksAt input.row key.position
  | .scan _ => False
  | .limit _ _ _ => False

/-- Whether a resolver has no mapping for the object type of a plan, or one without a column that
an operator needs. -/
def Plan.Unmapped (resolver : Resolver) (plan : Plan) : Prop :=
  match resolver.mapping? plan.objectType.name with
  | none => True
  | some mapping => ∃ operator ∈ plan.operators, mapping.LacksFor operator

/-- Whether an error says that an object type or one of its properties is not mapped. -/
def Error.IsUnmapped (objectType : String) (e : Error) : Prop :=
  ∃ property, e = .unresolvedMapping objectType property

namespace Sql
namespace Lowering

open Outcome

variable {l : Lowering} {row : Row}

theorem columnOf?_eq_none_iff {field : String} :
    l.columnOf? field = none ↔ l.mapping.fieldColumn? field = none := by
  rw [columnOf?, Option.map_eq_none_iff]

/-- The column of a field whose position is in range is found unless the field has none. -/
theorem fieldColumn_failsIff (sound : l.type.Sound) (traces : row.Traces l.type) {position : Nat}
    (inside : position < row.length) :
    FailsIff (Error.IsUnmapped l.type.name) (l.fieldColumn row position)
      (l.mapping.LacksAt row position) := by
  have found : row[position]? = some row[position] := List.getElem?_eq_getElem inside
  have same : l.mapping.LacksAt row position ↔
      l.mapping.fieldColumn? row[position].name = none := by
    rw [Mapping.LacksAt, found]
    simp
  rw [fieldColumn, found]
  simp only [column?_source sound traces (List.getElem_mem inside)]
  cases carried : l.columnOf? row[position].name with
  | none =>
    exact (FailsIff.error ⟨_, rfl⟩).of_iff
      (by simp [same, columnOf?_eq_none_iff.mp carried])
  | some column =>
    have mapped : l.mapping.fieldColumn? row[position].name ≠ none :=
      fun missing => by simp [columnOf?_eq_none_iff.mpr missing] at carried
    exact (FailsIff.ok _).of_iff (by simp [same, mapped])

mutual

theorem condition_failsIff (sound : l.type.Sound) (traces : row.Traces l.type)
    (predicate : Predicate)
    (inside : ∀ equality ∈ predicate.equalities, equality.1 < row.length) :
    FailsIff (Error.IsUnmapped l.type.name) (l.condition row predicate)
      (∃ equality ∈ predicate.equalities, l.mapping.LacksAt row equality.1) := by
  match predicate with
  | .equals position value =>
    have here : position < row.length := inside (position, value) (.head _)
    rw [condition]
    exact ((fieldColumn_failsIff sound traces here).map (Condition.equals · value)).of_iff
      (by simp [Predicate.equalities])
  | .all operands =>
    rw [condition]
    exact (conditions_failsIff sound traces operands inside).map Condition.all

theorem conditions_failsIff (sound : l.type.Sound) (traces : row.Traces l.type)
    (operands : List Predicate)
    (inside : ∀ equality ∈ Predicate.equalitiesOfAll operands, equality.1 < row.length) :
    FailsIff (Error.IsUnmapped l.type.name) (l.conditions row operands)
      (∃ equality ∈ Predicate.equalitiesOfAll operands,
        l.mapping.LacksAt row equality.1) := by
  match operands with
  | [] =>
    rw [conditions]
    exact (FailsIff.ok []).of_iff (by simp [Predicate.equalitiesOfAll])
  | operand :: rest =>
    rw [Predicate.equalitiesOfAll, List.forall_mem_append] at inside
    have first := condition_failsIff sound traces operand inside.1
    have others := conditions_failsIff sound traces rest inside.2
    rw [conditions]
    exact (first.bind fun a _ => others.map (a :: ·)).of_iff
      (by simp only [Predicate.equalitiesOfAll, List.mem_append, or_and_right, exists_or])

end

theorem projectedColumns_failsIff (sound : l.type.Sound) (traces : row.Traces l.type) :
    FailsIff (Error.IsUnmapped l.type.name) (l.projectedColumns row)
      (∀ field ∈ row, l.mapping.fieldColumn? field.name = none) := by
  have none_found : (row.filterMap fun field => l.column? field.source).isEmpty = true ↔
      ∀ field ∈ row, l.mapping.fieldColumn? field.name = none := by
    rw [List.isEmpty_iff, List.filterMap_eq_nil_iff]
    refine forall₂_congr fun field mem => ?_
    rw [column?_source sound traces mem, columnOf?_eq_none_iff]
  simp only [projectedColumns]
  split
  · next empty => exact (FailsIff.error ⟨_, rfl⟩).of_iff (by simpa using none_found.mp empty)
  · next some_found =>
    exact (FailsIff.ok _).of_iff (by simpa using mt none_found.mpr some_found)

theorem orderTerms_failsIff (sound : l.type.Sound) (traces : row.Traces l.type)
    {keys : List SortKey} (inside : ∀ key ∈ keys, key.position < row.length) :
    FailsIff (Error.IsUnmapped l.type.name) (l.orderTerms row keys)
      (∃ key ∈ keys, l.mapping.LacksAt row key.position) :=
  .mapM fun key mem => (fieldColumn_failsIff sound traces (inside key mem)).map
    (OrderTerm.mk · key.direction)

/-- A plan of fitting operators is lowered unless one of them needs a column that is missing. -/
theorem select_failsIff (sound : l.type.Sound) {plan : Plan} (typed : plan.objectType = l.type)
    (fits : ∀ operator ∈ plan.operators, operator.Fits) :
    FailsIff (Error.IsUnmapped l.type.name) (l.select plan)
      (∃ operator ∈ plan.operators, l.mapping.LacksFor operator) := by
  have traces : ∀ {input : Plan}, input.objectType = l.type → input.row.Traces l.type :=
    fun same => same ▸ Plan.row_traces _
  -- Each operator adds its own cause to those of its input; a limit adds none.
  induction plan with
  | scan type => exact (FailsIff.ok _).of_iff (by simp [Plan.operators, Mapping.LacksFor])
  | filter input predicate ih =>
    obtain ⟨below, canonical, inside⟩ := (Plan.forall_operators_of_input? rfl).mp fits
    rw [← canonical] at inside
    have added := condition_failsIff sound (traces typed) predicate inside
    exact ((ih typed below).bind fun statement _ =>
      added.map fun condition => { statement with condition := some condition }).of_iff
        (Plan.exists_operators_of_input? rfl).symm
  | project input positions ih =>
    obtain ⟨below, _⟩ := (Plan.forall_operators_of_input? rfl).mp fits
    have selected : (input.row.select positions).Traces l.type :=
      (traces (show input.objectType = l.type from typed)).select positions
    have added := projectedColumns_failsIff sound selected
    exact ((ih typed below).bind fun statement _ =>
      added.map fun columns => { statement with columns }).of_iff
        (Plan.exists_operators_of_input? rfl).symm
  | sort input keys ih =>
    obtain ⟨below, inside⟩ := (Plan.forall_operators_of_input? rfl).mp fits
    have added := orderTerms_failsIff sound (traces typed) inside
    exact ((ih typed below).bind fun statement _ =>
      added.map fun order => { statement with order }).of_iff
        (Plan.exists_operators_of_input? rfl).symm
  | limit input count offset ih =>
    obtain ⟨below, _⟩ := (Plan.forall_operators_of_input? rfl).mp fits
    have same : (∃ operator ∈ (Plan.limit input count offset).operators,
          l.mapping.LacksFor operator) ↔
        ∃ operator ∈ input.operators, l.mapping.LacksFor operator :=
      (Plan.exists_operators_of_input? rfl).trans (or_iff_left not_false)
    exact ((ih typed below).map fun statement =>
      { statement with window := some ⟨count, offset⟩ }).of_iff same.symm

end Lowering
end Sql

/-- A planned query is lowered unless it is unmapped. -/
theorem Plan.lower_failsIff {config : SchemaConfig} {schema : Schema} {plan : Plan}
    {r : Sql.Renderer} (verified : Schema.ofConfig config = .ok schema)
    (serves : schema.Serves r.resolver)
    (known : schema.objectType? plan.objectType.name = some plan.objectType)
    (wellFormed : plan.WellFormed) :
    Outcome.FailsIff (Error.IsUnmapped plan.objectType.name) (r.lower plan)
      (plan.Unmapped r.resolver) := by
  obtain ⟨sound, _⟩ := Schema.sound_of_objectType? verified known
  have inOrder := (Plan.verifyPipeline_eq_ok_iff plan).mpr wellFormed.ascending
  rw [Sql.Renderer.lower, Sql.lower, inOrder, Unmapped]
  simp only [serves.objectType?, known]
  cases r.resolver.mapping? plan.objectType.name with
  | none => exact .error ⟨none, rfl⟩
  | some mapping =>
    let l : Sql.Lowering := ⟨plan.objectType, mapping, .physical r.identifierCase⟩
    exact l.select_failsIff sound rfl wellFormed.fits

/-- A planned query has its operators in order over positions that exist.  It is lowered unless it
is unmapped, and an error never says anything else. -/
theorem Schema.lower_planned {config : SchemaConfig} {schema : Schema} {policy : UnknownFields}
    {query : Query} {plan : Plan} {r : Sql.Renderer}
    (verified : Schema.ofConfig config = .ok schema) (serves : schema.Serves r.resolver)
    (planned : Plan.ofQuery schema policy query = .ok plan) :
    plan.WellFormed ∧ ((∃ e, r.lower plan = .error e) ↔ plan.Unmapped r.resolver) ∧
      ∀ e, r.lower plan = .error e → ∃ property,
        e = .unresolvedMapping plan.objectType.name property := by
  obtain ⟨name, _, found⟩ := Plan.objectType_ofQuery planned
  obtain ⟨_, rfl⟩ := Schema.sound_of_objectType? verified found
  have wellFormed := Plan.wellFormed_ofQuery planned
  have fails := Plan.lower_failsIff verified serves found wellFormed
  exact ⟨wellFormed, fails.iff, fails.expected⟩

namespace Cars

def plainRenderer : Sql.Renderer := ⟨schema.toResolver, .sqlite, .preserve⟩

/-- Cars of a plate, in the order of a property without a column. -/
def noteQuery : Query :=
  ⟨some "Car", ["note", "year"], ⟨[("plate", .string "B")], by decide⟩, [⟨"note", none⟩], none,
    none⟩

def notePlan : Plan :=
  .sort (.project (.filter (.scan car) (.equals 1 (.text "B"))) [3, 2]) [⟨0, .ascending⟩]

theorem lower_notePlan :
    Schema.ofConfig config = .ok schema ∧ Plan.ofQuery schema .reject noteQuery = .ok notePlan ∧
      notePlan.Unmapped plainRenderer.resolver ∧
      ∃ property, plainRenderer.lower notePlan = .error (.unresolvedMapping "Car" property) := by
  have planned : Plan.ofQuery schema .reject noteQuery = .ok notePlan := by cbv
  have mapped : plainRenderer.resolver.mapping? notePlan.objectType.name = some mapping := by
    decide +kernel
  have unmapped : notePlan.Unmapped plainRenderer.resolver := by
    rw [Plan.Unmapped, mapped]
    refine ⟨notePlan, by simp [notePlan, Plan.operators], ⟨0, .ascending⟩, .head _,
      ⟨"note", some .string, 3⟩, rfl, ?_⟩
    decide +kernel
  obtain ⟨_, fails, names⟩ :=
    Schema.lower_planned (r := plainRenderer) ofConfig_config .itself planned
  obtain ⟨e, failed⟩ := fails.mpr unmapped
  obtain ⟨property, rfl⟩ := names e failed
  exact ⟨ofConfig_config, planned, unmapped, property, failed⟩

end Cars
end ObjectQuery
