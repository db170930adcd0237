/-
Rows remember where their fields come from.

Whatever operators a plan has, every field of its row is the field of the canonical row
at the position it carries as its source.
-/
import Mathlib.Data.List.Basic
import ObjectQuery.Plan.Basic

namespace ObjectQuery
namespace Row

/-- Every field of the row is the field of the object type at its source. -/
def Traces (type : ObjectType) (row : Row) : Prop :=
  ∀ field ∈ row, type.fields[field.source]? = some ⟨field.name, field.type⟩

theorem getElem?_canonical (type : ObjectType) (position : Nat) :
    (canonical type)[position]? =
      type.fields[position]?.map fun field => ⟨field.name, field.type, position⟩ := by
  rw [canonical, List.getElem?_map, List.getElem?_zipIdx, Option.map_map]
  simp [Function.comp_def]

theorem canonical_traces (type : ObjectType) : (canonical type).Traces type := by
  intro field mem
  obtain ⟨position, found⟩ := List.mem_iff_getElem?.mp mem
  rw [getElem?_canonical, Option.map_eq_some_iff] at found
  obtain ⟨declared, found, rfl⟩ := found
  exact found

theorem Traces.select {type : ObjectType} {row : Row} (h : row.Traces type)
    (positions : List Nat) : (row.select positions).Traces type := by
  intro field mem
  obtain ⟨position, _, found⟩ := List.mem_filterMap.mp mem
  exact h field (List.mem_iff_getElem?.mpr ⟨position, found⟩)

theorem names_canonical (type : ObjectType) :
    (canonical type).names = type.fields.map Field.name := by
  rw [names, canonical, List.map_map]
  show (type.fields.zipIdx.map fun entry => entry.1.name) = _
  rw [show (fun entry : Field × Nat => entry.1.name) = Field.name ∘ Prod.fst from rfl,
    ← List.map_map, List.zipIdx_map_fst]

/-! ## Finding fields by name -/

theorem position?_eq_some {row : Row} {name : String} {position : Nat}
    (h : row.position? name = some position) :
    ∃ field, row[position]? = some field ∧ field.name = name := by
  obtain ⟨bound, found, _⟩ := List.findIdx?_eq_some_iff_getElem.mp h
  exact ⟨row[position], List.getElem?_eq_getElem bound, by simpa using found⟩

theorem position?_eq_none_iff {row : Row} {name : String} :
    row.position? name = none ↔ name ∉ row.names := by
  simp only [position?, List.findIdx?_eq_none_iff, names, List.mem_map, not_exists, not_and,
    beq_eq_false_iff_ne, ne_eq]

theorem contains_names (row : Row) (name : String) :
    row.names.contains name = (row.position? name).isSome := by
  rw [Bool.eq_iff_iff, List.contains_iff_mem, Option.isSome_iff_ne_none, ne_eq,
    position?_eq_none_iff, Decidable.not_not]

theorem position?_lt {row : Row} {name : String} {position : Nat}
    (h : row.position? name = some position) : position < row.length := by
  obtain ⟨bound, _⟩ := List.findIdx?_eq_some_iff_getElem.mp h
  exact bound

/-! ## Rows under other names -/

/-- The row with its fields renamed. -/
def rename (f : String → String) (row : Row) : Row :=
  row.map fun field => { field with name := f field.name }

variable {f : String → String}

theorem getElem?_rename (row : Row) (position : Nat) :
    (row.rename f)[position]? =
      row[position]?.map fun field => { field with name := f field.name } :=
  List.getElem?_map

theorem length_rename (row : Row) : (row.rename f).length = row.length := List.length_map _

theorem select_rename (row : Row) (positions : List Nat) :
    (row.rename f).select positions = (row.select positions).rename f := by
  have each : ∀ position ∈ positions, (row.rename f)[position]? =
      row[position]?.map fun field => { field with name := f field.name } :=
    fun position _ => getElem?_rename row position
  rw [select, select, List.filterMap_congr each]
  exact List.map_filterMap.symm

theorem position?_rename (injective : f.Injective) (row : Row) (name : String) :
    (row.rename f).position? (f name) = row.position? name := by
  rw [position?, position?, rename, List.findIdx?_map]
  congr 1
  funext field
  rw [Bool.eq_iff_iff]
  simp [injective.eq_iff]

end Row

namespace Plan

/-- The plan with its object type exchanged. -/
def mapType (f : ObjectType → ObjectType) : Plan → Plan
  | scan type => scan (f type)
  | filter input condition => filter (input.mapType f) condition
  | project input positions => project (input.mapType f) positions
  | sort input keys => sort (input.mapType f) keys
  | limit input count offset => limit (input.mapType f) count offset

theorem mapType_id (plan : Plan) : plan.mapType id = plan := by
  induction plan with
  | scan type => rfl
  | filter input condition ih => rw [mapType, ih]
  | project input positions ih => rw [mapType, ih]
  | sort input keys ih => rw [mapType, ih]
  | limit input count offset ih => rw [mapType, ih]

theorem objectType_mapType (f : ObjectType → ObjectType) (plan : Plan) :
    (plan.mapType f).objectType = f plan.objectType := by
  induction plan with
  | scan type => rfl
  | filter input condition ih => exact ih
  | project input positions ih => exact ih
  | sort input keys ih => exact ih
  | limit input count offset ih => exact ih

theorem stage_mapType (f : ObjectType → ObjectType) (plan : Plan) :
    (plan.mapType f).stage = plan.stage := by
  cases plan <;> rfl

/-- Exchanging the object type for one with other names renames the rows of a plan. -/
theorem row_mapType {f : ObjectType → ObjectType} {g : String → String}
    (rows : ∀ type, Row.canonical (f type) = (Row.canonical type).rename g) (plan : Plan) :
    (plan.mapType f).row = plan.row.rename g := by
  induction plan with
  | scan type => exact rows type
  | filter input condition ih => exact ih
  | project input positions ih => rw [mapType, row, row, ih, Row.select_rename]
  | sort input keys ih => exact ih
  | limit input count offset ih => exact ih

/-- Provenance along a whole plan: each operator hands the property on. -/
theorem row_traces (plan : Plan) : plan.row.Traces plan.objectType := by
  induction plan with
  | scan type => exact Row.canonical_traces type
  | filter input condition ih => exact ih
  | project input positions ih => exact ih.select positions
  | sort input keys ih => exact ih
  | limit input count offset ih => exact ih

end Plan
end ObjectQuery
