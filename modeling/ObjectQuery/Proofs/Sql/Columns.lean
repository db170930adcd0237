/-
The columns of a statement are found by name.

Lowering finds columns by the position of a field in the canonical row.  For a sound
object type this is the column that the mapping gives to the field's name, under
either naming.
-/
import Mathlib.Data.List.Basic
import ObjectQuery.Proofs.Outcome
import ObjectQuery.Proofs.Plan.Provenance
import ObjectQuery.Proofs.Query.Meaning
import ObjectQuery.Proofs.Schema.Verified
import ObjectQuery.Sql.Lowering

namespace ObjectQuery
namespace Sql
namespace Lowering

variable {l : Lowering}

def columnOf? (l : Lowering) (field : String) : Option Column :=
  (l.mapping.fieldColumn? field).map fun column => ⟨l.identifier field column, field⟩

/-- A position leads to the column of the field that stands there. -/
theorem column?_eq (sound : l.type.Sound) {position : Nat} {field : Field}
    (found : l.type.fields[position]? = some field) :
    l.column? position = l.columnOf? field.name := by
  cases position with
  | zero =>
    simp only [ObjectType.fields, List.getElem?_cons_zero, Option.some.injEq] at found
    subst found
    simp [column?, columnOf?, Mapping.fieldColumn?]
  | succ index =>
    simp only [ObjectType.fields, List.getElem?_cons_succ, List.getElem?_map,
      Option.map_eq_some_iff] at found
    obtain ⟨property, found, rfl⟩ := found
    have ne_id : property.name ≠ idField :=
      sound.properties_ne_id property (List.mem_iff_getElem?.mpr ⟨index, found⟩)
    rw [column?, columnOf?, Mapping.fieldColumn?, if_neg ne_id, found]
    cases mapped : l.mapping.column? property.name <;> simp [mapped]

theorem column?_source (sound : l.type.Sound) {row : Row} (traces : row.Traces l.type)
    {field : RowField} (mem : field ∈ row) : l.column? field.source = l.columnOf? field.name :=
  column?_eq sound (traces field mem)

theorem filterMap_column? (sound : l.type.Sound) {row : Row} (traces : row.Traces l.type) :
    row.filterMap (fun field => l.column? field.source) = row.names.filterMap l.columnOf? := by
  rw [Row.names, List.filterMap_map]
  exact List.filterMap_congr fun field mem => column?_source sound traces mem

theorem allColumns_eq (sound : l.type.Sound) :
    l.allColumns = (Row.canonical l.type).names.filterMap l.columnOf? := by
  rw [← filterMap_column? sound (Row.canonical_traces l.type), Row.canonical,
    List.filterMap_map, allColumns]
  have width : l.type.width = l.type.fields.length := by
    simp [ObjectType.width, ObjectType.fields]
  rw [width, List.range_eq_range', ← List.zipIdx_map_snd 0 l.type.fields, List.filterMap_map]
  rfl

theorem fieldColumn_eq_ok (sound : l.type.Sound) {row : Row} (traces : row.Traces l.type)
    {position : Nat} {field : RowField} {name : String} (found : row[position]? = some field)
    (lowered : l.fieldColumn row position = .ok name) :
    ∃ column, l.columnOf? field.name = some column ∧ column.name = name := by
  rw [fieldColumn, found] at lowered
  simp only [column?_source sound traces (List.mem_iff_getElem?.mpr ⟨position, found⟩)] at lowered
  cases carried : l.columnOf? field.name with
  | none => simp [carried] at lowered
  | some column =>
    simp only [carried, Except.ok.injEq] at lowered
    exact ⟨column, rfl, lowered⟩

/-- Induction on a plan along with its statement: each operator sets a clause of the statement of
its input. -/
theorem select_induction {motive : Plan → Select → Prop}
    (scan : ∀ type, motive (.scan type) ⟨l.allColumns, l.table, none, [], none⟩)
    (filter : ∀ {input predicate statement added}, motive input statement →
      l.condition input.row predicate = .ok added →
      motive (.filter input predicate) { statement with condition := some added })
    (project : ∀ {input positions statement columns}, motive input statement →
      l.projectedColumns (input.row.select positions) = .ok columns →
      motive (.project input positions) { statement with columns })
    (sort : ∀ {input keys statement order}, motive input statement →
      l.orderTerms input.row keys = .ok order →
      motive (.sort input keys) { statement with order })
    (limit : ∀ {input count offset statement}, motive input statement →
      motive (.limit input count offset) { statement with window := some ⟨count, offset⟩ })
    {plan : Plan} {statement : Select} (selected : l.select plan = .ok statement) :
    motive plan statement := by
  induction plan generalizing statement with
  | scan type =>
    simp only [select, Except.ok.injEq] at selected
    subst selected
    exact scan type
  | filter input predicate ih =>
    simp only [select, Outcome.bind_eq_ok, Outcome.pure_eq_ok] at selected
    obtain ⟨_, below, _, added, rfl⟩ := selected
    exact filter (ih below) added
  | project input positions ih =>
    simp only [select, Outcome.bind_eq_ok, Outcome.pure_eq_ok] at selected
    obtain ⟨_, below, _, projected, rfl⟩ := selected
    exact project (ih below) projected
  | sort input keys ih =>
    simp only [select, Outcome.bind_eq_ok, Outcome.pure_eq_ok] at selected
    obtain ⟨_, below, _, sorted, rfl⟩ := selected
    exact sort (ih below) sorted
  | limit input count offset ih =>
    simp only [select, Outcome.bind_eq_ok, Outcome.pure_eq_ok] at selected
    obtain ⟨_, below, rfl⟩ := selected
    exact limit (ih below)

variable {plan : Plan} {statement : Select} {column : Column}

/-- Every column of a statement stands at a position of the canonical row. -/
theorem column?_of_mem_columns (selected : l.select plan = .ok statement) :
    ∀ column ∈ statement.columns, ∃ position, l.column? position = some column := by
  refine select_induction
    (motive := fun _ statement =>
      ∀ column ∈ statement.columns, ∃ position, l.column? position = some column)
    ?scan ?filter ?project ?sort ?limit selected
  case scan =>
    intro type column mem
    obtain ⟨position, _, found⟩ := List.mem_filterMap.mp mem
    exact ⟨position, found⟩
  case project =>
    intro input positions _ columns _ projected column mem
    rw [projectedColumns] at projected
    split at projected
    · contradiction
    · simp only [Except.ok.injEq] at projected
      subst projected
      obtain ⟨field, _, found⟩ := List.mem_filterMap.mp mem
      exact ⟨field.source, found⟩
  case filter => exact fun below _ => below
  case sort => exact fun below _ => below
  case limit => exact fun below => below

theorem table_select (selected : l.select plan = .ok statement) : statement.table = l.table :=
  select_induction (motive := fun _ statement => statement.table = l.table) (fun _ => rfl)
    (fun below _ => below) (fun below _ => below) (fun below _ => below) (fun below => below)
    selected

/-- A column carries a field under the identifier of the field's configured column. -/
theorem fieldColumn?_of_column? (sound : l.type.Sound) {position : Nat}
    (found : l.column? position = some column) :
    ∃ configured, l.mapping.fieldColumn? column.field = some configured ∧
      column.name = l.identifier column.field configured := by
  cases position with
  | zero =>
    simp only [column?, Option.some.injEq] at found
    subst found
    exact ⟨l.mapping.idColumn, by simp [Mapping.fieldColumn?], rfl⟩
  | succ index =>
    rw [column?, Option.bind_eq_bind, Option.bind_eq_some_iff] at found
    obtain ⟨property, listed, found⟩ := found
    rw [Option.bind_eq_bind, Option.bind_eq_some_iff] at found
    obtain ⟨configured, mapped, found⟩ := found
    simp only [Option.pure_def, Option.some.injEq] at found
    subst found
    have ne_id := sound.properties_ne_id property (List.mem_iff_getElem?.mpr ⟨index, listed⟩)
    exact ⟨configured, by rw [Mapping.fieldColumn?, if_neg ne_id, mapped], rfl⟩

end Lowering

/-- What a plan is lowered with: the object type of its scan and the mapping that serves it. -/
theorem lower_eq_ok {resolver : Resolver} {naming : Naming} {plan : Plan} {statement : Select}
    (lowered : lower resolver naming plan = .ok statement) :
    ∃ type mapping, resolver.objectType? plan.objectType.name = some type ∧
      resolver.mapping? plan.objectType.name = some mapping ∧
      Lowering.select ⟨type, mapping, naming⟩ plan = .ok statement := by
  rw [lower, Outcome.check_bind_eq_ok] at lowered
  obtain ⟨_, lowered⟩ := lowered
  cases typed : resolver.objectType? plan.objectType.name with
  | none => simp [typed] at lowered
  | some type =>
    cases mapped : resolver.mapping? plan.objectType.name with
    | none => simp [typed, mapped] at lowered
    | some mapping =>
      simp only [typed, mapped] at lowered
      exact ⟨type, mapping, rfl, rfl, lowered⟩

end Sql
end ObjectQuery
