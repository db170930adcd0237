/-
Resolvers that serve a schema.

Plans are lowered against the schema itself or against a catalog built from it.  A
catalog may know fewer mappings, since a data source may be out of reach, but the
object types and mappings that it knows are the schema's.
-/
import ObjectQuery.Catalog.Basic
import ObjectQuery.Proofs.Schema.Verified

namespace ObjectQuery

/-- The resolvers that plans over a schema are lowered against. -/
inductive Schema.Serves (schema : Schema) : Resolver → Prop
  | itself : Schema.Serves schema schema.toResolver
  | catalog (connect : Connect) :
      Schema.Serves schema (Catalog.build schema connect).1.toResolver

namespace Catalog

theorem connectTo_keeps (connect : Connect) (state : Catalog × Switchboard)
    (source : DataSource) :
    (connectTo connect state source).1.schema = state.1.schema ∧
      (connectTo connect state source).1.tables = state.1.tables := by
  cases kind : source.kind with
  | error e => simp only [connectTo, kind, and_self]
  | ok kind =>
    cases connected : connect source with
    | error e => simp only [connectTo, kind, connected, and_self]
    | ok connection => simp only [connectTo, kind, connected, and_self]

theorem foldl_connectTo_keeps (connect : Connect) (sources : List DataSource)
    (state : Catalog × Switchboard) :
    (sources.foldl (connectTo connect) state).1.schema = state.1.schema ∧
      (sources.foldl (connectTo connect) state).1.tables = state.1.tables := by
  induction sources generalizing state with
  | nil => exact ⟨rfl, rfl⟩
  | cons source rest ih =>
    obtain ⟨schema, tables⟩ := ih (connectTo connect state source)
    rw [List.foldl_cons, schema, tables]
    exact connectTo_keeps connect state source

theorem registerTable_schema (board : Switchboard) (catalog : Catalog) (type : ObjectType) :
    (registerTable board catalog type).schema = catalog.schema := by
  unfold registerTable
  split <;> rfl

theorem mapping_of_tableOf? {catalog : Catalog} {board : Switchboard} {type : ObjectType}
    {table : Table} (h : catalog.tableOf? board type = some table) :
    type.mapping? = some table.mapping := by
  simp only [tableOf?, Option.bind_eq_bind, Option.bind_eq_some_iff] at h
  obtain ⟨mapping, found, _, _, _, _, made⟩ := h
  simp only [pure, Option.some.injEq] at made
  rw [found, ← made]

/-- A registered table is the one of its object type, or was there before. -/
theorem get?_registerTable {board : Switchboard} {catalog : Catalog} {type : ObjectType}
    {name : String} {table : Table}
    (h : (registerTable board catalog type).tables.get? name = some table) :
    catalog.tables.get? name = some table ∨
      (type.name = name ∧ type.mapping? = some table.mapping) := by
  unfold registerTable at h
  split at h
  · next made entered =>
    rw [Dict.get?_insert] at h
    by_cases same : name = type.name
    · rw [if_pos same, Option.some.injEq] at h
      subst h
      exact Or.inr ⟨same.symm, mapping_of_tableOf? entered⟩
    · rw [if_neg same] at h
      exact Or.inl h
  · exact Or.inl h

theorem foldl_registerTable {board : Switchboard} {types : List ObjectType} {catalog : Catalog}
    {name : String} {table : Table}
    (h : (types.foldl (registerTable board) catalog).tables.get? name = some table) :
    catalog.tables.get? name = some table ∨
      ∃ type ∈ types, type.name = name ∧ type.mapping? = some table.mapping := by
  induction types generalizing catalog with
  | nil => exact Or.inl h
  | cons type rest ih =>
    rcases ih h with entered | ⟨later, mem, own⟩
    · rcases get?_registerTable entered with before | own
      · exact Or.inl before
      · exact Or.inr ⟨type, List.mem_cons_self, own⟩
    · exact Or.inr ⟨later, List.mem_cons_of_mem _ mem, own⟩

theorem foldl_registerTable_schema (board : Switchboard) (types : List ObjectType)
    (catalog : Catalog) :
    (types.foldl (registerTable board) catalog).schema = catalog.schema := by
  induction types generalizing catalog with
  | nil => rfl
  | cons type rest ih => rw [List.foldl_cons, ih, registerTable_schema]

theorem build_schema (schema : Schema) (connect : Connect) :
    (build schema connect).1.schema = schema := by
  rw [build, foldl_registerTable_schema]
  exact (foldl_connectTo_keeps connect _ _).1

/-- Every table of a built catalog carries the configured mapping of its object type. -/
theorem type_of_table? {schema : Schema} {connect : Connect} {name : String} {table : Table}
    (h : (build schema connect).1.table? name = some table) :
    ∃ type ∈ schema.objectTypes.values, type.name = name ∧ type.mapping? = some table.mapping := by
  rw [build, table?] at h
  rcases foldl_registerTable h with before | own
  · rw [(foldl_connectTo_keeps connect _ _).2] at before
    simp [unconnected, Dict.get?, Dict.empty] at before
  · exact own

end Catalog

namespace Schema

variable {config : SchemaConfig} {schema : Schema} {resolver : Resolver}

theorem Serves.objectType? (serves : schema.Serves resolver) (name : String) :
    resolver.objectType? name = schema.objectType? name := by
  cases serves with
  | itself => rfl
  | catalog connect =>
    show (Catalog.build schema connect).1.schema.objectType? name = _
    rw [Catalog.build_schema]

theorem objectType?_of_mem (verified : ofConfig config = .ok schema) {type : ObjectType}
    (mem : type ∈ schema.objectTypes.values) : schema.objectType? type.name = some type := by
  obtain ⟨entries, _⟩ := ofConfig_eq_ok verified
  rw [Dict.values, entries, List.map_map, List.mem_map] at mem
  obtain ⟨declared, mem, rfl⟩ := mem
  rw [objectType?, Dict.get?_eq_some_iff, entries]
  exact List.mem_map.mpr ⟨declared, mem, rfl⟩

theorem Serves.mapping? (verified : ofConfig config = .ok schema)
    (serves : schema.Serves resolver) {name : String} {type : ObjectType} {mapping : Mapping}
    (found : schema.objectType? name = some type)
    (served : resolver.mapping? name = some mapping) : type.mapping? = some mapping := by
  cases serves with
  | itself =>
    have direct : (schema.objectType? name).bind ObjectType.mapping? = some mapping := served
    rw [found] at direct
    exact direct
  | catalog connect =>
    have entered : ((Catalog.build schema connect).1.table? name).map Table.mapping =
        some mapping := served
    obtain ⟨table, inCatalog, rfl⟩ := Option.map_eq_some_iff.mp entered
    obtain ⟨other, mem, named, own⟩ := Catalog.type_of_table? inCatalog
    have same := objectType?_of_mem verified mem
    rw [named, found, Option.some.injEq] at same
    rw [same, own]

end Schema
end ObjectQuery
