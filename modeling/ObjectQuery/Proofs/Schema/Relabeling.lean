/-
Other names for object types and fields.

A relabeling gives every object type and every field another name and keeps different names apart.
What a schema says besides names stays as it is: the types of the properties, the data sources, the
tables and the columns.  A schema is accepted under its new names exactly when it is under the old
ones, and a catalog built from it opens the same connections.
-/
import ObjectQuery.Proofs.Plan.Provenance
import ObjectQuery.Proofs.Schema.Serving

namespace ObjectQuery

/-- Whether callers cannot tell two errors apart. -/
def Error.SameKinds (e e' : Error) : Prop := e.kinds = e'.kinds

theorem Error.SameKinds.refl (e : Error) : e.SameKinds e := rfl

/-- New names for object types and for fields.  The id keeps its name, and no name becomes empty or
blank, or ceases to be. -/
structure Relabeling where
  types : String → String
  fields : String → String
  types_injective : types.Injective
  fields_injective : fields.Injective
  types_empty : types "" = ""
  types_blank : ∀ name, Text.blank (types name) = Text.blank name
  fields_empty : fields "" = ""
  fields_id : fields idField = idField

namespace Relabeling

variable (ρ : Relabeling)

def mapping (mapping : Mapping) : Mapping :=
  { mapping with columns := mapping.columns.mapEntries ρ.fields ρ.fields_injective id }

def property (property : Property) : Property := { property with name := ρ.fields property.name }

def objectType (type : ObjectType) : ObjectType :=
  ⟨ρ.types type.name, type.properties.map ρ.property, type.dataSource.map ρ.mapping⟩

def config (config : SchemaConfig) : SchemaConfig :=
  { config with objectTypes := config.objectTypes.map ρ.objectType }

def schema (schema : Schema) : Schema :=
  { schema with
    objectTypes := schema.objectTypes.mapEntries ρ.types ρ.types_injective ρ.objectType }

def table (table : Table) : Table := { table with mapping := ρ.mapping table.mapping }

def catalog (catalog : Catalog) : Catalog :=
  { catalog with
    schema := ρ.schema catalog.schema
    tables := catalog.tables.mapEntries ρ.types ρ.types_injective ρ.table }

/-! ## Looking up -/

theorem property?_objectType (type : ObjectType) (name : String) :
    (ρ.objectType type).property? (ρ.fields name) = (type.property? name).map ρ.property := by
  rw [ObjectType.property?, ObjectType.property?, objectType, List.find?_map]
  congr 2
  funext property
  rw [Bool.eq_iff_iff]
  simp [Relabeling.property, ρ.fields_injective.eq_iff]

theorem column?_mapping (mapping : Mapping) (name : String) :
    (ρ.mapping mapping).column? (ρ.fields name) = mapping.column? name := by
  rw [Mapping.column?, Mapping.column?, Relabeling.mapping, Dict.get?_mapEntries, Option.map_id, id]

theorem mapping?_objectType (type : ObjectType) :
    (ρ.objectType type).mapping? = type.mapping?.map ρ.mapping := by
  rw [ObjectType.mapping?, ObjectType.mapping?, objectType]
  cases type.dataSource with
  | none => rfl
  | some mapping =>
    have same : (ρ.mapping mapping).isConfigured = mapping.isConfigured := rfl
    cases configured : mapping.isConfigured <;> simp [Option.filter, same, configured]

theorem objectType?_schema (schema : Schema) (name : String) :
    (ρ.schema schema).objectType? (ρ.types name) = (schema.objectType? name).map ρ.objectType := by
  rw [Schema.objectType?, Schema.objectType?, Relabeling.schema, Dict.get?_mapEntries]

theorem canonical_objectType (type : ObjectType) :
    Row.canonical (ρ.objectType type) = (Row.canonical type).rename ρ.fields := by
  have fields : (ρ.objectType type).fields =
      type.fields.map fun field => { field with name := ρ.fields field.name } := by
    simp [ObjectType.fields, objectType, property, ρ.fields_id, Function.comp_def]
  rw [Row.canonical, Row.canonical, Row.rename, fields, List.zipIdx_map, List.map_map, List.map_map]
  rfl

/-! ## Accepting a schema -/

theorem verifyProperties_alike (type : ObjectType) (seen : List String)
    (properties : List Property) :
    Outcome.Alike Error.SameKinds Eq (type.verifyProperties seen properties)
      ((ρ.objectType type).verifyProperties (seen.map ρ.fields) (properties.map ρ.property)) := by
  have unnamed (name : String) : ρ.fields name = "" ↔ name = "" :=
    ρ.fields_injective.eq_iff' ρ.fields_empty
  have reserved (name : String) : ρ.fields name = idField ↔ name = idField :=
    ρ.fields_injective.eq_iff' ρ.fields_id
  induction properties generalizing seen with
  | nil => exact .ok rfl
  | cons property rest ih =>
    have again : ρ.fields property.name ∈ seen.map ρ.fields ↔ property.name ∈ seen :=
      List.mem_map_of_injective ρ.fields_injective
    simp only [List.map_cons, ObjectType.verifyProperties, Relabeling.property, unnamed, reserved,
      again]
    split
    · exact .error rfl
    · split
      · exact .error rfl
      · split
        · exact .error rfl
        · exact ih (property.name :: seen)

theorem verifyColumns_alike (type : ObjectType) (seen : List String)
    (entries : List (String × String)) :
    Outcome.Alike Error.SameKinds Eq (type.verifyColumns seen entries)
      ((ρ.objectType type).verifyColumns seen
        (entries.map fun entry => (ρ.fields entry.1, entry.2))) := by
  induction entries generalizing seen with
  | nil => exact .ok rfl
  | cons entry rest ih =>
    simp only [List.map_cons, ObjectType.verifyColumns, property?_objectType, Option.isNone_map]
    split
    · exact .error rfl
    · split
      · exact .error rfl
      · split
        · exact .error rfl
        · exact ih (entry.2 :: seen)

theorem verify_alike (type : ObjectType) :
    Outcome.Alike Error.SameKinds Eq type.verify (ρ.objectType type).verify := by
  have unnamed : (ρ.objectType type).name = "" ↔ type.name = "" :=
    ρ.types_injective.eq_iff' ρ.types_empty
  have properties : Outcome.Alike Error.SameKinds Eq (type.verifyProperties [] type.properties)
      ((ρ.objectType type).verifyProperties [] (ρ.objectType type).properties) :=
    ρ.verifyProperties_alike type [] type.properties
  unfold ObjectType.verify
  simp only [unnamed]
  split
  · exact .error rfl
  · refine properties.bind fun _ _ _ => ?_
    rw [show (ρ.objectType type).dataSource = type.dataSource.map ρ.mapping from rfl]
    cases type.dataSource with
    | none => exact .ok rfl
    | some mapping => exact ρ.verifyColumns_alike type _ mapping.columns.entries

theorem register_alike (entered : Dict ObjectType) (types : List ObjectType) :
    Outcome.Alike Error.SameKinds
      (fun d d' => d' = d.mapEntries ρ.types ρ.types_injective ρ.objectType)
      (Schema.register "object type" ObjectType.name entered types)
      (Schema.register "object type" ObjectType.name
        (entered.mapEntries ρ.types ρ.types_injective ρ.objectType) (types.map ρ.objectType)) := by
  induction types generalizing entered with
  | nil => exact .ok rfl
  | cons type rest ih =>
    have named : (ρ.objectType type).name = ρ.types type.name := rfl
    simp only [List.map_cons, Schema.register, named, Dict.contains_mapEntries]
    split
    · exact .error rfl
    · rw [← Dict.mapEntries_insert]
      exact ih _

/-- A schema is accepted under other names when it is under its own, or refused as well. -/
theorem ofConfig_alike (config : SchemaConfig) :
    Outcome.Alike Error.SameKinds (fun schema schema' => schema' = ρ.schema schema)
      (Schema.ofConfig config) (Schema.ofConfig (ρ.config config)) := by
  have types := ρ.register_alike .empty config.objectTypes
  have sources : Outcome.Alike Error.SameKinds Eq
      (Schema.register "data source" DataSource.id .empty config.dataSources)
      (Schema.register "data source" DataSource.id .empty config.dataSources) :=
    .refl Error.SameKinds.refl _
  refine types.bind fun objectTypes _ mapped => sources.bind fun dataSources _ same => ?_
  subst mapped same
  have checked : Outcome.Alike Error.SameKinds Eq (objectTypes.values.forM ObjectType.verify)
      ((objectTypes.values.map ρ.objectType).forM ObjectType.verify) :=
    .forM_map fun type _ => ρ.verify_alike type
  rw [Dict.values_mapEntries]
  exact checked.bind fun _ _ _ => .ok rfl

/-! ## Building a catalog -/

theorem tableOf?_catalog (catalog : Catalog) (board : Switchboard) (type : ObjectType) :
    (ρ.catalog catalog).tableOf? board (ρ.objectType type) =
      (catalog.tableOf? board type).map ρ.table := by
  simp only [Catalog.tableOf?, mapping?_objectType]
  cases type.mapping? with
  | none => rfl
  | some mapping =>
    simp only [Option.map_some, Option.bind_eq_bind, Option.bind_some, Relabeling.catalog,
      Relabeling.mapping]
    cases catalog.connections.get? mapping.connectionId with
    | none => rfl
    | some line =>
      simp only [Option.bind_some]
      cases board.lines[line]? <;> rfl

theorem registerTable_catalog (board : Switchboard) (catalog : Catalog) (type : ObjectType) :
    Catalog.registerTable board (ρ.catalog catalog) (ρ.objectType type) =
      ρ.catalog (Catalog.registerTable board catalog type) := by
  rw [Catalog.registerTable, Catalog.registerTable, tableOf?_catalog]
  cases catalog.tableOf? board type with
  | none => rfl
  | some table => simp [Relabeling.catalog, Relabeling.objectType, Dict.mapEntries_insert]

theorem connectTo_catalog (connect : Connect) (state : Catalog × Switchboard)
    (source : DataSource) :
    Catalog.connectTo connect (state.map ρ.catalog id) source =
      (Catalog.connectTo connect state source).map ρ.catalog id := by
  obtain ⟨catalog, board⟩ := state
  cases kind : source.kind with
  | error e => simp only [Catalog.connectTo, Prod.map, kind, id]; rfl
  | ok database =>
    cases connected : connect source with
    | error e => simp only [Catalog.connectTo, Prod.map, kind, connected, id]; rfl
    | ok connection => simp only [Catalog.connectTo, Prod.map, kind, connected, id]; rfl

theorem foldl_connectTo_catalog (connect : Connect) (sources : List DataSource)
    (state : Catalog × Switchboard) :
    sources.foldl (Catalog.connectTo connect) (state.map ρ.catalog id) =
      (sources.foldl (Catalog.connectTo connect) state).map ρ.catalog id := by
  induction sources generalizing state with
  | nil => rfl
  | cons source rest ih =>
    rw [List.foldl_cons, List.foldl_cons, connectTo_catalog, ih]

theorem foldl_registerTable_catalog (board : Switchboard) (types : List ObjectType)
    (catalog : Catalog) :
    (types.map ρ.objectType).foldl (Catalog.registerTable board) (ρ.catalog catalog) =
      ρ.catalog (types.foldl (Catalog.registerTable board) catalog) := by
  induction types generalizing catalog with
  | nil => rfl
  | cons type rest ih =>
    rw [List.map_cons, List.foldl_cons, List.foldl_cons, registerTable_catalog, ih]

/-- The catalog of a schema under other names has the same connections. -/
theorem build_schema (schema : Schema) (connect : Connect) :
    Catalog.build (ρ.schema schema) connect =
      (Catalog.build schema connect).map ρ.catalog id := by
  have start : (Catalog.unconnected (ρ.schema schema), Switchboard.empty) =
      (Catalog.unconnected schema, Switchboard.empty).map ρ.catalog id := rfl
  have sources : (ρ.schema schema).dataSources = schema.dataSources := rfl
  have types : (ρ.schema schema).objectTypes.values =
      schema.objectTypes.values.map ρ.objectType := by
    rw [Relabeling.schema, Dict.values_mapEntries]
  rw [Catalog.build, Catalog.build, start, sources, types, foldl_connectTo_catalog]
  generalize schema.dataSources.values.foldl (Catalog.connectTo connect)
    (Catalog.unconnected schema, Switchboard.empty) = state
  obtain ⟨catalog, board⟩ := state
  simp only [Prod.map, id, foldl_registerTable_catalog]

end Relabeling
end ObjectQuery
