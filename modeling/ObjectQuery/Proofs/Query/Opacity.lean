/-
Names of object types and fields do not reach a database.

Planning and lowering compare names and look them up, and nothing else.  So a query under other
names becomes the same plan over the relabeled object type, and that plan the same text with the
same values; or both queries fail, with errors that callers cannot tell apart.
-/
import Mathlib.Logic.Equiv.Basic
import ObjectQuery.Plan.Planner
import ObjectQuery.Proofs.Schema.Relabeling
import ObjectQuery.Proofs.Sql.Agreement

namespace ObjectQuery

/-- Plan a query and render the plan: the text, and the parameters as they are left behind. -/
def Sql.Renderer.renderQuery (r : Renderer) (schema : Schema) (policy : UnknownFields)
    (query : Query) (parameters : Parameters) : Except Error (String × Parameters) := do
  let plan ← Plan.ofQuery schema policy query
  match r.render plan parameters with
  | (.ok text, left) => return (text, left)
  | (.error e, _) => .error e

/-- What a schema's plans are lowered against: the schema itself, or its catalog over some
connections. -/
def Schema.resolver (schema : Schema) : Option Connect → Resolver
  | none => schema.toResolver
  | some connect => (Catalog.build schema connect).1.toResolver

/-! ## Plans of relabeled object types -/

namespace Plan

variable {f : ObjectType → ObjectType}

theorem mapType_filtered (plan : Plan) (predicates : List Predicate) :
    (plan.filtered predicates).mapType f = (plan.mapType f).filtered predicates := by
  unfold filtered
  split <;> rfl

theorem mapType_projected {g : String → String}
    (rows : ∀ type, Row.canonical (f type) = (Row.canonical type).rename g) (plan : Plan)
    (positions : List Nat) :
    (plan.projected positions).mapType f = (plan.mapType f).projected positions := by
  have width : (plan.mapType f).row.length = plan.row.length := by
    rw [row_mapType rows, Row.length_rename]
  unfold projected
  split
  · rfl
  · rw [projecting, projecting, width, mapType]

theorem mapType_sorted (plan : Plan) (keys : List SortKey) :
    (plan.sorted keys).mapType f = (plan.mapType f).sorted keys := by
  unfold sorted
  split <;> rfl

theorem mapType_limited (plan : Plan) (count offset : Option Int64) :
    (plan.limited count offset).mapType f = (plan.mapType f).limited count offset := by
  unfold limited
  split
  · split <;> rfl
  · rfl

theorem verifyPipeline_mapType (plan : Plan) :
    Sql.verifyPipeline (plan.mapType f) = Sql.verifyPipeline plan := by
  induction plan with
  | scan type => rfl
  | filter input condition ih => simp only [mapType, Sql.verifyPipeline, ih, stage_mapType]
  | project input positions ih => simp only [mapType, Sql.verifyPipeline, ih, stage_mapType]
  | sort input keys ih => simp only [mapType, Sql.verifyPipeline, ih, stage_mapType]
  | limit input count offset ih => simp only [mapType, Sql.verifyPipeline, ih, stage_mapType]

end Plan

namespace Relabeling

variable (ρ : Relabeling)

def query (query : Query) : Query :=
  { query with
    objectName := query.objectName.map ρ.types
    select := query.select.map ρ.fields
    filters := query.filters.mapEntries ρ.fields ρ.fields_injective id
    order := query.order.map fun entry => { entry with field := ρ.fields entry.field } }

/-! ## Planning -/

theorem resolve_alike (policy : UnknownFields) (row : Row) (field clause : String) :
    Outcome.Alike Error.SameKinds Eq (policy.resolve row field clause)
      (policy.resolve (row.rename ρ.fields) (ρ.fields field) clause) := by
  unfold UnknownFields.resolve
  rw [Row.position?_rename ρ.fields_injective]
  cases row.position? field with
  | some position => exact .ok rfl
  | none =>
    cases policy with
    | skip => exact .ok rfl
    | reject => exact .error rfl

theorem filterPredicates_alike (policy : UnknownFields) (row : Row)
    (entries : List (String × Json)) :
    Outcome.Alike Error.SameKinds Eq (Plan.filterPredicates policy row entries)
      (Plan.filterPredicates policy (row.rename ρ.fields)
        (entries.map fun entry => (ρ.fields entry.1, entry.2))) := by
  induction entries with
  | nil => exact .ok rfl
  | cons entry rest ih =>
    rw [List.map_cons, Plan.filterPredicates, Plan.filterPredicates]
    refine (ρ.resolve_alike policy row entry.1 "where").bind fun resolved _ same => ?_
    subst same
    cases resolved with
    | none => exact ih
    | some position =>
      have type : (row.rename ρ.fields)[position]?.bind RowField.type =
          row[position]?.bind RowField.type := by
        rw [Row.getElem?_rename]
        cases row[position]? <;> rfl
      simp only [type]
      refine (Outcome.Alike.refl Error.SameKinds.refl _).bind fun literal _ same => ?_
      subst same
      exact ih.bind fun predicates _ same => .ok (same ▸ rfl)

theorem selectPositions_alike (policy : UnknownFields) (row : Row) (fields : List String) :
    Outcome.Alike Error.SameKinds Eq (Plan.selectPositions policy row fields)
      (Plan.selectPositions policy (row.rename ρ.fields) (fields.map ρ.fields)) := by
  induction fields with
  | nil => exact .ok rfl
  | cons field rest ih =>
    rw [List.map_cons, Plan.selectPositions, Plan.selectPositions]
    refine (ρ.resolve_alike policy row field "select").bind fun resolved _ same => ?_
    subst same
    cases resolved with
    | none => exact ih
    | some position => exact ih.bind fun positions _ same => .ok (same ▸ rfl)

theorem sortKeys_alike (policy : UnknownFields) (row : Row) (entries : List OrderEntry) :
    Outcome.Alike Error.SameKinds Eq (Plan.sortKeys policy row entries)
      (Plan.sortKeys policy (row.rename ρ.fields)
        (entries.map fun entry => { entry with field := ρ.fields entry.field })) := by
  induction entries with
  | nil => exact .ok rfl
  | cons entry rest ih =>
    rw [List.map_cons, Plan.sortKeys, Plan.sortKeys]
    refine (ρ.resolve_alike policy row entry.field "orderBy").bind fun resolved _ same => ?_
    subst same
    cases resolved with
    | none => exact ih
    | some position => exact ih.bind fun keys _ same => .ok (same ▸ rfl)

theorem objectName_alike (query : Query) :
    Outcome.Alike Error.SameKinds (fun name name' => name' = ρ.types name)
      query.objectType (ρ.query query).objectType := by
  unfold Query.objectType Relabeling.query
  cases query.objectName with
  | none => exact .error rfl
  | some name =>
    simp only [Option.map_some, ρ.types_blank]
    split
    · exact .error rfl
    · exact .ok rfl

theorem objectType_alike (schema : Schema) (name : String) :
    Outcome.Alike Error.SameKinds (fun type type' => type' = ρ.objectType type)
      (schema.objectType name) ((ρ.schema schema).objectType (ρ.types name)) := by
  rw [Schema.objectType, Schema.objectType, objectType?_schema]
  cases schema.objectType? name with
  | none => exact .error rfl
  | some type => exact .ok rfl

/-- A query under other names has the same plan, over the relabeled object type. -/
theorem ofQuery_alike (schema : Schema) (policy : UnknownFields) (query : Query) :
    Outcome.Alike Error.SameKinds (fun plan plan' => plan' = plan.mapType ρ.objectType)
      (Plan.ofQuery schema policy query)
      (Plan.ofQuery (ρ.schema schema) policy (ρ.query query)) := by
  have rows := ρ.canonical_objectType
  refine (ρ.objectName_alike query).bind fun name _ same => ?_
  subst same
  refine (ρ.objectType_alike schema name).bind fun type _ same => ?_
  subst same
  have scan : Plan.scan (ρ.objectType type) = (Plan.scan type).mapType ρ.objectType := rfl
  -- After each step, the plan so far is moved back under `mapType`, where its row is known.
  simp only [scan, Plan.row_mapType rows]
  refine (ρ.filterPredicates_alike policy _ query.filters.entries).bind fun predicates _ same => ?_
  subst same
  simp only [← Plan.mapType_filtered, Plan.row_mapType rows]
  refine (ρ.selectPositions_alike policy _ query.select).bind fun positions _ same => ?_
  subst same
  simp only [← Plan.mapType_projected rows, Plan.row_mapType rows]
  refine (ρ.sortKeys_alike policy _ query.order).bind fun keys _ same => ?_
  subst same
  simp only [← Plan.mapType_sorted]
  exact .ok (Plan.mapType_limited _ _ _).symm

/-! ## Lowering -/

/-- Whether a resolver answers for the new names as another one does for the old ones. -/
structure Mirrors (resolver resolver' : Resolver) : Prop where
  objectType? : ∀ name,
    resolver'.objectType? (ρ.types name) = (resolver.objectType? name).map ρ.objectType
  mapping? : ∀ name,
    resolver'.mapping? (ρ.types name) = (resolver.mapping? name).map ρ.mapping

theorem mirrors_schema (schema : Schema) :
    ρ.Mirrors schema.toResolver (ρ.schema schema).toResolver where
  objectType? := ρ.objectType?_schema schema
  mapping? name := by
    show ((ρ.schema schema).objectType? (ρ.types name)).bind ObjectType.mapping? =
      ((schema.objectType? name).bind ObjectType.mapping?).map ρ.mapping
    rw [objectType?_schema]
    cases schema.objectType? name with
    | none => rfl
    | some type => exact ρ.mapping?_objectType type

theorem mirrors_catalog (catalog : Catalog) :
    ρ.Mirrors catalog.toResolver (ρ.catalog catalog).toResolver where
  objectType? := ρ.objectType?_schema catalog.schema
  mapping? name := by
    show ((ρ.catalog catalog).table? (ρ.types name)).map Table.mapping =
      ((catalog.table? name).map Table.mapping).map ρ.mapping
    rw [Catalog.table?, Catalog.table?, Relabeling.catalog, Dict.get?_mapEntries]
    cases catalog.tables.get? name <;> rfl

theorem mirrors_resolver (schema : Schema) (connect : Option Connect) :
    ρ.Mirrors (schema.resolver connect) ((ρ.schema schema).resolver connect) := by
  cases connect with
  | none => exact ρ.mirrors_schema schema
  | some connect =>
    rw [Schema.resolver, Schema.resolver, build_schema]
    exact ρ.mirrors_catalog (Catalog.build schema connect).1

theorem lowering_mirrors (type : ObjectType) (mapping : Mapping)
    (identifierCase : IdentifierCase) :
    Sql.Lowering.Mirrors Error.SameKinds Eq ρ.fields ⟨type, mapping, .physical identifierCase⟩
      ⟨ρ.objectType type, ρ.mapping mapping, .physical identifierCase⟩ where
  adhoc _ := rfl
  unmapped field := rfl
  width := by simp [ObjectType.width, objectType]
  table := rfl
  column position := by
    cases position with
    | zero => exact .some rfl
    | succ index =>
      simp only [Sql.Lowering.column?, objectType, List.getElem?_map]
      cases type.properties[index]? with
      | none => exact .none
      | some property =>
        simp only [Option.map_some, Option.bind_eq_bind, Option.bind_some, Relabeling.property,
          column?_mapping]
        cases mapping.column? property.name with
        | none => exact .none
        | some column => exact .some rfl

/-- A plan over a relabeled object type is lowered to a statement with the same identifiers. -/
theorem lower_alike {resolver resolver' : Resolver} (mirrors : ρ.Mirrors resolver resolver')
    (identifierCase : IdentifierCase) (plan : Plan) :
    Outcome.Alike Error.SameKinds (Sql.Select.Renamed Eq)
      (Sql.lower resolver (.physical identifierCase) plan)
      (Sql.lower resolver' (.physical identifierCase) (plan.mapType ρ.objectType)) := by
  rw [Sql.lower, Sql.lower, Plan.verifyPipeline_mapType, Plan.objectType_mapType]
  refine (Outcome.Alike.refl Error.SameKinds.refl _).bind fun _ _ _ => ?_
  have name : (ρ.objectType plan.objectType).name = ρ.types plan.objectType.name := rfl
  simp only [name, mirrors.objectType?, mirrors.mapping?]
  cases resolver.objectType? plan.objectType.name with
  | none => exact .error rfl
  | some type =>
    cases resolver.mapping? plan.objectType.name with
    | none => exact .error rfl
    | some mapping =>
      exact (ρ.lowering_mirrors type mapping identifierCase).select ρ.canonical_objectType plan

/-! ## Rendering -/

theorem render_alike {resolver resolver' : Resolver} (mirrors : ρ.Mirrors resolver resolver')
    (kind : DatabaseKind) (identifierCase : IdentifierCase) (schema : Schema)
    (policy : UnknownFields) (query : Query) (parameters : Sql.Parameters) :
    Outcome.Alike Error.SameKinds Eq
      (Sql.Renderer.renderQuery ⟨resolver, kind, identifierCase⟩ schema policy query parameters)
      (Sql.Renderer.renderQuery ⟨resolver', kind, identifierCase⟩ (ρ.schema schema) policy
        (ρ.query query) parameters) := by
  refine (ρ.ofQuery_alike schema policy query).bind fun plan _ same => ?_
  subst same
  have lowered := ρ.lower_alike mirrors identifierCase plan
  simp only [Sql.Renderer.render, Sql.Renderer.lower]
  generalize Sql.lower resolver (.physical identifierCase) plan = statement at lowered ⊢
  generalize Sql.lower resolver' (.physical identifierCase) (plan.mapType ρ.objectType) =
    statement' at lowered ⊢
  cases lowered with
  | error alike => exact .error alike
  | ok renamed =>
    rw [Sql.Renderer.writeLowered, Sql.Renderer.writeLowered, renamed.write_eq]
    exact .ok rfl

/-- An accepted schema is accepted under other names too.  A query under other names then has the
same text and the same parameters, whether mappings come from the schema or from a catalog, or both
queries fail with errors of the same kinds. -/
theorem renderQuery_unchanged {config : SchemaConfig} {schema : Schema}
    (verified : Schema.ofConfig config = .ok schema) :
    Schema.ofConfig (ρ.config config) = .ok (ρ.schema schema) ∧
      ∀ connect kind identifierCase policy query parameters,
        Outcome.Alike Error.SameKinds Eq
          (Sql.Renderer.renderQuery ⟨schema.resolver connect, kind, identifierCase⟩ schema policy
            query parameters)
          (Sql.Renderer.renderQuery ⟨(ρ.schema schema).resolver connect, kind, identifierCase⟩
            (ρ.schema schema) policy (ρ.query query) parameters) := by
  obtain ⟨_, accepted, rfl⟩ := (ρ.ofConfig_alike config).exists_eq_ok verified
  exact ⟨accepted, fun connect kind identifierCase policy query parameters =>
    ρ.render_alike (ρ.mirrors_resolver schema connect) kind identifierCase schema policy query
      parameters⟩

end Relabeling

namespace Cars

/-- Two properties change names, and the object type gets a new one. -/
def inGerman : Relabeling where
  types := Equiv.swap "Car" "Wagen"
  fields := Equiv.swap "plate" "year"
  types_injective := (Equiv.swap "Car" "Wagen").injective
  fields_injective := (Equiv.swap "plate" "year").injective
  types_empty := by decide
  types_blank name := by
    rw [Equiv.swap_apply_def]
    split
    · next same => rw [same]; decide +kernel
    · split
      · next same => rw [same]; decide +kernel
      · rfl
  fields_empty := by decide
  fields_id := by decide

def yearQuery : Query :=
  ⟨some "Car", ["plate", "year"], ⟨[("year", .number (.integer 1987 (by decide) (by decide)))],
    by decide⟩, [⟨"plate", some "DESC"⟩], none, none⟩

def yearText : String :=
  "SELECT \"PLATE_NO\", \"YR\" FROM \"CARS\" WHERE \"YR\" = 1987 ORDER BY \"PLATE_NO\" DESC;"

/-- The query for the plates of 1987, and the query under the new names, are the same statement. -/
theorem renderQuery_inGerman :
    Schema.ofConfig config = .ok schema ∧
      Schema.ofConfig (inGerman.config config) = .ok (inGerman.schema schema) ∧
      renderer.renderQuery schema .reject yearQuery .inline = .ok (yearText, .inline) ∧
      Sql.Renderer.renderQuery ⟨(inGerman.schema schema).toResolver, .postgresql, .upper⟩
        (inGerman.schema schema) .reject (inGerman.query yearQuery) .inline =
          .ok (yearText, .inline) := by
  have rendered : renderer.renderQuery schema .reject yearQuery .inline =
      .ok (yearText, .inline) := Outcome.eq_ok_of_toOption (by decide +kernel)
  obtain ⟨accepted, unchanged⟩ := inGerman.renderQuery_unchanged ofConfig_config
  obtain ⟨_, relabeled, rfl⟩ :=
    (unchanged none .postgresql .upper .reject yearQuery .inline).exists_eq_ok rendered
  exact ⟨ofConfig_config, accepted, rendered, relabeled⟩

end Cars
end ObjectQuery
