/-
The configurations that become schemas.

Loading stops at the first name or column that is amiss.  `SchemaConfig.Sound` says what is asked of
a configuration as a whole, and `ofConfig_accepts_iff` that loading asks for this and nothing else.
The columns of a sound mapping differ both in upper and in lower case, hence also as they are
configured: whichever case identifiers are rendered in, no two columns fall together, and properties
and columns lead to each other.
-/
import Mathlib.Data.List.Nodup
import ObjectQuery.Proofs.Schema.Verified

namespace ObjectQuery

/-- The columns that a mapping names: that of the id if it has a name, and those of properties. -/
def Mapping.namedColumns (mapping : Mapping) : List String :=
  (if mapping.idColumn = "" then [] else [mapping.idColumn]) ++ mapping.columns.values

/-- What is asked of the mapping of an object type. -/
structure ObjectType.Maps (type : ObjectType) (mapping : Mapping) : Prop where
  declared : ∀ property ∈ mapping.columns.names, property ∈ type.properties.map Property.name
  named : "" ∉ mapping.columns.values
  upper_nodup : (mapping.namedColumns.map Text.upper).Nodup
  lower_nodup : (mapping.namedColumns.map Text.lower).Nodup

/-- What is asked of a configuration. -/
structure SchemaConfig.Sound (config : SchemaConfig) : Prop where
  types_named : "" ∉ config.objectTypes.map ObjectType.name
  types_nodup : (config.objectTypes.map ObjectType.name).Nodup
  sources_nodup : (config.dataSources.map DataSource.id).Nodup
  properties_named : ∀ type ∈ config.objectTypes, "" ∉ type.properties.map Property.name
  properties_ne_id : ∀ type ∈ config.objectTypes, idField ∉ type.properties.map Property.name
  properties_nodup : ∀ type ∈ config.objectTypes, (type.properties.map Property.name).Nodup
  mappings : ∀ type ∈ config.objectTypes, ∀ mapping, type.dataSource = some mapping →
    type.Maps mapping

/-- Columns that can be told apart in every letter case, and that lead to their properties and
back. -/
structure Mapping.Invertible (mapping : Mapping) : Prop where
  apart : ∀ identifierCase : IdentifierCase,
    (mapping.namedColumns.map identifierCase.apply).Nodup
  property_of_column : ∀ property ∈ mapping.columns.names,
    (mapping.column? property).bind mapping.property? = some property
  column_of_property : ∀ column ∈ mapping.columns.values,
    (mapping.property? column).bind mapping.column? = some column

/-! ## Columns in upper and in lower case -/

namespace ObjectType

variable {type : ObjectType} {mapping : Mapping}

theorem columnsCollide_eq_false_iff {a b : String} :
    columnsCollide a b = false ↔ Text.upper b ≠ Text.upper a ∧ Text.lower b ≠ Text.lower a := by
  rw [columnsCollide, Bool.or_eq_false_iff, beq_eq_false_iff_ne, beq_eq_false_iff_ne]
  exact and_congr ne_comm ne_comm

/-- No two columns of a list collide when neither case makes two of them the same. -/
theorem pairwise_apart_iff {columns : List String} :
    (columns.Pairwise fun a b => columnsCollide b a = false) ↔
      (columns.map Text.upper).Nodup ∧ (columns.map Text.lower).Nodup := by
  simp only [columnsCollide_eq_false_iff, List.Nodup, List.pairwise_map]
  exact List.pairwise_and_iff

theorem pairwise_namedColumns_iff :
    (mapping.namedColumns.Pairwise fun a b => columnsCollide b a = false) ↔
      (mapping.columns.entries.Pairwise fun a b => columnsCollide b.2 a.2 = false) ∧
        (mapping.idColumn ≠ "" →
          ∀ entry ∈ mapping.columns.entries, columnsCollide entry.2 mapping.idColumn = false) := by
  have values : (mapping.columns.values.Pairwise fun a b => columnsCollide b a = false) ↔
      mapping.columns.entries.Pairwise fun a b => columnsCollide b.2 a.2 = false :=
    List.pairwise_map
  by_cases unnamed : mapping.idColumn = ""
  · simp [Mapping.namedColumns, unnamed, values]
  · have id : (∀ column ∈ mapping.columns.values, columnsCollide column mapping.idColumn = false) ↔
        ∀ entry ∈ mapping.columns.entries, columnsCollide entry.2 mapping.idColumn = false :=
      List.forall_mem_map
    rw [Mapping.namedColumns, if_neg unnamed, List.singleton_append, List.pairwise_cons, values, id,
      and_comm, imp_iff_right unnamed]

theorem isSome_property?_iff {name : String} :
    (type.property? name).isSome ↔ name ∈ type.properties.map Property.name := by
  simp [property?]

theorem soundMapping_iff_maps : type.SoundMapping mapping ↔ type.Maps mapping := by
  have pairwise := @pairwise_namedColumns_iff mapping
  have columns := pairwise.symm.trans pairwise_apart_iff
  constructor
  · intro sound
    have folded := columns.mp ⟨sound.apart, sound.apart_id⟩
    refine ⟨fun property mem => ?_, fun mem => ?_, folded.1, folded.2⟩
    · obtain ⟨entry, mapped, rfl⟩ := List.mem_map.mp mem
      exact isSome_property?_iff.mp (sound.declared entry mapped)
    · obtain ⟨entry, mapped, unnamed⟩ := List.mem_map.mp mem
      exact sound.named entry mapped unnamed
  · intro maps
    have apart := columns.mpr ⟨maps.upper_nodup, maps.lower_nodup⟩
    refine ⟨fun entry mapped => ?_, fun entry mapped unnamed => ?_, apart.1, apart.2⟩
    · exact isSome_property?_iff.mpr (maps.declared _ (List.mem_map_of_mem mapped))
    · exact maps.named (unnamed ▸ List.mem_map_of_mem mapped)

theorem Maps.nodup_namedColumns (maps : type.Maps mapping) : mapping.namedColumns.Nodup :=
  maps.upper_nodup.of_map _

/-- The first entry with a column is the only one. -/
theorem Maps.find?_entry (maps : type.Maps mapping) {entry : String × String}
    (mapped : entry ∈ mapping.columns.entries) :
    mapping.columns.entries.find? (fun other => other.2 == entry.2) = some entry := by
  have distinct : (mapping.columns.entries.map Prod.snd).Nodup :=
    (List.nodup_append.mp maps.nodup_namedColumns).2.1
  cases found : mapping.columns.entries.find? fun other => other.2 == entry.2 with
  | none =>
    have differs := List.find?_eq_none.mp found entry mapped
    simp at differs
  | some other =>
    have same : other.2 = entry.2 := by simpa using List.find?_some found
    have mem := List.mem_of_find?_eq_some found
    rw [List.inj_on_of_nodup_map distinct mem mapped same]

theorem Maps.invertible (maps : type.Maps mapping) : mapping.Invertible := by
  have there {entry : String × String} (mapped : entry ∈ mapping.columns.entries) :
      mapping.column? entry.1 = some entry.2 := Dict.get?_eq_some_iff.mpr mapped
  have back {entry : String × String} (mapped : entry ∈ mapping.columns.entries) :
      mapping.property? entry.2 = some entry.1 := by
    rw [Mapping.property?, Mapping.propertyWith?, maps.find?_entry mapped, Option.map_some]
  refine ⟨fun identifierCase => ?_, fun property mem => ?_, fun column mem => ?_⟩
  · cases identifierCase with
    | upper => exact maps.upper_nodup
    | lower => exact maps.lower_nodup
    | preserve =>
      show (mapping.namedColumns.map fun column => column).Nodup
      rw [List.map_id']
      exact maps.nodup_namedColumns
  · obtain ⟨entry, mapped, rfl⟩ := List.mem_map.mp mem
    rw [there mapped, Option.bind_some, back mapped]
  · obtain ⟨entry, mapped, rfl⟩ := List.mem_map.mp mem
    rw [back mapped, Option.bind_some, there mapped]

end ObjectType

/-! ## Names that come once -/

namespace Schema

/-- Items are entered unless a name comes again. -/
theorem exists_register_eq_ok_iff {α : Type} {what : String} {name : α → String}
    {entered : Dict α} {items : List α} :
    (∃ registered, register what name entered items = .ok registered) ↔
      (entered.names ++ items.map name).Nodup := by
  induction items generalizing entered with
  | nil =>
    have names : entered.names.Nodup := entered.names_nodup
    simpa [register] using names
  | cons item rest ih =>
    rw [register]
    by_cases again : entered.contains (name item) = true
    · have taken : name item ∈ entered.names := Dict.contains_iff.mp again
      rw [if_pos again]
      constructor
      · rintro ⟨_, impossible⟩
        contradiction
      · intro distinct
        have apart := (List.nodup_append.mp distinct).2.2
        exact absurd rfl (apart _ taken _ List.mem_cons_self)
    · have names : (entered.insert (name item) item).names = entered.names ++ [name item] := by
        rw [Dict.names, Dict.entries_insert_of_not_contains (by simpa using again)]
        simp [Dict.names]
      rw [if_neg again, ih, names, List.append_assoc]
      rfl

theorem exists_ofConfig_eq_ok_iff {config : SchemaConfig} :
    (∃ schema, ofConfig config = .ok schema) ↔ config.Sound := by
  have entered {α : Type} (what : String) {name : α → String} {items : List α} :
      (∃ registered, register what name .empty items = .ok registered) ↔ (items.map name).Nodup :=
    exists_register_eq_ok_iff
  constructor
  · rintro ⟨schema, accepted⟩
    obtain ⟨_, sound⟩ := ofConfig_eq_ok accepted
    simp only [ofConfig, Outcome.bind_eq_ok] at accepted
    obtain ⟨types, types_entered, sources, sources_entered, _⟩ := accepted
    refine ⟨fun mem => ?_, (entered _).mp ⟨types, types_entered⟩,
      (entered _).mp ⟨sources, sources_entered⟩, fun type mem unnamed => ?_,
      fun type mem reserved => ?_, fun type mem => (sound type mem).properties_nodup,
      fun type mem mapping source => ?_⟩
    · obtain ⟨type, declared, unnamed⟩ := List.mem_map.mp mem
      exact (sound type declared).named unnamed
    · obtain ⟨property, declared, none⟩ := List.mem_map.mp unnamed
      exact (sound type mem).properties_named property declared none
    · obtain ⟨property, declared, id⟩ := List.mem_map.mp reserved
      exact (sound type mem).properties_ne_id property declared id
    · exact ObjectType.soundMapping_iff_maps.mp ((sound type mem).mapping mapping source)
  · intro sound
    obtain ⟨types, types_entered⟩ := (entered "object type").mpr sound.types_nodup
    obtain ⟨sources, sources_entered⟩ := (entered "data source").mpr sound.sources_nodup
    have values : types.values = config.objectTypes := by
      rw [Dict.values, register_entries types_entered]
      simp [Dict.empty, Function.comp_def]
    have checked : types.values.forM ObjectType.verify = .ok () := by
      rw [Outcome.forM_eq_ok_iff, values]
      intro type mem
      rw [ObjectType.verify_eq_ok_iff]
      exact
        { named := fun unnamed => sound.types_named (unnamed ▸ List.mem_map_of_mem mem)
          properties_named := fun property declared unnamed =>
            sound.properties_named type mem (unnamed ▸ List.mem_map_of_mem declared)
          properties_ne_id := fun property declared reserved =>
            sound.properties_ne_id type mem (reserved ▸ List.mem_map_of_mem declared)
          properties_nodup := sound.properties_nodup type mem
          mapping := fun mapping source =>
            ObjectType.soundMapping_iff_maps.mpr (sound.mappings type mem mapping source) }
    refine ⟨⟨types, sources⟩, ?_⟩
    simp only [ofConfig, Outcome.bind_eq_ok, Outcome.pure_eq_ok]
    exact ⟨types, types_entered, sources, sources_entered, (), checked, rfl⟩

/-- A schema holds the configured data sources, in their order. -/
theorem dataSources_ofConfig {config : SchemaConfig} {schema : Schema}
    (accepted : ofConfig config = .ok schema) :
    schema.dataSources.entries = config.dataSources.map fun source => (source.id, source) := by
  simp only [ofConfig, Outcome.bind_eq_ok, Outcome.pure_eq_ok] at accepted
  obtain ⟨_, _, sources, entered, _, _, rfl⟩ := accepted
  rw [register_entries entered]
  rfl

/-- Exactly the sound configurations are accepted.  The schema holds what was configured, in its
order, and every mapping can be read in both directions. -/
theorem ofConfig_accepts_iff (config : SchemaConfig) :
    ((∃ schema, ofConfig config = .ok schema) ↔ config.Sound) ∧
      ∀ schema, ofConfig config = .ok schema →
        schema.objectTypes.entries = config.objectTypes.map (fun type => (type.name, type)) ∧
        schema.dataSources.entries = config.dataSources.map (fun source => (source.id, source)) ∧
        ∀ type ∈ config.objectTypes, ∀ mapping, type.dataSource = some mapping →
          mapping.Invertible := by
  refine ⟨exists_ofConfig_eq_ok_iff, fun schema accepted => ?_⟩
  obtain ⟨types, sound⟩ := ofConfig_eq_ok accepted
  refine ⟨types, dataSources_ofConfig accepted, fun type mem mapping source => ?_⟩
  have maps := ObjectType.soundMapping_iff_maps.mp ((sound type mem).mapping mapping source)
  exact maps.invertible

end Schema

namespace Cars

def garageMapping : Mapping :=
  ⟨"", "", "", ⟨[("street", "straße"), ("city", "Ort")], by decide⟩⟩

/-- Garages are not stored anywhere yet, but some of their columns are mapped. -/
def garage : ObjectType :=
  ⟨"Garage", [⟨"street", .string⟩, ⟨"city", .string⟩], some garageMapping⟩

def garages : SchemaConfig := ⟨[car, garage], []⟩

def garageSchema : Schema := ⟨⟨[("Car", car), ("Garage", garage)], by decide⟩, .empty⟩

theorem accepts_garages :
    Schema.ofConfig garages = .ok garageSchema ∧ garages.Sound ∧ garageMapping.Invertible := by
  have accepted : Schema.ofConfig garages = .ok garageSchema :=
    Outcome.eq_ok_of_toOption (by decide +kernel)
  obtain ⟨sound, holds⟩ := Schema.ofConfig_accepts_iff garages
  obtain ⟨_, _, invertible⟩ := holds garageSchema accepted
  have listed : garage ∈ garages.objectTypes := .tail _ (.head _)
  exact ⟨accepted, sound.mp ⟨garageSchema, accepted⟩, invertible garage listed garageMapping rfl⟩

/-- A garage whose id column is another column in upper case. -/
example : (Schema.ofConfig
    ⟨[{ garage with dataSource := some { garageMapping with idColumn := "STRASSE" } }],
      []⟩).toOption = none := by
  decide +kernel

end Cars
end ObjectQuery
