/-
What acceptance of a schema guarantees.

`ObjectType.Sound` says in one place what the checks of an object type ask for, and
`verify_eq_ok_iff` that they ask for exactly this.  A schema holds the configured object
types under their own names, each of them sound.
-/
import ObjectQuery.Proofs.Dict
import ObjectQuery.Proofs.Outcome
import ObjectQuery.Schema.Basic

namespace ObjectQuery
namespace ObjectType

/-- A mapping of declared properties to columns that can be told apart in upper and in lower case.
An id column without a name takes no part. -/
structure SoundMapping (type : ObjectType) (mapping : Mapping) : Prop where
  declared : ∀ entry ∈ mapping.columns.entries, (type.property? entry.1).isSome
  named : ∀ entry ∈ mapping.columns.entries, entry.2 ≠ ""
  apart : mapping.columns.entries.Pairwise fun a b => columnsCollide b.2 a.2 = false
  apart_id : mapping.idColumn ≠ "" →
    ∀ entry ∈ mapping.columns.entries, columnsCollide entry.2 mapping.idColumn = false

/-- An object type whose fields have names of their own, and whose mapping is sound if it has
one. -/
structure Sound (type : ObjectType) : Prop where
  named : type.name ≠ ""
  properties_named : ∀ property ∈ type.properties, property.name ≠ ""
  properties_ne_id : ∀ property ∈ type.properties, property.name ≠ idField
  properties_nodup : (type.properties.map Property.name).Nodup
  mapping : ∀ mapping, type.dataSource = some mapping → type.SoundMapping mapping

theorem verifyProperties_eq_ok_iff {type : ObjectType} {seen : List String}
    {properties : List Property} :
    verifyProperties type seen properties = .ok () ↔
      (∀ property ∈ properties,
        property.name ≠ "" ∧ property.name ≠ idField ∧ property.name ∉ seen) ∧
      (properties.map Property.name).Nodup := by
  induction properties generalizing seen with
  | nil => simp [verifyProperties]
  | cons property rest ih =>
    rw [verifyProperties]
    by_cases unnamed : property.name = ""
    · simp [unnamed]
    · by_cases reserved : property.name = idField
      · rw [if_neg unnamed, if_pos reserved]
        simp [reserved]
      · by_cases again : property.name ∈ seen
        · simp [unnamed, reserved, again]
        · rw [if_neg unnamed, if_neg reserved, if_neg again, ih]
          simp only [List.mem_cons, not_or, forall_eq_or_imp, List.map_cons, List.nodup_cons,
            List.mem_map, not_exists, not_and]
          constructor
          · rintro ⟨others, distinct⟩
            exact ⟨⟨⟨unnamed, reserved, again⟩, fun p hp =>
              ⟨(others p hp).1, (others p hp).2.1, (others p hp).2.2.2⟩⟩,
              fun p hp => (others p hp).2.2.1, distinct⟩
          · rintro ⟨⟨_, others⟩, fresh, distinct⟩
            exact ⟨fun p hp =>
              ⟨(others p hp).1, (others p hp).2.1, fresh p hp, (others p hp).2.2⟩, distinct⟩

theorem verifyColumns_eq_ok_iff {type : ObjectType} {seen : List String}
    {entries : List (String × String)} :
    verifyColumns type seen entries = .ok () ↔
      (∀ entry ∈ entries, (type.property? entry.1).isSome ∧ entry.2 ≠ "" ∧
        ∀ column ∈ seen, columnsCollide entry.2 column = false) ∧
      entries.Pairwise fun a b => columnsCollide b.2 a.2 = false := by
  induction entries generalizing seen with
  | nil => simp [verifyColumns]
  | cons entry rest ih =>
    obtain ⟨property, column⟩ := entry
    rw [verifyColumns]
    by_cases undeclared : (type.property? property).isNone
    · simp only [undeclared, if_true, List.mem_cons, forall_eq_or_imp]
      have absent : (type.property? property).isSome = false := by
        rw [Option.isNone_iff_eq_none] at undeclared
        simp [undeclared]
      simp [absent]
    · have declared : (type.property? property).isSome = true := by
        simpa [Option.isSome_iff_ne_none] using undeclared
      by_cases unnamed : column = ""
      · simp [undeclared, unnamed]
      · by_cases taken : seen.any (columnsCollide column)
        · have clash : ¬ ∀ other ∈ seen, columnsCollide column other = false := by
            obtain ⟨other, mem, collide⟩ := List.any_eq_true.mp taken
            intro all
            simp [all other mem] at collide
          simp [undeclared, unnamed, taken, clash]
        · have free : ∀ other ∈ seen, columnsCollide column other = false := by
            simpa using taken
          rw [if_neg undeclared, if_neg unnamed, if_neg taken, ih]
          simp only [List.mem_cons, forall_eq_or_imp, List.pairwise_cons]
          constructor
          · rintro ⟨others, apart⟩
            exact ⟨⟨⟨declared, unnamed, free⟩, fun e he =>
              ⟨(others e he).1, (others e he).2.1, (others e he).2.2.2⟩⟩,
              fun e he => (others e he).2.2.1, apart⟩
          · rintro ⟨⟨_, others⟩, fresh, apart⟩
            exact ⟨fun e he =>
              ⟨(others e he).1, (others e he).2.1, fresh e he, (others e he).2.2⟩, apart⟩

theorem verifyMapping_eq_ok_iff {type : ObjectType} {mapping : Mapping} :
    verifyMapping type mapping = .ok () ↔ type.SoundMapping mapping := by
  rw [verifyMapping, verifyColumns_eq_ok_iff]
  by_cases unnamed : mapping.idColumn = ""
  · simp only [unnamed, if_true, List.not_mem_nil, false_implies, implies_true, and_true]
    exact ⟨fun h => ⟨fun e he => (h.1 e he).1, fun e he => (h.1 e he).2, h.2,
        fun named => absurd unnamed named⟩,
      fun h => ⟨fun e he => ⟨h.declared e he, h.named e he⟩, h.apart⟩⟩
  · simp only [unnamed, if_false, List.mem_singleton, forall_eq]
    exact ⟨fun h => ⟨fun e he => (h.1 e he).1, fun e he => (h.1 e he).2.1, h.2,
        fun _ e he => (h.1 e he).2.2⟩,
      fun h => ⟨fun e he => ⟨h.declared e he, h.named e he, h.apart_id unnamed e he⟩, h.apart⟩⟩

/-- The checks of an object type pass exactly on the sound ones. -/
theorem verify_eq_ok_iff {type : ObjectType} : type.verify = .ok () ↔ type.Sound := by
  unfold verify
  by_cases unnamed : type.name = ""
  · simp only [unnamed, if_true, reduceCtorEq, false_iff]
    exact fun sound => sound.named unnamed
  · rw [if_neg unnamed, Outcome.check_bind_eq_ok, verifyProperties_eq_ok_iff]
    simp only [List.not_mem_nil, not_false_eq_true, and_true]
    have properties : (∀ property ∈ type.properties, property.name ≠ "" ∧ property.name ≠ idField) ↔
        (∀ property ∈ type.properties, property.name ≠ "") ∧
          ∀ property ∈ type.properties, property.name ≠ idField :=
      ⟨fun h => ⟨fun p hp => (h p hp).1, fun p hp => (h p hp).2⟩, fun h p hp => ⟨h.1 p hp, h.2 p hp⟩⟩
    rw [properties]
    cases source : type.dataSource with
    | none =>
      constructor
      · rintro ⟨⟨⟨named, ne_id⟩, distinct⟩, _⟩
        exact ⟨unnamed, named, ne_id, distinct, by simp [source]⟩
      · rintro ⟨_, named, ne_id, distinct, _⟩
        exact ⟨⟨⟨named, ne_id⟩, distinct⟩, rfl⟩
    | some mapping =>
      simp only [verifyMapping_eq_ok_iff]
      constructor
      · rintro ⟨⟨⟨named, ne_id⟩, distinct⟩, mapped⟩
        refine ⟨unnamed, named, ne_id, distinct, fun other same => ?_⟩
        rw [source, Option.some.injEq] at same
        exact same ▸ mapped
      · rintro ⟨_, named, ne_id, distinct, mapped⟩
        exact ⟨⟨⟨named, ne_id⟩, distinct⟩, mapped mapping source⟩

end ObjectType

namespace Schema

theorem register_entries {α : Type} {what : String} {name : α → String} {items : List α}
    {entered registered : Dict α} (h : register what name entered items = .ok registered) :
    registered.entries = entered.entries ++ items.map fun item => (name item, item) := by
  induction items generalizing entered with
  | nil =>
    simp only [register, Except.ok.injEq] at h
    simp [h]
  | cons item rest ih =>
    rw [register] at h
    by_cases again : entered.contains (name item) = true
    · simp [again] at h
    · rw [if_neg again] at h
      rw [ih h, Dict.entries_insert_of_not_contains (by simpa using again)]
      simp

/-- A schema holds the configured object types, in their order, and all of them are sound. -/
theorem ofConfig_eq_ok {config : SchemaConfig} {schema : Schema}
    (verified : ofConfig config = .ok schema) :
    schema.objectTypes.entries = config.objectTypes.map (fun type => (type.name, type)) ∧
      ∀ type ∈ config.objectTypes, type.Sound := by
  simp only [ofConfig, Outcome.bind_eq_ok, Outcome.pure_eq_ok] at verified
  obtain ⟨types, registered, sources, _, _, checked, rfl⟩ := verified
  have entries := register_entries registered
  simp only [Dict.empty, List.nil_append] at entries
  refine ⟨entries, fun type mem => ObjectType.verify_eq_ok_iff.mp ?_⟩
  refine Outcome.forM_eq_ok_iff.mp checked type ?_
  simp [Dict.values, entries, mem]

/-- An object type that a schema finds is sound and has the name it was found by. -/
theorem sound_of_objectType? {config : SchemaConfig} {schema : Schema}
    (verified : ofConfig config = .ok schema) {name : String} {type : ObjectType}
    (found : schema.objectType? name = some type) : type.Sound ∧ type.name = name := by
  obtain ⟨entries, sound⟩ := ofConfig_eq_ok verified
  rw [objectType?, Dict.get?_eq_some_iff, entries, List.mem_map] at found
  obtain ⟨declared, mem, same⟩ := found
  simp only [Prod.mk.injEq] at same
  obtain ⟨rfl, rfl⟩ := same
  exact ⟨sound declared mem, rfl⟩

end Schema

/-! ## A schema of cars

One object type, with a property that has no column. -/

namespace Cars

def mapping : Mapping :=
  ⟨"fleet", "cars", "vid", ⟨[("plate", "plate_no"), ("year", "Yr")], by decide⟩⟩

def car : ObjectType :=
  ⟨"Car", [⟨"plate", .string⟩, ⟨"year", .integer⟩, ⟨"note", .string⟩], some mapping⟩

def config : SchemaConfig := ⟨[car], []⟩

def schema : Schema := ⟨⟨[("Car", car)], by decide⟩, .empty⟩

theorem ofConfig_config : Schema.ofConfig config = .ok schema :=
  Outcome.eq_ok_of_toOption (by decide +kernel)

end Cars
end ObjectQuery
