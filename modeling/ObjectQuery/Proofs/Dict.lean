/-
Looking names up in dictionaries.

Since every name has one entry, a look-up answers exactly with the entries.
-/
import Mathlib.Data.List.Nodup
import ObjectQuery.Dict

namespace ObjectQuery
namespace Dict

variable {α : Type}

@[ext]
theorem ext {a b : Dict α} (same : a.entries = b.entries) : a = b := by
  cases a
  cases b
  cases same
  rfl

theorem lookup_eq_some_iff_mem {entries : List (String × α)}
    (distinct : (entries.map Prod.fst).Nodup) {name : String} {value : α} :
    entries.lookup name = some value ↔ (name, value) ∈ entries := by
  induction entries with
  | nil => simp
  | cons entry rest ih =>
    obtain ⟨other, kept⟩ := entry
    simp only [List.map_cons, List.nodup_cons] at distinct
    rw [List.lookup_cons]
    by_cases h : name = other
    · subst h
      simp only [beq_self_eq_true, Option.some.injEq, List.mem_cons, Prod.mk.injEq, true_and]
      constructor
      · rintro rfl
        exact Or.inl rfl
      · rintro (rfl | later)
        · rfl
        · exact absurd (List.mem_map.mpr ⟨_, later, rfl⟩) distinct.1
    · have differ : (name == other) = false := by simpa using h
      rw [differ, ih distinct.2]
      simp [h]

/-- A look-up answers with the entry of the name, and with no other. -/
theorem get?_eq_some_iff {d : Dict α} {name : String} {value : α} :
    d.get? name = some value ↔ (name, value) ∈ d.entries :=
  lookup_eq_some_iff_mem d.names_nodup

theorem put_of_not_mem {name : String} {value : α} {entries : List (String × α)}
    (h : name ∉ entries.map Prod.fst) : put name value entries = entries ++ [(name, value)] := by
  induction entries with
  | nil => rfl
  | cons entry rest ih =>
    obtain ⟨other, kept⟩ := entry
    simp only [List.map_cons, List.mem_cons, not_or] at h
    rw [put, if_neg (fun same => h.1 same.symm), ih h.2]
    rfl

theorem contains_iff {d : Dict α} {name : String} :
    d.contains name = true ↔ name ∈ d.entries.map Prod.fst := by
  simp [contains, get?]

theorem entries_insert_of_not_contains {d : Dict α} {name : String} {value : α}
    (h : d.contains name = false) : (d.insert name value).entries = d.entries ++ [(name, value)] := by
  refine put_of_not_mem fun present => ?_
  rw [contains_iff.mpr present] at h
  exact absurd h (by simp)

theorem lookup_put {name other : String} {value : α} {entries : List (String × α)} :
    (put name value entries).lookup other =
      if other = name then some value else entries.lookup other := by
  induction entries with
  | nil =>
    by_cases h : other = name
    · simp [put, h]
    · simp [put, h]
  | cons entry rest ih =>
    obtain ⟨first, kept⟩ := entry
    rw [put]
    by_cases same : first = name
    · subst same
      by_cases h : other = first
      · simp [h]
      · simp [h, List.lookup_cons, show (other == first) = false by simpa using h]
    · rw [if_neg same, List.lookup_cons, List.lookup_cons, ih]
      by_cases h : other = first
      · subst h
        simp [same]
      · simp [show (other == first) = false by simpa using h]

/-- Entering a value changes what its name stands for and nothing else. -/
theorem get?_insert {d : Dict α} {name other : String} {value : α} :
    (d.insert name value).get? other = if other = name then some value else d.get? other :=
  lookup_put

theorem mem_values_of_get? {d : Dict α} {name : String} {value : α}
    (found : d.get? name = some value) : value ∈ d.values :=
  List.mem_map.mpr ⟨(name, value), get?_eq_some_iff.mp found, rfl⟩

theorem mem_put {name : String} {value : α} {entries : List (String × α)} {entry : String × α}
    (mem : entry ∈ put name value entries) : entry = (name, value) ∨ entry ∈ entries := by
  induction entries with
  | nil => exact .inl (List.mem_singleton.mp mem)
  | cons first rest ih =>
    rw [put] at mem
    split at mem
    · next same =>
      rcases List.mem_cons.mp mem with entered | later
      · exact .inl (same ▸ entered)
      · exact .inr (.tail _ later)
    · rcases List.mem_cons.mp mem with rfl | later
      · exact .inr (.head _)
      · exact (ih later).imp_right (.tail _)

/-- Entering a value adds no other one. -/
theorem mem_values_insert {d : Dict α} {name : String} {value other : α}
    (mem : other ∈ (d.insert name value).values) : other = value ∨ other ∈ d.values := by
  obtain ⟨entry, entered, rfl⟩ := List.mem_map.mp mem
  rcases mem_put entered with rfl | before
  · exact .inl rfl
  · exact .inr (List.mem_map_of_mem before)

theorem nodup_values_insert {d : Dict α} {name : String} {value : α} (fresh : value ∉ d.values)
    (distinct : d.values.Nodup) : (d.insert name value).values.Nodup := by
  have entered (entries : List (String × α)) (fresh : value ∉ entries.map Prod.snd)
      (distinct : (entries.map Prod.snd).Nodup) :
      ((put name value entries).map Prod.snd).Nodup := by
    induction entries with
    | nil => simp [put]
    | cons entry rest ih =>
      simp only [List.map_cons, List.mem_cons, not_or, List.nodup_cons] at fresh distinct
      rw [put]
      split
      · exact List.nodup_cons.mpr ⟨fresh.2, distinct.2⟩
      · refine List.nodup_cons.mpr ⟨fun mem => ?_, ih fresh.2 distinct.2⟩
        obtain ⟨other, listed, same⟩ := List.mem_map.mp mem
        rcases mem_put listed with rfl | before
        · exact fresh.1 same
        · exact distinct.1 (List.mem_map.mpr ⟨other, before, same⟩)
  exact entered d.entries fresh distinct

/-- The dictionary with only the names that pass a test. -/
def keepNames (keep : String → Bool) (d : Dict α) : Dict α where
  entries := d.entries.filter fun entry => keep entry.1
  names_nodup := d.names_nodup.sublist (List.filter_sublist.map Prod.fst)

/-! ## Entries under other names -/

section

variable {β : Type} {f : String → String}

/-- The dictionary with its names and its values mapped. -/
def mapEntries (f : String → String) (injective : f.Injective) (g : α → β) (d : Dict α) :
    Dict β where
  entries := d.entries.map fun entry => (f entry.1, g entry.2)
  names_nodup := by
    have names : (d.entries.map fun entry => (f entry.1, g entry.2)).map Prod.fst =
        (d.entries.map Prod.fst).map f := by simp
    rw [names]
    exact d.names_nodup.map injective

variable {injective : f.Injective} {g : α → β} {d : Dict α}

theorem get?_mapEntries (name : String) :
    (d.mapEntries f injective g).get? (f name) = (d.get? name).map g := by
  show (d.entries.map fun entry => (f entry.1, g entry.2)).lookup (f name) =
    (d.entries.lookup name).map g
  induction d.entries with
  | nil => rfl
  | cons entry rest ih =>
    rw [List.map_cons, List.lookup_cons, List.lookup_cons, ih, injective.beq_eq]
    cases name == entry.1 <;> rfl

theorem contains_mapEntries (name : String) :
    (d.mapEntries f injective g).contains (f name) = d.contains name := by
  rw [contains, contains, get?_mapEntries, Option.isSome_map]

theorem values_mapEntries : (d.mapEntries f injective g).values = d.values.map g := by
  simp [values, mapEntries]

theorem mapEntries_insert (name : String) (value : α) :
    (d.insert name value).mapEntries f injective g =
      (d.mapEntries f injective g).insert (f name) (g value) := by
  have entries : (put name value d.entries).map (fun entry => (f entry.1, g entry.2)) =
      put (f name) (g value) (d.entries.map fun entry => (f entry.1, g entry.2)) := by
    induction d.entries with
    | nil => rfl
    | cons entry rest ih =>
      rw [put, List.map_cons, put]
      by_cases same : entry.1 = name
      · simp [same]
      · rw [if_neg same, if_neg (injective.ne same), List.map_cons, ih]
  simp only [mapEntries, insert, entries]

end

end Dict
end ObjectQuery
