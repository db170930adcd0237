/-
Dictionaries that keep the order in which their names first appear.

Entering a name again replaces its value and keeps its place. Each name has one entry, so a
dictionary is determined by its list of entries.
-/

namespace ObjectQuery

/-- A value for each of some names, in the order in which the names were first entered. -/
structure Dict (α : Type) where
  entries : List (String × α)
  names_nodup : (entries.map Prod.fst).Nodup
  deriving DecidableEq

namespace Dict

/-- Enter a value for a name, in the place of the name's entry or at the end. -/
def put {α : Type} (name : String) (value : α) : List (String × α) → List (String × α)
  | [] => [(name, value)]
  | (other, kept) :: rest =>
    if other = name then (other, value) :: rest else (other, kept) :: put name value rest

/-- Entering a value adds at most its own name. -/
theorem mem_names_put {α : Type} {name other : String} {value : α} {entries : List (String × α)} :
    other ∈ (put name value entries).map Prod.fst ↔
      other = name ∨ other ∈ entries.map Prod.fst := by
  induction entries with
  | nil => simp [put]
  | cons entry rest ih =>
    obtain ⟨first, kept⟩ := entry
    by_cases h : first = name
    · simp [put, h]
    · simp only [put, h, if_false, List.map_cons, List.mem_cons, ih]
      constructor
      · rintro (h | h | h) <;> simp [h]
      · rintro (h | h | h) <;> simp [h]

theorem nodup_put {α : Type} {name : String} {value : α} {entries : List (String × α)}
    (h : (entries.map Prod.fst).Nodup) : ((put name value entries).map Prod.fst).Nodup := by
  induction entries with
  | nil => simp [put]
  | cons entry rest ih =>
    obtain ⟨first, kept⟩ := entry
    simp only [List.map_cons, List.nodup_cons] at h
    by_cases same : first = name
    · subst same
      simp only [put, if_true, List.map_cons, List.nodup_cons]
      exact h
    · simp only [put, same, if_false, List.map_cons, List.nodup_cons, mem_names_put]
      exact ⟨by simp only [false_or]; exact h.1, ih h.2⟩

/-- The dictionary without entries. -/
def empty {α : Type} : Dict α := ⟨[], by simp⟩

instance {α : Type} : Inhabited (Dict α) := ⟨empty⟩

def insert {α : Type} (d : Dict α) (name : String) (value : α) : Dict α :=
  ⟨put name value d.entries, nodup_put d.names_nodup⟩

/-- The dictionary of some entries, entered one after the other. -/
def ofList {α : Type} (entries : List (String × α)) : Dict α :=
  entries.foldl (fun d entry => d.insert entry.1 entry.2) empty

def get? {α : Type} (d : Dict α) (name : String) : Option α := d.entries.lookup name

/-- Whether a name has an entry. -/
def contains {α : Type} (d : Dict α) (name : String) : Bool := (d.get? name).isSome

def names {α : Type} (d : Dict α) : List String := d.entries.map Prod.fst

/-- The values, in the order of their names. -/
def values {α : Type} (d : Dict α) : List α := d.entries.map Prod.snd

end Dict
end ObjectQuery
