/-
Lists, dictionaries and records that are taken out of a tree.

What a decoder makes of each part, a decoder of the whole makes of all parts.  A record is changed
by one member after the other, so what each change keeps is true of the record that is read, and
members with different names that fields read as changes make all these changes.
-/
import ObjectQuery.Proofs.Dict
import ObjectQuery.Proofs.Json.Decoding

namespace ObjectQuery
namespace Decoder

variable {α β : Type} {d : Decoder α} {depth : Nat} {node : JsonNode}

/-! ## Lists -/

theorem mapM_map_eq_ok {ε : Type} {f : JsonNode → Except ε α} {tree : α → JsonNode} {values : List α}
    (each : ∀ value ∈ values, f (tree value) = .ok value) :
    (values.map tree).mapM f = .ok values := by
  induction values with
  | nil => rfl
  | cons value rest ih =>
    rw [List.forall_mem_cons] at each
    rw [List.map_cons, List.mapM_cons, each.1, Outcome.ok_bind, ih each.2]
    rfl

/-- Values whose trees give them back are an array's elements. -/
theorem list_map {tree : α → JsonNode} {values : List α} (shallow : depth < JsonNode.depthLimit)
    (each : ∀ value ∈ values, d (depth + 1) (tree value) = .ok value) :
    list d depth (.array (values.map tree)) = .ok values := by
  rw [list, enter_of_lt shallow, Outcome.ok_bind, mapM_map_eq_ok each]

/-! ## Dictionaries -/

/-- Enter a member into a dictionary. -/
def enterMember (d : Decoder α) (depth : Nat) (entries : Dict α)
    (member : Option String × JsonNode) : Except DecodeFault (Dict α) := do
  let name ← memberName member.1
  let value ← d depth member.2
  return entries.insert name value

theorem dict_object (d : Decoder α) (depth : Nat) (members : List (Option String × JsonNode)) :
    dict d depth (.object members) =
      enter depth >>= fun depth => members.foldlM (enterMember d depth) .empty := rfl

theorem foldlM_enterMember {tree : α → JsonNode} {entries : List (String × α)} {start : Dict α}
    (distinct : ((start.entries ++ entries).map Prod.fst).Nodup)
    (each : ∀ entry ∈ entries, d depth (tree entry.2) = .ok entry.2) :
    (entries.map fun entry => (some entry.1, tree entry.2)).foldlM (enterMember d depth) start =
      .ok ⟨start.entries ++ entries, distinct⟩ := by
  induction entries generalizing start with
  | nil =>
    exact congrArg Except.ok (Dict.ext (List.append_nil _).symm)
  | cons entry rest ih =>
    obtain ⟨name, value⟩ := entry
    rw [List.forall_mem_cons] at each
    have fresh : start.contains name = false := by
      rw [List.map_append, List.map_cons, List.nodup_append] at distinct
      rw [Bool.eq_false_iff, ne_eq, Dict.contains_iff]
      exact fun present => distinct.2.2 name present name List.mem_cons_self rfl
    have entered : (start.insert name value).entries = start.entries ++ [(name, value)] :=
      Dict.entries_insert_of_not_contains fresh
    have step : enterMember d depth start (some name, tree value) = .ok (start.insert name value) := by
      rw [enterMember, memberName, Outcome.ok_bind, each.1]
      rfl
    have apart : (((start.insert name value).entries ++ rest).map Prod.fst).Nodup := by
      rwa [entered, List.append_assoc, List.singleton_append]
    rw [List.map_cons, List.foldlM_cons, step, Outcome.ok_bind, ih apart each.2]
    refine congrArg Except.ok (Dict.ext ?_)
    simp only [entered, List.append_assoc, List.singleton_append]

/-- Entries whose trees give them back are an object's members. -/
theorem dict_entries {tree : α → JsonNode} {entries : Dict α}
    (shallow : depth < JsonNode.depthLimit)
    (each : ∀ entry ∈ entries.entries, d (depth + 1) (tree entry.2) = .ok entry.2) :
    dict d depth (.object (entries.entries.map fun entry => (some entry.1, tree entry.2))) =
      .ok entries := by
  have distinct : ((Dict.empty.entries ++ entries.entries).map Prod.fst).Nodup := entries.names_nodup
  rw [dict_object, enter_of_lt shallow, Outcome.ok_bind, foldlM_enterMember distinct each]
  rfl

/-- What the decoder of the entries makes true of each value is true of the values that are read. -/
theorem values_of_dict {P : α → Prop} {entries : Dict α}
    (each : ∀ {part value}, d (depth + 1) part = .ok value → P value)
    (read : dict d depth node = .ok entries) : ∀ value ∈ entries.values, P value := by
  have entered {members : List (Option String × JsonNode)} {start : Dict α}
      (kept : ∀ value ∈ start.values, P value)
      (read : members.foldlM (enterMember d (depth + 1)) start = .ok entries) :
      ∀ value ∈ entries.values, P value := by
    induction members generalizing start with
    | nil =>
      cases read
      exact kept
    | cons member rest ih =>
      rw [List.foldlM_cons] at read
      obtain ⟨next, step, further⟩ := Outcome.bind_eq_ok.mp read
      obtain ⟨name, _, step⟩ := Outcome.bind_eq_ok.mp step
      obtain ⟨value, found, same⟩ := Outcome.bind_eq_ok.mp step
      cases same
      refine ih (fun other mem => ?_) further
      rcases Dict.mem_values_insert mem with rfl | mem
      · exact each found
      · exact kept other mem
  cases node with
  | object members =>
    rw [dict_object] at read
    obtain ⟨inner, enters, further⟩ := Outcome.bind_eq_ok.mp read
    obtain ⟨-, rfl⟩ := enter_eq_ok.mp enters
    exact entered (by simp [Dict.values, Dict.empty]) further
  | _ =>
    obtain ⟨found, _, failed⟩ := Outcome.bind_eq_ok.mp read
    contradiction

/-! ## Records -/

namespace Field

variable {fields : List (Field α)} {P : α → Prop}

/-- Whether one of the fields reads a member as a change of the record. -/
def Reads (fields : List (Field α)) (depth : Nat) (name : String) (node : JsonNode)
    (change : α → α) : Prop :=
  ∃ field, fields.find? (fun field => field.names.contains name) = some field ∧
    field.name = name ∧ field.decode depth node = .ok change

/-- A member that is read as a change. -/
structure Change (α : Type) where
  name : String
  node : JsonNode
  change : α → α

/-- Members with different names that are read as changes make these changes. -/
theorem readMembers_of_reads {changes : List (Change α)} {seen : List String} {record : α}
    (reads : ∀ c ∈ changes, Reads fields depth c.name c.node c.change)
    (distinct : (changes.map Change.name).Nodup) (fresh : ∀ c ∈ changes, c.name ∉ seen)
    (complete : ∀ field ∈ fields, field.mandatory = true →
      field.name ∈ seen ∨ field.name ∈ changes.map Change.name) :
    readMembers fields depth seen record (changes.map fun c => (some c.name, c.node)) =
      .ok (changes.foldl (fun record c => c.change record) record) := by
  induction changes generalizing seen record with
  | nil =>
    have nothing : fields.find? (fun field => field.mandatory && !seen.contains field.name) = none := by
      rw [List.find?_eq_none]
      intro field mem missing
      rw [Bool.and_eq_true] at missing
      rcases complete field mem missing.1 with present | none
      · simp [present] at missing
      · contradiction
    rw [List.map_nil, readMembers, nothing]
    rfl
  | cons c rest ih =>
    rw [List.forall_mem_cons] at reads fresh
    rw [List.map_cons, List.nodup_cons] at distinct
    obtain ⟨field, found, named, decoded⟩ := reads.1
    have unseen : seen.contains field.name = false := by
      rw [named]
      simpa using fresh.1
    rw [List.map_cons, readMembers, memberName, Outcome.ok_bind]
    simp only [found, unseen, Bool.false_eq_true, if_false, decoded]
    rw [Outcome.ok_bind, ih reads.2 distinct.2]
    · rfl
    · intro other mem
      rw [List.mem_cons, not_or, named]
      refine ⟨?_, fresh.2 other mem⟩
      rintro same
      exact distinct.1 (same ▸ List.mem_map_of_mem mem)
    · intro other mem mandatory
      have present := complete other mem mandatory
      rw [List.map_cons, List.mem_cons] at present
      rw [named, List.mem_cons]
      tauto

section

variable {index : Nat} {seen : List String} {short : Nat → DecodeFault} {record result : α}

/-- Whether every change that a field reads keeps a property. -/
def Keeps (P : α → Prop) (depth : Nat) (field : Field α) : Prop :=
  ∀ (part : JsonNode) (change : α → α), field.decode depth part = .ok change →
    ∀ a, P a → P (change a)

theorem readMembers_keeps {members : List (Option String × JsonNode)}
    (keeps : ∀ field ∈ fields, field.Keeps P depth) (start : P record)
    (read : readMembers fields depth seen record members = .ok result) : P result := by
  induction members generalizing seen record with
  | nil =>
    rw [readMembers] at read
    split at read
    · contradiction
    · cases read
      exact start
  | cons member rest ih =>
    obtain ⟨name, part⟩ := member
    rw [readMembers] at read
    obtain ⟨name, _, read⟩ := Outcome.bind_eq_ok.mp read
    split at read
    · exact ih start read
    · next field found =>
      split at read
      · contradiction
      · obtain ⟨change, decoded, further⟩ := Outcome.bind_eq_ok.mp read
        exact ih (keeps field (List.mem_of_find?_eq_some found) _ _ decoded record start) further

theorem readElements_keeps {elements : List JsonNode}
    (keeps : ∀ field ∈ fields, field.Keeps P depth) (start : P record)
    (read : readElements depth short index fields record elements = .ok result) : P result := by
  induction fields generalizing index record elements with
  | nil =>
    cases elements with
    | nil =>
      cases read
      exact start
    | cons element rest => contradiction
  | cons field fields ih =>
    rw [List.forall_mem_cons] at keeps
    cases elements with
    | nil =>
      rw [readElements] at read
      split at read
      · contradiction
      · exact ih keeps.2 start read
    | cons element rest =>
      obtain ⟨change, decoded, further⟩ := Outcome.bind_eq_ok.mp read
      exact ih keeps.2 (keeps.1 _ _ decoded record start) further

end

end Field

/-- A record is read from members that are read as changes, and as what these make of a blank. -/
theorem record_of_reads {title : String} {fields : List (Field α)} {blank : α}
    {changes : List (Field.Change α)} (shallow : depth < JsonNode.depthLimit)
    (reads : ∀ c ∈ changes, Field.Reads fields (depth + 1) c.name c.node c.change)
    (distinct : (changes.map Field.Change.name).Nodup)
    (complete : ∀ field ∈ fields, field.mandatory = true →
      field.name ∈ changes.map Field.Change.name) :
    record title fields blank depth (.object (changes.map fun c => (some c.name, c.node))) =
      .ok (changes.foldl (fun record c => c.change record) blank) := by
  rw [record, enter_of_lt shallow, Outcome.ok_bind]
  exact Field.readMembers_of_reads reads distinct (by simp)
    fun field mem mandatory => .inr (complete field mem mandatory)

/-- What every change keeps is true of the record that is read. -/
theorem record_keeps {title : String} {fields : List (Field α)} {blank result : α} {P : α → Prop}
    (keeps : ∀ field ∈ fields, field.Keeps P (depth + 1)) (start : P blank)
    (read : record title fields blank depth node = .ok result) : P result := by
  cases node with
  | object members =>
    obtain ⟨inner, entered, further⟩ := Outcome.bind_eq_ok.mp read
    obtain ⟨-, rfl⟩ := enter_eq_ok.mp entered
    exact Field.readMembers_keeps keeps start further
  | array elements =>
    obtain ⟨inner, entered, further⟩ := Outcome.bind_eq_ok.mp read
    obtain ⟨-, rfl⟩ := enter_eq_ok.mp entered
    exact Field.readElements_keeps keeps start further
  | _ =>
    obtain ⟨found, _, failed⟩ := Outcome.bind_eq_ok.mp read
    contradiction

end Decoder
end ObjectQuery
