/-
Values that are taken out of a tree, and taken out of their own tree again.

Reading leaves the members of an object sorted and without repetitions, and stops where containers
stand too deep.  A value with these properties is settled: its own tree gives it back.
-/
import ObjectQuery.Json.Decoder
import ObjectQuery.Proofs.Json.Tree
import ObjectQuery.Proofs.Outcome

namespace ObjectQuery
namespace Json

/-! ## Settled values -/

mutual

/-- Whether a value is as it is read inside a number of containers. -/
def Settled : Nat → Json → Prop
  | depth, .array elements => depth < JsonNode.depthLimit ∧ AreSettled (depth + 1) elements
  | depth, .object members =>
    depth < JsonNode.depthLimit ∧ (members.map Prod.fst).Pairwise (· < ·) ∧
      HasSettled (depth + 1) members
  | _, _ => True

def AreSettled : Nat → List Json → Prop
  | _, [] => True
  | depth, element :: rest => Settled depth element ∧ AreSettled depth rest

def HasSettled : Nat → List (String × Json) → Prop
  | _, [] => True
  | depth, (_, value) :: rest => Settled depth value ∧ HasSettled depth rest

end

theorem hasSettled_iff {depth : Nat} {members : List (String × Json)} :
    HasSettled depth members ↔ ∀ member ∈ members, Settled depth member.2 := by
  induction members with
  | nil => simp [HasSettled]
  | cons member rest ih =>
    obtain ⟨name, value⟩ := member
    rw [HasSettled, ih, List.forall_mem_cons]

/-! ## Sorted members -/

section

variable {name : String} {value : Json} {sorted members : List (String × Json)}

theorem mem_insertMember {member : String × Json} (mem : member ∈ insertMember name value sorted) :
    member = (name, value) ∨ member ∈ sorted := by
  induction sorted with
  | nil => exact .inl (List.mem_singleton.mp mem)
  | cons first rest ih =>
    obtain ⟨other, kept⟩ := first
    unfold insertMember at mem
    split at mem
    · exact List.mem_cons.mp mem
    split at mem
    · exact (List.mem_cons.mp mem).imp id (List.mem_cons_of_mem _)
    · rcases List.mem_cons.mp mem with rfl | mem
      · exact .inr List.mem_cons_self
      · exact (ih mem).imp id (List.mem_cons_of_mem _)

/-- Entering a member keeps the members sorted. -/
theorem pairwise_insertMember (ordered : (sorted.map Prod.fst).Pairwise (· < ·)) :
    ((insertMember name value sorted).map Prod.fst).Pairwise (· < ·) := by
  induction sorted with
  | nil => exact List.pairwise_singleton _ _
  | cons first rest ih =>
    obtain ⟨other, kept⟩ := first
    rw [List.map_cons, List.pairwise_cons] at ordered
    unfold insertMember
    split
    · next before =>
      rw [List.map_cons, List.pairwise_cons]
      refine ⟨?_, List.pairwise_cons.mpr ordered⟩
      rintro later mem
      rcases List.mem_cons.mp mem with rfl | mem
      · exact before
      · exact String.lt_trans before (ordered.1 later mem)
    split
    · next same =>
      subst same
      exact List.pairwise_cons.mpr ordered
    · next not_before other_name =>
      have after : other < name := Decidable.byContradiction fun not_after =>
        other_name (String.le_antisymm (String.not_lt.mp not_after) (String.not_lt.mp not_before))
      refine List.pairwise_cons.mpr ⟨?_, ih ordered.2⟩
      intro later mem
      obtain ⟨member, entered, rfl⟩ := List.mem_map.mp mem
      rcases mem_insertMember entered with rfl | mem
      · exact after
      · exact ordered.1 _ (List.mem_map_of_mem mem)

/-- A member after all others is entered at the end. -/
theorem insertMember_of_last (last : ∀ other ∈ sorted.map Prod.fst, other < name) :
    insertMember name value sorted = sorted ++ [(name, value)] := by
  induction sorted with
  | nil => rfl
  | cons first rest ih =>
    obtain ⟨other, kept⟩ := first
    rw [List.map_cons, List.forall_mem_cons] at last
    have apart : ¬name = other := by
      rintro rfl
      exact String.lt_irrefl _ last.1
    rw [insertMember, if_neg (String.lt_asymm last.1), if_neg apart, ih last.2, List.cons_append]

theorem foldl_insertMember_of_sorted
    (ordered : ((sorted ++ members).map Prod.fst).Pairwise (· < ·)) :
    members.foldl (fun sorted member => insertMember member.1 member.2 sorted) sorted =
      sorted ++ members := by
  induction members generalizing sorted with
  | nil => rw [List.foldl_nil, List.append_nil]
  | cons member rest ih =>
    have last : ∀ other ∈ sorted.map Prod.fst, other < member.1 := by
      rw [List.map_append, List.map_cons, List.pairwise_append] at ordered
      exact fun other mem => ordered.2.2 other mem _ List.mem_cons_self
    rw [List.append_cons] at ordered
    rw [List.foldl_cons, insertMember_of_last last, ih ordered, ← List.append_cons]

/-- Sorted members are an object's as they are. -/
theorem ofMembers_of_sorted (ordered : (members.map Prod.fst).Pairwise (· < ·)) :
    ofMembers members = .object members := by
  have entered : ((([] : List (String × Json)) ++ members).map Prod.fst).Pairwise (· < ·) := ordered
  rw [ofMembers, foldl_insertMember_of_sorted entered, List.nil_append]

end

theorem settled_ofMembers {depth : Nat} {members : List (String × Json)}
    (shallow : depth < JsonNode.depthLimit) (settled : HasSettled (depth + 1) members) :
    Settled depth (ofMembers members) := by
  have entered (sorted : List (String × Json)) (ordered : (sorted.map Prod.fst).Pairwise (· < ·))
      (kept : ∀ member ∈ sorted, Settled (depth + 1) member.2) :
      Settled depth (.object
        (members.foldl (fun sorted member => insertMember member.1 member.2 sorted) sorted)) := by
    induction members generalizing sorted with
    | nil => exact ⟨shallow, ordered, hasSettled_iff.mpr kept⟩
    | cons member rest ih =>
      obtain ⟨name, value⟩ := member
      refine ih settled.2 _ (pairwise_insertMember ordered) fun other mem => ?_
      rcases mem_insertMember mem with rfl | mem
      · exact settled.1
      · exact kept other mem
  exact entered [] .nil (by simp)

end Json

/-! ## Any value -/

namespace Decoder

open Json

theorem enter_eq_ok {depth inner : Nat} :
    enter depth = .ok inner ↔ depth < JsonNode.depthLimit ∧ inner = depth + 1 := by
  unfold enter
  split
  · next shallow => simp [shallow, eq_comm]
  · next deep => simp [deep]

theorem enter_of_lt {depth : Nat} (shallow : depth < JsonNode.depthLimit) :
    enter depth = .ok (depth + 1) :=
  enter_eq_ok.mpr ⟨shallow, rfl⟩

mutual

/-- What is read is settled. -/
theorem settled_of_json {depth : Nat} {value : Json} :
    ∀ {node : JsonNode}, json depth node = .ok value → Settled depth value
  | .null, read => by cases read; trivial
  | .bool _, read => by cases read; trivial
  | .number (some _), read => by cases read; trivial
  | .string (some _), read => by cases read; trivial
  | .array elements, read => by
    obtain ⟨inner, entered, read⟩ := Outcome.bind_eq_ok.mp read
    obtain ⟨shallow, rfl⟩ := enter_eq_ok.mp entered
    obtain ⟨values, parts, same⟩ := Outcome.bind_eq_ok.mp read
    cases same
    exact ⟨shallow, areSettled_of_jsonElements parts⟩
  | .object members, read => by
    obtain ⟨inner, entered, read⟩ := Outcome.bind_eq_ok.mp read
    obtain ⟨shallow, rfl⟩ := enter_eq_ok.mp entered
    obtain ⟨values, parts, same⟩ := Outcome.bind_eq_ok.mp read
    cases same
    exact settled_ofMembers shallow (hasSettled_of_jsonMembers parts)

theorem areSettled_of_jsonElements {depth : Nat} {values : List Json} :
    ∀ {nodes : List JsonNode}, jsonElements depth nodes = .ok values → AreSettled depth values
  | [], read => by cases read; trivial
  | node :: rest, read => by
    obtain ⟨value, first, read⟩ := Outcome.bind_eq_ok.mp read
    obtain ⟨others, further, same⟩ := Outcome.bind_eq_ok.mp read
    cases same
    exact ⟨settled_of_json first, areSettled_of_jsonElements further⟩

theorem hasSettled_of_jsonMembers {depth : Nat} {values : List (String × Json)} :
    ∀ {nodes : List (Option String × JsonNode)},
      jsonMembers depth nodes = .ok values → HasSettled depth values
  | [], read => by cases read; trivial
  | (name, node) :: rest, read => by
    obtain ⟨name', _, read⟩ := Outcome.bind_eq_ok.mp read
    obtain ⟨value, first, read⟩ := Outcome.bind_eq_ok.mp read
    obtain ⟨others, further, same⟩ := Outcome.bind_eq_ok.mp read
    cases same
    exact ⟨settled_of_json first, hasSettled_of_jsonMembers further⟩

end

mutual

/-- A settled value is taken out of its own tree. -/
theorem json_tree {depth : Nat} : ∀ {value : Json}, Settled depth value → json depth value.tree = .ok value
  | .null, _ => rfl
  | .bool _, _ => rfl
  | .number _, _ => rfl
  | .string _, _ => rfl
  | .array elements, settled => by
    rw [tree, json, enter_of_lt settled.1, Outcome.ok_bind, jsonElements_tree settled.2]
    rfl
  | .object members, settled => by
    rw [tree, json, enter_of_lt settled.1, Outcome.ok_bind, jsonMembers_tree settled.2.2,
      Outcome.ok_bind, ofMembers_of_sorted settled.2.1]
    rfl

theorem jsonElements_tree {depth : Nat} : ∀ {elements : List Json}, AreSettled depth elements →
    jsonElements depth (treeElements elements) = .ok elements
  | [], _ => rfl
  | element :: rest, settled => by
    rw [treeElements, jsonElements, json_tree settled.1, Outcome.ok_bind,
      jsonElements_tree settled.2]
    rfl

theorem jsonMembers_tree {depth : Nat} : ∀ {members : List (String × Json)},
    HasSettled depth members → jsonMembers depth (treeMembers members) = .ok members
  | [], _ => rfl
  | (name, value) :: rest, settled => by
    rw [treeMembers, jsonMembers, memberName, Outcome.ok_bind, json_tree settled.1, Outcome.ok_bind,
      jsonMembers_tree settled.2]
    rfl

end

end Decoder
end ObjectQuery
