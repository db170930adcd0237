/-
A query that was read is written as a text that reads as the same query.

A query has a JSON value whose members are the query's written parts.  Each part is read as the
change that enters it into a query, and what is not written is blank.
-/
import ObjectQuery.Proofs.Json.Records
import ObjectQuery.Query.Reader
import ObjectQuery.Query.Writer

namespace ObjectQuery

open Decoder

/-! ## Texts of containers -/

namespace Json

theorem writeElements_eq (elements : List Json) :
    writeElements elements = ",".intercalate (elements.map write) := by
  induction elements with
  | nil => rfl
  | cons element rest ih =>
    cases rest with
    | nil => rw [writeElements, List.map_singleton, String.intercalate_singleton]
    | cons other rest =>
      rw [writeElements, ih]
      · simp only [List.map_cons, String.intercalate_cons_cons]
      · intro nothing
        contradiction

theorem writeMembers_eq (members : List (String × Json)) :
    writeMembers members =
      ",".intercalate (members.map fun member => writeString member.1 ++ ":" ++ member.2.write) := by
  induction members with
  | nil => rfl
  | cons member rest ih =>
    obtain ⟨name, value⟩ := member
    cases rest with
    | nil => rw [writeMembers, List.map_singleton, String.intercalate_singleton]
    | cons other rest =>
      rw [writeMembers, ih]
      · simp only [List.map_cons, String.intercalate_cons_cons]
      · intro nothing
        contradiction

theorem write_array (elements : List Json) :
    write (.array elements) = writeElementTexts (elements.map write) := by
  rw [write, writeElements_eq, writeElementTexts]

theorem write_object (members : List (String × Json)) :
    write (.object members) =
      writeMemberTexts (members.map fun member => (member.1, member.2.write)) := by
  rw [write, writeMembers_eq, writeMemberTexts, List.map_map]
  rfl

theorem treeElements_eq_map (elements : List Json) :
    treeElements elements = elements.map tree := by
  induction elements with
  | nil => rfl
  | cons element rest ih => rw [treeElements, ih, List.map_cons]

theorem treeMembers_eq_map (members : List (String × Json)) :
    treeMembers members = members.map fun member => (some member.1, member.2.tree) := by
  induction members with
  | nil => rfl
  | cons member rest ih => rw [treeMembers, ih, List.map_cons]

theorem areWhole_iff {elements : List Json} :
    AreWhole elements ↔ ∀ element ∈ elements, element.IsWhole := by
  induction elements with
  | nil => simp [AreWhole]
  | cons element rest ih => rw [AreWhole, ih, List.forall_mem_cons]

theorem hasWhole_iff {members : List (String × Json)} :
    HasWhole members ↔ ∀ member ∈ members, member.2.IsWhole := by
  induction members with
  | nil => simp [HasWhole]
  | cons member rest ih => rw [HasWhole, ih, List.forall_mem_cons]

end Json

/-! ## Written parts -/

/-- A part of a record: a member, and the change that it is read as. -/
structure Part (α : Type) where
  name : String
  value : Json
  change : α → α

namespace Part

variable {α : Type}

/-- The JSON value with some parts. -/
def toJson (parts : List (Part α)) : Json := .object (parts.map fun part => (part.name, part.value))

def toChange (part : Part α) : Field.Change α := ⟨part.name, part.value.tree, part.change⟩

theorem tree_toJson (parts : List (Part α)) :
    (toJson parts).tree =
      .object ((parts.map toChange).map fun c => (some c.name, c.node)) := by
  rw [toJson, Json.tree, Json.treeMembers_eq_map, List.map_map, List.map_map]
  rfl

theorem write_toJson (parts : List (Part α)) :
    (toJson parts).write = writeMemberTexts (parts.map fun part => (part.name, part.value.write)) := by
  rw [toJson, Json.write_object, List.map_map]
  rfl

/-- Parts that are read as their changes make up the record that the changes make of a blank. -/
theorem record_toJson {title : String} {fields : List (Decoder.Field α)} {blank : α}
    {depth : Nat} {parts : List (Part α)} (shallow : depth < JsonNode.depthLimit)
    (reads : ∀ part ∈ parts, Field.Reads fields (depth + 1) part.name part.value.tree part.change)
    (distinct : (parts.map Part.name).Nodup)
    (complete : ∀ field ∈ fields, field.mandatory = true → field.name ∈ parts.map Part.name) :
    record title fields blank depth (toJson parts).tree =
      .ok (parts.foldl (fun record part => part.change record) blank) := by
  have names : (parts.map toChange).map Field.Change.name = parts.map Part.name := by
    rw [List.map_map]
    rfl
  rw [tree_toJson, record_of_reads shallow (List.forall_mem_map.mpr reads) (names ▸ distinct)
    (names ▸ complete), List.foldl_map]
  rfl

end Part

/-! ## Parts that may be left out -/

namespace Part

variable {α : Type} {part : Part α} {absent : Bool}

/-- A part that is left out where it says nothing. -/
def keptUnless (absent : Bool) (part : Part α) : List (Part α) := if absent then [] else [part]

theorem eq_of_mem_keptUnless {other : Part α} (mem : other ∈ keptUnless absent part) : other = part := by
  unfold keptUnless at mem
  split at mem
  · contradiction
  · exact List.mem_singleton.mp mem

theorem names_keptUnless_sublist : ((keptUnless absent part).map Part.name).Sublist [part.name] := by
  unfold keptUnless
  split
  · exact List.nil_sublist _
  · exact List.Sublist.refl _

theorem foldl_keptUnless (part : Part α) {record : α} (nothing : absent = true → part.change record = record) :
    (keptUnless absent part).foldl (fun record part => part.change record) record =
      part.change record := by
  unfold keptUnless
  split
  · next left_out => exact (nothing left_out).symm
  · rfl

theorem map_keptUnless {β : Type} (f : Part α → β) :
    (keptUnless absent part).map f = if absent then [] else [f part] := by
  unfold keptUnless
  split <;> rfl

end Part

/-! ## Orders -/

namespace OrderEntry

def parts (entry : OrderEntry) : List (Part OrderEntry) :=
  ⟨"field", .string entry.field, fun other => { other with field := entry.field }⟩
    :: (entry.spelling.map fun spelling =>
      ⟨"direction", .string spelling, fun other => { other with spelling := some spelling }⟩).toList

theorem write_eq (entry : OrderEntry) : entry.write = (Part.toJson entry.parts).write := by
  rw [Part.write_toJson, OrderEntry.write, parts]
  cases entry.spelling <;> rfl

theorem isWhole (entry : OrderEntry) : (Part.toJson entry.parts).IsWhole := by
  rw [parts]
  cases entry.spelling with
  | none => exact ⟨trivial, trivial⟩
  | some spelling => exact ⟨trivial, trivial, trivial⟩

theorem decoder_toJson (entry : OrderEntry) {depth : Nat} (shallow : depth < JsonNode.depthLimit) :
    decoder depth (Part.toJson entry.parts).tree = .ok entry := by
  obtain ⟨field, spelling⟩ := entry
  unfold decoder
  cases spelling with
  | none =>
    refine (Part.record_toJson shallow ?_ (by simp [parts]) ?_).trans rfl
    · rw [parts, Option.map_none, Option.toList_none, List.forall_mem_singleton]
      exact ⟨_, rfl, rfl, rfl⟩
    · simp [parts, Field.required, Field.defaulted, Decoder.Field.name]
  | some spelling =>
    refine (Part.record_toJson shallow ?_ (by simp [parts]) ?_).trans rfl
    · rw [parts, Option.map_some, Option.toList_some, List.forall_mem_cons, List.forall_mem_singleton]
      exact ⟨⟨_, rfl, rfl, rfl⟩, _, rfl, rfl, rfl⟩
    · simp [parts, Field.required, Field.defaulted, Decoder.Field.name]

end OrderEntry

/-! ## Queries -/

namespace Query

variable (query : Query)

def fromPart : Part Query :=
  ⟨"from", (query.objectName.map Json.string).getD .null,
    fun other => { other with objectName := query.objectName }⟩

def selectPart : Part Query :=
  ⟨"select", .array (query.select.map Json.string), fun other => { other with select := query.select }⟩

def wherePart : Part Query :=
  ⟨"where", .object query.filters.entries, fun other => { other with filters := query.filters }⟩

def orderPart : Part Query :=
  ⟨"orderBy", .array (query.order.map fun entry => Part.toJson entry.parts),
    fun other => { other with order := query.order }⟩

/-- A count, or nothing, as a JSON value. -/
def countJson (count : Option Int64) : Json :=
  (count.map fun count => .number (.ofInt64 count)).getD .null

def limitPart : Part Query :=
  ⟨"limit", countJson query.limit, fun other => { other with limit := query.limit }⟩

def offsetPart : Part Query :=
  ⟨"offset", countJson query.offset, fun other => { other with offset := query.offset }⟩

/-- The written parts of a query. -/
def parts : List (Part Query) :=
  [query.fromPart] ++ Part.keptUnless query.select.isEmpty query.selectPart
    ++ Part.keptUnless query.filters.entries.isEmpty query.wherePart
    ++ Part.keptUnless query.order.isEmpty query.orderPart
    ++ Part.keptUnless query.limit.isNone query.limitPart
    ++ Part.keptUnless query.offset.isNone query.offsetPart

theorem mem_parts {part : Part Query} (mem : part ∈ query.parts) :
    part ∈ [query.fromPart, query.selectPart, query.wherePart, query.orderPart, query.limitPart,
      query.offsetPart] := by
  simp only [parts, List.mem_append, List.mem_singleton] at mem
  rcases mem with ((((rfl | mem) | mem) | mem) | mem) | mem
  · exact List.mem_cons_self
  all_goals simp [Part.eq_of_mem_keptUnless mem]

theorem nodup_parts : (query.parts.map Part.name).Nodup := by
  have sublist : (query.parts.map Part.name).Sublist
      ["from", "select", "where", "orderBy", "limit", "offset"] := by
    simp only [parts, List.map_append]
    exact ((((List.Sublist.refl ["from"]).append Part.names_keptUnless_sublist).append
      Part.names_keptUnless_sublist).append Part.names_keptUnless_sublist).append
        Part.names_keptUnless_sublist |>.append Part.names_keptUnless_sublist
  exact sublist.nodup (by decide)

/-- What is not written is blank. -/
theorem foldl_parts : query.parts.foldl (fun record part => part.change record) blank = query := by
  obtain ⟨objectName, select, ⟨entries, distinct⟩, order, limit, offset⟩ := query
  simp only [parts, List.foldl_append, List.foldl_cons, List.foldl_nil]
  rw [Part.foldl_keptUnless (selectPart _), Part.foldl_keptUnless (wherePart _),
    Part.foldl_keptUnless (orderPart _), Part.foldl_keptUnless (limitPart _),
    Part.foldl_keptUnless (offsetPart _)]
  · rfl
  · intro none
    cases Option.isNone_iff_eq_none.mp none
    rfl
  · intro none
    cases Option.isNone_iff_eq_none.mp none
    rfl
  · intro none
    cases List.isEmpty_iff.mp none
    rfl
  · intro none
    cases List.isEmpty_iff.mp none
    rfl
  · intro none
    cases List.isEmpty_iff.mp none
    rfl

theorem writtenCount_eq (name : String) (count : Option Int64) :
    (count.map fun count => (name, toString count.toInt)).toList =
      if count.isNone then [] else [(name, (countJson count).write)] := by
  cases count with
  | none => rfl
  | some count => rfl

theorem write_eq : query.write = (Part.toJson query.parts).write := by
  have object_name : (query.objectName.map Json.writeString).getD "null" =
      query.fromPart.value.write := by
    rw [fromPart]
    cases query.objectName <;> rfl
  have select : writeElementTexts (query.select.map Json.writeString) =
      query.selectPart.value.write := by
    rw [selectPart, Json.write_array, List.map_map]
    rfl
  have filters : writeMemberTexts (query.filters.entries.map fun entry => (entry.1, entry.2.write)) =
      query.wherePart.value.write := by
    rw [wherePart, Json.write_object]
  have order : writeElementTexts (query.order.map OrderEntry.write) =
      query.orderPart.value.write := by
    rw [orderPart, Json.write_array, List.map_map]
    congr 2
    funext entry
    exact entry.write_eq
  rw [Part.write_toJson, Query.write, writtenMembers, object_name, select, filters, order,
    writtenCount_eq, writtenCount_eq]
  simp only [parts, List.map_append, Part.map_keptUnless]
  rfl

theorem isWhole_countJson (count : Option Int64) : (countJson count).IsWhole := by
  cases count with
  | none => trivial
  | some count => trivial

theorem isWhole (whole : ∀ value ∈ query.filters.values, value.IsWhole) :
    (Part.toJson query.parts).IsWhole := by
  have object_name : query.fromPart.value.IsWhole := by
    rw [fromPart]
    cases query.objectName <;> trivial
  have select : query.selectPart.value.IsWhole := by
    refine Json.areWhole_iff.mpr (List.forall_mem_map.mpr ?_)
    exact fun _ _ => trivial
  have filters : query.wherePart.value.IsWhole :=
    Json.hasWhole_iff.mpr fun entry mem => whole _ (List.mem_map_of_mem mem)
  have order : query.orderPart.value.IsWhole :=
    Json.areWhole_iff.mpr (List.forall_mem_map.mpr fun entry _ => entry.isWhole)
  refine Json.hasWhole_iff.mpr (List.forall_mem_map.mpr fun part mem => ?_)
  have listed := query.mem_parts mem
  simp only [List.mem_cons, List.not_mem_nil, or_false] at listed
  rcases listed with rfl | rfl | rfl | rfl | rfl | rfl
  · exact object_name
  · exact select
  · exact filters
  · exact order
  · exact isWhole_countJson _
  · exact isWhole_countJson _

theorem countDecoder_ofInt64 (count : Int64) (depth : Nat) :
    countDecoder depth (.number (some (.ofInt64 count))) = .ok count := by
  have low : -9223372036854775808 ≤ count.toInt := Int64.le_toInt count
  have high : count.toInt ≤ 9223372036854775807 := Int.le_of_lt_add_one (Int64.toInt_lt count)
  rw [countDecoder, JsonNumber.ofInt64, integer, if_pos ⟨low, high⟩]
  exact congrArg Except.ok (Int64.ofInt_toInt count)

theorem optional_countJson (count : Option Int64) (depth : Nat) :
    optional countDecoder depth (countJson count).tree = .ok count := by
  cases count with
  | none => rfl
  | some count => exact congrArg (Except.map some) (countDecoder_ofInt64 count depth)

theorem decoder_toJson (settled : ∀ value ∈ query.filters.values, value.Settled 2) :
    decoder 0 (Part.toJson query.parts).tree = .ok query := by
  have object_name : optional Decoder.string 1 query.fromPart.value.tree = .ok query.objectName := by
    rw [fromPart]
    cases query.objectName <;> rfl
  have select : list Decoder.string 1 query.selectPart.value.tree = .ok query.select := by
    rw [selectPart, Json.tree, Json.treeElements_eq_map, List.map_map]
    exact list_map (by decide) fun _ _ => rfl
  have filters : dict json 1 query.wherePart.value.tree = .ok query.filters := by
    rw [wherePart, Json.tree, Json.treeMembers_eq_map]
    exact dict_entries (by decide) fun entry mem => json_tree (settled _ (List.mem_map_of_mem mem))
  have order : list OrderEntry.decoder 1 query.orderPart.value.tree = .ok query.order := by
    rw [orderPart, Json.tree, Json.treeElements_eq_map, List.map_map]
    exact list_map (by decide) fun entry _ => entry.decoder_toJson (by decide)
  unfold decoder
  refine (Part.record_toJson (by decide) ?_ query.nodup_parts ?_).trans
    (congrArg Except.ok query.foldl_parts)
  · intro part mem
    have listed := query.mem_parts mem
    simp only [List.mem_cons, List.not_mem_nil, or_false] at listed
    rcases listed with rfl | rfl | rfl | rfl | rfl | rfl
    · exact ⟨_, rfl, rfl, congrArg (Except.map _) object_name⟩
    · exact ⟨_, rfl, rfl, congrArg (Except.map _) select⟩
    · exact ⟨_, rfl, rfl, congrArg (Except.map _) filters⟩
    · exact ⟨_, rfl, rfl, congrArg (Except.map _) order⟩
    · exact ⟨_, rfl, rfl, congrArg (Except.map _) (optional_countJson _ 1)⟩
    · exact ⟨_, rfl, rfl, congrArg (Except.map _) (optional_countJson _ 1)⟩
  · simp [Field.defaulted]

/-- The values that a query's filters are read with are settled. -/
theorem settled_of_decoder {node : JsonNode} {query : Query} (read : decoder 0 node = .ok query) :
    ∀ value ∈ query.filters.values, value.Settled 2 := by
  have kept {β : Type} {name : String} {aliases : List String} {d : Decoder β}
      {set : β → Query → Query} (same : ∀ value query, (set value query).filters = query.filters) :
      (Field.defaulted name aliases d set).Keeps
        (fun query => ∀ value ∈ query.filters.values, value.Settled 2) 1 := by
    intro part change decoded other settled
    obtain ⟨value, _, rfl⟩ := Outcome.map_eq_ok.mp decoded
    rwa [same]
  refine record_keeps (P := fun query => ∀ value ∈ query.filters.values, value.Settled 2) ?_
    (by simp [blank, Dict.values, Dict.empty]) read
  intro field listed
  simp only [List.mem_cons, List.not_mem_nil, or_false] at listed
  rcases listed with rfl | rfl | rfl | rfl | rfl | rfl
  · exact kept fun _ _ => rfl
  · exact kept fun _ _ => rfl
  · intro part change decoded other _
    obtain ⟨filters, found, rfl⟩ := Outcome.map_eq_ok.mp decoded
    exact values_of_dict settled_of_json found
  · exact kept fun _ _ => rfl
  · exact kept fun _ _ => rfl
  · exact kept fun _ _ => rfl

theorem read_eq_ok {text : String} {query : Query} :
    Query.read text = .ok query ↔
      ∃ node, JsonNode.read? text = some node ∧ decoder 0 node = .ok query := by
  rw [Query.read, Decoder.read]
  cases JsonNode.read? text with
  | none => simp
  | some node =>
    cases found : decoder 0 node with
    | error fault => simp [found]
    | ok other => simp [found]

/-- A query that was read is read again from its own text, as long as its filters hold no binary
number. So writing it once more gives the same text. -/
theorem read_write_of_read {text : String} {query : Query} (read : Query.read text = .ok query)
    (whole : ∀ value ∈ query.filters.values, value.IsWhole) :
    Query.read query.write = .ok query := by
  obtain ⟨node, -, decoded⟩ := read_eq_ok.mp read
  refine read_eq_ok.mpr ⟨_, ?_, query.decoder_toJson (settled_of_decoder decoded)⟩
  rw [write_eq]
  exact JsonNode.read?_write (query.isWhole whole)

end Query

namespace Cars

/-- A number, and a list with what it holds as a filter value. -/
def seven : Json := .number (.integer 7 (by decide) (by decide))

def nestedYear (members : List (String × Json)) : Json :=
  .array [.number (.integer (-3) (by decide) (by decide)), .object members]

/-- A request with a repeated name, unsorted members, another name of its order, and entries of it
that are given as an array and with a direction of its own spelling. -/
def nestedJson : Json :=
  .object [("where", .object [("year", seven),
      ("year", nestedYear [("b", .bool true), ("a", .null)])]),
    ("limit", seven), ("from", .string "Car"), ("select", .array [.string "plate", .string "id"]),
    ("order_by", .array [.array [.string "year"],
      .object [("direction", .string "DeSc"), ("field", .string "plate")]]),
    ("offset", seven)]

def nestedText : String :=
  "\x7b\"where\":\x7b\"year\":7,\"year\":[-3,\x7b\"b\":true,\"a\":null\x7d]\x7d,\"limit\":7," ++
    "\"from\":\"Car\",\"select\":[\"plate\",\"id\"],\"order_by\":[[\"year\"]," ++
    "\x7b\"direction\":\"DeSc\",\"field\":\"plate\"\x7d],\"offset\":7\x7d"

def nestedQuery : Query :=
  ⟨some "Car", ["plate", "id"],
    ⟨[("year", nestedYear [("a", .null), ("b", .bool true)])], by decide⟩,
    [⟨"year", none⟩, ⟨"plate", some "DeSc"⟩], some 7, some 7⟩

theorem read_write_nestedQuery :
    Query.read nestedText = .ok nestedQuery ∧ Query.read nestedQuery.write = .ok nestedQuery := by
  have written : nestedJson.write = nestedText := by decide +kernel
  have whole : nestedJson.IsWhole := by
    simp [nestedJson, seven, nestedYear, Json.IsWhole, Json.AreWhole, Json.HasWhole]
  have decoded : Query.decoder 0 nestedJson.tree = .ok nestedQuery := by rfl
  have read : Query.read nestedText = .ok nestedQuery :=
    Query.read_eq_ok.mpr ⟨_, written ▸ JsonNode.read?_write whole, decoded⟩
  refine ⟨read, Query.read_write_of_read read ?_⟩
  simp [nestedQuery, nestedYear, Dict.values, Json.IsWhole, Json.AreWhole, Json.HasWhole]

end Cars
end ObjectQuery
