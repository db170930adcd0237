/-
How planning resolves the names of a query.

With unknown fields skipped, a name resolves to the first field of that name in the row
it is looked up in, and entries without one are left out.  `ofQuery_eq_ok` takes a plan
apart into what each clause of the query contributed, and `ofQuery_eq_error` says why there
is none.
-/
import ObjectQuery.Plan.Planner
import ObjectQuery.Proofs.Outcome
import ObjectQuery.Proofs.Plan.Provenance
import ObjectQuery.Proofs.Query.Meaning

namespace ObjectQuery

/-! ## Fields of the canonical row -/

namespace Row

theorem position?_canonical (type : ObjectType) (name : String) :
    (canonical type).position? name = type.position? name := by
  rw [position?, ObjectType.position?, canonical, List.findIdx?_map]
  rw [show ((fun field : RowField => field.name == name) ∘
      fun (entry : Field × Nat) => (⟨entry.1.name, entry.1.type, entry.2⟩ : RowField)) =
      (fun field : Field => field.name == name) ∘ Prod.fst from rfl,
    ← List.findIdx?_map, List.zipIdx_map_fst]

/-- A name that the canonical row knows is the name of a field. -/
theorem field?_of_position? {type : ObjectType} {name : String} {position : Nat}
    (h : (canonical type).position? name = some position) :
    ∃ field, type.field? name = some field ∧ field.name = name ∧
      (canonical type)[position]? = some ⟨field.name, field.type, position⟩ := by
  rw [position?_canonical, ObjectType.position?] at h
  obtain ⟨bound, found, first⟩ := List.findIdx?_eq_some_iff_getElem.mp h
  refine ⟨type.fields[position], ?_, by simpa using found, ?_⟩
  · rw [ObjectType.field?, List.find?_eq_some_iff_getElem]
    exact ⟨found, position, bound, rfl, fun j before => by simpa using first j before⟩
  · rw [getElem?_canonical, List.getElem?_eq_getElem bound]
    rfl

theorem field?_isSome_iff {type : ObjectType} {name : String} :
    (type.field? name).isSome ↔ name ∈ (canonical type).names := by
  rw [names_canonical, ObjectType.field?, List.find?_isSome]
  simp only [beq_iff_eq, List.mem_map]

theorem field?_eq_none {type : ObjectType} {name : String}
    (h : (canonical type).position? name = none) : type.field? name = none := by
  rw [position?_eq_none_iff, ← field?_isSome_iff] at h
  simpa using h

end Row

namespace Plan

theorem resolve_skip (row : Row) (field clause : String) :
    UnknownFields.skip.resolve row field clause = .ok (row.position? field) := by
  unfold UnknownFields.resolve
  cases row.position? field <;> rfl

theorem selectPositions_skip (row : Row) (fields : List String) :
    selectPositions .skip row fields = .ok (fields.filterMap row.position?) := by
  induction fields with
  | nil => rfl
  | cons field rest ih =>
    simp only [selectPositions, resolve_skip, bind, Except.bind, ih]
    cases found : row.position? field with
    | none => simp [List.filterMap_cons_none found]
    | some position => simp [List.filterMap_cons_some found, pure, Except.pure]

theorem sortKeys_skip (row : Row) (entries : List OrderEntry) :
    sortKeys .skip row entries = .ok (entries.filterMap fun entry =>
      (row.position? entry.field).map fun position => ⟨position, entry.direction⟩) := by
  induction entries with
  | nil => rfl
  | cons entry rest ih =>
    simp only [sortKeys, resolve_skip, bind, Except.bind, ih, List.filterMap_cons]
    cases row.position? entry.field <;> rfl

theorem resolve_eq_some {policy : UnknownFields} {row : Row} {field clause : String}
    {position : Nat} (resolved : policy.resolve row field clause = .ok (some position)) :
    row.position? field = some position := by
  unfold UnknownFields.resolve at resolved
  split at resolved
  · next found =>
    rw [Except.ok.injEq] at resolved
    rw [found, resolved]
  · cases policy <;> cases resolved

/-- Each equality of a plan's filter is made from an entry of the query. -/
theorem of_mem_filterPredicates {policy : UnknownFields} {row : Row}
    {entries : List (String × Json)} {predicates : List Predicate}
    (planned : filterPredicates policy row entries = .ok predicates) :
    ∀ equality ∈ Predicate.equalitiesOfAll predicates, ∃ entry ∈ entries,
      row.position? entry.1 = some equality.1 ∧
        Literal.encode entry.2 (row[equality.1]?.bind RowField.type) = .ok equality.2 := by
  induction entries generalizing predicates with
  | nil =>
    simp only [filterPredicates, Except.ok.injEq] at planned
    simp [← planned, Predicate.equalitiesOfAll]
  | cons entry rest ih =>
    obtain ⟨field, value⟩ := entry
    rw [filterPredicates, Outcome.bind_eq_ok] at planned
    obtain ⟨resolved, found, planned⟩ := planned
    cases resolved with
    | none => exact fun equality mem => (ih planned equality mem).imp fun _ => .imp_left (.tail _)
    | some position =>
      simp only [Outcome.bind_eq_ok, Outcome.pure_eq_ok] at planned
      obtain ⟨literal, encoded, others, further, rfl⟩ := planned
      rw [Predicate.equalitiesOfAll, Predicate.equalities, List.singleton_append,
        List.forall_mem_cons]
      refine ⟨⟨_, .head _, resolve_eq_some found, encoded⟩, fun equality mem => ?_⟩
      exact (ih further equality mem).imp fun _ => .imp_left (.tail _)

/-- Each key of a plan's sort is made from an entry of the query. -/
theorem of_mem_sortKeys {policy : UnknownFields} {row : Row} {entries : List OrderEntry}
    {keys : List SortKey} (planned : sortKeys policy row entries = .ok keys) :
    ∀ key ∈ keys, ∃ entry ∈ entries,
      row.position? entry.field = some key.position ∧ key.direction = entry.direction := by
  induction entries generalizing keys with
  | nil =>
    simp only [sortKeys, Except.ok.injEq] at planned
    simp [← planned]
  | cons entry rest ih =>
    rw [sortKeys, Outcome.bind_eq_ok] at planned
    obtain ⟨resolved, found, planned⟩ := planned
    cases resolved with
    | none => exact fun key mem => (ih planned key mem).imp fun _ => .imp_left (.tail _)
    | some position =>
      simp only [Outcome.bind_eq_ok, Outcome.pure_eq_ok] at planned
      obtain ⟨others, further, rfl⟩ := planned
      rw [List.forall_mem_cons]
      refine ⟨⟨_, .head _, resolve_eq_some found, rfl⟩, fun key mem => ?_⟩
      exact (ih further key mem).imp fun _ => .imp_left (.tail _)

/-! ## The operators that planning adds -/

theorem equalities_conjunction? {predicates : List Predicate} {condition : Predicate}
    (joined : Predicate.conjunction? predicates = some condition) :
    condition.equalities = Predicate.equalitiesOfAll predicates := by
  match predicates with
  | [] => contradiction
  | [operand] =>
    simp only [Predicate.conjunction?, Option.some.injEq] at joined
    simp [Predicate.equalitiesOfAll, joined]
  | first :: second :: rest =>
    simp only [Predicate.conjunction?, Option.some.injEq] at joined
    rw [← joined, Predicate.equalities]

theorem row_filtered (plan : Plan) (predicates : List Predicate) :
    (plan.filtered predicates).row = plan.row := by
  unfold filtered
  split <;> rfl

theorem row_projected (plan : Plan) (positions : List Nat) :
    (plan.projected positions).row =
      if positions.isEmpty then plan.row
      else plan.row.select (positions.filter (· < plan.row.length)) := by
  unfold projected
  split <;> rfl

theorem objectType_filtered (plan : Plan) (predicates : List Predicate) :
    (plan.filtered predicates).objectType = plan.objectType := by
  unfold filtered
  split <;> rfl

theorem objectType_projected (plan : Plan) (positions : List Nat) :
    (plan.projected positions).objectType = plan.objectType := by
  unfold projected
  split <;> rfl

theorem objectType_sorted (plan : Plan) (keys : List SortKey) :
    (plan.sorted keys).objectType = plan.objectType := by
  unfold sorted
  split <;> rfl

theorem objectType_limited (plan : Plan) (count offset : Option Int64) :
    (plan.limited count offset).objectType = plan.objectType := by
  unfold limited
  split
  · split <;> rfl
  · rfl

/-- A plan, taken apart into what each clause of the query contributed. -/
theorem ofQuery_eq_ok {schema : Schema} {policy : UnknownFields} {query : Query} {plan : Plan}
    (planned : ofQuery schema policy query = .ok plan) :
    ∃ name type predicates positions keys,
      query.objectType = .ok name ∧ schema.objectType? name = some type ∧
      filterPredicates policy (Row.canonical type) query.filters.entries = .ok predicates ∧
      selectPositions policy (Row.canonical type) query.select = .ok positions ∧
      sortKeys policy (((scan type).filtered predicates).projected positions).row query.order =
        .ok keys ∧
      plan = ((((scan type).filtered predicates).projected positions).sorted keys).limited
        query.limit query.offset := by
  simp only [ofQuery, Outcome.bind_eq_ok, Outcome.pure_eq_ok] at planned
  obtain ⟨name, named, type, found, predicates, filters, positions, selected, keys, sorted,
    made⟩ := planned
  rw [row_filtered] at selected
  refine ⟨name, type, predicates, positions, keys, named, ?_, filters, selected, sorted, made.symm⟩
  unfold Schema.objectType at found
  split at found
  · next present =>
    rw [Except.ok.injEq] at found
    rw [present, found]
  · cases found

/-- A planned query scans the object type that it names. -/
theorem objectType_ofQuery {schema : Schema} {policy : UnknownFields} {query : Query} {plan : Plan}
    (planned : ofQuery schema policy query = .ok plan) :
    ∃ name, query.objectType = .ok name ∧ schema.objectType? name = some plan.objectType := by
  obtain ⟨name, type, _, _, _, named, found, _, _, _, rfl⟩ := ofQuery_eq_ok planned
  refine ⟨name, named, ?_⟩
  rw [objectType_limited, objectType_sorted, objectType_projected, objectType_filtered]
  exact found

end Plan

/-! ## Queries that cannot be planned -/

/-- Whether an error says that a query is invalid. -/
def Error.IsInvalidQuery (e : Error) : Prop := ∃ text, e = .invalidQuery text

/-- Whether a query names an object type that the schema does not have. -/
def Query.IsUnknown (query : Query) (schema : Schema) : Prop :=
  ∃ name, query.objectName = some name ∧ Text.blank name = false ∧ schema.objectType? name = none

theorem Query.objectType_eq_ok_iff {query : Query} {name : String} :
    query.objectType = .ok name ↔ query.objectName = some name ∧ Text.blank name = false := by
  unfold objectType
  cases query.objectName with
  | none => simp
  | some given =>
    simp only [Option.some.injEq]
    by_cases empty : Text.blank given = true
    · rw [if_pos empty]
      constructor
      · intro same
        cases same
      · rintro ⟨rfl, named⟩
        rw [empty] at named
        cases named
    · rw [if_neg empty, Except.ok.injEq]
      constructor
      · rintro rfl
        exact ⟨rfl, Bool.eq_false_iff.mpr empty⟩
      · exact And.left

theorem Query.isUnknown_iff {query : Query} {schema : Schema} :
    query.IsUnknown schema ↔
      ∃ name, query.objectType = .ok name ∧ schema.objectType? name = none := by
  simp only [IsUnknown, objectType_eq_ok_iff, and_assoc]

namespace Plan

open Outcome

variable {policy : UnknownFields} {row : Row}

theorem resolve_failsWith (field clause : String) :
    FailsWith Error.IsInvalidQuery (policy.resolve row field clause) := by
  unfold UnknownFields.resolve
  split
  · exact .ok _
  · cases policy with
    | skip => exact .ok _
    | reject => exact .error ⟨_, rfl⟩

theorem encode_failsWith (value : Json) (type : Option FieldType) :
    FailsWith Error.IsInvalidQuery (Literal.encode value type) := by
  unfold Literal.encode
  split
  · cases type with
    | none => exact .ok _
    | some type => exact .ok _
  · exact .error ⟨_, rfl⟩

theorem filterPredicates_failsWith (entries : List (String × Json)) :
    FailsWith Error.IsInvalidQuery (filterPredicates policy row entries) := by
  induction entries with
  | nil => exact .ok _
  | cons entry rest ih =>
    refine (resolve_failsWith _ _).bind fun resolved => ?_
    cases resolved with
    | none => exact ih
    | some position => exact (encode_failsWith _ _).bind fun _ => ih.bind fun _ => .ok _

theorem selectPositions_failsWith (fields : List String) :
    FailsWith Error.IsInvalidQuery (selectPositions policy row fields) := by
  induction fields with
  | nil => exact .ok _
  | cons field rest ih =>
    refine (resolve_failsWith _ _).bind fun resolved => ?_
    cases resolved with
    | none => exact ih
    | some position => exact ih.bind fun _ => .ok _

theorem sortKeys_failsWith (entries : List OrderEntry) :
    FailsWith Error.IsInvalidQuery (sortKeys policy row entries) := by
  induction entries with
  | nil => exact .ok _
  | cons entry rest ih =>
    refine (resolve_failsWith _ _).bind fun resolved => ?_
    cases resolved with
    | none => exact ih
    | some position => exact ih.bind fun _ => .ok _

/-- A query cannot be planned because its object type is unknown, or else because it is invalid. -/
theorem ofQuery_eq_error {schema : Schema} {query : Query} {e : Error}
    (failed : ofQuery schema policy query = .error e) :
    (query.IsUnknown schema ∧ ∃ name, e = .ofFault (.notFound name)) ∨
      (¬query.IsUnknown schema ∧ e.IsInvalidQuery) := by
  rw [Query.isUnknown_iff]
  cases named : query.objectType with
  | error reason =>
    have invalid : reason.IsInvalidQuery := by
      unfold Query.objectType at named
      split at named
      · split at named
        · exact ⟨_, (Except.error.inj named).symm⟩
        · cases named
      · exact ⟨_, (Except.error.inj named).symm⟩
    rw [ofQuery, named] at failed
    rw [← Except.error.inj (show Except.error reason = .error e from failed)]
    exact .inr ⟨by simp, invalid⟩
  | ok name =>
    rw [ofQuery, named] at failed
    cases known : schema.objectType? name with
    | none =>
      have missing : schema.objectType name = .error (.ofFault (.notFound name)) := by
        rw [Schema.objectType, known]
      have failed : (schema.objectType name >>= _) = Except.error e := failed
      rw [missing] at failed
      exact .inl ⟨⟨name, rfl, known⟩, name, (Except.error.inj failed).symm⟩
    | some type =>
      have found : schema.objectType name = .ok type := by rw [Schema.objectType, known]
      have failed : (schema.objectType name >>= _) = Except.error e := failed
      rw [found] at failed
      refine .inr ⟨?_, ?_⟩
      · rintro ⟨other, same, unknown⟩
        rw [← Except.ok.inj same, known] at unknown
        cases unknown
      · refine FailsWith.bind (filterPredicates_failsWith _) (fun predicates => ?_) e failed
        refine (selectPositions_failsWith _).bind fun positions => ?_
        exact (sortKeys_failsWith _).bind fun keys => .ok _

end Plan
end ObjectQuery
