/-
Skipped entries might as well be absent.

Both policies resolve the same names and differ only in what becomes of the others.  `prune` takes
the other entries out of a query: first the filters and the selected fields, then the entries of the
order, which are looked up among the fields that the remaining selection returns.  Planning the
pruned query strictly is planning the query leniently, and a query that is planned strictly has
nothing to prune.
-/
import ObjectQuery.Proofs.Dict
import ObjectQuery.Proofs.Query.Compilation

namespace ObjectQuery

namespace Query

/-- The query without the entries that name no field. -/
def prune (type : ObjectType) (query : Query) : Query :=
  { query with
    filters := query.filters.keepNames fun name => (type.field? name).isSome
    select := query.select.filter fun name => (type.field? name).isSome
    order := query.effectiveOrder type }

end Query

namespace Plan

variable {α β : Type} {row : Row} {clause : String} {name : α → String}
  {make : α → Nat → Except Error β}

/-! ## One clause -/

/-- The entries of a clause whose names resolve, each made into a part of the plan. -/
def resolveAll (policy : UnknownFields) (row : Row) (clause : String) (name : α → String)
    (make : α → Nat → Except Error β) : List α → Except Error (List β)
  | [] => .ok []
  | entry :: rest => do
    match ← policy.resolve row (name entry) clause with
    | none => resolveAll policy row clause name make rest
    | some position =>
      return (← make entry position) :: (← resolveAll policy row clause name make rest)

theorem filterPredicates_eq_resolveAll (policy : UnknownFields) (entries : List (String × Json)) :
    filterPredicates policy row entries =
      resolveAll policy row "where" Prod.fst
        (fun entry position => do
          return .equals position
            (← Literal.encode entry.2 (row[position]?.bind RowField.type))) entries := by
  induction entries with
  | nil => rfl
  | cons entry rest ih =>
    rw [filterPredicates, resolveAll, ih]
    refine congrArg (policy.resolve row entry.1 "where" >>= ·) (funext fun position => ?_)
    cases position with
    | none => rfl
    | some position =>
      cases encoded : Literal.encode entry.2 (row[position]?.bind RowField.type) with
      | error e => simp only [encoded]; rfl
      | ok literal => simp only [encoded]; rfl

theorem selectPositions_eq_resolveAll (policy : UnknownFields) (fields : List String) :
    selectPositions policy row fields =
      resolveAll policy row "select" id (fun _ position => .ok position) fields := by
  induction fields with
  | nil => rfl
  | cons field rest ih =>
    rw [selectPositions, resolveAll, ih]
    rfl

theorem sortKeys_eq_resolveAll (policy : UnknownFields) (entries : List OrderEntry) :
    sortKeys policy row entries =
      resolveAll policy row "orderBy" OrderEntry.field
        (fun entry position => .ok ⟨position, entry.direction⟩) entries := by
  induction entries with
  | nil => rfl
  | cons entry rest ih =>
    rw [sortKeys, resolveAll, ih]
    rfl

/-- A name that the row knows resolves under every policy. -/
theorem resolve_of_some {policy : UnknownFields} {field : String} {position : Nat}
    (found : row.position? field = some position) :
    policy.resolve row field clause = .ok (some position) := by
  unfold UnknownFields.resolve
  rw [found]

/-- Among the entries that name a field there is nothing to reject, and the others are skipped. -/
theorem resolveAll_filter (entries : List α) :
    resolveAll .reject row clause name make
        (entries.filter fun entry => (row.position? (name entry)).isSome) =
      resolveAll .skip row clause name make entries := by
  induction entries with
  | nil => rfl
  | cons entry rest ih =>
    rw [resolveAll, resolve_skip]
    cases found : row.position? (name entry) with
    | none =>
      rw [List.filter_cons_of_neg (by simp [found]), ih]
      rfl
    | some position =>
      rw [List.filter_cons_of_pos (by simp [found]), resolveAll, resolve_of_some found, ih]

/-- A clause that is not rejected has only entries that name a field. -/
theorem filter_eq_of_resolveAll_reject {entries : List α} {results : List β}
    (resolved : resolveAll .reject row clause name make entries = .ok results) :
    entries.filter (fun entry => (row.position? (name entry)).isSome) = entries := by
  induction entries generalizing results with
  | nil => rfl
  | cons entry rest ih =>
    rw [resolveAll] at resolved
    cases found : row.position? (name entry) with
    | none =>
      unfold UnknownFields.resolve at resolved
      rw [found] at resolved
      cases resolved
    | some position =>
      rw [resolve_of_some found] at resolved
      have resolved : make entry position >>= _ = Except.ok results := resolved
      obtain ⟨_, _, resolved⟩ := Outcome.bind_eq_ok.mp resolved
      obtain ⟨others, further, _⟩ := Outcome.bind_eq_ok.mp resolved
      rw [List.filter_cons_of_pos (by simp [found]), ih further]

/-! ## Whole queries -/

/-- The known fields of an object type are those with a position in its row. -/
theorem isSome_field? (type : ObjectType) (field : String) :
    (type.field? field).isSome = ((Row.canonical type).position? field).isSome := by
  rw [← Row.contains_names, Bool.eq_iff_iff, Row.field?_isSome_iff, List.contains_iff_mem]

theorem filterPredicates_prune (type : ObjectType) (query : Query) :
    filterPredicates .reject (Row.canonical type) (query.prune type).filters.entries =
      filterPredicates .skip (Row.canonical type) query.filters.entries := by
  rw [filterPredicates_eq_resolveAll, filterPredicates_eq_resolveAll, ← resolveAll_filter]
  simp only [Query.prune, Dict.keepNames, isSome_field?]

theorem selectPositions_prune (type : ObjectType) (query : Query) :
    selectPositions .reject (Row.canonical type) (query.prune type).select =
      selectPositions .skip (Row.canonical type) query.select := by
  rw [selectPositions_eq_resolveAll, selectPositions_eq_resolveAll, ← resolveAll_filter]
  simp only [Query.prune, isSome_field?, id]

/-- The order is pruned by the row that it is looked up in. -/
theorem order_prune {type : ObjectType} {query : Query} {row : Row}
    (names : row.names = query.returnedFields type) :
    (query.prune type).order =
      query.order.filter fun entry => (row.position? entry.field).isSome := by
  simp only [Query.prune, Query.effectiveOrder, ← names, Row.contains_names]

theorem sortKeys_prune {type : ObjectType} {query : Query} {row : Row}
    (names : row.names = query.returnedFields type) :
    sortKeys .reject row (query.prune type).order = sortKeys .skip row query.order := by
  rw [sortKeys_eq_resolveAll, sortKeys_eq_resolveAll, ← resolveAll_filter, order_prune names]

end Plan

section

variable {schema : Schema} {query : Query} {name : String} {type : ObjectType}

theorem Plan.ofQuery_of_known {policy : UnknownFields} (named : query.objectType = .ok name)
    (known : schema.objectType? name = some type) :
    Plan.ofQuery schema policy query = do
      let predicates ← filterPredicates policy (Row.canonical type) query.filters.entries
      let positions ← selectPositions policy (Row.canonical type) query.select
      let projected := ((scan type).filtered predicates).projected positions
      let keys ← sortKeys policy projected.row query.order
      return (projected.sorted keys).limited query.limit query.offset := by
  have found : schema.objectType name = .ok type := by rw [Schema.objectType, known]
  rw [ofQuery, named]
  show (schema.objectType name >>= _) = _
  rw [found]
  simp only [bind, Except.bind, row_filtered]
  rfl

/-- Planning strictly without the entries that name no field is planning leniently with them. -/
theorem Plan.ofQuery_reject_prune (named : query.objectType = .ok name)
    (known : schema.objectType? name = some type) :
    Plan.ofQuery schema .reject (query.prune type) = Plan.ofQuery schema .skip query := by
  have pruned_named : (query.prune type).objectType = .ok name := named
  rw [ofQuery_of_known pruned_named known, ofQuery_of_known named known, filterPredicates_prune,
    selectPositions_prune, selectPositions_skip]
  congr 1
  funext predicates
  show (sortKeys .reject _ _ >>= _) = (sortKeys .skip _ _ >>= _)
  rw [sortKeys_prune (Query.names_projected query type predicates)]
  rfl

/-- A query that is planned strictly has nothing to prune. -/
theorem Plan.prune_of_ofQuery_reject {plan : Plan} (named : query.objectType = .ok name)
    (known : schema.objectType? name = some type)
    (planned : Plan.ofQuery schema .reject query = .ok plan) : query.prune type = query := by
  rw [ofQuery_of_known named known] at planned
  obtain ⟨predicates, filters, planned⟩ := Outcome.bind_eq_ok.mp planned
  obtain ⟨positions, selected, planned⟩ := Outcome.bind_eq_ok.mp planned
  obtain ⟨keys, sorted, _⟩ := Outcome.bind_eq_ok.mp planned
  rw [filterPredicates_eq_resolveAll] at filters
  rw [sortKeys_eq_resolveAll] at sorted
  have filters_kept := filter_eq_of_resolveAll_reject filters
  have select_kept : (query.prune type).select = query.select := by
    rw [selectPositions_eq_resolveAll] at selected
    simpa only [Query.prune, isSome_field?, id] using filter_eq_of_resolveAll_reject selected
  have positions_eq : positions = query.select.filterMap (Row.canonical type).position? := by
    have skipped := selectPositions_prune type query
    rw [select_kept, selected, selectPositions_skip] at skipped
    exact Except.ok.inj skipped
  have order_kept : (query.prune type).order = query.order := by
    rw [order_prune (positions_eq ▸ Query.names_projected query type predicates)]
    exact filter_eq_of_resolveAll_reject sorted
  obtain ⟨objectName, select, filters, order, limit, offset⟩ := query
  simp only [Query.prune, Dict.keepNames, isSome_field?] at *
  simp only [filters_kept, select_kept, order_kept]

/-- Skipping unknown fields is not having asked for them: the pruned query is planned strictly as
the whole one is leniently, and a query is planned strictly exactly when there is nothing to prune
and it is planned leniently, with the same plan; otherwise it is invalid. -/
theorem Query.ofQuery_prune (named : query.objectType = .ok name)
    (known : schema.objectType? name = some type) :
    Plan.ofQuery schema .reject (query.prune type) = Plan.ofQuery schema .skip query ∧
      (∀ plan, Plan.ofQuery schema .reject query = .ok plan ↔
        query.prune type = query ∧ Plan.ofQuery schema .skip query = .ok plan) ∧
      ∀ e, Plan.ofQuery schema .reject query = .error e → e.IsInvalidQuery := by
  have pruned := Plan.ofQuery_reject_prune named known
  refine ⟨pruned, fun plan => ⟨fun planned => ?_, ?_⟩, fun e failed => ?_⟩
  · have nothing := Plan.prune_of_ofQuery_reject named known planned
    rw [← pruned, nothing]
    exact ⟨rfl, planned⟩
  · rintro ⟨nothing, planned⟩
    rwa [← pruned, nothing] at planned
  · rcases Plan.ofQuery_eq_error failed with ⟨unknown, _⟩ | ⟨_, invalid⟩
    · obtain ⟨other, same, missing⟩ := Query.isUnknown_iff.mp unknown
      rw [named, Except.ok.injEq] at same
      rw [← same, known] at missing
      contradiction
    · exact invalid

end

namespace Cars

/-- Without its unknown fields, the query still repeats a field and names one without a column. -/
def prunedQuery : Query :=
  ⟨some "Car", ["year", "id", "note", "year"], ⟨[("plate", .null)], by decide⟩,
    [⟨"year", some "desc"⟩], some 2, some 1⟩

theorem ofQuery_prunedQuery :
    query.objectType = .ok "Car" ∧ schema.objectType? "Car" = some car ∧
      query.prune car = prunedQuery ∧ Plan.ofQuery schema .reject prunedQuery = .ok plan ∧
      ∃ e, Plan.ofQuery schema .reject query = .error e ∧ e.IsInvalidQuery := by
  have named : query.objectType = .ok "Car" := rfl
  have known : schema.objectType? "Car" = some car := rfl
  have pruned : query.prune car = prunedQuery := by rfl
  obtain ⟨same, strictly, invalid⟩ := Query.ofQuery_prune named known
  have planned : Plan.ofQuery schema .skip query = .ok plan := by cbv
  rw [pruned, planned] at same
  refine ⟨named, known, pruned, same, ?_⟩
  cases rejected : Plan.ofQuery schema .reject query with
  | error e => exact ⟨e, rfl, invalid e rejected⟩
  | ok found =>
    have whole := ((strictly found).mp rejected).1
    rw [pruned] at whole
    have fewer := congrArg (fun q : Query => q.select.length) whole
    contradiction

end Cars
end ObjectQuery
