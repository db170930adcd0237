/-
Compilation preserves the meaning of queries.

The statement that planning and lowering make of a query returns exactly the rows that
answer the query, on every database.  Each operator of the plan accounts for one clause:
its statement has the clause's contribution and keeps the rest of the statement below.
-/
import Mathlib
import ObjectQuery.Proofs.Plan.Resolution
import ObjectQuery.Proofs.Schema.Serving
import ObjectQuery.Proofs.Sql.Columns

namespace ObjectQuery
namespace Sql
namespace Lowering

variable {α : Type} {l : Lowering} {identifierCase : IdentifierCase}

/-! ## Filters -/

/-- Under physical names, a record's cells are those of the statement's columns. -/
theorem record_eq (physical : l.naming = .physical identifierCase) (row : String → α)
    (field : String) :
    l.mapping.record identifierCase row field =
      (l.columnOf? field).map fun column => row column.name := by
  rw [Mapping.record, columnOf?, Option.map_map]
  simp [Function.comp_def, identifier, physical]

theorem record_of_fieldColumn (physical : l.naming = .physical identifierCase)
    (sound : l.type.Sound) {row : Row} (traces : row.Traces l.type) {position : Nat}
    {field : RowField} {name : String} (found : row[position]? = some field)
    (lowered : l.fieldColumn row position = .ok name) (cells : String → α) :
    l.mapping.record identifierCase cells field.name = some (cells name) := by
  obtain ⟨column, carried, rfl⟩ := fieldColumn_eq_ok sound traces found lowered
  rw [record_eq physical, carried]
  rfl

/-- The lowered filters hold on a row exactly when its record passes the query's filters. -/
theorem allHold_conditions (physical : l.naming = .physical identifierCase)
    (sound : l.type.Sound) (cells : Cells α) (row : String → α) :
    ∀ {filters : List (String × Json)} {predicates : List Predicate}
      {conditions : List Condition},
      Plan.filterPredicates .skip (Row.canonical l.type) filters = .ok predicates →
      l.conditions (Row.canonical l.type) predicates = .ok conditions →
      Condition.allHold cells row conditions =
        filters.all (Query.passes l.type cells (l.mapping.record identifierCase row)) := by
  intro filters
  induction filters with
  | nil =>
    intro predicates conditions planned lowered
    simp only [Plan.filterPredicates, Except.ok.injEq] at planned
    subst planned
    simp only [Lowering.conditions, Except.ok.injEq] at lowered
    subst lowered
    rfl
  | cons filter rest ih =>
    intro predicates conditions planned lowered
    obtain ⟨name, value⟩ := filter
    rw [Plan.filterPredicates, Plan.resolve_skip] at planned
    cases resolved : (Row.canonical l.type).position? name with
    | none =>
      simp only [resolved, bind, Except.bind] at planned
      rw [List.all_cons, ← ih planned lowered, Query.passes, Row.field?_eq_none resolved]
      rfl
    | some position =>
      obtain ⟨field, known, named, found⟩ := Row.field?_of_position? resolved
      simp only [resolved, Outcome.bind_eq_ok, Outcome.pure_eq_ok, Except.ok.injEq,
        exists_eq_left', found, Option.bind_some] at planned
      obtain ⟨literal, encoded, others, planned, rfl⟩ := planned
      simp only [Lowering.conditions, condition, Outcome.bind_eq_ok, Outcome.pure_eq_ok] at lowered
      obtain ⟨_, ⟨column, lowered, rfl⟩, conditions, rest_lowered, rfl⟩ := lowered
      have cell := record_of_fieldColumn physical sound (Row.canonical_traces l.type) found
        lowered row
      rw [List.all_cons, ← ih planned rest_lowered, Query.passes, known]
      simp only [encoded, cell]
      rfl

/-! ## The clauses of a statement -/

theorem select_filtered {predicates : List Predicate} {statement : Select}
    (lowered : l.select ((Plan.scan l.type).filtered predicates) = .ok statement) :
    statement.columns = l.allColumns ∧ statement.table = l.table ∧ statement.order = [] ∧
      statement.window = none ∧
      ∃ conditions, l.conditions (Row.canonical l.type) predicates = .ok conditions ∧
        ∀ {α : Type} (cells : Cells α) (row : String → α),
          statement.keeps cells row = Condition.allHold cells row conditions := by
  match predicates, lowered with
  | [], lowered =>
    simp only [Plan.filtered, Predicate.conjunction?, select, Except.ok.injEq] at lowered
    subst lowered
    exact ⟨rfl, rfl, rfl, rfl, [], rfl, fun _ _ => rfl⟩
  | [predicate], lowered =>
    simp only [Plan.filtered, Predicate.conjunction?, select, Outcome.bind_eq_ok,
      Outcome.pure_eq_ok, Except.ok.injEq, exists_eq_left'] at lowered
    obtain ⟨condition, made, rfl⟩ := lowered
    refine ⟨rfl, rfl, rfl, rfl, [condition], ?_, fun cells row => ?_⟩
    · simp only [conditions, Outcome.bind_eq_ok, Outcome.pure_eq_ok]
      exact ⟨condition, made, [], rfl, rfl⟩
    · simp [Select.keeps, Condition.allHold]
  | first :: second :: rest, lowered =>
    simp only [Plan.filtered, Predicate.conjunction?, select, condition, Outcome.bind_eq_ok,
      Outcome.pure_eq_ok, Except.ok.injEq, exists_eq_left'] at lowered
    obtain ⟨_, ⟨conditions, made, rfl⟩, rfl⟩ := lowered
    exact ⟨rfl, rfl, rfl, rfl, conditions, made, fun cells row => by
      simp [Select.keeps, Condition.holds]⟩

theorem select_projected (sound : l.type.Sound) {plan : Plan} {positions : List Nat}
    {statement : Select} (traces : plan.row.Traces l.type)
    (lowered : l.select (plan.projected positions) = .ok statement) :
    ∃ base, l.select plan = .ok base ∧
      (base.columns = plan.row.names.filterMap l.columnOf? →
        statement =
          { base with columns := (plan.projected positions).row.names.filterMap l.columnOf? }) := by
  cases positions with
  | nil =>
    refine ⟨statement, lowered, fun columns => ?_⟩
    rw [Plan.row_projected, List.isEmpty_nil, if_pos rfl, ← columns]
  | cons position rest =>
    simp only [Plan.projected, List.isEmpty_cons, Bool.false_eq_true, if_false, Plan.projecting,
      select, Outcome.bind_eq_ok, Outcome.pure_eq_ok] at lowered
    obtain ⟨base, below, columns, selected, rfl⟩ := lowered
    refine ⟨base, below, fun _ => ?_⟩
    rw [projectedColumns, filterMap_column? sound (traces.select _)] at selected
    split at selected
    · cases selected
    · rw [Except.ok.injEq] at selected
      rw [← selected]
      rfl

theorem select_sorted {plan : Plan} {keys : List SortKey} {statement : Select}
    (lowered : l.select (plan.sorted keys) = .ok statement) :
    ∃ base order, l.select plan = .ok base ∧ l.orderTerms plan.row keys = .ok order ∧
      (base.order = [] → statement = { base with order := order }) := by
  cases keys with
  | nil =>
    refine ⟨statement, [], lowered, rfl, fun unordered => ?_⟩
    rw [← unordered]
  | cons key rest =>
    simp only [Plan.sorted, List.isEmpty_cons, Bool.false_eq_true, if_false, select,
      Outcome.bind_eq_ok, Outcome.pure_eq_ok] at lowered
    obtain ⟨base, below, order, sorted, rfl⟩ := lowered
    exact ⟨base, order, below, sorted, fun _ => rfl⟩

def queryWindow (query : Query) : Option Window :=
  match query.limit with
  | none => none
  | some count =>
    if 0 < count.toInt then
      some ⟨count.toInt.toNat, (query.offset.map fun skipped => skipped.toInt.toNat).getD 0⟩
    else none

theorem withinLimit_eq {β : Type} (query : Query) (rows : List β) :
    query.withinLimit rows = Window.of (queryWindow query) rows := by
  unfold Query.withinLimit queryWindow
  cases query.limit with
  | none => rfl
  | some count =>
    by_cases positive : 0 < count.toInt
    · simp only [positive, if_true, Window.of]
    · simp only [positive, if_false, Window.of]

theorem select_limited {plan : Plan} {query : Query} {statement : Select}
    (lowered : l.select (plan.limited query.limit query.offset) = .ok statement) :
    ∃ base, l.select plan = .ok base ∧
      (base.window = none → statement = { base with window := queryWindow query }) := by
  unfold Plan.limited at lowered
  unfold queryWindow
  cases limit : query.limit with
  | none =>
    rw [limit] at lowered
    exact ⟨statement, lowered, fun unlimited => by rw [← unlimited]⟩
  | some count =>
    simp only [limit] at lowered
    by_cases positive : 0 < count.toInt
    · simp only [positive, if_true, select, Outcome.bind_eq_ok, Outcome.pure_eq_ok] at lowered ⊢
      obtain ⟨base, below, rfl⟩ := lowered
      exact ⟨base, below, fun _ => rfl⟩
    · simp only [positive, if_false] at lowered ⊢
      exact ⟨statement, lowered, fun unlimited => by rw [← unlimited]⟩

/-- The lowered order compares rows as the query's order compares their records. -/
theorem rowOrder_orderTerms (physical : l.naming = .physical identifierCase)
    (sound : l.type.Sound) {row : Row} (traces : row.Traces l.type) (cells : Cells α)
    (a b : String → α) :
    ∀ {entries : List OrderEntry} {order : List OrderTerm},
      l.orderTerms row (entries.filterMap fun entry =>
        (row.position? entry.field).map fun position => ⟨position, entry.direction⟩) = .ok order →
      rowOrder cells order a b =
        lexicographic ((entries.filter fun entry => row.names.contains entry.field).map
          fun entry (x y : Record α) =>
            entry.direction.orient cells.leOption (x entry.field) (y entry.field))
          (l.mapping.record identifierCase a) (l.mapping.record identifierCase b) := by
  intro entries
  induction entries with
  | nil =>
    intro order lowered
    simp only [List.filterMap_nil, orderTerms, List.mapM_nil, Outcome.pure_eq_ok] at lowered
    subst lowered
    rfl
  | cons entry rest ih =>
    intro order lowered
    cases resolved : row.position? entry.field with
    | none =>
      rw [List.filterMap_cons_none (by rw [resolved]; rfl)] at lowered
      simp only [List.filter_cons, Row.contains_names, resolved, Option.isSome_none,
        Bool.false_eq_true, if_false]
      simpa only [Row.contains_names] using ih lowered
    | some position =>
      rw [List.filterMap_cons_some (b := ⟨position, entry.direction⟩) (by rw [resolved]; rfl)]
        at lowered
      simp only [orderTerms, List.mapM_cons, Outcome.bind_eq_ok, Outcome.pure_eq_ok] at lowered
      obtain ⟨term, ⟨column, lowered, rfl⟩, others, lowered_rest, rfl⟩ := lowered
      obtain ⟨field, found, named⟩ := Row.position?_eq_some resolved
      have cell := record_of_fieldColumn physical sound traces found lowered (α := α)
      rw [named] at cell
      have later := ih lowered_rest
      simp only [rowOrder, Row.contains_names] at later
      simp only [rowOrder, List.filter_cons, Row.contains_names, resolved, Option.isSome_some,
        if_true, List.map_cons, lexicographic, later, cell]
      cases entry.direction <;> rfl

end Lowering
end Sql

namespace Query

theorem names_select_position? {row : Row} (fields : List String) :
    (row.select (fields.filterMap row.position?)).names =
      fields.filter fun name => row.names.contains name := by
  induction fields with
  | nil => rfl
  | cons name rest ih =>
    simp only [Row.contains_names] at ih ⊢
    cases resolved : row.position? name with
    | none =>
      rw [List.filterMap_cons_none resolved, List.filter_cons_of_neg (by simp [resolved]), ih]
    | some position =>
      obtain ⟨field, found, named⟩ := Row.position?_eq_some resolved
      rw [List.filterMap_cons_some resolved, List.filter_cons_of_pos (by simp [resolved]), ← ih]
      simp [Row.select, Row.names, found, named]

/-- The row after projection has the fields that the query returns. -/
theorem names_projected (query : Query) (type : ObjectType) (predicates : List Predicate) :
    (((Plan.scan type).filtered predicates).projected
      (query.select.filterMap (Row.canonical type).position?)).row.names =
      query.returnedFields type := by
  have selected : (query.select.filter fun name => (type.field? name).isSome) =
      query.select.filter fun name => (Row.canonical type).names.contains name := by
    refine List.filter_congr fun name _ => ?_
    rw [Bool.eq_iff_iff, Row.field?_isSome_iff, List.contains_iff_mem]
  have within : (query.select.filterMap (Row.canonical type).position?).filter
      (· < (Row.canonical type).length) =
      query.select.filterMap (Row.canonical type).position? := by
    refine List.filter_eq_self.mpr fun position mem => ?_
    obtain ⟨name, _, resolved⟩ := List.mem_filterMap.mp mem
    simpa using Row.position?_lt resolved
  have empty : (query.select.filterMap (Row.canonical type).position?).isEmpty =
      (query.select.filter fun name => (Row.canonical type).names.contains name).isEmpty := by
    rw [Bool.eq_iff_iff, List.isEmpty_iff, List.isEmpty_iff, List.filterMap_eq_nil_iff,
      List.filter_eq_nil_iff]
    simp only [Row.contains_names, Option.not_isSome_iff_eq_none]
  rw [Plan.row_projected, Plan.row_filtered, returnedFields, selected, empty]
  show (if _ then Row.canonical type else (Row.canonical type).select _).names = _
  split
  · exact Row.names_canonical type
  · show ((Row.canonical type).select (List.filter _ _)).names = _
    rw [show (Plan.scan type).row = Row.canonical type from rfl, within,
      names_select_position? query.select]

end Query

/-! ## The statement of a query -/

open Sql Sql.Lowering

section

variable {identifierCase : IdentifierCase} {mapping : Mapping} {statement : Select} {query : Query}

/-- A statement that does to rows what a query does to their records. -/
structure Implements (statement : Select) (query : Query) (type : ObjectType) (mapping : Mapping)
    (identifierCase : IdentifierCase) : Prop where
  table : statement.table = identifierCase.apply mapping.table
  keeps : ∀ {α : Type} (cells : Cells α) row,
    statement.keeps cells row = query.keeps type cells (mapping.record identifierCase row)
  order : ∀ {α : Type} (cells : Cells α) a b,
    rowOrder cells statement.order a b =
      query.recordOrder type cells (mapping.record identifierCase a)
        (mapping.record identifierCase b)
  window : statement.window = queryWindow query
  columns : ∀ {α : Type} (row : String → α),
    (statement.columns.map fun column => row column.name) =
      (query.returnedFields type).filterMap (mapping.record identifierCase row)

/-- Planning and lowering make a statement that implements the query. -/
theorem implements_of_select {type : ObjectType} (sound : type.Sound)
    {predicates : List Predicate} {positions : List Nat} {keys : List SortKey}
    (filters : Plan.filterPredicates .skip (Row.canonical type) query.filters.entries =
      .ok predicates)
    (selected : Plan.selectPositions .skip (Row.canonical type) query.select = .ok positions)
    (sorted : Plan.sortKeys .skip
      (((Plan.scan type).filtered predicates).projected positions).row query.order = .ok keys)
    (lowered : Lowering.select ⟨type, mapping, .physical identifierCase⟩
      (((((Plan.scan type).filtered predicates).projected positions).sorted keys).limited
        query.limit query.offset) = .ok statement) :
    Implements statement query type mapping identifierCase := by
  rw [Plan.selectPositions_skip, Except.ok.injEq] at selected
  rw [Plan.sortKeys_skip, Except.ok.injEq] at sorted
  subst selected sorted
  have names := Query.names_projected query type predicates
  have traces := Plan.row_traces (((Plan.scan type).filtered predicates).projected
    (query.select.filterMap (Row.canonical type).position?))
  rw [Plan.objectType_projected, Plan.objectType_filtered] at traces
  obtain ⟨ordered, lowered, limited⟩ := select_limited lowered
  obtain ⟨projected, order, lowered, ordering, sorted⟩ := select_sorted lowered
  obtain ⟨filtered, lowered, projecting⟩ := select_projected sound
    (by rw [Plan.row_filtered]; exact Row.canonical_traces type) lowered
  obtain ⟨columns, table, unordered, unlimited, conditions, conditioned, keeps⟩ :=
    select_filtered lowered
  have made := projecting (by
    rw [columns, allColumns_eq sound, Plan.row_filtered]
    rfl)
  have ordered_made := sorted (by rw [made]; exact unordered)
  have statement_made := limited (by rw [ordered_made, made]; exact unlimited)
  rw [statement_made, ordered_made, made]
  refine ⟨table, fun cells row => ?_, fun cells a b => ?_, rfl, fun row => ?_⟩
  · show filtered.keeps cells row = _
    rw [keeps, allHold_conditions rfl sound cells row filters conditioned]
    rfl
  · show rowOrder cells order a b = _
    rw [rowOrder_orderTerms rfl sound traces cells a b ordering, names]
    rfl
  · show List.map _ (List.filterMap _ _) = _
    rw [names, List.map_filterMap]
    refine List.filterMap_congr fun field _ => ?_
    rw [record_eq (l := ⟨type, mapping, .physical identifierCase⟩) rfl]

/-- A statement that implements a query returns the rows that answer the query. -/
theorem Implements.answers_iff {type : ObjectType}
    (implements : Implements statement query type mapping identifierCase) {α : Type}
    (cells : Cells α) (database : Database α) (answer : List (List α)) :
    query.Answers type cells
        ((database (identifierCase.apply mapping.table)).map (mapping.record identifierCase))
        answer ↔
      answer = statement.evaluate cells database := by
  have kept : ((database statement.table).map (mapping.record identifierCase)).filter
        (query.keeps type cells) =
      ((database statement.table).filter (statement.keeps cells)).map
        (mapping.record identifierCase) := by
    rw [List.filter_map]
    congr 1
    exact List.filter_congr fun row _ => (implements.keeps cells row).symm
  have evaluated : statement.evaluate cells database =
      (query.withinLimit (((database statement.table).filter (statement.keeps cells)).map
        (mapping.record identifierCase) |>.mergeSort (query.recordOrder type cells))).map
          fun record => (query.returnedFields type).filterMap record := by
    rw [← List.map_mergeSort fun a _ b _ => implements.order cells a b, withinLimit_eq,
      Window.of_map, List.map_map, ← implements.window, Select.evaluate]
    exact List.map_congr_left fun row _ => implements.columns row
  rw [evaluated, ← implements.table, Query.Answers, kept]
  constructor
  · rintro ⟨ordered, stable, rfl⟩
    rw [(StablyOrders.iff_eq_mergeSort (query.preorder_recordOrder type cells)).mp stable]
  · rintro rfl
    exact ⟨_, StablyOrders.mergeSort (query.preorder_recordOrder type cells) _, rfl⟩

/-- The statement of a query returns exactly the rows that answer it, on every database. -/
theorem Schema.answers_iff_evaluate {config : SchemaConfig} {schema : Schema} {resolver : Resolver}
    {plan : Plan} (verified : Schema.ofConfig config = .ok schema)
    (serves : schema.Serves resolver) (planned : Plan.ofQuery schema .skip query = .ok plan)
    (lowered : Sql.lower resolver (.physical identifierCase) plan = .ok statement)
    {α : Type} (cells : Cells α) (database : Database α) (answer : List (List α)) :
    schema.Answers identifierCase cells database query answer ↔
      answer = statement.evaluate cells database := by
  obtain ⟨name, type, predicates, positions, keys, named, found, filters, selected, sorted, rfl⟩ :=
    Plan.ofQuery_eq_ok planned
  obtain ⟨sound, own_name⟩ := Schema.sound_of_objectType? verified found
  obtain ⟨served, mapping, typed, mapped, lowered⟩ := Sql.lower_eq_ok lowered
  rw [Plan.objectType_limited, Plan.objectType_sorted, Plan.objectType_projected,
    Plan.objectType_filtered] at typed mapped
  rw [show (Plan.scan type).objectType.name = name from own_name] at typed mapped
  rw [serves.objectType?, found, Option.some.injEq] at typed
  subst typed
  have configured := serves.mapping? verified found mapped
  have implements := implements_of_select sound filters selected sorted lowered
  rw [← implements.answers_iff cells database answer, Schema.Answers]
  constructor
  · rintro ⟨_, _, _, named', found', configured', answers⟩
    rw [named, Except.ok.injEq] at named'
    subst named'
    rw [found, Option.some.injEq] at found'
    subst found'
    rw [configured, Option.some.injEq] at configured'
    subst configured'
    exact answers
  · intro answers
    exact ⟨name, type, mapping, named, found, configured, answers⟩

end

namespace Cars

/-- Cells that are values, with whole numbers in their order and before all else. -/
def cells : Cells Value where
  isNull cell := cell == .null
  equals cell literal := cell == literal
  le a b := ((a.toInt64?.map Int64.toInt).getD 0 : Int) ≤ (b.toInt64?.map Int64.toInt).getD 0
  preorder :=
    ⟨fun _ _ _ ab bc => decide_eq_true
        (Int.le_trans (of_decide_eq_true ab) (of_decide_eq_true bc)),
      fun a b => by
        rw [Bool.or_eq_true, decide_eq_true_eq, decide_eq_true_eq]
        exact Int.le_total _ _⟩

def row (id plate year : Value) (column : String) : Value :=
  if column = "VID" then id
  else if column = "PLATE_NO" then plate
  else if column = "YR" then year
  else .null

def database (table : String) : List (String → Value) :=
  if table = "CARS" then
    [row (.int 1) .null (.int 2001), row (.int 2) (.text "B") (.int 1999),
      row (.int 3) .null (.int 1987), row (.int 4) .null (.int 2001), row (.int 5) .null (.int 2010)]
  else []

/-- Cars without a plate, newest first, two after the first.  The query repeats a field, names one
that is unknown and one without a column, and orders by one that it does not return. -/
def query : Query :=
  ⟨some "Car", ["year", "colour", "id", "note", "year"],
    ⟨[("plate", .null), ("colour", .bool true)], by decide⟩,
    [⟨"plate", none⟩, ⟨"year", some "desc"⟩], some 2, some 1⟩

def plan : Plan :=
  .limit (.sort (.project (.filter (.scan car) (.equals 1 .null)) [2, 0, 3, 2])
    [⟨0, .descending⟩]) 2 1

def statement : Select :=
  ⟨[⟨"YR", "year"⟩, ⟨"VID", "id"⟩, ⟨"YR", "year"⟩], "CARS", some (.equals "PLATE_NO" .null),
    [⟨"YR", .descending⟩], some ⟨2, 1⟩⟩

/-- The rows of a query with every kind of entry; the two cars of one year keep their order. -/
theorem answers_query :
    Schema.ofConfig config = .ok schema ∧ Plan.ofQuery schema .skip query = .ok plan ∧
      Sql.lower schema.toResolver (.physical .upper) plan = .ok statement ∧
      schema.Answers .upper cells database query
        [[.int 2001, .int 1, .int 2001], [.int 2001, .int 4, .int 2001]] := by
  have planned : Plan.ofQuery schema .skip query = .ok plan := by cbv
  have lowered : Sql.lower schema.toResolver (.physical .upper) plan = .ok statement := by cbv
  refine ⟨ofConfig_config, planned, lowered, ?_⟩
  rw [Schema.answers_iff_evaluate ofConfig_config .itself planned lowered]
  cbv

end Cars
end ObjectQuery
