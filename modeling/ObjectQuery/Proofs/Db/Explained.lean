/-
The explained statement is the statement that is sent.

Explaining a query and sending it take the same steps up to the statement.  One writes the values
into the text, the other writes placeholders and sends the values along, and both texts come from
the statement's template.  So while a database is open, a query is explained exactly when a
statement is sent for it.
-/
import ObjectQuery.Db.Basic
import ObjectQuery.Proofs.Catalog.Connecting
import ObjectQuery.Proofs.Dict
import ObjectQuery.Proofs.Outcome
import ObjectQuery.Proofs.Schema.Serving
import ObjectQuery.Proofs.Sql.Template

namespace ObjectQuery

/-- The statement that is sent: the text with placeholders, and the values for them. -/
def Sql.Select.statement (select : Sql.Select) (kind : DatabaseKind) : Statement :=
  ⟨(select.write kind (.collect [])).1, (select.write kind (.collect [])).2.values⟩

theorem Sql.Select.write_statement (select : Sql.Select) (kind : DatabaseKind) :
    select.write kind (.collect []) =
      ((select.statement kind).text, .collect (select.statement kind).params) := by
  rw [statement, write_eq_writePieces]
  rfl

/-! ## Open databases -/

namespace Catalog

/-- Whether the connections of a catalog, and those of its tables, are open. -/
structure IsOpen (catalog : Catalog) (board : Switchboard) : Prop where
  connections : ∀ line ∈ catalog.connections.values, board.isClosed line = false
  tables : ∀ table ∈ catalog.tables.values, board.isClosed table.line = false

variable {catalog : Catalog} {board : Switchboard}

theorem IsOpen.record (opened : catalog.IsOpen board) (event : Event) :
    catalog.IsOpen (board.record event) := ⟨opened.connections, opened.tables⟩

/-- A catalog without tables is open while its connections are unused. -/
theorem IsUnused.isOpen (unused : catalog.IsUnused board) (tables : catalog.tables = .empty) :
    catalog.IsOpen board where
  connections line mem := unused.isClosed_eq_false (unused.known line mem)
  tables table mem := by
    rw [tables] at mem
    exact absurd mem List.not_mem_nil

theorem IsOpen.registerTable (opened : catalog.IsOpen board) (type : ObjectType) :
    (registerTable board catalog type).IsOpen board := by
  unfold Catalog.registerTable
  split
  · next added entered =>
    refine ⟨opened.connections, fun table mem => ?_⟩
    rcases Dict.mem_values_insert mem with rfl | before
    · simp only [tableOf?, Option.bind_eq_bind, Option.bind_eq_some_iff] at entered
      -- The new table's connection is one that the catalog has already.
      obtain ⟨mapping, _, line, connected, _, _, made⟩ := entered
      rw [← Option.some.inj made]
      exact opened.connections line (Dict.mem_values_of_get? connected)
    · exact opened.tables table before
  · exact opened

theorem IsOpen.foldl_registerTable (opened : catalog.IsOpen board) (types : List ObjectType) :
    (types.foldl (Catalog.registerTable board) catalog).IsOpen board := by
  induction types generalizing catalog with
  | nil => exact opened
  | cons type rest ih => exact ih (opened.registerTable type)

/-- A catalog is open once it is built. -/
theorem isOpen_build (schema : Schema) (connect : Connect) :
    (build schema connect).1.IsOpen (build schema connect).2 := by
  let start : Catalog × Switchboard := (unconnected schema, .empty)
  have nothing : start.1.IsUnused start.2 := isUnused_unconnected schema
  let half := schema.dataSources.values.foldl (connectTo connect) start
  have unused : half.1.IsUnused half.2 := nothing.foldl_connectTo schema.dataSources.values
  have tables : half.1.tables = .empty :=
    (foldl_connectTo_keeps connect schema.dataSources.values start).2
  exact (unused.isOpen tables).foldl_registerTable schema.objectTypes.values

end Catalog

namespace Db

variable {db : Db} {board : Switchboard} {query : Query} {prepared : Prepared}

/-! ## From a query to its statement -/

theorem table_eq_ok_iff {plan : Plan} {table : Table} :
    db.table plan = .ok table ↔ db.catalog.table? plan.objectType.name = some table := by
  unfold Db.table
  cases db.catalog.table? plan.objectType.name with
  | none => simp
  | some found => simp

theorem prepare_eq_ok_iff :
    db.prepare query = .ok prepared ↔
      ∃ plan, db.plan query = .ok plan ∧ db.table plan = .ok prepared.table ∧
        (db.renderer prepared.table).lower plan = .ok prepared.select ∧
        prepared.statement = prepared.select.statement prepared.table.kind := by
  simp only [prepare, Outcome.bind_eq_ok, Outcome.pure_eq_ok]
  constructor
  · rintro ⟨plan, planned, table, tabled, select, lowered, rfl⟩
    exact ⟨plan, planned, tabled, lowered, rfl⟩
  · rintro ⟨plan, planned, tabled, lowered, bound⟩
    refine ⟨plan, planned, prepared.table, tabled, prepared.select, lowered, ?_⟩
    show (⟨prepared.table, prepared.select, prepared.select.statement _⟩ : Prepared) = prepared
    rw [← bound]

theorem prepare_eq_ok (made : db.prepare query = .ok prepared) :
    ∃ plan, db.plan query = .ok plan ∧ db.table plan = .ok prepared.table ∧
      (db.renderer prepared.table).lower plan = .ok prepared.select ∧
      prepared.select.write prepared.table.kind (.collect []) =
        (prepared.statement.text, .collect prepared.statement.params) := by
  obtain ⟨plan, planned, tabled, lowered, bound⟩ := prepare_eq_ok_iff.mp made
  rw [bound]
  exact ⟨plan, planned, tabled, lowered, prepared.select.write_statement prepared.table.kind⟩

/-- A query is explained by the statement that is prepared for it. -/
theorem explain_eq_map_prepare (db : Db) (query : Query) :
    db.explain query = (db.prepare query).map fun prepared =>
      (prepared.select.write prepared.table.kind .inline).1 := by
  unfold explain prepare
  cases db.plan query with
  | error e => rfl
  | ok plan =>
    show (db.table plan >>= _) = Except.map _ (db.table plan >>= _)
    cases db.table plan with
    | error e => rfl
    | ok table =>
      show ((db.renderer table).writeLowered .inline ((db.renderer table).lower plan)).1 =
        Except.map _ ((db.renderer table).lower plan >>= _)
      cases (db.renderer table).lower plan with
      | error e => rfl
      | ok select => rfl

theorem table_mem {plan : Plan} {table : Table} (found : db.table plan = .ok table) :
    table ∈ db.catalog.tables.values :=
  Dict.mem_values_of_get? (table_eq_ok_iff.mp found)

theorem query_of_error {e : Error} (failed : db.prepare query = .error e) :
    (db.query board query).2 = board := by
  rw [Db.query, failed]

/-- The prepared statement is sent over its table's connection. -/
theorem query_of_ok (opened : db.catalog.IsOpen board) (made : db.prepare query = .ok prepared) :
    (db.query board query).2 = board.record (.query prepared.table.line prepared.statement) := by
  obtain ⟨plan, _, tabled, _⟩ := prepare_eq_ok made
  have reached := opened.tables _ (table_mem tabled)
  obtain ⟨line, found, up⟩ := Switchboard.isClosed_eq_false_iff.mp reached
  rw [Db.query, made]
  simp only [Switchboard.query_of_isOpen found up]

/-- A query is explained exactly when a statement is sent for it, in which case the log grows by
that statement alone. -/
theorem explained_iff_sent (opened : db.catalog.IsOpen board) :
    (∃ text, db.explain query = .ok text) ↔
      ∃ line statement, (db.query board query).2.log = board.log ++ [.query line statement] := by
  rw [explain_eq_map_prepare]
  cases made : db.prepare query with
  | error e =>
    rw [query_of_error made]
    simp [Except.map]
  | ok prepared =>
    rw [query_of_ok opened made]
    simp [Except.map, Switchboard.record]

/-- The explained text of a query and its statement are those of one template. -/
theorem exists_template_of_prepare (made : db.prepare query = .ok prepared) :
    ∃ t, prepared.select.HasTemplate prepared.table.kind t ∧
      db.explain query = .ok (t.inline prepared.table.kind) ∧
      prepared.statement = ⟨t.bound prepared.table.kind 0, t.values⟩ := by
  obtain ⟨_, _, _, _, written⟩ := prepare_eq_ok made
  obtain ⟨t, has⟩ := prepared.select.exists_template prepared.table.kind
  refine ⟨t, has, ?_, ?_⟩
  · rw [explain_eq_map_prepare, made, Except.map, has.write_inline]
  · rw [has.write_collect, Prod.mk.injEq, Sql.Parameters.collect.injEq] at written
    obtain ⟨text, params⟩ := written
    exact congrArg₂ Statement.mk text.symm params.symm

/-- Placeholders are a dollar sign or a question mark with the value's position, or a question mark
alone.  Every statement has a template for its two texts.  While a database is open, a query is
explained exactly when a statement is sent for it, and the explained text and the statement are
those of one template. -/
theorem explain_eq_inline_sent :
    (∀ index, DatabaseKind.postgresql.placeholder index = "$" ++ toString index ∧
      DatabaseKind.sqlite.placeholder index = "?" ++ toString index ∧
      DatabaseKind.mysql.placeholder index = "?") ∧
    (∀ (kind : DatabaseKind) (select : Sql.Select), ∃ t, select.HasTemplate kind t) ∧
    ∀ (db : Db) (board : Switchboard) (query : Query), db.catalog.IsOpen board →
      ((∃ text, db.explain query = .ok text) ↔
        ∃ line statement, (db.query board query).2.log = board.log ++ [.query line statement]) ∧
      ∀ text line statement, db.explain query = .ok text →
        (db.query board query).2.log = board.log ++ [.query line statement] →
        ∃ table ∈ db.catalog.tables.values, table.line = line ∧ ∃ select t,
          Sql.Select.HasTemplate table.kind select t ∧ text = t.inline table.kind ∧
            statement = ⟨t.bound table.kind 0, t.values⟩ := by
  refine ⟨fun index => ⟨rfl, rfl, rfl⟩, fun kind select => select.exists_template kind,
    fun db board query opened =>
      ⟨explained_iff_sent opened, fun text line statement explained sent => ?_⟩⟩
  cases made : db.prepare query with
  | error e =>
    rw [query_of_error made] at sent
    simp at sent
  | ok prepared =>
    obtain ⟨_, _, tabled, _⟩ := prepare_eq_ok made
    obtain ⟨t, has, inline, bound⟩ := exists_template_of_prepare made
    rw [query_of_ok opened made] at sent
    have event : Event.query prepared.table.line prepared.statement = .query line statement := by
      simpa [Switchboard.record] using sent
    obtain ⟨same_line, same_statement⟩ := Event.query.inj event
    rw [inline] at explained
    exact ⟨prepared.table, table_mem tabled, same_line, prepared.select, t, has,
      (Except.ok.inj explained).symm, same_statement ▸ bound⟩

end Db

namespace Cars

/-- The data source of the cars, on a server. -/
def fleet : DataSource :=
  ⟨"fleet", "postgresql", none, some "db.internal", none, some "cars", .empty, none, none, .lower⟩

def fleetSchema : Schema := { schema with dataSources := ⟨[("fleet", fleet)], by decide⟩ }

/-- A connection that replies without rows. -/
def rowless : Connect := fun _ => .ok ⟨fun _ => .ok ⟨["vid"], []⟩, none⟩

def opened : Catalog × Switchboard := Catalog.build fleetSchema rowless

def db : Db := ⟨opened.1, .reject, none⟩

/-- Two comparisons with values and one with null. -/
def unnotedQuery : Query :=
  ⟨some "Car", ["plate"], ⟨[("plate", .string "B'1"), ("year", .null), ("id", .string "7")],
    by decide⟩, [], none, none⟩

def unnotedSelect : Sql.Select :=
  ⟨[⟨"plate_no", "plate"⟩], "cars",
    some (.all [.equals "plate_no" (.text "B'1"), .equals "yr" .null, .equals "vid" (.text "7")]),
    [], none⟩

/-- The text of the query, given what is written for its two values. -/
def unnotedText (plate id : String) : String :=
  "SELECT \"plate_no\" FROM \"cars\" "
    ++ "WHERE \"plate_no\" = " ++ plate ++ " AND \"yr\" IS NULL AND \"vid\" = " ++ id ++ ";"

/-- The query's statement, given the placeholders of its two values. -/
def unnotedStatement (plate id : String) : Statement :=
  ⟨unnotedText plate id, [.text "B'1", .text "7"]⟩

/-- The query sent to a server, and its statement written behind a value that is bound already. -/
theorem explain_unnotedQuery :
    db.catalog.IsOpen opened.2 ∧ db.explain unnotedQuery = .ok (unnotedText "'B''1'" "'7'") ∧
      (db.query opened.2 unnotedQuery).2.log =
        opened.2.log ++ [.query 0 (unnotedStatement "$1" "$2")] ∧
      (∃ t : Sql.Template, unnotedText "'B''1'" "'7'" = t.inline .postgresql ∧
        unnotedStatement "$1" "$2" = ⟨t.bound .postgresql 0, t.values⟩) ∧
      (∃ t : Sql.Template, unnotedText "'B''1'" "'7'" = t.inline .sqlite ∧
        unnotedText "?2" "?3" = t.bound .sqlite 1 ∧ t.values = [.text "B'1", .text "7"]) ∧
      DatabaseKind.mysql.placeholder 2 = "?" := by
  have isOpen : db.catalog.IsOpen opened.2 := Catalog.isOpen_build fleetSchema rowless
  have explained : db.explain unnotedQuery = .ok (unnotedText "'B''1'" "'7'") :=
    Outcome.eq_ok_of_toOption (by decide +kernel)
  have sent : (db.query opened.2 unnotedQuery).2.log =
      opened.2.log ++ [.query 0 (unnotedStatement "$1" "$2")] := by decide +kernel
  have postgresql : ∀ table ∈ db.catalog.tables.values, table.kind = .postgresql := by
    decide +kernel
  obtain ⟨marks, templates, statements⟩ := Db.explain_eq_inline_sent
  obtain ⟨_, texts⟩ := statements db opened.2 unnotedQuery isOpen
  obtain ⟨table, mem, _, _, t, _, inline, bound⟩ := texts _ _ _ explained sent
  rw [postgresql table mem] at inline bound
  obtain ⟨behind, has⟩ := templates .sqlite unnotedSelect
  have written : unnotedSelect.write .sqlite .inline = (unnotedText "'B''1'" "'7'", .inline) := by
    decide +kernel
  have collected : unnotedSelect.write .sqlite (.collect [.int 3]) =
      (unnotedText "?2" "?3", .collect [.int 3, .text "B'1", .text "7"]) := by decide +kernel
  rw [has.write_inline, Prod.mk.injEq] at written
  rw [has.write_collect, Prod.mk.injEq, Sql.Parameters.collect.injEq] at collected
  exact ⟨isOpen, explained, sent, ⟨t, inline, bound⟩,
    ⟨behind, written.1.symm, collected.1.symm, List.cons.inj collected.2 |>.2⟩, (marks 2).2.2⟩

end Cars
end ObjectQuery
