/-
Where queries are sent.

Of what is asked of a database only its queries reach a connection, and of these only the ones that
are planned, bound to a connected data source and lowered.  `statementFor?` says which statement a
data source receives for a query, in terms of the schema alone.  What a connection has received
after any calls are these statements, in order.
-/
import ObjectQuery.Proofs.Catalog.Registration
import ObjectQuery.Proofs.Db.Explained
import ObjectQuery.Proofs.Query.Unmapped

namespace ObjectQuery

/-- The kinds of error with which a query can fail before it is sent. -/
def ErrorKind.refusals : List ErrorKind := [.invalidQuery, .notFound, .unresolvedMapping]

namespace Db

/-- What can be asked of a database. -/
inductive Call
  | plan (query : Query)
  | explain (query : Query)
  | query (query : Query)

def Call.query? : Call → Option Query
  | .plan _ => none
  | .explain _ => none
  | .query asked => some asked

/-- The connections after a call. -/
def perform (db : Db) (board : Switchboard) : Call → Switchboard
  | .plan _ => board
  | .explain _ => board
  | .query query => (db.query board query).2

/-- The renderer for a data source that is looked at by itself. -/
def rendererFor (db : Db) (source : DataSource) (kind : DatabaseKind) : Sql.Renderer :=
  ⟨db.catalog.schema.toResolver, kind, db.identifierCase.getD source.identifierCase⟩

/-- The statement that a data source receives for a query: the bound text of the query's plan, if
there is one and its object type is stored in the data source. -/
def statementFor? (db : Db) (source : DataSource) (query : Query) : Option Statement := do
  let plan ← (db.plan query).toOption
  let mapping ← plan.objectType.mapping?
  let kind ← source.kind.toOption
  if mapping.connectionId = source.id then
    match (db.rendererFor source kind).render plan (.collect []) with
    | (.ok text, .collect params) => some ⟨text, params⟩
    | _ => none
  else none

/-- A query that is sent to a data source, and answered with the reply's rows or its error. -/
structure Sends (db : Db) (connect : Connect) (board : Switchboard) (query : Query)
    (source : DataSource) (line : Nat) (statement : Statement) : Prop where
  declared : source ∈ db.catalog.schema.dataSources.values
  connected : db.catalog.connections.get? source.id = some line
  bound : db.statementFor? source query = some statement
  sent : (db.query board query).2 = board.record (.query line statement)
  answered : ∃ connection, connect source = .ok connection ∧
    match connection.reply (board.received line ++ [statement]) with
    | .ok rows => ∃ columns, columns.length = rows.columns.length ∧
        (db.query board query).1 = .ok ⟨columns, rows.rows⟩
    | .error e => (db.query board query).1 = .error e

/-- A query that fails with a refusal, and is not sent. -/
structure Refuses (db : Db) (board : Switchboard) (query : Query) (kind : ErrorKind) : Prop where
  unsent : (db.query board query).2 = board
  answered : ∃ e, (db.query board query).1 = .error e ∧ e.kinds = [kind]
  refusal : kind ∈ ErrorKind.refusals
  unknown : kind = .notFound ↔ query.IsUnknown db.catalog.schema

/-! ## What calls leave behind -/

section

variable {db : Db} {board : Switchboard} {query : Query} {prepared : Prepared}

/-- What is sent for a query. -/
def event? (db : Db) (query : Query) : Option Event :=
  (db.prepare query).toOption.map fun prepared =>
    .query prepared.table.line prepared.statement

/-- Calls add to the log what is sent for their queries, and change nothing else. -/
theorem foldl_perform (opened : db.catalog.IsOpen board) (calls : List Call) :
    calls.foldl db.perform board =
      ⟨board.lines, board.log ++ (calls.filterMap Call.query?).filterMap db.event?⟩ := by
  induction calls generalizing board with
  | nil => simp
  | cons call rest ih =>
    cases call with
    | plan query => exact ih opened
    | explain query => exact ih opened
    | query query =>
      rw [List.foldl_cons, perform]
      cases made : db.prepare query with
      | error e =>
        rw [query_of_error made, ih opened]
        simp [event?, Call.query?, made, Except.toOption]
      | ok prepared =>
        rw [query_of_ok opened made, ih (opened.record _)]
        simp [event?, Call.query?, made, Except.toOption, Switchboard.record]

theorem received_foldl_perform (opened : db.catalog.IsOpen board) (calls : List Call)
    (line : Nat) :
    (calls.foldl db.perform board).received line =
      board.received line ++ (calls.filterMap Call.query?).filterMap fun query =>
        (db.prepare query).toOption.bind fun prepared =>
          if prepared.table.line = line then some prepared.statement else none := by
  rw [foldl_perform opened]
  unfold Switchboard.received
  rw [List.filterMap_append]
  congr 1
  rw [List.filterMap_filterMap]
  congr 1
  funext query
  cases made : db.prepare query with
  | error e => simp [event?, made, Except.toOption]
  | ok prepared => simp [event?, made, Except.toOption]

theorem render_of_lower {r : Sql.Renderer} {plan : Plan} {select : Sql.Select}
    (lowered : r.lower plan = .ok select) :
    r.render plan (.collect []) =
      (.ok (select.statement r.kind).text, .collect (select.statement r.kind).params) := by
  rw [Sql.Renderer.render, lowered, Sql.Renderer.writeLowered, select.write_statement]

theorem statementFor?_eq_some_iff {source : DataSource} {statement : Statement} :
    db.statementFor? source query = some statement ↔
      ∃ plan mapping kind select, db.plan query = .ok plan ∧
        plan.objectType.mapping? = some mapping ∧ source.kind = .ok kind ∧
        mapping.connectionId = source.id ∧
        (db.rendererFor source kind).lower plan = .ok select ∧
        statement = select.statement kind := by
  constructor
  · intro given
    simp only [statementFor?, Option.bind_eq_bind, Option.bind_eq_some_iff] at given
    obtain ⟨plan, planned, mapping, configured, kind, read, given⟩ := given
    have planned := Outcome.eq_ok_of_toOption planned
    have read := Outcome.eq_ok_of_toOption read
    split at given
    · next named =>
      cases lowered : (db.rendererFor source kind).lower plan with
      | error e => simp [Sql.Renderer.render, Sql.Renderer.writeLowered, lowered] at given
      | ok select =>
        simp only [render_of_lower lowered, Option.some.injEq] at given
        exact ⟨plan, mapping, kind, select, planned, configured, read, named, lowered, given.symm⟩
    · cases given
  · rintro ⟨plan, mapping, kind, select, planned, configured, read, named, lowered, rfl⟩
    simp only [statementFor?, planned, read, Except.toOption, Option.bind_eq_bind, Option.bind_some,
      configured, named, if_true, render_of_lower lowered]
    rfl

end

/-! ## Databases over built catalogs -/

def built (schema : Schema) (connect : Connect) (policy : UnknownFields)
    (identifierCase : Option IdentifierCase) : Db :=
  ⟨(Catalog.build schema connect).1, policy, identifierCase⟩

variable {config : SchemaConfig} {schema : Schema} {connect : Connect} {policy : UnknownFields}
  {identifierCase : Option IdentifierCase} {query : Query} {plan : Plan} {source : DataSource}
  {table : Table} {line : Nat} {statement : Statement}

theorem schema_built :
    (built schema connect policy identifierCase).catalog.schema = schema :=
  Catalog.build_schema schema connect

theorem objectType?_of_plan (verified : Schema.ofConfig config = .ok schema)
    (planned : (built schema connect policy identifierCase).plan query = .ok plan) :
    schema.objectType? plan.objectType.name = some plan.objectType := by
  rw [Db.plan, schema_built] at planned
  obtain ⟨name, _, found⟩ := Plan.objectType_ofQuery planned
  obtain ⟨_, named⟩ := Schema.sound_of_objectType? verified found
  rwa [named]

/-- The table of a planned query is bound to the connection of the data source that stores the
object type. -/
theorem table?_built_iff (verified : Schema.ofConfig config = .ok schema)
    (planned : (built schema connect policy identifierCase).plan query = .ok plan) :
    (Catalog.build schema connect).1.table? plan.objectType.name = some table ↔
      ∃ source ∈ schema.dataSources.values,
        table.Binds (Catalog.build schema connect).1 plan.objectType source := by
  have known := objectType?_of_plan verified planned
  rw [Catalog.table?_build_iff verified]
  constructor
  · rintro ⟨type, mem, named, bound⟩
    have same := Schema.objectType?_of_mem verified mem
    rw [named, known, Option.some.injEq] at same
    rwa [same]
  · intro bound
    exact ⟨plan.objectType, Dict.mem_values_of_get? known, rfl, bound⟩

/-- A plan is lowered through the catalog as it is for the data source by itself. -/
theorem lower_renderer (verified : Schema.ofConfig config = .ok schema)
    (found : (Catalog.build schema connect).1.table? plan.objectType.name = some table)
    {type : ObjectType} (binds : table.Binds (Catalog.build schema connect).1 type source) :
    ((built schema connect policy identifierCase).renderer table).lower plan =
      ((built schema connect policy identifierCase).rendererFor source table.kind).lower plan := by
  have registered : (Catalog.build schema connect).1.tables.contains plan.objectType.name = true :=
    Option.isSome_iff_exists.mpr ⟨table, found⟩
  show Sql.lower (Catalog.build schema connect).1.toResolver
      (.physical (identifierCase.getD table.identifierCase)) plan =
    Sql.lower (Catalog.build schema connect).1.schema.toResolver
      (.physical (identifierCase.getD source.identifierCase)) plan
  rw [Catalog.lower_build_of_contains verified registered, Catalog.build_schema,
    binds.identifierCase]

theorem source_of_line (verified : Schema.ofConfig config = .ok schema) {other : DataSource}
    (mem : source ∈ schema.dataSources.values) (other_mem : other ∈ schema.dataSources.values)
    (connected : (Catalog.build schema connect).1.connections.get? source.id = some line)
    (also : (Catalog.build schema connect).1.connections.get? other.id = some line) :
    source = other := by
  have half := Catalog.connecting_build verified connect
  have distinct := Schema.nodup_dataSources verified
  obtain ⟨opened, made, listed⟩ := half.lines_of_get? distinct mem connected
  obtain ⟨opened', made', listed'⟩ := half.lines_of_get? distinct other_mem also
  rw [listed, Option.some.injEq] at listed'
  have same : source.id = other.id := by
    rw [← DataSource.source_of_connected made, ← DataSource.source_of_connected made', listed']
  exact List.inj_on_of_nodup_map distinct mem other_mem same

/-- Over the connection of a data source, a query is sent as the statement that the data source
receives for it. -/
theorem exists_prepare_iff (verified : Schema.ofConfig config = .ok schema)
    (mem : source ∈ schema.dataSources.values)
    (connected : (Catalog.build schema connect).1.connections.get? source.id = some line) :
    (∃ prepared, (built schema connect policy identifierCase).prepare query = .ok prepared ∧
        prepared.table.line = line ∧ prepared.statement = statement) ↔
      (built schema connect policy identifierCase).statementFor? source query = some statement := by
  rw [statementFor?_eq_some_iff]
  constructor
  · rintro ⟨prepared, made, rfl, rfl⟩
    obtain ⟨plan, planned, tabled, lowered, bound⟩ := prepare_eq_ok_iff.mp made
    have found := table_eq_ok_iff.mp tabled
    obtain ⟨other, other_mem, binds⟩ := (table?_built_iff verified planned).mp found
    have same := source_of_line verified other_mem mem binds.line connected
    subst same
    rw [lower_renderer verified found binds] at lowered
    exact ⟨plan, prepared.table.mapping, prepared.table.kind, prepared.select, planned,
      binds.mapping, binds.kind, binds.named, lowered, bound⟩
  · rintro ⟨plan, mapping, kind, select, planned, configured, read, named, lowered, rfl⟩
    let table : Table := ⟨line, source.id, kind, mapping, source.identifierCase⟩
    have binds : table.Binds (Catalog.build schema connect).1 plan.objectType source :=
      ⟨configured, named, rfl, connected, read, rfl⟩
    have found : (Catalog.build schema connect).1.table? plan.objectType.name = some table :=
      (table?_built_iff verified planned).mpr ⟨source, mem, binds⟩
    have lowered := (lower_renderer verified found binds).trans lowered
    exact ⟨⟨table, select, select.statement kind⟩,
      prepare_eq_ok_iff.mpr ⟨plan, planned, table_eq_ok_iff.mpr found, lowered, rfl⟩, rfl, rfl⟩

theorem isUnmapped_of_prepare (verified : Schema.ofConfig config = .ok schema) {e : Error}
    (planned : (built schema connect policy identifierCase).plan query = .ok plan)
    (failed : (built schema connect policy identifierCase).prepare query = .error e) :
    e.IsUnmapped plan.objectType.name := by
  have tabled : Outcome.FailsWith (Error.IsUnmapped plan.objectType.name)
      ((built schema connect policy identifierCase).table plan) := by
    unfold Db.table
    split
    · exact .ok _
    · exact .error ⟨none, rfl⟩
  have lowered (table : Table) : Outcome.FailsWith (Error.IsUnmapped plan.objectType.name)
      (((built schema connect policy identifierCase).renderer table).lower plan) := by
    have known := objectType?_of_plan verified planned
    rw [Db.plan, schema_built] at planned
    exact (Plan.lower_failsIff verified (.catalog connect) known
      (Plan.wellFormed_ofQuery planned)).expected
  rw [prepare, planned] at failed
  exact tabled.bind (fun table => (lowered table).bind fun select => .ok _) e failed

/-- A query that is not sent fails with one refusal. -/
theorem kinds_of_prepare_eq_error (verified : Schema.ofConfig config = .ok schema) {e : Error}
    (failed : (built schema connect policy identifierCase).prepare query = .error e) :
    ∃ kind ∈ ErrorKind.refusals, e.kinds = [kind] ∧
      (kind = .notFound ↔ query.IsUnknown schema) := by
  cases planned : (built schema connect policy identifierCase).plan query with
  | error reason =>
    rw [prepare, planned] at failed
    have same : reason = e := Except.error.inj failed
    rw [Db.plan, schema_built, same] at planned
    rcases Plan.ofQuery_eq_error planned with ⟨unknown, name, rfl⟩ | ⟨known, text, rfl⟩
    · exact ⟨.notFound, by simp [ErrorKind.refusals], rfl, by simp [unknown]⟩
    · exact ⟨.invalidQuery, by simp [ErrorKind.refusals], rfl, by simp [known]⟩
  | ok plan =>
    obtain ⟨property, rfl⟩ := isUnmapped_of_prepare verified planned failed
    have known : ¬query.IsUnknown schema := by
      rw [Query.isUnknown_iff]
      rintro ⟨name, named, missing⟩
      rw [Db.plan, schema_built] at planned
      obtain ⟨other, also, found⟩ := Plan.objectType_ofQuery planned
      rw [named, Except.ok.injEq] at also
      rw [← also, missing] at found
      cases found
    exact ⟨.unresolvedMapping, by simp [ErrorKind.refusals], rfl, by simp [known]⟩

/-- What is prepared for the connection of a data source is what it receives. -/
theorem bind_toOption_prepare (verified : Schema.ofConfig config = .ok schema)
    (mem : source ∈ schema.dataSources.values)
    (connected : (Catalog.build schema connect).1.connections.get? source.id = some line)
    (query : Query) :
    (((built schema connect policy identifierCase).prepare query).toOption.bind fun prepared =>
        if prepared.table.line = line then some prepared.statement else none) =
      (built schema connect policy identifierCase).statementFor? source query := by
  refine Option.ext fun statement => ?_
  rw [← exists_prepare_iff verified mem connected]
  cases made : (built schema connect policy identifierCase).prepare query with
  | error e => simp [Except.toOption]
  | ok prepared =>
    simp only [Except.toOption, Option.bind_some, Option.ite_none_right_eq_some,
      Option.some.injEq, Except.ok.injEq, exists_eq_left']

theorem received_build (verified : Schema.ofConfig config = .ok schema) (connect : Connect)
    (line : Nat) : (Catalog.build schema connect).2.received line = [] := by
  have half := Catalog.connecting_build verified connect
  refine List.filterMap_eq_nil_iff.mpr fun event mem => ?_
  rw [half.log] at mem
  obtain ⟨source, _, rfl⟩ := List.mem_map.mp mem
  rfl

theorem exists_binds_of_prepare (verified : Schema.ofConfig config = .ok schema)
    {prepared : Prepared}
    (made : (built schema connect policy identifierCase).prepare query = .ok prepared) :
    ∃ type, ∃ source ∈ schema.dataSources.values,
      prepared.table.Binds (Catalog.build schema connect).1 type source := by
  obtain ⟨plan, planned, tabled, _⟩ := prepare_eq_ok_iff.mp made
  exact ⟨plan.objectType, (table?_built_iff verified planned).mp (table_eq_ok_iff.mp tabled)⟩

/-- A prepared query is sent to the data source that it is bound to. -/
theorem exists_sends_of_prepare (verified : Schema.ofConfig config = .ok schema)
    {board : Switchboard} (lines : board.lines = (Catalog.build schema connect).2.lines)
    {prepared : Prepared}
    (made : (built schema connect policy identifierCase).prepare query = .ok prepared) :
    ∃ source line statement, (built schema connect policy identifierCase).Sends connect board query
      source line statement := by
  obtain ⟨type, source, mem, binds⟩ := exists_binds_of_prepare verified made
  have half := Catalog.connecting_build verified connect
  obtain ⟨opened, outcome, listed⟩ :=
    half.lines_of_get? (Schema.nodup_dataSources verified) mem binds.line
  obtain ⟨kind, connection, _, connected, rfl⟩ := DataSource.connected_eq_ok outcome
  rw [← lines] at listed
  have bound := (exists_prepare_iff verified mem binds.line).mp ⟨prepared, made, rfl, rfl⟩
  have sent := Switchboard.query_of_isOpen listed rfl prepared.statement
  refine ⟨source, prepared.table.line, prepared.statement, schema_built ▸ mem, binds.line, bound,
    ?_, connection, connected, ?_⟩
  · simp only [Db.query, made, sent]
  · cases replied : connection.reply
        (board.received prepared.table.line ++ [prepared.statement]) with
    | error e =>
      simp only [Db.query, made, sent, replied]
      rfl
    | ok rows =>
      simp only [Db.query, made, sent, replied]
      exact ⟨logicalColumns prepared.table.mapping prepared.select rows.columns,
        by simp [logicalColumns], rfl⟩

theorem exists_refuses_of_prepare (verified : Schema.ofConfig config = .ok schema) {e : Error}
    (board : Switchboard)
    (failed : (built schema connect policy identifierCase).prepare query = .error e) :
    ∃ kind, (built schema connect policy identifierCase).Refuses board query kind := by
  obtain ⟨kind, refusal, kinds, unknown⟩ := kinds_of_prepare_eq_error verified failed
  refine ⟨kind, query_of_error failed, ⟨e, ?_, kinds⟩, refusal, ?_⟩
  · rw [Db.query, failed]
  · rwa [schema_built]

/-- After any calls, the connection of a data source has received the statements of the queries that
the data source receives one for, and nothing else was sent.  The next query is sent to a connected
data source and answered with the reply, or it is refused and not sent. -/
theorem built_routes (verified : Schema.ofConfig config = .ok schema) (connect : Connect)
    (policy : UnknownFields) (identifierCase : Option IdentifierCase) (calls : List Call) :
    let db := built schema connect policy identifierCase
    let board := calls.foldl db.perform (Catalog.build schema connect).2
    (∀ source ∈ schema.dataSources.values, ∀ line,
      db.catalog.connections.get? source.id = some line →
        board.received line = (calls.filterMap Call.query?).filterMap (db.statementFor? source)) ∧
      (∀ line statement, Event.query line statement ∈ board.log →
        ∃ source ∈ schema.dataSources.values,
          db.catalog.connections.get? source.id = some line) ∧
      ∀ query, (∃ source line statement, db.Sends connect board query source line statement) ∨
        ∃ kind, db.Refuses board query kind := by
  intro db board
  have opened : db.catalog.IsOpen (Catalog.build schema connect).2 :=
    Catalog.isOpen_build schema connect
  have performed := foldl_perform opened calls
  have lines : board.lines = (Catalog.build schema connect).2.lines := by
    show (calls.foldl db.perform (Catalog.build schema connect).2).lines = _
    rw [performed]
  refine ⟨fun source mem line connected => ?_, fun line statement sent => ?_, fun query => ?_⟩
  · have received := received_foldl_perform opened calls line
    rw [received_build verified connect line, List.nil_append] at received
    refine received.trans ?_
    congr 1
    funext query
    exact bind_toOption_prepare verified mem connected query
  · have logged : Event.query line statement ∈ (calls.foldl db.perform _).log := sent
    rw [performed, List.mem_append] at logged
    rcases logged with before | added
    · rw [(Catalog.connecting_build verified connect).log] at before
      obtain ⟨_, _, differ⟩ := List.mem_map.mp before
      cases differ
    · obtain ⟨query, _, event⟩ := List.mem_filterMap.mp added
      obtain ⟨prepared, made, same⟩ := Option.map_eq_some_iff.mp event
      obtain ⟨_, source, mem, binds⟩ :=
        exists_binds_of_prepare verified (Outcome.eq_ok_of_toOption made)
      obtain ⟨rfl, _⟩ := Event.query.inj same
      exact ⟨source, mem, binds.line⟩
  · cases made : db.prepare query with
    | ok prepared =>
      exact .inl (exists_sends_of_prepare verified lines made)
    | error e => exact .inr (exists_refuses_of_prepare verified board made)

end Db

namespace Cars

def yardDb : Db := .built yardSchema yardConnect .reject (some .lower)

def everyDepot : Query := { Query.blank with objectName := some "Depot" }

/-- Calls of which one is sent: the depots' database is not up. -/
def yardCalls : List Db.Call :=
  [.plan unnotedQuery, .query everyDepot, .query unnotedQuery, .explain unnotedQuery]

def yardAfter : Switchboard := yardCalls.foldl yardDb.perform (Catalog.build yardSchema yardConnect).2

theorem yard_routes :
    Schema.ofConfig yard = .ok yardSchema ∧ yardAfter.received 0 = [unnotedStatement "?1" "?2"] ∧
      ∃ kind, yardDb.Refuses yardAfter everyDepot kind := by
  have accepted : Schema.ofConfig yard = .ok yardSchema :=
    Outcome.eq_ok_of_toOption (by decide +kernel)
  obtain ⟨received, _, next⟩ := Db.built_routes accepted yardConnect .reject (some .lower) yardCalls
  have unsent : (yardDb.query yardAfter everyDepot).2.log = yardAfter.log := by decide +kernel
  refine ⟨accepted, ?_, ?_⟩
  · refine (received (sourceOf "fleet" " SQLite") (by decide +kernel) 0 (by decide +kernel)).trans ?_
    decide +kernel
  · rcases next everyDepot with ⟨source, line, statement, sends⟩ | refused
    · have sent : (yardDb.query yardAfter everyDepot).2.log =
          yardAfter.log ++ [.query line statement] := congrArg Switchboard.log sends.sent
      rw [unsent] at sent
      simp at sent
    · exact refused

end Cars
end ObjectQuery
