/-
What a catalog has of its schema.

Once the data sources are connected, an object type is registered when its mapping names one of
them, and its table depends on no other table.  With what is known of the connections this gives
`build_reflects`: a catalog loses what could not be connected and nothing else, and a plan over what
is left is rendered as if all were there.
-/
import Mathlib.Data.List.Nodup
import ObjectQuery.Proofs.Catalog.Connecting
import ObjectQuery.Proofs.Plan.Pipeline
import ObjectQuery.Proofs.Schema.Acceptance
import ObjectQuery.Proofs.Schema.Serving
import ObjectQuery.Sql.Renderer

namespace ObjectQuery

/-- Whether the mapping of an object type is configured and names a connected source. -/
def Catalog.serves (catalog : Catalog) (type : ObjectType) : Bool :=
  type.mapping?.any fun mapping => catalog.connections.contains mapping.connectionId

/-- A table of an object type over the connection of a data source, with its kind and letter
case. -/
structure Table.Binds (table : Table) (catalog : Catalog) (type : ObjectType)
    (source : DataSource) : Prop where
  mapping : type.mapping? = some table.mapping
  named : table.mapping.connectionId = source.id
  labeled : table.source = source.id
  line : catalog.connections.get? source.id = some table.line
  kind : source.kind = .ok table.kind
  identifierCase : table.identifierCase = source.identifierCase

/-- A catalog and the connections of its data sources, in terms of the schema and of how its data
sources are connected to. -/
structure Catalog.Reflects (catalog : Catalog) (board : Switchboard) (schema : Schema)
    (connect : Connect) : Prop where
  /-- Each supported source is connected to once, in order, and nothing else happens. -/
  asked : board.log =
    (schema.dataSources.values.filter DataSource.isSupported).map fun source => .connect source.id
  connected : catalog.connections.names =
    (schema.dataSources.values.filter (DataSource.connects connect)).map DataSource.id
  failed : catalog.failures.names =
    (schema.dataSources.values.filter fun source => !source.connects connect).map DataSource.id
  divided : ∀ source ∈ schema.dataSources.values,
    catalog.failures.contains source.id = !catalog.connections.contains source.id
  unsupported : ∀ source ∈ schema.dataSources.values, ∀ e,
    catalog.failures.get? source.id = some e → source.isSupported = false →
      e.is .unsupportedDataSourceType = true
  unreachable : ∀ source ∈ schema.dataSources.values, ∀ e,
    catalog.failures.get? source.id = some e → source.isSupported = true →
      e.is .connectionFailure = true
  /-- Each connected source has one line, and each line belongs to one of them. -/
  lines : board.lines.map Line.source = catalog.connections.names
  opened : ∀ source ∈ schema.dataSources.values, ∀ line,
    catalog.connections.get? source.id = some line → ∃ kind connection,
      source.kind = .ok kind ∧ connect source = .ok connection ∧
        board.lines[line]? = some ⟨source.id, kind, connection, true⟩
  registered : catalog.tables.names =
    (schema.objectTypes.values.filter catalog.serves).map ObjectType.name
  bound : ∀ name table, catalog.table? name = some table →
    ∃ type ∈ schema.objectTypes.values, type.name = name ∧
      ∃ source ∈ schema.dataSources.values, table.Binds catalog type source

namespace Catalog

variable {catalog : Catalog} {board : Switchboard}

/-! ## Registering the object types -/

theorem tableOf?_eq_some_iff {type : ObjectType} {table : Table} :
    catalog.tableOf? board type = some table ↔ ∃ mapping line opened,
      type.mapping? = some mapping ∧
      catalog.connections.get? mapping.connectionId = some line ∧
      board.lines[line]? = some opened ∧
      table = ⟨line, mapping.connectionId, opened.kind, mapping,
        ((catalog.schema.dataSource? mapping.connectionId).map
          DataSource.identifierCase).getD .upper⟩ := by
  simp only [tableOf?, Option.bind_eq_bind, Option.bind_eq_some_iff, Option.pure_def,
    Option.some.injEq]
  constructor
  · rintro ⟨mapping, configured, line, connected, opened, found, made⟩
    exact ⟨mapping, line, opened, configured, connected, found, made.symm⟩
  · rintro ⟨mapping, line, opened, configured, connected, found, made⟩
    exact ⟨mapping, configured, line, connected, opened, found, made.symm⟩

theorem foldl_registerTable_keeps (board : Switchboard) (types : List ObjectType)
    (catalog : Catalog) :
    (types.foldl (registerTable board) catalog).connections = catalog.connections ∧
      (types.foldl (registerTable board) catalog).failures = catalog.failures := by
  induction types generalizing catalog with
  | nil => exact ⟨rfl, rfl⟩
  | cons type rest ih =>
    obtain ⟨connections, failures⟩ := ih (registerTable board catalog type)
    rw [List.foldl_cons, connections, failures]
    unfold registerTable
    split <;> exact ⟨rfl, rfl⟩

/-- Tables are entered in the order of the object types, as long as their names differ. -/
theorem entries_foldl_registerTable {types : List ObjectType}
    (distinct : (catalog.tables.names ++ types.map ObjectType.name).Nodup) :
    (types.foldl (registerTable board) catalog).tables.entries =
      catalog.tables.entries ++ types.filterMap fun type =>
        (catalog.tableOf? board type).map fun table => (type.name, table) := by
  induction types generalizing catalog with
  | nil => simp
  | cons type rest ih =>
    rw [List.map_cons] at distinct
    rw [List.foldl_cons, registerTable]
    cases made : catalog.tableOf? board type with
    | none =>
      have rest_distinct : (catalog.tables.names ++ rest.map ObjectType.name).Nodup :=
        distinct.sublist ((List.sublist_cons_self _ _).append_left _)
      rw [List.filterMap_cons_none (by rw [made]; rfl)]
      exact ih rest_distinct
    | some table =>
      have absent : catalog.tables.contains type.name = false := by
        by_contra present
        rw [Bool.not_eq_false] at present
        have taken := Dict.contains_iff.mp present
        exact (List.nodup_append.mp distinct).2.2 _ taken _ List.mem_cons_self rfl
      have entries : (catalog.tables.insert type.name table).entries =
          catalog.tables.entries ++ [(type.name, table)] :=
        Dict.entries_insert_of_not_contains absent
      have names : (catalog.tables.insert type.name table).names =
          catalog.tables.names ++ [type.name] := by
        rw [Dict.names, entries]
        simp [Dict.names]
      rw [List.append_cons, ← names] at distinct
      let entered : Catalog := { catalog with tables := catalog.tables.insert type.name table }
      have further : (rest.foldl (registerTable board) entered).tables.entries =
          (catalog.tables.entries ++ [(type.name, table)]) ++ rest.filterMap fun type =>
            (entered.tableOf? board type).map fun table => (type.name, table) :=
        entries ▸ ih distinct
      rw [List.filterMap_cons_some (by rw [made]; rfl)]
      refine further.trans ?_
      rw [List.append_assoc]
      rfl

/-- What a table is made of does not depend on the tables before it. -/
theorem tableOf?_congr {other : Catalog} (schema : catalog.schema = other.schema)
    (connections : catalog.connections = other.connections) (board : Switchboard)
    (type : ObjectType) : catalog.tableOf? board type = other.tableOf? board type := by
  unfold tableOf?
  rw [schema, connections]

end Catalog

/-! ## Built catalogs -/

namespace Schema

variable {config : SchemaConfig} {schema : Schema} {connect : Connect}

theorem map_id_dataSources (verified : ofConfig config = .ok schema) :
    schema.dataSources.values.map DataSource.id = schema.dataSources.names := by
  have entries := dataSources_ofConfig verified
  rw [Dict.values, Dict.names, entries]
  simp

theorem nodup_dataSources (verified : ofConfig config = .ok schema) :
    (schema.dataSources.values.map DataSource.id).Nodup := by
  rw [map_id_dataSources verified]
  exact schema.dataSources.names_nodup

theorem nodup_objectTypes (verified : ofConfig config = .ok schema) :
    (schema.objectTypes.values.map ObjectType.name).Nodup := by
  have names := schema.objectTypes.names_nodup
  obtain ⟨entries, _⟩ := ofConfig_eq_ok verified
  rw [entries] at names
  rw [Dict.values, entries]
  simpa [Function.comp_def] using names

theorem dataSource?_of_mem (verified : ofConfig config = .ok schema) {source : DataSource}
    (mem : source ∈ schema.dataSources.values) : schema.dataSource? source.id = some source := by
  have entries := dataSources_ofConfig verified
  rw [Dict.values, entries, List.map_map, List.mem_map] at mem
  obtain ⟨declared, mem, rfl⟩ := mem
  rw [dataSource?, Dict.get?_eq_some_iff, entries]
  exact List.mem_map.mpr ⟨declared, mem, rfl⟩

end Schema

namespace Catalog

variable {config : SchemaConfig} {schema : Schema} {connect : Connect}

theorem connecting_build (verified : Schema.ofConfig config = .ok schema) (connect : Connect) :
    Connecting connect schema.dataSources.values (build schema connect).1
      (build schema connect).2 := by
  let start : Catalog × Switchboard := (unconnected schema, .empty)
  have nothing : Connecting connect [] start.1 start.2 := ⟨rfl, rfl, rfl, rfl⟩
  have all := nothing.foldl (Schema.nodup_dataSources verified)
  obtain ⟨connections, failures⟩ := foldl_registerTable_keeps (build schema connect).2
    schema.objectTypes.values (schema.dataSources.values.foldl (connectTo connect) start).1
  exact ⟨all.log, all.lines, (congrArg Dict.entries connections).trans all.connections,
    (congrArg Dict.entries failures).trans all.failures⟩

theorem entries_tables_build (verified : Schema.ofConfig config = .ok schema)
    (connect : Connect) :
    (build schema connect).1.tables.entries = schema.objectTypes.values.filterMap fun type =>
      ((build schema connect).1.tableOf? (build schema connect).2 type).map fun table =>
        (type.name, table) := by
  let half := schema.dataSources.values.foldl (connectTo connect) (unconnected schema, .empty)
  have tables : half.1.tables = .empty := (foldl_connectTo_keeps connect _ _).2
  have distinct : (half.1.tables.names ++ schema.objectTypes.values.map ObjectType.name).Nodup := by
    rw [tables]
    exact Schema.nodup_objectTypes verified
  have same (type : ObjectType) : half.1.tableOf? half.2 type =
      (build schema connect).1.tableOf? (build schema connect).2 type := by
    have connections := (foldl_registerTable_keeps half.2 schema.objectTypes.values half.1).1
    have schemas := foldl_registerTable_schema half.2 schema.objectTypes.values half.1
    exact tableOf?_congr schemas.symm connections.symm half.2 type
  show (schema.objectTypes.values.foldl (registerTable half.2) half.1).tables.entries = _
  rw [entries_foldl_registerTable distinct, tables]
  simp only [same]
  rfl

/-- The tables are those of object types bound to the connections of their data sources. -/
theorem tableOf?_build_iff (verified : Schema.ofConfig config = .ok schema) {type : ObjectType}
    {table : Table} :
    (build schema connect).1.tableOf? (build schema connect).2 type = some table ↔
      ∃ source ∈ schema.dataSources.values, table.Binds (build schema connect).1 type source := by
  have half := connecting_build verified connect
  have distinct := Schema.nodup_dataSources verified
  rw [tableOf?_eq_some_iff, build_schema]
  constructor
  · rintro ⟨mapping, line, opened, configured, connected, found, rfl⟩
    have named : mapping.connectionId ∈ (build schema connect).1.connections.names :=
      Dict.contains_iff.mp (by rw [Dict.contains, connected]; rfl)
    rw [half.names_connected, List.mem_map] at named
    obtain ⟨source, kept, id⟩ := named
    have mem := List.mem_of_mem_filter kept
    rw [← id] at connected
    obtain ⟨made, outcome, at_line⟩ := half.lines_of_get? distinct mem connected
    obtain ⟨kind, connection, read, _, rfl⟩ := DataSource.connected_eq_ok outcome
    rw [found, Option.some.injEq] at at_line
    refine ⟨source, mem, configured, id.symm, id.symm, connected, ?_, ?_⟩
    · rw [at_line, read]
    · rw [← id, Schema.dataSource?_of_mem verified mem]
      rfl
  · rintro ⟨source, mem, binds⟩
    obtain ⟨opened, outcome, at_line⟩ := half.lines_of_get? distinct mem binds.line
    obtain ⟨kind, connection, read, _, rfl⟩ := DataSource.connected_eq_ok outcome
    have same_kind : kind = table.kind := Except.ok.inj (read.symm.trans binds.kind)
    refine ⟨table.mapping, table.line, _, binds.mapping, binds.named ▸ binds.line, at_line, ?_⟩
    rw [binds.named, Schema.dataSource?_of_mem verified mem, same_kind, ← binds.labeled]
    show table = ⟨table.line, table.source, table.kind, table.mapping, source.identifierCase⟩
    rw [← binds.identifierCase]

/-- An object type is found in a catalog when it is bound to the connection of a data source. -/
theorem table?_build_iff (verified : Schema.ofConfig config = .ok schema) {name : String}
    {table : Table} :
    (build schema connect).1.table? name = some table ↔
      ∃ type ∈ schema.objectTypes.values, type.name = name ∧
        ∃ source ∈ schema.dataSources.values,
          table.Binds (build schema connect).1 type source := by
  rw [table?, Dict.get?_eq_some_iff, entries_tables_build verified, List.mem_filterMap]
  constructor
  · rintro ⟨type, mem, entered⟩
    obtain ⟨made, found, same⟩ := Option.map_eq_some_iff.mp entered
    obtain ⟨named, rfl⟩ := Prod.mk.inj same
    exact ⟨type, mem, named, (tableOf?_build_iff verified).mp found⟩
  · rintro ⟨type, mem, rfl, bound⟩
    exact ⟨type, mem, by rw [(tableOf?_build_iff verified).mpr bound]; rfl⟩

theorem isSome_tableOf?_build (verified : Schema.ofConfig config = .ok schema)
    (type : ObjectType) :
    ((build schema connect).1.tableOf? (build schema connect).2 type).isSome =
      (build schema connect).1.serves type := by
  rw [Bool.eq_iff_iff, Option.isSome_iff_exists]
  constructor
  · rintro ⟨table, made⟩
    obtain ⟨mapping, line, _, configured, connected, _⟩ := tableOf?_eq_some_iff.mp made
    simp [serves, configured, Dict.contains, connected]
  · intro served
    cases configured : type.mapping? with
    | none => simp [serves, configured] at served
    | some mapping =>
      have half := connecting_build verified connect
      have named : (build schema connect).1.connections.contains mapping.connectionId = true := by
        simpa [serves, configured] using served
      obtain ⟨line, connected⟩ := Option.isSome_iff_exists.mp named
      rw [Dict.contains_iff, ← Dict.names, half.names_connected, List.mem_map] at named
      obtain ⟨source, kept, id⟩ := named
      have mem := List.mem_of_mem_filter kept
      obtain ⟨opened, _, at_line⟩ := half.lines_of_get? (Schema.nodup_dataSources verified) mem
        (id ▸ connected)
      exact ⟨_, tableOf?_eq_some_iff.mpr
        ⟨mapping, line, opened, configured, connected, at_line, rfl⟩⟩

/-- A data source has a connection or a failure, and never both. -/
theorem contains_failures_build (verified : Schema.ofConfig config = .ok schema)
    {source : DataSource} (mem : source ∈ schema.dataSources.values) :
    (build schema connect).1.failures.contains source.id =
      !(build schema connect).1.connections.contains source.id := by
  have half := connecting_build verified connect
  have listed_iff {p : DataSource → Bool} :
      source.id ∈ (schema.dataSources.values.filter p).map DataSource.id ↔ p source = true := by
    constructor
    · intro listed
      obtain ⟨other, kept, same⟩ := List.mem_map.mp listed
      have other_mem := List.mem_of_mem_filter kept
      have same := List.inj_on_of_nodup_map (Schema.nodup_dataSources verified) other_mem mem same
      rw [← same]
      exact (List.mem_filter.mp kept).2
    · intro holds
      exact List.mem_map_of_mem (List.mem_filter.mpr ⟨mem, holds⟩)
  have failed : (build schema connect).1.failures.contains source.id =
      !source.connects connect := by
    rw [Bool.eq_iff_iff, Dict.contains_iff, ← Dict.names, half.names_failures, listed_iff]
  have connected : (build schema connect).1.connections.contains source.id =
      source.connects connect := by
    rw [Bool.eq_iff_iff, Dict.contains_iff, ← Dict.names, half.names_connected, listed_iff]
  rw [failed, connected]

theorem failure?_of_get? (verified : Schema.ofConfig config = .ok schema) {source : DataSource}
    (mem : source ∈ schema.dataSources.values) {e : Error}
    (found : (build schema connect).1.failures.get? source.id = some e) :
    source.failure? connect = some e := by
  have half := connecting_build verified connect
  rw [Dict.get?_eq_some_iff, half.failures, List.mem_filterMap] at found
  obtain ⟨other, other_mem, made⟩ := found
  obtain ⟨reason, failed, same⟩ := Option.map_eq_some_iff.mp made
  obtain ⟨same_id, rfl⟩ := Prod.mk.inj same
  have same := List.inj_on_of_nodup_map (Schema.nodup_dataSources verified) other_mem mem same_id
  rw [← same, failed]

/-! ## Rendering through a catalog -/

section

variable {name : String}

theorem mapping?_toResolver_of_contains (verified : Schema.ofConfig config = .ok schema)
    (registered : (build schema connect).1.tables.contains name = true) :
    (build schema connect).1.toResolver.mapping? name = schema.toResolver.mapping? name := by
  obtain ⟨table, found⟩ := Option.isSome_iff_exists.mp registered
  obtain ⟨type, mem, rfl, source, _, binds⟩ := (table?_build_iff verified).mp found
  show ((build schema connect).1.table? type.name).map Table.mapping =
    (schema.objectType? type.name).bind ObjectType.mapping?
  rw [show (build schema connect).1.table? type.name = some table from found,
    Schema.objectType?_of_mem verified mem, Option.map_some, Option.bind_some, binds.mapping]

theorem mapping?_toResolver_of_not_contains
    (unregistered : (build schema connect).1.tables.contains name = false) :
    (build schema connect).1.toResolver.mapping? name = none := by
  have missing : (build schema connect).1.table? name = none := by
    rw [Dict.contains, Option.isSome_eq_false_iff, Option.isNone_iff_eq_none] at unregistered
    exact unregistered
  show ((build schema connect).1.table? name).map Table.mapping = none
  rw [missing, Option.map_none]

/-- A plan over a registered object type is lowered as if by the schema. -/
theorem lower_build_of_contains (verified : Schema.ofConfig config = .ok schema) {plan : Plan}
    (registered : (build schema connect).1.tables.contains plan.objectType.name = true)
    (naming : Sql.Naming) :
    Sql.lower (build schema connect).1.toResolver naming plan =
      Sql.lower schema.toResolver naming plan := by
  have serves : schema.Serves (build schema connect).1.toResolver := .catalog connect
  have types := serves.objectType? plan.objectType.name
  simp only [Sql.lower, types, mapping?_toResolver_of_contains verified registered]
  rfl

theorem lower_build_of_not_contains {plan : Plan}
    (known : (schema.objectType? plan.objectType.name).isSome = true)
    (unregistered : (build schema connect).1.tables.contains plan.objectType.name = false)
    (ascending : plan.stages.Pairwise fun a b => a.rank < b.rank) (naming : Sql.Naming) :
    Sql.lower (build schema connect).1.toResolver naming plan =
      .error (.unresolvedMapping plan.objectType.name none) := by
  have serves : schema.Serves (build schema connect).1.toResolver := .catalog connect
  have types := serves.objectType? plan.objectType.name
  obtain ⟨type, found⟩ := Option.isSome_iff_exists.mp known
  have inOrder := (Plan.verifyPipeline_eq_ok_iff plan).mpr ascending
  simp only [Sql.lower, inOrder, types, found, mapping?_toResolver_of_not_contains unregistered]
  rfl

end

/-- A built catalog loses what could not be connected and nothing else, and what it has is rendered
as from the schema. -/
theorem build_reflects (verified : Schema.ofConfig config = .ok schema) (connect : Connect) :
    (build schema connect).1.Reflects (build schema connect).2 schema connect ∧
      ∀ (kind : DatabaseKind) (identifierCase : IdentifierCase) (plan : Plan)
        (parameters : Sql.Parameters),
        ((build schema connect).1.tables.contains plan.objectType.name = true →
          Sql.Renderer.render ⟨(build schema connect).1.toResolver, kind, identifierCase⟩ plan
              parameters =
            Sql.Renderer.render ⟨schema.toResolver, kind, identifierCase⟩ plan parameters) ∧
        ((schema.objectType? plan.objectType.name).isSome = true →
          (build schema connect).1.tables.contains plan.objectType.name = false →
          (plan.stages.Pairwise fun a b => a.rank < b.rank) →
          Sql.Renderer.render ⟨(build schema connect).1.toResolver, kind, identifierCase⟩ plan
              parameters =
            (.error (.unresolvedMapping plan.objectType.name none), parameters)) := by
  have half := connecting_build verified connect
  have distinct := Schema.nodup_dataSources verified
  refine ⟨?_, fun kind identifierCase plan parameters => ⟨fun registered => ?_,
    fun known unregistered ascending => ?_⟩⟩
  · refine
      { asked := half.log
        connected := half.names_connected
        failed := half.names_failures
        divided := fun source mem => contains_failures_build verified mem
        unsupported := fun source mem e found unsupported => ?_
        unreachable := fun source mem e found supported => ?_
        lines := half.names_connections.symm
        opened := fun source mem line found => ?_
        registered := ?_
        bound := fun name table found => (table?_build_iff verified).mp found }
    · have failed := failure?_of_get? verified mem found
      exact DataSource.is_unsupported_of_failure? failed unsupported
    · have failed := failure?_of_get? verified mem found
      exact DataSource.is_connectionFailure_of_failure? failed supported
    · obtain ⟨opened, outcome, at_line⟩ := half.lines_of_get? distinct mem found
      obtain ⟨kind, connection, read, made, rfl⟩ := DataSource.connected_eq_ok outcome
      exact ⟨kind, connection, read, made, at_line⟩
    · have along (type : ObjectType) (entry : String × Table)
          (entered : (((build schema connect).1.tableOf? (build schema connect).2 type).map
            fun table => (type.name, table)) = some entry) : entry.1 = type.name := by
        obtain ⟨table, _, rfl⟩ := Option.map_eq_some_iff.mp entered
        rfl
      rw [Dict.names, entries_tables_build verified, map_filterMap_eq along]
      simp only [Option.isSome_map, isSome_tableOf?_build verified]
  · have lowered := lower_build_of_contains verified registered (.physical identifierCase)
    unfold Sql.Renderer.render Sql.Renderer.lower
    rw [lowered]
    rfl
  · have lowered := lower_build_of_not_contains known unregistered ascending
      (.physical identifierCase)
    unfold Sql.Renderer.render Sql.Renderer.lower
    rw [lowered]
    rfl

end Catalog

namespace Cars

def depot : ObjectType :=
  ⟨"Depot", [⟨"city", .string⟩],
    some ⟨"harbour", "depots", "did", ⟨[("city", "town")], by decide⟩⟩⟩

/-- A database of some kind that needs nothing but a name. -/
def sourceOf (id type : String) : DataSource :=
  ⟨id, type, none, none, none, none, .empty, none, none, .preserve⟩

def yard : SchemaConfig :=
  ⟨[car, depot], [sourceOf "archive" "oracle", sourceOf "fleet" " SQLite", sourceOf "harbour" "mysql"]⟩

def yardSchema : Schema :=
  ⟨⟨[("Car", car), ("Depot", depot)], by decide⟩,
    ⟨[("archive", sourceOf "archive" "oracle"), ("fleet", sourceOf "fleet" " SQLite"),
      ("harbour", sourceOf "harbour" "mysql")], by decide⟩⟩

/-- Only the fleet's database is up. -/
def yardConnect : Connect := fun source =>
  if source.id = "fleet" then .ok ⟨fun _ => .ok ⟨["vid"], []⟩, none⟩ else .error (.adhoc "refused")

theorem build_yard :
    Schema.ofConfig yard = .ok yardSchema ∧
      (Catalog.build yardSchema yardConnect).1.Reflects (Catalog.build yardSchema yardConnect).2
        yardSchema yardConnect ∧
      Sql.Renderer.render ⟨(Catalog.build yardSchema yardConnect).1.toResolver, .mysql, .preserve⟩
          (.scan depot) .inline = (.error (.unresolvedMapping "Depot" none), .inline) := by
  have accepted : Schema.ofConfig yard = .ok yardSchema :=
    Outcome.eq_ok_of_toOption (by decide +kernel)
  obtain ⟨reflects, renders⟩ := Catalog.build_reflects accepted yardConnect
  obtain ⟨_, unresolved⟩ := renders .mysql .preserve (.scan depot) .inline
  exact ⟨accepted, reflects, unresolved (by decide +kernel) (by decide +kernel)
    (List.pairwise_singleton _ _)⟩

end Cars
end ObjectQuery
