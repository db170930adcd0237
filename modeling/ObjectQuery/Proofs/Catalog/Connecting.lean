/-
Connecting the data sources of a schema.

A data source is connected or left out on its own account: what becomes of it is
`DataSource.connected`, whatever the others do.  `Connecting` describes a catalog half way through
its data sources, and `Connecting.step` says what one more data source adds.  Whatever the data
sources are called, the connections are open and unused when all are done (`IsUnused`).
-/
import Mathlib.Data.List.Nodup
import ObjectQuery.Catalog.Basic
import ObjectQuery.Proofs.Catalog.Switchboard
import ObjectQuery.Proofs.Dict
import ObjectQuery.Proofs.Outcome

namespace ObjectQuery

/-- Whether the kind of a data source is a supported one. -/
def DataSource.isSupported (source : DataSource) : Bool := source.kind.isOk

/-- Whether a data source is supported and can be connected to. -/
def DataSource.connects (connect : Connect) (source : DataSource) : Bool :=
  source.isSupported && (connect source).isOk

/-- What is kept of a list, seen through a name that goes along. -/
theorem map_filterMap_eq {α β γ : Type} {f : α → Option β} {h : β → γ} {g : α → γ}
    (along : ∀ a b, f a = some b → h b = g a) (l : List α) :
    (l.filterMap f).map h = (l.filter fun a => (f a).isSome).map g := by
  induction l with
  | nil => rfl
  | cons a rest ih =>
    cases found : f a with
    | none => simp [found, ih]
    | some b => simp [found, ih, along a b found]

namespace DataSource

variable {connect : Connect} {source : DataSource} {line : Line} {e : Error}

/-- The line of a data source's connection, or the reason why it has none. -/
def connected (connect : Connect) (source : DataSource) : Except Error Line :=
  match source.kind with
  | .error e => .error e
  | .ok kind =>
    match connect source with
    | .ok connection => .ok ⟨source.id, kind, connection, true⟩
    | .error e => .error (e.asConnectionFailure source.id)

def failure? (connect : Connect) (source : DataSource) : Option Error :=
  match source.connected connect with
  | .error e => some e
  | .ok _ => none

theorem isOk_connected (connect : Connect) (source : DataSource) :
    (source.connected connect).isOk = source.connects connect := by
  unfold connected connects isSupported
  cases source.kind with
  | error e => rfl
  | ok kind => cases connect source <;> rfl

theorem isSome_toOption_connected (connect : Connect) (source : DataSource) :
    (source.connected connect).toOption.isSome = source.connects connect := by
  rw [← isOk_connected]
  cases source.connected connect <;> rfl

theorem isSome_failure? (connect : Connect) (source : DataSource) :
    (source.failure? connect).isSome = !source.connects connect := by
  rw [← isOk_connected, failure?]
  cases source.connected connect <;> rfl

theorem connected_eq_ok (opened : source.connected connect = .ok line) :
    ∃ kind connection, source.kind = .ok kind ∧ connect source = .ok connection ∧
      line = ⟨source.id, kind, connection, true⟩ := by
  unfold connected at opened
  cases read : source.kind with
  | error e => simp [read] at opened
  | ok kind =>
    cases made : connect source with
    | error e => simp [read, made] at opened
    | ok connection =>
      simp only [read, made, Except.ok.injEq] at opened
      exact ⟨kind, connection, rfl, rfl, opened.symm⟩

theorem source_of_connected (opened : source.connected connect = .ok line) :
    line.source = source.id := by
  obtain ⟨_, _, _, _, rfl⟩ := connected_eq_ok opened
  rfl

theorem is_unsupported_of_failure? (failed : source.failure? connect = some e)
    (unsupported : source.isSupported = false) : e.is .unsupportedDataSourceType = true := by
  unfold isSupported kind at unsupported
  unfold failure? connected kind at failed
  cases read : DatabaseKind.read? source.type with
  | some kind => simp [read, Except.isOk, Except.toBool] at unsupported
  | none =>
    simp only [read, Option.some.injEq] at failed
    rw [← failed]
    simp [Error.is, Error.chain, Error.ofFault, Fault.kind?]

theorem is_connectionFailure_asConnectionFailure (e : Error) (id : String) :
    (e.asConnectionFailure id).is .connectionFailure = true := by
  unfold Error.asConnectionFailure
  split
  · assumption
  · simp [Error.is, Error.chain, Error.ofFault, Fault.kind?]

theorem is_connectionFailure_of_failure? (failed : source.failure? connect = some e)
    (supported : source.isSupported = true) : e.is .connectionFailure = true := by
  unfold isSupported at supported
  unfold failure? connected at failed
  cases read : source.kind with
  | error e => simp [read, Except.isOk, Except.toBool] at supported
  | ok kind =>
    cases made : connect source with
    | ok connection => simp [read, made] at failed
    | error reason =>
      simp only [read, made, Option.some.injEq] at failed
      rw [← failed]
      exact is_connectionFailure_asConnectionFailure reason source.id

end DataSource

namespace Catalog

variable {connect : Connect} {catalog : Catalog} {board : Switchboard}

/-! ## Connecting the data sources -/

theorem connectTo_of_ok {source : DataSource} {line : Line}
    (opened : source.connected connect = .ok line) :
    connectTo connect (catalog, board) source =
      ({ catalog with connections := catalog.connections.insert source.id board.lines.length },
        ⟨board.lines ++ [line], board.log ++ [.connect source.id]⟩) := by
  obtain ⟨kind, connection, read, made, rfl⟩ := DataSource.connected_eq_ok opened
  simp only [connectTo, read, made]
  rfl

theorem connectTo_of_error {source : DataSource} {e : Error}
    (failed : source.connected connect = .error e) :
    connectTo connect (catalog, board) source =
      ({ catalog with failures := catalog.failures.insert source.id e },
        ⟨board.lines,
          board.log ++ if source.isSupported then [.connect source.id] else []⟩) := by
  unfold DataSource.connected at failed
  cases read : source.kind with
  | error reason =>
    simp only [read, Except.error.injEq] at failed
    simp [connectTo, read, failed, DataSource.isSupported, Except.isOk, Except.toBool]
  | ok kind =>
    cases made : connect source with
    | ok connection => simp [read, made] at failed
    | error reason =>
      simp only [read, made, Except.error.injEq] at failed
      simp [connectTo, read, made, failed, DataSource.isSupported, Except.isOk, Except.toBool,
        Switchboard.record]

/-- A catalog half way, after the data sources `before`. -/
structure Connecting (connect : Connect) (before : List DataSource) (catalog : Catalog)
    (board : Switchboard) : Prop where
  log : board.log = (before.filter DataSource.isSupported).map fun source => .connect source.id
  lines : board.lines = before.filterMap fun source => (source.connected connect).toOption
  connections : catalog.connections.entries =
    board.lines.zipIdx.map fun entry => (entry.1.source, entry.2)
  failures : catalog.failures.entries =
    before.filterMap fun source => (source.failure? connect).map fun e => (source.id, e)

namespace Connecting

variable {before : List DataSource} {source : DataSource}

theorem names_connections (half : Connecting connect before catalog board) :
    catalog.connections.names = board.lines.map Line.source := by
  rw [Dict.names, half.connections, List.map_map]
  show (board.lines.zipIdx.map fun entry => entry.1.source) = _
  rw [show (fun entry : Line × Nat => entry.1.source) = Line.source ∘ Prod.fst from rfl,
    ← List.map_map, List.zipIdx_map_fst]

theorem names_connected (half : Connecting connect before catalog board) :
    catalog.connections.names =
      (before.filter (DataSource.connects connect)).map DataSource.id := by
  have along (source : DataSource) (line : Line)
      (opened : (source.connected connect).toOption = some line) : line.source = source.id :=
    DataSource.source_of_connected (Outcome.eq_ok_of_toOption opened)
  rw [half.names_connections, half.lines, map_filterMap_eq along]
  simp only [DataSource.isSome_toOption_connected]

theorem names_failures (half : Connecting connect before catalog board) :
    catalog.failures.names =
      (before.filter fun source => !source.connects connect).map DataSource.id := by
  have along (source : DataSource) (entry : String × Error)
      (failed : ((source.failure? connect).map fun e => (source.id, e)) = some entry) :
      entry.1 = source.id := by
    obtain ⟨e, _, rfl⟩ := Option.map_eq_some_iff.mp failed
    rfl
  rw [Dict.names, half.failures, map_filterMap_eq along]
  simp only [Option.isSome_map, DataSource.isSome_failure?]

/-- One more data source, of a new name. -/
theorem step (half : Connecting connect before catalog board) (fresh : source.id ∉ before.map DataSource.id) :
    Connecting connect (before ++ [source]) (connectTo connect (catalog, board) source).1
      (connectTo connect (catalog, board) source).2 := by
  have new_of {names : List String} {p : DataSource → Bool}
      (same : names = (before.filter p).map DataSource.id) : source.id ∉ names := by
    intro mem
    rw [same] at mem
    obtain ⟨earlier, kept, named⟩ := List.mem_map.mp mem
    exact fresh (List.mem_map.mpr ⟨earlier, List.mem_of_mem_filter kept, named⟩)
  have absent {α : Type} {d : Dict α} (new : source.id ∉ d.names) : d.contains source.id = false := by
    by_contra present
    rw [Bool.not_eq_false] at present
    exact new (Dict.contains_iff.mp present)
  cases outcome : source.connected connect with
  | ok line =>
    have supported : source.isSupported = true := by
      obtain ⟨_, _, read, _⟩ := DataSource.connected_eq_ok outcome
      simp [DataSource.isSupported, read, Except.isOk, Except.toBool]
    rw [connectTo_of_ok outcome]
    refine ⟨?_, ?_, ?_, ?_⟩
    · simp [half.log, supported]
    · simp [half.lines, outcome, Except.toOption]
    · have named : line.source = source.id := DataSource.source_of_connected outcome
      show (catalog.connections.insert source.id board.lines.length).entries = _
      rw [Dict.entries_insert_of_not_contains (absent (new_of half.names_connected)),
        half.connections, List.zipIdx_append, List.map_append]
      simp [named]
    · simp [half.failures, DataSource.failure?, outcome]
  | error e =>
    rw [connectTo_of_error outcome]
    refine ⟨?_, ?_, half.connections, ?_⟩
    · by_cases supported : source.isSupported = true
      · simp [half.log, supported]
      · simp [half.log, supported]
    · simp [half.lines, outcome, Except.toOption]
    · show (catalog.failures.insert source.id e).entries = _
      rw [Dict.entries_insert_of_not_contains (absent (new_of half.names_failures)), half.failures]
      simp [DataSource.failure?, outcome]

theorem foldl {rest : List DataSource} {state : Catalog × Switchboard}
    (half : Connecting connect before state.1 state.2)
    (distinct : ((before ++ rest).map DataSource.id).Nodup) :
    Connecting connect (before ++ rest) (rest.foldl (connectTo connect) state).1
      (rest.foldl (connectTo connect) state).2 := by
  induction rest generalizing before state with
  | nil => simpa using half
  | cons source rest ih =>
    rw [List.append_cons] at distinct ⊢
    have fresh : source.id ∉ before.map DataSource.id := by
      intro mem
      rw [List.map_append, List.map_append, List.nodup_append, List.nodup_append] at distinct
      exact distinct.1.2.2 _ mem _ (List.mem_singleton_self _) rfl
    have stepped : Connecting connect (before ++ [source]) (connectTo connect state source).1
        (connectTo connect state source).2 := half.step fresh
    rw [List.foldl_cons]
    exact ih stepped distinct

/-- The connection of a data source is the one that was made for it. -/
theorem lines_of_get? (half : Connecting connect before catalog board)
    (distinct : (before.map DataSource.id).Nodup) (mem : source ∈ before) {line : Nat}
    (found : catalog.connections.get? source.id = some line) :
    ∃ opened, source.connected connect = .ok opened ∧ board.lines[line]? = some opened := by
  rw [Dict.get?_eq_some_iff, half.connections, List.mem_map] at found
  obtain ⟨⟨opened, position⟩, listed, named⟩ := found
  obtain ⟨own, rfl⟩ := Prod.mk.inj named
  rw [List.mem_zipIdx_iff_getElem?] at listed
  have kept := List.mem_of_getElem? listed
  rw [half.lines, List.mem_filterMap] at kept
  obtain ⟨other, other_mem, made⟩ := kept
  have made := Outcome.eq_ok_of_toOption made
  have same : other.id = source.id := (DataSource.source_of_connected made).symm.trans own
  have same := List.inj_on_of_nodup_map distinct other_mem mem same
  exact ⟨opened, same ▸ made, listed⟩

end Connecting

/-! ## Unused connections -/

variable {state : Catalog × Switchboard}

/-- A catalog whose connections are open and have not been used. -/
structure IsUnused (catalog : Catalog) (board : Switchboard) : Prop where
  opened : ∀ line ∈ board.lines, line.isOpen = true
  silent : ∀ event ∈ board.log, event.line? = none
  known : ∀ line ∈ catalog.connections.values, line < board.lines.length
  distinct : catalog.connections.values.Nodup

theorem IsUnused.connectTo (unused : state.1.IsUnused state.2)
    (source : DataSource) :
    (connectTo connect state source).1.IsUnused (connectTo connect state source).2 := by
  cases outcome : source.connected connect with
  | error e =>
    rw [connectTo_of_error outcome]
    refine ⟨unused.opened, fun event mem => ?_, unused.known, unused.distinct⟩
    rcases List.mem_append.mp mem with earlier | last
    · exact unused.silent event earlier
    · by_cases supported : source.isSupported = true
      · rw [if_pos supported, List.mem_singleton] at last
        rw [last, Event.line?]
      · simp [supported] at last
  | ok line =>
    rw [connectTo_of_ok outcome]
    refine ⟨fun opened mem => ?_, fun event mem => ?_, fun number mem => ?_, ?_⟩
    · rcases List.mem_append.mp mem with earlier | last
      · exact unused.opened opened earlier
      · obtain ⟨_, _, _, _, made⟩ := DataSource.connected_eq_ok outcome
        rw [List.mem_singleton.mp last, made]
    · rcases List.mem_append.mp mem with earlier | last
      · exact unused.silent event earlier
      · rw [List.mem_singleton.mp last, Event.line?]
    · rw [List.length_append, List.length_singleton]
      rcases Dict.mem_values_insert mem with rfl | before
      · exact Nat.lt_succ_self _
      · exact Nat.lt_succ_of_lt (unused.known number before)
    · -- The new number is that of none of the connections before.
      have fresh : state.2.lines.length ∉ state.1.connections.values := fun mem =>
        Nat.lt_irrefl _ (unused.known _ mem)
      exact Dict.nodup_values_insert fresh unused.distinct

theorem IsUnused.foldl_connectTo (unused : state.1.IsUnused state.2)
    (sources : List DataSource) :
    (sources.foldl (Catalog.connectTo connect) state).1.IsUnused
      (sources.foldl (Catalog.connectTo connect) state).2 := by
  induction sources generalizing state with
  | nil => exact unused
  | cons source rest ih =>
    have stepped : (Catalog.connectTo connect state source).1.IsUnused
        (Catalog.connectTo connect state source).2 := unused.connectTo source
    rw [List.foldl_cons]
    exact ih stepped

theorem isUnused_unconnected (schema : Schema) : (unconnected schema).IsUnused .empty :=
  ⟨fun _ mem => absurd mem List.not_mem_nil, fun _ mem => absurd mem List.not_mem_nil,
    fun _ mem => absurd mem List.not_mem_nil, List.nodup_nil⟩

theorem IsUnused.isClosed_eq_false (unused : catalog.IsUnused board) {line : Nat}
    (listed : line < board.lines.length) : board.isClosed line = false := by
  rw [Switchboard.isClosed_eq_false_iff]
  exact ⟨board.lines[line], List.getElem?_eq_getElem listed,
    unused.opened _ (List.getElem_mem listed)⟩

end Catalog
end ObjectQuery
