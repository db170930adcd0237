/-
Where the URLs lead that are put together from a configuration.

The parts are put together as they are, and a URL gives some characters a meaning of its own.  Host
and port are always the configured ones.  The database is the configured one exactly if its text is
plain for the kind of database: the clients read different parts of the path, one of them without
resolving escapes.
-/
import ObjectQuery.Proofs.Url.Keeping
import ObjectQuery.Target.Basic

namespace ObjectQuery

open Outcome

namespace DataSource

/-- Whether a target is on the configured server. A file is on none. -/
def Reaches (source : DataSource) : Target → Prop
  | .sqlite _ => True
  | .postgresql server =>
    source.host = some server.host ∧
      server.port = some (source.port.getD DatabaseKind.postgresql.defaultPort).toNat
  | .mysql server =>
    source.host = some server.host ∧
      server.port = (source.port.getD DatabaseKind.mysql.defaultPort).toNat

/-- Whether a target is the configured database, or one in memory if none is configured. -/
def Opens (source : DataSource) : Target → Prop
  | .sqlite file => file = (present? source.database).filter (· ≠ ":memory:")
  | .postgresql server => source.database = some server.database
  | .mysql server => source.database = server.database

instance (source : DataSource) (target : Target) : Decidable (source.Opens target) :=
  match target with
  | .sqlite file => inferInstanceAs (Decidable (file = _))
  | .postgresql server => inferInstanceAs (Decidable (_ = some server.database))
  | .mysql server => inferInstanceAs (Decidable (_ = server.database))

/-- Whether the text of the configured database comes back out of a URL. -/
def IsPlain (source : DataSource) : DatabaseKind → Prop
  | .sqlite => ∀ path ∈ present? source.database, path ≠ ":memory:" → Url.PlainFile path.toList
  | .postgresql => ∀ database ∈ source.database, Url.PlainPath database.toList
  | .mysql =>
    ∀ database ∈ source.database,
      Url.PlainSegment source.params.entries.isEmpty database.toList

end DataSource

/-! ## Files -/

namespace Target

theorem readUrl_eq_ok {text : String} {url : Url} :
    readUrl text = .ok url ↔ Url.read text = .ok url := by
  rw [readUrl]
  cases Url.read text <;> simp

theorem File.ofUrl_eq_ok {text : String} {file : File} (opened : File.ofUrl text = .ok file) :
    ∃ url, Url.read text = .ok url ∧
      (url.path = ":memory:" ∧ file = none ∨
        ∃ path, url.path ≠ ":memory:" ∧ Url.unescapeText? url.path = some path ∧
          file = some path) := by
  simp only [File.ofUrl] at opened
  obtain ⟨url, read, opened⟩ := bind_eq_ok.mp opened
  refine ⟨url, readUrl_eq_ok.mp read, ?_⟩
  split at opened
  · contradiction
  split at opened
  · contradiction
  split at opened
  · next memory =>
    cases opened
    exact .inl ⟨memory, rfl⟩
  · next memory =>
    split at opened
    · next path found =>
      cases opened
      exact .inr ⟨path, memory, found, rfl⟩
    · contradiction

/-- The file of a path is opened if and only if the path is plain. -/
theorem File.ofUrl_eq_some_iff {path : String} (other : path ≠ ":memory:") {file : File}
    (opened : File.ofUrl ("sqlite:" ++ path) = .ok file) :
    file = some path ↔ Url.PlainFile path.toList := by
  obtain ⟨url, read, found⟩ := File.ofUrl_eq_ok opened
  have spelled : ("sqlite:" ++ path).toList = "sqlite".toList ++ ':' :: path.toList := by
    rw [String.toList_append]
    rfl
  have stands := (Url.plainScheme_name .sqlite).decode?_path_iff spelled read
  rw [String.ofList_toList] at stands
  rw [← stands]
  obtain ⟨memory, rfl⟩ | ⟨path', memory, found, rfl⟩ := found
  · refine iff_of_false (by simp) fun decoded => other ?_
    have same := Text.Utf8.decode?_encode ":memory:"
    rw [Text.Utf8.encode, ← Url.unescape_of_hasEscape_eq_false rfl, ← memory, decoded] at same
    exact (Option.some.inj same).trans memory
  · rw [Url.unescapeText?] at found
    rw [found]

end Target

namespace DataSource

theorem ofUrl_memory : Target.File.ofUrl "sqlite::memory:" = .ok none := by
  rfl

theorem opens_sqlite_iff {source : DataSource} {file : Target.File}
    (opened : Target.File.ofUrl (fileUrl source.database) = .ok file) :
    source.Opens (.sqlite file) ↔ source.IsPlain .sqlite := by
  simp only [Opens, IsPlain]
  simp only [fileUrl] at opened
  cases found : present? source.database with
  | none =>
    rw [found] at opened
    cases ofUrl_memory.symm.trans opened
    simp
  | some path =>
    rw [found] at opened
    simp only at opened
    rw [Option.filter_some]
    by_cases memory : path = ":memory:"
    · rw [if_pos memory] at opened
      cases ofUrl_memory.symm.trans opened
      simp [memory]
    · rw [if_neg memory] at opened
      simp [memory, Target.File.ofUrl_eq_some_iff memory opened]

/-! ## Servers -/

/-- The parameters of a URL after their question mark, if there are any. -/
def query? (source : DataSource) : Option (List Char) :=
  if source.params.entries.isEmpty then none
  else some ("&".intercalate (source.params.entries.map fun entry => entry.1 ++ "=" ++ entry.2)).toList

theorem isNone_query? (source : DataSource) :
    source.query?.isNone = source.params.entries.isEmpty := by
  rw [query?]
  cases source.params.entries.isEmpty <;> rfl

theorem toList_paramsText (source : DataSource) :
    (paramsText source.params).toList = (source.query?.map ('?' :: ·)).getD [] := by
  rw [paramsText, query?]
  split
  · rfl
  · rw [String.toList_append]
    rfl

/-- What comes after the port. -/
def urlEnd (source : DataSource) : List Char :=
  (match source.database with
    | some database => '/' :: database.toList
    | none => []) ++ (source.query?.map ('?' :: ·)).getD []

/-- The path that a URL takes of the configured database. -/
def urlPath (source : DataSource) : String :=
  match source.database with
  | some database =>
    String.ofList (Url.normalPath (Url.seen source.params.entries.isEmpty database.toList))
  | none => ""

theorem toList_serverUrl (kind : DatabaseKind) (host : String) (source : DataSource) :
    (serverUrl kind host source).toList = kind.name.toList ++ ':' :: '/' :: '/' ::
      (Url.authorityText host.toList (source.port.getD kind.defaultPort) ++ source.urlEnd) := by
  rw [serverUrl, urlEnd, ← toList_paramsText, Url.authorityText]
  simp only [String.toList_append]
  cases source.database <;> simp [String.toList_append]

theorem endsAuthority_urlEnd (source : DataSource) :
    ∀ c ∈ (Url.counting source.urlEnd).head?, Url.endsAuthority false c = true := by
  have first {c : Char} (visible : ' ' < c) (ends : Url.endsAuthority false c = true)
      (cs : List Char) : ∀ d ∈ (Url.counting (c :: cs)).head?, Url.endsAuthority false d = true := by
    rw [Url.counting_cons visible]
    rintro _ ⟨⟩
    exact ends
  rw [urlEnd]
  cases source.database with
  | some database => exact first (by decide) rfl _
  | none =>
    cases source.query? with
    | some query => exact first (by decide) rfl _
    | none => exact fun _ mem => nomatch mem

theorem readPath_urlEnd (source : DataSource) :
    Url.readPath false (Url.splitQuery (Url.counting source.urlEnd)).1 = source.urlPath := by
  rw [urlEnd, urlPath]
  cases source.database with
  | some database =>
    simp only [List.cons_append]
    rw [Url.splitQuery_counting, isNone_query?]
    rfl
  | none =>
    cases source.query? with
    | some query =>
      simp only [List.nil_append, Option.map_some, Option.getD_some]
      rw [Url.counting_cons (by decide), Url.splitQuery_fst]
      rfl
    | none => rfl

theorem read_serverUrl {host : String} (named : Url.IsHostName host) (nonempty : host ≠ "")
    (kind : DatabaseKind) (source : DataSource) :
    ∃ query, Url.read (serverUrl kind host source) =
      .ok ⟨kind.name, "", none, some host, some (source.port.getD kind.defaultPort).toNat,
        source.urlPath, query⟩ := by
  have plain := Url.plainScheme_name kind
  have whole := Url.isAuthority_name plain.other named (by simpa using nonempty)
    (source.port.getD kind.defaultPort)
  have read := plain.read_authority whole source.endsAuthority_urlEnd
    (toList_serverUrl kind host source)
  rw [readPath_urlEnd, String.ofList_toList] at read
  exact ⟨_, read⟩

end DataSource

namespace Target

theorem Postgresql.ofUrl_eq_ok {text : String} {server : Postgresql}
    (opened : Postgresql.ofUrl text = .ok server) {url : Url} (read : Url.read text = .ok url) :
    url.pathAfterSlashes ≠ "" ∧ url.host = some server.host ∧ server.port = url.port ∧
      server.database = url.pathAfterSlashes := by
  simp only [Postgresql.ofUrl] at opened
  rw [readUrl_eq_ok.mpr read, ok_bind] at opened
  split at opened
  · contradiction
  split at opened
  · contradiction
  · next host found =>
    split at opened
    · contradiction
    · next present =>
      cases opened
      exact ⟨present, found, rfl, rfl⟩

theorem Mysql.ofUrl_eq_ok {text : String} {server : Mysql} (opened : Mysql.ofUrl text = .ok server)
    {url : Url} (read : Url.read text = .ok url) :
    url.pathAfterSlashes ≠ "" ∧ url.host = some server.host ∧ server.port = url.port.getD 3306 ∧
      server.database = unescaped? (firstSegment url.path) := by
  simp only [Mysql.ofUrl] at opened
  rw [readUrl_eq_ok.mpr read, ok_bind] at opened
  split at opened
  · contradiction
  split at opened
  · contradiction
  · next host found =>
    split at opened
    · contradiction
    · next present =>
      obtain ⟨-, opened⟩ := check_bind_eq_ok.mp opened
      obtain ⟨-, opened⟩ := check_bind_eq_ok.mp opened
      cases opened
      exact ⟨present, found, rfl, rfl⟩

end Target

namespace DataSource

variable {source : DataSource}

/-- A URL without a database is refused. -/
theorem exists_database {url : Url} (path : url.path = source.urlPath)
    (present : url.pathAfterSlashes ≠ "") :
    ∃ database, source.database = some database ∧ database ≠ "" ∧ url.path =
      String.ofList (Url.normalPath (Url.seen source.params.entries.isEmpty database.toList)) := by
  rw [urlPath] at path
  split at path
  · next database found =>
    refine ⟨database, found, ?_, path⟩
    rintro rfl
    refine present ?_
    have nothing : Url.seen source.params.entries.isEmpty [] = [] :=
      List.sublist_nil.mp (Url.seen_sublist _ [])
    rw [Url.pathAfterSlashes, path, String.toList_empty, nothing]
    rfl
  · refine absurd ?_ present
    rw [Url.pathAfterSlashes, path]
    rfl

section

variable {host : String} (named : Url.IsHostName host) (nonempty : host ≠ "")
include named nonempty

theorem postgresql_of_serverUrl {server : Target.Postgresql}
    (opened : Target.Postgresql.ofUrl (serverUrl .postgresql host source) = .ok server) :
    server.host = host ∧
      server.port = some (source.port.getD DatabaseKind.postgresql.defaultPort).toNat ∧
        (source.database = some server.database ↔ source.IsPlain .postgresql) := by
  obtain ⟨query, read⟩ := read_serverUrl named nonempty .postgresql source
  obtain ⟨present, host_eq, port_eq, database_eq⟩ := Target.Postgresql.ofUrl_eq_ok opened read
  obtain ⟨database, found, -, path⟩ := exists_database rfl present
  refine ⟨(Option.some.inj host_eq).symm, port_eq, ?_⟩
  have plain := Url.afterSlashes_eq_iff source.params.entries.isEmpty database.toList
  rw [database_eq, Url.pathAfterSlashes, path, String.toList_ofList, IsPlain, found]
  simp only [Option.mem_some_iff, forall_eq', Option.some.injEq]
  rw [← plain, eq_comm, ← String.toList_inj, String.toList_ofList]

theorem mysql_of_serverUrl {server : Target.Mysql}
    (opened : Target.Mysql.ofUrl (serverUrl .mysql host source) = .ok server) :
    server.host = host ∧
      server.port = (source.port.getD DatabaseKind.mysql.defaultPort).toNat ∧
        (source.database = server.database ↔ source.IsPlain .mysql) := by
  obtain ⟨query, read⟩ := read_serverUrl named nonempty .mysql source
  obtain ⟨present, host_eq, port_eq, database_eq⟩ := Target.Mysql.ofUrl_eq_ok opened read
  obtain ⟨database, found, filled, path⟩ := exists_database rfl present
  refine ⟨(Option.some.inj host_eq).symm, port_eq, ?_⟩
  have plain := Url.unescapeText_firstSegment_iff source.params.entries.isEmpty
    (show database.toList ≠ [] by simpa using filled)
  rw [database_eq, Target.Mysql.firstSegment, path, String.toList_ofList, IsPlain, found]
  simp only [Option.mem_some_iff, forall_eq']
  rw [← plain, String.ofList_toList, Target.Mysql.unescaped?]
  split
  · next nothing =>
    rw [nothing]
    refine iff_of_false (by simp) fun same => filled ?_
    rw [← same]
    rfl
  · rw [Option.some.injEq, eq_comm]

end

theorem present?_eq_some {text : Option String} {s : String} :
    present? text = some s ↔ text = some s ∧ s ≠ "" := by
  simp [present?, Option.filter_eq_some_iff]

theorem connectionUrl_of_server {kind : DatabaseKind} (server : kind ≠ .sqlite)
    (supported : source.kind = .ok kind) (synthesized : present? source.url = none) {url : String}
    (found : source.connectionUrl = .ok url) :
    ∃ host, source.host = some host ∧ host ≠ "" ∧ url = serverUrl kind host source := by
  simp only [connectionUrl, synthesized, supported, ok_bind] at found
  cases present : present? source.host with
  | none =>
    rw [present] at found
    cases kind with
    | sqlite => exact absurd rfl server
    | postgresql => cases found
    | mysql => cases found
  | some host =>
    obtain ⟨host_eq, nonempty⟩ := present?_eq_some.mp present
    refine ⟨host, host_eq, nonempty, ?_⟩
    rw [present] at found
    cases kind with
    | sqlite => exact absurd rfl server
    | postgresql => exact (pure_eq_ok.mp found).symm
    | mysql => exact (pure_eq_ok.mp found).symm

/-- The server is the configured one, and so is the database if and only if its text is plain. -/
theorem reaches_and_opens_iff {environment : Environment} {kind : DatabaseKind} {target : Target}
    (supported : source.kind = .ok kind) (synthesized : present? source.url = none)
    (named : kind ≠ .sqlite → ∀ host ∈ source.host, Url.IsHostName host)
    (built : source.target environment = .ok target) :
    source.Reaches target ∧ (source.Opens target ↔ source.IsPlain kind) := by
  rw [DataSource.target, supported, ok_bind] at built
  obtain ⟨url, found, built⟩ := bind_eq_ok.mp built
  cases kind with
  | sqlite =>
    simp only [connectionUrl, synthesized, supported, ok_bind] at found
    obtain rfl := pure_eq_ok.mp found
    obtain ⟨file, opened, built⟩ := bind_eq_ok.mp built
    obtain rfl := pure_eq_ok.mp built
    exact ⟨trivial, opens_sqlite_iff opened⟩
  | postgresql =>
    obtain ⟨host, host_eq, nonempty, rfl⟩ :=
      connectionUrl_of_server (by decide) supported synthesized found
    obtain ⟨server, opened, built⟩ := bind_eq_ok.mp built
    obtain rfl := pure_eq_ok.mp built
    obtain ⟨rfl, port, opens⟩ :=
      postgresql_of_serverUrl (named (by decide) host host_eq) nonempty opened
    exact ⟨⟨host_eq, port⟩, opens⟩
  | mysql =>
    obtain ⟨host, host_eq, nonempty, rfl⟩ :=
      connectionUrl_of_server (by decide) supported synthesized found
    obtain ⟨server, opened, built⟩ := bind_eq_ok.mp built
    obtain rfl := pure_eq_ok.mp built
    obtain ⟨rfl, port, opens⟩ := mysql_of_serverUrl (named (by decide) host host_eq) nonempty opened
    exact ⟨⟨host_eq, port⟩, opens⟩

end DataSource

namespace Cars

/-- A server of the fleet, whose database has a name with a hyphen. -/
def fleetServer : DataSource :=
  ⟨"fleet", "mysql", none, some "db.internal", none, some "fleet-cars",
    ⟨[("prefer_socket", "false")], by decide⟩, none, none, .lower⟩

/-- A database file with a question mark in its name. -/
def markedFile : DataSource :=
  ⟨"fleet", "sqlite", none, none, none, some "/tmp/a?b.db", .empty, none, none, .lower⟩

def unset : Environment := fun _ => none

def fleetTarget : Target := .mysql ⟨"db.internal", 3306, some "fleet-cars", none, none⟩

theorem reaches_fleetServer : fleetServer.target unset = .ok fleetTarget ∧
    fleetServer.Reaches fleetTarget ∧ fleetServer.Opens fleetTarget := by
  have supported : fleetServer.kind = .ok .mysql := rfl
  have named : ∀ host ∈ fleetServer.host, Url.IsHostName host := by
    rintro _ ⟨⟩
    decide
  have built : fleetServer.target unset = .ok fleetTarget := rfl
  have plain : fleetServer.IsPlain .mysql := by
    rintro _ ⟨⟩
    have verbatim : ∀ c ∈ "fleet-cars".toList, decide (Url.Verbatim c) = true :=
      List.all_eq_true.mp (by decide)
    exact ⟨Url.kept_of_verbatim fun c mem => of_decide_eq_true (verbatim c mem), by decide,
      by decide, by decide⟩
  have leads := DataSource.reaches_and_opens_iff supported rfl (fun _ => named) built
  exact ⟨built, leads.1, leads.2.mpr plain⟩

theorem not_opens_markedFile : markedFile.kind = .ok .sqlite ∧
    DataSource.present? markedFile.url = none ∧
      markedFile.target unset = .ok (.sqlite (some "/tmp/a")) ∧
        ¬markedFile.Opens (.sqlite (some "/tmp/a")) :=
  ⟨rfl, rfl, by rfl, by decide⟩

end Cars
end ObjectQuery
