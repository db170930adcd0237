/-
Data sources: where an external database is and how to log in.

A connection URL is given as a whole or put together from a host, a port, a database and parameters.
User name and password may be tokens that name a variable of the environment.
-/
import ObjectQuery.Dict
import ObjectQuery.Schema.DatabaseKind
import ObjectQuery.Schema.IdentifierCase

namespace ObjectQuery

/-- The variables of the environment that are set. -/
abbrev Environment : Type := String → Option String

/-- The name inside a token: what stands between a dollar sign with an opening brace and a closing
brace at the end. -/
def tokenName? (text : String) : Option String :=
  match text.toList with
  | '$' :: '\x7b' :: rest =>
    if rest.getLast? = some '\x7d' then some (String.ofList rest.dropLast) else none
  | _ => none

/-- The value of the variable that a token names. Any other text, and a token whose variable is not
set, stands for itself. -/
def Environment.resolve (environment : Environment) (text : String) : String :=
  ((tokenName? text).bind environment).getD text

/-- A configured data source. -/
structure DataSource where
  id : String
  type : String
  url : Option String
  host : Option String
  port : Option UInt16
  database : Option String
  params : Dict String
  username : Option String
  password : Option String
  identifierCase : IdentifierCase
  deriving DecidableEq

namespace DataSource

/-- The kind of database that the declared type stands for. -/
def kind (source : DataSource) : Except Error DatabaseKind :=
  match DatabaseKind.read? source.type with
  | some kind => .ok kind
  | none => .error (.ofFault (.unsupportedDataSourceType source.id source.type))

/-- The text unless it is absent or empty. -/
def present? (text : Option String) : Option String := text.filter (· ≠ "")

/-- A configured URL, for which a leading `jdbc:` is ignored. -/
def givenUrl (url : String) : String :=
  match url.toList with
  | 'j' :: 'd' :: 'b' :: 'c' :: ':' :: rest => String.ofList rest
  | _ => url

/-- The URL of a database file, or of a database in memory. -/
def fileUrl (database : Option String) : String :=
  match present? database with
  | some path => if path = ":memory:" then "sqlite::memory:" else "sqlite:" ++ path
  | none => "sqlite::memory:"

/-- The parameters of a URL, in their order. -/
def paramsText (params : Dict String) : String :=
  if params.entries.isEmpty then ""
  else "?" ++ "&".intercalate (params.entries.map fun entry => entry.1 ++ "=" ++ entry.2)

def serverUrl (kind : DatabaseKind) (host : String) (source : DataSource) : String :=
  kind.name ++ "://" ++ host ++ ":" ++ toString (source.port.getD kind.defaultPort)
    ++ (match source.database with
      | some database => "/" ++ database
      | none => "")
    ++ paramsText source.params

/-- The connection URL, put together when none is given. -/
def connectionUrl (source : DataSource) : Except Error String :=
  match present? source.url with
  | some url => .ok (givenUrl url)
  | none => do
    match ← source.kind with
    | .sqlite => return fileUrl source.database
    | kind =>
      match present? source.host with
      | some host => return serverUrl kind host source
      | none =>
        .error (.invalidConnectionUrl
          ("data source \x60" ++ source.id ++ "\x60 has neither a url nor a host"))

/-- The user name, with a token replaced by its variable. -/
def resolvedUsername (source : DataSource) (environment : Environment) : Option String :=
  source.username.map environment.resolve

/-- The password, with a token replaced by its variable. -/
def resolvedPassword (source : DataSource) (environment : Environment) : Option String :=
  source.password.map environment.resolve

end DataSource
end ObjectQuery
