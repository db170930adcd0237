/-
MySQL servers.

Database, user and password are taken from the URL with escapes resolved. The client knows a fixed
set of parameters and refuses any other, and any value that a parameter does not take.
-/
import ObjectQuery.Number.Integer
import ObjectQuery.Target.Sqlite

namespace ObjectQuery
namespace Target

/-- How to reach a MySQL database. -/
structure Mysql where
  host : String
  port : Nat
  database : Option String
  user : Option String
  password : Option String
  deriving DecidableEq

namespace Mysql

/-- The values that a parameter takes. -/
inductive Parameter
  | unsigned (bits : Nat)
  | switch
  | compression
  | text
  deriving DecidableEq

/-- The parameters that the client knows. -/
def parameters : List (String × Parameter) :=
  [("pool_min", .unsigned 64), ("pool_max", .unsigned 64),
    ("inactive_connection_ttl", .unsigned 64), ("ttl_check_interval", .unsigned 64),
    ("conn_ttl", .unsigned 64), ("abs_conn_ttl", .unsigned 64),
    ("abs_conn_ttl_jitter", .unsigned 64), ("tcp_keepalive", .unsigned 32),
    ("max_allowed_packet", .unsigned 64), ("wait_timeout", .unsigned 64),
    ("enable_cleartext_plugin", .switch), ("reset_connection", .switch), ("tcp_nodelay", .switch),
    ("stmt_cache_size", .unsigned 64), ("prefer_socket", .switch), ("secure_auth", .switch),
    ("client_found_rows", .switch), ("socket", .text), ("compression", .compression),
    ("require_ssl", .switch), ("verify_ca", .switch), ("verify_identity", .switch),
    ("built_in_roots", .switch), ("disable_built_in_roots", .switch)]

def Parameter.takes (parameter : Parameter) (value : String) : Bool :=
  match parameter with
  | .unsigned bits => ((Number.IntegerRange.unsigned bits).read value).toOption.isSome
  | .switch => value = "true" || value = "false"
  | .compression =>
    ["fast", "on", "true", "best"].contains value
      || (value.toList.length = 1 && value.toList.all Char.isDigit)
  | .text => true

/-- The last number given for a parameter. -/
def numberOr (default : Nat) (pairs : List (String × String)) (name : String) : Nat :=
  match pairs.reverse.lookup name with
  | some value =>
    match (Number.IntegerRange.unsigned 64).read value with
    | .ok number => number.toNat
    | .error _ => default
  | none => default

/-- Refuse parameters that the client does not know, and values that they do not take. -/
def verifyParameters : List (String × String) → Except Error Unit
  | [] => .ok ()
  | (name, value) :: rest =>
    match parameters.lookup name with
    | none =>
      .error (.invalidConnectionUrl ("Unknown connection URL parameter \x60" ++ name ++ "'"))
    | some parameter =>
      if parameter.takes value then verifyParameters rest
      else
        .error (.invalidConnectionUrl
          ("Invalid value \x60" ++ value ++ "' for connection URL parameter \x60" ++ name ++ "'"))

/-- Refuse a pool whose least size is above its greatest. -/
def verifyPool (pairs : List (String × String)) : Except Error Unit :=
  let least := numberOr 10 pairs "pool_min"
  let greatest := numberOr 100 pairs "pool_max"
  if least ≤ greatest then .ok ()
  else
    .error (.invalidConnectionUrl
      ("Invalid pool constraints: pool_min (" ++ toString least ++ ") > pool_max ("
        ++ toString greatest ++ ")."))

/-- The text behind escapes, unless it is empty. -/
def unescaped? (text : String) : Option String :=
  if text = "" then none else some (Url.unescapeText text)

def firstSegment (path : String) : String :=
  String.ofList ((path.toList.drop 1).takeWhile (· ≠ '/'))

def ofUrl (text : String) : Except Error Mysql := do
  let url ← readUrl text
  if url.scheme ≠ "mysql" then
    .error (.invalidConnectionUrl
      ("connection url does not have a \x60mysql\x60 scheme; url=" ++ text))
  else
    match url.host with
    | none => .error (.invalidConnectionUrl ("missing host in connection URL; url=" ++ text))
    | some host =>
      if url.pathAfterSlashes = "" then
        .error (.invalidConnectionUrl
          ("no database specified - missing path in connection URL; url=" ++ text))
      else
        verifyParameters url.queryPairs
        verifyPool url.queryPairs
        return ⟨host, url.port.getD 3306, unescaped? (firstSegment url.path),
          unescaped? url.username, url.password.map Url.unescapeText⟩

/-- Replace user and password where they are given. -/
def withCredentials (target : Mysql) (user password : Option String) : Mysql :=
  { target with user := user.or target.user, password := password.or target.password }

end Mysql
end Target
end ObjectQuery
