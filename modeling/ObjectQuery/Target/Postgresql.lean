/-
PostgreSQL servers.

Host, database, user and password are taken from the URL as they stand there, with their escapes.
-/
import ObjectQuery.Target.Sqlite

namespace ObjectQuery
namespace Target

/-- How to reach a PostgreSQL database. -/
structure Postgresql where
  host : String
  port : Option Nat
  database : String
  user : Option String
  password : Option String
  applicationName : Option String
  options : Option String
  deriving DecidableEq

namespace Postgresql

/-- The last value of a query parameter. -/
def parameter? (url : Url) (name : String) : Option String :=
  url.queryPairs.reverse.lookup name

def ofUrl (text : String) : Except Error Postgresql := do
  let url ← readUrl text
  if url.scheme ≠ "postgresql" ∧ url.scheme ≠ "postgres" then
    .error (.invalidConnectionUrl
      ("connection URL does not have a \x60postgresql\x60 scheme; url=" ++ text))
  else
    match url.host with
    | none => .error (.invalidConnectionUrl ("missing host in connection URL; url=" ++ text))
    | some host =>
      let database := url.pathAfterSlashes
      if database = "" then
        .error (.invalidConnectionUrl
          ("no database specified - missing path in connection URL; url=" ++ text))
      else
        return ⟨host, url.port, database, if url.username = "" then none else some url.username,
          url.password, parameter? url "application_name", parameter? url "options"⟩

/-- Replace user and password where they are given. -/
def withCredentials (target : Postgresql) (user password : Option String) : Postgresql :=
  { target with user := user.or target.user, password := password.or target.password }

end Postgresql
end Target
end ObjectQuery
