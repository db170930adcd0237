/-
Targets: the database that a data source leads to.
-/
import ObjectQuery.Schema.DataSource
import ObjectQuery.Target.Mysql
import ObjectQuery.Target.Postgresql

namespace ObjectQuery

/-- A database, and how to reach it. -/
inductive Target
  | sqlite (file : Target.File)
  | postgresql (server : Target.Postgresql)
  | mysql (server : Target.Mysql)
  deriving DecidableEq

/-- The database of a data source. User name and password of the configuration take the place of
those in the URL. -/
def DataSource.target (source : DataSource) (environment : Environment) : Except Error Target := do
  let kind ← source.kind
  let url ← source.connectionUrl
  let user := source.resolvedUsername environment
  let password := source.resolvedPassword environment
  match kind with
  | .mysql => return .mysql ((← Target.Mysql.ofUrl url).withCredentials user password)
  | .postgresql =>
    return .postgresql ((← Target.Postgresql.ofUrl url).withCredentials user password)
  | .sqlite => return .sqlite (← Target.File.ofUrl url)

end ObjectQuery
