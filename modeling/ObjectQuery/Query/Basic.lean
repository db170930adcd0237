/-
Queries against one object type, in logical names.

A query keeps what the request said, also where a part has no effect: an object type that is
blank, a direction that is no direction, a limit that is not positive.
-/
import ObjectQuery.Dict
import ObjectQuery.Error
import ObjectQuery.Json.Basic
import ObjectQuery.Text.Ascii
import ObjectQuery.Text.Blank

namespace ObjectQuery

inductive SortDirection
  | ascending
  | descending
  deriving DecidableEq

def SortDirection.keyword : SortDirection → String
  | .ascending => "ASC"
  | .descending => "DESC"

/-- An entry of a query's order: a field, and a direction as the request spells it. -/
structure OrderEntry where
  field : String
  spelling : Option String
  deriving DecidableEq

/-- The direction of an entry: descending if the request says so in any case, ascending for any
other spelling and for none. -/
def OrderEntry.direction (entry : OrderEntry) : SortDirection :=
  match entry.spelling with
  | some spelling =>
    if Text.sameIgnoringAsciiCase (Text.trim spelling) "desc" then .descending else .ascending
  | none => .ascending

structure Query where
  objectName : Option String
  select : List String
  filters : Dict Json
  order : List OrderEntry
  limit : Option Int64
  offset : Option Int64

namespace Query

def blank : Query := ⟨none, [], .empty, [], none, none⟩

/-- The name of the object type, which must be given and not be blank. -/
def objectType (query : Query) : Except Error String :=
  match query.objectName with
  | some name =>
    if Text.blank name then .error (.invalidQuery "query must specify 'from' object type")
    else .ok name
  | none => .error (.invalidQuery "query must specify 'from' object type")

end Query
end ObjectQuery
