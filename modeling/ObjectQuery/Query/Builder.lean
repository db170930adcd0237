/-
Queries built step by step instead of read.
-/
import ObjectQuery.Query.Basic

namespace ObjectQuery
namespace Query

def ofObjectType (name : String) : Query := { blank with objectName := some name }

/-- Select more fields. -/
def selecting (query : Query) (fields : List String) : Query :=
  { query with select := query.select ++ fields }

/-- Keep only rows in which a field has a value. -/
def filtering (query : Query) (field : String) (value : Json) : Query :=
  { query with filters := query.filters.insert field value }

def orderedBy (query : Query) (field : String) (direction : SortDirection) : Query :=
  { query with order := query.order ++ [⟨field, some direction.keyword⟩] }

/-- Return at most some rows. -/
def limitedTo (query : Query) (count : Int64) : Query := { query with limit := some count }

/-- Skip some rows. -/
def startingAt (query : Query) (count : Int64) : Query := { query with offset := some count }

end Query
end ObjectQuery
