/-
Queries in JSON: writing.

The object type is always written; what is empty or absent otherwise is left out.
-/
import ObjectQuery.Json.Writer
import ObjectQuery.Query.Basic

namespace ObjectQuery

/-- An object's text from members whose values are already text. -/
def writeMemberTexts (members : List (String × String)) : String :=
  "\x7b" ++ ",".intercalate (members.map fun member => Json.writeString member.1 ++ ":" ++ member.2)
    ++ "\x7d"

/-- An array's text from elements that are already text. -/
def writeElementTexts (elements : List String) : String := "[" ++ ",".intercalate elements ++ "]"

/-- An entry of an order as JSON text. -/
def OrderEntry.write (entry : OrderEntry) : String :=
  writeMemberTexts
    (("field", Json.writeString entry.field)
      :: (entry.spelling.map fun spelling => ("direction", Json.writeString spelling)).toList)

namespace Query

def writtenMembers (query : Query) : List (String × String) :=
  [("from", (query.objectName.map Json.writeString).getD "null")]
    ++ (if query.select.isEmpty then []
      else [("select", writeElementTexts (query.select.map Json.writeString))])
    ++ (if query.filters.entries.isEmpty then []
      else
        [("where",
          writeMemberTexts (query.filters.entries.map fun entry => (entry.1, entry.2.write)))])
    ++ (if query.order.isEmpty then []
      else [("orderBy", writeElementTexts (query.order.map OrderEntry.write))])
    ++ (query.limit.map fun count => ("limit", toString count.toInt)).toList
    ++ (query.offset.map fun count => ("offset", toString count.toInt)).toList

/-- A query as JSON text. -/
def write (query : Query) : String := writeMemberTexts query.writtenMembers

end Query
end ObjectQuery
