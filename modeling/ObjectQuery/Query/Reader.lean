/-
Queries in JSON: reading.
-/
import ObjectQuery.Json.Decoder
import ObjectQuery.Query.Basic

namespace ObjectQuery

def OrderEntry.decoder : Decoder OrderEntry :=
  .record "OrderBy"
    [.required "field" [] Decoder.string fun field entry => { entry with field },
      .defaulted "direction" [] (.optional Decoder.string) fun spelling entry =>
        { entry with spelling }]
    ⟨"", none⟩

namespace Query

/-- A count in JSON, a signed word. -/
def countDecoder : Decoder Int64 := fun depth node =>
  (Decoder.integer "i64" (-9223372036854775808) 9223372036854775807 depth node).map Int64.ofInt

/-- A query in JSON. Each of its fields may be left out. -/
def decoder : Decoder Query :=
  .record "OntologyQuery"
    [.defaulted "from" [] (.optional Decoder.string) fun objectName query =>
        { query with objectName },
      .defaulted "select" [] (.list Decoder.string) fun select query => { query with select },
      .defaulted "where" [] (.dict Decoder.json) fun filters query => { query with filters },
      .defaulted "orderBy" ["order_by"] (.list OrderEntry.decoder) fun order query =>
        { query with order },
      .defaulted "limit" [] (.optional countDecoder) fun limit query => { query with limit },
      .defaulted "offset" [] (.optional countDecoder) fun offset query => { query with offset }]
    blank

def read (text : String) : Except Error Query :=
  match decoder.read text with
  | .ok query => .ok query
  | .error fault => .error (.invalidQuery fault.message)

end Query
end ObjectQuery
