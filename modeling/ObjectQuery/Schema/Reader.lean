/-
Schemas in JSON.

Fields of the configuration may come in any order and most may be left out; a table of fields names
each one, with the other names it goes by, in the order in which an array would list them.
-/
import ObjectQuery.Json.Decoder
import ObjectQuery.Schema.Basic

namespace ObjectQuery

namespace FieldType

/-- A declared type in JSON. -/
def decoder : Decoder FieldType := fun depth node => do
  match read (← Decoder.string depth node) with
  | .ok type => return type
  | .error e => .error (.refused e.message)

end FieldType

namespace Property

def decoder : Decoder Property :=
  .record "Property"
    [.required "name" [] Decoder.string fun name property => { property with name },
      .required "type" ["data_type"] FieldType.decoder fun type property =>
        { property with type }]
    ⟨"", .string⟩

end Property

namespace Mapping

/-- A mapping in JSON. Each of its fields may be left out. -/
def decoder : Decoder Mapping :=
  .record "DataSourceMapping"
    [.defaulted "connection_id" [] Decoder.string fun connectionId mapping =>
        { mapping with connectionId },
      .defaulted "table" [] Decoder.string fun table mapping => { mapping with table },
      .defaulted "id_column" [] Decoder.string fun idColumn mapping => { mapping with idColumn },
      .defaulted "field_mapping" [] (.dict Decoder.string) fun columns mapping =>
        { mapping with columns }]
    ⟨"", "", "", .empty⟩

end Mapping

namespace ObjectType

def decoder : Decoder ObjectType :=
  .record "ObjectType"
    [.required "name" [] Decoder.string fun name type => { type with name },
      .defaulted "properties" [] (.list Property.decoder) fun properties type =>
        { type with properties },
      .defaulted "data_source" [] (.optional Mapping.decoder) fun dataSource type =>
        { type with dataSource }]
    ⟨"", [], none⟩

end ObjectType

namespace IdentifierCase

/-- A letter case in JSON. -/
def decoder : Decoder IdentifierCase :=
  .variant [("upper", .upper), ("lower", .lower), ("preserve", .preserve)]

end IdentifierCase

namespace DataSource

def portDecoder : Decoder UInt16 := fun depth node =>
  (Decoder.integer "u16" 0 65535 depth node).map fun port => port.toNat.toUInt16

/-- A data source in JSON. Identifiers are in upper case unless it says otherwise. -/
def decoder : Decoder DataSource :=
  .record "DataSourceConfig"
    [.required "id" [] Decoder.string fun id source => { source with id },
      .required "type" [] Decoder.string fun type source => { source with type },
      .defaulted "jdbc_url" ["url"] (.optional Decoder.string) fun url source =>
        { source with url },
      .defaulted "host" [] (.optional Decoder.string) fun host source => { source with host },
      .defaulted "port" [] (.optional portDecoder) fun port source => { source with port },
      .defaulted "database" [] (.optional Decoder.string) fun database source =>
        { source with database },
      .defaulted "params" [] (.dict Decoder.string) fun params source => { source with params },
      .defaulted "username" [] (.optional Decoder.string) fun username source =>
        { source with username },
      .defaulted "password" [] (.optional Decoder.string) fun password source =>
        { source with password },
      .defaulted "identifier_case" [] IdentifierCase.decoder fun identifierCase source =>
        { source with identifierCase }]
    ⟨"", "", none, none, none, none, .empty, none, none, .upper⟩

end DataSource

namespace SchemaConfig

def decoder : Decoder SchemaConfig :=
  .record "SchemaConfig"
    [.defaulted "object_types" [] (.list ObjectType.decoder) fun objectTypes config =>
        { config with objectTypes },
      .defaulted "data_sources" [] (.list DataSource.decoder) fun dataSources config =>
        { config with dataSources }]
    ⟨[], []⟩

end SchemaConfig

def Schema.read (text : String) : Except Error Schema :=
  match SchemaConfig.decoder.read text with
  | .ok config => ofConfig config
  | .error fault => .error (.invalidSchema fault.message)

end ObjectQuery
