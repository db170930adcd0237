/-
Types of columns and parameters in PostgreSQL.
-/

namespace ObjectQuery
namespace Cell
namespace Postgresql

/-- A type whose values are converted, or the name of another one. -/
inductive ColumnType
  | bool
  | int2
  | int4
  | int8
  | float4
  | float8
  | text
  | varchar
  | bpchar
  | name
  | unknown
  | date
  | time
  | timestamp
  | timestamptz
  | other (name : String)
  deriving DecidableEq

namespace ColumnType

/-- The types whose values are converted. -/
def known : List ColumnType :=
  [bool, int2, int4, int8, float4, float8, text, varchar, bpchar, name, unknown, date, time,
    timestamp, timestamptz]

def label : ColumnType → String
  | bool => "bool"
  | int2 => "int2"
  | int4 => "int4"
  | int8 => "int8"
  | float4 => "float4"
  | float8 => "float8"
  | text => "text"
  | varchar => "varchar"
  | bpchar => "bpchar"
  | name => "name"
  | unknown => "unknown"
  | date => "date"
  | time => "time"
  | timestamp => "timestamp"
  | timestamptz => "timestamptz"
  | other label => label

def ofLabel (label : String) : ColumnType :=
  (known.find? fun type => type.label == label).getD (other label)

def takesText : ColumnType → Bool
  | text | varchar | bpchar | name | unknown => true
  | _ => false

end ColumnType
end Postgresql
end Cell
end ObjectQuery
