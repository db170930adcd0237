/-
The kinds of database that can be connected to.
-/
import ObjectQuery.Error
import ObjectQuery.Text.Ascii
import ObjectQuery.Text.Blank

namespace ObjectQuery

inductive DatabaseKind
  | postgresql
  | mysql
  | sqlite
  deriving DecidableEq

namespace DatabaseKind

/-- The kind's own name, which is also the scheme of its connection URLs. -/
def name : DatabaseKind → String
  | postgresql => "postgresql"
  | mysql => "mysql"
  | sqlite => "sqlite"

/-- The port of a server that is given without one. A file has none. -/
def defaultPort : DatabaseKind → UInt16
  | postgresql => 5432
  | mysql => 3306
  | sqlite => 0

/-- The kind that a name stands for, whatever its case and the white space around it. -/
def read? (text : String) : Option DatabaseKind :=
  [("postgresql", postgresql), ("postgres", postgresql), ("mysql", mysql),
    ("sqlite", sqlite)].lookup
    (Text.asciiLower (Text.trim text))

/-- The kind that a name stands for, or an error that quotes the name. -/
def read (text : String) : Except Error DatabaseKind :=
  match read? text with
  | some kind => .ok kind
  | none => .error (.adhoc ("unknown database kind \x60" ++ text ++ "\x60"))

end DatabaseKind
end ObjectQuery
