/-
What makes an object type sound.

Properties have names of their own, different from each other and from the id. Columns are mapped
from declared properties, and no two columns of an object type, the id column included, agree in
upper or in lower case: whatever case identifiers are rendered in, a column leads back to one field.
-/
import ObjectQuery.Schema.IdentifierCase
import ObjectQuery.Schema.ObjectType

namespace ObjectQuery
namespace ObjectType

/-- Whether two columns cannot be told apart in upper case or in lower case. -/
def columnsCollide (a b : String) : Bool :=
  Text.upper a == Text.upper b || Text.lower a == Text.lower b

/-- Check property names, given the names that came before. -/
def verifyProperties (type : ObjectType) : List String → List Property → Except Error Unit
  | _, [] => .ok ()
  | seen, property :: rest =>
    if property.name = "" then
      .error (.invalidSchema
        ("object type \x60" ++ type.name ++ "\x60 declares a property with an empty name"))
    else if property.name = idField then
      .error (.invalidSchema
        ("object type \x60" ++ type.name ++ "\x60 declares property \x60" ++ idField
          ++ "\x60, which is reserved for the id field"))
    else if property.name ∈ seen then
      .error (.invalidSchema
        ("object type \x60" ++ type.name ++ "\x60 declares property \x60" ++ property.name
          ++ "\x60 more than once"))
    else verifyProperties type (property.name :: seen) rest

/-- Check mapped columns, given the columns that came before. -/
def verifyColumns (type : ObjectType) :
    List String → List (String × String) → Except Error Unit
  | _, [] => .ok ()
  | seen, (property, column) :: rest =>
    if (type.property? property).isNone then
      .error (.invalidSchema
        ("field mapping of \x60" ++ type.name ++ "\x60 names undeclared property \x60" ++ property
          ++ "\x60"))
    else if column = "" then
      .error (.invalidSchema
        ("property \x60" ++ property ++ "\x60 of \x60" ++ type.name
          ++ "\x60 is mapped to an empty column name"))
    else if seen.any (columnsCollide column) then
      .error (.invalidSchema
        ("column \x60" ++ column ++ "\x60 of \x60" ++ type.name ++ "\x60 is mapped more than once"))
    else verifyColumns type (column :: seen) rest

/-- Check a mapping. An id column that is not named takes no part. -/
def verifyMapping (type : ObjectType) (mapping : Mapping) : Except Error Unit :=
  verifyColumns type (if mapping.idColumn = "" then [] else [mapping.idColumn])
    mapping.columns.entries

/-- Check an object type, its mapping too when that is not fully configured. -/
def verify (type : ObjectType) : Except Error Unit := do
  if type.name = "" then
    .error (.invalidSchema "object type name must not be empty")
  else
    verifyProperties type [] type.properties
    match type.dataSource with
    | some mapping => verifyMapping type mapping
    | none => return ()

end ObjectType
end ObjectQuery
