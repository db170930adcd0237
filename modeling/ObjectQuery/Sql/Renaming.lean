/-
Renaming logical identifiers in the text of a statement to physical ones.

Quoted identifiers are renamed when they equal a logical one, bare words when they do so up to the
case of ASCII letters. Literals and other text stay as they are. A renaming is refused when two
logical identifiers cannot be told apart or when a physical one reads as another logical one, so
what has been renamed once is not renamed again.
-/
import ObjectQuery.Schema.Basic
import ObjectQuery.Sql.Dialect
import ObjectQuery.Sql.Token

namespace ObjectQuery
namespace Sql

/-- The words that statements have outside quotes. -/
def keywords : List String :=
  ["AND", "AS", "ASC", "BY", "DESC", "FALSE", "FROM", "IS", "LIMIT", "NOT", "NULL", "OFFSET", "OR",
    "ORDER", "SELECT", "TRUE", "WHERE"]

def Quoting.ofKind (kind : DatabaseKind) : Quoting := ⟨kind.identifierQuote, kind.escapesBackslash⟩

/-- A logical identifier and the physical one that replaces it. -/
structure Rename where
  logical : String
  physical : String
  deriving DecidableEq

/-- The renames of an object type: its table, then its id, then its mapped properties. -/
structure Renaming where
  table : Rename
  columns : List Rename
  quoting : Quoting
  deriving DecidableEq

namespace Renaming

/-- All renames, the table's first. -/
def renames (r : Renaming) : List Rename := r.table :: r.columns

/-- The first of two renames, in this order, that cannot be told apart by their logical identifiers
but differ in the physical ones. -/
def indistinguishable? : List Rename → Option (Rename × Rename)
  | [] => none
  | a :: rest =>
    match rest.find? fun b =>
        Text.sameIgnoringAsciiCase a.logical b.logical && a.physical != b.physical with
    | some b => some (a, b)
    | none => indistinguishable? rest

/-- The first rename to an identifier that reads as a logical one with another target. -/
def rereadable? (renames : List Rename) : Option (Rename × Rename) :=
  renames.findSome? fun a =>
    (renames.find? fun b =>
      Text.sameIgnoringAsciiCase a.physical b.logical && a.physical != b.physical).map
      fun b => (a, b)

/-- The renames of an object type under a mapping, in a letter case. -/
def renamesOf (type : ObjectType) (mapping : Mapping) (identifierCase : IdentifierCase) :
    List Rename :=
  ⟨idField, identifierCase.apply mapping.idColumn⟩
    :: type.properties.filterMap fun property =>
      (mapping.column? property.name).map fun column =>
        ⟨property.name, identifierCase.apply column⟩

/-- The renaming of an object type under a mapping. -/
def ofMapping (type : ObjectType) (mapping : Mapping) (identifierCase : IdentifierCase)
    (quoting : Quoting) : Except Error Renaming :=
  let r : Renaming :=
    ⟨⟨type.name, identifierCase.apply mapping.table⟩, renamesOf type mapping identifierCase,
      quoting⟩
  match indistinguishable? r.renames with
  | some (a, b) =>
    .error (.renameAmbiguity
      ("\x60" ++ a.logical ++ "\x60 and \x60" ++ b.logical ++ "\x60 of \x60" ++ type.name
        ++ "\x60 are indistinguishable but map to \x60" ++ a.physical ++ "\x60 and \x60"
        ++ b.physical ++ "\x60"))
  | none =>
    match rereadable? r.renames with
    | some (a, b) =>
      .error (.renameAmbiguity
        ("\x60" ++ a.logical ++ "\x60 maps to \x60" ++ a.physical
          ++ "\x60, which is also the logical identifier \x60" ++ b.logical ++ "\x60 of \x60"
          ++ type.name ++ "\x60"))
    | none => .ok r

/-- The text of a token after renaming, and whether the token names the table. -/
def renameToken (r : Renaming) : Token → Except Error (List Char × Bool)
  | .text source => .ok (source, false)
  | .literal source => .ok (source, false)
  | .quoted identifier source =>
    let isTable := identifier = r.table.logical.toList || identifier = r.table.physical.toList
    match r.renames.find? fun rename => rename.logical.toList = identifier with
    | some rename => .ok (quoteChars r.quoting.quote rename.physical.toList, isTable)
    | none => .ok (source, isTable)
  | .word source =>
    let word := String.ofList source
    match r.renames.find? fun rename => Text.sameIgnoringAsciiCase rename.logical word with
    | some rename =>
      if keywords.any (Text.sameIgnoringAsciiCase · word) then
        .error (.renameAmbiguity
          ("keyword \x60" ++ word ++ "\x60 reads as the logical identifier \x60" ++ rename.logical
            ++ "\x60"))
      else
        .ok (quoteChars r.quoting.quote rename.physical.toList,
          Text.sameIgnoringAsciiCase r.table.logical word)
    | none => .ok (source, Text.sameIgnoringAsciiCase word r.table.physical)

/-- The text of tokens after renaming, and whether one of them names the table. -/
def renameTokens (r : Renaming) : List Token → Except Error (List Char × Bool)
  | [] => .ok ([], false)
  | token :: rest => do
    let (text, named) ← r.renameToken token
    let (others, namedLater) ← renameTokens r rest
    return (text ++ others, named || namedLater)

/-- A text with every logical identifier replaced. The table must occur in it. -/
def apply (r : Renaming) (text : String) : Except Error String := do
  let tokens ← Token.split r.quoting text
  let (renamed, named) ← r.renameTokens tokens
  if named then return String.ofList renamed
  else
    .error (.renameAmbiguity
      ("table \x60" ++ r.table.logical ++ "\x60 does not occur in the statement"))

end Renaming
end Sql
end ObjectQuery
