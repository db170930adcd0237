/-
How the kinds of database differ in the statements they read.
-/
import ObjectQuery.Number.Layout
import ObjectQuery.Schema.DatabaseKind
import ObjectQuery.Value

namespace ObjectQuery
namespace DatabaseKind

/-- The character around identifiers. -/
def identifierQuote : DatabaseKind → Char
  | mysql => '\x60'
  | postgresql => '"'
  | sqlite => '"'

/-- Whether a backslash in a string literal changes the character after it. -/
def escapesBackslash : DatabaseKind → Bool
  | mysql => true
  | postgresql => false
  | sqlite => false

/-- The mark of a bound parameter, counted from one. -/
def placeholder (kind : DatabaseKind) (index : Nat) : String :=
  match kind with
  | mysql => "?"
  | postgresql => "$" ++ toString index
  | sqlite => "?" ++ toString index

/-- The literal of a truth value. -/
def booleanText : DatabaseKind → Bool → String
  | sqlite, value => if value then "1" else "0"
  | _, value => if value then "TRUE" else "FALSE"

end DatabaseKind

namespace Sql

/-- The identifier's characters between quotes, with each quote in it doubled. -/
def quoteChars (quote : Char) (identifier : List Char) : List Char :=
  quote :: (identifier.flatMap fun c => if c = quote then [quote, quote] else [c]) ++ [quote]

def quoteIdentifier (quote : Char) (identifier : String) : String :=
  String.ofList (quoteChars quote identifier.toList)

/-- A character of a string literal. -/
def escapeLiteralChar (backslash : Bool) (c : Char) : List Char :=
  if c = '\'' then ['\'', '\''] else if c = '\\' && backslash then ['\\', '\\'] else [c]

def quoteText (backslash : Bool) (text : String) : String :=
  String.ofList ('\'' :: text.toList.flatMap (escapeLiteralChar backslash) ++ ['\''])

/-- The value as it stands in a statement. -/
def literalText (kind : DatabaseKind) : Value → String
  | .null => "NULL"
  | .bool value => kind.booleanText value
  | .int value => toString value.toInt
  | .float value => Number.Layout.exact.write value
  | .text value => quoteText kind.escapesBackslash value

end Sql
end ObjectQuery
