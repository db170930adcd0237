/-
Indented JSON text: one element or member a line, two spaces a level.
-/
import ObjectQuery.Json.Writer

namespace ObjectQuery
namespace Json

/-- The start of a line at a depth. -/
def newline (depth : Nat) : String := String.ofList ('\n' :: List.replicate (2 * depth) ' ')

mutual

/-- The value as indented text, its first line not indented. -/
def writeIndented (depth : Nat) : Json → String
  | .array [] => "[]"
  | .array elements => "[" ++ indentElements (depth + 1) elements ++ newline depth ++ "]"
  | .object [] => "\x7b\x7d"
  | .object members => "\x7b" ++ indentMembers (depth + 1) members ++ newline depth ++ "\x7d"
  | value => value.write

/-- The elements of an array, each on a line of its own. -/
def indentElements (depth : Nat) : List Json → String
  | [] => ""
  | [element] => newline depth ++ writeIndented depth element
  | element :: rest =>
    newline depth ++ writeIndented depth element ++ "," ++ indentElements depth rest

/-- The members of an object, each on a line of its own. -/
def indentMembers (depth : Nat) : List (String × Json) → String
  | [] => ""
  | [(name, value)] => newline depth ++ writeString name ++ ": " ++ writeIndented depth value
  | (name, value) :: rest =>
    newline depth ++ writeString name ++ ": " ++ writeIndented depth value ++ ","
      ++ indentMembers depth rest

end

end Json
end ObjectQuery
