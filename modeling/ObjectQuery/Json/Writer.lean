/-
Compact JSON text.

Strings escape the quote, the backslash and the controls below the space, and nothing else. A binary
number always shows a point or an exponent, so it reads back as one.
-/
import ObjectQuery.Json.Basic
import ObjectQuery.Number.Layout

namespace ObjectQuery

def JsonNumber.write : JsonNumber → String
  | .integer value _ _ => toString value
  | .float value _ => Number.Layout.interchange.write value

namespace Json

/-- A digit of a code below the space, in base sixteen. -/
def hexDigit (n : Nat) : Char := if n < 10 then Char.ofNat (48 + n) else Char.ofNat (87 + n)

/-- The character as it stands inside a string. -/
def escape (c : Char) : List Char :=
  if c = '"' then ['\\', '"']
  else if c = '\\' then ['\\', '\\']
  else if c = '\x08' then ['\\', 'b']
  else if c = '\x0c' then ['\\', 'f']
  else if c = '\n' then ['\\', 'n']
  else if c = '\r' then ['\\', 'r']
  else if c = '\t' then ['\\', 't']
  else if c.toNat < 32 then ['\\', 'u', '0', '0', hexDigit (c.toNat / 16), hexDigit (c.toNat % 16)]
  else [c]

/-- The text in quotes. -/
def writeString (s : String) : String :=
  String.ofList ('"' :: s.toList.flatMap escape ++ ['"'])

mutual

def write : Json → String
  | .null => "null"
  | .bool value => if value then "true" else "false"
  | .number value => value.write
  | .string value => writeString value
  | .array elements => "[" ++ writeElements elements ++ "]"
  | .object members => "\x7b" ++ writeMembers members ++ "\x7d"

/-- The elements of an array, with commas between them. -/
def writeElements : List Json → String
  | [] => ""
  | [element] => write element
  | element :: rest => write element ++ "," ++ writeElements rest

/-- The members of an object, with commas between them. -/
def writeMembers : List (String × Json) → String
  | [] => ""
  | [(name, value)] => writeString name ++ ":" ++ write value
  | (name, value) :: rest => writeString name ++ ":" ++ write value ++ "," ++ writeMembers rest

end

end Json
end ObjectQuery
