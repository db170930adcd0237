/-
The structure of a JSON text, before any meaning is given to it.

A text can be well formed and still hold a leaf that has no value: a numeral out of range, or a
string with half of a surrogate pair. Such leaves stay in the tree as unreadable, because a reader
that has no use for a part of the text skips it without looking inside. Names may repeat, and
members keep the order of the text.
-/
import ObjectQuery.Json.Numeral

namespace ObjectQuery

open Number

/-- A JSON text's tree. An unreadable number or string is `none`. -/
inductive JsonNode
  | null
  | bool (value : Bool)
  | number (value : Option JsonNumber)
  | string (value : Option String)
  | array (elements : List JsonNode)
  | object (members : List (Option String × JsonNode))

namespace JsonNode

/-! ## Reading -/

/-- White space between tokens. -/
def skipSpace (cs : List Char) : List Char :=
  cs.dropWhile fun c => c == ' ' || c == '\t' || c == '\n' || c == '\r'

/-- A part of a string: a character, or a code of 16 bits written with four digits. -/
inductive StringPart
  | char (c : Char)
  | code (n : Nat)

/-- The value of a digit in base sixteen. -/
def hexValue? (c : Char) : Option Nat :=
  if c.isDigit then some (c.toNat - '0'.toNat)
  else if 'a' ≤ c && c ≤ 'f' then some (c.toNat - 'a'.toNat + 10)
  else if 'A' ≤ c && c ≤ 'F' then some (c.toNat - 'A'.toNat + 10)
  else none

/-- The character that stands for a control or for itself after a backslash. -/
def unescape? (c : Char) : Option Char :=
  if c = '"' ∨ c = '\\' ∨ c = '/' then some c
  else if c = 'b' then some '\x08'
  else if c = 'f' then some '\x0c'
  else if c = 'n' then some '\n'
  else if c = 'r' then some '\r'
  else if c = 't' then some '\t'
  else none

/-- The parts of a string up to its closing quote, and the text after it. -/
def readParts : List Char → Option (List StringPart × List Char)
  | '"' :: rest => some ([], rest)
  | '\\' :: 'u' :: a :: b :: c :: d :: rest => do
    let code := (((← hexValue? a) * 16 + (← hexValue? b)) * 16 + (← hexValue? c)) * 16
      + (← hexValue? d)
    let (parts, rest) ← readParts rest
    some (.code code :: parts, rest)
  | '\\' :: c :: rest => do
    let c ← unescape? c
    let (parts, rest) ← readParts rest
    some (.char c :: parts, rest)
  | c :: rest =>
    if c.toNat < 32 then none
    else do
      let (parts, rest) ← readParts rest
      some (.char c :: parts, rest)
  | [] => none

/-- The characters of the parts; a surrogate counts only as half of a pair. -/
def joinParts : List StringPart → Option (List Char)
  | [] => some []
  | .char c :: rest => (joinParts rest).map (c :: ·)
  | .code high :: .code low :: rest =>
    if 0xD800 ≤ high ∧ high < 0xDC00 then
      if 0xDC00 ≤ low ∧ low < 0xE000 then
        let c := Char.ofNat (0x10000 + (high - 0xD800) * 0x400 + (low - 0xDC00))
        (joinParts rest).map (c :: ·)
      else none
    else if 0xDC00 ≤ high ∧ high < 0xE000 then none
    else (joinParts (.code low :: rest)).map (Char.ofNat high :: ·)
  | .code code :: rest =>
    if 0xD800 ≤ code ∧ code < 0xE000 then none
    else (joinParts rest).map (Char.ofNat code :: ·)

/-- A string after its opening quote. -/
def readString (cs : List Char) : Option (Option String × List Char) :=
  (readParts cs).map fun (parts, rest) => ((joinParts parts).map String.ofList, rest)

/-- The fraction of a numeral: nothing, or a point and digits. -/
def readFraction : List Char → Option (Option (List Char) × List Char)
  | '.' :: rest =>
    let digits := rest.takeWhile Char.isDigit
    if digits.isEmpty then none else some (some digits, rest.dropWhile Char.isDigit)
  | cs => some (none, cs)

/-- The exponent of a numeral: nothing, or a mark, an optional sign and digits. -/
def readExponent : List Char → Option (Option Int × List Char)
  | [] => some (none, [])
  | mark :: rest =>
    if mark = 'e' ∨ mark = 'E' then
      let (negative, cs) := Decimal.splitSign rest
      let digits := cs.takeWhile Char.isDigit
      if digits.isEmpty then none
      else
        let value : Int := (digitsValue 0 digits : Nat)
        some (some (if negative then -value else value), cs.dropWhile Char.isDigit)
    else some (none, mark :: rest)

/-- A numeral. A zero in front of other digits is refused. -/
def readNumeral (cs : List Char) : Option (JsonNumeral × List Char) := do
  let (negative, cs) :=
    match cs with
    | '-' :: rest => (true, rest)
    | _ => (false, cs)
  let whole := cs.takeWhile Char.isDigit
  if whole.isEmpty ∨ (whole.head? = some '0' ∧ whole.length ≠ 1) then none
  else
    let (fraction, rest) ← readFraction (cs.dropWhile Char.isDigit)
    let (exponent, rest) ← readExponent rest
    some (⟨negative, whole, fraction, exponent⟩, rest)

mutual

/-- One value, and the text after it. -/
def readValue : Nat → List Char → Option (JsonNode × List Char)
  | 0, _ => none
  | fuel + 1, cs =>
    match cs with
    | '\x7b' :: rest =>
      match skipSpace rest with
      | '\x7d' :: rest => some (.object [], rest)
      | rest => (readMembers fuel rest).map fun (members, rest) => (.object members, rest)
    | '[' :: rest =>
      match skipSpace rest with
      | ']' :: rest => some (.array [], rest)
      | rest => (readElements fuel rest).map fun (elements, rest) => (.array elements, rest)
    | '"' :: rest => (readString rest).map fun (value, rest) => (.string value, rest)
    | 'n' :: 'u' :: 'l' :: 'l' :: rest => some (.null, rest)
    | 't' :: 'r' :: 'u' :: 'e' :: rest => some (.bool true, rest)
    | 'f' :: 'a' :: 'l' :: 's' :: 'e' :: rest => some (.bool false, rest)
    | _ => (readNumeral cs).map fun (numeral, rest) => (.number numeral.toNumber?, rest)

/-- The elements of an array up to its end, at least one. -/
def readElements : Nat → List Char → Option (List JsonNode × List Char)
  | 0, _ => none
  | fuel + 1, cs => do
    let (element, rest) ← readValue fuel (skipSpace cs)
    match skipSpace rest with
    | ']' :: rest => some ([element], rest)
    | ',' :: rest =>
      let (elements, rest) ← readElements fuel rest
      some (element :: elements, rest)
    | _ => none

/-- The members of an object up to its end, at least one. -/
def readMembers : Nat → List Char → Option (List (Option String × JsonNode) × List Char)
  | 0, _ => none
  | fuel + 1, cs =>
    match skipSpace cs with
    | '"' :: rest => do
      let (name, rest) ← readString rest
      match skipSpace rest with
      | ':' :: rest =>
        let (value, rest) ← readValue fuel (skipSpace rest)
        match skipSpace rest with
        | '\x7d' :: rest => some ([(name, value)], rest)
        | ',' :: rest =>
          let (members, rest) ← readMembers fuel rest
          some ((name, value) :: members, rest)
        | _ => none
      | _ => none
    | _ => none

end

/-- The tree of a text, if the text is well formed. Two steps are enough for each character. -/
def read? (text : String) : Option JsonNode :=
  let cs := text.toList
  match readValue (2 * cs.length + 2) (skipSpace cs) with
  | some (node, rest) => if (skipSpace rest).isEmpty then some node else none
  | none => none

/-! ## Readable trees -/

/-- How many arrays and objects may stand inside one another. -/
def depthLimit : Nat := 127

mutual

/-- Whether every leaf is readable and at most `room` containers stand inside one another. -/
def readable : Nat → JsonNode → Bool
  | _, .null => true
  | _, .bool _ => true
  | _, .number value => value.isSome
  | _, .string value => value.isSome
  | 0, .array _ => false
  | 0, .object _ => false
  | room + 1, .array elements => readableElements room elements
  | room + 1, .object members => readableMembers room members

def readableElements : Nat → List JsonNode → Bool
  | _, [] => true
  | room, element :: rest => readable room element && readableElements room rest

def readableMembers : Nat → List (Option String × JsonNode) → Bool
  | _, [] => true
  | room, (name, value) :: rest => name.isSome && readable room value && readableMembers room rest

end

end JsonNode
end ObjectQuery
