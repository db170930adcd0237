/-
Typed reading of JSON text.

A decoder takes a value out of a text's tree, visiting the tree in the order of the text, so that
the first problem in that order is the one reported. A record is read from an object or from an
array of its fields in their declared order. Members of an object that the record does not know
are skipped unread. A text that is not well formed, or that has an unreadable leaf anywhere, is
only ever reported as malformed, without the reason. A fault says what is wrong but not where: the
line and the column in the text are left out of its message.
-/
import ObjectQuery.Json.Node
import ObjectQuery.Json.Writer
import ObjectQuery.Dict
import ObjectQuery.Text.Quoted

namespace ObjectQuery

/-- Why a JSON text does not spell a value. -/
inductive DecodeFault
  | malformed
  | invalidType (found expected : String)
  | invalidValue (found expected : String)
  | missingField (name : String)
  | duplicateField (name : String)
  | unknownVariant (name : String) (known : List String)
  | expectedValue
  | invalidLength (count : Nat) (record : String) (size : Nat)
  | trailingCharacters
  | refused (message : String)
  deriving DecidableEq

def DecodeFault.message : DecodeFault → String
  | .malformed => "malformed JSON"
  | .invalidType found expected => "invalid type: " ++ found ++ ", expected " ++ expected
  | .invalidValue found expected => "invalid value: " ++ found ++ ", expected " ++ expected
  | .missingField name => "missing field \x60" ++ name ++ "\x60"
  | .duplicateField name => "duplicate field \x60" ++ name ++ "\x60"
  | .unknownVariant name known =>
    "unknown variant \x60" ++ name ++ "\x60, expected one of "
      ++ ", ".intercalate (known.map fun variant => "\x60" ++ variant ++ "\x60")
  | .expectedValue => "expected value"
  | .invalidLength count record size =>
    "invalid length " ++ toString count ++ ", expected struct " ++ record ++ " with "
      ++ toString size ++ " elements"
  | .trailingCharacters => "trailing characters"
  | .refused message => message

/-- A way to take a value out of a tree that stands inside a number of containers. -/
abbrev Decoder (α : Type) : Type := Nat → JsonNode → Except DecodeFault α

namespace Decoder

/-- How a message names what was found instead of the expected kind of value. -/
def describe : JsonNode → Except DecodeFault String
  | .null => .ok "null"
  | .bool value => .ok ("boolean \x60" ++ (if value then "true" else "false") ++ "\x60")
  | .number (some (.integer value _ _)) => .ok ("integer \x60" ++ toString value ++ "\x60")
  | .number (some (.float value _)) =>
    .ok ("floating point \x60" ++ Number.Layout.interchange.write value ++ "\x60")
  | .string (some value) => .ok ("string " ++ Text.quoted value)
  | .number none => .error .malformed
  | .string none => .error .malformed
  | .array _ => .ok "sequence"
  | .object _ => .ok "map"

/-- Report a value of another kind than the expected one. -/
def mismatch {α : Type} (expected : String) (node : JsonNode) : Except DecodeFault α :=
  (describe node).bind fun found => .error (.invalidType found expected)

/-- Go into one more container, if it does not stand too deep. -/
def enter (depth : Nat) : Except DecodeFault Nat :=
  if depth < JsonNode.depthLimit then .ok (depth + 1) else .error .malformed

/-! ## Values of one kind -/

def string : Decoder String := fun _ node =>
  match node with
  | .string (some value) => .ok value
  | node => mismatch "a string" node

/-- A whole number within bounds, which messages name `kind`. -/
def integer (kind : String) (low high : Int) : Decoder Int := fun _ node =>
  match node with
  | .number (some (.integer value _ _)) =>
    if low ≤ value ∧ value ≤ high then .ok value
    else .error (.invalidValue ("integer \x60" ++ toString value ++ "\x60") kind)
  | node => mismatch kind node

/-- A value, or nothing where the text has `null`. -/
def optional {α : Type} (d : Decoder α) : Decoder (Option α) := fun depth node =>
  match node with
  | .null => .ok none
  | node => (d depth node).map some

/-- An array of values. -/
def list {α : Type} (d : Decoder α) : Decoder (List α) := fun depth node =>
  match node with
  | .array elements => do
    let depth ← enter depth
    elements.mapM (d depth)
  | node => mismatch "a sequence" node

def memberName : Option String → Except DecodeFault String
  | some name => .ok name
  | none => .error .malformed

/-- An object with any names. A repeated name keeps its place and takes the last value. -/
def dict {α : Type} (d : Decoder α) : Decoder (Dict α) := fun depth node =>
  match node with
  | .object members => do
    let depth ← enter depth
    members.foldlM
      (fun entries member => do
        let name ← memberName member.1
        let value ← d depth member.2
        return entries.insert name value)
      Dict.empty
  | node => mismatch "a map" node

mutual

/-- Any value. A repeated name takes the last value. -/
def json : Decoder Json
  | _, .null => .ok .null
  | _, .bool value => .ok (.bool value)
  | _, .number (some value) => .ok (.number value)
  | _, .string (some value) => .ok (.string value)
  | _, .number none => .error .malformed
  | _, .string none => .error .malformed
  | depth, .array elements => do
    let depth ← enter depth
    return .array (← jsonElements depth elements)
  | depth, .object members => do
    let depth ← enter depth
    return .ofMembers (← jsonMembers depth members)

/-- Any values, one after the other. -/
def jsonElements : Nat → List JsonNode → Except DecodeFault (List Json)
  | _, [] => .ok []
  | depth, element :: rest => do
    let element ← json depth element
    return element :: (← jsonElements depth rest)

/-- Any members, one after the other. -/
def jsonMembers :
    Nat → List (Option String × JsonNode) → Except DecodeFault (List (String × Json))
  | _, [] => .ok []
  | depth, (name, value) :: rest => do
    let name ← memberName name
    let value ← json depth value
    return (name, value) :: (← jsonMembers depth rest)

end

/-! ## Variants and records -/

/-- One of some variants, which an object may name with an empty payload. -/
def variant {α : Type} (variants : List (String × α)) : Decoder α := fun depth node =>
  let choose (name : String) : Except DecodeFault α :=
    match variants.lookup name with
    | some value => .ok value
    | none => .error (.unknownVariant name (variants.map Prod.fst))
  match node with
  | .string (some name) => choose name
  | .string none => .error .malformed
  | .object [] => do
    let _ ← enter depth
    .error .expectedValue
  | .object ((name, payload) :: rest) => do
    let _ ← enter depth
    let value ← choose (← memberName name)
    match payload with
    | .null => if rest.isEmpty then return value else .error .expectedValue
    | payload => mismatch "unit" payload
  | _ => .error .expectedValue

/-- A field of a record: the names it goes by, the first of which messages use, whether a text must
have it, and how its value changes the record. -/
structure Field (α : Type) where
  names : List String
  mandatory : Bool
  decode : Decoder (α → α)

namespace Field

/-- A field that a text must have. -/
def required {α β : Type} (name : String) (aliases : List String) (d : Decoder β)
    (set : β → α → α) : Field α :=
  ⟨name :: aliases, true, fun depth node => (d depth node).map set⟩

/-- A field that a text may leave out. -/
def defaulted {α β : Type} (name : String) (aliases : List String) (d : Decoder β)
    (set : β → α → α) : Field α :=
  ⟨name :: aliases, false, fun depth node => (d depth node).map set⟩

/-- The name that messages use. -/
def name {α : Type} (field : Field α) : String := field.names.headD ""

/-- Read members in the order of the text. `seen` has the fields that were read before. -/
def readMembers {α : Type} (fields : List (Field α)) (depth : Nat) :
    List String → α → List (Option String × JsonNode) → Except DecodeFault α
  | seen, record, [] =>
    match fields.find? fun field => field.mandatory && !seen.contains field.name with
    | some field => .error (.missingField field.name)
    | none => .ok record
  | seen, record, (name, value) :: rest => do
    let name ← memberName name
    match fields.find? fun field => field.names.contains name with
    | none => readMembers fields depth seen record rest
    | some field =>
      if seen.contains field.name then .error (.duplicateField field.name)
      else
        let change ← field.decode depth value
        readMembers fields depth (field.name :: seen) (change record) rest

/-- Read elements in the order of the fields. `short` reports that a required field has none. -/
def readElements {α : Type} (depth : Nat) (short : Nat → DecodeFault) :
    Nat → List (Field α) → α → List JsonNode → Except DecodeFault α
  | _, [], record, [] => .ok record
  | _, [], _, _ :: _ => .error .trailingCharacters
  | index, field :: fields, record, [] =>
    if field.mandatory then .error (short index)
    else readElements depth short (index + 1) fields record []
  | index, field :: fields, record, element :: rest => do
    let change ← field.decode depth element
    readElements depth short (index + 1) fields (change record) rest

end Field

/-- A record, read onto a blank one. -/
def record {α : Type} (title : String) (fields : List (Field α)) (blank : α) : Decoder α :=
  fun depth node =>
    match node with
    | .object members => do
      let depth ← enter depth
      Field.readMembers fields depth [] blank members
    | .array elements => do
      let depth ← enter depth
      let short := fun index => .invalidLength index title fields.length
      Field.readElements depth short 0 fields blank elements
    | node => mismatch ("struct " ++ title) node

/-! ## Texts -/

def read {α : Type} (d : Decoder α) (text : String) : Except DecodeFault α :=
  match JsonNode.read? text with
  | none => .error .malformed
  | some node =>
    match d 0 node with
    | .ok value => .ok value
    | .error fault => .error (if node.readable JsonNode.depthLimit then fault else .malformed)

end Decoder

def Json.read (text : String) : Except DecodeFault Json := Decoder.json.read text

end ObjectQuery
