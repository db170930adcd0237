/-
Texts as UTF-8 bytes.

Reading goes byte by byte. A character that is under way names the bytes that may follow, so the
overlong forms, the surrogates and the codes past the last character are refused at the first byte
that leaves no valid character; what was under way then counts as one invalid part.
-/

namespace ObjectQuery
namespace Text
namespace Utf8

def encode (s : String) : List UInt8 := s.toList.flatMap String.utf8EncodeChar

/-- A character under way: the code so far, the bytes still to come, and the bounds of the next. -/
structure Pending where
  code : Nat
  missing : Nat
  low : UInt8
  high : UInt8

/-- What a byte completes, and what is under way after it. -/
abbrev Step : Type := List (Option Char) × Option Pending

/-- The step at a byte with nothing under way. -/
def start (b : UInt8) : Step :=
  let code := b.toNat
  if code < 0x80 then ([some (Char.ofNat code)], none)
  else if code < 0xC2 then ([none], none)
  else if code < 0xE0 then ([], some ⟨code - 0xC0, 1, 0x80, 0xBF⟩)
  else if code = 0xE0 then ([], some ⟨0, 2, 0xA0, 0xBF⟩)
  else if code = 0xED then ([], some ⟨0xD, 2, 0x80, 0x9F⟩)
  else if code < 0xF0 then ([], some ⟨code - 0xE0, 2, 0x80, 0xBF⟩)
  else if code = 0xF0 then ([], some ⟨0, 3, 0x90, 0xBF⟩)
  else if code < 0xF4 then ([], some ⟨code - 0xF0, 3, 0x80, 0xBF⟩)
  else if code = 0xF4 then ([], some ⟨4, 3, 0x80, 0x8F⟩)
  else ([none], none)

/-- The step at a byte; one that cannot follow ends an invalid part and starts anew. -/
def step : Option Pending → UInt8 → Step
  | none, b => start b
  | some p, b =>
    if p.low ≤ b ∧ b ≤ p.high then
      let code := p.code * 64 + (b.toNat - 0x80)
      if p.missing ≤ 1 then ([some (Char.ofNat code)], none)
      else ([], some ⟨code, p.missing - 1, 0x80, 0xBF⟩)
    else (none :: (start b).1, (start b).2)

/-- The characters that bytes spell, with `none` for each invalid part. -/
def parts : Option Pending → List UInt8 → List (Option Char)
  | none, [] => []
  | some _, [] => [none]
  | pending, b :: rest => (step pending b).1 ++ parts (step pending b).2 rest

/-- The text that bytes spell, with the replacement character for each invalid part. -/
def decodeLossy (bytes : List UInt8) : String :=
  String.ofList ((parts none bytes).map fun c => c.getD '\uFFFD')

/-- The text that bytes spell, if no part of them is invalid. -/
def decode? (bytes : List UInt8) : Option String :=
  ((parts none bytes).mapM id).map String.ofList

/-- The number of bytes of the characters. -/
def size : List Char → Nat
  | [] => 0
  | c :: rest => c.utf8Size + size rest

/-- Where bytes stop being text: the number of bytes before the first invalid part, and its length,
which is unknown if the bytes end within it. -/
structure Fault where
  offset : Nat
  length : Option Nat
  deriving DecidableEq

def Fault.message (fault : Fault) : String :=
  match fault.length with
  | some length =>
    "invalid utf-8 sequence of " ++ toString length ++ " bytes from index "
      ++ toString fault.offset
  | none => "incomplete utf-8 byte sequence from index " ++ toString fault.offset

/-- The length of the invalid part at the start of bytes, `before` of them being under way. -/
def invalidLength (before : Nat) : Option Pending → List UInt8 → Option Nat
  | _, [] => none
  | pending, b :: rest =>
    match step pending b with
    | (none :: _, _) => some (max 1 before)
    | (_, pending) => invalidLength (before + 1) pending rest

/-- The text that bytes spell, or where they stop being text. -/
def decode (bytes : List UInt8) : Except Fault String :=
  match decode? bytes with
  | some text => .ok text
  | none =>
    let offset := size (((parts none bytes).takeWhile Option.isSome).filterMap id)
    .error ⟨offset, invalidLength 0 none (bytes.drop offset)⟩

end Utf8
end Text
end ObjectQuery
