/-
The tokens of a statement's text.

Tokens keep their source text, so a text can be put together again from its tokens. What matters is
told apart and nothing else: string literals, quoted identifiers and bare words. White space,
punctuation, numbers and placeholders are plain text.
-/
import ObjectQuery.Error
import ObjectQuery.Text.Utf8
import ObjectQuery.Text.Word

namespace ObjectQuery
namespace Sql

/-- How a dialect quotes: the quote of identifiers, and whether a backslash in a string literal
changes the character after it. -/
structure Quoting where
  quote : Char
  backslash : Bool
  deriving DecidableEq

/-- A token. The source text of a literal and of a quoted identifier includes the quotes. -/
inductive Token
  | text (source : List Char)
  | literal (source : List Char)
  | quoted (identifier source : List Char)
  | word (source : List Char)
  deriving DecidableEq

namespace Token

def source : Token → List Char
  | text source => source
  | literal source => source
  | quoted _ source => source
  | word source => source

/-- A quoted text that has no end. -/
inductive Unterminated
  | literal
  | identifier
  deriving DecidableEq

/-- How a message names what has no end. -/
def Unterminated.name : Unterminated → String
  | .literal => "string literal"
  | .identifier => "quoted identifier"

/-- Read a string literal after its opening quote: its source, and the text after it. -/
def readLiteral (backslash : Bool) : List Char → Option (List Char × List Char)
  | [] => none
  | '\'' :: '\'' :: rest =>
    (readLiteral backslash rest).map fun (source, rest) => ('\'' :: '\'' :: source, rest)
  | '\'' :: rest => some (['\''], rest)
  | '\\' :: c :: rest =>
    if backslash then
      (readLiteral backslash rest).map fun (source, rest) => ('\\' :: c :: source, rest)
    else (readLiteral backslash (c :: rest)).map fun (source, rest) => ('\\' :: source, rest)
  | c :: rest => (readLiteral backslash rest).map fun (source, rest) => (c :: source, rest)

/-- Read a quoted identifier after its opening quote: the identifier, its source, and the text after
it. -/
def readQuoted (quote : Char) : List Char → Option (List Char × List Char × List Char)
  | [] => none
  | [c] => if c = quote then some ([], [quote], []) else none
  | c :: d :: rest =>
    if c = quote then
      if d = quote then
        (readQuoted quote rest).map fun (identifier, source, rest) =>
          (quote :: identifier, quote :: quote :: source, rest)
      else some ([], [quote], d :: rest)
    else
      (readQuoted quote (d :: rest)).map fun (identifier, source, rest) =>
        (c :: identifier, c :: source, rest)

/-- Read the token at a character, given the text after the character. -/
def next (q : Quoting) (c : Char) (rest : List Char) : Except Unterminated (Token × List Char) :=
  if c = '\'' then
    match readLiteral q.backslash rest with
    | some (source, rest) => .ok (.literal ('\'' :: source), rest)
    | none => .error .literal
  else if c = q.quote then
    match readQuoted q.quote rest with
    | some (identifier, source, rest) => .ok (.quoted identifier (q.quote :: source), rest)
    | none => .error .identifier
  else if Text.isWordChar c then
    let word := c :: rest.takeWhile Text.isWordChar
    .ok (if c.isDigit then .text word else .word word, rest.dropWhile Text.isWordChar)
  else .ok (.text [c], rest)

/-! ## Reading goes forward -/

theorem readLiteral_length {backslash : Bool} {cs source rest : List Char}
    (h : readLiteral backslash cs = some (source, rest)) : rest.length ≤ cs.length := by
  fun_induction readLiteral backslash cs generalizing source rest <;>
    grind [Option.map_eq_some_iff]

theorem readQuoted_length {quote : Char} {cs identifier source rest : List Char}
    (h : readQuoted quote cs = some (identifier, source, rest)) : rest.length ≤ cs.length := by
  fun_induction readQuoted quote cs generalizing identifier source rest <;>
    grind [Option.map_eq_some_iff]

theorem length_dropWhile_le {α : Type} (p : α → Bool) (l : List α) :
    (l.dropWhile p).length ≤ l.length :=
  (List.dropWhile_suffix p).sublist.length_le

theorem next_length {q : Quoting} {c : Char} {rest after : List Char} {token : Token}
    (h : next q c rest = .ok (token, after)) : after.length ≤ rest.length := by
  unfold next at h
  split at h
  · split at h
    · next found =>
      cases h
      exact readLiteral_length found
    · cases h
  · split at h
    · split at h
      · next found =>
        cases h
        exact readQuoted_length found
      · cases h
    · split at h
      · cases h
        exact length_dropWhile_le _ _
      · cases h
        exact Nat.le_refl _

/-- Split a text into tokens. `offset` is the number of bytes before the text. -/
def splitFrom (q : Quoting) (offset : Nat) (cs : List Char) : Except Error (List Token) :=
  match cs with
  | [] => .ok []
  | c :: rest =>
    match _found : next q c rest with
    | .error what =>
      .error (.renameAmbiguity
        ("unterminated " ++ what.name ++ " at offset " ++ toString offset))
    | .ok (token, after) => do
      let tokens ← splitFrom q (offset + Text.Utf8.size token.source) after
      return token :: tokens
termination_by cs.length
decreasing_by
  have := next_length _found
  simp only [List.length_cons]
  omega

def split (q : Quoting) (text : String) : Except Error (List Token) := splitFrom q 0 text.toList

end Token
end Sql
end ObjectQuery
