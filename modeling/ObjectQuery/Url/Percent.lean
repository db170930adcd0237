/-
Percent escapes in URLs.

A part of a URL escapes the controls, all bytes outside ASCII, and the characters of a set that
depends on the part. The percent sign itself is in no such set, so escapes that were there before
stay as they are.
-/
import ObjectQuery.Text.Utf8

namespace ObjectQuery
namespace Url

/-- A digit of a byte in base sixteen. -/
def hexDigit (n : Nat) : Char := if n < 10 then Char.ofNat (48 + n) else Char.ofNat (55 + n)

/-- The value of a digit in base sixteen. -/
def hexValue? (c : Char) : Option Nat :=
  if c.isDigit then some (c.toNat - 48)
  else if 'a' ≤ c && c ≤ 'f' then some (c.toNat - 87)
  else if 'A' ≤ c && c ≤ 'F' then some (c.toNat - 55)
  else none

def escapeByte (b : UInt8) : List Char := ['%', hexDigit (b.toNat / 16), hexDigit (b.toNat % 16)]

/-- The characters that a path escapes besides the controls. -/
def pathSet : List Char := [' ', '"', '<', '>', '\x60', '#', '?', '\x7b', '\x7d']

/-- The characters that a user name and a password escape besides the controls. -/
def userSet : List Char := pathSet ++ ['/', ':', ';', '=', '@', '[', '\\', ']', '^', '|']

/-- Whether a character is a control or lies outside ASCII. -/
def needsEscape (c : Char) : Bool := c.toNat < 32 || 126 < c.toNat

def escapeChar (set : List Char) (c : Char) : List Char :=
  if needsEscape c || set.contains c then (String.utf8EncodeChar c).flatMap escapeByte else [c]

def escape (set : List Char) (cs : List Char) : List Char := cs.flatMap (escapeChar set)

/-- The bytes of characters in which escapes stand for bytes. A percent sign without two digits
stands for itself. -/
def unescape : List Char → List UInt8
  | '%' :: a :: b :: rest =>
    match hexValue? a, hexValue? b with
    | some high, some low => (high * 16 + low).toUInt8 :: unescape rest
    | _, _ => String.utf8EncodeChar '%' ++ unescape (a :: b :: rest)
  | c :: rest => String.utf8EncodeChar c ++ unescape rest
  | [] => []

/-- The text behind escapes, with the replacement character for what is not UTF-8. -/
def unescapeText (text : String) : String := Text.Utf8.decodeLossy (unescape text.toList)

/-- The text behind escapes, if it is UTF-8. -/
def unescapeText? (text : String) : Option String := Text.Utf8.decode? (unescape text.toList)

end Url
end ObjectQuery
