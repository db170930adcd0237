/-
Texts in double quotes, as messages show them.

Quotes, backslashes and the usual controls are written with a backslash; characters that have no
form of their own are written by their code point.
-/
import ObjectQuery.Text.Class.GraphemeExtend
import ObjectQuery.Text.Class.Unprintable

namespace ObjectQuery
namespace Text

/-- Whether a character shows as itself between other characters. -/
def isPrintable (c : Char) : Bool :=
  c == ' ' || !(graphemeExtend.has c || unprintable.has c)

/-- The character as it stands inside double quotes. -/
def quotedChar (c : Char) : List Char :=
  if c = '\t' then ['\\', 't']
  else if c = '\r' then ['\\', 'r']
  else if c = '\n' then ['\\', 'n']
  else if c = '"' then ['\\', '"']
  else if c = '\\' then ['\\', '\\']
  else if c = '\x00' then ['\\', '0']
  else if isPrintable c then [c]
  else ['\\', 'u', '\x7b'] ++ Nat.toDigits 16 c.toNat ++ ['\x7d']

def quoted (s : String) : String :=
  String.ofList ('"' :: s.toList.flatMap quotedChar ++ ['"'])

end Text
end ObjectQuery
