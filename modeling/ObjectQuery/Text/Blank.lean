/-
White space, and texts with nothing else in them.

Names and numbers are read after trimming white space at both ends, and a name of white space only
counts as absent.
-/
import ObjectQuery.Text.Class

namespace ObjectQuery
namespace Text

/-- The characters with the Unicode property White_Space. -/
def whiteSpace : Ranges :=
  [(9, 13), (32, 32), (133, 133), (160, 160), (5760, 5760), (8192, 8202), (8232, 8233),
    (8239, 8239), (8287, 8287), (12288, 12288)]

/-- Whether the character is white space. -/
def isBlank (c : Char) : Bool := whiteSpace.has c

/-- The characters that remain when white space is taken off at both ends. -/
def trimChars (cs : List Char) : List Char :=
  ((cs.dropWhile isBlank).reverse.dropWhile isBlank).reverse

/-- The text without the white space at its ends. -/
def trim (s : String) : String := String.ofList (trimChars s.toList)

/-- Whether the text has nothing but white space. -/
def blank (s : String) : Bool := s.toList.all isBlank

end Text
end ObjectQuery
