/-
Paths in normal form.

Segments of one dot are dropped and segments of two dots drop the one before. A dot may be written
as an escape. A drive letter is never dropped.
-/
import ObjectQuery.Url.Basic

namespace ObjectQuery
namespace Url

/-- A segment with its escaped dots as dots. -/
def plainDots : List Char → List Char
  | '%' :: '2' :: 'e' :: rest => '.' :: plainDots rest
  | '%' :: '2' :: 'E' :: rest => '.' :: plainDots rest
  | c :: rest => c :: plainDots rest
  | [] => []

/-- Whether a segment is a letter with a colon or a bar. -/
def isDriveLetter : List Char → Bool
  | [letter, mark] => letter.isAlpha && (mark == ':' || mark == '|')
  | _ => false

/-- Drop the last segment, unless it is a drive letter. Segments stand in reverse order. -/
def dropSegment : List (List Char) → List (List Char)
  | [] => []
  | segment :: rest => if isDriveLetter segment then segment :: rest else rest

/-- Segments in reverse order, with those after them added. A path that ends in dots ends in a
slash. -/
def addSegments : List (List Char) → List (List Char) → List (List Char)
  | done, [] => done
  | done, segment :: rest =>
    let dots := plainDots segment
    let done :=
      if dots = ['.', '.'] then dropSegment done
      else if dots = ['.'] then done
      else segment :: done
    if rest.isEmpty && (dots = ['.', '.'] || dots = ['.']) then [] :: done
    else addSegments done rest

/-- The path of the characters after its first slash. -/
def normalPath (cs : List Char) : List Char :=
  let segments := (splitAt '/' cs).map (escape pathSet)
  (addSegments [] segments).reverse.flatMap fun segment => '/' :: segment

end Url
end ObjectQuery
