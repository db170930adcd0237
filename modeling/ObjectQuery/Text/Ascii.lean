/-
Letter case limited to the letters `A` to `Z`.

Keywords, and labels that a database sends back, are compared in this way: letters outside that
range differ from each other in any case.
-/

namespace ObjectQuery
namespace Text

/-- The text with `A` to `Z` in lower case. -/
def asciiLower (s : String) : String := String.ofList (s.toList.map Char.toLower)

/-- Whether two texts differ at most in the case of the letters `A` to `Z`. -/
def sameIgnoringAsciiCase (a b : String) : Bool :=
  a.toList.map Char.toLower == b.toList.map Char.toLower

end Text
end ObjectQuery
