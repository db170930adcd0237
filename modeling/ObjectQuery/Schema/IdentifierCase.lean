/-
The letter case that generated statements give to physical identifiers.
-/
import ObjectQuery.Text.LetterCase

namespace ObjectQuery

/-- How identifiers are cased before they are quoted. -/
inductive IdentifierCase
  | upper
  | lower
  | preserve
  deriving DecidableEq

namespace IdentifierCase

def apply : IdentifierCase → String → String
  | upper, identifier => Text.upper identifier
  | lower, identifier => Text.lower identifier
  | preserve, identifier => identifier

end IdentifierCase
end ObjectQuery
