/-
The characters that bare words of a statement are made of.
-/
import ObjectQuery.Text.Class.Alphanumeric

namespace ObjectQuery
namespace Text

/-- Letters and digits of every script, and the underscore. -/
def isWordChar (c : Char) : Bool := c == '_' || alphanumeric.has c

end Text
end ObjectQuery
