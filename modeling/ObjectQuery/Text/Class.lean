/-
Character classes given by a table of code point ranges.

A class is listed as ranges in ascending order, both ends included; membership asks whether one
range holds the code point.
-/

namespace ObjectQuery
namespace Text

/-- Code point ranges, both ends included. -/
abbrev Ranges : Type := List (Nat × Nat)

/-- Whether one of the ranges holds the character. -/
def Ranges.has (ranges : Ranges) (c : Char) : Bool :=
  ranges.any fun range => range.1 ≤ c.toNat && c.toNat ≤ range.2

end Text
end ObjectQuery
