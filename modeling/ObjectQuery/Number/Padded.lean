/-
Whole numbers with a least number of digits.
-/

namespace ObjectQuery
namespace Number

/-- The decimal digits of a number, with zeros in front up to a width. -/
def padded (width n : Nat) : List Char :=
  let digits := Nat.toDigits 10 n
  List.replicate (width - digits.length) '0' ++ digits

end Number
end ObjectQuery
