/-
Written forms of binary numbers.

All forms show the fewest digits that read back. They differ in where positional notation ends, in
whether a whole number keeps a point, in how an exponent is signed and in how a tie is broken.
-/
import ObjectQuery.Number.Shortest

namespace ObjectQuery
namespace Number

/-- The choices of a written form. Positional notation is used where `positional` holds of the power
of ten of the first digit. -/
structure Layout where
  tie : Tie
  positional : Int → Bool
  keepsPoint : Bool
  signsExponent : Bool

namespace Layout

/-- Positional from a ten-thousandth to below ten to the sixteenth, always with a point or an
exponent. -/
def exact : Layout := ⟨.up, fun power => -4 ≤ power && power < 16, true, false⟩

/-- Always positional, whole numbers without a point. -/
def plain : Layout := ⟨.up, fun _ => true, false, false⟩

/-- Positional from a hundred-thousandth to below ten to the sixteenth; exponents have a sign. -/
def interchange : Layout := ⟨.even, fun power => -5 ≤ power && power < 16, true, true⟩

/-- Digits with the point where their power of ten puts it. -/
def writePositional (l : Layout) (s : Scientific) : List Char :=
  let zeros (count : Int) : List Char := List.replicate count.toNat '0'
  if s.power < 0 then ['0', '.'] ++ zeros (-s.power - 1) ++ s.digits
  else
    let whole := s.digits.take (s.power.toNat + 1) ++ zeros (s.power + 1 - s.digits.length)
    let fraction := s.digits.drop (s.power.toNat + 1)
    if !fraction.isEmpty then whole ++ '.' :: fraction
    else if l.keepsPoint then whole ++ ['.', '0']
    else whole

/-- Digits with the point after the first, and the exponent. -/
def writeScientific (l : Layout) (s : Scientific) : List Char :=
  let fraction := s.digits.drop 1
  let sign := if s.power < 0 then ['-'] else if l.signsExponent then ['+'] else []
  s.digits.take 1 ++ (if fraction.isEmpty then [] else '.' :: fraction)
    ++ 'e' :: sign ++ Nat.toDigits 10 s.power.natAbs

def writeMagnitude (l : Layout) (f : Format) (magnitude : Nat) : List Char :=
  let digits := if magnitude = 0 then ⟨['0'], 0⟩ else shortest f l.tie magnitude
  if l.positional digits.power then l.writePositional digits else l.writeScientific digits

def write {f : Format} (l : Layout) (x : Binary f) : String :=
  if x.isNaN then "NaN"
  else
    let sign := if x.negative then ['-'] else []
    let text := if x.isFinite then l.writeMagnitude f x.magnitude else ['i', 'n', 'f']
    String.ofList (sign ++ text)

end Layout
end Number
end ObjectQuery
