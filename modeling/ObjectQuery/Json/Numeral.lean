/-
Numbers as JSON text spells them.

A numeral without a fraction or an exponent is a whole number where it fits 64 bits. Any other one
is read in two steps that round separately: as many leading digits as fit 64 bits make a
significand, and the significand is multiplied or divided by a power of ten.
-/
import ObjectQuery.Json.Basic
import ObjectQuery.Number.Decimal

namespace ObjectQuery

open Number

/-- The parts of a numeral: the digits before and after the point, and the exponent. -/
structure JsonNumeral where
  negative : Bool
  whole : List Char
  fraction : Option (List Char)
  exponent : Option Int

namespace JsonNumeral

/-- Take digits into a significand as long as it fits 64 bits; what is left comes back. -/
def absorb : Nat → List Char → Nat × List Char
  | significand, [] => (significand, [])
  | significand, c :: rest =>
    let next := digitsValue significand [c]
    if next < 18446744073709551616 then absorb next rest else (significand, c :: rest)

/-- The power of ten as a binary number. -/
def tenTo (power : Nat) : Double := .ofRatio .double false (Nat.pow 10 power) 1

/-- The product of two positive finite numbers, rounded. -/
def times (x y : Double) : Double :=
  let one := Nat.pow 2 Format.double.scale
  .ofRatio .double false (x.units * y.units) (one * one)

/-- The quotient of two positive finite numbers, rounded. -/
def dividedBy (x y : Double) : Double := .ofRatio .double false x.units y.units

/-- Multiply by a power of ten, at most `10 ^ 308` at a time; nothing if the result is infinite. -/
def scaleBy (x : Double) (power : Int) : Option Double :=
  if power < -308 then
    if x.magnitude = 0 then some x else scaleBy (dividedBy x (tenTo 308)) (power + 308)
  else if power < 0 then some (dividedBy x (tenTo (-power).toNat))
  else if power ≤ 308 then
    let product := times x (tenTo power.toNat)
    if product.isFinite then some product else none
  else if x.magnitude = 0 then some x
  else none
termination_by (-power).toNat

/-- The number of a significand and a power of ten, with a sign. -/
def toFloat? (negative : Bool) (significand : Nat) (power : Int) : Option JsonNumber :=
  (scaleBy (.ofRatio .double false significand 1) power).bind fun x =>
    JsonNumber.ofDouble? { x with negative := negative }

/-- The number that the numeral spells, if it is in range. -/
def toNumber? (n : JsonNumeral) : Option JsonNumber :=
  let (significand, surplus) := absorb 0 n.whole
  if n.fraction.isNone && n.exponent.isNone && surplus.isEmpty then
    if n.negative && (significand = 0 || 9223372036854775808 < significand) then
      toFloat? true significand 0
    else JsonNumber.ofInt? (if n.negative then -significand else significand)
  else
    let fraction := n.fraction.getD []
    let (significand, dropped) := absorb significand fraction
    let taken : Int := (fraction.length - dropped.length : Nat)
    toFloat? n.negative significand ((surplus.length : Int) - taken + n.exponent.getD 0)

end JsonNumeral
end ObjectQuery
