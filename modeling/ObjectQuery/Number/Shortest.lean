/-
The fewest decimal digits that read back as a binary number.

The decimals that read back as a number lie between the midpoints to its two neighbours, the ends
included when the pattern is even. For one, two, … digits the number's two neighbours on that
decimal grid are tried; the first grid with a hit wins, and of two hits the nearer.
-/
import ObjectQuery.Number.Decimal

namespace ObjectQuery
namespace Number

/-- Which of two equally near decimals is taken. -/
inductive Tie
  | up
  | even
  deriving DecidableEq

/-- A positive decimal in scientific form: its digits, of which the first stands at `10 ^ power`. -/
structure Scientific where
  digits : List Char
  power : Int
  deriving DecidableEq

/-- The decimals that read back as a number, as multiples of `1 / unit`. -/
structure Interval where
  low : Nat
  value : Nat
  high : Nat
  unit : Nat
  closed : Bool

namespace Interval

/-- The interval of a positive finite magnitude, its ends halfway to the neighbours. -/
def ofMagnitude (f : Format) (magnitude : Nat) : Interval :=
  let value := f.units magnitude
  ⟨f.units (magnitude - 1) + value, 2 * value, value + f.units (magnitude + 1),
    2 * Nat.pow 2 f.scale, magnitude % 2 = 0⟩

/-- Whether the quotient `n / d` lies in the interval. -/
def has (i : Interval) (n d : Nat) : Bool :=
  if i.closed then i.low * d ≤ n * i.unit && n * i.unit ≤ i.high * d
  else i.low * d < n * i.unit && n * i.unit < i.high * d

/-- The power of ten of the value's first digit. -/
def power (i : Interval) : Int :=
  if i.unit ≤ i.value then (decimalLength (i.value / i.unit) : Int) - 1
  else -(decimalLength ((i.unit - 1) / i.value) : Int)

/-- The multiple of `10 ^ place` in the interval that is nearest to the value, if there is one. -/
def onGrid? (i : Interval) (tie : Tie) (place : Int) : Option Nat :=
  let up := Nat.pow 10 place.toNat
  let down := Nat.pow 10 (-place).toNat
  let below := i.value * down / (i.unit * up)
  let hasBelow := i.has (below * up) down
  let hasAbove := i.has ((below + 1) * up) down
  let twice := 2 * (i.value * down)
  let middle := (2 * below + 1) * (i.unit * up)
  let takeBelow := twice < middle || (twice == middle && tie == .even && below % 2 == 0)
  if hasBelow && (takeBelow || !hasAbove) then some below
  else if hasAbove then some (below + 1)
  else none

end Interval

/-- The digits of a number without the zeros at its end. -/
def significantDigits (n : Nat) : List Char :=
  ((Nat.toDigits 10 n).reverse.dropWhile (· == '0')).reverse

/-- The fewest digits that read back as a positive finite magnitude. -/
def shortest (f : Format) (tie : Tie) (magnitude : Nat) : Scientific :=
  let interval := Interval.ofMagnitude f magnitude
  let power := interval.power
  let found := (List.range (f.fractionBits + 2)).findSome? fun (count : Nat) =>
    (interval.onGrid? tie (power - count)).map fun n => (n, power - count)
  match found with
  | some (n, place) =>
    ⟨significantDigits n, place + (Nat.toDigits 10 n).length - 1⟩
  | none => ⟨['0'], 0⟩

end Number
end ObjectQuery
