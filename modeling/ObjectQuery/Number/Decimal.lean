/-
Decimal numerals and the binary numbers nearest to them.

A numeral is digits with an optional point and an optional exponent. The words for infinity and for
the undefined number are accepted in any case. Reading rounds once, from the exact value.
-/
import ObjectQuery.Number.Binary

namespace ObjectQuery
namespace Number

/-- The number `digits * 10 ^ exponent` with a sign. -/
structure Decimal where
  negative : Bool
  digits : Nat
  exponent : Int

/-- The value of a run of decimal digits that follows `start`. -/
def digitsValue (start : Nat) (cs : List Char) : Nat :=
  cs.foldl (fun value c => value * 10 + (c.toNat - '0'.toNat)) start

/-- The least number of decimal digits that can hold a number, none for zero. -/
def decimalLength (n : Nat) : Nat :=
  if n = 0 then 0 else decimalLength (n / 10) + 1
termination_by n

namespace Binary

/-- The number nearest to a decimal. Exponents beyond the format's reach decide at once. -/
def ofDecimal (f : Format) (d : Decimal) : Binary f :=
  let reach : Int := (Nat.pow 2 f.exponentBits + f.fractionBits : Nat)
  let top : Int := d.exponent + (decimalLength d.digits : Nat)
  if d.digits = 0 ∨ top < -reach then ofRatio f d.negative 0 1
  else if reach < top then infinity f d.negative
  else if 0 ≤ d.exponent then ofRatio f d.negative (d.digits * Nat.pow 10 d.exponent.toNat) 1
  else ofRatio f d.negative d.digits (Nat.pow 10 (-d.exponent).toNat)

end Binary

/-- Why a text is no numeral. -/
inductive NumeralFault
  | empty
  | invalid
  deriving DecidableEq

def NumeralFault.message : NumeralFault → String
  | .empty => "cannot parse float from empty string"
  | .invalid => "invalid float literal"

namespace Decimal

/-- A sign in front of a text, and the text after it. -/
def splitSign : List Char → Bool × List Char
  | '-' :: rest => (true, rest)
  | '+' :: rest => (false, rest)
  | cs => (false, cs)

/-- The exponent at the end of a numeral: nothing, or a mark, an optional sign and digits. -/
def readExponent : List Char → Option Int
  | [] => some 0
  | mark :: rest =>
    if mark = 'e' ∨ mark = 'E' then
      let (negative, digits) := splitSign rest
      if digits.isEmpty || !digits.all Char.isDigit then none
      else
        let value : Int := (digitsValue 0 digits : Nat)
        some (if negative then -value else value)
    else none

/-- A numeral without its sign: at least one digit, before or after the point. -/
def readUnsigned (negative : Bool) (cs : List Char) : Option Decimal :=
  let whole := cs.takeWhile Char.isDigit
  let rest := cs.dropWhile Char.isDigit
  let (fraction, rest) :=
    match rest with
    | '.' :: after => (after.takeWhile Char.isDigit, after.dropWhile Char.isDigit)
    | _ => ([], rest)
  if whole.isEmpty && fraction.isEmpty then none
  else
    (readExponent rest).map fun exponent =>
      ⟨negative, digitsValue (digitsValue 0 whole) fraction, exponent - fraction.length⟩

end Decimal

/-- Read a numeral or one of the words for infinity and the undefined number. -/
def Binary.read (f : Format) (text : String) : Except NumeralFault (Binary f) :=
  if text = "" then .error .empty
  else
    let (negative, cs) := Decimal.splitSign text.toList
    let word := cs.map Char.toLower
    if word = "inf".toList ∨ word = "infinity".toList then .ok (.infinity f negative)
    else if word = "nan".toList then .ok (.nan f negative 0)
    else
      match Decimal.readUnsigned negative cs with
      | some decimal => .ok (.ofDecimal f decimal)
      | none => .error .invalid

end Number
end ObjectQuery
