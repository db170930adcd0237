/-
Whole numbers in text, within bounds.

The text is read from the left: the first character that is no digit, or the first digit that leaves
the bounds, decides the fault.
-/

namespace ObjectQuery
namespace Number

/-- Why a text is no whole number within the bounds. -/
inductive IntegerFault
  | empty
  | invalidDigit
  | tooLarge
  | tooSmall
  deriving DecidableEq

def IntegerFault.message : IntegerFault → String
  | .empty => "cannot parse integer from empty string"
  | .invalidDigit => "invalid digit found in string"
  | .tooLarge => "number too large to fit in target type"
  | .tooSmall => "number too small to fit in target type"

/-- The bounds of a kind of whole number, both included. -/
structure IntegerRange where
  low : Int
  high : Int

namespace IntegerRange

/-- Signed numbers of a width in bits. -/
def signed (bits : Nat) : IntegerRange :=
  let half : Int := (Nat.pow 2 (bits - 1) : Nat)
  ⟨-half, half - 1⟩

def unsigned (bits : Nat) : IntegerRange := ⟨0, (Nat.pow 2 bits : Nat) - 1⟩

/-- Whether the bounds include a number. -/
def has (range : IntegerRange) (i : Int) : Bool := range.low ≤ i && i ≤ range.high

/-- Go on reading digits after those of `value`, toward the sign's bound. -/
def readDigits (range : IntegerRange) (negative : Bool) :
    Int → List Char → Except IntegerFault Int
  | value, [] => .ok value
  | value, c :: rest =>
    if c.isDigit then
      let digit : Int := (c.toNat - '0'.toNat : Nat)
      let next := if negative then value * 10 - digit else value * 10 + digit
      if next < range.low then .error .tooSmall
      else if range.high < next then .error .tooLarge
      else readDigits range negative next rest
    else .error .invalidDigit

/-- Read a whole number; a minus sign is a sign only where negative numbers are in bounds. -/
def read (range : IntegerRange) (text : String) : Except IntegerFault Int :=
  match text.toList with
  | [] => .error .empty
  | '+' :: digits =>
    if digits.isEmpty then .error .invalidDigit else readDigits range false 0 digits
  | '-' :: digits =>
    if digits.isEmpty || 0 ≤ range.low then .error .invalidDigit
    else readDigits range true 0 digits
  | digits => readDigits range false 0 digits

end IntegerRange
end Number
end ObjectQuery
