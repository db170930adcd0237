/-
Binary floating-point numbers with exact arithmetic on their bit patterns.

A number is a sign and a magnitude, the bit pattern without the sign bit. Patterns are ordered as
the numbers are: the finite ones count up to infinity, and the patterns above it are not numbers.
Every finite number is a whole multiple of the least positive one, so conversions work on whole
numbers: `units` counts how often the least number fits, and a quotient is rounded to the nearest
pattern once, a half to the even neighbour.
-/

namespace ObjectQuery
namespace Number

/-- The widths of the exponent and of the fraction. -/
structure Format where
  exponentBits : Nat
  fractionBits : Nat

namespace Format

/-- Numbers of 64 bits. -/
def double : Format := ⟨11, 52⟩

/-- Numbers of 32 bits. -/
def single : Format := ⟨8, 23⟩

/-- The first pattern with a sign. -/
def signBit (f : Format) : Nat := Nat.pow 2 (f.exponentBits + f.fractionBits)

/-- The number of patterns that share an exponent. -/
def binade (f : Format) : Nat := Nat.pow 2 f.fractionBits

/-- The pattern of infinity: all exponent bits set. -/
def infinity (f : Format) : Nat := (Nat.pow 2 f.exponentBits - 1) * f.binade

/-- The least positive number is two to the power of minus this. -/
def scale (f : Format) : Nat := Nat.pow 2 (f.exponentBits - 1) - 2 + f.fractionBits

theorem infinity_lt_signBit (f : Format) : f.infinity < f.signBit := by
  have fraction : 0 < f.binade := Nat.two_pow_pos _
  have exponent : 0 < Nat.pow 2 f.exponentBits := Nat.two_pow_pos _
  have split : f.signBit = Nat.pow 2 f.exponentBits * f.binade := Nat.pow_add 2 _ _
  rw [split]
  exact Nat.mul_lt_mul_of_pos_right (by omega) fraction

/-- How often the least positive number fits into the number of a finite pattern. -/
def units (f : Format) (magnitude : Nat) : Nat :=
  if magnitude < f.binade then magnitude
  else (f.binade + magnitude % f.binade) * Nat.pow 2 (magnitude / f.binade - 1)

end Format

/-- The quotient rounded to the nearest whole number, a half to the even neighbour. -/
def roundDiv (n d : Nat) : Nat :=
  let quotient := n / d
  let remainder := n % d
  if 2 * remainder < d then quotient
  else if d < 2 * remainder then quotient + 1
  else if quotient % 2 = 0 then quotient
  else quotient + 1

structure Binary (f : Format) where
  negative : Bool
  magnitude : Nat
  magnitude_lt : magnitude < f.signBit
  deriving DecidableEq

/-- Numbers of 64 bits. -/
abbrev Double : Type := Binary .double

/-- Numbers of 32 bits. -/
abbrev Single : Type := Binary .single

namespace Binary

variable {f g : Format}

/-- The number with these bits, the sign first. Bits beyond the format's are ignored. -/
def ofBits (f : Format) (bits : Nat) : Binary f :=
  ⟨bits / f.signBit % 2 = 1, bits % f.signBit, Nat.mod_lt _ (Nat.two_pow_pos _)⟩

/-- The bits of the number, the sign first. -/
def toBits (x : Binary f) : Nat := (if x.negative then f.signBit else 0) + x.magnitude

/-- Whether the number is neither infinite nor undefined. -/
def isFinite (x : Binary f) : Bool := x.magnitude < f.infinity

/-- Whether the pattern is above infinity. -/
def isNaN (x : Binary f) : Bool := f.infinity < x.magnitude

/-- How often the least positive number fits into the number, its sign aside. -/
def units (x : Binary f) : Nat := f.units x.magnitude

/-- Infinity with a sign. -/
def infinity (f : Format) (negative : Bool) : Binary f :=
  ⟨negative, f.infinity, f.infinity_lt_signBit⟩

/-- The magnitude nearest to a quotient, at most infinity. The quotient is counted in units; above
the first binade, as many low bits are dropped as make it fit the fraction. -/
def magnitudeOfRatio (f : Format) (n d : Nat) : Nat :=
  let scaled := n * Nat.pow 2 f.scale
  let dropped := Nat.log2 (scaled / d) - f.fractionBits
  min f.infinity (dropped * f.binade + roundDiv scaled (d * Nat.pow 2 dropped))

theorem magnitudeOfRatio_lt (f : Format) (n d : Nat) : magnitudeOfRatio f n d < f.signBit :=
  Nat.lt_of_le_of_lt (Nat.min_le_left _ _) f.infinity_lt_signBit

/-- The number nearest to a quotient. -/
def ofRatio (f : Format) (negative : Bool) (n d : Nat) : Binary f :=
  ⟨negative, magnitudeOfRatio f n d, magnitudeOfRatio_lt f n d⟩

def ofInt (f : Format) (i : Int) : Binary f := ofRatio f (i < 0) i.natAbs 1

/-- The whole part of a finite number, toward zero. -/
def truncate (x : Binary f) : Int :=
  let whole : Int := (x.units / Nat.pow 2 f.scale : Nat)
  if x.negative then -whole else whole

/-- A pattern above infinity whose leading fraction bits are given; the first of them is set. -/
def nan (f : Format) (negative : Bool) (fraction : Nat) : Binary f :=
  let quiet := Nat.pow 2 (f.fractionBits - 1)
  ofBits f ((if negative then f.signBit else 0) + f.infinity + (quiet ||| fraction % (2 * quiet)))

/-- The nearest number of another format. An undefined number keeps its sign and as much of its
fraction as fits. -/
def convert (g : Format) (x : Binary f) : Binary g :=
  if x.isNaN then
    nan g x.negative
      ((x.magnitude - f.infinity) * g.binade / f.binade)
  else if x.isFinite then ofRatio g x.negative x.units (Nat.pow 2 f.scale)
  else infinity g x.negative

end Binary
end Number
end ObjectQuery
