/-
Literals are finite.

A JSON number is a whole number of at most 64 bits or a finite binary number, and a numeral that
reads as infinity stays a text, so no literal of a filter is infinite or undefined.
-/
import Mathlib.Algebra.Group.Nat.Defs
import ObjectQuery.Literal

namespace ObjectQuery

namespace Number

theorem roundDiv_le (n d : Nat) : roundDiv n d ≤ n / d + 1 := by
  simp only [roundDiv]
  split
  · omega
  · split
    · omega
    · split <;> omega

namespace Binary

theorem div_two_pow_lt {m bits dropped : Nat} (log : m.log2 ≤ bits + dropped) :
    m / 2 ^ dropped < 2 * 2 ^ bits := by
  rw [Nat.div_lt_iff_lt_mul (Nat.two_pow_pos _)]
  calc
    m < 2 ^ (m.log2 + 1) := Nat.lt_log2_self
    _ ≤ 2 ^ (1 + bits + dropped) := Nat.pow_le_pow_right (by decide) (by omega)
    _ = 2 * 2 ^ bits * 2 ^ dropped := by rw [Nat.pow_add, Nat.pow_add, Nat.pow_one]

/-- A whole number whose bits leave room below the largest exponent is not rounded to infinity. -/
theorem magnitudeOfRatio_lt_infinity (f : Format) {n bits : Nat} (lt : n < 2 ^ bits)
    (wide : f.fractionBits ≤ f.scale)
    (room : bits + f.scale + 2 < f.fractionBits + (2 ^ f.exponentBits - 1)) :
    magnitudeOfRatio f n 1 < f.infinity := by
  simp only [magnitudeOfRatio, Nat.div_one, Nat.one_mul, Nat.pow_eq]
  generalize scaled_eq : n * 2 ^ f.scale = scaled
  generalize dropped_eq : scaled.log2 - f.fractionBits = dropped
  have log_lt : scaled.log2 ≤ bits + f.scale := by
    by_cases zero : scaled = 0
    · rw [zero, Nat.log2_zero]
      omega
    · have below : scaled < 2 ^ (bits + f.scale) := by
        rw [← scaled_eq, Nat.pow_add]
        exact Nat.mul_lt_mul_of_pos_right lt (Nat.two_pow_pos _)
      have strict := (Nat.log2_lt zero).mpr below
      omega
  have fits : scaled / 2 ^ dropped < 2 * 2 ^ f.fractionBits := div_two_pow_lt (by omega)
  have rounded := roundDiv_le scaled (2 ^ dropped)
  have binade : f.binade = 2 ^ f.fractionBits := rfl
  have exponent : (dropped + 2) * f.binade < f.infinity := by
    have few : dropped + 2 < 2 ^ f.exponentBits - 1 := by omega
    exact Nat.mul_lt_mul_of_pos_right few (Nat.two_pow_pos _)
  rw [Nat.add_mul] at exponent
  omega

theorem isFinite_ofInt {i : Int} (low : -9223372036854775808 ≤ i)
    (high : i < 18446744073709551616) : (ofInt .double i).isFinite = true := by
  have bits : i.natAbs < 2 ^ 64 := by omega
  have wide : Format.double.fractionBits ≤ Format.double.scale := by decide
  have room : 64 + Format.double.scale + 2 <
      Format.double.fractionBits + (2 ^ Format.double.exponentBits - 1) := by decide
  exact decide_eq_true (magnitudeOfRatio_lt_infinity .double bits wide room)

end Binary
end Number

theorem JsonNumber.isFinite_toDouble (n : JsonNumber) : n.toDouble.isFinite = true := by
  cases n with
  | integer value low high => exact Number.Binary.isFinite_ofInt low high
  | float value finite => exact finite

/-- Whether a value is finite if it is a binary number. -/
def Value.IsFinite : Value → Prop
  | .float value => value.isFinite = true
  | _ => True

namespace Literal

theorem isFinite_ofFloatText (text : String) : (ofFloatText text).IsFinite := by
  rw [ofFloatText]
  split
  · next value _ =>
    split
    · next finite => exact finite
    · trivial
  · trivial

theorem isFinite_ofScalar (type : FieldType) (value : Json) : (ofScalar type value).IsFinite := by
  have integer (text : String) : (ofIntegerText text).IsFinite := by
    rw [ofIntegerText]
    split <;> trivial
  have boolean (text : String) : (ofBooleanText text).IsFinite := by
    rw [ofBooleanText]
    split
    · trivial
    · split <;> trivial
  cases value with
  | null => cases type <;> trivial
  | bool _ => cases type <;> trivial
  | number n =>
    cases type with
    | float => exact n.isFinite_toDouble
    | _ => trivial
  | string text =>
    cases type with
    | integer => exact integer text
    | float => exact isFinite_ofFloatText text
    | boolean => exact boolean text
    | _ => trivial
  | array _ => cases type <;> trivial
  | object _ => cases type <;> trivial

theorem isFinite_ofUntyped (value : Json) : (ofUntyped value).IsFinite := by
  cases value with
  | number n =>
    rw [ofUntyped]
    split
    · trivial
    · exact n.isFinite_toDouble
  | _ => trivial

theorem isFinite_of_encode {value : Json} {type : Option FieldType} {literal : Value}
    (encoded : encode value type = .ok literal) : literal.IsFinite := by
  unfold encode at encoded
  split at encoded
  · cases type with
    | none =>
      simp only [Except.ok.injEq] at encoded
      exact encoded ▸ isFinite_ofUntyped value
    | some type =>
      simp only [Except.ok.injEq] at encoded
      exact encoded ▸ isFinite_ofScalar type value
  · contradiction

end Literal
end ObjectQuery
