/-
Conversions that lose nothing.

A whole number of units is held by a format if its low bits, those beyond the fraction, are zero.
Then the format has a pattern for it, from which the units can be counted again, and no quotient
that comes to so many units is rounded.  What a narrow format holds, a wide one does as well, so a
number survives the way there and back.
-/
import ObjectQuery.Proofs.Literal

namespace ObjectQuery
namespace Number

theorem roundDiv_mul (n : Nat) {d : Nat} (positive : 0 < d) : roundDiv (n * d) d = n := by
  simp only [roundDiv, Nat.mul_div_cancel n positive, Nat.mul_mod_left]
  rw [if_pos (by omega)]

theorem log2_mul_two_pow {n : Nat} (nonzero : n ≠ 0) (k : Nat) :
    (n * 2 ^ k).log2 = n.log2 + k := by
  have shifted : n * 2 ^ k ≠ 0 := Nat.mul_ne_zero nonzero (Nat.ne_of_gt (Nat.two_pow_pos k))
  rw [Nat.log2_eq_iff shifted, Nat.pow_add, Nat.add_right_comm, Nat.pow_add]
  exact ⟨Nat.mul_le_mul_right _ (Nat.log2_self_le nonzero),
    Nat.mul_lt_mul_of_pos_right Nat.lt_log2_self (Nat.two_pow_pos k)⟩

namespace Format

variable {f : Format} {units : Nat}

/-- How many low bits a number of units has beyond the fraction. -/
def surplus (f : Format) (units : Nat) : Nat := units.log2 - f.fractionBits

/-- Whether the low bits beyond the fraction are zero. -/
def Holds (f : Format) (units : Nat) : Prop := 2 ^ f.surplus units ∣ units

/-- The pattern of a number of units that the format holds. -/
def pattern (f : Format) (units : Nat) : Nat :=
  f.surplus units * f.binade + units / 2 ^ f.surplus units

theorem binade_pos (f : Format) : 0 < f.binade := Nat.two_pow_pos _

theorem units_pattern (held : f.Holds units) : f.units (f.pattern units) = units := by
  have binade : f.binade = 2 ^ f.fractionBits := rfl
  have positive := f.binade_pos
  by_cases small : units < f.binade
  · have none_dropped : f.surplus units = 0 := by
      by_cases zero : units = 0
      · simp [surplus, zero]
      · have log := (Nat.log2_lt zero).mpr small
        rw [surplus]
        omega
    rw [pattern, none_dropped, Nat.zero_mul, Nat.zero_add, Nat.pow_zero, Nat.div_one,
      Format.units, if_pos small]
  · have nonzero : units ≠ 0 := by omega
    have log_low : f.fractionBits ≤ units.log2 := (Nat.le_log2 nonzero).mpr (by omega)
    have log_eq : units.log2 = f.fractionBits + f.surplus units := by rw [surplus]; omega
    have above : f.binade ≤ units / 2 ^ f.surplus units := by
      rw [Nat.le_div_iff_mul_le (Nat.two_pow_pos _), binade, ← Nat.pow_add, ← log_eq]
      exact Nat.log2_self_le nonzero
    have below : units / 2 ^ f.surplus units < 2 * f.binade :=
      Binary.div_two_pow_lt (by omega)
    have exact := Nat.div_mul_cancel held
    rw [pattern]
    generalize units / 2 ^ f.surplus units = significand at *
    generalize f.surplus units = exponent at *
    have quotient : (exponent * f.binade + significand) / f.binade = exponent + 1 := by
      rw [Nat.mul_comm, Nat.mul_add_div positive,
        Nat.div_eq_of_lt_le (k := 1) (by omega) (by omega)]
    have remainder : (exponent * f.binade + significand) % f.binade = significand - f.binade := by
      rw [Nat.mul_comm, Nat.mul_add_mod, Nat.mod_eq_sub_mod above, Nat.mod_eq_of_lt (by omega)]
    have large : ¬exponent * f.binade + significand < f.binade := by omega
    rw [Format.units, if_neg large, quotient, remainder, Nat.add_sub_cancel,
      show f.binade + (significand - f.binade) = significand by omega]
    exact exact

/-- The units of a pattern are held, and lead back to the pattern. -/
theorem pattern_units (f : Format) (magnitude : Nat) :
    f.Holds (f.units magnitude) ∧ f.pattern (f.units magnitude) = magnitude := by
  have binade : f.binade = 2 ^ f.fractionBits := rfl
  have positive := f.binade_pos
  by_cases small : magnitude < f.binade
  · have none_dropped : f.surplus magnitude = 0 := by
      by_cases zero : magnitude = 0
      · simp [surplus, zero]
      · have log := (Nat.log2_lt zero).mpr small
        rw [surplus]
        omega
    rw [Format.units, if_pos small, Holds, pattern, none_dropped]
    simp
  · rw [Format.units, if_neg small]
    have exponent_pos : 1 ≤ magnitude / f.binade := by
      rw [Nat.le_div_iff_mul_le positive]
      omega
    have rest := Nat.mod_lt magnitude positive
    have split := Nat.div_add_mod magnitude f.binade
    generalize magnitude / f.binade = exponent at *
    generalize magnitude % f.binade = fraction at *
    have log : (f.binade + fraction).log2 = f.fractionBits := by
      rw [Nat.log2_eq_iff (by omega), Nat.pow_succ]
      omega
    have dropped : f.surplus ((f.binade + fraction) * Nat.pow 2 (exponent - 1)) = exponent - 1 := by
      rw [surplus, Nat.pow_eq, log2_mul_two_pow (by omega), log]
      omega
    rw [Holds, pattern, dropped, Nat.pow_eq, Nat.mul_div_cancel _ (Nat.two_pow_pos _)]
    refine ⟨Nat.dvd_mul_left _ _, ?_⟩
    obtain ⟨less, rfl⟩ : ∃ less, exponent = less + 1 := ⟨exponent - 1, by omega⟩
    rw [Nat.add_sub_cancel, ← split, Nat.mul_add, Nat.mul_comm]
    omega

end Format

namespace Binary

variable {f g : Format}

/-- A quotient that comes to a held number of units is not rounded. -/
theorem magnitudeOfRatio_of_exact {n d units : Nat} (positive : 0 < d)
    (exact : n * 2 ^ f.scale = units * d) (held : f.Holds units) :
    magnitudeOfRatio f n d = min f.infinity (f.pattern units) := by
  have rounded : roundDiv (units * d) (d * 2 ^ f.surplus units) =
      units / 2 ^ f.surplus units := by
    have split : units * d = units / 2 ^ f.surplus units * (d * 2 ^ f.surplus units) := by
      rw [Nat.mul_left_comm, Nat.div_mul_cancel held, Nat.mul_comm]
    rw [split]
    exact roundDiv_mul _ (Nat.mul_pos positive (Nat.two_pow_pos _))
  have scaled : n * Nat.pow 2 f.scale = units * d := exact
  simp only [magnitudeOfRatio, scaled, Nat.mul_div_cancel units positive]
  exact congrArg (fun significand => min f.infinity (f.surplus units * f.binade + significand))
    rounded

theorem ext {x y : Binary f} (negative : x.negative = y.negative)
    (magnitude : x.magnitude = y.magnitude) : x = y := by
  cases x
  cases y
  simp only [mk.injEq]
  exact ⟨negative, magnitude⟩

theorem isNaN_of_isFinite {x : Binary f} (finite : x.isFinite = true) : x.isNaN = false :=
  decide_eq_false (Nat.not_lt.mpr (Nat.le_of_lt (of_decide_eq_true finite)))

/-- The number of another format that has as many units is found exactly. -/
theorem convert_of_exact {x : Binary f} {units : Nat} (finite : x.isFinite = true)
    (exact : x.units * 2 ^ g.scale = units * 2 ^ f.scale) (held : g.Holds units) :
    (x.convert g).negative = x.negative ∧
      (x.convert g).magnitude = min g.infinity (g.pattern units) := by
  have positive : 0 < 2 ^ f.scale := Nat.two_pow_pos _
  rw [convert, isNaN_of_isFinite finite, finite, if_neg (by decide), if_pos rfl]
  exact ⟨rfl, magnitudeOfRatio_of_exact positive exact held⟩

/-- Infinity is infinity in every format. -/
theorem convert_of_infinite {x : Binary f} (infinite : x.magnitude = f.infinity) :
    x.convert g = infinity g x.negative := by
  have defined : x.isNaN = false := decide_eq_false (by rw [infinite]; exact Nat.lt_irrefl _)
  have unbounded : x.isFinite = false := decide_eq_false (by rw [infinite]; exact Nat.lt_irrefl _)
  rw [convert, defined, unbounded, if_neg (by decide), if_neg (by decide)]

/-! ## There and back -/

/-- How much finer the units of 64 bits are than those of 32 bits, as a power of two. -/
def refinement : Nat := 925

theorem scale_double : Format.double.scale = refinement + Format.single.scale := rfl

/-- The units of a number of 32 bits, counted in those of 64 bits. -/
def wideUnits (magnitude : Nat) : Nat :=
  Format.single.units magnitude * 2 ^ refinement

theorem wideUnits_eq_mul_two_pow {magnitude : Nat} (finite : magnitude < Format.single.infinity) :
    ∃ significand k, significand < 2 ^ 24 ∧ k ≤ 1200 ∧ wideUnits magnitude = significand * 2 ^ k := by
  have binade : Format.single.binade = 2 ^ 23 := rfl
  have infinity : Format.single.infinity = 255 * 2 ^ 23 := by decide
  rw [wideUnits, Format.units, binade]
  split
  · exact ⟨magnitude, refinement, by omega, by decide, rfl⟩
  · have finer : refinement = 925 := rfl
    refine ⟨2 ^ 23 + magnitude % 2 ^ 23, magnitude / 2 ^ 23 - 1 + refinement, by omega, by omega,
      ?_⟩
    rw [Nat.pow_add, Nat.mul_assoc]
    rfl

theorem holds_wideUnits {magnitude : Nat} (finite : magnitude < Format.single.infinity) :
    Format.double.Holds (wideUnits magnitude) ∧
      Format.double.pattern (wideUnits magnitude) < Format.double.infinity := by
  obtain ⟨significand, k, small, few, split⟩ := wideUnits_eq_mul_two_pow finite
  have infinity : Format.double.infinity = 2047 * 2 ^ 52 := by decide
  have binade : Format.double.binade = 2 ^ 52 := rfl
  have bits : Format.double.fractionBits = 52 := rfl
  rw [split]
  by_cases zero : significand = 0
  · subst zero
    rw [Nat.zero_mul]
    exact ⟨Nat.dvd_zero _, by decide⟩
  · have log := (Nat.log2_lt zero).mpr small
    have surplus : Format.double.surplus (significand * 2 ^ k) ≤ k ∧
        Format.double.surplus (significand * 2 ^ k) ≤ 1200 := by
      rw [Format.surplus, log2_mul_two_pow zero, bits]
      omega
    refine ⟨Nat.dvd_mul_left_of_dvd (Nat.pow_dvd_pow 2 surplus.1) _, ?_⟩
    have log_le : (significand * 2 ^ k).log2 ≤
        52 + Format.double.surplus (significand * 2 ^ k) := by
      rw [Format.surplus, bits]
      omega
    have below := div_two_pow_lt log_le
    rw [Format.pattern, binade]
    omega

/-- A number of 32 bits survives as one of 64 bits. -/
theorem convert_convert_single (x : Single) (defined : x.isNaN = false) :
    (x.convert .double).convert .single = x := by
  by_cases finite : x.magnitude < Format.single.infinity
  · obtain ⟨held, below⟩ := holds_wideUnits finite
    have there : x.units * 2 ^ Format.double.scale =
        wideUnits x.magnitude * 2 ^ Format.single.scale := by
      rw [Binary.units, wideUnits, scale_double, Nat.pow_add, Nat.mul_assoc]
    obtain ⟨negative, magnitude⟩ := convert_of_exact (decide_eq_true finite) there held
    rw [Nat.min_eq_right (Nat.le_of_lt below)] at magnitude
    have finite_wide : (x.convert .double).isFinite = true :=
      decide_eq_true (magnitude ▸ below)
    have units : (x.convert .double).units = wideUnits x.magnitude := by
      rw [Binary.units, magnitude, Format.units_pattern held]
    have back : (x.convert .double).units * 2 ^ Format.single.scale =
        Format.single.units x.magnitude * 2 ^ Format.double.scale := by
      rw [units]
      exact there.symm
    obtain ⟨held_single, pattern⟩ := Format.single.pattern_units x.magnitude
    obtain ⟨negative', magnitude'⟩ := convert_of_exact finite_wide back held_single
    rw [pattern, Nat.min_eq_right (Nat.le_of_lt finite)] at magnitude'
    exact ext (negative'.trans negative) magnitude'
  · have defined : ¬Format.single.infinity < x.magnitude := of_decide_eq_false defined
    have infinite : x.magnitude = Format.single.infinity := by omega
    rw [convert_of_infinite infinite, convert_of_infinite rfl]
    exact ext rfl infinite.symm

/-! ## Bits -/

theorem toBits_ofBits {bits : Nat} (fits : bits < 2 * f.signBit) :
    (ofBits f bits).toBits = bits := by
  have split := Nat.div_add_mod bits f.signBit
  have positive : 0 < f.signBit := Nat.two_pow_pos _
  have quotient : bits / f.signBit < 2 := (Nat.div_lt_iff_lt_mul positive).mpr fits
  show (if decide (bits / f.signBit % 2 = 1) = true then f.signBit else 0) +
    bits % f.signBit = bits
  generalize bits / f.signBit = sign at *
  match sign, quotient with
  | 0, _ => simpa using split
  | 1, _ => simpa using split

end Binary
end Number
end ObjectQuery
