/-
The whole part of a number, toward zero.

A binary number has an exact value, given by its fields as the interchange format does.  The units
that it is counted in lead to the same value, so the truncation of the units is the whole part of
the value.  A whole number that is rounded to a binary one keeps its bit length at least, because
patterns are ordered as their numbers are and a power of two has a pattern of its own.
-/
import Mathlib.Data.Rat.Floor
import Mathlib.Tactic.NormNum
import ObjectQuery.Proofs.Number.Conversion

namespace ObjectQuery
namespace Number

/-- The whole number next to a number in the direction of zero. -/
def towardZero (x : ℚ) : ℤ := if 0 ≤ x then ⌊x⌋ else ⌈x⌉

theorem towardZero_intCast (i : ℤ) : towardZero i = i := by
  rw [towardZero, Int.floor_intCast, Int.ceil_intCast, ite_self]

theorem towardZero_neg (x : ℚ) : towardZero (-x) = -towardZero x := by
  rw [towardZero, towardZero, Int.floor_neg, Int.ceil_neg]
  rcases lt_trichotomy x 0 with negative | rfl | positive
  · rw [if_pos (by linarith), if_neg (by linarith)]
  · simp
  · rw [if_neg (by linarith), if_pos positive.le]

theorem towardZero_mono {x y : ℚ} (le : x ≤ y) : towardZero x ≤ towardZero y := by
  rw [towardZero, towardZero]
  split
  · next nonneg =>
    rw [if_pos (nonneg.trans le)]
    exact Int.floor_mono le
  · next negative =>
    split
    · next nonneg =>
      have below : ⌈x⌉ ≤ 0 := Int.ceil_nonpos.mpr (by linarith)
      exact below.trans (Int.floor_nonneg.mpr nonneg)
    · exact Int.ceil_mono le

theorem towardZero_natCast_div_natCast (n d : ℕ) : towardZero ((n : ℚ) / d) = (n / d : ℕ) := by
  rw [towardZero, if_pos (by positivity), Rat.floor_natCast_div_natCast, Int.natCast_ediv]

theorem le_roundDiv (n d : ℕ) : n / d ≤ roundDiv n d := by
  simp only [roundDiv]
  split
  · exact le_refl _
  · split
    · omega
    · split <;> omega

namespace Format

variable {f : Format}

/-- The units of a significand of full length, or of the next power of two. -/
theorem units_mul_add {significand : ℕ} (low : f.binade ≤ significand)
    (high : significand ≤ 2 * f.binade) (exponent : ℕ) :
    f.units (exponent * f.binade + significand) = significand * 2 ^ exponent := by
  have positive := f.binade_pos
  have large : ¬exponent * f.binade + significand < f.binade := by omega
  rw [Format.units, if_neg large, Nat.mul_comm exponent, Nat.mul_add_div positive, Nat.mul_add_mod,
    Nat.pow_eq]
  rcases Nat.lt_or_eq_of_le high with below | rfl
  · rw [Nat.div_eq_of_lt_le (k := 1) (by omega) (by omega), Nat.mod_eq_sub_mod low,
      Nat.mod_eq_of_lt (by omega), Nat.add_sub_cancel, Nat.add_sub_cancel' low]
  · rw [Nat.mul_div_cancel _ positive, Nat.mul_mod_left, Nat.add_zero,
      Nat.add_sub_assoc (by decide), Nat.pow_succ]
    ring

theorem units_le_units_succ (f : Format) (magnitude : ℕ) :
    f.units magnitude ≤ f.units (magnitude + 1) := by
  have positive := f.binade_pos
  have zero (significand : ℕ) : 0 * f.binade + significand = significand := by omega
  by_cases small : magnitude < f.binade
  · have same : f.units magnitude = magnitude := if_pos small
    rcases Nat.lt_or_eq_of_le (Nat.succ_le_of_lt small) with below | last
    · have next : f.units (magnitude + 1) = magnitude + 1 := if_pos below
      omega
    · have next := units_mul_add (f := f) (Nat.le_refl _) (by omega) 0
      rw [zero, Nat.pow_zero, Nat.mul_one, ← last] at next
      rw [same, next]
      exact Nat.le_succ _
  · have fraction := Nat.mod_lt magnitude positive
    have split := Nat.div_add_mod' magnitude f.binade
    have exponent_pos : 1 ≤ magnitude / f.binade := by
      rw [Nat.le_div_iff_mul_le positive]
      omega
    obtain ⟨exponent, exponent_eq⟩ : ∃ exponent, magnitude / f.binade = exponent + 1 :=
      ⟨magnitude / f.binade - 1, by omega⟩
    rw [exponent_eq, Nat.add_mul, Nat.one_mul, Nat.add_assoc] at split
    rw [← split, Nat.add_assoc _ _ 1, units_mul_add (by omega) (by omega),
      units_mul_add (by omega) (by omega)]
    exact Nat.mul_le_mul_right _ (Nat.le_succ _)

/-- Patterns are ordered as the numbers are. -/
theorem units_mono (f : Format) : Monotone f.units :=
  monotone_nat_of_le_succ f.units_le_units_succ

end Format

namespace Binary

/-- The size of a finite number of 64 bits, by its exponent and its fraction. An exponent of zero
stands for the same power of two as an exponent of one, but for no leading bit. -/
def size (x : Double) : ℚ :=
  let exponent : ℕ := x.magnitude / 2 ^ 52
  let fraction : ℕ := x.magnitude % 2 ^ 52
  if exponent = 0 then fraction * 2 ^ (-1074 : ℤ)
  else (2 ^ 52 + fraction) * 2 ^ ((exponent : ℤ) - 1075)

/-- The exact value of a finite number of 64 bits. -/
def value (x : Double) : ℚ := if x.negative then -x.size else x.size

theorem size_eq (x : Double) : x.size = (x.units : ℚ) / (2 ^ Format.double.scale : ℕ) := by
  have least : (-1074 : ℤ) = -(Format.double.scale : ℤ) := rfl
  have binade : Format.double.binade = 2 ^ 52 := rfl
  rw [size, Binary.units, Format.units, binade]
  by_cases small : x.magnitude < 2 ^ 52
  · rw [if_pos (Nat.div_eq_of_lt small), if_pos small, Nat.mod_eq_of_lt small, least, zpow_neg,
      zpow_natCast, div_eq_mul_inv, Nat.cast_pow, Nat.cast_ofNat]
  · have exponent_pos : 1 ≤ x.magnitude / 2 ^ 52 := by
      rw [Nat.le_div_iff_mul_le (by decide)]
      omega
    obtain ⟨less, exponent_eq⟩ : ∃ less, x.magnitude / 2 ^ 52 = less + 1 :=
      ⟨x.magnitude / 2 ^ 52 - 1, by omega⟩
    have exponent : ((less + 1 : ℕ) : ℤ) - 1075 = less - Format.double.scale := by
      have scale : (Format.double.scale : ℤ) = 1074 := rfl
      rw [scale]
      push_cast
      ring
    rw [if_neg (by omega), if_neg small, exponent_eq, exponent, Nat.add_sub_cancel,
      zpow_sub₀ two_ne_zero, zpow_natCast, zpow_natCast, Nat.pow_eq]
    simp only [Nat.cast_mul, Nat.cast_add, Nat.cast_pow, Nat.cast_ofNat, mul_div_assoc]

/-- The truncation of a finite number is the whole part of its value. -/
theorem truncate_eq (x : Double) : x.truncate = towardZero x.value := by
  have whole : towardZero x.size = (x.units / 2 ^ Format.double.scale : ℕ) := by
    rw [size_eq, towardZero_natCast_div_natCast]
  rw [value, truncate, Nat.pow_eq]
  split
  · rw [towardZero_neg, whole]
  · rw [whole]

/-! ## Rounded whole numbers -/

/-- A quotient that is rounded to a finite number keeps the leading bit of its units. -/
theorem two_pow_log2_le_units {f : Format} {n d units : ℕ} (counted : n * 2 ^ f.scale / d = units)
    (normal : 2 ^ f.fractionBits ≤ units) (finite : magnitudeOfRatio f n d < f.infinity) :
    2 ^ units.log2 ≤ f.units (magnitudeOfRatio f n d) := by
  have binade : f.binade = 2 ^ f.fractionBits := rfl
  have positive : 0 < 2 ^ f.fractionBits := Nat.two_pow_pos _
  have nonzero : units ≠ 0 := by omega
  have length := (Nat.le_log2 nonzero).mpr normal
  have rounded : f.binade ≤
      roundDiv (n * 2 ^ f.scale) (d * 2 ^ (units.log2 - f.fractionBits)) := by
    refine Nat.le_trans ?_ (le_roundDiv _ _)
    rw [← Nat.div_div_eq_div_mul, counted, Nat.le_div_iff_mul_le (Nat.two_pow_pos _), binade,
      ← Nat.pow_add, Nat.add_sub_cancel' length]
    exact Nat.log2_self_le nonzero
  have above : (units.log2 - f.fractionBits) * f.binade + f.binade ≤ magnitudeOfRatio f n d := by
    simp only [magnitudeOfRatio, Nat.pow_eq, counted] at finite ⊢
    omega
  calc
    2 ^ units.log2 = f.binade * 2 ^ (units.log2 - f.fractionBits) := by
      rw [binade, ← Nat.pow_add, Nat.add_sub_cancel' length]
    _ = f.units ((units.log2 - f.fractionBits) * f.binade + f.binade) :=
      (Format.units_mul_add (Nat.le_refl _) (by omega) _).symm
    _ ≤ f.units (magnitudeOfRatio f n d) := f.units_mono above

/-- A whole number that is rounded to a finite one keeps its bit length at least. -/
theorem two_pow_log2_le_truncate {f : Format} (wide : f.fractionBits ≤ f.scale) {n : ℕ}
    (nonzero : n ≠ 0) (finite : (ofInt f n).isFinite = true) :
    (2 ^ n.log2 : ℕ) ≤ (ofInt f n).truncate := by
  have positive : (ofInt f n).negative = false :=
    show decide ((n : ℤ) < 0) = false from decide_eq_false (by omega)
  have length := log2_mul_two_pow nonzero f.scale
  have normal : 2 ^ f.fractionBits ≤ n * 2 ^ f.scale :=
    (Nat.pow_le_pow_right (by decide) wide).trans (Nat.le_mul_of_pos_left _ (by omega))
  have units : 2 ^ (n.log2 + f.scale) ≤ (ofInt f n).units := by
    rw [← length]
    exact two_pow_log2_le_units (Nat.div_one _) normal (of_decide_eq_true finite)
  rw [truncate, positive, Nat.pow_eq]
  refine Int.ofNat_le.mpr ((Nat.le_div_iff_mul_le (Nat.two_pow_pos _)).mpr ?_)
  rwa [← Nat.pow_add]

end Binary
end Number
end ObjectQuery
