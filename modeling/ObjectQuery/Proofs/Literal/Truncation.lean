/-
Numbers as literals of whole-number fields.

A number becomes the whole part of its value, toward zero, or the nearest word if that does not fit.
Whole numbers that fit are kept as they are, and those that do not fit are beyond the largest word
also after they are rounded to binary numbers.  So the literal depends on the value alone, whichever
way the number is spelled, and grows with it.
-/
import ObjectQuery.Proofs.Number.WholePart

namespace ObjectQuery

open Number

/-- The exact value of a number. -/
def JsonNumber.value : JsonNumber → ℚ
  | .integer value _ _ => value
  | .float value _ => value.value

namespace Literal

theorem toInt_clampInt64 (i : ℤ) :
    (clampInt64 i).toInt = max (-9223372036854775808) (min i 9223372036854775807) :=
  Int64.toInt_ofInt_of_le (le_max_left _ _) (by omega)

/-- A whole number beyond the largest word stays beyond it when it is rounded. -/
theorem le_truncate_ofInt {i : ℤ} (low : 9223372036854775808 ≤ i)
    (high : i < 18446744073709551616) :
    9223372036854775808 ≤ (Binary.ofInt .double i).truncate := by
  obtain ⟨n, rfl⟩ := Int.eq_ofNat_of_zero_le (show 0 ≤ i by omega)
  have finite := Binary.isFinite_ofInt (show -9223372036854775808 ≤ (n : ℤ) by omega) high
  have wide : Format.double.fractionBits ≤ Format.double.scale := by decide
  have length : 63 ≤ n.log2 := (Nat.le_log2 (by omega)).mpr (by omega)
  calc
    (9223372036854775808 : ℤ) = (2 ^ 63 : ℕ) := rfl
    _ ≤ (2 ^ n.log2 : ℕ) := Int.ofNat_le.mpr (Nat.pow_le_pow_right (by decide) length)
    _ ≤ (Binary.ofInt .double n).truncate :=
      Binary.two_pow_log2_le_truncate wide (by omega) finite

/-- The literal is the whole part of the value, or the nearest word. -/
theorem toInt_truncate (n : JsonNumber) :
    (truncate n).toInt =
      max (-9223372036854775808) (min (towardZero n.value) 9223372036854775807) := by
  cases n with
  | integer i low high =>
    rw [JsonNumber.value, towardZero_intCast]
    by_cases fits : i < 9223372036854775808
    · have kept : truncate (.integer i low high) = Int64.ofInt i := by
        rw [truncate, JsonNumber.toInt64?, if_pos fits]
      rw [kept, Int64.toInt_ofInt_of_le low fits]
      omega
    · have rounded :
          truncate (.integer i low high) = clampInt64 (Binary.ofInt .double i).truncate := by
        rw [truncate, JsonNumber.toInt64?, if_neg fits]
        rfl
      have beyond := le_truncate_ofInt (Int.not_lt.mp fits) high
      rw [rounded, toInt_clampInt64]
      omega
  | float x finite =>
    have rounded : truncate (.float x finite) = clampInt64 x.truncate := rfl
    rw [rounded, toInt_clampInt64, Binary.truncate_eq]
    rfl

theorem encode_number (n : JsonNumber) :
    encode (.number n) (some .integer) = .ok (.int (truncate n)) := rfl

/-- A number for a whole-number field becomes the whole part of its value, toward zero and within
the bounds of a word.  A whole number within the bounds is kept, and greater numbers do not become
smaller literals. -/
theorem encode_number_truncates (n : JsonNumber) :
    ∃ i, encode (.number n) (some .integer) = .ok (.int i) ∧
      i.toInt = max (-9223372036854775808) (min (towardZero n.value) 9223372036854775807) ∧
      (∀ k : ℤ, n.value = k → -9223372036854775808 ≤ k → k < 9223372036854775808 → i.toInt = k) ∧
      ∀ m j, encode (.number m) (some .integer) = .ok (.int j) → n.value ≤ m.value → i ≤ j := by
  refine ⟨truncate n, encode_number n, toInt_truncate n, fun k whole low high => ?_, ?_⟩
  · rw [toInt_truncate, whole, towardZero_intCast]
    omega
  · rintro m j encoded le
    have mono := towardZero_mono le
    rw [encode_number, Except.ok.injEq, Value.int.injEq] at encoded
    rw [← encoded, Int64.le_iff_toInt_le, toInt_truncate, toInt_truncate]
    omega

/-- The last binary number that fits a word, and the greatest whole number, which does not. -/
theorem encode_number_around_word :
    ∃ n m : JsonNumber, n.value = (9223372036854774784 : ℤ) ∧ n.value ≤ m.value ∧
      encode (.number n) (some .integer) = .ok (.int 9223372036854774784) ∧
      encode (.number m) (some .integer) = .ok (.int 9223372036854775807) ∧
      (9223372036854774784 : Int64) ≤ 9223372036854775807 := by
  let n : JsonNumber := .float (.ofBits .double 0x43dfffffffffffff) (by decide)
  let m : JsonNumber := .integer 18446744073709551615 (by decide) (by decide)
  have whole : n.value = (9223372036854774784 : ℤ) := by decide +kernel
  have le : n.value ≤ m.value := by decide +kernel
  obtain ⟨i, encoded, -, kept, grows⟩ := encode_number_truncates n
  obtain ⟨j, saturated, word, -⟩ := encode_number_truncates m
  have i_eq : i = 9223372036854774784 := Int64.toInt_inj.mp (kept _ whole (by decide) (by decide))
  have j_eq : j = 9223372036854775807 := Int64.toInt_inj.mp (word.trans (by decide +kernel))
  rw [i_eq] at encoded grows
  rw [j_eq] at saturated
  exact ⟨n, m, whole, le, encoded, saturated, grows m _ saturated le⟩

end Literal
end ObjectQuery
