/-
Bytes and the numbers that they stand for.

A number of bytes is exactly enough for the numbers below a power of 256, whether they are counted
from zero or around it: bytes that are read and written again are the same bytes, and so is a number
that is written and read again within the range of its width.
-/
import Mathlib.Algebra.Group.Nat.Defs
import Mathlib.Data.List.Induction
import ObjectQuery.Cell.BigEndian
import ObjectQuery.Number.Integer

namespace ObjectQuery
namespace Cell

theorem unsignedOf_append (bytes : List UInt8) (b : UInt8) :
    unsignedOf (bytes ++ [b]) = unsignedOf bytes * 256 + b.toNat := by
  rw [unsignedOf, List.foldl_append]
  rfl

theorem unsignedOf_lt (bytes : List UInt8) : unsignedOf bytes < 256 ^ bytes.length := by
  induction bytes using List.reverseRecOn with
  | nil => exact Nat.one_pos
  | append_singleton bytes b ih =>
    have byte := b.toNat_lt
    rw [unsignedOf_append, List.length_append, List.length_singleton, Nat.pow_succ]
    omega

theorem length_bigEndian (width : Nat) (i : Int) : (bigEndian width i).length = width := by
  induction width generalizing i with
  | zero => rfl
  | succ width ih => rw [bigEndian, List.length_append, ih, List.length_singleton]

/-- The last byte of a remainder, and the remainder of the bytes before it. -/
theorem emod_256_mul (i m : Int) : i % (256 * m) = i / 256 % m * 256 + i % 256 := by
  rw [Int.emod_def, Int.emod_def (i / 256), ← Int.ediv_ediv_of_nonneg (by decide), Int.mul_assoc]
  generalize m * (i / 256 / m) = before
  omega

theorem natCast_256_pow_succ (width : Nat) :
    ((256 ^ (width + 1) : Nat) : Int) = 256 * (256 ^ width : Nat) := by
  rw [Nat.pow_succ, Nat.mul_comm]
  exact Int.natCast_mul 256 (256 ^ width)

/-- The bytes of a number depend on its remainder only. -/
theorem bigEndian_congr {width : Nat} {i j : Int}
    (same : i % (256 ^ width : Nat) = j % (256 ^ width : Nat)) :
    bigEndian width i = bigEndian width j := by
  induction width generalizing i j with
  | zero => rfl
  | succ width ih =>
    rw [natCast_256_pow_succ] at same
    have split := emod_256_mul i (256 ^ width : Nat)
    have split' := emod_256_mul j (256 ^ width : Nat)
    have last : i % 256 = j % 256 := by omega
    have others : i / 256 % (256 ^ width : Nat) = j / 256 % (256 ^ width : Nat) := by omega
    rw [bigEndian, bigEndian, last, ih others]

theorem bigEndian_unsignedOf (bytes : List UInt8) :
    bigEndian bytes.length (unsignedOf bytes) = bytes := by
  induction bytes using List.reverseRecOn with
  | nil => rfl
  | append_singleton bytes b ih =>
    have byte := b.toNat_lt
    have before : ((unsignedOf bytes * 256 + b.toNat : Nat) : Int) / 256 = unsignedOf bytes := by
      omega
    have last : (((unsignedOf bytes * 256 + b.toNat : Nat) : Int) % 256).toNat = b.toNat := by
      omega
    rw [List.length_append, List.length_singleton, bigEndian, unsignedOf_append, before, last, ih,
      UInt8.ofNat_toNat]

theorem unsignedOf_bigEndian (width : Nat) (i : Int) :
    (unsignedOf (bigEndian width i) : Int) = i % (256 ^ width : Nat) := by
  induction width generalizing i with
  | zero => simp [bigEndian, unsignedOf]
  | succ width ih =>
    have byte : (UInt8.ofNat (i % 256).toNat).toNat = (i % 256).toNat := by
      rw [UInt8.toNat_ofNat']
      omega
    have split := emod_256_mul i (256 ^ width : Nat)
    rw [bigEndian, unsignedOf_append, byte, Int.natCast_add, Int.natCast_mul, ih,
      natCast_256_pow_succ]
    omega

/-- Bytes that are read as a number with a sign are written again as they were. -/
theorem bigEndian_signedOf (bytes : List UInt8) :
    bigEndian bytes.length (signedOf bytes) = bytes := by
  have same : signedOf bytes % (256 ^ bytes.length : Nat) =
      (unsignedOf bytes : Int) % (256 ^ bytes.length : Nat) := Int.bmod_emod
  rw [bigEndian_congr same, bigEndian_unsignedOf]

theorem signedOf_bigEndian {width : Nat} {i : Int} (low : -(256 ^ width : Nat) ≤ i * 2)
    (high : i * 2 < (256 ^ width : Nat)) : signedOf (bigEndian width i) = i := by
  rw [signedOf, unsignedOf_bigEndian, length_bigEndian]
  show Int.bmod (i % (256 ^ width : Nat)) (256 ^ width) = i
  rw [Int.emod_bmod, Int.bmod_eq_of_le_mul_two low high]

theorem has_signedOf {bytes : List UInt8} (some_byte : 0 < bytes.length) :
    (Number.IntegerRange.signed (8 * bytes.length)).has (signedOf bytes) = true := by
  have positive : 0 < 256 ^ bytes.length := Nat.pow_pos (by decide)
  have low : -(((256 ^ bytes.length : Nat) : Int) / 2) ≤ signedOf bytes := Int.le_bmod positive
  have high : signedOf bytes < (((256 ^ bytes.length : Nat) : Int) + 1) / 2 := Int.bmod_lt positive
  have half : 256 ^ bytes.length = Nat.pow 2 (8 * bytes.length - 1) * 2 := by
    show (2 ^ 8) ^ bytes.length = 2 ^ (8 * bytes.length - 1) * 2
    rw [← Nat.pow_mul, ← Nat.pow_succ, Nat.succ_eq_add_one, Nat.sub_add_cancel (by omega)]
  simp only [Number.IntegerRange.has, Bool.and_eq_true, decide_eq_true_eq]
  simp only [Number.IntegerRange.signed]
  omega

end Cell
end ObjectQuery
