/-
Whole numbers as bytes, the most significant first.

Negative numbers are written in two's complement.
-/

namespace ObjectQuery
namespace Cell

/-- The last bytes of a number. -/
def bigEndian (width : Nat) (i : Int) : List UInt8 :=
  match width with
  | 0 => []
  | width + 1 => bigEndian width (i / 256) ++ [UInt8.ofNat (i % 256).toNat]

/-- The number that bytes stand for, without a sign. -/
def unsignedOf (bytes : List UInt8) : Nat := bytes.foldl (fun n b => n * 256 + b.toNat) 0

/-- The number that bytes stand for; a set first bit makes it negative. -/
def signedOf (bytes : List UInt8) : Int := Int.bmod (unsignedOf bytes) (Nat.pow 256 bytes.length)

end Cell
end ObjectQuery
