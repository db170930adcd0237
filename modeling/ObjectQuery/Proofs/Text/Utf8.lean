/-
Bytes that spell a text are the bytes of that text.

A character under way stands for the bytes that have been seen of it: with any further bytes that it
admits, they are the bytes of the character that comes out.  Every step keeps this, so the bytes of
the characters that are completed add up to the bytes that were read.
-/
import Mathlib.Data.List.Basic
import ObjectQuery.Text.Utf8

namespace ObjectQuery
namespace Text
namespace Utf8

theorem size_append (xs ys : List Char) : size (xs ++ ys) = size xs + size ys := by
  induction xs with
  | nil => rw [List.nil_append, size, Nat.zero_add]
  | cons c rest ih => rw [List.cons_append, size, size, ih, Nat.add_assoc]

/-- Whether a byte can stand within a character. -/
def Follows (b : UInt8) : Prop := 0x80 ≤ b.toNat ∧ b.toNat ≤ 0xBF

/-- The code that bytes add to. -/
def extend (code : Nat) (tail : List UInt8) : Nat :=
  tail.foldl (fun code b => code * 64 + (b.toNat - 0x80)) code

theorem extend_cons (code : Nat) (b : UInt8) (tail : List UInt8) :
    extend code (b :: tail) = extend (code * 64 + (b.toNat - 0x80)) tail := by
  rw [extend, List.foldl_cons, extend]

namespace Pending

/-- Whether bytes complete the character. -/
structure Admits (p : Pending) (tail : List UInt8) : Prop where
  length : tail.length = p.missing
  head : ∀ b ∈ tail.head?, p.low ≤ b ∧ b ≤ p.high
  follows : ∀ b ∈ tail.tail, Follows b

/-- Whether the character is under way after certain bytes. -/
def Carries (p : Pending) (seen : List UInt8) : Prop :=
  ∀ tail, p.Admits tail → String.utf8EncodeChar (Char.ofNat (extend p.code tail)) = seen ++ tail

end Pending

/-- The bytes of what is under way. -/
def Carried : Option Pending → List UInt8 → Prop
  | none, seen => seen = []
  | some p, seen => 0 < p.missing ∧ p.Carries seen

/-! ## The bytes of a code -/

theorem val_ofNat {code : Nat} (valid : code.isValidChar) : (Char.ofNat code).val.toNat = code := by
  rw [Char.ofNat, dif_pos valid]
  rfl

theorem encodeChar_one {b : UInt8} (bound : b.toNat < 0x80) :
    String.utf8EncodeChar (Char.ofNat b.toNat) = [b] := by
  have valid : b.toNat.isValidChar := .inl (by omega)
  simp only [String.utf8EncodeChar, val_ofNat valid]
  rw [if_pos (by omega), UInt8.ofNat_toNat]

section

variable {b₁ b₂ b₃ b₄ : UInt8} {code : Nat}

theorem encodeChar_two (low : 0x80 ≤ code) (high : code ≤ 0x7FF)
    (first : code / 64 % 32 + 0xC0 = b₁.toNat) (second : code % 64 + 0x80 = b₂.toNat) :
    String.utf8EncodeChar (Char.ofNat code) = [b₁, b₂] := by
  have valid : code.isValidChar := .inl (by omega)
  simp only [String.utf8EncodeChar, val_ofNat valid]
  rw [if_neg (by omega), if_pos high, first, second]
  simp only [UInt8.ofNat_toNat]

theorem encodeChar_three (low : 0x800 ≤ code) (high : code ≤ 0xFFFF)
    (valid : code < 0xD800 ∨ 0xDFFF < code) (first : code / 4096 % 16 + 0xE0 = b₁.toNat)
    (second : code / 64 % 64 + 0x80 = b₂.toNat) (third : code % 64 + 0x80 = b₃.toNat) :
    String.utf8EncodeChar (Char.ofNat code) = [b₁, b₂, b₃] := by
  have valid : code.isValidChar := valid.imp id fun above => ⟨above, by omega⟩
  simp only [String.utf8EncodeChar, val_ofNat valid]
  rw [if_neg (by omega), if_neg (by omega), if_pos high, first, second, third]
  simp only [UInt8.ofNat_toNat]

theorem encodeChar_four (low : 0x10000 ≤ code) (high : code < 0x110000)
    (first : code / 262144 % 8 + 0xF0 = b₁.toNat) (second : code / 4096 % 64 + 0x80 = b₂.toNat)
    (third : code / 64 % 64 + 0x80 = b₃.toNat) (fourth : code % 64 + 0x80 = b₄.toNat) :
    String.utf8EncodeChar (Char.ofNat code) = [b₁, b₂, b₃, b₄] := by
  have valid : code.isValidChar := .inr ⟨by omega, high⟩
  simp only [String.utf8EncodeChar, val_ofNat valid]
  rw [if_neg (by omega), if_neg (by omega), if_neg (by omega), first, second, third, fourth]
  simp only [UInt8.ofNat_toNat]

end

/-! ## Steps -/

namespace Pending

variable {p : Pending} {seen : List UInt8} {b : UInt8}

/-- A character with one byte to come. -/
theorem carries_of_one {code : Nat} {low high : UInt8}
    (bytes : ∀ c : UInt8, low ≤ c → c ≤ high →
      String.utf8EncodeChar (Char.ofNat (code * 64 + (c.toNat - 0x80))) = seen ++ [c]) :
    Carries ⟨code, 1, low, high⟩ seen := by
  rintro tail ⟨length, head, follows⟩
  obtain ⟨c, rfl⟩ := List.length_eq_one_iff.mp length
  obtain ⟨low, high⟩ := head c rfl
  exact bytes c low high

theorem carries_of_two {code : Nat} {low high : UInt8}
    (bytes : ∀ c d : UInt8, low ≤ c → c ≤ high → Follows d →
      String.utf8EncodeChar
        (Char.ofNat ((code * 64 + (c.toNat - 0x80)) * 64 + (d.toNat - 0x80))) = seen ++ [c, d]) :
    Carries ⟨code, 2, low, high⟩ seen := by
  rintro tail ⟨length, head, follows⟩
  obtain ⟨c, d, rfl⟩ := List.length_eq_two.mp length
  obtain ⟨low, high⟩ := head c rfl
  exact bytes c d low high (follows d (by simp))

theorem carries_of_three {code : Nat} {low high : UInt8}
    (bytes : ∀ c d e : UInt8, low ≤ c → c ≤ high → Follows d → Follows e →
      String.utf8EncodeChar (Char.ofNat
        (((code * 64 + (c.toNat - 0x80)) * 64 + (d.toNat - 0x80)) * 64 + (e.toNat - 0x80))) =
          seen ++ [c, d, e]) :
    Carries ⟨code, 3, low, high⟩ seen := by
  rintro tail ⟨length, head, follows⟩
  obtain ⟨c, d, e, rfl⟩ := List.length_eq_three.mp length
  obtain ⟨low, high⟩ := head c rfl
  exact bytes c d e low high (follows d (by simp)) (follows e (by simp))

/-- A byte that is not the last one belongs to what is under way. -/
theorem carries_next (carried : p.Carries seen) (low : p.low ≤ b) (high : b ≤ p.high)
    (more : 1 < p.missing) :
    Carries ⟨p.code * 64 + (b.toNat - 0x80), p.missing - 1, 0x80, 0xBF⟩ (seen ++ [b]) := by
  rintro tail ⟨length, head, follows⟩
  have admitted : p.Admits (b :: tail) := by
    refine ⟨?_, ?_, ?_⟩
    · have length : tail.length = p.missing - 1 := length
      rw [List.length_cons]
      omega
    · rintro _ ⟨⟩
      exact ⟨low, high⟩
    · rintro c (mem : c ∈ tail)
      cases tail with
      | nil => contradiction
      | cons first others =>
        rcases List.mem_cons.mp mem with rfl | mem
        · exact head c rfl
        · exact follows c mem
  rw [List.append_assoc, List.singleton_append, ← carried _ admitted, extend_cons]

/-- The last byte completes the character. -/
theorem carries_last (carried : p.Carries seen) (low : p.low ≤ b) (high : b ≤ p.high)
    (last : p.missing = 1) :
    String.utf8EncodeChar (Char.ofNat (p.code * 64 + (b.toNat - 0x80))) = seen ++ [b] := by
  refine carried [b] ⟨last.symm, ?_, ?_⟩
  · rintro _ ⟨⟩
    exact ⟨low, high⟩
  · rintro c ⟨⟩

end Pending

/-- Bytes that are read in full or in part: what is completed, and what stays under way. -/
def Splits (taken : Step) (bytes : List UInt8) : Prop :=
  ∃ (done : List Char) (seen : List UInt8), taken.1 = done.map some ∧ Carried taken.2 seen ∧
    bytes = done.flatMap String.utf8EncodeChar ++ seen

theorem splits_of_done {c : Char} {bytes : List UInt8} (same : String.utf8EncodeChar c = bytes) :
    Splits ([some c], none) bytes :=
  ⟨[c], [], rfl, rfl, by simp [same]⟩

theorem splits_of_carries {p : Pending} {bytes : List UInt8} (missing : 0 < p.missing)
    (carried : p.Carries bytes) : Splits ([], some p) bytes :=
  ⟨[], bytes, rfl, ⟨missing, carried⟩, rfl⟩

section

variable {b low high : UInt8} {code : Nat}

/-- The first of two bytes. -/
theorem splits_of_two (first : code + 0xC0 = b.toNat) (bounds : 2 ≤ code ∧ code < 32) :
    Splits ([], some ⟨code, 1, 0x80, 0xBF⟩) [b] := by
  refine splits_of_carries Nat.one_pos (Pending.carries_of_one fun c low high => ?_)
  have low : 0x80 ≤ c.toNat := low
  have high : c.toNat ≤ 0xBF := high
  exact encodeChar_two (by omega) (by omega) (by omega) (by omega)

/-- The first of three bytes. With the second one the code is long enough, and no surrogate. -/
theorem splits_of_three (first : code + 0xE0 = b.toNat) (few : code < 16)
    (within : ∀ c, low.toNat ≤ c → c ≤ high.toNat → (0x80 ≤ c ∧ c ≤ 0xBF) ∧
      0x20 ≤ code * 64 + (c - 0x80) ∧
        (code * 64 + (c - 0x80) < 0x360 ∨ 0x37F < code * 64 + (c - 0x80))) :
    Splits ([], some ⟨code, 2, low, high⟩) [b] := by
  refine splits_of_carries Nat.two_pos (Pending.carries_of_two fun c d low high follows => ?_)
  obtain ⟨second, long, valid⟩ := within c.toNat low high
  rw [Follows] at follows
  exact encodeChar_three (by omega) (by omega) (by omega) (by omega) (by omega) (by omega)

/-- The first of four bytes. With the second one the code is long enough, and not too large. -/
theorem splits_of_four (first : code + 0xF0 = b.toNat)
    (within : ∀ c, low.toNat ≤ c → c ≤ high.toNat → (0x80 ≤ c ∧ c ≤ 0xBF) ∧
      0x10 ≤ code * 64 + (c - 0x80) ∧ code * 64 + (c - 0x80) < 0x110) :
    Splits ([], some ⟨code, 3, low, high⟩) [b] := by
  refine splits_of_carries (by exact Nat.succ_pos 2)
    (Pending.carries_of_three fun c d e low high follows follows' => ?_)
  obtain ⟨second, long, valid⟩ := within c.toNat low high
  rw [Follows] at follows follows'
  exact encodeChar_four (by omega) (by omega) (by omega) (by omega) (by omega) (by omega)

end

/-- What the first byte of a character leaves under way stands for that byte. -/
theorem splits_start (b : UInt8) (valid : none ∉ (start b).1) : Splits (start b) [b] := by
  have none_mem : none ∈ [(none : Option Char)] := List.mem_cons_self
  unfold start at valid ⊢
  simp only at valid ⊢
  split
  · next one => exact splits_of_done (encodeChar_one one)
  split
  · next stray =>
    rw [if_neg (by assumption), if_pos stray] at valid
    exact absurd none_mem valid
  split
  · exact splits_of_two (by omega) (by omega)
  split
  · next lead =>
    exact splits_of_three (by omega) (by omega) fun c (low : 0xA0 ≤ c) (high : c ≤ 0xBF) => by omega
  split
  · next lead =>
    exact splits_of_three (by omega) (by omega) fun c (low : 0x80 ≤ c) (high : c ≤ 0x9F) => by omega
  split
  · exact splits_of_three (by omega) (by omega) fun c (low : 0x80 ≤ c) (high : c ≤ 0xBF) => by omega
  split
  · exact splits_of_four (by omega) fun c (low : 0x90 ≤ c) (high : c ≤ 0xBF) => by omega
  split
  · exact splits_of_four (by omega) fun c (low : 0x80 ≤ c) (high : c ≤ 0xBF) => by omega
  split
  · exact splits_of_four (by omega) fun c (low : 0x80 ≤ c) (high : c ≤ 0x8F) => by omega
  · iterate 9 rw [if_neg (by assumption)] at valid
    exact absurd none_mem valid

/-- The step at a byte adds it to what was under way. -/
theorem splits_step {pending : Option Pending} {seen : List UInt8} (b : UInt8)
    (carried : Carried pending seen) (valid : none ∉ (step pending b).1) :
    Splits (step pending b) (seen ++ [b]) := by
  cases pending with
  | none =>
    have nothing : seen = [] := carried
    rw [nothing]
    exact splits_start b valid
  | some p =>
    obtain ⟨missing, carried⟩ := carried
    simp only [step] at valid ⊢
    by_cases within : p.low ≤ b ∧ b ≤ p.high
    · rw [if_pos within]
      by_cases last : p.missing ≤ 1
      · rw [if_pos last]
        exact splits_of_done (p.carries_last carried within.1 within.2 (by omega))
      · rw [if_neg last]
        refine splits_of_carries ?_ (p.carries_next carried within.1 within.2 (by omega))
        exact Nat.sub_pos_of_lt (by omega)
    · rw [if_neg within] at valid
      exact absurd List.mem_cons_self valid

/-- Bytes without an invalid part are the bytes of their characters. -/
theorem encode_of_parts {pending : Option Pending} {seen bytes : List UInt8} {cs : List Char}
    (carried : Carried pending seen) (spelled : parts pending bytes = cs.map some) :
    cs.flatMap String.utf8EncodeChar = seen ++ bytes := by
  induction bytes generalizing pending seen cs with
  | nil =>
    cases pending with
    | none =>
      have nothing : seen = [] := carried
      have none_spelled : cs = [] := List.map_eq_nil_iff.mp spelled.symm
      rw [nothing, none_spelled]
      rfl
    | some p =>
      have invalid : none ∈ cs.map some := spelled ▸ List.mem_cons_self
      simp at invalid
  | cons b bytes ih =>
    rw [parts] at spelled
    obtain ⟨done, others, split, first, second⟩ := List.append_eq_map_iff.mp spelled
    have valid : none ∉ (step pending b).1 := by simp [← first]
    obtain ⟨done', rest, completed, carried, bytes_eq⟩ := splits_step b carried valid
    have same : done = done' :=
      List.map_injective_iff.mpr (fun _ _ => Option.some.inj) (first.trans completed)
    rw [split, List.flatMap_append, ih carried second.symm, same, ← List.append_assoc, ← bytes_eq,
      List.append_assoc, List.singleton_append]

theorem mapM_id_eq_some_iff {found : List (Option Char)} {cs : List Char} :
    found.mapM id = some cs ↔ found = cs.map some := by
  constructor
  · intro whole
    induction found generalizing cs with
    | nil =>
      cases whole
      rfl
    | cons c found ih =>
      rw [List.mapM_cons] at whole
      obtain ⟨c', found_c, whole⟩ := Option.bind_eq_some_iff.mp whole
      obtain ⟨cs', found_cs, whole⟩ := Option.bind_eq_some_iff.mp whole
      cases whole
      rw [ih found_cs, show c = some c' from found_c]
      rfl
  · rintro rfl
    induction cs with
    | nil => rfl
    | cons c cs ih =>
      rw [List.map_cons, List.mapM_cons, ih]
      rfl

theorem encode_of_decode? {bytes : List UInt8} {s : String} (decoded : decode? bytes = some s) :
    encode s = bytes := by
  obtain ⟨cs, whole, rfl⟩ := Option.map_eq_some_iff.mp decoded
  have nothing : Carried none [] := rfl
  rw [encode, String.toList_ofList]
  exact encode_of_parts nothing (mapM_id_eq_some_iff.mp whole)

theorem encode_of_decode {bytes : List UInt8} {s : String} (decoded : decode bytes = .ok s) :
    encode s = bytes := by
  simp only [decode] at decoded
  split at decoded
  · next text found =>
    cases decoded
    exact encode_of_decode? found
  · contradiction

end Utf8
end Text
end ObjectQuery
