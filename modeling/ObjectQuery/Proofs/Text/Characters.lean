/-
The bytes of a text spell that text, wherever they stand.

A byte that a character starts with follows none, so it ends what was under way before it; every
other byte of the character is one that the bytes before it leave room for.  As each byte completes
a part or leaves one under way that was not, bytes have at most as many parts as they are.
-/
import ObjectQuery.Proofs.Text.Utf8

namespace ObjectQuery
namespace Text
namespace Utf8

/-! ## First bytes -/

theorem start_of_two {b : UInt8} {code : Nat} (first : b.toNat = code + 0xC0)
    (bounds : 2 ≤ code ∧ code < 32) : start b = ([], some ⟨code, 1, 0x80, 0xBF⟩) := by
  simp only [start]
  rw [if_neg (by omega), if_neg (by omega), if_pos (by omega), first, Nat.add_sub_cancel]

theorem start_of_three {b : UInt8} {code : Nat} (first : b.toNat = code + 0xE0) (few : code < 16) :
    start b = ([], some ⟨code, 2, if code = 0 then 0xA0 else 0x80,
      if code = 13 then 0x9F else 0xBF⟩) := by
  simp only [start]
  rw [if_neg (by omega), if_neg (by omega), if_neg (by omega)]
  by_cases zero : code = 0
  · subst zero
    rw [if_pos (by omega), if_pos rfl, if_neg (by decide)]
  rw [if_neg (by omega), if_neg zero]
  by_cases surrogate : code = 13
  · subst surrogate
    rw [if_pos (by omega), if_pos rfl]
  · rw [if_neg (by omega), if_pos (by omega), if_neg surrogate, first, Nat.add_sub_cancel]

theorem start_of_four {b : UInt8} {code : Nat} (first : b.toNat = code + 0xF0) (few : code < 5) :
    start b = ([], some ⟨code, 3, if code = 0 then 0x90 else 0x80,
      if code = 4 then 0x8F else 0xBF⟩) := by
  simp only [start]
  rw [if_neg (by omega), if_neg (by omega), if_neg (by omega), if_neg (by omega),
    if_neg (by omega), if_neg (by omega)]
  by_cases zero : code = 0
  · subst zero
    rw [if_pos (by omega), if_pos rfl, if_neg (by decide)]
  rw [if_neg (by omega), if_neg zero]
  by_cases last : code = 4
  · subst last
    rw [if_neg (by omega), if_pos (by omega), if_pos rfl]
  · rw [if_pos (by omega), if_neg last, first, Nat.add_sub_cancel]

/-! ## Further bytes -/

section

variable {b low high : UInt8} {code : Nat}

theorem parts_first {p : Pending} (first : start b = ([], some p)) (rest : List UInt8) :
    parts none (b :: rest) = parts (some p) rest := by
  rw [parts, step, first, List.nil_append]

theorem parts_next {missing next : Nat} (above : low.toNat ≤ b.toNat)
    (below : b.toNat ≤ high.toNat) (whole : code * 64 + (b.toNat - 0x80) = next)
    (rest : List UInt8) :
    parts (some ⟨code, missing + 2, low, high⟩) (b :: rest) =
      parts (some ⟨next, missing + 1, 0x80, 0xBF⟩) rest := by
  rw [parts, step, if_pos ⟨above, below⟩, whole]
  rfl

theorem parts_last {c : Char} (follows : Follows b)
    (whole : code * 64 + (b.toNat - 0x80) = c.toNat) (rest : List UInt8) :
    parts (some ⟨code, 1, 0x80, 0xBF⟩) (b :: rest) = some c :: parts none rest := by
  have spelled : Char.ofNat (code * 64 + (b.toNat - 0x80)) = c := by rw [whole, Char.ofNat_toNat]
  have within : (0x80 : UInt8) ≤ b ∧ b ≤ 0xBF := follows
  rw [parts, step, if_pos within, ← spelled]
  rfl

end

/-! ## Characters -/

section

variable {b₁ b₂ b₃ b₄ : UInt8} {c : Char} {rest : List UInt8}

theorem parts_of_one (code : c.toNat < 0x80) (first : b₁.toNat = c.toNat) :
    parts none (b₁ :: rest) = some c :: parts none rest := by
  rw [parts, step, start, first, if_pos code, Char.ofNat_toNat]
  rfl

theorem parts_of_two (code : 0x80 ≤ c.toNat ∧ c.toNat < 0x800)
    (first : b₁.toNat = c.toNat / 64 % 32 + 0xC0) (second : b₂.toNat = c.toNat % 64 + 0x80) :
    parts none (b₁ :: b₂ :: rest) = some c :: parts none rest := by
  rw [parts_first (start_of_two first (by omega))]
  exact parts_last ⟨by omega, by omega⟩ (by omega) rest

theorem parts_of_three (code : 0x800 ≤ c.toNat ∧ c.toNat < 0x10000)
    (valid : c.toNat < 0xD800 ∨ 0xDFFF < c.toNat) (first : b₁.toNat = c.toNat / 4096 % 16 + 0xE0)
    (second : b₂.toNat = c.toNat / 64 % 64 + 0x80) (third : b₃.toNat = c.toNat % 64 + 0x80) :
    parts none (b₁ :: b₂ :: b₃ :: rest) = some c :: parts none rest := by
  rw [parts_first (start_of_three first (by omega)), parts_next ?above ?below rfl]
  case above =>
    split
    · exact show 0xA0 ≤ b₂.toNat by omega
    · exact show 0x80 ≤ b₂.toNat by omega
  case below =>
    split
    · exact show b₂.toNat ≤ 0x9F by omega
    · exact show b₂.toNat ≤ 0xBF by omega
  exact parts_last ⟨by omega, by omega⟩ (by omega) rest

theorem parts_of_four (code : 0x10000 ≤ c.toNat ∧ c.toNat < 0x110000)
    (first : b₁.toNat = c.toNat / 262144 % 8 + 0xF0)
    (second : b₂.toNat = c.toNat / 4096 % 64 + 0x80)
    (third : b₃.toNat = c.toNat / 64 % 64 + 0x80) (fourth : b₄.toNat = c.toNat % 64 + 0x80) :
    parts none (b₁ :: b₂ :: b₃ :: b₄ :: rest) = some c :: parts none rest := by
  have follows : (0x80 : UInt8).toNat ≤ b₃.toNat ∧ b₃.toNat ≤ (0xBF : UInt8).toNat :=
    ⟨show 0x80 ≤ b₃.toNat by omega, show b₃.toNat ≤ 0xBF by omega⟩
  rw [parts_first (start_of_four first (by omega)), parts_next ?above ?below rfl,
    parts_next follows.1 follows.2 rfl]
  case above =>
    split
    · exact show 0x90 ≤ b₂.toNat by omega
    · exact show 0x80 ≤ b₂.toNat by omega
  case below =>
    split
    · exact show b₂.toNat ≤ 0x8F by omega
    · exact show b₂.toNat ≤ 0xBF by omega
  exact parts_last ⟨by omega, by omega⟩ (by omega) rest

end

/-- The bytes of a character spell it, if nothing is under way. -/
theorem parts_encodeChar (c : Char) (rest : List UInt8) :
    parts none (String.utf8EncodeChar c ++ rest) = some c :: parts none rest := by
  have valid : c.toNat < 0xD800 ∨ 0xDFFF < c.toNat ∧ c.toNat < 0x110000 := c.valid
  have toNat {n : Nat} (bound : n < 256) : (UInt8.ofNat n).toNat = n :=
    UInt8.toNat_ofNat_of_lt' bound
  simp only [String.utf8EncodeChar, show c.val.toNat = c.toNat from rfl]
  split
  · exact parts_of_one (by omega) (toNat (by omega))
  split
  · exact parts_of_two (by omega) (toNat (by omega)) (toNat (by omega))
  split
  · exact parts_of_three (by omega) (by omega) (toNat (by omega)) (toNat (by omega))
      (toNat (by omega))
  · exact parts_of_four (by omega) (toNat (by omega)) (toNat (by omega)) (toNat (by omega))
      (toNat (by omega))

theorem parts_encode (cs : List Char) :
    parts none (cs.flatMap String.utf8EncodeChar) = cs.map some := by
  induction cs with
  | nil => rfl
  | cons c cs ih => rw [List.flatMap_cons, parts_encodeChar, ih, List.map_cons]

theorem encode_ofList (cs : List Char) :
    encode (String.ofList cs) = cs.flatMap String.utf8EncodeChar := by
  rw [encode, String.toList_ofList]

@[simp]
theorem decodeLossy_encode (s : String) : decodeLossy (encode s) = s := by
  rw [decodeLossy, encode, parts_encode, List.map_map]
  exact (congrArg String.ofList (List.map_id _)).trans String.ofList_toList

@[simp]
theorem decode?_encode (s : String) : decode? (encode s) = some s := by
  rw [decode?, encode, parts_encode, mapM_id_eq_some_iff.mpr rfl, Option.map_some, String.ofList_toList]

theorem encode_injective : Function.Injective encode :=
  Function.LeftInverse.injective decodeLossy_encode

/-! ## The number of parts -/

/-- The invalid parts that the end of the bytes leaves. -/
def unfinished (pending : Option Pending) : Nat := if pending.isSome then 1 else 0

theorem length_start_le (b : UInt8) : (start b).1.length + unfinished (start b).2 ≤ 1 := by
  unfold start
  simp only
  repeat' split
  all_goals exact Nat.le_refl 1

theorem length_step_le (pending : Option Pending) (b : UInt8) :
    (step pending b).1.length + unfinished (step pending b).2 ≤ unfinished pending + 1 := by
  cases pending with
  | none => exact length_start_le b
  | some p =>
    have start_le := length_start_le b
    simp only [step]
    repeat' split
    · exact Nat.le_succ 1
    · exact Nat.le_succ 1
    · rw [List.length_cons]
      simp only [unfinished, Option.isSome_some, if_true] at start_le ⊢
      omega

/-- Whether only bytes within a character can follow. -/
def Bounded (pending : Option Pending) : Prop :=
  ∀ p ∈ pending, 0x80 ≤ p.low.toNat ∧ p.high.toNat ≤ 0xBF

theorem bounded_none : Bounded none := fun _ mem => nomatch mem

theorem bounded_some {code missing : Nat} {low high : UInt8}
    (within : 0x80 ≤ low.toNat ∧ high.toNat ≤ 0xBF) :
    Bounded (some ⟨code, missing, low, high⟩) := by
  rintro _ ⟨⟩
  exact within

theorem bounded_start (b : UInt8) : Bounded (start b).2 := by
  unfold start
  simp only
  repeat' split
  all_goals first | exact bounded_none | exact bounded_some (by decide)

theorem bounded_step (pending : Option Pending) (b : UInt8) : Bounded (step pending b).2 := by
  cases pending with
  | none => exact bounded_start b
  | some p =>
    simp only [step]
    repeat' split
    · exact bounded_none
    · exact bounded_some (by decide)
    · exact bounded_start b

theorem encodeChar_eq_cons (c : Char) :
    ∃ b rest, String.utf8EncodeChar c = b :: rest ∧ (b.toNat < 0x80 ∨ 0xBF < b.toNat) := by
  have toNat {n : Nat} (bound : n < 256) : (UInt8.ofNat n).toNat = n :=
    UInt8.toNat_ofNat_of_lt' bound
  simp only [String.utf8EncodeChar]
  split
  · refine ⟨_, _, rfl, .inl ?_⟩
    rw [toNat (by omega)]
    omega
  repeat' split
  all_goals
    refine ⟨_, _, rfl, .inr ?_⟩
    rw [toNat (by omega)]
    omega

/-- What is under way before a character is an invalid part. -/
theorem length_parts_encodeChar {pending : Option Pending} (bounded : Bounded pending) (c : Char)
    (rest : List UInt8) :
    (parts pending (String.utf8EncodeChar c ++ rest)).length =
      unfinished pending + 1 + (parts none rest).length := by
  have anew : (parts none (String.utf8EncodeChar c ++ rest)).length =
      1 + (parts none rest).length := by
    rw [parts_encodeChar, List.length_cons, Nat.add_comm]
  cases pending with
  | none => rw [anew, unfinished, if_neg (by decide), Nat.zero_add]
  | some p =>
    obtain ⟨low, high⟩ := bounded p rfl
    obtain ⟨b, others, bytes, outside⟩ := encodeChar_eq_cons c
    rw [bytes, List.cons_append] at anew ⊢
    have stops : ¬ (p.low ≤ b ∧ b ≤ p.high) := by
      rintro ⟨above, below⟩
      have above : p.low.toNat ≤ b.toNat := above
      have below : b.toNat ≤ p.high.toNat := below
      omega
    rw [parts, step, if_neg stops, List.cons_append, List.length_cons]
    change (parts none (b :: (others ++ rest))).length + 1 = 1 + 1 + _
    omega

end Utf8
end Text
end ObjectQuery
