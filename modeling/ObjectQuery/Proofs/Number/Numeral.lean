/-
Whole numbers that texts spell.

A text is read as a number if and only if it spells the number, with digits behind an optional sign,
and the number is within the bounds.  The reader stops at the first digit that leaves the bounds.
Digits lead away from zero, so no digits after that one bring the number back.
-/
import Mathlib.Algebra.Group.Nat.Defs
import ObjectQuery.Number.Integer
import ObjectQuery.Proofs.Number.Digits

namespace ObjectQuery
namespace Number

def IsDigits (cs : List Char) : Prop := cs ≠ [] ∧ ∀ c ∈ cs, c.isDigit = true

/-- Whether a text spells a whole number. -/
inductive Spells : List Char → Int → Prop
  | unsigned {digits : List Char} (numeral : IsDigits digits) :
      Spells digits (digitsValue 0 digits)
  | positive {digits : List Char} (numeral : IsDigits digits) :
      Spells ('+' :: digits) (digitsValue 0 digits)
  | negative {digits : List Char} (numeral : IsDigits digits) :
      Spells ('-' :: digits) (-digitsValue 0 digits)

theorem spells_positive_iff {digits : List Char} {i : Int} :
    Spells ('+' :: digits) i ↔ IsDigits digits ∧ (digitsValue 0 digits : Int) = i := by
  constructor
  · intro spells
    cases spells with
    | unsigned numeral => exact absurd (numeral.2 '+' List.mem_cons_self) (by decide)
    | positive numeral => exact ⟨numeral, rfl⟩
  · rintro ⟨numeral, rfl⟩
    exact .positive numeral

theorem spells_negative_iff {digits : List Char} {i : Int} :
    Spells ('-' :: digits) i ↔ IsDigits digits ∧ -(digitsValue 0 digits : Int) = i := by
  constructor
  · intro spells
    cases spells with
    | unsigned numeral => exact absurd (numeral.2 '-' List.mem_cons_self) (by decide)
    | negative numeral => exact ⟨numeral, rfl⟩
  · rintro ⟨numeral, rfl⟩
    exact .negative numeral

theorem spells_unsigned_iff {digits : List Char} {i : Int}
    (no_plus : ∀ rest, digits ≠ '+' :: rest) (no_minus : ∀ rest, digits ≠ '-' :: rest) :
    Spells digits i ↔ IsDigits digits ∧ (digitsValue 0 digits : Int) = i := by
  constructor
  · intro spells
    cases spells with
    | unsigned numeral => exact ⟨numeral, rfl⟩
    | positive => exact (no_plus _ rfl).elim
    | negative => exact (no_minus _ rfl).elim
  · rintro ⟨numeral, rfl⟩
    exact .unsigned numeral

/-- The number that digits stand for behind a sign. -/
def withSign (negative : Bool) (n : Nat) : Int := if negative then -(n : Int) else n

@[simp] theorem withSign_false (n : Nat) : withSign false n = n := rfl

@[simp] theorem withSign_true (n : Nat) : withSign true n = -(n : Int) := rfl

theorem withSign_step (negative : Bool) (n digit : Nat) :
    (if negative then withSign negative n * 10 - digit else withSign negative n * 10 + digit) =
      withSign negative (n * 10 + digit) := by
  cases negative with
  | true =>
    simp only [if_true, withSign_true]
    omega
  | false =>
    simp only [Bool.false_eq_true, if_false, withSign_false]
    omega

namespace IntegerRange

variable {range : IntegerRange} {i : Int}

theorem has_iff : range.has i = true ↔ range.low ≤ i ∧ i ≤ range.high := by
  simp [has]

/-- Bounds with zero between them that include a number include those between it and zero. -/
theorem has_withSign_of_le (low : range.low ≤ 0) (high : 0 ≤ range.high) {negative : Bool}
    {m n : Nat} (le : m ≤ n) (within : range.has (withSign negative n) = true) :
    range.has (withSign negative m) = true := by
  rw [has_iff] at within ⊢
  cases negative with
  | true =>
    simp only [withSign_true] at within ⊢
    omega
  | false =>
    simp only [withSign_false] at within ⊢
    omega

/-- The digits after those of a number within the bounds are read if the number they lead to is
within the bounds as well. -/
theorem readDigits_eq_ok_iff (low : range.low ≤ 0) (high : 0 ≤ range.high) {negative : Bool}
    {start : Nat} (within : range.has (withSign negative start) = true) (cs : List Char) :
    range.readDigits negative (withSign negative start) cs = .ok i ↔
      (∀ c ∈ cs, c.isDigit = true) ∧ withSign negative (digitsValue start cs) = i ∧
        range.has i = true := by
  induction cs generalizing start with
  | nil =>
    rw [readDigits, Except.ok.injEq]
    constructor
    · rintro rfl
      exact ⟨by simp, rfl, within⟩
    · exact fun h => h.2.1
  | cons c rest ih =>
    rw [readDigits]
    by_cases digit : c.isDigit = true
    · rw [if_pos digit]
      simp only [withSign_step]
      generalize further : start * 10 + (c.toNat - '0'.toNat) = next
      have value : digitsValue start (c :: rest) = digitsValue next rest := by rw [← further]; rfl
      rw [List.forall_mem_cons, value]
      by_cases inside : range.has (withSign negative next) = true
      · have bounds := has_iff.mp inside
        rw [if_neg (by omega), if_neg (by omega), ih inside]
        simp [digit]
      · have outside : withSign negative next < range.low ∨
            range.high < withSign negative next := by
          rw [has_iff] at inside
          omega
        constructor
        · intro read
          split at read
          · contradiction
          · rw [if_pos (by omega)] at read
            contradiction
        · rintro ⟨_, rfl, last⟩
          -- The remaining digits only lead further away.
          exact (inside (has_withSign_of_le low high (le_digitsValue next rest) last)).elim
    · rw [if_neg digit]
      constructor
      · intro failed
        contradiction
      · intro all
        exact (digit (all.1 c List.mem_cons_self)).elim

/-- Between bounds on both sides of zero, a text is read as the number that it spells. -/
theorem read_eq_ok_iff (low : range.low < 0) (high : 0 ≤ range.high) {text : String} :
    range.read text = .ok i ↔ Spells text.toList i ∧ range.has i = true := by
  have zero (negative : Bool) : range.has (withSign negative 0) = true := by
    rw [has_iff]
    cases negative <;> simp only [withSign_true, withSign_false] <;> omega
  have digits (negative : Bool) {cs : List Char} (some_digits : cs ≠ []) :
      range.readDigits negative 0 cs = .ok i ↔
        (IsDigits cs ∧ withSign negative (digitsValue 0 cs) = i) ∧ range.has i = true := by
    have start : withSign negative 0 = 0 := by cases negative <;> rfl
    have read := readDigits_eq_ok_iff (i := i) (by omega) high (zero negative) cs
    rw [start] at read
    rw [read, IsDigits, and_assoc]
    simp [some_digits]
  rw [read]
  split
  · next empty =>
    rw [empty]
    constructor
    · intro failed
      contradiction
    · rintro ⟨spells, _⟩
      cases spells with
      | unsigned numeral => exact (numeral.1 rfl).elim
  · next rest split =>
    rw [split, spells_positive_iff]
    cases rest with
    | nil => simp [IsDigits]
    | cons c rest => exact digits false (List.cons_ne_nil c rest)
  · next rest split =>
    rw [split, spells_negative_iff]
    cases rest with
    | nil => simp [IsDigits]
    | cons c rest =>
      have signed : decide (0 ≤ range.low) = false := decide_eq_false (by omega)
      rw [signed]
      exact digits true (List.cons_ne_nil c rest)
  · next cs some_chars no_plus no_minus =>
    rw [spells_unsigned_iff no_plus no_minus]
    exact digits false some_chars

end IntegerRange
end Number
end ObjectQuery
