/-
How numbers are spelled.

`Follows` says which characters may stand side by side in the text of a number: digits, signs and
points do anywhere, and the mark of an exponent after a digit.  The texts of whole numbers and of
finite binary numbers consist of such neighbours.  The mark never comes first because the shortest
digits of a number are never none.
-/
import Mathlib.Data.List.Chain
import Mathlib.Data.List.TakeWhile
import ObjectQuery.Number.Layout

namespace ObjectQuery
namespace Number

def isPlain (c : Char) : Bool := c.isDigit || c == '+' || c == '-' || c == '.'

/-- Whether the second character may stand after the first in the text of a number. -/
def Follows (a b : Char) : Prop := isPlain b = true ∨ b = 'e' ∧ a.isDigit = true

theorem isPlain_of_isDigit {c : Char} (digit : c.isDigit = true) : isPlain c = true := by
  simp [isPlain, digit]

section

variable {cs : List Char} {before : Char}

theorem isChain_of_isPlain (plain : ∀ c ∈ cs, isPlain c = true) :
    (before :: cs).IsChain Follows := by
  induction cs generalizing before with
  | nil => exact .singleton before
  | cons c rest ih =>
    rw [List.forall_mem_cons] at plain
    exact List.isChain_cons_cons.mpr ⟨.inl plain.1, ih plain.2⟩

theorem exists_follows (numeral : (before :: cs).IsChain Follows) {c : Char} (mem : c ∈ cs) :
    ∃ a, Follows a c := by
  induction cs generalizing before with
  | nil => contradiction
  | cons d rest ih =>
    rw [List.isChain_cons_cons] at numeral
    rcases List.mem_cons.mp mem with rfl | later
    · exact ⟨before, numeral.1⟩
    · exact ih numeral.2 later

/-- The neighbours of a significand, the mark and an exponent. -/
theorem isChain_exponent (significand : List Char) {exponent : List Char} {last : Char}
    (plain : ∀ c ∈ significand, isPlain c = true) (ends : significand.getLast? = some last)
    (digit : last.isDigit = true) (others : ∀ c ∈ exponent, isPlain c = true) :
    (before :: (significand ++ 'e' :: exponent)).IsChain Follows := by
  rw [← List.cons_append, List.isChain_append]
  refine ⟨isChain_of_isPlain plain, isChain_of_isPlain others, fun a last_a b first_b => ?_⟩
  have same : a = last := by
    rw [List.getLast?_cons, ends] at last_a
    simpa using last_a.symm
  simp only [List.head?_cons, Option.mem_def, Option.some.injEq] at first_b
  exact .inr ⟨first_b.symm, same ▸ digit⟩

end

/-! ## Whole numbers -/

theorem isPlain_of_mem_toDigits {n : Nat} {c : Char} (mem : c ∈ Nat.toDigits 10 n) :
    isPlain c = true :=
  isPlain_of_isDigit (Nat.isDigit_of_mem_toDigits (by decide) (by decide) mem)

theorem isPlain_of_mem_toString {n : Nat} {c : Char} (mem : c ∈ (toString n).toList) :
    isPlain c = true := by
  rw [Nat.toString_eq_ofList_toDigits, String.toList_ofList] at mem
  exact isPlain_of_mem_toDigits mem

theorem isPlain_of_mem_toString_int {i : Int} {c : Char} (mem : c ∈ (toString i).toList) :
    isPlain c = true := by
  cases i with
  | ofNat n => exact isPlain_of_mem_toString mem
  | negSucc n =>
    have spelled : (toString (Int.negSucc n)).toList = '-' :: (toString (n + 1)).toList := by
      show ("-" ++ toString (n + 1)).toList = _
      rw [String.toList_append]
      rfl
    rw [spelled, List.mem_cons] at mem
    rcases mem with rfl | later
    · rfl
    · exact isPlain_of_mem_toString later

/-! ## The shortest digits -/

theorem significantDigits_subset {n : Nat} {c : Char} (mem : c ∈ significantDigits n) :
    c ∈ Nat.toDigits 10 n := by
  rw [significantDigits, List.mem_reverse] at mem
  exact List.mem_reverse.mp ((List.dropWhile_suffix _).subset mem)

theorem significantDigits_ne_nil {n : Nat} (pos : 0 < n) : significantDigits n ≠ [] := by
  intro none
  rw [significantDigits, List.reverse_eq_nil_iff, List.dropWhile_eq_nil_iff] at none
  have zeros : Nat.toDigits 10 n = List.replicate (Nat.toDigits 10 n).length '0' :=
    List.eq_replicate_of_mem fun c mem => by simpa using none c (List.mem_reverse.mpr mem)
  have value : n = 0 := by
    rw [← Nat.ofDigitChars_ten_toDigits (n := n), zeros, Nat.ofDigitChars_replicate_zero,
      Nat.mul_zero]
  omega

theorem Format.units_pos {f : Format} {magnitude : Nat} (pos : 0 < magnitude) :
    0 < f.units magnitude := by
  rw [units]
  split
  · exact pos
  · have binade : 0 < f.binade := Nat.two_pow_pos _
    exact Nat.mul_pos (by omega) (Nat.two_pow_pos _)

/-- Zero reads back as no positive number. -/
theorem Interval.onGrid?_pos {f : Format} {tie : Tie} {magnitude n : Nat} {place : Int}
    (pos : 0 < magnitude) (found : (Interval.ofMagnitude f magnitude).onGrid? tie place = some n) :
    0 < n := by
  have low : 0 < (Interval.ofMagnitude f magnitude).low := by
    have own := Format.units_pos (f := f) pos
    simp only [Interval.ofMagnitude]
    omega
  have outside {d : Nat} (d_pos : 0 < d) : (Interval.ofMagnitude f magnitude).has 0 d = false := by
    have above := Nat.mul_pos low d_pos
    rw [Interval.has]
    split
    · simp only [Nat.zero_mul, Bool.and_eq_false_iff, decide_eq_false_iff_not]
      omega
    · simp only [Nat.zero_mul, Bool.and_eq_false_iff, decide_eq_false_iff_not]
      omega
  simp only [Interval.onGrid?] at found
  split at found
  · next hit =>
    simp only [Option.some.injEq] at found
    refine Nat.pos_of_ne_zero fun zero => ?_
    rw [← found] at zero
    have down := outside (d := Nat.pow 10 (-place).toNat) (Nat.pow_pos (by decide))
    rw [zero, Nat.zero_mul, down] at hit
    contradiction
  · split at found
    · simp only [Option.some.injEq] at found
      rw [← found]
      exact Nat.succ_pos _
    · contradiction

/-- The shortest form of a positive number has digits, and digits only. -/
theorem shortest_digits (f : Format) (tie : Tie) {magnitude : Nat} (pos : 0 < magnitude) :
    (shortest f tie magnitude).digits ≠ [] ∧
      ∀ c ∈ (shortest f tie magnitude).digits, c.isDigit = true := by
  rw [shortest]
  split
  · next n place found =>
    obtain ⟨count, _, hit⟩ := List.exists_of_findSome?_eq_some found
    rw [Option.map_eq_some_iff] at hit
    obtain ⟨m, on_grid, same⟩ := hit
    simp only [Prod.mk.injEq] at same
    refine ⟨significantDigits_ne_nil (same.1 ▸ Interval.onGrid?_pos pos on_grid), fun c mem => ?_⟩
    exact Nat.isDigit_of_mem_toDigits (by decide) (by decide) (significantDigits_subset mem)
  · exact ⟨by simp, by simp⟩

/-! ## Binary numbers -/

namespace Layout

variable {l : Layout} {f : Format} {x : Binary f} {s : Scientific} {before c : Char}

theorem isPlain_of_mem_writePositional (digits : ∀ c ∈ s.digits, c.isDigit = true)
    (mem : c ∈ l.writePositional s) : isPlain c = true := by
  have plain {d : Char} (mem : d ∈ s.digits) : isPlain d = true :=
    isPlain_of_isDigit (digits d mem)
  have zero {n : Nat} {d : Char} (mem : d ∈ List.replicate n '0') : isPlain d = true := by
    rw [List.eq_of_mem_replicate mem]
    rfl
  have whole {k n : Nat} {d : Char} (mem : d ∈ s.digits.take k ++ List.replicate n '0') :
      isPlain d = true :=
    (List.mem_append.mp mem).elim (fun taken => plain (List.mem_of_mem_take taken)) zero
  simp only [writePositional] at mem
  split at mem
  · rw [List.mem_append, List.mem_append] at mem
    rcases mem with (start | filled) | digit
    · simp only [List.mem_cons, List.not_mem_nil, or_false] at start
      rcases start with rfl | rfl <;> rfl
    · exact zero filled
    · exact plain digit
  · split at mem
    · rw [List.mem_append, List.mem_cons] at mem
      rcases mem with front | rfl | fraction
      · exact whole front
      · rfl
      · exact plain (List.mem_of_mem_drop fraction)
    · split at mem
      · rw [List.mem_append] at mem
        rcases mem with front | point
        · exact whole front
        · simp only [List.mem_cons, List.not_mem_nil, or_false] at point
          rcases point with rfl | rfl <;> rfl
      · exact whole mem

theorem isChain_writeScientific (some_digits : s.digits ≠ [])
    (digits : ∀ c ∈ s.digits, c.isDigit = true) :
    (before :: l.writeScientific s).IsChain Follows := by
  obtain ⟨first, fraction, split⟩ := List.exists_cons_of_ne_nil some_digits
  rw [split, List.forall_mem_cons] at digits
  have exponent (sign : List Char) (signs : ∀ c ∈ sign, isPlain c = true) :
      ∀ c ∈ sign ++ Nat.toDigits 10 s.power.natAbs, isPlain c = true := fun c mem =>
    (List.mem_append.mp mem).elim (signs c) isPlain_of_mem_toDigits
  have signs : ∀ c ∈ (if s.power < 0 then ['-'] else if l.signsExponent then ['+'] else []),
      isPlain c = true := by
    split
    · simp [isPlain]
    · split <;> simp [isPlain]
  have spelled : l.writeScientific s =
      first :: (if fraction.isEmpty then [] else '.' :: fraction) ++ 'e' ::
        ((if s.power < 0 then ['-'] else if l.signsExponent then ['+'] else []) ++
          Nat.toDigits 10 s.power.natAbs) := by
    simp [writeScientific, split]
  rw [spelled]
  cases fraction with
  | nil =>
    refine isChain_exponent [first] (fun c mem => ?_) rfl digits.1 (exponent _ signs)
    rw [List.mem_singleton.mp mem]
    exact isPlain_of_isDigit digits.1
  | cons d fraction =>
    have last := List.getLast_mem (List.cons_ne_nil d fraction)
    refine isChain_exponent (first :: '.' :: d :: fraction) ?_ ?_ (digits.2 _ last)
      (exponent _ signs)
    · intro c mem
      rcases List.mem_cons.mp mem with rfl | mem
      · exact isPlain_of_isDigit digits.1
      · rcases List.mem_cons.mp mem with rfl | mem
        · rfl
        · exact isPlain_of_isDigit (digits.2 c mem)
    · rw [List.getLast?_cons_cons, List.getLast?_cons_cons, List.getLast?_eq_some_getLast]

theorem isChain_writeMagnitude (magnitude : Nat) :
    (before :: l.writeMagnitude f magnitude).IsChain Follows := by
  have written {s : Scientific} (some_digits : s.digits ≠ [])
      (digits : ∀ c ∈ s.digits, c.isDigit = true) : (before ::
        if l.positional s.power then l.writePositional s else l.writeScientific s).IsChain
          Follows := by
    split
    · exact isChain_of_isPlain fun c => isPlain_of_mem_writePositional digits
    · exact isChain_writeScientific some_digits digits
  rw [writeMagnitude]
  by_cases zero : magnitude = 0
  · rw [if_pos zero]
    exact written (by simp) (by simp)
  · rw [if_neg zero]
    obtain ⟨some_digits, digits⟩ := shortest_digits f l.tie (Nat.pos_of_ne_zero zero)
    exact written some_digits digits

theorem isChain_write (finite : x.isFinite = true) (before : Char) :
    (before :: (l.write x).toList).IsChain Follows := by
  have number : x.isNaN = false := by
    simp only [Binary.isFinite, decide_eq_true_eq] at finite
    simp only [Binary.isNaN, decide_eq_false_iff_not]
    omega
  simp only [write, number, finite, Bool.false_eq_true, if_false, if_true, String.toList_ofList]
  split
  · rw [List.singleton_append, List.isChain_cons_cons]
    exact ⟨.inl rfl, isChain_writeMagnitude _⟩
  · exact isChain_writeMagnitude _

/-- A number that is not finite is spelled as a word. -/
theorem write_of_not_finite (infinite : x.isFinite = false) :
    l.write x ∈ ["NaN", "inf", "-inf"] := by
  simp only [write, infinite, Bool.false_eq_true, if_false]
  by_cases undefined : x.isNaN = true
  · simp [undefined]
  · rw [if_neg undefined]
    by_cases negative : x.negative = true
    · rw [if_pos negative]
      decide
    · rw [if_neg negative]
      decide

end Layout
end Number
end ObjectQuery
