/-
Strings and whole numbers of JSON text are read as they are written.

A written leaf is read up to its end.  For a string that is the closing quote; for a number it is
whatever does not go on with it.
-/
import Mathlib.Data.List.Forall2
import Mathlib.Data.List.TakeWhile
import ObjectQuery.Json.Node
import ObjectQuery.Json.Writer
import ObjectQuery.Proofs.Number.Digits

namespace ObjectQuery
namespace JsonNode

open Number

/-! ## Strings -/

/-- Whether a part stands for a character: as itself, or by the code of a control. -/
def Spells (part : StringPart) (c : Char) : Prop :=
  part = .char c ∨ part = .code c.toNat ∧ c.toNat < 32

/-- A code that is no half of a pair stands for its character. -/
theorem joinParts_code {n : Nat} (whole : n < 0xD800) (rest : List StringPart) :
    joinParts (.code n :: rest) = (joinParts rest).map (Char.ofNat n :: ·) := by
  have high : ¬(0xD800 ≤ n ∧ n < 0xDC00) := by omega
  have low : ¬(0xDC00 ≤ n ∧ n < 0xE000) := by omega
  have half : ¬(0xD800 ≤ n ∧ n < 0xE000) := by omega
  cases rest with
  | nil => simp only [joinParts, half, if_false]
  | cons part rest =>
    cases part with
    | char c => simp only [joinParts, half, if_false]
    | code m => rw [joinParts, if_neg high, if_neg low]

theorem joinParts_of_spells {parts : List StringPart} {cs : List Char}
    (spelled : List.Forall₂ Spells parts cs) : joinParts parts = some cs := by
  induction spelled with
  | nil => rfl
  | @cons part c parts cs spells spelled ih =>
    rcases spells with rfl | ⟨rfl, control⟩
    · rw [joinParts, ih]
      rfl
    · rw [joinParts_code (by omega), ih, Char.ofNat_toNat]
      rfl

theorem hexValue?_hexDigit {n : Nat} (small : n < 16) : hexValue? (Json.hexDigit n) = some n := by
  have each : ∀ m < 16, hexValue? (Json.hexDigit m) = some m := by decide
  exact each n small

/-- The parts with one more in front. -/
def consPart (part : StringPart) (read : List StringPart × List Char) :
    List StringPart × List Char :=
  (part :: read.1, read.2)

theorem readParts_unescape {c d : Char} (other : d ≠ 'u') (stands : unescape? d = some c)
    (cs : List Char) : readParts ('\\' :: d :: cs) = (readParts cs).map (consPart (.char c)) := by
  rw [readParts, stands]
  · cases readParts cs <;> rfl
  · rintro _ _ _ _ _ rfl
    contradiction

theorem readParts_code {n : Nat} (control : n < 32) (cs : List Char) :
    readParts ('\\' :: 'u' :: '0' :: '0' :: Json.hexDigit (n / 16) :: Json.hexDigit (n % 16) :: cs) =
      (readParts cs).map (consPart (.code n)) := by
  have value : ((0 * 16 + 0) * 16 + n / 16) * 16 + n % 16 = n := by omega
  have zero : hexValue? '0' = some 0 := rfl
  rw [readParts, zero, hexValue?_hexDigit (by omega), hexValue?_hexDigit (by omega)]
  simp only [Option.bind_eq_bind, Option.bind_some, value]
  cases readParts cs <;> rfl

theorem readParts_plain {c : Char} (other : c ≠ '"' ∧ c ≠ '\\' ∧ ¬c.toNat < 32) (cs : List Char) :
    readParts (c :: cs) = (readParts cs).map (consPart (.char c)) := by
  rw [readParts, if_neg other.2.2]
  · cases readParts cs <;> rfl
  · exact other.1
  · rintro _ _ _ _ _ rfl
    exact absurd rfl other.2.1
  · rintro _ _ rfl
    exact absurd rfl other.2.1

/-- What a character is written as is read as one part that stands for it. -/
theorem readParts_escape (c : Char) :
    ∃ part, Spells part c ∧
      ∀ cs, readParts (Json.escape c ++ cs) = (readParts cs).map (consPart part) := by
  have escaped {c d : Char} (stands : unescape? d = some c) (other : d ≠ 'u') :
      ∃ part, Spells part c ∧
        ∀ cs, readParts (['\\', d] ++ cs) = (readParts cs).map (consPart part) :=
    ⟨.char c, .inl rfl, readParts_unescape other stands⟩
  unfold Json.escape
  iterate 7
    split
    · next same =>
      subst same
      exact escaped rfl (by decide)
  split
  · next control => exact ⟨.code c.toNat, .inr ⟨rfl, control⟩, readParts_code control⟩
  · next quote backslash _ _ _ _ _ plain =>
    exact ⟨.char c, .inl rfl, readParts_plain ⟨quote, backslash, plain⟩⟩

/-- A string is read up to the quote behind it. -/
theorem readParts_escaped (cs rest : List Char) :
    ∃ parts, List.Forall₂ Spells parts cs ∧
      readParts (cs.flatMap Json.escape ++ '"' :: rest) = some (parts, rest) := by
  induction cs with
  | nil => exact ⟨[], .nil, by rw [List.flatMap_nil, List.nil_append, readParts]⟩
  | cons c cs ih =>
    obtain ⟨parts, spelled, read⟩ := ih
    obtain ⟨part, spells, read_part⟩ := readParts_escape c
    refine ⟨part :: parts, .cons spells spelled, ?_⟩
    rw [List.flatMap_cons, List.append_assoc, read_part, read]
    rfl

theorem readString_escaped (s : String) (rest : List Char) :
    readString (s.toList.flatMap Json.escape ++ '"' :: rest) = some (some s, rest) := by
  obtain ⟨parts, spelled, read⟩ := readParts_escaped s.toList rest
  rw [readString, read, Option.map_some]
  simp only [joinParts_of_spells spelled, Option.map_some, String.ofList_toList]

/-! ## Whole numbers -/

/-- Whether what follows a number does not go on with it. -/
def Stops (rest : List Char) : Prop :=
  ∀ c ∈ rest.head?, c.isDigit = false ∧ c ≠ '.' ∧ c ≠ 'e' ∧ c ≠ 'E'

section

variable {rest : List Char}

theorem readFraction_of_stops (stops : Stops rest) : readFraction rest = some (none, rest) := by
  cases rest with
  | nil => rfl
  | cons c rest =>
    rw [readFraction]
    rintro _ ⟨⟩
    exact (stops '.' rfl).2.1 rfl

theorem readExponent_of_stops (stops : Stops rest) : readExponent rest = some (none, rest) := by
  cases rest with
  | nil => rfl
  | cons c rest =>
    have unmarked : ¬(c = 'e' ∨ c = 'E') := not_or.mpr (stops c rfl).2.2
    rw [readExponent, if_neg unmarked]

theorem takeWhile_isDigit_toDigits (n : Nat) (stops : Stops rest) :
    (Nat.toDigits 10 n ++ rest).takeWhile Char.isDigit = Nat.toDigits 10 n := by
  have none_after : rest.takeWhile Char.isDigit = [] := by
    cases rest with
    | nil => rfl
    | cons c rest => exact List.takeWhile_cons_of_neg (by simp [(stops c rfl).1])
  rw [List.takeWhile_append_of_pos (fun c mem => isDigit_of_mem_toDigits mem), none_after,
    List.append_nil]

theorem dropWhile_isDigit_toDigits (n : Nat) (stops : Stops rest) :
    (Nat.toDigits 10 n ++ rest).dropWhile Char.isDigit = rest := by
  have all_after : rest.dropWhile Char.isDigit = rest := by
    cases rest with
    | nil => rfl
    | cons c rest => exact List.dropWhile_cons_of_neg (by simp [(stops c rfl).1])
  rw [List.dropWhile_append_of_pos (fun c mem => isDigit_of_mem_toDigits mem), all_after]

/-- The digits of a number are a numeral: there are some, and no zero in front of others. -/
theorem toDigits_spells (n : Nat) :
    ¬((Nat.toDigits 10 n).isEmpty = true ∨
      (Nat.toDigits 10 n).head? = some '0' ∧ (Nat.toDigits 10 n).length ≠ 1) := by
  rintro (none | ⟨zero, long⟩)
  · exact Nat.toDigits_ne_nil (List.isEmpty_iff.mp none)
  · rw [eq_zero_of_head?_toDigits zero] at long
    exact long rfl

/-- Digits with or without a sign are read as a numeral of its own. -/
theorem readNumeral_toDigits (negative : Bool) (n : Nat) (stops : Stops rest) :
    readNumeral ((if negative then ['-'] else []) ++ (Nat.toDigits 10 n ++ rest)) =
      some (⟨negative, Nat.toDigits 10 n, none, none⟩, rest) := by
  have whole := takeWhile_isDigit_toDigits n stops
  have after := dropWhile_isDigit_toDigits n stops
  cases negative with
  | true =>
    rw [if_pos rfl, List.singleton_append, readNumeral]
    simp only [whole, after, toDigits_spells, if_false, readFraction_of_stops stops,
      Option.bind_eq_bind, Option.bind_some, readExponent_of_stops stops]
  | false =>
    rw [if_neg (by decide), List.nil_append, readNumeral]
    · simp only [whole, after, toDigits_spells, if_false, readFraction_of_stops stops,
        Option.bind_eq_bind, Option.bind_some, readExponent_of_stops stops]
    · intro _ signed
      have minus : (Nat.toDigits 10 n).head? = some '-' := by
        have nonempty : (Nat.toDigits 10 n).head?.isSome := by simp [Nat.toDigits_ne_nil]
        rw [← Option.or_of_isSome nonempty, ← List.head?_append, signed, List.head?_cons]
      have digit := isDigit_of_mem_toDigits (List.mem_of_mem_head? minus)
      contradiction

/-- Digits whose value fits 64 bits all go into the significand. -/
theorem absorb_of_fits (start : Nat) (cs : List Char)
    (fits : digitsValue start cs < 18446744073709551616) :
    JsonNumeral.absorb start cs = (digitsValue start cs, []) := by
  induction cs generalizing start with
  | nil => rfl
  | cons c cs ih =>
    have grows : digitsValue start [c] ≤ digitsValue (digitsValue start [c]) cs := le_digitsValue _ cs
    have next : digitsValue start [c] < 18446744073709551616 := Nat.lt_of_le_of_lt grows fits
    rw [JsonNumeral.absorb]
    simp only [next, if_true]
    exact ih _ fits

/-- The numeral of a whole number that is not below zero. -/
theorem toNumber?_natural {n : Nat} (fits : n < 18446744073709551616) :
    JsonNumeral.toNumber? ⟨false, Nat.toDigits 10 n, none, none⟩ = JsonNumber.ofInt? n := by
  have value := digitsValue_toDigits n
  have absorbed := absorb_of_fits 0 (Nat.toDigits 10 n) (by rwa [value])
  rw [JsonNumeral.toNumber?, absorbed, value]
  simp

theorem toNumber?_negative {n : Nat} (positive : 0 < n) (fits : n ≤ 9223372036854775808) :
    JsonNumeral.toNumber? ⟨true, Nat.toDigits 10 n, none, none⟩ = JsonNumber.ofInt? (-n) := by
  have value := digitsValue_toDigits n
  have absorbed := absorb_of_fits 0 (Nat.toDigits 10 n) (by rw [value]; omega)
  have whole : ¬(n = 0 ∨ 9223372036854775808 < n) := by omega
  rw [JsonNumeral.toNumber?, absorbed, value]
  simp [whole]

theorem toList_toString_natural (n : Nat) :
    (toString (Int.ofNat n)).toList = Nat.toDigits 10 n := by
  show (toString n).toList = _
  rw [Nat.toString_eq_ofList_toDigits, String.toList_ofList]

theorem toList_toString_negative (n : Nat) :
    (toString (Int.negSucc n)).toList = '-' :: Nat.toDigits 10 (n + 1) := by
  show ("-" ++ toString (n + 1)).toList = _
  rw [String.toList_append, Nat.toString_eq_ofList_toDigits, String.toList_ofList,
    String.toList_ofList, List.singleton_append]

theorem exists_toString_eq_cons (i : Int) :
    ∃ c rest, (toString i).toList = c :: rest ∧ (c = '-' ∨ c.isDigit = true) := by
  cases i with
  | ofNat n =>
    obtain ⟨c, rest, digits⟩ : ∃ c rest, Nat.toDigits 10 n = c :: rest :=
      List.exists_cons_of_ne_nil Nat.toDigits_ne_nil
    exact ⟨c, rest, (toList_toString_natural n).trans digits,
      .inr (isDigit_of_mem_toDigits (digits ▸ List.mem_cons_self))⟩
  | negSucc n => exact ⟨'-', _, toList_toString_negative n, .inl rfl⟩

/-- A whole number is read as it is written. -/
theorem readNumeral_toString (i : Int) (low : -9223372036854775808 ≤ i)
    (high : i < 18446744073709551616) (stops : Stops rest) :
    ∃ numeral, readNumeral ((toString i).toList ++ rest) = some (numeral, rest) ∧
      numeral.toNumber? = some (.integer i low high) := by
  have fits : JsonNumber.ofInt? i = some (.integer i low high) := by
    rw [JsonNumber.ofInt?, dif_pos low, dif_pos high]
  cases i with
  | ofNat n =>
    have natural : Int.ofNat n = n := rfl
    have read := readNumeral_toDigits false n stops
    rw [if_neg (by decide), List.nil_append] at read
    rw [toList_toString_natural, read]
    rw [natural] at high
    exact ⟨_, rfl, (toNumber?_natural (by omega)).trans fits⟩
  | negSucc n =>
    have read := readNumeral_toDigits true (n + 1) stops
    rw [if_pos rfl, List.singleton_append] at read
    rw [toList_toString_negative, List.cons_append, read]
    exact ⟨_, rfl, (toNumber?_negative (by omega) (by omega)).trans fits⟩

end

end JsonNode
end ObjectQuery
