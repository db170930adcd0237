/-
What percent escapes stand for.

Characters are read from the left, three at an escape and else one.  Escaping adds escapes only in
the place of characters that are no part of one, so the bytes that characters stand for stay the
same.  An escape stands for fewer bytes, and for fewer characters, than it is written with.
-/
import ObjectQuery.Proofs.Text.Characters
import ObjectQuery.Url.Path

namespace ObjectQuery
namespace Url

open Text

/-- Whether the first three characters are an escape. -/
def startsEscape : List Char → Bool
  | '%' :: a :: b :: _ => (hexValue? a).isSome && (hexValue? b).isSome
  | _ => false

/-- Whether an escape stands anywhere. -/
def hasEscape : List Char → Bool
  | [] => false
  | c :: rest => startsEscape (c :: rest) || hasEscape rest

theorem exists_of_startsEscape {cs : List Char} (starts : startsEscape cs = true) :
    ∃ a b rest high low, cs = '%' :: a :: b :: rest ∧ hexValue? a = some high ∧
      hexValue? b = some low := by
  unfold startsEscape at starts
  split at starts
  · next a b rest =>
    rw [Bool.and_eq_true, Option.isSome_iff_exists, Option.isSome_iff_exists] at starts
    obtain ⟨⟨high, high_eq⟩, low, low_eq⟩ := starts
    exact ⟨a, b, rest, high, low, rfl, high_eq, low_eq⟩
  · contradiction

/-- Characters are an escape and others, or one that starts no escape and others, or none. -/
theorem escape_induction {motive : List Char → Prop} (nil : motive [])
    (escape : ∀ a b rest high low, hexValue? a = some high → hexValue? b = some low →
      motive rest → motive ('%' :: a :: b :: rest))
    (plain : ∀ c rest, startsEscape (c :: rest) = false → motive rest → motive (c :: rest))
    (cs : List Char) : motive cs := by
  induction length : cs.length using Nat.strongRecOn generalizing cs with
  | _ n ih =>
    subst length
    cases cs with
    | nil => exact nil
    | cons c rest =>
      cases starts : startsEscape (c :: rest) with
      | false => exact plain c rest starts (ih rest.length (Nat.lt_succ_self _) rest rfl)
      | true =>
        obtain ⟨a, b, rest, high, low, eq, high_eq, low_eq⟩ := exists_of_startsEscape starts
        rw [eq]
        refine escape a b rest high low high_eq low_eq (ih rest.length ?_ rest rfl)
        rw [eq]
        simp only [List.length_cons]
        omega

theorem unescape_escaped {a b : Char} {high low : Nat} (high_eq : hexValue? a = some high)
    (low_eq : hexValue? b = some low) (rest : List Char) :
    unescape ('%' :: a :: b :: rest) = (high * 16 + low).toUInt8 :: unescape rest := by
  rw [unescape, high_eq, low_eq]

theorem unescape_plain {c : Char} {rest : List Char} (plain : startsEscape (c :: rest) = false) :
    unescape (c :: rest) = String.utf8EncodeChar c ++ unescape rest := by
  rw [unescape.eq_def]
  split
  · next a b rest eq =>
    cases eq
    rw [startsEscape] at plain
    split
    · next high low high_eq low_eq =>
      rw [high_eq, low_eq] at plain
      contradiction
    · rfl
  · next eq =>
    cases eq
    rfl
  · contradiction

theorem unescape_of_hasEscape_eq_false {cs : List Char} (none_escaped : hasEscape cs = false) :
    unescape cs = cs.flatMap String.utf8EncodeChar := by
  induction cs with
  | nil => rfl
  | cons c rest ih =>
    rw [hasEscape, Bool.or_eq_false_iff] at none_escaped
    rw [unescape_plain none_escaped.1, ih none_escaped.2, List.flatMap_cons]

/-! ## How much escapes stand for -/

theorem encodeChar_length_pos (c : Char) : 0 < (String.utf8EncodeChar c).length := by
  obtain ⟨b, rest, bytes, -⟩ := Utf8.encodeChar_eq_cons c
  rw [bytes]
  exact Nat.succ_pos _

/-- A character that is left out takes a byte with it at least. -/
theorem length_bytes_of_sublist {some all : List Char} (within : some.Sublist all) :
    (some.flatMap String.utf8EncodeChar).length + all.length ≤
      (all.flatMap String.utf8EncodeChar).length + some.length := by
  induction within with
  | slnil => exact Nat.le_refl _
  | cons c within ih =>
    have pos := encodeChar_length_pos c
    rw [List.flatMap_cons, List.length_append, List.length_cons]
    omega
  | cons_cons c within ih =>
    simp only [List.flatMap_cons, List.length_append, List.length_cons]
    omega

theorem length_bytes_le_of_sublist {some all : List Char} (within : some.Sublist all) :
    (some.flatMap String.utf8EncodeChar).length ≤ (all.flatMap String.utf8EncodeChar).length := by
  have bytes := length_bytes_of_sublist within
  have length := within.length_le
  omega

theorem hasEscape_plain {c : Char} {rest : List Char} (plain : startsEscape (c :: rest) = false) :
    hasEscape (c :: rest) = hasEscape rest := by
  rw [hasEscape, plain, Bool.false_or]

section

variable (cs : List Char)

/-- Characters stand for as many bytes as they are, or for fewer. -/
theorem length_unescape_le :
    (unescape cs).length + (hasEscape cs).toNat ≤ (cs.flatMap String.utf8EncodeChar).length := by
  induction cs using escape_induction with
  | nil => exact Nat.le_refl 0
  | escape a b rest high low high_eq low_eq ih =>
    have sign := encodeChar_length_pos '%'
    have digit := encodeChar_length_pos a
    have marked := Bool.toNat_le (hasEscape ('%' :: a :: b :: rest))
    rw [unescape_escaped high_eq low_eq]
    simp only [List.flatMap_cons, List.length_append, List.length_cons]
    omega
  | plain c rest plain ih =>
    rw [unescape_plain plain, hasEscape_plain plain, List.flatMap_cons, List.length_append,
      List.length_append, Nat.add_assoc]
    exact Nat.add_le_add_left ih _

theorem length_parts_unescape_le {pending : Option Utf8.Pending} (bounded : Utf8.Bounded pending) :
    (Utf8.parts pending (unescape cs)).length + (hasEscape cs).toNat ≤
      Utf8.unfinished pending + cs.length := by
  induction cs using escape_induction generalizing pending with
  | nil => cases pending <;> exact Nat.le_refl _
  | escape a b rest high low high_eq low_eq ih =>
    have step_le := Utf8.length_step_le pending (high * 16 + low).toUInt8
    have marked := Bool.toNat_le (hasEscape ('%' :: a :: b :: rest))
    have ih := ih (Utf8.bounded_step pending (high * 16 + low).toUInt8)
    rw [unescape_escaped high_eq low_eq, Utf8.parts, List.length_append]
    simp only [List.length_cons]
    omega
  | plain c rest plain ih =>
    have ih := ih Utf8.bounded_none
    rw [unescape_plain plain, hasEscape_plain plain, Utf8.length_parts_encodeChar bounded,
      List.length_cons]
    rw [Utf8.unfinished, if_neg (by decide)] at ih
    omega

/-- Characters stand for a text of as many characters as they are, or of fewer. -/
theorem length_unescapeText_le :
    (unescapeText (String.ofList cs)).length + (hasEscape cs).toNat ≤ cs.length := by
  have parts_le := length_parts_unescape_le cs Utf8.bounded_none
  rw [Utf8.unfinished, if_neg (by decide), Nat.zero_add] at parts_le
  rwa [unescapeText, String.toList_ofList, Utf8.decodeLossy, String.length_ofList, List.length_map]

end

/-! ## Escaping -/

theorem lt_of_not_needsEscape {c : Char} (plain : needsEscape c = false) (other : c ≠ ' ') :
    ' ' < c := by
  have code : c.toNat ≠ 32 := fun code => other (Char.toNat_inj.mp code)
  simp only [needsEscape, Bool.or_eq_false_iff, decide_eq_false_iff_not] at plain
  exact show 32 < c.toNat by omega

/-- Whether a path keeps a character as it is. -/
def Verbatim (c : Char) : Prop := needsEscape c = false ∧ c ∉ pathSet

instance (c : Char) : Decidable (Verbatim c) := inferInstanceAs (Decidable (_ ∧ _))

theorem hexValue?_hexDigit {n : Nat} (small : n < 16) : hexValue? (hexDigit n) = some n := by
  have each : ∀ m < 16, hexValue? (hexDigit m) = some m := by decide
  exact each n small

theorem unescape_escapeByte (b : UInt8) (cs : List Char) :
    unescape (escapeByte b ++ cs) = b :: unescape cs := by
  have bound := b.toNat_lt
  have value : (b.toNat / 16 * 16 + b.toNat % 16).toUInt8 = b := by
    rw [Nat.div_add_mod' b.toNat 16]
    exact UInt8.ofNat_toNat
  rw [escapeByte]
  exact (unescape_escaped (hexValue?_hexDigit (by omega)) (hexValue?_hexDigit (by omega)) cs).trans
    (congrArg (· :: unescape cs) value)

theorem unescape_escapeBytes (bytes : List UInt8) (cs : List Char) :
    unescape (bytes.flatMap escapeByte ++ cs) = bytes ++ unescape cs := by
  induction bytes with
  | nil => rfl
  | cons b bytes ih =>
    rw [List.flatMap_cons, List.append_assoc, unescape_escapeByte, ih, List.cons_append]

/-- Whether characters leave escapes as they are. -/
def SparesEscapes (set : List Char) : Prop := '%' ∉ set ∧ ∀ c ∈ set, hexValue? c = none

theorem sparesEscapes_nil : SparesEscapes [] :=
  ⟨List.not_mem_nil, fun _ mem => nomatch mem⟩

theorem sparesEscapes_of_all {set : List Char}
    (none_spelled : set.all (fun c => c ≠ '%' && (hexValue? c).isNone) = true) :
    SparesEscapes set := by
  have each := List.all_eq_true.mp none_spelled
  simp only [Bool.and_eq_true, decide_eq_true_eq, Option.isNone_iff_eq_none] at each
  exact ⟨fun sign => (each _ sign).1 rfl, fun c mem => (each c mem).2⟩

theorem sparesEscapes_pathSet : SparesEscapes pathSet := sparesEscapes_of_all (by decide)

theorem sparesEscapes_userSet : SparesEscapes userSet := sparesEscapes_of_all (by decide)

theorem toNat_of_hexValue? {c : Char} {value : Nat} (digit : hexValue? c = some value) :
    value < 16 ∧ (c.toNat = 48 + value ∧ value < 10 ∨ c.toNat = 87 + value ∧ 10 ≤ value ∨
      c.toNat = 55 + value ∧ 10 ≤ value) := by
  simp only [hexValue?, Char.isDigit_iff_toNat, Bool.and_eq_true, decide_eq_true_eq,
    Char.le_def, UInt32.le_iff_toNat_le] at digit
  change (if 48 ≤ c.toNat ∧ c.toNat ≤ 57 then _ else if 97 ≤ c.toNat ∧ c.toNat ≤ 102 then _ else
    if 65 ≤ c.toNat ∧ c.toNat ≤ 70 then _ else _) = _ at digit
  split at digit
  · cases digit
    omega
  split at digit
  · cases digit
    omega
  split at digit
  · cases digit
    omega
  · contradiction

/-- A character stays, or its bytes become escapes. -/
theorem escapeChar_cases (set : List Char) (c : Char) :
    escapeChar set c = [c] ∨
      escapeChar set c = (String.utf8EncodeChar c).flatMap escapeByte := by
  rw [escapeChar]
  split
  · exact .inr rfl
  · exact .inl rfl

section

variable {set : List Char}

theorem escapeChar_kept {c : Char} (plain : needsEscape c = false) (other : c ∉ set) :
    escapeChar set c = [c] := by
  rw [escapeChar, plain, Bool.false_or]
  exact if_neg fun mem => other (List.contains_iff_mem.mp mem)

theorem escapeChar_sign (spares : SparesEscapes set) : escapeChar set '%' = ['%'] :=
  escapeChar_kept rfl spares.1

theorem escapeChar_of_hexValue? (spares : SparesEscapes set) {c : Char} {value : Nat}
    (digit : hexValue? c = some value) : escapeChar set c = [c] := by
  have bounds := toNat_of_hexValue? digit
  refine escapeChar_kept ?_ fun mem => ?_
  · simp only [needsEscape, Bool.or_eq_false_iff, decide_eq_false_iff_not]
    omega
  · rw [spares.2 c mem] at digit
    contradiction

theorem escape_cons (c : Char) (cs : List Char) :
    escape set (c :: cs) = escapeChar set c ++ escape set cs := List.flatMap_cons

theorem escape_append (cs ds : List Char) :
    escape set (cs ++ ds) = escape set cs ++ escape set ds := List.flatMap_append

theorem escape_of_forall {cs : List Char} (kept : ∀ c ∈ cs, escapeChar set c = [c]) :
    escape set cs = cs := by
  rw [escape, List.flatMap_congr kept, List.flatMap_singleton']

theorem escape_of_verbatim {cs : List Char} (verbatim : ∀ c ∈ cs, Verbatim c) :
    escape pathSet cs = cs :=
  escape_of_forall fun c mem => escapeChar_kept (verbatim c mem).1 (verbatim c mem).2

/-- What escapes are written with need not be escaped. -/
theorem kept_of_mem_escapeByte (spares : SparesEscapes set) {b : UInt8} {c : Char}
    (mem : c ∈ escapeByte b) : needsEscape c = false ∧ c ∉ set := by
  have digit {n : Nat} (small : n < 16) : needsEscape (hexDigit n) = false ∧ hexDigit n ∉ set := by
    have value := hexValue?_hexDigit small
    have bounds := toNat_of_hexValue? value
    refine ⟨?_, fun mem => ?_⟩
    · simp only [needsEscape, Bool.or_eq_false_iff, decide_eq_false_iff_not]
      omega
    · rw [spares.2 _ mem] at value
      contradiction
  have bound := b.toNat_lt
  simp only [escapeByte, List.mem_cons, List.not_mem_nil, or_false] at mem
  rcases mem with rfl | rfl | rfl
  · exact ⟨rfl, spares.1⟩
  · exact digit (by omega)
  · exact digit (by omega)

/-- What escaping leaves need not be escaped, nor would it be by a smaller set. -/
theorem kept_of_mem_escape (spares : SparesEscapes set) {larger : List Char}
    (within : ∀ c ∈ set, c ∈ larger) {cs : List Char} {c : Char} (mem : c ∈ escape larger cs) :
    needsEscape c = false ∧ c ∉ set := by
  obtain ⟨d, -, mem⟩ := List.mem_flatMap.mp mem
  rw [escapeChar] at mem
  split at mem
  · obtain ⟨b, -, mem⟩ := List.mem_flatMap.mp mem
    exact kept_of_mem_escapeByte spares mem
  · next plain =>
    rw [List.mem_singleton.mp mem]
    rw [Bool.or_eq_true, not_or, Bool.not_eq_true, List.contains_iff_mem] at plain
    exact ⟨plain.1, fun mem => plain.2 (within d mem)⟩

theorem verbatim_of_mem_escape {cs : List Char} {c : Char} (mem : c ∈ escape pathSet cs) :
    Verbatim c :=
  kept_of_mem_escape sparesEscapes_pathSet (fun _ mem => mem) mem

/-- A digit that stands first after escaping stood there before. -/
theorem eq_cons_of_escape_eq_cons {cs tail : List Char} {a : Char} {value : Nat}
    (escaped : escape set cs = a :: tail) (digit : hexValue? a = some value) :
    ∃ rest, cs = a :: rest ∧ tail = escape set rest := by
  cases cs with
  | nil => contradiction
  | cons c rest =>
    rw [escape_cons] at escaped
    obtain kept | bytes := escapeChar_cases set c
    · rw [kept] at escaped
      cases escaped
      exact ⟨rest, rfl, rfl⟩
    · obtain ⟨b, others, encoded, -⟩ := Utf8.encodeChar_eq_cons c
      rw [bytes, encoded] at escaped
      cases escaped
      contradiction

theorem startsEscape_escape {rest : List Char} (plain : startsEscape ('%' :: rest) = false) :
    startsEscape ('%' :: escape set rest) = false := by
  refine Bool.eq_false_iff.mpr fun starts => ?_
  obtain ⟨a, b, tail, high, low, eq, high_eq, low_eq⟩ := exists_of_startsEscape starts
  obtain ⟨first, rfl, after⟩ := eq_cons_of_escape_eq_cons (List.cons.inj eq).2 high_eq
  obtain ⟨second, rfl, -⟩ := eq_cons_of_escape_eq_cons after.symm low_eq
  rw [startsEscape, high_eq, low_eq] at plain
  contradiction

theorem startsEscape_of_ne {c : Char} (other : c ≠ '%') (cs : List Char) :
    startsEscape (c :: cs) = false := by
  unfold startsEscape
  split
  · next eq => exact absurd (List.cons.inj eq).1 other
  · rfl

/-- Escaping leaves the bytes that characters stand for. -/
theorem unescape_escape (spares : SparesEscapes set) (cs : List Char) :
    unescape (escape set cs) = unescape cs := by
  induction cs using escape_induction with
  | nil => rfl
  | escape a b rest high low high_eq low_eq ih =>
    rw [escape_cons, escapeChar_sign spares, escape_cons, escapeChar_of_hexValue? spares high_eq,
      escape_cons, escapeChar_of_hexValue? spares low_eq, unescape_escaped high_eq low_eq, ← ih]
    exact unescape_escaped high_eq low_eq _
  | plain c rest plain ih =>
    rw [escape_cons, unescape_plain plain, ← ih]
    obtain kept | bytes := escapeChar_cases set c
    · rw [kept, List.singleton_append]
      refine unescape_plain ?_
      by_cases sign : c = '%'
      · rw [sign] at plain ⊢
        exact startsEscape_escape plain
      · exact startsEscape_of_ne sign _
    · rw [bytes, unescape_escapeBytes]

/-- Characters that are escaped with their percent signs are what the escapes stand for. -/
theorem unescape_escape_of_sign (sign : '%' ∈ set) (cs : List Char) :
    unescape (escape set cs) = cs.flatMap String.utf8EncodeChar := by
  induction cs with
  | nil => rfl
  | cons c cs ih =>
    rw [escape_cons, List.flatMap_cons, ← ih, escapeChar]
    split
    · exact unescape_escapeBytes _ _
    · next plain =>
      refine unescape_plain (startsEscape_of_ne (fun same => plain ?_) _)
      rw [same, List.contains_iff_mem.mpr sign, Bool.or_true]

end

/-! ## Boundaries -/

section

variable {c : Char} (other : hexValue? c = none)
include other

theorem startsEscape_append (d : Char) (cs rest : List Char) :
    startsEscape (d :: cs ++ c :: rest) = startsEscape (d :: cs) := by
  by_cases sign : d = '%'
  · subst sign
    match cs with
    | [] => cases rest <;> simp [startsEscape, other]
    | [a] => simp [startsEscape, other]
    | a :: b :: cs => rfl
  · rw [startsEscape_of_ne sign, List.cons_append, startsEscape_of_ne sign]

/-- A character that is no digit is part of no escape before it. -/
theorem unescape_append (cs rest : List Char) :
    unescape (cs ++ c :: rest) = unescape cs ++ unescape (c :: rest) := by
  induction cs using escape_induction with
  | nil => rfl
  | escape a b cs high low high_eq low_eq ih =>
    rw [unescape_escaped high_eq low_eq]
    exact (unescape_escaped high_eq low_eq _).trans (congrArg _ ih)
  | plain d cs plain ih =>
    rw [unescape_plain plain, List.append_assoc, ← ih]
    exact unescape_plain ((startsEscape_append other d cs rest).trans plain)

end

end Url
end ObjectQuery
