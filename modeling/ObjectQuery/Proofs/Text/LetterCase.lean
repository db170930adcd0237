/-
Upper and lower case settle after one step, and do not see the case of `A` to `Z`.

Both are facts about the case tables: nothing that a table leads to is mapped by it again, and a
letter of `A` to `Z` has the upper form, the lower form and the classes of its small letter.  The
first is checked on sets of code points, held as the bits of a number.
-/
import Mathlib.Data.List.Basic
import Mathlib.Data.Nat.Bitwise
import ObjectQuery.Text.Ascii
import ObjectQuery.Text.LetterCase

namespace ObjectQuery
namespace Text
namespace LetterCase

/-! ## Sets of code points -/

/-- The set of the listed code points. -/
def codeSet (codes : List Nat) : Nat := codes.foldr (fun code set => 1 <<< code ||| set) 0

def codeUnion (lists : List (List Nat)) : Nat :=
  lists.foldr (fun codes set => codeSet codes ||| set) 0

theorem testBit_codeSet {codes : List Nat} {code : Nat} :
    (codeSet codes).testBit code = true ↔ code ∈ codes := by
  induction codes with
  | nil => simp [codeSet]
  | cons first rest ih =>
    have step : codeSet (first :: rest) = 2 ^ first ||| codeSet rest := by
      simp [codeSet, Nat.shiftLeft_eq]
    rw [step, Nat.testBit_or, Bool.or_eq_true, ih, Nat.testBit_two_pow, decide_eq_true_iff,
      List.mem_cons]
    exact or_congr_left eq_comm

theorem testBit_codeUnion {lists : List (List Nat)} {code : Nat} :
    (codeUnion lists).testBit code = true ↔ ∃ codes ∈ lists, code ∈ codes := by
  induction lists with
  | nil => simp [codeUnion]
  | cons first rest ih =>
    have step : codeUnion (first :: rest) = codeSet first ||| codeUnion rest := rfl
    rw [step, Nat.testBit_or, Bool.or_eq_true, ih, testBit_codeSet]
    simp

theorem disjoint_of_land {lists others : List (List Nat)}
    (apart : codeUnion lists &&& codeUnion others = 0) {code : Nat}
    (left : ∃ codes ∈ lists, code ∈ codes) : ¬ ∃ codes ∈ others, code ∈ codes := by
  intro right
  have bit : (codeUnion lists &&& codeUnion others).testBit code = true := by
    rw [Nat.testBit_and, testBit_codeUnion.mpr left, testBit_codeUnion.mpr right]
    rfl
  simp [apart] at bit

/-! ## What a table maps, and what it leads to -/

/-- The distances from its first code point of the code points that a row maps. -/
def rowOffsets (first last step : Nat) : List Nat :=
  (List.range (last + 1 - first)).filter (· % step = 0)

/-- The code points that the tables map, row by row. -/
def mapped (special : SpecialTable) (simple : SimpleTable) : List (List Nat) :=
  simple.map (fun (first, last, step, _) => (rowOffsets first last step).map (first + ·)) ++
    special.map fun row => [row.1]

/-- The code points that the tables lead to, row by row.  Zero stands in for a number that is no
code point. -/
def targets (special : SpecialTable) (simple : SimpleTable) : List (List Nat) :=
  [0] :: (simple.map (fun (first, last, step, target) =>
    (rowOffsets first last step).map (target + ·)) ++ special.map Prod.snd)

section

variable {special : SpecialTable} {simple : SimpleTable} {code : Nat}

theorem find?_eq_some {form : Nat} (found : simple.find? code = some form) :
    (∃ codes ∈ mapped special simple, code ∈ codes) ∧
      ∃ codes ∈ targets special simple, form ∈ codes := by
  rw [SimpleTable.find?, List.findSome?_eq_some_iff] at found
  obtain ⟨before, ⟨first, last, step, target⟩, after, rfl, hit, _⟩ := found
  by_cases inside : first ≤ code ∧ code ≤ last ∧ (code - first) % step = 0
  · simp only [if_pos inside, Option.some.injEq] at hit
    have offset : code - first ∈ rowOffsets first last step := by
      simp only [rowOffsets, List.mem_filter, List.mem_range, decide_eq_true_eq]
      omega
    refine ⟨⟨(rowOffsets first last step).map (first + ·), by simp [mapped], ?_⟩,
      ⟨(rowOffsets first last step).map (target + ·), by simp [targets], ?_⟩⟩
    · exact List.mem_map.mpr ⟨code - first, offset, by omega⟩
    · exact List.mem_map.mpr ⟨code - first, offset, hit⟩
  · simp [if_neg inside] at hit

theorem lookup_eq_some {forms : List Nat} (found : special.lookup code = some forms) :
    (∃ codes ∈ mapped special simple, code ∈ codes) ∧ forms ∈ targets special simple := by
  rw [List.lookup_eq_some_iff] at found
  obtain ⟨before, after, rfl, _⟩ := found
  exact ⟨⟨[code], by simp [mapped], by simp⟩, by simp [targets]⟩

/-- A character that the tables do not map is its own form. -/
theorem mapChar_of_not_mapped {c : Char}
    (unmapped : ¬ ∃ codes ∈ mapped special simple, c.toNat ∈ codes) :
    mapChar special simple c = [c] := by
  have no_special : special.lookup c.toNat = none := by
    by_contra listed
    obtain ⟨forms, found⟩ := Option.ne_none_iff_exists'.mp listed
    exact unmapped (lookup_eq_some found).1
  have no_simple : simple.find? c.toNat = none := by
    by_contra listed
    obtain ⟨form, found⟩ := Option.ne_none_iff_exists'.mp listed
    exact unmapped (find?_eq_some found).1
  simp [mapChar, no_special, no_simple]

theorem toNat_ofNat (code : Nat) : (Char.ofNat code).toNat = code ∨ (Char.ofNat code).toNat = 0 := by
  by_cases valid : code.isValidChar
  · exact .inl (by rw [Char.ofNat, dif_pos valid]; rfl)
  · exact .inr (by rw [Char.ofNat, dif_neg valid]; rfl)

/-- Tables that map nothing they lead to settle after one step. -/
theorem mapChar_settled (apart : codeUnion (targets special simple) &&&
    codeUnion (mapped special simple) = 0) {c form : Char}
    (mem : form ∈ mapChar special simple c) : mapChar special simple form = [form] := by
  have settled {code : Nat} (target : ∃ codes ∈ targets special simple, code ∈ codes) :
      mapChar special simple (Char.ofNat code) = [Char.ofNat code] := by
    refine mapChar_of_not_mapped (disjoint_of_land apart ?_)
    rcases toNat_ofNat code with same | zero
    · rw [same]
      exact target
    · rw [zero]
      exact ⟨[0], by simp [targets], by simp⟩
  cases found : special.lookup c.toNat with
  | some forms =>
    simp only [mapChar, found, List.mem_map] at mem
    obtain ⟨code, listed, rfl⟩ := mem
    exact settled ⟨forms, (lookup_eq_some found).2, listed⟩
  | none =>
    cases single : simple.find? c.toNat with
    | some code =>
      simp only [mapChar, found, single, List.mem_singleton] at mem
      rw [mem]
      exact settled (find?_eq_some single).2
    | none =>
      simp only [mapChar, found, single, List.mem_singleton] at mem
      simp [mem, mapChar, found, single]

end

/-- A form in upper case is its own upper case. -/
theorem upperChar_settled {c form : Char} (mem : form ∈ upperChar c) : upperChar form = [form] :=
  mapChar_settled (by decide +kernel) mem

theorem lowerChar_settled {c form : Char} (mem : form ∈ lowerChar c) : lowerChar form = [form] :=
  mapChar_settled (by decide +kernel) mem

/-! ## The letters `A` to `Z` -/

def capitals : List Char := (List.range 26).map fun index => Char.ofNat (65 + index)

/-- What is the same for a capital and its small letter is the same for every character. -/
theorem apply_toLower {β : Type} [DecidableEq β] {f : Char → β}
    (letters : capitals.all (fun c => decide (f c.toLower = f c)) = true) (c : Char) :
    f c.toLower = f c := by
  by_cases capital : c.val ≥ 'A'.val ∧ c.val ≤ 'Z'.val
  · refine of_decide_eq_true (List.all_eq_true.mp letters c ?_)
    refine List.mem_map.mpr ⟨c.toNat - 65, ?_, ?_⟩
    · have upper : c.toNat ≤ 90 := capital.2
      rw [List.mem_range]
      omega
    · have lower : 65 ≤ c.toNat := capital.1
      rw [Nat.add_sub_cancel' lower, Char.ofNat_toNat]
  · exact congrArg f (dif_neg capital)

theorem upperChar_toLower (c : Char) : upperChar c.toLower = upperChar c :=
  apply_toLower (by decide +kernel) c

theorem lowerChar_toLower (c : Char) : lowerChar c.toLower = lowerChar c :=
  apply_toLower (by decide +kernel) c

theorem cased_toLower (c : Char) : cased.has c.toLower = cased.has c :=
  apply_toLower (by decide +kernel) c

theorem caseIgnorable_toLower (c : Char) : caseIgnorable.has c.toLower = caseIgnorable.has c :=
  apply_toLower (by decide +kernel) c

theorem toLower_eq_sigma (c : Char) : (c.toLower = 'Σ') = (c = 'Σ') :=
  propext (decide_eq_decide.mp (apply_toLower (f := fun c => decide (c = 'Σ')) (by decide) c))

/-! ## Characters in their place -/

theorem nextIsCased_toLower (cs : List Char) :
    nextIsCased (cs.map Char.toLower) = nextIsCased cs := by
  have through : (fun c => !caseIgnorable.has c) ∘ Char.toLower = fun c => !caseIgnorable.has c :=
    funext fun c => congrArg (! ·) (caseIgnorable_toLower c)
  rw [nextIsCased, nextIsCased, List.find?_map, through]
  cases cs.find? fun c => !caseIgnorable.has c with
  | none => rfl
  | some c => exact cased_toLower c

theorem lowerAfter_toLower (before cs : List Char) :
    lowerAfter (before.map Char.toLower) (cs.map Char.toLower) = lowerAfter before cs := by
  induction cs generalizing before with
  | nil => rfl
  | cons c rest ih =>
    simp only [List.map_cons, lowerAfter, toLower_eq_sigma, lowerSigma, nextIsCased_toLower,
      lowerChar_toLower]
    rw [← List.map_cons, ih]

/-- Every character of a text in lower case is its own lower case. -/
theorem lowerChar_of_mem_lowerAfter {before cs : List Char} {form : Char}
    (mem : form ∈ lowerAfter before cs) : lowerChar form = [form] := by
  induction cs generalizing before with
  | nil => simp [lowerAfter] at mem
  | cons c rest ih =>
    rw [lowerAfter, List.mem_append] at mem
    rcases mem with here | later
    · by_cases sigma : c = 'Σ'
      · rw [if_pos sigma, List.mem_singleton, lowerSigma] at here
        split at here
        · rw [here]
          decide +kernel
        · rw [here]
          decide +kernel
      · rw [if_neg sigma] at here
        exact lowerChar_settled here
    · exact ih later

theorem lowerAfter_of_fixed {before cs : List Char} (fixed : ∀ c ∈ cs, lowerChar c = [c]) :
    lowerAfter before cs = cs := by
  induction cs generalizing before with
  | nil => rfl
  | cons c rest ih =>
    rw [List.forall_mem_cons] at fixed
    have plain : c ≠ 'Σ' := by
      rintro rfl
      exact absurd fixed.1 (by decide +kernel)
    rw [lowerAfter, if_neg plain, fixed.1, ih fixed.2, List.singleton_append]

end LetterCase

variable {a b : String}

theorem sameIgnoringAsciiCase_comm (a b : String) :
    sameIgnoringAsciiCase a b = sameIgnoringAsciiCase b a :=
  Bool.beq_comm

/-- Upper case settles after one step. -/
theorem upper_upper (s : String) : upper (upper s) = upper s := by
  have settled : ∀ cs : List Char, (cs.flatMap LetterCase.upperChar).flatMap LetterCase.upperChar =
      cs.flatMap LetterCase.upperChar := by
    intro cs
    rw [List.flatMap_assoc]
    refine List.flatMap_congr fun c _ => ?_
    rw [List.flatMap_congr fun form mem => LetterCase.upperChar_settled mem, List.flatMap_singleton']
  rw [upper, upper, String.toList_ofList, settled]

theorem lower_lower (s : String) : lower (lower s) = lower s := by
  rw [lower, lower, String.toList_ofList,
    LetterCase.lowerAfter_of_fixed fun _ => LetterCase.lowerChar_of_mem_lowerAfter]

/-- Texts that differ in the case of `A` to `Z` alone agree in upper case. -/
theorem upper_eq_of_same (same : sameIgnoringAsciiCase a b = true) : upper a = upper b := by
  rw [sameIgnoringAsciiCase, beq_iff_eq] at same
  have folded (s : String) : s.toList.flatMap LetterCase.upperChar =
      (s.toList.map Char.toLower).flatMap LetterCase.upperChar := by
    rw [List.flatMap_map]
    exact List.flatMap_congr fun c _ => (LetterCase.upperChar_toLower c).symm
  rw [upper, upper, folded a, folded b, same]

theorem lower_eq_of_same (same : sameIgnoringAsciiCase a b = true) : lower a = lower b := by
  rw [sameIgnoringAsciiCase, beq_iff_eq] at same
  rw [lower, lower, ← LetterCase.lowerAfter_toLower [] a.toList, same,
    LetterCase.lowerAfter_toLower [] b.toList]

end Text
end ObjectQuery
