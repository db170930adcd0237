/-
Normal paths against the characters they are read from.

With its slashes, a path is its segments one after the other.  A segment of dots takes itself away
and with it any segment before, so a path without such segments keeps all of them, and one with them
gets shorter, whatever its length is measured in.
-/
import Mathlib.Data.List.Basic
import ObjectQuery.Proofs.Url.Percent

namespace ObjectQuery
namespace Url

open Text

/-! ## Segments -/

/-- Segments with a slash before each of them. -/
def slashed (segments : List (List Char)) : List Char :=
  segments.flatMap fun segment => '/' :: segment

theorem slashed_cons (segment : List Char) (segments : List (List Char)) :
    slashed (segment :: segments) = '/' :: (segment ++ slashed segments) := rfl

theorem splitAt_ne_nil (separator : Char) (cs : List Char) : splitAt separator cs ≠ [] := by
  cases cs with
  | nil => exact List.cons_ne_nil _ _
  | cons c rest =>
    rw [splitAt]
    split
    · exact List.cons_ne_nil _ _
    · split <;> exact List.cons_ne_nil _ _

section

variable {separator : Char}

theorem splitAt_separator (rest : List Char) :
    splitAt separator (separator :: rest) = [] :: splitAt separator rest := by
  rw [splitAt]
  split
  · next nothing => exact absurd nothing (splitAt_ne_nil _ _)
  · next eq => rw [if_pos rfl, eq]

theorem splitAt_other {c : Char} (other : c ≠ separator) (rest : List Char) :
    ∃ part parts, splitAt separator rest = part :: parts ∧
      splitAt separator (c :: rest) = (c :: part) :: parts := by
  obtain ⟨part, parts, eq⟩ := List.exists_cons_of_ne_nil (splitAt_ne_nil separator rest)
  refine ⟨part, parts, eq, ?_⟩
  rw [splitAt, eq]
  exact if_neg other

theorem splitAt_of_not_mem {cs : List Char} (whole : separator ∉ cs) :
    splitAt separator cs = [cs] := by
  induction cs with
  | nil => rfl
  | cons c rest ih =>
    rw [List.mem_cons, not_or] at whole
    obtain ⟨part, parts, eq, eq'⟩ := splitAt_other (Ne.symm whole.1) rest
    cases (ih whole.2).symm.trans eq
    exact eq'

theorem of_mem_splitAt {cs part : List Char} (mem : part ∈ splitAt separator cs) :
    part.Sublist cs ∧ separator ∉ part := by
  induction cs generalizing part with
  | nil =>
    rw [List.mem_singleton.mp mem]
    exact ⟨List.Sublist.slnil, List.not_mem_nil⟩
  | cons c rest ih =>
    by_cases same : c = separator
    · rw [same, splitAt_separator] at mem
      rcases List.mem_cons.mp mem with rfl | mem
      · exact ⟨List.nil_sublist _, List.not_mem_nil⟩
      · exact ⟨(ih mem).1.cons c, (ih mem).2⟩
    · obtain ⟨first, parts, eq, eq'⟩ := splitAt_other same rest
      rw [eq] at ih
      rw [eq'] at mem
      rcases List.mem_cons.mp mem with rfl | mem
      · have ⟨within, free⟩ := ih List.mem_cons_self
        exact ⟨within.cons_cons c, by simp [Ne.symm same, free]⟩
      · have ⟨within, free⟩ := ih (List.mem_cons_of_mem _ mem)
        exact ⟨within.cons c, free⟩

end

theorem slashed_splitAt (cs : List Char) : slashed (splitAt '/' cs) = '/' :: cs := by
  induction cs with
  | nil => rfl
  | cons c rest ih =>
    by_cases slash : c = '/'
    · rw [slash, splitAt_separator, slashed_cons, ih, List.nil_append]
    · obtain ⟨part, parts, eq, eq'⟩ := splitAt_other slash rest
      rw [eq, slashed_cons] at ih
      rw [eq', slashed_cons, List.cons_append, (List.cons.inj ih).2]

theorem slashed_map_escape {set : List Char} (kept : escapeChar set '/' = ['/'])
    (segments : List (List Char)) :
    slashed (segments.map (escape set)) = escape set (slashed segments) := by
  induction segments with
  | nil => rfl
  | cons segment segments ih =>
    rw [List.map_cons, slashed_cons, slashed_cons, ih, escape_cons, kept, escape_append]
    rfl

/-! ## Dots -/

/-- Whether a segment is one dot or two, either of which may be an escape. -/
def IsDots (segment : List Char) : Prop :=
  plainDots segment = ['.'] ∨ plainDots segment = ['.', '.']

instance (segment : List Char) : Decidable (IsDots segment) :=
  inferInstanceAs (Decidable (_ ∨ _))

/-- A character is first in the bytes of a dot only if it is one. -/
theorem eq_dot_of_encodeChar {c : Char} {bytes rest : List UInt8}
    (first : String.utf8EncodeChar c ++ bytes = 0x2e :: rest) : c = '.' := by
  have spelled := Utf8.parts_encodeChar c bytes
  have dot : Utf8.parts none (0x2e :: rest) = some '.' :: Utf8.parts none rest :=
    Utf8.parts_encodeChar '.' rest
  rw [first, dot] at spelled
  exact Option.some.inj (List.cons.inj spelled).1.symm

theorem plainDots_plain {c : Char} {rest : List Char} (plain : startsEscape (c :: rest) = false) :
    plainDots (c :: rest) = c :: plainDots rest := by
  rw [plainDots.eq_def]
  split
  · next eq =>
    cases eq
    contradiction
  · next eq =>
    cases eq
    contradiction
  · next eq =>
    cases eq
    rfl
  · contradiction

/-- An escape is a dot if the byte that it stands for is one. -/
theorem plainDots_escaped {a b : Char} {high low : Nat} (high_eq : hexValue? a = some high)
    (low_eq : hexValue? b = some low) (rest : List Char) :
    (high * 16 + low).toUInt8 = 0x2e ∧ plainDots ('%' :: a :: b :: rest) = '.' :: plainDots rest ∨
      (high * 16 + low).toUInt8 ≠ 0x2e ∧
        plainDots ('%' :: a :: b :: rest) = '%' :: plainDots (a :: b :: rest) := by
  rw [plainDots.eq_def]
  split
  · next eq =>
    cases eq
    cases high_eq
    cases low_eq
    exact .inl ⟨rfl, rfl⟩
  · next eq =>
    cases eq
    cases high_eq
    cases low_eq
    exact .inl ⟨rfl, rfl⟩
  · next small large eq =>
    cases eq
    refine .inr ⟨fun dot => ?_, rfl⟩
    have := toNat_of_hexValue? high_eq
    have := toNat_of_hexValue? low_eq
    have value : high * 16 + low = 46 := by
      have toNat : (high * 16 + low).toUInt8.toNat = high * 16 + low :=
        UInt8.toNat_ofNat_of_lt' (show high * 16 + low < 256 by omega)
      rw [← toNat, dot]
      rfl
    have two : a = '2' := Char.toNat_inj.mp (show a.toNat = 50 by omega)
    have fourteen : b.toNat = 101 ∨ b.toNat = 69 := by omega
    rcases fourteen with e | e
    · exact small rest rfl (by rw [two, show b = 'e' from Char.toNat_inj.mp e])
    · exact large rest rfl (by rw [two, show b = 'E' from Char.toNat_inj.mp e])
  · contradiction

theorem plainDots_eq_replicate_iff (n : Nat) (cs : List Char) :
    plainDots cs = List.replicate n '.' ↔ unescape cs = List.replicate n 0x2e := by
  induction cs using escape_induction generalizing n with
  | nil => cases n <;> simp [plainDots, unescape, List.replicate_succ]
  | escape a b rest high low high_eq low_eq ih =>
    rw [unescape_escaped high_eq low_eq]
    obtain ⟨dot, eq⟩ | ⟨other, eq⟩ := plainDots_escaped high_eq low_eq rest
    · cases n <;> simp [eq, dot, ih, List.replicate_succ]
    · cases n with
      | zero => simp [eq]
      | succ n =>
        rw [eq, List.replicate_succ, List.replicate_succ]
        exact iff_of_false (fun eq => absurd (List.cons.inj eq).1 (by decide)) fun eq =>
          other (List.cons.inj eq).1
  | plain c rest plain ih =>
    rw [unescape_plain plain, plainDots_plain plain]
    by_cases dot : c = '.'
    · rw [dot, show String.utf8EncodeChar '.' = [0x2e] from rfl, List.singleton_append]
      cases n <;> simp [ih, List.replicate_succ]
    · cases n with
      | zero =>
        obtain ⟨b, others, bytes, -⟩ := Utf8.encodeChar_eq_cons c
        simp [bytes]
      | succ n =>
        rw [List.replicate_succ, List.replicate_succ]
        exact iff_of_false (fun eq => dot (List.cons.inj eq).1) fun eq =>
          dot (eq_dot_of_encodeChar eq)

/-- Whether a segment is dots depends on the bytes that it stands for. -/
theorem isDots_iff (segment : List Char) :
    IsDots segment ↔ unescape segment = [0x2e] ∨ unescape segment = [0x2e, 0x2e] :=
  or_congr (plainDots_eq_replicate_iff 1 segment) (plainDots_eq_replicate_iff 2 segment)

theorem isDots_escape (segment : List Char) : IsDots (escape pathSet segment) ↔ IsDots segment := by
  rw [isDots_iff, isDots_iff, unescape_escape sparesEscapes_pathSet]

/-! ## Adding segments -/

section

variable {segment : List Char} {done rest segments : List (List Char)}

theorem addSegments_other (other : ¬IsDots segment) :
    addSegments done (segment :: rest) = addSegments (segment :: done) rest := by
  rw [IsDots, not_or] at other
  simp [addSegments, other]

/-- Dots leave some of the segments before them, and an empty one if nothing comes after. -/
theorem addSegments_dots (dots : IsDots segment) (done rest : List (List Char)) :
    ∃ kept, kept.Sublist done ∧ addSegments done (segment :: rest) =
      if rest = [] then [] :: kept else addSegments kept rest := by
  have dropped : (dropSegment done).Sublist done := by
    cases done with
    | nil => exact List.Sublist.slnil
    | cons last done =>
      rw [dropSegment]
      split
      · exact List.Sublist.refl _
      · exact List.sublist_cons_self last done
  rcases dots with one | two
  · exact ⟨done, List.Sublist.refl _, by simp [addSegments, one]⟩
  · exact ⟨dropSegment done, dropped, by simp [addSegments, two]⟩

theorem addSegments_of_no_dots (plain : ∀ segment ∈ segments, ¬IsDots segment) :
    addSegments done segments = segments.reverse ++ done := by
  induction segments generalizing done with
  | nil => rfl
  | cons segment rest ih =>
    rw [addSegments_other (plain segment List.mem_cons_self),
      ih fun segment mem => plain segment (List.mem_cons_of_mem _ mem), List.reverse_cons,
      List.append_assoc, List.singleton_append]

theorem addSegments_ne_nil (nonempty : segments ≠ []) : addSegments done segments ≠ [] := by
  induction segments generalizing done with
  | nil => contradiction
  | cons first rest ih =>
    by_cases dots : IsDots first
    · obtain ⟨kept, -, eq⟩ := addSegments_dots dots done rest
      rw [eq]
      split
      · exact List.cons_ne_nil _ _
      · next more => exact ih more
    · rw [addSegments_other dots]
      cases rest with
      | nil => exact List.cons_ne_nil _ _
      | cons => exact ih (List.cons_ne_nil _ _)

theorem of_mem_addSegments (mem : segment ∈ addSegments done segments) :
    segment = [] ∨ segment ∈ done ∨ segment ∈ segments ∧ ¬IsDots segment := by
  induction segments generalizing done with
  | nil => exact .inr (.inl mem)
  | cons first rest ih =>
    by_cases dots : IsDots first
    · obtain ⟨kept, within, eq⟩ := addSegments_dots dots done rest
      rw [eq] at mem
      split at mem
      · rcases List.mem_cons.mp mem with nothing | mem
        · exact .inl nothing
        · exact .inr (.inl (within.subset mem))
      · obtain nothing | mem | ⟨mem, other⟩ := ih mem
        · exact .inl nothing
        · exact .inr (.inl (within.subset mem))
        · exact .inr (.inr ⟨List.mem_cons_of_mem _ mem, other⟩)
    · rw [addSegments_other dots] at mem
      obtain nothing | mem | ⟨mem, other⟩ := ih mem
      · exact .inl nothing
      · rcases List.mem_cons.mp mem with rfl | mem
        · exact .inr (.inr ⟨List.mem_cons_self, dots⟩)
        · exact .inr (.inl mem)
      · exact .inr (.inr ⟨List.mem_cons_of_mem _ mem, other⟩)

end

section

variable {w : List Char → Nat}

/-- What segments measure, a slash before each of them counting as one. -/
def weight (w : List Char → Nat) : List (List Char) → Nat
  | [] => 0
  | segment :: segments => w segment + 1 + weight w segments

theorem weight_cons (segment : List Char) (segments : List (List Char)) :
    weight w (segment :: segments) = w segment + 1 + weight w segments := rfl

theorem weight_append (segments others : List (List Char)) :
    weight w (segments ++ others) = weight w segments + weight w others := by
  induction segments with
  | nil => exact (Nat.zero_add _).symm
  | cons segment segments ih =>
    rw [List.cons_append, weight_cons, ih, weight_cons, Nat.add_assoc (w segment + 1)]

theorem weight_reverse (segments : List (List Char)) :
    weight w segments.reverse = weight w segments := by
  induction segments with
  | nil => rfl
  | cons segment segments ih =>
    rw [List.reverse_cons, weight_append, ih, weight_cons, Nat.add_comm]
    rfl

theorem weight_le_of_sublist {some all : List (List Char)} (within : some.Sublist all) :
    weight w some ≤ weight w all := by
  induction within with
  | slnil => exact Nat.le_refl _
  | cons segment within ih =>
    rw [weight_cons]
    omega
  | cons_cons segment within ih =>
    rw [weight_cons, weight_cons]
    omega

/-- Each segment of dots makes what comes out lighter. -/
theorem weight_addSegments_le (empty : w [] = 0)
    (pos : ∀ segment, IsDots segment → 0 < w segment) (done segments : List (List Char)) :
    weight w (addSegments done segments) + segments.countP (IsDots ·) ≤
      weight w done + weight w segments := by
  induction segments generalizing done with
  | nil => exact Nat.le_refl _
  | cons segment rest ih =>
    by_cases dots : IsDots segment
    · obtain ⟨kept, within, eq⟩ := addSegments_dots dots done rest
      have kept_le := weight_le_of_sublist (w := w) within
      have := pos segment dots
      rw [eq, List.countP_cons_of_pos (by simpa using dots), weight_cons]
      split
      · next last =>
        rw [last, weight_cons, empty]
        simp only [List.countP_nil]
        omega
      · have := ih kept
        omega
    · have := ih (segment :: done)
      rw [addSegments_other dots, List.countP_cons_of_neg (by simpa using dots)]
      rw [weight_cons] at this ⊢
      omega

end

/-! ## Normal paths -/

theorem escapeChar_slash : escapeChar pathSet '/' = ['/'] := rfl

theorem normalPath_eq (cs : List Char) :
    normalPath cs =
      slashed (addSegments [] ((splitAt '/' cs).map (escape pathSet))).reverse := rfl

/-- A path without dots keeps its characters. -/
theorem normalPath_of_no_dots {cs : List Char}
    (plain : ∀ segment ∈ splitAt '/' cs, ¬IsDots segment) :
    normalPath cs = '/' :: escape pathSet cs := by
  have plain_escaped : ∀ segment ∈ (splitAt '/' cs).map (escape pathSet), ¬IsDots segment := by
    intro segment mem
    obtain ⟨raw, raw_mem, rfl⟩ := List.mem_map.mp mem
    rw [isDots_escape]
    exact plain raw raw_mem
  rw [normalPath_eq, addSegments_of_no_dots plain_escaped, List.append_nil, List.reverse_reverse,
    slashed_map_escape escapeChar_slash, slashed_splitAt, escape_cons, escapeChar_slash]
  rfl

theorem length_slashed (segments : List (List Char)) :
    (slashed segments).length = weight List.length segments := by
  induction segments with
  | nil => rfl
  | cons segment segments ih =>
    rw [slashed_cons, List.length_cons, List.length_append, ih, weight_cons]
    omega

theorem unescape_slash (cs : List Char) : unescape ('/' :: cs) = 0x2f :: unescape cs :=
  unescape_plain (startsEscape_of_ne (by decide) cs)

theorem unescape_append_slashed (cs : List Char) (segments : List (List Char)) :
    unescape (cs ++ slashed segments) = unescape cs ++ unescape (slashed segments) := by
  cases segments with
  | nil => simp [slashed, unescape]
  | cons segment segments => exact unescape_append rfl cs _

theorem length_unescape_slashed (segments : List (List Char)) :
    (unescape (slashed segments)).length = weight (fun cs => (unescape cs).length) segments := by
  induction segments with
  | nil => rfl
  | cons segment segments ih =>
    rw [slashed_cons, unescape_slash, List.length_cons, unescape_append_slashed, List.length_append,
      ih, weight_cons]
    omega

theorem countP_map_escape (segments : List (List Char)) :
    (segments.map (escape pathSet)).countP (IsDots ·) = segments.countP (IsDots ·) := by
  rw [List.countP_map]
  exact List.countP_congr fun segment _ => by simp [isDots_escape]

theorem pos_of_isDots {segment : List Char} (dots : IsDots segment) : 0 < segment.length := by
  cases segment with
  | nil => rcases dots with one | two <;> contradiction
  | cons => exact Nat.succ_pos _

theorem pos_unescape_of_isDots {segment : List Char} (dots : IsDots segment) :
    0 < (unescape segment).length := by
  rcases (isDots_iff segment).mp dots with one | two
  · rw [one]
    exact Nat.one_pos
  · rw [two]
    exact Nat.two_pos

/-- Dots make a path shorter. -/
theorem length_normalPath_le (cs : List Char) :
    (normalPath cs).length + (splitAt '/' cs).countP (IsDots ·) ≤
      (escape pathSet cs).length + 1 := by
  have lighter := weight_addSegments_le (w := List.length) rfl
    (fun _ dots => pos_of_isDots dots) [] ((splitAt '/' cs).map (escape pathSet))
  rw [countP_map_escape, ← length_slashed ((splitAt '/' cs).map _),
    slashed_map_escape escapeChar_slash, slashed_splitAt, escape_cons, escapeChar_slash] at lighter
  rw [normalPath_eq, length_slashed, weight_reverse]
  simpa [weight, Nat.add_comm] using lighter

/-- Dots take away bytes that a path stands for. -/
theorem length_unescape_normalPath_le (cs : List Char) :
    (unescape (normalPath cs)).length + (splitAt '/' cs).countP (IsDots ·) ≤
      (unescape cs).length + 1 := by
  have lighter := weight_addSegments_le (w := fun cs => (unescape cs).length) rfl
    (fun _ dots => pos_unescape_of_isDots dots) [] ((splitAt '/' cs).map (escape pathSet))
  rw [countP_map_escape, ← length_unescape_slashed ((splitAt '/' cs).map _),
    slashed_map_escape escapeChar_slash, slashed_splitAt, unescape_escape sparesEscapes_pathSet,
    unescape_slash] at lighter
  rw [normalPath_eq, length_unescape_slashed, weight_reverse]
  simpa [weight, Nat.add_comm] using lighter

theorem hexDigit_ne_slash {n : Nat} (small : n < 16) : hexDigit n ≠ '/' := by
  have each : ∀ m < 16, hexDigit m ≠ '/' := by decide
  exact each n small

theorem slash_not_mem_escape {set cs : List Char} (free : '/' ∉ cs) : '/' ∉ escape set cs := by
  intro mem
  obtain ⟨c, c_mem, mem⟩ := List.mem_flatMap.mp mem
  obtain kept | bytes := escapeChar_cases set c
  · rw [kept, List.mem_singleton] at mem
    exact free (mem ▸ c_mem)
  · rw [bytes] at mem
    obtain ⟨b, -, mem⟩ := List.mem_flatMap.mp mem
    have := b.toNat_lt
    simp only [escapeByte, List.mem_cons, List.not_mem_nil, or_false] at mem
    rcases mem with sign | high | low
    · contradiction
    · exact hexDigit_ne_slash (by omega) high.symm
    · exact hexDigit_ne_slash (by omega) low.symm

theorem takeWhile_slashed {segment : List Char} (free : '/' ∉ segment)
    (segments : List (List Char)) :
    (segment ++ slashed segments).takeWhile (· ≠ '/') = segment := by
  have each : ∀ c ∈ segment, decide (c ≠ '/') = true := fun c mem =>
    decide_eq_true fun slash => free (slash ▸ mem)
  rw [List.takeWhile_append_of_pos each]
  cases segments with
  | nil => exact List.append_nil _
  | cons => simp [slashed_cons]

/-- A path starts with one of its segments, or with an empty one. -/
theorem first_of_normalPath (cs : List Char) :
    ∃ segment, ((normalPath cs).drop 1).takeWhile (· ≠ '/') = escape pathSet segment ∧
      (segment = [] ∨ segment ∈ splitAt '/' cs ∧ ¬IsDots segment) := by
  rw [normalPath_eq]
  cases eq : (addSegments [] ((splitAt '/' cs).map (escape pathSet))).reverse with
  | nil => exact ⟨[], rfl, .inl rfl⟩
  | cons first others =>
    have mem : first ∈ addSegments [] ((splitAt '/' cs).map (escape pathSet)) := by
      rw [← List.mem_reverse, eq]
      exact List.mem_cons_self
    rw [slashed_cons, List.drop_succ_cons, List.drop_zero]
    obtain rfl | nothing | ⟨mem, other⟩ := of_mem_addSegments mem
    · exact ⟨[], takeWhile_slashed List.not_mem_nil others, .inl rfl⟩
    · contradiction
    · obtain ⟨segment, segment_mem, rfl⟩ := List.mem_map.mp mem
      have free : '/' ∉ escape pathSet segment :=
        slash_not_mem_escape (of_mem_splitAt segment_mem).2
      rw [isDots_escape] at other
      exact ⟨segment, takeWhile_slashed free others, .inr ⟨segment_mem, other⟩⟩

theorem exists_normalPath_eq_cons (cs : List Char) : ∃ rest, normalPath cs = '/' :: rest := by
  have nonempty : addSegments [] ((splitAt '/' cs).map (escape pathSet)) ≠ [] :=
    addSegments_ne_nil (by simpa using splitAt_ne_nil '/' cs)
  obtain ⟨first, others, eq⟩ := List.exists_cons_of_ne_nil (List.reverse_ne_nil_iff.mpr nonempty)
  rw [normalPath_eq, eq, slashed_cons]
  exact ⟨_, rfl⟩

theorem verbatim_of_mem_normalPath {cs : List Char} {c : Char} (mem : c ∈ normalPath cs) :
    Verbatim c := by
  rw [normalPath_eq] at mem
  obtain ⟨segment, segment_mem, mem⟩ := List.mem_flatMap.mp mem
  rcases List.mem_cons.mp mem with rfl | mem
  · decide
  obtain rfl | nothing | ⟨segment_mem, -⟩ := of_mem_addSegments (List.mem_reverse.mp segment_mem)
  · contradiction
  · contradiction
  · obtain ⟨raw, -, rfl⟩ := List.mem_map.mp segment_mem
    exact verbatim_of_mem_escape mem

end Url
end ObjectQuery
