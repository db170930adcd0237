/-
The texts that come back out of a URL that they are put into.

A URL leaves characters out, reads escapes and takes dots away, and each of these makes the text
shorter that it stands for.  So a text comes back only if nothing of the kind happens to it.
-/
import ObjectQuery.Proofs.Url.Reading

namespace ObjectQuery
namespace Url

open Text

/-! ## The characters of a path -/

theorem rdropWhile_sublist {p : Char → Bool} {cs : List Char} : (cs.rdropWhile p).Sublist cs := by
  have starts := List.rdropWhile_prefix p cs
  exact starts.sublist

/-- What a URL takes for its path of characters, which may stand at its end. -/
def seen (ends : Bool) (cs : List Char) : List Char :=
  ((if ends then cs.rdropWhile (· ≤ ' ') else cs).filter counts).takeWhile
    fun c => c ≠ '?' && c ≠ '#'

/-- Whether a URL takes all of the characters for its path. -/
structure Kept (ends : Bool) (cs : List Char) : Prop where
  counted : ∀ c ∈ cs, c ≠ '\t' ∧ c ≠ '\n' ∧ c ≠ '\r'
  unmarked : ∀ c ∈ cs, c ≠ '?' ∧ c ≠ '#'
  last : ends = true → ∀ c ∈ cs.getLast?, ' ' < c

section

variable {ends : Bool} {cs : List Char}

theorem seen_sublist_trimmed (ends : Bool) (cs : List Char) :
    (seen ends cs).Sublist (if ends then cs.rdropWhile (· ≤ ' ') else cs) :=
  (List.takeWhile_sublist _).trans List.filter_sublist

theorem seen_sublist (ends : Bool) (cs : List Char) : (seen ends cs).Sublist cs := by
  refine (seen_sublist_trimmed ends cs).trans ?_
  split
  · exact rdropWhile_sublist
  · exact List.Sublist.refl cs

theorem kept_of_seen_eq (whole : seen ends cs = cs) : Kept ends cs := by
  have mem {c : Char} (mem : c ∈ cs) : c ∈ seen ends cs := whole.symm ▸ mem
  refine ⟨fun c c_mem => ?_, fun c c_mem => ?_, fun last c c_mem => ?_⟩
  · have counted := (List.mem_filter.mp ((List.takeWhile_sublist _).subset (mem c_mem))).2
    simpa [counts, and_assoc] using counted
  · simpa using List.mem_takeWhile_imp (mem c_mem)
  · have within := seen_sublist_trimmed ends cs
    rw [whole, last, if_pos rfl] at within
    have trimmed : cs.rdropWhile (· ≤ ' ') = cs := rdropWhile_sublist.antisymm within
    obtain ⟨nonempty, rfl⟩ := List.mem_getLast?_eq_getLast c_mem
    simpa using List.rdropWhile_eq_self_iff.mp trimmed nonempty

theorem Kept.seen_eq (kept : Kept ends cs) : seen ends cs = cs := by
  have trimmed : (if ends then cs.rdropWhile (· ≤ ' ') else cs) = cs := by
    split
    · next last =>
      refine List.rdropWhile_eq_self_iff.mpr fun nonempty => ?_
      have visible := kept.last last _ (List.getLast_mem_getLast? nonempty)
      simpa using visible
    · rfl
  have counted : cs.filter counts = cs :=
    List.filter_eq_self.mpr fun c mem => by simpa [counts, and_assoc] using kept.counted c mem
  have unmarked : cs.takeWhile (fun c => c ≠ '?' && c ≠ '#') = cs :=
    List.takeWhile_eq_self_iff.mpr fun c mem => by simpa using kept.unmarked c mem
  rw [seen, trimmed, counted, unmarked]

theorem kept_of_verbatim (verbatim : ∀ c ∈ cs, Verbatim c) : Kept ends cs := by
  have ne {c d : Char} (mem : c ∈ cs) (other : ¬Verbatim d) : c ≠ d :=
    fun same => other (same ▸ verbatim c mem)
  refine ⟨fun c mem => ?_, fun c mem => ?_, fun _ c mem => ?_⟩
  · exact ⟨ne mem (by decide), ne mem (by decide), ne mem (by decide)⟩
  · exact ⟨ne mem (by decide), ne mem (by decide)⟩
  · have mem := List.mem_of_getLast? mem
    exact lt_of_not_needsEscape (verbatim c mem).1 (ne mem (by decide))

end

/-! ## Paths of files -/

/-- Whether characters come back as the path of a local URL. -/
structure PlainFile (cs : List Char) : Prop where
  kept : Kept true cs
  hostless : ¬['/', '/'] <+: cs
  unescaped : hasEscape cs = false
  undotted : cs.head? = some '/' → ∀ segment ∈ splitAt '/' cs, ¬IsDots segment

theorem decode?_unescape_of_unescaped {cs : List Char} (unescaped : hasEscape cs = false) :
    Utf8.decode? (unescape cs) = some (String.ofList cs) := by
  rw [unescape_of_hasEscape_eq_false unescaped, ← Utf8.encode_ofList, Utf8.decode?_encode]

theorem length_bytes_of_decode? {path cs : List Char}
    (decoded : Utf8.decode? (unescape path) = some (String.ofList cs)) :
    (cs.flatMap String.utf8EncodeChar).length = (unescape path).length := by
  rw [← Utf8.encode_of_decode? decoded, Utf8.encode_ofList]

section

variable {cs : List Char}

theorem counting_eq_of_seen_eq (whole : seen true cs = cs) : counting cs = cs := by
  have within : (seen true cs).Sublist (counting cs) := List.takeWhile_sublist _
  rw [whole] at within
  exact (List.filter_sublist.trans rdropWhile_sublist).antisymm within

theorem forall_mem_splitAt_slash {rest : List Char} :
    (∀ segment ∈ splitAt '/' ('/' :: rest), ¬IsDots segment) ↔
      ∀ segment ∈ splitAt '/' rest, ¬IsDots segment := by
  rw [splitAt_separator, List.forall_mem_cons]
  exact and_iff_right (by decide)

theorem countP_isDots_eq_zero_iff {segments : List (List Char)} :
    segments.countP (IsDots ·) = 0 ↔ ∀ segment ∈ segments, ¬IsDots segment := by
  simp

/-- Only the whole text, without escapes, can stand for as many bytes as the text has. -/
theorem seen_eq_of_length_le {ends : Bool}
    (long : (cs.flatMap String.utf8EncodeChar).length ≤ (unescape (seen ends cs)).length) :
    seen ends cs = cs ∧ hasEscape cs = false := by
  have stands := length_unescape_le (seen ends cs)
  have left := length_bytes_of_sublist (seen_sublist ends cs)
  have length := (seen_sublist ends cs).length_le
  have whole : seen ends cs = cs := (seen_sublist ends cs).eq_of_length (by omega)
  rw [whole] at long stands
  exact ⟨whole, Bool.toNat_eq_zero.mp (by omega)⟩

/-- An opaque path keeps all but escapes. -/
theorem decode?_opaque_iff (rootless : (seen true cs).head? ≠ some '/') :
    Utf8.decode? (unescape (escape [] (seen true cs))) = some (String.ofList cs) ↔
      PlainFile cs := by
  rw [unescape_escape sparesEscapes_nil]
  constructor
  · intro decoded
    obtain ⟨whole, unescaped⟩ := seen_eq_of_length_le (length_bytes_of_decode? decoded).le
    rw [whole] at rootless
    refine ⟨kept_of_seen_eq whole, fun slashes => ?_, unescaped, fun root => absurd root rootless⟩
    obtain ⟨rest, rfl⟩ := slashes
    exact rootless rfl
  · intro plain
    rw [plain.kept.seen_eq]
    exact decode?_unescape_of_unescaped plain.unescaped

/-- A path with a slash in front loses its dots, too. -/
theorem decode?_rooted_iff {rest : List Char} (rooted : seen true cs = '/' :: rest)
    (hostless : ¬['/', '/'] <+: counting cs) :
    Utf8.decode? (unescape (normalPath rest)) = some (String.ofList cs) ↔ PlainFile cs := by
  constructor
  · intro decoded
    have bytes := length_bytes_of_decode? decoded
    have path := length_unescape_normalPath_le rest
    have root : (unescape (seen true cs)).length = (unescape rest).length + 1 := by
      rw [rooted, unescape_slash, List.length_cons]
    have long : (cs.flatMap String.utf8EncodeChar).length ≤ (unescape (seen true cs)).length := by
      omega
    obtain ⟨whole, unescaped⟩ := seen_eq_of_length_le long
    -- a segment of dots would have taken bytes away that the text has
    have stands := length_unescape_le (seen true cs)
    rw [counting_eq_of_seen_eq whole] at hostless
    rw [whole] at stands root rooted
    have undotted : (splitAt '/' rest).countP (IsDots ·) = 0 := by omega
    refine ⟨kept_of_seen_eq whole, hostless, unescaped, fun _ => ?_⟩
    rw [rooted, forall_mem_splitAt_slash]
    exact countP_isDots_eq_zero_iff.mp undotted
  · intro plain
    have whole : cs = '/' :: rest := plain.kept.seen_eq.symm.trans rooted
    have undotted : ∀ segment ∈ splitAt '/' rest, ¬IsDots segment := by
      have undotted := plain.undotted (by rw [whole]; rfl)
      rwa [whole, forall_mem_splitAt_slash] at undotted
    rw [normalPath_of_no_dots undotted, unescape_slash, unescape_escape sparesEscapes_pathSet,
      ← unescape_slash, ← whole]
    exact decode?_unescape_of_unescaped plain.unescaped

end

/-- The path of a URL that is nothing but a scheme and a text stands for the text exactly if the
text is plain. -/
theorem PlainScheme.decode?_path_iff {scheme : String} (plain : PlainScheme scheme) {text : String}
    {cs : List Char} (eq : text.toList = scheme.toList ++ ':' :: cs) {url : Url}
    (read : Url.read text = .ok url) :
    Utf8.decode? (unescape url.path.toList) = some (String.ofList cs) ↔ PlainFile cs := by
  by_cases slashes : ['/', '/'] <+: counting cs
  · obtain ⟨rest, prefixed⟩ := slashes
    have slashes : counting cs = '/' :: '/' :: rest := prefixed.symm
    have path := plain.length_path_of_slashes slashes eq read
    constructor
    · intro decoded
      -- the slashes are two bytes of the text, and the path has room for one
      have bytes := length_bytes_of_decode? decoded
      have within : (counting cs).Sublist cs := List.filter_sublist.trans rdropWhile_sublist
      have left := length_bytes_le_of_sublist within
      have slash : String.utf8EncodeChar '/' = [0x2f] := rfl
      rw [slashes, List.flatMap_cons, List.flatMap_cons, slash] at left
      simp only [List.length_append, List.length_singleton] at left
      omega
    · intro plain
      have whole := counting_eq_of_seen_eq plain.kept.seen_eq
      exact absurd ⟨rest, prefixed.trans whole⟩ plain.hostless
  · have found := plain.read_local slashes eq
    cases read.symm.trans found
    have taken : (splitQuery (counting cs)).1 = seen true cs := splitQuery_fst _
    simp only [taken]
    split
    · next root =>
      obtain ⟨rest, rooted⟩ := List.head?_eq_some_iff.mp root
      rw [rooted, readPath]
      simp only [Bool.false_eq_true, if_false, String.toList_ofList]
      exact decode?_rooted_iff rooted slashes
    · next rootless =>
      rw [String.toList_ofList]
      exact decode?_opaque_iff rootless

/-! ## Paths behind a host -/

theorem takeWhile_append_query (cs rest : List Char) :
    (cs ++ '?' :: rest).takeWhile (fun c => c ≠ '?' && c ≠ '#') =
      cs.takeWhile fun c => c ≠ '?' && c ≠ '#' := by
  rw [List.takeWhile_append]
  split
  · next whole =>
    have whole := (List.takeWhile_sublist _).eq_of_length whole
    simpa using whole.symm
  · rfl

/-- The path of what ends a URL: a text after a slash, and parameters if there are any. -/
theorem splitQuery_counting (cs : List Char) (query : Option (List Char)) :
    (splitQuery (counting ('/' :: (cs ++ (query.map ('?' :: ·)).getD [])))).1 =
      '/' :: seen query.isNone cs := by
  have slash : ' ' < '/' := by decide
  rw [counting_cons slash, splitQuery_fst, List.takeWhile_cons_of_pos (by decide)]
  refine congrArg ('/' :: ·) ?_
  cases query with
  | none =>
    rw [Option.map_none, Option.getD_none, List.append_nil]
    rfl
  | some query =>
    rw [Option.map_some, Option.getD_some, counting_append (by decide), takeWhile_append_query]
    rfl

/-- Whether characters come back as a path without the slashes at its start. -/
structure PlainPath (cs : List Char) : Prop where
  verbatim : ∀ c ∈ cs, Verbatim c
  rootless : cs.head? ≠ some '/'
  undotted : ∀ segment ∈ splitAt '/' cs, ¬IsDots segment

/-- Whether characters come back as the first segment of a path. -/
structure PlainSegment (ends : Bool) (cs : List Char) : Prop where
  kept : Kept ends cs
  single : '/' ∉ cs
  unescaped : hasEscape cs = false
  undotted : ¬IsDots cs

theorem afterSlashes_eq_iff (ends : Bool) (cs : List Char) :
    (normalPath (seen ends cs)).dropWhile (· == '/') = cs ↔ PlainPath cs := by
  constructor
  · intro left
    -- whatever characters a path has, it has them without escapes, and so has the text
    have verbatim : ∀ c ∈ cs, Verbatim c := fun c mem =>
      verbatim_of_mem_normalPath ((List.dropWhile_sublist _).subset (left.symm ▸ mem))
    have whole : seen ends cs = cs := (kept_of_verbatim verbatim).seen_eq
    have kept : escape pathSet cs = cs := escape_of_verbatim verbatim
    have path := length_normalPath_le cs
    obtain ⟨rest, root⟩ := exists_normalPath_eq_cons cs
    rw [whole] at left
    refine ⟨verbatim, fun slash => ?_, countP_isDots_eq_zero_iff.mp ?_⟩
    · have other := List.head?_dropWhile_not (· == '/') (normalPath cs)
      rw [left, slash] at other
      contradiction
    · rw [root, List.dropWhile_cons_of_pos (by decide)] at left
      have shorter := (List.dropWhile_sublist (· == '/') (l := rest)).length_le
      rw [left] at shorter
      rw [kept, root, List.length_cons] at path
      omega
  · intro plain
    have kept : escape pathSet cs = cs := escape_of_verbatim plain.verbatim
    rw [(kept_of_verbatim plain.verbatim).seen_eq, normalPath_of_no_dots plain.undotted, kept,
      List.dropWhile_cons_of_pos (by decide)]
    cases cs with
    | nil => rfl
    | cons c rest =>
      exact List.dropWhile_cons_of_neg fun slash => plain.rootless (by simpa using slash)

theorem unescapeText_firstSegment_iff (ends : Bool) {cs : List Char} (nonempty : cs ≠ []) :
    unescapeText (String.ofList (((normalPath (seen ends cs)).drop 1).takeWhile (· ≠ '/'))) =
      String.ofList cs ↔ PlainSegment ends cs := by
  have stands (segment : List Char) : unescapeText (String.ofList (escape pathSet segment)) =
      unescapeText (String.ofList segment) := by
    rw [unescapeText, unescapeText, String.toList_ofList, String.toList_ofList,
      unescape_escape sparesEscapes_pathSet]
  constructor
  · intro same
    obtain ⟨segment, first, found⟩ := first_of_normalPath (seen ends cs)
    rw [first, stands] at same
    have length := length_unescapeText_le segment
    rw [same, String.length_ofList] at length
    obtain rfl | ⟨mem, undotted⟩ := found
    · have nothing : cs.length = 0 := Nat.le_zero.mp (Nat.le_trans (Nat.le_add_right _ _) length)
      exact absurd (List.length_eq_zero_iff.mp nothing) nonempty
    obtain ⟨within, single⟩ := of_mem_splitAt mem
    have segment_le := within.length_le
    have seen_le := (seen_sublist ends cs).length_le
    have whole : seen ends cs = cs := (seen_sublist ends cs).eq_of_length (by omega)
    have alone : segment = cs := (within.eq_of_length (by omega)).trans whole
    rw [alone] at single undotted length
    exact ⟨kept_of_seen_eq whole, single, Bool.toNat_eq_zero.mp (by omega), undotted⟩
  · intro plain
    have split : splitAt '/' cs = [cs] := splitAt_of_not_mem plain.single
    have undotted : ∀ segment ∈ splitAt '/' cs, ¬IsDots segment := by
      rw [split]
      exact List.forall_mem_singleton.mpr plain.undotted
    have free : '/' ∉ escape pathSet cs := slash_not_mem_escape plain.single
    have first : (escape pathSet cs).takeWhile (· ≠ '/') = escape pathSet cs := by
      have first := takeWhile_slashed free []
      rwa [slashed, List.flatMap_nil, List.append_nil] at first
    rw [plain.kept.seen_eq, normalPath_of_no_dots undotted, List.drop_succ_cons, List.drop_zero,
      first, stands, unescapeText, String.toList_ofList,
      unescape_of_hasEscape_eq_false plain.unescaped, ← Utf8.encode_ofList,
      Utf8.decodeLossy_encode]

end Url
end ObjectQuery
