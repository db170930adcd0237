/-
Texts that the parts of a URL spell.

A part spells a text if the bytes that it stands for are those of the text, and every text is
spelled by its escaped characters.  Whatever user name and password spell, they come out of the URL
as they are written in it, and so does a path of one segment that spells no dots.  With an escape, a
part is longer than what it spells.
-/
import ObjectQuery.Proofs.Url.Keeping

namespace ObjectQuery
namespace Url

open Outcome Text

/-! ## Spelling -/

/-- A text, and a part of a URL that spells it.  The part keeps its characters where those of a set
are escaped. -/
structure Spelling (set : List Char) where
  text : String
  part : String
  kept : ∀ c ∈ part.toList, needsEscape c = false ∧ c ∉ set
  stands : unescape part.toList = Utf8.encode text

namespace Spelling

section

variable {set : List Char}

/-- The spelling of a text whose characters are escaped if they are in a set, which is larger than
that of the part and has the percent sign. -/
def escaped (spares : SparesEscapes set) (larger : List Char)
    (within : ∀ c ∈ '%' :: set, c ∈ larger) (text : String) : Spelling set where
  text := text
  part := String.ofList (escape larger text.toList)
  kept := fun c mem => by
    rw [String.toList_ofList] at mem
    exact kept_of_mem_escape spares (List.forall_mem_cons.mp within).2 mem
  stands := by
    rw [String.toList_ofList, unescape_escape_of_sign (List.forall_mem_cons.mp within).1]
    rfl

variable (spelling : Spelling set)

theorem escape_part : escape set spelling.part.toList = spelling.part.toList :=
  escape_of_forall fun c mem => escapeChar_kept (spelling.kept c mem).1 (spelling.kept c mem).2

theorem not_mem_part {c : Char} (escaped : c ∈ set) : c ∉ spelling.part.toList :=
  fun mem => (spelling.kept c mem).2 escaped

theorem unescape_part_eq_iff (other : String) :
    unescape spelling.part.toList = Utf8.encode other ↔ spelling.text = other := by
  rw [spelling.stands]
  exact Utf8.encode_injective.eq_iff

theorem part_ne_empty (filled : spelling.text ≠ "") : spelling.part ≠ "" := by
  intro nothing
  refine filled ((spelling.unescape_part_eq_iff "").mp ?_)
  rw [nothing]
  rfl

theorem isDots_part_iff :
    IsDots spelling.part.toList ↔ spelling.text = "." ∨ spelling.text = ".." := by
  rw [isDots_iff, ← spelling.unescape_part_eq_iff ".", ← spelling.unescape_part_eq_iff ".."]
  rfl

/-- A part is the text that it spells if and only if it has no escapes. -/
theorem part_eq_text_iff :
    spelling.part = spelling.text ↔ hasEscape spelling.part.toList = false := by
  have fewer := length_unescape_le spelling.part.toList
  rw [eq_comm, ← unescape_part_eq_iff]
  constructor
  · intro same
    rw [same, Utf8.encode] at fewer
    exact Bool.toNat_eq_zero.mp (by omega)
  · exact unescape_of_hasEscape_eq_false

end

end Spelling

/-! ## User and password -/

theorem splitAtLast?_append {mark : Char} {after : List Char} (free : mark ∉ after)
    (before : List Char) : splitAtLast? mark (before ++ mark :: after) = some (before, after) := by
  have reversed : (before ++ mark :: after).reverse = after.reverse ++ mark :: before.reverse := by
    simp
  have others : ∀ c ∈ after.reverse, decide (c ≠ mark) = true := fun c mem =>
    decide_eq_true fun same => free (same ▸ List.mem_reverse.mp mem)
  have taken : (after.reverse ++ mark :: before.reverse).takeWhile (· ≠ mark) = after.reverse := by
    rw [List.takeWhile_append_of_pos others, List.takeWhile_cons_of_neg (by simp), List.append_nil]
  have length : (before ++ mark :: after).length - after.length - 1 = before.length := by
    rw [List.length_append, List.length_cons]
    omega
  rw [splitAtLast?, reversed, taken, List.reverse_reverse, length, List.take_left]
  refine if_pos ?_
  rw [List.length_append, List.length_cons]
  omega

/-- User and password as they are written in a URL. -/
def loginText (user password : String) : List Char := user.toList ++ ':' :: password.toList

section

variable (user : Spelling userSet) {password : Spelling userSet}

theorem readUser_loginText (filled : password.text ≠ "") :
    readUser (loginText user.part password.part) = (user.part, some password.part) := by
  have others : ∀ c ∈ user.part.toList, decide (c ≠ ':') = true := fun c mem =>
    decide_eq_true fun colon => user.not_mem_part (by decide) (colon ▸ mem)
  have taken : (loginText user.part password.part).takeWhile (· ≠ ':') = user.part.toList := by
    rw [loginText, List.takeWhile_append_of_pos others, List.takeWhile_cons_of_neg (by simp),
      List.append_nil]
  have left : (loginText user.part password.part).dropWhile (· ≠ ':') =
      ':' :: password.part.toList := by
    rw [loginText, List.dropWhile_append_of_pos others, List.dropWhile_cons_of_neg (by simp)]
  have nonempty : password.part.toList ≠ [] := by simpa using password.part_ne_empty filled
  obtain ⟨c, rest, eq⟩ := List.exists_cons_of_ne_nil nonempty
  simp only [readUser, taken, left, user.escape_part, String.ofList_toList]
  rw [eq]
  simp only
  rw [← eq, password.escape_part, String.ofList_toList]

theorem readHost_whole {scheme : String} (other : isSpecial scheme = false) {host : String}
    (named : IsHostName host) : readHost scheme host.toList = .ok (host, none, []) := by
  have split : splitHost false (host.toList ++ []) = (host.toList, []) :=
    splitHost_name named fun _ mem => nomatch mem
  rw [List.append_nil] at split
  simp only [readHost, split, other, readOpaqueHost_name named, String.ofList_toList]
  rfl

theorem of_mem_login (password : Spelling userSet) {host : String} (named : IsHostName host)
    {c : Char} (mem : c ∈ loginText user.part password.part ++ '@' :: host.toList) :
    (needsEscape c = false ∧ c ∉ userSet) ∨ c = ':' ∨ c = '@' ∨ isHostChar c = true := by
  simp only [loginText, List.mem_append, List.mem_cons] at mem
  obtain (mem | colon | mem) | sign | mem := mem
  · exact .inl (user.kept c mem)
  · exact .inr (.inl colon)
  · exact .inl (password.kept c mem)
  · exact .inr (.inr (.inl sign))
  · exact .inr (.inr (.inr (named c mem)))

section

variable {scheme : String} (other : isSpecial scheme = false) {host : String}
  (named : IsHostName host) (nonempty : host ≠ "") (filled : password.text ≠ "")
include other named nonempty filled

theorem readAuthority_login (followed : Bool) :
    readAuthority scheme (loginText user.part password.part ++ '@' :: host.toList) followed =
      .ok (⟨user.part, some password.part, some host, none⟩, []) := by
  have free : '@' ∉ host.toList := fun mem => ne_of_isHostChar (named _ mem) rfl rfl
  have other_text : loginText user.part password.part ++ '@' :: host.toList ≠ ['@'] := by
    intro eq
    have colon : ':' ∈ loginText user.part password.part ++ '@' :: host.toList := by
      simp [loginText]
    rw [eq] at colon
    contradiction
  simp only [readAuthority, splitAtLast?_append free, Option.getD_some,
    readUser_loginText user filled, readHost_whole other named, other_text]
  simp [bind, Except.bind, pure, Except.pure, nonempty]

/-- A login before the name of a host is read as it is written. -/
theorem isAuthority_login :
    IsAuthority scheme (loginText user.part password.part ++ '@' :: host.toList)
      ⟨user.part, some password.part, some host, none⟩ := by
  have ne {c d : Char} (unescaped : c ∉ userSet) (escaped : d ∈ userSet) : c ≠ d := fun same =>
    unescaped (same ▸ escaped)
  refine ⟨fun c mem => ?_, fun c mem => ?_, readAuthority_login user other named nonempty filled⟩
  all_goals obtain spelled | rfl | rfl | host_named := of_mem_login user password named mem
  · exact lt_of_not_needsEscape spelled.1 (ne spelled.2 (by decide))
  · decide
  · decide
  · exact lt_of_isHostChar host_named
  · exact not_endsAuthority_of_ne (ne spelled.2 (by decide)) (ne spelled.2 (by decide))
      (ne spelled.2 (by decide))
  · rfl
  · rfl
  · exact not_endsAuthority_of_isHostChar host_named

end
end

/-! ## Paths of one segment -/

/-- The characters that a segment of a path escapes besides the controls. -/
def segmentSet : List Char := '/' :: pathSet

theorem sparesEscapes_segmentSet : SparesEscapes segmentSet := sparesEscapes_of_all (by decide)

section

variable (segment : Spelling segmentSet)

theorem counting_segment : counting ('/' :: segment.part.toList) = '/' :: segment.part.toList := by
  have visible : ∀ c ∈ '/' :: segment.part.toList, ' ' < c := by
    refine List.forall_mem_cons.mpr ⟨by decide, fun c mem => ?_⟩
    refine lt_of_not_needsEscape (segment.kept c mem).1 fun space => ?_
    exact segment.not_mem_part (by decide) (space ▸ mem)
  have nothing : counting [] = [] := rfl
  have whole := counting_of_visible visible []
  rwa [nothing, List.append_nil] at whole

theorem splitQuery_segment :
    splitQuery ('/' :: segment.part.toList) = ('/' :: segment.part.toList, none) := by
  have plain : ∀ c ∈ '/' :: segment.part.toList, (c ≠ '?' && c ≠ '#') = true := by
    refine List.forall_mem_cons.mpr ⟨by decide, fun c mem => ?_⟩
    have query : c ≠ '?' := fun same => segment.not_mem_part (by decide) (same ▸ mem)
    have fragment : c ≠ '#' := fun same => segment.not_mem_part (by decide) (same ▸ mem)
    simp [query, fragment]
  simp only [splitQuery, List.takeWhile_eq_self_iff.mpr plain, List.dropWhile_eq_nil_iff.mpr plain]

/-- A segment of dots leaves nothing behind the slash of its path. -/
theorem normalPath_segment : (normalPath segment.part.toList).dropWhile (· == '/') =
    if segment.text ∈ [".", ".."] then [] else segment.part.toList := by
  have free : '/' ∉ segment.part.toList := segment.not_mem_part (by decide)
  have alone : splitAt '/' segment.part.toList = [segment.part.toList] := splitAt_of_not_mem free
  have verbatim : ∀ c ∈ segment.part.toList, Verbatim c := fun c mem =>
    ⟨(segment.kept c mem).1, fun escaped => (segment.kept c mem).2 (List.mem_cons_of_mem _ escaped)⟩
  split
  · next dots =>
    have dots : IsDots segment.part.toList := segment.isDots_part_iff.mpr (by simpa using dots)
    obtain ⟨nothing, within, eq⟩ := addSegments_dots dots [] []
    rw [List.sublist_nil.mp within, if_pos rfl] at eq
    rw [normalPath_eq, alone, List.map_singleton, escape_of_verbatim verbatim, eq]
    rfl
  · next other =>
    have undotted : ∀ part ∈ splitAt '/' segment.part.toList, ¬IsDots part := by
      rw [alone]
      refine List.forall_mem_singleton.mpr fun dots => other ?_
      simpa using segment.isDots_part_iff.mp dots
    have rootless : segment.part.toList.head? ≠ some '/' := fun root =>
      free (List.mem_of_mem_head? root)
    have kept := (afterSlashes_eq_iff false _).mpr ⟨verbatim, rootless, undotted⟩
    rwa [(kept_of_verbatim verbatim).seen_eq] at kept

end

/-! ## Whole URLs -/

/-- The URL of a login, a host and a path of one segment. -/
def loginUrl (scheme user password host segment : String) : String :=
  scheme ++ "://" ++ user ++ ":" ++ password ++ "@" ++ host ++ "/" ++ segment

theorem toList_loginUrl (scheme user password host segment : String) :
    (loginUrl scheme user password host segment).toList = scheme.toList ++ ':' :: '/' :: '/' ::
      (loginText user password ++ '@' :: host.toList ++ '/' :: segment.toList) := by
  simp [loginUrl, loginText, String.toList_append]

/-- The parts of the URL are the spellings of user, password and segment. -/
theorem PlainScheme.read_loginUrl {scheme : String} (plain : PlainScheme scheme) {host : String}
    (named : IsHostName host) (nonempty : host ≠ "") (user : Spelling userSet)
    {password : Spelling userSet} (filled : password.text ≠ "") (segment : Spelling segmentSet) :
    Url.read (loginUrl scheme user.part password.part host segment.part) =
      .ok ⟨scheme, user.part, some password.part, some host, none,
        String.ofList (normalPath segment.part.toList), none⟩ := by
  have whole := isAuthority_login user plain.other named nonempty filled
  have slash : ∀ c ∈ (counting ('/' :: segment.part.toList)).head?,
      endsAuthority false c = true := by
    rw [counting_segment]
    rintro _ ⟨⟩
    rfl
  have read := plain.read_authority whole slash (toList_loginUrl _ _ _ _ _)
  rw [counting_segment, splitQuery_segment] at read
  exact read

end Url
end ObjectQuery
