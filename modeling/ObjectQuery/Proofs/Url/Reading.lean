/-
URLs that are put together are read part by part.

What counts of a text is what stands before a part, if that ends in no blank, and what counts of the
part.  The name of a host and a number end where they were put together, so the host and the port
that are read are the given ones whatever comes after them.
-/
import Mathlib.Data.List.DropRight
import ObjectQuery.Proofs.Number.Digits
import ObjectQuery.Proofs.Outcome
import ObjectQuery.Proofs.Url.Path
import ObjectQuery.Schema.DatabaseKind
import ObjectQuery.Url.Reader

namespace ObjectQuery
namespace Url

open Outcome

/-! ## The characters that count -/

/-- Whether a character counts within a URL. -/
def counts (c : Char) : Bool := c ≠ '\t' && c ≠ '\n' && c ≠ '\r'

/-- What counts of the characters at the end of a URL. -/
def counting (cs : List Char) : List Char := (cs.rdropWhile (· ≤ ' ')).filter counts

theorem significant_eq (cs : List Char) :
    significant cs = counting (cs.dropWhile (· ≤ ' ')) := rfl

theorem counts_of_lt {c : Char} (visible : ' ' < c) : counts c = true := by
  have ne {d : Char} (blank : d ≤ ' ') : c ≠ d := fun same =>
    absurd (same ▸ visible) (Char.not_lt.mpr blank)
  simp [counts, ne (d := '\t') (by decide), ne (d := '\n') (by decide), ne (d := '\r') (by decide)]

theorem counting_append {before : List Char} {c : Char} (visible : ' ' < c) (cs : List Char) :
    counting (before ++ c :: cs) = before.filter counts ++ c :: counting cs := by
  have stops : (cs.reverse ++ c :: before.reverse).dropWhile (· ≤ ' ') =
      cs.reverse.dropWhile (· ≤ ' ') ++ c :: before.reverse := by
    rw [List.dropWhile_append]
    split
    · next nothing =>
      rw [List.isEmpty_iff.mp nothing, List.nil_append]
      exact List.dropWhile_cons_of_neg (by simpa using visible)
    · rfl
  have reversed : (before ++ c :: cs).reverse = cs.reverse ++ c :: before.reverse := by simp
  rw [counting, List.rdropWhile, reversed, stops, List.reverse_append, List.reverse_cons,
    List.reverse_reverse, List.append_assoc, List.singleton_append, List.filter_append,
    List.filter_cons_of_pos (counts_of_lt visible)]
  rfl

theorem counting_cons {c : Char} (visible : ' ' < c) (cs : List Char) :
    counting (c :: cs) = c :: counting cs :=
  show counting ([] ++ c :: cs) = _ from counting_append visible cs

theorem counting_of_visible {before : List Char} (visible : ∀ c ∈ before, ' ' < c)
    (cs : List Char) : counting (before ++ cs) = before ++ counting cs := by
  induction before with
  | nil => rfl
  | cons c before ih =>
    rw [List.forall_mem_cons] at visible
    rw [List.cons_append, counting_cons visible.1, ih visible.2, List.cons_append]

theorem significant_cons {c : Char} (visible : ' ' < c) (cs : List Char) :
    significant (c :: cs) = counting (c :: cs) := by
  rw [significant_eq, List.dropWhile_cons_of_neg (by simpa using visible)]

/-! ## Schemes -/

theorem readScheme_append {c : Char} {scheme : List Char} (letter : c.isAlpha = true)
    (all : ∀ d ∈ c :: scheme, isSchemeChar d = true) (rest : List Char) :
    readScheme (c :: scheme ++ ':' :: rest) =
      some (String.ofList ((c :: scheme).map Char.toLower), rest) := by
  have taken : (c :: scheme ++ ':' :: rest).takeWhile isSchemeChar = c :: scheme := by
    rw [List.takeWhile_append_of_pos all]
    exact List.append_nil _
  have left : (c :: scheme ++ ':' :: rest).dropWhile isSchemeChar = ':' :: rest := by
    rw [List.dropWhile_append_of_pos all]
    rfl
  simp only [readScheme, List.cons_append] at taken left ⊢
  rw [left, taken]
  exact if_pos letter

/-! ## Hosts and ports -/

theorem readPort_digits {cs : List Char} (digits : ∀ c ∈ cs, c.isDigit = true) (start : Nat)
    (small : Number.digitsValue start cs ≤ 65535) :
    readPort.digits start cs = .ok (Number.digitsValue start cs) := by
  induction cs generalizing start with
  | nil => rfl
  | cons c cs ih =>
    rw [List.forall_mem_cons] at digits
    have small : Number.digitsValue (start * 10 + (c.toNat - 48)) cs ≤ 65535 := small
    have above := Number.le_digitsValue (start * 10 + (c.toNat - 48)) cs
    rw [readPort.digits, if_pos digits.1]
    simp only
    rw [if_neg (by omega)]
    exact ih digits.2 _ small

theorem toList_toString (port : UInt16) : (toString port).toList = Nat.toDigits 10 port.toNat := by
  change (toString port.toNat).toList = _
  rw [Nat.toString_eq_ofList_toDigits, String.toList_ofList]

theorem readPort_toString (port : UInt16) :
    readPort (toString port).toList = .ok (some port.toNat) := by
  have bound := port.toNat_lt
  have value := Number.digitsValue_toDigits port.toNat
  have read := readPort_digits (fun c => Number.isDigit_of_mem_toDigits (n := port.toNat)) 0
    (by omega)
  rw [toList_toString, readPort, if_neg (by simp [Nat.toDigits_ne_nil]), read, value]
  rfl

/-- Whether a character may stand in the name of a host. -/
def isHostChar (c : Char) : Bool := c.isAlphanum || c == '-' || c == '.'

/-- Whether a text is the name of a host: labels of letters, digits and hyphens. -/
def IsHostName (host : String) : Prop := ∀ c ∈ host.toList, isHostChar c = true

instance (host : String) : Decidable (IsHostName host) :=
  decidable_of_iff (host.toList.all isHostChar = true) List.all_eq_true

section

variable {c : Char}

theorem toNat_of_isLower (lower : c.isLower = true) : 97 ≤ c.toNat ∧ c.toNat ≤ 122 :=
  (Bool.and_eq_true_iff.mp lower).imp of_decide_eq_true of_decide_eq_true

theorem toNat_of_isHostChar (named : isHostChar c = true) :
    c.toNat = 45 ∨ c.toNat = 46 ∨ (48 ≤ c.toNat ∧ c.toNat ≤ 57) ∨ (65 ≤ c.toNat ∧ c.toNat ≤ 90) ∨
      (97 ≤ c.toNat ∧ c.toNat ≤ 122) := by
  have named : (((c.isUpper || c.isLower) || c.isDigit) || c == '-' || c == '.') = true := named
  simp only [Char.isDigit_iff_toNat, Bool.or_eq_true, beq_iff_eq] at named
  obtain (((upper | lower) | digit) | rfl) | rfl := named
  · have upper : 65 ≤ c.toNat ∧ c.toNat ≤ 90 := of_decide_eq_true upper
    omega
  · have := toNat_of_isLower lower
    omega
  · have digit : 48 ≤ c.toNat ∧ c.toNat ≤ 57 := digit
    omega
  · exact .inl rfl
  · exact .inr (.inl rfl)

theorem ne_of_isHostChar (named : isHostChar c = true) {d : Char} (other : isHostChar d = false) :
    c ≠ d := by
  rintro rfl
  rw [named] at other
  contradiction

theorem lt_of_isHostChar (named : isHostChar c = true) : ' ' < c := by
  have := toNat_of_isHostChar named
  exact show 32 < c.toNat by omega

theorem not_endsAuthority_of_ne (slash : c ≠ '/') (query : c ≠ '?') (fragment : c ≠ '#') :
    endsAuthority false c = false := by
  simp [endsAuthority, slash, query, fragment]

theorem not_endsAuthority_of_isHostChar (named : isHostChar c = true) :
    endsAuthority false c = false :=
  not_endsAuthority_of_ne (ne_of_isHostChar named rfl) (ne_of_isHostChar named rfl)
    (ne_of_isHostChar named rfl)

end

theorem splitHost_name {host : List Char} (named : ∀ c ∈ host, isHostChar c = true)
    {rest : List Char} (port : ∀ c ∈ rest.head?, c = ':') :
    splitHost false (host ++ rest) = (host, rest) := by
  induction host with
  | nil =>
    cases rest with
    | nil => rfl
    | cons c rest =>
      obtain rfl : c = ':' := port c rfl
      rfl
  | cons c host ih =>
    rw [List.forall_mem_cons] at named
    have colon : c ≠ ':' := ne_of_isHostChar named.1 rfl
    have opening : c ≠ '[' := ne_of_isHostChar named.1 rfl
    have closing : c ≠ ']' := ne_of_isHostChar named.1 rfl
    rw [List.cons_append, splitHost, if_neg (by simp [colon])]
    simp only [opening, closing, if_false]
    rw [ih named.2]

theorem readOpaqueHost_name {host : List Char} (named : ∀ c ∈ host, isHostChar c = true) :
    readOpaqueHost host = .ok (String.ofList host) := by
  have plain : host.head? ≠ some '[' := fun first =>
    ne_of_isHostChar (named _ (List.mem_of_mem_head? first)) rfl rfl
  have permitted : host.any hostForbidden.contains = false := by
    refine List.any_eq_false.mpr fun c mem forbidden => ?_
    have foreign : ∀ d ∈ hostForbidden, (!isHostChar d) = true := List.all_eq_true.mp (by decide)
    have other := foreign c (List.contains_iff_mem.mp forbidden)
    rw [named c mem] at other
    exact nomatch other
  have kept : ∀ c ∈ host, escapeChar [] c = [c] := by
    intro c mem
    have code := toNat_of_isHostChar (named c mem)
    refine escapeChar_kept ?_ List.not_mem_nil
    simp only [needsEscape, Bool.or_eq_false_iff, decide_eq_false_iff_not]
    omega
  rw [readOpaqueHost, if_neg plain, permitted, escape_of_forall kept]
  rfl

theorem isHostChar_of_mem_toString {port : UInt16} {c : Char} (mem : c ∈ (toString port).toList) :
    isHostChar c = true := by
  rw [toList_toString] at mem
  rw [isHostChar, Char.isAlphanum, Number.isDigit_of_mem_toDigits mem, Bool.or_true, Bool.true_or,
    Bool.true_or]

/-- An authority of a host's name and a port. -/
def authorityText (host : List Char) (port : UInt16) : List Char :=
  host ++ ':' :: (toString port).toList

theorem lookup_webSchemes {scheme : String} (other : isSpecial scheme = false) :
    webSchemes.lookup scheme = none := by
  rw [isSpecial, Bool.or_eq_false_iff] at other
  exact Option.isSome_eq_false_iff.mp other.2 |> Option.isNone_iff_eq_none.mp

theorem readHost_name {scheme : String} (other : isSpecial scheme = false)
    {host : List Char} (named : ∀ c ∈ host, isHostChar c = true) (nonempty : host ≠ [])
    (port : UInt16) :
    readHost scheme (authorityText host port) = .ok (String.ofList host, some port.toNat, []) := by
  have digits : ∀ c ∈ (toString port).toList, decide (c ≠ '\\') = true := fun c mem =>
    decide_eq_true (ne_of_isHostChar (isHostChar_of_mem_toString mem) rfl)
  have taken : (toString port).toList.takeWhile (· ≠ '\\') = (toString port).toList :=
    List.takeWhile_eq_self_iff.mpr digits
  have left : (toString port).toList.dropWhile (· ≠ '\\') = [] :=
    List.dropWhile_eq_nil_iff.mpr digits
  have split : splitHost false (authorityText host port) = (host, ':' :: (toString port).toList) :=
    splitHost_name named (by simp)
  have present : String.ofList host ≠ "" := by simpa using nonempty
  simp only [readHost, split, readOpaqueHost_name named, other, taken, left, readPort_toString,
    lookup_webSchemes other]
  exact if_neg present

theorem of_mem_authorityText {host : List Char} (named : ∀ c ∈ host, isHostChar c = true)
    {port : UInt16} {c : Char} (mem : c ∈ authorityText host port) :
    isHostChar c = true ∨ c = ':' := by
  rw [authorityText, List.mem_append, List.mem_cons] at mem
  obtain mem | colon | mem := mem
  · exact .inl (named c mem)
  · exact .inr colon
  · exact .inl (isHostChar_of_mem_toString mem)

theorem splitAtLast?_of_not_mem {mark : Char} {cs : List Char} (free : mark ∉ cs) :
    splitAtLast? mark cs = none := by
  have whole : cs.reverse.takeWhile (· ≠ mark) = cs.reverse := by
    refine List.takeWhile_eq_self_iff.mpr fun c mem => decide_eq_true fun same => ?_
    exact free (same ▸ List.mem_reverse.mp mem)
  rw [splitAtLast?, whole, List.reverse_reverse]
  exact if_neg (Nat.lt_irrefl _)

/-- Whether characters are an authority, all of them. -/
structure IsAuthority (scheme : String) (cs : List Char) (authority : Authority) : Prop where
  visible : ∀ c ∈ cs, ' ' < c
  within : ∀ c ∈ cs, endsAuthority false c = false
  reads : ∀ followed, readAuthority scheme cs followed = .ok (authority, [])

/-- What comes after the authority is path and query. -/
theorem IsAuthority.readWithHost {scheme : String} (other : isSpecial scheme = false)
    {before : List Char} {authority : Authority} (whole : IsAuthority scheme before authority)
    {cs : List Char} (ends : ∀ c ∈ cs.head?, endsAuthority false c = true) :
    readWithHost scheme (before ++ cs) =
      .ok ⟨scheme, authority.username, authority.password, authority.host, authority.port,
        readPath false (splitQuery cs).1, (splitQuery cs).2⟩ := by
  have within : ∀ c ∈ before, (!endsAuthority false c) = true := fun c mem => by
    rw [whole.within c mem, Bool.not_false]
  have taken : (before ++ cs).takeWhile (!endsAuthority false ·) = before := by
    have none_after : cs.takeWhile (!endsAuthority false ·) = [] := by
      cases cs with
      | nil => rfl
      | cons c cs => exact List.takeWhile_cons_of_neg (by simp [ends c rfl])
    rw [List.takeWhile_append_of_pos within, none_after, List.append_nil]
  have left : (before ++ cs).dropWhile (!endsAuthority false ·) = cs := by
    rw [List.dropWhile_append_of_pos within]
    cases cs with
    | nil => rfl
    | cons c cs => exact List.dropWhile_cons_of_neg (by simp [ends c rfl])
  simp only [Url.readWithHost, other, taken, left, whole.reads]
  rfl

section

variable {scheme : String} {host : List Char} (other : isSpecial scheme = false)
  (named : ∀ c ∈ host, isHostChar c = true) (nonempty : host ≠ []) (port : UInt16)
include other named nonempty

theorem readAuthority_name (followed : Bool) :
    readAuthority scheme (authorityText host port) followed =
      .ok (⟨"", none, some (String.ofList host), some port.toNat⟩, []) := by
  have free : '@' ∉ authorityText host port := by
    intro mem
    obtain named | colon := of_mem_authorityText named mem
    · contradiction
    · contradiction
  have other_text : authorityText host port ≠ ['@'] := fun eq => free (by simp [eq])
  have present : String.ofList host ≠ "" := by simpa using nonempty
  have nobody : readUser [] = ("", none) := rfl
  simp only [readAuthority, splitAtLast?_of_not_mem free, Option.getD_none, nobody,
    readHost_name other named nonempty, other_text]
  simp [bind, Except.bind, pure, Except.pure, present]

theorem isAuthority_name : IsAuthority scheme (authorityText host port)
    ⟨"", none, some (String.ofList host), some port.toNat⟩ := by
  refine ⟨fun c mem => ?_, fun c mem => ?_, readAuthority_name other named nonempty port⟩
  all_goals obtain named | rfl := of_mem_authorityText named mem
  · exact lt_of_isHostChar named
  · decide
  · exact not_endsAuthority_of_isHostChar named
  · rfl

end

/-! ## Paths behind a host -/

theorem splitHost_suffix (inside : Bool) (cs : List Char) : (splitHost inside cs).2 <:+ cs := by
  induction cs generalizing inside with
  | nil => exact List.suffix_rfl
  | cons c rest ih =>
    rw [splitHost]
    split
    · exact List.suffix_rfl
    · exact (ih _).trans (List.suffix_cons c rest)

theorem suffix_of_readHost {scheme : String} {cs left : List Char} {host : String}
    {port : Option Nat} (read : readHost scheme cs = .ok (host, port, left)) : left <:+ cs := by
  have after := splitHost_suffix false cs
  simp only [readHost] at read
  split at read
  · contradiction
  -- domain names and opaque hosts are followed by the same checks
  split at read
  all_goals
    obtain ⟨found, -, read⟩ := bind_eq_ok.mp read
    split at read
    · cases read
      exact List.nil_suffix
    · next c rest eq =>
      split at read
      · contradiction
      obtain ⟨_, -, read⟩ := bind_eq_ok.mp read
      cases read
      rw [eq] at after
      exact (List.dropWhile_suffix _).trans ((List.suffix_cons c rest).trans after)

theorem suffix_of_readAuthority {scheme : String} {cs left : List Char} {followed : Bool}
    {authority : Authority} (read : readAuthority scheme cs followed = .ok (authority, left)) :
    left <:+ cs := by
  have after : ((splitAtLast? '@' cs).getD ([], cs)).2 <:+ cs := by
    rw [splitAtLast?]
    split
    · rw [← List.reverse_prefix, Option.getD_some, List.reverse_reverse]
      exact List.takeWhile_prefix _
    · exact List.suffix_rfl
  simp only [readAuthority] at read
  split at read
  · contradiction
  obtain ⟨⟨host, port, found⟩, host_read, read⟩ := bind_eq_ok.mp read
  simp only at read
  split at read
  · contradiction
  · cases read
    exact (suffix_of_readHost host_read).trans after

/-- A path stands for one byte more than it is read from, at most. -/
theorem length_unescape_readPath_le (cs : List Char) :
    (unescape (readPath false cs).toList).length ≤ (cs.flatMap String.utf8EncodeChar).length + 1 := by
  have normal_le (cs : List Char) : (unescape (normalPath cs)).length ≤
      (cs.flatMap String.utf8EncodeChar).length + 1 := by
    have path_le := length_unescape_normalPath_le cs
    have bytes_le := length_unescape_le cs
    omega
  rw [readPath]
  split
  · exact Nat.zero_le _
  · next rest eq =>
    have eq : cs = '/' :: rest := eq
    rw [eq, String.toList_ofList, List.flatMap_cons, List.length_append]
    exact Nat.le_trans (normal_le rest) (by omega)
  · rw [String.toList_ofList]
    exact normal_le cs

theorem splitQuery_fst (cs : List Char) :
    (splitQuery cs).1 = cs.takeWhile fun c => c ≠ '?' && c ≠ '#' := by
  simp only [splitQuery]
  split <;> rfl

theorem length_path_of_readWithHost {scheme : String} (other : isSpecial scheme = false)
    {cs : List Char} {url : Url} (read : readWithHost scheme cs = .ok url) :
    (unescape url.path.toList).length ≤ (cs.flatMap String.utf8EncodeChar).length + 1 := by
  simp only [readWithHost] at read
  obtain ⟨⟨authority, left⟩, authority_read, read⟩ := bind_eq_ok.mp read
  cases read
  have within : (left ++ cs.dropWhile (!endsAuthority (isSpecial scheme) ·)).Sublist cs := by
    have appended := (suffix_of_readAuthority authority_read).sublist.append
      (List.Sublist.refl (cs.dropWhile (!endsAuthority (isSpecial scheme) ·)))
    rwa [List.takeWhile_append_dropWhile] at appended
  have path_within := (List.takeWhile_sublist fun c => c ≠ '?' && c ≠ '#').trans within
  rw [← splitQuery_fst, other] at path_within
  rw [other]
  exact Nat.le_trans (length_unescape_readPath_le _)
    (Nat.add_le_add_right (length_bytes_le_of_sublist path_within) 1)

/-! ## Whole URLs -/

/-- A scheme that is read as it is written, of URLs that need no host. -/
structure PlainScheme (scheme : String) : Prop where
  nonempty : scheme.toList ≠ []
  visible : ∀ c ∈ scheme.toList, ' ' < c
  reads : ∀ rest, readScheme (scheme.toList ++ ':' :: rest) = some (scheme, rest)
  other : isSpecial scheme = false

/-- The letters of a scheme's name, in lower case. -/
theorem plainScheme_of_letters {scheme : String} {c : Char} {letters : List Char}
    (spelled : scheme.toList = c :: letters) (all : (c :: letters).all Char.isLower = true)
    (other : isSpecial scheme = false) : PlainScheme scheme := by
  have all := List.all_eq_true.mp all
  have bounds {d : Char} (mem : d ∈ c :: letters) : 97 ≤ d.toNat ∧ d.toNat ≤ 122 :=
    toNat_of_isLower (all d mem)
  have letter {d : Char} (mem : d ∈ c :: letters) : d.isAlpha = true := by
    change (d.isUpper || d.isLower) = true
    rw [all d mem, Bool.or_true]
  have lower : (c :: letters).map Char.toLower = c :: letters := by
    refine (List.map_congr_left fun d mem => ?_).trans (List.map_id _)
    have := bounds mem
    refine dif_neg ?_
    rintro ⟨-, high⟩
    have high : d.toNat ≤ 90 := high
    omega
  refine ⟨by simp [spelled], fun d mem => ?_, fun rest => ?_, other⟩
  · have := bounds (spelled ▸ mem)
    exact show 32 < d.toNat by omega
  · rw [spelled, readScheme_append (letter List.mem_cons_self) (fun d mem => ?_), lower, ← spelled,
      String.ofList_toList]
    rw [isSchemeChar, Char.isAlphanum, letter mem, Bool.true_or, Bool.true_or, Bool.true_or,
      Bool.true_or]

theorem plainScheme_name (kind : DatabaseKind) : PlainScheme kind.name := by
  cases kind with
  | postgresql => exact plainScheme_of_letters rfl (by decide) (by decide)
  | mysql => exact plainScheme_of_letters rfl (by decide) (by decide)
  | sqlite => exact plainScheme_of_letters rfl (by decide) (by decide)

namespace PlainScheme

variable {scheme : String} (plain : PlainScheme scheme)
include plain

theorem ne_file : scheme ≠ "file" := by
  rintro rfl
  exact absurd plain.other (by decide)

theorem significant (rest : List Char) :
    Url.significant (scheme.toList ++ ':' :: rest) = scheme.toList ++ ':' :: counting rest := by
  have visible : ∀ c ∈ scheme.toList ++ [':'], ' ' < c :=
    List.forall_mem_append.mpr ⟨plain.visible, List.forall_mem_singleton.mpr (by decide)⟩
  have split (cs : List Char) : scheme.toList ++ ':' :: cs = scheme.toList ++ [':'] ++ cs := by simp
  obtain ⟨c, others, eq⟩ := List.exists_cons_of_ne_nil plain.nonempty
  have first : ' ' < c := plain.visible c (eq ▸ List.mem_cons_self)
  rw [split (counting rest), ← counting_of_visible visible, ← split, eq]
  exact significant_cons first _

theorem read_authority {before : List Char} {authority : Authority}
    (whole : IsAuthority scheme before authority) {body : List Char}
    (ends : ∀ c ∈ (counting body).head?, endsAuthority false c = true) {text : String}
    (eq : text.toList = scheme.toList ++ ':' :: '/' :: '/' :: (before ++ body)) :
    Url.read text = .ok ⟨scheme, authority.username, authority.password, authority.host,
      authority.port, readPath false (splitQuery (counting body)).1,
      (splitQuery (counting body)).2⟩ := by
  have visible : ∀ c ∈ '/' :: '/' :: before, ' ' < c :=
    List.forall_mem_cons.mpr ⟨by decide, List.forall_mem_cons.mpr ⟨by decide, whole.visible⟩⟩
  have left : counting ('/' :: '/' :: (before ++ body)) =
      '/' :: '/' :: (before ++ counting body) := counting_of_visible visible body
  rw [Url.read, eq, plain.significant, plain.reads, left]
  simp only [plain.ne_file, plain.other, if_false]
  exact whole.readWithHost plain.other ends

/-- Without two slashes there is no host. -/
theorem read_local {body : List Char} (hostless : ¬['/', '/'] <+: counting body) {text : String}
    (eq : text.toList = scheme.toList ++ ':' :: body) :
    Url.read text = .ok ⟨scheme, "", none, none, none,
      if (splitQuery (counting body)).1.head? = some '/' then
        readPath false (splitQuery (counting body)).1
      else String.ofList (escape [] (splitQuery (counting body)).1),
      (splitQuery (counting body)).2⟩ := by
  rw [Url.read, eq, plain.significant, plain.reads]
  simp only [plain.ne_file, plain.other, if_false]
  rw [if_neg (by decide)]
  split
  · next rest eq =>
    rw [eq] at hostless
    exact absurd (List.prefix_append ['/', '/'] rest) hostless
  · rfl

/-- What comes after two slashes is no part of the path. -/
theorem length_path_of_slashes {body rest : List Char} (slashes : counting body = '/' :: '/' :: rest)
    {text : String} (eq : text.toList = scheme.toList ++ ':' :: body) {url : Url}
    (read : Url.read text = .ok url) :
    (unescape url.path.toList).length ≤ (rest.flatMap String.utf8EncodeChar).length + 1 := by
  rw [Url.read, eq, plain.significant, plain.reads, slashes] at read
  simp only [plain.ne_file, plain.other, if_false] at read
  exact length_path_of_readWithHost plain.other read

end PlainScheme

end Url
end ObjectQuery
