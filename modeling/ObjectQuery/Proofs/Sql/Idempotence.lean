/-
Renaming a renamed text changes nothing, unless a new name runs into the next one.

A renamed token is a quoted physical identifier.  No physical identifier reads as a logical one with
another target, so a second renaming leaves it alone, and it finds the table as the first did.  The
second renaming reads the text anew, though.  A bare word that stands directly next to a quoted
identifier becomes quoted itself, and the two are then read as one identifier.
-/
import ObjectQuery.Proofs.Sql.Agreement
import ObjectQuery.Proofs.Sql.Tokens

namespace ObjectQuery
namespace Sql

/-- Whether a rename is meant by a token. -/
def Rename.fits (rename : Rename) : Token → Bool
  | .quoted identifier _ => rename.logical.toList = identifier
  | .word source => Text.sameIgnoringAsciiCase rename.logical (String.ofList source)
  | _ => false

namespace Renaming

/-- The rename of a token, the first that fits. -/
def renameOf? (r : Renaming) (token : Token) : Option Rename :=
  r.renames.find? fun rename => rename.fits token

/-- The physical identifier of a rename, as a token. -/
def physicalToken (r : Renaming) (rename : Rename) : Token :=
  .quoted rename.physical.toList (quoteChars r.quoting.quote rename.physical.toList)

/-- The token that takes the place of a token. -/
def successor (r : Renaming) (token : Token) : Token :=
  ((r.renameOf? token).map r.physicalToken).getD token

/-- Whether two neighbours run together when they are renamed: a quoted identifier and a bare word
that becomes one. -/
def fuses (r : Renaming) : Token → Token → Bool
  | .quoted _ _, .word source => (r.renameOf? (.word source)).isSome
  | .word source, .quoted _ _ => (r.renameOf? (.word source)).isSome
  | _, _ => false

variable {r : Renaming} {token a b : Token} {tokens : List Token} {rename : Rename}
  {out : List Char} {named : Bool}

theorem successor_of_none (missing : r.renameOf? token = none) : r.successor token = token := by
  rw [successor, missing]
  rfl

theorem successor_of_some (found : r.renameOf? token = some rename) :
    r.successor token = r.physicalToken rename := by
  rw [successor, found]
  rfl

theorem mem_of_renameOf? (found : r.renameOf? token = some rename) : rename ∈ r.renames :=
  List.mem_of_find?_eq_some found

theorem fits_of_renameOf? (found : r.renameOf? token = some rename) : rename.fits token = true :=
  List.find?_some (p := fun other : Rename => other.fits token) found

/-- The table comes first, so its rename is the one of every token that it fits. -/
theorem renameOf?_of_table (fits : r.table.fits token = true) :
    r.renameOf? token = some r.table := by
  simp [renameOf?, renames, fits]

/-- No physical identifier reads as a logical one with another target. -/
theorem physical_eq_of_same (settled : rereadable? r.renames = none) {a b : Rename}
    (mem_a : a ∈ r.renames) (mem_b : b ∈ r.renames)
    (same : Text.sameIgnoringAsciiCase a.physical b.logical = true) :
    a.physical = b.physical := by
  have none_found := List.findSome?_eq_none_iff.mp settled a mem_a
  rw [Option.map_eq_none_iff, List.find?_eq_none] at none_found
  simpa [same] using none_found b mem_b

/-! ## Renaming once -/

theorem renameToken_of_none (missing : r.renameOf? token = none)
    (renamed : r.renameToken token = .ok (out, named)) : out = token.source := by
  cases token with
  | text => cases renamed; rfl
  | literal => cases renamed; rfl
  | quoted =>
    simp only [renameOf?, Rename.fits] at missing
    simp only [renameToken, missing] at renamed
    cases renamed; rfl
  | word =>
    simp only [renameOf?, Rename.fits] at missing
    simp only [renameToken, missing] at renamed
    cases renamed; rfl

/-- A token with a rename becomes a physical identifier, the table's if the token names it. -/
theorem renameToken_of_some (settled : rereadable? r.renames = none)
    (found : r.renameOf? token = some rename)
    (renamed : r.renameToken token = .ok (out, named)) :
    out = (r.physicalToken rename).source ∧
      (named = true → rename.physical = r.table.physical) := by
  have fits := fits_of_renameOf? found
  have of_table (fits : r.table.fits token = true) : rename.physical = r.table.physical := by
    rw [renameOf?_of_table fits, Option.some.injEq] at found
    rw [found]
  have first := found
  cases token with
  | text => contradiction
  | literal => contradiction
  | quoted identifier =>
    simp only [renameOf?, Rename.fits] at first
    simp only [renameToken, first] at renamed
    cases renamed
    refine ⟨rfl, fun names_table => ?_⟩
    simp only [Bool.or_eq_true, decide_eq_true_eq] at names_table
    rcases names_table with logical | physical
    · exact of_table (decide_eq_true logical.symm)
    -- Here the physical table reads as the logical identifier that was found.
    · have same : r.table.physical = rename.logical := by
        rw [← String.toList_inj, ← physical]
        exact (of_decide_eq_true fits).symm
      refine (physical_eq_of_same settled (.head _) (mem_of_renameOf? found) ?_).symm
      simp [same, Text.sameIgnoringAsciiCase]
  | word source =>
    simp only [renameOf?, Rename.fits] at first
    simp only [renameToken, first] at renamed
    split at renamed
    · contradiction
    · cases renamed
      exact ⟨rfl, of_table⟩

/-! ## Renaming again -/

theorem renameToken_physicalToken (settled : rereadable? r.renames = none)
    (mem : rename ∈ r.renames) :
    ∃ again, r.renameToken (r.physicalToken rename) =
        .ok ((r.physicalToken rename).source, again) ∧
      (rename.physical = r.table.physical → again = true) := by
  simp only [physicalToken, renameToken]
  split
  · next other found =>
    have same : other.logical = rename.physical :=
      String.toList_inj.mp (by simpa using List.find?_some found)
    -- The rename found need not be the one that was applied, but it leads to the same identifier.
    have kept : rename.physical = other.physical :=
      physical_eq_of_same settled mem (List.mem_of_find?_eq_some found)
        (by simp [same, Text.sameIgnoringAsciiCase])
    exact ⟨_, by rw [← kept]; rfl, fun table => by simp [table]⟩
  · exact ⟨_, rfl, fun table => by simp [table]⟩

/-- A renamed token is its successor, and renaming the successor changes nothing. -/
theorem renameToken_successor (settled : rereadable? r.renames = none)
    (renamed : r.renameToken token = .ok (out, named)) :
    out = (r.successor token).source ∧ ∃ again,
      r.renameToken (r.successor token) = .ok (out, again) ∧ (named = true → again = true) := by
  cases found : r.renameOf? token with
  | none =>
    rw [successor_of_none found]
    exact ⟨renameToken_of_none found renamed, named, renamed, id⟩
  | some rename =>
    rw [successor_of_some found]
    obtain ⟨rfl, table⟩ := renameToken_of_some settled found renamed
    obtain ⟨again, kept, table_again⟩ :=
      renameToken_physicalToken settled (mem_of_renameOf? found)
    exact ⟨rfl, again, kept, fun named => table_again (table named)⟩

theorem renameTokens_successors (settled : rereadable? r.renames = none)
    (renamed : r.renameTokens tokens = .ok (out, named)) :
    out = (tokens.map r.successor).flatMap Token.source ∧ ∃ again,
      r.renameTokens (tokens.map r.successor) = .ok (out, again) ∧
        (named = true → again = true) := by
  induction tokens generalizing out named with
  | nil => exact ⟨by cases renamed; rfl, named, renamed, id⟩
  | cons token rest ih =>
    obtain ⟨_, here, _, later, first, others, rfl, rfl⟩ := renameTokens_cons_eq_ok.mp renamed
    obtain ⟨source, here', first', named_here⟩ := renameToken_successor settled first
    obtain ⟨sources, later', others', named_later⟩ := ih others
    refine ⟨by rw [source, sources]; rfl, here' || later',
      renameTokens_cons_eq_ok.mpr ⟨_, _, _, _, first', others', rfl, rfl⟩, fun named => ?_⟩
    rw [Bool.or_eq_true] at named ⊢
    exact named.imp named_here named_later

/-! ## Reading the renamed text -/

section

variable (proper : r.quoting.Proper)

include proper

theorem stands_physicalToken (rename : Rename) : (r.physicalToken rename).Stands r.quoting :=
  (reads_quoteChars proper.ne_literal rename.physical.toList).stand _ (.head _)

theorem stands_successor (stands : token.Stands r.quoting) :
    (r.successor token).Stands r.quoting := by
  cases found : r.renameOf? token with
  | none => rwa [successor_of_none found]
  | some rename =>
    rw [successor_of_some found]
    exact stands_physicalToken proper rename

/-- No quoted identifier stands before a token that is renamed. -/
theorem isQuoted_before (stands : b.Stands r.quoting) (keeps : a.KeepsFrom r.quoting b)
    (apart : r.fuses a b = false) (found : r.renameOf? b = some rename) : a.isQuoted = false := by
  have fits := fits_of_renameOf? found
  cases b with
  | text => contradiction
  | literal => contradiction
  | quoted => exact keeps.isQuoted_eq_false proper stands rfl
  | word =>
    cases a with
    | text => rfl
    | literal => rfl
    | word => rfl
    | quoted => simp [fuses, found] at apart

/-- No quoted identifier stands behind a token that is renamed, nor is one put there. -/
theorem isQuoted_behind (stands : b.Stands r.quoting) (keeps : a.KeepsFrom r.quoting b)
    (apart : r.fuses a b = false) (found : r.renameOf? a = some rename) :
    (r.successor b).isQuoted = false := by
  have fits := fits_of_renameOf? found
  have fixed (steady : r.renameOf? b = none) (bare : b.isQuoted = false) :
      (r.successor b).isQuoted = false := by rwa [successor_of_none steady]
  cases a with
  | text => contradiction
  | literal => contradiction
  | quoted =>
    have bare : b.isQuoted = false := by
      by_contra quoted
      have before := keeps.isQuoted_eq_false proper stands (by simpa using quoted)
      contradiction
    refine fixed ?_ bare
    by_contra renamed
    obtain ⟨other, found_b⟩ := Option.ne_none_iff_exists'.mp renamed
    have before := isQuoted_before proper stands keeps apart found_b
    contradiction
  | word =>
    cases b with
    | text => exact fixed (List.find?_eq_none.mpr (by simp [Rename.fits])) rfl
    | literal => exact fixed (List.find?_eq_none.mpr (by simp [Rename.fits])) rfl
    | quoted => simp [fuses, found] at apart
    | word => exact (keeps.not_words stands).elim

/-- The successors of neighbours that do not fuse keep apart as well. -/
theorem keepsFrom_successor (stands : b.Stands r.quoting) (keeps : a.KeepsFrom r.quoting b)
    (apart : r.fuses a b = false) : (r.successor a).KeepsFrom r.quoting (r.successor b) := by
  cases found : r.renameOf? a with
  | some rename =>
    -- Only another quote would go on in the physical identifier.
    have bare := isQuoted_behind proper stands keeps apart found
    rw [successor_of_some found]
    refine fun c head => beq_eq_false_iff_ne.mpr fun same => ?_
    have quoted := ((stands_successor proper stands).isQuoted_iff proper.ne_literal).mpr
      (same ▸ head)
    simp [bare] at quoted
  | none =>
    rw [successor_of_none found]
    cases found_b : r.renameOf? b with
    | none => rwa [successor_of_none found_b]
    | some rename =>
      rw [successor_of_some found_b]
      intro c head
      have same : r.quoting.quote = c := by
        simpa [physicalToken, Token.source, quoteChars] using head
      rw [← same, Token.continues_quote proper]
      exact isQuoted_before proper stands keeps apart found_b

/-- The renamed text is read as the successors of its tokens. -/
theorem reads_successors {text : List Char} (reads : Token.Reads r.quoting text tokens)
    (apart : tokens.IsChain fun a b => r.fuses a b = false) :
    Token.Reads r.quoting ((tokens.map r.successor).flatMap Token.source)
      (tokens.map r.successor) := by
  obtain ⟨_, stand, keep⟩ := Token.reads_iff.mp reads
  refine Token.reads_iff.mpr ⟨rfl, ?_, ?_⟩
  · rw [List.forall_mem_map]
    exact fun token mem => stands_successor proper (stand token mem)
  · rw [List.isChain_map]
    rw [List.isChain_iff_forall_rel_of_append_cons_cons] at keep apart ⊢
    intro a b before behind split
    have mem : b ∈ tokens := by simp [split]
    exact keepsFrom_successor proper (stand b mem) (keep split) (apart split)

end

/-- A text is renamed token by token, and the table occurs in it. -/
theorem apply_eq_ok {text out : String} (renamed : r.apply text = .ok out) :
    ∃ tokens, Token.Reads r.quoting text.toList tokens ∧
      r.renameTokens tokens = .ok (out.toList, true) := by
  simp only [apply, Outcome.bind_eq_ok, Prod.exists] at renamed
  obtain ⟨tokens, split, source, named, first, result⟩ := renamed
  cases named with
  | false => contradiction
  | true =>
    obtain rfl : String.ofList source = out := Except.ok.inj result
    rw [String.toList_ofList]
    exact ⟨tokens, Token.split_eq_ok_iff.mp split, first⟩

/-- Renaming a renamed text again changes nothing where no tokens of the text fuse. -/
theorem apply_of_apply (proper : r.quoting.Proper) (settled : rereadable? r.renames = none)
    {text out : String} (apart : ∀ tokens, Token.split r.quoting text = .ok tokens →
      tokens.IsChain fun a b => r.fuses a b = false)
    (renamed : r.apply text = .ok out) : r.apply out = .ok out := by
  obtain ⟨tokens, reads, first⟩ := apply_eq_ok renamed
  obtain ⟨sources, again, second, table_again⟩ := renameTokens_successors settled first
  have reads_again := reads_successors proper reads (apart tokens (Token.split_eq_ok_iff.mpr reads))
  rw [← sources] at reads_again
  rw [apply, Token.split_eq_ok_iff.mpr reads_again, Outcome.ok_bind, second, table_again rfl]
  exact congrArg Except.ok String.ofList_toList

end Renaming

theorem Quoting.ofKind_proper (kind : DatabaseKind) : (Quoting.ofKind kind).Proper := by
  constructor <;> cases kind <;> decide +kernel

/-- A renderer's renaming has its dialect's quotes and has passed the check of its targets. -/
theorem Renderer.settled_of_renamingOf {renderer : Renderer} {objectType : String} {r : Renaming}
    (made : renderer.renamingOf objectType = .ok r) :
    r.quoting.Proper ∧ Renaming.rereadable? r.renames = none := by
  unfold renamingOf at made
  split at made
  · contradiction
  · split at made
    · contradiction
    · obtain ⟨same, _, settled⟩ := Renaming.ofMapping_eq_ok made
      exact ⟨same ▸ Quoting.ofKind_proper renderer.kind, settled⟩

/-- A renderer's renaming that has renamed a text leaves the renamed text as it is, unless a bare
word that was renamed stands directly next to a quoted identifier. -/
theorem Renderer.apply_renamed {renderer : Renderer} {objectType : String} {r : Renaming}
    {text out : String} (made : renderer.renamingOf objectType = .ok r)
    (apart : ∀ tokens, Token.split r.quoting text = .ok tokens →
      tokens.IsChain fun a b => r.fuses a b = false)
    (renamed : r.apply text = .ok out) : r.apply out = .ok out := by
  obtain ⟨proper, settled⟩ := settled_of_renamingOf made
  exact Renaming.apply_of_apply proper settled apart renamed

end Sql

namespace Cars

def names : Sql.Renaming :=
  ⟨⟨"Car", "CARS"⟩, [⟨"id", "VID"⟩, ⟨"plate", "PLATE_NO"⟩, ⟨"year", "YR"⟩], .ofKind .postgresql⟩

theorem renamingOf_car : renderer.renamingOf "Car" = .ok names :=
  Outcome.eq_ok_of_toOption (by decide +kernel)

end Cars
end ObjectQuery
