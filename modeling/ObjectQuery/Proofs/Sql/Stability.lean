/-
When renaming a renamed text changes nothing.

The second renaming reads the text anew, and quoted identifiers that have come to stand side by side
are then one.  Everything else is renamed no further.  So nothing changes exactly when no identifiers
run together to a logical one with another target and the table is still mentioned, by a token that
stands alone or by what identifiers have run together to (`apply_renamed_iff`).
-/
import ObjectQuery.Proofs.Sql.Refusal

namespace ObjectQuery
namespace Sql
namespace Renaming

/-- Whether the renamed text of some tokens is renamed no further. -/
structure Lasts (r : Renaming) (tokens : List Token) : Prop where
  kept : ∀ run ∈ r.runs tokens, 2 ≤ run.length → ∀ rename ∈ r.renames,
    rename.logical.toList = Token.joined r.quoting.quote run → rename.physical = rename.logical
  table : ∃ run ∈ r.runs tokens, r.mentions (Token.fused r.quoting.quote run) = true

instance (r : Renaming) (tokens : List Token) : Decidable (r.Lasts tokens) :=
  decidable_of_iff
    ((∀ run ∈ r.runs tokens, 2 ≤ run.length → ∀ rename ∈ r.renames,
      rename.logical.toList = Token.joined r.quoting.quote run → rename.physical = rename.logical) ∧
      ∃ run ∈ r.runs tokens, r.mentions (Token.fused r.quoting.quote run) = true)
    ⟨fun ⟨kept, table⟩ => ⟨kept, table⟩, fun lasts => ⟨lasts.kept, lasts.table⟩⟩

variable {r : Renaming} {token next : Token} {tokens run : List Token} {identifier : List Char}
  {text out : String}

/-! ## What is renamed no further -/

/-- A logical identifier that another one leads to is its own target. -/
theorem physical_eq_logical (settled : rereadable? r.renames = none) {a b : Rename}
    (mem_a : a ∈ r.renames) (mem_b : b ∈ r.renames) (same : a.physical = b.logical) :
    b.physical = b.logical := by
  have target : a.physical = b.physical :=
    physical_eq_of_same settled mem_a mem_b (by simp [same, Text.sameIgnoringAsciiCase])
  rw [← target, same]

/-- An identifier is kept if it is no logical one with another target. -/
theorem successor_quoted_iff (settled : rereadable? r.renames = none) :
    r.successor (.quoted identifier (quoteChars r.quoting.quote identifier)) =
        .quoted identifier (quoteChars r.quoting.quote identifier) ↔
      ∀ rename ∈ r.renames, rename.logical.toList = identifier →
        rename.physical = rename.logical := by
  cases found : r.renameOf? (.quoted identifier (quoteChars r.quoting.quote identifier)) with
  | none =>
    rw [successor_of_none found]
    have unfit := List.find?_eq_none.mp found
    exact iff_of_true rfl fun rename mem same => (unfit rename mem (decide_eq_true same)).elim
  | some rename =>
    have logical : rename.logical.toList = identifier :=
      of_decide_eq_true (fits_of_renameOf? found)
    subst logical
    rw [successor_of_some found, physicalToken]
    constructor
    · intro same other mem spelled
      have unchanged : rename.physical = rename.logical :=
        String.toList_inj.mp (Token.quoted.inj same).1
      have logical : other.logical = rename.logical := String.toList_inj.mp spelled
      -- The rename that was found keeps the identifier, and no other one may lead elsewhere.
      exact physical_eq_logical settled (mem_of_renameOf? found) mem
        (unchanged.trans logical.symm)
    · intro kept
      rw [kept rename (mem_of_renameOf? found) rfl]

theorem successor_successor (settled : rereadable? r.renames = none) (token : Token) :
    r.successor (r.successor token) = r.successor token := by
  cases found : r.renameOf? token with
  | none => rw [successor_of_none found, successor_of_none found]
  | some rename =>
    rw [successor_of_some found]
    refine (successor_quoted_iff settled).mpr fun other mem spelled => ?_
    have logical : other.logical = rename.physical := String.toList_inj.mp spelled
    exact physical_eq_logical settled (mem_of_renameOf? found) mem logical.symm

/-- A token that stands alone is kept, and identifiers that run together are kept unless they make a
logical one with another target. -/
theorem successor_fused_iff (settled : rereadable? r.renames = none) (mem : run ∈ r.runs tokens) :
    r.successor (Token.fused r.quoting.quote run) = Token.fused r.quoting.quote run ↔
      (2 ≤ run.length → ∀ rename ∈ r.renames,
        rename.logical.toList = Token.joined r.quoting.quote run →
          rename.physical = rename.logical) := by
  obtain ⟨alone, rfl⟩ | ⟨a, b, rest, rfl, -⟩ := Token.alone_or_quoted mem
  · obtain ⟨token, -, rfl⟩ := List.mem_map.mp (Token.mem_of_mem_runs mem (.head _))
    exact iff_of_true (successor_successor settled token) (by simp)
  · have long : 2 ≤ (a :: b :: rest).length := by simp
    rw [imp_iff_right long]
    exact successor_quoted_iff settled

/-! ## Renaming a text whose words are no logical identifiers -/

/-- Whether a token is anything but a bare word that is renamed. -/
def Passes (r : Renaming) (token : Token) : Prop :=
  token.isQuoted = true ∨ r.renameOf? token = none

/-- No bare word of a renamed text is a logical identifier. -/
theorem passes_fused (mem : run ∈ r.runs tokens) : r.Passes (Token.fused r.quoting.quote run) := by
  obtain ⟨alone, rfl⟩ | ⟨a, b, rest, rfl, -⟩ := Token.alone_or_quoted mem
  · obtain ⟨token, -, rfl⟩ := List.mem_map.mp (Token.mem_of_mem_runs mem (.head _))
    cases found : r.renameOf? token with
    | none => exact .inr (by rwa [successor_of_none found])
    | some rename => exact .inl (by rw [successor_of_some found]; rfl)
  · exact .inl rfl

theorem readsLogical_eq_false {source : List Char} (missing : r.renameOf? (.word source) = none) :
    r.readsLogical (String.ofList source) = false := by
  have spared : r.spares (.word source) = true := by simp [spares, Token.isQuoted, missing]
  rwa [spares_word, Bool.not_eq_true'] at spared

theorem clashes_eq_false (passes : r.Passes token) : r.clashes token = false := by
  cases token with
  | word source =>
    obtain quoted | missing := passes
    · contradiction
    · simp [clashes, Token.word?, readsLogical_eq_false missing]
  | _ => rfl

theorem mistakes_eq_false (passes : r.Passes token) : r.mistakes token = false := by
  cases token with
  | word source =>
    obtain quoted | missing := passes
    · contradiction
    · have unread := readsLogical_eq_false missing
      rw [readsLogical, renames, List.any_cons, Bool.or_eq_false_iff] at unread
      have no_column : (r.columns.any fun column =>
          (Token.word source).spells column.logical) = false := unread.2
      rw [mistakes, no_column, Bool.and_false]
  | _ => rfl

/-- Neighbours do not fuse where no bare word is renamed. -/
theorem fuses_eq_false (passes : r.Passes token) (next_passes : r.Passes next) :
    r.fuses token next = false := by
  cases token with
  | quoted =>
    cases next with
    | word =>
      have missing := next_passes.resolve_left Bool.false_ne_true
      rw [fuses, missing, Option.isSome_none]
    | _ => rfl
  | word =>
    cases next with
    | quoted =>
      have missing := passes.resolve_left Bool.false_ne_true
      rw [fuses, missing, Option.isSome_none]
    | _ => rfl
  | _ => rfl

/-- A text whose words are no logical identifiers is left as it is exactly if each of its quoted
identifiers is kept and the table is mentioned. -/
theorem apply_eq_self_iff (proper : r.quoting.Proper) (settled : rereadable? r.renames = none)
    (reads : Token.Reads r.quoting text.toList tokens) (pass : ∀ token ∈ tokens, r.Passes token) :
    r.apply text = .ok text ↔ (∀ token ∈ tokens, r.successor token = token) ∧
      ∃ token ∈ tokens, r.mentions token = true := by
  have split := Token.split_eq_ok_iff.mpr reads
  cases done : r.renameTokens tokens with
  | error e =>
    obtain ⟨token, mem, clash⟩ := (r.renameTokens_failsIff tokens).iff.mp ⟨e, done⟩
    rw [clashes_eq_false (pass token mem)] at clash
    contradiction
  | ok pair =>
    obtain ⟨renamed, named⟩ := pair
    have seen : named = true ↔ ∃ token ∈ tokens, r.mentions token = true := by
      rw [named_of_renameTokens done, List.any_eq_true]
      exact exists_congr fun token => and_congr_right fun mem => by
        rw [mistakes_eq_false (pass token mem), Bool.not_false, Bool.and_true]
    have kept : renamed = text.toList ↔ ∀ token ∈ tokens, r.successor token = token := by
      have sources := (renameTokens_successors settled done).1
      have fixed : tokens.map r.successor = tokens ↔ ∀ token ∈ tokens, r.successor token = token := by
        simpa using List.map_inj_left (f := r.successor) (g := id) (l := tokens)
      rw [← fixed]
      constructor
      · intro same
        -- No words are renamed, so the text is read as the successors, and it is read in one way.
        have apart : tokens.IsChain fun a b => r.fuses a b = false := by
          refine List.isChain_iff_forall_rel_of_append_cons_cons.mpr fun a b before behind whole => ?_
          exact fuses_eq_false (pass a (by simp [whole])) (pass b (by simp [whole]))
        have reads_again := reads_successors proper reads apart
        rw [← sources, same, ← Token.split_eq_ok_iff, split] at reads_again
        exact (Except.ok.inj reads_again).symm
      · intro same
        rw [sources, same, reads.sources]
    rw [← kept, ← seen, apply, split, Outcome.ok_bind, done, Outcome.ok_bind]
    cases named with
    | false => simp
    | true =>
      rw [and_iff_left rfl]
      show Except.ok (String.ofList renamed) = Except.ok text ↔ _
      rw [Except.ok.injEq, ← String.toList_inj, String.toList_ofList]

/-- A renamed text is renamed no further exactly if its tokens last. -/
theorem apply_of_apply_iff (proper : r.quoting.Proper) (settled : rereadable? r.renames = none)
    (reads : Token.Reads r.quoting text.toList tokens)
    (done : r.renameTokens tokens = .ok (out.toList, true)) :
    r.apply out = .ok out ↔ r.Lasts tokens := by
  have pass : ∀ token ∈ (r.runs tokens).map (Token.fused r.quoting.quote), r.Passes token := by
    rw [List.forall_mem_map]
    exact fun run mem => passes_fused mem
  rw [apply_eq_self_iff proper settled (reads_runs proper settled reads done) pass,
    List.forall_mem_map]
  simp only [List.mem_map, exists_exists_and_eq_and]
  constructor
  · rintro ⟨kept, table⟩
    exact ⟨fun run mem => (successor_fused_iff settled mem).mp (kept run mem), table⟩
  · rintro ⟨kept, table⟩
    exact ⟨fun run mem => (successor_fused_iff settled mem).mpr (kept run mem), table⟩

end Renaming

/-- A renderer's renaming that has renamed a text leaves the renamed text as it is exactly if no
identifiers of it have run together to a logical one with another target and the table is mentioned.
So it does where no bare word that was renamed stands directly next to a quoted identifier. -/
theorem Renderer.apply_renamed_iff {renderer : Renderer} {objectType : String} {r : Renaming}
    {text out : String} (made : renderer.renamingOf objectType = .ok r)
    (renamed : r.apply text = .ok out) :
    ∃ tokens, Token.split r.quoting text = .ok tokens ∧
      (r.apply out = .ok out ↔ r.Lasts tokens) ∧
      (tokens.IsChain (fun a b => r.fuses a b = false) → r.Lasts tokens) := by
  obtain ⟨proper, settled⟩ := settled_of_renamingOf made
  obtain ⟨tokens, reads, done⟩ := Renaming.apply_eq_ok renamed
  have split := Token.split_eq_ok_iff.mpr reads
  have lasts := Renaming.apply_of_apply_iff proper settled reads done
  refine ⟨tokens, split, lasts, fun apart => lasts.mp (apply_renamed made ?_ renamed)⟩
  intro others split'
  obtain rfl := Except.ok.inj (split.symm.trans split')
  exact apart

end Sql

namespace Cars

/-- A table with an alias, a blank between them. -/
def aliasText : String := "SELECT plate FROM Car \"c\" WHERE \"note\" = 'Car''s'"

def aliasRenamed : String := "SELECT \"PLATE_NO\" FROM \"CARS\" \"c\" WHERE \"note\" = 'Car''s'"

/-- A table next to an alias, and the table by itself. -/
def pairText : String := "SELECT plate FROM Car\"c\", Car"

def pairRenamed : String := "SELECT \"PLATE_NO\" FROM \"CARS\"\"c\", \"CARS\""

theorem apply_aliasRenamed :
    names.apply aliasText = .ok aliasRenamed ∧ names.apply aliasRenamed = .ok aliasRenamed ∧
      names.apply pairText = .ok pairRenamed ∧ names.apply pairRenamed = .ok pairRenamed := by
  have renamed : names.apply aliasText = .ok aliasRenamed :=
    Outcome.eq_ok_of_toOption (by decide +kernel)
  have pair : names.apply pairText = .ok pairRenamed :=
    Outcome.eq_ok_of_toOption (by decide +kernel)
  obtain ⟨tokens, split, again, apart⟩ := Sql.Renderer.apply_renamed_iff renamingOf_car renamed
  obtain ⟨tokens', split', again', _⟩ := Sql.Renderer.apply_renamed_iff renamingOf_car pair
  have all_apart : (Sql.Token.split names.quoting aliasText).toOption.all fun tokens =>
      decide (tokens.IsChain fun a b => names.fuses a b = false) := by decide +kernel
  have all_last : (Sql.Token.split names.quoting pairText).toOption.all fun tokens =>
      decide (names.Lasts tokens) := by decide +kernel
  rw [split] at all_apart
  rw [split'] at all_last
  exact ⟨renamed, again.mpr (apart (of_decide_eq_true all_apart)), pair,
    again'.mpr (of_decide_eq_true all_last)⟩

/-- Without the blank, the table and its alias become one identifier, and the table is gone. -/
theorem apply_fused :
    renderer.renamingOf "Car" = .ok names ∧
      names.apply "SELECT plate FROM Car\"c\"" = .ok "SELECT \"PLATE_NO\" FROM \"CARS\"\"c\"" ∧
      names.apply "SELECT \"PLATE_NO\" FROM \"CARS\"\"c\"" ≠
        .ok "SELECT \"PLATE_NO\" FROM \"CARS\"\"c\"" := by
  refine ⟨renamingOf_car, Outcome.eq_ok_of_toOption (by decide +kernel), fun same => ?_⟩
  have refused : (names.apply "SELECT \"PLATE_NO\" FROM \"CARS\"\"c\"").toOption = none := by
    decide +kernel
  rw [same] at refused
  contradiction

end Cars
end ObjectQuery
