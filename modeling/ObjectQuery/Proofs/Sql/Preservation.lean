/-
What a renaming keeps of a text.

A renamed text is read as the successors of its tokens, but where two quoted identifiers come to
stand side by side they are read as one.  Nothing else can run together: an inserted identifier
opens and closes its own quotes, and whatever is not quoted still ends where it ended.  So literals,
plain text and the words that are no logical identifiers are read again as they were.
-/
import ObjectQuery.Proofs.Sql.Idempotence
import ObjectQuery.Proofs.Sql.Runs

namespace ObjectQuery
namespace Sql
namespace Token

/-- Whether a token is plain text or a literal. -/
def isVerbatim : Token → Bool
  | .text _ => true
  | .literal _ => true
  | _ => false

def word? : Token → Option String
  | .word source => some (String.ofList source)
  | _ => none

end Token

namespace Renaming

variable {r : Renaming} {token a b : Token} {tokens : List Token} {text out : String}

/-- Whether a token is neither quoted nor renamed. -/
def spares (r : Renaming) (token : Token) : Bool := !token.isQuoted && (r.renameOf? token).isNone

/-- Whether a word reads as a logical identifier. -/
def readsLogical (r : Renaming) (word : String) : Bool :=
  r.renames.any fun rename => Text.sameIgnoringAsciiCase rename.logical word

@[simp] theorem spares_text (source : List Char) : r.spares (.text source) = true := by
  simp [spares, Token.isQuoted, renameOf?, Rename.fits]

@[simp] theorem spares_literal (source : List Char) : r.spares (.literal source) = true := by
  simp [spares, Token.isQuoted, renameOf?, Rename.fits]

@[simp] theorem spares_quoted (identifier source : List Char) :
    r.spares (.quoted identifier source) = false := rfl

@[simp] theorem spares_word (source : List Char) :
    r.spares (.word source) = !r.readsLogical (String.ofList source) := by
  rw [readsLogical, ← List.isSome_find?, Option.not_isSome]
  rfl

theorem isQuoted_successor (token : Token) :
    (r.successor token).isQuoted = (token.isQuoted || (r.renameOf? token).isSome) := by
  cases found : r.renameOf? token with
  | none => rw [successor_of_none found, Option.isSome_none, Bool.or_false]
  | some rename => rw [successor_of_some found, Option.isSome_some, Bool.or_true]; rfl

/-- The successors of neighbours meet, also where they fuse. -/
theorem meets_successor (proper : r.quoting.Proper) (stands : b.Stands r.quoting)
    (keeps : a.KeepsFrom r.quoting b) : (r.successor a).Meets r.quoting (r.successor b) := by
  by_cases apart : r.fuses a b = false
  · exact .inl (keepsFrom_successor proper stands keeps apart)
  · refine .inr ?_
    rw [isQuoted_successor, isQuoted_successor]
    cases a with
    | text => simp [fuses] at apart
    | literal => simp [fuses] at apart
    | quoted =>
      cases b with
      | word => simpa [fuses, Token.isQuoted, Option.isSome_iff_ne_none] using apart
      | _ => simp [fuses] at apart
    | word =>
      cases b with
      | quoted => simpa [fuses, Token.isQuoted, Option.isSome_iff_ne_none] using apart
      | _ => simp [fuses] at apart

theorem filter_successors (tokens : List Token) :
    (tokens.map r.successor).filter (!·.isQuoted) = tokens.filter r.spares := by
  induction tokens with
  | nil => rfl
  | cons token rest ih =>
    rw [List.map_cons, List.filter_cons, List.filter_cons, ih, isQuoted_successor, spares]
    cases found : r.renameOf? token with
    | none => simp [successor_of_none found]
    | some rename => simp

/-- What the tokens of a text become, in runs. -/
def runs (r : Renaming) (tokens : List Token) : List (List Token) :=
  Token.runs (tokens.map r.successor)

/-- A renamed text is read as the runs of what its tokens have become. -/
theorem reads_runs (proper : r.quoting.Proper) (settled : rereadable? r.renames = none)
    {cs renamed : List Char} {named : Bool} (reads : Token.Reads r.quoting cs tokens)
    (done : r.renameTokens tokens = .ok (renamed, named)) :
    Token.Reads r.quoting renamed ((r.runs tokens).map (Token.fused r.quoting.quote)) := by
  obtain ⟨_, stand, keep⟩ := Token.reads_iff.mp reads
  have meet : (tokens.map r.successor).IsChain (Token.Meets r.quoting) := by
    rw [List.isChain_map]
    rw [List.isChain_iff_forall_rel_of_append_cons_cons] at keep ⊢
    intro a b before behind split
    exact meets_successor proper (stand b (by simp [split])) (keep split)
  have stand_after : ∀ token ∈ tokens.map r.successor, token.Stands r.quoting := by
    rw [List.forall_mem_map]
    exact fun token mem => stands_successor proper (stand token mem)
  rw [(renameTokens_successors settled done).1]
  exact Token.reads_runs proper stand_after meet

/-- A renamed text is read as the tokens that were not renamed, with quoted identifiers between
them. -/
theorem exists_reads_of_apply (proper : r.quoting.Proper) (settled : rereadable? r.renames = none)
    (renamed : r.apply text = .ok out) :
    ∃ tokens read, Token.Reads r.quoting text.toList tokens ∧
      Token.Reads r.quoting out.toList read ∧
      read.filter (!·.isQuoted) = tokens.filter r.spares := by
  obtain ⟨tokens, reads, done⟩ := apply_eq_ok renamed
  exact ⟨tokens, _, reads, reads_runs proper settled reads done,
    (Token.filter_runs _ _).trans (filter_successors tokens)⟩

theorem filter_isVerbatim (tokens : List Token) :
    (tokens.filter r.spares).filter Token.isVerbatim = tokens.filter Token.isVerbatim := by
  rw [List.filter_filter]
  refine List.filter_congr fun token _ => ?_
  cases token <;> simp [Token.isVerbatim]

theorem filterMap_word? (tokens : List Token) :
    (tokens.filter r.spares).filterMap Token.word? =
      (tokens.filterMap Token.word?).filter fun word => !r.readsLogical word := by
  induction tokens with
  | nil => rfl
  | cons token rest ih =>
    cases token with
    | text source =>
      rw [List.filter_cons_of_pos (spares_text source)]
      exact ih
    | literal source =>
      rw [List.filter_cons_of_pos (spares_literal source)]
      exact ih
    | quoted identifier source =>
      rw [List.filter_cons_of_neg (by simp)]
      exact ih
    | word source =>
      rw [List.filter_cons, List.filterMap_cons_some (f := Token.word?) rfl, List.filter_cons,
        spares_word, ← ih]
      split
      · rfl
      · rfl

end Renaming

/-- A text that a renderer has renamed is split into tokens again.  Its literals and its plain text
are those of the text before, in order, and its bare words are those that read as no logical
identifier. -/
theorem Renderer.split_apply {renderer : Renderer} {objectType : String} {r : Renaming}
    {text out : String} (made : renderer.renamingOf objectType = .ok r)
    (renamed : r.apply text = .ok out) :
    ∃ tokens read, Token.split r.quoting text = .ok tokens ∧ Token.split r.quoting out = .ok read ∧
      read.filter Token.isVerbatim = tokens.filter Token.isVerbatim ∧
      read.filterMap Token.word? =
        (tokens.filterMap Token.word?).filter fun word => !r.readsLogical word := by
  obtain ⟨proper, settled⟩ := settled_of_renamingOf made
  obtain ⟨tokens, read, reads, again, kept⟩ := Renaming.exists_reads_of_apply proper settled renamed
  refine ⟨tokens, read, Token.split_eq_ok_iff.mpr reads, Token.split_eq_ok_iff.mpr again, ?_, ?_⟩
  · rw [← Renaming.filter_isVerbatim (r := r) tokens, ← kept, List.filter_filter]
    refine List.filter_congr fun token _ => ?_
    cases token <;> rfl
  · rw [← Renaming.filterMap_word?, ← kept, List.filterMap_filter]
    refine List.filterMap_congr fun token _ => ?_
    cases token <;> rfl

end Sql

namespace Cars

/-- A table directly in front of its alias, and names in places where nothing is renamed. -/
def fusedText : String := "SELECT PLATE, 7plate FROM Car\"c\" WHERE \"note\" = 'Car''s \"plate'"

def fusedRenamed : String :=
  "SELECT \"PLATE_NO\", 7plate FROM \"CARS\"\"c\" WHERE \"note\" = 'Car''s \"plate'"

theorem split_fusedRenamed :
    renderer.renamingOf "Car" = .ok names ∧ names.apply fusedText = .ok fusedRenamed ∧
      ∃ tokens read, Sql.Token.split names.quoting fusedText = .ok tokens ∧
        Sql.Token.split names.quoting fusedRenamed = .ok read ∧
        read.filter Sql.Token.isVerbatim = tokens.filter Sql.Token.isVerbatim ∧
        read.filterMap Sql.Token.word? =
          (tokens.filterMap Sql.Token.word?).filter fun word => !names.readsLogical word := by
  have renamed : names.apply fusedText = .ok fusedRenamed :=
    Outcome.eq_ok_of_toOption (by decide +kernel)
  exact ⟨renamingOf_car, renamed, Sql.Renderer.split_apply renamingOf_car renamed⟩

end Cars
end ObjectQuery
