/-
When a renaming refuses a text.

A text is refused when it cannot be read, when one of its keywords reads as a logical identifier, or
when it does not mention the table.  There is one more reason.  A bare word that is the physical
table may also read as a logical column, which is renamed to the same identifier.  Such a word is
taken for the column, and where no other word mentions the table, the text is refused as if the
table did not occur.  In quotes the same identifier counts as the table.
-/
import ObjectQuery.Proofs.Sql.Preservation
import ObjectQuery.Proofs.Sql.Unterminated

namespace ObjectQuery
namespace Sql

/-- Whether a token is an identifier: a bare word up to the case of ASCII letters, a quoted one
exactly. -/
def Token.spells (identifier : String) : Token → Bool
  | .quoted written _ => identifier.toList = written
  | .word source => Text.sameIgnoringAsciiCase identifier (String.ofList source)
  | _ => false

namespace Renaming

/-- Whether a token is the table, by its logical or its physical identifier. -/
def mentions (r : Renaming) (token : Token) : Bool :=
  token.spells r.table.logical || token.spells r.table.physical

/-- Whether a token is a bare word that is taken for a column: it is a logical column and not the
logical table. -/
def mistakes (r : Renaming) (token : Token) : Bool :=
  token.word?.isSome && !token.spells r.table.logical &&
    r.columns.any fun column => token.spells column.logical

/-- Whether a token is a keyword that reads as a logical identifier. -/
def clashes (r : Renaming) (token : Token) : Bool :=
  token.word?.any fun word =>
    keywords.any (Text.sameIgnoringAsciiCase · word) && r.readsLogical word

/-- The documented reasons to refuse a text. -/
inductive HasReason (r : Renaming) (text : String) : Prop
  | unterminated {what : Token.Unterminated} {before : List Char}
      (breaks : Token.BreaksOff r.quoting what before text.toList) : HasReason r text
  | keyword {tokens : List Token} (split : Token.split r.quoting text = .ok tokens)
      (clash : ∃ token ∈ tokens, r.clashes token = true) : HasReason r text
  | missing {tokens : List Token} (split : Token.split r.quoting text = .ok tokens)
      (absent : ∀ token ∈ tokens, r.mentions token = false) : HasReason r text

/-- Whether a text that there is no reason to refuse mentions the table by words alone that are
taken for columns. -/
def Overlooks (r : Renaming) (text : String) : Prop :=
  ¬r.HasReason text ∧ ∃ tokens, Token.split r.quoting text = .ok tokens ∧
    ∀ token ∈ tokens, r.mentions token = true → r.mistakes token = true

variable {r : Renaming} {token : Token} {tokens : List Token} {out : List Char} {named : Bool}
  {text : String}

/-! ## One token -/

theorem renameToken_failsIff (r : Renaming) (token : Token) :
    Outcome.FailsIff Error.IsAmbiguity (r.renameToken token)
      (r.clashes token = true) := by
  cases token with
  | text source => exact (Outcome.FailsIff.ok _).of_iff (by simp [clashes, Token.word?])
  | literal source => exact (Outcome.FailsIff.ok _).of_iff (by simp [clashes, Token.word?])
  | quoted identifier source =>
    have no_clash : False ↔ r.clashes (.quoted identifier source) = true := by
      simp [clashes, Token.word?]
    rw [renameToken]
    split
    · exact (Outcome.FailsIff.ok _).of_iff no_clash
    · exact (Outcome.FailsIff.ok _).of_iff no_clash
  | word source =>
    have reads : r.clashes (.word source) =
        (keywords.any (Text.sameIgnoringAsciiCase · (String.ofList source)) &&
          (r.renames.find? fun rename =>
            Text.sameIgnoringAsciiCase rename.logical (String.ofList source)).isSome) := by
      rw [List.isSome_find?]
      rfl
    rw [renameToken, reads]
    split
    · next found =>
      rw [found, Option.isSome_some, Bool.and_true]
      split
      · next keyword => exact (Outcome.FailsIff.error ⟨_, rfl⟩).of_iff (iff_of_true trivial keyword)
      · next plain => exact (Outcome.FailsIff.ok _).of_iff (iff_of_false id plain)
    · next missing =>
      rw [missing, Option.isSome_none, Bool.and_false]
      exact (Outcome.FailsIff.ok _).of_iff (by simp)

/-- The table is seen in a token that mentions it and is not taken for a column. -/
theorem named_of_renameToken (renamed : r.renameToken token = .ok (out, named)) :
    named = (r.mentions token && !r.mistakes token) := by
  cases token with
  | text => cases renamed; rfl
  | literal => cases renamed; rfl
  | quoted identifier source =>
    have seen : named = (decide (identifier = r.table.logical.toList) ||
        decide (identifier = r.table.physical.toList)) := by
      rw [renameToken] at renamed
      split at renamed <;> cases renamed <;> rfl
    simp [seen, mentions, mistakes, Token.spells, Token.word?, eq_comm]
  | word source =>
    rw [renameToken] at renamed
    split at renamed
    · next rename found =>
      split at renamed
      · contradiction
      · cases renamed
        -- The word is renamed, so it is the logical table or it is taken for a column.
        obtain ⟨fits, _, _, first, _⟩ := List.find?_eq_some_iff_append.mp found
        have mem : rename = r.table ∨ rename ∈ r.columns :=
          List.mem_cons.mp (List.mem_of_find?_eq_some found)
        by_cases is_table : Text.sameIgnoringAsciiCase r.table.logical (String.ofList source) = true
        · simp [mentions, mistakes, Token.spells, is_table]
        · have column : r.columns.any (fun column =>
              Text.sameIgnoringAsciiCase column.logical (String.ofList source)) = true := by
            refine List.any_eq_true.mpr ⟨rename, mem.resolve_left ?_, fits⟩
            rintro rfl
            exact is_table fits
          simp only [Bool.not_eq_true] at is_table
          simp [mistakes, Token.spells, Token.word?, is_table, column]
    · next missing =>
      simp only [Except.ok.injEq, Prod.mk.injEq] at renamed
      -- No logical identifier is spelled, so only the physical table can be.
      have none_fits := List.find?_eq_none.mp missing
      rw [renames, List.forall_mem_cons] at none_fits
      obtain ⟨no_table, no_column⟩ := none_fits
      have taken : r.columns.any (fun column =>
          Text.sameIgnoringAsciiCase column.logical (String.ofList source)) = false :=
        List.any_eq_false.mpr no_column
      simp only [Bool.not_eq_true] at no_table
      simp only [mentions, mistakes, Token.spells, no_table, taken, Bool.and_false, Bool.not_false,
        Bool.and_true, Bool.false_or]
      rw [← renamed.2, Text.sameIgnoringAsciiCase_comm]

/-! ## A whole text -/

theorem renameTokens_failsIff (r : Renaming) (tokens : List Token) :
    Outcome.FailsIff Error.IsAmbiguity (r.renameTokens tokens)
      (∃ token ∈ tokens, r.clashes token = true) := by
  induction tokens with
  | nil => exact (Outcome.FailsIff.ok _).of_iff (by simp)
  | cons token rest ih =>
    rw [renameTokens]
    refine ((r.renameToken_failsIff token).bind fun first _ =>
      ih.map fun others => (first.1 ++ others.1, first.2 || others.2)).of_iff ?_
    rw [List.exists_mem_cons_iff]

theorem named_of_renameTokens (renamed : r.renameTokens tokens = .ok (out, named)) :
    named = tokens.any fun token => r.mentions token && !r.mistakes token := by
  induction tokens generalizing out named with
  | nil => cases renamed; rfl
  | cons token rest ih =>
    obtain ⟨_, here, _, later, first, others, _, rfl⟩ := renameTokens_cons_eq_ok.mp renamed
    rw [List.any_cons, named_of_renameToken first, ih others]

theorem hasReason_iff (proper : r.quoting.Proper)
    (split : Token.split r.quoting text = .ok tokens) :
    r.HasReason text ↔
      (∃ token ∈ tokens, r.clashes token = true) ∨ ∀ token ∈ tokens, r.mentions token = false := by
  constructor
  · intro reason
    cases reason with
    | unterminated breaks => exact (breaks.not_reads proper (Token.split_eq_ok_iff.mp split)).elim
    | keyword split' clash =>
      obtain rfl := Except.ok.inj (split.symm.trans split')
      exact .inl clash
    | missing split' absent =>
      obtain rfl := Except.ok.inj (split.symm.trans split')
      exact .inr absent
  · rintro (clash | absent)
    · exact .keyword split clash
    · exact .missing split absent

theorem hasReason_or_overlooks_iff (proper : r.quoting.Proper)
    (split : Token.split r.quoting text = .ok tokens) :
    r.HasReason text ∨ r.Overlooks text ↔
      (∃ token ∈ tokens, r.clashes token = true) ∨
        (tokens.any fun token => r.mentions token && !r.mistakes token) = false := by
  have unseen : (tokens.any fun token => r.mentions token && !r.mistakes token) = false ↔
      ∀ token ∈ tokens, r.mentions token = true → r.mistakes token = true := by
    simp [List.any_eq_false]
  rw [unseen]
  constructor
  · rintro (reason | ⟨_, tokens', split', mistaken⟩)
    · refine ((hasReason_iff proper split).mp reason).imp_right fun absent token mem mentioned => ?_
      rw [absent token mem] at mentioned
      contradiction
    · obtain rfl := Except.ok.inj (split.symm.trans split')
      exact .inr mistaken
  · intro cause
    by_cases reason : r.HasReason text
    · exact .inl reason
    · refine .inr ⟨reason, tokens, split, cause.resolve_left fun clash => ?_⟩
      exact reason ((hasReason_iff proper split).mpr (.inl clash))

theorem apply_failsIff (proper : r.quoting.Proper) (text : String) :
    Outcome.FailsIff Error.IsAmbiguity (r.apply text) (r.HasReason text ∨ r.Overlooks text) := by
  have reading := Token.split_failsIff proper text
  rw [apply]
  cases split : Token.split r.quoting text with
  | error e =>
    obtain ⟨what, before, breaks⟩ := reading.iff.mp ⟨e, split⟩
    have reason : r.HasReason text := .unterminated breaks
    exact (Outcome.FailsIff.error (reading.expected e split)).of_iff
      (iff_of_true trivial (.inl reason))
  | ok tokens =>
    rw [Outcome.ok_bind]
    refine ((r.renameTokens_failsIff tokens).bind fun pair renamed => ?_).of_iff
      (hasReason_or_overlooks_iff proper split).symm
    obtain ⟨out, named⟩ := pair
    rw [← named_of_renameTokens renamed]
    cases named with
    | true => exact (Outcome.FailsIff.ok _).of_iff (by simp)
    | false => exact (Outcome.FailsIff.error ⟨_, rfl⟩).of_iff (by simp)

/-- A table whose physical identifier reads as no logical column is never overlooked. -/
theorem not_overlooks (apart : ∀ column ∈ r.columns,
    Text.sameIgnoringAsciiCase column.logical r.table.physical = false) (text : String) :
    ¬r.Overlooks text := by
  rintro ⟨no_reason, tokens, split, mistaken⟩
  refine no_reason (.missing split fun token mem => ?_)
  by_contra mentioned
  rw [Bool.not_eq_false] at mentioned
  have mistake := mistaken token mem mentioned
  cases token with
  | text => contradiction
  | literal => contradiction
  | quoted => contradiction
  | word source =>
    simp only [mistakes, mentions, Token.spells, Bool.and_eq_true, Bool.not_eq_true',
      List.any_eq_true] at mistake mentioned
    obtain ⟨⟨_, no_table⟩, column, mem_column, is_column⟩ := mistake
    rw [no_table, Bool.false_or] at mentioned
    -- Both are the word up to the case of its letters, so they are each other.
    have differ := apart column mem_column
    simp only [Text.sameIgnoringAsciiCase, beq_iff_eq, beq_eq_false_iff_ne] at *
    exact differ (is_column.trans mentioned.symm)

end Renaming

/-- A renderer's renaming refuses a text for the documented reasons and in one further case, which
is the only one where it does not do as documented: the table is mentioned by bare words alone that
also read as logical columns. -/
theorem Renderer.refuses_iff {renderer : Renderer} {objectType : String} {r : Renaming}
    (made : renderer.renamingOf objectType = .ok r) (text : String) :
    Outcome.FailsIff Error.IsAmbiguity (r.apply text) (r.HasReason text ∨ r.Overlooks text) ∧
      (((∃ e, r.apply text = .error e) ↔ r.HasReason text) ↔ ¬r.Overlooks text) := by
  obtain ⟨proper, _⟩ := settled_of_renamingOf made
  have fails := Renaming.apply_failsIff proper text
  refine ⟨fails, ?_⟩
  rw [fails.iff]
  -- A text that is overlooked is one without a reason, so the two causes exclude each other.
  constructor
  · intro documented overlooked
    exact overlooked.1 (documented.mp (.inr overlooked))
  · intro seen
    exact or_iff_left seen

end Sql

namespace Cars

theorem refuses_truck :
    renderer.renamingOf "Car" = .ok names ∧ ¬names.Overlooks "SELECT plate FROM Truck" ∧
      (∃ e, names.apply "SELECT plate FROM Truck" = .error e) ∧
        names.HasReason "SELECT plate FROM Truck" := by
  have spared : ¬names.Overlooks "SELECT plate FROM Truck" :=
    Sql.Renaming.not_overlooks (by decide +kernel) _
  have failed : ∃ e, names.apply "SELECT plate FROM Truck" = .error e :=
    ⟨.renameAmbiguity "table \x60Car\x60 does not occur in the statement", by decide +kernel⟩
  exact ⟨renamingOf_car, spared, failed,
    ((Sql.Renderer.refuses_iff renamingOf_car _).2.mpr spared).mp failed⟩

/-- Notes with a property that has the name of their table. -/
def note : ObjectType :=
  ⟨"Note", [⟨"notes", .string⟩],
    some ⟨"fleet", "notes", "nid", ⟨[("notes", "notes")], by decide⟩⟩⟩

def noteRenderer : Sql.Renderer :=
  ⟨(⟨⟨[("Note", note)], by decide⟩, .empty⟩ : Schema).toResolver, .postgresql, .upper⟩

def noteNames : Sql.Renaming :=
  ⟨⟨"Note", "NOTES"⟩, [⟨"id", "NID"⟩, ⟨"notes", "NOTES"⟩], .ofKind .postgresql⟩

/-- The physical table as a bare word is taken for the column of that name, and the text is refused
without a reason.  In quotes it counts as the table. -/
theorem refuses_notes :
    noteRenderer.renamingOf "Note" = .ok noteNames ∧
      ¬noteNames.HasReason "SELECT id FROM notes" ∧
      noteNames.apply "SELECT id FROM notes" =
        .error (.renameAmbiguity "table \x60Note\x60 does not occur in the statement") ∧
      noteNames.apply "SELECT id FROM \"NOTES\"" = .ok "SELECT \"NID\" FROM \"NOTES\"" := by
  have proper : noteNames.quoting.Proper := Sql.Quoting.ofKind_proper .postgresql
  have split : Sql.Token.split noteNames.quoting "SELECT id FROM notes" =
      .ok [.word "SELECT".toList, .text [' '], .word "id".toList, .text [' '], .word "FROM".toList,
        .text [' '], .word "notes".toList] :=
    Outcome.eq_ok_of_toOption (by decide +kernel)
  refine ⟨Outcome.eq_ok_of_toOption (by decide +kernel), ?_, ?_,
    Outcome.eq_ok_of_toOption (by decide +kernel)⟩
  · rw [Sql.Renaming.hasReason_iff proper split]
    decide +kernel
  · decide +kernel

end Cars
end ObjectQuery
