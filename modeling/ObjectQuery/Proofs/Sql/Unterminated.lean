/-
Texts that are not read to their end.

Reading stops in one way only: a quote opens a literal or an identifier and nothing after it closes
it.  Where a quote stands directly behind the same quote, the two are a doubled quote of a longer
text, which then is the one without an end, so such a text cannot be read wherever one looks for the
opening quote.
-/
import ObjectQuery.Proofs.Sql.Legibility
import ObjectQuery.Proofs.Sql.Tokens
import ObjectQuery.Proofs.Text.Utf8

namespace ObjectQuery

/-- Whether an error says that the identifiers of a text cannot be told apart. -/
def Error.IsAmbiguity (e : Error) : Prop := ∃ text, e = .renameAmbiguity text

namespace Sql

/-- What may stand between the quotes of a literal: quotes in pairs alone and, where the backslash
escapes, a character behind each. -/
inductive LiteralBody (backslash : Bool) : List Char → Prop
  | nil : LiteralBody backslash []
  | pair {rest : List Char} (others : LiteralBody backslash rest) :
      LiteralBody backslash ('\'' :: '\'' :: rest)
  | escaped {c : Char} {rest : List Char} (escapes : backslash = true)
      (others : LiteralBody backslash rest) : LiteralBody backslash ('\\' :: c :: rest)
  | plain {c : Char} {rest : List Char} (ne_quote : c ≠ '\'')
      (no_escape : c = '\\' → backslash = false) (others : LiteralBody backslash rest) :
      LiteralBody backslash (c :: rest)

namespace Token

/-- The quote at both ends of a quoted text. -/
def Unterminated.mark (q : Quoting) : Unterminated → Char
  | .literal => '\''
  | .identifier => q.quote

/-- Whether a text is a quoted one of a kind, its quotes included. -/
def Encloses (q : Quoting) : Unterminated → List Char → Prop
  | .literal, source => ∃ body, LiteralBody q.backslash body ∧ source = '\'' :: body ++ ['\'']
  | .identifier, source => ∃ identifier, source = quoteChars q.quote identifier

/-- Whether a text starts with a quote that nothing closes: behind every quoted text that it starts
with, the last quote is doubled. -/
def NeverCloses (q : Quoting) (what : Unterminated) (opening : List Char) : Prop :=
  opening.head? = some (what.mark q) ∧
    ∀ source after, opening = source ++ after → Encloses q what source →
      after.head? = some (what.mark q)

/-- Whether a text can be read up to a quote that nothing closes. -/
def BreaksOff (q : Quoting) (what : Unterminated) (before text : List Char) : Prop :=
  ∃ tokens opening, text = before ++ opening ∧ Reads q before tokens ∧ NeverCloses q what opening

section

variable {backslash : Bool} {quote : Char} {cs rest body source after identifier : List Char}

theorem readLiteral_of_body (valid : LiteralBody backslash body)
    (ends : after.head? ≠ some '\'') :
    readLiteral backslash (body ++ '\'' :: after) = some (body ++ ['\''], after) := by
  induction valid with
  | nil => exact readLiteral_closing ends
  | pair _ ih =>
    rw [List.cons_append, List.cons_append, readLiteral, ih]
    rfl
  | escaped escapes _ ih =>
    rw [List.cons_append, List.cons_append, readLiteral, if_pos escapes, ih]
    rfl
  | plain ne_quote no_escape _ ih =>
    rw [List.cons_append, readLiteral_plain ne_quote no_escape, ih]
    rfl

theorem exists_body_of_readLiteral (found : readLiteral backslash cs = some (source, after)) :
    ∃ body, LiteralBody backslash body ∧ source = body ++ ['\''] := by
  fun_induction readLiteral backslash cs generalizing source after with
  | case1 => contradiction
  | case2 rest ih =>
    simp only [Option.map_eq_some_iff, Prod.exists, Prod.mk.injEq] at found
    obtain ⟨inner, after, read, rfl, rfl⟩ := found
    obtain ⟨body, valid, rfl⟩ := ih read
    exact ⟨_, .pair valid, rfl⟩
  | case3 =>
    simp only [Option.some.injEq, Prod.mk.injEq] at found
    exact ⟨[], .nil, found.1.symm⟩
  | case4 c rest escapes ih =>
    simp only [Option.map_eq_some_iff, Prod.exists, Prod.mk.injEq] at found
    obtain ⟨inner, after, read, rfl, rfl⟩ := found
    obtain ⟨body, valid, rfl⟩ := ih read
    exact ⟨_, .escaped escapes valid, rfl⟩
  | case5 c rest plain ih =>
    simp only [Option.map_eq_some_iff, Prod.exists, Prod.mk.injEq] at found
    obtain ⟨inner, after, read, rfl, rfl⟩ := found
    obtain ⟨body, valid, rfl⟩ := ih read
    exact ⟨_, .plain (by decide) (fun _ => by simpa using plain) valid, rfl⟩
  | case6 c rest _ other escape ih =>
    simp only [Option.map_eq_some_iff, Prod.exists, Prod.mk.injEq] at found
    obtain ⟨inner, after, read, rfl, rfl⟩ := found
    obtain ⟨body, valid, rfl⟩ := ih read
    refine ⟨_, .plain other (fun same => ?_) valid, rfl⟩
    cases rest with
    | nil => contradiction
    | cons d rest => exact (escape d rest same rfl).elim

theorem readLiteral_eq_some_iff : readLiteral backslash cs = some (source, after) ↔
    cs = source ++ after ∧ (∃ body, LiteralBody backslash body ∧ source = body ++ ['\'']) ∧
      after.head? ≠ some '\'' := by
  constructor
  · intro found
    exact ⟨(readLiteral_source found).1.symm, exists_body_of_readLiteral found,
      (readLiteral_ends found).2⟩
  · rintro ⟨rfl, ⟨body, valid, rfl⟩, ends⟩
    rw [List.append_assoc]
    exact readLiteral_of_body valid ends

theorem quoteChars_of_readQuoted
    (found : readQuoted quote cs = some (identifier, source, after)) :
    quote :: source = quoteChars quote identifier := by
  fun_induction readQuoted quote cs generalizing identifier source after with
  | case1 => contradiction
  | case2 =>
    simp only [Option.some.injEq, Prod.mk.injEq] at found
    obtain ⟨rfl, rfl, _⟩ := found
    rfl
  | case3 => contradiction
  | case4 rest ih =>
    simp only [Option.map_eq_some_iff, Prod.exists, Prod.mk.injEq] at found
    obtain ⟨identifier, source, after, read, rfl, rfl, rfl⟩ := found
    have same := ih read
    simp only [quoteChars, List.cons_append, List.cons.injEq, true_and] at same
    simp [quoteChars, same]
  | case5 =>
    simp only [Option.some.injEq, Prod.mk.injEq] at found
    obtain ⟨rfl, rfl, _⟩ := found
    rfl
  | case6 c d rest other ih =>
    simp only [Option.map_eq_some_iff, Prod.exists, Prod.mk.injEq] at found
    obtain ⟨identifier, source, after, read, rfl, rfl, rfl⟩ := found
    have same := ih read
    simp only [quoteChars, List.cons_append, List.cons.injEq, true_and] at same
    simp [quoteChars, same, other]

theorem readQuoted_eq_some_iff : readQuoted quote cs = some (identifier, source, after) ↔
    cs = source ++ after ∧ quote :: source = quoteChars quote identifier ∧
      after.head? ≠ some quote := by
  constructor
  · intro found
    exact ⟨(readQuoted_source found).1.symm, quoteChars_of_readQuoted found,
      (readQuoted_ends found).2⟩
  · rintro ⟨rfl, same, ends⟩
    rw [quoteChars, List.cons_append, List.cons.injEq] at same
    rw [same.2]
    exact readQuoted_append (readQuoted_doubled identifier) fun _ => ends

end

section

variable {q : Quoting} {cs rest before : List Char} {c : Char} {what : Unterminated}
  {tokens read : List Token}

theorem neverCloses_literal_iff :
    NeverCloses q .literal ('\'' :: rest) ↔ readLiteral q.backslash rest = none := by
  rw [Option.eq_none_iff_forall_ne_some]
  constructor
  · rintro ⟨_, doubled⟩ ⟨source, after⟩ found
    obtain ⟨rfl, ⟨body, valid, rfl⟩, ends⟩ := readLiteral_eq_some_iff.mp found
    exact ends (doubled ('\'' :: body ++ ['\'']) after rfl ⟨body, valid, rfl⟩)
  · intro none_found
    refine ⟨rfl, ?_⟩
    rintro _ after split ⟨body, valid, rfl⟩
    by_contra ends
    rw [List.cons_append, List.cons_append, List.cons.injEq] at split
    exact none_found _ (readLiteral_eq_some_iff.mpr ⟨split.2, ⟨body, valid, rfl⟩, ends⟩)

theorem neverCloses_identifier_iff :
    NeverCloses q .identifier (q.quote :: rest) ↔ readQuoted q.quote rest = none := by
  rw [Option.eq_none_iff_forall_ne_some]
  constructor
  · rintro ⟨_, doubled⟩ ⟨identifier, source, after⟩ found
    obtain ⟨rfl, same, ends⟩ := readQuoted_eq_some_iff.mp found
    exact ends (doubled (q.quote :: source) after rfl ⟨identifier, same⟩)
  · intro none_found
    refine ⟨rfl, ?_⟩
    rintro _ after split ⟨identifier, rfl⟩
    by_contra ends
    rw [quoteChars, List.cons_append, List.cons_append, List.cons.injEq] at split
    exact none_found _ (readQuoted_eq_some_iff.mpr ⟨split.2, rfl, ends⟩)

theorem Reads.cons_of_next {token : Token} {opening : List Char} (reads : Reads q before tokens)
    (step : next q c rest = .ok (token, before ++ opening)) :
    Reads q (token.source ++ before) (token :: tokens) := by
  obtain ⟨first, others, split, alone⟩ := stands_of_next step
  rw [split, List.cons_append]
  refine .cons (next_append alone fun _ b head => not_continues_of_next step b ?_) reads
  obtain ⟨tail, rfl⟩ := List.head?_eq_some_iff.mp head
  rfl

variable (proper : q.Proper)
include proper

/-- No token is read at a quote that nothing closes, and at any other character one is. -/
theorem next_eq_error_iff : next q c rest = .error what ↔ NeverCloses q what (c :: rest) := by
  have starts {what} (never : NeverCloses q what (c :: rest)) : c = what.mark q := by
    simpa using never.1
  constructor
  · intro failed
    unfold next at failed
    split at failed
    · next literal =>
      subst literal
      cases found : readLiteral q.backslash rest with
      | none =>
        rw [found] at failed
        cases failed
        exact neverCloses_literal_iff.mpr found
      | some pair => simp [found] at failed
    · split at failed
      · next quoted =>
        subst quoted
        cases found : readQuoted q.quote rest with
        | none =>
          rw [found] at failed
          cases failed
          exact neverCloses_identifier_iff.mpr found
        | some triple => simp [found] at failed
      · split at failed <;> contradiction
  · intro never
    cases what with
    | literal =>
      obtain rfl := starts never
      rw [Unterminated.mark] at never ⊢
      rw [next, if_pos rfl, neverCloses_literal_iff.mp never]
    | identifier =>
      obtain rfl := starts never
      rw [Unterminated.mark] at never ⊢
      rw [next, if_neg proper.ne_literal, if_pos rfl, neverCloses_identifier_iff.mp never]

/-- A quote that continues a token does not close anything after it either. -/
theorem next_fused {token : Token} {opening : List Char} (step : next q c rest = .ok (token, []))
    (never : NeverCloses q what opening) (goes_on : token.continues q (what.mark q) = true) :
    ∃ what, next q c (rest ++ opening) = .error what := by
  obtain ⟨behind, rfl⟩ := List.head?_eq_some_iff.mp never.1
  generalize empty : [] = after at step
  cases next_eq_ok_iff.mp step with
  | literal found =>
    subst empty
    cases what with
    | literal =>
      rw [Unterminated.mark, neverCloses_literal_iff] at never
      refine ⟨.literal, ?_⟩
      rw [Unterminated.mark, next, if_pos rfl, readLiteral_fused found, never]
      rfl
    | identifier => simp [continues, Unterminated.mark, proper.ne_literal] at goes_on
  | quoted ne_literal found =>
    subst empty
    cases what with
    | literal => simp [continues, Unterminated.mark, proper.ne_literal.symm] at goes_on
    | identifier =>
      rw [Unterminated.mark, neverCloses_identifier_iff] at never
      refine ⟨.identifier, ?_⟩
      rw [Unterminated.mark, next, if_neg ne_literal, if_pos rfl, readQuoted_fused found, never]
      rfl
  | run =>
    have no_word : Text.isWordChar (what.mark q) = false := by
      cases what with
      | literal => exact isWordChar_literalQuote
      | identifier => exact proper.no_word
    split at goes_on <;> simp [continues, no_word] at goes_on
  | mark _ _ no_word => simp [continues, no_word] at goes_on

theorem BreaksOff.not_reads (breaks : BreaksOff q what before cs) : ¬Reads q cs read := by
  obtain ⟨tokens, opening, rfl, reads, never⟩ := breaks
  induction reads generalizing read with
  | nil =>
    intro reads_again
    obtain ⟨behind, rfl⟩ := List.head?_eq_some_iff.mp never.1
    cases reads_again with
    | cons step => simp [(next_eq_error_iff proper).mpr never] at step
  | @cons c rest after token tokens step others ih =>
    intro reads_again
    rw [List.cons_append] at reads_again
    cases reads_again with
    | cons again others_again =>
      -- A token that the quote continues has no end now.  Any other is read as before, and what is
      -- behind it breaks off.
      by_cases goes_on : after = [] ∧ token.continues q (what.mark q) = true
      · obtain ⟨rfl, goes_on⟩ := goes_on
        obtain ⟨_, failed⟩ := next_fused proper step never goes_on
        simp [failed] at again
      · have ends : after = [] → ∀ b ∈ opening.head?, token.continues q b = false := by
          intro empty b head
          rw [never.1, Option.mem_def, Option.some.injEq] at head
          subst head
          simpa [empty] using goes_on
        rw [next_append step ends] at again
        cases again
        exact ih others_again

/-- The message of a text that is not read names the byte at which the quote stands. -/
theorem splitFrom_eq_error {offset : Nat} {e : Error} (failed : splitFrom q offset cs = .error e) :
    ∃ what before, BreaksOff q what before cs ∧
      e = .renameAmbiguity ("unterminated " ++ what.name ++ " at offset " ++
        toString (offset + Text.Utf8.size before)) := by
  fun_induction splitFrom q offset cs with
  | case1 => contradiction
  | case2 offset c rest what stop =>
    refine ⟨what, [], ⟨[], c :: rest, rfl, .nil, (next_eq_error_iff proper).mp stop⟩, ?_⟩
    exact (Except.error.inj failed).symm
  | case3 offset c rest token after step ih =>
    cases split : splitFrom q (offset + Text.Utf8.size token.source) after with
    | ok others =>
      rw [split] at failed
      contradiction
    | error e' =>
      rw [split] at failed ih
      obtain rfl : e' = e := Except.error.inj failed
      obtain ⟨what, before, ⟨tokens, opening, rfl, reads, never⟩, message⟩ := ih rfl
      refine ⟨what, token.source ++ before, ⟨token :: tokens, opening, ?_, ?_, never⟩, ?_⟩
      · rw [List.append_assoc, next_source step]
      · exact reads.cons_of_next step
      · rw [message, Text.Utf8.size_append, Nat.add_assoc]

theorem split_failsIff (text : String) :
    Outcome.FailsIff Error.IsAmbiguity (split q text)
      (∃ what before, BreaksOff q what before text.toList) := by
  constructor
  · constructor
    · rintro ⟨e, failed⟩
      obtain ⟨what, before, breaks, _⟩ := splitFrom_eq_error proper failed
      exact ⟨what, before, breaks⟩
    · rintro ⟨what, before, breaks⟩
      cases done : split q text with
      | error e => exact ⟨e, rfl⟩
      | ok tokens => exact (breaks.not_reads proper (split_eq_ok_iff.mp done)).elim
  · intro e failed
    obtain ⟨_, _, _, message⟩ := splitFrom_eq_error proper failed
    exact ⟨_, message⟩

end

end Token
end Sql
end ObjectQuery
