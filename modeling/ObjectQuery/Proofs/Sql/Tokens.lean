/-
Which tokens a text is read as.

A text is read as some tokens exactly when it consists of their sources, each of them is what its
own source is read as, and none goes on in the next.  So tokens can be exchanged one by one, as long
as their neighbours still keep apart.
-/
import ObjectQuery.Proofs.Sql.Reading

namespace ObjectQuery
namespace Sql
/-- A quote that neither opens literals nor is part of words, as every dialect has. -/
structure Quoting.Proper (q : Quoting) : Prop where
  ne_literal : q.quote ≠ '\''
  no_word : Text.isWordChar q.quote = false

namespace Token

/-- Whether a token is what its source is read as. -/
def Stands (q : Quoting) (token : Token) : Prop :=
  ∃ c rest, token.source = c :: rest ∧ next q c rest = .ok (token, [])

/-- Whether a token ends where another one starts. -/
def KeepsFrom (q : Quoting) (token other : Token) : Prop :=
  ∀ c ∈ other.source.head?, token.continues q c = false

def isQuoted : Token → Bool
  | .quoted _ _ => true
  | _ => false

theorem isWordChar_literalQuote : Text.isWordChar '\'' = false := by decide +kernel

section

variable {q : Quoting} {cs rest source after identifier : List Char} {token : Token}
  {backslash : Bool} {quote c : Char}

/-- A literal is read from its source alone, and no quote follows it. -/
theorem readLiteral_ends (found : readLiteral backslash cs = some (source, after)) :
    readLiteral backslash source = some (source, []) ∧ after.head? ≠ some '\'' := by
  fun_induction readLiteral backslash cs generalizing source after with
  | case1 => contradiction
  | case2 rest ih =>
    simp only [Option.map_eq_some_iff, Prod.exists, Prod.mk.injEq] at found
    obtain ⟨inner, after, read, rfl, rfl⟩ := found
    obtain ⟨alone, ends⟩ := ih read
    exact ⟨by rw [readLiteral, alone]; rfl, ends⟩
  | case3 rest single =>
    simp only [Option.some.injEq, Prod.mk.injEq] at found
    obtain ⟨rfl, rfl⟩ := found
    refine ⟨rfl, fun doubled => ?_⟩
    obtain ⟨tail, rfl⟩ := List.head?_eq_some_iff.mp doubled
    exact single tail rfl
  | case4 c rest escapes ih =>
    simp only [Option.map_eq_some_iff, Prod.exists, Prod.mk.injEq] at found
    obtain ⟨inner, after, read, rfl, rfl⟩ := found
    obtain ⟨alone, ends⟩ := ih read
    exact ⟨by rw [readLiteral, if_pos escapes, alone]; rfl, ends⟩
  | case5 c rest plain ih =>
    simp only [Option.map_eq_some_iff, Prod.exists, Prod.mk.injEq] at found
    obtain ⟨inner, after, read, rfl, rfl⟩ := found
    obtain ⟨alone, ends⟩ := ih read
    have no_escape : backslash = false := by simpa using plain
    refine ⟨?_, ends⟩
    rw [readLiteral_plain (by decide) fun _ => no_escape, alone]
    rfl
  | case6 c rest _ other escape ih =>
    simp only [Option.map_eq_some_iff, Prod.exists, Prod.mk.injEq] at found
    obtain ⟨inner, after, read, rfl, rfl⟩ := found
    obtain ⟨alone, ends⟩ := ih read
    refine ⟨?_, ends⟩
    have plain : c = '\\' → backslash = false := by
      intro same
      cases rest with
      | nil => contradiction
      | cons d rest => exact (escape d rest same rfl).elim
    rw [readLiteral_plain other plain, alone]
    rfl

/-- A quoted identifier is read from its source alone, and no quote follows it. -/
theorem readQuoted_ends (found : readQuoted quote cs = some (identifier, source, after)) :
    readQuoted quote source = some (identifier, source, []) ∧ after.head? ≠ some quote := by
  fun_induction readQuoted quote cs generalizing identifier source after with
  | case1 => contradiction
  | case2 =>
    simp only [Option.some.injEq, Prod.mk.injEq] at found
    obtain ⟨rfl, rfl, rfl⟩ := found
    exact ⟨readQuoted_closing (by simp), by simp⟩
  | case3 => contradiction
  | case4 rest ih =>
    simp only [Option.map_eq_some_iff, Prod.exists, Prod.mk.injEq] at found
    obtain ⟨identifier, source, after, read, rfl, rfl, rfl⟩ := found
    obtain ⟨alone, ends⟩ := ih read
    exact ⟨by rw [readQuoted, if_pos rfl, if_pos rfl, alone]; rfl, ends⟩
  | case5 d rest other =>
    simp only [Option.some.injEq, Prod.mk.injEq] at found
    obtain ⟨rfl, rfl, rfl⟩ := found
    exact ⟨readQuoted_closing (by simp), by simpa using other⟩
  | case6 c d rest other ih =>
    simp only [Option.map_eq_some_iff, Prod.exists, Prod.mk.injEq] at found
    obtain ⟨identifier, source, after, read, rfl, rfl, rfl⟩ := found
    obtain ⟨alone, ends⟩ := ih read
    exact ⟨by rw [readQuoted_plain other, alone]; rfl, ends⟩

/-- A closing quote and another one behind it are a doubled quote of a longer literal. -/
theorem readLiteral_fused (found : readLiteral backslash cs = some (source, [])) :
    readLiteral backslash (cs ++ '\'' :: rest) =
      (readLiteral backslash rest).map fun (further, after) =>
        (source ++ '\'' :: further, after) := by
  fun_induction readLiteral backslash cs generalizing source with
  | case1 => contradiction
  | case2 inner ih =>
    simp only [Option.map_eq_some_iff, Prod.exists, Prod.mk.injEq] at found
    obtain ⟨source, after, read, rfl, rfl⟩ := found
    rw [List.cons_append, List.cons_append, readLiteral, ih read, Option.map_map]
    rfl
  | case3 inner single =>
    simp only [Option.some.injEq, Prod.mk.injEq] at found
    obtain ⟨rfl, rfl⟩ := found
    show readLiteral backslash ('\'' :: '\'' :: rest) = _
    rw [readLiteral]
    rfl
  | case4 c inner escapes ih =>
    simp only [Option.map_eq_some_iff, Prod.exists, Prod.mk.injEq] at found
    obtain ⟨source, after, read, rfl, rfl⟩ := found
    rw [List.cons_append, List.cons_append, readLiteral, if_pos escapes, ih read, Option.map_map]
    rfl
  | case5 c inner plain ih =>
    simp only [Option.map_eq_some_iff, Prod.exists, Prod.mk.injEq] at found
    obtain ⟨source, after, read, rfl, rfl⟩ := found
    have no_escape : backslash = false := by simpa using plain
    rw [List.cons_append, readLiteral_plain (by decide) fun _ => no_escape, ih read, Option.map_map]
    rfl
  | case6 c inner _ other escape ih =>
    simp only [Option.map_eq_some_iff, Prod.exists, Prod.mk.injEq] at found
    obtain ⟨source, after, read, rfl, rfl⟩ := found
    have plain : c = '\\' → backslash = false := by
      intro same
      cases inner with
      | nil => contradiction
      | cons d inner => exact (escape d inner same rfl).elim
    rw [List.cons_append, readLiteral_plain other plain, ih read, Option.map_map]
    rfl

/-- A closing quote and the opening quote behind it are a doubled quote of a longer identifier. -/
theorem readQuoted_fused (found : readQuoted quote cs = some (identifier, source, [])) :
    readQuoted quote (cs ++ quote :: rest) =
      (readQuoted quote rest).map fun (other, further, after) =>
        (identifier ++ quote :: other, source ++ quote :: further, after) := by
  fun_induction readQuoted quote cs generalizing identifier source with
  | case1 => contradiction
  | case2 =>
    simp only [Option.some.injEq, Prod.mk.injEq] at found
    obtain ⟨rfl, rfl, _⟩ := found
    show readQuoted quote (quote :: quote :: rest) = _
    rw [readQuoted, if_pos rfl, if_pos rfl]
    rfl
  | case3 => contradiction
  | case4 inner ih =>
    simp only [Option.map_eq_some_iff, Prod.exists, Prod.mk.injEq] at found
    obtain ⟨identifier, source, after, read, rfl, rfl, rfl⟩ := found
    rw [List.cons_append, List.cons_append, readQuoted, if_pos rfl, if_pos rfl, ih read,
      Option.map_map]
    rfl
  | case5 => simp at found
  | case6 c d inner differs ih =>
    simp only [Option.map_eq_some_iff, Prod.exists, Prod.mk.injEq] at found
    obtain ⟨identifier, source, after, read, rfl, rfl, rfl⟩ := found
    rw [List.cons_append, readQuoted_plain differs, ih read, Option.map_map]
    rfl

theorem stands_of_next (step : next q c rest = .ok (token, after)) : token.Stands q := by
  cases next_eq_ok_iff.mp step with
  | literal found => exact ⟨_, _, rfl, next_eq_ok_iff.mpr (.literal (readLiteral_ends found).1)⟩
  | quoted ne_literal found =>
    exact ⟨_, _, rfl, next_eq_ok_iff.mpr (.quoted ne_literal (readQuoted_ends found).1)⟩
  | run ne_literal ne_quote word =>
    have alone : Step q c (rest.takeWhile Text.isWordChar) _ _ := .run ne_literal ne_quote word
    have whole : (rest.takeWhile Text.isWordChar).dropWhile Text.isWordChar = [] :=
      List.dropWhile_eq_nil_iff.mpr fun d mem => List.mem_takeWhile_imp mem
    rw [List.takeWhile_takeWhile, whole] at alone
    refine ⟨c, rest.takeWhile Text.isWordChar, ?_, next_eq_ok_iff.mpr ?_⟩
    · split <;> rfl
    · simpa using alone
  | mark ne_literal ne_quote no_word =>
    exact ⟨c, [], rfl, next_eq_ok_iff.mpr (.mark ne_literal ne_quote no_word)⟩

/-- A token is read as far as it goes. -/
theorem not_continues_of_next (step : next q c rest = .ok (token, after)) :
    ∀ b ∈ after.head?, token.continues q b = false := by
  intro b mem
  cases next_eq_ok_iff.mp step with
  | literal found =>
    refine beq_eq_false_iff_ne.mpr fun same => (readLiteral_ends found).2 ?_
    exact same ▸ mem
  | quoted _ found =>
    refine beq_eq_false_iff_ne.mpr fun same => (readQuoted_ends found).2 ?_
    exact same ▸ mem
  | run =>
    have stop := List.head?_dropWhile_not Text.isWordChar rest
    rw [Option.mem_def] at mem
    rw [mem] at stop
    split <;> simp [continues, stop]
  | mark _ _ no_word => simp [continues, no_word]

end

section

variable {q : Quoting} {cs : List Char} {token : Token} {tokens : List Token}

theorem head?_sources (stand : ∀ token ∈ tokens, token.Stands q) :
    (tokens.flatMap source).head? = tokens.head?.bind fun token => token.source.head? := by
  cases tokens with
  | nil => rfl
  | cons token rest =>
    obtain ⟨c, others, split, _⟩ := stand token List.mem_cons_self
    simp [split]

theorem Stands.exists_step (stands : token.Stands q) :
    ∃ c rest, token.source.head? = some c ∧ Step q c rest token [] := by
  obtain ⟨c, rest, split, step⟩ := stands
  exact ⟨c, rest, by rw [split]; rfl, next_eq_ok_iff.mp step⟩

/-- Quoted identifiers are the tokens that start with the quote. -/
theorem Stands.isQuoted_iff (ne_literal : q.quote ≠ '\'') (stands : token.Stands q) :
    token.isQuoted = true ↔ token.source.head? = some q.quote := by
  obtain ⟨c, rest, head, step⟩ := stands.exists_step
  rw [head, Option.some.injEq]
  generalize [] = after at step
  cases step with
  | literal => simp [isQuoted, ne_literal.symm]
  | quoted => simp [isQuoted]
  | run _ ne_quote => split <;> simp [isQuoted, ne_quote]
  | mark _ ne_quote => simp [isQuoted, ne_quote]

theorem Stands.isWordChar_head {source : List Char} (stands : (word source).Stands q) :
    ∃ c, source.head? = some c ∧ Text.isWordChar c = true := by
  obtain ⟨c, rest, head, step⟩ := stands.exists_step
  refine ⟨c, head, ?_⟩
  generalize same : word source = token at step
  generalize [] = after at step
  cases step with
  | run _ _ word => exact word
  | literal => contradiction
  | quoted => contradiction
  | mark => contradiction

variable {other : Token}

/-- A quote goes on in quoted identifiers alone. -/
theorem continues_quote (proper : q.Proper) : token.continues q q.quote = token.isQuoted := by
  cases token <;> simp [continues, isQuoted, proper.ne_literal, proper.no_word]

/-- No two quoted identifiers stand side by side. -/
theorem KeepsFrom.isQuoted_eq_false (keeps : token.KeepsFrom q other) (proper : q.Proper)
    (stands : other.Stands q) (quoted : other.isQuoted = true) : token.isQuoted = false := by
  rw [← continues_quote proper]
  exact keeps q.quote ((stands.isQuoted_iff proper.ne_literal).mp quoted)

/-- No two words stand side by side. -/
theorem KeepsFrom.not_words {first second : List Char}
    (keeps : (word first).KeepsFrom q (word second)) (stands : (word second).Stands q) : False := by
  obtain ⟨c, head, is_word⟩ := stands.isWordChar_head
  have ends : Text.isWordChar c = false := keeps c head
  simp [is_word] at ends

theorem Reads.stand (reads : Reads q cs tokens) : ∀ token ∈ tokens, token.Stands q := by
  induction reads with
  | nil => simp
  | cons step _ ih => exact List.forall_mem_cons.mpr ⟨stands_of_next step, ih⟩

/-- A token is read in front of others if it keeps from the first of them. -/
theorem Stands.reads_cons (stands : token.Stands q) (stand : ∀ token ∈ tokens, token.Stands q)
    (keeps : ∀ next ∈ tokens.head?, token.KeepsFrom q next) {read : List Token}
    (reads : Reads q (tokens.flatMap source) read) :
    Reads q (token.source ++ tokens.flatMap source) (token :: read) := by
  obtain ⟨c, others, split, step⟩ := stands
  rw [split, List.cons_append]
  -- What follows the token starts as the next one does, so the token is read no further.
  have ends : ∀ b ∈ (tokens.flatMap source).head?, token.continues q b = false := by
    intro b mem
    rw [head?_sources stand] at mem
    obtain ⟨next, first, head⟩ := Option.bind_eq_some_iff.mp mem
    exact keeps next first b head
  exact .cons (next_append step fun _ => ends) reads

/-- A text is read as the tokens that make it up, stand by themselves and keep from each other. -/
theorem reads_iff : Reads q cs tokens ↔ tokens.flatMap source = cs ∧
    (∀ token ∈ tokens, token.Stands q) ∧ tokens.IsChain (KeepsFrom q) := by
  constructor
  · intro reads
    refine ⟨reads.sources, reads.stand, ?_⟩
    induction reads with
    | nil => exact .nil
    | cons step others ih =>
      refine List.isChain_cons.mpr ⟨fun next first c head => ?_, ih⟩
      refine not_continues_of_next step c ?_
      rw [← others.sources, head?_sources others.stand, first]
      exact head
  · rintro ⟨rfl, stand, apart⟩
    induction tokens with
    | nil => exact .nil
    | cons token rest ih =>
      rw [List.forall_mem_cons] at stand
      rw [List.isChain_cons] at apart
      exact stand.1.reads_cons stand.2 apart.1 (ih stand.2 apart.2)

end

end Token
end Sql
end ObjectQuery
