/-
Reading a text into tokens, as a relation.

`Token.Step` says how one token is read, and `Token.Reads` is one step for each token; both leave
out where in the text a token starts.  The tokens of two texts are those of the texts joined, as long
as one of the two characters that meet separates: it stands for itself wherever it is outside of
quotes.
-/
import Mathlib.Data.List.Basic
import Mathlib.Data.List.Chain
import Mathlib.Data.List.TakeWhile
import ObjectQuery.Proofs.Outcome
import ObjectQuery.Sql.Token

namespace ObjectQuery
namespace Sql

/-- Whether a character stands for itself wherever it is outside of quotes. -/
def Quoting.separates (q : Quoting) (c : Char) : Bool :=
  c != '\'' && c != q.quote && !Text.isWordChar c

/-- One of the characters that meet when two texts are joined separates. -/
def Quoting.Joins (q : Quoting) (xs ys : List Char) : Prop :=
  ∀ a ∈ xs.getLast?, ∀ b ∈ ys.head?, q.separates a = true ∨ q.separates b = true

namespace Token

/-- How a token is read at a character: as a literal, as a quoted identifier, as a run of word
characters or as a mark that stands for itself. -/
inductive Step (q : Quoting) : Char → List Char → Token → List Char → Prop
  | literal {rest source after : List Char}
      (found : readLiteral q.backslash rest = some (source, after)) :
      Step q '\'' rest (.literal ('\'' :: source)) after
  | quoted {rest identifier source after : List Char} (ne_literal : q.quote ≠ '\'')
      (found : readQuoted q.quote rest = some (identifier, source, after)) :
      Step q q.quote rest (.quoted identifier (q.quote :: source)) after
  | run {c : Char} {rest : List Char} (ne_literal : c ≠ '\'') (ne_quote : c ≠ q.quote)
      (word : Text.isWordChar c = true) :
      Step q c rest
        (if c.isDigit then .text (c :: rest.takeWhile Text.isWordChar)
          else .word (c :: rest.takeWhile Text.isWordChar))
        (rest.dropWhile Text.isWordChar)
  | mark {c : Char} {rest : List Char} (ne_literal : c ≠ '\'') (ne_quote : c ≠ q.quote)
      (no_word : Text.isWordChar c = false) : Step q c rest (.text [c]) rest

inductive Reads (q : Quoting) : List Char → List Token → Prop
  | nil : Reads q [] []
  | cons {c : Char} {rest after : List Char} {token : Token} {tokens : List Token}
      (step : next q c rest = .ok (token, after)) (others : Reads q after tokens) :
      Reads q (c :: rest) (token :: tokens)

section

variable {q : Quoting} {cs rest after : List Char} {c : Char} {token : Token} {tokens : List Token}

theorem next_eq_ok_iff : next q c rest = .ok (token, after) ↔ Step q c rest token after := by
  constructor
  · intro step
    unfold next at step
    split at step
    · next literal =>
      split at step
      · next found =>
        simp only [Except.ok.injEq, Prod.mk.injEq] at step
        obtain ⟨rfl, rfl⟩ := step
        exact literal ▸ .literal found
      · contradiction
    · next ne_literal =>
      split at step
      · next quoted =>
        split at step
        · next found =>
          simp only [Except.ok.injEq, Prod.mk.injEq] at step
          obtain ⟨rfl, rfl⟩ := step
          rw [quoted] at ne_literal ⊢
          exact .quoted ne_literal found
        · contradiction
      · next ne_quote =>
        split at step
        · next word =>
          simp only [Except.ok.injEq, Prod.mk.injEq] at step
          obtain ⟨rfl, rfl⟩ := step
          exact .run ne_literal ne_quote word
        · next no_word =>
          simp only [Except.ok.injEq, Prod.mk.injEq] at step
          obtain ⟨rfl, rfl⟩ := step
          exact .mark ne_literal ne_quote (by simpa using no_word)
  · intro step
    cases step with
    | literal found => rw [next, if_pos rfl, found]
    | quoted ne_literal found => rw [next, if_neg ne_literal, if_pos rfl, found]
    | run ne_literal ne_quote word => rw [next, if_neg ne_literal, if_neg ne_quote, if_pos word]
    | mark ne_literal ne_quote no_word =>
      rw [next, if_neg ne_literal, if_neg ne_quote, if_neg (by simp [no_word])]

theorem splitFrom_eq_ok_iff {offset : Nat} :
    splitFrom q offset cs = .ok tokens ↔ Reads q cs tokens := by
  constructor
  · intro split
    fun_induction splitFrom q offset cs generalizing tokens with
    | case1 =>
      simp only [Except.ok.injEq] at split
      exact split ▸ .nil
    | case2 => contradiction
    | case3 offset c rest token after step ih =>
      rw [Outcome.bind_eq_ok] at split
      obtain ⟨others, read, same⟩ := split
      rw [Outcome.pure_eq_ok] at same
      exact same ▸ .cons step (ih read)
  · intro reads
    induction reads generalizing offset with
    | nil => rw [splitFrom]
    | cons step _ ih =>
      rw [splitFrom]
      split
      · next failed => simp [step] at failed
      · next found =>
        simp only [step, Except.ok.injEq, Prod.mk.injEq] at found
        obtain ⟨rfl, rfl⟩ := found
        rw [ih]
        rfl

theorem split_eq_ok_iff {text : String} :
    split q text = .ok tokens ↔ Reads q text.toList tokens :=
  splitFrom_eq_ok_iff

end

/-! ## A text that goes on -/

section

variable {q : Quoting} {cs rest source after identifier ys : List Char} {token : Token}
  {backslash : Bool} {quote c : Char}

theorem readLiteral_closing (ends : rest.head? ≠ some '\'') :
    readLiteral backslash ('\'' :: rest) = some (['\''], rest) := by
  cases rest with
  | nil => rfl
  | cons c rest =>
    have other : c ≠ '\'' := by simpa using ends
    rw [readLiteral]
    exact fun _ same => other (List.cons.inj same).1

theorem readLiteral_plain (ne_quote : c ≠ '\'') (plain : c = '\\' → backslash = false) :
    readLiteral backslash (c :: rest) =
      (readLiteral backslash rest).map fun (source, after) => (c :: source, after) := by
  by_cases escape : c = '\\'
  · subst escape
    cases rest with
    | nil => rfl
    | cons d rest => rw [readLiteral, if_neg (by simp [plain])]
  · rw [readLiteral]
    · exact fun _ same => (ne_quote same).elim
    · exact ne_quote
    · exact fun _ _ same => (escape same).elim

/-- What was read does not change when the text goes on, unless a closing quote becomes a doubled
one. -/
theorem readLiteral_append (found : readLiteral backslash cs = some (source, after))
    (ends : after = [] → ys.head? ≠ some '\'') :
    readLiteral backslash (cs ++ ys) = some (source, after ++ ys) := by
  fun_induction readLiteral backslash cs generalizing source after with
  | case1 => contradiction
  | case2 rest ih =>
    simp only [Option.map_eq_some_iff, Prod.exists, Prod.mk.injEq] at found
    obtain ⟨inner, after, read, rfl, rfl⟩ := found
    rw [List.cons_append, List.cons_append, readLiteral, ih read ends]
    rfl
  | case3 rest single =>
    simp only [Option.some.injEq, Prod.mk.injEq] at found
    obtain ⟨rfl, rfl⟩ := found
    rw [List.cons_append, readLiteral_closing]
    cases rest with
    | nil => exact ends rfl
    | cons d rest =>
      simp only [List.cons_append, List.head?_cons, ne_eq, Option.some.injEq]
      rintro rfl
      exact single rest rfl
  | case4 c rest escapes ih =>
    simp only [Option.map_eq_some_iff, Prod.exists, Prod.mk.injEq] at found
    obtain ⟨inner, after, read, rfl, rfl⟩ := found
    rw [List.cons_append, List.cons_append, readLiteral, if_pos escapes, ih read ends]
    rfl
  | case5 c rest plain ih =>
    simp only [Option.map_eq_some_iff, Prod.exists, Prod.mk.injEq] at found
    obtain ⟨inner, after, read, rfl, rfl⟩ := found
    rw [List.cons_append, List.cons_append, readLiteral, if_neg plain, ← List.cons_append,
      ih read ends]
    rfl
  | case6 c rest _ other escape ih =>
    simp only [Option.map_eq_some_iff, Prod.exists, Prod.mk.injEq] at found
    obtain ⟨inner, after, read, rfl, rfl⟩ := found
    have plain : c = '\\' → backslash = false := by
      intro same
      cases rest with
      | nil => contradiction
      | cons d rest => exact (escape d rest same rfl).elim
    rw [List.cons_append, readLiteral_plain other plain, ih read ends]
    rfl

theorem readQuoted_closing (ends : rest.head? ≠ some quote) :
    readQuoted quote (quote :: rest) = some ([], [quote], rest) := by
  cases rest with
  | nil => simp [readQuoted]
  | cons d rest =>
    have other : d ≠ quote := by simpa using ends
    rw [readQuoted, if_pos rfl, if_neg other]

theorem readQuoted_plain (ne_quote : c ≠ quote) :
    readQuoted quote (c :: rest) =
      (readQuoted quote rest).map fun (identifier, source, after) =>
        (c :: identifier, c :: source, after) := by
  cases rest with
  | nil => simp [readQuoted, ne_quote]
  | cons d rest => rw [readQuoted, if_neg ne_quote]

theorem readQuoted_append (found : readQuoted quote cs = some (identifier, source, after))
    (ends : after = [] → ys.head? ≠ some quote) :
    readQuoted quote (cs ++ ys) = some (identifier, source, after ++ ys) := by
  fun_induction readQuoted quote cs generalizing identifier source after with
  | case1 => contradiction
  | case2 =>
    simp only [Option.some.injEq, Prod.mk.injEq] at found
    obtain ⟨rfl, rfl, rfl⟩ := found
    exact readQuoted_closing (ends rfl)
  | case3 => contradiction
  | case4 rest ih =>
    simp only [Option.map_eq_some_iff, Prod.exists, Prod.mk.injEq] at found
    obtain ⟨identifier, source, after, read, rfl, rfl, rfl⟩ := found
    rw [List.cons_append, List.cons_append, readQuoted, if_pos rfl, if_pos rfl, ih read ends]
    rfl
  | case5 d rest other =>
    simp only [Option.some.injEq, Prod.mk.injEq] at found
    obtain ⟨rfl, rfl, rfl⟩ := found
    exact readQuoted_closing (by simpa using other)
  | case6 c d rest other ih =>
    simp only [Option.map_eq_some_iff, Prod.exists, Prod.mk.injEq] at found
    obtain ⟨identifier, source, after, read, rfl, rfl, rfl⟩ := found
    rw [List.cons_append, readQuoted_plain other, ih read ends]
    rfl

theorem takeWhile_append_dropWhile_append {α : Type} {p : α → Bool} {xs ys : List α}
    (stops : xs.dropWhile p = [] → ∀ b ∈ ys.head?, p b = false) :
    (xs ++ ys).takeWhile p = xs.takeWhile p ∧ (xs ++ ys).dropWhile p = xs.dropWhile p ++ ys := by
  induction xs with
  | nil =>
    cases ys with
    | nil => exact ⟨rfl, rfl⟩
    | cons b ys => simp [stops rfl b rfl]
  | cons a xs ih =>
    by_cases here : p a = true
    · rw [List.dropWhile_cons_of_pos here] at stops
      simp [List.takeWhile_cons_of_pos here, List.dropWhile_cons_of_pos here, ih stops]
    · simp [List.takeWhile_cons_of_neg here, List.dropWhile_cons_of_neg here]

theorem readLiteral_source (found : readLiteral backslash cs = some (source, after)) :
    source ++ after = cs ∧ source.getLast? = some '\'' := by
  fun_induction readLiteral backslash cs generalizing source after <;>
    grind [Option.map_eq_some_iff, List.getLast?_cons]

theorem readQuoted_source (found : readQuoted quote cs = some (identifier, source, after)) :
    source ++ after = cs ∧ source.getLast? = some quote := by
  fun_induction readQuoted quote cs generalizing identifier source after <;>
    grind [Option.map_eq_some_iff, List.getLast?_cons]

/-- A token is read from the text up to what is left. -/
theorem next_source (step : next q c rest = .ok (token, after)) :
    token.source ++ after = c :: rest := by
  cases next_eq_ok_iff.mp step with
  | literal found => rw [source, List.cons_append, (readLiteral_source found).1]
  | quoted _ found => rw [source, List.cons_append, (readQuoted_source found).1]
  | run =>
    have whole : c :: (rest.takeWhile Text.isWordChar ++ rest.dropWhile Text.isWordChar) =
        c :: rest := by rw [List.takeWhile_append_dropWhile]
    split <;> exact whole
  | mark => rfl

/-- Whether a token goes on when a character follows it: a literal or a quoted identifier with
another quote, a run of word characters with another one. -/
def continues (q : Quoting) (c : Char) : Token → Bool
  | .literal _ => c == '\''
  | .quoted _ _ => c == q.quote
  | .word _ => Text.isWordChar c
  | .text source => source.any Text.isWordChar && Text.isWordChar c

/-- A token stays as it is when the text goes on with a character that does not continue it. -/
theorem next_append (step : next q c rest = .ok (token, after))
    (ends : after = [] → ∀ b ∈ ys.head?, token.continues q b = false) :
    next q c (rest ++ ys) = .ok (token, after ++ ys) := by
  cases next_eq_ok_iff.mp step with
  | literal found =>
    refine next_eq_ok_iff.mpr (.literal (readLiteral_append found fun empty closing => ?_))
    simpa [continues] using ends empty '\'' closing
  | quoted ne_literal found =>
    refine next_eq_ok_iff.mpr (.quoted ne_literal (readQuoted_append found fun empty closing => ?_))
    simpa [continues] using ends empty q.quote closing
  | run ne_literal ne_quote word =>
    have stops : rest.dropWhile Text.isWordChar = [] →
        ∀ b ∈ ys.head?, Text.isWordChar b = false := by
      intro empty b mem
      have stop := ends empty b mem
      split at stop <;> simpa [continues, word] using stop
    obtain ⟨taken, dropped⟩ := takeWhile_append_dropWhile_append stops
    rw [← taken, ← dropped]
    exact next_eq_ok_iff.mpr (.run ne_literal ne_quote word)
  | mark ne_literal ne_quote no_word =>
    exact next_eq_ok_iff.mpr (.mark ne_literal ne_quote no_word)

/-- Where a token at the end of a text may go on, neither of the characters that meet separates. -/
theorem not_separates_of_continues (step : next q c rest = .ok (token, after)) (empty : after = [])
    {b : Char} (goes_on : token.continues q b = true) :
    q.separates b = false ∧ ∃ a, (c :: rest).getLast? = some a ∧ q.separates a = false := by
  cases next_eq_ok_iff.mp step with
  | literal found =>
    obtain ⟨whole, last⟩ := readLiteral_source found
    rw [empty, List.append_nil] at whole
    have same : b = '\'' := by simpa [continues] using goes_on
    exact ⟨by simp [Quoting.separates, same], '\'', by simp [← whole, last, List.getLast?_cons],
      by simp [Quoting.separates]⟩
  | quoted _ found =>
    obtain ⟨whole, last⟩ := readQuoted_source found
    rw [empty, List.append_nil] at whole
    have same : b = q.quote := by simpa [continues] using goes_on
    exact ⟨by simp [Quoting.separates, same], q.quote, by simp [← whole, last, List.getLast?_cons],
      by simp [Quoting.separates]⟩
  | run _ _ word =>
    have further : Text.isWordChar b = true := by
      split at goes_on <;> simpa [continues, word] using goes_on
    have all : ∀ d ∈ c :: rest, Text.isWordChar d = true :=
      List.forall_mem_cons.mpr ⟨word, List.dropWhile_eq_nil_iff.mp empty⟩
    have last := List.getLast_mem (List.cons_ne_nil c rest)
    exact ⟨by simp [Quoting.separates, further], _,
      List.getLast?_eq_some_getLast (List.cons_ne_nil c rest),
      by simp [Quoting.separates, all _ last]⟩
  | mark _ _ no_word => simp [continues, no_word] at goes_on

end

namespace Reads

section

variable {q : Quoting} {cs xs ys : List Char} {tokens ts us : List Token}

/-- The tokens of a text put it together again. -/
theorem sources (reads : Reads q cs tokens) : tokens.flatMap Token.source = cs := by
  induction reads with
  | nil => rfl
  | cons step _ ih => rw [List.flatMap_cons, ih, next_source step]

/-- Texts are read one after the other where one of the characters that meet separates. -/
theorem append (left : Reads q xs ts) (right : Reads q ys us) (joins : q.Joins xs ys) :
    Reads q (xs ++ ys) (ts ++ us) := by
  induction left with
  | nil => exact right
  | @cons c rest after token tokens step others ih =>
    refine .cons (next_append step fun empty b mem => ?_) ?_
    · by_contra goes_on
      obtain ⟨first, a, last, joined⟩ :=
        not_separates_of_continues step empty (Bool.not_eq_false _ ▸ goes_on)
      rcases joins a last b mem with before | behind
      · simp [joined] at before
      · simp [first] at behind
    · by_cases ends : after = []
      · subst ends
        cases others
        exact right
      · refine ih fun a last => joins a ?_
        -- the rest of the text ends as the whole does
        rw [← next_source step, List.getLast?_append_of_ne_nil _ ends]
        exact last

/-- Text without quotes is read without identifiers and literals. -/
theorem exists_of_unquoted (unquoted : ∀ c ∈ cs, c ≠ '\'' ∧ c ≠ q.quote) :
    ∃ tokens, Reads q cs tokens ∧
      ∀ token ∈ tokens, (∃ source, token = .text source) ∨ ∃ source, token = .word source := by
  induction n : cs.length using Nat.strong_induction_on generalizing cs with
  | _ n ih =>
    cases cs with
    | nil => exact ⟨[], .nil, by simp⟩
    | cons c rest =>
      obtain ⟨no_literal, no_quote⟩ := unquoted c List.mem_cons_self
      by_cases word : Text.isWordChar c
      · have step : next q c rest = .ok (if c.isDigit
            then .text (c :: rest.takeWhile Text.isWordChar)
            else .word (c :: rest.takeWhile Text.isWordChar), rest.dropWhile Text.isWordChar) := by
          rw [next, if_neg no_literal, if_neg no_quote, if_pos word]
        have shorter := length_dropWhile_le Text.isWordChar rest
        rw [List.length_cons] at n
        obtain ⟨tokens, reads, plain⟩ := @ih (rest.dropWhile Text.isWordChar).length (by omega) _
          (fun d mem => unquoted d (.tail _ ((List.dropWhile_suffix _).subset mem))) rfl
        refine ⟨_, .cons step reads, List.forall_mem_cons.mpr ⟨?_, plain⟩⟩
        by_cases digit : c.isDigit
        · exact .inl ⟨_, by rw [if_pos digit]⟩
        · exact .inr ⟨_, by rw [if_neg digit]⟩
      · have step : next q c rest = .ok (.text [c], rest) := by
          rw [next, if_neg no_literal, if_neg no_quote, if_neg word]
        rw [List.length_cons] at n
        obtain ⟨tokens, reads, plain⟩ := @ih rest.length (by omega) rest
          (fun d mem => unquoted d (.tail _ mem)) rfl
        exact ⟨_, .cons step reads, List.forall_mem_cons.mpr ⟨.inl ⟨[c], rfl⟩, plain⟩⟩

/-- Text without quotes is read in the same way wherever no other quotes are in use. -/
theorem requote {p : Quoting} (reads : Reads p cs tokens)
    (unquoted : ∀ c ∈ cs, c ≠ '\'' ∧ c ≠ p.quote ∧ c ≠ q.quote) : Reads q cs tokens := by
  induction reads with
  | nil => exact .nil
  | cons step _ ih =>
    obtain ⟨no_literal, no_quote, no_other⟩ := unquoted _ List.mem_cons_self
    have rest := next_source step
    refine .cons ?_ (ih fun d mem => unquoted d (rest ▸ List.mem_append_right _ mem))
    rw [next, if_neg no_literal, if_neg no_quote] at step
    rw [next, if_neg no_literal, if_neg no_other]
    exact step

/-- Of two neighbours the second is part of a word only if it is a digit or continues one. -/
def Numeric (a b : Char) : Prop :=
  Text.isWordChar b = true → b.isDigit = true ∨ Text.isWordChar a = true

/-- Where no word starts with a letter, the tokens of unquoted text are plain text. -/
theorem text_of_numeric (reads : Reads q cs tokens)
    (unquoted : ∀ c ∈ cs, c ≠ '\'' ∧ c ≠ q.quote) {before : Char}
    (outside : Text.isWordChar before = false) (numeric : (before :: cs).IsChain Numeric) :
    ∀ token ∈ tokens, ∃ source, token = .text source := by
  induction reads generalizing before with
  | nil => simp
  | @cons c rest after token tokens step others ih =>
    obtain ⟨no_literal, no_quote⟩ := unquoted c List.mem_cons_self
    rw [List.isChain_cons_cons] at numeric
    rw [next, if_neg no_literal, if_neg no_quote] at step
    by_cases word : Text.isWordChar c
    · have digit : c.isDigit = true := (numeric.1 word).resolve_right (by simp [outside])
      simp only [if_pos word, if_pos digit, Except.ok.injEq, Prod.mk.injEq] at step
      obtain ⟨rfl, rfl⟩ := step
      have suffix := List.dropWhile_suffix (l := rest) Text.isWordChar
      refine List.forall_mem_cons.mpr ⟨⟨_, rfl⟩, ih (fun d mem => unquoted d
        (.tail _ (suffix.subset mem))) outside ?_⟩
      -- the character after a word is no word character
      cases dropped : rest.dropWhile Text.isWordChar with
      | nil => exact .singleton before
      | cons d left =>
        refine List.isChain_cons_cons.mpr ⟨fun again => ?_, ?_⟩
        · have stop := List.head?_dropWhile_not Text.isWordChar rest
          simp [dropped, again] at stop
        · rw [← dropped]
          exact numeric.2.tail.suffix suffix
    · simp only [if_neg word, Except.ok.injEq, Prod.mk.injEq] at step
      obtain ⟨rfl, rfl⟩ := step
      exact List.forall_mem_cons.mpr ⟨⟨_, rfl⟩, ih (fun d mem => unquoted d (.tail _ mem))
        (by simpa using word) numeric.2⟩

end

end Reads

end Token
end Sql
end ObjectQuery
