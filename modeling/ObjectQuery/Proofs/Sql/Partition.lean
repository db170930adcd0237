/-
A text is split into all of its parts, or up to a quote that nothing closes.

The tokens of a text are its bytes, cut between characters and put one behind the other.  What a
token can be is said by its own source (`Shaped`), and a token is never cut short: no word character
stands next to a run of them, and no literal, quoted identifier or word next to another one.  These
facts leave one way to divide the text, which is how it is split (`split_eq_ok_iff_partition`).
-/
import ObjectQuery.Proofs.Sql.Slices
import ObjectQuery.Proofs.Sql.Unterminated

namespace ObjectQuery
namespace Sql
namespace Token

inductive Kind
  | text
  | literal
  | quoted
  | word

def kind : Token → Kind
  | .text _ => .text
  | .literal _ => .literal
  | .quoted _ _ => .quoted
  | .word _ => .word

/-- What the source of a token can be. -/
inductive Shaped (q : Quoting) : Token → Prop
  | word {c : Char} {rest : List Char} (no_digit : c.isDigit = false)
      (run : ∀ d ∈ c :: rest, Text.isWordChar d = true) : Shaped q (.word (c :: rest))
  | quoted (identifier : List Char) :
      Shaped q (.quoted identifier (quoteChars q.quote identifier))
  | literal {body : List Char} (valid : LiteralBody q.backslash body) :
      Shaped q (.literal ('\'' :: body ++ ['\'']))
  | number {c : Char} {rest : List Char} (digit : c.isDigit = true)
      (run : ∀ d ∈ c :: rest, Text.isWordChar d = true) : Shaped q (.text (c :: rest))
  | mark {c : Char} (separates : q.separates c = true) : Shaped q (.text [c])

/-- Whether a token is a run of word characters. -/
def isRun (token : Token) : Bool := token.source.head?.any Text.isWordChar

/-- Whether tokens are all of a text, each as long as it can be. -/
structure Partition (q : Quoting) (text : String) (tokens : List Token) : Prop where
  sources : tokens.flatMap source = text.toList
  shaped : ∀ token ∈ tokens, token.Shaped q
  /-- No word character stands next to a run of word characters. -/
  maximal : ∀ before token after, tokens = before ++ token :: after → token.isRun = true →
    (∀ c ∈ (before.flatMap source).getLast?, Text.isWordChar c = false) ∧
      ∀ c ∈ (after.flatMap source).head?, Text.isWordChar c = false
  /-- Neighbours of one kind are plain text. -/
  apart : tokens.IsChain fun a b => a.kind = b.kind → a.kind = .text

section

variable {q : Quoting} {cs rest after : List Char} {c : Char} {token other : Token}
  {tokens before behind : List Token} {text : String}

/-! ## One token -/

theorem Step.shaped (step : Step q c rest token after) : token.Shaped q := by
  cases step with
  | literal found =>
    obtain ⟨body, valid, rfl⟩ := exists_body_of_readLiteral found
    exact .literal valid
  | quoted _ found => exact quoteChars_of_readQuoted found ▸ .quoted _
  | run _ _ word =>
    have run : ∀ d ∈ c :: rest.takeWhile Text.isWordChar, Text.isWordChar d = true :=
      List.forall_mem_cons.mpr ⟨word, fun d mem => List.mem_takeWhile_imp mem⟩
    by_cases digit : c.isDigit = true
    · exact if_pos digit ▸ .number digit run
    · exact if_neg digit ▸ .word (by simpa using digit) run
  | mark ne_literal ne_quote no_word =>
    exact .mark (by simp [Quoting.separates, ne_literal, ne_quote, no_word])

theorem separates_iff :
    q.separates c = true ↔ c ≠ '\'' ∧ c ≠ q.quote ∧ Text.isWordChar c = false := by
  simp [Quoting.separates, and_assoc]

/-- A run of word characters is read up to its end. -/
theorem step_run (proper : q.Proper) (run : ∀ d ∈ c :: rest, Text.isWordChar d = true) :
    Step q c rest (if c.isDigit then .text (c :: rest) else .word (c :: rest)) [] := by
  rw [List.forall_mem_cons] at run
  have ne_literal : c ≠ '\'' := by
    rintro rfl
    simp [isWordChar_literalQuote] at run
  have ne_quote : c ≠ q.quote := by
    rintro rfl
    simp [proper.no_word] at run
  have step : Step q c rest _ _ := .run ne_literal ne_quote run.1
  rwa [List.takeWhile_eq_self_iff.mpr run.2, List.dropWhile_eq_nil_iff.mpr run.2] at step

/-- A token is read from its source exactly if it has the shape of one. -/
theorem stands_iff_shaped (proper : q.Proper) : token.Stands q ↔ token.Shaped q := by
  constructor
  · intro stands
    obtain ⟨_, _, _, step⟩ := stands.exists_step
    exact step.shaped
  · intro shaped
    cases shaped with
    | word no_digit run =>
      have step := step_run proper run
      rw [if_neg (Bool.eq_false_iff.mp no_digit)] at step
      exact ⟨_, _, rfl, next_eq_ok_iff.mpr step⟩
    | quoted identifier =>
      exact ⟨_, _, rfl, next_eq_ok_iff.mpr (.quoted proper.ne_literal (readQuoted_doubled _))⟩
    | literal valid =>
      exact ⟨_, _, rfl, next_eq_ok_iff.mpr (.literal (readLiteral_of_body valid (by simp)))⟩
    | number digit run =>
      have step := step_run proper run
      rw [if_pos digit] at step
      exact ⟨_, _, rfl, next_eq_ok_iff.mpr step⟩
    | mark separates =>
      obtain ⟨ne_literal, ne_quote, no_word⟩ := separates_iff.mp separates
      exact ⟨_, _, rfl, next_eq_ok_iff.mpr (.mark ne_literal ne_quote no_word)⟩

theorem Shaped.source_ne_nil (shaped : token.Shaped q) : token.source ≠ [] := by
  cases shaped <;> exact List.cons_ne_nil _ _

/-- A token that a word character does not continue does not end with one. -/
theorem Shaped.getLast?_source (shaped : token.Shaped q) (proper : q.Proper)
    (word : Text.isWordChar c = true) (ends : token.continues q c = false) :
    ∀ d ∈ token.source.getLast?, Text.isWordChar d = false := by
  cases shaped with
  | word => simp [continues, word] at ends
  | quoted identifier =>
    have last : (quoteChars q.quote identifier).getLast? = some q.quote := List.getLast?_concat
    rw [source, last]
    rintro _ ⟨⟩
    exact proper.no_word
  | @literal body _ =>
    have last : ('\'' :: body ++ ['\'']).getLast? = some '\'' := List.getLast?_concat
    rw [source, last]
    rintro _ ⟨⟩
    exact isWordChar_literalQuote
  | number _ run => simp [continues, word, run _ List.mem_cons_self] at ends
  | mark separates => simpa [source] using (separates_iff.mp separates).2.2

/-- A run ends at the next character that is in no word. -/
theorem Shaped.not_isWordChar (shaped : token.Shaped q) (proper : q.Proper)
    (run : token.isRun = true) (ends : token.continues q c = false) :
    Text.isWordChar c = false := by
  cases shaped with
  | word => exact ends
  | quoted => simp [isRun, source, quoteChars, proper.no_word] at run
  | literal => simp [isRun, source, isWordChar_literalQuote] at run
  | number _ word =>
    rw [continues, List.any_eq_true.mpr ⟨_, List.mem_cons_self, word _ List.mem_cons_self⟩] at ends
    exact ends
  | mark separates => simp [isRun, source, (separates_iff.mp separates).2.2] at run

theorem kind_eq_quoted_iff : token.kind = .quoted ↔ token.isQuoted = true := by
  cases token <;> simp [kind, isQuoted]

/-- Literals are the tokens that start with their quote. -/
theorem Stands.kind_eq_literal_iff (ne_literal : q.quote ≠ '\'') (stands : token.Stands q) :
    token.kind = .literal ↔ token.source.head? = some '\'' := by
  obtain ⟨c, rest, head, step⟩ := stands.exists_step
  rw [head, Option.some.injEq]
  generalize [] = after at step
  cases step with
  | literal => simp [kind]
  | quoted => simp [kind, ne_literal]
  | run ne => split <;> simp [kind, ne]
  | mark ne => simp [kind, ne]

/-! ## All tokens of a text -/

/-- Tokens of one kind that keep from each other are plain text. -/
theorem KeepsFrom.kind_eq_text (keeps : token.KeepsFrom q other) (proper : q.Proper)
    (stands : other.Stands q) (same : token.kind = other.kind) : token.kind = .text := by
  cases token with
  | text => rfl
  | literal =>
    have head := (stands.kind_eq_literal_iff proper.ne_literal).mp same.symm
    simpa [continues] using keeps '\'' head
  | quoted =>
    have quoted := kind_eq_quoted_iff.mp same.symm
    have no_quoted := keeps.isQuoted_eq_false proper stands quoted
    contradiction
  | word =>
    cases other with
    | word => exact (keeps.not_words stands).elim
    | _ => contradiction

/-- Where tokens keep from each other, no word character stands next to a run. -/
theorem maximal_of_isChain (proper : q.Proper)
    (shaped : ∀ next ∈ before ++ token :: behind, next.Shaped q)
    (keep : (before ++ token :: behind).IsChain (KeepsFrom q)) (run : token.isRun = true) :
    (∀ c ∈ (before.flatMap source).getLast?, Text.isWordChar c = false) ∧
      ∀ c ∈ (behind.flatMap source).head?, Text.isWordChar c = false := by
  constructor
  · cases before using List.reverseRecOn with
    | nil => simp
    | append_singleton before last =>
      rw [List.append_assoc, List.singleton_append, List.isChain_append_cons_cons] at keep
      have last_shaped : last.Shaped q := shaped last (by simp)
      obtain ⟨c, head, word⟩ := (Option.any_eq_true _ _).mp run
      rw [List.flatMap_append, List.flatMap_singleton,
        List.getLast?_append_of_ne_nil _ last_shaped.source_ne_nil]
      exact last_shaped.getLast?_source proper word (keep.2.1 c head)
  · cases behind with
    | nil => simp
    | cons next behind =>
      rw [List.isChain_append_cons_cons] at keep
      have next_shaped : next.Shaped q := shaped next (by simp)
      have token_shaped : token.Shaped q := shaped token (by simp)
      rw [List.flatMap_cons, List.head?_append_of_ne_nil _ next_shaped.source_ne_nil]
      exact fun c head => token_shaped.not_isWordChar proper run (keep.2.1 c head)

theorem Reads.partition (proper : q.Proper) (reads : Reads q text.toList tokens) :
    Partition q text tokens := by
  obtain ⟨sources, stand, keep⟩ := reads_iff.mp reads
  have shaped : ∀ token ∈ tokens, token.Shaped q := fun token mem =>
    (stands_iff_shaped proper).mp (stand token mem)
  refine ⟨sources, shaped, ?_, List.isChain_iff_forall_rel_of_append_cons_cons.mpr ?_⟩
  · rintro before token after rfl run
    exact maximal_of_isChain proper shaped keep run
  · intro a b before after split same
    have keeps := List.isChain_iff_forall_rel_of_append_cons_cons.mp keep split
    exact keeps.kind_eq_text proper (stand b (by simp [split])) same

theorem Partition.reads (proper : q.Proper) (whole : Partition q text tokens) :
    Reads q text.toList tokens := by
  have stand : ∀ token ∈ tokens, token.Stands q := fun token mem =>
    (stands_iff_shaped proper).mpr (whole.shaped token mem)
  have apart := List.isChain_iff_forall_rel_of_append_cons_cons.mp whole.apart
  refine reads_iff.mpr ⟨whole.sources, stand, ?_⟩
  rw [List.isChain_iff_forall_rel_of_append_cons_cons]
  intro a b before after split c head
  have stands : b.Stands q := stand b (by simp [split])
  have ends (run : a.isRun = true) : Text.isWordChar c = false := by
    refine (whole.maximal before a (b :: after) split run).2 c ?_
    rw [List.flatMap_cons, List.head?_append_of_ne_nil _
      (whole.shaped b (by simp [split])).source_ne_nil]
    exact head
  have a_shaped : a.Shaped q := whole.shaped a (by simp [split])
  cases a_shaped with
  | word _ run => exact ends (by simp [isRun, source, run])
  | quoted =>
    refine beq_eq_false_iff_ne.mpr ?_
    rintro rfl
    have quoted := kind_eq_quoted_iff.mpr ((stands.isQuoted_iff proper.ne_literal).mpr head)
    have text := apart split quoted.symm
    contradiction
  | literal =>
    refine beq_eq_false_iff_ne.mpr ?_
    rintro rfl
    have text := apart split ((stands.kind_eq_literal_iff proper.ne_literal).mpr head).symm
    contradiction
  | number _ run => simp [continues, ends (by simp [isRun, source, run])]
  | mark separates => simp [continues, (separates_iff.mp separates).2.2]

/-- A text is split into some tokens exactly if they are all of it, each as long as it can be. -/
theorem split_eq_ok_iff_partition (proper : q.Proper) :
    split q text = .ok tokens ↔ Partition q text tokens :=
  split_eq_ok_iff.trans ⟨Reads.partition proper, Partition.reads proper⟩

end

/-- A text is split into the tokens that are all of it, or it is not read on from a quote: the text
before that quote is split by itself, and nothing closes the quote.  Every slice that is taken of the
text is between characters. -/
theorem split_partitions {q : Quoting} (proper : q.Proper) (text : String) :
    cut q text = (split q text).mapError some ∧
      ((∃ tokens, split q text = .ok tokens ∧ Partition q text tokens) ∨
        ∃ (what : Unterminated) (before opening : List Char) (tokens : List Token),
          split q text = .error (what.error (Text.Utf8.size before)) ∧
            text.toList = before ++ opening ∧ split q (String.ofList before) = .ok tokens ∧
            NeverCloses q what opening) := by
  refine ⟨cut_eq_split q text, ?_⟩
  cases done : split q text with
  | ok tokens => exact .inl ⟨tokens, rfl, (split_eq_ok_iff_partition proper).mp done⟩
  | error e =>
    obtain ⟨what, before, ⟨tokens, opening, whole, reads, never⟩, message⟩ :=
      splitFrom_eq_error proper done
    rw [Nat.zero_add] at message
    rw [← String.toList_ofList (l := before)] at reads
    exact .inr ⟨what, before, opening, tokens, congrArg Except.error message, whole,
      split_eq_ok_iff.mpr reads, never⟩

end Token
end Sql

namespace Cars

/-- Identifiers between broken bars, which take two bytes each. -/
def barred : Sql.Quoting := ⟨'¦', true⟩

def barredText : String := "größe FROM ¦wa¦¦gen¦ LIMIT 10 -- 'it\\'s'"

def barredTokens : List Sql.Token :=
  [.word "größe".toList, .text [' '], .word "FROM".toList, .text [' '],
    .quoted "wa¦gen".toList "¦wa¦¦gen¦".toList, .text [' '], .word "LIMIT".toList,
    .text [' '], .text "10".toList, .text [' '], .text ['-'], .text ['-'], .text [' '],
    .literal "'it\\'s'".toList]

theorem partition_barredText :
    barred.Proper ∧ Sql.Token.cut barred barredText = .ok barredTokens ∧
      Sql.Token.Partition barred barredText barredTokens := by
  have proper : barred.Proper := ⟨by decide, by decide +kernel⟩
  have done : Sql.Token.split barred barredText = .ok barredTokens :=
    Outcome.eq_ok_of_toOption (by decide +kernel)
  obtain ⟨slices, ⟨tokens, again, whole⟩ | ⟨_, _, _, _, failed, _⟩⟩ :=
    Sql.Token.split_partitions proper barredText
  · rw [done] at slices
    obtain rfl := Except.ok.inj (done.symm.trans again)
    exact ⟨proper, slices, whole⟩
  · rw [done] at failed
    contradiction

/-- An escape at the end of the text closes nothing. -/
example : Sql.Token.split barred "größe = 'it\\" =
    .error (.renameAmbiguity "unterminated string literal at offset 10") := by
  decide +kernel

end Cars
end ObjectQuery
