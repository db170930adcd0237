/-
What a statement's text is read as.

Identifiers and string values are read back as they were given, whatever characters they have, and
the words around them hold no quotes.  So the quoted identifiers of a text are those of the
statement, and its literals are the string values that were written into it.
-/
import ObjectQuery.Proofs.Number.Spelling
import ObjectQuery.Proofs.Sql.Outline
import ObjectQuery.Proofs.Sql.Reading
import ObjectQuery.Sql.Renaming

namespace ObjectQuery
namespace Sql

/-- The text that a string literal's content stands for: a doubled quote is one, and so is a doubled
backslash where it escapes. -/
def unescape (backslash : Bool) : List Char → List Char
  | [] => []
  | '\'' :: '\'' :: rest => '\'' :: unescape backslash rest
  | '\\' :: '\\' :: rest =>
    if backslash then '\\' :: unescape backslash rest else '\\' :: unescape backslash ('\\' :: rest)
  | c :: rest => c :: unescape backslash rest

namespace Token

/-- The identifier of a quoted token. -/
def identifier? : Token → Option String
  | .quoted identifier _ => some (String.ofList identifier)
  | _ => none

/-- The text of a literal token, without its quotes and unescaped. -/
def literal? (backslash : Bool) : Token → Option String
  | .literal source => some (String.ofList (unescape backslash source.tail.dropLast))
  | _ => none

end Token

/-! ## Identifiers -/

section

variable {q : Quoting} {backslash : Bool} {quote : Char}

theorem readQuoted_doubled (identifier : List Char) :
    Token.readQuoted quote
        ((identifier.flatMap fun c => if c = quote then [quote, quote] else [c]) ++ [quote]) =
      some (identifier,
        (identifier.flatMap fun c => if c = quote then [quote, quote] else [c]) ++ [quote], []) := by
  induction identifier with
  | nil => exact Token.readQuoted_closing (by simp)
  | cons c rest ih =>
    rw [List.flatMap_cons, List.append_assoc]
    by_cases doubled : c = quote
    · subst doubled
      simp only [if_true, List.cons_append, List.nil_append, Token.readQuoted]
      rw [ih]
      rfl
    · rw [if_neg doubled, List.singleton_append, Token.readQuoted_plain doubled, ih]
      rfl

theorem reads_quoteChars (apart : q.quote ≠ '\'') (identifier : List Char) :
    Token.Reads q (quoteChars q.quote identifier)
      [.quoted identifier (quoteChars q.quote identifier)] := by
  rw [quoteChars, List.cons_append]
  refine .cons ?_ .nil
  rw [Token.next, if_neg apart, if_pos rfl, readQuoted_doubled]

/-! ## Literals -/

theorem unescape_plain {c : Char} {rest : List Char} (ne_quote : c ≠ '\'')
    (plain : c = '\\' → backslash = false) :
    unescape backslash (c :: rest) = c :: unescape backslash rest := by
  by_cases escape : c = '\\'
  · subst escape
    by_cases doubled : rest.head? = some '\\'
    · obtain ⟨tail, rfl⟩ := List.head?_eq_some_iff.mp doubled
      rw [unescape, if_neg (by simp [plain])]
    · rw [unescape]
      · exact fun _ same => absurd same ne_quote
      · intro tail _ same
        simp [same] at doubled
  · rw [unescape]
    · exact fun _ same => absurd same ne_quote
    · exact fun _ same => absurd same escape

theorem unescape_escape (text : List Char) :
    unescape backslash (text.flatMap (escapeLiteralChar backslash)) = text := by
  induction text with
  | nil => rfl
  | cons c rest ih =>
    rw [List.flatMap_cons, escapeLiteralChar]
    by_cases quote : c = '\''
    · subst quote
      rw [if_pos rfl, List.cons_append, List.singleton_append, unescape, ih]
    · rw [if_neg quote]
      by_cases escaped : c = '\\' ∧ backslash = true
      · obtain ⟨rfl, rfl⟩ := escaped
        rw [if_pos (by simp), List.cons_append, List.singleton_append, unescape, if_pos rfl, ih]
      · rw [if_neg (by simpa using escaped), List.singleton_append,
          unescape_plain quote (by simpa using escaped), ih]

theorem readLiteral_escape (text : List Char) :
    Token.readLiteral backslash (text.flatMap (escapeLiteralChar backslash) ++ ['\'']) =
      some (text.flatMap (escapeLiteralChar backslash) ++ ['\''], []) := by
  induction text with
  | nil => rfl
  | cons c rest ih =>
    rw [List.flatMap_cons, List.append_assoc, escapeLiteralChar]
    by_cases quote : c = '\''
    · subst quote
      rw [if_pos rfl, List.cons_append, List.singleton_append, Token.readLiteral, ih]
      rfl
    · rw [if_neg quote]
      by_cases escaped : c = '\\' ∧ backslash = true
      · obtain ⟨rfl, rfl⟩ := escaped
        rw [if_pos (by simp), List.cons_append, List.singleton_append, Token.readLiteral,
          if_pos rfl, ih]
        rfl
      · rw [if_neg (by simpa using escaped), List.singleton_append,
          Token.readLiteral_plain quote (by simpa using escaped), ih]
        rfl

/-- A string value is read as one literal, which stands for the value. -/
theorem reads_quoteText (text : String) :
    Token.Reads q (quoteText q.backslash text).toList
      [.literal (quoteText q.backslash text).toList] := by
  rw [quoteText, String.toList_ofList, List.cons_append]
  refine .cons ?_ .nil
  rw [Token.next, if_pos rfl, readLiteral_escape]

theorem literal?_quoteText (text : String) :
    Token.literal? backslash (.literal (quoteText backslash text).toList) = some text := by
  rw [Token.literal?, quoteText, String.toList_ofList, List.cons_append, List.tail_cons,
    List.dropLast_concat, unescape_escape, String.ofList_toList]

end

/-! ## Words and numbers -/

def Token.isWording : Token → Bool
  | .text _ => true
  | .word source => keywords.contains (String.ofList source)
  | _ => false

/-- A text is read as keywords and plain text. -/
def Wording (kind : DatabaseKind) (cs : List Char) : Prop :=
  ∃ tokens, Token.Reads (.ofKind kind) cs tokens ∧ ∀ token ∈ tokens, token.isWording = true

/-- The texts that statements have outside of names, values and numbers, and the names of values. -/
def fixedTexts : List String :=
  ["SELECT ", ", ", " FROM ", " WHERE ", " AND ", " = ", " IS NULL", " ORDER BY ", " ASC", " DESC",
    " LIMIT ", " OFFSET ", ";", "NULL", "TRUE", "FALSE", "1", "0", "?", "$"]

section

variable {kind : DatabaseKind} {cs xs ys : List Char}

theorem wording_fixed (text : String) (fixed : text ∈ fixedTexts) : Wording kind text.toList := by
  have read : ∀ text ∈ fixedTexts,
      (Token.split (.ofKind .postgresql) text).toOption.any (·.all Token.isWording) = true := by
    decide +kernel
  have unquoted : ∀ text ∈ fixedTexts,
      text.toList.all (fun c => c != '\'' && c != '"' && c != '\x60') = true := by
    decide +kernel
  obtain ⟨tokens, found, wording⟩ := (Option.any_eq_true _ _).mp (read text fixed)
  have split := Token.split_eq_ok_iff.mp (Outcome.eq_ok_of_toOption found)
  refine ⟨tokens, split.requote fun c mem => ?_, List.all_eq_true.mp wording⟩
  have spared := List.all_eq_true.mp (unquoted text fixed) c mem
  simp only [Bool.and_eq_true, bne_iff_ne] at spared
  obtain ⟨⟨no_literal, no_quote⟩, no_backtick⟩ := spared
  cases kind with
  | mysql => exact ⟨no_literal, no_quote, no_backtick⟩
  | postgresql => exact ⟨no_literal, no_quote, no_quote⟩
  | sqlite => exact ⟨no_literal, no_quote, no_quote⟩

theorem Wording.append (left : Wording kind xs) (right : Wording kind ys)
    (joins : (Quoting.ofKind kind).Joins xs ys) : Wording kind (xs ++ ys) := by
  obtain ⟨ts, reads, words⟩ := left
  obtain ⟨us, reads', words'⟩ := right
  refine ⟨ts ++ us, reads.append reads' joins, fun token mem => ?_⟩
  exact (List.mem_append.mp mem).elim (words token) (words' token)

theorem isWordChar_of_isDigit {c : Char} (digit : c.isDigit = true) : Text.isWordChar c = true := by
  rw [Char.isDigit_iff_toNat] at digit
  have range : (48, 57) ∈ Text.alphanumeric := by decide
  rw [Text.isWordChar, Bool.or_eq_true]
  refine .inr (List.any_eq_true.mpr ⟨(48, 57), range, ?_⟩)
  simpa using digit

theorem unquoted_of_isPlain {c : Char} (plain : Number.isPlain c = true) :
    c ≠ '\'' ∧ c ≠ (Quoting.ofKind kind).quote := by
  constructor
  · rintro rfl
    contradiction
  · rintro rfl
    cases kind <;> contradiction

theorem numeric_of_follows {a b : Char} (follows : Number.Follows a b) :
    Token.Reads.Numeric a b := by
  intro word
  rcases follows with plain | ⟨_, digit⟩
  · by_cases digit : b.isDigit = true
    · exact .inl digit
    · -- a sign or a point is in no word
      have signs : ['+', '-', '.'].all (fun c => !Text.isWordChar c) = true := by decide +kernel
      simp only [Number.isPlain, Bool.or_eq_true, beq_iff_eq, digit, Bool.false_eq_true,
        false_or] at plain
      have sign : b ∈ ['+', '-', '.'] := by simpa [or_assoc] using plain
      have outside := List.all_eq_true.mp signs b sign
      simp [word] at outside
  · exact .inr (isWordChar_of_isDigit digit)

theorem wording_numeral (numeral : (' ' :: cs).IsChain Number.Follows) : Wording kind cs := by
  have unquoted : ∀ c ∈ cs, c ≠ '\'' ∧ c ≠ (Quoting.ofKind kind).quote := by
    intro c mem
    obtain ⟨before, follows⟩ := Number.exists_follows numeral mem
    rcases follows with plain | ⟨rfl, _⟩
    · exact unquoted_of_isPlain plain
    · cases kind <;> decide
  obtain ⟨tokens, reads, _⟩ := Token.Reads.exists_of_unquoted unquoted
  have numeric := numeral.imp fun a b => numeric_of_follows
  refine ⟨tokens, reads, fun token mem => ?_⟩
  obtain ⟨source, rfl⟩ := reads.text_of_numeric unquoted (by decide +kernel) numeric token mem
  rfl

end

end Sql
end ObjectQuery
