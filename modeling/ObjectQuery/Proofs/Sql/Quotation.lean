/-
The quoted parts of a statement's text are those of the statement.

The text is read phrase by phrase.  Words end where a name or a value starts and every phrase after
the first starts with a separator, so no token crosses from one part into the next.
-/
import ObjectQuery.Proofs.Literal
import ObjectQuery.Proofs.Sql.Legibility

namespace ObjectQuery

def Value.text? : Value → Option String
  | .text value => some value
  | _ => none

namespace Sql

/-- The string values of a statement, from left to right. -/
def Select.texts (select : Select) : List String := select.values.filterMap Value.text?

/-! ## Values -/

section

variable {kind : DatabaseKind} {value : Value} {cs : List Char}

theorem wording_nat (n : Nat) : Wording kind (toString n).toList :=
  wording_numeral (Number.isChain_of_isPlain fun _ => Number.isPlain_of_mem_toString)

theorem joins_of_separates {q : Quoting} {xs ys : List Char} {c : Char}
    (last : xs.getLast? = some c) (separates : q.separates c = true) : q.Joins xs ys := by
  intro a mem _ _
  rw [last, Option.mem_def, Option.some.injEq] at mem
  exact .inl (mem ▸ separates)

theorem wording_literalText (kind : DatabaseKind) (not_text : value.text? = none) (finite : value.IsFinite) :
    Wording kind (literalText kind value).toList := by
  cases value with
  | null => exact wording_fixed "NULL" (by decide)
  | bool value =>
    refine wording_fixed _ ?_
    cases kind <;> cases value <;> decide
  | int value =>
    exact wording_numeral (Number.isChain_of_isPlain fun _ => Number.isPlain_of_mem_toString_int)
  | float value => exact wording_numeral (Number.Layout.isChain_write finite ' ')
  | text value => contradiction

/-- Some characters that separate in every dialect. -/
def separators : List Char := [' ', ',', ';', '$', '?']

theorem separates_of_mem {c : Char} (mem : c ∈ separators) :
    (Quoting.ofKind kind).separates c = true := by
  have all_separate : separators.all (Quoting.ofKind kind).separates = true := by
    cases kind <;> decide +kernel
  exact List.all_eq_true.mp all_separate c mem

theorem wording_placeholder (kind : DatabaseKind) (n : Nat) : Wording kind (kind.placeholder n).toList := by
  cases kind with
  | mysql => exact wording_fixed "?" (by decide)
  | postgresql =>
    rw [DatabaseKind.placeholder, String.toList_append]
    exact (wording_fixed "$" (by decide)).append (wording_nat n)
      (joins_of_separates rfl (separates_of_mem (by decide)))
  | sqlite =>
    rw [DatabaseKind.placeholder, String.toList_append]
    exact (wording_fixed "?" (by decide)).append (wording_nat n)
      (joins_of_separates rfl (separates_of_mem (by decide)))

theorem unquoted_write {x : Number.Double} (infinite : x.isFinite = false) {c : Char}
    (mem : c ∈ (Number.Layout.exact.write x).toList) :
    c ≠ '\'' ∧ c ≠ (Quoting.ofKind kind).quote := by
  have words : ∀ word ∈ ["NaN", "inf", "-inf"],
      word.toList.all (fun c => c != '\'' && c != '"' && c != '\x60') = true := by
    decide
  have spared := List.all_eq_true.mp (words _ (Number.Layout.write_of_not_finite infinite)) c mem
  simp only [Bool.and_eq_true, bne_iff_ne] at spared
  obtain ⟨⟨no_literal, no_quote⟩, no_backtick⟩ := spared
  cases kind with
  | mysql => exact ⟨no_literal, no_backtick⟩
  | postgresql => exact ⟨no_literal, no_quote⟩
  | sqlite => exact ⟨no_literal, no_quote⟩

end

/-! ## Phrases -/

/-- The words that may stand before a name or a value. -/
def openings : List String := [", ", " FROM ", " WHERE ", " AND ", " = ", " ORDER BY "]

def closings : List String := [" IS NULL", " ASC", " DESC", ";"]

namespace Phrase

/-- A phrase that is not the first of a statement. -/
def IsFurther (phrase : Phrase) : Prop :=
  phrase.words ∈ openings ∨
    phrase.item = none ∧ (phrase.words ∈ closings ∨
      ∃ n : Nat, phrase.words = " LIMIT " ++ toString n ∨ phrase.words = " OFFSET " ++ toString n)

/-- The words are keywords, and a blank separates them from a name or a value. -/
structure Legible (kind : DatabaseKind) (phrase : Phrase) : Prop where
  wording : Wording kind phrase.words.toList
  spaced : phrase.item ≠ none → phrase.words.toList.getLast? = some ' '

def Separated (kind : DatabaseKind) (phrase : Phrase) : Prop :=
  ∃ c, phrase.words.toList.head? = some c ∧ (Quoting.ofKind kind).separates c = true

variable {kind : DatabaseKind} {phrase : Phrase}

theorem IsFurther.legible (further : phrase.IsFurther) : phrase.Legible kind := by
  have bounds (words : String) (fixed : words ∈ fixedTexts)
      (last : words.toList.getLast? = some ' ') (n : Nat) :
      Wording kind (words ++ toString n).toList := by
    rw [String.toList_append]
    exact (wording_fixed words fixed).append (wording_nat n)
      (joins_of_separates last (separates_of_mem (by decide)))
  rcases further with opening | ⟨bare, closing | ⟨n, limit | offset⟩⟩
  · have fixed : ∀ words ∈ openings,
        words ∈ fixedTexts ∧ words.toList.getLast? = some ' ' := by decide
    exact ⟨wording_fixed _ (fixed _ opening).1, fun _ => (fixed _ opening).2⟩
  · have fixed : ∀ words ∈ closings, words ∈ fixedTexts := by decide
    exact ⟨wording_fixed _ (fixed _ closing), fun item => absurd bare item⟩
  · exact ⟨limit ▸ bounds " LIMIT " (by decide) rfl n, fun item => absurd bare item⟩
  · exact ⟨offset ▸ bounds " OFFSET " (by decide) rfl n, fun item => absurd bare item⟩

theorem IsFurther.separated (further : phrase.IsFurther) : phrase.Separated kind := by
  rcases further with opening | ⟨_, closing | ⟨n, limit | offset⟩⟩
  · have starts : ∀ words ∈ openings, words.toList.head?.any separators.contains = true := by
      decide
    obtain ⟨c, head, mem⟩ := (Option.any_eq_true _ _).mp (starts _ opening)
    exact ⟨c, head, separates_of_mem (List.contains_iff_mem.mp mem)⟩
  · have starts : ∀ words ∈ closings, words.toList.head?.any separators.contains = true := by
      decide
    obtain ⟨c, head, mem⟩ := (Option.any_eq_true _ _).mp (starts _ closing)
    exact ⟨c, head, separates_of_mem (List.contains_iff_mem.mp mem)⟩
  · exact ⟨' ', by rw [limit, String.toList_append]; rfl, separates_of_mem (by decide)⟩
  · exact ⟨' ', by rw [offset, String.toList_append]; rfl, separates_of_mem (by decide)⟩

end Phrase

namespace Condition

mutual

theorem isFurther_phrases (condition : Condition) {words : String}
    (opening : words ∈ openings) :
    ∀ phrase ∈ phrases words condition, phrase.IsFurther := by
  match condition with
  | .equals column value =>
    have first : (⟨words, some (.name column)⟩ : Phrase).IsFurther := .inl opening
    have null : (⟨" IS NULL", none⟩ : Phrase).IsFurther := .inr ⟨rfl, .inl (by decide)⟩
    have equal : (⟨" = ", some (.value value)⟩ : Phrase).IsFurther :=
      .inl (show " = " ∈ openings by decide)
    cases value with
    | null => simp [phrases, first, null]
    | bool _ => simp [phrases, first, equal]
    | int _ => simp [phrases, first, equal]
    | float _ => simp [phrases, first, equal]
    | text _ => simp [phrases, first, equal]
  | .all [] =>
    have bare : (⟨words, none⟩ : Phrase).IsFurther := .inl opening
    simp [phrases, bare]
  | .all (operand :: rest) =>
    rw [phrases]
    intro phrase mem
    rcases List.mem_append.mp mem with first | further
    · exact isFurther_phrases operand opening phrase first
    · exact isFurther_furtherPhrases rest phrase further

theorem isFurther_furtherPhrases (operands : List Condition) :
    ∀ phrase ∈ furtherPhrases operands, phrase.IsFurther := by
  match operands with
  | [] => simp [furtherPhrases]
  | operand :: rest =>
    rw [furtherPhrases]
    intro phrase mem
    rcases List.mem_append.mp mem with first | further
    · exact isFurther_phrases operand (by decide) phrase first
    · exact isFurther_furtherPhrases rest phrase further

end

end Condition

namespace Select

theorem isFurther_orderPhrases (order : List OrderTerm) :
    ∀ phrase ∈ orderPhrases order, phrase.IsFurther := by
  have terms (words : String)
      (opening : words ∈ openings)
      (term : OrderTerm) : ∀ phrase ∈ termPhrases words term, phrase.IsFurther := by
    intro phrase mem
    rw [termPhrases, List.mem_cons, List.mem_singleton] at mem
    rcases mem with rfl | rfl
    · exact .inl opening
    · refine .inr ⟨rfl, .inl ?_⟩
      cases term.direction <;> decide
  cases order with
  | nil => simp [orderPhrases]
  | cons term rest =>
    intro phrase mem
    rw [orderPhrases, List.mem_append, List.mem_flatMap] at mem
    rcases mem with first | ⟨other, _, further⟩
    · exact terms " ORDER BY " (by decide) term phrase first
    · exact terms ", " (by decide) other phrase further

theorem isFurther_windowPhrases (window : Option Window) :
    ∀ phrase ∈ windowPhrases window, phrase.IsFurther := by
  cases window with
  | none => simp [windowPhrases]
  | some window =>
    intro phrase mem
    rw [windowPhrases, List.mem_cons] at mem
    rcases mem with rfl | offset
    · exact .inr ⟨rfl, .inr ⟨window.count, .inl rfl⟩⟩
    · split at offset
      · rw [List.mem_singleton] at offset
        exact offset ▸ .inr ⟨rfl, .inr ⟨window.offset, .inr rfl⟩⟩
      · contradiction

theorem phrases_eq_cons (select : Select) :
    ∃ item rest, select.phrases = ⟨"SELECT ", item⟩ :: rest ∧ ∀ phrase ∈ rest, phrase.IsFurther := by
  have others : ∀ phrase ∈ [⟨" FROM ", some (.name select.table)⟩]
      ++ conditionPhrases select.condition ++ orderPhrases select.order
      ++ windowPhrases select.window ++ [⟨";", none⟩], Phrase.IsFurther phrase := by
    intro phrase mem
    simp only [List.mem_append, List.mem_singleton] at mem
    rcases mem with (((rfl | condition) | order) | window) | rfl
    · exact .inl (show " FROM " ∈ openings by decide)
    · cases found : select.condition with
      | none => simp [found, conditionPhrases] at condition
      | some condition' =>
        rw [found, conditionPhrases] at condition
        exact condition'.isFurther_phrases (by decide) phrase condition
    · exact isFurther_orderPhrases _ phrase order
    · exact isFurther_windowPhrases _ phrase window
    · exact .inr ⟨rfl, .inl (by decide)⟩
  cases found : select.columns with
  | nil =>
    refine ⟨none, _, ?_, others⟩
    simp [phrases, found, columnPhrases]
  | cons column rest =>
    refine ⟨some (.name column.name), (rest.map fun column => ⟨", ", some (.name column.name)⟩) ++ _,
      ?_, fun phrase mem => (List.mem_append.mp mem).elim ?_ (others phrase)⟩
    · simp [phrases, found, columnPhrases]
    · intro further
      obtain ⟨column, _, rfl⟩ := List.mem_map.mp further
      exact .inl (show ", " ∈ openings by decide)

theorem legible_phrases (kind : DatabaseKind) (select : Select) :
    (∀ phrase ∈ select.phrases, phrase.Legible kind) ∧
      ∀ phrase ∈ select.phrases.tail, phrase.Separated kind := by
  obtain ⟨item, rest, split, further⟩ := select.phrases_eq_cons
  have blank : "SELECT ".toList.getLast? = some ' ' := by decide
  rw [split]
  refine ⟨List.forall_mem_cons.mpr ⟨⟨wording_fixed "SELECT " (by decide), fun _ => blank⟩, ?_⟩, ?_⟩
  · exact fun phrase mem => (further phrase mem).legible
  · exact fun phrase mem => (further phrase mem).separated

end Select

/-! ## Reading the phrases -/

section

variable {kind : DatabaseKind} {tokens : List Token}

theorem head_phrasesText {write : Nat → Value → String} {bound : Nat} {phrases : List Phrase}
    (separated : ∀ phrase ∈ phrases, phrase.Separated kind) :
    ∀ c ∈ (phrasesText kind write bound phrases).head?,
      (Quoting.ofKind kind).separates c = true := by
  cases phrases with
  | nil => simp [phrasesText]
  | cons phrase rest =>
    obtain ⟨first, head, separates⟩ := separated phrase List.mem_cons_self
    intro c mem
    rw [phrasesText, Phrase.text, List.append_assoc, List.head?_append, head] at mem
    simp only [Option.some_or, Option.mem_def, Option.some.injEq] at mem
    exact mem ▸ separates

theorem Phrase.Legible.reads {phrase : Phrase} (legible : phrase.Legible kind)
    {write : Value → String} (reads : Token.Reads (.ofKind kind) (phrase.itemText kind write) tokens) :
    ∃ words, (∀ token ∈ words, token.isWording = true) ∧
      words.flatMap Token.source = phrase.words.toList ∧
      Token.Reads (.ofKind kind) (phrase.text kind write) (words ++ tokens) := by
  obtain ⟨words, leads, wording⟩ := legible.wording
  refine ⟨words, wording, leads.sources, leads.append reads ?_⟩
  by_cases bare : phrase.item = none
  · have empty : phrase.itemText kind write = [] := by rw [itemText, bare]
    rw [empty]
    intro _ _ _ mem
    contradiction
  · exact joins_of_separates (legible.spaced bare) (separates_of_mem (by decide))

theorem isWording_silent (backslash : Bool) (wording : ∀ token ∈ tokens, token.isWording = true) :
    tokens.filterMap Token.identifier? = [] ∧ tokens.filterMap (Token.literal? backslash) = [] := by
  have silent : ∀ token ∈ tokens, token.identifier? = none ∧ token.literal? backslash = none := by
    intro token mem
    have quiet := wording token mem
    cases token with
    | text => exact ⟨rfl, rfl⟩
    | word => exact ⟨rfl, rfl⟩
    | literal => contradiction
    | quoted => contradiction
  exact ⟨List.filterMap_eq_nil_iff.mpr fun token mem => (silent token mem).1,
    List.filterMap_eq_nil_iff.mpr fun token mem => (silent token mem).2⟩

theorem filterMap_cons_toList {α β : Type} (f : α → Option β) (a : α) (l : List α) :
    (a :: l).filterMap f = (f a).toList ++ l.filterMap f := by
  cases found : f a with
  | none => simp [found]
  | some b => simp [found]

/-- Phrases are read as the identifiers they name and the literals of their values. -/
theorem exists_reads_phrases {write : Nat → Value → String} {literal : Value → Option String}
    (values : ∀ bound value, ∃ tokens, Token.Reads (.ofKind kind) (write bound value).toList tokens ∧
      tokens.filterMap Token.identifier? = [] ∧
      tokens.filterMap (Token.literal? kind.escapesBackslash) = (literal value).toList)
    {phrases : List Phrase} (legible : ∀ phrase ∈ phrases, phrase.Legible kind)
    (separated : ∀ phrase ∈ phrases.tail, phrase.Separated kind) (bound : Nat) :
    ∃ tokens, Token.Reads (.ofKind kind) (phrasesText kind write bound phrases) tokens ∧
      tokens.filterMap Token.identifier? = phrases.filterMap Phrase.name? ∧
      tokens.filterMap (Token.literal? kind.escapesBackslash) =
        (phrases.filterMap Phrase.value?).filterMap literal := by
  induction phrases generalizing bound with
  | nil => exact ⟨[], .nil, rfl, rfl⟩
  | cons phrase rest ih =>
    rw [List.forall_mem_cons] at legible
    have item : ∃ tokens,
        Token.Reads (.ofKind kind) (phrase.itemText kind (write bound)) tokens ∧
        tokens.filterMap Token.identifier? = phrase.name?.toList ∧
        tokens.filterMap (Token.literal? kind.escapesBackslash) =
          (phrase.value?.bind literal).toList := by
      obtain ⟨words, _ | identifier | value⟩ := phrase
      · exact ⟨[], .nil, rfl, rfl⟩
      · refine ⟨_, reads_quoteChars (by cases kind <;> decide) identifier.toList, ?_, rfl⟩
        simp [Token.identifier?, Phrase.name?]
      · exact values bound value
    obtain ⟨own, reads, names, literals⟩ := item
    obtain ⟨words, wording, _, here⟩ := legible.1.reads reads
    obtain ⟨later, others, names', literals'⟩ := ih legible.2
      (fun phrase mem => separated phrase (List.mem_of_mem_tail mem))
      (if phrase.value?.isSome then bound + 1 else bound)
    obtain ⟨no_names, no_literals⟩ := isWording_silent kind.escapesBackslash wording
    refine ⟨words ++ own ++ later, ?_, ?_, ?_⟩
    · exact here.append others fun _ _ c mem => .inr (head_phrasesText separated c mem)
    · rw [List.filterMap_append, List.filterMap_append, no_names, names, names',
        filterMap_cons_toList]
      rfl
    · rw [List.filterMap_append, List.filterMap_append, no_literals, literals, literals',
        filterMap_cons_toList Phrase.value?, List.filterMap_append]
      cases phrase.value? with
      | none => rfl
      | some value => simp [filterMap_cons_toList]

/-- Text without quotes is read without identifiers and literals. -/
theorem exists_reads_silent {cs : List Char} {backslash : Bool}
    (unquoted : ∀ c ∈ cs, c ≠ '\'' ∧ c ≠ (Quoting.ofKind kind).quote) :
    ∃ tokens, Token.Reads (.ofKind kind) cs tokens ∧ tokens.filterMap Token.identifier? = [] ∧
      tokens.filterMap (Token.literal? backslash) = [] := by
  obtain ⟨tokens, reads, plain⟩ := Token.Reads.exists_of_unquoted unquoted
  refine ⟨tokens, reads, List.filterMap_eq_nil_iff.mpr fun token mem => ?_,
    List.filterMap_eq_nil_iff.mpr fun token mem => ?_⟩
  · rcases plain token mem with ⟨_, rfl⟩ | ⟨_, rfl⟩ <;> rfl
  · rcases plain token mem with ⟨_, rfl⟩ | ⟨_, rfl⟩ <;> rfl

/-- A value in a statement's text is read as a literal if it is a string. -/
theorem exists_reads_literalText (value : Value) :
    ∃ tokens, Token.Reads (.ofKind kind) (literalText kind value).toList tokens ∧
      tokens.filterMap Token.identifier? = [] ∧
      tokens.filterMap (Token.literal? kind.escapesBackslash) = value.text?.toList := by
  have silent (not_text : value.text? = none) (finite : value.IsFinite) :
      ∃ tokens, Token.Reads (.ofKind kind) (literalText kind value).toList tokens ∧
        tokens.filterMap Token.identifier? = [] ∧
        tokens.filterMap (Token.literal? kind.escapesBackslash) = value.text?.toList := by
    obtain ⟨tokens, reads, wording⟩ := wording_literalText kind not_text finite
    rw [not_text]
    exact ⟨tokens, reads, isWording_silent _ wording⟩
  cases value with
  | text value =>
    refine ⟨_, reads_quoteText (q := .ofKind kind) value, rfl, ?_⟩
    rw [filterMap_cons_toList]
    exact congrArg (fun text => text.toList ++ []) (literal?_quoteText value)
  | float value =>
    by_cases finite : value.isFinite = true
    · exact silent rfl finite
    · exact exists_reads_silent fun c => unquoted_write (by simpa using finite)
  | null => exact silent rfl trivial
  | bool _ => exact silent rfl trivial
  | int _ => exact silent rfl trivial

theorem Select.exists_reads_write (kind : DatabaseKind) (select : Select)
    (parameters : Parameters) :
    ∃ tokens, Token.Reads (.ofKind kind) (select.write kind parameters).1.toList tokens ∧
      tokens.filterMap Token.identifier? = select.identifiers ∧
      tokens.filterMap (Token.literal? kind.escapesBackslash) =
        match parameters with
        | .inline => select.texts
        | .collect _ => [] := by
  obtain ⟨legible, separated⟩ := select.legible_phrases kind
  simp only [write_phrases, ← names_phrases, texts, ← values_phrases]
  cases parameters with
  | inline =>
    exact exists_reads_phrases (fun _ => exists_reads_literalText) legible separated 0
  | collect values =>
    have placeholders (bound : Nat) (value : Value) :
        ∃ tokens, Token.Reads (.ofKind kind) (kind.placeholder (bound + 1)).toList tokens ∧
          tokens.filterMap Token.identifier? = [] ∧
          tokens.filterMap (Token.literal? kind.escapesBackslash) =
            (none : Option String).toList := by
      obtain ⟨tokens, reads, wording⟩ := wording_placeholder kind (bound + 1)
      exact ⟨tokens, reads, isWording_silent _ wording⟩
    obtain ⟨tokens, reads, names, literals⟩ :=
      exists_reads_phrases placeholders legible separated values.length
    exact ⟨tokens, reads, names, by simpa using literals⟩

/-- The text of any statement is split into tokens.  Its quoted identifiers are those of the
statement, and its literals stand for the string values that are written into it, both in order;
nothing is read from inside of either. -/
theorem Select.split_write (kind : DatabaseKind) (select : Select) (parameters : Parameters) :
    ∃ tokens, Token.split (.ofKind kind) (select.write kind parameters).1 = .ok tokens ∧
      tokens.filterMap Token.identifier? = select.identifiers ∧
      tokens.filterMap (Token.literal? kind.escapesBackslash) =
        match parameters with
        | .inline => select.texts
        | .collect _ => [] := by
  obtain ⟨tokens, reads, contents⟩ := select.exists_reads_write kind parameters
  exact ⟨tokens, Token.split_eq_ok_iff.mpr reads, contents⟩

end

end Sql
end ObjectQuery
