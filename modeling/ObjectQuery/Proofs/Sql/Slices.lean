/-
The tokens of a text, cut out of its bytes.

A text can be split in one pass over its characters, each of which comes with the byte that it starts
at.  What is read on the way is where a token stops; the token's source is then the slice of the text
between two bytes.  Such a slice is there only if both are where a character starts or the text ends
(`slice?`), so bytes that were counted wrongly would show.  The theorem this file is for is
`cut_eq_split`: every slice is there, and the tokens are those of `split`.
-/
import ObjectQuery.Proofs.Sql.Reading
import ObjectQuery.Proofs.Text.Utf8

namespace ObjectQuery
namespace Text

/-- The characters of a text, each with the byte that it starts at. -/
def indexed (offset : Nat) : List Char → List (Nat × Char)
  | [] => []
  | c :: rest => (offset, c) :: indexed (offset + c.utf8Size) rest

/-- The characters between two bytes of a text, if each byte is where a character starts or the text
ends. -/
def slice? (text : String) (start stop : Nat) : Option (List Char) :=
  if bounds : (⟨start⟩ : String.Pos.Raw).IsValid text ∧ (⟨stop⟩ : String.Pos.Raw).IsValid text ∧
      start ≤ stop then
    some (text.extract (text.pos ⟨start⟩ bounds.1) (text.pos ⟨stop⟩ bounds.2.1)).toList
  else none

namespace Utf8

theorem add_size_cons (offset : Nat) (c : Char) (cs : List Char) :
    offset + size (c :: cs) = offset + c.utf8Size + size cs := by
  rw [size, Nat.add_assoc]

theorem size_eq (cs : List Char) : size cs = (String.ofList cs).utf8ByteSize := by
  induction cs with
  | nil => rfl
  | cons c rest ih =>
    rw [size, ih, ← List.singleton_append, String.ofList_append, String.utf8ByteSize_append,
      ← String.singleton_eq_ofList, String.utf8ByteSize_singleton]

end Utf8

variable {text : String} {before part after : List Char}

theorem isValid_size (whole : text.toList = before ++ after) :
    (⟨Utf8.size before⟩ : String.Pos.Raw).IsValid text := by
  refine String.Pos.Raw.isValid_iff_exists_append.mpr
    ⟨String.ofList before, String.ofList after, ?_, ?_⟩
  · rw [← String.ofList_append, ← whole, String.ofList_toList]
  · rw [Utf8.size_eq]
    rfl

/-- Counted in bytes, what is between the characters before and the characters after is there. -/
theorem slice?_size (whole : text.toList = before ++ (part ++ after)) :
    slice? text (Utf8.size before) (Utf8.size before + Utf8.size part) = some part := by
  have first := isValid_size whole
  have last : (⟨Utf8.size (before ++ part)⟩ : String.Pos.Raw).IsValid text :=
    isValid_size (whole.trans (List.append_assoc ..).symm)
  rw [Utf8.size_append] at last
  rw [slice?, dif_pos ⟨first, last, Nat.le_add_right _ _⟩, Option.some.injEq]
  have bytes : text.toByteArray = (String.ofList before).toByteArray ++
      ((String.ofList part).toByteArray ++ (String.ofList after).toByteArray) := by
    rw [← String.toByteArray_append, ← String.toByteArray_append, ← String.ofList_append,
      ← String.ofList_append, ← whole, String.ofList_toList]
  have extracted : text.extract (text.pos _ first) (text.pos _ last) = String.ofList part := by
    rw [← String.toByteArray_inj, String.toByteArray_extract, bytes]
    simp only [String.offset_pos, Utf8.size_eq, ← String.size_toByteArray]
    exact (ByteArray.extract_append_size_add (i := 0)).trans
      (ByteArray.extract_append_eq_left rfl)
  rw [extracted, String.toList_ofList]

end Text

namespace Sql
namespace Token

/-- The error of a text that is not read on from a byte. -/
def Unterminated.error (what : Unterminated) (offset : Nat) : Error :=
  .renameAmbiguity ("unterminated " ++ what.name ++ " at offset " ++ toString offset)

/-! ## Where a token stops -/

/-- The byte behind the closing quote of a literal, and the characters after it. -/
def literalStop? (backslash : Bool) : List (Nat × Char) → Option (Nat × List (Nat × Char))
  | [] => none
  | (_, '\'') :: (_, '\'') :: rest => literalStop? backslash rest
  | (i, '\'') :: rest => some (i + 1, rest)
  | (_, '\\') :: next :: rest =>
    if backslash then literalStop? backslash rest else literalStop? backslash (next :: rest)
  | _ :: rest => literalStop? backslash rest

/-- The identifier up to the closing quote, the byte behind that quote, and the characters after
it. -/
def quotedStop? (quote : Char) : List (Nat × Char) → Option (List Char × Nat × List (Nat × Char))
  | [] => none
  | [(i, c)] => if c = quote then some ([], i + c.utf8Size, []) else none
  | (i, c) :: (j, d) :: rest =>
    if c = quote then
      if d = quote then
        (quotedStop? quote rest).map fun (identifier, stop) => (quote :: identifier, stop)
      else some ([], i + c.utf8Size, (j, d) :: rest)
    else
      (quotedStop? quote ((j, d) :: rest)).map fun (identifier, stop) => (c :: identifier, stop)

/-- The byte behind a run of word characters, and the characters after it. `stop` is the byte behind
those that were seen. -/
def wordStop (stop : Nat) : List (Nat × Char) → Nat × List (Nat × Char)
  | [] => (stop, [])
  | (i, c) :: rest =>
    if Text.isWordChar c then wordStop (i + c.utf8Size) rest else (stop, (i, c) :: rest)

/-- Cut a token's source out of the text, which fails without an error if the slice is not there. -/
def sliced (text : String) (start stop : Nat) (token : List Char → Token)
    (rest : List (Nat × Char)) : Except (Option Error) (Token × List (Nat × Char)) :=
  match Text.slice? text start stop with
  | some source => .ok (token source, rest)
  | none => .error none

/-- Cut out the token that starts at a character. -/
def cutNext (q : Quoting) (text : String) (start : Nat) (c : Char) (rest : List (Nat × Char)) :
    Except (Option Error) (Token × List (Nat × Char)) :=
  if c = '\'' then
    match literalStop? q.backslash rest with
    | some (stop, rest) => sliced text start stop .literal rest
    | none => .error (some (Unterminated.literal.error start))
  else if c = q.quote then
    match quotedStop? q.quote rest with
    | some (identifier, stop, rest) => sliced text start stop (.quoted identifier) rest
    | none => .error (some (Unterminated.identifier.error start))
  else if Text.isWordChar c then
    let (stop, rest) := wordStop (start + c.utf8Size) rest
    sliced text start stop (if c.isDigit then .text else .word) rest
  else sliced text start (start + c.utf8Size) .text rest

theorem literalStop?_length {backslash : Bool} {cs rest : List (Nat × Char)} {stop : Nat}
    (h : literalStop? backslash cs = some (stop, rest)) : rest.length ≤ cs.length := by
  fun_induction literalStop? backslash cs generalizing stop rest <;> grind

theorem quotedStop?_length {quote : Char} {cs rest : List (Nat × Char)} {identifier : List Char}
    {stop : Nat} (h : quotedStop? quote cs = some (identifier, stop, rest)) :
    rest.length ≤ cs.length := by
  fun_induction quotedStop? quote cs generalizing identifier stop rest <;>
    grind [Option.map_eq_some_iff]

theorem wordStop_length (stop : Nat) (cs : List (Nat × Char)) :
    (wordStop stop cs).2.length ≤ cs.length := by
  fun_induction wordStop stop cs <;> grind

theorem sliced_eq_ok {text : String} {start stop : Nat} {make : List Char → Token} {token : Token}
    {rest after : List (Nat × Char)} (h : sliced text start stop make rest = .ok (token, after)) :
    after = rest := by
  unfold sliced at h
  split at h <;> cases h
  rfl

theorem cutNext_length {q : Quoting} {text : String} {start : Nat} {c : Char}
    {rest after : List (Nat × Char)} {token : Token}
    (h : cutNext q text start c rest = .ok (token, after)) : after.length ≤ rest.length := by
  unfold cutNext at h
  split at h
  · split at h
    · next found => exact sliced_eq_ok h ▸ literalStop?_length found
    · cases h
  · split at h
    · split at h
      · next found => exact sliced_eq_ok h ▸ quotedStop?_length found
      · cases h
    · split at h
      · exact sliced_eq_ok h ▸ wordStop_length _ _
      · rw [sliced_eq_ok h]

/-- Cut the tokens out of a text, from a character on. -/
def cutFrom (q : Quoting) (text : String) (cs : List (Nat × Char)) :
    Except (Option Error) (List Token) :=
  match cs with
  | [] => .ok []
  | (start, c) :: rest =>
    match _found : cutNext q text start c rest with
    | .error e => .error e
    | .ok (token, after) => do
      let tokens ← cutFrom q text after
      return token :: tokens
termination_by cs.length
decreasing_by
  have := cutNext_length _found
  simp only [List.length_cons]
  omega

/-- Cut the tokens out of a text. The error is missing if a slice is not there. -/
def cut (q : Quoting) (text : String) : Except (Option Error) (List Token) :=
  cutFrom q text (Text.indexed 0 text.toList)

/-! ## The slices are there -/

section

variable {q : Quoting} {text : String} {backslash : Bool} {quote c : Char} {i : Nat}
  {rest : List (Nat × Char)}

theorem literalStop?_closing (ends : ∀ j tail, rest ≠ (j, '\'') :: tail) :
    literalStop? backslash ((i, '\'') :: rest) = some (i + 1, rest) := by
  rw [literalStop?]
  exact ends

theorem literalStop?_plain (ne_quote : c ≠ '\'')
    (plain : c = '\\' → backslash = false ∨ rest = []) :
    literalStop? backslash ((i, c) :: rest) = literalStop? backslash rest := by
  by_cases escape : c = '\\'
  · subst escape
    cases rest with
    | nil => rfl
    | cons next rest => rw [literalStop?, if_neg (by simpa using plain)]
  · rw [literalStop?]
    · exact fun _ _ _ same => (ne_quote (Prod.mk.inj same).2).elim
    · exact fun _ same => ne_quote (Prod.mk.inj same).2
    · exact fun _ _ _ same => (escape (Prod.mk.inj same).2).elim

theorem literalStop?_indexed (offset : Nat) (cs : List Char) :
    literalStop? backslash (Text.indexed offset cs) =
      (readLiteral backslash cs).map fun (source, after) =>
        (offset + Text.Utf8.size source, Text.indexed (offset + Text.Utf8.size source) after) := by
  fun_induction readLiteral backslash cs generalizing offset with
  | case1 => rfl
  | case2 rest ih =>
    rw [Text.indexed, Text.indexed, literalStop?, ih, Option.map_map]
    simp only [Function.comp_def, Text.Utf8.add_size_cons]
  | case3 rest single =>
    rw [Text.indexed, literalStop?_closing]
    · rfl
    · cases rest with
      | nil => simp [Text.indexed]
      | cons d rest =>
        rintro j tail same
        have first := congrArg List.head? same
        simp only [Text.indexed, List.head?_cons, Option.some.injEq, Prod.mk.injEq] at first
        exact single rest (first.2 ▸ rfl)
  | case4 c rest escapes ih =>
    rw [Text.indexed, Text.indexed, literalStop?, if_pos escapes, ih, Option.map_map]
    simp only [Function.comp_def, Text.Utf8.add_size_cons]
  | case5 c rest plain ih =>
    have no_escape : backslash = false := by simpa using plain
    rw [Text.indexed, literalStop?_plain (by decide) fun _ => .inl no_escape, ih, Option.map_map]
    simp only [Function.comp_def, Text.Utf8.add_size_cons]
  | case6 c rest _ other escape ih =>
    have plain : c = '\\' → backslash = false ∨
        Text.indexed (offset + c.utf8Size) rest = [] := by
      intro same
      cases rest with
      | nil => exact .inr rfl
      | cons d rest => exact (escape d rest same rfl).elim
    rw [Text.indexed, literalStop?_plain other plain, ih, Option.map_map]
    simp only [Function.comp_def, Text.Utf8.add_size_cons]

theorem quotedStop?_indexed (offset : Nat) (cs : List Char) :
    quotedStop? quote (Text.indexed offset cs) =
      (readQuoted quote cs).map fun (identifier, source, after) =>
        (identifier, offset + Text.Utf8.size source,
          Text.indexed (offset + Text.Utf8.size source) after) := by
  fun_induction readQuoted quote cs generalizing offset with
  | case1 => rfl
  | case2 =>
    rw [Text.indexed, Text.indexed, quotedStop?, if_pos rfl]
    rfl
  | case3 c other =>
    rw [Text.indexed, Text.indexed, quotedStop?, if_neg other]
    rfl
  | case4 rest ih =>
    rw [Text.indexed, Text.indexed, quotedStop?, if_pos rfl, if_pos rfl, ih, Option.map_map,
      Option.map_map]
    simp only [Function.comp_def, Text.Utf8.add_size_cons]
  | case5 d rest other =>
    rw [Text.indexed, Text.indexed, quotedStop?, if_pos rfl, if_neg other]
    rfl
  | case6 c d rest other ih =>
    rw [Text.indexed, Text.indexed, quotedStop?, if_neg other, ← Text.indexed, ih, Option.map_map,
      Option.map_map]
    simp only [Function.comp_def, Text.Utf8.add_size_cons]

theorem wordStop_indexed (offset : Nat) (cs : List Char) :
    wordStop offset (Text.indexed offset cs) =
      (offset + Text.Utf8.size (cs.takeWhile Text.isWordChar),
        Text.indexed (offset + Text.Utf8.size (cs.takeWhile Text.isWordChar))
          (cs.dropWhile Text.isWordChar)) := by
  induction cs generalizing offset with
  | nil => rfl
  | cons c rest ih =>
    rw [Text.indexed, wordStop]
    by_cases word : Text.isWordChar c = true
    · rw [if_pos word, ih, List.takeWhile_cons_of_pos word, List.dropWhile_cons_of_pos word,
        Text.Utf8.add_size_cons]
    · rw [if_neg word, List.takeWhile_cons_of_neg word, List.dropWhile_cons_of_neg word]
      rfl

theorem sliced_indexed {before source after : List Char} {token : List Char → Token}
    (whole : text.toList = before ++ (source ++ after)) (rest : List (Nat × Char)) :
    sliced text (Text.Utf8.size before) (Text.Utf8.size before + Text.Utf8.size source) token rest =
      .ok (token source, rest) := by
  rw [sliced, Text.slice?_size whole]

/-- One token is cut out as it is read. -/
theorem cutNext_indexed {before rest : List Char} {c : Char}
    (whole : text.toList = before ++ c :: rest) :
    cutNext q text (Text.Utf8.size before) c
        (Text.indexed (Text.Utf8.size before + c.utf8Size) rest) =
      match next q c rest with
      | .ok (token, after) =>
        .ok (token, Text.indexed (Text.Utf8.size before + Text.Utf8.size token.source) after)
      | .error what => .error (some (what.error (Text.Utf8.size before))) := by
  by_cases literal : c = '\''
  · subst literal
    rw [cutNext, if_pos rfl, next, if_pos rfl, literalStop?_indexed]
    cases found : readLiteral q.backslash rest with
    | none => rfl
    | some pair =>
      obtain ⟨source, after⟩ := pair
      rw [← (readLiteral_source found).1] at whole
      simp only [Option.map_some, ← Text.Utf8.add_size_cons]
      exact sliced_indexed whole _
  rw [cutNext, if_neg literal, next, if_neg literal]
  by_cases quoted : c = q.quote
  · subst quoted
    rw [if_pos rfl, if_pos rfl, quotedStop?_indexed]
    cases found : readQuoted q.quote rest with
    | none => rfl
    | some triple =>
      obtain ⟨identifier, source, after⟩ := triple
      rw [← (readQuoted_source found).1] at whole
      simp only [Option.map_some, ← Text.Utf8.add_size_cons]
      exact sliced_indexed whole _
  rw [if_neg quoted, if_neg quoted]
  by_cases word : Text.isWordChar c = true
  · rw [if_pos word, if_pos word, wordStop_indexed]
    rw [← List.takeWhile_append_dropWhile (p := Text.isWordChar) (l := rest)] at whole
    simp only [← Text.Utf8.add_size_cons]
    rw [sliced_indexed whole]
    split <;> rfl
  · rw [if_neg word, if_neg word]
    have mark : text.toList = before ++ ([c] ++ rest) := whole
    exact sliced_indexed mark _

theorem cutFrom_cons (q : Quoting) (text : String) (start : Nat) (c : Char)
    (rest : List (Nat × Char)) :
    cutFrom q text ((start, c) :: rest) = (do
      let (token, after) ← cutNext q text start c rest
      return token :: (← cutFrom q text after)) := by
  rw [cutFrom]
  split
  · next failed => rw [failed]; rfl
  · next found => rw [found]; rfl

theorem cutFrom_indexed {before cs : List Char} (whole : text.toList = before ++ cs) :
    cutFrom q text (Text.indexed (Text.Utf8.size before) cs) =
      (splitFrom q (Text.Utf8.size before) cs).mapError some := by
  generalize at_byte : Text.Utf8.size before = offset
  fun_induction splitFrom q offset cs generalizing before with
  | case1 =>
    rw [Text.indexed, cutFrom]
    rfl
  | case2 offset c rest what stop =>
    subst at_byte
    rw [Text.indexed, cutFrom_cons, cutNext_indexed whole, stop]
    rfl
  | case3 offset c rest token after step ih =>
    subst at_byte
    have further : text.toList = (before ++ token.source) ++ after := by
      rw [List.append_assoc, next_source step, whole]
    rw [Text.indexed, cutFrom_cons, cutNext_indexed whole, step, Outcome.ok_bind]
    simp only [ih further (Text.Utf8.size_append ..)]
    cases splitFrom q (Text.Utf8.size before + Text.Utf8.size token.source) after <;> rfl

/-- A text is cut into the tokens that it is split into, or both fail in the same place. -/
theorem cut_eq_split (q : Quoting) (text : String) :
    cut q text = (split q text).mapError some := by
  have whole : text.toList = [] ++ text.toList := rfl
  exact cutFrom_indexed whole

end

end Token
end Sql
end ObjectQuery
