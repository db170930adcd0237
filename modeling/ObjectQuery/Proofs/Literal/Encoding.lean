/-
Encoding as a projection.

A literal is of the kind that its field holds, or it is a text that the field could not read.  In
both cases encoding the literal again gives the same literal: numbers and truth values are kept as
they are, and a text that was not read before is not read now.  Nor is a text that encoding makes
itself, that of a number or of a truth value, read as something else.
-/
import ObjectQuery.Proofs.Literal
import ObjectQuery.Proofs.Number.Numeral
import ObjectQuery.Proofs.Number.Spelling
import ObjectQuery.Proofs.Plan.Resolution

namespace ObjectQuery

/-- Whether a value is of the kind that fields of a type hold. -/
def FieldType.holds : FieldType → Value → Bool
  | .string, .text _ => true
  | .integer, .int _ => true
  | .float, .float _ => true
  | .boolean, .bool _ => true
  | .date, .text _ => true
  | .timestamp, .text _ => true
  | _, _ => false

/-- Whether a text is the numeral of a whole number of 64 bits. -/
def Number.SpellsInt64 (text : String) : Prop :=
  ∃ i, Spells text.toList i ∧ -9223372036854775808 ≤ i ∧ i ≤ 9223372036854775807

/-- What holds of the literal of a value for a field, with or without a declared type. -/
structure Literal.IsProjection (type : Option FieldType) (value : Json) (literal : Value) :
    Prop where
  /-- Null is kept, and nothing else becomes null. -/
  null : literal = .null ↔ value = .null
  finite : literal.IsFinite
  kind : ∀ field, type = some field → value ≠ .null →
    field.holds literal = true ∨ literal = .text (Literal.scalarText value)
  /-- A text for a whole number is one that spells none, unchanged. -/
  unread : type = some .integer → ∀ text,
    literal = .text text ↔ value = .string text ∧ ¬Number.SpellsInt64 (Text.trim text)
  /-- The literal is its own literal. -/
  again : Literal.encode literal.toJson type = .ok literal

/-! ## Numbers as texts -/

namespace Number

theorem has_signed_64_iff {i : Int} :
    (IntegerRange.signed 64).has i = true ↔ -9223372036854775808 ≤ i ∧ i ≤ 9223372036854775807 := by
  rw [IntegerRange.has_iff]
  exact Iff.rfl

theorem isPlain_of_mem_write {n : JsonNumber} {c : Char} (mem : c ∈ n.write.toList) :
    isPlain c = true ∨ c = 'e' := by
  cases n with
  | integer value => exact .inl (isPlain_of_mem_toString_int mem)
  | float value finite =>
    obtain ⟨a, follows⟩ := exists_follows (Layout.isChain_write finite ' ') mem
    exact follows.imp_right And.left

theorem toLower_ne_of_mem_write {n : JsonNumber} {c : Char} (mem : c ∈ n.write.toList) :
    c.toLower ≠ 't' ∧ c.toLower ≠ 'f' := by
  -- The only letter in the text of a number is the mark of an exponent.
  rcases isPlain_of_mem_write mem with plain | rfl
  · simp only [isPlain, Bool.or_eq_true, beq_iff_eq] at plain
    rcases plain with ((digit | rfl) | rfl) | rfl
    · have digits : ∀ code < 58, 48 ≤ code →
          (Char.ofNat code).toLower ≠ 't' ∧ (Char.ofNat code).toLower ≠ 'f' := by decide
      have range : 48 ≤ c.toNat ∧ c.toNat ≤ 57 := Char.isDigit_iff_toNat.mp digit
      rw [← Char.ofNat_toNat c]
      exact digits c.toNat (by omega) range.1
    · decide
    · decide
    · decide
  · decide

end Number

namespace Literal

open Number

variable {type : Option FieldType} {field : FieldType} {value : Json} {literal : Value}
  {text : String}

theorem encode_eq_ok_iff : encode value type = .ok literal ↔ isScalar value = true ∧
    literal = type.elim (ofUntyped value) fun field => ofScalar field value := by
  unfold encode
  split
  · next scalar =>
    cases type with
    | none => simp [scalar, eq_comm]
    | some field => simp [scalar, eq_comm]
  · next composite => simp [composite]

theorem isScalar_toJson (literal : Value) : isScalar literal.toJson = true := by
  cases literal with
  | float value =>
    rw [Value.toJson]
    split <;> rfl
  | _ => rfl

theorem toJson_of_isFinite {x : Double} (finite : x.isFinite = true) :
    (Value.float x).toJson = .number (.float x finite) := by
  rw [Value.toJson, JsonNumber.ofDouble?, dif_pos finite]

theorem toInt64?_ofInt64 (i : Int64) : (JsonNumber.ofInt64 i).toInt64? = some i := by
  have fits : i.toInt < 9223372036854775808 := Int64.toInt_lt i
  rw [JsonNumber.ofInt64, JsonNumber.toInt64?, if_pos fits, Int64.ofInt_toInt]

theorem truncate_ofInt64 (i : Int64) : truncate (.ofInt64 i) = i := by
  rw [truncate, toInt64?_ofInt64]

/-! ## Texts that are read, or not -/

theorem ofIntegerText_eq_text_iff {other : String} :
    ofIntegerText text = .text other ↔ text = other ∧ ¬SpellsInt64 (Text.trim text) := by
  have bounds : (IntegerRange.signed 64).low < 0 ∧ 0 ≤ (IntegerRange.signed 64).high := by decide
  have spelled : SpellsInt64 (Text.trim text) ↔
      ∃ i, (IntegerRange.signed 64).read (Text.trim text) = .ok i := by
    simp only [SpellsInt64, IntegerRange.read_eq_ok_iff bounds.1 bounds.2, has_signed_64_iff]
  rw [spelled, ofIntegerText]
  cases (IntegerRange.signed 64).read (Text.trim text) with
  | ok i => simp
  | error fault => simp

theorem ofBooleanText_write (n : JsonNumber) : ofBooleanText n.write = .text n.write := by
  have differs (word : String) (letter : Char) (letter_mem : letter ∈ word.toList.map Char.toLower)
      (absent : ∀ c ∈ n.write.toList, c.toLower ≠ letter) :
      Text.sameIgnoringAsciiCase n.write word = false := by
    refine beq_eq_false_iff_ne.mpr fun same => ?_
    rw [← same, List.mem_map] at letter_mem
    obtain ⟨c, mem, lower⟩ := letter_mem
    exact absent c mem lower
  have no_true := differs "true" 't' (by decide) fun c mem => (toLower_ne_of_mem_write mem).1
  have no_false := differs "false" 'f' (by decide) fun c mem => (toLower_ne_of_mem_write mem).2
  rw [ofBooleanText, no_true, no_false]
  rfl

theorem ofFloatText_write_bool (b : Bool) :
    ofFloatText (Json.bool b).write = .text (Json.bool b).write := by
  cases b <;> decide +kernel

/-! ## Kinds -/

theorem holds_ofIntegerText (text : String) :
    FieldType.integer.holds (ofIntegerText text) = true ∨ ofIntegerText text = .text text := by
  rw [ofIntegerText]
  split
  · exact .inl rfl
  · exact .inr rfl

theorem holds_ofFloatText (text : String) :
    FieldType.float.holds (ofFloatText text) = true ∨ ofFloatText text = .text text := by
  rw [ofFloatText]
  split
  · split
    · exact .inl rfl
    · exact .inr rfl
  · exact .inr rfl

theorem holds_ofBooleanText (text : String) :
    FieldType.boolean.holds (ofBooleanText text) = true ∨ ofBooleanText text = .text text := by
  rw [ofBooleanText]
  split
  · exact .inl rfl
  · split
    · exact .inl rfl
    · exact .inr rfl

/-- A literal is of its field's kind, or it is a text that the field does not read. -/
theorem holds_ofScalar (field : FieldType) (scalar : isScalar value = true)
    (some_value : value ≠ .null) :
    field.holds (ofScalar field value) = true ∨
      ofScalar field value = .text (scalarText value) ∧
        ofScalar field (.string (scalarText value)) = .text (scalarText value) := by
  cases value with
  | null => exact (some_value rfl).elim
  | array => contradiction
  | object => contradiction
  | bool b =>
    cases field with
    | float => exact .inr ⟨rfl, ofFloatText_write_bool b⟩
    | _ => exact .inl rfl
  | number n =>
    cases field with
    | boolean => exact .inr ⟨rfl, ofBooleanText_write n⟩
    | _ => exact .inl rfl
  | string text =>
    cases field with
    | integer => exact (holds_ofIntegerText text).imp_right fun same => ⟨same, same⟩
    | float => exact (holds_ofFloatText text).imp_right fun same => ⟨same, same⟩
    | boolean => exact (holds_ofBooleanText text).imp_right fun same => ⟨same, same⟩
    | _ => exact .inl rfl

theorem ofScalar_eq_null_iff (scalar : isScalar value = true) :
    ofScalar field value = .null ↔ value = .null := by
  constructor
  · intro null
    by_contra some_value
    rcases holds_ofScalar field scalar some_value with holds | ⟨same, _⟩
    · rw [null] at holds
      cases field <;> contradiction
    · rw [null] at same
      contradiction
  · rintro rfl
    cases field <;> rfl

theorem ofUntyped_eq_null_iff (scalar : isScalar value = true) :
    ofUntyped value = .null ↔ value = .null := by
  cases value with
  | number n =>
    rw [ofUntyped]
    split <;> simp
  | array => contradiction
  | object => contradiction
  | _ => simp [ofUntyped]

theorem ofScalar_integer_eq_text_iff (scalar : isScalar value = true) :
    ofScalar .integer value = .text text ↔
      value = .string text ∧ ¬SpellsInt64 (Text.trim text) := by
  cases value with
  | string given =>
    rw [ofScalar, ofIntegerText_eq_text_iff, Json.string.injEq]
    exact and_congr_right fun same => same ▸ Iff.rfl
  | array => contradiction
  | object => contradiction
  | _ => simp [ofScalar]

/-! ## Encoding again -/

theorem ofScalar_toJson_of_holds (holds : field.holds literal = true) (finite : literal.IsFinite) :
    ofScalar field literal.toJson = literal := by
  cases literal with
  | null => cases field <;> contradiction
  | bool b =>
    cases field with
    | boolean => rfl
    | _ => contradiction
  | int i =>
    cases field with
    | integer => exact congrArg Value.int (truncate_ofInt64 i)
    | _ => contradiction
  | float x =>
    cases field with
    | float => rw [toJson_of_isFinite finite]; rfl
    | _ => contradiction
  | text text =>
    cases field with
    | string => rfl
    | date => rfl
    | timestamp => rfl
    | _ => contradiction

theorem ofScalar_toJson (scalar : isScalar value = true) :
    ofScalar field (ofScalar field value).toJson = ofScalar field value := by
  by_cases null : value = .null
  · subst null
    cases field <;> rfl
  · rcases holds_ofScalar field scalar null with holds | ⟨same, unread⟩
    · exact ofScalar_toJson_of_holds holds (isFinite_ofScalar field value)
    · rw [same]
      exact unread

theorem ofUntyped_toJson (value : Json) :
    ofUntyped (ofUntyped value).toJson = ofUntyped value := by
  cases value with
  | number n =>
    cases whole : n.toInt64? with
    | some i =>
      have same : ofUntyped (.number n) = .int i := by rw [ofUntyped, whole]
      rw [same, Value.toJson, ofUntyped, toInt64?_ofInt64]
    | none =>
      have same : ofUntyped (.number n) = .float n.toDouble := by rw [ofUntyped, whole]
      rw [same, toJson_of_isFinite n.isFinite_toDouble]
      rfl
  | _ => rfl

/-- Encoding fails for arrays and objects alone.  Any other value becomes a literal of its field's
kind or its own text, and encoding that literal changes nothing. -/
theorem encode_projects (value : Json) (type : Option FieldType) :
    Outcome.FailsIff Error.IsInvalidQuery (encode value type)
        ((∃ elements, value = .array elements) ∨ ∃ members, value = .object members) ∧
      ∀ literal, encode value type = .ok literal → IsProjection type value literal := by
  refine ⟨⟨?_, Plan.encode_failsWith value type⟩, fun literal encoded => ?_⟩
  · unfold encode
    cases value with
    | array elements => simp [isScalar]
    | object members => simp [isScalar]
    | _ => cases type <;> simp [isScalar]
  · have finite := isFinite_of_encode encoded
    obtain ⟨scalar, same⟩ := encode_eq_ok_iff.mp encoded
    have reencoded := isScalar_toJson literal
    cases type with
    | none =>
      subst same
      exact {
        null := ofUntyped_eq_null_iff scalar
        finite
        kind := fun _ typed => by contradiction
        unread := fun typed => by contradiction
        again := encode_eq_ok_iff.mpr ⟨reencoded, (ofUntyped_toJson value).symm⟩ }
    | some field =>
      subst same
      exact {
        null := ofScalar_eq_null_iff scalar
        finite
        kind := by
          rintro _ ⟨⟩ some_value
          exact (holds_ofScalar field scalar some_value).imp_right And.left
        unread := by
          rintro ⟨⟩ text
          exact ofScalar_integer_eq_text_iff scalar
        again := encode_eq_ok_iff.mpr ⟨reencoded, (ofScalar_toJson scalar).symm⟩ }

def twelve : Json := .number (.integer 12 (by decide) (by decide))

/-- A numeral among blanks is read, and a text that is no numeral keeps its blanks.  Fields of other
types read the words of their own, and a date takes a number as its text. -/
theorem isProjection_blanks :
    encode (.string " +12\t") (some .integer) = .ok (.int 12) ∧
      IsProjection (some .integer) (.string " +12\t") (.int 12) ∧
      encode (.string " 1_2\t") (some .integer) = .ok (.text " 1_2\t") ∧
      IsProjection (some .integer) (.string " 1_2\t") (.text " 1_2\t") ∧
      encode (.string " +12e0\t") (some .float) = .ok (.float (.ofInt .double 12)) ∧
      IsProjection (some .float) (.string " +12e0\t") (.float (.ofInt .double 12)) ∧
      encode (.string "TRUE") (some .boolean) = .ok (.bool true) ∧
      IsProjection (some .boolean) (.string "TRUE") (.bool true) ∧
      encode twelve (some .date) = .ok (.text "12") ∧
      IsProjection (some .date) twelve (.text "12") ∧
      encode twelve none = .ok (.int 12) ∧ IsProjection none twelve (.int 12) := by
  have read : encode (.string " +12\t") (some .integer) = .ok (.int 12) :=
    Outcome.eq_ok_of_toOption (by decide +kernel)
  have unread : encode (.string " 1_2\t") (some .integer) = .ok (.text " 1_2\t") :=
    Outcome.eq_ok_of_toOption (by decide +kernel)
  have float : encode (.string " +12e0\t") (some .float) = .ok (.float (.ofInt .double 12)) :=
    Outcome.eq_ok_of_toOption (by decide +kernel)
  have boolean : encode (.string "TRUE") (some .boolean) = .ok (.bool true) :=
    Outcome.eq_ok_of_toOption (by decide +kernel)
  have date : encode twelve (some .date) = .ok (.text "12") :=
    Outcome.eq_ok_of_toOption (by decide +kernel)
  have untyped : encode twelve none = .ok (.int 12) := Outcome.eq_ok_of_toOption (by decide +kernel)
  exact ⟨read, (encode_projects _ _).2 _ read, unread, (encode_projects _ _).2 _ unread,
    float, (encode_projects _ _).2 _ float, boolean, (encode_projects _ _).2 _ boolean,
    date, (encode_projects _ _).2 _ date, untyped, (encode_projects _ _).2 _ untyped⟩

end Literal
end ObjectQuery
