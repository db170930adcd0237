/-
Statements as phrases.

A phrase is fixed words, and a name or a value after them.  The words of every phrase but the first
start with a separator, and they end with one before a name or a value, so the text of a statement
falls apart into the texts of its phrases.  Phrases do not depend on the dialect.
-/
import ObjectQuery.Proofs.Sql.Pieces

namespace ObjectQuery
namespace Sql

/-- What follows the words of a phrase. -/
inductive Item
  | name (identifier : String)
  | value (value : Value)

/-- Words, and what follows them. -/
structure Phrase where
  words : String
  item : Option Item

namespace Phrase

def pieces (kind : DatabaseKind) (phrase : Phrase) : List Piece :=
  .fixed phrase.words ::
    match phrase.item with
    | none => []
    | some (.name identifier) => [identifierPiece kind identifier]
    | some (.value value) => [.value value]

def name? (phrase : Phrase) : Option String :=
  match phrase.item with
  | some (.name identifier) => some identifier
  | _ => none

def value? (phrase : Phrase) : Option Value :=
  match phrase.item with
  | some (.value value) => some value
  | _ => none

end Phrase

namespace Condition

mutual

/-- A condition's phrases, the first of which starts with given words. -/
def phrases (words : String) : Condition → List Phrase
  | .equals column .null => [⟨words, some (.name column)⟩, ⟨" IS NULL", none⟩]
  | .equals column value => [⟨words, some (.name column)⟩, ⟨" = ", some (.value value)⟩]
  | .all [] => [⟨words, none⟩]
  | .all (operand :: rest) => phrases words operand ++ furtherPhrases rest

/-- The phrases of the conditions after the first of a conjunction. -/
def furtherPhrases : List Condition → List Phrase
  | [] => []
  | operand :: rest => phrases " AND " operand ++ furtherPhrases rest

end

mutual

def columns : Condition → List String
  | .equals column _ => [column]
  | .all operands => columnsOfAll operands

def columnsOfAll : List Condition → List String
  | [] => []
  | operand :: rest => columns operand ++ columnsOfAll rest

end

mutual

/-- The values of a condition, from left to right. Null is none. -/
def values : Condition → List Value
  | .equals _ .null => []
  | .equals _ value => [value]
  | .all operands => valuesOfAll operands

def valuesOfAll : List Condition → List Value
  | [] => []
  | operand :: rest => values operand ++ valuesOfAll rest

end

end Condition

namespace Select

def columnPhrases : List Column → List Phrase
  | [] => [⟨"SELECT ", none⟩]
  | column :: rest =>
    ⟨"SELECT ", some (.name column.name)⟩
      :: rest.map fun column => ⟨", ", some (.name column.name)⟩

def conditionPhrases : Option Condition → List Phrase
  | none => []
  | some condition => condition.phrases " WHERE "

def termPhrases (words : String) (term : OrderTerm) : List Phrase :=
  [⟨words, some (.name term.column)⟩, ⟨" " ++ term.direction.keyword, none⟩]

def orderPhrases : List OrderTerm → List Phrase
  | [] => []
  | term :: rest => termPhrases " ORDER BY " term ++ rest.flatMap (termPhrases ", ")

def windowPhrases : Option Window → List Phrase
  | none => []
  | some window =>
    ⟨" LIMIT " ++ toString window.count, none⟩
      :: (if 0 < window.offset then [⟨" OFFSET " ++ toString window.offset, none⟩] else [])

def phrases (select : Select) : List Phrase :=
  columnPhrases select.columns ++ [⟨" FROM ", some (.name select.table)⟩]
    ++ conditionPhrases select.condition ++ orderPhrases select.order
    ++ windowPhrases select.window ++ [⟨";", none⟩]

/-- The identifiers of a statement: columns, table, filtered columns, ordering columns. -/
def identifiers (select : Select) : List String :=
  select.columns.map Column.name ++ [select.table]
    ++ (select.condition.map Condition.columns).getD [] ++ select.order.map OrderTerm.column

def values (select : Select) : List Value := (select.condition.map Condition.values).getD []

end Select

/-! ## The phrases are the statement's pieces -/

section

variable {kind : DatabaseKind}

namespace Condition

mutual

theorem pieces_phrases (condition : Condition) (words : String) :
    (phrases words condition).flatMap (Phrase.pieces kind) =
      .fixed words :: pieces kind condition := by
  match condition with
  | .equals column value => cases value <;> rfl
  | .all [] => rfl
  | .all (operand :: rest) =>
    rw [phrases, List.flatMap_append, pieces_phrases operand, pieces_furtherPhrases rest, pieces,
      piecesOfAll, separated_cons, List.cons_append]

theorem pieces_furtherPhrases (operands : List Condition) :
    (furtherPhrases operands).flatMap (Phrase.pieces kind) =
      (piecesOfAll kind operands).flatMap fun pieces => .fixed " AND " :: pieces := by
  match operands with
  | [] => rfl
  | operand :: rest =>
    rw [furtherPhrases, List.flatMap_append, pieces_phrases operand, pieces_furtherPhrases rest,
      piecesOfAll, List.flatMap_cons]

end

mutual

theorem names_phrases (condition : Condition) (words : String) :
    (phrases words condition).filterMap Phrase.name? = condition.columns := by
  match condition with
  | .equals column value => cases value <;> rfl
  | .all [] => rfl
  | .all (operand :: rest) =>
    rw [phrases, List.filterMap_append, names_phrases operand, names_furtherPhrases rest, columns,
      columnsOfAll]

theorem names_furtherPhrases (operands : List Condition) :
    (furtherPhrases operands).filterMap Phrase.name? = columnsOfAll operands := by
  match operands with
  | [] => rfl
  | operand :: rest =>
    rw [furtherPhrases, List.filterMap_append, names_phrases operand, names_furtherPhrases rest,
      columnsOfAll]

end

mutual

theorem values_phrases (condition : Condition) (words : String) :
    (phrases words condition).filterMap Phrase.value? = condition.values := by
  match condition with
  | .equals column value => cases value <;> rfl
  | .all [] => rfl
  | .all (operand :: rest) =>
    rw [phrases, List.filterMap_append, values_phrases operand, values_furtherPhrases rest, values,
      valuesOfAll]

theorem values_furtherPhrases (operands : List Condition) :
    (furtherPhrases operands).filterMap Phrase.value? = valuesOfAll operands := by
  match operands with
  | [] => rfl
  | operand :: rest =>
    rw [furtherPhrases, List.filterMap_append, values_phrases operand, values_furtherPhrases rest,
      valuesOfAll]

end

end Condition

namespace Select

theorem pieces_columnPhrases (columns : List Column) :
    (columnPhrases columns).flatMap (Phrase.pieces kind) =
      .fixed "SELECT " :: columnPieces kind columns := by
  cases columns with
  | nil => rfl
  | cons column rest =>
    rw [columnPhrases, columnPieces, List.map_cons, separated_cons, List.flatMap_cons,
      List.flatMap_map, List.flatMap_map]
    rfl

theorem pieces_orderPhrases (order : List OrderTerm) :
    (orderPhrases order).flatMap (Phrase.pieces kind) = orderPieces kind order := by
  cases order with
  | nil => rfl
  | cons term rest =>
    rw [orderPhrases, orderPieces, List.map_cons, if_neg (by simp), separated_cons,
      List.flatMap_append, List.flatMap_assoc, List.flatMap_map]
    rfl

theorem pieces_windowPhrases (window : Option Window) :
    (windowPhrases window).flatMap (Phrase.pieces kind) = windowPieces window := by
  cases window with
  | none => rfl
  | some window =>
    rw [windowPhrases, windowPieces]
    split <;> rfl

theorem pieces_phrases (select : Select) :
    select.phrases.flatMap (Phrase.pieces kind) = select.pieces kind := by
  have condition : (conditionPhrases select.condition).flatMap (Phrase.pieces kind) =
      conditionPieces kind select.condition := by
    cases select.condition with
    | none => rfl
    | some condition => exact condition.pieces_phrases " WHERE "
  simp only [phrases, pieces, List.flatMap_append, pieces_columnPhrases, condition,
    pieces_orderPhrases, pieces_windowPhrases]
  simp [Phrase.pieces]

theorem names_termPhrases (words : String) (term : OrderTerm) :
    (termPhrases words term).filterMap Phrase.name? = [term.column] := rfl

/-- The phrases of a statement name its identifiers. -/
theorem names_phrases (select : Select) :
    select.phrases.filterMap Phrase.name? = select.identifiers := by
  have columns : (columnPhrases select.columns).filterMap Phrase.name? =
      select.columns.map Column.name := by
    cases select.columns with
    | nil => rfl
    | cons column rest =>
      have others : (rest.map fun column => Phrase.mk ", " (some (.name column.name))).filterMap
          Phrase.name? = rest.map Column.name := by
        rw [List.filterMap_map]
        exact congrFun List.filterMap_eq_map' rest
      exact congrArg (column.name :: ·) others
  have condition : (conditionPhrases select.condition).filterMap Phrase.name? =
      (select.condition.map Condition.columns).getD [] := by
    cases select.condition with
    | none => rfl
    | some condition => exact condition.names_phrases " WHERE "
  have order : (orderPhrases select.order).filterMap Phrase.name? =
      select.order.map OrderTerm.column := by
    cases select.order with
    | nil => rfl
    | cons term rest =>
      rw [orderPhrases, List.filterMap_append, names_termPhrases, List.filterMap_flatMap]
      simp only [names_termPhrases, ← List.map_eq_flatMap]
      rfl
  have window : (windowPhrases select.window).filterMap Phrase.name? = [] := by
    cases select.window with
    | none => rfl
    | some window =>
      rw [windowPhrases]
      split <;> rfl
  simp only [phrases, List.filterMap_append, columns, condition, order, window, identifiers]
  simp [Phrase.name?]

theorem values_phrases (select : Select) :
    select.phrases.filterMap Phrase.value? = select.values := by
  have columns : (columnPhrases select.columns).filterMap Phrase.value? = [] := by
    cases select.columns with
    | nil => rfl
    | cons column rest =>
      rw [columnPhrases, List.filterMap_cons_none rfl, List.filterMap_map]
      exact List.filterMap_eq_nil_iff.mpr fun _ _ => rfl
  have condition : (conditionPhrases select.condition).filterMap Phrase.value? =
      (select.condition.map Condition.values).getD [] := by
    cases select.condition with
    | none => rfl
    | some condition => exact condition.values_phrases " WHERE "
  have order : (orderPhrases select.order).filterMap Phrase.value? = [] := by
    refine List.filterMap_eq_nil_iff.mpr fun phrase mem => ?_
    cases found : select.order with
    | nil => simp [found, orderPhrases] at mem
    | cons term rest =>
      simp only [found, orderPhrases, termPhrases, List.mem_append, List.mem_flatMap, List.mem_cons,
        List.not_mem_nil, or_false] at mem
      rcases mem with (rfl | rfl) | ⟨_, _, rfl | rfl⟩ <;> rfl
  have window : (windowPhrases select.window).filterMap Phrase.value? = [] := by
    cases select.window with
    | none => rfl
    | some window =>
      rw [windowPhrases]
      split <;> rfl
  have table : [Phrase.mk " FROM " (some (.name select.table))].filterMap Phrase.value? = [] := rfl
  have closing : [Phrase.mk ";" none].filterMap Phrase.value? = [] := rfl
  simp only [phrases, List.filterMap_append, columns, condition, order, window, table, closing,
    values, List.nil_append, List.append_nil]

end Select

end

/-! ## The text of phrases -/

namespace Phrase

/-- The text behind a phrase's words, given how a value is written. -/
def itemText (kind : DatabaseKind) (write : Value → String) (phrase : Phrase) : List Char :=
  match phrase.item with
  | none => []
  | some (.name identifier) => quoteChars kind.identifierQuote identifier.toList
  | some (.value value) => (write value).toList

/-- A phrase's text, given how a value is written. -/
def text (kind : DatabaseKind) (write : Value → String) (phrase : Phrase) : List Char :=
  phrase.words.toList ++ phrase.itemText kind write

end Phrase

/-- The text of phrases, given how a value is written behind a number of others. -/
def phrasesText (kind : DatabaseKind) (write : Nat → Value → String) :
    Nat → List Phrase → List Char
  | _, [] => []
  | bound, phrase :: rest =>
    phrase.text kind (write bound) ++
      phrasesText kind write (if phrase.value?.isSome then bound + 1 else bound) rest

namespace Parameters

/-- How a value is written when a number of values is bound already. -/
def writeValue (kind : DatabaseKind) : Parameters → Nat → Value → String
  | .inline, _, value => literalText kind value
  | .collect _, bound, _ => kind.placeholder (bound + 1)

def bound : Parameters → Nat
  | .inline => 0
  | .collect values => values.length

end Parameters

section

variable {kind : DatabaseKind}

theorem inlineText_pieces (bound : Nat) (phrases : List Phrase) :
    (inlineText kind (phrases.flatMap (Phrase.pieces kind))).toList =
      phrasesText kind (Parameters.inline.writeValue kind) bound phrases := by
  induction phrases generalizing bound with
  | nil => rfl
  | cons phrase rest ih =>
    obtain ⟨words, item⟩ := phrase
    rw [List.flatMap_cons, phrasesText, ← ih]
    rcases item with _ | identifier | value
    · simp [Phrase.pieces, Phrase.text, Phrase.itemText, inlineText]
    · simp [Phrase.pieces, Phrase.text, Phrase.itemText, inlineText, identifierPiece,
        quoteIdentifier]
    · simp [Phrase.pieces, Phrase.text, Phrase.itemText, inlineText, Parameters.writeValue]

theorem boundText_pieces (values : List Value) (bound : Nat) (phrases : List Phrase) :
    (boundText kind bound (phrases.flatMap (Phrase.pieces kind))).toList =
      phrasesText kind ((Parameters.collect values).writeValue kind) bound phrases := by
  induction phrases generalizing bound with
  | nil => rfl
  | cons phrase rest ih =>
    obtain ⟨words, item⟩ := phrase
    rw [List.flatMap_cons, phrasesText, ← ih]
    rcases item with _ | identifier | value
    · simp [Phrase.pieces, Phrase.text, Phrase.itemText, Phrase.value?, boundText]
    · simp [Phrase.pieces, Phrase.text, Phrase.itemText, Phrase.value?, boundText, identifierPiece,
        quoteIdentifier]
    · simp [Phrase.pieces, Phrase.text, Phrase.itemText, Phrase.value?, boundText,
        Parameters.writeValue]

/-- The text of a statement is that of its phrases. -/
theorem Select.write_phrases (select : Select) (parameters : Parameters) :
    (select.write kind parameters).1.toList =
      phrasesText kind (parameters.writeValue kind) parameters.bound select.phrases := by
  cases parameters with
  | inline =>
    rw [write_eq_writePieces, writePieces, ← pieces_phrases, inlineText_pieces 0, Parameters.bound]
  | collect values =>
    rw [write_eq_writePieces, writePieces, ← pieces_phrases, boundText_pieces values,
      Parameters.bound]

end

end Sql
end ObjectQuery
