/-
Statements as pieces.

A statement is fixed text with values in it, whatever becomes of the values.  Writing it adds these
pieces one by one: text stays as it is, and a value is collected or written as a literal.  So the
text with placeholders and the text with literals have the same text around the values
(`write_eq_writePieces`).
-/
import ObjectQuery.Sql.Text

namespace ObjectQuery
namespace Sql

/-- A part of a statement's text. -/
inductive Piece
  | fixed (text : String)
  | value (value : Value)
  deriving DecidableEq

/-- Pieces with a separator between every two lists of them. -/
def separated (separator : String) : List (List Piece) → List Piece
  | [] => []
  | [pieces] => pieces
  | pieces :: rest => pieces ++ .fixed separator :: separated separator rest

def identifierPiece (kind : DatabaseKind) (identifier : String) : Piece :=
  .fixed (quoteIdentifier kind.identifierQuote identifier)

namespace Condition

mutual

def pieces (kind : DatabaseKind) : Condition → List Piece
  | .equals column .null => [identifierPiece kind column, .fixed " IS NULL"]
  | .equals column value => [identifierPiece kind column, .fixed " = ", .value value]
  | .all operands => separated " AND " (piecesOfAll kind operands)

def piecesOfAll (kind : DatabaseKind) : List Condition → List (List Piece)
  | [] => []
  | operand :: rest => pieces kind operand :: piecesOfAll kind rest

end

end Condition

namespace Select

def columnPieces (kind : DatabaseKind) (columns : List Column) : List Piece :=
  separated ", " (columns.map fun column => [identifierPiece kind column.name])

def orderPieces (kind : DatabaseKind) (order : List OrderTerm) : List Piece :=
  if order.isEmpty then []
  else
    .fixed " ORDER BY " :: separated ", " (order.map fun term =>
      [identifierPiece kind term.column, .fixed (" " ++ term.direction.keyword)])

/-- The window's pieces. An offset of zero is not written. -/
def windowPieces : Option Window → List Piece
  | none => []
  | some window =>
    .fixed (" LIMIT " ++ toString window.count)
      :: (if 0 < window.offset then [.fixed (" OFFSET " ++ toString window.offset)] else [])

def conditionPieces (kind : DatabaseKind) : Option Condition → List Piece
  | none => []
  | some condition => .fixed " WHERE " :: condition.pieces kind

/-- A statement's pieces. -/
def pieces (kind : DatabaseKind) (select : Select) : List Piece :=
  .fixed "SELECT " :: columnPieces kind select.columns
    ++ .fixed " FROM " :: identifierPiece kind select.table
    :: conditionPieces kind select.condition
    ++ orderPieces kind select.order
    ++ windowPieces select.window
    ++ [.fixed ";"]

end Select

/-- The values of pieces, from left to right. -/
def boundValues : List Piece → List Value
  | [] => []
  | .fixed _ :: rest => boundValues rest
  | .value value :: rest => value :: boundValues rest

/-- The text with every value written as a literal. -/
def inlineText (kind : DatabaseKind) : List Piece → String
  | [] => ""
  | .fixed text :: rest => text ++ inlineText kind rest
  | .value value :: rest => literalText kind value ++ inlineText kind rest

/-- The text with a placeholder for every value, when some values are bound already. -/
def boundText (kind : DatabaseKind) (bound : Nat) : List Piece → String
  | [] => ""
  | .fixed text :: rest => text ++ boundText kind bound rest
  | .value _ :: rest => kind.placeholder (bound + 1) ++ boundText kind (bound + 1) rest

/-- The text of pieces, and the parameters with their values. -/
def writePieces (kind : DatabaseKind) (pieces : List Piece) : Parameters → String × Parameters
  | .inline => (inlineText kind pieces, .inline)
  | .collect values =>
    (boundText kind values.length pieces, .collect (values ++ boundValues pieces))

section

variable {kind : DatabaseKind} {separator : String}

theorem separated_cons {pieces : List Piece} {others : List (List Piece)} :
    separated separator (pieces :: others) =
      pieces ++ others.flatMap fun pieces => .fixed separator :: pieces := by
  induction others generalizing pieces with
  | nil => simp [separated]
  | cons next rest ih =>
    rw [separated, ih, List.flatMap_cons]
    · simp
    · simp

/-! ## Pieces added to a draft -/

namespace Draft

variable {d : Draft}

/-- Add a piece to what is written. -/
def add (kind : DatabaseKind) (d : Draft) : Piece → Draft
  | .fixed text => d.fixed text
  | .value value => d.value kind value

@[simp] theorem fixed_empty : d.fixed "" = d := by
  rw [fixed, String.append_empty]

@[simp] theorem fixed_fixed (a b : String) : (d.fixed a).fixed b = d.fixed (a ++ b) := by
  simp [fixed, String.append_assoc]

/-- Pieces are added behind the text that stands already, and their values behind the values. -/
theorem foldl_add (d : Draft) (pieces : List Piece) :
    pieces.foldl (add kind) d =
      ⟨d.text ++ (writePieces kind pieces d.parameters).1,
        (writePieces kind pieces d.parameters).2⟩ := by
  induction pieces generalizing d with
  | nil => cases h : d.parameters <;> simp [writePieces, inlineText, boundText, boundValues, ← h]
  | cons piece rest ih =>
    rw [List.foldl_cons, ih]
    obtain ⟨text, parameters⟩ := d
    cases piece with
    | fixed words =>
      cases parameters <;>
        simp [add, fixed, writePieces, inlineText, boundText, boundValues, String.append_assoc]
    | value value =>
      cases parameters <;>
        simp [add, fixed, Draft.value, Parameters.push, writePieces, inlineText, boundText,
          boundValues, String.append_assoc]

section

variable {α : Type} {write : Draft → α → Draft} {pieces : α → List Piece}

theorem delimited_further
    (written : ∀ d item, write d item = (pieces item).foldl (add kind) d)
    (d : Draft) (items : List α) :
    d.delimited write separator separator items =
      ((items.map pieces).flatMap fun pieces => .fixed separator :: pieces).foldl (add kind) d := by
  induction items generalizing d with
  | nil => rfl
  | cons item rest ih =>
    rw [delimited, ih, written, List.map_cons, List.flatMap_cons, List.foldl_append]
    rfl

/-- Items that are written as pieces are written with separators between them. -/
theorem delimited_eq (written : ∀ d item, write d item = (pieces item).foldl (add kind) d)
    (d : Draft) (items : List α) :
    d.delimited write separator "" items =
      (separated separator (items.map pieces)).foldl (add kind) d := by
  cases items with
  | nil => rfl
  | cons item rest =>
    rw [delimited, fixed_empty, delimited_further written, written, List.map_cons, separated_cons,
      List.foldl_append]

end
end Draft

/-! ## Statements are written as their pieces -/

namespace Condition

mutual

theorem write_eq (condition : Condition) (d : Draft) :
    condition.write kind d = (condition.pieces kind).foldl (Draft.add kind) d := by
  match condition with
  | .equals column value => cases value <;> rfl
  | .all [] => rfl
  | .all (operand :: rest) =>
    rw [write, writeAll, Draft.fixed_empty, write_eq operand, writeAll_eq rest, pieces, piecesOfAll,
      separated_cons, List.foldl_append]

theorem writeAll_eq (operands : List Condition) (d : Draft) :
    writeAll kind " AND " d operands =
      ((piecesOfAll kind operands).flatMap fun pieces => .fixed " AND " :: pieces).foldl
        (Draft.add kind) d := by
  match operands with
  | [] => rfl
  | operand :: rest =>
    rw [writeAll, write_eq operand, writeAll_eq rest, piecesOfAll, List.flatMap_cons,
      List.foldl_append]
    rfl

end

end Condition

namespace Select

theorem writeOrder_eq (d : Draft) (order : List OrderTerm) :
    writeOrder kind d order = (orderPieces kind order).foldl (Draft.add kind) d := by
  have term (d : Draft) (term : OrderTerm) : writeTerm kind d term =
      [identifierPiece kind term.column, .fixed (" " ++ term.direction.keyword)].foldl
        (Draft.add kind) d := by
    simp [writeTerm, Draft.identifier, Draft.add, identifierPiece, String.append_assoc]
  rw [writeOrder, orderPieces]
  split
  · rfl
  · rw [List.foldl_cons, Draft.delimited_eq term]
    rfl

theorem writeWindow_eq (d : Draft) (window : Option Window) :
    writeWindow d window = (windowPieces window).foldl (Draft.add kind) d := by
  cases window with
  | none => rfl
  | some window =>
    rw [writeWindow, windowPieces]
    split <;> simp [Draft.add, String.append_assoc]

/-- A statement is written as its pieces, whatever becomes of the values. -/
theorem write_eq_writePieces (select : Select) (parameters : Parameters) :
    select.write kind parameters = writePieces kind (select.pieces kind) parameters := by
  have column (d : Draft) (column : Column) : writeColumn kind d column =
      [identifierPiece kind column.name].foldl (Draft.add kind) d := rfl
  have condition (d : Draft) : writeCondition kind d select.condition =
      (conditionPieces kind select.condition).foldl (Draft.add kind) d := by
    cases select.condition with
    | none => rfl
    | some condition => exact condition.write_eq _
  have pieces : (writeClauses kind ⟨"", parameters⟩ select).fixed ";" =
      (select.pieces kind).foldl (Draft.add kind) ⟨"", parameters⟩ := by
    rw [writeClauses, Draft.delimited_eq column, condition, writeOrder_eq, writeWindow_eq,
      Select.pieces]
    simp only [List.foldl_append, List.foldl_cons, List.foldl_nil, List.cons_append]
    rfl
  rw [write, pieces, Draft.foldl_add, String.empty_append]

end Select

end

end Sql
end ObjectQuery
