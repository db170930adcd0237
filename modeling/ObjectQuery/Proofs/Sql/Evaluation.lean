/-
What a statement returns from a database.

Rows give a cell to every column identifier.  How cells compare is the database's own
business: with a literal, with each other, and whether a cell is null.  A statement
keeps the rows on which its condition holds, orders them stably, takes its window and
reads its columns, in this order.
-/
import ObjectQuery.Proofs.Order
import ObjectQuery.Sql.Select

namespace ObjectQuery

/-- The rows of every table, by the table's identifier. -/
abbrev Database (α : Type) : Type := String → List (String → α)

/-- How a database compares cells. -/
structure Cells (α : Type) where
  isNull : α → Bool
  equals : α → Value → Bool
  le : α → α → Bool
  preorder : TotalPreorder le

/-- Whether a cell equals a literal.  Only a cell that is null equals null. -/
def Cells.matchesLiteral {α : Type} (cells : Cells α) (cell : α) : Value → Bool
  | .null => cells.isNull cell
  | literal => cells.equals cell literal

def SortDirection.orient {α : Type} (le : α → α → Bool) : SortDirection → α → α → Bool
  | ascending, a, b => le a b
  | descending, a, b => le b a

theorem TotalPreorder.orient {α : Type} {le : α → α → Bool} (h : TotalPreorder le)
    (direction : SortDirection) : TotalPreorder (direction.orient le) := by
  cases direction with
  | ascending => exact h
  | descending => exact h.swap

namespace Sql

variable {α : Type}

namespace Condition

mutual

def holds (cells : Cells α) (row : String → α) : Condition → Bool
  | .equals column literal => cells.matchesLiteral (row column) literal
  | .all operands => allHold cells row operands

def allHold (cells : Cells α) (row : String → α) : List Condition → Bool
  | [] => true
  | operand :: rest => holds cells row operand && allHold cells row rest

end

end Condition

def rowOrder (cells : Cells α) (order : List OrderTerm) : (String → α) → (String → α) → Bool :=
  lexicographic (order.map fun term a b =>
    term.direction.orient cells.le (a term.column) (b term.column))

def Window.of {β : Type} : Option Window → List β → List β
  | none, rows => rows
  | some window, rows => (rows.drop window.offset).take window.count

namespace Select

/-- Whether a statement's condition, if it has one, holds on a row. -/
def keeps (select : Select) (cells : Cells α) (row : String → α) : Bool :=
  match select.condition with
  | none => true
  | some condition => condition.holds cells row

def evaluate (select : Select) (cells : Cells α) (database : Database α) : List (List α) :=
  let kept := (database select.table).filter (select.keeps cells)
  let ordered := kept.mergeSort (rowOrder cells select.order)
  (Window.of select.window ordered).map fun row => select.columns.map fun column => row column.name

end Select

theorem Window.of_map {β γ : Type} (f : β → γ) (window : Option Window) (rows : List β) :
    Window.of window (rows.map f) = (Window.of window rows).map f := by
  cases window with
  | none => rfl
  | some window => simp only [Window.of, List.map_take, List.map_drop]

end Sql
end ObjectQuery
