/-
Statements that select from one table.
-/
import ObjectQuery.Query.Basic
import ObjectQuery.Value

namespace ObjectQuery
namespace Sql

/-- A selected column, and the logical field that it carries. -/
structure Column where
  name : String
  field : String
  deriving DecidableEq

/-- A condition over columns. An equality with null asks whether the column is null. -/
inductive Condition
  | equals (column : String) (value : Value)
  | all (operands : List Condition)

structure OrderTerm where
  column : String
  direction : SortDirection
  deriving DecidableEq

/-- How many rows are returned, and how many are skipped before them. -/
structure Window where
  count : Nat
  offset : Nat
  deriving DecidableEq

/-- A statement. -/
structure Select where
  columns : List Column
  table : String
  condition : Option Condition
  order : List OrderTerm
  window : Option Window

end Sql
end ObjectQuery
