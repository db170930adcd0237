/-
Predicates over the fields of a row: conjunctions of equalities.
-/
import ObjectQuery.Plan.Row
import ObjectQuery.Value

namespace ObjectQuery

/-- A predicate over the positions of a row. -/
inductive Predicate
  | equals (position : Nat) (value : Value)
  | all (operands : List Predicate)

namespace Predicate

/-- The conjunction of some predicates: nothing for none, and a single one unchanged. -/
def conjunction? : List Predicate → Option Predicate
  | [] => none
  | [operand] => some operand
  | operands => some (.all operands)

mutual

/-- The equalities of a predicate, from left to right. -/
def equalities : Predicate → List (Nat × Value)
  | .equals position value => [(position, value)]
  | .all operands => equalitiesOfAll operands

def equalitiesOfAll : List Predicate → List (Nat × Value)
  | [] => []
  | operand :: rest => equalities operand ++ equalitiesOfAll rest

end

/-- A value as a predicate shows it: texts in quotes. -/
def displayValue : Value → String
  | .text text => "'" ++ text ++ "'"
  | value => value.display

mutual

/-- The predicate over a row, whose fields it shows by name. -/
def display (row : Row) : Predicate → String
  | .equals position value =>
    "=(" ++ ((row[position]?.map RowField.name).getD ("$" ++ toString position)) ++ ", "
      ++ displayValue value ++ ")"
  | .all operands => "AND(" ++ displayAll row operands ++ ")"

/-- Some predicates, with commas between them. -/
def displayAll (row : Row) : List Predicate → String
  | [] => ""
  | [operand] => display row operand
  | operand :: rest => display row operand ++ ", " ++ displayAll row rest

end

end Predicate
end ObjectQuery
