/-
Upper and lower case of whole texts, for every script.

A character may turn into several (`ß` into `SS`), and the Greek capital sigma turns into its final
form at the end of a word. The end of a word is found by looking through characters that words may
contain without ending: the letter before must be a cased one, and the letter after must not.
-/
import ObjectQuery.Text.Class.Cased
import ObjectQuery.Text.Class.CaseIgnorable
import ObjectQuery.Text.LetterCase.Table

namespace ObjectQuery
namespace Text
namespace LetterCase

def SimpleTable.find? (table : SimpleTable) (code : Nat) : Option Nat :=
  table.findSome? fun (first, last, step, target) =>
    if first ≤ code ∧ code ≤ last ∧ (code - first) % step = 0 then
      some (target + (code - first))
    else none

/-- The form of a character under a special and a simple table, itself when neither lists it. -/
def mapChar (special : SpecialTable) (simple : SimpleTable) (c : Char) : List Char :=
  match special.lookup c.toNat with
  | some codes => codes.map Char.ofNat
  | none =>
    match simple.find? c.toNat with
    | some code => [Char.ofNat code]
    | none => [c]

def upperChar (c : Char) : List Char := mapChar upperSpecial upperSimple c

/-- The lower case form of a character, wherever it stands. -/
def lowerChar (c : Char) : List Char := mapChar lowerSpecial lowerSimple c

/-- Whether the nearest character that a word's case does not look through is a cased one. -/
def nextIsCased (cs : List Char) : Bool :=
  match cs.find? fun c => !caseIgnorable.has c with
  | some c => cased.has c
  | none => false

/-- The lower case form of a capital sigma between `before` (nearest first) and `after`. -/
def lowerSigma (before after : List Char) : Char :=
  if nextIsCased before && !nextIsCased after then 'ς' else 'σ'

/-- The lower case of the characters that follow `before` (nearest first). -/
def lowerAfter (before : List Char) : List Char → List Char
  | [] => []
  | c :: rest =>
    (if c = 'Σ' then [lowerSigma before rest] else lowerChar c) ++ lowerAfter (c :: before) rest

end LetterCase

def upper (s : String) : String := String.ofList (s.toList.flatMap LetterCase.upperChar)

/-- The text in lower case. -/
def lower (s : String) : String := String.ofList (LetterCase.lowerAfter [] s.toList)

end Text
end ObjectQuery
