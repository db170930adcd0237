/-
The two texts of a statement come from one template.

A template is fixed text with values in it.  Written with literals it is the text that people read,
written with placeholders it is the text that is sent along with the values.  The values are those
that a statement's condition compares with, from left to right; a comparison with null is fixed text
and leaves no value behind.
-/
import ObjectQuery.Proofs.Sql.Pieces

namespace ObjectQuery
namespace Sql

/-- Text before the first value, and each value with the text behind it. -/
structure Template where
  start : String
  slots : List (Value × String)

namespace Template

def values (t : Template) : List Value := t.slots.map Prod.fst

/-- Values and the texts behind them, given how a value is written behind a number of others. -/
def fillSlots (write : Nat → Value → String) : Nat → List (Value × String) → String
  | _, [] => ""
  | before, (value, text) :: rest => write before value ++ text ++ fillSlots write (before + 1) rest

/-- The text with every value as a literal. -/
def inline (kind : DatabaseKind) (t : Template) : String :=
  t.start ++ fillSlots (fun _ value => literalText kind value) 0 t.slots

/-- The text with a placeholder for every value, counted on from the values that are bound
already. -/
def bound (kind : DatabaseKind) (before : Nat) (t : Template) : String :=
  t.start ++ fillSlots (fun before _ => kind.placeholder (before + 1)) before t.slots

/-- A template behind some text. -/
def after (text : String) (t : Template) : Template := ⟨text ++ t.start, t.slots⟩

/-- A template behind some text and the comparison of a column. -/
def compare (kind : DatabaseKind) (text column : String) (t : Template) : Value → Template
  | .null => ⟨text ++ quoteIdentifier kind.identifierQuote column ++ " IS NULL" ++ t.start, t.slots⟩
  | value =>
    ⟨text ++ quoteIdentifier kind.identifierQuote column ++ " = ", (value, t.start) :: t.slots⟩

/-- The template of some comparisons, given the text before the first and behind each. -/
def ofComparisons (kind : DatabaseKind) : String → List ((String × Value) × String) → Template
  | start, [] => ⟨start, []⟩
  | start, ((column, value), behind) :: rest =>
    (ofComparisons kind behind rest).compare kind start column value

/-- Whether a template consists of some comparisons and fixed text around them. -/
def Shows (kind : DatabaseKind) (comparisons : List (String × Value)) (t : Template) : Prop :=
  ∃ start parts, parts.map Prod.fst = comparisons ∧ t = ofComparisons kind start parts

end Template

namespace Condition

mutual

/-- The columns that a condition compares, each with its value, from left to right. -/
def comparisons : Condition → List (String × Value)
  | .equals column value => [(column, value)]
  | .all operands => comparisonsOfAll operands

def comparisonsOfAll : List Condition → List (String × Value)
  | [] => []
  | operand :: rest => comparisons operand ++ comparisonsOfAll rest

end

end Condition

def Select.comparisons (select : Select) : List (String × Value) :=
  (select.condition.map Condition.comparisons).getD []

namespace Template

variable {kind : DatabaseKind} {comparisons : List (String × Value)} {t : Template}

/-- The template that pieces of text and values make. -/
def ofPieces : List Piece → Template
  | [] => ⟨"", []⟩
  | .fixed text :: rest => (ofPieces rest).after text
  | .value value :: rest => ⟨"", (value, (ofPieces rest).start) :: (ofPieces rest).slots⟩

/-! ## Pieces are written as their template -/

theorem inlineText_eq (kind : DatabaseKind) (pieces : List Piece) :
    inlineText kind pieces = (ofPieces pieces).inline kind := by
  have fill (before : Nat) : inlineText kind pieces = (ofPieces pieces).start ++
      fillSlots (fun _ value => literalText kind value) before (ofPieces pieces).slots := by
    induction pieces generalizing before with
    | nil => rfl
    | cons piece rest ih =>
      cases piece with
      | fixed text => rw [inlineText, ih before, ofPieces, after, String.append_assoc]
      | value value =>
        rw [inlineText, ih (before + 1), ofPieces, fillSlots, String.empty_append,
          String.append_assoc]
  exact fill 0

theorem boundText_eq (kind : DatabaseKind) (before : Nat) (pieces : List Piece) :
    boundText kind before pieces = (ofPieces pieces).bound kind before := by
  induction pieces generalizing before with
  | nil => rfl
  | cons piece rest ih =>
    cases piece with
    | fixed text => rw [boundText, ih, ofPieces, after, bound, bound, String.append_assoc]
    | value value =>
      rw [boundText, ih, ofPieces, bound, bound, fillSlots, String.empty_append,
        String.append_assoc]

theorem boundValues_eq (pieces : List Piece) : boundValues pieces = (ofPieces pieces).values := by
  induction pieces with
  | nil => rfl
  | cons piece rest ih =>
    cases piece with
    | fixed text => exact ih
    | value value => exact congrArg (value :: ·) ih

/-! ## Comparisons and the text around them -/

theorem after_compare (text start column : String) (value : Value) :
    (t.compare kind start column value).after text =
      t.compare kind (text ++ start) column value := by
  cases value <;> simp [compare, after, String.append_assoc]

theorem after_ofComparisons (text start : String) (parts : List ((String × Value) × String)) :
    (ofComparisons kind start parts).after text = ofComparisons kind (text ++ start) parts := by
  cases parts with
  | nil => rfl
  | cons part rest => exact after_compare text start part.1.1 part.1.2

/-- The values of a template are those it compares with, without null. -/
theorem values_ofComparisons (start : String) (parts : List ((String × Value) × String)) :
    (ofComparisons kind start parts).values =
      ((parts.map Prod.fst).map Prod.snd).filter (· ≠ .null) := by
  induction parts generalizing start with
  | nil => rfl
  | cons part rest ih =>
    obtain ⟨⟨column, value⟩, behind⟩ := part
    have others := ih behind
    rw [ofComparisons, List.map_cons, List.map_cons, List.filter_cons, ← others]
    cases value <;> rfl

theorem Shows.text (text : String) : Shows kind [] ⟨text, []⟩ := ⟨text, [], rfl, rfl⟩

theorem Shows.after (shown : t.Shows kind comparisons) (text : String) :
    (t.after text).Shows kind comparisons := by
  obtain ⟨start, parts, same, rfl⟩ := shown
  exact ⟨text ++ start, parts, same, after_ofComparisons text start parts⟩

theorem Shows.compare (shown : t.Shows kind comparisons) (column : String) (value : Value) :
    (t.compare kind "" column value).Shows kind ((column, value) :: comparisons) := by
  obtain ⟨start, parts, same, rfl⟩ := shown
  exact ⟨"", ((column, value), start) :: parts, by rw [List.map_cons, same], rfl⟩

variable {pieces rest : List Piece}

/-- Fixed pieces add no comparison. -/
theorem Shows.fixed (shown : (ofPieces rest).Shows kind comparisons)
    (fixed : ∀ piece ∈ pieces, ∃ text, piece = .fixed text) :
    (ofPieces (pieces ++ rest)).Shows kind comparisons := by
  induction pieces with
  | nil => exact shown
  | cons piece others ih =>
    obtain ⟨⟨text, rfl⟩, others_fixed⟩ := List.forall_mem_cons.mp fixed
    exact (ih others_fixed).after text

end Template

/-! ## The pieces of a statement -/

namespace Condition

variable {kind : DatabaseKind}

theorem shows_equals {comparisons : List (String × Value)} {rest : List Piece}
    (column : String) (value : Value)
    (behind : (Template.ofPieces rest).Shows kind comparisons) :
    (Template.ofPieces (pieces kind (.equals column value) ++ rest)).Shows kind
      ((column, value) :: comparisons) := by
  have same : Template.ofPieces (pieces kind (.equals column value) ++ rest) =
      (Template.ofPieces rest).compare kind "" column value := by
    cases value <;>
      simp [pieces, identifierPiece, Template.ofPieces, Template.after, Template.compare,
        String.append_assoc]
  rw [same]
  exact behind.compare column value

mutual

/-- A condition's own pieces add the condition's comparisons to those behind. -/
theorem shows_pieces (condition : Condition) {comparisons : List (String × Value)}
    {rest : List Piece} (behind : (Template.ofPieces rest).Shows kind comparisons) :
    (Template.ofPieces (pieces kind condition ++ rest)).Shows kind
      (condition.comparisons ++ comparisons) := by
  match condition with
  | .equals column value => exact shows_equals column value behind
  | .all operands => exact shows_separated operands behind

theorem shows_separated (operands : List Condition) {comparisons : List (String × Value)}
    {rest : List Piece} (behind : (Template.ofPieces rest).Shows kind comparisons) :
    (Template.ofPieces (separated " AND " (piecesOfAll kind operands) ++ rest)).Shows kind
      (comparisonsOfAll operands ++ comparisons) := by
  match operands with
  | [] => exact behind
  | [operand] =>
    rw [comparisonsOfAll, comparisonsOfAll, List.append_nil]
    exact shows_pieces operand behind
  | operand :: next :: others =>
    have later : (Template.ofPieces (.fixed " AND "
        :: (separated " AND " (piecesOfAll kind (next :: others)) ++ rest))).Shows kind
          (comparisonsOfAll (next :: others) ++ comparisons) :=
      (shows_separated (next :: others) behind).after " AND "
    rw [comparisonsOfAll, List.append_assoc, piecesOfAll, piecesOfAll, separated,
      List.append_assoc]
    · exact shows_pieces operand later
    · simp

end

end Condition

theorem mem_separated {separator : String} {lists : List (List Piece)} {piece : Piece}
    (mem : piece ∈ separated separator lists) :
    piece = .fixed separator ∨ ∃ pieces ∈ lists, piece ∈ pieces := by
  fun_induction separated separator lists with
  | case1 => contradiction
  | case2 pieces => exact .inr ⟨pieces, .head _, mem⟩
  | case3 pieces rest _ ih =>
    rcases List.mem_append.mp mem with first | further
    · exact .inr ⟨pieces, .head _, first⟩
    · rcases List.mem_cons.mp further with rfl | later
      · exact .inl rfl
      · exact (ih later).imp_right fun ⟨pieces, listed, mem⟩ => ⟨pieces, .tail _ listed, mem⟩

namespace Select

variable {kind : DatabaseKind} {piece : Piece}

theorem fixed_of_mem_columnPieces {columns : List Column}
    (mem : piece ∈ columnPieces kind columns) : ∃ text, piece = .fixed text := by
  rcases mem_separated mem with rfl | ⟨_, listed, mem⟩
  · exact ⟨_, rfl⟩
  · obtain ⟨column, _, rfl⟩ := List.mem_map.mp listed
    exact ⟨_, List.mem_singleton.mp mem⟩

theorem fixed_of_mem_orderPieces {order : List OrderTerm}
    (mem : piece ∈ orderPieces kind order) : ∃ text, piece = .fixed text := by
  rw [orderPieces] at mem
  split at mem
  · contradiction
  · rcases List.mem_cons.mp mem with rfl | mem
    · exact ⟨_, rfl⟩
    · rcases mem_separated mem with rfl | ⟨_, listed, mem⟩
      · exact ⟨_, rfl⟩
      · obtain ⟨term, _, rfl⟩ := List.mem_map.mp listed
        rcases List.mem_cons.mp mem with rfl | mem
        · exact ⟨_, rfl⟩
        · exact ⟨_, List.mem_singleton.mp mem⟩

theorem fixed_of_mem_windowPieces {window : Option Window}
    (mem : piece ∈ windowPieces window) : ∃ text, piece = .fixed text := by
  cases window with
  | none => contradiction
  | some window =>
    rcases List.mem_cons.mp mem with rfl | mem
    · exact ⟨_, rfl⟩
    · split at mem
      · exact ⟨_, List.mem_singleton.mp mem⟩
      · contradiction

/-- A statement's template has the comparisons of its condition and no others. -/
theorem shows_pieces (kind : DatabaseKind) (select : Select) :
    (Template.ofPieces (select.pieces kind)).Shows kind select.comparisons := by
  -- From the end of the statement to its start.
  have closing : (Template.ofPieces (orderPieces kind select.order
      ++ (windowPieces select.window ++ [.fixed ";"]))).Shows kind [] :=
    .fixed (.fixed ((Template.Shows.text "").after ";") fun _ => fixed_of_mem_windowPieces)
      fun _ => fixed_of_mem_orderPieces
  have condition : (Template.ofPieces (conditionPieces kind select.condition
      ++ (orderPieces kind select.order
      ++ (windowPieces select.window ++ [.fixed ";"])))).Shows kind select.comparisons := by
    rw [comparisons]
    cases select.condition with
    | none => exact closing
    | some condition =>
      have shown := (condition.shows_pieces closing).after " WHERE "
      rwa [List.append_nil] at shown
  have columns : (Template.ofPieces (columnPieces kind select.columns ++ (.fixed " FROM "
      :: identifierPiece kind select.table :: (conditionPieces kind select.condition
      ++ (orderPieces kind select.order ++ (windowPieces select.window
      ++ [.fixed ";"])))))).Shows kind select.comparisons :=
    .fixed ((condition.after _).after " FROM ") fun _ => fixed_of_mem_columnPieces
  rw [pieces]
  simp only [List.append_assoc, List.cons_append]
  exact columns.after "SELECT "

end Select

/-- Whether both texts of a statement are those of a template, whose values are the ones to bind. -/
structure Select.HasTemplate (kind : DatabaseKind) (select : Select) (t : Template) : Prop where
  shows_comparisons : t.Shows kind select.comparisons
  values_eq : t.values = (select.comparisons.map Prod.snd).filter (· ≠ .null)
  write_inline : select.write kind .inline = (t.inline kind, .inline)
  write_collect : ∀ values, select.write kind (.collect values) =
    (t.bound kind values.length, .collect (values ++ t.values))

/-- Every statement has a template. -/
theorem Select.exists_template (kind : DatabaseKind) (select : Select) :
    ∃ t, select.HasTemplate kind t := by
  have shown := select.shows_pieces kind
  refine ⟨_, shown, ?_, ?_, fun values => ?_⟩
  · obtain ⟨start, parts, same, made⟩ := shown
    rw [made, Template.values_ofComparisons, same]
  · rw [write_eq_writePieces, writePieces, Template.inlineText_eq]
  · rw [write_eq_writePieces, writePieces, Template.boundText_eq, Template.boundValues_eq]

end Sql
end ObjectQuery
