/-
Plans lower alike under other names.

Lowering never looks at names or identifiers.  So a plan over fields that go by other names, or one
that is lowered with other identifiers, becomes a statement of the same shape: the same phrases, with
identifiers that stand for each other at the same places, or neither statement exists and the errors
are alike.  Logical and physical identifiers are one case.
-/
import Mathlib.Data.Option.Basic
import ObjectQuery.Proofs.Outcome
import ObjectQuery.Proofs.Plan.Provenance
import ObjectQuery.Proofs.Sql.Outline
import ObjectQuery.Sql.Lowering
import ObjectQuery.Sql.Renaming

namespace ObjectQuery
namespace Sql

section

variable (names : String → String → Prop)

/-- Phrases that differ in what they name alone. -/
inductive Phrase.Renamed : Phrase → Phrase → Prop
  | bare (words : String) : Renamed ⟨words, none⟩ ⟨words, none⟩
  | name (words : String) {a b : String} (named : names a b) :
      Renamed ⟨words, some (.name a)⟩ ⟨words, some (.name b)⟩
  | value (words : String) (value : Value) :
      Renamed ⟨words, some (.value value)⟩ ⟨words, some (.value value)⟩

/-- Conditions with the same phrases up to names. -/
def Condition.Renamed (a b : Condition) : Prop :=
  ∀ words, List.Forall₂ (Phrase.Renamed names) (a.phrases words) (b.phrases words)

/-- Statements that differ in their identifiers alone. -/
structure Select.Renamed (a b : Select) : Prop where
  columns : List.Forall₂ (fun a b : Column => names a.name b.name) a.columns b.columns
  table : names a.table b.table
  condition : Option.Rel (Condition.Renamed names) a.condition b.condition
  order : List.Forall₂
    (fun a b : OrderTerm => names a.column b.column ∧ a.direction = b.direction) a.order b.order
  window : a.window = b.window

end

section

variable {names : String → String → Prop}

theorem Phrase.Renamed.words_eq {a b : Phrase} (renamed : a.Renamed names b) :
    a.words = b.words := by
  cases renamed <;> rfl

theorem Phrase.Renamed.value?_eq {a b : Phrase} (renamed : a.Renamed names b) :
    a.value? = b.value? := by
  cases renamed <;> rfl

theorem Condition.Renamed.equals {a b : String} (named : names a b) (value : Value) :
    Condition.Renamed names (.equals a value) (.equals b value) := by
  intro words
  have first := Phrase.Renamed.name words named
  cases value with
  | null => exact .cons first (.cons (.bare _) .nil)
  | bool _ => exact .cons first (.cons (.value _ _) .nil)
  | int _ => exact .cons first (.cons (.value _ _) .nil)
  | float _ => exact .cons first (.cons (.value _ _) .nil)
  | text _ => exact .cons first (.cons (.value _ _) .nil)

theorem Condition.Renamed.all {as bs : List Condition}
    (renamed : List.Forall₂ (Condition.Renamed names) as bs) :
    Condition.Renamed names (.all as) (.all bs) := by
  have further {as bs : List Condition}
      (renamed : List.Forall₂ (Condition.Renamed names) as bs) :
      List.Forall₂ (Phrase.Renamed names) (furtherPhrases as) (furtherPhrases bs) := by
    induction renamed with
    | nil => exact .nil
    | cons first _ ih => exact List.rel_append (first " AND ") ih
  intro words
  cases renamed with
  | nil => exact .cons (.bare words) .nil
  | cons first others => exact List.rel_append (first words) (further others)

namespace Select

theorem columnPhrases_renamed {as bs : List Column}
    (renamed : List.Forall₂ (fun a b : Column => names a.name b.name) as bs) :
    List.Forall₂ (Phrase.Renamed names) (columnPhrases as) (columnPhrases bs) := by
  cases renamed with
  | nil => exact .cons (.bare _) .nil
  | cons first others =>
    refine .cons (.name _ first) ?_
    rw [List.forall₂_map_left_iff, List.forall₂_map_right_iff]
    exact others.imp fun _ _ named => .name _ named

theorem conditionPhrases_renamed {a b : Option Condition}
    (renamed : Option.Rel (Condition.Renamed names) a b) :
    List.Forall₂ (Phrase.Renamed names) (conditionPhrases a) (conditionPhrases b) := by
  cases renamed with
  | none => exact .nil
  | some related => exact related " WHERE "

theorem orderPhrases_renamed {as bs : List OrderTerm}
    (renamed : List.Forall₂
      (fun a b : OrderTerm => names a.column b.column ∧ a.direction = b.direction) as bs) :
    List.Forall₂ (Phrase.Renamed names) (orderPhrases as) (orderPhrases bs) := by
  have term (words : String) {a b : OrderTerm}
      (related : names a.column b.column ∧ a.direction = b.direction) :
      List.Forall₂ (Phrase.Renamed names) (termPhrases words a) (termPhrases words b) := by
    rw [termPhrases, termPhrases, related.2]
    exact .cons (.name _ related.1) (.cons (.bare _) .nil)
  cases renamed with
  | nil => exact .nil
  | cons first others =>
    exact List.rel_append (term _ first) (List.rel_flatMap others fun _ _ => term _)

theorem windowPhrases_renamed (window : Option Window) :
    List.Forall₂ (Phrase.Renamed names) (windowPhrases window) (windowPhrases window) := by
  cases window with
  | none => exact .nil
  | some window =>
    rw [windowPhrases]
    split
    · exact .cons (.bare _) (.cons (.bare _) .nil)
    · exact .cons (.bare _) .nil

theorem Renamed.phrases {a b : Select} (renamed : a.Renamed names b) :
    List.Forall₂ (Phrase.Renamed names) a.phrases b.phrases := by
  have table : List.Forall₂ (Phrase.Renamed names) [⟨" FROM ", some (.name a.table)⟩]
      [⟨" FROM ", some (.name b.table)⟩] := .cons (.name _ renamed.table) .nil
  have closing : List.Forall₂ (Phrase.Renamed names) [⟨";", none⟩] [⟨";", none⟩] :=
    .cons (.bare _) .nil
  have window : List.Forall₂ (Phrase.Renamed names) (windowPhrases a.window)
      (windowPhrases b.window) := renamed.window ▸ windowPhrases_renamed a.window
  have start := List.rel_append (columnPhrases_renamed renamed.columns) table
  have clauses := List.rel_append (List.rel_append start
    (conditionPhrases_renamed renamed.condition)) (orderPhrases_renamed renamed.order)
  exact List.rel_append (List.rel_append clauses window) closing

/-- Statements with the same identifiers are written alike. -/
theorem Renamed.write_eq {a b : Select} (renamed : a.Renamed Eq b) (kind : DatabaseKind)
    (parameters : Parameters) : a.write kind parameters = b.write kind parameters := by
  have same : List.Forall₂ Eq a.phrases b.phrases := renamed.phrases.imp fun _ _ related => by
    cases related with
    | bare => rfl
    | name _ named => rw [named]
    | value => rfl
  rw [List.forall₂_eq_eq_eq] at same
  rw [write_eq_writePieces, write_eq_writePieces, ← pieces_phrases, ← pieces_phrases, same]

end Select

end

/-! ## Lowering -/

namespace Lowering

/-- Two ways to lower the same fields, where those of the second may have other names: the same
fields have columns, and identifiers correspond. -/
structure Mirrors (like : Error → Error → Prop) (names : String → String → Prop)
    (rename : String → String) (l l' : Lowering) : Prop where
  adhoc : ∀ text, like (.adhoc text) (.adhoc text)
  unmapped : ∀ field, like (.unresolvedMapping l.type.name field)
    (.unresolvedMapping l'.type.name (field.map rename))
  width : l.type.width = l'.type.width
  table : names l.table l'.table
  column : ∀ position, Option.Rel (fun a b : Column => names a.name b.name)
    (l.column? position) (l'.column? position)

namespace Mirrors

variable {like : Error → Error → Prop} {names : String → String → Prop}
  {rename : String → String} {l l' : Lowering}

theorem filterMap_column? (mirrors : Mirrors like names rename l l') {α : Type} (items : List α)
    (position : α → Nat) :
    List.Forall₂ (fun a b : Column => names a.name b.name)
      (items.filterMap fun item => l.column? (position item))
      (items.filterMap fun item => l'.column? (position item)) :=
  List.rel_filterMap (R := Eq) (fun item _ same => same ▸ mirrors.column (position item))
    (List.forall₂_eq_eq_eq ▸ rfl)

theorem fieldColumn (mirrors : Mirrors like names rename l l') (row : Row) (position : Nat) :
    Outcome.Alike like names (l.fieldColumn row position)
      (l'.fieldColumn (row.rename rename) position) := by
  rw [Lowering.fieldColumn, Lowering.fieldColumn, Row.getElem?_rename, Row.length_rename]
  cases row[position]? with
  | none => exact .error (mirrors.adhoc _)
  | some field =>
    have related := mirrors.column field.source
    simp only [Option.map_some]
    generalize l.column? field.source = a at related ⊢
    generalize l'.column? field.source = b at related ⊢
    cases related with
    | none => exact .error (mirrors.unmapped (some field.name))
    | some named => exact .ok named

theorem projectedColumns (mirrors : Mirrors like names rename l l') (row : Row) :
    Outcome.Alike like (List.Forall₂ fun a b : Column => names a.name b.name)
      (l.projectedColumns row) (l'.projectedColumns (row.rename rename)) := by
  have related := mirrors.filterMap_column? row RowField.source
  have first : (row.rename rename).head?.map RowField.name =
      (row.head?.map RowField.name).map rename := by
    simp [Row.rename, List.head?_map, Function.comp_def]
  have same : (row.rename rename).filterMap (fun field => l'.column? field.source) =
      row.filterMap fun field => l'.column? field.source := List.filterMap_map
  simp only [Lowering.projectedColumns, first, same]
  generalize row.filterMap (fun field => l.column? field.source) = as at related ⊢
  generalize row.filterMap (fun field => l'.column? field.source) = bs at related ⊢
  cases related with
  | nil => exact .error (mirrors.unmapped _)
  | cons first others => exact .ok (.cons first others)

mutual

theorem condition (mirrors : Mirrors like names rename l l') (row : Row) (predicate : Predicate) :
    Outcome.Alike like (Condition.Renamed names) (l.condition row predicate)
      (l'.condition (row.rename rename) predicate) := by
  match predicate with
  | .equals position value =>
    rw [Lowering.condition, Lowering.condition]
    exact (mirrors.fieldColumn row position).bind fun _ _ named => .ok (.equals named value)
  | .all operands =>
    rw [Lowering.condition, Lowering.condition]
    exact (conditions mirrors row operands).bind fun _ _ renamed => .ok (.all renamed)

theorem conditions (mirrors : Mirrors like names rename l l') (row : Row)
    (operands : List Predicate) :
    Outcome.Alike like (List.Forall₂ (Condition.Renamed names)) (l.conditions row operands)
      (l'.conditions (row.rename rename) operands) := by
  match operands with
  | [] =>
    rw [Lowering.conditions, Lowering.conditions]
    exact .ok .nil
  | operand :: rest =>
    rw [Lowering.conditions, Lowering.conditions]
    exact (condition mirrors row operand).bind fun _ _ first =>
      (conditions mirrors row rest).bind fun _ _ others => .ok (.cons first others)

end

theorem orderTerms (mirrors : Mirrors like names rename l l') (row : Row) (keys : List SortKey) :
    Outcome.Alike like (List.Forall₂ fun a b : OrderTerm =>
        names a.column b.column ∧ a.direction = b.direction)
      (l.orderTerms row keys) (l'.orderTerms (row.rename rename) keys) :=
  .mapM fun key _ => (mirrors.fieldColumn row key.position).bind fun _ _ named => .ok ⟨named, rfl⟩

/-- Plans over fields that mirror each other are lowered to statements that differ in their
identifiers alone, or both fail. -/
theorem select (mirrors : Mirrors like names rename l l') {f : ObjectType → ObjectType}
    (rows : ∀ type, Row.canonical (f type) = (Row.canonical type).rename rename) (plan : Plan) :
    Outcome.Alike like (Select.Renamed names) (l.select plan) (l'.select (plan.mapType f)) := by
  have row_eq := Plan.row_mapType rows
  induction plan with
  | scan _ =>
    have columns := mirrors.filterMap_column? (List.range l.type.width) id
    rw [Plan.mapType, Lowering.select, Lowering.select, allColumns, allColumns, ← mirrors.width]
    exact .ok ⟨columns, mirrors.table, .none, .nil, rfl⟩
  | filter input predicate ih =>
    rw [Plan.mapType, Lowering.select, Lowering.select, row_eq]
    have added := mirrors.condition input.row predicate
    exact ih.bind fun _ _ related => added.bind fun _ _ renamed =>
      .ok { related with condition := .some renamed }
  | project input positions ih =>
    rw [Plan.mapType, Lowering.select, Lowering.select, row_eq, Row.select_rename]
    have added := mirrors.projectedColumns (input.row.select positions)
    exact ih.bind fun _ _ related => added.bind fun _ _ renamed =>
      .ok { related with columns := renamed }
  | sort input keys ih =>
    rw [Plan.mapType, Lowering.select, Lowering.select, row_eq]
    have added := mirrors.orderTerms input.row keys
    exact ih.bind fun _ _ related => added.bind fun _ _ renamed =>
      .ok { related with order := renamed }
  | limit input count offset ih =>
    rw [Plan.mapType, Lowering.select, Lowering.select]
    exact ih.bind fun _ _ related => .ok { related with window := rfl }

end Mirrors

/-! ## Logical and physical identifiers -/

/-- The renames from logical to physical identifiers, the table's first. -/
def renames (type : ObjectType) (mapping : Mapping) (identifierCase : IdentifierCase) :
    List Rename :=
  ⟨type.name, identifierCase.apply mapping.table⟩
    :: Renaming.renamesOf type mapping identifierCase

/-- Whether one of the renames replaces an identifier by another. -/
def Replaces (type : ObjectType) (mapping : Mapping) (identifierCase : IdentifierCase)
    (a b : String) : Prop :=
  ⟨a, b⟩ ∈ renames type mapping identifierCase

variable (type : ObjectType) (mapping : Mapping) (identifierCase : IdentifierCase)

theorem column?_renamed (position : Nat) :
    Option.Rel (fun a b : Column => Replaces type mapping identifierCase a.name b.name)
      (column? ⟨type, mapping, .logical⟩ position)
      (column? ⟨type, mapping, .physical identifierCase⟩ position) := by
  cases position with
  | zero => exact .some (.tail _ (.head _))
  | succ index =>
    simp only [column?]
    cases found : type.properties[index]? with
    | none => exact .none
    | some property =>
      cases mapped : mapping.column? property.name with
      | none => simp [mapped]
      | some column =>
        have mem : property ∈ type.properties := List.mem_iff_getElem?.mpr ⟨index, found⟩
        have listed : (⟨property.name, identifierCase.apply column⟩ : Rename) ∈
            Renaming.renamesOf type mapping identifierCase :=
          .tail _ (List.mem_filterMap.mpr ⟨property, mem, by rw [mapped]; rfl⟩)
        simp only [Option.bind_eq_bind, Option.bind_some, mapped, Option.pure_def]
        exact .some (.tail _ listed)

theorem mirrors_physical :
    Mirrors Eq (Replaces type mapping identifierCase) id ⟨type, mapping, .logical⟩
      ⟨type, mapping, .physical identifierCase⟩ where
  adhoc _ := rfl
  unmapped field := by rw [Option.map_id, id]
  width := rfl
  table := .head _
  column := column?_renamed type mapping identifierCase

/-- A plan is lowered to statements that differ in their identifiers alone, or it fails alike. -/
theorem select_alike (plan : Plan) :
    Outcome.Alike Eq (Select.Renamed (Replaces type mapping identifierCase))
      (select ⟨type, mapping, .logical⟩ plan)
      (select ⟨type, mapping, .physical identifierCase⟩ plan) := by
  have rows (type : ObjectType) : Row.canonical (id type) = (Row.canonical type).rename id :=
    (List.map_id _).symm
  have alike := (mirrors_physical type mapping identifierCase).select rows plan
  rwa [Plan.mapType_id] at alike

end Lowering

end Sql
end ObjectQuery
