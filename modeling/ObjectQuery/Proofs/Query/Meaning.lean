/-
What a query asks for.

The meaning of a query is told in logical names alone.  A record has a cell for each
field that has a column.  Filters compare a field's cell with the literal of the
field's declared type, an order compares fields that are returned, and entries that
name no field have no effect.  Positions, plans and statements do not occur here.
-/
import ObjectQuery.Literal
import ObjectQuery.Proofs.Sql.Evaluation
import ObjectQuery.Schema.Basic

namespace ObjectQuery

/-- A row in logical names: a cell for each field that has one. -/
abbrev Record (α : Type) : Type := String → Option α

def Mapping.fieldColumn? (mapping : Mapping) (field : String) : Option String :=
  if field = idField then some mapping.idColumn else mapping.column? field

/-- The record that a physical row stores. -/
def Mapping.record {α : Type} (mapping : Mapping) (identifierCase : IdentifierCase)
    (row : String → α) : Record α := fun field =>
  (mapping.fieldColumn? field).map fun column => row (identifierCase.apply column)

def ObjectType.field? (type : ObjectType) (name : String) : Option Field :=
  type.fields.find? fun field => field.name == name

/-- An order of cells, with a missing one before all others. -/
def Cells.leOption {α : Type} (cells : Cells α) : Option α → Option α → Bool
  | none, _ => true
  | some _, none => false
  | some a, some b => cells.le a b

theorem Cells.preorder_leOption {α : Type} (cells : Cells α) : TotalPreorder cells.leOption := by
  constructor
  · intro a b c ab bc
    cases a with
    | none => rfl
    | some a =>
      cases b with
      | none => simp [leOption] at ab
      | some b =>
        cases c with
        | none => simp [leOption] at bc
        | some c => exact cells.preorder.trans a b c ab bc
  · intro a b
    cases a with
    | none => rfl
    | some a =>
      cases b with
      | none => rfl
      | some b => exact cells.preorder.total a b

namespace Query

variable {α : Type} (query : Query) (type : ObjectType) (cells : Cells α)

/-- Whether a record passes a filter.  A filter on an unknown field lets everything pass. -/
def passes (record : Record α) (filter : String × Json) : Bool :=
  match type.field? filter.1 with
  | none => true
  | some field =>
    match Literal.encode filter.2 field.type, record field.name with
    | .ok literal, some cell => cells.matchesLiteral cell literal
    | _, _ => false

def keeps (record : Record α) : Bool := query.filters.entries.all (passes type cells record)

/-- The fields that are returned: the known ones that the query selects, or all of them. -/
def returnedFields : List String :=
  let selected := query.select.filter fun name => (type.field? name).isSome
  if selected.isEmpty then type.fields.map Field.name else selected

/-- The entries of the order that have an effect: those on a returned field. -/
def effectiveOrder : List OrderEntry :=
  query.order.filter fun entry => (query.returnedFields type).contains entry.field

def recordOrder : Record α → Record α → Bool :=
  lexicographic ((query.effectiveOrder type).map fun entry a b =>
    entry.direction.orient cells.leOption (a entry.field) (b entry.field))

/-- The records within the limit.  A limit that is not positive is none, an offset that is not
positive skips nothing. -/
def withinLimit {β : Type} (records : List β) : List β :=
  match query.limit with
  | none => records
  | some count =>
    if 0 < count.toInt then
      (records.drop ((query.offset.map fun skipped => skipped.toInt.toNat).getD 0)).take
        count.toInt.toNat
    else records

/-- The rows that answer a query over the records of an object type. -/
def Answers (records : List (Record α)) (answer : List (List α)) : Prop :=
  ∃ ordered,
    StablyOrders (query.recordOrder type cells) (records.filter (query.keeps type cells)) ordered ∧
      answer = (query.withinLimit ordered).map fun record =>
        (query.returnedFields type).filterMap record

theorem preorder_recordOrder : TotalPreorder (query.recordOrder type cells) := by
  refine TotalPreorder.lexicographic fun le mem => ?_
  obtain ⟨entry, _, rfl⟩ := List.mem_map.mp mem
  exact (cells.preorder_leOption.orient entry.direction).comap fun (record : Record α) => record entry.field

end Query

/-- The rows that answer a query over the database that a schema describes. -/
def Schema.Answers {α : Type} (schema : Schema) (identifierCase : IdentifierCase)
    (cells : Cells α) (database : Database α) (query : Query) (answer : List (List α)) : Prop :=
  ∃ name type mapping, query.objectType = .ok name ∧ schema.objectType? name = some type ∧
    type.mapping? = some mapping ∧
    query.Answers type cells
      ((database (identifierCase.apply mapping.table)).map (mapping.record identifierCase)) answer

end ObjectQuery
