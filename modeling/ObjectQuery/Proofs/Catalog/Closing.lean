/-
Closing connections.

Holders of a catalog's connections use and close them in any order, and the catalog may be closed in
between.  Each of these actions keeps every connection in order and keeps closed connections out of
use, so the same holds after any of them.
-/
import Mathlib.Data.List.Nodup
import ObjectQuery.Proofs.Catalog.Registration

namespace ObjectQuery
namespace Catalog

/-! ## What is done with the connections of a catalog -/

/-- What the holders of connections do, each over any of them, and the catalog itself. -/
inductive Action
  | query (line : Nat) (statement : Statement)
  | close (line : Nat)
  | isClosed (line : Nat)
  | closeCatalog

def act (state : Catalog × Switchboard) : Action → Catalog × Switchboard
  | .query line statement => (state.1, (state.2.query line statement).2)
  | .close line => (state.1, (state.2.close line).2)
  | .isClosed _ => state
  | .closeCatalog => state.1.close state.2

/-- A catalog with its connections, each held once. -/
structure Holds (catalog : Catalog) (board : Switchboard) : Prop where
  orderly : board.Orderly
  distinct : catalog.connections.values.Nodup

/-- Closing a catalog closes the connections of it that are open, in order, and keeps only the
schema and the failures. -/
structure Closes (catalog : Catalog) (board : Switchboard) : Prop where
  log : (catalog.close board).2.log =
    board.log ++ (catalog.connections.values.filter fun line => !board.isClosed line).map Event.close
  outOfUse : ∀ line ∈ catalog.connections.values, (catalog.close board).2.OutOfUse line
  left : (catalog.close board).1 = ⟨catalog.schema, .empty, .empty, catalog.failures⟩

variable {catalog : Catalog} {board : Switchboard} {state : Catalog × Switchboard} {line : Nat}

theorem Holds.act (holds : state.1.Holds state.2) (action : Action) :
    (act state action).1.Holds (act state action).2 := by
  cases action with
  | query line statement => exact ⟨holds.orderly.query line statement, holds.distinct⟩
  | close line => exact ⟨holds.orderly.close line, holds.distinct⟩
  | isClosed line => exact holds
  | closeCatalog => exact ⟨holds.orderly.closeAll _, List.nodup_nil⟩

theorem Holds.foldl_act (holds : state.1.Holds state.2) (actions : List Action) :
    (actions.foldl Catalog.act state).1.Holds (actions.foldl Catalog.act state).2 := by
  induction actions generalizing state with
  | nil => exact holds
  | cons action rest ih => exact ih (holds.act action)

theorem Holds.closes (holds : catalog.Holds board) : catalog.Closes board where
  log := Switchboard.log_closeAll holds.distinct
  outOfUse line mem := by
    refine Switchboard.outOfUse ?_
    show (board.closeAll catalog.connections.values).isClosed line = true
    rw [Switchboard.isClosed_closeAll, decide_eq_true mem, Bool.true_or]
  left := rfl

/-- What is closed stays closed, and its other side hears nothing more. -/
theorem ended_act {events : List Event} (ended : state.2.Ended line events) (action : Action) :
    (act state action).2.Ended line events := by
  cases action with
  | query other statement => exact ended.query other statement
  | close other => exact ended.close other
  | isClosed other => exact ended
  | closeCatalog => exact ended.closeAll state.1.connections.values

theorem ended_foldl_act {events : List Event} (ended : state.2.Ended line events)
    (actions : List Action) : (actions.foldl Catalog.act state).2.Ended line events := by
  induction actions generalizing state with
  | nil => exact ended
  | cons action rest ih => exact ih (ended_act ended action)

/-! ## Built catalogs -/

theorem isUnused_build (schema : Schema) (connect : Connect) :
    (build schema connect).1.IsUnused (build schema connect).2 := by
  let start : Catalog × Switchboard := (unconnected schema, .empty)
  have nothing : start.1.IsUnused start.2 := isUnused_unconnected schema
  let half := schema.dataSources.values.foldl (connectTo connect) start
  have unused : half.1.IsUnused half.2 := nothing.foldl_connectTo schema.dataSources.values
  have connections : (build schema connect).1.connections = half.1.connections :=
    (foldl_registerTable_keeps half.2 schema.objectTypes.values half.1).1
  refine ⟨unused.opened, unused.silent, ?_, ?_⟩
  · rw [connections]
    exact unused.known
  · rw [connections]
    exact unused.distinct

theorem IsUnused.holds (unused : catalog.IsUnused board) : catalog.Holds board := by
  have silent (line : Nat) : board.heard line = [] := by
    refine List.filter_eq_nil_iff.mpr fun event mem about => ?_
    rw [unused.silent event mem] at about
    exact absurd about (by simp)
  refine ⟨⟨fun line listed => ?_, fun event mem line about => ?_⟩, unused.distinct⟩
  · have up := unused.isClosed_eq_false listed
    rw [Switchboard.received_eq_filterMap_heard, silent, up]
    rfl
  · rw [unused.silent event mem] at about
    exact absurd about (by simp)

/-- Whatever is done with the connections of a catalog, and whatever their other sides report, each
of them is closed at most once, after its last statement.  A connection is out of use once it is
closed, also by a closing that failed, and stays so.  Closing the catalog closes the others. -/
theorem act_closes_once (schema : Schema) (connect : Connect) (actions : List Action) :
    let state := actions.foldl act (build schema connect)
    state.2.Orderly ∧
      (∀ line, state.2.log.count (.close line) ≤ 1) ∧
      (∀ line, (state.2.close line).2.OutOfUse line) ∧
      (∀ line, state.2.isClosed line = true → ∀ later : List Action,
        (later.foldl act state).2.OutOfUse line ∧
          (later.foldl act state).2.heard line = state.2.heard line ∧
          (later.foldl act state).2.received line = state.2.received line) ∧
      state.1.Closes state.2 := by
  intro state
  have holds : state.1.Holds state.2 := (isUnused_build schema connect).holds.foldl_act actions
  refine ⟨holds.orderly, holds.orderly.count_close_le_one, fun line => ?_,
    fun line closed later => ?_, holds.closes⟩
  · refine Switchboard.outOfUse ?_
    rw [Switchboard.isClosed_close, decide_eq_true rfl, Bool.true_or]
  · have ended : (later.foldl act state).2.Ended line (state.2.heard line) :=
      ended_foldl_act ⟨closed, rfl⟩ later
    refine ⟨Switchboard.outOfUse ended.isClosed, ended.heard, ?_⟩
    rw [Switchboard.received_eq_filterMap_heard, ended.heard,
      ← Switchboard.received_eq_filterMap_heard]

end Catalog

namespace Cars

/-- A connection that reports an error when it is closed. -/
def stubborn : Connect := fun _ => .ok ⟨fun _ => .ok ⟨["vid"], []⟩, some (.adhoc "busy")⟩

def everyCar : Statement := ⟨"SELECT \"vid\" FROM \"cars\";", []⟩

def stubbornOpen : Catalog × Switchboard := Catalog.build yardSchema stubborn

/-- The fleet is asked for its cars, and its connection is closed. -/
def stubbornClosed : Catalog × Switchboard :=
  [.query 0 everyCar, .close 0].foldl Catalog.act stubbornOpen

def afterwards : List Catalog.Action := [.query 0 everyCar, .query 1 everyCar, .closeCatalog]

theorem act_stubborn :
    (stubbornOpen.2.close 0).1.toOption = none ∧ stubbornClosed.2.isClosed 0 = true ∧
      (afterwards.foldl Catalog.act stubbornClosed).2.OutOfUse 0 ∧
      (afterwards.foldl Catalog.act stubbornClosed).2.heard 0 = [.query 0 everyCar, .close 0] ∧
      (afterwards.foldl Catalog.act stubbornClosed).2.heard 1 = [.query 1 everyCar, .close 1] := by
  have closed : stubbornClosed.2.isClosed 0 = true := by decide +kernel
  obtain ⟨_, _, _, stays, _⟩ := Catalog.act_closes_once yardSchema stubborn [.query 0 everyCar, .close 0]
  obtain ⟨outOfUse, heard, _⟩ := stays 0 closed afterwards
  refine ⟨by decide +kernel, closed, outOfUse, heard.trans ?_, ?_⟩
  · decide +kernel
  · decide +kernel

end Cars
end ObjectQuery
