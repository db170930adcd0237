/-
What giving an error a context keeps.

A context puts one fault in front of the error, and the error itself stays as it is.  Of the context
no more than that fault is kept: what had caused it is dropped, and where others still hold the
context, so is its kind.  So nothing is lost exactly where the context is a fault of its own that
nobody else holds, or whose kind the error has anyway.
-/
import ObjectQuery.Error

namespace ObjectQuery
namespace Error

variable {e c : Error} {kind : ErrorKind} {shared : Bool}

/-- Faults in one line. -/
def line (faults : List Fault) : String := ": ".intercalate (faults.map Fault.message)

theorem line_append {front back : List Fault} (front_ne : front ≠ []) (back_ne : back ≠ []) :
    line (front ++ back) = line front ++ ": " ++ line back := by
  rw [line, List.map_append,
    String.intercalate_append_of_ne_nil (by simpa using front_ne) (by simpa using back_ne)]
  rfl

theorem message_eq_of_no_causes (no_causes : e.causes = []) : e.message = e.fault.message := by
  rw [message, chain, no_causes, List.map_singleton, String.intercalate_singleton]

theorem message_eq_of_causes (causes : e.causes ≠ []) :
    e.message = e.fault.message ++ ": " ++ line e.causes := by
  have front : line [e.fault] = e.fault.message := String.intercalate_singleton
  have whole : e.message = line ([e.fault] ++ e.causes) := rfl
  rw [whole, line_append (List.cons_ne_nil _ _) causes, front]

/-! ## One context -/

/-- A context that others still hold is worded as it was. -/
theorem message_fault_context (e c : Error) (shared : Bool) :
    (e.context c shared).fault.message = c.fault.message := by
  cases shared <;> rfl

theorem message_context (e c : Error) (shared : Bool) :
    (e.context c shared).message = c.fault.message ++ ": " ++ e.message := by
  have causes : (e.context c shared).causes ≠ [] := List.cons_ne_nil _ _
  rw [message_eq_of_causes causes, message_fault_context]
  rfl

theorem is_context (e c : Error) (shared : Bool) (kind : ErrorKind) :
    (e.context c shared).is kind = (!shared && c.fault.kind? == some kind || e.is kind) := by
  cases shared <;> rfl

/-- The context is displayed in full exactly if it has no causes. -/
theorem message_context_eq_iff :
    (e.context c shared).message = c.message ++ ": " ++ e.message ↔ c.causes = [] := by
  rw [message_context]
  cases causes : c.causes with
  | nil => simp [message_eq_of_no_causes causes]
  | cons cause others =>
    refine iff_of_false (fun same => ?_) (List.cons_ne_nil _ _)
    -- On the left the causes are missing, and at least the separator in front of them.
    have causes_ne : c.causes ≠ [] := causes ▸ List.cons_ne_nil _ _
    have separator : ": ".length = 2 := rfl
    have lengths := congrArg String.length same
    rw [message_eq_of_causes causes_ne] at lengths
    simp only [String.length_append] at lengths
    omega

/-- A kind of the context is kept exactly if the error has it too, or if it is the kind of the
context's first fault and nobody else holds the context. -/
theorem is_context_eq_iff :
    (e.context c shared).is kind = (c.is kind || e.is kind) ↔
      (c.is kind = true → e.is kind = true ∨ shared = false ∧ c.fault.kind? = some kind) := by
  have first : c.fault.kind? = some kind → c.is kind = true := by
    intro same
    simp [is, chain, same]
  rw [is_context]
  cases e.is kind with
  | true => simp
  | false =>
    by_cases same : c.fault.kind? = some kind
    · simp [same, first same]
    · simp [same, beq_eq_false_iff_ne.mpr same]

/-! ## Any number of contexts -/

/-- How an error came about: from a fault, or by giving an error the context of another one, which
others may still hold. -/
inductive History
  | ofFault (fault : Fault)
  | context (error consequent : History) (shared : Bool)

namespace History

def error : History → Error
  | ofFault fault => .ofFault fault
  | context e c shared => e.error.context c.error shared

/-- All faults that an error was made of, the latest context first. -/
def faults : History → List Fault
  | ofFault fault => [fault]
  | context e c _ => c.faults ++ e.faults

/-- Whether an error was made of one fault alone. -/
def isSingle : History → Bool
  | ofFault _ => true
  | context _ _ _ => false

/-- Whether every context that an error was given was made of one fault alone. -/
def isPlain : History → Bool
  | ofFault _ => true
  | context e c _ => c.isSingle && e.isPlain

/-- Whether, moreover, nobody else held any of the contexts. -/
def isFresh : History → Bool
  | ofFault _ => true
  | context e c shared => c.isSingle && !shared && e.isFresh

theorem causes_error_eq_nil_iff {h : History} : h.error.causes = [] ↔ h.isSingle = true := by
  cases h with
  | ofFault fault => exact iff_of_true rfl rfl
  | context e c shared => exact iff_of_false (List.cons_ne_nil _ _) Bool.false_ne_true

theorem faults_ne_nil (h : History) : h.faults ≠ [] := by
  induction h with
  | ofFault fault => exact List.cons_ne_nil _ _
  | context e c shared _ ih => exact List.append_ne_nil_of_left_ne_nil ih _

theorem line_ofFault (fault : Fault) : line (ofFault fault).faults = fault.message :=
  String.intercalate_singleton

theorem line_context (e c : History) (shared : Bool) :
    line (context e c shared).faults = line c.faults ++ ": " ++ line e.faults :=
  line_append c.faults_ne_nil e.faults_ne_nil

/-- Of fresh contexts nothing is lost: the error is the chain of all that it was made of. -/
theorem chain_error_of_isFresh {h : History} (fresh : h.isFresh = true) :
    h.error.chain = h.faults := by
  induction h with
  | ofFault fault => rfl
  | context e c shared ih _ =>
    simp only [isFresh, Bool.and_eq_true, Bool.not_eq_true'] at fresh
    obtain ⟨⟨single, rfl⟩, rest⟩ := fresh
    cases c with
    | ofFault fault => exact congrArg (fault :: ·) (ih rest)
    | context => contradiction

/-- The first fault's words are part of all that an error was made of, and the whole of it only if
the error was made of that fault alone. -/
theorem length_message_fault_le (h : History) :
    h.error.fault.message.length + (if h.isSingle then 0 else 2) ≤ (line h.faults).length := by
  induction h with
  | ofFault fault => simp [line_ofFault, error, Error.ofFault, isSingle]
  | context e c shared _ ih =>
    have separator : ": ".length = 2 := rfl
    rw [line_context, error, message_fault_context]
    simp only [isSingle, Bool.false_eq_true, if_false, String.length_append]
    omega

/-- No error displays more than it was made of. -/
theorem length_message_error_le (h : History) :
    h.error.message.length ≤ (line h.faults).length := by
  induction h with
  | ofFault fault => exact Nat.le_refl _
  | context e c shared ih _ =>
    have first := c.length_message_fault_le
    rw [line_context, error, message_context]
    simp only [String.length_append]
    omega

/-- An error displays all that it was made of exactly if each of its contexts was a fault of its
own. -/
theorem message_error_eq_iff {h : History} :
    h.error.message = line h.faults ↔ h.isPlain = true := by
  induction h with
  | ofFault fault => exact iff_of_true rfl rfl
  | context e c shared ih _ =>
    rw [line_context, error, message_context, isPlain]
    cases c with
    | ofFault fault =>
      rw [line_ofFault, isSingle, Bool.true_and, ← ih]
      exact String.append_right_inj _
    | context e' c' shared' =>
      refine iff_of_false (fun same => ?_) (by simp [isSingle])
      -- Neither part of the display is longer than what it stands for, and the first is shorter.
      have first := (context e' c' shared').length_message_fault_le
      have others := e.length_message_error_le
      have lengths := congrArg String.length same
      simp only [isSingle, Bool.false_eq_true, if_false] at first
      simp only [String.length_append] at lengths
      omega

/-- Giving an error a context displays the whole context before the error exactly if the context was
made of one fault alone, and it keeps a kind of the context exactly if the error has it too, or if it
is the kind of the context's first fault and nobody else holds the context. -/
theorem context_keeps_iff (e c : History) (shared : Bool) :
    ((e.error.context c.error shared).message = c.error.message ++ ": " ++ e.error.message ↔
        c.isSingle = true) ∧
      ∀ kind, (e.error.context c.error shared).is kind = (c.error.is kind || e.error.is kind) ↔
        (c.error.is kind = true →
          e.error.is kind = true ∨ shared = false ∧ c.error.fault.kind? = some kind) := by
  refine ⟨?_, fun kind => is_context_eq_iff⟩
  rw [message_context_eq_iff, causes_error_eq_nil_iff]

end History
end Error

namespace Cars

def unknownTruck : Error.History := .ofFault (.notFound "Truck")

/-- An object type that was looked for while a query was planned. -/
def unknownInQuery : Error.History :=
  .context unknownTruck (.ofFault (.adhoc "planning query")) false

def timeout : Error.History := .ofFault (.adhoc "timeout")

/-- Given as a context, the error of the query no longer says what was not found, and neither it nor
an error that others hold is told apart from other errors. -/
theorem context_unknownTruck :
    (timeout.error.context unknownInQuery.error false).message = "planning query: timeout" ∧
      unknownInQuery.error.message ++ ": " ++ timeout.error.message =
        "planning query: object type 'Truck' not found: timeout" ∧
      (timeout.error.context unknownInQuery.error false).is .notFound ≠
        (unknownInQuery.error.is .notFound || timeout.error.is .notFound) ∧
      (timeout.error.context unknownTruck.error true).is .notFound ≠
        (unknownTruck.error.is .notFound || timeout.error.is .notFound) := by
  decide +kernel

end Cars
end ObjectQuery
