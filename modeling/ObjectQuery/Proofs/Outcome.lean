/-
Results that may be errors.

A step that may fail succeeds exactly when each of its parts does, which is how
proofs take computations apart.  `Outcome.Alike` relates two runs that fail with
like errors or succeed with related results, `Outcome.FailsWith` says with which
errors a run fails, and `Outcome.FailsIff` also when.
-/
import Mathlib.Data.List.Forall2

namespace ObjectQuery
namespace Outcome

variable {ε α β γ δ : Type}

theorem bind_eq_ok {x : Except ε α} {f : α → Except ε β} {b : β} :
    x >>= f = .ok b ↔ ∃ a, x = .ok a ∧ f a = .ok b := by
  cases x with
  | error e => simp [bind, Except.bind]
  | ok a => simp [bind, Except.bind]

theorem check_bind_eq_ok {x : Except ε Unit} {f : Unit → Except ε β} {b : β} :
    x >>= f = .ok b ↔ x = .ok () ∧ f () = .ok b := by
  rw [bind_eq_ok]
  constructor
  · rintro ⟨_, passed, rest⟩
    exact ⟨passed, rest⟩
  · rintro ⟨passed, rest⟩
    exact ⟨(), passed, rest⟩

theorem pure_eq_ok {a b : α} : (pure a : Except ε α) = .ok b ↔ a = b := by
  simp [pure, Except.pure]

theorem ok_bind (a : α) (f : α → Except ε β) : (.ok a : Except ε α) >>= f = f a := rfl

theorem map_eq_ok {x : Except ε α} {f : α → β} {b : β} :
    x.map f = .ok b ↔ ∃ a, x = .ok a ∧ f a = b := by
  cases x with
  | error e => simp [Except.map]
  | ok a => simp [Except.map]

theorem eq_ok_of_toOption {x : Except ε α} {a : α} (h : x.toOption = some a) : x = .ok a := by
  cases x with
  | error e => simp [Except.toOption] at h
  | ok b =>
    simp only [Except.toOption, Option.some.injEq] at h
    rw [h]

theorem forM_eq_ok_iff {check : α → Except ε Unit} {l : List α} :
    l.forM check = .ok () ↔ ∀ a ∈ l, check a = .ok () := by
  induction l with
  | nil => simp [pure, Except.pure]
  | cons a rest ih =>
    simp only [List.forM_eq_forM] at ih
    simp only [List.forM_eq_forM, List.forM_cons, check_bind_eq_ok, ih, List.mem_cons,
      forall_eq_or_imp]

/-- Two runs that fail with like errors, or succeed with related results. -/
inductive Alike (like : ε → ε → Prop) (R : α → β → Prop) : Except ε α → Except ε β → Prop
  | error {e e' : ε} (alike : like e e') : Alike like R (.error e) (.error e')
  | ok {a : α} {b : β} (related : R a b) : Alike like R (.ok a) (.ok b)

namespace Alike

variable {like : ε → ε → Prop} {R : α → β → Prop} {S : γ → δ → Prop} {x : Except ε α}
  {y : Except ε β} {f : α → Except ε γ} {g : β → Except ε δ}

theorem bind (start : Alike like R x y) (further : ∀ a b, R a b → Alike like S (f a) (g b)) :
    Alike like S (x >>= f) (y >>= g) := by
  cases start with
  | error alike => exact .error alike
  | ok related => exact further _ _ related

theorem mapM {ι : Type} {l : List ι} {f : ι → Except ε α} {g : ι → Except ε β}
    (each : ∀ i ∈ l, Alike like R (f i) (g i)) :
    Alike like (List.Forall₂ R) (l.mapM f) (l.mapM g) := by
  induction l with
  | nil => exact .ok .nil
  | cons i rest ih =>
    rw [List.forall_mem_cons] at each
    rw [List.mapM_cons, List.mapM_cons]
    refine bind each.1 fun a b first => bind (ih each.2) fun as bs others => ?_
    exact .ok (.cons first others)

theorem forM_map {ι κ : Type} {l : List ι} {h : ι → κ} {f : ι → Except ε Unit}
    {g : κ → Except ε Unit} (each : ∀ i ∈ l, Alike like Eq (f i) (g (h i))) :
    Alike like Eq (l.forM f) ((l.map h).forM g) := by
  induction l with
  | nil => exact .ok rfl
  | cons i rest ih =>
    rw [List.forall_mem_cons] at each
    exact bind each.1 fun _ _ _ => ih each.2

theorem refl (same : ∀ e, like e e) (x : Except ε α) : Alike like Eq x x := by
  cases x with
  | error e => exact .error (same e)
  | ok a => exact .ok rfl

/-- A run succeeds if one that is alike does. -/
theorem exists_eq_ok (alike : Alike like R x y) {a : α} (done : x = .ok a) :
    ∃ b, y = .ok b ∧ R a b := by
  subst done
  cases alike with
  | ok related => exact ⟨_, rfl, related⟩

end Alike

/-- A run whose errors are all expected ones. -/
def FailsWith (expected : ε → Prop) (x : Except ε α) : Prop := ∀ e, x = .error e → expected e

namespace FailsWith

variable {expected : ε → Prop} {x : Except ε α} {f : α → Except ε β}

theorem ok (a : α) : FailsWith expected (.ok a : Except ε α) := by
  intro e failed
  cases failed

theorem error {e : ε} (as_expected : expected e) : FailsWith expected (.error e : Except ε α) := by
  intro e' same
  cases same
  exact as_expected

theorem bind (first : FailsWith expected x) (further : ∀ a, FailsWith expected (f a)) :
    FailsWith expected (x >>= f) := by
  cases x with
  | error e => exact error (first e rfl)
  | ok a => exact further a

end FailsWith

/-- A run that fails exactly for a cause, and then with an expected error. -/
structure FailsIff (expected : ε → Prop) (x : Except ε α) (cause : Prop) : Prop where
  iff : (∃ e, x = .error e) ↔ cause
  expected : ∀ e, x = .error e → expected e

namespace FailsIff

variable {expected : ε → Prop} {x : Except ε α} {f : α → Except ε β} {P Q : Prop}

theorem ok (a : α) : FailsIff expected (.ok a : Except ε α) False :=
  ⟨by simp, by simp⟩

theorem error {e : ε} (as_expected : expected e) :
    FailsIff expected (.error e : Except ε α) True :=
  ⟨by simp, fun _ same => Except.error.inj same ▸ as_expected⟩

theorem of_iff (fails : FailsIff expected x P) (same : P ↔ Q) : FailsIff expected x Q :=
  ⟨fails.iff.trans same, fails.expected⟩

/-- Two runs one after the other fail when one of them does. -/
theorem bind (first : FailsIff expected x P)
    (further : ∀ a, x = .ok a → FailsIff expected (f a) Q) :
    FailsIff expected (x >>= f) (P ∨ Q) := by
  cases x with
  | error e =>
    have caused : P := first.iff.mp ⟨e, rfl⟩
    exact ⟨by simp [Bind.bind, Except.bind, caused], fun _ failed =>
      first.expected _ (congrArg Except.error (Except.error.inj failed))⟩
  | ok a =>
    have fine : ¬P := fun caused => by simpa using first.iff.mpr caused
    have rest := further a rfl
    exact ⟨rest.iff.trans (or_iff_right fine).symm, rest.expected⟩

theorem map (first : FailsIff expected x P) (g : α → β) :
    FailsIff expected (x >>= fun a => pure (g a)) P :=
  (first.bind fun a _ => ok (g a)).of_iff (or_iff_left not_false)

theorem mapM {ι : Type} {l : List ι} {f : ι → Except ε α} {cause : ι → Prop}
    (each : ∀ i ∈ l, FailsIff expected (f i) (cause i)) :
    FailsIff expected (l.mapM f) (∃ i ∈ l, cause i) := by
  induction l with
  | nil => exact (ok []).of_iff (by simp)
  | cons i rest ih =>
    rw [List.forall_mem_cons] at each
    rw [List.mapM_cons]
    exact (each.1.bind fun a _ => (ih each.2).map (a :: ·)).of_iff (by simp)

end FailsIff

end Outcome
end ObjectQuery
