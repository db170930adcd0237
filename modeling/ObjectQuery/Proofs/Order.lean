/-
Stable orders.

Rows are ordered by a total preorder, and rows that tie keep the order in which they
stood.  `StablyOrders` says this without naming a sorting algorithm; it leaves exactly
one result, the one of a stable merge sort.  Several orders are combined by consulting
each of them only on the ties of those before it.
-/

namespace ObjectQuery

/-- A total preorder, given as a test. -/
structure TotalPreorder {α : Type} (le : α → α → Bool) : Prop where
  trans : ∀ a b c, le a b = true → le b c = true → le a c = true
  total : ∀ a b, (le a b || le b a) = true

/-- Two elements that an order does not tell apart. -/
def tied {α : Type} (le : α → α → Bool) (a b : α) : Bool := le a b && le b a

/-- A list in order, with the elements that tie as they stand in another list. -/
structure StablyOrders {α : Type} (le : α → α → Bool) (rows ordered : List α) : Prop where
  inOrder : ordered.Pairwise fun a b => le a b = true
  ties : ∀ a, ordered.filter (tied le a) = rows.filter (tied le a)

/-- The order that consults each of some orders on the ties of those before it. -/
def lexicographic {α : Type} : List (α → α → Bool) → α → α → Bool
  | [], _, _ => true
  | le :: rest, a, b => le a b && (!le b a || lexicographic rest a b)

variable {α β : Type} {le : α → α → Bool}

namespace TotalPreorder

theorem refl (h : TotalPreorder le) (a : α) : le a a = true := by
  simpa using h.total a a

theorem comap {le : β → β → Bool} (h : TotalPreorder le) (f : α → β) :
    TotalPreorder fun a b => le (f a) (f b) :=
  ⟨fun a b c => h.trans (f a) (f b) (f c), fun a b => h.total (f a) (f b)⟩

theorem swap (h : TotalPreorder le) : TotalPreorder fun a b => le b a :=
  ⟨fun a b c ab bc => h.trans c b a bc ab, fun a b => h.total b a⟩

theorem lexicographic {les : List (α → α → Bool)} (h : ∀ le ∈ les, TotalPreorder le) :
    TotalPreorder (lexicographic les) := by
  induction les with
  | nil => exact ⟨fun _ _ _ _ _ => rfl, fun _ _ => rfl⟩
  | cons le rest ih =>
    have first : TotalPreorder le := h le List.mem_cons_self
    have others := ih fun le' mem => h le' (List.mem_cons_of_mem _ mem)
    constructor
    · intro a b c ab bc
      simp only [ObjectQuery.lexicographic, Bool.and_eq_true, Bool.or_eq_true,
        Bool.not_eq_true'] at ab bc ⊢
      refine ⟨first.trans a b c ab.1 bc.1, ?_⟩
      by_cases ca : le c a = true
      · -- A tie of the ends ties the element between them, so all of them go on to the rest.
        have ba := first.trans b c a bc.1 ca
        have cb := first.trans c a b ca ab.1
        refine Or.inr (others.trans a b c ?_ ?_)
        · simpa [ba] using ab.2
        · simpa [cb] using bc.2
      · exact Or.inl (by simpa using ca)
    · intro a b
      have total := first.total a b
      have rest := others.total a b
      simp only [ObjectQuery.lexicographic]
      cases ab : le a b <;> cases ba : le b a <;> simp_all

end TotalPreorder

theorem tied_iff {a b : α} : tied le a b = true ↔ le a b = true ∧ le b a = true := by
  simp [tied]

namespace StablyOrders

variable {rows ordered ordered' : List α}

/-- Two lists in order that agree on all ties are the same list: their first elements tie, so both
are the first of the same ties. -/
theorem eq_of_ties (preorder : TotalPreorder le) :
    ∀ {ordered ordered' : List α}, ordered.Pairwise (fun a b => le a b = true) →
      ordered'.Pairwise (fun a b => le a b = true) →
      (∀ a, ordered.filter (tied le a) = ordered'.filter (tied le a)) → ordered = ordered' := by
  intro ordered
  have self : ∀ a, tied le a a = true := fun a =>
    tied_iff.mpr ⟨preorder.refl a, preorder.refl a⟩
  induction ordered with
  | nil =>
    intro ordered' _ _ ties
    cases ordered' with
    | nil => rfl
    | cons b rest =>
      have := ties b
      simp [self b] at this
  | cons a rest ih =>
    intro ordered' inOrder inOrder' ties
    cases ordered' with
    | nil =>
      have := ties a
      simp [self a] at this
    | cons b rest' =>
      have b_mem : b ∈ a :: rest := by
        have : b ∈ (a :: rest).filter (tied le b) := by
          rw [ties b]
          simp [self b]
        exact (List.mem_filter.mp this).1
      have a_mem : a ∈ b :: rest' := by
        have : a ∈ (b :: rest').filter (tied le a) := by
          rw [← ties a]
          simp [self a]
        exact (List.mem_filter.mp this).1
      have ab : le a b = true := by
        rcases List.mem_cons.mp b_mem with rfl | mem
        · exact preorder.refl b
        · exact List.rel_of_pairwise_cons inOrder mem
      have ba : le b a = true := by
        rcases List.mem_cons.mp a_mem with rfl | mem
        · exact preorder.refl a
        · exact List.rel_of_pairwise_cons inOrder' mem
      have heads := ties a
      rw [List.filter_cons_of_pos (self a),
        List.filter_cons_of_pos (tied_iff.mpr ⟨ab, ba⟩)] at heads
      obtain ⟨rfl, _⟩ := List.cons.inj heads
      have tails : ∀ c, rest.filter (tied le c) = rest'.filter (tied le c) := by
        intro c
        have both := ties c
        by_cases h : tied le c a = true
        · rw [List.filter_cons_of_pos h, List.filter_cons_of_pos h] at both
          exact (List.cons.inj both).2
        · rwa [List.filter_cons_of_neg h, List.filter_cons_of_neg h] at both
      rw [ih (List.pairwise_cons.mp inOrder).2 (List.pairwise_cons.mp inOrder').2 tails]

theorem unique (preorder : TotalPreorder le) (h : StablyOrders le rows ordered)
    (h' : StablyOrders le rows ordered') : ordered = ordered' :=
  eq_of_ties preorder h.inOrder h'.inOrder fun a => (h.ties a).trans (h'.ties a).symm

/-- A stable merge sort finds it. -/
theorem mergeSort (preorder : TotalPreorder le) (rows : List α) :
    StablyOrders le rows (rows.mergeSort le) := by
  refine ⟨List.pairwise_mergeSort preorder.trans preorder.total rows, fun a => ?_⟩
  have inOrder : (rows.filter (tied le a)).Pairwise fun b c => le b c = true := by
    refine List.pairwise_of_forall_sublist fun {b c} pair => ?_
    have ab := (List.mem_filter.mp (pair.subset (List.mem_cons_self))).2
    have ac := (List.mem_filter.mp (pair.subset (List.mem_cons_of_mem _ List.mem_cons_self))).2
    exact preorder.trans b a c (tied_iff.mp ab).2 (tied_iff.mp ac).1
  have kept : (rows.filter (tied le a)).Sublist (rows.mergeSort le) :=
    List.sublist_mergeSort preorder.trans preorder.total inOrder List.filter_sublist
  have within := kept.filter (tied le a)
  simp only [List.filter_filter, Bool.and_self] at within
  have count := ((List.mergeSort_perm rows le).filter (tied le a)).length_eq
  exact (within.eq_of_length count.symm).symm

theorem iff_eq_mergeSort (preorder : TotalPreorder le) :
    StablyOrders le rows ordered ↔ ordered = rows.mergeSort le :=
  ⟨fun h => h.unique preorder (mergeSort preorder rows), fun h => h ▸ mergeSort preorder rows⟩

end StablyOrders
end ObjectQuery
