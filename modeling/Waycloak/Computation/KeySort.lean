import Mathlib.Data.List.Sort

/-!
# Lists in the order of a key

A list sorted by a key of its elements. If the keys are distinct the sorted list is the only
permutation whose keys increase strictly, so that sorting a list of this order changes nothing.

`distinct_cons_iff` is for a loop that checks the elements one by one and keeps the keys it has seen.
-/

set_option autoImplicit false

namespace Waycloak.Computation

variable {α κ : Type} [LinearOrder κ] {key : α → κ} {l l' : List α}

/-- The list in the order of the key. -/
def sortBy (key : α → κ) (l : List α) : List α := l.insertionSort fun a b => key a ≤ key b

/-- The keys increase strictly. -/
def StrictlyBy (key : α → κ) (l : List α) : Prop := l.Pairwise fun a b => key a < key b

instance : Decidable (StrictlyBy key l) := inferInstanceAs (Decidable (List.Pairwise _ _))

theorem sortBy_perm : (sortBy key l).Perm l := List.perm_insertionSort _ _

@[simp] theorem mem_sortBy {a : α} : a ∈ sortBy key l ↔ a ∈ l := sortBy_perm.mem_iff

theorem sortBy_of_strictly (h : StrictlyBy key l) : sortBy key l = l :=
  List.Pairwise.insertionSort_eq (h.imp fun hlt => hlt.le)

theorem sortBy_ordered : (sortBy key l).Pairwise fun a b => key a ≤ key b := by
  have : Std.Total fun a b : α => key a ≤ key b := ⟨fun a b => le_total (key a) (key b)⟩
  have : IsTrans α fun a b => key a ≤ key b := ⟨fun _ _ _ => le_trans⟩
  exact List.pairwise_insertionSort _ l

/-- INTERNAL: **sorting by distinct keys orders strictly.** -/
theorem strictlyBy_sortBy (h : (l.map key).Nodup) : StrictlyBy key (sortBy key l) := by
  have hnodup : ((sortBy key l).map key).Nodup := (sortBy_perm.map key).nodup_iff.mpr h
  have hdistinct : (sortBy key l).Pairwise fun a b => key a ≠ key b := List.pairwise_map.mp hnodup
  exact (sortBy_ordered.and hdistinct).imp fun hab => lt_of_le_of_ne hab.1 hab.2

theorem sortBy_eq_self_iff (h : (l.map key).Nodup) : sortBy key l = l ↔ StrictlyBy key l := by
  constructor
  · intro hsorted
    have hstrict := strictlyBy_sortBy h
    rwa [hsorted] at hstrict
  · exact sortBy_of_strictly

theorem sortBy_idem : sortBy key (sortBy key l) = sortBy key l :=
  List.Pairwise.insertionSort_eq sortBy_ordered

/-- INTERNAL: **the sorted list of distinct keys does not depend on the order before.** -/
theorem sortBy_eq_of_perm (hperm : l.Perm l') (h : (l.map key).Nodup) :
    sortBy key l = sortBy key l' := by
  have hleft : (sortBy key l).Pairwise fun a b => key a < key b := strictlyBy_sortBy h
  have hright : (sortBy key l').Pairwise fun a b => key a < key b :=
    strictlyBy_sortBy ((hperm.map key).nodup_iff.mp h)
  have hsame : (sortBy key l).Perm (sortBy key l') :=
    (sortBy_perm.trans hperm).trans sortBy_perm.symm
  exact hsame.eq_of_pairwise (fun a b _ _ hab hba => absurd hab hba.asymm) hleft hright

omit [LinearOrder κ] in
/-- INTERNAL: the elements of a list are good and their keys are distinct and not seen before, read
from the first one on. -/
theorem distinct_cons_iff {good : α → Prop} {seen : List κ} {first : α} {rest : List α} :
    ((∀ a ∈ first :: rest, good a ∧ key a ∉ seen) ∧ ((first :: rest).map key).Nodup) ↔
      good first ∧ key first ∉ seen ∧
        (∀ a ∈ rest, good a ∧ key a ∉ key first :: seen) ∧ (rest.map key).Nodup := by
  rw [List.forall_mem_cons, List.map_cons, List.nodup_cons]
  simp only [List.mem_cons, not_or, List.mem_map, not_exists, not_and]
  constructor
  · rintro ⟨⟨⟨hgood, hfresh⟩, hrest⟩, hnew, hnodup⟩
    exact ⟨hgood, hfresh, fun a ha => ⟨(hrest a ha).1, hnew a ha, (hrest a ha).2⟩, hnodup⟩
  · rintro ⟨hgood, hfresh, hrest, hnodup⟩
    exact ⟨⟨⟨hgood, hfresh⟩, fun a ha => ⟨(hrest a ha).1, (hrest a ha).2.2⟩⟩,
      fun a ha => (hrest a ha).2.1, hnodup⟩

end Waycloak.Computation
