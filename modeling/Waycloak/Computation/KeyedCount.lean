import Mathlib.Data.List.AList
import Mathlib.Data.List.Nodup

/-!
# Counting the entries of a finite map

`keyedCount p s` is the number of entries of an association list that satisfy `p`. The
bounds below speak about `lookup` alone, so no proof about a count looks at the order of
the entries: `keyedCount_le` compares two maps key by key, and `keyedCount_le_succ` says
that two maps that agree off one key differ by at most one.
-/

set_option autoImplicit false

namespace Waycloak.Computation

variable {α β : Type}

/-- The number of entries that satisfy `p`. -/
def keyedCount (p : α → β → Bool) (s : AList fun _ : α => β) : ℕ :=
  s.entries.countP fun e => p e.1 e.2

variable [DecidableEq α]

/-- INTERNAL: **a count is bounded key by key**: if every counted entry of `s` has a counted entry
of `t` under its key, `t` counts at least as many. -/
theorem keyedCount_le {p q : α → β → Bool} {s t : AList fun _ : α => β}
    (h : ∀ a b, s.lookup a = some b → p a b = true →
      ∃ b', t.lookup a = some b' ∧ q a b' = true) : keyedCount p s ≤ keyedCount q t := by
  unfold keyedCount
  rw [List.countP_eq_length_filter, List.countP_eq_length_filter]
  have hnodup : ((s.entries.filter fun e => p e.1 e.2).map Sigma.fst).Nodup :=
    List.Nodup.sublist (List.Sublist.map _ List.filter_sublist) s.nodupKeys
  have hsubset : ((s.entries.filter fun e => p e.1 e.2).map Sigma.fst) ⊆
      (t.entries.filter fun e => q e.1 e.2).map Sigma.fst := by
    intro a ha
    obtain ⟨e, he, rfl⟩ := List.mem_map.mp ha
    obtain ⟨hmem, hp⟩ := List.mem_filter.mp he
    obtain ⟨b', hlookup, hq⟩ := h e.1 e.2 (AList.mem_lookup_iff.mpr hmem) hp
    exact List.mem_map.mpr
      ⟨⟨e.1, b'⟩, List.mem_filter.mpr ⟨AList.mem_lookup_iff.mp hlookup, hq⟩, rfl⟩
  have hlength := (List.subperm_of_subset hnodup hsubset).length_le
  rwa [List.length_map, List.length_map] at hlength

theorem keyedCount_insert_le (p : α → β → Bool) (s : AList fun _ : α => β) (a : α) (b : β) :
    keyedCount p (s.insert a b) ≤ keyedCount p s + 1 := by
  have herase : keyedCount p (s.erase a) ≤ keyedCount p s := by
    apply keyedCount_le
    intro k v hlookup hp
    by_cases hk : k = a
    · subst hk
      rw [AList.lookup_erase] at hlookup
      cases hlookup
    · rw [AList.lookup_erase_ne hk] at hlookup
      exact ⟨v, hlookup, hp⟩
  have hinsert : keyedCount p (s.insert a b) =
      keyedCount p (s.erase a) + if p a b then 1 else 0 := by
    unfold keyedCount
    rw [AList.entries_insert, List.countP_cons]
    rfl
  split at hinsert <;> omega

theorem keyedCount_le_succ {p : α → β → Bool} {s t : AList fun _ : α => β} {a : α}
    (h : ∀ k, k ≠ a → s.lookup k = t.lookup k) : keyedCount p s ≤ keyedCount p t + 1 := by
  cases hs : s.lookup a with
  | none =>
    have hle : keyedCount p s ≤ keyedCount p t := by
      apply keyedCount_le
      intro k v hlookup hp
      have hk : k ≠ a := by
        rintro rfl
        rw [hs] at hlookup
        cases hlookup
      exact ⟨v, (h k hk).symm.trans hlookup, hp⟩
    omega
  | some b =>
    refine le_trans ?_ (keyedCount_insert_le p t a b)
    apply keyedCount_le
    intro k v hlookup hp
    refine ⟨v, ?_, hp⟩
    by_cases hk : k = a
    · subst hk
      rw [AList.lookup_insert, ← hs, hlookup]
    · rw [AList.lookup_insert_ne hk, ← h k hk, hlookup]

end Waycloak.Computation
