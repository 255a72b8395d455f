import Mathlib.Data.List.Basic

/-!
# Invariants of fallible folds

A loop that may stop with an error is `List.foldlM` in `Except`. What every iteration keeps
holds of the result, if there is one.
-/

set_option autoImplicit false

namespace Waycloak.Computation

/-- INTERNAL: **the fold rule.** An invariant that every iteration on an element of the list keeps
holds of the result. -/
theorem foldlM_invariant {ε α β : Type} {f : β → α → Except ε β} {I : β → Prop} {l : List α}
    (hstep : ∀ a ∈ l, ∀ b b', I b → f b a = .ok b' → I b') {b b' : β} (hb : I b)
    (h : l.foldlM f b = .ok b') : I b' := by
  induction l generalizing b with
  | nil =>
    cases h
    exact hb
  | cons a l ih =>
    rw [List.foldlM_cons] at h
    cases hfirst : f b a with
    | error err =>
      rw [hfirst] at h
      cases h
    | ok mid =>
      rw [hfirst] at h
      have hmid : I mid := hstep a List.mem_cons_self b mid hb hfirst
      exact ih (fun a' ha' => hstep a' (List.mem_cons_of_mem _ ha')) hmid h

end Waycloak.Computation
