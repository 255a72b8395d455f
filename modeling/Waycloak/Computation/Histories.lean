import Mathlib.Data.List.Basic

/-!
# What has happened since

A history is a list of events, the latest one last. `Since keeps event l` says that `event`
has occurred and that every later event satisfies `keeps`: it is how "the last write was this
one, and nothing has been written since" is said of a run. `EachFollowed event Q l` says that
what has come after each `event` of the history satisfies `Q`: it is how debts are kept.
-/

set_option autoImplicit false

namespace Waycloak.Computation

variable {α : Type} {l : List α} {keeps event : α → Prop} {a : α}

/-- `event` has occurred in the history, and `keeps` has held ever since. -/
def Since (keeps event : α → Prop) (l : List α) : Prop :=
  ∃ pre a post, l = pre ++ a :: post ∧ event a ∧ ∀ b ∈ post, keeps b

theorem since_last (ha : event a) : Since keeps event (l ++ [a]) :=
  ⟨l, a, [], rfl, ha, by simp⟩

theorem Since.snoc (h : Since keeps event l) (ha : keeps a) : Since keeps event (l ++ [a]) := by
  obtain ⟨pre, b, post, rfl, hb, hpost⟩ := h
  refine ⟨pre, b, post ++ [a], by simp, hb, ?_⟩
  intro c hc
  rcases List.mem_append.mp hc with hc | hc
  · exact hpost c hc
  · rw [List.mem_singleton.mp hc]
    exact ha

/-- INTERNAL: of two events after which nothing broke `keeps`, one that breaks `keeps` itself
came first. -/
theorem Since.after {first second : α → Prop} (h₁ : Since keeps first l) (h₂ : Since keeps second l)
    (hfirst : ∀ a, first a → ¬ keeps a) (hsecond : ∀ a, second a → keeps a) :
    ∃ pre a post, l = pre ++ a :: post ∧ first a ∧ (∀ b ∈ post, keeps b) ∧
      ∃ b ∈ post, second b := by
  obtain ⟨pre, a, post, rfl, ha, hpost⟩ := h₁
  refine ⟨pre, a, post, rfl, ha, hpost, ?_⟩
  obtain ⟨pre', b, post', heq, hb, hpost'⟩ := h₂
  rcases List.append_eq_append_iff.mp heq with ⟨mid, hpre', hrest⟩ | ⟨mid, hpre, hrest⟩
  · cases mid with
    | nil =>
      obtain ⟨rfl, -⟩ := List.cons.inj (by simpa using hrest)
      exact absurd (hsecond a hb) (hfirst a ha)
    | cons =>
      obtain ⟨-, hrest⟩ := List.cons.inj hrest
      exact ⟨b, by rw [hrest]; simp, hb⟩
  · cases mid with
    | nil =>
      obtain ⟨rfl, -⟩ := List.cons.inj (by simpa using hrest)
      exact absurd (hsecond b hb) (hfirst b ha)
    | cons =>
      obtain ⟨-, hrest⟩ := List.cons.inj hrest
      exact absurd (hpost' a (by rw [hrest]; simp)) (hfirst a ha)

/-- INTERNAL: two events that break `keeps`, with nothing that breaks it since, are the same one. -/
theorem Since.agree {first second : α → Prop} (h₁ : Since keeps first l) (h₂ : Since keeps second l)
    (hfirst : ∀ a, first a → ¬ keeps a) (hsecond : ∀ a, second a → ¬ keeps a) :
    ∃ a, first a ∧ second a := by
  obtain ⟨pre, a, post, rfl, ha, hpost⟩ := h₁
  obtain ⟨pre', b, post', heq, hb, hpost'⟩ := h₂
  rcases List.append_eq_append_iff.mp heq with ⟨mid, -, hrest⟩ | ⟨mid, -, hrest⟩
  · cases mid with
    | nil =>
      obtain ⟨rfl, -⟩ := List.cons.inj (by simpa using hrest)
      exact ⟨a, ha, hb⟩
    | cons =>
      obtain ⟨-, hrest⟩ := List.cons.inj hrest
      exact absurd (hpost b (by rw [hrest]; simp)) (hsecond b hb)
  · cases mid with
    | nil =>
      obtain ⟨rfl, -⟩ := List.cons.inj (by simpa using hrest)
      exact ⟨b, ha, hb⟩
    | cons =>
      obtain ⟨-, hrest⟩ := List.cons.inj hrest
      exact absurd (hpost' a (by rw [hrest]; simp)) (hfirst a ha)

/-- What has come after each `event` satisfies `Q`. -/
def EachFollowed (event : α → Prop) (Q : List α → Prop) (l : List α) : Prop :=
  ∀ pre a post, l = pre ++ a :: post → event a → Q post

theorem eachFollowed_nil (event : α → Prop) (Q : List α → Prop) : EachFollowed event Q [] := by
  intro pre a post h
  simp at h

/-- INTERNAL: **the rule for debts**: a step keeps, or settles, what is owed for each earlier event,
and takes on what is owed for itself. -/
theorem EachFollowed.snoc {Q Q' : List α → Prop} (h : EachFollowed event Q l)
    (hold : ∀ post, Q post → Q' (post ++ [a])) (hnew : event a → Q' []) :
    EachFollowed event Q' (l ++ [a]) := by
  intro pre b post heq hb
  rcases List.eq_nil_or_concat' post with rfl | ⟨post, c, rfl⟩
  · obtain ⟨-, rfl⟩ := List.append_inj' heq rfl |>.imp id (fun h => (List.cons.inj h).1)
    exact hnew hb
  have hsplit : l ++ [a] = (pre ++ b :: post) ++ [c] := by simp [heq]
  obtain ⟨hl, hac⟩ := List.append_inj' hsplit rfl
  obtain ⟨rfl, -⟩ := List.cons.inj hac
  exact hold post (h pre b post hl hb)

theorem eq_take_append_cons_drop {i : ℕ} (h : l[i]? = some a) :
    l = l.take i ++ a :: l.drop (i + 1) := by
  obtain ⟨hi, rfl⟩ := List.getElem?_eq_some_iff.mp h
  rw [← List.drop_eq_getElem_cons hi, List.take_append_drop]

end Waycloak.Computation
