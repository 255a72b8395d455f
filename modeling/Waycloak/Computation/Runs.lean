import Mathlib.Data.List.Induction

/-!
# Runs of a deterministic step function, and what holds between two of their steps

A system is a step function `next : σ → α → σ × ρ`: everything its environment
decides is part of the input `α`, and what one step lets the outside see is its
output `ρ`. `exec next s as` is the run on the inputs `as`: the list of its
records, each with the state before, the input, the state after and the output.

`Linked` is the same notion as a relation on a list of records. It is what the
rules below are stated over, because a record list can be cut anywhere and both
pieces are again linked (`linked_append`).

Three rules carry every run argument:

* `Linked.invariant`: a property of the state that every step of the run keeps
  holds before and after each of its steps.
* `Linked.until`: a property that every step either keeps or leaves through an
  event `E` holds at the end of a piece of the run unless `E` occurred inside it.
* `Linked.history`: a property of the state and of the steps that led to it.
-/

set_option autoImplicit false

namespace Waycloak.Computation

variable {σ α ρ : Type} {next : σ → α → σ × ρ} {s : σ} {as : List α} {P : σ → Prop}

/-- One executed step. -/
structure Record (σ α ρ : Type) where
  before : σ
  input : α
  after : σ
  output : ρ

/-- The record of the step `next` takes from `s` on input `a`. -/
def record (next : σ → α → σ × ρ) (s : σ) (a : α) : Record σ α ρ :=
  { before := s, input := a, after := (next s a).1, output := (next s a).2 }

/-- The run of `next` from `s` on the inputs, as the list of its records. -/
def exec (next : σ → α → σ × ρ) : σ → List α → List (Record σ α ρ)
  | _, [] => []
  | s, a :: as => record next s a :: exec next (next s a).1 as

/-- The state the run of `next` from `s` on the inputs ends in. -/
def final (next : σ → α → σ × ρ) : σ → List α → σ
  | s, [] => s
  | s, a :: as => final next (next s a).1 as

@[simp] theorem exec_nil (next : σ → α → σ × ρ) (s : σ) : exec next s [] = [] := rfl

@[simp] theorem exec_cons (next : σ → α → σ × ρ) (s : σ) (a : α) (as : List α) :
    exec next s (a :: as) = record next s a :: exec next (next s a).1 as := rfl

@[simp] theorem record_before (next : σ → α → σ × ρ) (s : σ) (a : α) :
    (record next s a).before = s := rfl

@[simp] theorem record_input (next : σ → α → σ × ρ) (s : σ) (a : α) :
    (record next s a).input = a := rfl

@[simp] theorem record_after (next : σ → α → σ × ρ) (s : σ) (a : α) :
    (record next s a).after = (next s a).1 := rfl

@[simp] theorem record_output (next : σ → α → σ × ρ) (s : σ) (a : α) :
    (record next s a).output = (next s a).2 := rfl

/-- `l` is a run of `next` that starts in `s`. -/
def Linked (next : σ → α → σ × ρ) : σ → List (Record σ α ρ) → Prop
  | _, [] => True
  | s, r :: l => r = record next s r.input ∧ Linked next r.after l

/-- The state a linked list of records that starts in `s` ends in. -/
def endState : σ → List (Record σ α ρ) → σ
  | s, [] => s
  | _, r :: l => endState r.after l

theorem exec_linked (next : σ → α → σ × ρ) (s : σ) (as : List α) :
    Linked next s (exec next s as) := by
  induction as generalizing s with
  | nil => trivial
  | cons a as ih => exact ⟨rfl, ih _⟩

variable {r a b : Record σ α ρ} {l m pre mid post : List (Record σ α ρ)}

theorem exec_input_mem (h : r ∈ exec next s as) : r.input ∈ as := by
  induction as generalizing s with
  | nil => cases h
  | cons a as ih =>
    rcases List.mem_cons.mp h with rfl | h
    · exact List.mem_cons_self
    · exact List.mem_cons_of_mem _ (ih h)

theorem linked_append (next : σ → α → σ × ρ) (s : σ) (l m : List (Record σ α ρ)) :
    Linked next s (l ++ m) ↔ Linked next s l ∧ Linked next (endState s l) m := by
  induction l generalizing s with
  | nil => simp [Linked, endState]
  | cons r l ih => simp only [List.cons_append, Linked, endState, ih, and_assoc]

/-- INTERNAL: the record after a piece of a run starts where the piece ended, and the
rest of the run starts where that record ended. -/
theorem Linked.cut (h : Linked next s (l ++ r :: m)) :
    Linked next s l ∧ r = record next (endState s l) r.input ∧ Linked next r.after m := by
  obtain ⟨hl, hr, hm⟩ := (linked_append next s l (r :: m)).mp h
  exact ⟨hl, hr, hm⟩

/-- INTERNAL: **the until rule.** If every step of a piece of a run keeps `P` or is an
event `E`, then `P` still holds at the end of the piece, unless `E` occurred in it. -/
theorem Linked.until {E : Record σ α ρ → Prop} (hlink : Linked next s l)
    (hstep : ∀ r ∈ l, r = record next r.before r.input → P r.before → E r ∨ P r.after) (hs : P s) :
    (∃ r ∈ l, E r) ∨ P (endState s l) := by
  induction l generalizing s with
  | nil => exact Or.inr hs
  | cons r l ih =>
    obtain ⟨hr, hl⟩ := hlink
    have hbefore : r.before = s := by rw [hr]; rfl
    rcases hstep r (by simp) (by rw [hbefore]; exact hr) (by rw [hbefore]; exact hs) with he | hp
    · exact Or.inl ⟨r, by simp, he⟩
    · rcases ih hl (fun r' hr' => hstep r' (List.mem_cons_of_mem _ hr')) hp with ⟨r', hr', he⟩ | hp'
      · exact Or.inl ⟨r', List.mem_cons_of_mem _ hr', he⟩
      · exact Or.inr hp'

/-- INTERNAL: **the invariant rule.** What every step of a run keeps holds before and
after each of its steps, and each of its records is a step of the system. -/
theorem Linked.invariant (hlink : Linked next s l)
    (hstep : ∀ r ∈ l, r = record next r.before r.input → P r.before → P r.after) (hs : P s) :
    ∀ r ∈ l, r = record next r.before r.input ∧ P r.before ∧ P r.after := by
  induction l generalizing s with
  | nil => simp
  | cons r l ih =>
    obtain ⟨hr, hl⟩ := hlink
    have hbefore : r.before = s := by rw [hr]; rfl
    have hrec : r = record next r.before r.input := by rw [hbefore]; exact hr
    have hP : P r.before := by rw [hbefore]; exact hs
    have hP' : P r.after := hstep r (by simp) hrec hP
    intro r' hr'
    rcases List.mem_cons.mp hr' with rfl | hr'
    · exact ⟨hrec, hP, hP'⟩
    · exact ih hl (fun r'' hr'' => hstep r'' (List.mem_cons_of_mem _ hr'')) hP' r' hr'

/-- INTERNAL: **the counting rule.** A bound that each step of a run raises by one is raised by at
most the number of steps. -/
theorem exec_counted {P : Int → σ → Prop} {bound : Int}
    (hstep : ∀ bound, ∀ r ∈ exec next s as, r = record next r.before r.input →
      P bound r.before → P (bound + 1) r.after)
    (hmono : ∀ bound bound' s, bound ≤ bound' → P bound s → P bound' s) (hs : P bound s) :
    ∀ r ∈ exec next s as, P (bound + as.length) r.after := by
  induction as generalizing s bound with
  | nil => simp
  | cons a as ih =>
    have hfirst : P (bound + 1) (record next s a).after :=
      hstep bound _ List.mem_cons_self rfl hs
    intro r hr
    rcases List.mem_cons.mp hr with rfl | hr
    · refine hmono _ _ _ ?_ hfirst
      rw [List.length_cons]
      omega
    · refine hmono _ _ _ ?_ (ih (fun b r hr => hstep b r (List.mem_cons_of_mem _ hr)) hfirst r hr)
      rw [List.length_cons]
      omega

theorem Linked.invariant_endState (hlink : Linked next s l)
    (hstep : ∀ r ∈ l, r = record next r.before r.input → P r.before → P r.after) (hs : P s) :
    P (endState s l) := by
  have h := hlink.until (fun r hr hrec hP => Or.inr (hstep r hr hrec hP)) (E := fun _ => False) hs
  simpa using h

theorem endState_append (s : σ) (l m : List (Record σ α ρ)) :
    endState s (l ++ m) = endState (endState s l) m := by
  induction l generalizing s with
  | nil => rfl
  | cons r l ih => exact ih _

/-- INTERNAL: **the history rule.** A property of the steps so far and the state they led to, kept by
each step of a run as the step joins the history, holds at the end of the run. -/
theorem Linked.history {P : List (Record σ α ρ) → σ → Prop} (hlink : Linked next s l)
    (hstep : ∀ m r, (∀ r' ∈ m, r' ∈ l) → r ∈ l → r = record next r.before r.input →
      P m r.before → P (m ++ [r]) r.after) (hs : P [] s) : P l (endState s l) := by
  induction l using List.reverseRecOn with
  | nil => exact hs
  | append_singleton l r ih =>
    obtain ⟨hl, hr, -⟩ := hlink.cut
    have hbefore : r.before = endState s l := by rw [hr]; rfl
    have hP : P l (endState s l) := by
      apply ih hl
      intro m r' hm hr'
      exact hstep m r' (fun r'' hr'' => List.mem_append_left _ (hm r'' hr''))
        (List.mem_append_left _ hr')
    rw [endState_append]
    apply hstep l r (fun r' hr' => List.mem_append_left _ hr') (by simp)
    · rw [hbefore]
      exact hr
    · rw [hbefore]
      exact hP

theorem exec_record (h : r ∈ exec next s as) : r = record next r.before r.input :=
  ((exec_linked next s as).invariant (P := fun _ => True) (fun _ _ _ _ => trivial) trivial r h).1

theorem exec_between (h : exec next s as = pre ++ a :: (mid ++ b :: post)) :
    a = record next a.before a.input ∧ Linked next a.after mid ∧
      b = record next b.before b.input ∧ b.before = endState a.after mid := by
  have hlinked := exec_linked next s as
  rw [h] at hlinked
  obtain ⟨-, -, hrest⟩ := hlinked.cut
  obtain ⟨hmid, hb, -⟩ := hrest.cut
  refine ⟨exec_record (by rw [h]; simp), hmid, exec_record (by rw [h]; simp), ?_⟩
  rw [hb]
  rfl

theorem mem_between (h : l = pre ++ a :: (mid ++ b :: post)) (hr : r = a ∨ r ∈ mid ∨ r = b) :
    r ∈ l := by
  rw [h]
  rcases hr with rfl | hr | rfl
  · simp
  · simp [hr]
  · simp

theorem final_snoc (next : σ → α → σ × ρ) (s : σ) (as : List α) (a : α) :
    final next s (as ++ [a]) = (next (final next s as) a).1 := by
  induction as generalizing s with
  | nil => rfl
  | cons b as ih => exact ih _

theorem endState_exec (next : σ → α → σ × ρ) (s : σ) (as : List α) :
    endState s (exec next s as) = final next s as := by
  induction as generalizing s with
  | nil => rfl
  | cons a as ih => exact ih _

end Waycloak.Computation
