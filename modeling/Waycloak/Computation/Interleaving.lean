import Mathlib.Data.List.Basic
import Waycloak.Computation.Runs

/-!
# Calls that interleave over a shared state

A call of a program is cut at the steps it makes on a shared state: between two of them any
other call may take its steps. `act s p c` is the step of a call that stands at `p`: the
shared state after it, and where the call stands now or what it returned. Everything the
surroundings decide about the step is part of the choice `c`.

`Calls` is the shared state with the calls in progress, in any number; `Calls.next` starts a
call (a job `ω` enters where `enter` says), lets one take a step, or drops one (its process
crashed).

The rule for runs is `Calls.Holds.next`: a fact about the shared state together with one about
each call in progress is kept by every turn, provided that a call that is started has its
fact, and that a step keeps the shared fact, gives the acting call its next fact and
destroys none of the others.

`Snapshots` is a shared state whose earlier contents can still be read.
-/

set_option autoImplicit false

namespace Waycloak.Computation

/-! ## Calls in progress -/

section Calls

variable {σ ω π χ β : Type}

/-- The shared state and the calls in progress. -/
structure Calls (σ π : Type) where
  shared : σ
  running : List π

/-- What happens next: a call starts, one takes its next step, or one is dropped. -/
inductive Turn (ω χ : Type) where
  | start (job : ω)
  | act (index : ℕ) (choice : χ)
  | abandon (index : ℕ)
  deriving DecidableEq

/-- The calls after one of them took its step. -/
def Calls.resume (s : Calls σ π) (index : ℕ) (step : σ × (π ⊕ β)) : Calls σ π :=
  match step.2 with
  | .inl p => { shared := step.1, running := s.running.set index p }
  | .inr _ => { shared := step.1, running := s.running.eraseIdx index }

/-- One turn; the output names the call that took a step and what became of it. -/
def Calls.next (enter : ω → π) (act : σ → π → χ → σ × (π ⊕ β)) (s : Calls σ π) :
    Turn ω χ → Calls σ π × Option (π × (π ⊕ β))
  | .start job => ({ s with running := s.running ++ [enter job] }, none)
  | .act index choice =>
    match s.running[index]? with
    | none => (s, none)
    | some p => (s.resume index (act s.shared p choice), some (p, (act s.shared p choice).2))
  | .abandon index => ({ s with running := s.running.eraseIdx index }, none)

/-- The shared state satisfies `I`, and each call in progress its `J`. -/
structure Calls.Holds (I : σ → Prop) (J : σ → π → Prop) (s : Calls σ π) : Prop where
  shared : I s.shared
  running : ∀ p ∈ s.running, J s.shared p

/-- What a step of the call at `p` owes: the shared fact, the fact of where the call stands now, and
the facts of the calls that did not move. -/
structure Preserves (I : σ → Prop) (J : σ → π → Prop) (s : Calls σ π) (step : σ × (π ⊕ β)) :
    Prop where
  shared : I step.1
  resumed : ∀ p, step.2 = .inl p → J step.1 p
  others : ∀ q ∈ s.running, J s.shared q → J step.1 q

theorem Calls.Holds.resume {I : σ → Prop} {J : σ → π → Prop} {s : Calls σ π} {index : ℕ}
    {step : σ × (π ⊕ β)} (h : s.Holds I J) (hstep : Preserves I J s step) :
    (s.resume index step).Holds I J := by
  unfold Calls.resume
  cases hnow : step.2 with
  | inl p =>
    refine ⟨hstep.shared, fun q hq => ?_⟩
    rcases List.mem_or_eq_of_mem_set hq with hq | rfl
    · exact hstep.others q hq (h.running q hq)
    · exact hstep.resumed q hnow
  | inr b =>
    refine ⟨hstep.shared, fun q hq => ?_⟩
    have hold : q ∈ s.running := List.mem_of_mem_eraseIdx hq
    exact hstep.others q hold (h.running q hold)

/-- INTERNAL: **the rule for one turn.** -/
theorem Calls.Holds.next {enter : ω → π} {act : σ → π → χ → σ × (π ⊕ β)} {I : σ → Prop}
    {J : σ → π → Prop} {s : Calls σ π} {turn : Turn ω χ} (h : s.Holds I J)
    (hstart : ∀ job, turn = .start job → J s.shared (enter job))
    (hact : ∀ index choice p, turn = .act index choice → s.running[index]? = some p →
      I s.shared → J s.shared p → Preserves I J s (act s.shared p choice)) :
    (s.next enter act turn).1.Holds I J := by
  cases turn with
  | start job =>
    refine ⟨h.shared, fun q hq => ?_⟩
    rcases List.mem_append.mp hq with hq | hq
    · exact h.running q hq
    · rw [List.mem_singleton.mp hq]
      exact hstart job rfl
  | act index choice =>
    cases hp : s.running[index]? with
    | none =>
      simp only [Calls.next, hp]
      exact h
    | some p =>
      have hJ : J s.shared p := h.running p (List.mem_of_getElem? hp)
      simp only [Calls.next, hp]
      exact h.resume (hact index choice p rfl hp h.shared hJ)
  | abandon => exact ⟨h.shared, fun q hq => h.running q (List.mem_of_mem_eraseIdx hq)⟩

theorem Calls.record_cases {enter : ω → π} {act : σ → π → χ → σ × (π ⊕ β)}
    {r : Record (Calls σ π) (Turn ω χ) (Option (π × (π ⊕ β)))}
    (h : r = record (Calls.next enter act) r.before r.input) :
    (r.after.shared = r.before.shared ∧ r.output = none) ∨
      ∃ index choice p, r.input = .act index choice ∧ r.before.running[index]? = some p ∧
        r.after.shared = (act r.before.shared p choice).1 ∧
        r.output = some (p, (act r.before.shared p choice).2) := by
  obtain ⟨s, turn, after, output⟩ := r
  obtain rfl : after = (Calls.next enter act s turn).1 := congrArg Record.after h
  obtain rfl : output = (Calls.next enter act s turn).2 := congrArg Record.output h
  cases turn with
  | start job | abandon => exact .inl ⟨rfl, rfl⟩
  | act index choice =>
    cases hp : s.running[index]? with
    | none =>
      left
      simp [Calls.next, hp]
    | some p =>
      right
      refine ⟨index, choice, p, rfl, hp, ?_, ?_⟩
      · simp only [Calls.next, hp, Calls.resume]
        split <;> rfl
      · simp only [Calls.next, hp]

end Calls

/-! ## A shared state with its earlier contents -/

section Snapshots

variable {σ : Type}

/-- The current contents and the earlier ones, newest first. -/
structure Snapshots (σ : Type) where
  current : σ
  past : List σ

namespace Snapshots

/-- Contents nothing has changed yet. -/
def start (s : σ) : Snapshots σ := ⟨s, []⟩

variable (s : Snapshots σ)

/-- The contents a given number of changes ago; reading further back than the first contents reads
the current ones. -/
def read (age : ℕ) : σ := (s.current :: s.past)[age]?.getD s.current

/-- New contents. -/
def write (next : σ) : Snapshots σ := ⟨next, s.current :: s.past⟩

@[simp] theorem write_current (next : σ) : (s.write next).current = next := rfl

@[simp] theorem write_past (next : σ) : (s.write next).past = s.current :: s.past := rfl

@[simp] theorem read_zero : s.read 0 = s.current := rfl

end Snapshots

end Snapshots

end Waycloak.Computation
