import Waycloak.Computation.Runs
import Waycloak.Interface.ControllerSteps
import Waycloak.Model.LeaseStore

/-!
# What one step of the lease system can do

`LeaseStep` is the inversion of `LeaseSystem.next`: the status changes only by an update of
a reconcile whose read version is still current. `Dated` is the invariant behind optimistic
concurrency: a reconcile in progress whose version is current has read exactly what is
stored, so an update that is accepted was computed from the status it replaces.
-/

set_option autoImplicit false

namespace Waycloak.Interface

open Waycloak.Model Waycloak.Computation

variable {stored : StoredLease} {s : LeaseSystem}
variable {stored' : StoredLease} {lease : PortForwardLease} {o : OpenReconcile}
  {pending : List OpenReconcile}

/-- `lease` is the stored lease after a change that leaves its identity and its status alone. -/
structure StatusKept (stored : StoredLease) (lease : PortForwardLease) : Prop where
  status : lease.status = stored.lease.status
  uid : lease.uid = stored.lease.uid

/-- What a step of the lease system can do. -/
inductive LeaseStep (s : LeaseSystem) : LeaseSystem × LeaseOutput → Prop
  /-- the status stays -/
  | kept (store : Option StoredLease) (pending : List OpenReconcile) (output : LeaseOutput)
      (hstore : store = s.store ∨ ∃ stored lease, s.store = some stored ∧ StatusKept stored lease ∧
        store = stored.replace lease)
      (hpending : pending ⊆ s.pending) (houtput : ∀ o, output ≠ .read o) :
      LeaseStep s ({ store, pending }, output)
  /-- a reconcile starts from what is stored -/
  | read (stored : StoredLease) (input : ReconcileInput) (hstore : s.store = some stored) :
      LeaseStep s ({ s with pending := s.pending ++ [{ read := stored, input }] },
        .read { read := stored, input })
  /-- a status update is accepted -/
  | updated (stored : StoredLease) (o : OpenReconcile) (status : PortForwardLeaseStatus)
      (pending : List OpenReconcile) (hstore : s.store = some stored) (ho : o ∈ s.pending)
      (hversion : o.read.version = stored.version) (hwrite : o.result.write = some (.status status))
      (hpending : pending ⊆ s.pending) :
      LeaseStep s ({ store := stored.replace { stored.lease with status }, pending }, .wrote o)

/-- The stored generation is at most this. -/
def GenerationAtMost (bound : Int) (store : Option StoredLease) : Prop :=
  ∀ stored, store = some stored → stored.lease.status.handoffGeneration ≤ bound

theorem GenerationAtMost.mono {store : Option StoredLease} {bound bound' : Int}
    (hle : bound ≤ bound') (h : GenerationAtMost bound store) : GenerationAtMost bound' store :=
  fun stored hstored => (h stored hstored).trans hle

theorem replace_some (h : stored.replace lease = some stored') :
    stored'.lease = lease ∧ stored'.version = stored.version + 1 := by
  unfold StoredLease.replace at h
  split at h
  · cases h
  · cases h
    exact ⟨rfl, rfl⟩

/-- INTERNAL: what is stored after the write of a reconcile: the status is the one before, or the one
it asks for if what it read is current.
SOURCE: portforward/controller.go:70, 436, 442-453 -/
theorem write_stored (h : stored.write o = some stored') :
    stored'.lease.uid = stored.lease.uid ∧ (stored'.lease.status = stored.lease.status ∨
      (o.read.version = stored.version ∧
        o.result.write = some (.status stored'.lease.status))) := by
  unfold StoredLease.write at h
  split at h
  · next status hwrite =>
    unfold StoredLease.updateStatus at h
    split at h
    · next hversion =>
      rw [(replace_some h).1]
      exact ⟨rfl, Or.inr ⟨hversion, hwrite⟩⟩
    · cases h
      exact ⟨rfl, Or.inl rfl⟩
  · rw [(replace_some h).1]
    exact ⟨rfl, Or.inl rfl⟩
  · cases h
    exact ⟨rfl, Or.inl rfl⟩

theorem write_leaseStep (hstore : s.store = some stored) (ho : o ∈ s.pending)
    (hpending : pending ⊆ s.pending) :
    LeaseStep s ({ store := stored.write o, pending }, .wrote o) := by
  unfold StoredLease.write
  cases hwrite : o.result.write with
  | none => exact .kept _ _ _ (Or.inl hstore.symm) hpending (by simp)
  | some write =>
    cases write with
    | finalizers =>
      refine .kept _ _ _ (Or.inr ⟨stored, _, hstore, ?_, rfl⟩) hpending (by simp)
      exact ⟨rfl, rfl⟩
    | status status =>
      by_cases hversion : o.read.version = stored.version
      · simp only [StoredLease.updateStatus, if_pos hversion]
        exact .updated stored o status pending hstore ho hversion hwrite hpending
      · simp only [StoredLease.updateStatus, if_neg hversion]
        exact .kept _ _ _ (Or.inl hstore.symm) hpending (by simp)

/-- INTERNAL: **the inversion of the lease system's step.** -/
theorem next_leaseStep (s : LeaseSystem) (input : LeaseInput) : LeaseStep s (s.next input) := by
  have hsame : ∀ pending ⊆ s.pending, LeaseStep s ({ s with pending }, .quiet) :=
    fun pending hpending => .kept s.store pending .quiet (Or.inl rfl) hpending (by simp)
  cases input with
  | read input =>
    cases hstore : s.store with
    | none =>
      simp only [LeaseSystem.next, hstore]
      exact hsame _ (List.Subset.refl _)
    | some stored =>
      simp only [LeaseSystem.next, hstore]
      have h := LeaseStep.read stored input hstore
      rwa [hstore] at h
  | write index =>
    cases hget : s.pending[index]? with
    | none =>
      simp only [LeaseSystem.next, hget]
      exact hsame _ (List.Subset.refl _)
    | some o =>
      cases hstore : s.store with
      | none =>
        simp only [LeaseSystem.next, hget, hstore]
        exact hsame _ (List.Subset.refl _)
      | some =>
        simp only [LeaseSystem.next, hget, hstore]
        exact write_leaseStep hstore (List.mem_of_getElem? hget)
          (List.eraseIdx_sublist _ _).subset
  | abandon => exact hsame _ (List.eraseIdx_sublist _ _).subset
  | edit =>
    cases hstore : s.store with
    | none =>
      simp only [LeaseSystem.next, hstore]
      exact hsame _ (List.Subset.refl _)
    | some stored =>
      simp only [LeaseSystem.next, hstore]
      refine .kept _ _ _ (Or.inr ⟨stored, _, hstore, ?_, rfl⟩) (List.Subset.refl _) (by simp)
      exact ⟨rfl, rfl⟩

/-! ## Runs -/

abbrev LeaseRecord := Record LeaseSystem LeaseInput LeaseOutput

/-- The run of the system from a stored lease, with no reconcile in progress. -/
def leaseRun (stored : StoredLease) (inputs : List LeaseInput) : List LeaseRecord :=
  exec LeaseSystem.next { store := some stored, pending := [] } inputs

theorem record_leaseStep {r : LeaseRecord} (h : r = record LeaseSystem.next r.before r.input) :
    LeaseStep r.before (r.after, r.output) := by
  have hstep := next_leaseStep r.before r.input
  rw [h]
  exact hstep

/-- A reconcile in progress is no newer than the stored lease, and has read it if its version is
the current one. -/
def Dated (s : LeaseSystem) : Prop :=
  ∀ stored, s.store = some stored → ∀ o ∈ s.pending,
    o.read.version ≤ stored.version ∧ (o.read.version = stored.version → o.read = stored)

theorem dated_replace (hs : Dated s) (hstore : s.store = some stored)
    (hpending : pending ⊆ s.pending) : Dated { store := stored.replace lease, pending } := by
  intro stored' hstored' o ho
  obtain ⟨-, hversion⟩ := replace_some hstored'
  have hold := (hs stored hstore o (hpending ho)).1
  constructor
  · omega
  · intro heq
    omega

theorem dated_step {s' : LeaseSystem} {output : LeaseOutput} (hs : Dated s)
    (h : LeaseStep s (s', output)) : Dated s' := by
  cases h with
  | kept _ _ _ hstore hpending =>
    rcases hstore with rfl | ⟨stored, lease, hold, -, rfl⟩
    · intro stored hstored o ho
      exact hs stored hstored o (hpending ho)
    · exact dated_replace hs hold hpending
  | read stored input hstore =>
    intro stored' hstored' o ho
    rcases List.mem_append.mp ho with ho | ho
    · exact hs stored' hstored' o ho
    · rw [List.mem_singleton.mp ho]
      have heq : stored = stored' := Option.some.inj (hstore.symm.trans hstored')
      exact ⟨heq ▸ le_refl _, fun _ => heq⟩
  | updated _ _ _ _ hstore _ _ _ hpending => exact dated_replace hs hstore hpending

theorem leaseRun_records (stored : StoredLease) (inputs : List LeaseInput) :
    ∀ r ∈ leaseRun stored inputs, LeaseStep r.before (r.after, r.output) ∧ Dated r.before := by
  intro r hr
  have hstart : Dated { store := some stored, pending := [] } := by
    intro stored' _ o ho
    cases ho
  obtain ⟨hrec, hdated, -⟩ := (exec_linked LeaseSystem.next _ inputs).invariant
    (fun r' _ hrec hdated => dated_step hdated (record_leaseStep hrec)) hstart r hr
  exact ⟨record_leaseStep hrec, hdated⟩

end Waycloak.Interface
