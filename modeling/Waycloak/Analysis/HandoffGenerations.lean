import Waycloak.Interface.LeaseSteps

/-!
# The handoff generation of a stored lease

Over every run of the lease system, with any number of reconciles in progress, rejected and
lost writes, foreign edits, and arbitrary answers of the API and of the runtimes:

* the stored generation never decreases and grows by at most one per step;
* it grows only by a write that stores an endpoint in phase `Selecting`, from no endpoint or
  after an exact and fresh `Withdrawn` for the generation and Pod stored before;
* a programming intent carries the generation, Service UID and Pod UID that are stored when
  it is sent.
-/

set_option autoImplicit false

namespace Waycloak.Analysis

open Waycloak.Model Waycloak.Interface Waycloak.Computation

variable {s s' : LeaseSystem} {stored stored' : StoredLease} {o : OpenReconcile}

/-- A change of the stored status that the handoff discipline allows, by the reconcile that
wrote it. -/
def AllowedAdvance (stored stored' : StoredLease) (o : OpenReconcile) : Prop :=
  stored'.lease.status.handoffGeneration = stored.lease.status.handoffGeneration + 1 ∧
    (∃ endpoint, stored'.lease.status.activeEndpoint = some endpoint ∧
      endpoint.phase = .selecting) ∧
    (stored.lease.status.activeEndpoint = none ∨
      ObtainedWithdrawn o.input.reconciler o.input.api.now stored.lease o.result.sent)

/-- The intent names the endpoint that the lease holds at its generation. -/
def NamesStored (stored : StoredLease) (intent : Intent) : Prop :=
  intent.handoffGeneration = stored.lease.status.handoffGeneration ∧
    ∃ endpoint, stored.lease.status.activeEndpoint = some endpoint ∧
      intent.serviceUID = endpoint.serviceUID ∧ intent.podUID = endpoint.podUID

/-- What one step does with the stored generation. -/
structure KeepsHandoffDiscipline (r : LeaseRecord) : Prop where
  bounded : ∀ stored stored', r.before.store = some stored → r.after.store = some stored' →
    stored.lease.status.handoffGeneration ≤ stored'.lease.status.handoffGeneration ∧
      stored'.lease.status.handoffGeneration ≤ stored.lease.status.handoffGeneration + 1
  advances : ∀ stored stored', r.before.store = some stored → r.after.store = some stored' →
    stored.lease.status.handoffGeneration < stored'.lease.status.handoffGeneration →
    ∃ o, r.output = .wrote o ∧ AllowedAdvance stored stored' o
  intents : ∀ o gateway intent answer, r.output = .read o →
    o.result.sent = some (.reconcile gateway intent answer) →
    ∃ stored, r.before.store = some stored ∧ NamesStored stored intent

/-- INTERNAL: an accepted status update keeps the generation or advances it as allowed.
SOURCE: portforward/controller.go:442-453 -/
theorem updated_generation {status : PortForwardLeaseStatus} (hdated : Dated s)
    (hstore : s.store = some stored) (ho : o ∈ s.pending)
    (hversion : o.read.version = stored.version) (hwrite : o.result.write = some (.status status))
    (hstored' : stored.replace { stored.lease with status } = some stored') :
    stored'.lease.status.handoffGeneration = stored.lease.status.handoffGeneration ∨
      AllowedAdvance stored stored' o := by
  -- the reconcile read exactly what its update replaces
  have hread : o.read = stored := (hdated stored hstore o ho).2 hversion
  have hstatus : stored'.lease.status = status := by rw [(replace_some hstored').1]
  obtain ⟨-, outcome, houtcome, hsent, hcase⟩ := reconcile_written hwrite
  rw [hread] at hsent hcase
  have hsent' : o.result.sent = outcome.sent := by rw [← hsent, OpenReconcile.result, hread]
  unfold AllowedAdvance
  rw [hstatus, hsent', ← houtcome]
  rcases statusCase_written hcase with ⟨hgeneration, -⟩ | ⟨hgeneration, ⟨candidate, -, hendpoint⟩, hfrom⟩
  · exact Or.inl hgeneration
  · exact Or.inr ⟨hgeneration, ⟨_, hendpoint, rfl⟩, hfrom⟩

/-- INTERNAL: what a step does with the stored generation.
SOURCE: portforward/controller.go:55-83 -/
theorem step_generation {output : LeaseOutput} (hdated : Dated s) (h : LeaseStep s (s', output))
    (hstore : s.store = some stored) (hstore' : s'.store = some stored') :
    stored'.lease.status.handoffGeneration = stored.lease.status.handoffGeneration ∨
      ∃ o, output = .wrote o ∧ AllowedAdvance stored stored' o := by
  cases h with
  | kept _ _ _ hkept =>
    left
    rcases hkept with hkept | ⟨stored₀, lease, hstored₀, hstatus, hkept⟩
    · rw [hkept, hstore] at hstore'
      rw [Option.some.inj hstore']
    rw [hstore] at hstored₀
    cases hstored₀
    rw [hkept] at hstore'
    rw [(replace_some hstore').1, hstatus.status]
  | read =>
    left
    have heq : stored = stored' := Option.some.inj (hstore.symm.trans hstore')
    rw [heq]
  | updated _ o _ _ hstored₀ ho hversion hwrite =>
    rw [hstore] at hstored₀
    cases hstored₀
    rcases updated_generation hdated hstore ho hversion hwrite hstore' with hsame | hadvance
    · exact Or.inl hsame
    · exact Or.inr ⟨o, rfl, hadvance⟩

/-- INTERNAL: an intent names what is stored when it is sent.
SOURCE: portforward/controller.go:229-248 -/
theorem read_namesStored {gateway : VPNGateway} {intent : Intent}
    {answer : Observation × Option String} (h : LeaseStep s (s', .read o))
    (hsent : o.result.sent = some (.reconcile gateway intent answer)) :
    ∃ stored, s.store = some stored ∧ NamesStored stored intent := by
  cases h with
  | kept _ _ _ _ _ houtput => exact absurd rfl (houtput o)
  | read stored input hstore =>
    obtain ⟨endpoint, candidate, port, hactive, hselected, -, -, hreason, hintent⟩ :=
      reconcile_sent hsent
    obtain ⟨candidate', hselected', hservice, hpod⟩ := handoffDrainReason_none hreason
    rw [hselected] at hselected'
    cases hselected'
    refine ⟨stored, hstore, ?_, endpoint, hactive, ?_, ?_⟩
    · rw [hintent]
      rfl
    · rw [hintent]
      exact hservice.symm
    · rw [hintent]
      exact hpod.symm

theorem step_generationAtMost {output : LeaseOutput} {bound : Int} (hdated : Dated s)
    (h : LeaseStep s (s', output)) (hbound : GenerationAtMost bound s.store) :
    GenerationAtMost (bound + 1) s'.store := by
  intro stored' hstored'
  cases hstore : s.store with
  | none =>
    cases h with
    | kept _ _ _ hkept =>
      rcases hkept with rfl | ⟨stored, -, hsome, -⟩
      · cases hstore.symm.trans hstored'
      · cases hstore.symm.trans hsome
    | read _ _ hsome | updated _ _ _ _ hsome => cases hstore.symm.trans hsome
  | some stored =>
    have hle := hbound stored hstore
    rcases step_generation hdated h hstore hstored' with hsame | ⟨o, -, hadvance, -⟩ <;> omega

/-- **The generation discipline holds in every step of every run**, and the stored generation has
grown by at most the number of steps: while the sum is below `2 ^ 63`, the `int64` does not wrap.
SOURCE: portforward/controller.go:55-83, 182-355, 442-453 -/
theorem handoff_discipline (stored : StoredLease) (inputs : List LeaseInput) (r : LeaseRecord)
    (hr : r ∈ leaseRun stored inputs) :
    KeepsHandoffDiscipline r ∧
      GenerationAtMost (stored.lease.status.handoffGeneration + inputs.length) r.after.store := by
  have hrecords := leaseRun_records stored inputs
  obtain ⟨hstep, hdated⟩ := hrecords r hr
  refine ⟨⟨?_, ?_, ?_⟩, ?_⟩
  · intro before after hbefore hafter
    rcases step_generation hdated hstep hbefore hafter with hsame | ⟨o, -, hadvance, -⟩ <;> omega
  · intro before after hbefore hafter hlt
    rcases step_generation hdated hstep hbefore hafter with hsame | hadvance
    · omega
    · exact hadvance
  · intro o gateway intent answer houtput hsent
    rw [houtput] at hstep
    exact read_namesStored hstep hsent
  · refine exec_counted (P := fun bound (s : LeaseSystem) => GenerationAtMost bound s.store)
      (fun bound r hr _ h => step_generationAtMost (hrecords r hr).2 (hrecords r hr).1 h)
      (fun _ _ _ hle h => h.mono hle) ?_ r hr
    rintro first ⟨⟩
    exact le_refl _

/-- A reconcile at `now` that finds one Pod behind a ready gateway. -/
def rollingInput (podUID : ObjectUID) (now : Time) : ReconcileInput :=
  { reconciler := sampleReconciler, runtime := some (confirmingRuntime now)
    api := sampleApi (sampleGateway "gw" true) [sampleCandidate podUID] now }

/-- The lease selects the Pod `a`; two overlapping reconciles then find `b` in its place, and both
write. -/
def rollingInputs : List LeaseInput :=
  [.read (rollingInput "a" 1), .write 0, .read (rollingInput "b" 2), .read (rollingInput "b" 3),
    .write 0, .write 0]

theorem handoff_discipline_rolling :
    ∃ r ∈ leaseRun ⟨sampleLease none, 0⟩ rollingInputs, KeepsHandoffDiscipline r ∧
      r.before.store.map (·.lease.status.handoffGeneration) = some 1 ∧
      r.after.store.map (·.lease.status.handoffGeneration) = some 2 := by
  have hlength : 4 < (leaseRun ⟨sampleLease none, 0⟩ rollingInputs).length := by decide
  refine ⟨(leaseRun ⟨sampleLease none, 0⟩ rollingInputs)[4], List.getElem_mem hlength,
    (handoff_discipline _ _ _ (List.getElem_mem hlength)).1, ?_, ?_⟩
  · rfl
  · rfl

/-! ## Status writes and the finalizer -/

/-- **No interleaving loses a status update.** A changed status is the one that a reconcile computed
from the lease that was stored.
SOURCE: portforward/controller.go:55-83, 442-453 -/
theorem status_writes_serial (stored : StoredLease) (inputs : List LeaseInput) (r : LeaseRecord)
    (before after : StoredLease) (hr : r ∈ leaseRun stored inputs)
    (hbefore : r.before.store = some before) (hafter : r.after.store = some after)
    (hchanged : after.lease.status ≠ before.lease.status) :
    ∃ o, r.output = .wrote o ∧ o.read = before ∧
      o.result.write = some (.status after.lease.status) := by
  obtain ⟨hstep, hdated⟩ := leaseRun_records stored inputs r hr
  generalize r.before = s at *
  generalize r.after = s' at *
  generalize r.output = output at *
  cases hstep with
  | kept _ _ _ hstore =>
    rcases hstore with rfl | ⟨_, _, hold, hkept, rfl⟩
    · cases hbefore.symm.trans hafter
      exact absurd rfl hchanged
    · cases hbefore.symm.trans hold
      rw [(replace_some hafter).1] at hchanged
      exact absurd hkept.status hchanged
  | read =>
    cases hbefore.symm.trans hafter
    exact absurd rfl hchanged
  | updated _ o status _ hstore ho hversion hwrite =>
    cases hbefore.symm.trans hstore
    rw [(replace_some hafter).1]
    exact ⟨o, rfl, (hdated before hstore o ho).2 hversion, hwrite⟩

theorem status_writes_serial_rolling :
    ∃ r ∈ leaseRun ⟨sampleLease none, 0⟩ rollingInputs, ∃ before after o,
      r.before.store = some before ∧ r.after.store = some after ∧
      after.lease.status ≠ before.lease.status ∧ r.output = .wrote o ∧ o.read = before := by
  have hlength : 4 < (leaseRun ⟨sampleLease none, 0⟩ rollingInputs).length := by decide
  have hmem := List.getElem_mem hlength
  obtain ⟨o, houtput, hread, -⟩ := status_writes_serial _ _ _ _ _ hmem rfl rfl (by decide +kernel)
  exact ⟨_, hmem, _, _, o, rfl, rfl, by decide +kernel, houtput, hread⟩

theorem sent_finalizer (hsent : o.result.sent ≠ none) :
    providerCleanupFinalizer ∈ o.read.lease.finalizers := by
  by_contra hmissing
  apply hsent
  unfold OpenReconcile.result
  cases hdeleted : o.read.lease.deletionTimestamp with
  | some => rw [reconcile_deleting_sent hdeleted, if_pos (by simpa using hmissing)]
  | none =>
    simp only [PortForwardLeaseReconciler.reconcile, hdeleted]
    split
    · rfl
    next hinstalled =>
    unfold PortForwardLeaseReconciler.runtimeStatus
    split
    · next heligible =>
      split
      · rfl
      next hruntime =>
      split
      · rfl
      · rfl
      -- with an endpoint and a runtime, the finalizer is installed first
      · next hactive =>
        exact absurd ⟨heligible, by simp [hactive], by simp [hruntime], by simpa⟩ hinstalled
    · rfl

/-- **The finalizer is there before the first request and until the cleanup is over.** Requests are
for leases read with the finalizer, and it is taken off only a deleted lease that is withdrawn or past
its deadline.
SOURCE: portforward/controller.go:55-83, 182-257, 384-440 -/
theorem reconcile_keeps_finalizer (o : OpenReconcile) :
    (o.result.sent ≠ none → providerCleanupFinalizer ∈ o.read.lease.finalizers) ∧
    ∀ finalizers, o.result.write = some (.finalizers finalizers) →
      providerCleanupFinalizer ∉ finalizers →
      ∃ deletedAt ∈ o.read.lease.deletionTimestamp,
        (o.input.reconciler.cleanupWithdrawal o.input.runtime o.input.api o.read.lease).2 = true ∨
        deletedAt + o.input.reconciler.cleanupTimeout ≤ o.input.api.now := by
  refine ⟨sent_finalizer, fun finalizers hwrite hmissing => ?_⟩
  unfold OpenReconcile.result PortForwardLeaseReconciler.reconcile at hwrite
  cases hdeleted : o.read.lease.deletionTimestamp with
  | some deletedAt =>
    simp only [hdeleted, PortForwardLeaseReconciler.cleanup] at hwrite
    split at hwrite
    · cases hwrite
    split at hwrite
    · cases hwrite
    next hdue =>
    refine ⟨deletedAt, rfl, ?_⟩
    by_contra hearly
    exact hdue (by simpa using hearly)
  | none =>
    simp only [hdeleted] at hwrite
    split at hwrite
    · cases hwrite
      simp at hmissing
    · dsimp only at hwrite
      split at hwrite <;> cases hwrite

/-- A reconcile that cleans up a deleted lease. -/
def cleaningUp : OpenReconcile :=
  { read := ⟨{ sampleLease none with deletionTimestamp := some 1 }, 0⟩
    input := rollingInput "a" 2 }

theorem reconcile_keeps_finalizer_cleanup :
    cleaningUp.result.sent ≠ none ∧
      providerCleanupFinalizer ∈ cleaningUp.read.lease.finalizers ∧
      cleaningUp.result.write = some (.finalizers []) ∧
      ∃ deletedAt ∈ cleaningUp.read.lease.deletionTimestamp,
        (cleaningUp.input.reconciler.cleanupWithdrawal cleaningUp.input.runtime
          cleaningUp.input.api cleaningUp.read.lease).2 = true ∨
        deletedAt + cleaningUp.input.reconciler.cleanupTimeout ≤ cleaningUp.input.api.now := by
  have hsent : cleaningUp.result.sent ≠ none := by decide +kernel
  have hwrite : cleaningUp.result.write = some (.finalizers []) := by decide +kernel
  obtain ⟨hrequests, hremoved⟩ := reconcile_keeps_finalizer cleaningUp
  exact ⟨hsent, hrequests hsent, hwrite, hremoved [] hwrite (by simp)⟩

end Waycloak.Analysis
