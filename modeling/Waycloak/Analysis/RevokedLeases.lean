import Waycloak.Interface.LeaseSteps

/-!
# Leases whose gateway reference is revoked

A reconcile that finds the gateway reference of a lease not permitted, or its gateway gone,
has no gateway to talk to: the evaluation ends before the one that was programmed is looked
at, and the lease counts as not eligible for a runtime. The status is written with the
endpoint as it was, in whatever phase, and nothing is sent.

`revocation_never_withdraws` says so for every such reconcile, `revoked_run_keeps_endpoint`
for every run: as long as the reference stays revoked, no reconcile of it withdraws
anything, and the endpoint stays.
-/

set_option autoImplicit false

namespace Waycloak.Analysis

open Waycloak.Model Waycloak.Interface Waycloak.Computation

variable {api : ApiView} {lease : PortForwardLease} {stored : StoredLease}
  {endpoint : ActiveLeaseEndpoint}

/-- `ResolveGateway` reports the reference as not permitted, or its gateway as absent. -/
def Revoked (api : ApiView) : Prop :=
  ∃ resolution, api.resolveGateway = .ok resolution ∧
    (resolution.permitted = false ∨ resolution.gateway = none)

theorem evaluate_revoked (h : Revoked api) : (evaluate lease api).runtimeEligible = false := by
  obtain ⟨resolution, hresolve, hrevoked⟩ := h
  unfold evaluate
  simp only [hresolve]
  split
  · rfl
  next hpermitted =>
  obtain hdenied | hgone := hrevoked
  · exact absurd hdenied hpermitted
  · simp only [hgone]
    rfl

/-- INTERNAL: **what a revoked reconcile does**: it sends nothing, and writes nothing but a status with
the endpoint it read.
SOURCE: portforward/controller.go:55-83, 182-193 -/
theorem reconcile_revoked (r : PortForwardLeaseReconciler) (runtime : Option Runtime)
    (hlive : lease.deletionTimestamp = none) (h : Revoked api) :
    (r.reconcile runtime api lease).sent = none ∧
      ((r.reconcile runtime api lease).write = none ∨
        ∃ status, (r.reconcile runtime api lease).write = some (.status status) ∧
          status.activeEndpoint = lease.status.activeEndpoint) := by
  have heligible : (evaluate lease api).runtimeEligible = false := evaluate_revoked h
  unfold PortForwardLeaseReconciler.reconcile
  rw [hlive]
  dsimp only
  rw [if_neg (by simp [heligible])]
  unfold PortForwardLeaseReconciler.runtimeStatus
  dsimp only
  rw [dif_neg (by simp [heligible])]
  refine ⟨rfl, ?_⟩
  split
  · exact Or.inl rfl
  · exact Or.inr ⟨_, rfl, rfl⟩

/-- The endpoint a reconcile leaves in the status, if its write is accepted. -/
def endpointAfter (lease : PortForwardLease) (result : ControllerResult) :
    Option ActiveLeaseEndpoint :=
  match result.write with
  | some (.status status) => status.activeEndpoint
  | _ => lease.status.activeEndpoint

/-- What a revocation should do to a lease with an endpoint: the persisted generation is withdrawn, and
the endpoint is not active any more. -/
structure WithdrawsRevoked (lease : PortForwardLease) (result : ControllerResult) : Prop where
  withdraws : ∃ gateway intent answer, result.sent = some (.withdraw gateway intent answer) ∧
    intent.leaseUID = lease.uid ∧ intent.handoffGeneration = lease.status.handoffGeneration
  inactive : ∀ endpoint, endpointAfter lease result = some endpoint → endpoint.phase ≠ .active

/-- **No reconcile that observes a revocation withdraws the lease**, whatever its status, runtime
and API; and the endpoint stays in its phase.
SOURCE: portforward/controller.go:99-116, 182-193 -/
theorem revocation_never_withdraws (r : PortForwardLeaseReconciler) (runtime : Option Runtime)
    (api : ApiView) (lease : PortForwardLease) (endpoint : ActiveLeaseEndpoint)
    (hlive : lease.deletionTimestamp = none) (hactive : lease.status.activeEndpoint = some endpoint)
    (hrevoked : Revoked api) :
    ¬WithdrawsRevoked lease (r.reconcile runtime api lease) ∧
      endpointAfter lease (r.reconcile runtime api lease) = some endpoint := by
  obtain ⟨hsent, hwrite⟩ := reconcile_revoked r runtime hlive hrevoked
  constructor
  · rintro ⟨⟨gateway, intent, answer, hwithdraw, -⟩, -⟩
    rw [hsent] at hwithdraw
    cases hwithdraw
  unfold endpointAfter
  obtain hnone | ⟨status, hstatus, hkept⟩ := hwrite
  · rw [hnone]
    exact hactive
  · rw [hstatus]
    exact hkept.trans hactive

/-! ## Runs -/

/-- The step is not a deletion, and a reconcile it starts finds the reference revoked. -/
def StaysRevoked (r : LeaseRecord) : Prop :=
  (∀ edit, r.input = .edit edit → edit.deletionTimestamp = none) ∧
    ∀ o, r.output = .read o → Revoked o.input.api

/-- The stored lease is not being deleted and has the endpoint, and every reconcile in progress has read
such a lease and found its reference revoked. -/
def RevokedSystem (endpoint : ActiveLeaseEndpoint) (s : LeaseSystem) : Prop :=
  (∃ stored, s.store = some stored ∧ stored.lease.deletionTimestamp = none ∧
    stored.lease.status.activeEndpoint = some endpoint) ∧
    ∀ o ∈ s.pending, o.read.lease.deletionTimestamp = none ∧
      o.read.lease.status.activeEndpoint = some endpoint ∧ Revoked o.input.api

theorem replace_live (hlive : lease.deletionTimestamp = none) :
    stored.replace lease = some { lease, version := stored.version + 1 } := by
  unfold StoredLease.replace
  rw [if_neg (by simp [hlive])]

theorem write_revoked {o : OpenReconcile} (hlive : stored.lease.deletionTimestamp = none)
    (hactive : stored.lease.status.activeEndpoint = some endpoint)
    (hread : o.read.lease.deletionTimestamp = none)
    (hreadActive : o.read.lease.status.activeEndpoint = some endpoint)
    (hrevoked : Revoked o.input.api) :
    ∃ stored', stored.write o = some stored' ∧ stored'.lease.deletionTimestamp = none ∧
      stored'.lease.status.activeEndpoint = some endpoint := by
  obtain ⟨-, hwrite⟩ := reconcile_revoked o.input.reconciler o.input.runtime hread hrevoked
  unfold StoredLease.write
  obtain hnone | ⟨status, hstatus, hkept⟩ := hwrite
  · rw [show o.result.write = none from hnone]
    exact ⟨stored, rfl, hlive, hactive⟩
  rw [show o.result.write = some (.status status) from hstatus]
  dsimp only
  unfold StoredLease.updateStatus
  split
  · exact ⟨_, replace_live hlive, hlive, hkept.trans hreadActive⟩
  · exact ⟨stored, rfl, hlive, hactive⟩

theorem revokedSystem_step {r : LeaseRecord}
    (hrecord : r = record LeaseSystem.next r.before r.input) (hrevoked : StaysRevoked r)
    (hs : RevokedSystem endpoint r.before) : RevokedSystem endpoint r.after := by
  obtain ⟨s, input, s', output⟩ := r
  obtain ⟨⟨stored, hstored, hlive, hactive⟩, hpending⟩ := hs
  obtain ⟨rfl, rfl⟩ : s' = (s.next input).1 ∧ output = (s.next input).2 := by
    injection hrecord with _ _ hafter houtput
    exact ⟨hafter, houtput⟩
  obtain ⟨hedits, hreads⟩ := hrevoked
  dsimp only at hstored hpending hedits hreads ⊢
  cases input with
  | read =>
    simp only [LeaseSystem.next, hstored] at hreads ⊢
    refine ⟨⟨stored, rfl, hlive, hactive⟩, fun o ho => ?_⟩
    obtain hold | hnew := List.mem_append.mp ho
    · exact hpending o hold
    · rw [List.mem_singleton.mp hnew]
      exact ⟨hlive, hactive, hreads _ rfl⟩
  | write index =>
    simp only [LeaseSystem.next, hstored]
    cases hget : s.pending[index]? with
    | none => exact ⟨⟨stored, hstored, hlive, hactive⟩, hpending⟩
    | some o =>
      obtain ⟨hread, hreadActive, hreadRevoked⟩ := hpending o (List.mem_of_getElem? hget)
      refine ⟨write_revoked hlive hactive hread hreadActive hreadRevoked, fun other hother => ?_⟩
      exact hpending other (List.mem_of_mem_eraseIdx hother)
  | abandon =>
    exact ⟨⟨stored, hstored, hlive, hactive⟩,
      fun other hother => hpending other (List.mem_of_mem_eraseIdx hother)⟩
  | edit edit =>
    simp only [LeaseSystem.next, hstored, StoredLease.edit]
    have hedited := hedits edit rfl
    exact ⟨⟨_, replace_live hedited, hedited, hactive⟩, hpending⟩

/-- INTERNAL: **as long as the reference of a lease stays revoked, nothing withdraws it**: no reconcile
sends anything, and the endpoint stays stored, in its phase. -/
theorem revoked_run_keeps_endpoint {inputs : List LeaseInput}
    (hlive : stored.lease.deletionTimestamp = none)
    (hactive : stored.lease.status.activeEndpoint = some endpoint)
    (hrevoked : ∀ r ∈ leaseRun stored inputs, StaysRevoked r) :
    ∀ r ∈ leaseRun stored inputs, (∀ o, r.output = .read o → o.result.sent = none) ∧
      ∃ stored', r.after.store = some stored' ∧
        stored'.lease.status.activeEndpoint = some endpoint := by
  intro r hr
  obtain ⟨hrecord, hbefore, hafter⟩ := (exec_linked LeaseSystem.next _ inputs).invariant
    (fun r hr hrecord hs => revokedSystem_step hrecord (hrevoked r hr) hs)
    ⟨⟨stored, rfl, hlive, hactive⟩, fun o ho => by cases ho⟩ r hr
  obtain ⟨⟨stored', hstored', -, hactive'⟩, -⟩ := hafter
  refine ⟨fun o houtput => ?_, stored', hstored', hactive'⟩
  obtain ⟨⟨current, hcurrent, hcurrentLive, -⟩, -⟩ := hbefore
  have hstep := next_leaseStep r.before r.input
  rw [show r.before.next r.input = (r.after, r.output) by rw [hrecord]; rfl, houtput] at hstep
  generalize r.after = after at hstep
  cases hstep with
  | kept _ _ _ _ _ hnot => exact absurd rfl (hnot o)
  | read read input hread =>
    cases hcurrent.symm.trans hread
    exact (reconcile_revoked input.reconciler input.runtime hcurrentLive
      ((hrevoked r hr).2 _ houtput)).1

/-! ## A revoked lease -/

/-- A lease whose endpoint is active. -/
def activeLease : PortForwardLease :=
  { sampleLease none with
    status := { PortForwardLeaseStatus.empty with
      handoffGeneration := 1
      activeEndpoint := some (endpointFor (sampleCandidate "pod") .active) } }

/-- The gateway is there and ready, but does not admit the lease's namespace any more. -/
def revokedApi : ApiView :=
  { sampleApi (sampleGateway "gw" true) [sampleCandidate "pod"] 2 with
    resolveGateway := .ok { permitted := false, gateway := none } }

theorem revocation_never_withdraws_active :
    ¬WithdrawsRevoked activeLease
        (sampleReconciler.reconcile (some (confirmingRuntime 2)) revokedApi activeLease) ∧
      endpointAfter activeLease
        (sampleReconciler.reconcile (some (confirmingRuntime 2)) revokedApi activeLease) =
          some (endpointFor (sampleCandidate "pod") .active) :=
  revocation_never_withdraws sampleReconciler (some (confirmingRuntime 2)) revokedApi activeLease _ rfl
    rfl ⟨_, rfl, Or.inl rfl⟩

/-- The reconcile that observes the revocation sends nothing and writes a status whose endpoint is
active. -/
theorem revoked_lease_stays_active :
    (sampleReconciler.reconcile (some (confirmingRuntime 2)) revokedApi activeLease).sent = none ∧
      ∃ status,
        (sampleReconciler.reconcile (some (confirmingRuntime 2)) revokedApi activeLease).write =
          some (.status status) ∧
        status.activeEndpoint = some (endpointFor (sampleCandidate "pod") .active) :=
  ⟨by decide +kernel, _, rfl, rfl⟩

end Waycloak.Analysis
