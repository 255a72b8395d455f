import Waycloak.Interface.DeploymentSteps

/-!
# Withdrawals meet their own generation

A runtime refuses a withdrawal whose generation is not the one it holds. With one gateway,
the generation it holds is never above the stored one, and is below it only between the
write of a successor and the successor's first programming (`Agrees`). A withdrawal in that
window names the new generation and is refused, and so is every later one.

The window is harmless as long as nothing forces a drain or a deletion while it is open
(`Settled`): then every withdrawal of the controller meets no state or a state of its own
generation. `successor_withdrawn_early` is the run in which the gateway loses its readiness
inside the window.
-/

set_option autoImplicit false

namespace Waycloak.Analysis

open Waycloak.Model Waycloak.Interface Waycloak.Computation

variable {api : ApiView} {gateway : VPNGateway} {lease : PortForwardLease} {s : Deployment}
  {gatewayUID leaseUID : ObjectUID}
variable {endpoint : ActiveLeaseEndpoint} {step : ReconcileStep} {intent : WithdrawalIntent}
  {answer : Observation × Option String}

/-- The runtime holds an older generation than the stored one. -/
def Lags (held : Option RuntimeState) (status : PortForwardLeaseStatus) : Prop :=
  ∃ state, held = some state ∧ state.intent.handoffGeneration < status.handoffGeneration

/-- The stored endpoint is left in place by the next drain decision, as far as its phase goes. -/
def Keepable (status : PortForwardLeaseStatus) : Prop :=
  ∃ endpoint, status.activeEndpoint = some endpoint ∧ endpoint.phase ≠ .draining

/-- What the runtime holds is not ahead of the stored generation, and behind it only for an endpoint
that is not draining. -/
def Agrees (held : Option RuntimeState) (status : PortForwardLeaseStatus) : Prop :=
  (∀ state, held = some state → state.intent.handoffGeneration ≤ status.handoffGeneration) ∧
    (Lags held status → Keepable status)

/-! ## The environment -/

/-- Whatever gateway the API names is the one with this UID. -/
structure OneGateway (gatewayUID : ObjectUID) (api : ApiView) : Prop where
  resolved : ∀ resolution gateway, api.resolveGateway = .ok resolution →
    resolution.gateway = some gateway → gateway.uid = gatewayUID
  referenced : ∀ gateway, api.gateway = .ok gateway → gateway.uid = gatewayUID
  reserved : ∀ reservation, api.recover = .ok reservation → reservation.gatewayUID = gatewayUID

/-- The API shows everything the stored endpoint needs: its gateway is permitted, accepted, capable
and ready, its Pod is a candidate of its Service, and its adapter, if it names one, is ready. -/
def InService (lease : PortForwardLease) (api : ApiView) : Prop :=
  ∃ gateway backend, api.resolveGateway = .ok { permitted := true, gateway := some gateway } ∧
    gatewayAccepted gateway = true ∧
    hasGatewayFeature gateway featurePortForwardSingleActive = true ∧ gatewayReady gateway = true ∧
    api.resolveBackend gateway = .ok backend ∧
    (∀ endpoint, lease.status.activeEndpoint = some endpoint →
      (∃ candidate ∈ backend.candidates, candidate.podUID = endpoint.podUID) ∧
        ∀ candidate ∈ backend.candidates, candidate.serviceUID = endpoint.serviceUID) ∧
    ∀ name, lease.spec.applicationAdapterRef = some name →
      hasGatewayFeature gateway featureWorkloadAdapter = true ∧
        ∃ adapter, api.adapter name = .ok adapter ∧
          currentTrue adapter.conditions .ready adapter.observedGeneration adapter.generation = true

/-- While the runtime lags behind the stored generation, the lease is not being deleted and the API
shows what the stored endpoint needs. -/
def Settled (gatewayUID leaseUID : ObjectUID) (s : Deployment) (input : DeploymentInput) : Prop :=
  ∀ step stored, input = .reconcile step → s.store = some stored →
    Lags ((s.gateways gatewayUID).state? leaseUID) stored.lease.status →
      stored.lease.deletionTimestamp = none ∧ InService stored.lease step.api

/-! ## No drain in service -/

/-- INTERNAL: selection sticks to the current Pod while it is a candidate.
SOURCE: portforward/resolver.go:280-310 -/
theorem select_current {candidates : List Candidate}
    (h : ∃ candidate ∈ candidates, candidate.podUID = endpoint.podUID) :
    ∃ candidate ∈ candidates, candidate.podUID = endpoint.podUID ∧
      select candidates (some endpoint) = some candidate := by
  obtain ⟨candidate, hmem, hpod⟩ := h
  have hsome : (candidates.find? fun c => c.podUID = endpoint.podUID).isSome = true := by
    rw [List.find?_isSome]
    exact ⟨candidate, hmem, by simpa using hpod⟩
  obtain ⟨found, hfound⟩ := Option.isSome_iff_exists.mp hsome
  refine ⟨found, List.mem_of_find?_eq_some hfound, ?_, ?_⟩
  · simpa using List.find?_some hfound
  · simp [select, hfound]

/-- INTERNAL: **an endpoint in service is not drained.**
SOURCE: portforward/controller.go:99-180, 288-310 -/
theorem inService_no_drain (h : InService lease api)
    (hactive : lease.status.activeEndpoint = some endpoint) (hphase : endpoint.phase ≠ .draining) :
    handoffDrainReason (some endpoint) (evaluate lease api) = none := by
  obtain ⟨gateway, backend, hresolve, haccepted, hfeature, hready, hbackend, hendpoint, hadapter⟩ := h
  obtain ⟨hcandidate, hservice⟩ := hendpoint endpoint hactive
  obtain ⟨selected, hmem, hpod, hselect⟩ := select_current hcandidate
  -- what the adapter part can change is the states, the adapter's readiness and the port mode
  have hevaluate : ∃ states, evaluate lease api = evaluateAdapter lease api gateway
      { resolvedEvaluation lease gateway states (gatewayReady gateway) with
        selected := some selected } := by
    refine ⟨(pendingLeaseStates lease.spec.applicationAdapterRef.isNone).set .accepted
      (.true .accepted "Lease intent is accepted"), ?_⟩
    simp [evaluate, hresolve, haccepted, hfeature, evaluateBackend, hbackend, hactive, hselect]
  obtain ⟨states, hevaluate⟩ := hevaluate
  obtain ⟨states', ready', assigned', heq⟩ := evaluateAdapter_eq lease api gateway
    { resolvedEvaluation lease gateway states (gatewayReady gateway) with selected := some selected }
  rw [handoffDrainReason_none_iff]
  refine ⟨?_, hphase, ?_, ?_, selected, ?_, (hservice selected hmem).symm, hpod.symm⟩
  · rw [hevaluate, heq]
    exact hready
  · rw [hevaluate, heq]
    rfl
  · intro _
    rw [hevaluate]
    cases href : lease.spec.applicationAdapterRef with
    | none => simp [evaluateAdapter, href, resolvedEvaluation]
    | some name =>
      obtain ⟨hcapable, adapter, hread, hcurrent⟩ := hadapter name href
      simp [evaluateAdapter, href, hcapable, hread, hcurrent]
  · rw [hevaluate, evaluateAdapter_selected]

/-! ## Agreement -/

/-- INTERNAL: a status that is written stays at its generation and keeps a lagging endpoint, or
selects the endpoint of the next one.
SOURCE: portforward/controller.go:182-355 -/
theorem statusCase_keepable {r : PortForwardLeaseReconciler} {runtime : Option Runtime}
    {outcome : StatusOutcome} {held : Option RuntimeState}
    (hcase : StatusCase r runtime api lease (evaluate lease api) outcome)
    (hkeep : Lags held lease.status → Keepable lease.status)
    (hservice : Lags held lease.status → InService lease api) :
    (outcome.status.handoffGeneration = lease.status.handoffGeneration ∧
      (Lags held lease.status → Keepable outcome.status)) ∨
    (outcome.status.handoffGeneration = lease.status.handoffGeneration + 1 ∧
      Keepable outcome.status) := by
  have hnodrain : Lags held lease.status → ∀ endpoint reason,
      lease.status.activeEndpoint = some endpoint →
      handoffDrainReason (some endpoint) (evaluate lease api) = some reason → False := by
    intro hlag endpoint reason hactive hreason
    obtain ⟨endpoint', hactive', hphase⟩ := hkeep hlag
    rw [hactive] at hactive'
    cases hactive'
    rw [inService_no_drain (hservice hlag) hactive hphase] at hreason
    cases hreason
  cases hcase with
  | idle _ hsent hgeneration hendpoint =>
    refine Or.inl ⟨hgeneration, ?_⟩
    intro hlag
    obtain ⟨endpoint, hactive, hphase⟩ := hkeep hlag
    exact ⟨endpoint, hendpoint.trans hactive, hphase⟩
  | selected _ _ _ _ _ hgeneration hendpoint =>
    exact Or.inr ⟨hgeneration, _, hendpoint, by simp [endpointFor]⟩
  | draining rt gateway endpoint reason _ hruntime hgateway hactive hreason hsent hgeneration
      hendpoint =>
      exact Or.inl ⟨hgeneration, fun hlag => (hnodrain hlag endpoint reason hactive hreason).elim⟩
  | withdrawn rt gateway endpoint reason port _ hruntime hgateway hactive hreason hsent hconfirmed
      hstatus =>
      rcases hstatus with ⟨hgeneration, -⟩ | ⟨hgeneration, -⟩ | ⟨candidate, -, -, hgeneration, hendpoint⟩
      · exact Or.inl ⟨hgeneration, fun hlag => (hnodrain hlag endpoint reason hactive hreason).elim⟩
      · exact Or.inl ⟨hgeneration, fun hlag => (hnodrain hlag endpoint reason hactive hreason).elim⟩
      · exact Or.inr ⟨hgeneration, _, hendpoint, by simp [endpointFor]⟩
  | programmed rt gateway endpoint candidate phase _ hruntime hgateway hactive hselected hreason hsent
      hphase hgeneration hendpoint =>
      exact Or.inl ⟨hgeneration, fun _ => ⟨_, hendpoint, by simpa [endpointFor] using hphase⟩⟩

/-- The stored lease and the runtime of the gateway agree. -/
def Agreement (gatewayUID leaseUID : ObjectUID) (s : Deployment) : Prop :=
  ∀ stored, s.store = some stored → stored.lease.uid = leaseUID ∧
    Agrees ((s.gateways gatewayUID).state? leaseUID) stored.lease.status

/-- INTERNAL: the agreement after a reconcile.
SOURCE: portforward/controller.go:55-83 -/
theorem agrees_reconciled {stored stored' : StoredLease}
    {gateways' : Gateways} {reply : Option Reply}
    (hagrees : Agrees ((s.gateways gatewayUID).state? leaseUID) stored.lease.status)
    (hsettled : Lags ((s.gateways gatewayUID).state? leaseUID) stored.lease.status →
      InService stored.lease step.api)
    (hhandled : Handled s.gateways (s.reconcileOf stored step).result.sent gateways' reply)
    (hwritten : stored'.lease.status = stored.lease.status ∨
      (s.reconcileOf stored step).result.write = some (.status stored'.lease.status)) :
    Agrees ((gateways' gatewayUID).state? leaseUID) stored'.lease.status := by
  -- a state after the reconcile is an old one or has the stored generation
  have hstate : ∀ state', (gateways' gatewayUID).state? leaseUID = some state' →
      (∃ state, (s.gateways gatewayUID).state? leaseUID = some state ∧
        state'.intent.handoffGeneration = state.intent.handoffGeneration) ∨
      state'.intent.handoffGeneration = stored.lease.status.handoffGeneration := by
    intro state' hstate'
    rcases handled_state hhandled hstate' with ⟨state, hheld, hintent, -⟩ |
      ⟨gateway, intent, answer, hsent, -, hintent⟩
    · exact Or.inl ⟨state, hheld, by rw [hintent]⟩
    obtain ⟨endpoint, candidate, port, -, -, -, -, -, hprogram⟩ := reconcile_sent hsent
    right
    rw [hintent, hprogram]
    rfl
  have hle : ∀ state', (gateways' gatewayUID).state? leaseUID = some state' →
      state'.intent.handoffGeneration ≤ stored.lease.status.handoffGeneration := by
    intro state' hstate'
    rcases hstate state' hstate' with ⟨state, hheld, hsame⟩ | hsame
    · rw [hsame]
      exact hagrees.1 state hheld
    · exact le_of_eq hsame
  have hlag : Lags ((gateways' gatewayUID).state? leaseUID) stored.lease.status →
      Lags ((s.gateways gatewayUID).state? leaseUID) stored.lease.status := by
    rintro ⟨state', hstate', hlt⟩
    rcases hstate state' hstate' with ⟨state, hheld, hsame⟩ | hsame
    · exact ⟨state, hheld, hsame ▸ hlt⟩
    · omega
  rcases hwritten with hkept | hwritten
  · rw [hkept]
    exact ⟨hle, fun h => hagrees.2 (hlag h)⟩
  obtain ⟨-, outcome, houtcome, -, hcase⟩ := reconcile_written hwritten
  rw [← houtcome]
  rcases statusCase_keepable hcase hagrees.2 hsettled with ⟨hgeneration, hkeep⟩ |
    ⟨hgeneration, hkeep⟩
  · change outcome.status.handoffGeneration = stored.lease.status.handoffGeneration at hgeneration
    refine ⟨fun state' hstate' => hgeneration ▸ hle state' hstate', ?_⟩
    rintro ⟨state', hstate', hlt⟩
    exact hkeep (hlag ⟨state', hstate', hgeneration ▸ hlt⟩)
  · change outcome.status.handoffGeneration = stored.lease.status.handoffGeneration + 1
      at hgeneration
    refine ⟨?_, fun _ => hkeep⟩
    intro state' hstate'
    have := hle state' hstate'
    omega

theorem agreement_step {r : DeploymentRecord}
    (hr : r = record (Deployment.next leaseUID) r.before r.input)
    (hsettled : Settled gatewayUID leaseUID r.before r.input)
    (h : Agreement gatewayUID leaseUID r.before) : Agreement gatewayUID leaseUID r.after := by
  have hcase := record_deploymentCase hr
  intro stored' hstored'
  generalize r.after = after, r.output = output, r.input = input at hcase hsettled hstored'
  cases hcase with
  | quiet _ _ hstore hstates =>
    rw [hstates]
    rcases hstore with hstore | ⟨stored, lease, hold, hkept, hstore⟩
    · exact h stored' (hstore ▸ hstored')
    · rw [hstore] at hstored'
      rw [(replace_some hstored').1, hkept.uid, hkept.status]
      exact h stored hold
  | reconciled stored step hold =>
    obtain ⟨huid, hagrees⟩ := h stored hold
    obtain ⟨huid', hwritten⟩ := reconciled_store hstored'
    refine ⟨huid'.trans huid, ?_⟩
    exact agrees_reconciled hagrees (fun hlag => (hsettled step stored rfl hold hlag).2)
      (handle_handled _ _ _) hwritten

/-! ## Withdrawals -/

theorem withdrawal_gateway (hone : OneGateway gatewayUID api)
    (h : PortForwardLeaseReconciler.cleanupGateway api lease = .ok gateway ∨
      (evaluate lease api).gateway = some gateway) : gateway.uid = gatewayUID := by
  rcases h with h | h
  · unfold PortForwardLeaseReconciler.cleanupGateway at h
    split at h
    · next referenced _ hgateway =>
      cases h
      exact hone.referenced gateway hgateway
    · next hrecover =>
      cases h
      exact hone.reserved _ hrecover
    · cases h
  · obtain ⟨resolution, hresolve, hgateway⟩ := evaluate_gateway h
    exact hone.resolved resolution gateway hresolve hgateway

theorem withdrawal_meets {stored : StoredLease} (huid : stored.lease.uid = leaseUID)
    (hagrees : Agrees ((s.gateways gatewayUID).state? leaseUID) stored.lease.status)
    (hsettled : Lags ((s.gateways gatewayUID).state? leaseUID) stored.lease.status →
      stored.lease.deletionTimestamp = none ∧ InService stored.lease step.api)
    (hone : OneGateway gatewayUID step.api)
    (hsent : (s.reconcileOf stored step).result.sent = some (.withdraw gateway intent answer)) :
    GenerationMatches (s.gateways gateway.uid) intent := by
  obtain ⟨⟨hlease, hgeneration, -⟩, -, hwhy⟩ := reconcile_withdraws hsent
  have hgateway : gateway.uid = gatewayUID :=
    withdrawal_gateway hone (hwhy.imp (fun h => h.2) (fun h => h.1))
  have hnotLag : ¬ Lags ((s.gateways gatewayUID).state? leaseUID) stored.lease.status := by
    intro hlag
    obtain ⟨hlive, hservice⟩ := hsettled hlag
    rcases hwhy with ⟨hdeleted, -⟩ | ⟨-, endpoint, reason, hactive, hreason⟩
    · exact hdeleted hlive
    obtain ⟨endpoint', hactive', hphase⟩ := hagrees.2 hlag
    have hsame : endpoint = endpoint' := Option.some.inj (hactive.symm.trans hactive')
    have hnone := inService_no_drain hservice hactive (hsame ▸ hphase)
    exact absurd (hnone.symm.trans hreason) (by simp)
  intro state hheld
  rw [hgateway, hlease] at hheld
  change (s.gateways gatewayUID).state? stored.lease.uid = some state at hheld
  rw [huid] at hheld
  have hle := hagrees.1 state hheld
  have hge : ¬ state.intent.handoffGeneration < stored.lease.status.handoffGeneration :=
    fun hlt => hnotLag ⟨state, hheld, hlt⟩
  rw [hgeneration]
  change state.intent.handoffGeneration = stored.lease.status.handoffGeneration
  omega

/-- A withdrawal that a step sends meets no state, or a state of its own generation, and is not
refused for its generation. -/
def MeetsGeneration (r : DeploymentRecord) : Prop :=
  ∀ gateway intent answer, r.output.sent = some (.withdraw gateway intent answer) →
    GenerationMatches (r.before.gateways gateway.uid) intent ∧
      ∀ reply, r.output.reply = some reply → reply.err ≠ some .withdrawalGeneration

theorem handled_withdrawal {gateways gateways' : Gateways} {reply : Reply}
    (h : Handled gateways (some (.withdraw gateway intent answer)) gateways' (some reply))
    (hmatch : GenerationMatches (gateways gateway.uid) intent) :
    reply.err ≠ some .withdrawalGeneration := by
  cases h with
  | served =>
    intro herr
    exact withdraw_err_generation herr hmatch

/-- INTERNAL: a step raises the stored generation by at most one. -/
theorem deployment_generationAtMost {r : DeploymentRecord} {bound : Int}
    (hr : r = record (Deployment.next leaseUID) r.before r.input)
    (h : GenerationAtMost bound r.before.store) : GenerationAtMost (bound + 1) r.after.store := by
  have hcase := record_deploymentCase hr
  intro stored' hstored'
  generalize r.after = after, r.output = output, r.input = input at hcase hstored'
  cases hcase with
  | quiet _ _ hstore =>
    rcases hstore with hstore | ⟨stored, lease, hold, hkept, hstore⟩
    · exact h.mono (by omega) stored' (hstore ▸ hstored')
    · rw [hstore] at hstored'
      rw [(replace_some hstored').1, hkept.status]
      exact h.mono (by omega) stored hold
  | reconciled stored step hold =>
    have hle := h stored hold
    obtain ⟨-, hkept | hwritten⟩ := reconciled_store hstored'
    · rw [hkept]
      omega
    obtain ⟨-, outcome, houtcome, -, hcase⟩ := reconcile_written hwritten
    rw [← houtcome]
    rcases statusCase_written hcase with ⟨hgeneration, -⟩ | ⟨hgeneration, -⟩
    · exact hgeneration.trans_le (hle.trans (by omega))
    · exact hgeneration.trans_le (Int.add_le_add_right hle 1)

/-- **Every withdrawal meets its own generation** in the runs of one gateway in which nothing forces
a drain or a deletion before a stored successor is programmed. The stored generation has grown by at
most the number of steps: while the sum is below `2 ^ 63`, the `int64` does not wrap.
SOURCE: portforward/controller.go:312-355; portforward/manager.go:222-239 -/
theorem withdrawals_meet_generation (gatewayUID : ObjectUID) (stored : StoredLease)
    (inputs : List DeploymentInput)
    (hone : ∀ step, DeploymentInput.reconcile step ∈ inputs → OneGateway gatewayUID step.api)
    (hsettled : ∀ r ∈ deploymentRun stored inputs,
      Settled gatewayUID stored.lease.uid r.before r.input) :
    ∀ r ∈ deploymentRun stored inputs, MeetsGeneration r ∧
      GenerationAtMost (stored.lease.status.handoffGeneration + inputs.length) r.after.store := by
  intro r hr
  have hlinked := exec_linked (Deployment.next stored.lease.uid)
    { store := some stored, gateways := fun _ => GatewayRuntimeManager.start } inputs
  have hstart : Agreement gatewayUID stored.lease.uid
      { store := some stored, gateways := fun _ => GatewayRuntimeManager.start } := by
    intro stored' hstored'
    cases hstored'
    refine ⟨rfl, ?_, ?_⟩
    · intro state hheld
      simp at hheld
    · rintro ⟨state, hheld, -⟩
      simp at hheld
  obtain ⟨hrec, hagreement, -⟩ := hlinked.invariant
    (fun r' hr' hrec' h => agreement_step hrec' (hsettled r' hr') h) hstart r hr
  refine ⟨?_, exec_counted (P := fun bound (s : Deployment) => GenerationAtMost bound s.store)
    (fun bound r _ hr h => deployment_generationAtMost hr h) (fun _ _ _ hle h => h.mono hle)
    (by rintro first ⟨⟩; exact le_refl _) r hr⟩
  have hinput : r.input ∈ inputs := exec_input_mem hr
  have hset := hsettled r hr
  have hcase := record_deploymentCase hrec
  intro gateway intent answer hsent
  generalize r.after = after, r.output = output, r.input = input at hcase hset hsent hinput
  cases hcase with
  | quiet => cases hsent
  | reconciled held step hstore =>
    obtain ⟨huid, hagrees⟩ := hagreement held hstore
    rw [handle_sent] at hsent
    have hmatch := withdrawal_meets huid hagrees (hset step held rfl hstore) (hone step hinput) hsent
    refine ⟨hmatch, ?_⟩
    intro reply hreply
    have hhandled := handle_handled r.before.gateways step.transport
      (r.before.reconcileOf held step).result.sent
    rw [hreply, hsent] at hhandled
    exact handled_withdrawal hhandled hmatch

theorem sampleApi_oneGateway (gateway : VPNGateway) (candidates : List Candidate) (now : Time) :
    OneGateway gateway.uid (sampleApi gateway candidates now) := by
  constructor
  · intro resolution resolved hresolve hresolved
    cases hresolve
    cases hresolved
    rfl
  · intro referenced hreferenced
    cases hreferenced
    rfl
  · intro reservation hrecover
    cases hrecover
    rfl

/-- The lease is programmed for the Pod `a`, handed over to `b`, and drained when the gateway loses
its readiness, before or after `b` is programmed. -/
def handoverViews (programmed : Bool) : List (Bool × ObjectUID × Time) :=
  [(true, "a", 1), (true, "a", 2), (true, "b", 3)] ++ (if programmed then [(true, "b", 4)] else []) ++
    [(false, "b", 5)]

def handoverInputs (programmed : Bool) : List DeploymentInput :=
  (handoverViews programmed).map fun view =>
    sampleReconcile (sampleGateway "gw" view.1) [view.2.1] view.2.2

theorem handoverInputs_oneGateway (programmed : Bool) :
    ∀ step, DeploymentInput.reconcile step ∈ handoverInputs programmed →
      OneGateway "gw" step.api := by
  intro step hstep
  obtain ⟨view, -, heq⟩ := List.mem_map.mp hstep
  cases heq
  exact sampleApi_oneGateway (sampleGateway "gw" view.1) _ view.2.2

/-- The withdrawal of `b` at generation 2. -/
def earlyWithdrawal : WithdrawalIntent :=
  { sampleWithdrawal "lease" 2 with podUID := "b", providerInternalPort := 49152 }

theorem settled_of_current {input : DeploymentInput}
    (h : (s.store.all fun stored => ((s.gateways "gw").state? "lease").all fun state =>
      decide (stored.lease.status.handoffGeneration ≤ state.intent.handoffGeneration)) = true) :
    Settled "gw" "lease" s input := by
  rintro step stored - hstore ⟨state, hheld, hlt⟩
  rw [hstore, hheld] at h
  simp only [Option.all_some, decide_eq_true_eq] at h
  omega

theorem settled_of_inService {podUID : ObjectUID} {now : Time}
    (h : (s.store.all fun stored => decide (stored.lease.deletionTimestamp = none ∧
      stored.lease.spec.applicationAdapterRef = none ∧
      stored.lease.status.activeEndpoint.map (fun e => (e.serviceUID, e.podUID)) =
        some ("service", podUID))) = true) :
    Settled "gw" "lease" s (sampleReconcile (sampleGateway "gw" true) [podUID] now) := by
  intro step stored hinput hstore _
  cases hinput
  rw [hstore] at h
  simp only [Option.all_some, decide_eq_true_eq] at h
  obtain ⟨hlive, href, hendpoint⟩ := h
  refine ⟨hlive, sampleGateway "gw" true, ⟨[sampleCandidate podUID], []⟩, rfl, rfl, rfl, rfl, rfl, ?_, ?_⟩
  · intro endpoint hactive
    rw [hactive] at hendpoint
    simp only [Option.map_some, Option.some.injEq, Prod.mk.injEq] at hendpoint
    simp [sampleCandidate, hendpoint]
  · intro name hname
    rw [href] at hname
    cases hname

theorem handoverInputs_settled :
    ∀ r ∈ deploymentRun ⟨sampleLease none, 0⟩ (handoverInputs true),
      Settled "gw" "lease" r.before r.input := by
  simp only [deploymentRun, handoverInputs, handoverViews, if_true, List.cons_append, List.nil_append,
    List.map_cons, List.map_nil, exec_cons, exec_nil, List.forall_mem_cons]
  refine ⟨settled_of_current (by decide +kernel), settled_of_current (by decide +kernel),
    settled_of_current (by decide +kernel), settled_of_inService (by decide +kernel),
    settled_of_current (by decide +kernel), by simp⟩

theorem withdrawals_meet_generation_handover :
    ∃ r ∈ deploymentRun ⟨sampleLease none, 0⟩ (handoverInputs true), MeetsGeneration r ∧
      ∃ gateway intent answer, r.output.sent = some (.withdraw gateway intent answer) ∧
        intent.handoffGeneration = 2 := by
  have hsent : ∃ r ∈ deploymentRun ⟨sampleLease none, 0⟩ (handoverInputs true),
      r.output.sent = some (.withdraw (sampleGateway "gw" false)
        { earlyWithdrawal with previousPublicPort := 50000 }
        (withdrawalObservation earlyWithdrawal true 5, none)) := by
    decide +kernel
  obtain ⟨r, hr, hsent⟩ := hsent
  exact ⟨r, hr, (withdrawals_meet_generation "gw" ⟨sampleLease none, 0⟩ (handoverInputs true)
    (handoverInputs_oneGateway true) handoverInputs_settled r hr).1, _, _, _, hsent, rfl⟩

/-- The successor `b` is stored at generation 2 while the runtime holds generation 1; the withdrawal
that follows is refused. -/
theorem successor_withdrawn_early :
    (∀ step, DeploymentInput.reconcile step ∈ handoverInputs false → OneGateway "gw" step.api) ∧
    ∃ r ∈ deploymentRun ⟨sampleLease none, 0⟩ (handoverInputs false), ∃ gateway answer,
      r.output.sent = some (.withdraw gateway earlyWithdrawal answer) ∧
      ¬ GenerationMatches (r.before.gateways gateway.uid) earlyWithdrawal ∧
      r.output.reply.map (·.err) = some (some .withdrawalGeneration) := by
  have hrefused : ∃ r ∈ deploymentRun ⟨sampleLease none, 0⟩ (handoverInputs false),
      r.output.sent = some (.withdraw (sampleGateway "gw" false) earlyWithdrawal
        (Observation.empty, some "gateway runtime request failed")) ∧
      (((r.before.gateways "gw").state? "lease").any fun state =>
        state.intent.handoffGeneration != 2) = true ∧
      r.output.reply.map (·.err) = some (some .withdrawalGeneration) := by
    decide +kernel
  obtain ⟨r, hr, hsent, hheld, herr⟩ := hrefused
  refine ⟨handoverInputs_oneGateway false, r, hr, _, _, hsent, ?_, herr⟩
  intro hmatch
  have hnone := (generationMatches_iff _ _).mp hmatch
  exact absurd (hheld.symm.trans hnone) (by simp)

end Waycloak.Analysis
