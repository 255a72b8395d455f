import Waycloak.Model.Controller

/-!
# What one reconcile of the lease controller can do

The inversion of `runtimeStatus` and `Reconcile`. `StatusCase` lists what the status
computation can do with the handoff generation and the endpoint of a lease, together with
the runtime call it made; `ControllerCase` adds the deletion path and the finalizer writes.
Proofs about runs of the controller go through `reconcile_controllerCase` and never unfold
the reconcile.
-/

set_option autoImplicit false

namespace Waycloak.Interface

open Waycloak.Model

variable {candidate : Candidate} {endpoint : ActiveLeaseEndpoint} {evaluation : LeaseEvaluation}
  {gateway : VPNGateway} {runtime : Option Runtime} {r : PortForwardLeaseReconciler} {api : ApiView}
  {lease : PortForwardLease}
variable {rt : Runtime} {o : StatusOutcome} {answer : Observation × Option String}

/-- The answer to a withdrawal is an exact and fresh `Withdrawn`. -/
def Confirmed (r : PortForwardLeaseReconciler) (now : Time) (intent : WithdrawalIntent)
    (answer : Observation × Option String) : Prop :=
  answer.2 = none ∧ r.currentWithdrawal now answer.1 intent = true

/-- What `runtimeStatus` can do, and when. -/
inductive StatusCase (r : PortForwardLeaseReconciler) (runtime : Option Runtime) (api : ApiView)
    (lease : PortForwardLease) (evaluation : LeaseEvaluation) : StatusOutcome → Prop
  /-- nothing is decided: generation and endpoint stay -/
  | idle (o : StatusOutcome) (hsent : o.sent = none)
      (hgeneration : o.status.handoffGeneration = lease.status.handoffGeneration)
      (hendpoint : o.status.activeEndpoint = lease.status.activeEndpoint) :
      StatusCase r runtime api lease evaluation o
  /-- a first endpoint is selected -/
  | selected (candidate : Candidate) (o : StatusOutcome) (hsent : o.sent = none)
      (hnone : lease.status.activeEndpoint = none)
      (hselected : evaluation.selected = some candidate)
      (hgeneration : o.status.handoffGeneration = lease.status.handoffGeneration + 1)
      (hendpoint : o.status.activeEndpoint = some (endpointFor candidate .selecting)) :
      StatusCase r runtime api lease evaluation o
  /-- the endpoint drains: its withdrawal could not be sent or is not confirmed -/
  | draining (rt : Runtime) (gateway : VPNGateway) (endpoint : ActiveLeaseEndpoint)
      (reason : DrainReason) (o : StatusOutcome) (hruntime : runtime = some rt)
      (hgateway : evaluation.gateway = some gateway)
      (hactive : lease.status.activeEndpoint = some endpoint)
      (hreason : handoffDrainReason (some endpoint) evaluation = some reason)
      (hsent : o.sent = none ∨ ∃ port, o.sent = some (.withdraw gateway
        (drainWithdrawal lease evaluation gateway endpoint port)
        (rt.withdraw gateway (drainWithdrawal lease evaluation gateway endpoint port))))
      (hgeneration : o.status.handoffGeneration = lease.status.handoffGeneration)
      (hendpoint : o.status.activeEndpoint = some { endpoint with phase := .draining }) :
      StatusCase r runtime api lease evaluation o
  /-- the withdrawal is confirmed: the endpoint is suspended, given up, or succeeded -/
  | withdrawn (rt : Runtime) (gateway : VPNGateway) (endpoint : ActiveLeaseEndpoint)
      (reason : DrainReason) (port : UInt16) (o : StatusOutcome) (hruntime : runtime = some rt)
      (hgateway : evaluation.gateway = some gateway)
      (hactive : lease.status.activeEndpoint = some endpoint)
      (hreason : handoffDrainReason (some endpoint) evaluation = some reason)
      (hsent : o.sent = some (.withdraw gateway
        (drainWithdrawal lease evaluation gateway endpoint port)
        (rt.withdraw gateway (drainWithdrawal lease evaluation gateway endpoint port))))
      (hconfirmed : Confirmed r api.now (drainWithdrawal lease evaluation gateway endpoint port)
        (rt.withdraw gateway (drainWithdrawal lease evaluation gateway endpoint port)))
      (hstatus :
        (o.status.handoffGeneration = lease.status.handoffGeneration ∧
          o.status.activeEndpoint = some { endpoint with phase := .selecting }) ∨
        (o.status.handoffGeneration = lease.status.handoffGeneration ∧
          o.status.activeEndpoint = none) ∨
        ∃ candidate, evaluation.selected = some candidate ∧ evaluation.gatewayReady = true ∧
          o.status.handoffGeneration = lease.status.handoffGeneration + 1 ∧
          o.status.activeEndpoint = some (endpointFor candidate .selecting)) :
      StatusCase r runtime api lease evaluation o
  /-- the persisted target is programmed -/
  | programmed (rt : Runtime) (gateway : VPNGateway) (endpoint : ActiveLeaseEndpoint)
      (candidate : Candidate) (phase : EndpointHandoffPhase) (o : StatusOutcome)
      (hruntime : runtime = some rt) (hgateway : evaluation.gateway = some gateway)
      (hactive : lease.status.activeEndpoint = some endpoint)
      (hselected : evaluation.selected = some candidate)
      (hreason : handoffDrainReason (some endpoint) evaluation = none)
      (hsent : o.sent = none ∨ ∃ port, api.reserve gateway = .ok port ∧
        o.sent = some (.reconcile gateway (programIntent lease evaluation gateway candidate port)
          (rt.reconcile gateway (programIntent lease evaluation gateway candidate port))))
      (hphase : phase ≠ .draining)
      (hgeneration : o.status.handoffGeneration = lease.status.handoffGeneration)
      (hendpoint : o.status.activeEndpoint = some (endpointFor candidate phase)) :
      StatusCase r runtime api lease evaluation o

/-- INTERNAL: **when an endpoint is left in place**: the gateway is ready, the endpoint is not
draining, nothing it needs is unavailable, and the selected endpoint is the same Service and Pod.
SOURCE: portforward/controller.go:288-310 -/
theorem handoffDrainReason_none_iff (endpoint : ActiveLeaseEndpoint)
    (evaluation : LeaseEvaluation) :
    handoffDrainReason (some endpoint) evaluation = none ↔
      evaluation.gatewayReady = true ∧ endpoint.phase ≠ .draining ∧
      evaluation.backendSuspended = false ∧
      (evaluation.adapterRequired = true → evaluation.adapterReady = true) ∧
      ∃ candidate, evaluation.selected = some candidate ∧
        endpoint.serviceUID = candidate.serviceUID ∧ endpoint.podUID = candidate.podUID := by
  unfold handoffDrainReason
  dsimp only
  by_cases hready : evaluation.gatewayReady = false
  · simp [hready]
  rw [if_neg hready]
  by_cases hphase : endpoint.phase = .draining
  · simp [hphase]
  rw [if_neg hphase]
  by_cases hsuspended : evaluation.backendSuspended = true
  · simp [hsuspended]
  rw [if_neg hsuspended]
  cases hselected : evaluation.selected with
  | none => simp
  | some candidate =>
    by_cases hadapter : evaluation.adapterRequired = true ∧ evaluation.adapterReady = false
    · simp [hadapter]
    have hadapter' : evaluation.adapterRequired = true → evaluation.adapterReady = true := by
      intro hrequired
      by_contra hnot
      exact hadapter ⟨hrequired, by simpa using hnot⟩
    rw [if_neg (fun h => hadapter h.2)]
    by_cases hservice : endpoint.serviceUID = candidate.serviceUID <;>
      by_cases hpod : endpoint.podUID = candidate.podUID <;>
      simp_all

theorem handoffDrainReason_none (h : handoffDrainReason (some endpoint) evaluation = none) :
    ∃ candidate, evaluation.selected = some candidate ∧
      endpoint.serviceUID = candidate.serviceUID ∧ endpoint.podUID = candidate.podUID :=
  ((handoffDrainReason_none_iff endpoint evaluation).mp h).2.2.2.2

/-- INTERNAL: what a drain can do.
SOURCE: portforward/controller.go:312-355 -/
theorem drainStatus_statusCase {reason : DrainReason} (hgateway : evaluation.gateway = some gateway)
    (hactive : lease.status.activeEndpoint = some endpoint)
    (hreason : handoffDrainReason (some endpoint) evaluation = some reason) (preserve : Bool) :
    StatusCase r (some rt) api lease evaluation
      (r.drainStatus rt api lease evaluation gateway endpoint preserve) := by
  unfold PortForwardLeaseReconciler.drainStatus
  dsimp only
  split
  · exact .draining rt gateway endpoint reason _ rfl hgateway hactive hreason (Or.inl rfl) rfl rfl
  next port hport =>
  split
  · exact .draining rt gateway endpoint reason _ rfl hgateway hactive hreason
      (Or.inr ⟨port, rfl⟩) rfl rfl
  next hanswer =>
  have hconfirmed : Confirmed r api.now
      (drainWithdrawal lease evaluation gateway endpoint port)
      (rt.withdraw gateway (drainWithdrawal lease evaluation gateway endpoint port)) := by
    obtain ⟨herr, hcurrent⟩ := not_or.mp hanswer
    refine ⟨?_, ?_⟩
    · simpa using herr
    · simpa using hcurrent
  split
  · exact .withdrawn rt gateway endpoint reason port _ rfl hgateway hactive hreason rfl
      hconfirmed (Or.inl ⟨rfl, rfl⟩)
  refine .withdrawn rt gateway endpoint reason port _ rfl hgateway hactive hreason rfl
    hconfirmed (Or.inr ?_)
  cases hselected : evaluation.selected with
  | none => exact Or.inl ⟨rfl, rfl⟩
  | some candidate =>
    cases hready : evaluation.gatewayReady with
    | false => exact Or.inl ⟨rfl, rfl⟩
    | true => exact Or.inr ⟨candidate, rfl, rfl, rfl, rfl⟩

theorem applyObservation_activeEndpoint (lease : PortForwardLease) (status : PortForwardLeaseStatus)
    (states : States) (observation : Observation) (now : Time) :
    (applyObservation lease status states observation now).1.activeEndpoint = status.activeEndpoint ∨
      (applyObservation lease status states observation now).1.activeEndpoint =
        status.activeEndpoint.map fun endpoint => { endpoint with phase := .active } := by
  unfold applyObservation
  dsimp only
  split
  · exact Or.inr rfl
  · exact Or.inl rfl

/-- INTERNAL: what programming a target can do.
SOURCE: portforward/controller.go:229-256 -/
theorem programStatus_statusCase (hgateway : evaluation.gateway = some gateway)
    (hactive : lease.status.activeEndpoint = some endpoint)
    (hselected : evaluation.selected = some candidate)
    (hreason : handoffDrainReason (some endpoint) evaluation = none) :
    StatusCase r (some rt) api lease evaluation
      (r.programStatus rt api lease evaluation gateway endpoint candidate) := by
  have hphase : (if endpoint.phase = .active then EndpointHandoffPhase.active else .selecting) ≠
      .draining := by
    split <;> simp
  unfold PortForwardLeaseReconciler.programStatus
  dsimp only
  split
  · exact .programmed rt gateway endpoint candidate _ _ rfl hgateway hactive hselected hreason
      (Or.inl rfl) hphase rfl rfl
  next port hport =>
  split
  · exact .programmed rt gateway endpoint candidate _ _ rfl hgateway hactive hselected hreason
      (Or.inr ⟨port, hport, rfl⟩) hphase rfl rfl
  · -- an exact observation keeps the endpoint or makes it active
    rcases applyObservation_activeEndpoint lease
        { carriedStatus lease with
          activeEndpoint := some (endpointFor candidate
            (if endpoint.phase = .active then .active else .selecting)) }
        evaluation.states
        (rt.reconcile gateway (programIntent lease evaluation gateway candidate port)).1 api.now
      with hsame | hactivated
    · exact .programmed rt gateway endpoint candidate _ _ rfl hgateway hactive hselected hreason
        (Or.inr ⟨port, hport, rfl⟩) hphase rfl hsame
    · exact .programmed rt gateway endpoint candidate .active _ rfl hgateway hactive hselected
        hreason (Or.inr ⟨port, hport, rfl⟩) (by simp) rfl hactivated

/-- INTERNAL: **the inversion of `runtimeStatus`.**
SOURCE: portforward/controller.go:182-257 -/
theorem runtimeStatus_statusCase (r : PortForwardLeaseReconciler) (runtime : Option Runtime)
    (api : ApiView) (lease : PortForwardLease) (evaluation : LeaseEvaluation) :
    StatusCase r runtime api lease evaluation (r.runtimeStatus runtime api lease evaluation) := by
  unfold PortForwardLeaseReconciler.runtimeStatus
  dsimp only
  split
  · next heligible =>
    cases runtime with
    | none => exact .idle _ rfl rfl rfl
    | some rt =>
      obtain ⟨gateway, hgateway⟩ :=
        Option.isSome_iff_exists.mp (evaluation.eligible_gateway heligible)
      have hget : evaluation.gateway.get (evaluation.eligible_gateway heligible) = gateway := by
        simp [hgateway]
      dsimp only
      rw [hget]
      cases hactive : lease.status.activeEndpoint with
      | none =>
        cases hselected : evaluation.selected with
        | none => exact .idle _ rfl rfl hactive.symm
        | some candidate => exact .selected candidate _ rfl hactive hselected rfl rfl
      | some endpoint =>
        dsimp only
        cases hreason : handoffDrainReason (some endpoint) evaluation with
        | some =>
          cases evaluation.selected <;>
            exact drainStatus_statusCase hgateway hactive hreason _
        | none =>
          obtain ⟨candidate, hselected, -⟩ := handoffDrainReason_none hreason
          rw [hselected]
          exact programStatus_statusCase hgateway hactive hselected hreason
  · exact .idle _ rfl rfl rfl

/-! ## Evaluation -/

theorem select_mem {candidates : List Candidate} {current : Option ActiveLeaseEndpoint}
    (h : select candidates current = some candidate) : candidate ∈ candidates := by
  unfold select at h
  split at h
  · next found hfound =>
    cases h
    obtain ⟨endpoint, -, hfind⟩ := Option.bind_eq_some_iff.mp hfound
    exact List.mem_of_find?_eq_some hfind
  · have hmem := List.mem_of_mem_head? h
    exact (List.mem_insertionSort candidateLE).mp hmem

/-- INTERNAL: what the adapter part of an evaluation can do: only the condition states, the
adapter's readiness and the port mode change. -/
theorem evaluateAdapter_eq (lease : PortForwardLease) (api : ApiView) (gateway : VPNGateway)
    (evaluation : LeaseEvaluation) :
    ∃ states ready assigned, evaluateAdapter lease api gateway evaluation =
      { evaluation with
        states := states, adapterReady := ready, providerAssignedApplicationPort := assigned } := by
  fun_cases evaluateAdapter lease api gateway evaluation <;> exact ⟨_, _, _, rfl⟩

theorem evaluateAdapter_selected (lease : PortForwardLease) (api : ApiView) (gateway : VPNGateway)
    (evaluation : LeaseEvaluation) :
    (evaluateAdapter lease api gateway evaluation).selected = evaluation.selected := by
  obtain ⟨states, ready, assigned, heq⟩ := evaluateAdapter_eq lease api gateway evaluation
  rw [heq]

theorem evaluateAdapter_adapterRequired (lease : PortForwardLease) (api : ApiView)
    (gateway : VPNGateway) (evaluation : LeaseEvaluation) :
    (evaluateAdapter lease api gateway evaluation).adapterRequired = evaluation.adapterRequired := by
  obtain ⟨states, ready, assigned, heq⟩ := evaluateAdapter_eq lease api gateway evaluation
  rw [heq]

/-- INTERNAL: an adapter is ready only as the API answered for it, and then decides the port mode.
SOURCE: portforward/controller.go:162-179 -/
theorem evaluateAdapter_ready {name : ObjectName}
    (href : lease.spec.applicationAdapterRef = some name) (hbase : evaluation.adapterReady = false)
    (hready : (evaluateAdapter lease api gateway evaluation).adapterReady = true) :
    ∃ adapter, api.adapter name = .ok adapter ∧
      (evaluateAdapter lease api gateway evaluation).providerAssignedApplicationPort =
        adapter.supportedFeatures.contains providerAssignedApplicationPortFeature := by
  unfold evaluateAdapter at hready ⊢
  simp only [href] at hready ⊢
  by_cases hfeature : hasGatewayFeature gateway featureWorkloadAdapter = false
  · simp [hfeature, hbase] at hready
  cases hadapter : api.adapter name with
  | error err => simp [hfeature, hadapter, hbase] at hready
  | ok adapter =>
    by_cases hcurrent :
        currentTrue adapter.conditions .ready adapter.observedGeneration adapter.generation = false
    · simp [hfeature, hadapter, hcurrent, hbase] at hready
    · exact ⟨adapter, rfl, by simp [hfeature, hcurrent]⟩

/-- The reference of a lease is permitted and resolves to the gateway. -/
def ResolvesTo (api : ApiView) (gateway : VPNGateway) : Prop :=
  ∃ resolution, api.resolveGateway = .ok resolution ∧ resolution.permitted = true ∧
    resolution.gateway = some gateway

/-- The condition states of a lease whose gateway accepts it, before its backend is known.
SOURCE: portforward/controller.go:130 -/
def acceptedStates (lease : PortForwardLease) : States :=
  (pendingLeaseStates lease.spec.applicationAdapterRef.isNone).set .accepted
    (.true .accepted "Lease intent is accepted")

/-- INTERNAL: an evaluation that selects an endpoint reached the backend of the resolved gateway.
SOURCE: portforward/controller.go:99-133 -/
theorem evaluate_backend (hselected : (evaluate lease api).selected = some candidate) :
    ∃ gateway, ResolvesTo api gateway ∧
      evaluate lease api = evaluateBackend lease api gateway
        (resolvedEvaluation lease gateway (acceptedStates lease) (gatewayReady gateway)) := by
  revert hselected
  fun_cases evaluate lease api with
  | case6 _ resolution hresolve hpermitted gateway hgateway =>
    exact fun _ => ⟨gateway, ⟨resolution, hresolve, by simpa using hpermitted, hgateway⟩, rfl⟩
  | _ => nofun

theorem evaluate_gateway (h : (evaluate lease api).gateway = some gateway) :
    ∃ resolution, api.resolveGateway = .ok resolution ∧ resolution.gateway = some gateway := by
  have hbackend : ∀ (resolved : VPNGateway) (base : LeaseEvaluation),
      (evaluateBackend lease api resolved base).gateway = base.gateway := by
    intro resolved base
    fun_cases evaluateBackend lease api resolved base with
    | case3 _ _ selected =>
      obtain ⟨states, ready, assigned, heq⟩ :=
        evaluateAdapter_eq lease api resolved { base with selected := some selected }
      rw [heq]
    | _ => rfl
  revert h
  fun_cases evaluate lease api with
  | case1 | case2 | case3 => nofun
  | case4 _ _ resolution hresolve _ _ hresolved | case5 _ _ resolution hresolve _ _ hresolved =>
    exact fun hsame => ⟨resolution, hresolve, hresolved.trans hsame⟩
  | case6 _ resolution hresolve _ _ hresolved =>
    rw [hbackend]
    exact fun hsame => ⟨resolution, hresolve, hresolved.trans hsame⟩

/-- INTERNAL: an evaluation that selects an available endpoint found it among the candidates of the
resolved gateway, and went on to the adapter.
SOURCE: portforward/controller.go:134-158 -/
theorem evaluate_selected (hselected : (evaluate lease api).selected = some candidate)
    (hawake : (evaluate lease api).backendSuspended = false) :
    ∃ gateway backend, ResolvesTo api gateway ∧ api.resolveBackend gateway = .ok backend ∧
      candidate ∈ backend.candidates ∧
      evaluate lease api = evaluateAdapter lease api gateway
        { resolvedEvaluation lease gateway (acceptedStates lease) (gatewayReady gateway) with
          selected := some candidate } := by
  obtain ⟨gateway, hto, hbackend⟩ := evaluate_backend hselected
  rw [hbackend] at hselected hawake ⊢
  revert hselected hawake
  fun_cases evaluateBackend lease api gateway
    (resolvedEvaluation lease gateway (acceptedStates lease) (gatewayReady gateway)) with
  | case3 backend hresolve found hfound =>
    intro _ hselected
    obtain rfl : found = candidate := by
      rw [evaluateAdapter_selected] at hselected
      exact Option.some.inj hselected
    exact ⟨gateway, backend, hto, hresolve, select_mem hfound, rfl⟩
  -- the remaining branches select nothing, or a suspended endpoint
  | case4 => nofun
  | _ => exact fun _ => nofun

/-- INTERNAL: a selected endpoint, suspended or not, is one the resolver answered.
SOURCE: portforward/controller.go:134-158 -/
theorem evaluate_candidate (hselected : (evaluate lease api).selected = some candidate) :
    ∃ gateway backend, api.resolveBackend gateway = .ok backend ∧
      (candidate ∈ backend.candidates ∨ candidate ∈ backend.unavailableCandidates) := by
  obtain ⟨gateway, -, hbackend⟩ := evaluate_backend hselected
  rw [hbackend] at hselected
  revert hselected
  fun_cases evaluateBackend lease api gateway
    (resolvedEvaluation lease gateway (acceptedStates lease) (gatewayReady gateway)) with
  | case3 backend hresolve found hfound =>
    rw [evaluateAdapter_selected]
    rintro ⟨⟩
    exact ⟨gateway, backend, hresolve, Or.inl (select_mem hfound)⟩
  | case4 backend hresolve _ _ _ _ hsuspended =>
    rintro ⟨⟩
    exact ⟨gateway, backend, hresolve, Or.inr (select_mem hsuspended)⟩
  | _ => nofun

/-! ## Reconcile -/

/-- What a reconcile can do, and when. -/
inductive ControllerCase (r : PortForwardLeaseReconciler) (runtime : Option Runtime) (api : ApiView)
    (lease : PortForwardLease) : ControllerResult → Prop
  /-- a deletion: at most a releasing withdrawal and a finalizer write -/
  | cleanup (deletedAt : Time) (result : ControllerResult)
      (hdeleted : lease.deletionTimestamp = some deletedAt)
      (hsent : result.sent = none ∨ ∃ rt gateway port, runtime = some rt ∧
        PortForwardLeaseReconciler.cleanupGateway api lease = .ok gateway ∧
        result.sent = some (.withdraw gateway (cleanupIntent lease gateway port)
          (rt.withdraw gateway (cleanupIntent lease gateway port))))
      (hwrite : ∀ status, result.write ≠ some (.status status)) :
      ControllerCase r runtime api lease result
  /-- the cleanup finalizer is installed first -/
  | finalizer (result : ControllerResult) (hlive : lease.deletionTimestamp = none)
      (hsent : result.sent = none) (hwrite : ∀ status, result.write ≠ some (.status status)) :
      ControllerCase r runtime api lease result
  /-- the status is computed and written if it differs -/
  | status (outcome : StatusOutcome) (result : ControllerResult)
      (hlive : lease.deletionTimestamp = none)
      (hcase : StatusCase r runtime api lease (evaluate lease api) outcome)
      (hsent : result.sent = outcome.sent)
      (hwrite : (result.write = none ∧ lease.status = outcome.status) ∨
        result.write = some (.status outcome.status)) :
      ControllerCase r runtime api lease result

theorem cleanupWithdrawal_sent (r : PortForwardLeaseReconciler) (runtime : Option Runtime)
    (api : ApiView) (lease : PortForwardLease) :
    (r.cleanupWithdrawal runtime api lease).1 = none ∨ ∃ rt gateway port, runtime = some rt ∧
      PortForwardLeaseReconciler.cleanupGateway api lease = .ok gateway ∧
      (r.cleanupWithdrawal runtime api lease).1 =
        some (.withdraw gateway (cleanupIntent lease gateway port)
          (rt.withdraw gateway (cleanupIntent lease gateway port))) := by
  unfold PortForwardLeaseReconciler.cleanupWithdrawal
  dsimp only
  split
  · next gateway rt reservation hgateway hrecover =>
    split
    · exact Or.inl rfl
    · exact Or.inr ⟨rt, gateway, reservation.port, rfl, hgateway, rfl⟩
  · exact Or.inl rfl

/-- INTERNAL: **when a deletion sends a withdrawal, and which**: a gateway is found, and exactly one
reservation.
SOURCE: portforward/controller.go:401-416 -/
theorem cleanupWithdrawal_eq_some {sent : Sent} :
    (r.cleanupWithdrawal runtime api lease).1 = some sent ↔ ∃ rt gateway reservation,
      runtime = some rt ∧ PortForwardLeaseReconciler.cleanupGateway api lease = .ok gateway ∧
      api.recover = .ok reservation ∧ gateway.uid ≠ "" ∧
      sent = .withdraw gateway (cleanupIntent lease gateway reservation.port)
        (rt.withdraw gateway (cleanupIntent lease gateway reservation.port)) := by
  unfold PortForwardLeaseReconciler.cleanupWithdrawal
  dsimp only
  split
  · next gateway rt reservation hgateway hrecover =>
    split
    · next hempty =>
      simp only [reduceCtorEq, false_iff]
      rintro ⟨rt', gateway', reservation', -, hgateway', -, hne, -⟩
      cases hgateway.symm.trans hgateway'
      exact hne hempty
    · next hne =>
      constructor
      · intro h
        exact ⟨rt, gateway, reservation, rfl, hgateway, hrecover, hne, (Option.some.inj h).symm⟩
      rintro ⟨rt', gateway', reservation', hrt, hgateway', hrecover', -, rfl⟩
      cases hrt
      cases hgateway.symm.trans hgateway'
      cases hrecover.symm.trans hrecover'
      rfl
  · next hnot =>
    simp only [reduceCtorEq, false_iff]
    rintro ⟨rt, gateway, reservation, hrt, hgateway, hrecover, -, -⟩
    exact hnot gateway rt reservation hgateway hrt hrecover

theorem cleanup_sent (r : PortForwardLeaseReconciler) (api : ApiView) (lease : PortForwardLease)
    (runtime : Option Runtime) (deletedAt : Time) :
    (r.cleanup runtime api lease deletedAt).sent =
      if lease.finalizers.contains providerCleanupFinalizer = false then none
      else (r.cleanupWithdrawal runtime api lease).1 := by
  unfold PortForwardLeaseReconciler.cleanup
  dsimp only
  split
  · rfl
  split
  · rfl
  split <;> rfl

theorem reconcile_deleting_sent {deletedAt : Time}
    (hdeleted : lease.deletionTimestamp = some deletedAt) :
    (r.reconcile runtime api lease).sent =
      if lease.finalizers.contains providerCleanupFinalizer = false then none
      else (r.cleanupWithdrawal runtime api lease).1 := by
  unfold PortForwardLeaseReconciler.reconcile
  rw [hdeleted]
  exact cleanup_sent r api lease runtime deletedAt

/-- INTERNAL: **the inversion of the controller's `Reconcile`.**
SOURCE: portforward/controller.go:55-83 -/
theorem reconcile_controllerCase (r : PortForwardLeaseReconciler) (runtime : Option Runtime)
    (api : ApiView) (lease : PortForwardLease) :
    ControllerCase r runtime api lease (r.reconcile runtime api lease) := by
  unfold PortForwardLeaseReconciler.reconcile
  cases hdeleted : lease.deletionTimestamp with
  | some deletedAt =>
    dsimp only
    have hsent := cleanupWithdrawal_sent r runtime api lease
    unfold PortForwardLeaseReconciler.cleanup
    dsimp only
    split
    · exact .cleanup deletedAt _ hdeleted (Or.inl rfl) (by simp [ControllerResult.done])
    split
    · exact .cleanup deletedAt _ hdeleted hsent (by simp [ControllerResult.done])
    split
    · exact .cleanup deletedAt _ hdeleted hsent (by simp [ControllerResult.done])
    · exact .cleanup deletedAt _ hdeleted hsent (by simp)
  | none =>
    dsimp only
    split
    · exact .finalizer _ hdeleted rfl (by simp)
    refine .status _ _ hdeleted
      (runtimeStatus_statusCase r runtime api lease (evaluate lease api)) rfl ?_
    dsimp only
    split
    · next hsame => exact Or.inl ⟨rfl, hsame⟩
    · exact Or.inr rfl

/-! ## What is sent and written -/

/-- The reconcile obtained an exact and fresh `Withdrawn` for the persisted generation and Pod UID.
SOURCE: portforward/controller.go:331-332 -/
def ObtainedWithdrawn (r : PortForwardLeaseReconciler) (now : Time) (lease : PortForwardLease)
    (sent : Option Sent) : Prop :=
  ∃ endpoint gateway intent answer, lease.status.activeEndpoint = some endpoint ∧
    sent = some (.withdraw gateway intent answer) ∧ Confirmed r now intent answer ∧
    intent.handoffGeneration = lease.status.handoffGeneration ∧ intent.podUID = endpoint.podUID

/-- INTERNAL: the withdrawal of a drain names the persisted generation and Pod.
SOURCE: portforward/runtime.go:95-110 -/
theorem drainWithdrawal_podUID {port : UInt16}
    (hactive : lease.status.activeEndpoint = some endpoint) :
    (drainWithdrawal lease evaluation gateway endpoint port).podUID = endpoint.podUID := by
  simp [drainWithdrawal, withdrawalFor, hactive]

/-- INTERNAL: **a written status keeps the generation and the target, or gives the target up, or
moves to the next generation**; it gives up or moves on only from no target or after a confirmed
withdrawal.
SOURCE: portforward/controller.go:182-355 -/
theorem statusCase_written (h : StatusCase r runtime api lease evaluation o) :
    (o.status.handoffGeneration = lease.status.handoffGeneration ∧
      ((o.status.activeEndpoint = none ∧ (lease.status.activeEndpoint = none ∨
          ObtainedWithdrawn r api.now lease o.sent)) ∨
        ∃ endpoint endpoint', lease.status.activeEndpoint = some endpoint ∧
          o.status.activeEndpoint = some endpoint' ∧ endpoint'.serviceUID = endpoint.serviceUID ∧
          endpoint'.podUID = endpoint.podUID)) ∨
    (o.status.handoffGeneration = lease.status.handoffGeneration + 1 ∧
      (∃ candidate, evaluation.selected = some candidate ∧
        o.status.activeEndpoint = some (endpointFor candidate .selecting)) ∧
      (lease.status.activeEndpoint = none ∨ ObtainedWithdrawn r api.now lease o.sent)) := by
  cases h with
  | idle _ hsent hgeneration hendpoint =>
    refine Or.inl ⟨hgeneration, ?_⟩
    cases hactive : lease.status.activeEndpoint with
    | none => exact Or.inl ⟨hendpoint.trans hactive, Or.inl rfl⟩
    | some endpoint => exact Or.inr ⟨endpoint, endpoint, rfl, hendpoint.trans hactive, rfl, rfl⟩
  | selected candidate _ hsent hnone hselected hgeneration hendpoint =>
    exact Or.inr ⟨hgeneration, ⟨candidate, hselected, hendpoint⟩, Or.inl hnone⟩
  | draining _ _ endpoint _ _ _ _ hactive _ _ hgeneration hendpoint =>
    exact Or.inl ⟨hgeneration, Or.inr ⟨endpoint, _, hactive, hendpoint, rfl, rfl⟩⟩
  | withdrawn rt gateway endpoint reason port _ hruntime hgateway hactive hreason hsent hconfirmed
      hstatus =>
      have hobtained : ObtainedWithdrawn r api.now lease o.sent :=
        ⟨endpoint, gateway, _, _, hactive, hsent, hconfirmed, rfl, drainWithdrawal_podUID hactive⟩
      rcases hstatus with ⟨hgeneration, hendpoint⟩ | ⟨hgeneration, hendpoint⟩ |
        ⟨candidate, hselected, -, hgeneration, hendpoint⟩
      · exact Or.inl ⟨hgeneration, Or.inr ⟨endpoint, _, hactive, hendpoint, rfl, rfl⟩⟩
      · exact Or.inl ⟨hgeneration, Or.inl ⟨hendpoint, Or.inr hobtained⟩⟩
      · exact Or.inr ⟨hgeneration, ⟨candidate, hselected, hendpoint⟩, Or.inr hobtained⟩
  | programmed rt gateway endpoint candidate phase _ hruntime hgateway hactive hselected hreason hsent
      hphase hgeneration hendpoint =>
      obtain ⟨candidate', hselected', hservice, hpod⟩ := handoffDrainReason_none hreason
      rw [hselected] at hselected'
      cases hselected'
      exact Or.inl ⟨hgeneration, Or.inr ⟨endpoint, _, hactive, hendpoint, hservice.symm, hpod.symm⟩⟩

theorem reconcile_written {status : PortForwardLeaseStatus}
    (h : (r.reconcile runtime api lease).write = some (.status status)) :
    lease.deletionTimestamp = none ∧ ∃ outcome, outcome.status = status ∧
      (r.reconcile runtime api lease).sent = outcome.sent ∧
      StatusCase r runtime api lease (evaluate lease api) outcome := by
  have hcase := reconcile_controllerCase r runtime api lease
  generalize r.reconcile runtime api lease = result at hcase h
  cases hcase with
  | cleanup _ _ _ _ hwrite | finalizer _ _ _ hwrite => exact absurd h (hwrite status)
  | status outcome _ hlive hstatus hsent hwrite =>
    rcases hwrite with ⟨hnone, -⟩ | hwrite
    · rw [hnone] at h
      cases h
    · rw [hwrite] at h
      cases h
      exact ⟨hlive, outcome, rfl, hsent, hstatus⟩

/-- What a reconcile can send, and when. -/
inductive SentCase (runtime : Option Runtime) (api : ApiView) (lease : PortForwardLease) :
    Option Sent → Prop
  | nothing : SentCase runtime api lease none
  /-- the withdrawal of a deletion -/
  | cleanup (rt : Runtime) (gateway : VPNGateway) (port : UInt16) (hruntime : runtime = some rt)
      (hdeleted : lease.deletionTimestamp ≠ none)
      (hgateway : PortForwardLeaseReconciler.cleanupGateway api lease = .ok gateway) :
      SentCase runtime api lease (some (.withdraw gateway (cleanupIntent lease gateway port)
        (rt.withdraw gateway (cleanupIntent lease gateway port))))
  /-- the withdrawal of a drain -/
  | drain (rt : Runtime) (gateway : VPNGateway) (endpoint : ActiveLeaseEndpoint)
      (reason : DrainReason) (port : UInt16) (hruntime : runtime = some rt)
      (hgateway : (evaluate lease api).gateway = some gateway)
      (hactive : lease.status.activeEndpoint = some endpoint)
      (hreason : handoffDrainReason (some endpoint) (evaluate lease api) = some reason) :
      SentCase runtime api lease (some (.withdraw gateway
        (drainWithdrawal lease (evaluate lease api) gateway endpoint port)
        (rt.withdraw gateway (drainWithdrawal lease (evaluate lease api) gateway endpoint port))))
  | program (rt : Runtime) (gateway : VPNGateway) (endpoint : ActiveLeaseEndpoint)
      (candidate : Candidate) (port : UInt16)
      (hgateway : (evaluate lease api).gateway = some gateway)
      (hactive : lease.status.activeEndpoint = some endpoint)
      (hselected : (evaluate lease api).selected = some candidate)
      (hreason : handoffDrainReason (some endpoint) (evaluate lease api) = none)
      (hreserve : api.reserve gateway = .ok port) :
      SentCase runtime api lease (some (.reconcile gateway
        (programIntent lease (evaluate lease api) gateway candidate port)
        (rt.reconcile gateway (programIntent lease (evaluate lease api) gateway candidate port))))

theorem statusCase_sentCase (h : StatusCase r runtime api lease (evaluate lease api) o) :
    SentCase runtime api lease o.sent := by
  cases h with
  | idle _ hsent =>
    rw [hsent]
    exact .nothing
  | selected _ _ hsent =>
    rw [hsent]
    exact .nothing
  | draining rt gateway endpoint reason _ hruntime hgateway hactive hreason hsent hgeneration
      hendpoint =>
      rcases hsent with hsent | ⟨port, hsent⟩
      · rw [hsent]
        exact .nothing
      · rw [hsent]
        exact .drain rt gateway endpoint reason port hruntime hgateway hactive hreason
  | withdrawn rt gateway endpoint reason port _ hruntime hgateway hactive hreason hsent hconfirmed
      hstatus =>
      rw [hsent]
      exact .drain rt gateway endpoint reason port hruntime hgateway hactive hreason
  | programmed rt gateway endpoint candidate phase _ hruntime hgateway hactive hselected hreason hsent
      hphase hgeneration hendpoint =>
      rcases hsent with hsent | ⟨port, hreserve, hsent⟩
      · rw [hsent]
        exact .nothing
      · rw [hsent]
        exact .program rt gateway endpoint candidate port hgateway hactive hselected hreason hreserve

/-- INTERNAL: **the inversion of what a reconcile sends.**
SOURCE: portforward/controller.go:229-248, 312-331, 401-412 -/
theorem reconcile_sentCase (r : PortForwardLeaseReconciler) (runtime : Option Runtime)
    (api : ApiView) (lease : PortForwardLease) :
    SentCase runtime api lease (r.reconcile runtime api lease).sent := by
  have hcase := reconcile_controllerCase r runtime api lease
  generalize r.reconcile runtime api lease = result at hcase
  cases hcase with
  | cleanup _ _ hdeleted hsent =>
    rcases hsent with hsent | ⟨rt, gateway, port, hruntime, hgateway, hsent⟩
    · rw [hsent]
      exact .nothing
    · rw [hsent]
      exact .cleanup rt gateway port hruntime (by simp [hdeleted]) hgateway
  | finalizer _ _ hsent =>
    rw [hsent]
    exact .nothing
  | status _ _ _ hstatus hsent =>
    rw [hsent]
    exact statusCase_sentCase hstatus

/-- INTERNAL: **a programming intent names the persisted target.**
SOURCE: portforward/controller.go:229-248 -/
theorem reconcile_sent {intent : Intent}
    (h : (r.reconcile runtime api lease).sent = some (.reconcile gateway intent answer)) :
    ∃ endpoint candidate port, lease.status.activeEndpoint = some endpoint ∧
      (evaluate lease api).selected = some candidate ∧
      (evaluate lease api).gateway = some gateway ∧ api.reserve gateway = .ok port ∧
      handoffDrainReason (some endpoint) (evaluate lease api) = none ∧
      intent = programIntent lease (evaluate lease api) gateway candidate port := by
  have hcase := reconcile_sentCase r runtime api lease
  rw [h] at hcase
  cases hcase with
  | program rt _ endpoint candidate port hgateway hactive hselected hreason hreserve =>
    exact ⟨endpoint, candidate, port, hactive, hselected, hgateway, hreserve, hreason, rfl⟩

/-- INTERNAL: **a withdrawal names the stored generation**, and belongs to a deletion or to the drain
of the stored endpoint.
SOURCE: portforward/controller.go:312-330, 384-412 -/
theorem reconcile_withdraws {intent : WithdrawalIntent}
    (h : (r.reconcile runtime api lease).sent = some (.withdraw gateway intent answer)) :
    (intent.leaseUID = lease.uid ∧ intent.handoffGeneration = lease.status.handoffGeneration ∧
      intent.adapterName = lease.spec.applicationAdapterRef.getD "") ∧
    (∃ rt, runtime = some rt ∧ answer = rt.withdraw gateway intent) ∧
    ((lease.deletionTimestamp ≠ none ∧
        PortForwardLeaseReconciler.cleanupGateway api lease = .ok gateway) ∨
      ((evaluate lease api).gateway = some gateway ∧ ∃ endpoint reason,
        lease.status.activeEndpoint = some endpoint ∧
        handoffDrainReason (some endpoint) (evaluate lease api) = some reason)) := by
  have hcase := reconcile_sentCase r runtime api lease
  rw [h] at hcase
  cases hcase with
  | cleanup rt _ port hruntime hdeleted hgateway =>
    exact ⟨⟨rfl, rfl, rfl⟩, ⟨rt, hruntime, rfl⟩, Or.inl ⟨hdeleted, hgateway⟩⟩
  | drain rt _ endpoint reason port hruntime hgateway hactive hreason =>
    exact ⟨⟨rfl, rfl, rfl⟩, ⟨rt, hruntime, rfl⟩,
      Or.inr ⟨hgateway, endpoint, reason, hactive, hreason⟩⟩

/-! ## A sample lease

The concrete runs of the analysis use one lease, whose backend is whatever the `ApiView`
answers, and gateways that differ in their UID and readiness. -/

def sampleCondition (type : ConditionType) : Condition :=
  { type, status := .true, reason := .accepted, message := "", observedGeneration := 1
    lastTransitionTime := 0 }

def sampleGateway (uid : ObjectUID) (ready : Bool) : VPNGateway :=
  { namespaceName := "vpn", name := "gateway", uid, generation := 1, observedGeneration := 1
    supportedFeatures := [featurePortForwardSingleActive, featureWorkloadAdapter]
    conditions := sampleCondition .accepted :: if ready then [sampleCondition .ready] else [] }

def sampleCandidate (podUID : ObjectUID) : Candidate :=
  { serviceUID := "service", endpointSliceUID := "slice", podName := podUID, podUID
    bindingName := "binding", bindingUID := "binding", overlayAddress := .v4 0x0a000002#32
    applicationAddress := .v4 0x0a000003#32, targetPort := 8080 }

/-- A view at one instant in which every lookup succeeds. -/
def sampleApi (gateway : VPNGateway) (candidates : List Candidate) (now : Time) : ApiView :=
  { resolveGateway := .ok { permitted := true, gateway := some gateway }
    resolveBackend := fun _ => .ok { candidates, unavailableCandidates := [] }
    adapter := fun _ => .ok
      { generation := 1, observedGeneration := 1, supportedFeatures := []
        conditions := [sampleCondition .ready] }
    reserve := fun _ => .ok 49152
    gateway := .ok gateway
    recover := .ok { gatewayUID := gateway.uid, gatewayNamespace := "vpn", port := 49152 }
    quarantine := fun _ _ => none
    now }

/-- A lease that no reconcile has written, with the cleanup finalizer in place. -/
def sampleLease (adapter : Option ObjectName) : PortForwardLease :=
  { namespaceName := "media", name := "lease", uid := "lease", generation := 1
    deletionTimestamp := none, finalizers := [providerCleanupFinalizer]
    spec :=
      { gatewayRef := { namespaceName := "vpn", name := "gateway" }
        backendRef := { group := "", kind := "Service", name := "service", port := .int 8080 }
        protocols := [.tcp], applicationAdapterRef := adapter }
    status := .empty }

def sampleReconciler : PortForwardLeaseReconciler :=
  { configuredFreshness := 0, configuredCleanupTimeout := 0 }

/-- A runtime that answers nothing but confirms withdrawals. -/
def confirmingRuntime (now : Time) : Runtime :=
  { reconcile := fun _ _ => (Observation.empty, some "unavailable")
    withdraw := fun _ intent =>
      ({ Observation.empty with
          apiVersion := runtimeAPIVersion, leaseUID := intent.leaseUID
          gatewayUID := intent.gatewayUID, handoffGeneration := intent.handoffGeneration
          podUID := intent.podUID, observedAt := now, withdrawn := true }, none)
    quarantine := fun _ _ _ => none }

end Waycloak.Interface
