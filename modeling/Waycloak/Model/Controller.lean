import Waycloak.Model.Runtime

/-!
# The lease controller

`PortForwardLeaseReconciler.Reconcile` reads one lease, evaluates its references, makes at
most one call to a gateway runtime, and writes at most once: the finalizer list or the
status. It keeps nothing between two reconciles, so a reconcile is a function of the lease
it read, of what the API answers during it (`ApiView`) and of what the runtime answers
(`Runtime`).

The result names the call it made (`Sent`) and the write it asks for (`LeaseWrite`).
Whether the write takes effect is the API server's decision and not part of the reconcile.

One clock reading stands for all of `r.now()` in a reconcile. `Resolver.Resolve` and the
provider port allocator are answers of the `ApiView`. Logging is left out.
-/

set_option autoImplicit false

namespace Waycloak.Model

/-! ## What a reconcile meets -/

/-- SOURCE: reference/gateway.go:21-27 -/
structure GatewayResolution where
  permitted : Bool
  gateway : Option VPNGateway
  deriving DecidableEq

/-- SOURCE: portforward/resolver.go:29-35 -/
inductive ResolutionKind where
  | invalid | notFound | unavailable
  deriving DecidableEq

/-- The two candidate lists of a resolution; nothing reads its Service object.
SOURCE: portforward/resolver.go:64-68 -/
structure Resolution where
  candidates : List Candidate
  unavailableCandidates : List Candidate
  deriving DecidableEq

/-- SOURCE: portforward/allocation.go:46-50 -/
structure ProviderReservationIdentity where
  gatewayUID : ObjectUID
  gatewayNamespace : NamespaceName
  port : UInt16
  deriving DecidableEq

/-- `ErrProviderReservationNotFound`, or any other error of `Recover`. -/
inductive RecoverError where
  | notFound
  | other (text : String)
  deriving DecidableEq

/-- What the API and the allocator answer during one reconcile, and the clock. -/
structure ApiView where
  resolveGateway : Except String GatewayResolution
  resolveBackend : VPNGateway → Except ResolutionKind Resolution
  adapter : ObjectName → Except String WorkloadAdapter
  reserve : VPNGateway → Except String UInt16
  gateway : Except String VPNGateway
  recover : Except RecoverError ProviderReservationIdentity
  quarantine : VPNGateway → Time → Option String
  now : Time

/-- What the gateway runtimes answer during one reconcile.
SOURCE: portforward/runtime.go:89-93 -/
structure Runtime where
  reconcile : VPNGateway → Intent → Observation × Option String
  withdraw : VPNGateway → WithdrawalIntent → Observation × Option String
  quarantine : VPNGateway → WithdrawalIntent → Time → Option String

/-- A call to a gateway runtime, with its answer. -/
inductive Sent where
  | reconcile (gateway : VPNGateway) (intent : Intent) (answer : Observation × Option String)
  | withdraw (gateway : VPNGateway) (intent : WithdrawalIntent) (answer : Observation × Option String)
  deriving DecidableEq

/-- A write to the lease. -/
inductive LeaseWrite where
  | finalizers (finalizers : List String)
  | status (status : PortForwardLeaseStatus)
  deriving DecidableEq

/-- SOURCE: portforward/controller.go:26-32 -/
def defaultObservationFreshness : Duration := 20 * second
def defaultCleanupTimeout : Duration := 10 * minute
def adapterUnavailableMessage : String := "Application adapter reference is unavailable"
def backendUnavailableMessage : String := "Backend binding observation is unavailable"

/-- SOURCE: api/v1beta1/common_types.go:62-63 -/
def featurePortForwardSingleActive : FeatureName :=
  "networking.waycloak.io/PortForwardServiceSingleActive"
def featureWorkloadAdapter : FeatureName := "networking.waycloak.io/WorkloadAdapter"

/-- SOURCE: portforward/controller.go:34-42 -/
def leaseConditionOrder : List ConditionType :=
  [.accepted, .resolvedRefs, .programmed, .ready, .gatewayRulesReady, .delivered, .acknowledged]

/-- The controller's configuration; a duration that is not positive stands for its default.
SOURCE: portforward/controller.go:44-53 -/
structure PortForwardLeaseReconciler where
  configuredFreshness : Duration
  configuredCleanupTimeout : Duration
  deriving DecidableEq

namespace PortForwardLeaseReconciler

variable (r : PortForwardLeaseReconciler)

/-- SOURCE: portforward/controller.go:603-608 -/
def observationFreshness : Duration :=
  if 0 < r.configuredFreshness then r.configuredFreshness else defaultObservationFreshness

/-- SOURCE: portforward/controller.go:610-615 -/
def cleanupTimeout : Duration :=
  if 0 < r.configuredCleanupTimeout then r.configuredCleanupTimeout else defaultCleanupTimeout

/-- An observation is neither older than the freshness nor more than a minute ahead.
SOURCE: portforward/controller.go:456, 460 -/
def fresh (now : Time) (observation : Observation) : Bool :=
  decide (now - r.observationFreshness ≤ observation.observedAt) &&
    decide (observation.observedAt ≤ now + minute)

/-- SOURCE: portforward/controller.go:455-457 -/
def currentObservation (now : Time) (observation : Observation) (intent : Intent) : Bool :=
  exactObservation observation intent && r.fresh now observation

/-- SOURCE: portforward/controller.go:459-461 -/
def currentWithdrawal (now : Time) (observation : Observation) (intent : WithdrawalIntent) : Bool :=
  exactWithdrawal observation intent && r.fresh now observation

end PortForwardLeaseReconciler

/-! ## Condition states -/

/-- SOURCE: portforward/controller.go:475-489 -/
def pendingLeaseStates (noAdapter : Bool) : States := fun type =>
  match type with
  | .accepted => some (.false .invalid "Lease intent is not accepted")
  | .resolvedRefs => some (.false .refNotFound "Lease references are unresolved")
  | .programmed => some (.false .pending "Provider mapping and gateway rules are pending")
  | .ready => some (.false .notReady "SingleActive inbound path is not ready")
  | .gatewayRulesReady => some (.false .gatewayRulesPending "Exact gateway rules are pending")
  | .delivered => some (.false .deliveryPending "Current lease generation delivery is pending")
  | .acknowledged =>
    some (.false .acknowledgementPending
      (if noAdapter then "Current neutral delivery is pending"
        else "Application acknowledgement is pending"))
  | _ => none

/-- SOURCE: portforward/controller.go:491-495 -/
def unknownLeaseStates (states : States) (message : String) : States := fun type =>
  if type ∈ leaseConditionOrder then some (.unknown message) else states type

/-- SOURCE: portforward/controller.go:497-501 -/
def unknownRuntimeStates (states : States) : States := fun type =>
  if type ∈ ([.programmed, .ready, .gatewayRulesReady, .delivered, .acknowledged] :
      List ConditionType) then some (.unknown "Gateway runtime observation is unavailable")
  else states type

/-! ## Evaluation -/

variable (lease : PortForwardLease) (api : ApiView) (gateway : VPNGateway)

/-- SOURCE: portforward/controller.go:503-518 -/
def gatewayAccepted : Bool :=
  currentTrue gateway.conditions .accepted gateway.observedGeneration gateway.generation

def gatewayReady : Bool :=
  currentTrue gateway.conditions .ready gateway.observedGeneration gateway.generation

def hasGatewayFeature (feature : FeatureName) : Bool :=
  gateway.supportedFeatures.contains feature

/-- The order of `Select`: by Pod UID, then by EndpointSlice UID. -/
def candidateLE (a b : Candidate) : Prop :=
  a.podUID < b.podUID ∨ (a.podUID = b.podUID ∧ a.endpointSliceUID ≤ b.endpointSliceUID)

instance : DecidableRel candidateLE := fun a b =>
  inferInstanceAs (Decidable (a.podUID < b.podUID ∨ _))

/-- SOURCE: portforward/resolver.go:280-310 -/
def select (candidates : List Candidate) (current : Option ActiveLeaseEndpoint) : Option Candidate :=
  match current.bind fun endpoint => candidates.find? fun c => c.podUID = endpoint.podUID with
  | some candidate => some candidate
  | none => (candidates.insertionSort candidateLE).head?

/-- What `evaluate` finds out. A lease is runtime-eligible only with a resolved gateway.
`selected` and `hasSelected` of the source are one option.
SOURCE: portforward/controller.go:85-97 -/
structure LeaseEvaluation where
  states : States
  gateway : Option VPNGateway
  selected : Option Candidate
  runtimeEligible : Bool
  gatewayReady : Bool
  adapterRequired : Bool
  adapterReady : Bool
  backendSuspended : Bool
  providerAssignedApplicationPort : Bool
  eligible_gateway : runtimeEligible = true → gateway.isSome = true

/-- The evaluation of a lease whose gateway is not resolved. -/
def unresolvedEvaluation (states : States) : LeaseEvaluation :=
  { states, gateway := none, selected := none, runtimeEligible := false, gatewayReady := false
    adapterRequired := lease.spec.applicationAdapterRef.isSome
    adapterReady := lease.spec.applicationAdapterRef.isNone
    backendSuspended := false, providerAssignedApplicationPort := false
    eligible_gateway := by simp }

/-- The evaluation of a lease on a resolved gateway, before its backend is known.
SOURCE: portforward/controller.go:117-132 -/
def resolvedEvaluation (states : States) (ready : Bool) : LeaseEvaluation :=
  { states, gateway := some gateway, selected := none
    runtimeEligible := lease.status.activeEndpoint.isSome || ready, gatewayReady := ready
    adapterRequired := lease.spec.applicationAdapterRef.isSome
    adapterReady := lease.spec.applicationAdapterRef.isNone
    backendSuspended := false, providerAssignedApplicationPort := false
    eligible_gateway := by simp }

variable (evaluation : LeaseEvaluation)

/-- The adapter part of the evaluation of a selected endpoint.
SOURCE: portforward/controller.go:158-179 -/
def evaluateAdapter : LeaseEvaluation :=
  let resolved := State.true .resolvedRefs "Gateway and exact Service endpoint are resolved"
  match lease.spec.applicationAdapterRef with
  | none => { evaluation with states := evaluation.states.set .resolvedRefs resolved }
  | some name =>
    if hasGatewayFeature gateway featureWorkloadAdapter = false then
      { evaluation with
        states := evaluation.states.set .accepted
          (.false .unsupportedFeature "Gateway does not advertise workload adapters") }
    else
      let unavailable := { evaluation with
        states := evaluation.states.set .resolvedRefs (.false .refNotFound adapterUnavailableMessage) }
      match api.adapter name with
      | .error _ => unavailable
      | .ok adapter =>
        if currentTrue adapter.conditions .ready adapter.observedGeneration adapter.generation = false
        then unavailable
        else { evaluation with
          states := evaluation.states.set .resolvedRefs resolved
          adapterReady := true
          providerAssignedApplicationPort :=
            adapter.supportedFeatures.contains providerAssignedApplicationPortFeature }

/-- The backend part of the evaluation.
SOURCE: portforward/controller.go:134-158 -/
def evaluateBackend : LeaseEvaluation :=
  match api.resolveBackend gateway with
  | .error .unavailable =>
    { evaluation with
      states := (unknownLeaseStates evaluation.states "Backend observation is unavailable").set
        .accepted (.true .accepted "Lease intent is accepted") }
  | .error _ =>
    { evaluation with
      states := evaluation.states.set .resolvedRefs
        (.false .refNotFound "Backend Service or endpoint is unresolved") }
  | .ok backend =>
    match select backend.candidates lease.status.activeEndpoint with
    | some selected =>
      evaluateAdapter lease api gateway { evaluation with selected := some selected }
    | none =>
      let missing := { evaluation with
        states := evaluation.states.set .resolvedRefs
          (.false .refNotFound "No eligible SingleActive Service endpoint is available") }
      match select backend.unavailableCandidates lease.status.activeEndpoint,
          lease.status.activeEndpoint with
      | some suspended, some endpoint =>
        if suspended.serviceUID = endpoint.serviceUID ∧ suspended.podUID = endpoint.podUID then
          { evaluation with
            selected := some suspended
            backendSuspended := true
            states := evaluation.states.set .resolvedRefs
              (.false .refNotFound backendUnavailableMessage) }
        else missing
      | _, _ => missing

/-- SOURCE: portforward/controller.go:99-180 -/
def evaluate : LeaseEvaluation :=
  let states := pendingLeaseStates lease.spec.applicationAdapterRef.isNone
  let resolvedRefs := State.true .resolvedRefs "Gateway reference is resolved"
  match api.resolveGateway with
  | .error _ =>
    unresolvedEvaluation lease
      (unknownLeaseStates states "Gateway reference observation is unavailable")
  | .ok resolution =>
    if resolution.permitted = false then
      unresolvedEvaluation lease
        (states.set .resolvedRefs (.false .refNotPermitted "Gateway reference is not permitted"))
    else match resolution.gateway with
      | none =>
        unresolvedEvaluation lease
          (states.set .resolvedRefs (.false .refNotFound "Gateway reference was not found"))
      | some gateway =>
        if gatewayAccepted gateway = false then
          resolvedEvaluation lease gateway
            ((states.set .accepted (.false .unsupportedClass "Gateway is not accepted")).set
              .resolvedRefs resolvedRefs) false
        else if hasGatewayFeature gateway featurePortForwardSingleActive = false then
          resolvedEvaluation lease gateway
            ((states.set .accepted (.false .unsupportedFeature
              "Gateway does not advertise SingleActive port forwarding")).set
              .resolvedRefs resolvedRefs) false
        else
          evaluateBackend lease api gateway
            (resolvedEvaluation lease gateway
              (states.set .accepted (.true .accepted "Lease intent is accepted"))
              (gatewayReady gateway))

/-! ## Drain decisions -/

/-- SOURCE: portforward/controller.go:288-310 -/
inductive DrainReason where
  | gatewayNotReady | alreadyDraining | backendObservationUnavailable | adapterNotReady
  | backendNotSelected | serviceUIDChanged | podUIDChanged
  deriving DecidableEq

/-- SOURCE: portforward/controller.go:288-310 -/
def handoffDrainReason (current : Option ActiveLeaseEndpoint) (evaluation : LeaseEvaluation) :
    Option DrainReason :=
  match current with
  | none => none
  | some endpoint =>
    if evaluation.gatewayReady = false then some .gatewayNotReady
    else if endpoint.phase = .draining then some .alreadyDraining
    else if evaluation.backendSuspended = true then some .backendObservationUnavailable
    else if evaluation.selected.isSome = true ∧ evaluation.adapterRequired = true ∧
        evaluation.adapterReady = false then some .adapterNotReady
    else match evaluation.selected with
      | none => some .backendNotSelected
      | some selected =>
        if endpoint.serviceUID ≠ selected.serviceUID then some .serviceUIDChanged
        else if endpoint.podUID ≠ selected.podUID then some .podUIDChanged
        else none

/-- The persisted draining endpoint is the selected one, and the persisted `ResolvedRefs` condition
says why it was suspended.
SOURCE: portforward/controller.go:259-286 -/
def suspensionInProgress (message : String) : Bool :=
  match lease.status.activeEndpoint, evaluation.selected with
  | some endpoint, some selected =>
    decide (endpoint.phase = .draining) && evaluation.gatewayReady &&
      decide (endpoint.serviceUID = selected.serviceUID) &&
      decide (endpoint.podUID = selected.podUID) &&
      match findStatusCondition lease.status.conditions .resolvedRefs with
      | some condition =>
        decide (condition.status = .false) && decide (condition.reason = .refNotFound) &&
          decide (condition.message = message)
      | none => false
  | _, _ => false

/-- SOURCE: portforward/controller.go:259-272 -/
def adapterSuspensionInProgress : Bool :=
  evaluation.adapterRequired && suspensionInProgress lease evaluation adapterUnavailableMessage

/-- SOURCE: portforward/controller.go:274-286 -/
def backendSuspensionInProgress : Bool :=
  suspensionInProgress lease evaluation backendUnavailableMessage

/-- SOURCE: portforward/controller.go:215-216 -/
def preserveIdentity (reason : DrainReason) : Bool :=
  match reason with
  | .adapterNotReady => true
  | .backendObservationUnavailable => true
  | .alreadyDraining =>
    adapterSuspensionInProgress lease evaluation || backendSuspensionInProgress lease evaluation
  | _ => false

/-- SOURCE: portforward/controller.go:357-359 -/
def applicationEndpointRetired (current : ActiveLeaseEndpoint) (evaluation : LeaseEvaluation) : Bool :=
  match evaluation.selected with
  | some selected => decide (selected.podUID ≠ current.podUID)
  | none => false

/-- SOURCE: portforward/controller.go:463-465 -/
def endpointFor (candidate : Candidate) (phase : EndpointHandoffPhase) : ActiveLeaseEndpoint :=
  { serviceUID := candidate.serviceUID, endpointSliceUID := candidate.endpointSliceUID
    podUID := candidate.podUID, phase }

/-! ## Runtime requests -/

/-- The withdrawal a drain sends.
SOURCE: portforward/controller.go:318-330 -/
def drainWithdrawal (gateway : VPNGateway)
    (endpoint : ActiveLeaseEndpoint) (port : UInt16) : WithdrawalIntent :=
  { withdrawalFor lease gateway with
    applicationEndpointRetired := applicationEndpointRetired endpoint evaluation
    providerInternalPort := port }

/-- The intent a programming reconcile sends.
SOURCE: portforward/controller.go:233-247 -/
def programIntent (gateway : VPNGateway) (selected : Candidate) (port : UInt16) : Intent :=
  { intentFor lease gateway selected lease.status.handoffGeneration with
    applicationPortMode :=
      if evaluation.providerAssignedApplicationPort then .providerAssigned else .fixed
    providerInternalPort := port }

/-- The withdrawal a deletion sends.
SOURCE: portforward/controller.go:410-412 -/
def cleanupIntent (port : UInt16) : WithdrawalIntent :=
  { withdrawalFor lease gateway with releaseProvider := true, providerInternalPort := port }

/-! ## Status computation -/

/-- The status a reconcile wants, when it looks again, and the runtime call it made. -/
structure StatusOutcome where
  status : PortForwardLeaseStatus
  requeueAfter : Duration
  sent : Option Sent
  deriving DecidableEq

/-- A status with the conditions of `states`, stamped with the lease's generation and time.
SOURCE: portforward/controller.go:192 -/
def withConditions (now : Time) (states : States)
    (status : PortForwardLeaseStatus) : PortForwardLeaseStatus :=
  { status with
    conditions := build lease.status.conditions lease.generation now leaseConditionOrder states }

/-- `PortForwardLeaseStatus{ObservedGeneration, HandoffGeneration}` of a lease. -/
def carriedStatus : PortForwardLeaseStatus :=
  { PortForwardLeaseStatus.empty with
    observedGeneration := lease.generation, handoffGeneration := lease.status.handoffGeneration }

/-- The provider part of an observation is usable at `now`.
SOURCE: portforward/controller.go:362-363 -/
def providerReady (observation : Observation) (now : Time) : Bool :=
  match observation.provider with
  | some provider =>
    provider.publicAddress.isValid && provider.publicAddress.isGlobalUnicast &&
      provider.publicPort != 0 && decide (now < provider.expiresAt)
  | none => false

/-- The endpoint, provider and condition states after an exact observation.
SOURCE: portforward/controller.go:361-382 -/
def applyObservation (status : PortForwardLeaseStatus) (states : States)
    (observation : Observation) (now : Time) : PortForwardLeaseStatus × States :=
  let ready := providerReady observation now
  let rules := observation.gatewayRulesReady && ready
  let delivered := observation.delivered && rules
  let acknowledged :=
    (lease.spec.applicationAdapterRef.isNone || observation.acknowledged) && delivered
  let provider :=
    if ready then
      observation.provider.map fun provider =>
        { publicAddress := provider.publicAddress.string
          publicPort := (provider.publicPort.toNat : Int)
          expiresAt := provider.expiresAt : ProviderMappingStatus }
    else status.provider
  let endpoint :=
    if rules then status.activeEndpoint.map fun endpoint => { endpoint with phase := .active }
    else status.activeEndpoint
  let states := if rules then
      (states.set .gatewayRulesReady
        (.true .gatewayRulesReady "Exact gateway ingress and return-path rules are observed")).set
        .programmed (.true .programmed "Provider mapping and exact gateway rules are programmed")
    else states
  let states := if delivered then
      states.set .delivered (.true .delivered "Current lease generation is delivered")
    else states
  let states := if acknowledged then
      (states.set .acknowledged
        (.true .acknowledged "Current application generation is acknowledged")).set
        .ready (.true .ready "SingleActive inbound path is ready")
    else states
  ({ status with provider, activeEndpoint := endpoint }, states)

namespace PortForwardLeaseReconciler

/-- SOURCE: portforward/controller.go:312-355 -/
def drainStatus (r : PortForwardLeaseReconciler) (runtime : Runtime) (api : ApiView)
    (lease : PortForwardLease) (evaluation : LeaseEvaluation) (gateway : VPNGateway)
    (endpoint : ActiveLeaseEndpoint) (preserve : Bool) : StatusOutcome :=
  let noAdapter := lease.spec.applicationAdapterRef.isNone
  let states : States := fun type =>
    if type = .accepted ∨ type = .resolvedRefs then evaluation.states type
    else pendingLeaseStates noAdapter type
  let draining := { carriedStatus lease with
    activeEndpoint := some { endpoint with phase := .draining } }
  let half := r.observationFreshness / 2
  match api.reserve gateway with
  | .error _ =>
    { status := withConditions lease api.now (unknownRuntimeStates states) draining
      requeueAfter := half, sent := none }
  | .ok port =>
    let withdrawal := drainWithdrawal lease evaluation gateway endpoint port
    let answer := runtime.withdraw gateway withdrawal
    let sent := some (Sent.withdraw gateway withdrawal answer)
    if answer.2.isSome ∨ r.currentWithdrawal api.now answer.1 withdrawal = false then
      { status := withConditions lease api.now (unknownRuntimeStates states) draining
        requeueAfter := half, sent }
    else if preserve then
      { status := withConditions lease api.now states
          { draining with activeEndpoint := some { endpoint with phase := .selecting } }
        requeueAfter := half, sent }
    else
      -- a successor is persisted only while the gateway is ready
      let status := match evaluation.selected, evaluation.gatewayReady with
        | some selected, true =>
          { draining with
            handoffGeneration := lease.status.handoffGeneration + 1
            activeEndpoint := some (endpointFor selected .selecting) }
        | _, _ => { draining with activeEndpoint := none }
      { status := withConditions lease api.now states status
        requeueAfter := millisecond, sent }

/-- The part of `runtimeStatus` that programs a persisted target.
SOURCE: portforward/controller.go:229-256 -/
def programStatus (r : PortForwardLeaseReconciler) (runtime : Runtime) (api : ApiView)
    (lease : PortForwardLease) (evaluation : LeaseEvaluation) (gateway : VPNGateway)
    (endpoint : ActiveLeaseEndpoint) (selected : Candidate) : StatusOutcome :=
  let status := { carriedStatus lease with
    activeEndpoint := some (endpointFor selected
      (if endpoint.phase = .active then .active else .selecting)) }
  match api.reserve gateway with
  | .error _ =>
    { status := withConditions lease api.now (unknownRuntimeStates evaluation.states) status
      requeueAfter := r.observationFreshness, sent := none }
  | .ok port =>
    let intent := programIntent lease evaluation gateway selected port
    let answer := runtime.reconcile gateway intent
    let sent := some (Sent.reconcile gateway intent answer)
    if answer.2.isSome ∨ r.currentObservation api.now answer.1 intent = false then
      { status := withConditions lease api.now (unknownRuntimeStates evaluation.states) status
        requeueAfter := r.observationFreshness, sent }
    else
      let applied := applyObservation lease status evaluation.states answer.1 api.now
      { status := withConditions lease api.now applied.2 applied.1
        requeueAfter := r.observationFreshness / 2, sent }

/-- `runtime` is `none` for a controller without a runtime client.
SOURCE: portforward/controller.go:182-257 -/
def runtimeStatus (r : PortForwardLeaseReconciler) (runtime : Option Runtime) (api : ApiView)
    (lease : PortForwardLease) (evaluation : LeaseEvaluation) : StatusOutcome :=
  let idle (states : States) (status : PortForwardLeaseStatus) : StatusOutcome :=
    { status := withConditions lease api.now states status
      requeueAfter := r.observationFreshness, sent := none }
  let kept := { carriedStatus lease with activeEndpoint := lease.status.activeEndpoint }
  if h : evaluation.runtimeEligible = true then
    match runtime with
    | none =>
      idle (((unknownLeaseStates evaluation.states
          "Gateway runtime observation is unavailable").set
        .accepted (.true .accepted "Lease intent is accepted")).set
        .resolvedRefs (.true .resolvedRefs "Gateway and exact Service endpoint are resolved")) kept
    | some runtime =>
      let gateway := evaluation.gateway.get (evaluation.eligible_gateway h)
      match lease.status.activeEndpoint, evaluation.selected with
      | none, none => idle evaluation.states (carriedStatus lease)
      | none, some selected =>
        { status := withConditions lease api.now evaluation.states
            { carriedStatus lease with
              handoffGeneration := lease.status.handoffGeneration + 1
              activeEndpoint := some (endpointFor selected .selecting) }
          requeueAfter := millisecond, sent := none }
      | some endpoint, selected =>
        match handoffDrainReason (some endpoint) evaluation, selected with
        | some reason, _ =>
          r.drainStatus runtime api lease evaluation gateway endpoint
            (preserveIdentity lease evaluation reason)
        | none, some selected =>
          r.programStatus runtime api lease evaluation gateway endpoint selected
        -- without a selected endpoint there is always a drain reason
        | none, none => idle evaluation.states kept
  else idle evaluation.states kept

end PortForwardLeaseReconciler

/-! ## Reconcile -/

/-- What one reconcile did and asks for. -/
structure ControllerResult where
  sent : Option Sent
  write : Option LeaseWrite
  requeueAfter : Duration
  err : Option String
  deriving DecidableEq

/-- A reconcile that does nothing. -/
def ControllerResult.done : ControllerResult :=
  { sent := none, write := none, requeueAfter := 0, err := none }

namespace PortForwardLeaseReconciler

/-- The gateway a deletion addresses: the referenced one, or the one the reservation names.
SOURCE: portforward/controller.go:388-400 -/
def cleanupGateway (api : ApiView) (lease : PortForwardLease) : Except String VPNGateway :=
  match api.gateway, api.recover with
  | .ok gateway, _ => .ok gateway
  | .error _, .ok reservation =>
    .ok { namespaceName := reservation.gatewayNamespace, name := lease.spec.gatewayRef.name
          uid := reservation.gatewayUID, generation := 0, observedGeneration := 0
          supportedFeatures := [], conditions := [] }
  | .error err, .error _ => .error err

variable (r : PortForwardLeaseReconciler) (runtime : Option Runtime)

/-- The withdrawal a deletion sends, if it sends one, and whether it counts as withdrawn.
SOURCE: portforward/controller.go:401-416 -/
def cleanupWithdrawal (api : ApiView) (lease : PortForwardLease) : Option Sent × Bool :=
  let nothing := match api.recover with
    | .error .notFound => lease.status.activeEndpoint.isNone && lease.status.provider.isNone
    | _ => false
  match cleanupGateway api lease, runtime, api.recover with
  | .ok gateway, some runtime, .ok reservation =>
    if gateway.uid = "" then (none, nothing)
    else
      let intent := cleanupIntent lease gateway reservation.port
      let answer := runtime.withdraw gateway intent
      (some (.withdraw gateway intent answer),
        answer.2.isNone && r.currentWithdrawal api.now answer.1 intent)
  | _, _, _ => (none, nothing)

/-- The bounded quarantine at the end of a deletion; the first error stops it.
SOURCE: portforward/controller.go:421-433 -/
def cleanupQuarantine (api : ApiView)
    (lease : PortForwardLease) (withdrawn : Bool) : Option String :=
  match cleanupGateway api lease with
  | .error _ => none
  | .ok gateway =>
    let until_ := api.now + r.cleanupTimeout
    let refused := match runtime with
      | some runtime =>
        if withdrawn then none
        else runtime.quarantine gateway { withdrawalFor lease gateway with releaseProvider := true }
          until_
      | none => none
    match refused with
    | some err => some err
    | none => api.quarantine gateway until_

/-- SOURCE: portforward/controller.go:384-440 -/
def cleanup (api : ApiView) (lease : PortForwardLease) (deletedAt : Time) : ControllerResult :=
  if lease.finalizers.contains providerCleanupFinalizer = false then .done
  else
    let outcome := r.cleanupWithdrawal runtime api lease
    let deadline := deletedAt + r.cleanupTimeout
    if outcome.2 = false ∧ api.now < deadline then
      { ControllerResult.done with
        sent := outcome.1
        requeueAfter := min (deadline - api.now) (r.observationFreshness / 2) }
    else match r.cleanupQuarantine runtime api lease outcome.2 with
      | some err => { ControllerResult.done with sent := outcome.1, err := some err }
      | none =>
        { ControllerResult.done with
          sent := outcome.1
          write := some (.finalizers (lease.finalizers.filter (· ≠ providerCleanupFinalizer))) }

/-- `PortForwardLeaseReconciler.Reconcile` on the lease it read.
SOURCE: portforward/controller.go:55-83 -/
def reconcile (api : ApiView) (lease : PortForwardLease) : ControllerResult :=
  match lease.deletionTimestamp with
  | some deletedAt => r.cleanup runtime api lease deletedAt
  | none =>
    let evaluation := evaluate lease api
    if evaluation.runtimeEligible = true ∧
        (evaluation.selected.isSome = true ∨ lease.status.activeEndpoint.isSome = true) ∧
        runtime.isSome = true ∧ lease.finalizers.contains providerCleanupFinalizer = false then
      { ControllerResult.done with
        write := some (.finalizers (lease.finalizers ++ [providerCleanupFinalizer]))
        requeueAfter := 1 }
    else
      let outcome := r.runtimeStatus runtime api lease evaluation
      { sent := outcome.sent
        write := if lease.status = outcome.status then none else some (.status outcome.status)
        requeueAfter := outcome.requeueAfter
        err := none }

end PortForwardLeaseReconciler

end Waycloak.Model
