import Waycloak.Interface.ControllerSteps

/-!
# The ladder of lease conditions

A reconcile assembles the conditions of a lease in one map of states: the evaluation of its
references fills it, and every later path overwrites a part of it. Only an observation of the
gateway runtime lights the five runtime conditions, rung by rung: the gateway rules and
`Programmed`, then `Delivered`, then `Acknowledged` and `Ready`.

`runtimeStatus_source` says which of the two a status is: one of a map in which no runtime
condition is lit (`Dark`), or one of an exact and fresh observation by the ready gateway the lease
resolves to (`Observed`). `status_ladder` is read off from there.
-/

set_option autoImplicit false

namespace Waycloak.Analysis

open Waycloak.Model Waycloak.Interface

variable {api : ApiView} {endpoint : ActiveLeaseEndpoint} {evaluation : LeaseEvaluation}
  {gateway : VPNGateway} {lease : PortForwardLease} {now : Time} {observation : Observation}
  {r : PortForwardLeaseReconciler} {states : States} {status : PortForwardLeaseStatus}
variable {type other : ConditionType} {state : State} {runtime : Option Runtime} {o : StatusOutcome}

/-- The conditions only the gateway runtime can make true.
SOURCE: portforward/controller.go:498 -/
def runtimeConditions : List ConditionType :=
  [.programmed, .ready, .gatewayRulesReady, .delivered, .acknowledged]

/-- The status has a true condition of the type. -/
def ShowsTrue (status : PortForwardLeaseStatus) (type : ConditionType) : Prop :=
  ∃ condition ∈ status.conditions, condition.type = type ∧ condition.status = .true

/-- The map has the type true. -/
def Lit (states : States) (type : ConditionType) : Prop :=
  (states type).map (·.status) = some .true

/-- No runtime condition is true in the map. -/
def Dark (states : States) : Prop := ∀ type ∈ runtimeConditions, ¬ Lit states type

/-! ## Conditions of a map -/

theorem showsTrue_withConditions (lease : PortForwardLease) (now : Time) (states : States)
    (status : PortForwardLeaseStatus) (type : ConditionType) :
    ShowsTrue (withConditions lease now states status) type ↔
      type ∈ leaseConditionOrder ∧ Lit states type := by
  have hstatus : ∀ t, ((states t).getD (.unknown "Condition observation is unavailable")).status =
      .true ↔ Lit states t := by
    intro t
    unfold Lit
    cases states t with
    | none => simp [State.unknown]
    | some => simp
  unfold ShowsTrue withConditions build
  simp only [List.mem_map]
  constructor
  · rintro ⟨condition, ⟨t, ht, rfl⟩, rfl, htrue⟩
    exact ⟨ht, (hstatus t).mp htrue⟩
  · rintro ⟨hmem, hlit⟩
    exact ⟨_, ⟨type, hmem, rfl⟩, rfl, (hstatus type).mpr hlit⟩

theorem findStatusCondition_build {previous : List Condition} {generation : Int}
    {order : List ConditionType} (hmem : type ∈ order) :
    ∃ condition, findStatusCondition (build previous generation now order states) type =
        some condition ∧
      condition.status =
        ((states type).getD (.unknown "Condition observation is unavailable")).status ∧
      condition.observedGeneration = generation := by
  have hfind : order.find? (fun t => decide (t = type)) = some type := by
    cases hf : order.find? (fun t => decide (t = type)) with
    | none => simpa using List.find?_eq_none.mp hf type hmem
    | some t =>
      have ht := List.find?_some hf
      rw [decide_eq_true_eq] at ht
      rw [ht]
  unfold findStatusCondition build
  rw [List.find?_map]
  exact ⟨_, congrArg (Option.map _) hfind, rfl, rfl⟩

theorem currentTrue_withConditions (hmem : type ∈ leaseConditionOrder) (hlit : Lit states type) :
    currentTrue (withConditions lease now states status).conditions type lease.generation
      lease.generation = true := by
  obtain ⟨condition, hfind, hstatus, hgeneration⟩ :
      ∃ condition, findStatusCondition (withConditions lease now states status).conditions type =
          some condition ∧
        condition.status =
          ((states type).getD (.unknown "Condition observation is unavailable")).status ∧
        condition.observedGeneration = lease.generation := findStatusCondition_build hmem
  obtain ⟨state, hstate, htrue⟩ := Option.map_eq_some_iff.mp hlit
  rw [hstate, Option.getD_some] at hstatus
  simp [currentTrue, current, hfind, hgeneration, hstatus, htrue]

/-! ## Dark maps -/

theorem lit_set : Lit (states.set other state) type ↔
      if type = other then state.status = .true else Lit states type := by
  unfold Lit States.set
  split <;> simp

theorem Dark.set (hdark : Dark states) (hother : other ∉ runtimeConditions) :
    Dark (states.set other state) := by
  intro type htype
  have hne : type ≠ other := by
    rintro rfl
    exact hother htype
  rw [lit_set, if_neg hne]
  exact hdark type htype

theorem dark_pending (noAdapter : Bool) : Dark (pendingLeaseStates noAdapter) := by
  intro type htype
  simp only [runtimeConditions, List.mem_cons, List.not_mem_nil, or_false] at htype
  rcases htype with rfl | rfl | rfl | rfl | rfl <;> simp [Lit, pendingLeaseStates, State.false]

theorem dark_unknown {types : List ConditionType} (htypes : runtimeConditions ⊆ types)
    (states : States) (message : String) :
    Dark (fun type => if type ∈ types then some (.unknown message) else states type) := by
  intro type htype
  simp [Lit, if_pos (htypes htype), State.unknown]

theorem dark_unknownLease (states : States) (message : String) :
    Dark (unknownLeaseStates states message) :=
  dark_unknown (by decide) states message

theorem dark_unknownRuntime (states : States) : Dark (unknownRuntimeStates states) :=
  dark_unknown (by decide) states _

theorem dark_evaluateAdapter (hdark : Dark evaluation.states) :
    Dark (evaluateAdapter lease api gateway evaluation).states := by
  fun_cases evaluateAdapter lease api gateway evaluation <;> exact hdark.set (by decide)

theorem dark_evaluateBackend (hdark : Dark evaluation.states) :
    Dark (evaluateBackend lease api gateway evaluation).states := by
  fun_cases evaluateBackend lease api gateway evaluation with
  | case1 => exact (dark_unknownLease _ _).set (by decide)
  | case3 => exact dark_evaluateAdapter hdark
  | _ => exact hdark.set (by decide)

/-- INTERNAL: **the evaluation of a lease lights no runtime condition.** -/
theorem dark_evaluate (lease : PortForwardLease) (api : ApiView) :
    Dark (evaluate lease api).states := by
  have hpending := dark_pending lease.spec.applicationAdapterRef.isNone
  fun_cases evaluate lease api with
  | case1 => exact dark_unknownLease _ _
  | case2 | case3 => exact hpending.set (by decide)
  | case4 | case5 => exact (hpending.set (by decide)).set (by decide)
  | case6 => exact dark_evaluateBackend (hpending.set (by decide))

theorem dark_drain (states : States) (noAdapter : Bool) :
    Dark (fun type => if type = .accepted ∨ type = .resolvedRefs then states type
      else pendingLeaseStates noAdapter type) := by
  intro type htype
  have hne : ¬ (type = .accepted ∨ type = .resolvedRefs) := by
    rintro (rfl | rfl) <;> revert htype <;> decide
  simp only [Lit, if_neg hne]
  exact dark_pending noAdapter type htype

/-! ## The references of a programmed lease -/

/-- INTERNAL: an adapter that is ready, or not needed, leaves a lease accepted and its references
resolved.
SOURCE: portforward/controller.go:158-179 -/
theorem evaluateAdapter_lit (haccepted : Lit evaluation.states .accepted)
    (hbase : evaluation.adapterReady = lease.spec.applicationAdapterRef.isNone)
    (hready : lease.spec.applicationAdapterRef.isSome = true →
      (evaluateAdapter lease api gateway evaluation).adapterReady = true) :
    Lit (evaluateAdapter lease api gateway evaluation).states .accepted ∧
      Lit (evaluateAdapter lease api gateway evaluation).states .resolvedRefs := by
  have hresolved : ∀ state : State, state.status = .true →
      Lit (evaluation.states.set .resolvedRefs state) .accepted ∧
        Lit (evaluation.states.set .resolvedRefs state) .resolvedRefs := by
    intro state htrue
    simpa [lit_set, htrue] using haccepted
  unfold evaluateAdapter at hready ⊢
  cases href : lease.spec.applicationAdapterRef with
  | none => exact hresolved _ rfl
  | some name =>
    simp only [href, Option.isNone_some] at hbase hready ⊢
    by_cases hfeature : hasGatewayFeature gateway featureWorkloadAdapter = false
    · simp [hfeature, hbase] at hready
    rw [if_neg hfeature] at hready ⊢
    cases hadapter : api.adapter name with
    | error err => simp [hadapter, hbase] at hready
    | ok =>
      simp only [hadapter] at hready ⊢
      split at hready
      · simp [hbase] at hready
      · next hcurrent =>
        rw [if_neg hcurrent]
        exact hresolved _ rfl

/-- A lease is accepted with its references resolved, on a ready gateway it may use. -/
structure Established (lease : PortForwardLease) (api : ApiView) (gateway : VPNGateway) : Prop where
  resolves : ResolvesTo api gateway
  ready : gatewayReady gateway = true
  accepted : Lit (evaluate lease api).states .accepted
  resolvedRefs : Lit (evaluate lease api).states .resolvedRefs

/-- INTERNAL: **a lease whose endpoint is left in place is established on its gateway.**
SOURCE: portforward/controller.go:99-180, 288-310 -/
theorem established_of_undrained
    (hreason : handoffDrainReason (some endpoint) (evaluate lease api) = none) :
    ∃ gateway, (evaluate lease api).gateway = some gateway ∧ Established lease api gateway := by
  obtain ⟨hready, -, hawake, hadapter, candidate, hselected, -⟩ :=
    (handoffDrainReason_none_iff endpoint _).mp hreason
  obtain ⟨gateway, backend, hto, -, -, heval⟩ := evaluate_selected hselected hawake
  obtain ⟨states, ready, assigned, hshape⟩ := evaluateAdapter_eq lease api gateway
    { resolvedEvaluation lease gateway (acceptedStates lease) (gatewayReady gateway) with
      selected := some candidate }
  have hlit : Lit (evaluate lease api).states .accepted ∧
      Lit (evaluate lease api).states .resolvedRefs := by
    rw [heval] at hadapter ⊢
    refine evaluateAdapter_lit rfl rfl ?_
    intro hsome
    rw [evaluateAdapter_adapterRequired] at hadapter
    exact hadapter hsome
  refine ⟨gateway, by rw [heval, hshape]; rfl, hto, ?_, hlit.1, hlit.2⟩
  rw [heval, hshape] at hready
  exact hready

/-! ## Rungs -/

/-- The gateway rules of an observation count at `now`.
SOURCE: portforward/controller.go:362-364 -/
def rulesObserved (observation : Observation) (now : Time) : Bool :=
  observation.gatewayRulesReady && providerReady observation now

/-- SOURCE: portforward/controller.go:365 -/
def deliveryObserved (observation : Observation) (now : Time) : Bool :=
  observation.delivered && rulesObserved observation now

/-- SOURCE: portforward/controller.go:366 -/
def acknowledgementObserved (lease : PortForwardLease) (observation : Observation) (now : Time) :
    Bool :=
  (lease.spec.applicationAdapterRef.isNone || observation.acknowledged) &&
    deliveryObserved observation now

theorem rulesObserved_of_delivery (h : deliveryObserved observation now = true) :
    rulesObserved observation now = true :=
  (Bool.and_eq_true_iff.mp h).2

theorem deliveryObserved_of_acknowledgement
    (h : acknowledgementObserved lease observation now = true) :
    deliveryObserved observation now = true :=
  (Bool.and_eq_true_iff.mp h).2

/-- Whether an observation reaches the rung a condition stands on. -/
def reaches (lease : PortForwardLease) (observation : Observation) (now : Time) :
    ConditionType → Bool
  | .gatewayRulesReady => rulesObserved observation now
  | .programmed => rulesObserved observation now
  | .delivered => deliveryObserved observation now
  | .acknowledged => acknowledgementObserved lease observation now
  | .ready => acknowledgementObserved lease observation now
  | _ => false

/-- INTERNAL: **an observation lights the conditions it reaches**, and puts none out.
SOURCE: portforward/controller.go:366-381 -/
theorem lit_applyObservation (lease : PortForwardLease) (status : PortForwardLeaseStatus)
    (states : States) (observation : Observation) (now : Time) (type : ConditionType) :
    Lit (applyObservation lease status states observation now).2 type ↔
      reaches lease observation now type = true ∨ Lit states type := by
  have hite : ∀ (reached : Bool) (lit unlit : States),
      Lit (if reached then lit else unlit) type ↔
        if reached = true then Lit lit type else Lit unlit type := by
    intro reached lit unlit
    cases reached <;> rfl
  have hset : ∀ (map : States) (other : ConditionType) (reason : Reason) (message : String),
      Lit (map.set other (.true reason message)) type ↔ type = other ∨ Lit map type := by
    intro map other reason message
    rw [lit_set]
    split
    · next heq => simp [heq, State.true]
    · next hne => simp [hne]
  unfold applyObservation reaches acknowledgementObserved deliveryObserved rulesObserved
  simp only [hite, hset]
  generalize (observation.gatewayRulesReady && providerReady observation now) = rules
  generalize (observation.delivered && rules) = delivered
  generalize ((lease.spec.applicationAdapterRef.isNone || observation.acknowledged) && delivered) =
    acknowledged
  cases type <;> cases rules <;> cases delivered <;> cases acknowledged <;> simp

/-- INTERNAL: an observation with its rules in place makes the endpoint active and records the
provider's mapping.
SOURCE: portforward/controller.go:361-371 -/
theorem applyObservation_rules (lease : PortForwardLease) (states : States)
    (hendpoint : status.activeEndpoint = some endpoint)
    (hrules : rulesObserved observation now = true) :
    (applyObservation lease status states observation now).1.activeEndpoint =
        some { endpoint with phase := .active } ∧
      ∃ provider, providerReady observation now = true ∧ observation.provider = some provider ∧
        (applyObservation lease status states observation now).1.provider =
          some { publicAddress := provider.publicAddress.string
                 publicPort := (provider.publicPort.toNat : Int)
                 expiresAt := provider.expiresAt } := by
  have hready : providerReady observation now = true := by
    unfold rulesObserved at hrules
    exact (Bool.and_eq_true_iff.mp hrules).2
  obtain ⟨provider, hprovider⟩ : ∃ provider, observation.provider = some provider := by
    unfold providerReady at hready
    cases hp : observation.provider with
    | none => simp [hp] at hready
    | some provider => exact ⟨provider, rfl⟩
  refine ⟨?_, provider, hready, hprovider, ?_⟩
  · unfold rulesObserved at hrules
    simp [applyObservation, hrules, hendpoint]
  · simp [applyObservation, hready, hprovider]

/-! ## What a status is made of -/

/-- An exact and fresh observation for the persisted generation and Pod, received in this reconcile
from the ready gateway the lease may use and resolves to. -/
structure Received (r : PortForwardLeaseReconciler) (runtime : Option Runtime) (api : ApiView)
    (lease : PortForwardLease) (o : StatusOutcome) (observation : Observation) : Prop where
  exact : ∃ rt gateway endpoint intent, runtime = some rt ∧ ResolvesTo api gateway ∧
    gatewayReady gateway = true ∧ lease.status.activeEndpoint = some endpoint ∧
    rt.reconcile gateway intent = (observation, none) ∧
    o.sent = some (.reconcile gateway intent (observation, none)) ∧
    exactObservation observation intent = true ∧ observation.leaseUID = lease.uid ∧
    observation.gatewayUID = gateway.uid ∧
    observation.handoffGeneration = lease.status.handoffGeneration ∧
    observation.podUID = endpoint.podUID
  fresh : api.now - r.observationFreshness ≤ observation.observedAt ∧
    observation.observedAt ≤ api.now + minute

/-- What the status of one reconcile is made of. -/
inductive StatusSource (r : PortForwardLeaseReconciler) (runtime : Option Runtime) (api : ApiView)
    (lease : PortForwardLease) (o : StatusOutcome) : Prop
  /-- a map in which no runtime condition is lit -/
  | dark (states : States) (status : PortForwardLeaseStatus)
      (hstatus : o.status = withConditions lease api.now states status) (hdark : Dark states)
  /-- an observation, applied over the evaluation of an established lease -/
  | observed (gateway : VPNGateway) (observation : Observation) (endpoint : ActiveLeaseEndpoint)
      (hestablished : Established lease api gateway)
      (hreceived : Received r runtime api lease o observation)
      (hstatus :
        let applied := applyObservation lease
          { carriedStatus lease with activeEndpoint := some endpoint }
          (evaluate lease api).states observation api.now
        o.status = withConditions lease api.now applied.2 applied.1)

/-- INTERNAL: a drain lights no runtime condition.
SOURCE: portforward/controller.go:312-355 -/
theorem drainStatus_source (r : PortForwardLeaseReconciler) (runtime : Option Runtime)
    (rt : Runtime) (api : ApiView) (lease : PortForwardLease) (evaluation : LeaseEvaluation)
    (gateway : VPNGateway) (endpoint : ActiveLeaseEndpoint) (preserve : Bool) :
    StatusSource r runtime api lease
      (r.drainStatus rt api lease evaluation gateway endpoint preserve) := by
  have hdrain := dark_drain evaluation.states lease.spec.applicationAdapterRef.isNone
  unfold PortForwardLeaseReconciler.drainStatus
  dsimp only
  split
  · exact .dark _ _ rfl (dark_unknownRuntime _)
  split
  · exact .dark _ _ rfl (dark_unknownRuntime _)
  split
  · exact .dark _ _ rfl hdrain
  · exact .dark _ _ rfl hdrain

/-- INTERNAL: programming a target applies an exact and fresh observation, or lights nothing.
SOURCE: portforward/controller.go:229-256 -/
theorem programStatus_source {rt : Runtime} {candidate : Candidate}
    (hestablished : Established lease api gateway)
    (hpersisted : lease.status.activeEndpoint = some endpoint)
    (hpod : endpoint.podUID = candidate.podUID) :
    StatusSource r (some rt) api lease
      (r.programStatus rt api lease (evaluate lease api) gateway endpoint candidate) := by
  unfold PortForwardLeaseReconciler.programStatus
  dsimp only
  split
  · exact .dark _ _ rfl (dark_unknownRuntime _)
  next port hport =>
  split
  · exact .dark _ _ rfl (dark_unknownRuntime _)
  next hanswer =>
  obtain ⟨herr, hcurrent⟩ := not_or.mp hanswer
  generalize hintent : programIntent lease (evaluate lease api) gateway candidate port = intent
    at herr hcurrent ⊢
  have hnone : (rt.reconcile gateway intent).2 = none := by simpa using herr
  have hexact : exactObservation (rt.reconcile gateway intent).1 intent = true ∧
      r.fresh api.now (rt.reconcile gateway intent).1 = true := by
    simpa [PortForwardLeaseReconciler.currentObservation] using hcurrent
  have hpair : rt.reconcile gateway intent = ((rt.reconcile gateway intent).1, none) := by
    rw [← hnone]
  refine .observed gateway (rt.reconcile gateway intent).1 _ hestablished ⟨?_, ?_⟩ rfl
  · refine ⟨rt, gateway, endpoint, intent, rfl, hestablished.resolves, hestablished.ready,
      hpersisted, hpair, by rw [← hpair], hexact.1, ?_⟩
    have hfields := hexact.1
    simp only [exactObservation, Bool.and_eq_true, beq_iff_eq] at hfields
    obtain ⟨⟨⟨⟨⟨-, hlease⟩, hgateway⟩, hgeneration⟩, hpodUID⟩, -⟩ := hfields
    rw [hlease, hgateway, hgeneration, hpodUID, ← hintent, hpod]
    exact ⟨rfl, rfl, rfl, rfl⟩
  · simpa [PortForwardLeaseReconciler.fresh] using hexact.2

/-- INTERNAL: **a status shows an exact and fresh observation of an established lease, or lights no
runtime condition.**
SOURCE: portforward/controller.go:182-257 -/
theorem runtimeStatus_source (r : PortForwardLeaseReconciler) (runtime : Option Runtime)
    (api : ApiView) (lease : PortForwardLease) :
    StatusSource r runtime api lease (r.runtimeStatus runtime api lease (evaluate lease api)) := by
  have hdark := dark_evaluate lease api
  unfold PortForwardLeaseReconciler.runtimeStatus
  dsimp only
  split
  · next heligible =>
    cases runtime with
    | none => exact .dark _ _ rfl (((dark_unknownLease _ _).set (by decide)).set (by decide))
    | some rt =>
      dsimp only
      cases hactive : lease.status.activeEndpoint with
      | none =>
        cases hselected : (evaluate lease api).selected with
        | none | some => exact .dark _ _ rfl hdark
      | some endpoint =>
        dsimp only
        cases hreason : handoffDrainReason (some endpoint) (evaluate lease api) with
        | some =>
          cases (evaluate lease api).selected <;>
            exact drainStatus_source r _ rt api lease _ _ endpoint _
        | none =>
          obtain ⟨candidate, hselected, -, hpod⟩ := handoffDrainReason_none hreason
          obtain ⟨gateway, hgateway, hestablished⟩ := established_of_undrained hreason
          have hget : (evaluate lease api).gateway.get
              ((evaluate lease api).eligible_gateway heligible) = gateway := by
            simp [hgateway]
          rw [hselected, hget]
          exact programStatus_source hestablished hactive hpod
  · exact .dark _ _ rfl hdark

/-! ## The ladder -/

/-- The provider mapping of a status can be used at `now`. -/
def UsableMapping (now : Time) (provider : ProviderMappingStatus) : Prop :=
  (∃ address : Addr, provider.publicAddress = address.string ∧ address.isValid = true ∧
    address.isGlobalUnicast = true) ∧
  provider.publicPort ≠ 0 ∧ now < provider.expiresAt

/-- The conditions of a status stand on each other, and on an observation of the runtime. -/
structure Ladder (r : PortForwardLeaseReconciler) (runtime : Option Runtime) (api : ApiView)
    (lease : PortForwardLease) (o : StatusOutcome) : Prop where
  ready_conditions : ShowsTrue o.status .ready → ∀ type ∈ leaseConditionOrder,
    currentTrue o.status.conditions type o.status.observedGeneration lease.generation = true
  ready_active : ShowsTrue o.status .ready →
    ∃ endpoint, o.status.activeEndpoint = some endpoint ∧ endpoint.phase = .active
  ready_provider : ShowsTrue o.status .ready →
    ∃ provider, o.status.provider = some provider ∧ UsableMapping api.now provider
  acknowledged : ShowsTrue o.status .acknowledged → ShowsTrue o.status .delivered
  delivered : ShowsTrue o.status .delivered → ShowsTrue o.status .gatewayRulesReady
  rules : ShowsTrue o.status .gatewayRulesReady ↔ ShowsTrue o.status .programmed
  observed : ∀ type ∈ runtimeConditions, ShowsTrue o.status type →
    ∃ observation, Received r runtime api lease o observation

theorem usableMapping_of_ready {provider : ProviderObservation}
    (hready : providerReady observation now = true)
    (hprovider : observation.provider = some provider) :
    UsableMapping now
      { publicAddress := provider.publicAddress.string
        publicPort := (provider.publicPort.toNat : Int), expiresAt := provider.expiresAt } := by
  simp only [providerReady, hprovider, Bool.and_eq_true, decide_eq_true_eq, bne_iff_ne] at hready
  obtain ⟨⟨⟨hvalid, hunicast⟩, hport⟩, hexpires⟩ := hready
  refine ⟨⟨provider.publicAddress, rfl, hvalid, hunicast⟩, ?_, hexpires⟩
  intro hzero
  apply hport
  exact UInt16.toNat_inj.mp (by simpa using hzero)

theorem ladder_of_dark (hstatus : o.status = withConditions lease api.now states status)
    (hdark : Dark states) : Ladder r runtime api lease o := by
  have hnone : ∀ type ∈ runtimeConditions, ¬ ShowsTrue o.status type := by
    intro type htype hshows
    rw [hstatus, showsTrue_withConditions] at hshows
    exact hdark type htype hshows.2
  constructor
  · exact fun hready => absurd hready (hnone _ (by decide))
  · exact fun hready => absurd hready (hnone _ (by decide))
  · exact fun hready => absurd hready (hnone _ (by decide))
  · exact fun hack => absurd hack (hnone _ (by decide))
  · exact fun hdelivered => absurd hdelivered (hnone _ (by decide))
  · exact iff_of_false (hnone _ (by decide)) (hnone _ (by decide))
  · exact fun type htype hshows => absurd hshows (hnone type htype)

theorem ladder_of_observed (hestablished : Established lease api gateway)
    (hreceived : Received r runtime api lease o observation)
    (hstatus :
      let applied := applyObservation lease
        { carriedStatus lease with activeEndpoint := some endpoint }
        (evaluate lease api).states observation api.now
      o.status = withConditions lease api.now applied.2 applied.1) :
    Ladder r runtime api lease o := by
  have hdark := dark_evaluate lease api
  have hlit : ∀ type ∈ leaseConditionOrder, ShowsTrue o.status type ↔
      reaches lease observation api.now type = true ∨ Lit (evaluate lease api).states type := by
    intro type htype
    rw [hstatus, showsTrue_withConditions, lit_applyObservation]
    exact and_iff_right htype
  have hshows : ∀ type ∈ runtimeConditions,
      ShowsTrue o.status type ↔ reaches lease observation api.now type = true := by
    intro type htype
    have hsubset : runtimeConditions ⊆ leaseConditionOrder := by decide
    rw [hlit type (hsubset htype)]
    exact or_iff_left (hdark type htype)
  have hready : ShowsTrue o.status .ready →
      acknowledgementObserved lease observation api.now = true := (hshows _ (by decide)).mp
  have hbase : ({ carriedStatus lease with activeEndpoint := some endpoint } :
      PortForwardLeaseStatus).activeEndpoint = some endpoint := rfl
  have hrules : ShowsTrue o.status .ready → rulesObserved observation api.now = true :=
    fun h => rulesObserved_of_delivery (deliveryObserved_of_acknowledgement (hready h))
  constructor
  · intro hshown type htype
    have hlitType : Lit (applyObservation lease
        { carriedStatus lease with activeEndpoint := some endpoint }
        (evaluate lease api).states observation api.now).2 type := by
      rw [lit_applyObservation]
      have hack := hready hshown
      have hdelivery := deliveryObserved_of_acknowledgement hack
      -- two conditions are the evaluation's, the other five stand on the top rung
      simp only [leaseConditionOrder, List.mem_cons, List.not_mem_nil, or_false] at htype
      rcases htype with rfl | rfl | rfl | rfl | rfl | rfl | rfl
      · exact Or.inr hestablished.accepted
      · exact Or.inr hestablished.resolvedRefs
      · exact Or.inl (hrules hshown)
      · exact Or.inl hack
      · exact Or.inl (hrules hshown)
      · exact Or.inl hdelivery
      · exact Or.inl hack
    rw [hstatus]
    exact currentTrue_withConditions htype hlitType
  · intro hshown
    refine ⟨{ endpoint with phase := .active }, ?_, rfl⟩
    rw [hstatus]
    exact (applyObservation_rules lease (evaluate lease api).states hbase (hrules hshown)).1
  · intro hshown
    obtain ⟨-, provider, hprovider, hsome, hrecorded⟩ :=
      applyObservation_rules lease (evaluate lease api).states hbase (hrules hshown)
    refine ⟨_, ?_, usableMapping_of_ready hprovider hsome⟩
    rw [hstatus]
    exact hrecorded
  · rw [hshows _ (by decide), hshows _ (by decide)]
    exact deliveryObserved_of_acknowledgement
  · rw [hshows _ (by decide), hshows _ (by decide)]
    exact rulesObserved_of_delivery
  · rw [hshows _ (by decide), hshows _ (by decide)]
    exact Iff.rfl
  · exact fun _ _ _ => ⟨observation, hreceived⟩

/-- **The status of one reconcile is a ladder.** `Ready` stands on all the other conditions, an
active endpoint and a usable mapping; `Acknowledged` on `Delivered`, `Delivered` on the gateway
rules, which are ready together with `Programmed`; and no runtime condition is true without an exact
and fresh observation from the gateway the lease resolves to.
SOURCE: portforward/controller.go:55-83, 99-257, 312-382, 455-501 -/
theorem status_ladder (r : PortForwardLeaseReconciler) (runtime : Option Runtime) (api : ApiView)
    (lease : PortForwardLease) :
    Ladder r runtime api lease (r.runtimeStatus runtime api lease (evaluate lease api)) ∧
      ∀ status, (r.reconcile runtime api lease).write = some (.status status) →
        status = (r.runtimeStatus runtime api lease (evaluate lease api)).status := by
  constructor
  · cases runtimeStatus_source r runtime api lease with
    | dark _ _ hstatus hdark => exact ladder_of_dark hstatus hdark
    | observed _ _ _ hestablished hreceived hstatus =>
      exact ladder_of_observed hestablished hreceived hstatus
  · intro status hwrite
    have hlive := (reconcile_written hwrite).1
    unfold PortForwardLeaseReconciler.reconcile at hwrite
    simp only [hlive] at hwrite
    split at hwrite
    · cases hwrite
    dsimp only at hwrite
    split at hwrite
    · cases hwrite
    · cases hwrite
      rfl

end Waycloak.Analysis
