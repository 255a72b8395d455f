import Waycloak.Analysis.HandoffGenerations
import Waycloak.Interface.ManagerSteps

/-!
# The target of a handoff generation

The runtime refuses a request whose target differs from the one it holds at the same
generation (`sameRuntimeTarget`). The controller drains and moves to the next generation
only when the Service or the Pod changes (`handoffDrainReason`). So the Service and the Pod
of a generation are fixed over every run, and the other parts of the target are fixed
exactly as far as the objects they are read from are: `Surroundings` collects those. A target
that does change is one of a later generation, and the earlier one was withdrawn in between.

`edited_protocols_change_target` is a run in which one of them, the protocol list of the
lease, is edited within a generation.
-/

set_option autoImplicit false

namespace Waycloak.Analysis

open Waycloak.Model Waycloak.Interface Waycloak.Computation

variable {intent : Intent} {o : OpenReconcile}
variable {leaseUID serviceUID podUID : ObjectUID} {gateway : VPNGateway} {s s' : LeaseSystem}
  {r : LeaseRecord}

/-! ## What a target is read from -/

/-- The parts of a target that no drain decision looks at, as the API shows them. -/
structure Surroundings where
  protocols : List TransportProtocol
  adapterRef : Option ObjectName
  /-- the reserved provider port, by gateway UID -/
  port : ObjectUID → UInt16
  /-- binding UID, overlay address, application address and target port, by Pod UID -/
  binding : ObjectUID → ObjectUID × Addr × Addr × UInt16
  /-- the adapter takes the application port from the provider -/
  assigned : ObjectName → Bool

/-- A reconcile meets these surroundings. -/
structure Meets (w : Surroundings) (o : OpenReconcile) : Prop where
  protocols : normalizedProtocols o.read.lease.spec.protocols = .ok w.protocols
  adapterRef : o.read.lease.spec.applicationAdapterRef = w.adapterRef
  port : ∀ gateway port, o.input.api.reserve gateway = .ok port → port = w.port gateway.uid
  binding : ∀ gateway backend candidate, o.input.api.resolveBackend gateway = .ok backend →
    candidate ∈ backend.candidates →
    (candidate.bindingUID, candidate.overlayAddress, candidate.applicationAddress,
      candidate.targetPort) = w.binding candidate.podUID
  assigned : ∀ name adapter, o.input.api.adapter name = .ok adapter →
    adapter.supportedFeatures.contains providerAssignedApplicationPortFeature = w.assigned name

/-- The application port mode in these surroundings. -/
def Surroundings.mode (w : Surroundings) : ApplicationPortMode :=
  if w.adapterRef.any w.assigned then .providerAssigned else .fixed

/-- The intent is for this lease, gateway, Service and Pod, in these surroundings. -/
structure Targets (w : Surroundings) (leaseUID gatewayUID serviceUID podUID : ObjectUID)
    (intent : Intent) : Prop where
  lease : intent.leaseUID = leaseUID
  gateway : intent.gatewayUID = gatewayUID
  service : intent.serviceUID = serviceUID
  pod : intent.podUID = podUID
  port : intent.providerInternalPort = w.port gatewayUID
  binding : (intent.bindingUID, intent.overlayAddress, intent.applicationAddress,
    intent.targetPort) = w.binding podUID
  backendPort : intent.backendPort = intent.targetPort
  mode : intent.applicationPortMode = w.mode
  protocols : normalizedProtocols intent.protocols = .ok w.protocols
  adapterName : intent.adapterName = w.adapterRef.getD ""

theorem sameRuntimeTarget_of_targets {w : Surroundings} {gatewayUID : ObjectUID} {a b : Intent}
    (ha : Targets w leaseUID gatewayUID serviceUID podUID a)
    (hb : Targets w leaseUID gatewayUID serviceUID podUID b) : sameRuntimeTarget a b = true := by
  have hbinding := ha.binding.trans hb.binding.symm
  simp only [Prod.mk.injEq] at hbinding
  obtain ⟨hbindingUID, hoverlay, happlication, htarget⟩ := hbinding
  have hprotocols : sameProtocols a.protocols b.protocols = true := by
    simp [sameProtocols, ha.protocols, hb.protocols]
  simp [sameRuntimeTarget, ha.lease, hb.lease, ha.gateway, hb.gateway, ha.service, hb.service,
    ha.pod, hb.pod, hbindingUID, ha.port, hb.port, hoverlay, happlication,
    ha.backendPort, hb.backendPort, htarget, ha.mode, hb.mode, hprotocols, ha.adapterName,
    hb.adapterName]

/-- INTERNAL: the port mode of an evaluation that waits for no adapter.
SOURCE: portforward/controller.go:158-179 -/
theorem evaluateAdapter_mode {w : Surroundings} (hmeets : Meets w o) {evaluation : LeaseEvaluation}
    (hassigned : evaluation.providerAssignedApplicationPort = false)
    (hbase : evaluation.adapterReady = w.adapterRef.isNone)
    (hready : w.adapterRef.isSome = true →
      (evaluateAdapter o.read.lease o.input.api gateway evaluation).adapterReady = true) :
    (evaluateAdapter o.read.lease o.input.api gateway evaluation).providerAssignedApplicationPort =
      w.adapterRef.any w.assigned := by
  have href := hmeets.adapterRef
  cases hname : w.adapterRef with
  | none =>
    rw [hname] at href
    simp [evaluateAdapter, href, hassigned]
  | some name =>
    rw [hname] at href hbase hready
    obtain ⟨adapter, hadapter, hmode⟩ := evaluateAdapter_ready href hbase (hready rfl)
    rw [hmode, hmeets.assigned name adapter hadapter]
    rfl

/-- INTERNAL: **an intent is determined by the stored endpoint and the surroundings.**
SOURCE: portforward/controller.go:229-248 -/
theorem intent_targets {w : Surroundings} {answer : Observation × Option String}
    (hmeets : Meets w o) (hsent : o.result.sent = some (.reconcile gateway intent answer)) :
    ∃ endpoint, o.read.lease.status.activeEndpoint = some endpoint ∧
      intent.handoffGeneration = o.read.lease.status.handoffGeneration ∧
      Targets w o.read.lease.uid intent.gatewayUID endpoint.serviceUID endpoint.podUID intent := by
  obtain ⟨endpoint, candidate, port, hactive, hselected, hgateway, hreserve, hreason, hintent⟩ :=
    reconcile_sent hsent
  obtain ⟨-, -, hawake, hadapter, candidate', hselected', hservice, hpod⟩ :=
    (handoffDrainReason_none_iff endpoint _).mp hreason
  rw [hselected] at hselected'
  cases hselected'
  obtain ⟨resolved, backend, -, hresolve, hmem, heval⟩ := evaluate_selected hselected hawake
  have hmode : (evaluate o.read.lease o.input.api).providerAssignedApplicationPort =
      w.adapterRef.any w.assigned := by
    rw [heval] at hadapter ⊢
    refine evaluateAdapter_mode hmeets rfl ?_ ?_
    · simp [resolvedEvaluation, hmeets.adapterRef]
    intro hsome
    apply hadapter
    rw [evaluateAdapter_adapterRequired]
    simpa [resolvedEvaluation, hmeets.adapterRef] using hsome
  refine ⟨endpoint, hactive, by rw [hintent]; rfl, ?_⟩
  rw [hintent]
  constructor
  · rfl
  · rfl
  · exact hservice.symm
  · exact hpod.symm
  · exact hmeets.port gateway port hreserve
  · rw [hpod]
    exact hmeets.binding resolved backend candidate hresolve hmem
  · rfl
  · simp [programIntent, Surroundings.mode, hmode]
  · exact hmeets.protocols
  · simp [programIntent, intentFor, hmeets.adapterRef]

/-! ## The Service and the Pod of a generation -/

/-- The stored lease has passed generation `generation`, or holds it with this Service and Pod. -/
def Pinned (leaseUID : ObjectUID) (generation : Int) (serviceUID podUID : ObjectUID)
    (s : LeaseSystem) : Prop :=
  ∀ stored, s.store = some stored → stored.lease.uid = leaseUID ∧
    (generation < stored.lease.status.handoffGeneration ∨
      (stored.lease.status.handoffGeneration = generation ∧
        ∀ endpoint, stored.lease.status.activeEndpoint = some endpoint →
          endpoint.serviceUID = serviceUID ∧ endpoint.podUID = podUID))

theorem pinned_step {output : LeaseOutput} {generation : Int} (hdated : Dated s)
    (h : LeaseStep s (s', output)) (hp : Pinned leaseUID generation serviceUID podUID s) :
    Pinned leaseUID generation serviceUID podUID s' := by
  intro stored' hstored'
  cases h with
  | kept _ _ _ hkept =>
    rcases hkept with hkept | ⟨stored, lease, hstored, hsame, hkept⟩
    · exact hp stored' (hkept ▸ hstored')
    · rw [hkept] at hstored'
      rw [(replace_some hstored').1, hsame.status, hsame.uid]
      exact hp stored hstored
  | read => exact hp stored' hstored'
  | updated stored o _ _ hstored ho hversion hwrite =>
    have hread : o.read = stored := (hdated stored hstored o ho).2 hversion
    obtain ⟨huid, hold⟩ := hp stored hstored
    obtain ⟨-, outcome, houtcome, -, hcase⟩ := reconcile_written hwrite
    rw [hread] at hcase
    rw [(replace_some hstored').1, ← houtcome]
    refine ⟨huid, ?_⟩
    rcases statusCase_written hcase with ⟨hgeneration, hendpoint⟩ | ⟨hgeneration, -, -⟩
    · rw [hgeneration]
      rcases hold with hpast | ⟨hcurrent, htarget⟩
      · exact Or.inl hpast
      refine Or.inr ⟨hcurrent, ?_⟩
      intro endpoint hactive
      rcases hendpoint with ⟨hnone, -⟩ | ⟨old, new, hold, hnew, hservice, hpod⟩
      · rw [hnone] at hactive
        cases hactive
      rw [hnew] at hactive
      cases hactive
      rw [hservice, hpod]
      exact htarget old hold
    · left
      rw [hgeneration]
      rcases hold with hpast | ⟨hcurrent, -⟩ <;> omega

/-- The step stores what a reconcile made of an exact and fresh `Withdrawn` for the generation and the
Pod of the intent. -/
def DrainConfirmed (intent : Intent) (r : LeaseRecord) : Prop :=
  ∃ stored endpoint o, r.before.store = some stored ∧ r.output = .wrote o ∧ o.read = stored ∧
    stored.lease.status.handoffGeneration = intent.handoffGeneration ∧
    stored.lease.status.activeEndpoint = some endpoint ∧ endpoint.podUID = intent.podUID ∧
    ObtainedWithdrawn o.input.reconciler o.input.api.now stored.lease o.result.sent

/-- The stored lease is at the generation of the intent and has an endpoint on its Pod. -/
def Serves (intent : Intent) (s : LeaseSystem) : Prop :=
  ∀ stored, s.store = some stored →
    stored.lease.status.handoffGeneration = intent.handoffGeneration ∧
      ∃ endpoint, stored.lease.status.activeEndpoint = some endpoint ∧
        endpoint.podUID = intent.podUID

/-- INTERNAL: **an endpoint is given up only after its withdrawal was confirmed.** -/
theorem serves_step (hdated : Dated r.before) (h : LeaseStep r.before (r.after, r.output))
    (hserves : Serves intent r.before) : DrainConfirmed intent r ∨ Serves intent r.after := by
  unfold DrainConfirmed
  generalize r.before = s at *
  generalize r.after = s' at *
  generalize r.output = output at *
  cases h with
  | kept _ _ _ hkept =>
    right
    intro stored' hstored'
    rcases hkept with rfl | ⟨stored, lease, hstored, hsame, rfl⟩
    · exact hserves stored' hstored'
    · rw [(replace_some hstored').1, hsame.status]
      exact hserves stored hstored
  | read => exact Or.inr hserves
  | updated stored o _ _ hstored ho hversion hwrite =>
    have hread : o.read = stored := (hdated stored hstored o ho).2 hversion
    obtain ⟨hgeneration, endpoint, hactive, hpod⟩ := hserves stored hstored
    obtain ⟨-, outcome, houtcome, hsent, hcase⟩ := reconcile_written hwrite
    have hconfirmed (hobtained : ObtainedWithdrawn o.input.reconciler o.input.api.now o.read.lease
        outcome.sent) : ObtainedWithdrawn o.input.reconciler o.input.api.now stored.lease
          o.result.sent := by
      rw [← hread, OpenReconcile.result, hsent]
      exact hobtained
    have hsome : o.read.lease.status.activeEndpoint ≠ none := by simp [hread, hactive]
    rcases statusCase_written hcase with
      ⟨hkept, ⟨-, hnone | hobtained⟩ | ⟨old, new, hold, hnew, -, hsame⟩⟩ |
      ⟨-, -, hnone | hobtained⟩
    · exact absurd hnone hsome
    · exact Or.inl ⟨stored, endpoint, o, hstored, rfl, hread, hgeneration, hactive, hpod,
        hconfirmed hobtained⟩
    · right
      intro stored' hstored'
      rw [hread] at hkept hold
      cases hactive.symm.trans hold
      rw [(replace_some hstored').1, ← houtcome]
      exact ⟨hkept.trans hgeneration, new, hnew, hsame.trans hpod⟩
    · exact absurd hnone hsome
    · exact Or.inl ⟨stored, endpoint, o, hstored, rfl, hread, hgeneration, hactive, hpod,
        hconfirmed hobtained⟩

theorem read_store (h : LeaseStep s (s', .read o)) :
    s.store = some o.read ∧ s'.store = s.store := by
  cases h with
  | kept _ _ _ _ _ houtput => exact absurd rfl (houtput o)
  | read _ _ hstored => exact ⟨hstored, rfl⟩

/-- INTERNAL: a runtime refuses a changed target only when it is one.
SOURCE: portforward/manager.go:80-82 -/
theorem admission_targetChanged {previous : RuntimeState}
    (h : admission (some previous) intent = some .targetChanged) :
    sameRuntimeTarget previous.intent intent = false := by
  unfold admission at h
  dsimp only at h
  split at h
  · cases h
  split at h
  · next hchanged => exact hchanged.2
  split at h
  · cases h
  split at h <;> cases h

/-! ## Runs -/

/-- The intent a step sends to a runtime. -/
def programmedIntent (r : LeaseRecord) : Option Intent :=
  match r.output with
  | .read o =>
    match o.result.sent with
    | some (.reconcile _ intent _) => some intent
    | _ => none
  | _ => none

theorem programmedIntent_some (h : programmedIntent r = some intent) :
    ∃ o gateway answer, r.output = .read o ∧
      o.result.sent = some (.reconcile gateway intent answer) := by
  unfold programmedIntent at h
  split at h
  · next o houtput =>
    split at h
    · next gateway sent answer hsent =>
      cases h
      exact ⟨o, gateway, answer, houtput, hsent⟩
    · cases h
  · cases h

/-- Whatever sends an intent at a generation meets the surroundings of that generation. -/
def MeetsThroughout (world : Int → Surroundings) (run : List LeaseRecord) : Prop :=
  ∀ r ∈ run, ∀ o, r.output = .read o → (programmedIntent r).isSome = true →
    Meets (world o.read.lease.status.handoffGeneration) o

/-- INTERNAL: what the intent of a record targets.
SOURCE: portforward/controller.go:229-248 -/
theorem record_targets {world : Int → Surroundings} {run : List LeaseRecord}
    (hworld : MeetsThroughout world run) (hr : r ∈ run)
    (hstep : LeaseStep r.before (r.after, r.output)) (h : programmedIntent r = some intent) :
    ∃ stored endpoint, r.before.store = some stored ∧ r.after.store = some stored ∧
      stored.lease.status.activeEndpoint = some endpoint ∧
      stored.lease.status.handoffGeneration = intent.handoffGeneration ∧
      Targets (world intent.handoffGeneration) stored.lease.uid intent.gatewayUID
        endpoint.serviceUID endpoint.podUID intent := by
  obtain ⟨o, gateway, answer, houtput, hsent⟩ := programmedIntent_some h
  have hmeets := hworld r hr o houtput (by rw [h]; rfl)
  rw [houtput] at hstep
  obtain ⟨hbefore, hafter⟩ := read_store hstep
  obtain ⟨endpoint, hactive, hgeneration, htargets⟩ := intent_targets hmeets hsent
  rw [← hgeneration] at htargets
  exact ⟨o.read, endpoint, hbefore, hafter.trans hbefore, hactive, hgeneration.symm, htargets⟩

/-- **The target of a generation is fixed** while the objects outside the drain decision are fixed
within a generation. A target that differs from an earlier one is of a later generation, and the
withdrawal of the earlier one was confirmed in between.
SOURCE: portforward/controller.go:288-310; portforward/manager.go:79-82 -/
theorem target_fixed_within_generation (world : Int → Surroundings) (stored : StoredLease)
    (inputs : List LeaseInput) (pre mid post : List LeaseRecord) (r₁ r₂ : LeaseRecord)
    (intent₁ intent₂ : Intent) (hrun : leaseRun stored inputs = pre ++ r₁ :: (mid ++ r₂ :: post))
    (hworld : MeetsThroughout world (leaseRun stored inputs))
    (h₁ : programmedIntent r₁ = some intent₁) (h₂ : programmedIntent r₂ = some intent₂)
    (hgateway : intent₁.gatewayUID = intent₂.gatewayUID) :
    (intent₁.handoffGeneration = intent₂.handoffGeneration →
      sameRuntimeTarget intent₁ intent₂ = true ∧
        ∀ previous : RuntimeState, previous.intent = intent₁ →
          admission (some previous) intent₂ ≠ some .targetChanged) ∧
    (sameRuntimeTarget intent₁ intent₂ = false →
      intent₁.handoffGeneration < intent₂.handoffGeneration ∧
        ∃ w ∈ mid, DrainConfirmed intent₁ w) := by
  have hrecords := leaseRun_records stored inputs
  have hmem₁ : r₁ ∈ leaseRun stored inputs := mem_between hrun (Or.inl rfl)
  have hmem₂ : r₂ ∈ leaseRun stored inputs := mem_between hrun (Or.inr (Or.inr rfl))
  have hmid : ∀ r ∈ mid, r ∈ leaseRun stored inputs :=
    fun r hr => mem_between hrun (Or.inr (Or.inl hr))
  obtain ⟨-, hbetween, -, hr₂⟩ := exec_between hrun
  obtain ⟨stored₁, endpoint₁, -, hafter₁, hactive₁, hat₁, htargets₁⟩ :=
    record_targets hworld hmem₁ (hrecords r₁ hmem₁).1 h₁
  obtain ⟨stored₂, endpoint₂, hbefore₂, -, hactive₂, hat₂, htargets₂⟩ :=
    record_targets hworld hmem₂ (hrecords r₂ hmem₂).1 h₂
  -- between the two requests the stored Service and Pod of the generation stay
  have hstart : Pinned stored₁.lease.uid intent₁.handoffGeneration endpoint₁.serviceUID
      endpoint₁.podUID r₁.after := by
    intro stored' hstored'
    cases hafter₁.symm.trans hstored'
    refine ⟨rfl, Or.inr ⟨hat₁, ?_⟩⟩
    intro endpoint hactive
    cases hactive₁.symm.trans hactive
    exact ⟨rfl, rfl⟩
  have hpinned : Pinned stored₁.lease.uid intent₁.handoffGeneration endpoint₁.serviceUID
      endpoint₁.podUID r₂.before := by
    have hend := hbetween.invariant_endState
      (fun r hr _ hp => pinned_step (hrecords r (hmid r hr)).2 (hrecords r (hmid r hr)).1 hp) hstart
    rw [hr₂]
    exact hend
  obtain ⟨huid, hpinned⟩ := hpinned stored₂ hbefore₂
  have hsame (hgeneration : intent₁.handoffGeneration = intent₂.handoffGeneration) :
      sameRuntimeTarget intent₁ intent₂ = true := by
    obtain hpast | ⟨-, htarget⟩ := hpinned
    · omega
    obtain ⟨hservice, hpod⟩ := htarget endpoint₂ hactive₂
    rw [← hgeneration, huid, hservice, hpod, ← hgateway] at htargets₂
    exact sameRuntimeTarget_of_targets htargets₁ htargets₂
  refine ⟨fun hgeneration => ⟨hsame hgeneration, ?_⟩, fun hchanged => ?_⟩
  · intro previous hprevious hrefused
    have hchanged := admission_targetChanged hrefused
    rw [hprevious, hsame hgeneration] at hchanged
    cases hchanged
  have hne : intent₁.handoffGeneration ≠ intent₂.handoffGeneration := by
    intro hgeneration
    rw [hsame hgeneration] at hchanged
    cases hchanged
  refine ⟨by rcases hpinned with hpast | ⟨hcurrent, -⟩ <;> omega, ?_⟩
  -- if no withdrawal was confirmed, the first endpoint is stored to the end
  have hserves : Serves intent₁ r₁.after := by
    intro stored' hstored'
    cases hafter₁.symm.trans hstored'
    exact ⟨hat₁, endpoint₁, hactive₁, htargets₁.pod.symm⟩
  obtain hconfirmed | hend := hbetween.until (fun r hr _ hp =>
    serves_step (hrecords r (hmid r hr)).2 (hrecords r (hmid r hr)).1 hp) hserves
  · exact hconfirmed
  · rw [hr₂] at hbefore₂
    exact absurd ((hend stored₂ hbefore₂).1.symm.trans hat₂) hne

/-- The lease selects a Pod, and two reconciles program it; then another Pod takes its place, the first
is withdrawn, and the second is programmed. -/
def steadyInputs : List LeaseInput :=
  [.read (rollingInput "pod" 1), .write 0, .read (rollingInput "pod" 2), .write 0,
    .read (rollingInput "pod" 3), .write 0, .read (rollingInput "next" 4), .write 0,
    .read (rollingInput "next" 5)]

/-- What the sample lease meets at every generation. -/
def steadyWorld : Surroundings :=
  { protocols := [.tcp], adapterRef := none, port := fun _ => 49152
    binding := fun _ => ("binding", .v4 0x0a000002#32, .v4 0x0a000003#32, 8080)
    assigned := fun _ => false }

theorem rollingInput_meets {stored : StoredLease} (podUID : ObjectUID) (now : Time)
    (h : stored.lease.spec = (sampleLease none).spec) :
    Meets steadyWorld { read := stored, input := rollingInput podUID now } := by
  constructor
  · rw [h]
    rfl
  · rw [h]
    rfl
  · intro gateway port hreserve
    cases hreserve
    rfl
  · intro gateway backend candidate hresolve hmem
    cases hresolve
    rw [List.mem_singleton.mp hmem]
    rfl
  · intro name adapter hadapter
    cases hadapter
    rfl

theorem steadyInputs_meet :
    MeetsThroughout (fun _ => steadyWorld) (leaseRun ⟨sampleLease none, 0⟩ steadyInputs) := by
  intro r hr o houtput _
  have hreads : ∀ r ∈ leaseRun ⟨sampleLease none, 0⟩ steadyInputs, ∀ o, r.output = .read o →
      o.read.lease.spec = (sampleLease none).spec ∧
        ∃ podUID now, o.input = rollingInput podUID now := by
    simp only [leaseRun, steadyInputs, exec_cons, exec_nil, List.forall_mem_cons]
    refine ⟨?_, ?_, ?_, ?_, ?_, ?_, ?_, ?_, ?_, by simp⟩ <;> intro o houtput <;> cases houtput <;>
      exact ⟨rfl, _, _, rfl⟩
  obtain ⟨hspec, podUID, now, hinput⟩ := hreads r hr o houtput
  have hmeets := rollingInput_meets podUID now hspec
  rw [← hinput] at hmeets
  exact hmeets

theorem target_fixed_within_generation_steady :
    (∃ pre r₁ mid r₂ post,
      leaseRun ⟨sampleLease none, 0⟩ steadyInputs = pre ++ r₁ :: (mid ++ r₂ :: post) ∧
      programmedIntent r₁ = some (sampleIntent "lease" 1) ∧
      programmedIntent r₂ = some (sampleIntent "lease" 1) ∧
      sameRuntimeTarget (sampleIntent "lease" 1) (sampleIntent "lease" 1) = true) ∧
    ∃ pre r₁ mid r₂ post,
      leaseRun ⟨sampleLease none, 0⟩ steadyInputs = pre ++ r₁ :: (mid ++ r₂ :: post) ∧
      programmedIntent r₁ = some (sampleIntent "lease" 1) ∧
      programmedIntent r₂ = some { sampleIntent "lease" 2 with podUID := "next" } ∧
      ∃ w ∈ mid, DrainConfirmed (sampleIntent "lease" 1) w :=
  ⟨⟨[_, _], _, [_], _, [_, _, _, _], rfl, by decide, by decide,
    ((target_fixed_within_generation (fun _ => steadyWorld) ⟨sampleLease none, 0⟩ steadyInputs
      [_, _] [_] [_, _, _, _] _ _ _ _ rfl steadyInputs_meet (by decide) (by decide) rfl).1 rfl).1⟩,
    ⟨[_, _], _, [_, _, _, _, _], _, [], rfl, by decide, by decide,
    ((target_fixed_within_generation (fun _ => steadyWorld) ⟨sampleLease none, 0⟩ steadyInputs
      [_, _] [_, _, _, _, _] [] _ _ (sampleIntent "lease" 1)
      { sampleIntent "lease" 2 with podUID := "next" } rfl steadyInputs_meet (by decide) (by decide)
      rfl).2 (by decide)).2⟩⟩

/-- The same lease, whose protocols are edited between the two requests. -/
def editedInputs : List LeaseInput :=
  [.read (rollingInput "pod" 1), .write 0, .read (rollingInput "pod" 2), .write 0,
    .edit
      { generation := 2, deletionTimestamp := none, finalizers := [providerCleanupFinalizer]
        spec := { (sampleLease none).spec with protocols := [.tcp, .udp] } },
    .read (rollingInput "pod" 3)]

/-- Two intents of generation 1 for one gateway differ in their target, and the runtime that serves
the first refuses the second. -/
theorem edited_protocols_change_target :
    ∃ pre r₁ mid r₂ post intent₁ intent₂,
      leaseRun ⟨sampleLease none, 0⟩ editedInputs = pre ++ r₁ :: (mid ++ r₂ :: post) ∧
      programmedIntent r₁ = some intent₁ ∧ programmedIntent r₂ = some intent₂ ∧
      intent₁.gatewayUID = intent₂.gatewayUID ∧
      intent₁.handoffGeneration = intent₂.handoffGeneration ∧
      sameRuntimeTarget intent₁ intent₂ = false ∧
      ((managerRun
          [.reconcile "gw" intent₁ (sampleBackends 2 (.ok (sampleGrant 2)) none),
           .reconcile "gw" intent₂ (sampleBackends 3 (.ok (sampleGrant 3)) none)]).map
        fun r => r.output.err) = [none, some .targetChanged] :=
  ⟨[_, _], _, [_, _], _, [], sampleIntent "lease" 1,
    { sampleIntent "lease" 1 with protocols := [.tcp, .udp] }, rfl, by decide, by decide, rfl, rfl,
    by decide, by decide⟩

end Waycloak.Analysis
