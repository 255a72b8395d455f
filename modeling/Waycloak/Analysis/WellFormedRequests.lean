import Waycloak.Interface.AllocationSteps
import Waycloak.Interface.LeaseSteps
import Waycloak.Interface.ManagerSteps
import Waycloak.Interface.ResolverChecks
import Waycloak.Interface.RuntimeChecks

/-!
# Requests the runtime accepts as well-formed

The controller builds its requests from the stored status, and the runtime checks them
before it looks at anything else. Over every run of the lease system, with resolver,
`Reserve` and `Recover` answers as those functions compute them:

* a stored endpoint has a Pod UID and a handoff generation of at least one
  (`SoundStatus`), so every programming intent and every drain withdrawal is accepted;
* the withdrawal of a deletion takes its Pod UID from the stored endpoint, and without an
  endpoint it has none. It is accepted exactly when the status has one, and reaches the
  release of the provider mapping exactly when the runtime holds no other generation.

A lease loses its endpoint when a drain is confirmed and nothing is selected; it keeps its
reservation. Deleting it then sends a withdrawal that the runtime refuses, and the provider
mapping is never released.
-/

set_option autoImplicit false

namespace Waycloak.Analysis

open Waycloak.Model Waycloak.Interface Waycloak.Computation

variable {gatewayUID : ObjectUID} {intent : WithdrawalIntent} {o : OpenReconcile} {port : UInt16}
  {gateway : VPNGateway}
variable {candidate : Candidate} {evaluation : LeaseEvaluation} {m : GatewayRuntimeManager}
  {b : Backends}

/-! ## What a reconcile meets -/

/-- A stored lease has a namespace and a UID, and admission has checked its protocols.
SOURCE: api/v1beta1/portforwardlease_types.go:41-46 -/
structure Admitted (lease : PortForwardLease) : Prop where
  namespaceName : lease.namespaceName ≠ ""
  uid : lease.uid ≠ ""
  nonempty : lease.spec.protocols ≠ []
  few : lease.spec.protocols.length ≤ 2
  distinct : lease.spec.protocols.Nodup
  supported : ∀ protocol ∈ lease.spec.protocols, protocol = .tcp ∨ protocol = .udp

/-- Stored gateways have UIDs, and the resolver's and the allocator's answers are what their
functions compute from some answers of the API. -/
structure Answered (d : Digest) (netip : Netip) (lease : PortForwardLease) (api : ApiView) : Prop where
  resolved : ∀ resolution gateway, api.resolveGateway = .ok resolution →
    resolution.gateway = some gateway → gateway.uid ≠ ""
  gateway : ∀ gateway, api.gateway = .ok gateway → gateway.uid ≠ ""
  backend : ∀ gateway, ∃ view, SlicesNamed view ∧
    api.resolveBackend gateway = resolve netip view lease gateway
  reserve : ∀ gateway port, api.reserve gateway = .ok port →
    ∃ steps, reserveCall d lease.uid gateway steps .listing = .done (.ok port)
  recover : ∃ view, api.recover =
    recoverReservation d lease.uid lease.spec.gatewayRef.namespaceName view

/-- A reconcile of an admitted lease with such answers. -/
def Genuine (d : Digest) (netip : Netip) (o : OpenReconcile) : Prop :=
  Admitted o.read.lease ∧ Answered d netip o.read.lease o.input.api

variable {d : Digest} {netip : Netip} {lease : PortForwardLease} {api : ApiView}

theorem normalizedProtocols_admitted (h : Admitted lease) :
    ∃ protocols, normalizedProtocols lease.spec.protocols = .ok protocols := by
  obtain ⟨-, -, hnonempty, hfew, hdistinct, hsupported⟩ := h
  generalize lease.spec.protocols = protocols at hnonempty hfew hdistinct hsupported
  match protocols, hnonempty, hfew with
  | [first], _, _ =>
    obtain rfl | rfl := hsupported first (by simp)
    · exact ⟨[.tcp], rfl⟩
    · exact ⟨[.udp], rfl⟩
  | [first, last], _, _ =>
    have hne : first ≠ last := by simpa using hdistinct
    obtain rfl | rfl := hsupported first (by simp) <;> obtain rfl | rfl := hsupported last (by simp)
    · exact absurd rfl hne
    · exact ⟨[.tcp, .udp], by decide⟩
    · exact ⟨[.tcp, .udp], by decide⟩
    · exact absurd rfl hne
  | _ :: _ :: _ :: _, _, hfew =>
    simp only [List.length_cons] at hfew
    omega

theorem selected_sound (h : Answered d netip lease api)
    (hselected : (evaluate lease api).selected = some candidate) : SoundCandidate candidate := by
  obtain ⟨gateway, backend, hbackend, hcandidate⟩ := evaluate_candidate hselected
  obtain ⟨view, hnamed, hview⟩ := h.backend gateway
  have hsound : SoundResolution backend := resolve_sound hnamed (hview.symm.trans hbackend)
  obtain hcandidate | hcandidate := hcandidate
  · exact hsound.1 candidate hcandidate
  · exact hsound.2 candidate hcandidate

theorem evaluated_gateway (h : Answered d netip lease api)
    (hgateway : (evaluate lease api).gateway = some gateway) : gateway.uid ≠ "" := by
  obtain ⟨resolution, hresolve, hresolved⟩ := evaluate_gateway hgateway
  exact h.resolved resolution gateway hresolve hresolved

/-! ## The stored status -/

/-- A stored endpoint names a Pod, at a generation that counts it. -/
structure SoundStatus (status : PortForwardLeaseStatus) : Prop where
  counted : 0 ≤ status.handoffGeneration
  endpoint : ∀ endpoint, status.activeEndpoint = some endpoint →
    1 ≤ status.handoffGeneration ∧ endpoint.podUID ≠ ""

theorem soundStatus_empty : SoundStatus .empty :=
  ⟨le_refl _, fun _ h => by cases h⟩

/-- INTERNAL: a written status is sound if the one it replaces is.
SOURCE: portforward/controller.go:182-355 -/
theorem statusCase_sound {r : PortForwardLeaseReconciler} {runtime : Option Runtime}
    {o : StatusOutcome} (hanswered : Answered d netip lease api) (hsound : SoundStatus lease.status)
    (h : StatusCase r runtime api lease (evaluate lease api) o) : SoundStatus o.status := by
  obtain ⟨hgeneration, hendpoint⟩ | ⟨hgeneration, ⟨candidate, hselected, hendpoint⟩, -⟩ :=
    statusCase_written h
  · refine ⟨hgeneration ▸ hsound.counted, fun endpoint hactive => ?_⟩
    obtain ⟨hnone, -⟩ | ⟨old, kept, hold, hkept, -, hpod⟩ := hendpoint
    · rw [hnone] at hactive
      cases hactive
    cases hkept.symm.trans hactive
    have hcounted := hsound.endpoint old hold
    rw [hgeneration, hpod]
    exact hcounted
  · have hcounted := hsound.counted
    refine ⟨by omega, fun endpoint hactive => ?_⟩
    cases hendpoint.symm.trans hactive
    exact ⟨by omega, (selected_sound hanswered hselected).pod⟩

/-- The stored status is sound, and every reconcile in progress met genuine answers. -/
def SoundSystem (d : Digest) (netip : Netip) (s : LeaseSystem) : Prop :=
  (∀ stored, s.store = some stored → SoundStatus stored.lease.status) ∧
    ∀ o ∈ s.pending, Genuine d netip o

theorem soundSystem_step {s s' : LeaseSystem} {output : LeaseOutput} (hdated : Dated s)
    (hgenuine : ∀ o, output = .read o → Genuine d netip o) (hs : SoundSystem d netip s)
    (h : LeaseStep s (s', output)) : SoundSystem d netip s' := by
  cases h with
  | kept _ _ _ hstore hpending =>
    refine ⟨fun stored' hstored' => ?_, fun o ho => hs.2 o (hpending ho)⟩
    obtain rfl | ⟨stored, lease, hold, hkept, rfl⟩ := hstore
    · exact hs.1 stored' hstored'
    · rw [(replace_some hstored').1, hkept.status]
      exact hs.1 stored hold
  | read =>
    refine ⟨hs.1, fun o ho => ?_⟩
    obtain ho | ho := List.mem_append.mp ho
    · exact hs.2 o ho
    · rw [List.mem_singleton.mp ho]
      exact hgenuine _ rfl
  | updated stored o status _ hstore ho hversion hwrite hpending =>
    refine ⟨fun stored' hstored' => ?_, fun o' ho' => hs.2 o' (hpending ho')⟩
    -- the accepted update was computed from the status it replaces
    have hread : o.read = stored := (hdated stored hstore o ho).2 hversion
    obtain ⟨-, outcome, houtcome, -, hcase⟩ := reconcile_written hwrite
    have hbefore : SoundStatus o.read.lease.status := hread ▸ hs.1 stored hstore
    rw [(replace_some hstored').1, ← houtcome]
    exact statusCase_sound (hs.2 o ho).2 hbefore hcase

/-! ## The requests -/

/-- The runtime of the gateway accepts the request as well-formed. -/
def WellFormed : Sent → Prop
  | .reconcile gateway intent _ => validateRuntimeIntent gateway.uid intent = none
  | .withdraw gateway intent _ => validateWithdrawal gateway.uid intent = none

/-- INTERNAL: a programming intent is accepted.
SOURCE: portforward/manager.go:346-357 -/
theorem programIntent_valid (hadmitted : Admitted lease) (hgateway : gateway.uid ≠ "")
    (hgeneration : 1 ≤ lease.status.handoffGeneration) (hcandidate : SoundCandidate candidate)
    (hport : providerPortFirst ≤ port) :
    validateRuntimeIntent gateway.uid (programIntent lease evaluation gateway candidate port) =
      none := by
  obtain ⟨protocols, hprotocols⟩ := normalizedProtocols_admitted hadmitted
  unfold validateRuntimeIntent
  rw [if_neg]
  · simp only [programIntent, intentFor]
    rw [hprotocols]
  simp only [programIntent, intentFor, not_or]
  refine ⟨hgateway, fun h => h rfl, hadmitted.namespaceName, hadmitted.uid, fun h => h rfl,
    by omega, hcandidate.service, hcandidate.slice, hcandidate.pod, hcandidate.binding,
    UInt16.not_lt.mpr hport, hcandidate.port, hcandidate.port, ?_, ?_, ?_, ?_⟩
  · simp [hcandidate.overlay]
  · simp [hcandidate.application]
  · simp [hadmitted.nonempty]
  · split <;> simp

/-- INTERNAL: the withdrawal of a drain is accepted; it releases nothing.
SOURCE: portforward/manager.go:359-370 -/
theorem drainWithdrawal_valid {endpoint : ActiveLeaseEndpoint} (hadmitted : Admitted lease)
    (hgateway : gateway.uid ≠ "") (hsound : SoundStatus lease.status)
    (hactive : lease.status.activeEndpoint = some endpoint) :
    validateWithdrawal gateway.uid (drainWithdrawal lease evaluation gateway endpoint port) =
      none := by
  obtain ⟨hgeneration, hpod⟩ := hsound.endpoint endpoint hactive
  unfold validateWithdrawal
  rw [if_neg]
  · rfl
  have hpod' : (drainWithdrawal lease evaluation gateway endpoint port).podUID ≠ "" := by
    rw [drainWithdrawal_podUID hactive]
    exact hpod
  simp only [not_or]
  refine ⟨hgateway, fun h => h rfl, hadmitted.namespaceName, hadmitted.uid, fun h => h rfl, ?_,
    hpod', fun h => by cases h.1⟩
  simp only [drainWithdrawal, withdrawalFor]
  omega

/-- INTERNAL: **the withdrawal of a deletion is accepted exactly when the status has an endpoint.**
SOURCE: portforward/manager.go:359-370; portforward/runtime.go:95-110 -/
theorem cleanupIntent_valid (hadmitted : Admitted lease) (hgateway : gateway.uid ≠ "")
    (hsound : SoundStatus lease.status) (hport : providerPortFirst ≤ port) :
    validateWithdrawal gateway.uid (cleanupIntent lease gateway port) = none ↔
      lease.status.activeEndpoint ≠ none := by
  constructor
  · intro hvalid hnone
    unfold validateWithdrawal at hvalid
    rw [if_pos] at hvalid
    · cases hvalid
    · have hpod : (cleanupIntent lease gateway port).podUID = "" := by
        simp [cleanupIntent, withdrawalFor, hnone]
      tauto
  · intro hsome
    obtain ⟨endpoint, hactive⟩ := Option.ne_none_iff_exists'.mp hsome
    obtain ⟨hgeneration, hpod⟩ := hsound.endpoint endpoint hactive
    obtain ⟨protocols, hprotocols⟩ := normalizedProtocols_admitted hadmitted
    unfold validateWithdrawal
    rw [if_neg]
    · simp only [cleanupIntent, withdrawalFor, if_true]
      rw [hprotocols]
    simp only [cleanupIntent, withdrawalFor, hactive, not_or, Option.map_some, Option.getD_some]
    refine ⟨hgateway, fun h => h rfl, hadmitted.namespaceName, hadmitted.uid, fun h => h rfl,
      by omega, hpod, ?_⟩
    rintro ⟨-, hlow | hempty⟩
    · exact absurd hport (UInt16.not_le.mpr hlow)
    · exact hadmitted.nonempty (List.length_eq_zero_iff.mp hempty)

/-! ## The release -/

/-- Backends that are there and succeed with the withdrawal. -/
structure Healthy (b : Backends) (intent : WithdrawalIntent) : Prop where
  rules : ∃ rules, b.rules = some rules ∧ (∀ set, rules.replace set = none) ∧
    rules.withdrawn intent.leaseUID intent.handoffGeneration = (true, none)
  delivery : ∃ delivery, b.delivery = some delivery ∧ delivery.withdraw intent = (true, none)
  provider : ∃ capability, b.portForward = some capability ∧
    ∀ request, capability.releaseLease request = none

theorem sampleBackends_healthy (now : Time) (grant : Except String PortForwardLeaseObservation)
    (intent : WithdrawalIntent) : Healthy (sampleBackends now grant none) intent :=
  ⟨⟨_, rfl, fun _ => rfl, rfl⟩, ⟨_, rfl, rfl⟩, ⟨_, rfl, fun _ => rfl⟩⟩

/-- The provider can be asked for the mapping of every state the manager holds. -/
def RequestsKnown (m : GatewayRuntimeManager) : Prop :=
  ∀ uid state, m.state? uid = some state → ∃ request, intentRequest state.intent = .ok request

theorem requestsKnown_step {r : ManagerRecord}
    (hr : r = record GatewayRuntimeManager.serve r.before r.input) (h : RequestsKnown r.before) :
    RequestsKnown r.after := by
  intro uid state hstate
  by_cases huid : uid = r.input.leaseUID
  case neg =>
    rw [serve_frame hr huid] at hstate
    exact h uid state hstate
  subst huid
  rw [hr] at hstate
  cases hinput : r.input with
  | reconcile gatewayUID intent b =>
    rw [hinput] at hstate
    obtain hsame | ⟨previous, hheld, hblocked⟩ | ⟨-, hnone⟩ |
      ⟨⟨_, _, _, request, _, hacquiring, -⟩, mapping, renewAfter, hinstalled⟩ :=
      reconcile_own r.before b gatewayUID intent
    · exact h _ _ (hsame.symm.trans hstate)
    · cases hblocked.symm.trans hstate
      exact h _ previous hheld
    · cases hnone.symm.trans hstate
    · cases hinstalled.symm.trans hstate
      exact ⟨request, hacquiring.request⟩
  | withdraw gatewayUID intent b =>
    rw [hinput] at hstate
    obtain ⟨held, hheld, hintent, -⟩ := withdraw_own hstate
    rw [hintent]
    exact h _ held hheld

/-- The runtime after a sequence of calls. -/
def managerAfter (calls : List Call) : GatewayRuntimeManager :=
  endState .start (managerRun calls)

theorem managerAfter_known (calls : List Call) : RequestsKnown (managerAfter calls) :=
  (exec_linked GatewayRuntimeManager.serve .start calls).invariant_endState
    (fun _ _ hr => requestsKnown_step hr) (by rintro uid state ⟨⟩)

theorem releaseRequest_known (hknown : RequestsKnown m)
    (hprotocols : ∃ protocols, normalizedProtocols intent.protocols = .ok protocols) :
    ∃ request, releaseRequest ((drainingManager m intent).state? intent.leaseUID) intent =
      .ok request := by
  rw [state?_drainingManager, if_pos rfl]
  cases hheld : m.state? intent.leaseUID with
  | none =>
    obtain ⟨normalized, hnormalized⟩ := hprotocols
    obtain ⟨protocols, hok⟩ := providerProtocols_ok (normalizedProtocols_mem hnormalized)
    simp only [Option.map_none, releaseRequest, providerRequest]
    rw [hok]
    exact ⟨_, rfl⟩
  | some state =>
    simp only [Option.map_some, releaseRequest, startDraining_intent]
    exact hknown _ state hheld

/-- INTERNAL: **a healthy runtime releases the provider mapping on an accepted deletion exactly if it
holds no other generation of the lease.**
SOURCE: portforward/manager.go:222-286 -/
theorem healthy_releases_iff (hvalid : validateWithdrawal gatewayUID intent = none)
    (hrelease : intent.releaseProvider = true)
    (hprotocols : ∃ protocols, normalizedProtocols intent.protocols = .ok protocols)
    (hknown : RequestsKnown m) (hhealthy : Healthy b intent) :
    (∃ request, Effect.releaseLease request none ∈ (m.withdraw b gatewayUID intent).effects) ↔
      GenerationMatches m intent := by
  constructor
  · rintro ⟨request, hmem⟩
    have hcases := withdraw_cases m b gatewayUID intent
    generalize m.withdraw b gatewayUID intent = result at hcases hmem
    cases hcases with
    | refused => cases hmem
    | failed _ _ _ _ hgeneration => exact hgeneration
    | pending _ _ _ _ _ hgeneration => exact hgeneration
    | completed _ _ _ _ _ hgeneration => exact hgeneration
  · intro hgeneration
    obtain ⟨rules, hrules, hreplace, hgone⟩ := hhealthy.rules
    obtain ⟨delivery, hdelivery, hanswer⟩ := hhealthy.delivery
    obtain ⟨capability, hcapability, hreleases⟩ := hhealthy.provider
    obtain ⟨request, hrequest⟩ := releaseRequest_known hknown hprotocols
    refine ⟨request, ?_⟩
    unfold drainingManager at hrequest
    simp [GatewayRuntimeManager.withdraw, hvalid, hrules, hdelivery,
      (generationMatches_iff m intent).mp hgeneration, hreplace, hgone, hanswer,
      completeWithdrawal, hrelease, hrequest, hcapability, hreleases]

/-! ## The requests of a run -/

/-- The reconcile cleans up a deletion for which it can send a withdrawal. -/
def Withdraws (o : OpenReconcile) : Prop :=
  o.read.lease.deletionTimestamp ≠ none ∧
    o.read.lease.finalizers.contains providerCleanupFinalizer = true ∧
    o.input.runtime ≠ none ∧ ∃ reservation, o.input.api.recover = .ok reservation

/-- What the requests of a reconcile to a runtime should be: well-formed, and a deletion whose
reservation is recovered asks in a way that releases the provider mapping, if the backends are
healthy. -/
structure RequestsAccepted (m : GatewayRuntimeManager) (o : OpenReconcile) : Prop where
  wellFormed : ∀ sent, o.result.sent = some sent → WellFormed sent
  releases : Withdraws o → ∃ gateway intent answer,
    o.result.sent = some (.withdraw gateway intent answer) ∧
    ∀ b, Healthy b intent →
      ∃ request, Effect.releaseLease request none ∈ (m.withdraw b gateway.uid intent).effects

/-- The status has an endpoint, and the runtime holds no other generation of the lease. -/
def Drainable (m : GatewayRuntimeManager) (lease : PortForwardLease) : Prop :=
  lease.status.activeEndpoint ≠ none ∧ ∀ state, m.state? lease.uid = some state →
    state.intent.handoffGeneration = lease.status.handoffGeneration

theorem withdraws_sent (hgenuine : Genuine d netip o) (h : Withdraws o) :
    ∃ gateway port answer, gateway.uid ≠ "" ∧ providerPortFirst ≤ port ∧
      o.result.sent = some (.withdraw gateway (cleanupIntent o.read.lease gateway port) answer) := by
  obtain ⟨hdeleting, hfinalizer, hruntime, reservation, hrecover⟩ := h
  obtain ⟨deletedAt, hdeleted⟩ := Option.ne_none_iff_exists'.mp hdeleting
  obtain ⟨rt, hrt⟩ := Option.ne_none_iff_exists'.mp hruntime
  obtain ⟨view, hview⟩ := hgenuine.2.recover
  obtain ⟨huid, hport⟩ := recoverReservation_ok (hview.symm.trans hrecover)
  obtain ⟨gateway, hgateway, hne⟩ : ∃ gateway,
      PortForwardLeaseReconciler.cleanupGateway o.input.api o.read.lease = .ok gateway ∧
        gateway.uid ≠ "" := by
    unfold PortForwardLeaseReconciler.cleanupGateway
    rw [hrecover]
    cases hread : o.input.api.gateway with
    | ok gateway => exact ⟨gateway, rfl, hgenuine.2.gateway gateway hread⟩
    | error err => exact ⟨_, rfl, huid⟩
  refine ⟨gateway, reservation.port, rt.withdraw gateway
    (cleanupIntent o.read.lease gateway reservation.port), hne, hport, ?_⟩
  unfold OpenReconcile.result
  rw [reconcile_deleting_sent hdeleted, if_neg (by simpa using hfinalizer)]
  exact cleanupWithdrawal_eq_some.mpr ⟨rt, gateway, reservation, hrt, hgateway, hrecover, hne, rfl⟩

/-- INTERNAL: what a genuine reconcile of a sound status sends is well-formed, if a deletion finds
an endpoint. -/
theorem sent_wellFormed (hgenuine : Genuine d netip o) (hsound : SoundStatus o.read.lease.status)
    (hendpoint : Withdraws o → o.read.lease.status.activeEndpoint ≠ none) {sent : Sent}
    (hsent : o.result.sent = some sent) : WellFormed sent := by
  have hcase := reconcile_sentCase o.input.reconciler o.input.runtime o.input.api o.read.lease
  rw [show (o.input.reconciler.reconcile o.input.runtime o.input.api o.read.lease).sent = some sent
    from hsent] at hcase
  cases hcase with
  | cleanup _ _ _ hruntime hdeleted =>
    obtain ⟨deletedAt, hdeletedAt⟩ := Option.ne_none_iff_exists'.mp hdeleted
    unfold OpenReconcile.result at hsent
    rw [reconcile_deleting_sent hdeletedAt] at hsent
    split at hsent
    · cases hsent
    next hfinalizer =>
    obtain ⟨rt', gateway', reservation, -, -, hrecover, hne, hsame⟩ :=
      cleanupWithdrawal_eq_some.mp hsent
    obtain ⟨view, hview⟩ := hgenuine.2.recover
    have hport := (recoverReservation_ok (hview.symm.trans hrecover)).2
    have hactive := hendpoint ⟨hdeleted, by simpa using hfinalizer, by simp [hruntime],
      reservation, hrecover⟩
    rw [hsame]
    exact (cleanupIntent_valid hgenuine.1 hne hsound hport).mpr hactive
  | drain _ _ _ _ _ _ hgateway hactive =>
    exact drainWithdrawal_valid hgenuine.1 (evaluated_gateway hgenuine.2 hgateway) hsound hactive
  | program _ gateway endpoint _ port hgateway hactive hselected _ hreserve =>
    obtain ⟨steps, hsteps⟩ := hgenuine.2.reserve gateway port hreserve
    have hport : providerPortFirst ≤ port := reserveCall_port (fun _ h => by cases h) hsteps
    exact programIntent_valid hgenuine.1 (evaluated_gateway hgenuine.2 hgateway)
      (hsound.endpoint endpoint hactive).1 (selected_sound hgenuine.2 hselected) hport

/-- INTERNAL: **one reconcile: its requests are accepted exactly when a deletion that can withdraw
finds an endpoint and its generation.** -/
theorem requestsAccepted_iff (hgenuine : Genuine d netip o)
    (hsound : SoundStatus o.read.lease.status) (hknown : RequestsKnown m) :
    RequestsAccepted m o ↔ (Withdraws o → Drainable m o.read.lease) := by
  constructor
  · intro haccepted hwithdraws
    obtain ⟨gateway, port, answer, hne, hport, hsent⟩ := withdraws_sent hgenuine hwithdraws
    have hvalid : validateWithdrawal gateway.uid (cleanupIntent o.read.lease gateway port) = none :=
      haccepted.wellFormed _ hsent
    refine ⟨(cleanupIntent_valid hgenuine.1 hne hsound hport).mp hvalid, ?_⟩
    obtain ⟨gateway', intent', answer', hsent', hreleases⟩ := haccepted.releases hwithdraws
    cases hsent.symm.trans hsent'
    exact (healthy_releases_iff hvalid rfl (normalizedProtocols_admitted hgenuine.1) hknown
      (sampleBackends_healthy 0 (.ok (sampleGrant 0)) _)).mp
      (hreleases _ (sampleBackends_healthy 0 (.ok (sampleGrant 0)) _))
  intro hable
  refine ⟨fun sent hsent => sent_wellFormed hgenuine hsound (fun h => (hable h).1) hsent,
    fun hwithdraws => ?_⟩
  obtain ⟨gateway, port, answer, hne, hport, hsent⟩ := withdraws_sent hgenuine hwithdraws
  refine ⟨gateway, _, answer, hsent, fun b hhealthy => ?_⟩
  obtain ⟨hendpoint, hgeneration⟩ := hable hwithdraws
  have hvalid := (cleanupIntent_valid hgenuine.1 hne hsound hport).mpr hendpoint
  exact (healthy_releases_iff hvalid rfl (normalizedProtocols_admitted hgenuine.1) hknown
    hhealthy).mpr hgeneration

/-- **In every run, the requests of a reconcile to a runtime after any calls are accepted exactly
when**, if it cleans up a deletion with its reservation recovered, the lease has an endpoint and the
runtime does not hold another generation of it.
SOURCE: portforward/controller.go:229-248, 312-330, 384-412;
portforward/manager.go:346-370 -/
theorem requests_accepted_iff_endpoint (d : Digest) (netip : Netip) (stored : StoredLease)
    (inputs : List LeaseInput) (hstart : SoundStatus stored.lease.status)
    (hgenuine : ∀ r ∈ leaseRun stored inputs, ∀ o, r.output = .read o → Genuine d netip o)
    (r : LeaseRecord) (hr : r ∈ leaseRun stored inputs) (o : OpenReconcile)
    (ho : r.output = .read o) (calls : List Call) :
    RequestsAccepted (managerAfter calls) o ↔
      (Withdraws o → Drainable (managerAfter calls) o.read.lease) := by
  have hinitial : SoundSystem d netip { store := some stored, pending := [] } := by
    refine ⟨fun other hother => ?_, fun o ho => by cases ho⟩
    cases hother
    exact hstart
  have hsteps := leaseRun_records stored inputs
  obtain ⟨-, hbefore, -⟩ := (exec_linked LeaseSystem.next _ inputs).invariant
    (fun r' hr' _ hsound => soundSystem_step (hsteps r' hr').2 (hgenuine r' hr') hsound
      (hsteps r' hr').1) hinitial r hr
  have hstep := (hsteps r hr).1
  rw [ho] at hstep
  have hsound : SoundStatus o.read.lease.status := by
    generalize r.after = after at hstep
    cases hstep with
    | kept _ _ _ _ _ houtput => exact absurd rfl (houtput o)
    | read current input hstore => exact hbefore.1 current hstore
  exact requestsAccepted_iff (hgenuine r hr o ho) hsound (managerAfter_known calls)

/-! ## Two deletions -/

def sampleNetip : Netip :=
  { parseAddr := fun _ => some (.v4 0x0a000003#32)
    parsePrefixAddr := fun _ => some (.v4 0x0a000002#32) }

/-- One Service with one running Pod, whose binding is live on the gateway. -/
def servedView (running : Bool) : BackendView :=
  { service := .ok
      { name := "service", uid := "service", external := false
        ports := [{ name := "", port := 8080, targetPort := .int 8080 }] }
    slices := .ok
      [{ uid := "slice", ipv4 := true, ports := [{ name := none, port := some 8080 }]
         ownerReferences := [{ apiVersion := "v1", kind := "Service", name := "service"
                               uid := "service", controller := some true }]
         endpoints := [{ addresses := ["10.0.0.3"], ready := some true, serving := none
                         terminating := none
                         targetRef := some { kind := "Pod", namespaceName := "media", name := "pod"
                                             uid := "pod" } }] }]
    bindings := .ok
      [{ namespaceName := "media", name := "binding", uid := "binding", generation := 1
         deletionTimestamp := none, finalizers := []
         spec :=
           { podRef := { name := "pod", uid := "pod" }, routeRef := { name := "route", uid := "route" }
             gatewayRef := { namespaceName := "vpn", name := "gateway", uid := "gw" }
             nodeName := "node", allocation := { identity := "pod", address := "10.0.0.2/32" }
             network :=
               { gatewayGeneration := 1, overlayCIDR := "10.0.0.0/24", gatewayAddress := "10.0.0.1"
                 gatewayEndpoint := "10.1.0.1", gatewayHealthPort := 9000, vni := 1, mtu := 1400
                 clusterTraffic := { mode := .bypassCluster, bypassCIDRs := [] } } }
         status :=
           { VPNWorkloadBindingStatus.empty with
             observedGeneration := 1
             conditions := [sampleCondition .programmed, sampleCondition .ready,
               sampleCondition .nodeReady] } }]
    pod := fun _ =>
      if running then .ok
        { namespaceName := "media", name := "pod", uid := "pod", routeLabel := "route"
          nodeName := "node", deletionTimestamp := none, phase := .running, podIP := "10.0.0.3" }
      else .error .notFound }

/-- `Reserve` on a gateway without other calls or reservations. -/
def reserveAlone (gateway : VPNGateway) : Except String UInt16 :=
  let answer : Answer := { failure := none, applied := true, view := [], now := 0 }
  match reserveCall sampleDigest "lease" gateway
    (List.replicate 3 (answer, KeyedStore.empty _)) .listing with
  | .done result => result
  | _ => .error "not done"

/-- A reconcile at `now` that finds the Pod, or not, and the lease's reservation. -/
def servedInput (running : Bool) (now : Time) : ReconcileInput :=
  let gateway := sampleGateway "gw" true
  { reconciler := sampleReconciler, runtime := some (confirmingRuntime now)
    api := { sampleApi gateway [] now with
      resolveBackend := resolve sampleNetip (servedView running) (sampleLease none)
      reserve := reserveAlone
      recover := recoverReservation sampleDigest "lease" "vpn"
        (.ok [desiredProviderReservation sampleDigest "lease" gateway 49152]) } }

theorem servedView_named (running : Bool) : SlicesNamed (servedView running) := by
  intro slices hslices slice hslice
  cases hslices
  rw [List.mem_singleton.mp hslice]
  decide

theorem servedInput_genuine {stored : StoredLease} {running : Bool} {now : Time}
    (hnamespace : stored.lease.namespaceName = "media") (huid : stored.lease.uid = "lease")
    (hspec : stored.lease.spec = (sampleLease none).spec) :
    Genuine sampleDigest sampleNetip { read := stored, input := servedInput running now } := by
  obtain ⟨⟨namespaceName, name, uid, generation, deleted, finalizers, spec, status⟩, version⟩ := stored
  cases hnamespace
  cases huid
  cases hspec
  refine ⟨⟨by simp, by simp, by simp, by simp, by simp, by simp⟩, ?_⟩
  refine ⟨?_, ?_, fun gateway => ⟨servedView running, servedView_named running, rfl⟩, ?_,
    ⟨.ok [desiredProviderReservation sampleDigest "lease" (sampleGateway "gw" true) 49152], rfl⟩⟩
  · intro resolution gateway hresolution hgateway
    cases hresolution
    cases hgateway
    decide
  · intro gateway hgateway
    cases hgateway
    decide
  · intro gateway port hreserve
    replace hreserve : reserveAlone gateway = .ok port := hreserve
    unfold reserveAlone at hreserve
    dsimp only at hreserve
    split at hreserve
    · next result hdone =>
      cases hreserve
      exact ⟨_, hdone⟩
    · cases hreserve

/-- The lease as it is deleted. -/
def deletion (now : Time) : LeaseEdit :=
  { generation := 2, deletionTimestamp := some now, finalizers := [providerCleanupFinalizer]
    spec := (sampleLease none).spec }

/-- The lease selects its Pod and is deleted while it has the endpoint. -/
def deletedInUse : List LeaseInput :=
  [.read (servedInput true 1), .write 0, .edit (deletion 2), .read (servedInput true 3)]

/-- The Pod goes away, its withdrawal is confirmed, and then the lease is deleted. -/
def deletedAfterDrain : List LeaseInput :=
  [.read (servedInput true 1), .write 0, .read (servedInput false 2), .write 0, .edit (deletion 3),
    .read (servedInput false 4)]

theorem deletedInUse_genuine : ∀ r ∈ leaseRun ⟨sampleLease none, 0⟩ deletedInUse, ∀ o,
    r.output = .read o → Genuine sampleDigest sampleNetip o := by
  simp only [leaseRun, deletedInUse, exec_cons, exec_nil, List.forall_mem_cons]
  refine ⟨?_, ?_, ?_, ?_, by simp⟩ <;> intro o houtput <;> cases houtput
  · exact servedInput_genuine rfl rfl rfl
  · exact servedInput_genuine rfl rfl rfl

theorem deletedAfterDrain_genuine : ∀ r ∈ leaseRun ⟨sampleLease none, 0⟩ deletedAfterDrain, ∀ o,
    r.output = .read o → Genuine sampleDigest sampleNetip o := by
  simp only [leaseRun, deletedAfterDrain, exec_cons, exec_nil, List.forall_mem_cons]
  refine ⟨?_, ?_, ?_, ?_, ?_, ?_, by simp⟩ <;> intro o houtput <;> cases houtput
  · exact servedInput_genuine rfl rfl rfl
  · exact servedInput_genuine rfl rfl rfl
  · exact servedInput_genuine rfl rfl rfl

/-- A runtime that has programmed the first generation of the lease. -/
def programmedCalls : List Call :=
  [.reconcile "gw" (sampleIntent "lease" 1) (sampleBackends 1 (.ok (sampleGrant 1)) none)]

theorem requests_accepted_iff_endpoint_in_use :
    ∃ r ∈ leaseRun ⟨sampleLease none, 0⟩ deletedInUse, ∃ o,
      r.output = .read o ∧ Withdraws o ∧
      ((managerAfter programmedCalls).state? o.read.lease.uid).isSome = true ∧
      RequestsAccepted (managerAfter programmedCalls) o := by
  have hlength : 3 < (leaseRun ⟨sampleLease none, 0⟩ deletedInUse).length := by decide
  refine ⟨(leaseRun ⟨sampleLease none, 0⟩ deletedInUse)[3], List.getElem_mem hlength, _, rfl,
    ⟨by simp [deletion], by decide +kernel, by simp [servedInput], _, rfl⟩, by decide +kernel, ?_⟩
  apply (requests_accepted_iff_endpoint sampleDigest sampleNetip ⟨sampleLease none, 0⟩ deletedInUse
    soundStatus_empty deletedInUse_genuine _ (List.getElem_mem hlength) _ rfl programmedCalls).mpr
  intro _
  refine ⟨by decide +kernel, fun state hstate => ?_⟩
  have hheld : ((managerAfter programmedCalls).state? "lease").map
      (·.intent.handoffGeneration) = some 1 := by decide +kernel
  have hgeneration := congrArg (Option.map (·.intent.handoffGeneration)) hstate
  exact Option.some.inj (hgeneration.symm.trans hheld)

/-- INTERNAL: a runtime does nothing for a withdrawal it refuses.
SOURCE: portforward/manager.go:222-228 -/
theorem withdraw_refused {err : RuntimeError} (h : validateWithdrawal gatewayUID intent = some err)
    (m : GatewayRuntimeManager) (b : Backends) : (m.withdraw b gatewayUID intent).effects = [] := by
  simp [GatewayRuntimeManager.withdraw, h, refuse]

/-- The deletion of a drained lease sends a withdrawal without a Pod UID; no runtime does anything
about it. -/
theorem drained_lease_withdrawal_refused :
    (∀ r ∈ leaseRun ⟨sampleLease none, 0⟩ deletedAfterDrain, ∀ o,
      r.output = .read o → Genuine sampleDigest sampleNetip o) ∧
    ∃ r ∈ leaseRun ⟨sampleLease none, 0⟩ deletedAfterDrain, ∃ o gateway intent answer,
      r.output = .read o ∧ Withdraws o ∧
      o.result.sent = some (.withdraw gateway intent answer) ∧
      validateWithdrawal gateway.uid intent = some .withdrawalInvalid ∧
      ∀ (m : GatewayRuntimeManager) (b : Backends),
        (m.withdraw b gateway.uid intent).effects = [] := by
  have hlength : 5 < (leaseRun ⟨sampleLease none, 0⟩ deletedAfterDrain).length := by decide
  refine ⟨deletedAfterDrain_genuine, (leaseRun ⟨sampleLease none, 0⟩ deletedAfterDrain)[5],
    List.getElem_mem hlength, _, _, _, _, rfl,
    ⟨by simp [deletion], by decide +kernel, by simp [servedInput], _, rfl⟩, rfl, ?_⟩
  suffices hrefused : validateWithdrawal _ _ = some .withdrawalInvalid from
    ⟨hrefused, withdraw_refused hrefused⟩
  decide +kernel

end Waycloak.Analysis
