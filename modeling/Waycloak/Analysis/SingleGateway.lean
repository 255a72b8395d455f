import Waycloak.Interface.DeploymentSteps

/-!
# A lease is forwarded by one gateway

The status of a lease does not say which gateway its endpoint was programmed on. A drain
withdraws from the gateway that the reference resolves to now, and takes the answer of a
runtime that never held the lease for the withdrawal of the one that does.

As long as the reference resolves to one gateway UID per handoff generation while an endpoint
is stored (`AtHome`), at most one runtime holds an undrained state of the lease, and a new
gateway is programmed only after a confirmed withdrawal from the old one.
`moved_reference_forwards_twice` is the run in which the reference is edited under an active
endpoint.
-/

set_option autoImplicit false

namespace Waycloak.Analysis

open Waycloak.Model Waycloak.Interface Waycloak.Computation

variable {gateway : VPNGateway} {s : Deployment} {home : Int → ObjectUID} {leaseUID : ObjectUID}

/-- The runtime has a state of the lease that is not drained. -/
def Holds (leaseUID : ObjectUID) (m : GatewayRuntimeManager) : Prop :=
  ∃ state, m.state? leaseUID = some state ∧ state.drained = false

def AtMostOneHolder (leaseUID : ObjectUID) (s : Deployment) : Prop :=
  ∀ a b, Holds leaseUID (s.gateways a) → Holds leaseUID (s.gateways b) → a = b

/-- The step sends the lease's intent to this gateway. -/
def ProgramsAt (r : DeploymentRecord) (gatewayUID : ObjectUID) : Prop :=
  ∃ gateway intent answer, r.output.sent = some (.reconcile gateway intent answer) ∧
    gateway.uid = gatewayUID

/-- The step obtains an exact and fresh `Withdrawn` from this gateway. -/
def WithdrawnFrom (r : DeploymentRecord) (gatewayUID : ObjectUID) : Prop :=
  ∃ step gateway intent answer, r.input = .reconcile step ∧
    r.output.sent = some (.withdraw gateway intent answer) ∧ gateway.uid = gatewayUID ∧
    Confirmed step.reconciler step.api.now intent answer

/-- While an endpoint is stored, the gateway reference resolves to the home of its generation. -/
def AtHome (home : Int → ObjectUID) (s : Deployment) (input : DeploymentInput) : Prop :=
  ∀ step stored resolution gateway, input = .reconcile step → s.store = some stored →
    stored.lease.status.activeEndpoint ≠ none → step.api.resolveGateway = .ok resolution →
    resolution.gateway = some gateway →
    gateway.uid = home stored.lease.status.handoffGeneration

/-- Only the home of the stored generation holds the lease, and only for a stored endpoint. -/
def HeldAtHome (home : Int → ObjectUID) (leaseUID : ObjectUID) (s : Deployment) : Prop :=
  AtMostOneHolder leaseUID s ∧ ∀ stored, s.store = some stored → stored.lease.uid = leaseUID ∧
    ∀ gatewayUID, Holds leaseUID (s.gateways gatewayUID) →
      stored.lease.status.activeEndpoint ≠ none ∧
        gatewayUID = home stored.lease.status.handoffGeneration

/-! ## One reconcile -/

section Reconcile

variable {stored : StoredLease} {step : ReconcileStep}

theorem evaluate_atHome (hhome : AtHome home s (.reconcile step)) (hstore : s.store = some stored)
    (hactive : stored.lease.status.activeEndpoint ≠ none)
    (hgateway : (evaluate stored.lease step.api).gateway = some gateway) :
    gateway.uid = home stored.lease.status.handoffGeneration := by
  obtain ⟨resolution, hresolve, hresolved⟩ := evaluate_gateway hgateway
  exact hhome step stored resolution gateway rfl hstore hactive hresolve hresolved

/-- INTERNAL: after the request of a reconcile, only the home holds the lease, and only for an
endpoint that was stored before. -/
theorem holds_reconciled {gateways' : Gateways} {reply : Option Reply}
    (hhome : AtHome home s (.reconcile step)) (hinv : HeldAtHome home leaseUID s)
    (hstore : s.store = some stored)
    (hhandled : Handled s.gateways (s.reconcileOf stored step).result.sent gateways' reply) :
    ∀ gatewayUID, Holds leaseUID (gateways' gatewayUID) →
      stored.lease.status.activeEndpoint ≠ none ∧
        gatewayUID = home stored.lease.status.handoffGeneration := by
  rintro gatewayUID ⟨state', hstate', hundrained⟩
  rcases handled_state hhandled hstate' with ⟨state, hheld, -, hdrained⟩ |
    ⟨gateway, intent, answer, hsent, huid, -⟩
  · apply (hinv.2 stored hstore).2 gatewayUID
    refine ⟨state, hheld, ?_⟩
    by_contra hnot
    have htrue := hdrained (by simpa using hnot)
    rw [hundrained] at htrue
    cases htrue
  · obtain ⟨endpoint, candidate, port, hactive, -, hgateway, -⟩ := reconcile_sent hsent
    have hsome : stored.lease.status.activeEndpoint ≠ none := by
      intro hnone
      exact absurd (hactive.symm.trans hnone) (by simp)
    refine ⟨hsome, ?_⟩
    rw [← huid]
    exact evaluate_atHome hhome hstore hsome hgateway

/-- INTERNAL: what a confirmed withdrawal of a live lease says: it came from the home of the stored
generation, which is drained. -/
theorem obtainedWithdrawn_home (hhome : AtHome home s (.reconcile step))
    (hstore : s.store = some stored) (hlive : stored.lease.deletionTimestamp = none)
    (h : ObtainedWithdrawn step.reconciler step.api.now stored.lease
      (s.reconcileOf stored step).result.sent) :
    (∃ gateway intent answer, (s.reconcileOf stored step).result.sent =
        some (.withdraw gateway intent answer) ∧
      gateway.uid = home stored.lease.status.handoffGeneration ∧
      Confirmed step.reconciler step.api.now intent answer) ∧
    ¬ Holds stored.lease.uid ((Deployment.handle s.gateways step.transport
      (s.reconcileOf stored step).result.sent).1 (home stored.lease.status.handoffGeneration)) := by
  obtain ⟨endpoint, gateway, intent, answer, hactive, hsent, hconfirmed, -, -⟩ := h
  obtain ⟨⟨hlease, -, -⟩, ⟨rt, hrt, hanswer⟩, hwhy⟩ := reconcile_withdraws hsent
  have hgateway : gateway.uid = home stored.lease.status.handoffGeneration := by
    rcases hwhy with ⟨hdeleted, -⟩ | ⟨hgateway, -⟩
    · exact absurd hlive hdeleted
    · exact evaluate_atHome hhome hstore (by simp [hactive]) hgateway
  refine ⟨⟨gateway, intent, answer, hsent, hgateway, hconfirmed⟩, ?_⟩
  rintro ⟨state, hstate, hundrained⟩
  cases hrt
  rw [hanswer] at hconfirmed
  rw [hsent, ← hgateway] at hstate
  change _ = stored.lease.uid at hlease
  rw [← hlease] at hstate
  have hdrained := confirmed_drained hconfirmed state hstate
  rw [hundrained] at hdrained
  cases hdrained

/-- INTERNAL: a reconcile leaves a stored target in its generation, or starts from none, or has
obtained its withdrawal. -/
theorem reconciled_target {stored' : StoredLease}
    (h : (if step.written then stored.write (s.reconcileOf stored step) else some stored) =
      some stored') :
    stored'.lease.uid = stored.lease.uid ∧
    ((stored'.lease.status.handoffGeneration = stored.lease.status.handoffGeneration ∧
        (stored.lease.status.activeEndpoint ≠ none → stored'.lease.status.activeEndpoint ≠ none)) ∨
      stored.lease.status.activeEndpoint = none ∨
      (stored.lease.deletionTimestamp = none ∧
        ObtainedWithdrawn step.reconciler step.api.now stored.lease
          (s.reconcileOf stored step).result.sent)) := by
  obtain ⟨huid, hwritten⟩ := reconciled_store h
  refine ⟨huid, ?_⟩
  rcases hwritten with hkept | hwritten
  · rw [hkept]
    exact Or.inl ⟨rfl, id⟩
  obtain ⟨hlive, outcome, houtcome, hsent, hcase⟩ := reconcile_written hwritten
  change (s.reconcileOf stored step).result.sent = outcome.sent at hsent
  rw [← houtcome, hsent]
  rcases statusCase_written hcase with ⟨hgeneration, ⟨-, hfrom⟩ | ⟨endpoint, endpoint', -, hnew, -⟩⟩ |
    ⟨-, -, hfrom⟩
  · exact Or.inr (hfrom.imp id fun hobtained => ⟨hlive, hobtained⟩)
  · exact Or.inl ⟨hgeneration, fun _ => by simp [hnew]⟩
  · exact Or.inr (hfrom.imp id fun hobtained => ⟨hlive, hobtained⟩)

end Reconcile

/-! ## Runs -/

section Runs

variable {r : DeploymentRecord}

theorem heldAtHome_step (hr : r = record (Deployment.next leaseUID) r.before r.input)
    (hhome : AtHome home r.before r.input) (hinv : HeldAtHome home leaseUID r.before) :
    HeldAtHome home leaseUID r.after := by
  have hcase := record_deploymentCase hr
  generalize r.after = after, r.output = output, r.input = input at hcase hhome ⊢
  cases hcase with
  | quiet _ _ hstore hstates =>
    have hholds : ∀ gatewayUID, Holds leaseUID (after.gateways gatewayUID) →
        Holds leaseUID (r.before.gateways gatewayUID) := by
      rintro gatewayUID ⟨state, hstate, hundrained⟩
      exact ⟨state, (hstates gatewayUID).symm.trans hstate, hundrained⟩
    refine ⟨fun a b ha hb => hinv.1 a b (hholds a ha) (hholds b hb), ?_⟩
    intro stored' hstored'
    rcases hstore with hstore | ⟨stored, lease, hold, hkept, hstore⟩
    · obtain ⟨huid, hheld⟩ := hinv.2 stored' (hstore ▸ hstored')
      exact ⟨huid, fun gatewayUID h => hheld gatewayUID (hholds gatewayUID h)⟩
    rw [hstore] at hstored'
    obtain ⟨huid, hheld⟩ := hinv.2 stored hold
    rw [(replace_some hstored').1, hkept.uid, hkept.status]
    exact ⟨huid, fun gatewayUID h => hheld gatewayUID (hholds gatewayUID h)⟩
  | reconciled stored step hold =>
    have hheld := holds_reconciled hhome hinv hold (handle_handled _ step.transport _)
    refine ⟨fun a b ha hb => ((hheld a ha).2).trans ((hheld b hb).2).symm, ?_⟩
    intro stored' hstored'
    obtain ⟨huid, htarget⟩ := reconciled_target hstored'
    have huid' := (hinv.2 stored hold).1
    refine ⟨huid.trans huid', ?_⟩
    intro gatewayUID hholds
    obtain ⟨hactive, hat⟩ := hheld gatewayUID hholds
    rcases htarget with ⟨hgeneration, hkept⟩ | hnone | ⟨hlive, hobtained⟩
    · rw [hgeneration]
      exact ⟨hkept hactive, hat⟩
    · exact absurd hnone hactive
    · have hgone := (obtainedWithdrawn_home hhome hold hlive hobtained).2
      rw [huid', ← hat] at hgone
      exact absurd hholds hgone

/-- The stored lease has an endpoint at this generation. -/
def StoredAt (generation : Int) (s : Deployment) : Prop :=
  ∀ stored, s.store = some stored →
    stored.lease.status.handoffGeneration = generation ∧ stored.lease.status.activeEndpoint ≠ none

theorem storedAt_step {generation : Int}
    (hr : r = record (Deployment.next leaseUID) r.before r.input)
    (hhome : AtHome home r.before r.input) (h : StoredAt generation r.before) :
    WithdrawnFrom r (home generation) ∨ StoredAt generation r.after := by
  have hcase := record_deploymentCase hr
  unfold WithdrawnFrom
  generalize r.after = after, r.output = output, r.input = input at hcase hhome ⊢
  cases hcase with
  | quiet _ _ hstore =>
    right
    intro stored' hstored'
    rcases hstore with hstore | ⟨stored, lease, hold, hkept, hstore⟩
    · exact h stored' (hstore ▸ hstored')
    · rw [hstore] at hstored'
      rw [(replace_some hstored').1, hkept.status]
      exact h stored hold
  | reconciled stored step hold =>
    obtain ⟨hgeneration, hactive⟩ := h stored hold
    by_cases hobtained : stored.lease.deletionTimestamp = none ∧
        ObtainedWithdrawn step.reconciler step.api.now stored.lease
          (r.before.reconcileOf stored step).result.sent
    · obtain ⟨gateway, intent, answer, hsent, hgateway, hconfirmed⟩ :=
        (obtainedWithdrawn_home hhome hold hobtained.1 hobtained.2).1
      rw [hgeneration] at hgateway
      refine Or.inl ⟨step, gateway, intent, answer, rfl, ?_, hgateway, hconfirmed⟩
      rw [handle_sent]
      exact hsent
    · right
      intro stored' hstored'
      rcases (reconciled_target hstored').2 with ⟨hsame, hkept⟩ | hnone | hwithdrawn
      · exact ⟨hsame.trans hgeneration, hkept hactive⟩
      · exact absurd hnone hactive
      · exact absurd hwithdrawn hobtained

theorem programsAt_home {gatewayUID : ObjectUID}
    (hr : r = record (Deployment.next leaseUID) r.before r.input)
    (hhome : AtHome home r.before r.input) (h : ProgramsAt r gatewayUID) :
    ∃ generation, gatewayUID = home generation ∧ StoredAt generation r.before ∧
      ∃ stored, r.before.store = some stored := by
  obtain ⟨gateway, intent, answer, hsent, huid⟩ := h
  have hcase := record_deploymentCase hr
  generalize r.after = after, r.output = output, r.input = input at hcase hhome hsent
  cases hcase with
  | quiet => cases hsent
  | reconciled stored step hold =>
    rw [handle_sent] at hsent
    obtain ⟨endpoint, candidate, port, hactive, -, hgateway, -⟩ := reconcile_sent hsent
    have hsome : stored.lease.status.activeEndpoint ≠ none := by
      intro hnone
      exact absurd (hactive.symm.trans hnone) (by simp)
    refine ⟨stored.lease.status.handoffGeneration, ?_, ?_, stored, hold⟩
    · rw [← huid]
      exact evaluate_atHome hhome hold hsome hgateway
    intro stored' hstored'
    rw [hold] at hstored'
    cases hstored'
    exact ⟨rfl, hsome⟩

end Runs

/-- **A lease is forwarded by at most one gateway**, and reaches a new gateway only after a
confirmed withdrawal from the one before, in the runs in which a generation has one gateway.
SOURCE: portforward/controller.go:99-133, 182-257, 312-355 -/
theorem forwarded_by_one_gateway (home : Int → ObjectUID) (stored : StoredLease)
    (inputs : List DeploymentInput)
    (hhome : ∀ r ∈ deploymentRun stored inputs, AtHome home r.before r.input) :
    (∀ r ∈ deploymentRun stored inputs, AtMostOneHolder stored.lease.uid r.before ∧
      AtMostOneHolder stored.lease.uid r.after) ∧
    ∀ pre a mid b post, deploymentRun stored inputs = pre ++ a :: (mid ++ b :: post) →
      ∀ gatewayA gatewayB, ProgramsAt a gatewayA → ProgramsAt b gatewayB → gatewayA ≠ gatewayB →
        ∃ w ∈ mid, WithdrawnFrom w gatewayA := by
  have hlinked := exec_linked (Deployment.next stored.lease.uid)
    { store := some stored, gateways := fun _ => GatewayRuntimeManager.start } inputs
  change Linked _ _ (deploymentRun stored inputs) at hlinked
  have hnobody : ∀ gatewayUID,
      ¬ Holds stored.lease.uid ((fun _ => GatewayRuntimeManager.start : Gateways) gatewayUID) := by
    rintro gatewayUID ⟨state, hstate, -⟩
    simp at hstate
  have hstart : HeldAtHome home stored.lease.uid
      { store := some stored, gateways := fun _ => GatewayRuntimeManager.start } := by
    refine ⟨fun a b ha _ => absurd ha (hnobody a), ?_⟩
    intro stored' hstored'
    cases hstored'
    exact ⟨rfl, fun gatewayUID h => absurd h (hnobody gatewayUID)⟩
  have hinvariant := hlinked.invariant
    (fun r hr hrec hinv => heldAtHome_step hrec (hhome r hr) hinv) hstart
  refine ⟨fun r hr => ⟨(hinvariant r hr).2.1.1, (hinvariant r hr).2.2.1⟩, ?_⟩
  intro pre a mid b post hrun gatewayA gatewayB ha hb hne
  have hmem : ∀ r, r = a ∨ r ∈ mid ∨ r = b → r ∈ deploymentRun stored inputs :=
    fun r hr => mem_between hrun hr
  obtain ⟨hrecA, hbetween, hrecB, hbeforeB⟩ := exec_between hrun
  obtain ⟨generation, rfl, hstored, -⟩ := programsAt_home hrecA (hhome a (hmem a (Or.inl rfl))) ha
  obtain ⟨generation', rfl, hstored', held, hheld⟩ :=
    programsAt_home hrecB (hhome b (hmem b (Or.inr (Or.inr rfl)))) hb
  -- the step that programs the first gateway sends no withdrawal, so its endpoint stays stored
  have hafter : StoredAt generation a.after := by
    rcases storedAt_step hrecA (hhome a (hmem a (Or.inl rfl))) hstored with hwithdrawn | hafter
    · obtain ⟨gateway, intent, answer, hsent, -⟩ := ha
      obtain ⟨step, gateway', intent', answer', -, hsent', -⟩ := hwithdrawn
      rw [hsent] at hsent'
      cases hsent'
    · exact hafter
  rcases hbetween.until
      (fun r hr hrec h => storedAt_step hrec (hhome r (hmem r (Or.inr (Or.inl hr)))) h) hafter with
    hevent | hend
  · exact hevent
  rw [← hbeforeB] at hend
  have hsame : generation = generation' :=
    (hend held hheld).1.symm.trans (hstored' held hheld).1
  exact absurd (congrArg home hsame) hne

/-- The edit that moves the reference of the sample lease to another gateway. -/
def movedReference : DeploymentInput :=
  .edit
    { generation := 2, deletionTimestamp := none, finalizers := [providerCleanupFinalizer]
      spec := { (sampleLease none).spec with gatewayRef := { namespaceName := "vpn", name := "other" } } }

/-- The lease is programmed on `east`, withdrawn when `east` loses its readiness, and programmed on
`west` after the reference has moved. -/
def drainedMove : List DeploymentInput :=
  [sampleReconcile (sampleGateway "east" true) ["a"] 1, sampleReconcile (sampleGateway "east" true) ["a"] 2,
    sampleReconcile (sampleGateway "east" false) ["a"] 3, movedReference,
    sampleReconcile (sampleGateway "west" true) ["b"] 4, sampleReconcile (sampleGateway "west" true) ["b"] 5]

/-- Generation 1 lives on `east`, all others on `west`. -/
def movedHome (generation : Int) : ObjectUID := if generation = 1 then "east" else "west"

theorem atHome_of_sample {pods : List ObjectUID} {now : Time}
    (h : (s.store.all fun stored => decide (stored.lease.status.activeEndpoint = none ∨
      gateway.uid = movedHome stored.lease.status.handoffGeneration)) = true) :
    AtHome movedHome s (sampleReconcile gateway pods now) := by
  intro step stored resolution resolved hinput hstore hactive hresolve hresolved
  cases hinput
  cases hresolve
  cases hresolved
  rw [hstore] at h
  simp only [Option.all_some, decide_eq_true_eq] at h
  exact h.resolve_left hactive

theorem drainedMove_atHome :
    ∀ r ∈ deploymentRun ⟨sampleLease none, 0⟩ drainedMove, AtHome movedHome r.before r.input := by
  simp only [deploymentRun, drainedMove, exec_cons, exec_nil, List.forall_mem_cons]
  refine ⟨atHome_of_sample (by decide +kernel), atHome_of_sample (by decide +kernel),
    atHome_of_sample (by decide +kernel), ?_, atHome_of_sample (by decide +kernel),
    atHome_of_sample (by decide +kernel), by simp⟩
  intro step stored resolution gateway hinput
  cases hinput

theorem programsAt_iff (r : DeploymentRecord) (gatewayUID : ObjectUID) :
    ProgramsAt r gatewayUID ↔ (r.output.sent.any fun sent => match sent with
      | .reconcile gateway _ _ => decide (gateway.uid = gatewayUID)
      | .withdraw _ _ _ => false) = true := by
  unfold ProgramsAt
  rcases r.output.sent with _ | ⟨gateway, intent, answer⟩ | ⟨gateway, intent, answer⟩ <;> simp

theorem holds_iff (leaseUID : ObjectUID) (m : GatewayRuntimeManager) :
    Holds leaseUID m ↔ ((m.state? leaseUID).any fun state => !state.drained) = true := by
  unfold Holds
  cases m.state? leaseUID <;> simp

theorem forwarded_by_one_gateway_move :
    ∃ w ∈ deploymentRun ⟨sampleLease none, 0⟩ drainedMove, WithdrawnFrom w "east" := by
  have hprograms : ∃ pre a mid b post, deploymentRun ⟨sampleLease none, 0⟩ drainedMove =
      pre ++ a :: (mid ++ b :: post) ∧ ProgramsAt a "east" ∧ ProgramsAt b "west" := by
    simp only [programsAt_iff]
    exact ⟨[_], _, [_, _, _], _, [], rfl, by decide +kernel, by decide +kernel⟩
  obtain ⟨pre, a, mid, b, post, hrun, ha, hb⟩ := hprograms
  obtain ⟨w, hw, hwithdrawn⟩ := (forwarded_by_one_gateway movedHome ⟨sampleLease none, 0⟩ drainedMove
    drainedMove_atHome).2 pre a mid b post hrun "east" "west" ha hb (by decide)
  exact ⟨w, by simp [hrun, hw], hwithdrawn⟩

/-- The same move under an active endpoint: the drain asks `west`, which never held the lease. -/
def activeMove : List DeploymentInput :=
  [sampleReconcile (sampleGateway "east" true) ["a"] 1, sampleReconcile (sampleGateway "east" true) ["a"] 2,
    movedReference, sampleReconcile (sampleGateway "west" true) [] 3,
    sampleReconcile (sampleGateway "west" true) ["b"] 4, sampleReconcile (sampleGateway "west" true) ["b"] 5]

/-- Every request succeeds, and in the end both gateways have a rule of the lease. -/
theorem moved_reference_forwards_twice :
    (∀ r ∈ deploymentRun ⟨sampleLease none, 0⟩ activeMove,
      ∀ reply, r.output.reply = some reply → reply.err = none) ∧
    ∃ r ∈ deploymentRun ⟨sampleLease none, 0⟩ activeMove,
      Holds "lease" (r.after.gateways "east") ∧ Holds "lease" (r.after.gateways "west") ∧
      ((r.after.gateways "east").ruleSet fun _ => 5).map (·.leaseUID) = ["lease"] ∧
      ((r.after.gateways "west").ruleSet fun _ => 5).map (·.leaseUID) = ["lease"] := by
  have hsucceed : ∀ r ∈ deploymentRun ⟨sampleLease none, 0⟩ activeMove,
      (r.output.reply.all fun reply => decide (reply.err = none)) = true := by
    decide +kernel
  simp only [holds_iff]
  refine ⟨?_, by decide +kernel⟩
  intro r hr reply hreply
  have h := hsucceed r hr
  rw [hreply] at h
  simpa using h

end Waycloak.Analysis
