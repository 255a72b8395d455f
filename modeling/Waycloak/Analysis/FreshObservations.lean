import Mathlib.Data.List.Chain
import Mathlib.Tactic.Linarith
import Waycloak.Model.Observations

/-!
# How long an observation is trusted

The binding controller sets Ready while the agent's observation is younger than its TTL and asks
to look again at the moment it no longer is: by then the observation counts as stale, so a timely
pass withdraws Ready (`binding_readiness_exact`).

The Node controller asks for its next run at the same kind of moment, but there a report counts as
fresh still, and the delay it then asks for is zero, which is no request at all. So runs made
exactly when asked never withdraw the label of a report that was fresh when the first of them saw
it (`capability_withdrawn_iff`); any later run does.
-/

set_option autoImplicit false

namespace Waycloak.Analysis

open Waycloak.Model Waycloak.Model.VPNWorkloadBindingReconciler

/-! ## The readiness of a binding -/

section Binding

variable {r : VPNWorkloadBindingReconciler} {binding : VPNWorkloadBinding} {now : Time}

/-- The status has Ready=True. -/
def SetsReady (status : VPNWorkloadBindingStatus) : Prop :=
  ∃ c ∈ status.conditions, c.type = .ready ∧ c.status = .true

/-- The gateway was read with the binding's gateway UID, is not deleting, has the generation of the
binding's network intent and is Ready at it. -/
def GatewayLive (binding : VPNWorkloadBinding) (read : Except ReadError EgressGateway) : Prop :=
  ∃ gateway, read = .ok gateway ∧ gateway.uid ≠ "" ∧ gateway.uid = binding.spec.gatewayRef.uid ∧
    gateway.deletionTimestamp = none ∧
    gateway.generation = binding.spec.network.gatewayGeneration ∧
    currentTrue gateway.conditions .ready gateway.observedGeneration gateway.generation = true

/-- The status holds the agent's observation of the binding's own generation, Pod, gateway and node,
and its age is below the TTL. -/
def AgentLive (r : VPNWorkloadBindingReconciler) (binding : VPNWorkloadBinding) (now : Time) :
    Prop :=
  binding.status.appliedGeneration = binding.generation ∧
    binding.status.observedPodUID = binding.spec.podRef.uid ∧
    binding.status.observedGatewayUID = binding.spec.gatewayRef.uid ∧
    ∃ agent, binding.status.agent = some agent ∧ agent.nodeName = binding.spec.nodeName ∧
      age now agent.observedAt < r.observationTTL

theorem observationTTL_pos : 0 < r.observationTTL := by
  unfold observationTTL
  split
  · assumption
  · decide

theorem exactAgent_eq_some {agent : NodeAgentObservation} : exactAgent binding = some agent ↔
      binding.status.agent = some agent ∧ binding.status.observedPodUID = binding.spec.podRef.uid ∧
        binding.status.observedGatewayUID = binding.spec.gatewayRef.uid ∧
        agent.nodeName = binding.spec.nodeName := by
  simp [exactAgent, Option.filter_eq_some_iff, and_assoc]

theorem observeGateway_ready {read : Except ReadError EgressGateway} :
    (observeGateway binding read).ready.status = .true ↔ GatewayLive binding read := by
  unfold observeGateway GatewayLive
  split
  · simp [State.false]
  · simp [State.unknown]
  · next gateway =>
    split
    · next hother =>
      refine iff_of_false (by simp [State.false]) ?_
      rintro ⟨_, heq, huid, hsame, hdeletion, -⟩
      cases heq
      rw [hsame] at huid
      simp [huid, hsame, hdeletion] at hother
    · next hexact =>
      push Not at hexact
      obtain ⟨huid, hsame, hdeletion⟩ := hexact
      have hnone : gateway.deletionTimestamp = none := by simpa using hdeletion
      have heligible : gatewayEligible gateway = currentTrue gateway.conditions .ready
          gateway.observedGeneration gateway.generation := by
        simp [gatewayEligible, huid, hnone]
      simp only [heligible]
      split
      · next hgeneration =>
        refine iff_of_false (by simp [State.false]) ?_
        rintro ⟨_, heq, -, -, -, hsame, -⟩
        cases heq
        exact hgeneration hsame.symm
      · next hgeneration =>
        split
        · next hready =>
          refine iff_of_false (by simp [State.false]) ?_
          rintro ⟨_, heq, -, -, -, -, htrue⟩
          cases heq
          rw [hready] at htrue
          cases htrue
        · next hready =>
          refine iff_of_true rfl ⟨gateway, rfl, huid, hsame, hnone, ?_, ?_⟩
          · exact (not_not.mp hgeneration).symm
          · simpa using hready

/-- INTERNAL: what the states say about Ready, and the delay that goes with it. -/
theorem desiredStates_ready (r : VPNWorkloadBindingReconciler) (binding : VPNWorkloadBinding)
    (observation : BindingGatewayObservation) (now : Time) :
    (∃ state, (r.desiredStates binding observation now).1 .ready = some state ∧
      (state.status = .true ↔ observation.ready.status = .true ∧ AgentLive r binding now)) ∧
    (AgentLive r binding now → ∃ agent, binding.status.agent = some agent ∧
      (r.desiredStates binding observation now).2 =
        r.observationTTL - age now agent.observedAt) := by
  have hlive : AgentLive r binding now ↔ binding.status.appliedGeneration = binding.generation ∧
      ∃ agent, exactAgent binding = some agent ∧ age now agent.observedAt < r.observationTTL := by
    simp only [AgentLive, exactAgent_eq_some]
    grind
  rw [hlive]
  unfold desiredStates
  by_cases happlied : binding.status.appliedGeneration = binding.generation
  · cases hagent : exactAgent binding with
    | none =>
      by_cases hgateway : observation.ready.status = .true
      · simp [happlied, hgateway, States.set, State.false]
      · simp [happlied, hgateway, States.set]
    | some agent =>
      have hstored := (exactAgent_eq_some.mp hagent).1
      by_cases hfresh : age now agent.observedAt < r.observationTTL <;>
        by_cases hgateway : observation.ready.status = .true <;>
        simp [happlied, hstored, hgateway, hfresh, States.set, State.false, State.true]
  · by_cases hstale : 0 < binding.status.appliedGeneration <;>
      by_cases hgateway : observation.ready.status = .true <;>
      simp [happlied, hgateway, hstale, States.set, State.unknown]

theorem setsReady_iff {pass : BindingPass} : SetsReady (r.reconcile pass).1 ↔
    GatewayLive pass.binding pass.gateway ∧ AgentLive r pass.binding pass.now := by
  obtain ⟨⟨state, hstate, hready⟩, -⟩ := desiredStates_ready r pass.binding
    (observeGateway pass.binding pass.gateway) pass.now
  rw [← observeGateway_ready, ← hready]
  simp [SetsReady, reconcile, VPNWorkloadBindingReconciler.desiredStatus, build, hstate]

/-- The second pass follows the first one in time, and no later than the first one asked for. -/
def TimelyAfter (r : VPNWorkloadBindingReconciler) (p q : BindingPass) : Prop :=
  p.now ≤ q.now ∧ (0 < (r.reconcile p).2 → q.now ≤ p.now + (r.reconcile p).2)

/-- **Binding readiness is exact and fresh**: when Ready is set, when the controller looks again,
and how long Ready stands in a run of timely passes. -/
structure ReadinessExact (r : VPNWorkloadBindingReconciler) : Prop where
  ready : ∀ pass, SetsReady (r.reconcile pass).1 ↔
    GatewayLive pass.binding pass.gateway ∧ AgentLive r pass.binding pass.now
  requeue : ∀ pass, SetsReady (r.reconcile pass).1 → 0 < (r.reconcile pass).2 ∧
    ∃ agent, pass.binding.status.agent = some agent ∧
      pass.now + (r.reconcile pass).2 ≤ agent.observedAt + r.observationTTL
  stands : ∀ passes : List BindingPass, passes.IsChain (TimelyAfter r) →
    ∀ pre p q post, passes = pre ++ p :: q :: post → SetsReady (r.reconcile p).1 →
      ∃ agent, p.binding.status.agent = some agent ∧
        ∀ t, t < q.now → age t agent.observedAt < r.observationTTL

theorem requeue_before_stale {pass : BindingPass} (h : SetsReady (r.reconcile pass).1) :
    0 < (r.reconcile pass).2 ∧ ∃ agent, pass.binding.status.agent = some agent ∧
      pass.now + (r.reconcile pass).2 ≤ agent.observedAt + r.observationTTL := by
  obtain ⟨-, hlive⟩ := setsReady_iff.mp h
  obtain ⟨-, hdelay⟩ := desiredStates_ready r pass.binding
    (observeGateway pass.binding pass.gateway) pass.now
  obtain ⟨agent, hagent, hrequeue⟩ := hdelay hlive
  obtain ⟨-, -, -, agent', hagent', -, hfresh⟩ := hlive
  obtain rfl : agent = agent' := by simpa [hagent] using hagent'
  have hdelay : (r.reconcile pass).2 = r.observationTTL - age pass.now agent.observedAt := hrequeue
  refine ⟨by linarith, agent, hagent, ?_⟩
  rw [hdelay]
  unfold age
  split <;> linarith

theorem binding_readiness_exact (r : VPNWorkloadBindingReconciler) : ReadinessExact r where
  ready := fun _ => setsReady_iff
  requeue := fun _ => requeue_before_stale
  stands := by
    rintro passes htimely pre p q post rfl hready
    obtain ⟨hpos, agent, hagent, hbound⟩ := requeue_before_stale hready
    have hafter : TimelyAfter r p q := (List.isChain_append_cons_cons.mp htimely).2.1
    have hnext := hafter.2 hpos
    refine ⟨agent, hagent, fun t ht => ?_⟩
    unfold age
    split
    · exact observationTTL_pos
    · linarith

end Binding

/-! ## The readiness label of a Node -/

section Capability

variable {r : NodeCapabilityReconciler} {parseInt : String → Option Int} {epoch : String}
  {now : Time}

/-- One run withdraws the label or asks for another one. -/
def WithdrawsOrReturns (r : NodeCapabilityReconciler) (parseInt : String → Option Int)
    (labels : CapabilityLabels) (now : Time) : Prop :=
  (r.reconcile parseInt labels now).1.cniReady ≠ "true" ∨ 0 < (r.reconcile parseInt labels now).2

/-- One of the runs made exactly when asked withdraws the label, and, unless the first one comes
later, no later than the epoch plus the freshness window plus the accepted clock skew. -/
def WithdrawnWhenAsked (r : NodeCapabilityReconciler) (parseInt : String → Option Int)
    (labels : CapabilityLabels) (now : Time) : Prop :=
  ∃ n, ∃ run ∈ r.askedRuns parseInt n labels now, run.2.cniReady ≠ "true" ∧
    ∀ seconds, parseInt labels.capabilityEpoch = some seconds →
      run.1 ≤ max now (unixTime seconds + r.freshness + defaultClockSkew)

theorem freshness_pos : 0 < r.freshness := by
  unfold NodeCapabilityReconciler.freshness
  split
  · assumption
  · decide

theorem stale_eq_false : CapabilityLabels.stale parseInt ⟨"true", epoch⟩ now r.freshness = false ↔
    ∃ seconds, parseInt epoch = some seconds ∧ unixTime seconds ≤ now + defaultClockSkew ∧
      now - unixTime seconds ≤ r.freshness := by
  unfold CapabilityLabels.stale
  cases parseInt epoch <;> simp

theorem reconcile_stale
    (h : CapabilityLabels.stale parseInt ⟨"true", epoch⟩ now r.freshness = true) :
    r.reconcile parseInt ⟨"true", epoch⟩ now = (⟨"", ""⟩, 0) := by
  simp [NodeCapabilityReconciler.reconcile, h, CapabilityLabels.withdraw]

theorem reconcile_fresh {seconds : Int} (hepoch : parseInt epoch = some seconds)
    (h : CapabilityLabels.stale parseInt ⟨"true", epoch⟩ now r.freshness = false) :
    r.reconcile parseInt ⟨"true", epoch⟩ now =
      (⟨"true", epoch⟩, r.freshness - (now - unixTime seconds)) := by
  simp [NodeCapabilityReconciler.reconcile, h, hepoch]

/-- INTERNAL: **a fresh report stays**: the run it asks for comes when it is still fresh. -/
theorem askedRuns_fresh
    (h : CapabilityLabels.stale parseInt ⟨"true", epoch⟩ now r.freshness = false) (n : ℕ) :
    ∀ run ∈ r.askedRuns parseInt n ⟨"true", epoch⟩ now, run.2 = ⟨"true", epoch⟩ := by
  induction n generalizing now with
  | zero => simp [NodeCapabilityReconciler.askedRuns]
  | succ n ih =>
    obtain ⟨seconds, hepoch, hskew, hage⟩ := stale_eq_false.mp h
    have hpos := freshness_pos (r := r)
    have hskewPos : (0 : Duration) < defaultClockSkew := by decide
    intro run hrun
    simp only [NodeCapabilityReconciler.askedRuns, reconcile_fresh hepoch h, List.mem_cons] at hrun
    rcases hrun with rfl | hrun
    · rfl
    · split at hrun
      · refine ih (stale_eq_false.mpr ⟨seconds, hepoch, ?_, ?_⟩) run hrun <;> linarith
      · cases hrun

/-- **When a stale capability is withdrawn.** One run neither withdraws the label nor asks for
another run exactly if the report is as old as the window. Runs made exactly when asked withdraw the
label exactly if the report is stale in the first of them; a run that comes later than asked by any
time at all withdraws it. -/
theorem capability_withdrawn_iff (r : NodeCapabilityReconciler) (parseInt : String → Option Int)
    (epoch : String) (now : Time) :
    (WithdrawsOrReturns r parseInt ⟨"true", epoch⟩ now ↔
      ∀ seconds, parseInt epoch = some seconds → now - unixTime seconds ≠ r.freshness) ∧
    (WithdrawsOrReturns r parseInt ⟨"true", epoch⟩ now ∧
        WithdrawnWhenAsked r parseInt ⟨"true", epoch⟩ now ↔
      CapabilityLabels.stale parseInt ⟨"true", epoch⟩ now r.freshness = true) ∧
    ∀ late > 0, CapabilityLabels.stale parseInt ⟨"true", epoch⟩ now r.freshness = false →
      CapabilityLabels.stale parseInt ⟨"true", epoch⟩
        (now + (r.reconcile parseInt ⟨"true", epoch⟩ now).2 + late) r.freshness = true := by
  cases hstale : CapabilityLabels.stale parseInt ⟨"true", epoch⟩ now r.freshness with
  | true =>
    have hrun := reconcile_stale hstale
    have hwithdraws : WithdrawsOrReturns r parseInt ⟨"true", epoch⟩ now := by
      simp [WithdrawsOrReturns, hrun]
    refine ⟨iff_of_true hwithdraws ?_, iff_of_true ⟨hwithdraws, 1, (now, ⟨"", ""⟩), ?_⟩ rfl, ?_⟩
    · intro seconds hepoch hage
      -- a report as old as the window is fresh
      have hfresh : CapabilityLabels.stale parseInt ⟨"true", epoch⟩ now r.freshness = false := by
        refine stale_eq_false.mpr ⟨seconds, hepoch, ?_, le_of_eq hage⟩
        linarith [freshness_pos (r := r), (by decide : (0 : Duration) < defaultClockSkew)]
      simp [hfresh] at hstale
    · simp [NodeCapabilityReconciler.askedRuns, hrun]
    · simp
  | false =>
    obtain ⟨seconds, hepoch, hskew, hage⟩ := stale_eq_false.mp hstale
    have hrun := reconcile_fresh hepoch hstale
    refine ⟨?_, iff_of_false ?_ (by simp), fun late hlate _ => ?_⟩
    · simp only [WithdrawsOrReturns, hrun, hepoch, ne_eq, not_true_eq_false, false_or,
        Option.some.injEq, forall_eq', sub_pos]
      exact ⟨ne_of_lt, lt_of_le_of_ne hage⟩
    · rintro ⟨-, n, run, hmem, hwithdrawn, -⟩
      rw [askedRuns_fresh hstale n run hmem] at hwithdrawn
      exact hwithdrawn rfl
    · rw [← Bool.not_eq_false, stale_eq_false, hrun]
      rintro ⟨seconds', hepoch', -, hage'⟩
      rw [hepoch] at hepoch'
      cases hepoch'
      linarith

/-- A report of the Unix epoch, which a run sees five seconds and the next one twenty seconds later,
when it has been asked for: the window has passed, the label stays and no run follows. -/
theorem stale_capability_kept : let r : NodeCapabilityReconciler := ⟨20 * second⟩
    let parseInt : String → Option Int := fun text => if text = "0" then some 0 else none
    r.reconcile parseInt ⟨"true", "0"⟩ (unixTime 0 + 5 * second) = (⟨"true", "0"⟩, 15 * second) ∧
      r.reconcile parseInt ⟨"true", "0"⟩ (unixTime 0 + 20 * second) = (⟨"true", "0"⟩, 0) ∧
      ¬ WithdrawsOrReturns r parseInt ⟨"true", "0"⟩ (unixTime 0 + 20 * second) ∧
      ¬ WithdrawnWhenAsked r parseInt ⟨"true", "0"⟩ (unixTime 0 + 5 * second) := by
  refine ⟨by decide, by decide, ?_, ?_⟩
  · unfold WithdrawsOrReturns
    decide
  · rintro ⟨n, run, hmem, hwithdrawn, -⟩
    rw [askedRuns_fresh (by decide) n run hmem] at hwithdrawn
    exact hwithdrawn rfl

end Capability

end Waycloak.Analysis
