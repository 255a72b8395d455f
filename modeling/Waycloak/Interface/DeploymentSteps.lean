import Waycloak.Interface.LeaseSteps
import Waycloak.Interface.ManagerSteps
import Waycloak.Model.Deployment

/-!
# What one step of a deployment can do

`DeploymentCase` is the inversion of `Deployment.next`. The lemmas after it say what a
reconcile of the deployment does to the stored status (`reconciled_store`) and to the
runtimes' states of the lease (`handled_state`), and what a confirmed withdrawal means at
the runtime that served it (`confirmed_drained`).
-/

set_option autoImplicit false

namespace Waycloak.Interface

open Waycloak.Model Waycloak.Computation

variable {leaseUID : ObjectUID}

/-! ## Requests -/

/-- What becomes of the request of a reconcile. -/
inductive Handled (gateways : Gateways) : Option Sent → Gateways → Option Reply → Prop
  | unserved (sent : Option Sent) : Handled gateways sent gateways none
  | served (sent : Sent) (b : Backends) :
      Handled gateways (some sent) (Deployment.serve gateways sent.gatewayUID (sent.call b)).1
        (some (Deployment.serve gateways sent.gatewayUID (sent.call b)).2)

theorem handle_handled (gateways : Gateways) (t : Transport) (sent : Option Sent) :
    Handled gateways sent (Deployment.handle gateways t sent).1
      (Deployment.handle gateways t sent).2.reply := by
  unfold Deployment.handle
  split
  · exact .served _ _
  · exact .unserved _

theorem handle_sent (gateways : Gateways) (t : Transport) (sent : Option Sent) :
    (Deployment.handle gateways t sent).2.sent = sent := by
  unfold Deployment.handle
  split <;> rfl

/-- INTERNAL: where a state of a lease comes from after a request: it was held before, with the
same intent and no less drained, or the request was its programming. -/
theorem handled_state {gateways gateways' : Gateways} {sent : Option Sent} {reply : Option Reply}
    (h : Handled gateways sent gateways' reply) {gatewayUID : ObjectUID} {state' : RuntimeState}
    (hstate' : (gateways' gatewayUID).state? leaseUID = some state') :
    (∃ state, (gateways gatewayUID).state? leaseUID = some state ∧ state'.intent = state.intent ∧
      (state.drained = true → state'.drained = true)) ∨
    ∃ gateway intent answer, sent = some (.reconcile gateway intent answer) ∧
      gateway.uid = gatewayUID ∧ state'.intent = intent := by
  cases h with
  | unserved => exact Or.inl ⟨state', hstate', rfl, id⟩
  | served sent b =>
    by_cases hgateway : gatewayUID = sent.gatewayUID
    · subst hgateway
      simp only [Deployment.serve, Function.update_self] at hstate'
      cases sent with
      | reconcile gateway intent answer =>
        by_cases hlease : leaseUID = intent.leaseUID
        · subst hlease
          rcases reconcile_own (gateways gateway.uid) b gateway.uid intent with
            hsame | ⟨previous, hheld, hblocked⟩ | ⟨-, hgone⟩ | ⟨-, mapping, renewAfter, hinstalled⟩
          · exact Or.inl ⟨state', hsame ▸ hstate', rfl, id⟩
          · cases hblocked.symm.trans hstate'
            exact Or.inl ⟨previous, hheld, rfl, id⟩
          · cases hgone.symm.trans hstate'
          · cases hinstalled.symm.trans hstate'
            exact Or.inr ⟨gateway, intent, answer, rfl, rfl, rfl⟩
        · have hframe : _ = some state' := (reconcile_frame hlease).symm.trans hstate'
          exact Or.inl ⟨state', hframe, rfl, id⟩
      | withdraw _ intent =>
        by_cases hlease : leaseUID = intent.leaseUID
        · subst hlease
          obtain ⟨state, hheld, hintent, hdrained, -⟩ := withdraw_own hstate'
          exact Or.inl ⟨state, hheld, hintent, hdrained⟩
        · have hframe : _ = some state' := (withdraw_frame hlease).symm.trans hstate'
          exact Or.inl ⟨state', hframe, rfl, id⟩
    · simp only [Deployment.serve, Function.update_of_ne hgateway] at hstate'
      exact Or.inl ⟨state', hstate', rfl, id⟩

theorem clientAnswer_ok {result : CallResult} (h : (clientAnswer result).2 = none) :
    (clientAnswer result).1 = result.observation := by
  unfold clientAnswer at h ⊢
  cases herr : result.err with
  | none => rfl
  | some err =>
    rw [herr] at h
    cases h

/-- INTERNAL: a withdrawal that the controller takes as confirmed has drained its lease at the runtime
that served it.
SOURCE: portforward/controller.go:331-332; portforward/manager.go:262-285 -/
theorem confirmed_drained {r : PortForwardLeaseReconciler} {now : Time} {gateways : Gateways}
    {t : Transport} {gateway : VPNGateway} {intent : WithdrawalIntent}
    {answer : Observation × Option String}
    (hconfirmed : Confirmed r now intent ((runtimeClient gateways t).withdraw gateway intent)) :
    ∀ state', ((Deployment.handle gateways t (some (.withdraw gateway intent answer))).1
      gateway.uid).state? intent.leaseUID = some state' → state'.drained = true := by
  intro state' hstate'
  obtain ⟨herr, hcurrent⟩ := hconfirmed
  cases t with
  | lost err => cases herr
  | unanswered => cases herr
  | answered b =>
    simp only [Deployment.handle, Transport.backends, Deployment.serve, Sent.gatewayUID,
      Function.update_self] at hstate'
    obtain ⟨state, -, -, -, hreported⟩ := withdraw_own hstate'
    apply hreported
    change r.currentWithdrawal now (clientAnswer _).1 intent = true at hcurrent
    rw [clientAnswer_ok herr] at hcurrent
    simp only [PortForwardLeaseReconciler.currentWithdrawal, exactWithdrawal,
      Bool.and_eq_true] at hcurrent
    exact hcurrent.1.2

/-! ## Steps -/

/-- What a step of a deployment can do. -/
inductive DeploymentCase (leaseUID : ObjectUID) (s : Deployment) :
    DeploymentInput → Deployment × DeploymentOutput → Prop
  /-- no reconcile: the status and the lease's states stay -/
  | quiet (input : DeploymentInput) (s' : Deployment)
      (hstore : s'.store = s.store ∨ ∃ stored lease, s.store = some stored ∧
        StatusKept stored lease ∧ s'.store = stored.replace lease)
      (hstates : ∀ gatewayUID, (s'.gateways gatewayUID).state? leaseUID =
        (s.gateways gatewayUID).state? leaseUID) :
      DeploymentCase leaseUID s input (s', .quiet)
  | reconciled (stored : StoredLease) (step : ReconcileStep) (hstore : s.store = some stored) :
      DeploymentCase leaseUID s (.reconcile step)
        ({ store := if step.written then stored.write (s.reconcileOf stored step) else some stored
           gateways := (Deployment.handle s.gateways step.transport
            (s.reconcileOf stored step).result.sent).1 },
          (Deployment.handle s.gateways step.transport
            (s.reconcileOf stored step).result.sent).2)

theorem serve_state_frame (gateways : Gateways) (gatewayUID : ObjectUID) {c : Call}
    (h : c.leaseUID ≠ leaseUID) (other : ObjectUID) :
    ((Deployment.serve gateways gatewayUID c).1 other).state? leaseUID =
      (gateways other).state? leaseUID := by
  by_cases hgateway : other = gatewayUID
  · subst hgateway
    simp only [Deployment.serve, Function.update_self]
    cases c with
    | reconcile => exact reconcile_frame (Ne.symm h)
    | withdraw => exact withdraw_frame (Ne.symm h)
  · simp only [Deployment.serve, Function.update_of_ne hgateway]

/-- INTERNAL: **the inversion of the deployment's step.** -/
theorem next_deploymentCase (leaseUID : ObjectUID) (s : Deployment) (input : DeploymentInput) :
    DeploymentCase leaseUID s input (s.next leaseUID input) := by
  have hsame : DeploymentCase leaseUID s input (s, .quiet) :=
    .quiet input s (Or.inl rfl) fun _ => rfl
  cases input with
  | reconcile step =>
    cases hstore : s.store with
    | none => simpa only [Deployment.next, hstore] using hsame
    | some stored =>
      have h : DeploymentCase leaseUID s (.reconcile step) _ := .reconciled stored step hstore
      simpa only [Deployment.next, hstore] using h
  | edit =>
    cases hstore : s.store with
    | none => simpa only [Deployment.next, hstore] using hsame
    | some stored =>
      simp only [Deployment.next, hstore]
      refine .quiet _ _ (Or.inr ⟨stored, _, hstore, ?_, rfl⟩) fun _ => rfl
      exact ⟨rfl, rfl⟩
  | request gatewayUID call =>
    by_cases hown : call.leaseUID = leaseUID
    · simpa only [Deployment.next, if_pos hown] using hsame
    · simp only [Deployment.next, if_neg hown]
      exact .quiet _ _ (Or.inl rfl) (serve_state_frame s.gateways gatewayUID hown)

theorem next_reply {s : Deployment} {input : DeploymentInput} {reply : Reply}
    (h : (s.next leaseUID input).2.reply = some reply) :
    ∃ step stored sent b, input = .reconcile step ∧ s.store = some stored ∧
      (s.reconcileOf stored step).result.sent = some sent ∧ step.transport.backends = some b ∧
      reply = (Deployment.serve s.gateways sent.gatewayUID (sent.call b)).2 := by
  have hcase := next_deploymentCase leaseUID s input
  generalize s.next leaseUID input = result at hcase h
  cases hcase with
  | quiet => cases h
  | reconciled stored step hstore =>
    dsimp only at h
    unfold Deployment.handle at h
    split at h
    · next sent b hsent hb =>
      exact ⟨step, stored, sent, b, rfl, hstore, hsent, hb, (Option.some.inj h).symm⟩
    · cases h

theorem reconciled_store {s : Deployment} {stored stored' : StoredLease} {step : ReconcileStep}
    (h : (if step.written then stored.write (s.reconcileOf stored step) else some stored) =
      some stored') :
    stored'.lease.uid = stored.lease.uid ∧
      (stored'.lease.status = stored.lease.status ∨
        (s.reconcileOf stored step).result.write = some (.status stored'.lease.status)) := by
  split at h
  · obtain ⟨huid, hstatus⟩ := write_stored h
    exact ⟨huid, hstatus.imp_right And.right⟩
  · cases h
    exact ⟨rfl, Or.inl rfl⟩

/-! ## Runs -/

abbrev DeploymentRecord := Record Deployment DeploymentInput DeploymentOutput

/-- The run of a deployment with this lease, whose runtimes have not served a request. -/
def deploymentRun (stored : StoredLease) (inputs : List DeploymentInput) : List DeploymentRecord :=
  exec (Deployment.next stored.lease.uid)
    { store := some stored, gateways := fun _ => GatewayRuntimeManager.start } inputs

theorem record_deploymentCase {r : DeploymentRecord}
    (h : r = record (Deployment.next leaseUID) r.before r.input) :
    DeploymentCase leaseUID r.before r.input (r.after, r.output) := by
  have hcase := next_deploymentCase leaseUID r.before r.input
  rw [h]
  exact hcase

/-! ## A sample deployment -/

/-- A reconcile whose request is answered by a runtime where everything succeeds, and whose write
takes effect. -/
def sampleStep (api : ApiView) : ReconcileStep :=
  { reconciler := sampleReconciler, api
    transport := .answered (sampleBackends api.now (.ok (sampleGrant api.now)) none)
    written := true }

/-- Such a reconcile, in a view with these candidates behind one gateway. -/
def sampleReconcile (gateway : VPNGateway) (pods : List ObjectUID) (now : Time) : DeploymentInput :=
  .reconcile (sampleStep (sampleApi gateway (pods.map sampleCandidate) now))

end Waycloak.Interface
