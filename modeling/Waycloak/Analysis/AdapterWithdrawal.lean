import Waycloak.Interface.DeploymentSteps
import Waycloak.Model.Delivery

/-!
# Withdrawals reach the adapter that was delivered to

A delivery goes to the adapter its intent names, a withdrawal to the adapter named in the
spec when the withdrawal is sent. A runtime reports `Withdrawn` once the adapter of the
withdrawal confirms, or at once when it names none.

As long as a handoff generation has one adapter reference (`KeepsAdapter`), these are the
same adapter. `removed_adapter_keeps_delivery` is the run in which the reference is removed
between the delivery and the withdrawal.
-/

set_option autoImplicit false

namespace Waycloak.Analysis

open Waycloak.Model Waycloak.Interface Waycloak.Computation

variable {d : DeliveryManager} {adapter : ObjectName}
variable {intent : WithdrawalIntent} {call : AdapterCall} {lease : AdapterLeaseRecord}
  {input : DeploymentInput} {generation : Int} {uid : ObjectUID}

abbrev DeliveryRecord := Record Deployment DeliveryInput DeliveryOutput

/-- The run of a deployment with this lease, whose runtimes have not served a request. -/
def deliveryRun (stored : StoredLease) (inputs : List DeliveryInput) : List DeliveryRecord :=
  exec (Deployment.nextDelivering stored.lease.uid)
    { store := some stored, gateways := fun _ => GatewayRuntimeManager.start } inputs

/-- A delivery of the lease at the generation to the adapter is attempted. -/
def AttemptsDelivery (r : DeliveryRecord) (leaseUID : ObjectUID) (generation : Int)
    (adapter : ObjectName) : Prop :=
  ∃ lease, AdapterCall.deliver adapter lease ∈ r.output.calls ∧ lease.leaseUID = leaseUID ∧
    lease.handoffGeneration = generation

/-- The runtime reports the lease withdrawn at the generation. -/
def ReportsWithdrawn (r : DeliveryRecord) (leaseUID : ObjectUID) (generation : Int) : Prop :=
  ∃ reply, r.output.output.reply = some reply ∧ reply.observation.withdrawn = true ∧
    reply.observation.leaseUID = leaseUID ∧ reply.observation.handoffGeneration = generation

/-- The adapter acknowledges the withdrawal of the lease at the generation. -/
def AcknowledgesWithdrawal (r : DeliveryRecord) (leaseUID : ObjectUID) (generation : Int)
    (adapter : ObjectName) : Prop :=
  ∃ request, AdapterCall.withdraw adapter request (true, none) ∈ r.output.calls ∧
    request.leaseUID = leaseUID ∧ request.handoffGeneration = generation

/-- The adapter reference is a function of the stored generation. -/
def KeepsAdapter (adapters : Int → Option ObjectName) (s : Deployment) (input : DeploymentInput) :
    Prop :=
  ∀ step stored, input = .reconcile step → s.store = some stored →
    stored.lease.spec.applicationAdapterRef = adapters stored.lease.status.handoffGeneration

/-! ## Calls and intents -/

theorem reconcile_call {intent : Intent} {provider : ProviderObservation}
    (h : call ∈ (d.reconcile intent provider).1) :
    intent.adapterName ≠ "" ∧
      call = .deliver intent.adapterName (adapterLeaseRecord intent provider) := by
  unfold DeliveryManager.reconcile at h
  split at h
  · cases h
  split at h
  · cases h
  next hname =>
  split at h
  · cases h
  · exact ⟨hname, List.mem_singleton.mp h⟩

theorem withdraw_no_delivery : AdapterCall.deliver adapter lease ∉ (d.withdraw intent).1 := by
  unfold DeliveryManager.withdraw
  split
  · simp
  split
  · simp
  · simp

theorem calls_deliver {e : Effect} (h : AdapterCall.deliver adapter lease ∈ d.calls e) :
    ∃ intent mapping answer, e = .deliver intent mapping answer ∧ adapter = intent.adapterName ∧
      adapter ≠ "" ∧ lease = adapterLeaseRecord intent mapping := by
  cases e with
  | deliver intent mapping answer =>
    obtain ⟨hname, hcall⟩ := reconcile_call h
    cases hcall
    exact ⟨intent, mapping, answer, rfl, rfl, hname, rfl⟩
  | withdrawDelivery => exact absurd h withdraw_no_delivery
  | ensureLease | releaseLease | replace | ready | withdrawn => cases h

/-- INTERNAL: a confirmed withdrawal of a lease with an adapter was acknowledged by it.
SOURCE: portforward/delivery.go:93-103 -/
theorem withdraw_call (hname : intent.adapterName ≠ "") (h : (d.withdraw intent).2 = (true, none)) :
    AdapterCall.withdraw intent.adapterName (adapterWithdrawal intent) (true, none) ∈
      (d.withdraw intent).1 := by
  unfold DeliveryManager.withdraw at h ⊢
  rw [if_neg hname] at h ⊢
  cases hadapter : d.adapter with
  | none =>
    rw [hadapter] at h
    cases h
  | some =>
    rw [hadapter] at h
    dsimp only at h ⊢
    rw [h]
    exact List.mem_singleton_self _

theorem through_reconcile {step : ReconcileStep} (h : input.through d = .reconcile step) :
    (∃ step', input = .reconcile step') ∧
      ∀ b, step.transport.backends = some b → b.delivery = some d.backend := by
  cases input with
  | reconcile step' =>
    cases h
    refine ⟨⟨step', rfl⟩, ?_⟩
    intro b hb
    cases htransport : step'.transport with
    | lost err =>
      rw [htransport] at hb
      cases hb
    | unanswered =>
      rw [htransport] at hb
      cases hb
      rfl
    | answered b' =>
      rw [htransport] at hb
      cases hb
      rfl
  | edit => cases h
  | request => cases h

section Step

variable {adapters : Int → Option ObjectName} {leaseUID : ObjectUID} {r : DeliveryRecord}

theorem record_reply {reply : Reply}
    (hr : r = record (Deployment.nextDelivering leaseUID) r.before r.input)
    (hkeeps : KeepsAdapter adapters r.before r.input.input)
    (h : r.output.output.reply = some reply) :
    ∃ step stored sent b, (r.before.reconcileOf stored step).result.sent = some sent ∧
      stored.lease.spec.applicationAdapterRef = adapters stored.lease.status.handoffGeneration ∧
      b.delivery = some r.input.delivery.backend ∧
      reply = (Deployment.serve r.before.gateways sent.gatewayUID (sent.call b)).2 := by
  rw [hr] at h
  obtain ⟨step, stored, sent, b, hinput, hstore, hsent, hb, hreply⟩ := next_reply h
  obtain ⟨⟨step', hstep'⟩, hdelivery⟩ := through_reconcile hinput
  exact ⟨step, stored, sent, b, hsent, hkeeps step' stored hstep' hstore, hdelivery b hb, hreply⟩

theorem record_calls (hr : r = record (Deployment.nextDelivering leaseUID) r.before r.input) :
    call ∈ r.output.calls ↔ ∃ reply, r.output.output.reply = some reply ∧
      ∃ e ∈ reply.effects, call ∈ r.input.delivery.calls e := by
  have houtput : r.output = (Deployment.nextDelivering leaseUID r.before r.input).2 :=
    congrArg Record.output hr
  rw [houtput, Deployment.nextDelivering]
  dsimp only
  split
  · next reply hreply => simp [hreply, List.mem_flatMap]
  · next hreply => simp [hreply]

/-- INTERNAL: a delivery goes to the adapter of its generation.
SOURCE: portforward/runtime.go:112-127; portforward/manager.go:170 -/
theorem attempted_adapter (hr : r = record (Deployment.nextDelivering leaseUID) r.before r.input)
    (hkeeps : KeepsAdapter adapters r.before r.input.input)
    (h : AttemptsDelivery r uid generation adapter) :
    adapter = (adapters generation).getD "" ∧ adapter ≠ "" := by
  obtain ⟨lease, hcall, -, hgeneration⟩ := h
  obtain ⟨reply, hreply, e, he, hcall⟩ := (record_calls hr).mp hcall
  obtain ⟨step, stored, sent, b, hsent, hadapter, -, rfl⟩ := record_reply hr hkeeps hreply
  obtain ⟨intent, mapping, answer, rfl, rfl, hname, rfl⟩ := calls_deliver hcall
  refine ⟨?_, hname⟩
  cases sent with
  | withdraw => exact absurd he withdraw_deliver
  | reconcile =>
    obtain ⟨-, hgen, hsame, -⟩ := reconcile_deliver he
    obtain ⟨endpoint, candidate, port, -, -, -, -, -, hprogram⟩ := reconcile_sent hsent
    have hstored : generation = stored.lease.status.handoffGeneration := by
      rw [← hgeneration]
      change intent.handoffGeneration = _
      rw [hgen, hprogram]
      rfl
    rw [hsame, hprogram, hstored, ← hadapter]
    rfl

/-- INTERNAL: a reported withdrawal was acknowledged by the adapter of its generation.
SOURCE: portforward/runtime.go:95-110; portforward/manager.go:255-285 -/
theorem reported_acknowledged
    (hr : r = record (Deployment.nextDelivering leaseUID) r.before r.input)
    (hkeeps : KeepsAdapter adapters r.before r.input.input) (h : ReportsWithdrawn r uid generation)
    (hname : (adapters generation).getD "" ≠ "") :
    AcknowledgesWithdrawal r uid generation ((adapters generation).getD "") := by
  obtain ⟨reply, hreply, hwithdrawn, huid, hgeneration⟩ := h
  obtain ⟨step, stored, sent, b, hsent, hadapter, hdelivery, rfl⟩ := record_reply hr hkeeps hreply
  cases sent with
  | reconcile gateway program =>
    have hnot := reconcile_not_withdrawn (r.before.gateways gateway.uid) b gateway.uid program
    exact absurd (hnot.symm.trans hwithdrawn) (by simp)
  | withdraw _ intent =>
    obtain ⟨hlease, hgen, heffect, delivery, hbackend, hanswer⟩ := withdraw_reported hwithdrawn
    obtain ⟨⟨-, hstoredGen, hintentName⟩, -⟩ := reconcile_withdraws hsent
    rw [hdelivery] at hbackend
    cases hbackend
    have hstored : generation = stored.lease.status.handoffGeneration := by
      rw [← hgeneration]
      exact hgen.trans hstoredGen
    have hsame : intent.adapterName = (adapters generation).getD "" := by
      rw [hintentName, hstored, ← hadapter]
      rfl
    rw [← hsame] at hname ⊢
    refine ⟨adapterWithdrawal intent, ?_, hlease.symm.trans huid, hgen.symm.trans hgeneration⟩
    rw [record_calls hr]
    exact ⟨_, hreply, _, heffect, withdraw_call hname hanswer⟩

end Step

/-- **A withdrawal reaches the adapter that was delivered to** in the runs in which a generation has
one adapter reference: the call that reports it obtained the acknowledgement.
SOURCE: portforward/runtime.go:95-127; portforward/delivery.go:69-103 -/
theorem withdrawal_reaches_adapter (adapters : Int → Option ObjectName) (stored : StoredLease)
    (inputs : List DeliveryInput) (pre mid post : List DeliveryRecord) (a w : DeliveryRecord)
    (generation : Int) (adapter : ObjectName)
    (hrun : deliveryRun stored inputs = pre ++ a :: (mid ++ w :: post))
    (hkeeps : ∀ r ∈ deliveryRun stored inputs, KeepsAdapter adapters r.before r.input.input)
    (ha : AttemptsDelivery a stored.lease.uid generation adapter)
    (hw : ReportsWithdrawn w stored.lease.uid generation) :
    AcknowledgesWithdrawal w stored.lease.uid generation adapter := by
  obtain ⟨hrecA, -, hrecW, -⟩ := exec_between hrun
  have hkeepsA := hkeeps a (mem_between hrun (Or.inl rfl))
  have hkeepsW := hkeeps w (mem_between hrun (Or.inr (Or.inr rfl)))
  obtain ⟨hadapter, hname⟩ := attempted_adapter hrecA hkeepsA ha
  rw [hadapter] at hname ⊢
  exact reported_acknowledged hrecW hkeepsW hw hname

theorem attemptsDelivery_iff (r : DeliveryRecord) (leaseUID : ObjectUID) (generation : Int)
    (adapter : ObjectName) : AttemptsDelivery r leaseUID generation adapter ↔
      ∃ call ∈ r.output.calls, (match call with
        | .deliver name lease => decide (name = adapter ∧ lease.leaseUID = leaseUID ∧
            lease.handoffGeneration = generation)
        | .withdraw _ _ _ => false) = true := by
  constructor
  · rintro ⟨lease, hcall, hlease, hgeneration⟩
    exact ⟨_, hcall, by simp [hlease, hgeneration]⟩
  rintro ⟨call, hcall, h⟩
  cases call with
  | deliver name lease =>
    simp only [decide_eq_true_eq] at h
    exact ⟨lease, h.1 ▸ hcall, h.2⟩
  | withdraw => cases h

theorem reportsWithdrawn_iff (r : DeliveryRecord) (leaseUID : ObjectUID) (generation : Int) :
    ReportsWithdrawn r leaseUID generation ↔
      (r.output.output.reply.any fun reply => decide (reply.observation.withdrawn = true ∧
        reply.observation.leaseUID = leaseUID ∧
        reply.observation.handoffGeneration = generation)) = true := by
  unfold ReportsWithdrawn
  cases r.output.output.reply <;> simp

/-- Adapters that acknowledge whatever they are asked, at this instant. -/
def sampleDelivery (now : Time) : DeliveryManager :=
  { adapter := some
      { deliver := fun _ lease => .ok
          { apiVersion := adapterAPIVersion, leaseNamespace := lease.leaseNamespace
            leaseUID := lease.leaseUID, handoffGeneration := lease.handoffGeneration
            podUID := lease.podUID, observedAt := now, expiresAt := lease.expiresAt }
        withdraw := fun _ _ => (true, none) }
    checkedAt := now, notBeforeAt := now, notAfterAt := now }

/-- The lease is delivered for the Pod `a` and drained when `b` takes its place, after these
edits. -/
def adapterInputs (edits : List DeploymentInput) : List DeliveryInput :=
  [⟨sampleReconcile (sampleGateway "gw" true) ["a"] 1, sampleDelivery 1⟩,
    ⟨sampleReconcile (sampleGateway "gw" true) ["a"] 2, sampleDelivery 2⟩] ++
  edits.map (fun change => ⟨change, sampleDelivery 2⟩) ++
  [⟨sampleReconcile (sampleGateway "gw" true) ["b"] 3, sampleDelivery 3⟩]

theorem keepsAdapter_of_stored {s : Deployment}
    (h : (s.store.all fun stored =>
      decide (stored.lease.spec.applicationAdapterRef = some "adapter")) = true) :
    KeepsAdapter (fun _ => some "adapter") s input := by
  rintro step stored - hstore
  rw [hstore] at h
  simpa using h

theorem withdrawal_reaches_adapter_handover :
    ∃ w ∈ deliveryRun ⟨sampleLease (some "adapter"), 0⟩ (adapterInputs []),
      AcknowledgesWithdrawal w "lease" 1 "adapter" := by
  have hkeeps : ∀ r ∈ deliveryRun ⟨sampleLease (some "adapter"), 0⟩ (adapterInputs []),
      KeepsAdapter (fun _ => some "adapter") r.before r.input.input := by
    have hstored : ∀ r ∈ deliveryRun ⟨sampleLease (some "adapter"), 0⟩ (adapterInputs []),
        (r.before.store.all fun stored =>
          decide (stored.lease.spec.applicationAdapterRef = some "adapter")) = true := by
      decide +kernel
    exact fun r hr => keepsAdapter_of_stored (hstored r hr)
  have hsplit : ∃ pre a mid w post,
      deliveryRun ⟨sampleLease (some "adapter"), 0⟩ (adapterInputs []) =
        pre ++ a :: (mid ++ w :: post) ∧
      AttemptsDelivery a "lease" 1 "adapter" ∧ ReportsWithdrawn w "lease" 1 := by
    simp only [attemptsDelivery_iff, reportsWithdrawn_iff]
    exact ⟨[_], _, [], _, [], rfl, by decide +kernel, by decide +kernel⟩
  obtain ⟨pre, a, mid, w, post, hrun, ha, hw⟩ := hsplit
  refine ⟨w, by simp [hrun], ?_⟩
  exact withdrawal_reaches_adapter (fun _ => some "adapter") ⟨sampleLease (some "adapter"), 0⟩
    (adapterInputs []) pre mid post a w 1 "adapter" hrun hkeeps ha hw

/-- The edit that removes the adapter reference of the sample lease. -/
def removedReference : DeploymentInput :=
  .edit
    { generation := 2, deletionTimestamp := none, finalizers := [providerCleanupFinalizer]
      spec := (sampleLease none).spec }

/-- The reference is removed after the delivery: the withdrawal is reported although no adapter is
ever asked. -/
theorem removed_adapter_keeps_delivery :
    ∃ pre a mid w post,
      deliveryRun ⟨sampleLease (some "adapter"), 0⟩ (adapterInputs [removedReference]) =
        pre ++ a :: (mid ++ w :: post) ∧
      AttemptsDelivery a "lease" 1 "adapter" ∧ ReportsWithdrawn w "lease" 1 ∧
      ∀ r ∈ deliveryRun ⟨sampleLease (some "adapter"), 0⟩ (adapterInputs [removedReference]),
        ¬ AcknowledgesWithdrawal r "lease" 1 "adapter" := by
  have hnone : ∀ r ∈ deliveryRun ⟨sampleLease (some "adapter"), 0⟩ (adapterInputs [removedReference]),
      ∀ call ∈ r.output.calls, (match call with
        | .deliver _ _ => false
        | .withdraw _ _ _ => true) = false := by
    decide +kernel
  have hsplit : ∃ pre a mid w post,
      deliveryRun ⟨sampleLease (some "adapter"), 0⟩ (adapterInputs [removedReference]) =
        pre ++ a :: (mid ++ w :: post) ∧
      AttemptsDelivery a "lease" 1 "adapter" ∧ ReportsWithdrawn w "lease" 1 := by
    simp only [attemptsDelivery_iff, reportsWithdrawn_iff]
    exact ⟨[_], _, [_], _, [], rfl, by decide +kernel, by decide +kernel⟩
  obtain ⟨pre, a, mid, w, post, hrun, ha, hw⟩ := hsplit
  refine ⟨pre, a, mid, w, post, hrun, ha, hw, ?_⟩
  rintro r hr ⟨request, hcall, -⟩
  exact absurd (hnone r hr _ hcall) (by simp)

end Waycloak.Analysis
