import Waycloak.Interface.ManagerSteps

/-!
# No successor before the completed withdrawal

A rule of a lease at handoff generation `g` that the rule backend accepted is an
obligation: no rule set and no delivery of the lease at a later generation may come
before a withdrawal of generation `g` ran to its end. In the manager the obligation
is the state itself (`Owes`): it is held, of generation `g`, and not drained.

`programmed_owes` says an accepted rule leaves the obligation behind, `owes_step` that
every call keeps it or is the withdrawal that settles it, and `owes_blocks` that while
it stands nothing of a later generation gets out.

The one call that breaks this is the reconcile that finds the mapping of an undrained
lease expired and gets no new one from the provider (manager.go:134-142): it deletes
the state, and with it the generation order and the delivery still to be withdrawn.
`expiredRenewalCalls` is that run.
-/

set_option autoImplicit false

namespace Waycloak.Analysis

open Waycloak.Model Waycloak.Interface Waycloak.Computation

variable {generation : Int} {m : GatewayRuntimeManager} {r : ManagerRecord} {uid : ObjectUID}
variable {b : Backends} {gatewayUID : ObjectUID} {later : Int}

/-- The call passed a rule set with a rule of the lease at the generation to `Rules.Replace`, which
accepted it. -/
def Programmed (r : ManagerRecord) (uid : ObjectUID) (generation : Int) : Prop :=
  ∃ rules, r.output.Accepted rules ∧
    ∃ rule ∈ rules, rule.leaseUID = uid ∧ rule.handoffGeneration = generation

/-- The call withdrew the lease at the generation: `Rules.Replace` accepted a set without any rule
of the lease, `Rules.Withdrawn` and `Delivery.Withdraw` answered true. -/
def DrainCompleted (r : ManagerRecord) (uid : ObjectUID) (generation : Int) : Prop :=
  ∃ gatewayUID intent b, r.input = .withdraw gatewayUID intent b ∧ intent.leaseUID = uid ∧
    intent.handoffGeneration = generation ∧
    (∃ rules, r.output.Accepted rules ∧ ∀ rule ∈ rules, rule.leaseUID ≠ uid) ∧
    Effect.withdrawn uid generation (true, none) ∈ r.output.effects ∧
    Effect.withdrawDelivery intent (true, none) ∈ r.output.effects

/-- The call returned `Withdrawn=true` and no error. -/
def ReportedWithdrawn (r : ManagerRecord) : Prop :=
  r.output.observation.withdrawn = true ∧ r.output.err = none

/-- The call is a reconcile of a lease that is held and not drained, whose mapping has expired and
for which the provider gives no usable one.
SOURCE: portforward/manager.go:134-142 -/
def LosesObligation (m : GatewayRuntimeManager) (c : Call) : Prop :=
  ∃ gatewayUID intent b capability rules delivery request previous cause,
    c = .reconcile gatewayUID intent b ∧
    Acquiring m b gatewayUID intent capability rules delivery request ∧
    m.state? intent.leaseUID = some previous ∧ previous.drained = false ∧
    ¬ b.clock.refresh < previous.mapping.expiresAt ∧
    grantedMapping (capability.ensureLease request) b.clock.refresh = .error cause

/-- The call is a withdrawal that also asks for the provider's release, which fails.
SOURCE: portforward/manager.go:272-281 -/
def ReleaseUnconfirmed (m : GatewayRuntimeManager) (c : Call) : Prop :=
  ∃ gatewayUID intent b, c = .withdraw gatewayUID intent b ∧ ReleaseFails m b intent

/-- The lease is held at the generation and not drained. -/
def Owes (uid : ObjectUID) (generation : Int) (m : GatewayRuntimeManager) : Prop :=
  ∃ state, m.state? uid = some state ∧ state.intent.handoffGeneration = generation ∧
    state.drained = false

theorem not_losesObligation {c : Call} (h : (m.state? c.leaseUID).all RuntimeState.drained = true) :
    ¬ LosesObligation m c := by
  rintro ⟨gatewayUID, intent, b, capability, rules, delivery, request, previous, cause, rfl, -, hheld,
    hdrained, -⟩
  change (m.state? intent.leaseUID).all RuntimeState.drained = true at h
  rw [hheld] at h
  exact absurd h (by simp [hdrained])

theorem owes_of_mem_ruleSet {now : ObjectUID → Time} {rule : GatewayRule}
    (h : rule ∈ m.ruleSet now) : Owes rule.leaseUID rule.handoffGeneration m := by
  obtain ⟨state, hheld, hserving, hrule⟩ := (mem_ruleSet m now rule).mp h
  refine ⟨state, hheld, ?_, ?_⟩
  · rw [← hrule]
    rfl
  · by_contra hd
    simp [serving, Bool.not_eq_false _ ▸ hd] at hserving

/-- INTERNAL: a lease whose reconcile finds no mapping has either no state or an expired one.
SOURCE: portforward/manager.go:135-139 -/
theorem mappingFor_error {capability : PortForwardCapability} {previous : RuntimeState}
    {request : PortForwardLeaseRequest} {now : Time} {cause : String}
    (h : mappingFor capability (some previous) request now = .error cause) :
    ¬ now < previous.mapping.expiresAt ∧
      grantedMapping (capability.ensureLease request) now = .error cause := by
  unfold mappingFor at h
  dsimp only at h
  split at h
  · split at h
    · cases h
    next cause' hgrant =>
    split at h
    · cases h
    · next hexpired =>
      cases h
      exact ⟨hexpired, hgrant⟩
  · cases h

/-- INTERNAL: **an accepted rule is an obligation** the manager holds after the call.
SOURCE: portforward/manager.go:294-303 -/
theorem programmed_owes (hr : r = record GatewayRuntimeManager.serve r.before r.input)
    (h : Programmed r uid generation) : Owes uid generation r.after := by
  obtain ⟨rules, haccepted, rule, hrule, rfl, rfl⟩ := h
  unfold Reply.Accepted at haccepted
  rw [hr] at haccepted ⊢
  cases hc : r.input with
  | reconcile =>
    rw [hc] at haccepted
    rcases reconcile_passed (m := r.before) haccepted with hset | ⟨hne, -⟩
    · rw [hset] at hrule
      exact owes_of_mem_ruleSet hrule
    · exact absurd rfl hne
  | withdraw gatewayUID intent b =>
    rw [hc] at haccepted
    have hset := withdraw_passed (m := r.before) haccepted
    rw [hset] at hrule
    have hother := drainingManager_ruleSet r.before intent b.clock.rules rule hrule
    obtain ⟨state, hheld, hgen, hdrained⟩ := owes_of_mem_ruleSet hrule
    rw [state?_drainingManager, if_neg hother] at hheld
    refine ⟨state, ?_, hgen, hdrained⟩
    show (r.before.withdraw b gatewayUID intent).manager.state? rule.leaseUID = some state
    rw [withdraw_frame hother, hheld]

/-- INTERNAL: a reconcile keeps the obligation of its own lease, unless it drops it.
SOURCE: portforward/manager.go:75-159 -/
theorem owes_reconcile {intent : Intent} (howes : Owes intent.leaseUID generation m)
    (hkeep : ¬ LosesObligation m (.reconcile gatewayUID intent b)) :
    Owes intent.leaseUID generation (m.reconcile b gatewayUID intent).manager := by
  obtain ⟨state, hheld, hgen, hdrained⟩ := howes
  rcases reconcile_own m b gatewayUID intent with hsame | ⟨previous, hprev, hblocked⟩ |
    ⟨⟨capability, rules, delivery, request, cause, hacq, hmap⟩, -⟩ |
    ⟨⟨capability, rules, delivery, request, granted, hacq, -⟩, mapping, renewAfter, hinstalled⟩
  · exact ⟨state, hsame.trans hheld, hgen, hdrained⟩
  · rw [hheld] at hprev
    cases hprev
    exact ⟨_, hblocked, hgen, hdrained⟩
  · rw [hheld] at hmap
    obtain ⟨hexpired, hgrant⟩ := mappingFor_error hmap
    exact absurd ⟨gatewayUID, intent, b, capability, rules, delivery, request, state, cause, rfl,
      hacq, hheld, hdrained, hexpired, hgrant⟩ hkeep
  · have hadm := hacq.admitted
    rw [hheld] at hadm
    obtain ⟨hle, hsuccessor⟩ := admission_generation hadm
    refine ⟨_, hinstalled, ?_, rfl⟩
    -- an undrained state admits its own generation only
    have hnot : ¬ state.intent.handoffGeneration < intent.handoffGeneration := by
      intro hlt
      rw [hsuccessor hlt] at hdrained
      cases hdrained
    show intent.handoffGeneration = generation
    omega

/-- INTERNAL: a withdrawal keeps the obligation of its own lease or settles it.
SOURCE: portforward/manager.go:232-266 -/
theorem owes_withdraw {intent : WithdrawalIntent}
    (hr : r = record GatewayRuntimeManager.serve r.before r.input)
    (hc : r.input = .withdraw gatewayUID intent b)
    (howes : Owes intent.leaseUID generation r.before) :
    (DrainCompleted r intent.leaseUID generation ∧
        (ReleaseUnconfirmed r.before r.input ∨ ReportedWithdrawn r)) ∨
      Owes intent.leaseUID generation r.after := by
  obtain ⟨state, hheld, hgen, hdrained⟩ := howes
  have hafter : r.after = (r.before.withdraw b gatewayUID intent).manager := by rw [hr, hc]; rfl
  have hobservation : r.output.observation = (r.before.withdraw b gatewayUID intent).observation := by
    rw [hr, hc]; rfl
  have herr : r.output.err = (r.before.withdraw b gatewayUID intent).err := by rw [hr, hc]; rfl
  have heffects : r.output.effects = (r.before.withdraw b gatewayUID intent).effects := by
    rw [hr, hc]; rfl
  have hcases := withdraw_cases r.before b gatewayUID intent
  generalize r.before.withdraw b gatewayUID intent = result at hcases hafter hobservation herr heffects
  cases hcases with
  | refused err =>
    right
    rw [hafter]
    exact ⟨state, hheld, hgen, hdrained⟩
  | failed =>
    right
    rw [hafter]
    refine ⟨rollBackDraining (startDraining state), ?_, ?_, ?_⟩
    · rw [state?_update _ _ _ rollBackDraining fun _ => rfl, if_pos rfl, state?_drainingManager,
        if_pos rfl, hheld]
      rfl
    · rw [← hgen]
      exact congrArg Intent.handoffGeneration (startDraining_intent state)
    · exact (startDraining_drained state).trans hdrained
  | pending =>
    right
    rw [hafter]
    refine ⟨startDraining state, ?_, ?_, ?_⟩
    · rw [state?_drainingManager, if_pos rfl, hheld]
      rfl
    · rw [startDraining_intent]
      exact hgen
    · exact (startDraining_drained state).trans hdrained
  | completed _ _ _ _ _ hmatch =>
    left
    have hg : intent.handoffGeneration = generation := by rw [← hmatch state hheld, hgen]
    have hmem : ∀ e ∈ ([.replace ((drainingManager r.before intent).ruleSet b.clock.rules) none,
        .withdrawn intent.leaseUID intent.handoffGeneration (true, none),
        .withdrawDelivery intent (true, none)] : List Effect), e ∈ r.output.effects := by
      intro e he
      obtain ⟨later, hlater, -⟩ :=
        completeWithdrawal_effects (drainingManager r.before intent) b intent _
      rw [heffects, hlater]
      exact List.mem_append_left _ he
    have haccepted : r.output.Accepted ((drainingManager r.before intent).ruleSet b.clock.rules) :=
      hmem _ (by simp)
    refine ⟨⟨gatewayUID, intent, b, hc, rfl, hg, ⟨_, haccepted, ?_⟩, ?_, hmem _ (by simp)⟩, ?_⟩
    · exact drainingManager_ruleSet r.before intent b.clock.rules
    · rw [← hg]
      exact hmem _ (by simp)
    · rcases (completeWithdrawal_cases (drainingManager r.before intent) b intent _).2 with
        ⟨hobs, hnone, -⟩ | ⟨-, -, hfails, -⟩
      · right
        refine ⟨?_, ?_⟩
        · rw [hobservation, hobs]
          rfl
        · rw [herr, hnone]
      · left
        refine ⟨gatewayUID, intent, b, hc, hfails.1, ?_⟩
        intro request capability hrequest
        apply hfails.2
        rw [state?_drainingManager, if_pos rfl]
        rw [hheld] at hrequest ⊢
        simpa [releaseRequest, startDraining_intent] using hrequest

/-- INTERNAL: **every call keeps the obligation or settles it.** -/
theorem owes_step (hr : r = record GatewayRuntimeManager.serve r.before r.input)
    (hkeep : ¬ LosesObligation r.before r.input) (howes : Owes uid generation r.before) :
    (DrainCompleted r uid generation ∧ (ReleaseUnconfirmed r.before r.input ∨ ReportedWithdrawn r)) ∨
      Owes uid generation r.after := by
  by_cases hu : r.input.leaseUID = uid
  · subst hu
    cases hc : r.input with
    | reconcile gatewayUID intent b =>
      rw [hc] at howes hkeep
      right
      have hafter : r.after = (r.before.reconcile b gatewayUID intent).manager := by
        rw [hr, hc]; rfl
      rw [hafter]
      exact owes_reconcile howes hkeep
    | withdraw =>
      have h := owes_withdraw hr hc (by rw [hc] at howes; exact howes)
      rwa [hc] at h
  · right
    obtain ⟨state, hheld, hgen, hdrained⟩ := howes
    exact ⟨state, (serve_frame hr (Ne.symm hu)).trans hheld, hgen, hdrained⟩

/-- INTERNAL: **while the obligation stands, nothing of another generation gets out.** -/
theorem owes_blocks (hr : r = record GatewayRuntimeManager.serve r.before r.input)
    (hkeep : ¬ LosesObligation r.before r.input) (howes : Owes uid generation r.before)
    (h : Programmed r uid later ∨ r.output.Delivered uid later) : later = generation := by
  rcases h with hprogrammed | ⟨intent, mapping, answer, hmem, huid, hgen⟩
  · rcases owes_step hr hkeep howes with ⟨hdrain, -⟩ | hafter
    · -- a completed withdrawal passes a single rule set, without the lease
      obtain ⟨gatewayUID, intent, b, hc, huid, -⟩ := hdrain
      obtain ⟨rules, haccepted, rule, hrule, hrule_uid, -⟩ := hprogrammed
      unfold Reply.Accepted at haccepted
      rw [hr, hc] at haccepted
      rw [withdraw_passed (m := r.before) haccepted] at hrule
      exact absurd (hrule_uid.trans huid.symm)
        (drainingManager_ruleSet r.before intent b.clock.rules rule hrule)
    · obtain ⟨state, hheld, hstate, -⟩ := hafter
      obtain ⟨state', hheld', hstate', -⟩ := programmed_owes hr hprogrammed
      rw [hheld] at hheld'
      cases hheld'
      rw [← hstate, ← hstate']
  · rw [hr] at hmem
    cases hc : r.input with
    | reconcile _ own =>
      rw [hc] at hmem
      obtain ⟨hown, howngen, -, capability, rules, delivery, request, granted, hacq, -⟩ :=
        reconcile_deliver (m := r.before) hmem
      obtain ⟨state, hheld, hstate, hdrained⟩ := howes
      have hadm := hacq.admitted
      rw [← hown, huid, hheld] at hadm
      obtain ⟨hle, hsuccessor⟩ := admission_generation hadm
      have hnot : ¬ state.intent.handoffGeneration < own.handoffGeneration := by
        intro hlt
        rw [hsuccessor hlt] at hdrained
        cases hdrained
      omega
    | withdraw =>
      rw [hc] at hmem
      exact absurd hmem (withdraw_deliver (m := r.before))

/-- INTERNAL: the run argument: after an accepted rule and before anything of a later generation,
some withdrawal of the first generation ran to its end. -/
theorem drainCompleted_between {mid post : List ManagerRecord} {a b : ManagerRecord}
    (hlink : Linked GatewayRuntimeManager.serve m (a :: (mid ++ b :: post)))
    (hkeep : ∀ r ∈ a :: (mid ++ b :: post), ¬ LosesObligation r.before r.input)
    (ha : Programmed a uid generation) (hlt : generation < later)
    (hb : Programmed b uid later ∨ b.output.Delivered uid later) :
    ∃ w ∈ mid, DrainCompleted w uid generation ∧
      (ReleaseUnconfirmed w.before w.input ∨ ReportedWithdrawn w) := by
  obtain ⟨harec, hrest⟩ := hlink
  obtain ⟨hmid, hbrec, -⟩ := hrest.cut
  have hbefore : b.before = endState a.after mid := by rw [hbrec]; rfl
  have howes : Owes uid generation a.after := by
    refine programmed_owes ?_ ha
    have : a.before = m := by rw [harec]; rfl
    rw [this]
    exact harec
  rcases hmid.until (P := Owes uid generation)
      (fun r hr hrec hP => owes_step hrec (hkeep r (by simp [hr])) hP) howes with hdone | hstill
  · exact hdone
  · rw [← hbefore] at hstill
    have := owes_blocks (by rw [hbefore]; exact hbrec) (hkeep b (by simp)) hstill hb
    omega

/-- **No successor before the completed withdrawal.** Between an accepted rule set with a rule of
the lease at `generation` and any later accepted rule set or delivery of the lease at a later
generation, some withdrawal of `generation` ran to its end and reported `Withdrawn`, provided no
call of the run loses the obligation and none leaves a provider release unconfirmed.
SOURCE: portforward/manager.go:63-286 -/
theorem no_successor_before_withdrawal (calls : List Call) (pre mid post : List ManagerRecord)
    (a b : ManagerRecord) (uid : ObjectUID) (generation later : Int)
    (hrun : managerRun calls = pre ++ a :: (mid ++ b :: post))
    (hkeep : ∀ r ∈ managerRun calls,
      ¬ LosesObligation r.before r.input ∧ ¬ ReleaseUnconfirmed r.before r.input)
    (ha : Programmed a uid generation) (hlt : generation < later)
    (hb : Programmed b uid later ∨ b.output.Delivered uid later) :
    ∃ w ∈ mid, DrainCompleted w uid generation ∧ ReportedWithdrawn w := by
  have hlink := exec_linked GatewayRuntimeManager.serve GatewayRuntimeManager.start calls
  change Linked _ _ (managerRun calls) at hlink
  rw [hrun] at hlink hkeep
  obtain ⟨-, hrest⟩ := (linked_append _ _ _ _).mp hlink
  have hmem : ∀ r ∈ a :: (mid ++ b :: post), r ∈ pre ++ a :: (mid ++ b :: post) :=
    fun r hr => List.mem_append_right _ hr
  obtain ⟨w, hw, hdrain, hreport⟩ :=
    drainCompleted_between hrest (fun r hr => (hkeep r (hmem r hr)).1) ha hlt hb
  refine ⟨w, hw, hdrain, ?_⟩
  rcases hreport with hunconfirmed | hreported
  · exact absurd hunconfirmed (hkeep w (hmem w (by simp [hw]))).2
  · exact hreported

/-- Generation 1 is programmed, withdrawn, and followed by generation 2. -/
def handoffCalls : List Call :=
  [.reconcile "gw" (sampleIntent "lease" 1) (sampleBackends 1 (.ok (sampleGrant 1)) none),
   .withdraw "gw" (sampleWithdrawal "lease" 1) (sampleBackends 2 (.ok (sampleGrant 2)) none),
   .reconcile "gw" (sampleIntent "lease" 2) (sampleBackends 3 (.ok (sampleGrant 3)) none)]

theorem no_successor_before_withdrawal_handoff :
    ∃ w ∈ managerRun handoffCalls, DrainCompleted w "lease" 1 ∧ ReportedWithdrawn w := by
  have hkeep : ∀ r ∈ managerRun handoffCalls,
      ¬ LosesObligation r.before r.input ∧ ¬ ReleaseUnconfirmed r.before r.input := by
    intro r hr
    rcases List.mem_cons.mp hr with rfl | hr
    · refine ⟨not_losesObligation (by decide), ?_⟩
      rintro ⟨gatewayUID, intent, b, hc, -⟩
      cases hc
    rcases List.mem_cons.mp hr with rfl | hr
    · refine ⟨?_, ?_⟩
      · rintro ⟨gatewayUID, intent, b, capability, rules, delivery, request, previous, cause, hc, -⟩
        cases hc
      · rintro ⟨gatewayUID, intent, b, hc, hrelease, -⟩
        cases hc
        cases hrelease
    · rw [List.mem_singleton.mp hr]
      refine ⟨not_losesObligation (by decide), ?_⟩
      rintro ⟨gatewayUID, intent, b, hc, -⟩
      cases hc
  obtain ⟨w, hw, h⟩ := no_successor_before_withdrawal handoffCalls [] [_] [] _ _ "lease" 1 2 rfl
    hkeep ⟨[sampleRule "lease" 1], by decide, _, List.mem_singleton_self _, rfl, rfl⟩ (by decide)
    (Or.inl ⟨[sampleRule "lease" 2], by decide, _, List.mem_singleton_self _, rfl, rfl⟩)
  exact ⟨w, List.mem_cons_of_mem _ (List.mem_append_left _ hw), h⟩

/-- Generation 1 is programmed, its mapping expires and is not renewed, generation 2 follows. -/
def expiredRenewalCalls : List Call :=
  [.reconcile "gw" (sampleIntent "lease" 1) (sampleBackends 1 (.ok (sampleGrant 1)) none),
   .reconcile "gw" (sampleIntent "lease" 1) (sampleBackends 101 (.error "provider timeout") none),
   .reconcile "gw" (sampleIntent "lease" 2) (sampleBackends 102 (.ok (sampleGrant 102)) none)]

/-- Generation 2 gets its rules with no withdrawal of generation 1 anywhere in the run. -/
theorem successor_without_withdrawal :
    ∃ pre a mid b post, managerRun expiredRenewalCalls = pre ++ a :: (mid ++ b :: post) ∧
      Programmed a "lease" 1 ∧ Programmed b "lease" 2 ∧
      ¬ ∃ w ∈ mid, DrainCompleted w "lease" 1 ∧ ReportedWithdrawn w := by
  refine ⟨[], _, [_], _, [], rfl,
    ⟨[sampleRule "lease" 1], by decide, _, List.mem_singleton_self _, rfl, rfl⟩,
    ⟨[sampleRule "lease" 2], by decide, _, List.mem_singleton_self _, rfl, rfl⟩, ?_⟩
  rintro ⟨w, hw, ⟨gatewayUID, intent, b, hinput, -⟩, -⟩
  rw [List.mem_singleton.mp hw] at hinput
  cases hinput

end Waycloak.Analysis
