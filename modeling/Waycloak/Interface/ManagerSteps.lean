import Waycloak.Computation.Runs
import Waycloak.Model.Manager

/-!
# What one call of the gateway runtime manager can do

The inversion of `Reconcile` and `Withdraw`: every proof about runs of the manager
goes through `reconcile_cases` and `withdraw_cases` and never unfolds the calls.

`Reconciled` lists the four things a reconcile can do, with the guards under which
it does them: turn the request away, block a rejected lease, drop a lease without
a usable mapping, install a state. `Withdrawing` lists the four things a withdrawal
can do. `drainingManager` names the manager whose rule set a withdrawal passes to
`Replace`.

The map operations are described by `state?` alone; the order of the entries of
`states` never matters.
-/

set_option autoImplicit false

namespace Waycloak.Interface

open Waycloak.Model Waycloak.Computation

variable {e : Effect} {intent : WithdrawalIntent} {uid gatewayUID : ObjectUID}
  {m : GatewayRuntimeManager} {b : Backends}
variable {state : RuntimeState} {rules : RuleBackend} {delivery : DeliveryBackend}
  {err : Option String} {mapping : ProviderObservation} {answer : Bool × Bool × Option String}

/-! ## The state map -/

@[simp] theorem state?_start (uid : ObjectUID) : GatewayRuntimeManager.start.state? uid = none := by
  simp [GatewayRuntimeManager.start, GatewayRuntimeManager.state?]

theorem state?_store (m : GatewayRuntimeManager) (state : RuntimeState) (uid : ObjectUID) :
    (m.store state).state? uid = if uid = state.intent.leaseUID then some state else m.state? uid := by
  unfold GatewayRuntimeManager.state? GatewayRuntimeManager.store
  split
  · next h => subst h; simp
  · next h => simp [AList.lookup_insert_ne h]

theorem state?_remove (m : GatewayRuntimeManager) (uid other : ObjectUID) :
    (m.remove uid).state? other = if other = uid then none else m.state? other := by
  unfold GatewayRuntimeManager.state? GatewayRuntimeManager.remove
  split
  · next h => subst h; simp
  · next h => simp [AList.lookup_erase_ne h]

theorem leaseUID_of_state? (h : m.state? uid = some state) :
    state.intent.leaseUID = uid := m.keyed uid state h

theorem state?_update (m : GatewayRuntimeManager) (uid other : ObjectUID)
    (f : RuntimeState → RuntimeState) (hf : ∀ state, (f state).intent = state.intent) :
    (m.update uid f).state? other = if other = uid then (m.state? uid).map f else m.state? other := by
  unfold GatewayRuntimeManager.update
  cases h : m.state? uid with
  | none =>
    dsimp only
    split
    · next hu => subst hu; simpa using h
    · rfl
  | some state =>
    have hkey : (f state).intent.leaseUID = uid := by rw [hf, leaseUID_of_state? h]
    rw [state?_store, hkey]
    simp

/-- INTERNAL: the entries of the map are its states.
SOURCE: portforward/manager.go:296 -/
theorem mem_entries_iff (m : GatewayRuntimeManager) (e : Sigma fun _ : ObjectUID => RuntimeState) :
    e ∈ m.states.entries ↔ m.state? e.1 = some e.2 := by
  unfold GatewayRuntimeManager.state?
  exact (AList.mem_lookup_iff).symm

/-- INTERNAL: the rule set is the rules of the serving states.
SOURCE: portforward/manager.go:294-303 -/
theorem mem_ruleSet (m : GatewayRuntimeManager) (now : ObjectUID → Time) (rule : GatewayRule) :
    rule ∈ m.ruleSet now ↔
      ∃ state, m.state? rule.leaseUID = some state ∧ serving state (now rule.leaseUID) = true ∧
        ruleFor state = rule := by
  unfold GatewayRuntimeManager.ruleSet
  rw [List.mem_insertionSort, List.mem_map]
  constructor
  · rintro ⟨e, he, rfl⟩
    obtain ⟨hmem, hserving⟩ := List.mem_filter.mp he
    have hheld := (mem_entries_iff m e).mp hmem
    have hkey : (ruleFor e.2).leaseUID = e.1 := leaseUID_of_state? hheld
    exact ⟨e.2, by rw [hkey]; exact hheld, by rw [hkey]; exact hserving, rfl⟩
  · rintro ⟨state, hheld, hserving, hrule⟩
    refine ⟨⟨rule.leaseUID, state⟩, List.mem_filter.mpr ⟨?_, hserving⟩, hrule⟩
    exact (mem_entries_iff m ⟨rule.leaseUID, state⟩).mpr hheld

theorem not_mem_ruleSet_of_flag {now : ObjectUID → Time} {rule : GatewayRule}
    (h : ∀ state, m.state? rule.leaseUID = some state →
      state.draining = true ∨ state.drained = true ∨ state.blocked = true) :
    rule ∉ m.ruleSet now := by
  intro hmem
  obtain ⟨state, hheld, hserving, -⟩ := (mem_ruleSet m now rule).mp hmem
  rcases h state hheld with hflag | hflag | hflag <;> simp [serving, hflag] at hserving

/-! ## Reconcile -/

/-- The guards of a reconcile that reaches its mapping: the request is valid, the backends
are there, the held state admits it and the observed capabilities do not reject it.
SOURCE: portforward/manager.go:66-109 -/
structure Acquiring (m : GatewayRuntimeManager) (b : Backends) (gatewayUID : ObjectUID)
    (intent : Intent) (capability : PortForwardCapability) (rules : RuleBackend)
    (delivery : DeliveryBackend) (request : PortForwardLeaseRequest) : Prop where
  valid : validateRuntimeIntent gatewayUID intent = none
  portForward : b.portForward = some capability
  rules : b.rules = some rules
  delivery : b.delivery = some delivery
  admitted : admission (m.state? intent.leaseUID) intent = none
  verdict : capabilityVerdict m b.clock capability (m.state? intent.leaseUID) intent = .proceed
  request : intentRequest intent = .ok request

/-- The reconcile finds no usable mapping and drops the lease.
SOURCE: portforward/manager.go:134-142 -/
def ReachesDrop (m : GatewayRuntimeManager) (b : Backends) (gatewayUID : ObjectUID)
    (intent : Intent) : Prop :=
  ∃ capability rules delivery request cause,
    Acquiring m b gatewayUID intent capability rules delivery request ∧
      mappingFor capability (m.state? intent.leaseUID) request b.clock.refresh = .error cause

/-- The reconcile is accepted and reaches the `Replace` of its own state.
SOURCE: portforward/manager.go:148-151 -/
def ReachesInstall (m : GatewayRuntimeManager) (b : Backends) (gatewayUID : ObjectUID)
    (intent : Intent) : Prop :=
  ∃ capability rules delivery request granted,
    Acquiring m b gatewayUID intent capability rules delivery request ∧
      mappingFor capability (m.state? intent.leaseUID) request b.clock.refresh = .ok granted

/-- What a reconcile can do, and when. -/
inductive Reconciled (m : GatewayRuntimeManager) (b : Backends) (gatewayUID : ObjectUID)
    (intent : Intent) : CallResult → Prop
  /-- turned away: nothing changes and no backend is called -/
  | refused (err : RuntimeError) : Reconciled m b gatewayUID intent (refuse m err)
  /-- the observed capabilities reject a lease that has a state -/
  | blocked (capability : PortForwardCapability) (rules : RuleBackend) (previous : RuntimeState)
      (err : RuntimeError) (hvalid : validateRuntimeIntent gatewayUID intent = none)
      (hcapability : b.portForward = some capability) (hrules : b.rules = some rules)
      (hheld : m.state? intent.leaseUID = some previous)
      (hadmitted : admission (some previous) intent = none)
      (hverdict : capabilityVerdict m b.clock capability (some previous) intent = .rejected err) :
      Reconciled m b gatewayUID intent (blockLease m b rules previous err)
  /-- neither the provider nor the held state has a usable mapping -/
  | dropped (capability : PortForwardCapability) (rules : RuleBackend) (delivery : DeliveryBackend)
      (request : PortForwardLeaseRequest) (acquired : List Effect) (cause : String)
      (hacquiring : Acquiring m b gatewayUID intent capability rules delivery request)
      (hmapping : mappingFor capability (m.state? intent.leaseUID) request b.clock.refresh =
        .error cause)
      (hacquired : ∀ e ∈ acquired, e = .ensureLease request) :
      Reconciled m b gatewayUID intent (dropLease m b rules intent acquired cause)
  /-- the lease gets a mapping and its state is installed, or rolled back -/
  | installed (capability : PortForwardCapability) (rules : RuleBackend) (delivery : DeliveryBackend)
      (request : PortForwardLeaseRequest) (acquired : List Effect) (mapping : ProviderObservation)
      (renewAfter : Time)
      (hacquiring : Acquiring m b gatewayUID intent capability rules delivery request)
      (hmapping : mappingFor capability (m.state? intent.leaseUID) request b.clock.refresh =
        .ok (mapping, renewAfter))
      (hacquired : ∀ e ∈ acquired, e = .ensureLease request) :
      Reconciled m b gatewayUID intent
        (installLease m b rules delivery (m.state? intent.leaseUID) intent acquired mapping renewAfter)

/-- INTERNAL: **the inversion of `Reconcile`.**
SOURCE: portforward/manager.go:63-186 -/
theorem reconcile_cases (m : GatewayRuntimeManager) (b : Backends) (gatewayUID : ObjectUID)
    (intent : Intent) : Reconciled m b gatewayUID intent (m.reconcile b gatewayUID intent) := by
  unfold GatewayRuntimeManager.reconcile
  cases hvalid : validateRuntimeIntent gatewayUID intent with
  | some err => exact .refused err
  | none =>
    rcases hpf : b.portForward with _ | capability
    · exact .refused _
    rcases hru : b.rules with _ | rules
    · exact .refused _
    rcases hde : b.delivery with _ | delivery
    · exact .refused _
    dsimp only
    cases hadm : admission (m.state? intent.leaseUID) intent with
    | some err => exact .refused err
    | none =>
      cases hver : capabilityVerdict m b.clock capability (m.state? intent.leaseUID) intent with
      | unobserved err => exact .refused err
      | rejected err =>
        cases hheld : m.state? intent.leaseUID with
        | none => exact .refused err
        | some previous =>
          rw [hheld] at hadm hver
          exact .blocked capability rules previous err hvalid hpf hru hheld hadm hver
      | proceed =>
        unfold acquireLease
        cases hreq : intentRequest intent with
        | error err => exact .refused err
        | ok request =>
          dsimp only
          have hacquired : ∀ e ∈ (if providerRefreshDue (m.state? intent.leaseUID)
              b.clock.refresh = true then [Effect.ensureLease request] else []),
              e = .ensureLease request := by
            intro e he
            split at he <;> simp_all
          have hacquiring : Acquiring m b gatewayUID intent capability rules delivery request :=
            ⟨hvalid, hpf, hru, hde, hadm, hver, hreq⟩
          cases hmap : mappingFor capability (m.state? intent.leaseUID) request
              b.clock.refresh with
          | error cause =>
            exact .dropped capability rules delivery request _ cause hacquiring hmap hacquired
          | ok granted =>
            exact .installed capability rules delivery request _ granted.1 granted.2
              hacquiring hmap hacquired

/-! ## Withdraw -/

/-- The generation check of a withdrawal passed: the held state, if there is one, is of
the withdrawal's generation. -/
def GenerationMatches (m : GatewayRuntimeManager) (intent : WithdrawalIntent) : Prop :=
  ∀ state, m.state? intent.leaseUID = some state →
    state.intent.handoffGeneration = intent.handoffGeneration

/-- The manager while a withdrawal waits for its rules to go: the held state drains. -/
def drainingManager (m : GatewayRuntimeManager) (intent : WithdrawalIntent) : GatewayRuntimeManager :=
  m.update intent.leaseUID startDraining

/-- What a withdrawal can do, and when. -/
inductive Withdrawing (m : GatewayRuntimeManager) (b : Backends) (gatewayUID : ObjectUID)
    (intent : WithdrawalIntent) : CallResult → Prop
  /-- turned away: nothing changes and no backend is called -/
  | refused (err : RuntimeError)
      (hgeneration : err = .withdrawalGeneration → validateWithdrawal gatewayUID intent = none ∧
        ¬ GenerationMatches m intent) : Withdrawing m b gatewayUID intent (refuse m err)
  /-- the rule set is not accepted: the drain mark is taken back -/
  | failed (rules : RuleBackend) (cause : String)
      (hvalid : validateWithdrawal gatewayUID intent = none) (hrules : b.rules = some rules)
      (hgeneration : GenerationMatches m intent)
      (hreplace : rules.replace ((drainingManager m intent).ruleSet b.clock.rules) = some cause) :
      Withdrawing m b gatewayUID intent
        { manager := (drainingManager m intent).update intent.leaseUID rollBackDraining
          effects := [.replace ((drainingManager m intent).ruleSet b.clock.rules) (some cause)]
          observation := withdrawalObservation intent false b.clock.report
          err := some (.unavailable cause) }
  /-- the rule set is accepted, but the rules or the delivery are not seen gone -/
  | pending (rules : RuleBackend) (later : List Effect) (err : Option RuntimeError)
      (hvalid : validateWithdrawal gatewayUID intent = none) (hrules : b.rules = some rules)
      (hgeneration : GenerationMatches m intent)
      (hreplace : rules.replace ((drainingManager m intent).ruleSet b.clock.rules) = none)
      (hlater : ∀ e ∈ later, (∃ answer, e = .withdrawn intent.leaseUID intent.handoffGeneration answer) ∨
        ∃ answer, e = .withdrawDelivery intent answer)
      (herr : err ≠ some .withdrawalGeneration) :
      Withdrawing m b gatewayUID intent
        { manager := drainingManager m intent
          effects := .replace ((drainingManager m intent).ruleSet b.clock.rules) none :: later
          observation := withdrawalObservation intent false b.clock.report
          err := err }
  /-- rules and delivery are gone -/
  | completed (rules : RuleBackend) (delivery : DeliveryBackend)
      (hvalid : validateWithdrawal gatewayUID intent = none) (hrules : b.rules = some rules)
      (hdelivery : b.delivery = some delivery) (hgeneration : GenerationMatches m intent)
      (hreplace : rules.replace ((drainingManager m intent).ruleSet b.clock.rules) = none)
      (hgone : rules.withdrawn intent.leaseUID intent.handoffGeneration = (true, none))
      (hanswer : delivery.withdraw intent = (true, none)) :
      Withdrawing m b gatewayUID intent
        (completeWithdrawal (drainingManager m intent) b intent
          [.replace ((drainingManager m intent).ruleSet b.clock.rules) none,
            .withdrawn intent.leaseUID intent.handoffGeneration (true, none),
            .withdrawDelivery intent (true, none)])

theorem generationMatches_iff (m : GatewayRuntimeManager) (intent : WithdrawalIntent) :
    GenerationMatches m intent ↔ ((m.state? intent.leaseUID).any fun state =>
      state.intent.handoffGeneration != intent.handoffGeneration) = false := by
  unfold GenerationMatches
  cases m.state? intent.leaseUID <;> simp

theorem validateWithdrawal_ne_generation (gatewayUID : ObjectUID) (intent : WithdrawalIntent) :
    validateWithdrawal gatewayUID intent ≠ some .withdrawalGeneration := by
  unfold validateWithdrawal normalizedProtocols
  have hcheck : ∀ (ps : List TransportProtocol) (previous : Option TransportProtocol),
      checkProtocols previous ps ≠ some .withdrawalGeneration := by
    intro ps previous
    fun_induction checkProtocols previous ps with
    | case4 _ _ _ _ _ ih => exact ih
    | _ => simp
  split
  · simp
  split
  · split
    · next err herr =>
      split at herr
      · cases herr; simp
      dsimp only at herr
      split at herr
      · next hc => cases herr; exact fun h => hcheck _ _ (hc.trans h)
      · cases herr
    · simp
  · simp

/-- INTERNAL: **the inversion of `Withdraw`.**
SOURCE: portforward/manager.go:222-286 -/
theorem withdraw_cases (m : GatewayRuntimeManager) (b : Backends) (gatewayUID : ObjectUID)
    (intent : WithdrawalIntent) :
    Withdrawing m b gatewayUID intent (m.withdraw b gatewayUID intent) := by
  unfold GatewayRuntimeManager.withdraw
  cases hvalid : validateWithdrawal gatewayUID intent with
  | some err =>
    exact .refused err fun h => absurd (h ▸ hvalid) (validateWithdrawal_ne_generation _ _)
  | none =>
    rcases hru : b.rules with _ | rules
    · exact .refused _ (by simp)
    rcases hde : b.delivery with _ | delivery
    · exact .refused _ (by simp)
    dsimp only
    split
    · next hgen =>
      refine .refused _ fun _ => ⟨hvalid, fun h => ?_⟩
      rw [generationMatches_iff] at h
      rw [h] at hgen
      cases hgen
    · next hgen =>
      have hmatch : GenerationMatches m intent := by
        rw [generationMatches_iff]
        simpa using hgen
      cases hrep : rules.replace ((drainingManager m intent).ruleSet b.clock.rules) with
      | some cause =>
        have h := Withdrawing.failed (b := b) rules cause hvalid hru hmatch hrep
        unfold drainingManager at h hrep
        simpa only [hrep] using h
      | none =>
        have hrep' := hrep
        unfold drainingManager at hrep'
        simp only [hrep']
        split
        · exact .pending rules _ _ hvalid hru hmatch hrep
            (by intro e he; exact Or.inl ⟨_, List.mem_singleton.mp he⟩) (by simp)
        next hgone =>
        split
        · refine .pending rules _ _ hvalid hru hmatch hrep ?_ (by simp)
          intro e he
          rcases List.mem_cons.mp he with rfl | he
          · exact Or.inl ⟨_, rfl⟩
          · exact Or.inr ⟨_, List.mem_singleton.mp he⟩
        · next hanswer =>
          have hg : rules.withdrawn intent.leaseUID intent.handoffGeneration =
              (true, none) := by
            rcases hw : rules.withdrawn intent.leaseUID intent.handoffGeneration with
              ⟨ok, err⟩
            rw [hw] at hgone
            cases ok <;> cases err <;> simp_all
          have ha : delivery.withdraw intent = (true, none) := by
            rcases hw : delivery.withdraw intent with ⟨ok, err⟩
            rw [hw] at hanswer
            cases ok <;> cases err <;> simp_all
          rw [hg, ha]
          exact .completed rules delivery hvalid hru hde hmatch hrep hg ha

/-! ## Rule sets and deliveries of a call -/

/-- INTERNAL: an admitted intent is not behind the held state, and is ahead of it only when
that state is drained.
SOURCE: portforward/manager.go:77-88 -/
theorem admission_generation {previous : RuntimeState} {intent : Intent}
    (h : admission (some previous) intent = none) :
    previous.intent.handoffGeneration ≤ intent.handoffGeneration ∧
      (previous.intent.handoffGeneration < intent.handoffGeneration → previous.drained = true) := by
  unfold admission at h
  dsimp only at h
  split at h
  · cases h
  split at h
  · cases h
  split at h
  · cases h
  split at h
  · cases h
  next hle _ _ hsuccessor =>
    refine ⟨by omega, fun hlt => ?_⟩
    by_contra hd
    exact hsuccessor ⟨hlt, by simpa using hd⟩

/-- INTERNAL: the effects of an installed lease: its rule set, and after an accepted one its
read-back and its delivery. -/
theorem mem_deliverLease (h : e ∈ (deliverLease b rules delivery state).1) :
    (∃ answer, e = .ready (ruleFor state) answer) ∨
      ∃ answer, e = .deliver (effectiveIntent state) state.mapping answer := by
  unfold deliverLease at h
  dsimp only at h
  split at h
  · exact Or.inl ⟨_, List.mem_singleton.mp h⟩
  · rcases List.mem_cons.mp h with rfl | h
    · exact Or.inl ⟨_, rfl⟩
    · exact Or.inr ⟨_, List.mem_singleton.mp h⟩

/-- INTERNAL: what the rule set passed by a reconcile was made from.
SOURCE: portforward/manager.go:100, 140, 151 -/
theorem reconcile_passed {intent : Intent} {rules : List GatewayRule}
    (h : Effect.replace rules err ∈ (m.reconcile b gatewayUID intent).effects) :
    (rules = (m.reconcile b gatewayUID intent).manager.ruleSet b.clock.rules) ∨
      (err ≠ none ∧ ReachesInstall m b gatewayUID intent ∧ ∃ mapping renewAfter,
        rules = (m.store (installedState intent mapping renewAfter)).ruleSet b.clock.rules) := by
  have hcases := reconcile_cases m b gatewayUID intent
  generalize m.reconcile b gatewayUID intent = r at hcases h ⊢
  cases hcases with
  | refused err => simp [refuse] at h
  | blocked =>
    simp only [blockLease, List.mem_singleton, Effect.replace.injEq] at h
    exact Or.inl h.1
  | dropped _ _ _ _ _ _ _ _ hacquired =>
    simp only [dropLease, List.mem_append, List.mem_singleton, Effect.replace.injEq] at h
    rcases h with h | h
    · cases hacquired _ h
    · exact Or.inl h.1
  | installed _ backend _ _ _ mapping renewAfter hacq hmap hacquired =>
    unfold installLease at h ⊢
    dsimp only at h ⊢
    cases hrep : backend.replace ((m.store (installedState intent mapping renewAfter)).ruleSet
        b.clock.rules) with
    | some =>
      simp only [hrep, List.mem_append, List.mem_singleton, Effect.replace.injEq] at h
      rcases h with h | ⟨h, herr⟩
      · cases hacquired _ h
      · exact Or.inr ⟨by simp [herr], ⟨_, _, _, _, _, hacq, hmap⟩, mapping, renewAfter, h⟩
    | none =>
      simp only [hrep, List.mem_append, List.mem_cons] at h
      rcases h with h | h | h
      · cases hacquired _ h
      · exact Or.inl (Effect.replace.inj h).1
      · rcases mem_deliverLease h with ⟨_, h⟩ | ⟨_, h⟩ <;> cases h

/-- INTERNAL: a delivery of a reconcile is of its own lease and generation, made after its own
rule set was accepted.
SOURCE: portforward/manager.go:170 -/
theorem reconcile_deliver {intent i : Intent}
    (h : Effect.deliver i mapping answer ∈ (m.reconcile b gatewayUID intent).effects) :
    i.leaseUID = intent.leaseUID ∧ i.handoffGeneration = intent.handoffGeneration ∧
      i.adapterName = intent.adapterName ∧ ReachesInstall m b gatewayUID intent := by
  have hcases := reconcile_cases m b gatewayUID intent
  generalize m.reconcile b gatewayUID intent = r at hcases h ⊢
  cases hcases with
  | refused err => simp [refuse] at h
  | blocked => simp [blockLease] at h
  | dropped _ _ _ _ _ _ _ _ hacquired =>
    simp only [dropLease, List.mem_append, List.mem_singleton, reduceCtorEq, or_false] at h
    cases hacquired _ h
  | installed _ backend _ _ _ mapping' renewAfter hacq hmap hacquired =>
    unfold installLease at h
    dsimp only at h
    cases hrep : backend.replace ((m.store (installedState intent mapping' renewAfter)).ruleSet
        b.clock.rules) with
    | some =>
      simp only [hrep, List.mem_append, List.mem_singleton, reduceCtorEq, or_false] at h
      cases hacquired _ h
    | none =>
      simp only [hrep, List.mem_append, List.mem_cons, reduceCtorEq, false_or] at h
      rcases h with h | h
      · cases hacquired _ h
      rcases mem_deliverLease h with ⟨_, h⟩ | ⟨_, h⟩
      · cases h
      · cases h
        exact ⟨rfl, rfl, rfl, _, _, _, _, _, hacq, hmap⟩

/-- INTERNAL: the end of a withdrawal adds a provider release at most to the effects. -/
theorem completeWithdrawal_effects (m : GatewayRuntimeManager) (b : Backends)
    (intent : WithdrawalIntent) (effects : List Effect) :
    ∃ later, (completeWithdrawal m b intent effects).effects = effects ++ later ∧
      ∀ e ∈ later, ∃ request answer, e = .releaseLease request answer := by
  fun_cases completeWithdrawal m b intent effects with
  | case4 | case5 => exact ⟨_, rfl, by simp⟩
  | _ => exact ⟨[], by rw [List.append_nil], by simp⟩

theorem mem_completeWithdrawal {effects : List Effect}
    (h : e ∈ (completeWithdrawal m b intent effects).effects) :
    e ∈ effects ∨ ∃ request answer, e = .releaseLease request answer := by
  obtain ⟨later, heffects, hlater⟩ := completeWithdrawal_effects m b intent effects
  rw [heffects] at h
  exact (List.mem_append.mp h).imp_right (hlater e)

/-- INTERNAL: the rule set a withdrawal passes is the one of the draining manager.
SOURCE: portforward/manager.go:240 -/
theorem withdraw_passed {rules : List GatewayRule}
    (h : Effect.replace rules err ∈ (m.withdraw b gatewayUID intent).effects) :
    rules = (drainingManager m intent).ruleSet b.clock.rules := by
  have hcases := withdraw_cases m b gatewayUID intent
  generalize m.withdraw b gatewayUID intent = r at hcases h
  cases hcases with
  | refused err => simp [refuse] at h
  | failed =>
    simp only [List.mem_singleton, Effect.replace.injEq] at h
    exact h.1
  | pending _ _ _ _ _ _ _ hlater =>
    rcases List.mem_cons.mp h with h | h
    · exact (Effect.replace.inj h).1
    · rcases hlater _ h with ⟨_, h⟩ | ⟨_, h⟩ <;> cases h
  | completed =>
    rcases mem_completeWithdrawal h with h | ⟨_, _, h⟩
    · simp only [List.mem_cons, Effect.replace.injEq, reduceCtorEq, List.not_mem_nil, or_false] at h
      exact h.1
    · cases h

theorem withdraw_deliver {i : Intent} :
    Effect.deliver i mapping answer ∉ (m.withdraw b gatewayUID intent).effects := by
  intro h
  have hcases := withdraw_cases m b gatewayUID intent
  generalize m.withdraw b gatewayUID intent = r at hcases h
  cases hcases with
  | refused err => simp [refuse] at h
  | failed => simp at h
  | pending _ _ _ _ _ _ _ hlater =>
    rcases List.mem_cons.mp h with h | h
    · cases h
    · rcases hlater _ h with ⟨_, h⟩ | ⟨_, h⟩ <;> cases h
  | completed =>
    rcases mem_completeWithdrawal h with h | ⟨_, _, h⟩
    · simp at h
    · cases h

/-- INTERNAL: **what a reported `Withdrawn` rests on**: the delivery backend confirmed the withdrawal
of the intent in the same call.
SOURCE: portforward/manager.go:255-285 -/
theorem withdraw_reported (h : (m.withdraw b gatewayUID intent).observation.withdrawn = true) :
    (m.withdraw b gatewayUID intent).observation.leaseUID = intent.leaseUID ∧
    (m.withdraw b gatewayUID intent).observation.handoffGeneration = intent.handoffGeneration ∧
    Effect.withdrawDelivery intent (true, none) ∈ (m.withdraw b gatewayUID intent).effects ∧
    ∃ delivery, b.delivery = some delivery ∧ delivery.withdraw intent = (true, none) := by
  have hcases := withdraw_cases m b gatewayUID intent
  generalize m.withdraw b gatewayUID intent = r at hcases h ⊢
  cases hcases with
  | refused err | failed | pending => cases h
  | completed _ delivery _ _ hdel _ _ _ hanswer =>
    have hobservation : ∀ effects, ∃ withdrawn now,
        (completeWithdrawal (drainingManager m intent) b intent effects).observation =
          withdrawalObservation intent withdrawn now := by
      intro effects
      fun_cases completeWithdrawal (drainingManager m intent) b intent effects <;>
        exact ⟨_, _, rfl⟩
    obtain ⟨withdrawn, now, heq⟩ := hobservation _
    obtain ⟨later, heffects, -⟩ := completeWithdrawal_effects (drainingManager m intent) b intent _
    rw [heq, heffects]
    exact ⟨rfl, rfl, by simp, delivery, hdel, hanswer⟩

theorem reconcile_acquiring {intent : Intent} {capability : PortForwardCapability}
    {request : PortForwardLeaseRequest}
    (h : Acquiring m b gatewayUID intent capability rules delivery request) :
    m.reconcile b gatewayUID intent =
      acquireLease m b capability rules delivery (m.state? intent.leaseUID) intent := by
  unfold GatewayRuntimeManager.reconcile
  rw [h.valid, h.portForward, h.rules, h.delivery]
  dsimp only
  rw [h.admitted]
  dsimp only
  rw [h.verdict]

/-- INTERNAL: a reconcile that the held state does not admit calls no backend.
SOURCE: portforward/manager.go:75-89 -/
theorem reconcile_not_admitted {intent : Intent}
    (h : admission (m.state? intent.leaseUID) intent ≠ none) :
    (m.reconcile b gatewayUID intent).effects = [] := by
  have hcases := reconcile_cases m b gatewayUID intent
  generalize m.reconcile b gatewayUID intent = r at hcases ⊢
  cases hcases with
  | refused err => rfl
  | blocked _ _ _ _ _ _ _ hheld hadm =>
    rw [hheld] at h
    exact absurd hadm h
  | dropped _ _ _ _ _ _ hacq | installed _ _ _ _ _ _ _ hacq => exact absurd hacq.admitted h

theorem reconcile_not_withdrawn (m : GatewayRuntimeManager) (b : Backends) (gatewayUID : ObjectUID)
    (intent : Intent) : (m.reconcile b gatewayUID intent).observation.withdrawn = false := by
  have hcases := reconcile_cases m b gatewayUID intent
  generalize m.reconcile b gatewayUID intent = r at hcases ⊢
  cases hcases with
  | refused err => rfl
  | blocked => rfl
  | dropped => rfl
  | installed =>
    unfold installLease deliverLease
    dsimp only
    split
    · rfl
    split <;> rfl

/-! ## The states after a call -/

theorem reconcile_frame {intent : Intent} (h : uid ≠ intent.leaseUID) :
    (m.reconcile b gatewayUID intent).manager.state? uid = m.state? uid := by
  have hcases := reconcile_cases m b gatewayUID intent
  generalize m.reconcile b gatewayUID intent = r at hcases ⊢
  cases hcases with
  | refused err => rfl
  | blocked _ _ _ _ _ _ _ hheld => simp [blockLease, state?_store, leaseUID_of_state? hheld, h]
  | dropped => simp [dropLease, state?_remove, h]
  | installed =>
    unfold installLease
    dsimp only
    split
    · cases hheld : m.state? intent.leaseUID with
      | none => simp [state?_remove, state?_store, installedState, h]
      | some => simp [state?_store, leaseUID_of_state? hheld, installedState, h]
    · simp [state?_store, installedState, h]

/-- INTERNAL: what a reconcile does to its own lease's state: nothing, block it, drop it, or
replace it by the installed one.
SOURCE: portforward/manager.go:75-159 -/
theorem reconcile_own (m : GatewayRuntimeManager) (b : Backends) (gatewayUID : ObjectUID)
    (intent : Intent) :
    let after := (m.reconcile b gatewayUID intent).manager.state? intent.leaseUID
    after = m.state? intent.leaseUID ∨
    (∃ previous, m.state? intent.leaseUID = some previous ∧
      after = some { previous with blocked := true }) ∨
    (ReachesDrop m b gatewayUID intent ∧ after = none) ∨
    (ReachesInstall m b gatewayUID intent ∧
      ∃ mapping renewAfter, after = some (installedState intent mapping renewAfter)) := by
  have hcases := reconcile_cases m b gatewayUID intent
  generalize m.reconcile b gatewayUID intent = r at hcases ⊢
  intro after
  cases hcases with
  | refused err => exact Or.inl rfl
  | blocked _ _ previous _ _ _ _ hheld =>
    refine Or.inr (Or.inl ⟨previous, hheld, ?_⟩)
    simp [after, blockLease, state?_store, leaseUID_of_state? hheld]
  | dropped _ _ _ _ _ _ hacq hmap =>
    refine Or.inr (Or.inr (Or.inl ⟨⟨_, _, _, _, _, hacq, hmap⟩, ?_⟩))
    simp [after, dropLease, state?_remove]
  | installed _ backend _ _ _ mapping renewAfter hacq hmap =>
    cases hrep : backend.replace ((m.store (installedState intent mapping renewAfter)).ruleSet
        b.clock.rules) with
    | some =>
      left
      cases hheld : m.state? intent.leaseUID with
      | none => simp [after, installLease, hrep, hheld, state?_remove]
      | some => simp [after, installLease, hrep, hheld, state?_store, leaseUID_of_state? hheld]
    | none =>
      refine Or.inr (Or.inr (Or.inr ⟨⟨_, _, _, _, _, hacq, hmap⟩, mapping, renewAfter, ?_⟩))
      simp only [after, installLease, hrep, state?_store]
      exact if_pos rfl

theorem startDraining_intent (state : RuntimeState) :
    (startDraining state).intent = state.intent := by
  unfold startDraining
  split <;> rfl

theorem startDraining_drained (state : RuntimeState) :
    (startDraining state).drained = state.drained := by
  unfold startDraining
  split <;> rfl

theorem startDraining_flag (state : RuntimeState) :
    (startDraining state).draining = true ∨ (startDraining state).drained = true := by
  unfold startDraining
  split
  · exact Or.inl rfl
  next h =>
  cases hdr : state.draining
  · cases hd : state.drained
    · exact absurd ⟨hdr, hd⟩ h
    · exact Or.inr rfl
  · exact Or.inl rfl

theorem state?_drainingManager (m : GatewayRuntimeManager) (intent : WithdrawalIntent)
    (uid : ObjectUID) :
    (drainingManager m intent).state? uid =
      if uid = intent.leaseUID then (m.state? intent.leaseUID).map startDraining
      else m.state? uid :=
  state?_update m intent.leaseUID uid startDraining startDraining_intent

theorem drainingManager_ruleSet (m : GatewayRuntimeManager) (intent : WithdrawalIntent)
    (now : ObjectUID → Time) :
    ∀ rule ∈ (drainingManager m intent).ruleSet now, rule.leaseUID ≠ intent.leaseUID := by
  intro rule hrule hu
  refine not_mem_ruleSet_of_flag ?_ hrule
  intro state hheld
  rw [state?_drainingManager, if_pos hu] at hheld
  obtain ⟨held, -, rfl⟩ := Option.map_eq_some_iff.mp hheld
  rcases startDraining_flag held with h | h
  · exact Or.inl h
  · exact Or.inr (Or.inl h)

/-- The provider release a withdrawal asks for does not succeed.
SOURCE: portforward/manager.go:272-281 -/
def ReleaseFails (m : GatewayRuntimeManager) (b : Backends) (intent : WithdrawalIntent) : Prop :=
  intent.releaseProvider = true ∧ ∀ request capability,
    releaseRequest (m.state? intent.leaseUID) intent = .ok request →
      b.portForward = some capability → capability.releaseLease request ≠ none

/-- INTERNAL: the end of a withdrawal: either it reports `Withdrawn`, with the state drained or,
when the provider was released, gone; or the release failed and the state is drained.
SOURCE: portforward/manager.go:262-285 -/
theorem completeWithdrawal_cases (m : GatewayRuntimeManager) (b : Backends)
    (intent : WithdrawalIntent) (effects : List Effect) :
    let r := completeWithdrawal m b intent effects
    (∀ uid, uid ≠ intent.leaseUID → r.manager.state? uid = m.state? uid) ∧
    ((r.observation = withdrawalObservation intent true b.clock.report ∧ r.err = none ∧
        (r.manager.state? intent.leaseUID = (m.state? intent.leaseUID).map drainedState ∨
          r.manager.state? intent.leaseUID = none)) ∨
      (r.observation = withdrawalObservation intent false b.clock.report ∧ r.err ≠ none ∧
        ReleaseFails m b intent ∧
        r.manager.state? intent.leaseUID = (m.state? intent.leaseUID).map drainedState)) := by
  have hupdate : ∀ uid, (m.update intent.leaseUID drainedState).state? uid =
      if uid = intent.leaseUID then (m.state? intent.leaseUID).map drainedState else m.state? uid :=
    fun uid => state?_update m intent.leaseUID uid drainedState fun _ => rfl
  have hown : (m.update intent.leaseUID drainedState).state? intent.leaseUID =
      (m.state? intent.leaseUID).map drainedState := by rw [hupdate, if_pos rfl]
  have hframe : ∀ uid, uid ≠ intent.leaseUID →
      (m.update intent.leaseUID drainedState).state? uid = m.state? uid :=
    fun uid hu => by rw [hupdate, if_neg hu]
  generalize hr : completeWithdrawal m b intent effects = r
  unfold completeWithdrawal at hr
  dsimp only at hr ⊢
  split at hr
  · subst hr
    exact ⟨hframe, Or.inl ⟨rfl, rfl, Or.inl hown⟩⟩
  next hrel =>
  have hrelease : intent.releaseProvider = true := by simpa using hrel
  split at hr
  · next err hreq =>
    subst hr
    refine ⟨hframe, Or.inr ⟨rfl, by simp, ⟨hrelease, ?_⟩, hown⟩⟩
    intro request capability hok
    rw [hreq] at hok
    cases hok
  · next request hreq =>
    split at hr
    · next hpf =>
      subst hr
      refine ⟨hframe, Or.inr ⟨rfl, by simp, ⟨hrelease, ?_⟩, hown⟩⟩
      intro _ capability _ hsome
      rw [hpf] at hsome
      cases hsome
    · next capability hpf =>
      split at hr
      · next cause hlease =>
        subst hr
        refine ⟨hframe, Or.inr ⟨rfl, by simp, ⟨hrelease, ?_⟩, hown⟩⟩
        intro request' capability' hok hsome
        rw [hreq] at hok
        rw [hpf] at hsome
        cases hok
        cases hsome
        simp [hlease]
      · next hlease =>
        subst hr
        refine ⟨?_, Or.inl ⟨rfl, rfl, Or.inr ?_⟩⟩
        · intro uid hu
          rw [state?_remove, if_neg hu]
          exact hframe uid hu
        · rw [state?_remove, if_pos rfl]

theorem withdraw_frame (h : uid ≠ intent.leaseUID) :
    (m.withdraw b gatewayUID intent).manager.state? uid = m.state? uid := by
  have hcases := withdraw_cases m b gatewayUID intent
  generalize m.withdraw b gatewayUID intent = r at hcases ⊢
  cases hcases with
  | refused err => rfl
  | failed =>
    dsimp only
    rw [state?_update _ _ _ rollBackDraining fun _ => rfl, if_neg h, state?_drainingManager, if_neg h]
  | pending =>
    dsimp only
    rw [state?_drainingManager, if_neg h]
  | completed =>
    rw [(completeWithdrawal_cases _ b intent _).1 uid h, state?_drainingManager, if_neg h]

/-- INTERNAL: **what a withdrawal does to its own lease's state**: the state is gone, or is the held
one with other drain marks; it stays drained, and is drained when `Withdrawn` is reported.
SOURCE: portforward/manager.go:222-286 -/
theorem withdraw_own {state' : RuntimeState}
    (h : (m.withdraw b gatewayUID intent).manager.state? intent.leaseUID = some state') :
    ∃ state, m.state? intent.leaseUID = some state ∧ state'.intent = state.intent ∧
      (state.drained = true → state'.drained = true) ∧
      ((m.withdraw b gatewayUID intent).observation.withdrawn = true → state'.drained = true) := by
  have hcases := withdraw_cases m b gatewayUID intent
  generalize m.withdraw b gatewayUID intent = r at hcases h ⊢
  have hdraining : ∀ state', (drainingManager m intent).state? intent.leaseUID = some state' →
      ∃ state, m.state? intent.leaseUID = some state ∧ state' = startDraining state := by
    intro state' hstate'
    rw [state?_drainingManager, if_pos rfl] at hstate'
    obtain ⟨state, hheld, rfl⟩ := Option.map_eq_some_iff.mp hstate'
    exact ⟨state, hheld, rfl⟩
  cases hcases with
  | refused err => exact ⟨state', h, rfl, id, fun hwithdrawn => by cases hwithdrawn⟩
  | failed =>
    dsimp only at h ⊢
    rw [state?_update _ _ _ rollBackDraining fun _ => rfl, if_pos rfl] at h
    obtain ⟨middle, hmiddle, rfl⟩ := Option.map_eq_some_iff.mp h
    obtain ⟨state, hheld, rfl⟩ := hdraining middle hmiddle
    refine ⟨state, hheld, startDraining_intent state, ?_, fun hwithdrawn => by cases hwithdrawn⟩
    intro hdrained
    exact (startDraining_drained state).trans hdrained
  | pending =>
    obtain ⟨state, hheld, rfl⟩ := hdraining state' h
    refine ⟨state, hheld, startDraining_intent state, ?_, fun hwithdrawn => by cases hwithdrawn⟩
    intro hdrained
    exact (startDraining_drained state).trans hdrained
  | completed =>
    have hmap : ((drainingManager m intent).state? intent.leaseUID).map drainedState =
        some state' := by
      rcases (completeWithdrawal_cases _ b intent _).2 with
        ⟨-, -, hstate | hstate⟩ | ⟨-, -, -, hstate⟩
      · exact hstate.symm.trans h
      · rw [hstate] at h
        cases h
      · exact hstate.symm.trans h
    obtain ⟨middle, hmiddle, rfl⟩ := Option.map_eq_some_iff.mp hmap
    obtain ⟨state, hheld, rfl⟩ := hdraining middle hmiddle
    exact ⟨state, hheld, startDraining_intent state, fun _ => rfl, fun _ => rfl⟩

theorem providerProtocols_err {protocols : List TransportProtocol} {err : RuntimeError}
    (h : providerProtocols protocols = .error err) : err = .unsupportedTransport := by
  induction protocols with
  | nil => cases h
  | cons head rest ih =>
    cases hrest : providerProtocols rest with
    | error =>
      rw [hrest] at ih
      cases head <;> simp_all [providerProtocols, Except.map]
    | ok => cases head <;> simp_all [providerProtocols, Except.map]

theorem releaseRequest_err {held : Option RuntimeState} {err : RuntimeError}
    (h : releaseRequest held intent = .error err) : err = .unsupportedTransport := by
  have hrequest : ∀ leaseUID internalPort previousPublicPort protocols,
      providerRequest leaseUID internalPort previousPublicPort protocols = .error err →
        err = .unsupportedTransport := by
    intro leaseUID internalPort previousPublicPort protocols hreq
    unfold providerRequest at hreq
    cases hprotocols : providerProtocols protocols with
    | error =>
      rw [hprotocols] at hreq
      cases hreq
      exact providerProtocols_err hprotocols
    | ok =>
      rw [hprotocols] at hreq
      cases hreq
  unfold releaseRequest at h
  split at h
  · exact hrequest _ _ _ _ h
  · exact hrequest _ _ _ _ h

/-- INTERNAL: a withdrawal is refused for its generation only when the held state has another.
SOURCE: portforward/manager.go:233-235 -/
theorem withdraw_err_generation
    (h : (m.withdraw b gatewayUID intent).err = some .withdrawalGeneration) :
    ¬ GenerationMatches m intent := by
  have hcases := withdraw_cases m b gatewayUID intent
  generalize m.withdraw b gatewayUID intent = r at hcases h
  cases hcases with
  | refused err hgeneration => exact (hgeneration (Option.some.inj h)).2
  | failed => cases h
  | pending _ _ _ _ _ _ _ _ herr => exact absurd h herr
  | completed =>
    revert h
    fun_cases completeWithdrawal with
    | case2 _ _ _ _ err herr =>
      rw [releaseRequest_err herr]
      nofun
    | _ => nofun

/-! ## Runs -/

/-- One executed call of a manager. -/
abbrev ManagerRecord := Record GatewayRuntimeManager Call Reply

/-- The run of a fresh manager on a sequence of calls. -/
def managerRun (calls : List Call) : List ManagerRecord :=
  exec GatewayRuntimeManager.serve GatewayRuntimeManager.start calls

theorem serve_frame {r : ManagerRecord}
    (hr : r = record GatewayRuntimeManager.serve r.before r.input) (h : uid ≠ r.input.leaseUID) :
    r.after.state? uid = r.before.state? uid := by
  rw [hr]
  cases hc : r.input with
  | reconcile =>
    rw [hc] at h
    exact reconcile_frame h
  | withdraw =>
    rw [hc] at h
    exact withdraw_frame h

/-! ## A sample gateway

The concrete runs of the analysis use one gateway, one target shape and backends that
answer as told. -/

/-- A valid intent of the lease on the gateway `gw`. -/
def sampleIntent (uid : ObjectUID) (generation : Int) : Intent :=
  { apiVersion := runtimeAPIVersion, leaseNamespace := "media", leaseUID := uid, gatewayUID := "gw"
    handoffGeneration := generation, serviceUID := "service", endpointSliceUID := "slice"
    podUID := "pod", bindingUID := "binding", providerInternalPort := 49152, previousPublicPort := 0
    overlayAddress := .v4 0x0a000002#32, applicationAddress := .v4 0x0a000003#32
    backendPort := 8080, targetPort := 8080, protocols := [.tcp], adapterName := ""
    applicationPortMode := .fixed }

/-- The withdrawal of `sampleIntent`, without a provider release. -/
def sampleWithdrawal (uid : ObjectUID) (generation : Int) : WithdrawalIntent :=
  { apiVersion := runtimeAPIVersion, leaseNamespace := "media", leaseUID := uid, gatewayUID := "gw"
    handoffGeneration := generation, serviceUID := "service", endpointSliceUID := "slice"
    podUID := "pod", applicationEndpointRetired := false, releaseProvider := false
    providerInternalPort := 0, previousPublicPort := 0, protocols := [.tcp], adapterName := "" }

/-- A provider grant of port 50000 from `now`, renewable half way through its hundred ticks. -/
def sampleGrant (now : Time) : PortForwardLeaseObservation :=
  { publicAddress := .v4 0xcb007101#32, publicPort := 50000, renewAfter := now + 50
    expiresAt := now + 100 }

/-- Backends at one instant whose provider offers one lease and answers `grant`, whose `Replace`
answers `replace`, and that otherwise succeed. -/
def sampleBackends (now : Time) (grant : Except String PortForwardLeaseObservation)
    (replace : Option String) : Backends :=
  { portForward := some
      { observeCapabilities := .ok { protocols := [.tcp], maxLeases := 1, sharedPort := false }
        ensureLease := fun _ => grant
        releaseLease := fun _ => none }
    rules := some
      { replace := fun _ => replace, ready := fun _ => (true, none)
        withdrawn := fun _ _ => (true, none) }
    delivery := some
      { reconcile := fun _ _ => (true, true, none), withdraw := fun _ => (true, none) }
    clock := { observe := now, capacity := fun _ => now, refresh := now, rules := fun _ => now
               report := now } }

/-- The rule `sampleIntent` gets from `sampleGrant`. -/
def sampleRule (uid : ObjectUID) (generation : Int) : GatewayRule :=
  ruleFor (installedState (sampleIntent uid generation)
    ⟨(sampleGrant 0).publicAddress, (sampleGrant 0).publicPort, (sampleGrant 0).expiresAt⟩ 0)

end Waycloak.Interface
