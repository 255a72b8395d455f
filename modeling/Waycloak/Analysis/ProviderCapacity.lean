import Waycloak.Computation.KeyedCount
import Waycloak.Interface.ManagerSteps
import Mathlib.Data.Finset.Card

/-!
# The provider's capacity bounds every rule set

Every rule comes from a held state whose mapping is unexpired when it is visited, so a
rule set has at most as many rules as there are unexpired mappings at any earlier reading
of the clock (`ruleSet_length_le`). The run keeps this number, `activeAt`, within the
provider's capacity: time passing only lowers it, and a call raises it by at most one, for
its own lease.

A lease without a state is admitted only while the count is below the capacity. A lease
with a state is not counted again (manager.go:208), which is sound while its own mapping
is among the unexpired ones. It is not when the mapping has expired and the freed capacity
went to another lease: the renewal then goes one above (`ReacquiresBeyond`,
`reacquiredCalls`).
-/

set_option autoImplicit false

namespace Waycloak.Analysis

open Waycloak.Model Waycloak.Interface Waycloak.Computation

variable {intent : Intent} {m : GatewayRuntimeManager} {capacity : ℕ} {lo hi : Time}
variable {m' : GatewayRuntimeManager} {b : Backends} {gatewayUID : ObjectUID}

/-- The number of mappings that are unexpired at `t`. -/
def activeAt (m : GatewayRuntimeManager) (t : Time) : ℕ := activeCount m fun _ => t

/-- The readings of one call lie between `lo` and `hi`, in the order the call makes them. -/
structure ClockOrdered (lo : Time) (clock : Clock) (hi : Time) : Prop where
  observe : lo ≤ clock.observe ∧ clock.observe ≤ clock.refresh
  capacity : ∀ uid, lo ≤ clock.capacity uid ∧ clock.capacity uid ≤ clock.refresh
  rules : ∀ uid, clock.refresh ≤ clock.rules uid ∧ clock.rules uid ≤ clock.report
  report : clock.report ≤ hi

/-- The clock never goes back, within a call and from one call to the next. -/
def NondecreasingClock : Time → List Call → Prop
  | _, [] => True
  | lo, c :: calls => ∃ hi, ClockOrdered lo c.backends.clock hi ∧ NondecreasingClock hi calls

/-- Whenever the call observes the provider's capabilities, they offer `capacity` leases. -/
def OffersLeases (capacity : ℕ) (c : Call) : Prop :=
  ∀ capability capabilities, c.backends.portForward = some capability →
    capability.observeCapabilities = .ok capabilities → capabilities.maxLeases = capacity

/-- The call is a reconcile of a lease whose held mapping has expired, which the provider grants a
new one while `capacity` mappings are unexpired.
SOURCE: portforward/manager.go:113-133, 208-218 -/
def ReacquiresBeyond (capacity : ℕ) (m : GatewayRuntimeManager) (c : Call) : Prop :=
  ∃ gatewayUID intent b capability rules delivery request previous granted,
    c = .reconcile gatewayUID intent b ∧
    Acquiring m b gatewayUID intent capability rules delivery request ∧
    m.state? intent.leaseUID = some previous ∧ ¬ b.clock.refresh < previous.mapping.expiresAt ∧
    grantedMapping (capability.ensureLease request) b.clock.refresh = .ok granted ∧
    capacity ≤ activeAt m b.clock.refresh

theorem not_reacquiresBeyond {c : Call} (h : ((m.state? c.leaseUID).all fun state =>
      decide (c.backends.clock.refresh < state.mapping.expiresAt)) = true) :
    ¬ ReacquiresBeyond capacity m c := by
  rintro ⟨gatewayUID, intent, b, capability, rules, delivery, request, previous, granted, rfl, -,
    hheld, hexpired, -⟩
  change ((m.state? intent.leaseUID).all fun state =>
    decide (b.clock.refresh < state.mapping.expiresAt)) = true at h
  rw [hheld] at h
  exact hexpired (of_decide_eq_true h)

/-! ## The count -/

theorem activeCount_eq (m : GatewayRuntimeManager) (now : ObjectUID → Time) : activeCount m now =
      keyedCount (fun uid state => decide (now uid < state.mapping.expiresAt)) m.states := rfl

theorem activeCount_anti {early late : ObjectUID → Time} (h : ∀ uid, early uid ≤ late uid) :
    activeCount m late ≤ activeCount m early := by
  rw [activeCount_eq, activeCount_eq]
  apply keyedCount_le
  intro uid state hheld hlate
  refine ⟨state, hheld, ?_⟩
  exact decide_eq_true (lt_of_le_of_lt (h uid) (of_decide_eq_true hlate))

theorem activeAt_le_of_mappings (t : Time) (h : ∀ uid state', m'.state? uid = some state' →
      ∃ state, m.state? uid = some state ∧ state'.mapping = state.mapping) :
    activeAt m' t ≤ activeAt m t := by
  unfold activeAt
  rw [activeCount_eq, activeCount_eq]
  apply keyedCount_le
  intro uid state' hheld' hactive
  obtain ⟨state, hheld, hmapping⟩ := h uid state' hheld'
  refine ⟨state, hheld, ?_⟩
  rw [← hmapping]
  exact hactive

/-- INTERNAL: a rule set has at most as many rules as there are mappings unexpired before its
readings.
SOURCE: portforward/manager.go:294-303 -/
theorem ruleSet_length_le {now : ObjectUID → Time} {t : Time} (h : ∀ uid, t ≤ now uid) :
    (m.ruleSet now).length ≤ activeAt m t := by
  unfold GatewayRuntimeManager.ruleSet activeAt activeCount
  rw [List.length_insertionSort, List.length_map, ← List.countP_eq_length_filter]
  apply List.countP_mono_left
  intro e _ hserving
  have hfresh : now e.1 < e.2.mapping.expiresAt := by
    simp only [serving, Bool.and_eq_true, decide_eq_true_eq] at hserving
    exact hserving.2
  exact decide_eq_true (lt_of_le_of_lt (h e.1) hfresh)

/-! ## One call -/

theorem int32Count_of_lt {n : ℕ} (h : n < 2 ^ 31) : int32Count n = n := by
  unfold int32Count
  rw [Int.bmod_eq_of_le] <;> omega

/-- INTERNAL: a lease without a state gets past the capabilities only below the capacity.
SOURCE: portforward/manager.go:208-218 -/
theorem verdict_below_capacity {clock : Clock} {capability : PortForwardCapability}
    (hoffers : ∀ capabilities, capability.observeCapabilities = .ok capabilities →
      capabilities.maxLeases = capacity)
    (hsmall : activeCount m clock.capacity < 2 ^ 31)
    (h : capabilityVerdict m clock capability none intent = .proceed) :
    activeCount m clock.capacity < capacity := by
  unfold capabilityVerdict at h
  cases hobs : capability.observeCapabilities with
  | error =>
    rw [hobs] at h
    cases h
  | ok capabilities =>
    rw [hobs] at h
    dsimp only [Option.isSome_none] at h
    split at h
    · cases h
    next hnone =>
    have hmax := hoffers capabilities hobs
    revert hnone
    fun_cases validateProviderCapabilities m clock.capacity intent capabilities false with
    | case6 _ _ _ _ _ hfree =>
      rw [hmax, int32Count_of_lt hsmall] at hfree
      simp only [true_and, not_le] at hfree
      exact fun _ => by exact_mod_cast hfree
    | _ => nofun

/-- INTERNAL: **a reconcile that reaches its own `Replace` stays within the capacity**, whatever its
own lease's state becomes. -/
theorem install_within_capacity (hcapacity : capacity < 2 ^ 31) (hbound : activeAt m lo ≤ capacity)
    (hclock : ClockOrdered lo b.clock hi)
    (hoffers : OffersLeases capacity (.reconcile gatewayUID intent b))
    (hbeyond : ¬ ReacquiresBeyond capacity m (.reconcile gatewayUID intent b))
    (hinstall : ReachesInstall m b gatewayUID intent)
    (hframe : ∀ uid, uid ≠ intent.leaseUID → m'.state? uid = m.state? uid) :
    activeAt m' b.clock.refresh ≤ capacity := by
  obtain ⟨capability, rules, delivery, request, granted, hacq, hmap⟩ := hinstall
  have hsucc : activeAt m' b.clock.refresh ≤ activeAt m b.clock.refresh + 1 := by
    unfold activeAt
    rw [activeCount_eq, activeCount_eq]
    exact keyedCount_le_succ hframe
  have hcount : activeAt m b.clock.refresh ≤ activeCount m b.clock.capacity :=
    activeCount_anti fun uid => (hclock.capacity uid).2
  have hstart : activeCount m b.clock.capacity ≤ activeAt m lo :=
    activeCount_anti fun uid => (hclock.capacity uid).1
  cases hheld : m.state? intent.leaseUID with
  | none =>
    have hverdict := hacq.verdict
    rw [hheld] at hverdict
    have hbelow := verdict_below_capacity
      (fun capabilities => hoffers capability capabilities hacq.portForward) (by omega) hverdict
    omega
  | some previous =>
    by_cases hfresh : b.clock.refresh < previous.mapping.expiresAt
    · -- the lease's own mapping is among the counted ones
      have hle : activeAt m' b.clock.refresh ≤ activeAt m b.clock.refresh := by
        unfold activeAt
        rw [activeCount_eq, activeCount_eq]
        apply keyedCount_le
        intro uid state hstate hactive
        by_cases hu : uid = intent.leaseUID
        · subst hu
          exact ⟨previous, hheld, decide_eq_true hfresh⟩
        · exact ⟨state, (hframe uid hu).symm.trans hstate, hactive⟩
      omega
    · have hgrant : ∃ granted,
          grantedMapping (capability.ensureLease request) b.clock.refresh = .ok granted := by
        cases hg : grantedMapping (capability.ensureLease request) b.clock.refresh with
        | ok granted => exact ⟨granted, rfl⟩
        | error =>
          rw [hheld] at hmap
          simp [mappingFor, providerRefreshDue, hfresh, hg] at hmap
      obtain ⟨granted, hgrant⟩ := hgrant
      by_contra hover
      apply hbeyond
      exact ⟨gatewayUID, intent, b, capability, rules, delivery, request, previous, granted, rfl,
        hacq, hheld, hfresh, hgrant, by omega⟩

theorem withdraw_mappings (m : GatewayRuntimeManager) (b : Backends) (gatewayUID : ObjectUID)
    (intent : WithdrawalIntent) (uid : ObjectUID) (state' : RuntimeState)
    (h : (m.withdraw b gatewayUID intent).manager.state? uid = some state') :
    ∃ state, m.state? uid = some state ∧ state'.mapping = state.mapping := by
  by_cases hu : uid = intent.leaseUID
  · subst hu
    have hdraining : ∀ state'', (drainingManager m intent).state? intent.leaseUID = some state'' →
        ∃ state, m.state? intent.leaseUID = some state ∧ state''.mapping = state.mapping := by
      intro state'' hheld
      rw [state?_drainingManager, if_pos rfl] at hheld
      obtain ⟨state, hstate, rfl⟩ := Option.map_eq_some_iff.mp hheld
      refine ⟨state, hstate, ?_⟩
      unfold startDraining
      split <;> rfl
    have hdrained : ∀ held : Option RuntimeState, held.map drainedState = some state' →
        ∃ state'', held = some state'' ∧ state'.mapping = state''.mapping := by
      intro held hmap
      obtain ⟨state'', hheld, rfl⟩ := Option.map_eq_some_iff.mp hmap
      exact ⟨state'', hheld, rfl⟩
    have hcases := withdraw_cases m b gatewayUID intent
    generalize m.withdraw b gatewayUID intent = result at hcases h
    cases hcases with
    | refused err => exact ⟨state', h, rfl⟩
    | failed =>
      rw [state?_update _ _ _ rollBackDraining fun _ => rfl, if_pos rfl] at h
      obtain ⟨state'', hheld, rfl⟩ := Option.map_eq_some_iff.mp h
      exact hdraining state'' hheld
    | pending => exact hdraining state' h
    | completed =>
      rcases (completeWithdrawal_cases (drainingManager m intent) b intent _).2 with
        ⟨-, -, hdone | hnone⟩ | ⟨-, -, -, hdone⟩
      · obtain ⟨state'', hheld, hmapping⟩ := hdrained _ (hdone.symm.trans h)
        rw [hmapping]
        exact hdraining state'' hheld
      · cases hnone.symm.trans h
      · obtain ⟨state'', hheld, hmapping⟩ := hdrained _ (hdone.symm.trans h)
        rw [hmapping]
        exact hdraining state'' hheld
  · exact ⟨state', (withdraw_frame hu).symm.trans h, rfl⟩

/-- INTERNAL: the manager after a reconcile holds at most `capacity` mappings unexpired at its
refresh reading. -/
theorem reconcile_within_capacity (hcapacity : capacity < 2 ^ 31)
    (hbound : activeAt m lo ≤ capacity) (hclock : ClockOrdered lo b.clock hi)
    (hoffers : OffersLeases capacity (.reconcile gatewayUID intent b))
    (hbeyond : ¬ ReacquiresBeyond capacity m (.reconcile gatewayUID intent b)) :
    activeAt (m.reconcile b gatewayUID intent).manager b.clock.refresh ≤ capacity := by
  have hlater : activeAt m b.clock.refresh ≤ activeAt m lo :=
    activeCount_anti fun _ => le_trans hclock.observe.1 hclock.observe.2
  have hkept : (∀ state', (m.reconcile b gatewayUID intent).manager.state? intent.leaseUID =
      some state' → ∃ state, m.state? intent.leaseUID = some state ∧
        state'.mapping = state.mapping) →
      activeAt (m.reconcile b gatewayUID intent).manager b.clock.refresh ≤ capacity := by
    intro hown
    have hle : activeAt (m.reconcile b gatewayUID intent).manager b.clock.refresh ≤
        activeAt m b.clock.refresh := by
      apply activeAt_le_of_mappings
      intro uid state' hheld
      by_cases hu : uid = intent.leaseUID
      · subst hu
        exact hown state' hheld
      · exact ⟨state', (reconcile_frame hu).symm.trans hheld, rfl⟩
    omega
  rcases reconcile_own m b gatewayUID intent with hsame | ⟨previous, hprev, hblocked⟩ | ⟨-, hgone⟩ |
    ⟨hinstall, -⟩
  · exact hkept fun state' hheld => ⟨state', hsame.symm.trans hheld, rfl⟩
  · refine hkept fun state' hheld => ⟨previous, hprev, ?_⟩
    cases hblocked.symm.trans hheld
    rfl
  · refine hkept fun state' hheld => ?_
    cases hgone.symm.trans hheld
  · exact install_within_capacity hcapacity hbound hclock hoffers hbeyond hinstall
      fun uid hu => reconcile_frame hu

/-- INTERNAL: **one call keeps the capacity**: every rule set it passes is within it, and so is the
number of unexpired mappings after it. -/
theorem serve_within_capacity {c : Call} (hcapacity : capacity < 2 ^ 31)
    (hbound : activeAt m lo ≤ capacity) (hclock : ClockOrdered lo c.backends.clock hi)
    (hoffers : OffersLeases capacity c) (hbeyond : ¬ ReacquiresBeyond capacity m c) :
    (∀ rules, (m.serve c).2.Passed rules → rules.length ≤ capacity) ∧
      activeAt (m.serve c).1 hi ≤ capacity := by
  have hend : c.backends.clock.refresh ≤ hi :=
    le_trans (hclock.rules "").1 (le_trans (hclock.rules "").2 hclock.report)
  have hreadings : ∀ uid, c.backends.clock.refresh ≤ c.backends.clock.rules uid :=
    fun uid => (hclock.rules uid).1
  have hlater : activeAt m c.backends.clock.refresh ≤ activeAt m lo :=
    activeCount_anti fun _ => le_trans hclock.observe.1 hclock.observe.2
  cases c with
  | reconcile =>
    have hafter := reconcile_within_capacity hcapacity hbound hclock hoffers hbeyond
    refine ⟨?_, le_trans (activeCount_anti fun _ => hend) hafter⟩
    rintro rules ⟨err, hmem⟩
    rcases reconcile_passed (m := m) hmem with hset | ⟨-, hinstall, mapping, renewAfter, hset⟩
    · rw [hset]
      exact le_trans (ruleSet_length_le hreadings) hafter
    rw [hset]
    refine le_trans (ruleSet_length_le hreadings) ?_
    apply install_within_capacity hcapacity hbound hclock hoffers hbeyond hinstall
    intro uid hu
    rw [state?_store]
    exact if_neg hu
  | withdraw gatewayUID intent b =>
    refine ⟨?_, ?_⟩
    · rintro rules ⟨err, hmem⟩
      rw [withdraw_passed (m := m) hmem]
      refine le_trans (ruleSet_length_le hreadings) ?_
      have hle : activeAt (drainingManager m intent) b.clock.refresh ≤ activeAt m b.clock.refresh := by
        apply activeAt_le_of_mappings
        intro uid state' hheld
        rw [state?_drainingManager] at hheld
        split at hheld
        · next hu =>
          subst hu
          obtain ⟨state, hstate, rfl⟩ := Option.map_eq_some_iff.mp hheld
          refine ⟨state, hstate, ?_⟩
          unfold startDraining
          split <;> rfl
        · exact ⟨state', hheld, rfl⟩
      exact le_trans hle (le_trans hlater hbound)
    · have hle : activeAt (m.serve (.withdraw gatewayUID intent b)).1 hi ≤ activeAt m hi :=
        activeAt_le_of_mappings hi fun uid state' => withdraw_mappings m b gatewayUID intent uid state'
      have hanti : activeAt m hi ≤ activeAt m b.clock.refresh := activeCount_anti fun _ => hend
      exact le_trans hle (le_trans hanti (le_trans hlater hbound))

/-- INTERNAL: the run of calls keeps the capacity. The bound on the unexpired mappings moves with
the clock, so the induction carries both the manager and the time. -/
theorem exec_within_capacity (hcapacity : capacity < 2 ^ 31) (calls : List Call) :
    ∀ (m : GatewayRuntimeManager) (lo : Time), activeAt m lo ≤ capacity →
      NondecreasingClock lo calls →
      (∀ r ∈ exec GatewayRuntimeManager.serve m calls,
        OffersLeases capacity r.input ∧ ¬ ReacquiresBeyond capacity r.before r.input) →
      ∀ r ∈ exec GatewayRuntimeManager.serve m calls, ∀ rules, r.output.Passed rules →
        rules.length ≤ capacity := by
  induction calls with
  | nil => simp
  | cons c calls ih =>
    intro m lo hbound hclocks hsteps r hr
    obtain ⟨hi, hclock, hclocks'⟩ := hclocks
    have hfirst := hsteps (record GatewayRuntimeManager.serve m c) (by simp)
    obtain ⟨hpassed, hbound'⟩ :=
      serve_within_capacity hcapacity hbound hclock hfirst.1 hfirst.2
    rcases List.mem_cons.mp hr with rfl | hr
    · exact hpassed
    · exact ih _ hi hbound' hclocks' (fun r' hr' => hsteps r' (List.mem_cons_of_mem _ hr')) r hr

/-- **Provider capacity is never exceeded**, in a run with a clock that never goes back and a
provider that offers `capacity` leases whenever it is observed, unless an expired lease gets a new
mapping while the capacity is taken. With capacity one, no two rules of a set share a protocol and
an ingress port.
SOURCE: portforward/manager.go:188-220 -/
theorem rules_within_capacity (capacity : ℕ) (hcapacity : capacity < 2 ^ 31) (calls : List Call)
    (start : Time) (hclock : NondecreasingClock start calls)
    (hsteps : ∀ r ∈ managerRun calls,
      OffersLeases capacity r.input ∧ ¬ ReacquiresBeyond capacity r.before r.input) :
    ∀ r ∈ managerRun calls, ∀ rules, r.output.Passed rules →
      (rules.map GatewayRule.leaseUID).toFinset.card ≤ capacity ∧
      (capacity = 1 → rules.Pairwise fun a b =>
        ¬ (a.ingressPort = b.ingressPort ∧ ∃ protocol ∈ a.protocols, protocol ∈ b.protocols)) := by
  intro r hr rules hpassed
  have hlength : rules.length ≤ capacity :=
    exec_within_capacity hcapacity calls GatewayRuntimeManager.start start (Nat.zero_le _) hclock
      hsteps r hr rules hpassed
  refine ⟨?_, ?_⟩
  · have hcard := List.toFinset_card_le (rules.map GatewayRule.leaseUID)
    rw [List.length_map] at hcard
    omega
  intro hone
  match rules, hlength with
  | [], _ => exact List.Pairwise.nil
  | [rule], _ => exact List.pairwise_singleton _ rule
  | _ :: _ :: _, htwo =>
    simp only [List.length_cons] at htwo
    omega

theorem sampleBackends_clockOrdered {now : Time} (h : lo ≤ now)
    (grant : Except String PortForwardLeaseObservation) (replace : Option String) :
    ClockOrdered lo (sampleBackends now grant replace).clock now :=
  ⟨⟨h, le_refl _⟩, fun _ => ⟨h, le_refl _⟩, fun _ => ⟨le_refl _, le_refl _⟩, le_refl _⟩

theorem sampleBackends_offersLeases (gatewayUID : ObjectUID) (intent : Intent) (now : Time)
    (grant : Except String PortForwardLeaseObservation) (replace : Option String) :
    OffersLeases 1 (.reconcile gatewayUID intent (sampleBackends now grant replace)) := by
  intro capability capabilities hcapability hobserve
  cases hcapability
  cases hobserve
  rfl

/-- The second lease asks while the first one holds the provider's only mapping. -/
def contendedCalls : List Call :=
  [.reconcile "gw" (sampleIntent "lease-a" 1) (sampleBackends 1 (.ok (sampleGrant 1)) none),
   .reconcile "gw" (sampleIntent "lease-b" 1) (sampleBackends 2 (.ok (sampleGrant 2)) none)]

theorem rules_within_capacity_contended :
    ∃ r ∈ managerRun contendedCalls, r.output.Passed [sampleRule "lease-a" 1] ∧
      ([sampleRule "lease-a" 1].map GatewayRule.leaseUID).toFinset.card ≤ 1 := by
  have hpassed : ∃ r ∈ managerRun contendedCalls, r.output.Accepted [sampleRule "lease-a" 1] := by
    decide +kernel
  obtain ⟨r, hr, haccepted⟩ := hpassed
  refine ⟨r, hr, ⟨none, haccepted⟩, ?_⟩
  refine (rules_within_capacity 1 (by decide) contendedCalls 0 ?_ ?_ r hr _ ⟨none, haccepted⟩).1
  · exact ⟨1, sampleBackends_clockOrdered (by decide) _ _, 2,
      sampleBackends_clockOrdered (by decide) _ _, trivial⟩
  intro r hr
  rcases List.mem_cons.mp hr with rfl | hr
  · exact ⟨sampleBackends_offersLeases _ _ _ _ _, not_reacquiresBeyond (by decide)⟩
  · rw [List.mem_singleton.mp hr]
    exact ⟨sampleBackends_offersLeases _ _ _ _ _, not_reacquiresBeyond (by decide)⟩

/-- The first lease's mapping expires, the second lease takes the capacity, the first renews. -/
def reacquiredCalls : List Call :=
  [.reconcile "gw" (sampleIntent "lease-a" 1) (sampleBackends 1 (.ok (sampleGrant 1)) none),
   .reconcile "gw" (sampleIntent "lease-b" 1) (sampleBackends 101 (.ok (sampleGrant 101)) none),
   .reconcile "gw" (sampleIntent "lease-a" 1) (sampleBackends 102 (.ok (sampleGrant 102)) none)]

/-- A provider with one lease ends up with rules of two leases on one port and protocol. -/
theorem reacquired_beyond_capacity : NondecreasingClock 0 reacquiredCalls ∧
      (∀ r ∈ managerRun reacquiredCalls, OffersLeases 1 r.input) ∧
      ∃ r ∈ managerRun reacquiredCalls, ∃ rules, r.output.Passed rules ∧
        1 < (rules.map GatewayRule.leaseUID).toFinset.card ∧
        ¬ rules.Pairwise fun a b =>
          ¬ (a.ingressPort = b.ingressPort ∧ ∃ protocol ∈ a.protocols, protocol ∈ b.protocols) := by
  refine ⟨⟨1, sampleBackends_clockOrdered (by decide) _ _, 101,
    sampleBackends_clockOrdered (by decide) _ _, 102, sampleBackends_clockOrdered (by decide) _ _,
    trivial⟩, ?_, _, List.mem_cons_of_mem _ (List.mem_cons_of_mem _ (List.mem_singleton_self _)),
    [sampleRule "lease-a" 1, sampleRule "lease-b" 1], ⟨none, by decide⟩, by decide, by decide⟩
  intro r hr
  rcases List.mem_cons.mp hr with rfl | hr
  · exact sampleBackends_offersLeases _ _ _ _ _
  rcases List.mem_cons.mp hr with rfl | hr
  · exact sampleBackends_offersLeases _ _ _ _ _
  · rw [List.mem_singleton.mp hr]
    exact sampleBackends_offersLeases _ _ _ _ _

end Waycloak.Analysis
