import Waycloak.Interface.ManagerSteps
import Waycloak.Interface.RuntimeChecks

/-!
# Expired and regressed mappings at the end of a reconcile

A rule does not name the mapping it was made from, so the set last accepted by `Replace`
is followed here as a list of `InstalledRule`s, each with the expiry of its mapping.
`installedAfter_rules` says that forgetting the expiries gives what the effects of the
call say was accepted last.

A reconcile at time `t` that reaches `Replace` leaves only unexpired rules, and none of
its own lease if it noticed something wrong with it. A reconcile that is turned away
before that (`TurnedAway`) leaves the installed set as it was. Among those is the one
whose capability observation fails while the held mapping is expired
(manager.go:92-95): it sees the expiry and returns, and the expired rule stays.
`withdrawnByCall_iff` gives both halves, `unobserved_expiry_keeps_rule` is the failing call.
-/

set_option autoImplicit false

namespace Waycloak.Analysis

open Waycloak.Model Waycloak.Interface Waycloak.Computation

variable {b : Backends} {gatewayUID : ObjectUID} {intent : Intent} {m : GatewayRuntimeManager}

/-- A rule with the expiry of the mapping it was made from. -/
structure InstalledRule where
  rule : GatewayRule
  expiresAt : Time
  deriving DecidableEq

/-- The rule set of a manager, each rule with the expiry of its mapping. -/
def installedSet (m : GatewayRuntimeManager) (now : ObjectUID → Time) : List InstalledRule :=
  ((m.states.entries.filter fun e => serving e.2 (now e.1)).map fun e =>
      InstalledRule.mk (ruleFor e.2) e.2.mapping.expiresAt).insertionSort
    fun a b => a.rule.leaseUID ≤ b.rule.leaseUID

/-- The rule set last accepted by `Replace`, given the one before the effects. -/
def lastAccepted (before : List GatewayRule) : List Effect → List GatewayRule
  | [] => before
  | .replace rules none :: effects => lastAccepted rules effects
  | _ :: effects => lastAccepted before effects

/-- The clock of a call that takes place at one instant. -/
def instant (t : Time) : Clock :=
  { observe := t, capacity := fun _ => t, refresh := t, rules := fun _ => t, report := t }

/-- The installed set after a reconcile at `t`: the one of the manager after it if a rule set was
accepted, else the one before. -/
def installedAfter (installed : List InstalledRule) (result : CallResult) (t : Time) :
    List InstalledRule :=
  if result.effects.any (fun e => match e with | .replace _ none => true | _ => false) then
    installedSet result.manager fun _ => t
  else installed

/-- The observed capabilities reject the lease.
SOURCE: portforward/manager.go:96 -/
def CapabilitiesReject (m : GatewayRuntimeManager) (b : Backends) (gatewayUID : ObjectUID)
    (intent : Intent) : Prop :=
  ∃ capability rules delivery capabilities,
    validateRuntimeIntent gatewayUID intent = none ∧ b.portForward = some capability ∧
    b.rules = some rules ∧ b.delivery = some delivery ∧
    admission (m.state? intent.leaseUID) intent = none ∧
    capability.observeCapabilities = .ok capabilities ∧
    validateProviderCapabilities m b.clock.capacity intent capabilities
      (m.state? intent.leaseUID).isSome ≠ none

/-- The mapping held for the lease is expired at `t`. -/
def HoldsExpired (m : GatewayRuntimeManager) (uid : ObjectUID) (t : Time) : Prop :=
  ∃ state, m.state? uid = some state ∧ ¬ t < state.mapping.expiresAt

/-- What a reconcile at `t` can notice: on return the held mapping is expired, or the observed
capabilities reject the lease, or neither the provider nor the held state has a usable mapping. -/
def Notices (m : GatewayRuntimeManager) (b : Backends) (gatewayUID : ObjectUID) (intent : Intent)
    (t : Time) : Prop :=
  HoldsExpired (m.reconcile b gatewayUID intent).manager intent.leaseUID t ∨
    CapabilitiesReject m b gatewayUID intent ∨ ReachesDrop m b gatewayUID intent

/-- After the reconcile the set last accepted has no rule of a lease it noticed something wrong
with, and no rule whose mapping had expired. -/
def WithdrawnByCall (m : GatewayRuntimeManager) (installed : List InstalledRule) (b : Backends)
    (gatewayUID : ObjectUID) (intent : Intent) (t : Time) : Prop :=
  let after := installedAfter installed (m.reconcile b gatewayUID intent) t
  (Notices m b gatewayUID intent t → ∀ r ∈ after, r.rule.leaseUID ≠ intent.leaseUID) ∧
    ∀ r ∈ after, t < r.expiresAt

/-- The reconcile returns before its first `Replace`: the request is invalid, a backend is missing,
the held state does not admit it, the capabilities cannot be observed and there is no unblocked
unexpired mapping to fall back on, or they reject a lease without a state.
SOURCE: portforward/manager.go:66-105 -/
def TurnedAway (m : GatewayRuntimeManager) (b : Backends) (gatewayUID : ObjectUID)
    (intent : Intent) : Prop :=
  validateRuntimeIntent gatewayUID intent ≠ none ∨ b.portForward = none ∨ b.rules = none ∨
    b.delivery = none ∨ admission (m.state? intent.leaseUID) intent ≠ none ∨
    ∃ capability, b.portForward = some capability ∧
      match capability.observeCapabilities with
      | .error _ => ∀ state, m.state? intent.leaseUID = some state →
          state.blocked = true ∨ ¬ b.clock.observe < state.mapping.expiresAt
      | .ok capabilities => m.state? intent.leaseUID = none ∧
          validateProviderCapabilities m b.clock.capacity intent capabilities false ≠ none

/-! ## The installed set and what was accepted -/

theorem installedSet_rules (m : GatewayRuntimeManager) (now : ObjectUID → Time) :
    (installedSet m now).map (·.rule) = m.ruleSet now := by
  unfold installedSet GatewayRuntimeManager.ruleSet
  rw [List.map_insertionSort (fun a b : InstalledRule => a.rule.leaseUID ≤ b.rule.leaseUID)
    (fun a b : GatewayRule => a.leaseUID ≤ b.leaseUID) _ _ fun _ _ _ _ => Iff.rfl]
  rw [List.map_map]
  rfl

theorem mem_installedSet {now : ObjectUID → Time} {r : InstalledRule} (h : r ∈ installedSet m now) :
    ∃ state, m.state? r.rule.leaseUID = some state ∧
      serving state (now r.rule.leaseUID) = true ∧ r.expiresAt = state.mapping.expiresAt := by
  unfold installedSet at h
  rw [List.mem_insertionSort, List.mem_map] at h
  obtain ⟨e, he, rfl⟩ := h
  obtain ⟨hmem, hserving⟩ := List.mem_filter.mp he
  have hheld := (mem_entries_iff m e).mp hmem
  have hkey : (ruleFor e.2).leaseUID = e.1 := leaseUID_of_state? hheld
  refine ⟨e.2, ?_, ?_, rfl⟩
  · rw [hkey]
    exact hheld
  · rw [hkey]
    exact hserving

theorem serving_iff (state : RuntimeState) (now : Time) :
    serving state now = true ↔ state.draining = false ∧ state.drained = false ∧
      state.blocked = false ∧ now < state.mapping.expiresAt := by
  simp [serving, and_assoc]

theorem lastAccepted_of_forall_ne {before : List GatewayRule} {effects : List Effect}
    (h : ∀ rules, Effect.replace rules none ∉ effects) : lastAccepted before effects = before := by
  induction effects with
  | nil => rfl
  | cons _ _ ih =>
    have hrest := ih fun rules hmem => h rules (List.mem_cons_of_mem _ hmem)
    unfold lastAccepted
    split
    · cases ‹_ = _›
    · next rules _ heq =>
      cases heq
      exact absurd List.mem_cons_self (h rules)
    · next heq =>
      cases heq
      exact hrest

theorem lastAccepted_of_mem {before set : List GatewayRule} {effects : List Effect}
    (hall : ∀ rules, Effect.replace rules none ∈ effects → rules = set)
    (hmem : Effect.replace set none ∈ effects) : lastAccepted before effects = set := by
  induction effects generalizing before with
  | nil => cases hmem
  | cons e effects ih =>
    have hall' : ∀ rules, Effect.replace rules none ∈ effects → rules = set :=
      fun rules h => hall rules (List.mem_cons_of_mem _ h)
    by_cases hlater : Effect.replace set none ∈ effects
    · unfold lastAccepted
      split
      · cases ‹_ = _›
      · next heq =>
        cases heq
        exact ih hall' hlater
      · next heq =>
        cases heq
        exact ih hall' hlater
    · have he : e = .replace set none := by
        rcases List.mem_cons.mp hmem with h | h
        · exact h.symm
        · exact absurd h hlater
      subst he
      show lastAccepted set effects = set
      apply lastAccepted_of_forall_ne
      intro rules h
      have := hall' rules h
      subst this
      exact hlater h

theorem any_accepted_iff (effects : List Effect) :
    effects.any (fun e => match e with | .replace _ none => true | _ => false) = true ↔
      ∃ rules, Effect.replace rules none ∈ effects := by
  rw [List.any_eq_true]
  constructor
  · rintro ⟨e, hmem, he⟩
    split at he
    · next rules => exact ⟨rules, hmem⟩
    · cases he
  · rintro ⟨rules, hmem⟩
    exact ⟨_, hmem, rfl⟩

/-- INTERNAL: **the installed set is the one accepted last**, for a reconcile at one instant.
SOURCE: portforward/manager.go:100, 140, 151 -/
theorem installedAfter_rules (m : GatewayRuntimeManager) (installed : List InstalledRule)
    (b : Backends) (gatewayUID : ObjectUID) (intent : Intent) (t : Time)
    (hclock : b.clock = instant t) :
    (installedAfter installed (m.reconcile b gatewayUID intent) t).map (·.rule) =
      lastAccepted (installed.map (·.rule)) (m.reconcile b gatewayUID intent).effects := by
  have hset : ∀ rules, Effect.replace rules none ∈ (m.reconcile b gatewayUID intent).effects →
      rules = (m.reconcile b gatewayUID intent).manager.ruleSet fun _ => t := by
    intro rules hmem
    rcases reconcile_passed hmem with h | ⟨hne, -⟩
    · rw [hclock] at h
      exact h
    · exact absurd rfl hne
  unfold installedAfter
  split
  · next hany =>
    obtain ⟨rules, hmem⟩ := (any_accepted_iff _).mp hany
    rw [installedSet_rules]
    have hrules := hset rules hmem
    subst hrules
    exact (lastAccepted_of_mem hset hmem).symm
  · next hany =>
    refine (lastAccepted_of_forall_ne fun rules hmem => hany ?_).symm
    exact (any_accepted_iff _).mpr ⟨rules, hmem⟩

/-! ## Turned away, or replaced -/

theorem reconcile_turnedAway (h : TurnedAway m b gatewayUID intent) :
    ∃ err, m.reconcile b gatewayUID intent = refuse m err := by
  unfold GatewayRuntimeManager.reconcile
  cases hvalid : validateRuntimeIntent gatewayUID intent with
  | some err => exact ⟨err, rfl⟩
  | none =>
    rcases hpf : b.portForward with _ | capability
    · exact ⟨_, rfl⟩
    rcases hru : b.rules with _ | rules
    · exact ⟨_, rfl⟩
    rcases hde : b.delivery with _ | delivery
    · exact ⟨_, rfl⟩
    dsimp only
    cases hadm : admission (m.state? intent.leaseUID) intent with
    | some err => exact ⟨err, rfl⟩
    | none =>
      unfold TurnedAway at h
      rw [hvalid, hpf, hru, hde, hadm] at h
      simp only [ne_eq, not_true_eq_false, reduceCtorEq, false_or, Option.some.injEq,
        exists_eq_left'] at h
      unfold capabilityVerdict
      cases hobs : capability.observeCapabilities with
      | error =>
        rw [hobs] at h
        cases hheld : m.state? intent.leaseUID with
        | none => exact ⟨_, rfl⟩
        | some state =>
          dsimp only
          rw [if_pos (h state hheld)]
          exact ⟨_, rfl⟩
      | ok =>
        rw [hobs] at h
        obtain ⟨hnone, hreject⟩ := h
        rw [hnone]
        obtain ⟨err, herr⟩ := Option.ne_none_iff_exists'.mp hreject
        dsimp only [Option.isSome_none]
        rw [herr]
        exact ⟨err, rfl⟩

/-- INTERNAL: a reconcile that is not turned away gets a rule set accepted, when `Replace` does not
fail.
SOURCE: portforward/manager.go:97-151 -/
theorem reconcile_accepted (h : ¬ TurnedAway m b gatewayUID intent)
    (hreplace : ∀ rules set, b.rules = some rules → rules.replace set = none) :
    ∃ rules, Effect.replace rules none ∈ (m.reconcile b gatewayUID intent).effects := by
  simp only [TurnedAway, ne_eq, not_or, not_not, not_exists, not_and] at h
  obtain ⟨hvalid, hpf, hru, hde, hadm, hobserve⟩ := h
  obtain ⟨capability, hpf⟩ := Option.ne_none_iff_exists'.mp hpf
  obtain ⟨rules, hru⟩ := Option.ne_none_iff_exists'.mp hru
  obtain ⟨delivery, hde⟩ := Option.ne_none_iff_exists'.mp hde
  obtain ⟨request, hrequest⟩ := intentRequest_ok hvalid
  have hok : ∀ set, rules.replace set = none := fun set => hreplace rules set hru
  have hacquire : ∃ set, Effect.replace set none ∈
      (acquireLease m b capability rules delivery (m.state? intent.leaseUID) intent).effects := by
    unfold acquireLease
    rw [hrequest]
    dsimp only
    split
    · exact ⟨(m.remove intent.leaseUID).ruleSet b.clock.rules, by simp [dropLease, hok]⟩
    next mapping renewAfter _ =>
    refine ⟨(m.store (installedState intent mapping renewAfter)).ruleSet b.clock.rules, ?_⟩
    unfold installLease
    dsimp only
    rw [hok]
    exact List.mem_append_right _ List.mem_cons_self
  unfold GatewayRuntimeManager.reconcile
  rw [hvalid, hpf, hru, hde]
  dsimp only
  rw [hadm]
  dsimp only
  have hcase := hobserve capability hpf
  cases hverdict : capabilityVerdict m b.clock capability (m.state? intent.leaseUID) intent with
  | proceed => exact hacquire
  | unobserved err =>
    exfalso
    unfold capabilityVerdict at hverdict
    cases hobs : capability.observeCapabilities with
    | error =>
      rw [hobs] at hverdict hcase
      simp only [not_forall, not_or, not_not, exists_prop] at hcase
      obtain ⟨state, hheld, hblocked, hexpiry⟩ := hcase
      rw [hheld] at hverdict
      dsimp only at hverdict
      rw [if_neg (by simp [hblocked, hexpiry])] at hverdict
      cases hverdict
    | ok =>
      rw [hobs] at hverdict
      dsimp only at hverdict
      split at hverdict <;> cases hverdict
  | rejected err =>
    cases hheld : m.state? intent.leaseUID with
    | some previous =>
      exact ⟨(m.store { previous with blocked := true }).ruleSet b.clock.rules,
        by simp [blockLease, hok]⟩
    | none =>
      exfalso
      unfold capabilityVerdict at hverdict
      cases hobs : capability.observeCapabilities with
      | error =>
        rw [hobs, hheld] at hverdict
        cases hverdict
      | ok =>
        rw [hobs] at hverdict hcase
        rw [hheld] at hverdict
        dsimp only [Option.isSome_none] at hverdict
        split at hverdict
        · next err' herr => exact hcase ⟨hheld, by rw [herr]; simp⟩
        · cases hverdict

theorem capabilityVerdict_rejected {clock : Clock}
    {capability : PortForwardCapability} {previous : Option RuntimeState}
    {capabilities : PortForwardCapabilities}
    (hobs : capability.observeCapabilities = .ok capabilities)
    (hreject : validateProviderCapabilities m clock.capacity intent capabilities previous.isSome ≠
      none) : ∃ err, capabilityVerdict m clock capability previous intent = .rejected err := by
  obtain ⟨err, herr⟩ := Option.ne_none_iff_exists'.mp hreject
  refine ⟨err, ?_⟩
  unfold capabilityVerdict
  rw [hobs]
  dsimp only
  rw [herr]

/-- INTERNAL: a reconcile that gets a rule set accepted leaves no rule of its lease, if it noticed
something wrong with it.
SOURCE: portforward/manager.go:97-151 -/
theorem reconcile_clears {t : Time}
    (haccepted : ∃ rules, Effect.replace rules none ∈ (m.reconcile b gatewayUID intent).effects)
    (hnotices : Notices m b gatewayUID intent t) :
    ∀ r ∈ installedSet (m.reconcile b gatewayUID intent).manager fun _ => t,
      r.rule.leaseUID ≠ intent.leaseUID := by
  intro r hr huid
  obtain ⟨state, hheld, hserving, -⟩ := mem_installedSet hr
  rw [huid] at hheld
  obtain ⟨-, -, hunblocked, hfresh⟩ := (serving_iff state t).mp hserving
  unfold Notices at hnotices
  have hcases := reconcile_cases m b gatewayUID intent
  generalize m.reconcile b gatewayUID intent = result at hcases haccepted hnotices hheld
  rcases hnotices with ⟨held, hheld', hexpired⟩ | hwrong
  · rw [hheld] at hheld'
    cases hheld'
    exact hexpired hfresh
  cases hcases with
  | refused err =>
    obtain ⟨rules, hmem⟩ := haccepted
    simp [refuse] at hmem
  | blocked _ _ _ _ _ _ _ hprevious =>
    simp only [blockLease, state?_store, leaseUID_of_state? hprevious, if_true,
      Option.some.injEq] at hheld
    rw [← hheld] at hunblocked
    cases hunblocked
  | dropped => simp [dropLease, state?_remove] at hheld
  | installed _ _ _ request _ _ _ hacq hmap =>
    rcases hwrong with ⟨capability', rules, delivery', capabilities, -, hcap, -, -, -, hobs, hreject⟩ |
      ⟨capability', rules, delivery', request', cause, hacq', hmap'⟩
    · rw [hacq.portForward] at hcap
      cases hcap
      obtain ⟨err, herr⟩ := capabilityVerdict_rejected hobs hreject
      rw [hacq.verdict] at herr
      cases herr
    · have hcap := hacq.portForward.symm.trans hacq'.portForward
      have hrequest := hacq.request.symm.trans hacq'.request
      cases hcap
      cases hrequest
      rw [hmap] at hmap'
      cases hmap'

/-- **Expired or regressed mappings are withdrawn by the call that notices them**, for a reconcile at
`t` whose `Replace` does not fail, exactly when it is not turned away, or was turned away with an
installed set that had no expired rule and, if the lease's held mapping is expired or its
capabilities are rejected, no rule of the lease.
SOURCE: portforward/manager.go:75-159 -/
theorem withdrawnByCall_iff (m : GatewayRuntimeManager) (installed : List InstalledRule)
    (b : Backends) (gatewayUID : ObjectUID) (intent : Intent) (t : Time)
    (hclock : b.clock = instant t)
    (hreplace : ∀ rules set, b.rules = some rules → rules.replace set = none) :
    (installedAfter installed (m.reconcile b gatewayUID intent) t).map (·.rule) =
        lastAccepted (installed.map (·.rule)) (m.reconcile b gatewayUID intent).effects ∧
      (WithdrawnByCall m installed b gatewayUID intent t ↔
        (TurnedAway m b gatewayUID intent →
          (∀ r ∈ installed, t < r.expiresAt) ∧
          (HoldsExpired m intent.leaseUID t ∨ CapabilitiesReject m b gatewayUID intent →
            ∀ r ∈ installed, r.rule.leaseUID ≠ intent.leaseUID))) := by
  refine ⟨installedAfter_rules m installed b gatewayUID intent t hclock, ?_⟩
  by_cases haway : TurnedAway m b gatewayUID intent
  · obtain ⟨err, hrefuse⟩ := reconcile_turnedAway haway
    have hafter : installedAfter installed (m.reconcile b gatewayUID intent) t = installed := by
      rw [hrefuse]
      rfl
    have hnodrop : ¬ ReachesDrop m b gatewayUID intent := by
      rintro ⟨capability, rules, delivery, request, cause, hacq, hmap⟩
      have heffects := congrArg CallResult.effects ((reconcile_acquiring hacq).symm.trans hrefuse)
      unfold acquireLease at heffects
      rw [hacq.request] at heffects
      dsimp only at heffects
      rw [hmap] at heffects
      simp [dropLease, refuse] at heffects
    unfold WithdrawnByCall Notices
    rw [hafter, hrefuse]
    simp only [refuse, hnodrop, or_false, haway, true_imp_iff]
    exact and_comm
  · have haccepted := reconcile_accepted haway hreplace
    have hafter : installedAfter installed (m.reconcile b gatewayUID intent) t =
        installedSet (m.reconcile b gatewayUID intent).manager fun _ => t :=
      if_pos ((any_accepted_iff _).mpr haccepted)
    refine ⟨fun _ h => absurd h haway, fun _ => ?_⟩
    unfold WithdrawnByCall
    rw [hafter]
    refine ⟨reconcile_clears haccepted, ?_⟩
    intro r hr
    obtain ⟨state, -, hserving, hexpiry⟩ := mem_installedSet hr
    rw [hexpiry]
    exact ((serving_iff state t).mp hserving).2.2.2

/-- Backends whose provider does not answer the capability observation. -/
def unobservable (b : Backends) : Backends :=
  { b with
    portForward := b.portForward.map fun capability =>
      { capability with observeCapabilities := .error "provider unreachable" } }

/-- The manager after the lease was programmed at time 1 with a mapping that expires at 101. -/
def programmedManager : GatewayRuntimeManager :=
  (GatewayRuntimeManager.start.reconcile (sampleBackends 1 (.ok (sampleGrant 1)) none) "gw"
    (sampleIntent "lease" 1)).manager

/-- The reconcile at 101 whose renewal fails drops the expired mapping and its rule. -/
theorem withdrawnByCall_expiredRenewal :
    WithdrawnByCall programmedManager (installedSet programmedManager fun _ => 1)
      (sampleBackends 101 (.error "provider timeout") none) "gw" (sampleIntent "lease" 1) 101 := by
  refine (withdrawnByCall_iff _ _ _ _ _ 101 rfl ?_).2.mpr ?_
  · intro rules set hrules
    cases hrules
    rfl
  rintro (h | h | h | h | h | ⟨capability, hcapability, h⟩)
  · exact absurd (by decide) h
  · cases h
  · cases h
  · cases h
  · exact absurd (by decide) h
  · cases hcapability
    exact absurd h.1 (by decide)

/-- The reconcile at 101 whose capability observation fails sees the expired mapping and leaves its
rule installed. -/
theorem unobserved_expiry_keeps_rule :
    ¬ WithdrawnByCall programmedManager (installedSet programmedManager fun _ => 1)
      (unobservable (sampleBackends 101 (.ok (sampleGrant 101)) none)) "gw" (sampleIntent "lease" 1)
      101 := by
  rintro ⟨-, hexpiry⟩
  have hrule : InstalledRule.mk (sampleRule "lease" 1) 101 ∈
      installedAfter (installedSet programmedManager fun _ => 1)
        (programmedManager.reconcile
          (unobservable (sampleBackends 101 (.ok (sampleGrant 101)) none)) "gw"
          (sampleIntent "lease" 1)) 101 := by
    decide
  exact absurd (hexpiry _ hrule) (by decide)

end Waycloak.Analysis
