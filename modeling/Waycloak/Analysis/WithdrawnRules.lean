import Waycloak.Interface.ManagerSteps

/-!
# Withdrawn rules stay withdrawn

The rule set is recomputed for every `Replace`, also on behalf of other leases, so a
withdrawn rule stays away exactly as long as its lease is `Quiet`: not held, or held
and marked draining or drained. An accepted withdrawal makes the lease quiet
(`quiet_of_withdrawal`), every call keeps it quiet or is a reconcile of the lease that
reaches its own `Replace` (`quiet_step`), and the rule sets a call passes have no rule
of a quiet lease (`quiet_passed`).

One call breaks this. A withdrawal is retried while the first one is still waiting for
the rules or the delivery to go; when the `Replace` of the retry fails, the roll-back
clears the drain mark of the first withdrawal (manager.go:242-245). The next rule set,
of any lease, then forwards the withdrawn lease again: `failedRetryCalls`.
-/

set_option autoImplicit false

namespace Waycloak.Analysis

open Waycloak.Model Waycloak.Interface Waycloak.Computation

variable {uid : ObjectUID} {m : GatewayRuntimeManager} {r : ManagerRecord}

/-- The call is a withdrawal of the lease whose `Rules.Replace` succeeded. -/
def WithdrawalAccepted (r : ManagerRecord) (uid : ObjectUID) : Prop :=
  ∃ gatewayUID intent b, r.input = .withdraw gatewayUID intent b ∧ intent.leaseUID = uid ∧
    ∃ rules, r.output.Accepted rules

/-- The call is a reconcile of the lease that was accepted and reached its own `Replace`. -/
def Reinstalls (r : ManagerRecord) (uid : ObjectUID) : Prop :=
  ∃ gatewayUID intent b, r.input = .reconcile gatewayUID intent b ∧ intent.leaseUID = uid ∧
    ReachesInstall r.before b gatewayUID intent

/-- The call is a withdrawal of a lease that is already draining, and its `Replace` fails.
SOURCE: portforward/manager.go:240-247 -/
def RetryFails (m : GatewayRuntimeManager) (c : Call) : Prop :=
  ∃ gatewayUID intent b rules state, c = .withdraw gatewayUID intent b ∧ b.rules = some rules ∧
    m.state? intent.leaseUID = some state ∧ state.draining = true ∧ state.drained = false ∧
    rules.replace ((drainingManager m intent).ruleSet b.clock.rules) ≠ none

/-- The lease is not held, or is draining or drained. -/
def Quiet (uid : ObjectUID) (m : GatewayRuntimeManager) : Prop :=
  ∀ state, m.state? uid = some state → state.draining = true ∨ state.drained = true

/-- INTERNAL: a withdrawal of a lease that is not held, not draining or already drained is no
failing retry. -/
theorem not_retryFails {c : Call}
    (h : ((m.state? c.leaseUID).all fun state => !state.draining || state.drained) = true) :
    ¬ RetryFails m c := by
  rintro ⟨gatewayUID, intent, b, rules, state, rfl, -, hheld, hdraining, hdrained, -⟩
  change ((m.state? intent.leaseUID).all fun state => !state.draining || state.drained) = true at h
  rw [hheld] at h
  exact absurd h (by simp [hdraining, hdrained])

theorem quiet_ruleSet (h : Quiet uid m) (now : ObjectUID → Time) :
    ∀ rule ∈ m.ruleSet now, rule.leaseUID ≠ uid := by
  rintro rule hrule rfl
  refine not_mem_ruleSet_of_flag ?_ hrule
  intro state hheld
  rcases h state hheld with hflag | hflag
  · exact Or.inl hflag
  · exact Or.inr (Or.inl hflag)

theorem quiet_drainingManager (m : GatewayRuntimeManager) (intent : WithdrawalIntent) :
    Quiet intent.leaseUID (drainingManager m intent) := by
  intro state hheld
  rw [state?_drainingManager, if_pos rfl] at hheld
  obtain ⟨held, -, rfl⟩ := Option.map_eq_some_iff.mp hheld
  exact startDraining_flag held

theorem quiet_completeWithdrawal (m : GatewayRuntimeManager) (b : Backends)
    (intent : WithdrawalIntent) (effects : List Effect) :
    Quiet intent.leaseUID (completeWithdrawal m b intent effects).manager := by
  have hdrained : ∀ held : Option RuntimeState, ∀ state, held.map drainedState = some state →
      state.draining = true ∨ state.drained = true := by
    intro held state h
    obtain ⟨previous, -, rfl⟩ := Option.map_eq_some_iff.mp h
    exact Or.inr rfl
  intro state hheld
  rcases (completeWithdrawal_cases m b intent effects).2 with ⟨-, -, hdone | hgone⟩ | ⟨-, -, -, hdone⟩
  · rw [hdone] at hheld
    exact hdrained _ state hheld
  · rw [hgone] at hheld
    cases hheld
  · rw [hdone] at hheld
    exact hdrained _ state hheld

/-- INTERNAL: a withdrawal leaves its lease quiet, unless its `Replace` fails.
SOURCE: portforward/manager.go:232-285 -/
theorem quiet_withdraw {b : Backends} {gatewayUID : ObjectUID} {intent : WithdrawalIntent}
    (h : Quiet intent.leaseUID m ∨ ∃ rules, Effect.replace rules none ∈
      (m.withdraw b gatewayUID intent).effects)
    (hretry : ¬ RetryFails m (.withdraw gatewayUID intent b)) :
    Quiet intent.leaseUID (m.withdraw b gatewayUID intent).manager := by
  have hcases := withdraw_cases m b gatewayUID intent
  generalize m.withdraw b gatewayUID intent = result at hcases h ⊢
  cases hcases with
  | refused err =>
    rcases h with hquiet | ⟨rules, hmem⟩
    · exact hquiet
    · simp [refuse] at hmem
  | failed backend _ _ hrules _ hrep =>
    rcases h with hquiet | ⟨rules, hmem⟩
    · intro state hheld
      rw [state?_update _ _ _ rollBackDraining fun _ => rfl, if_pos rfl, state?_drainingManager,
        if_pos rfl] at hheld
      obtain ⟨drainingState, hmap, rfl⟩ := Option.map_eq_some_iff.mp hheld
      obtain ⟨held, hold, rfl⟩ := Option.map_eq_some_iff.mp hmap
      right
      show (startDraining held).drained = true
      rw [startDraining_drained]
      -- the roll-back clears `draining`, so only a drained state stays quiet
      by_contra hd
      have hundrained : held.drained = false := by simpa using hd
      have hdraining : held.draining = true := by
        rcases hquiet held hold with hdr | hdr
        · exact hdr
        · exact absurd hdr hd
      exact hretry ⟨gatewayUID, intent, b, backend, held, rfl, hrules, hold, hdraining, hundrained,
        by rw [hrep]; simp⟩
    · simp at hmem
  | pending => exact quiet_drainingManager m intent
  | completed => exact quiet_completeWithdrawal _ b intent _

/-- INTERNAL: **an accepted withdrawal makes its lease quiet.** -/
theorem quiet_of_withdrawal (hr : r = record GatewayRuntimeManager.serve r.before r.input)
    (hretry : ¬ RetryFails r.before r.input) (h : WithdrawalAccepted r uid) :
    Quiet uid r.after := by
  obtain ⟨gatewayUID, intent, b, hc, rfl, rules, haccepted⟩ := h
  unfold Reply.Accepted at haccepted
  rw [hr, hc] at haccepted ⊢
  rw [hc] at hretry
  exact quiet_withdraw (Or.inr ⟨rules, haccepted⟩) hretry

/-- INTERNAL: **every call keeps a lease quiet or installs it again.** -/
theorem quiet_step (hr : r = record GatewayRuntimeManager.serve r.before r.input)
    (hretry : ¬ RetryFails r.before r.input) (hquiet : Quiet uid r.before) :
    Reinstalls r uid ∨ Quiet uid r.after := by
  by_cases hu : uid = r.input.leaseUID
  · subst hu
    cases hc : r.input with
    | reconcile gatewayUID intent b =>
      rw [hc] at hquiet
      have hafter : r.after = (r.before.reconcile b gatewayUID intent).manager := by
        rw [hr, hc]; rfl
      rcases reconcile_own r.before b gatewayUID intent with hsame | ⟨previous, hprev, hblocked⟩ |
        ⟨-, hgone⟩ | ⟨hinstall, -⟩
      · right
        intro state hheld
        rw [hafter] at hheld
        exact hquiet state (hsame.symm.trans hheld)
      · right
        intro state hheld
        rw [hafter] at hheld
        cases hblocked.symm.trans hheld
        exact hquiet previous hprev
      · right
        intro state hheld
        rw [hafter] at hheld
        cases hgone.symm.trans hheld
      · left
        exact ⟨gatewayUID, intent, b, hc, rfl, hinstall⟩
    | withdraw =>
      right
      rw [hc] at hquiet hretry
      rw [hr, hc]
      exact quiet_withdraw (Or.inl hquiet) hretry
  · right
    intro state hheld
    rw [serve_frame hr hu] at hheld
    exact hquiet state hheld

/-- INTERNAL: **no call passes a rule of a quiet lease**, but one that installs the lease again.
SOURCE: portforward/manager.go:294-303 -/
theorem quiet_passed {rules : List GatewayRule}
    (hr : r = record GatewayRuntimeManager.serve r.before r.input)
    (hretry : ¬ RetryFails r.before r.input) (hquiet : Quiet uid r.before)
    (hno : ¬ Reinstalls r uid) (h : r.output.Passed rules) :
    ∀ rule ∈ rules, rule.leaseUID ≠ uid := by
  obtain ⟨err, hmem⟩ := h
  cases hc : r.input with
  | reconcile gatewayUID intent b =>
    rw [hr, hc] at hmem
    rcases reconcile_passed (m := r.before) hmem with hset | ⟨-, hinstall, mapping, renewAfter, hset⟩
    · have hafter : Quiet uid r.after := (quiet_step hr hretry hquiet).resolve_left hno
      rw [hr, hc] at hafter
      rw [hset]
      exact quiet_ruleSet hafter b.clock.rules
    · have hne : uid ≠ intent.leaseUID := by
        rintro rfl
        exact hno ⟨gatewayUID, intent, b, hc, rfl, hinstall⟩
      rw [hset]
      refine quiet_ruleSet ?_ b.clock.rules
      intro state hheld
      have hother : (r.before.store (installedState intent mapping renewAfter)).state? uid =
          r.before.state? uid := by
        rw [state?_store]
        exact if_neg hne
      exact hquiet state (hother.symm.trans hheld)
  | withdraw _ intent b =>
    rw [hr, hc] at hmem
    rw [withdraw_passed (m := r.before) hmem]
    by_cases hu : uid = intent.leaseUID
    · subst hu
      exact drainingManager_ruleSet r.before intent b.clock.rules
    refine quiet_ruleSet ?_ b.clock.rules
    intro state hheld
    rw [state?_drainingManager, if_neg hu] at hheld
    exact hquiet state hheld

/-- **Withdrawn rules are never resurrected.** After a withdrawal of a lease whose `Replace`
succeeded, and until a reconcile of that lease reaches its own `Replace`, no rule set that is passed
to `Replace` has a rule of the lease, provided no retried withdrawal fails its `Replace` while its
lease is draining.
SOURCE: portforward/manager.go:222-303 -/
theorem withdrawn_rules_stay_withdrawn (calls : List Call) (pre mid post : List ManagerRecord)
    (a b : ManagerRecord) (uid : ObjectUID) (rules : List GatewayRule)
    (hrun : managerRun calls = pre ++ a :: (mid ++ b :: post))
    (hretry : ∀ r ∈ managerRun calls, ¬ RetryFails r.before r.input) (ha : WithdrawalAccepted a uid)
    (hno : ∀ r ∈ mid ++ [b], ¬ Reinstalls r uid) (hb : b.output.Passed rules) :
    ∀ rule ∈ rules, rule.leaseUID ≠ uid := by
  obtain ⟨harec, hmid, hbrec, hbefore⟩ := exec_between hrun
  have hsafe : ∀ r, r = a ∨ r ∈ mid ∨ r = b → ¬ RetryFails r.before r.input :=
    fun r hr => hretry r (mem_between hrun hr)
  have hquiet : Quiet uid a.after := quiet_of_withdrawal harec (hsafe a (Or.inl rfl)) ha
  have hstill : Quiet uid (endState a.after mid) := by
    rcases hmid.until (fun r hr hrec hP => quiet_step hrec (hsafe r (Or.inr (Or.inl hr))) hP) hquiet
      with ⟨r, hr, hinstall⟩ | hP
    · exact absurd hinstall (hno r (by simp [hr]))
    · exact hP
  rw [← hbefore] at hstill
  exact quiet_passed hbrec (hsafe b (Or.inr (Or.inr rfl))) hstill (hno b (by simp)) hb

/-- Backends whose delivery does not confirm a withdrawal. -/
def undelivered (b : Backends) : Backends :=
  { b with
    delivery := some { reconcile := fun _ _ => (true, true, none), withdraw := fun _ => (false, none) } }

/-- The lease is programmed and withdrawn, and another lease is withdrawn after it. -/
def quietCalls : List Call :=
  [.reconcile "gw" (sampleIntent "lease" 1) (sampleBackends 1 (.ok (sampleGrant 1)) none),
   .withdraw "gw" (sampleWithdrawal "lease" 1) (sampleBackends 2 (.ok (sampleGrant 2)) none),
   .withdraw "gw" (sampleWithdrawal "other" 1) (sampleBackends 3 (.ok (sampleGrant 3)) none)]

theorem withdrawn_rules_stay_withdrawn_quiet :
    ∃ b ∈ managerRun quietCalls, b.input.leaseUID = "other" ∧
      ∃ rules, b.output.Passed rules ∧ ∀ rule ∈ rules, rule.leaseUID ≠ "lease" := by
  have hretry : ∀ r ∈ managerRun quietCalls, ¬ RetryFails r.before r.input := by
    intro r hr
    rcases List.mem_cons.mp hr with rfl | hr
    · exact not_retryFails (by decide)
    rcases List.mem_cons.mp hr with rfl | hr
    · exact not_retryFails (by decide)
    · rw [List.mem_singleton.mp hr]
      exact not_retryFails (by decide)
  have hstay := withdrawn_rules_stay_withdrawn quietCalls [_] [] [] _ _ "lease" [] rfl hretry
    ⟨_, _, _, rfl, rfl, [], by decide⟩
    (by rintro r hr ⟨gatewayUID, intent, b, hc, -⟩; rw [List.mem_singleton.mp hr] at hc; cases hc)
    ⟨none, by decide⟩
  exact ⟨_, List.mem_cons_of_mem _ (List.mem_cons_of_mem _ (List.mem_singleton_self _)), rfl, [],
    ⟨none, by decide⟩, hstay⟩

/-- The lease is programmed and withdrawn, but the delivery is not confirmed; the retry fails to
replace the rules; another lease is withdrawn. -/
def failedRetryCalls : List Call :=
  [.reconcile "gw" (sampleIntent "lease" 1) (sampleBackends 1 (.ok (sampleGrant 1)) none),
   .withdraw "gw" (sampleWithdrawal "lease" 1)
     (undelivered (sampleBackends 2 (.ok (sampleGrant 2)) none)),
   .withdraw "gw" (sampleWithdrawal "lease" 1)
     (sampleBackends 3 (.ok (sampleGrant 3)) (some "rules busy")),
   .withdraw "gw" (sampleWithdrawal "other" 1) (sampleBackends 4 (.ok (sampleGrant 4)) none)]

/-- The withdrawal of the other lease passes, and gets accepted, a rule of the withdrawn one. -/
theorem failed_retry_resurrects :
    ∃ pre a mid b post, managerRun failedRetryCalls = pre ++ a :: (mid ++ b :: post) ∧
      WithdrawalAccepted a "lease" ∧ (∀ r ∈ mid ++ [b], ¬ Reinstalls r "lease") ∧
      ∃ rules, b.output.Passed rules ∧ ∃ rule ∈ rules, rule.leaseUID = "lease" := by
  refine ⟨[_], _, [_], _, [], rfl, ⟨_, _, _, rfl, rfl, [], by decide⟩, ?_,
    [sampleRule "lease" 1], ⟨none, by decide⟩, _, List.mem_singleton_self _, rfl⟩
  rintro r hr ⟨gatewayUID, intent, b, hc, -⟩
  rcases List.mem_cons.mp hr with rfl | hr
  · cases hc
  · rw [List.mem_singleton.mp hr] at hc
    cases hc

end Waycloak.Analysis
