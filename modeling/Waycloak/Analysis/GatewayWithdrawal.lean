import Waycloak.Interface.FilterBatches

/-!
# Losing health and closing the gateway

`ReplaceRules(config, false)` is how the gateway agent stops forwarding. It replaces the core table
by one whose forward chain drops everything, but the core table is in one batch with the marked
rules of the engine's chains, and an engine whose filter table has no `OUTPUT` chain stops the
batch: the core table stays as it was (`open_without_output`).

`withdrawal_closes` says exactly when the withdrawal works, what that means for a run of
`Reconcile`, and that `Ready` is only ever the result of a complete observation.
-/

set_option autoImplicit false

namespace Waycloak.Analysis

open Waycloak.Model Waycloak.Interface Waycloak.Computation Waycloak.Computation.Nftables

variable {config : GatewayConfig} {input : GatewayInput} {order : ByteOrder}

/-- The core forward chain drops by default and has no accepting rule. -/
def forwardingClosed (s : Ruleset) : Bool :=
  (s.chain coreTableName "forward").any fun chain =>
    decide (chain.type = .filter) && decide (chain.hook = .forward) &&
      decide (chain.policy = some .drop) &&
      chain.rules.all fun rule => decide (Expr.verdict .accept ∉ rule.exprs)

/-- The rule set a call of `ReplaceRules` leaves. -/
def leaves (s : Ruleset) (result : Except String Ruleset) : Ruleset :=
  match result with
  | .ok s' => s'
  | .error _ => s

/-- The withdrawal takes the slow path, and no chain it asks for is missing: the engine has no
filter table, or its filter table has an `OUTPUT` chain. -/
def Withdrawable (config : GatewayConfig) (s : Ruleset) : Prop :=
  config.valid = true ∧ gatewayRulesCurrent (fun _ => false) s false = .ok false ∧
    Available false s

/-! ## One call -/

theorem forwardingClosed_iff {s : Ruleset} :
    forwardingClosed s = true ↔ ∃ chain, s.chain coreTableName "forward" = some chain ∧
      chain.type = .filter ∧ chain.hook = .forward ∧ chain.policy = some .drop ∧
      ∀ rule ∈ chain.rules, Expr.verdict .accept ∉ rule.exprs := by
  unfold forwardingClosed
  cases s.chain coreTableName "forward" with
  | none => simp
  | some => simp [and_assoc]

theorem forwardingClosed_drops {s : Ruleset} (h : forwardingClosed s = true) (order : ByteOrder)
    (p : Packet) :
    ∃ chain, s.chain coreTableName "forward" = some chain ∧ chain.hook = .forward ∧
      (chain.judge order p).1 = .drop := by
  obtain ⟨chain, hchain, -, hhook, hpolicy, hrules⟩ := forwardingClosed_iff.mp h
  exact ⟨chain, hchain, hhook, judge_drop hpolicy hrules⟩

theorem forwardingClosed_rebuilt {s s' : Ruleset} (h : Rebuilt order config false s s') :
    forwardingClosed s' = true := by
  rw [forwardingClosed_iff]
  refine ⟨{ coreForwardChain with rules := [] }, ?_, rfl, rfl, rfl, by simp⟩
  rw [Ruleset.chain, h.core]
  rfl

/-- INTERNAL: **when a withdrawal closes the gateway**: it was closed, or it is withdrawable.
SOURCE: gatewaydataplane/backend_linux.go:236-274, 377-443 -/
theorem withdrawal_closes_iff (order : ByteOrder) (config : GatewayConfig) (s : Ruleset) :
    forwardingClosed (leaves s (replaceRules order (fun _ => false) config false s)) = true ↔
      forwardingClosed s = true ∨ Withdrawable config s := by
  unfold replaceRules Withdrawable
  by_cases hvalid : config.valid = true
  · rw [if_neg (by simp [hvalid])]
    cases hcurrent : gatewayRulesCurrent (fun _ => false) s false with
    | error err => simp [leaves]
    | ok current =>
      cases current with
      | true => simp [leaves]
      | false =>
        dsimp only
        cases hrebuild : rebuild order (fun _ => false) config false s with
        | error err =>
          have hmissing : ¬ Available false s := by
            intro havailable
            obtain ⟨s', hok⟩ := @rebuild_available order config _ _ havailable
            rw [hrebuild] at hok
            cases hok
          simp [leaves, hmissing]
        | ok s' =>
          obtain ⟨havailable, hrebuilt⟩ := rebuild_ok hrebuild
          simp [leaves, hvalid, havailable, forwardingClosed_rebuilt hrebuilt]
  · rw [if_pos (by simpa using hvalid)]
    simp [leaves, hvalid]

/-! ## Reconcile -/

theorem replace_closes {call : RuleCall} (s : GatewayState)
    (hnetlink : input.netlink call = fun _ => false)
    (hfound : forwardingClosed (input.found call) = true ∨ Withdrawable config (input.found call)) :
    forwardingClosed (s.replace order config input call false).1.rules = true := by
  have hclosed := (withdrawal_closes_iff order config (input.found call)).mpr hfound
  unfold GatewayState.replace
  rw [hnetlink]
  cases hreplace : replaceRules order (fun _ => false) config false (input.found call) with
  | ok =>
    rw [hreplace] at hclosed
    exact hclosed
  | error err =>
    rw [hreplace] at hclosed
    exact hclosed

/-- A `Reconcile` observed the tunnel and DNS ready, its probe passed, and it left the rules its
call for healthy rules answered with. -/
structure Serving (order : ByteOrder) (config : GatewayConfig) (input : GatewayInput)
    (rules : Ruleset) : Prop where
  overlay : input.ensureOverlay = none
  observed : input.observe = .ok { tunnelReady := true, dnsReady := true }
  probed : input.probe = none
  installed : replaceRules order (input.netlink .install) config true (input.found .install) =
    .ok rules

/-- What a `Reconcile` can do. -/
inductive ReconcileCase (order : ByteOrder) (config : GatewayConfig) (input : GatewayInput)
    (result : GatewayState × List String) : Prop
  /-- it fails, and its last call asked for unhealthy rules -/
  | failed (call : RuleCall) (s : GatewayState) (herr : result.2 ≠ [])
      (hunhealthy : result.1.healthy = false) (hcall : call = .reassert ∨ call = .withdraw)
      (hrules : result.1.rules = (s.replace order config input call false).1.rules)
  /-- it succeeds -/
  | serving (hok : result.2 = [])
      (hserving : Serving order config input result.1.rules)

theorem replace_healthy (order : ByteOrder) (config : GatewayConfig) (input : GatewayInput)
    (call : RuleCall) (healthy : Bool) (s : GatewayState) :
    (s.replace order config input call healthy).1.healthy = s.healthy := by
  unfold GatewayState.replace
  split <;> rfl

theorem reconcileCase_withdraw {err : String} {s : GatewayState} (hunhealthy : s.healthy = false) :
    ReconcileCase order config input (s.withdraw order config input err) := by
  refine .failed .withdraw s ?_ ?_ (Or.inr rfl) rfl
  · exact List.cons_ne_nil _ _
  · exact (replace_healthy order config input .withdraw false s).trans hunhealthy

theorem reconcileCase_install (s : GatewayState) (hoverlay : input.ensureOverlay = none)
    (hobserved : input.observe = .ok { tunnelReady := true, dnsReady := true }) :
    ReconcileCase order config input (s.install order config input) := by
  unfold GatewayState.install
  cases hprobe : input.probe with
  | some err => exact reconcileCase_withdraw rfl
  | none =>
    dsimp only
    unfold GatewayState.replace
    cases hinstall : replaceRules order (input.netlink .install) config true
        (input.found .install) with
    | ok => exact .serving rfl ⟨hoverlay, hobserved, hprobe, hinstall⟩
    | error err => exact reconcileCase_withdraw rfl

/-- INTERNAL: **the inversion of `Reconcile`.**
SOURCE: gatewaydataplane/service.go:48-101 -/
theorem reconcile_reconcileCase (order : ByteOrder) (config : GatewayConfig) (s : GatewayState)
    (input : GatewayInput) : ReconcileCase order config input (s.reconcile order config input) := by
  unfold GatewayState.reconcile
  cases hoverlay : input.ensureOverlay with
  | some err => exact reconcileCase_withdraw rfl
  | none =>
    cases hobserve : input.observe with
    | error err => exact reconcileCase_withdraw rfl
    | ok observation =>
      obtain ⟨tunnelReady, dnsReady⟩ := observation
      dsimp only
      by_cases hready : (tunnelReady && dnsReady) = true
      · obtain ⟨rfl, rfl⟩ := Bool.and_eq_true_iff.mp hready
        rw [if_pos hready]
        by_cases hhealthy : s.healthy = true
        · rw [if_pos hhealthy]
          exact reconcileCase_install _ hoverlay hobserve
        rw [if_neg hhealthy]
        -- an unready gateway reasserts the closed rules first
        split
        · next failed err rest hreplace =>
          refine .failed .reassert { s with tunnelReady := true } (List.cons_ne_nil _ _) ?_
            (Or.inl rfl) (by rw [hreplace])
          have hkept := replace_healthy order config input .reassert false
            { s with tunnelReady := true }
          rw [hreplace] at hkept
          simpa using hkept.trans (by simpa using hhealthy)
        · exact reconcileCase_install _ hoverlay hobserve
      · rw [if_neg hready]
        exact reconcileCase_withdraw rfl

/-! ## Runs -/

/-- Every call of the `Reconcile` that asks for unhealthy rules finds a gateway that is closed or
that it can close, and its netlink calls succeed. -/
def WithdrawalsWork (config : GatewayConfig) (input : GatewayInput) : Prop :=
  ∀ call, call = .reassert ∨ call = .withdraw → input.netlink call = (fun _ => false) ∧
    (forwardingClosed (input.found call) = true ∨ Withdrawable config (input.found call))

/-- **Losing health closes the gateway where it can be withdrawn.** A call for unhealthy rules
leaves a closed core forward chain exactly if it found one or the rule set is withdrawable; a closed
chain drops every packet; in a run whose withdrawals work, every `Reconcile` that fails leaves the
gateway closed; and in every run `Ready` says that the last `Reconcile` observed tunnel and DNS
ready, passed its probe and installed healthy rules.
SOURCE: gatewaydataplane/backend_linux.go:236-274, 377-443
SOURCE: gatewaydataplane/service.go:48-101 -/
theorem withdrawal_closes (order : ByteOrder) (config : GatewayConfig) :
    (∀ s, forwardingClosed (leaves s (replaceRules order (fun _ => false) config false s)) = true ↔
      forwardingClosed s = true ∨ Withdrawable config s) ∧
    (∀ s p, forwardingClosed s = true → ∃ chain, s.chain coreTableName "forward" = some chain ∧
      chain.hook = .forward ∧ (chain.judge order p).1 = .drop) ∧
    (∀ start inputs, (∀ input ∈ inputs, WithdrawalsWork config input) →
      ∀ r ∈ exec (GatewayState.reconcile order config) start inputs, r.output ≠ [] →
        forwardingClosed r.after.rules = true) ∧
    ∀ (start : GatewayState) inputs, start.healthy = false →
      (final (GatewayState.reconcile order config) start inputs).healthy = true →
      ∃ before input rules, inputs = before ++ [input] ∧ Serving order config input rules ∧
        (final (GatewayState.reconcile order config) start inputs).rules = rules := by
  refine ⟨withdrawal_closes_iff order config, fun s p h => forwardingClosed_drops h order p, ?_, ?_⟩
  · intro start inputs hwork r hr herr
    have hrecord := exec_record hr
    have hcase := reconcile_reconcileCase order config r.before r.input
    rw [hrecord] at herr ⊢
    rw [record_after]
    cases hcase with
    | failed call s _ _ hcall hrules =>
      obtain ⟨hnetlink, hfound⟩ := hwork r.input (exec_input_mem hr) call hcall
      rw [hrules]
      exact replace_closes s hnetlink hfound
    | serving hok _ => exact absurd hok herr
  · intro start inputs hstart hhealthy
    rcases List.eq_nil_or_concat inputs with rfl | ⟨before, input, rfl⟩
    · rw [final, hstart] at hhealthy
      cases hhealthy
    rw [List.concat_eq_append, final_snoc] at hhealthy ⊢
    cases reconcile_reconcileCase order config
        (final (GatewayState.reconcile order config) start before) input with
    | failed _ _ _ hunhealthy _ _ =>
      rw [hunhealthy] at hhealthy
      cases hhealthy
    | serving _ hserving => exact ⟨before, input, _, rfl, hserving, rfl⟩

/-! ## Losing the engine -/

/-- A gateway's configuration. -/
def gatewayConfig : GatewayConfig :=
  { gatewayUID := "gateway-uid", overlayCIDR := ⟨.v4 0xac1e0000#32, 24⟩
    gatewayAddress := .v4 0xac1e0001#32, overlayInterface := "wcoverlay"
    underlayInterface := "eth0", tunnelInterface := "tunwaycloak", vxlanPort := 4789, vni := 7
    mtu := 1400, healthPort := 8080, dnsUpstream := ⟨.v4 0x7f000001#32, 53⟩
    clusterDNSUpstream := ⟨.v4 0x0a60000a#32, 53⟩, clusterDomain := "cluster.local" }

/-- The engine's filter table, with or without its output chain. -/
def engineFilter (output : Bool) : Ruleset := fun table =>
  if table = engineFilterTableName then
    some fun chain =>
      if chain = engineInputChainName then some ⟨.filter, .input, 0, some .drop, []⟩
      else if chain = engineForwardChainName then some ⟨.filter, .forward, 0, some .accept, []⟩
      else if chain = engineOutputChainName ∧ output then some ⟨.filter, .output, 0, some .drop, []⟩
      else none
  else none

/-- The core table of a call for healthy rules, beside an engine that has reset its chains and has
an output chain or not. -/
def servingRules (output : Bool) : Ruleset := fun table =>
  if table = coreTableName then some (coreTable .little gatewayConfig true)
  else engineFilter output table

/-- A `Reconcile` that finds the engine not ready. -/
def engineLost (output : Bool) : GatewayInput :=
  { ensureOverlay := none, observe := .ok { tunnelReady := false, dnsReady := true }, probe := none
    netlink := fun _ _ => false, found := fun _ => servingRules output }

def servingState : GatewayState :=
  { healthy := true, tunnelReady := true, dnsReady := true, rules := servingRules true }

theorem withdrawable_servingRules : Withdrawable gatewayConfig (servingRules true) := by
  refine ⟨by decide +kernel, by decide +kernel, ?_⟩
  exact ⟨rfl, by simp⟩

/-- The engine is lost and keeps its chains: the gateway closes. -/
theorem withdrawal_closes_engineLost :
    (servingState.reconcile .little gatewayConfig (engineLost true)).2 ≠ [] ∧
      forwardingClosed (servingState.reconcile .little gatewayConfig (engineLost true)).1.rules =
        true := by
  have herr : (servingState.reconcile .little gatewayConfig (engineLost true)).2 ≠ [] := by
    decide +kernel
  have hworks : ∀ input ∈ [engineLost true], WithdrawalsWork gatewayConfig input := by
    intro input hinput call _
    rw [List.mem_singleton.mp hinput]
    exact ⟨rfl, Or.inr withdrawable_servingRules⟩
  have hclosed := (withdrawal_closes .little gatewayConfig).2.2.1 servingState _ hworks
  rw [exec_cons, exec_nil, List.forall_mem_singleton, record_output, record_after] at hclosed
  exact ⟨herr, hclosed herr⟩

/-- **The gateway stays open**: the engine is lost, its filter table has no output chain, every
netlink call succeeds, `Reconcile` fails, and the core table forwards as before. -/
theorem open_without_output :
    (servingState.reconcile .little gatewayConfig (engineLost false)).2 =
        ["gateway engine tunnel or DNS is not ready",
          "required Gluetun filter chains are unavailable"] ∧
      forwardingClosed (servingState.reconcile .little gatewayConfig (engineLost false)).1.rules =
        false := by
  decide +kernel

end Waycloak.Analysis
