import Waycloak.Interface.FilterBatches
import Waycloak.Model.LeaseRules

/-!
# The tables of a gateway and what their rules decide

`replaceTable_ok` opens `LinuxRuleBackend.Replace`: the rules passed their validation, and the table
has the rules of the leases. The lemmas after it say what each rule of the two tables does with a
packet: it is a list of tests (`eval_guard`) before its ending.
-/

set_option autoImplicit false

namespace Waycloak.Interface

open Waycloak.Model Waycloak.Computation.Nftables

variable {config : GatewayConfig} {name : String} {protocol : TransportProtocol}
  {rule : GatewayRule} {order : ByteOrder} {parseAddr : String → Option Addr} {b : LinuxRuleBackend}
  {rules : List GatewayRule} {p : Packet}

/-! ## The table -/

/-- The rules of a chain of the lease table. -/
def leaseChainRules (order : ByteOrder) (parseAddr : String → Option Addr) (b : LinuxRuleBackend)
    (rules : List GatewayRule) (chain : String) : List Rule :=
  ((leaseTableRules order parseAddr b rules).filter (·.1 = chain)).map (·.2)

/-- The lease table of a backend and its rules. -/
def leaseTable (order : ByteOrder) (parseAddr : String → Option Addr) (b : LinuxRuleBackend)
    (rules : List GatewayRule) : Table := fun name =>
  if name = "prerouting" then
    some { leasePreroutingChain with rules := leaseChainRules order parseAddr b rules name }
  else if name = "forward" then
    some { leaseForwardChain with rules := leaseChainRules order parseAddr b rules name }
  else if name = "postrouting" then
    some { leasePostroutingChain with rules := leaseChainRules order parseAddr b rules name }
  else none

theorem flush_leaseBatch {s : Ruleset} :
    flush s (leaseBatch order parseAddr b rules (s gatewayRuleTable).isSome) gatewayRuleTable =
      some (leaseTable order parseAddr b rules) := by
  have hown : ∀ op ∈ leaseBatch order parseAddr b rules (s gatewayRuleTable).isSome,
      op.table = gatewayRuleTable := by
    intro op hop
    simp only [leaseBatch, List.mem_append, List.mem_map] at hop
    rcases hop with (hop | hop) | ⟨entry, -, rfl⟩
    · split at hop
      · rw [List.mem_singleton.mp hop]
        rfl
      · cases hop
    · simp only [List.mem_cons, List.not_mem_nil, or_false] at hop
      rcases hop with rfl | rfl | rfl | rfl <;> rfl
    · rfl
  rw [flush_own hown]
  unfold leaseBatch
  rw [List.append_assoc, foldl_edit_replaced]
  simp only [List.cons_append, List.nil_append, List.foldl_cons, Op.edit_addTable,
    Op.edit_addChain, Option.getD_none, foldl_edit_addEach]
  congr 1
  funext name
  unfold leaseTable leaseChainRules
  by_cases hpre : name = "prerouting"
  · subst hpre
    simp [leasePreroutingChain]
  by_cases hforward : name = "forward"
  · subst hforward
    simp [leaseForwardChain]
  by_cases hpost : name = "postrouting"
  · subst hpost
    simp [leasePostroutingChain]
  · simp [hpre, hforward, hpost]

/-! ## Replace -/

theorem checkGatewayRules_ok {seen : List ObjectUID}
    (h : checkGatewayRules parseAddr seen rules = .ok ()) (hmem : rule ∈ rules) :
    validateGatewayRule parseAddr rule = .ok () := by
  induction rules generalizing seen with
  | nil => cases hmem
  | cons _ _ ih =>
    unfold checkGatewayRules at h
    split at h
    · cases h
    split at h
    · cases h
    next hvalid =>
    rcases List.mem_cons.mp hmem with rfl | hrest
    · exact hvalid
    · exact ih h hrest

theorem validateGatewayRule_target (h : validateGatewayRule parseAddr rule = .ok ()) :
    (targetBytes parseAddr rule).length = 4 := by
  unfold validateGatewayRule at h
  split at h
  · cases h
  next hfields =>
  unfold targetBytes
  cases haddr : parseAddr rule.overlayAddress with
  | none => simp [haddr] at hfields
  | some addr =>
    cases addr with
    | v4 => rfl
    | v6 | zero => simp [haddr, Addr.is4] at hfields

theorem validateGatewayRule_protocols (h : validateGatewayRule parseAddr rule = .ok ())
    (hmem : protocol ∈ rule.protocols) : protocol = .tcp ∨ protocol = .udp := by
  unfold validateGatewayRule at h
  split at h
  · cases h
  split at h
  · cases h
  next hprotocols =>
  by_contra hother
  rw [not_or] at hother
  exact hprotocols (List.any_eq_true.mpr ⟨protocol, hmem, by simp [hother]⟩)

theorem transportOf_inj {q₁ q₂ : TransportProtocol} (h₁ : q₁ = .tcp ∨ q₁ = .udp)
    (h₂ : q₂ = .tcp ∨ q₂ = .udp) (h : transportOf q₁ = transportOf q₂) : q₁ = q₂ := by
  rcases h₁ with rfl | rfl
  · rcases h₂ with rfl | rfl
    · rfl
    · revert h
      decide
  · rcases h₂ with rfl | rfl
    · revert h
      decide
    · rfl

theorem portBytes_inj {a b : UInt16} (h : portBytes a = portBytes b) : a = b := by
  simp only [portBytes, List.cons.injEq, and_true] at h
  have hhigh := congrArg UInt8.toNat h.1
  have hlow := congrArg UInt8.toNat h.2
  simp only [UInt16.toNat_toUInt8, UInt16.toNat_shiftRight, UInt16.reduceToNat,
    Nat.shiftRight_eq_div_pow, Nat.reduceMod, Nat.reducePow] at hhigh hlow
  have ha := a.toNat_lt
  have hb := b.toNat_lt
  apply UInt16.toNat_inj.mp
  omega

/-- INTERNAL: **what an accepted `Replace` wrote.**
SOURCE: portforward/rules_linux.go:32-92 -/
theorem replaceTable_ok {listFails flushFails : Bool} {s s' : Ruleset}
    (h : b.replaceTable order parseAddr listFails flushFails rules s = .ok s') :
    (∀ rule ∈ rules, validateGatewayRule parseAddr rule = .ok ()) ∧
      s' gatewayRuleTable = some (leaseTable order parseAddr b rules) := by
  unfold LinuxRuleBackend.replaceTable at h
  cases hvalidate : b.validate with
  | error err =>
    rw [hvalidate] at h
    cases h
  | ok =>
    rw [hvalidate] at h
    cases hcheck : checkGatewayRules parseAddr [] (orderedRules rules) with
    | error err =>
      rw [hcheck] at h
      cases h
    | ok =>
      rw [hcheck] at h
      have hflush : s' = flush s (leaseBatch order parseAddr b rules
          (s gatewayRuleTable).isSome) := by
        cases listFails <;> cases flushFails <;> cases h
        rfl
      refine ⟨fun rule hrule => ?_, hflush ▸ flush_leaseBatch⟩
      have hordered : rule ∈ orderedRules rules := by simpa [orderedRules] using hrule
      exact checkGatewayRules_ok hcheck hordered

/-! ## The rules of the chains -/

/-- The leases with their protocols, in the order of the table. -/
def leasePairs (rules : List GatewayRule) : List (GatewayRule × TransportProtocol) :=
  (orderedRules rules).flatMap fun rule => rule.protocols.map fun protocol => (rule, protocol)

theorem mem_leasePairs :
    (rule, protocol) ∈ leasePairs rules ↔ rule ∈ rules ∧ protocol ∈ rule.protocols := by
  simp only [leasePairs, orderedRules, List.mem_flatMap, List.mem_insertionSort, List.mem_map,
    Prod.mk.injEq]
  constructor
  · rintro ⟨_, hmem, _, hprotocol, rfl, rfl⟩
    exact ⟨hmem, hprotocol⟩
  · rintro ⟨hmem, hprotocol⟩
    exact ⟨rule, hmem, protocol, hprotocol, rfl, rfl⟩

/-- INTERNAL: a chain has one rule for each lease and protocol, before the rules of the chain
itself. -/
theorem leaseChainRules_eq {chain : String} {pick : GatewayRule → TransportProtocol → Rule}
    (hpick : ∀ rule protocol, ((addGatewayLeaseRules order parseAddr b rule protocol).filter
      (·.1 = chain)).map (·.2) = [pick rule protocol]) :
    leaseChainRules order parseAddr b rules chain =
      (leasePairs rules).map (fun e => pick e.1 e.2) ++
        (([("forward", establishedReturnRule b), ("forward", unmatchedTunnelRule b)] :
          List (String × Rule)).filter (·.1 = chain)).map (·.2) := by
  have hprotocols : ∀ rule : GatewayRule, ∀ protocols : List TransportProtocol,
      ((protocols.flatMap (addGatewayLeaseRules order parseAddr b rule)).filter
        (·.1 = chain)).map (·.2) = protocols.map (pick rule) := by
    intro rule protocols
    induction protocols with
    | nil => rfl
    | cons _ _ ih =>
      rw [List.flatMap_cons, List.filter_append, List.map_append, hpick, ih]
      rfl
  unfold leaseChainRules leaseTableRules leasePairs
  rw [List.filter_append, List.map_append]
  congr 1
  induction orderedRules rules with
  | nil => rfl
  | cons _ _ ih =>
    rw [List.flatMap_cons, List.filter_append, List.map_append, hprotocols, ih,
      List.flatMap_cons, List.map_append, List.map_map]
    rfl

theorem leasePreroutingRules :
    leaseChainRules order parseAddr b rules "prerouting" =
      (leasePairs rules).map fun e => dnatRule order parseAddr b e.1 e.2 := by
  rw [leaseChainRules_eq fun _ _ => rfl]
  simp

theorem leaseForwardRules :
    leaseChainRules order parseAddr b rules "forward" =
      (leasePairs rules).map (fun e => forwardRule parseAddr b e.1 e.2) ++
        [establishedReturnRule b, unmatchedTunnelRule b] := by
  rw [leaseChainRules_eq fun _ _ => rfl]
  rfl

theorem leasePostroutingRules :
    leaseChainRules order parseAddr b rules "postrouting" =
      (leasePairs rules).map fun e => returnRule parseAddr b e.1 e.2 := by
  rw [leaseChainRules_eq fun _ _ => rfl]
  simp

/-! ## Tests -/

@[simp] theorem length_interfaceBytes (name : String) : (interfaceBytes name).length = 16 :=
  length_padded _ _

/-- The name of an interface as the kernel has it. -/
def interfaceName (name : String) : InterfaceName :=
  ⟨interfaceBytes name, length_interfaceBytes name⟩

theorem holds_iifname : (Test.metaIs .iifname (interfaceBytes name)).holds order p = true ↔
      p.iifname = interfaceBytes name :=
  Test.holds_metaIs (p.iifname_length.trans (length_interfaceBytes name).symm)

theorem holds_oifname : (Test.metaIs .oifname (interfaceBytes name)).holds order p = true ↔
      p.oifname = interfaceBytes name :=
  Test.holds_metaIs (p.oifname_length.trans (length_interfaceBytes name).symm)

theorem holds_l4proto {protocol : UInt8} :
    (Test.metaIs .l4proto [protocol]).holds order p = true ↔ p.l4proto = protocol := by
  have hload := @Test.holds_metaIs order p .l4proto [protocol] rfl
  simpa [Packet.load] using hload

theorem holds_mark {value : BitVec 32} :
    (Test.metaIs .mark (order.word value)).holds order p = true ↔ p.mark = order.word value :=
  Test.holds_metaIs (p.mark_length.trans (ByteOrder.length_word order value).symm)

theorem holds_destinationPort {port : UInt16} :
    (Test.payloadIs .transport 2 (portBytes port)).holds order p = true ↔
      p.destinationPort = portBytes port :=
  Test.holds_payloadIs (by simp [portBytes])

theorem holds_destination {address : Bytes} (h : address.length = 4) :
    (Test.payloadIs .network 16 address).holds order p = true ↔ p.destination = address := by
  rw [Test.holds_payloadIs (by omega), h]
  rfl

/-- The state of the connection is established or related. -/
def trackedTest : Test := .ctIn [0x06, 0, 0, 0]

theorem not_tracked_of_new (h : p.ct = .new) : trackedTest.holds order p = false := by
  simp only [trackedTest, Test.holds, h]
  cases order <;> decide

/-! ## What the rules do -/

theorem eval_dnatRule : (dnatRule order parseAddr b rule protocol).eval order p =
      if p.iifname = interfaceBytes b.tunnelInterface ∧ p.l4proto = transportOf protocol ∧
          p.destinationPort = portBytes rule.ingressPort then
        (.translate (.destination (targetBytes parseAddr rule) (portBytes rule.targetPort)),
          p.setMark (order.word portForwardIngressMark))
      else (.next, p) := by
  obtain ⟨regs, heval⟩ := eval_guard order
    [.metaIs .iifname (interfaceBytes b.tunnelInterface), .metaIs .l4proto [transportOf protocol],
      .payloadIs .transport 2 (portBytes rule.ingressPort)]
    [.immediate 1 (order.word portForwardIngressMark), .metaMark 1,
      .immediate 1 (targetBytes parseAddr rule), .immediate 2 (portBytes rule.targetPort),
      .destNAT 1 2] (fun _ => []) p
  have hends : eval order [.immediate 1 (order.word portForwardIngressMark), .metaMark 1,
      .immediate 1 (targetBytes parseAddr rule), .immediate 2 (portBytes rule.targetPort),
      .destNAT 1 2] regs p =
      (.translate (.destination (targetBytes parseAddr rule) (portBytes rule.targetPort)),
        p.setMark (order.word portForwardIngressMark)) := by
    simp [eval, List.take_of_length_le]
  rw [hends] at heval
  simp only [List.mem_cons, List.not_mem_nil, or_false, forall_eq_or_imp, forall_eq,
    holds_iifname, holds_l4proto, holds_destinationPort] at heval
  exact heval

theorem eval_otherInterface {rest : List Expr} {userData : String}
    (h : p.iifname ≠ interfaceBytes name) :
    (Rule.mk userData (interfaceIs .iifname name ++ rest)).eval order p = (.next, p) := by
  obtain ⟨regs, heval⟩ := eval_guard order [.metaIs .iifname (interfaceBytes name)] rest
    (fun _ => []) p
  simp only [List.mem_singleton, forall_eq, holds_iifname, h, if_false] at heval
  exact heval

/-- The tests of `forwardRule`. -/
def forwardTests (parseAddr : String → Option Addr) (b : LinuxRuleBackend) (rule : GatewayRule)
    (protocol : TransportProtocol) : List Test :=
  [.metaIs .iifname (interfaceBytes b.tunnelInterface),
    .metaIs .oifname (interfaceBytes b.overlayInterface), .metaIs .l4proto [transportOf protocol],
    .payloadIs .network 16 (targetBytes parseAddr rule),
    .payloadIs .transport 2 (portBytes rule.targetPort)]

theorem forwardRule_exprs (h : (targetBytes parseAddr rule).length = 4) :
    (forwardRule parseAddr b rule protocol).exprs =
      guard (forwardTests parseAddr b rule protocol) ++ [.verdict .accept] := by
  simp [forwardRule, forwardTests, Computation.Nftables.guard, Test.exprs, interfaceIs, portBytes,
    h]

/-- The forward chain of the lease table. -/
def leaseForward (order : ByteOrder) (parseAddr : String → Option Addr) (b : LinuxRuleBackend)
    (rules : List GatewayRule) : Chain :=
  { leaseForwardChain with rules := leaseChainRules order parseAddr b rules "forward" }

/-- The forward chain of the core table. -/
def coreForward (order : ByteOrder) (config : GatewayConfig) (healthy : Bool) : Chain :=
  { coreForwardChain with rules := coreForwardRules order config healthy }

theorem judge_leaseForward (htargets : ∀ rule ∈ rules, (targetBytes parseAddr rule).length = 4)
    (hmem : (rule, protocol) ∈ leasePairs rules)
    (hholds : ∀ test ∈ forwardTests parseAddr b rule protocol, test.holds order p = true) :
    (leaseForward order parseAddr b rules).judge order p = (.accept, p) := by
  have hguards : (leasePairs rules).map (fun e => forwardRule parseAddr b e.1 e.2) =
      ((leasePairs rules).map fun e => (gatewayMarker e.1 e.2 "forward",
        forwardTests parseAddr b e.1 e.2)).map
          fun g => ⟨g.1, guard g.2 ++ [.verdict .accept]⟩ := by
    rw [List.map_map]
    refine List.map_congr_left fun e he => ?_
    have htarget := htargets e.1 (mem_leasePairs.mp he).1
    simp [← forwardRule_exprs htarget, forwardRule]
  have hsome : ∃ g ∈ (leasePairs rules).map fun e => (gatewayMarker e.1 e.2 "forward",
      forwardTests parseAddr b e.1 e.2), ∀ test ∈ g.2, test.holds order p = true :=
    ⟨_, List.mem_map_of_mem hmem, hholds⟩
  have haccepted : evalRules order
      ((leasePairs rules).map fun e => forwardRule parseAddr b e.1 e.2) p =
        (.verdict .accept, p) := by
    rw [hguards, evalRules_guards, if_pos hsome]
  have hended : evalRules order (leaseChainRules order parseAddr b rules "forward") p =
      (.verdict .accept, p) := by
    rw [leaseForwardRules, evalRules_append_ended (by rw [haccepted]; simp), haccepted]
  simp [Chain.judge, leaseForward, hended]

/-- What the healthy forward chain of the core table accepts. -/
def CoreAccepts (order : ByteOrder) (config : GatewayConfig) (p : Packet) : Prop :=
  (p.iifname = interfaceBytes config.overlayInterface ∧
      p.oifname = interfaceBytes config.tunnelInterface) ∨
    (p.iifname = interfaceBytes config.tunnelInterface ∧
      p.oifname = interfaceBytes config.overlayInterface ∧
      (p.mark = order.word portForwardIngressMark ∨ trackedTest.holds order p = true))

instance (order : ByteOrder) (config : GatewayConfig) (p : Packet) :
    Decidable (CoreAccepts order config p) :=
  inferInstanceAs (Decidable (_ ∨ _))

/-- The tests of `forwardRules`, with the marks of the core table. -/
def coreGuards (order : ByteOrder) (config : GatewayConfig) : List (String × List Test) :=
  [("waycloak:overlay-to-tunnel",
      [.metaIs .iifname (interfaceBytes config.overlayInterface),
        .metaIs .oifname (interfaceBytes config.tunnelInterface)]),
    ("waycloak:tunnel-to-overlay-port-forward",
      [.metaIs .iifname (interfaceBytes config.tunnelInterface),
        .metaIs .oifname (interfaceBytes config.overlayInterface),
        .metaIs .mark (order.word portForwardIngressMark)]),
    ("waycloak:tunnel-to-overlay-established",
      [.metaIs .iifname (interfaceBytes config.tunnelInterface),
        .metaIs .oifname (interfaceBytes config.overlayInterface), trackedTest])]

theorem coreForwardRules_guards : coreForwardRules order config true =
      (coreGuards order config).map fun g => ⟨g.1, guard g.2 ++ [.verdict .accept]⟩ := rfl

theorem coreGuards_hold : (∃ g ∈ coreGuards order config, ∀ test ∈ g.2, test.holds order p = true) ↔
      CoreAccepts order config p := by
  simp only [coreGuards, CoreAccepts, List.mem_cons, List.not_mem_nil, or_false, exists_eq_or_imp,
    exists_eq_left, forall_eq_or_imp, forall_eq, holds_iifname, holds_oifname, holds_mark]
  tauto

/-- INTERNAL: **what the forward chain of the core table accepts.**
SOURCE: gatewaydataplane/backend_linux.go:258-266, 476-494 -/
theorem judge_coreForward {healthy : Bool} :
    ((coreForward order config healthy).judge order p).1 = .accept ↔
      healthy = true ∧ CoreAccepts order config p := by
  cases healthy with
  | false => simp [Chain.judge, coreForward, coreForwardRules, evalRules, coreForwardChain]
  | true =>
    have heval := @evalRules_guards order p (coreGuards order config) .accept
    rw [← coreForwardRules_guards] at heval
    by_cases hsome : ∃ g ∈ coreGuards order config, ∀ test ∈ g.2, test.holds order p = true
    · rw [if_pos hsome] at heval
      simp [Chain.judge, coreForward, heval, coreGuards_hold.mp hsome]
    · rw [if_neg hsome] at heval
      have hrejected : ¬ CoreAccepts order config p := fun h => hsome (coreGuards_hold.mpr h)
      simp [Chain.judge, coreForward, heval, coreForwardChain, hrejected]

/-! ## The chains of both tables -/

/-- The core table is the one a `ReplaceRules` wrote. -/
def CoreWritten (order : ByteOrder) (config : GatewayConfig) (healthy : Bool) (s : Ruleset) :
    Prop :=
  ∃ fails before after, rebuild order fails config healthy before = .ok after ∧
    s coreTableName = after coreTableName

/-- The lease table is the one a `Replace` wrote. -/
def LeasesWritten (order : ByteOrder) (parseAddr : String → Option Addr) (b : LinuxRuleBackend)
    (rules : List GatewayRule) (s : Ruleset) : Prop :=
  ∃ before after, b.replaceTable order parseAddr false false rules before = .ok after ∧
    s gatewayRuleTable = after gatewayRuleTable

/-- The base chains of the two tables of a gateway. -/
def gatewayChains (s : Ruleset) : List Chain :=
  [(coreTableName, "forward"), (coreTableName, "postrouting"), (gatewayRuleTable, "prerouting"),
    (gatewayRuleTable, "forward"), (gatewayRuleTable, "postrouting")].filterMap
      fun entry => s.chain entry.1 entry.2

/-- INTERNAL: **the chains of a gateway whose two tables are written.** -/
theorem gatewayChains_written {healthy : Bool} {s : Ruleset}
    (hcore : CoreWritten order config healthy s)
    (hleases : LeasesWritten order parseAddr b rules s) :
    gatewayChains s =
      [coreForward order config healthy,
        { corePostroutingChain with rules := corePostroutingRules config healthy },
        { leasePreroutingChain with
          rules := leaseChainRules order parseAddr b rules "prerouting" },
        leaseForward order parseAddr b rules,
        { leasePostroutingChain with
          rules := leaseChainRules order parseAddr b rules "postrouting" }] := by
  obtain ⟨fails, before, after, hrebuild, hcore⟩ := hcore
  obtain ⟨before', after', hreplace, hleases⟩ := hleases
  rw [(rebuild_ok hrebuild).2.core] at hcore
  rw [(replaceTable_ok hreplace).2] at hleases
  simp [gatewayChains, Ruleset.chain, hcore, hleases, coreTable, leaseTable, coreForward,
    leaseForward]

end Waycloak.Interface
