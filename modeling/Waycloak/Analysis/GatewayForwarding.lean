import Waycloak.Analysis.GatewayWithdrawal
import Waycloak.Interface.LeaseTable

/-!
# What a gateway forwards

The core table and the lease table are written by two components that do not know of each other.
They meet in one packet: the lease table marks and redirects it before routing, the core table
accepts the mark, and the lease table accepts the redirected packet.

`lease_packets_forwarded` says what that lets through. The first packet of a connection from the
tunnel is forwarded exactly if the rules are healthy, it is a packet of a lease, and the kernel
routes the redirected packet to the overlay. The last part is not for free: `Replace` accepts every
IPv4 address, and a lease whose address is routed elsewhere gets nothing (`misrouted_lease`). Both
tables are of the IPv4 family and see nothing else.
-/

set_option autoImplicit false

namespace Waycloak.Analysis

open Waycloak.Model Waycloak.Interface Waycloak.Computation.Nftables

/-- The rule backend of a gateway. -/
def gatewayBackend (config : GatewayConfig) : LinuxRuleBackend :=
  ⟨config.tunnelInterface, config.overlayInterface⟩

/-- The packet is for the ingress port of the lease, in one of its protocols. -/
def LeaseOf (rule : GatewayRule) (p : Packet) : Prop :=
  p.destinationPort = portBytes rule.ingressPort ∧
    ∃ protocol ∈ rule.protocols, p.l4proto = transportOf protocol

instance (rule : GatewayRule) (p : Packet) : Decidable (LeaseOf rule p) :=
  inferInstanceAs (Decidable (_ ∧ _))

/-- No two leases share a protocol and an ingress port. -/
def DistinctIngress (rules : List GatewayRule) : Prop :=
  ∀ r₁ ∈ rules, ∀ r₂ ∈ rules, r₁.ingressPort = r₂.ingressPort →
    ∀ protocol ∈ r₁.protocols, protocol ∈ r₂.protocols → r₁ = r₂

/-- The packet of a lease after its rule. -/
def redirected (order : ByteOrder) (parseAddr : String → Option Addr) (rule : GatewayRule)
    (p : Packet) : Packet :=
  (p.setMark (order.word portForwardIngressMark)).redirect (targetBytes parseAddr rule)
    (portBytes rule.targetPort)

/-- The way of a packet through the gateway. Both tables are of the IPv4 family. -/
def gatewayForward (k : Kernel) (chains : List Chain) (p : Packet) : Option Packet :=
  k.forward (if p.nfproto = nfprotoIPv4 then chains else []) p

section Redirected

variable (order : ByteOrder) (parseAddr : String → Option Addr) (rule : GatewayRule) (p : Packet)

theorem redirected_eq : redirected order parseAddr rule p =
    ({ p with mark := order.word portForwardIngressMark, mark_length := by simp } :
      Packet).redirect (targetBytes parseAddr rule) (portBytes rule.targetPort) := by
  rw [redirected, Packet.setMark_eq _ _ (ByteOrder.length_word _ _)]

theorem redirected_mark :
    (redirected order parseAddr rule p).mark = order.word portForwardIngressMark := by
  rw [redirected_eq]
  rfl

theorem redirected_iifname : (redirected order parseAddr rule p).iifname = p.iifname := by
  rw [redirected_eq]
  rfl

theorem redirected_l4proto : (redirected order parseAddr rule p).l4proto = p.l4proto := by
  rw [redirected_eq]
  rfl

end Redirected

section Written

variable {k : Kernel} {parseAddr : String → Option Addr} {config : GatewayConfig} {healthy : Bool}
  {rules : List GatewayRule} {s : Ruleset} {chains : List Chain} {p q : Packet}

/-! ## The forward hook -/

theorem lease_forward_reading {rule : Rule}
    (hmem : rule ∈ leaseChainRules k.order parseAddr (gatewayBackend config) rules "forward") :
    rule.reading = true := by
  rw [leaseForwardRules, List.mem_append] at hmem
  rcases hmem with hlease | hchain
  · obtain ⟨e, -, rfl⟩ := List.mem_map.mp hlease
    rfl
  · simp only [List.mem_cons, List.not_mem_nil, or_false] at hchain
    rcases hchain with rfl | rfl <;> rfl

theorem core_forward_reading {rule : Rule} (hmem : rule ∈ coreForwardRules k.order config healthy) :
    rule.reading = true := by
  cases healthy with
  | false => simp [coreForwardRules] at hmem
  | true =>
    simp only [coreForwardRules, forwardRules, if_true, List.mem_cons, List.not_mem_nil,
      or_false] at hmem
    rcases hmem with rfl | rfl | rfl <;> rfl

theorem targets_written
    (hleases : LeasesWritten k.order parseAddr (gatewayBackend config) rules s) :
    ∀ rule ∈ rules, (targetBytes parseAddr rule).length = 4 := by
  obtain ⟨before, after, hreplace, -⟩ := hleases
  exact fun rule hrule => validateGatewayRule_target ((replaceTable_ok hreplace).1 rule hrule)

theorem leaseOf_unique (hleases : LeasesWritten k.order parseAddr (gatewayBackend config) rules s)
    (hdistinct : DistinctIngress rules) {r₁ r₂ : GatewayRule} (h₁ : r₁ ∈ rules) (h₂ : r₂ ∈ rules)
    (hlease₁ : LeaseOf r₁ p) (hlease₂ : LeaseOf r₂ p) : r₁ = r₂ := by
  obtain ⟨before, after, hreplace, -⟩ := hleases
  have hvalid := (replaceTable_ok hreplace).1
  obtain ⟨hport₁, q₁, hq₁, htransport₁⟩ := hlease₁
  obtain ⟨hport₂, q₂, hq₂, htransport₂⟩ := hlease₂
  have hports : r₁.ingressPort = r₂.ingressPort := portBytes_inj (hport₁.symm.trans hport₂)
  have hprotocols : q₁ = q₂ :=
    transportOf_inj (validateGatewayRule_protocols (hvalid r₁ h₁) hq₁)
      (validateGatewayRule_protocols (hvalid r₂ h₂) hq₂) (htransport₁.symm.trans htransport₂)
  exact hdistinct r₁ h₁ r₂ h₂ hports q₁ hq₁ (hprotocols ▸ hq₂)

theorem redirected_facts {rule : GatewayRule} (htarget : (targetBytes parseAddr rule).length = 4)
    (hfamily : p.nfproto = nfprotoIPv4) (hlease : LeaseOf rule p) (order : ByteOrder) :
    (redirected order parseAddr rule p).destination = targetBytes parseAddr rule ∧
      (redirected order parseAddr rule p).destinationPort = portBytes rule.targetPort := by
  have hport : p.destinationPort.length = 2 := by
    rw [hlease.1]
    rfl
  rw [redirected_eq]
  exact ⟨Packet.destination_redirect hfamily htarget, Packet.destinationPort_redirect rfl hport⟩

variable (hcore : CoreWritten k.order config healthy s)
  (hleases : LeasesWritten k.order parseAddr (gatewayBackend config) rules s)
  (hchains : chains.Perm (gatewayChains s))

include hcore hleases hchains

theorem passes_written : passes k.order (atHook chains .forward .filter) p =
      if (healthy = true ∧ CoreAccepts k.order config p) ∧
          ((leaseForward k.order parseAddr (gatewayBackend config) rules).judge k.order p).1 =
            .accept
      then some p else none := by
  have hmem : ∀ chain, chain ∈ atHook chains .forward .filter ↔
      chain = coreForward k.order config healthy ∨
        chain = leaseForward k.order parseAddr (gatewayBackend config) rules := by
    intro chain
    rw [mem_atHook, hchains.mem_iff, gatewayChains_written hcore hleases]
    simp only [List.mem_cons, List.not_mem_nil, or_false]
    constructor
    · rintro ⟨rfl | rfl | rfl | rfl | rfl, hhook, htype⟩
      · exact .inl rfl
      · cases hhook
      · cases hhook
      · exact .inr rfl
      · cases hhook
    · rintro (rfl | rfl)
      · exact ⟨.inl rfl, rfl, rfl⟩
      · exact ⟨.inr (.inr (.inr (.inl rfl))), rfl, rfl⟩
  rw [passes_reading ?reading]
  case reading =>
      intro chain hchain rule hrule
      rcases (hmem chain).mp hchain with rfl | rfl
      · exact core_forward_reading hrule
      · exact lease_forward_reading hrule
  simp only [hmem, forall_eq_or_imp, forall_eq, judge_coreForward]

/-- INTERNAL: **what the two tables ask of a packet that is forwarded.** -/
theorem forward_inv (h : k.forward chains p = some q) :
    ∃ arrived oifname, k.natHook chains .prerouting (if p.ct = .new then p else k.restore p) =
        some arrived ∧ k.route arrived = some oifname ∧ healthy = true ∧
      CoreAccepts k.order config (arrived.leaving oifname) ∧
      k.natHook chains .postrouting (arrived.leaving oifname) = some q := by
  simp only [Kernel.forward, Option.bind_eq_bind, Option.bind_eq_some_iff] at h
  obtain ⟨arrived, harrived, oifname, hroute, passed, hpassed, hpost⟩ := h
  rw [passes_written hcore hleases hchains] at hpassed
  split at hpassed
  · next haccepts =>
    cases hpassed
    exact ⟨arrived, oifname, harrived, hroute, haccepts.1.1, haccepts.1.2, hpost⟩
  · cases hpassed

/-! ## The translation hooks -/

theorem prerouting_written : atHook chains .prerouting .nat = [{ leasePreroutingChain with
      rules := leaseChainRules k.order parseAddr (gatewayBackend config) rules
        "prerouting" }] := by
  apply List.perm_singleton.mp
  unfold atHook
  refine (List.perm_insertionSort _ _).trans ((hchains.filter _).trans ?_)
  rw [gatewayChains_written hcore hleases]
  exact List.Perm.refl _

theorem postrouting_written (hiif : p.iifname ≠ interfaceBytes config.overlayInterface) :
    k.natHook chains .postrouting p = some p := by
  have hnext : ∀ chain ∈ atHook chains .postrouting .nat, ∀ rule ∈ chain.rules,
      rule.eval k.order p = (.next, p) := by
    intro chain hchain rule hrule
    rw [mem_atHook, hchains.mem_iff, gatewayChains_written hcore hleases] at hchain
    simp only [List.mem_cons, List.not_mem_nil, or_false] at hchain
    obtain ⟨rfl | rfl | rfl | rfl | rfl, hhook, -⟩ := hchain
    · cases hhook
    · simp only [corePostroutingRules] at hrule
      split at hrule
      · rw [List.mem_singleton.mp hrule]
        exact eval_otherInterface hiif
      · cases hrule
    · cases hhook
    · cases hhook
    · rw [leasePostroutingRules] at hrule
      obtain ⟨e, -, rfl⟩ := List.mem_map.mp hrule
      exact eval_otherInterface hiif
  unfold Kernel.natHook
  rw [translation_none hnext]
  split <;> rfl

theorem prerouting_lease (hdistinct : DistinctIngress rules) (hnew : p.ct = .new)
    (hiif : p.iifname = interfaceBytes config.tunnelInterface) {rule : GatewayRule}
    (hrule : rule ∈ rules) (hlease : LeaseOf rule p) :
    k.natHook chains .prerouting p = some (redirected k.order parseAddr rule p) := by
  have htranslated : evalRules k.order (leaseChainRules k.order parseAddr (gatewayBackend config)
      rules "prerouting") p = (.translate (.destination (targetBytes parseAddr rule)
        (portBytes rule.targetPort)), p.setMark (k.order.word portForwardIngressMark)) := by
    rw [leasePreroutingRules]
    apply evalRules_of_agree (by simp)
    · obtain ⟨hport, protocol, hprotocol, htransport⟩ := hlease
      refine ⟨_, List.mem_map_of_mem (mem_leasePairs.mpr ⟨hrule, hprotocol⟩), ?_⟩
      rw [eval_dnatRule, if_pos ⟨hiif, htransport, hport⟩]
    intro other hother
    obtain ⟨⟨rule', protocol'⟩, hmem, rfl⟩ := List.mem_map.mp hother
    obtain ⟨hrule', hprotocol'⟩ := mem_leasePairs.mp hmem
    rw [eval_dnatRule]
    split
    · next hmatch =>
      have hlease' : LeaseOf rule' p := ⟨hmatch.2.2, protocol', hprotocol', hmatch.2.1⟩
      right
      rw [leaseOf_unique hleases hdistinct hrule' hrule hlease' hlease]
    · exact .inl rfl
  unfold Kernel.natHook
  rw [if_pos hnew, prerouting_written hcore hleases hchains]
  simp only [translation, htranslated]
  rfl

theorem prerouting_other (hnone : ∀ rule ∈ rules, ¬ LeaseOf rule p) :
    k.natHook chains .prerouting p = some p := by
  have hnext : ∀ chain ∈ atHook chains .prerouting .nat, ∀ rule ∈ chain.rules,
      rule.eval k.order p = (.next, p) := by
    intro chain hchain rule hrule
    rw [prerouting_written hcore hleases hchains, List.mem_singleton] at hchain
    subst hchain
    rw [leasePreroutingRules] at hrule
    obtain ⟨⟨lease, protocol⟩, hmem, rfl⟩ := List.mem_map.mp hrule
    obtain ⟨hlease, hprotocol⟩ := mem_leasePairs.mp hmem
    rw [eval_dnatRule, if_neg]
    rintro ⟨-, htransport, hport⟩
    exact hnone lease hlease ⟨hport, protocol, hprotocol, htransport⟩
  unfold Kernel.natHook
  rw [translation_none hnext]
  split <;> rfl

/-! ## The first packet of a connection -/

/-- INTERNAL: **a packet of a lease is delivered if its target is routed to the overlay.** -/
theorem forward_lease (hhealthy : healthy = true) (hdistinct : DistinctIngress rules)
    (hnames : interfaceBytes config.tunnelInterface ≠ interfaceBytes config.overlayInterface)
    (hfamily : p.nfproto = nfprotoIPv4) (hnew : p.ct = .new)
    (hiif : p.iifname = interfaceBytes config.tunnelInterface)
    {rule : GatewayRule} (hrule : rule ∈ rules) (hlease : LeaseOf rule p)
    (hroute : k.route (redirected k.order parseAddr rule p) =
      some (interfaceName config.overlayInterface)) :
    k.forward chains p = some ((redirected k.order parseAddr rule p).leaving
      (interfaceName config.overlayInterface)) := by
  have htargets := targets_written hleases
  obtain ⟨hdestination, hport⟩ := redirected_facts (htargets rule hrule) hfamily hlease k.order
  set sent := (redirected k.order parseAddr rule p).leaving (interfaceName config.overlayInterface)
    with hsent
  have hsentIif : sent.iifname = interfaceBytes config.tunnelInterface := by
    exact (redirected_iifname k.order parseAddr rule p).trans hiif
  have hcoreAccepts : CoreAccepts k.order config sent :=
    .inr ⟨hsentIif, rfl, .inl (redirected_mark k.order parseAddr rule p)⟩
  have hleaseAccepts : ((leaseForward k.order parseAddr (gatewayBackend config) rules).judge
      k.order sent).1 = .accept := by
    obtain ⟨-, protocol, hprotocol, htransport⟩ := hlease
    have hholds : ∀ test ∈ forwardTests parseAddr (gatewayBackend config) rule protocol,
        test.holds k.order sent = true := by
      simp only [forwardTests, List.mem_cons, List.not_mem_nil, or_false, forall_eq_or_imp,
        forall_eq, holds_iifname, holds_oifname, holds_l4proto, holds_destinationPort,
        holds_destination (htargets rule hrule)]
      exact ⟨hsentIif, rfl, (redirected_l4proto k.order parseAddr rule p).trans htransport,
        hdestination, hport⟩
    rw [judge_leaseForward htargets (mem_leasePairs.mpr ⟨hrule, hprotocol⟩) hholds]
  have hpost : k.natHook chains .postrouting sent = some sent :=
    postrouting_written hcore hleases hchains (by rw [hsentIif]; exact hnames)
  have hpre := prerouting_lease hcore hleases hchains hdistinct hnew hiif hrule hlease
  simp only [Kernel.forward, hnew, if_true, Option.bind_eq_bind, hpre, Option.bind_some, hroute,
    ← hsent, passes_written hcore hleases hchains, hhealthy, hcoreAccepts, hleaseAccepts, and_self,
    hpost]

/-- INTERNAL: **only a packet of a lease is forwarded from the tunnel, and only to the overlay.** -/
theorem forward_new_inv (hdistinct : DistinctIngress rules)
    (hnames : interfaceBytes config.tunnelInterface ≠ interfaceBytes config.overlayInterface)
    (hnew : p.ct = .new) (hmark : p.mark = [0, 0, 0, 0])
    (hiif : p.iifname = interfaceBytes config.tunnelInterface) (h : k.forward chains p = some q) :
    healthy = true ∧ ∃ rule ∈ rules, LeaseOf rule p ∧
      k.route (redirected k.order parseAddr rule p) =
        some (interfaceName config.overlayInterface) := by
  obtain ⟨arrived, oifname, hpre, hroute, hhealthy, haccepts, -⟩ :=
    forward_inv hcore hleases hchains h
  rw [if_pos hnew] at hpre
  refine ⟨hhealthy, ?_⟩
  by_cases hlease : ∃ rule ∈ rules, LeaseOf rule p
  · obtain ⟨rule, hrule, hmatch⟩ := hlease
    rw [prerouting_lease hcore hleases hchains hdistinct hnew hiif hrule hmatch] at hpre
    cases hpre
    refine ⟨rule, hrule, hmatch, ?_⟩
    rcases haccepts with ⟨hoverlay, -⟩ | ⟨-, houtput, -⟩
    · have hsame := (redirected_iifname k.order parseAddr rule p).symm.trans hoverlay
      exact absurd (hiif.symm.trans hsame) hnames
    · rw [hroute]
      exact congrArg some (Subtype.ext houtput)
  · have hnone : ∀ rule ∈ rules, ¬ LeaseOf rule p := fun rule hrule hmatch =>
      hlease ⟨rule, hrule, hmatch⟩
    rw [prerouting_other hcore hleases hchains hnone] at hpre
    cases hpre
    exfalso
    rcases haccepts with ⟨hoverlay, -⟩ | ⟨-, -, hmarked | htracked⟩
    · exact hnames (hiif.symm.trans hoverlay)
    · have hzero : ∀ order : ByteOrder, order.word portForwardIngressMark ≠ [0, 0, 0, 0] := by
        intro order
        cases order <;> decide
      exact hzero k.order (hmarked.symm.trans hmark)
    · have hsent : (p.leaving oifname).ct = .new := hnew
      rw [not_tracked_of_new hsent] at htracked
      cases htracked

/-- INTERNAL: **a tracked packet is forwarded only between the tunnel and the overlay.** -/
theorem forward_tracked_inv (htracked : p.ct ≠ .new) (h : k.forward chains p = some q) :
    (p.iifname = interfaceBytes config.tunnelInterface ∧
        q.oifname = interfaceBytes config.overlayInterface) ∨
      (p.iifname = interfaceBytes config.overlayInterface ∧
        q.oifname = interfaceBytes config.tunnelInterface) := by
  obtain ⟨arrived, oifname, hpre, -, -, haccepts, hpost⟩ := forward_inv hcore hleases hchains h
  rw [if_neg htracked] at hpre
  have hrestored : (k.restore p).ct ≠ .new := by
    rw [k.restore_ct]
    exact htracked
  have harrived : k.restore p = arrived := by simpa [Kernel.natHook, hrestored] using hpre
  have hiif : (arrived.leaving oifname).iifname = p.iifname := by
    rw [← k.restore_iifname p, harrived]
    rfl
  have hsent : arrived.leaving oifname = q := by
    have hct : (arrived.leaving oifname).ct ≠ .new := by
      rw [← harrived]
      exact hrestored
    simpa [Kernel.natHook, hct] using hpost
  rw [CoreAccepts, hiif, hsent] at haccepts
  rcases haccepts with ⟨hin, hout⟩ | ⟨hin, hout, -⟩
  · exact .inr ⟨hin, hout⟩
  · exact .inl ⟨hin, hout⟩

end Written

/-- **What a gateway forwards.** The core table is written for a configuration and a health, the
lease table for a list of leases with distinct ingress, and the kernel tells the two interfaces
apart.

The first packet of a connection that arrives on the tunnel is forwarded iff the rules are healthy,
it is a packet of a lease and the redirected packet is routed to the overlay; it is then delivered
to the address and the port of this lease, on the overlay. A packet of a tracked connection is
forwarded only between the tunnel and the overlay. Without healthy rules nothing is forwarded.
SOURCE: portforward/rules_linux.go:32-179,
gatewaydataplane/backend_linux.go:236-274, 476-499 -/
theorem lease_packets_forwarded (k : Kernel) (parseAddr : String → Option Addr)
    (config : GatewayConfig) (healthy : Bool) (rules : List GatewayRule) (s : Ruleset)
    (chains : List Chain) (hcore : CoreWritten k.order config healthy s)
    (hleases : LeasesWritten k.order parseAddr (gatewayBackend config) rules s)
    (hchains : chains.Perm (gatewayChains s)) (hdistinct : DistinctIngress rules)
    (hnames : interfaceBytes config.tunnelInterface ≠ interfaceBytes config.overlayInterface) :
    (∀ p : Packet, p.nfproto = nfprotoIPv4 → p.ct = .new → p.mark = [0, 0, 0, 0] →
      p.iifname = interfaceBytes config.tunnelInterface →
      ((∃ q, gatewayForward k chains p = some q) ↔ healthy = true ∧
        ∃ rule ∈ rules, LeaseOf rule p ∧ k.route (redirected k.order parseAddr rule p) =
          some (interfaceName config.overlayInterface)) ∧
      ∀ q, gatewayForward k chains p = some q → ∀ rule ∈ rules, LeaseOf rule p →
        q.destination = targetBytes parseAddr rule ∧
          q.destinationPort = portBytes rule.targetPort ∧
          q.oifname = interfaceBytes config.overlayInterface) ∧
    (∀ p q : Packet, p.nfproto = nfprotoIPv4 → p.ct ≠ .new →
      gatewayForward k chains p = some q →
      (p.iifname = interfaceBytes config.tunnelInterface ∧
          q.oifname = interfaceBytes config.overlayInterface) ∨
        (p.iifname = interfaceBytes config.overlayInterface ∧
          q.oifname = interfaceBytes config.tunnelInterface)) ∧
    (healthy = false → ∀ p : Packet, p.nfproto = nfprotoIPv4 →
      gatewayForward k chains p = none) := by
  refine ⟨?_, ?_, ?_⟩
  · intro p hfamily hnew hmark hiif
    have hforward : gatewayForward k chains p = k.forward chains p := by
      simp [gatewayForward, hfamily]
    rw [hforward]
    have hdelivered : ∀ rule ∈ rules, LeaseOf rule p →
        k.route (redirected k.order parseAddr rule p) =
          some (interfaceName config.overlayInterface) → healthy = true →
        k.forward chains p = some ((redirected k.order parseAddr rule p).leaving
          (interfaceName config.overlayInterface)) := by
      intro rule hrule hlease hroute hhealthy
      exact forward_lease hcore hleases hchains hhealthy hdistinct hnames hfamily hnew hiif hrule
        hlease hroute
    constructor
    · constructor
      · rintro ⟨q, hq⟩
        exact forward_new_inv hcore hleases hchains hdistinct hnames hnew hmark hiif hq
      · rintro ⟨hhealthy, rule, hrule, hlease, hroute⟩
        exact ⟨_, hdelivered rule hrule hlease hroute hhealthy⟩
    · intro q hq rule hrule hlease
      obtain ⟨hhealthy, found, hfound, hfoundLease, hroute⟩ :=
        forward_new_inv hcore hleases hchains hdistinct hnames hnew hmark hiif hq
      have hsame : found = rule := leaseOf_unique hleases hdistinct hfound hrule hfoundLease hlease
      subst hsame
      obtain ⟨hdestination, hport⟩ :=
        redirected_facts (targets_written hleases found hfound) hfamily hlease k.order
      rw [hdelivered found hfound hlease hroute hhealthy] at hq
      cases hq
      exact ⟨hdestination, hport, rfl⟩
  · intro p q hfamily htracked hq
    rw [gatewayForward, if_pos hfamily] at hq
    exact forward_tracked_inv hcore hleases hchains htracked hq
  · intro hunhealthy p hfamily
    rw [gatewayForward, if_pos hfamily]
    cases hforward : k.forward chains p with
    | none => rfl
    | some q =>
      obtain ⟨-, -, -, -, hhealthy, -⟩ := forward_inv hcore hleases hchains hforward
      rw [hunhealthy] at hhealthy
      cases hhealthy

/-! ## A gateway with one lease -/

/-- A kernel that routes everything to one interface and leaves tracked packets as they are. -/
def routingTo (name : String) : Kernel where
  order := .little
  route := fun _ => some (interfaceName name)
  restore := id
  masquerade := fun p _ => p
  restore_iifname := fun _ => rfl
  restore_ct := fun _ => rfl

/-- `netip.ParseAddr` of one address. -/
def parseOne (text : String) : Option Addr :=
  if text = "172.30.0.5" then some (.v4 0xac1e0005#32) else none

/-- TCP port 40000 of the tunnel for port 6881 of a workload. -/
def torrentLease : GatewayRule :=
  { leaseUID := "lease-uid", handoffGeneration := 1, ingressPort := 40000
    overlayAddress := "172.30.0.5", targetPort := 6881, protocols := [.tcp] }

/-- The two tables of the gateway with the lease. -/
def leaseRuleset (healthy : Bool) : Ruleset := fun table =>
  if table = coreTableName then some (coreTable .little gatewayConfig healthy)
  else if table = gatewayRuleTable then
    some (leaseTable .little parseOne (gatewayBackend gatewayConfig) [torrentLease])
  else none

/-- A first packet from the tunnel, to port 40000 of the gateway. -/
def tunnelPacket : Packet where
  iifname := interfaceBytes "tunwaycloak"
  oifname := interfaceBytes ""
  nfproto := nfprotoIPv4
  l4proto := ipprotoTCP
  mark := [0, 0, 0, 0]
  ct := .new
  network := List.replicate 20 0
  transport := [0x13, 0x88] ++ portBytes 40000 ++ List.replicate 16 0
  iifname_length := by simp
  oifname_length := by simp
  mark_length := rfl
  ipv4_header := by simp
  ipv6_header := by decide

theorem leaseRuleset_core (healthy : Bool) :
    CoreWritten .little gatewayConfig healthy (leaseRuleset healthy) := by
  have havailable : Available healthy (engineFilter true) := by
    cases healthy <;> simp [Available, engineFilter, engineOutputChainName,
      engineInputChainName, engineForwardChainName]
  obtain ⟨after, hrebuild⟩ := @rebuild_available .little gatewayConfig healthy _ havailable
  refine ⟨_, _, after, hrebuild, ?_⟩
  rw [(rebuild_ok hrebuild).2.core]
  rfl

theorem leaseRuleset_leases (healthy : Bool) :
    LeasesWritten .little parseOne (gatewayBackend gatewayConfig) [torrentLease]
      (leaseRuleset healthy) := by
  have hreplace : (gatewayBackend gatewayConfig).replaceTable .little parseOne false false
      [torrentLease] (fun _ => none) = .ok (flush (fun _ => none) (leaseBatch .little parseOne
        (gatewayBackend gatewayConfig) [torrentLease] false)) := by
    have hvalid : (gatewayBackend gatewayConfig).validate = .ok () := by decide +kernel
    have hchecked : checkGatewayRules parseOne [] (orderedRules [torrentLease]) = .ok () := by
      decide +kernel
    simp only [LinuxRuleBackend.replaceTable, hvalid, hchecked]
    rfl
  refine ⟨_, _, hreplace, ?_⟩
  rw [(replaceTable_ok hreplace).2]
  rfl

theorem gatewayConfig_names : interfaceBytes gatewayConfig.tunnelInterface ≠
    interfaceBytes gatewayConfig.overlayInterface := by
  decide +kernel

theorem distinctIngress_singleton (rule : GatewayRule) : DistinctIngress [rule] := by
  intro r₁ h₁ r₂ h₂ _ _ _ _
  rw [List.mem_singleton.mp h₁, List.mem_singleton.mp h₂]

/-- The packet of the lease is delivered. -/
theorem lease_packets_forwarded_torrent :
    ∃ q, gatewayForward (routingTo "wcoverlay") (gatewayChains (leaseRuleset true)) tunnelPacket =
        some q ∧
      q.destination = [172, 30, 0, 5] ∧ q.destinationPort = portBytes 6881 := by
  have hlease : LeaseOf torrentLease tunnelPacket := by decide +kernel
  have hforwarded := lease_packets_forwarded (routingTo "wcoverlay") parseOne gatewayConfig true
    [torrentLease] (leaseRuleset true) (gatewayChains (leaseRuleset true)) (leaseRuleset_core true)
    (leaseRuleset_leases true) (List.Perm.refl _) (distinctIngress_singleton _) gatewayConfig_names
  obtain ⟨hiff, hexact⟩ := hforwarded.1 tunnelPacket rfl rfl rfl rfl
  obtain ⟨q, hq⟩ := hiff.mpr ⟨rfl, torrentLease, List.mem_singleton_self _, hlease, rfl⟩
  obtain ⟨hdestination, hport, -⟩ := hexact q hq torrentLease (List.mem_singleton_self _) hlease
  exact ⟨q, hq, hdestination, hport⟩

/-- A packet of a lease is not forwarded if the kernel routes its target to another interface than
the overlay, although the rules are healthy; and a packet of the other family is forwarded although
they are not. -/
theorem misrouted_lease :
    (LeaseOf torrentLease tunnelPacket ∧
      gatewayForward (routingTo "eth0") (gatewayChains (leaseRuleset true)) tunnelPacket = none) ∧
    (gatewayForward (routingTo "eth0") (gatewayChains (leaseRuleset false))
      { tunnelPacket with
        nfproto := nfprotoIPv6, network := List.replicate 40 0
        ipv4_header := by decide, ipv6_header := by simp }).isSome = true := by
  refine ⟨⟨by decide +kernel, ?_⟩, rfl⟩
  have hfamily : tunnelPacket.nfproto = nfprotoIPv4 := rfl
  rw [gatewayForward, if_pos hfamily]
  cases hforward : (routingTo "eth0").forward (gatewayChains (leaseRuleset true)) tunnelPacket with
  | none => rfl
  | some q =>
    obtain ⟨-, rule, -, -, hroute⟩ := @forward_new_inv (routingTo "eth0") parseOne gatewayConfig
      true [torrentLease] (leaseRuleset true) _ tunnelPacket q (leaseRuleset_core true)
      (leaseRuleset_leases true) (List.Perm.refl _) (distinctIngress_singleton _)
      gatewayConfig_names rfl rfl rfl hforward
    have hnames : interfaceName "eth0" ≠ interfaceName gatewayConfig.overlayInterface := by
      decide +kernel
    exact absurd (Option.some.inj hroute) hnames

end Waycloak.Analysis
