import Waycloak.Model.GatewayFilter
import Waycloak.Model.Manager

/-!
# The port-forward rules of a gateway

`LinuxRuleBackend.Replace` writes the table `waycloak_port_forward` in one batch: for each protocol
of each lease a rule that marks and redirects its packets, one that lets them through and one that
masquerades the answers, and at the end of the forward chain the rule that drops what else arrives
on the tunnel. `netip.ParseAddr` is a parameter.
-/

set_option autoImplicit false

namespace Waycloak.Model

open Waycloak.Computation.Nftables

/-- SOURCE: portforward/rules_linux.go:25 -/
def gatewayRuleTable : String := "waycloak_port_forward"

/-- SOURCE: portforward/rules_linux.go:27-30 -/
structure LinuxRuleBackend where
  tunnelInterface : String
  overlayInterface : String
  deriving DecidableEq

/-- SOURCE: portforward/rules_linux.go:230-235 -/
def LinuxRuleBackend.validate (b : LinuxRuleBackend) : Except String Unit :=
  if b.tunnelInterface = "" ∨ b.overlayInterface = "" ∨ 15 < b.tunnelInterface.utf8ByteSize ∨
      15 < b.overlayInterface.utf8ByteSize ∨ b.tunnelInterface = b.overlayInterface then
    .error "exact distinct tunnel and overlay interfaces are required"
  else .ok ()

/-- SOURCE: portforward/rules_linux.go:217-228 -/
def validateGatewayRule (parseAddr : String → Option Addr) (rule : GatewayRule) :
    Except String Unit :=
  if rule.leaseUID = "" ∨ rule.handoffGeneration < 1 ∨ rule.ingressPort = 0 ∨
      rule.targetPort = 0 ∨ (parseAddr rule.overlayAddress).all (fun a => !a.is4) = true ∨
      rule.protocols = [] then
    .error "gateway port-forward rule is invalid"
  else if rule.protocols.any (fun p => p != .tcp && p != .udp) then
    .error "gateway port-forward protocol is unsupported"
  else .ok ()

/-- `strings.ToLower` of the two protocols. -/
def protocolMarker : TransportProtocol → String
  | .tcp => "tcp"
  | .udp => "udp"
  | .other text => text.toLower

/-- SOURCE: portforward/rules_linux.go:237-239 -/
def gatewayMarker (rule : GatewayRule) (protocol : TransportProtocol) (component : String) :
    String :=
  "waycloak:" ++ rule.leaseUID ++ ":" ++ toString rule.handoffGeneration ++ ":" ++
    protocolMarker protocol ++ ":" ++ component

/-- SOURCE: portforward/rules_linux.go:134-137 -/
def transportOf (protocol : TransportProtocol) : UInt8 :=
  if protocol = .udp then ipprotoUDP else ipprotoTCP

/-- `netip.MustParseAddr(rule.OverlayAddress).AsSlice()` of a rule that passed its validation. -/
def targetBytes (parseAddr : String → Option Addr) (rule : GatewayRule) : Bytes :=
  ((parseAddr rule.overlayAddress).getD .zero).as4

section Rules

variable (order : ByteOrder) (parseAddr : String → Option Addr) (b : LinuxRuleBackend)
  (rule : GatewayRule) (protocol : TransportProtocol)

/-- SOURCE: portforward/rules_linux.go:141-156 -/
def dnatRule : Rule :=
  ⟨gatewayMarker rule protocol "dnat",
    interfaceIs .iifname b.tunnelInterface ++
      [.metaLoad .l4proto 1, .cmp .eq 1 [transportOf protocol],
        .payload .transport 2 2 1, .cmp .eq 1 (portBytes rule.ingressPort),
        .immediate 1 (order.word portForwardIngressMark), .metaMark 1,
        .immediate 1 (targetBytes parseAddr rule), .immediate 2 (portBytes rule.targetPort),
        .destNAT 1 2]⟩

/-- SOURCE: portforward/rules_linux.go:162-169 -/
def forwardRule : Rule :=
  ⟨gatewayMarker rule protocol "forward",
    interfaceIs .iifname b.tunnelInterface ++ interfaceIs .oifname b.overlayInterface ++
      [.metaLoad .l4proto 1, .cmp .eq 1 [transportOf protocol],
        .payload .network 16 4 1, .cmp .eq 1 (targetBytes parseAddr rule),
        .payload .transport 2 2 1, .cmp .eq 1 (portBytes rule.targetPort), .verdict .accept]⟩

/-- SOURCE: portforward/rules_linux.go:170-178 -/
def returnRule : Rule :=
  ⟨gatewayMarker rule protocol "snat",
    interfaceIs .iifname b.overlayInterface ++ interfaceIs .oifname b.tunnelInterface ++
      [.payload .network 12 4 1, .cmp .eq 1 (targetBytes parseAddr rule),
        .metaLoad .l4proto 1, .cmp .eq 1 [transportOf protocol],
        .payload .transport 0 2 1, .cmp .eq 1 (portBytes rule.targetPort),
        .immediate 1 (portBytes rule.ingressPort), .masquerade (some 1)]⟩

/-- The rules of one lease for one protocol, with their chains.
SOURCE: portforward/rules_linux.go:133-179 -/
def addGatewayLeaseRules : List (String × Rule) :=
  [("prerouting", dnatRule order parseAddr b rule protocol),
    ("forward", forwardRule parseAddr b rule protocol),
    ("postrouting", returnRule parseAddr b rule protocol)]

end Rules

/-- SOURCE: portforward/rules_linux.go:71-80 -/
def establishedReturnRule (b : LinuxRuleBackend) : Rule :=
  ⟨"waycloak:established-tunnel-return:accept",
    interfaceIs .iifname b.tunnelInterface ++ interfaceIs .oifname b.overlayInterface ++
      [.ctState 1, .bitwise 1 1 [0x06, 0, 0, 0] [0, 0, 0, 0], .cmp .neq 1 [0, 0, 0, 0],
        .verdict .accept]⟩

/-- SOURCE: portforward/rules_linux.go:83-87 -/
def unmatchedTunnelRule (b : LinuxRuleBackend) : Rule :=
  ⟨"waycloak:unmatched-tunnel:drop", interfaceIs .iifname b.tunnelInterface ++ [.verdict .drop]⟩

/-- The priority `dstnat`. -/
def natDestPriority : Int := -100

def leasePreroutingChain : Chain :=
  { type := .nat, hook := .prerouting, priority := natDestPriority, policy := none, rules := [] }

def leaseForwardChain : Chain :=
  { type := .filter, hook := .forward, priority := filterPriority, policy := none, rules := [] }

def leasePostroutingChain : Chain :=
  { type := .nat, hook := .postrouting, priority := natSourcePriority, policy := none, rules := [] }

/-- SOURCE: portforward/rules_linux.go:36-37 -/
def orderedRules (rules : List GatewayRule) : List GatewayRule :=
  rules.insertionSort fun a b => a.leaseUID ≤ b.leaseUID

/-- The rules of the table with their chains, in the order they are added.
SOURCE: portforward/rules_linux.go:62-87 -/
def leaseTableRules (order : ByteOrder) (parseAddr : String → Option Addr) (b : LinuxRuleBackend)
    (rules : List GatewayRule) : List (String × Rule) :=
  (orderedRules rules).flatMap (fun rule =>
      rule.protocols.flatMap (addGatewayLeaseRules order parseAddr b rule)) ++
    [("forward", establishedReturnRule b), ("forward", unmatchedTunnelRule b)]

/-- The batch of `Replace`.
SOURCE: portforward/rules_linux.go:53-88 -/
def leaseBatch (order : ByteOrder) (parseAddr : String → Option Addr) (b : LinuxRuleBackend)
    (rules : List GatewayRule) (present : Bool) : List Op :=
  (if present then [.delTable gatewayRuleTable] else []) ++
    [.addTable gatewayRuleTable,
      .addChain gatewayRuleTable "prerouting" leasePreroutingChain,
      .addChain gatewayRuleTable "forward" leaseForwardChain,
      .addChain gatewayRuleTable "postrouting" leasePostroutingChain] ++
    (leaseTableRules order parseAddr b rules).map fun entry =>
      .addRule gatewayRuleTable entry.1 entry.2

/-- SOURCE: portforward/rules_linux.go:38-47 -/
def checkGatewayRules (parseAddr : String → Option Addr) :
    List ObjectUID → List GatewayRule → Except String Unit
  | _, [] => .ok ()
  | seen, rule :: rest =>
    if rule.leaseUID ∈ seen then .error "duplicate lease UID in atomic gateway rule set"
    else match validateGatewayRule parseAddr rule with
      | .error err => .error err
      | .ok () => checkGatewayRules parseAddr (rule.leaseUID :: seen) rest

/-- `LinuxRuleBackend.Replace` on the rule set it finds; listing the tables or the flush may fail.
SOURCE: portforward/rules_linux.go:32-92 -/
def LinuxRuleBackend.replaceTable (b : LinuxRuleBackend) (order : ByteOrder)
    (parseAddr : String → Option Addr) (listFails flushFails : Bool) (rules : List GatewayRule)
    (s : Ruleset) : Except String Ruleset := do
  b.validate
  checkGatewayRules parseAddr [] (orderedRules rules)
  if listFails then .error ("list gateway nftables state: " ++ netlinkError)
  else if flushFails then
    .error ("replace atomic gateway port-forward rules: " ++ netlinkError)
  else .ok (flush s (leaseBatch order parseAddr b rules (s gatewayRuleTable).isSome))

end Waycloak.Model
