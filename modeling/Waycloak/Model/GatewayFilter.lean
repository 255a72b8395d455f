import Waycloak.Computation.Nftables
import Waycloak.Model.Attachments

/-!
# The gateway's packet filter

The gateway agent owns the table `waycloak_gateway_core` and the marked rules it adds to the filter
table of the VPN engine. `replaceRules` is `LinuxBackend.ReplaceRules` on the rule set it finds:
either the markers show that the rules are current, or one batch replaces the core table and the
marked rules of the engine's chains. `GatewayState.reconcile` is `Service.Reconcile`.

Everything the kernel, the engine and the DNS probe decide is an argument: which netlink calls fail
(`NetlinkCall`), the rule set a call of `ReplaceRules` finds, and the outcomes of `EnsureOverlay`,
`Observe` and `Probe`. A batch that is not flushed has no effect. Tables and chains are found by
name, which is unique in a family. Telemetry and hooks are left out.
-/

set_option autoImplicit false

namespace Waycloak.Model

open Waycloak.Computation.Nftables

/-! ## Configuration -/

def Addr.isUnspecified : Addr → Bool
  | .v4 bits => bits == 0#32
  | .v6 bits zone => bits == 0#128 && zone == ""
  | .zero => false

/-- SOURCE: gatewaydataplane/config.go:17-31 -/
structure GatewayConfig where
  gatewayUID : String
  overlayCIDR : Prefix
  gatewayAddress : Addr
  overlayInterface : String
  underlayInterface : String
  tunnelInterface : String
  vxlanPort : UInt16
  vni : UInt32
  mtu : Int
  healthPort : UInt16
  dnsUpstream : AddrPort
  clusterDNSUpstream : AddrPort
  clusterDomain : String
  deriving DecidableEq

/-- SOURCE: gatewaydataplane/config.go:45-64 -/
def validDomain (value : String) : Bool :=
  let label (characters : List Char) : Bool :=
    !characters.isEmpty && decide (characters.length ≤ 63) && characters.head? != some '-' &&
      characters.getLast? != some '-' &&
      characters.all fun c => ('a' ≤ c && c ≤ 'z') || ('0' ≤ c && c ≤ '9') || c == '-'
  value != "" && decide (value.utf8ByteSize ≤ 253) && value.toList.head? != some '.' &&
    value.toList.getLast? != some '.' && (value.toList.splitOn '.').all label

/-- `Config.Validate`.
SOURCE: gatewaydataplane/config.go:33-43 -/
def GatewayConfig.valid (c : GatewayConfig) : Bool :=
  c.gatewayUID != "" && c.overlayCIDR.isValid && c.overlayCIDR.addr.is4 &&
    decide (16 ≤ c.overlayCIDR.bits) && decide (c.overlayCIDR.bits ≤ 29) &&
    c.gatewayAddress.is4 && c.overlayCIDR.contains c.gatewayAddress &&
    c.gatewayAddress != c.overlayCIDR.masked.addr &&
    c.overlayInterface != "" && c.underlayInterface != "" && c.tunnelInterface != "" &&
    c.overlayInterface != c.tunnelInterface &&
    decide (c.overlayInterface.utf8ByteSize ≤ 15) &&
    decide (c.underlayInterface.utf8ByteSize ≤ 15) &&
    decide (c.tunnelInterface.utf8ByteSize ≤ 15) &&
    c.vxlanPort != 0 && c.healthPort != 0 && c.vni != 0 && decide (c.vni ≤ 16777215) &&
    decide (576 ≤ c.mtu) && decide (c.mtu ≤ 9000) &&
    c.dnsUpstream.addr.isValid && c.dnsUpstream.addr.isLoopback && c.dnsUpstream.port != 0 &&
    c.clusterDNSUpstream.addr.isValid && c.clusterDNSUpstream.addr.is4 &&
    !c.clusterDNSUpstream.addr.isLoopback && !c.clusterDNSUpstream.addr.isUnspecified &&
    c.clusterDNSUpstream.port == 53 && validDomain c.clusterDomain

/-! ## Expressions -/

/-- SOURCE: gatewaydataplane/backend_linux.go:495-499 -/
def interfaceBytes (value : String) : Bytes := padded 16 value.toUTF8.toList

/-- A port in network byte order. -/
def portBytes (port : UInt16) : Bytes := [(port >>> 8).toUInt8, port.toUInt8]

/-- `As4`, and `AsSlice` of an IPv4 address; the other addresses have no four bytes. -/
def Addr.as4 : Addr → Bytes
  | .v4 bits => [bits.extractLsb' 24 8, bits.extractLsb' 16 8, bits.extractLsb' 8 8,
      bits.extractLsb' 0 8].map UInt8.ofBitVec
  | _ => []

/-- SOURCE: gatewaycontract/marks.go:10 -/
def portForwardIngressMark : BitVec 32 := 0x57434c50#32

/-- SOURCE: gatewaydataplane/config.go:15 -/
def dnsListenPort : UInt16 := 1053

/-- The expressions that test the name of an interface. -/
def interfaceIs (key : MetaKey) (name : String) : List Expr :=
  [.metaLoad key 1, .cmp .eq 1 (interfaceBytes name)]

/-- SOURCE: gatewaydataplane/backend_linux.go:476-482 -/
def interfacePair (input output : String) (accept : Bool) : List Expr :=
  interfaceIs .iifname input ++ interfaceIs .oifname output ++
    if accept then [.verdict .accept] else []

variable (order : ByteOrder) (config : GatewayConfig)

/-- SOURCE: gatewaydataplane/backend_linux.go:484-491 -/
def markedPortForward (input output : String) : List Expr :=
  interfacePair input output false ++
    [.metaLoad .mark 1, .cmp .eq 1 (order.word portForwardIngressMark), .verdict .accept]

/-- SOURCE: gatewaydataplane/backend_linux.go:492-494 -/
def established : List Expr :=
  [.ctState 1, .bitwise 1 1 [0x06, 0, 0, 0] [0, 0, 0, 0], .cmp .neq 1 [0, 0, 0, 0],
    .verdict .accept]

/-- SOURCE: gatewaydataplane/backend_linux.go:445-460 -/
def outputDNS (protocol : UInt8) : List Expr :=
  interfaceIs .oifname config.underlayInterface ++
    [.metaLoad .l4proto 1, .cmp .eq 1 [protocol],
      .payload .network 16 4 1, .cmp .eq 1 config.clusterDNSUpstream.addr.as4,
      .payload .transport 2 2 1, .cmp .eq 1 (portBytes config.clusterDNSUpstream.port),
      .verdict .accept]

/-- SOURCE: gatewaydataplane/backend_linux.go:462-474 -/
def inputPort (input : String) (protocol : UInt8) (port : UInt16) : List Expr :=
  interfaceIs .iifname input ++
    [.metaLoad .l4proto 1, .cmp .eq 1 [protocol], .payload .transport 2 2 1,
      .cmp .eq 1 (portBytes port), .verdict .accept]

/-! ## The rules -/

/-- SOURCE: gatewaydataplane/backend_linux.go:26, 37-41 -/
def coreTableName : String := "waycloak_gateway_core"
def engineFilterTableName : String := "filter"
def engineInputChainName : String := "INPUT"
def engineForwardChainName : String := "FORWARD"
def engineOutputChainName : String := "OUTPUT"
def engineRuleMarkerPrefix : String := "waycloak:gluetun:"

/-- `strings.HasPrefix` of the marker of a rule. -/
def Rule.marked (lead : String) (rule : Rule) : Bool := lead.toList.isPrefixOf rule.userData.toList

/-- The priorities `filter` and `srcnat`. -/
def filterPriority : Int := 0
def natSourcePriority : Int := 100

/-- The three rules of the forward chain, with the marks of their owner.
SOURCE: gatewaydataplane/backend_linux.go:262-264, 437-439 -/
def forwardRules (lead : String) : List Rule :=
  [⟨lead ++ "overlay-to-tunnel",
      interfacePair config.overlayInterface config.tunnelInterface true⟩,
    ⟨lead ++ "tunnel-to-overlay-port-forward",
      markedPortForward order config.tunnelInterface config.overlayInterface⟩,
    ⟨lead ++ "tunnel-to-overlay-established",
      interfacePair config.tunnelInterface config.overlayInterface false ++ established⟩]

/-- SOURCE: gatewaydataplane/backend_linux.go:265 -/
def masqueradeRule : Rule :=
  ⟨"waycloak:overlay-masquerade",
    interfaceIs .iifname config.overlayInterface ++
      interfaceIs .oifname config.tunnelInterface ++ [.masquerade none]⟩

/-- The rules of the core table.
SOURCE: gatewaydataplane/backend_linux.go:261-266 -/
def coreForwardRules (healthy : Bool) : List Rule :=
  if healthy then forwardRules order config "waycloak:" else []

def corePostroutingRules (healthy : Bool) : List Rule :=
  if healthy then [masqueradeRule config] else []

/-- The forward chain of the core table before its rules.
SOURCE: gatewaydataplane/backend_linux.go:258-260 -/
def coreForwardChain : Chain :=
  { type := .filter, hook := .forward, priority := filterPriority, policy := some .drop
    rules := [] }

def corePostroutingChain : Chain :=
  { type := .nat, hook := .postrouting, priority := natSourcePriority, policy := none, rules := [] }

/-- The batch that replaces the core table.
SOURCE: gatewaydataplane/backend_linux.go:248-266 -/
def coreBatch (healthy : Bool) (present : Bool) : List Op :=
  (if present then [.delTable coreTableName] else []) ++
    [.addTable coreTableName,
      .addChain coreTableName "forward" coreForwardChain,
      .addChain coreTableName "postrouting" corePostroutingChain] ++
    (coreForwardRules order config healthy).map (.addRule coreTableName "forward") ++
    (corePostroutingRules config healthy).map (.addRule coreTableName "postrouting")

/-- The rules the agent adds to a chain of the engine's filter table.
SOURCE: gatewaydataplane/backend_linux.go:431-440 -/
def engineRules (order : ByteOrder) (config : GatewayConfig) (healthy : Bool) (chain : String) :
    List Rule :=
  if chain = engineOutputChainName then
    [⟨engineRuleMarkerPrefix ++ "cluster-dns-udp-output", outputDNS config ipprotoUDP⟩,
      ⟨engineRuleMarkerPrefix ++ "cluster-dns-tcp-output", outputDNS config ipprotoTCP⟩]
  else if healthy = false then []
  else if chain = engineInputChainName then
    [⟨engineRuleMarkerPrefix ++ "health-input",
        inputPort config.overlayInterface ipprotoTCP config.healthPort⟩,
      ⟨engineRuleMarkerPrefix ++ "dns-udp-input",
        inputPort config.overlayInterface ipprotoUDP dnsListenPort⟩,
      ⟨engineRuleMarkerPrefix ++ "dns-tcp-input",
        inputPort config.overlayInterface ipprotoTCP dnsListenPort⟩]
  else if chain = engineForwardChainName then forwardRules order config engineRuleMarkerPrefix
  else []

/-! ## Netlink -/

/-- The netlink calls of one `ReplaceRules`, in the order they are made. -/
inductive NetlinkCall where
  | currentTables
  | currentChains
  | currentRules (table chain : String)
  | tables
  | engineTables
  | engineChains
  | engineRules (chain : String)
  | flush
  deriving DecidableEq

def netlinkError : String := "netlink"

/-- SOURCE: gatewaydataplane/backend_linux.go:350-375 -/
def exactRuleMarkers (rules : List Rule) (lead : String) (expected : List String) : Bool :=
  let markers := (rules.filter (Rule.marked lead)).map (·.userData)
  markers.dedup.length == expected.length && expected.all fun marker => markers.count marker == 1

/-- SOURCE: gatewaydataplane/backend_linux.go:327-334 -/
structure MarkerCheck where
  table : String
  chain : String
  lead : String
  expected : List String
  required : Bool
  deriving DecidableEq

/-- The markers the rules of a health value carry, chain by chain.
SOURCE: gatewaydataplane/backend_linux.go:317-340 -/
def markerChecks (healthy : Bool) : List MarkerCheck :=
  [{ table := coreTableName, chain := "forward", lead := "waycloak:", required := true
     expected := if healthy then ["waycloak:overlay-to-tunnel",
       "waycloak:tunnel-to-overlay-port-forward", "waycloak:tunnel-to-overlay-established"]
       else [] },
    { table := coreTableName, chain := "postrouting", lead := "waycloak:", required := true
      expected := if healthy then ["waycloak:overlay-masquerade"] else [] },
    { table := engineFilterTableName, chain := engineInputChainName, lead := engineRuleMarkerPrefix
      required := healthy
      expected := if healthy then [engineRuleMarkerPrefix ++ "health-input",
        engineRuleMarkerPrefix ++ "dns-udp-input", engineRuleMarkerPrefix ++ "dns-tcp-input"]
        else [] },
    { table := engineFilterTableName, chain := engineForwardChainName
      lead := engineRuleMarkerPrefix, required := healthy
      expected := if healthy then [engineRuleMarkerPrefix ++ "overlay-to-tunnel",
        engineRuleMarkerPrefix ++ "tunnel-to-overlay-port-forward",
        engineRuleMarkerPrefix ++ "tunnel-to-overlay-established"] else [] },
    { table := engineFilterTableName, chain := engineOutputChainName, lead := engineRuleMarkerPrefix
      required := true
      expected := [engineRuleMarkerPrefix ++ "cluster-dns-udp-output",
        engineRuleMarkerPrefix ++ "cluster-dns-tcp-output"] }]

/-- SOURCE: gatewaydataplane/backend_linux.go:341-351 -/
def checkMarkers (fails : NetlinkCall → Bool) (s : Ruleset) : List MarkerCheck → Except String Bool
  | [] => .ok true
  | check :: rest =>
    match s.chain check.table check.chain with
    | none => if check.required then .ok false else checkMarkers fails s rest
    | some chain =>
      if fails (.currentRules check.table check.chain) then .error netlinkError
      else if exactRuleMarkers chain.rules check.lead check.expected then checkMarkers fails s rest
      else .ok false

variable (fails : NetlinkCall → Bool)

/-- The source takes the configuration too, and does not read it.
SOURCE: gatewaydataplane/backend_linux.go:276-351 -/
def gatewayRulesCurrent (s : Ruleset) (healthy : Bool) : Except String Bool :=
  if fails .currentTables || fails .currentChains then .error netlinkError
  else match s.chain coreTableName "forward", s.chain coreTableName "postrouting" with
    | some forward, some _ =>
      if forward.policy ≠ some .drop then .ok false
      else checkMarkers fails s (markerChecks healthy)
    | _, _ => .ok false

/-- The messages that clear a chain of its marked rules.
SOURCE: gatewaydataplane/backend_linux.go:416-430 -/
def clearMarked (s : Ruleset) (chain : String) : List Op :=
  match s.chain engineFilterTableName chain with
  | none => []
  | some found =>
    (found.rules.filter (Rule.marked engineRuleMarkerPrefix)).map
      (.delRule engineFilterTableName chain)

/-- The messages `replaceEngineFilterRules` adds to the batch.
SOURCE: gatewaydataplane/backend_linux.go:377-443 -/
def replaceEngineFilterRules (s : Ruleset)
    (config : GatewayConfig) (healthy : Bool) : Except String (List Op) :=
  if fails .engineTables || fails .engineChains then .error netlinkError
  else match s engineFilterTableName with
    | none => if healthy then .error "gluetun filter table is unavailable" else .ok []
    | some filter =>
      if (filter engineOutputChainName).isNone ||
          healthy && ((filter engineInputChainName).isNone ||
            (filter engineForwardChainName).isNone) then
        .error "required Gluetun filter chains are unavailable"
      else
        let chains := [engineInputChainName, engineForwardChainName, engineOutputChainName]
        if chains.any fun chain => (filter chain).isSome && fails (.engineRules chain) then
          .error netlinkError
        else .ok (chains.flatMap (clearMarked s) ++
          [engineOutputChainName, engineInputChainName, engineForwardChainName].flatMap fun chain =>
            (engineRules order config healthy chain).map (.addRule engineFilterTableName chain))

/-- The batch of the slow path.
SOURCE: gatewaydataplane/backend_linux.go:248-274 -/
def rebuild (config : GatewayConfig) (healthy : Bool) (s : Ruleset) : Except String Ruleset :=
  if fails .tables then .error netlinkError
  else match replaceEngineFilterRules order fails s config healthy with
    | .error err => .error err
    | .ok engine =>
      if fails .flush then .error ("replace gateway fail-closed rules: " ++ netlinkError)
      else .ok (flush s (coreBatch order config healthy (s coreTableName).isSome ++ engine))

/-- `LinuxBackend.ReplaceRules` on the rule set it finds.
SOURCE: gatewaydataplane/backend_linux.go:236-274 -/
def replaceRules (config : GatewayConfig) (healthy : Bool) (s : Ruleset) : Except String Ruleset :=
  if config.valid = false then
    .error ("exact gateway identity, IPv4 overlay, interfaces, VNI, MTU, health, and loopback " ++
      "DNS upstream are required")
  else match gatewayRulesCurrent fails s healthy with
    | .error err => .error err
    | .ok true => .ok s
    | .ok false => rebuild order fails config healthy s

/-! ## The service -/

/-- SOURCE: provider/engine.go:11-15 -/
structure EngineObservation where
  tunnelReady : Bool
  dnsReady : Bool
  deriving DecidableEq

/-- The calls of `ReplaceRules` in one `Reconcile`: before the probe, after it, and on the way out
of a failure. -/
inductive RuleCall where
  | reassert | install | withdraw
  deriving DecidableEq

/-- What one `Reconcile` meets. -/
structure GatewayInput where
  ensureOverlay : Option String
  observe : Except String EngineObservation
  probe : Option String
  /-- which netlink calls fail -/
  netlink : RuleCall → NetlinkCall → Bool
  /-- the rule set a call finds: what the agent, the engine and others have left there -/
  found : RuleCall → Ruleset

/-- The flags of the service and the rule set of its namespace.
SOURCE: gatewaydataplane/service.go:29-40 -/
structure GatewayState where
  healthy : Bool
  tunnelReady : Bool
  dnsReady : Bool
  rules : Ruleset

namespace GatewayState

/-- A call of `ReplaceRules`: the error it returns, and the state it leaves. -/
def replace (order : ByteOrder) (config : GatewayConfig) (input : GatewayInput) (call : RuleCall)
    (healthy : Bool) (s : GatewayState) : GatewayState × List String :=
  match replaceRules order (input.netlink call) config healthy (input.found call) with
  | .ok rules => ({ s with rules }, [])
  | .error err => ({ s with rules := input.found call }, [err])

/-- A failure: the forwarding is withdrawn, and the errors are joined. -/
def withdraw (order : ByteOrder) (config : GatewayConfig) (input : GatewayInput) (err : String)
    (s : GatewayState) : GatewayState × List String :=
  let answer := s.replace order config input .withdraw false
  (answer.1, err :: answer.2)

/-- The part of `Reconcile` from the probe on.
SOURCE: gatewaydataplane/service.go:88-100 -/
def install (order : ByteOrder) (config : GatewayConfig) (input : GatewayInput) (s : GatewayState) :
    GatewayState × List String :=
  match input.probe with
  | some err =>
    withdraw order config input ("gateway split-DNS observation failed: " ++ err)
      { s with healthy := false, dnsReady := false }
  | none =>
    let ready := { s with dnsReady := true }
    match ready.replace order config input .install true with
    | (installed, []) => ({ installed with healthy := true }, [])
    | (failed, err :: _) => withdraw order config input err { failed with healthy := false }

/-- `Service.Reconcile`: the state it leaves, and the errors it joins (none if it succeeds).
SOURCE: gatewaydataplane/service.go:48-101 -/
def reconcile (order : ByteOrder) (config : GatewayConfig) (s : GatewayState)
    (input : GatewayInput) : GatewayState × List String :=
  match input.ensureOverlay with
  | some err =>
    withdraw order config input err
      { s with healthy := false, tunnelReady := false, dnsReady := false }
  | none =>
    match input.observe with
    | .error err =>
      withdraw order config input err
        { s with healthy := false, tunnelReady := false, dnsReady := false }
    | .ok observation =>
      let observed := { s with tunnelReady := observation.tunnelReady }
      if observation.tunnelReady && observation.dnsReady then
        if observed.healthy then install order config input observed
        else match observed.replace order config input .reassert false with
          | (failed, err :: rest) => (failed, err :: rest)
          | (closed, []) => install order config input closed
      else
        withdraw order config input "gateway engine tunnel or DNS is not ready"
          { observed with healthy := false, dnsReady := false }

end GatewayState

end Waycloak.Model
