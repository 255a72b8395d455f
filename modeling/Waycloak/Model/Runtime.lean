import Waycloak.Model.Objects
import Mathlib.Data.List.Sort

/-!
# The controller-to-runtime vocabulary

The messages the lease controller and a gateway runtime exchange, how the
controller builds them from a stored lease, and when a returned observation is an
exact answer to the message that was sent. `normalizedProtocols` and the provider
request are shared by both ends.
-/

set_option autoImplicit false

namespace Waycloak.Model

def runtimeAPIVersion : String := "port-forward-runtime.waycloak.io/v1"
def providerCleanupFinalizer : String := "networking.waycloak.io/provider-cleanup"
def providerAssignedApplicationPortFeature : FeatureName :=
  "networking.waycloak.io/ProviderAssignedApplicationPort"

/-- SOURCE: portforward/allocation.go:25-26 -/
def providerPortFirst : UInt16 := 49152
def providerPortLast : UInt16 := 65535

/-- `ApplicationPortMode`: the two named modes, or any other text on the wire.
SOURCE: portforward/runtime.go:20-25 -/
inductive ApplicationPortMode where
  | fixed | providerAssigned
  | other (text : String)
  deriving DecidableEq

/-- SOURCE: portforward/runtime.go:27-46 -/
structure Intent where
  apiVersion : String
  leaseNamespace : NamespaceName
  leaseUID : ObjectUID
  gatewayUID : ObjectUID
  handoffGeneration : Int
  serviceUID : ObjectUID
  endpointSliceUID : ObjectUID
  podUID : ObjectUID
  bindingUID : ObjectUID
  providerInternalPort : UInt16
  previousPublicPort : UInt16
  overlayAddress : Addr
  applicationAddress : Addr
  backendPort : UInt16
  targetPort : UInt16
  protocols : List TransportProtocol
  adapterName : ObjectName
  applicationPortMode : ApplicationPortMode
  deriving DecidableEq

/-- SOURCE: portforward/runtime.go:62-66 -/
structure ProviderObservation where
  publicAddress : Addr
  publicPort : UInt16
  expiresAt : Time
  deriving DecidableEq

/-- SOURCE: portforward/runtime.go:48-60 -/
structure Observation where
  apiVersion : String
  leaseUID : ObjectUID
  gatewayUID : ObjectUID
  handoffGeneration : Int
  podUID : ObjectUID
  observedAt : Time
  provider : Option ProviderObservation
  gatewayRulesReady : Bool
  delivered : Bool
  acknowledged : Bool
  withdrawn : Bool
  deriving DecidableEq

/-- `Observation{}`. -/
def Observation.empty : Observation :=
  { apiVersion := "", leaseUID := "", gatewayUID := "", handoffGeneration := 0, podUID := "",
    observedAt := 0, provider := none, gatewayRulesReady := false, delivered := false,
    acknowledged := false, withdrawn := false }

/-- SOURCE: portforward/runtime.go:68-83 -/
structure WithdrawalIntent where
  apiVersion : String
  leaseNamespace : NamespaceName
  leaseUID : ObjectUID
  gatewayUID : ObjectUID
  handoffGeneration : Int
  serviceUID : ObjectUID
  endpointSliceUID : ObjectUID
  podUID : ObjectUID
  applicationEndpointRetired : Bool
  releaseProvider : Bool
  providerInternalPort : UInt16
  previousPublicPort : UInt16
  protocols : List TransportProtocol
  adapterName : ObjectName
  deriving DecidableEq

/-- The port a recorded provider mapping suggests to the provider, `0` for none. -/
def suggestedPublicPort (provider : Option ProviderMappingStatus) : UInt16 :=
  match provider with
  | some mapping =>
    if 0 < mapping.publicPort ∧ mapping.publicPort ≤ 65535 then UInt16.ofNat mapping.publicPort.toNat
    else 0
  | none => 0

/-- SOURCE: portforward/runtime.go:95-110 -/
def withdrawalFor (lease : PortForwardLease) (gateway : VPNGateway) : WithdrawalIntent :=
  let endpoint := lease.status.activeEndpoint
  { apiVersion := runtimeAPIVersion
    leaseNamespace := lease.namespaceName
    leaseUID := lease.uid
    gatewayUID := gateway.uid
    handoffGeneration := lease.status.handoffGeneration
    serviceUID := (endpoint.map (·.serviceUID)).getD ""
    endpointSliceUID := (endpoint.map (·.endpointSliceUID)).getD ""
    podUID := (endpoint.map (·.podUID)).getD ""
    applicationEndpointRetired := false
    releaseProvider := false
    providerInternalPort := 0
    previousPublicPort := suggestedPublicPort lease.status.provider
    protocols := lease.spec.protocols
    adapterName := lease.spec.applicationAdapterRef.getD "" }

/-- SOURCE: portforward/runtime.go:112-127 -/
def intentFor (lease : PortForwardLease) (gateway : VPNGateway) (candidate : Candidate)
    (generation : Int) : Intent :=
  { apiVersion := runtimeAPIVersion
    leaseNamespace := lease.namespaceName
    leaseUID := lease.uid
    gatewayUID := gateway.uid
    handoffGeneration := generation
    serviceUID := candidate.serviceUID
    endpointSliceUID := candidate.endpointSliceUID
    podUID := candidate.podUID
    bindingUID := candidate.bindingUID
    providerInternalPort := 0
    previousPublicPort := suggestedPublicPort lease.status.provider
    overlayAddress := candidate.overlayAddress
    applicationAddress := candidate.applicationAddress
    backendPort := candidate.targetPort
    targetPort := candidate.targetPort
    protocols := lease.spec.protocols
    adapterName := lease.spec.applicationAdapterRef.getD ""
    applicationPortMode := .fixed }

/-- SOURCE: portforward/runtime.go:129-133 -/
def exactObservation (observation : Observation) (intent : Intent) : Bool :=
  observation.apiVersion == runtimeAPIVersion && observation.leaseUID == intent.leaseUID &&
    observation.gatewayUID == intent.gatewayUID &&
    observation.handoffGeneration == intent.handoffGeneration &&
    observation.podUID == intent.podUID && observation.observedAt != 0

/-- SOURCE: portforward/runtime.go:135-139 -/
def exactWithdrawal (observation : Observation) (intent : WithdrawalIntent) : Bool :=
  observation.apiVersion == runtimeAPIVersion && observation.leaseUID == intent.leaseUID &&
    observation.gatewayUID == intent.gatewayUID &&
    observation.handoffGeneration == intent.handoffGeneration &&
    observation.podUID == intent.podUID && observation.observedAt != 0 && observation.withdrawn

/-- What a gateway runtime answers a request with an error for.
`unavailable` carries the text of an error another component returned. -/
inductive RuntimeError where
  | intentInvalid
  | withdrawalInvalid
  | protocolCount
  | protocolUnsupported
  | protocolDuplicate
  | unsupportedTransport
  | backendsRequired
  | withdrawalBackendsRequired
  | generationRegressed
  | targetChanged
  | resumedBeforeWithdrawal
  | successorBeforeWithdrawal
  | observeCapabilities (cause : String)
  | noCapacity
  | noSharedPort
  | unsupportedMapping (protocol : String)
  | capacityExhausted
  | regressionWithdrawal (cause : RuntimeError) (replace : String)
  | ensureMapping (cause : String)
  | replaceRules (cause : String)
  | withdrawalGeneration
  | capabilityUnavailable
  | unavailable (cause : String)
  deriving DecidableEq

/-- The error texts of the source. -/
def RuntimeError.text : RuntimeError → String
  | .intentInvalid => "port-forward runtime intent is invalid"
  | .withdrawalInvalid => "port-forward withdrawal intent is invalid"
  | .protocolCount => "port-forward runtime requires one or two transport protocols"
  | .protocolUnsupported => "port-forward runtime protocol is unsupported"
  | .protocolDuplicate => "port-forward runtime protocols must be unique"
  | .unsupportedTransport => "unsupported transport protocol"
  | .backendsRequired =>
    "engine port-forward capability, atomic rules, and delivery backends are required"
  | .withdrawalBackendsRequired => "atomic rules and delivery backends are required"
  | .generationRegressed => "handoff generation regressed"
  | .targetChanged => "target identity changed within one handoff generation"
  | .resumedBeforeWithdrawal => "target resumed before withdrawal completed"
  | .successorBeforeWithdrawal => "successor target arrived before old rules were withdrawn"
  | .observeCapabilities cause => "observe provider capabilities: " ++ cause
  | .noCapacity => "provider reports no port-forward lease capacity"
  | .noSharedPort => "provider cannot map requested protocols to one public port"
  | .unsupportedMapping protocol => "provider does not support requested " ++ protocol ++ " mapping"
  | .capacityExhausted => "provider port-forward lease capacity is exhausted"
  | .regressionWithdrawal cause replace =>
    cause.text ++ "\n" ++ "withdraw rules after provider capability regression: " ++ replace
  | .ensureMapping cause => "ensure provider mapping: " ++ cause
  | .replaceRules cause => "replace atomic gateway rules: " ++ cause
  | .withdrawalGeneration => "withdrawal generation does not match active state"
  | .capabilityUnavailable => "engine port-forward capability is unavailable"
  | .unavailable cause => cause

/-- The scan of a sorted protocol list: every entry supported, none equal to the one
before it.
SOURCE: portforward/manager.go:386-393 -/
def checkProtocols : Option TransportProtocol → List TransportProtocol → Option RuntimeError
  | _, [] => none
  | previous, protocol :: rest =>
    if protocol ≠ .tcp ∧ protocol ≠ .udp then some .protocolUnsupported
    else if previous = some protocol then some .protocolDuplicate
    else checkProtocols (some protocol) rest

/-- SOURCE: portforward/manager.go:380-395 -/
def normalizedProtocols (protocols : List TransportProtocol) :
    Except RuntimeError (List TransportProtocol) :=
  if protocols.length = 0 ∨ 2 < protocols.length then .error .protocolCount
  else
    let result := protocols.insertionSort fun a b => a.text ≤ b.text
    match checkProtocols none result with
    | some err => .error err
    | none => .ok result

/-- The protocol set both intents name, when both name a valid one.
SOURCE: portforward/manager.go:373-377 -/
def sameProtocols (a b : List TransportProtocol) : Bool :=
  match normalizedProtocols a, normalizedProtocols b with
  | .ok aProtocols, .ok bProtocols => aProtocols == bProtocols
  | _, _ => false

/-- SOURCE: portforward/manager.go:372-378 -/
def sameRuntimeTarget (a b : Intent) : Bool :=
  a.leaseUID == b.leaseUID && a.gatewayUID == b.gatewayUID && a.serviceUID == b.serviceUID &&
    a.podUID == b.podUID && a.bindingUID == b.bindingUID &&
    a.providerInternalPort == b.providerInternalPort && a.overlayAddress == b.overlayAddress &&
    a.applicationAddress == b.applicationAddress && a.backendPort == b.backendPort &&
    a.targetPort == b.targetPort && a.applicationPortMode == b.applicationPortMode &&
    sameProtocols a.protocols b.protocols && a.adapterName == b.adapterName

/-- The gateway is given by its UID, `""` standing for a missing one.
SOURCE: portforward/manager.go:346-357 -/
def validateRuntimeIntent (gatewayUID : ObjectUID) (intent : Intent) : Option RuntimeError :=
  if gatewayUID = "" ∨ intent.apiVersion ≠ runtimeAPIVersion ∨ intent.leaseNamespace = "" ∨
      intent.leaseUID = "" ∨ intent.gatewayUID ≠ gatewayUID ∨ intent.handoffGeneration < 1 ∨
      intent.serviceUID = "" ∨ intent.endpointSliceUID = "" ∨ intent.podUID = "" ∨
      intent.bindingUID = "" ∨ intent.providerInternalPort < providerPortFirst ∨
      intent.backendPort = 0 ∨ intent.targetPort = 0 ∨ intent.overlayAddress.is4 = false ∨
      intent.applicationAddress.is4 = false ∨ intent.protocols.length = 0 ∨
      (intent.applicationPortMode ≠ .fixed ∧ intent.applicationPortMode ≠ .providerAssigned) then
    some .intentInvalid
  else match normalizedProtocols intent.protocols with
    | .error err => some err
    | .ok _ => none

/-- SOURCE: portforward/manager.go:359-370 -/
def validateWithdrawal (gatewayUID : ObjectUID) (intent : WithdrawalIntent) : Option RuntimeError :=
  if gatewayUID = "" ∨ intent.apiVersion ≠ runtimeAPIVersion ∨ intent.leaseNamespace = "" ∨
      intent.leaseUID = "" ∨ intent.gatewayUID ≠ gatewayUID ∨ intent.handoffGeneration < 1 ∨
      intent.podUID = "" ∨
      (intent.releaseProvider = true ∧
        (intent.providerInternalPort < providerPortFirst ∨ intent.protocols.length = 0)) then
    some .withdrawalInvalid
  else if intent.releaseProvider then
    match normalizedProtocols intent.protocols with
    | .error err => some err
    | .ok _ => none
  else none

end Waycloak.Model
