import Mathlib.Data.List.Basic

/-!
# The Kubernetes objects the port-forward components read and write

The replacement API's types as far as the lease controller and the gateway
runtime use them: condition lists, the `PortForwardLease`, the `VPNGateway`
snapshot it references, the `WorkloadAdapter`, and the resolved endpoint
`Candidate`. Instants are `Int`, in nanoseconds since Go's zero `time.Time`, so
`IsZero` is equality with `0`; durations are `Int` nanoseconds.

A `SOURCE` of a package of `internal/` is given without that directory.
-/

set_option autoImplicit false

namespace Waycloak.Model

abbrev NamespaceName := String
abbrev ObjectName := String
abbrev ObjectUID := String
abbrev FeatureName := String

/-- `time.Time`, in nanoseconds since the zero time. -/
abbrev Time := Int

/-- `time.Duration`, in nanoseconds. -/
abbrev Duration := Int

def millisecond : Duration := 1000000
def second : Duration := 1000000000
def minute : Duration := 60 * second

/-! ## Addresses -/

/-- `netip.Addr`: the zero value, an IPv4 address or an IPv6 address with its zone. -/
inductive Addr where
  | zero
  | v4 (bits : BitVec 32)
  | v6 (bits : BitVec 128) (zone : String)
  deriving DecidableEq

namespace Addr

def is4 : Addr → Bool
  | .v4 _ => true
  | _ => false

def isValid : Addr → Bool
  | .zero => false
  | _ => true

/-- `Addr.Is4In6`: `::ffff:a.b.c.d`. -/
def is4In6 : Addr → Bool
  | .v6 bits _ => bits.extractLsb' 32 96 == 0xffff#96
  | _ => false

/-- `Addr.Unmap`. -/
def unmap (a : Addr) : Addr :=
  match a with
  | .v6 bits _ => if a.is4In6 then .v4 (bits.extractLsb' 0 32) else a
  | _ => a

/-- `Addr.IsLoopback`: `127.0.0.0/8` or `::1`. -/
def isLoopback (a : Addr) : Bool :=
  match a.unmap with
  | .v4 bits => bits.extractLsb' 24 8 == 127#8
  | .v6 bits _ => bits == 1#128
  | .zero => false

/-- `Addr.IsMulticast`: `224.0.0.0/4` or `ff00::/8`. -/
def isMulticast (a : Addr) : Bool :=
  match a.unmap with
  | .v4 bits => bits.extractLsb' 28 4 == 0xe#4
  | .v6 bits _ => bits.extractLsb' 120 8 == 0xff#8
  | .zero => false

/-- `Addr.IsLinkLocalUnicast`: `169.254.0.0/16` or `fe80::/10`. -/
def isLinkLocalUnicast (a : Addr) : Bool :=
  match a.unmap with
  | .v4 bits => bits.extractLsb' 16 16 == 0xa9fe#16
  | .v6 bits _ => bits.extractLsb' 118 10 == 0x3fa#10
  | .zero => false

/-- `Addr.IsGlobalUnicast`: private IPv4 and unique-local IPv6 addresses count. -/
def isGlobalUnicast (a : Addr) : Bool :=
  a.isValid && a != .v4 0#32 && a != .v4 0xffffffff#32 && a != .v6 0#128 "" &&
    !a.isLoopback && !a.isMulticast && !a.isLinkLocalUnicast

/-- The 16-bit groups of an IPv6 address, from the most significant one. -/
def groups (bits : BitVec 128) : List (BitVec 16) :=
  (List.range 8).map fun i => bits.extractLsb' (16 * (7 - i)) 16

/-- The length of the run of zero groups a list starts with. -/
def zeroRun : List (BitVec 16) → ℕ
  | [] => 0
  | g :: gs => if g = 0#16 then zeroRun gs + 1 else 0

/-- Start and length of the first longest run of zero groups, from index `i` on. -/
def longestZeroRun : ℕ → List (BitVec 16) → ℕ × ℕ
  | i, [] => (i, 0)
  | i, g :: gs =>
    let here := zeroRun (g :: gs)
    let later := longestZeroRun (i + 1) gs
    if later.2 ≤ here then (i, here) else later

/-- Groups in lower-case hexadecimal, joined by colons. -/
def joinGroups (gs : List (BitVec 16)) : String :=
  String.intercalate ":" (gs.map fun g => String.ofList (Nat.toDigits 16 g.toNat))

/-- `Addr.String`: dotted decimal, or the shortest IPv6 form. -/
def string : Addr → String
  | .zero => "invalid IP"
  | .v4 bits =>
    String.intercalate "." ((List.range 4).map fun i => toString (bits.extractLsb' (8 * (3 - i)) 8).toNat)
  | .v6 bits zone =>
    let gs := groups bits
    let (start, length) := longestZeroRun 0 gs
    -- a single zero group is not abbreviated
    let text := if length < 2 then joinGroups gs
      else joinGroups (gs.take start) ++ "::" ++ joinGroups (gs.drop (start + length))
    if zone = "" then text else text ++ "%" ++ zone

end Addr

/-! ## Conditions -/

/-- The condition types of the replacement API.
SOURCE: api/v1beta1/common_types.go:11-21 -/
inductive ConditionType where
  | accepted | resolvedRefs | programmed | ready | tunnelReady | dnsReady
  | membershipApplied | nodeReady | gatewayRulesReady | delivered | acknowledged
  deriving DecidableEq

/-- The condition reasons of the replacement API.
SOURCE: api/v1beta1/common_types.go:23-54 -/
inductive Reason where
  | accepted | invalid | unsupportedClass | unsupportedFeature | controllerNotFound | deleting
  | resolvedRefs | invalidRef | refNotFound | refNotPermitted | incompatibleRef
  | programmed | pending | applyFailed | staleGeneration | ready | notReady
  | observationUnavailable | tunnelReady | tunnelNotReady | dnsReady | dnsNotReady
  | membershipApplied | membershipPending | nodeReady | nodeNotReady
  | gatewayRulesReady | gatewayRulesPending | delivered | deliveryPending
  | acknowledged | acknowledgementPending
  deriving DecidableEq

inductive ConditionStatus where
  | true | false | unknown
  deriving DecidableEq

/-- `metav1.Condition`. -/
structure Condition where
  type : ConditionType
  status : ConditionStatus
  reason : Reason
  message : String
  observedGeneration : Int
  lastTransitionTime : Time
  deriving DecidableEq

/-- `conditions.State`: a condition before it is stamped with generation and time.
SOURCE: conditions/conditions.go:17-33 -/
structure State where
  status : ConditionStatus
  reason : Reason
  message : String
  deriving DecidableEq

namespace State

def true (reason : Reason) (message : String) : State := ⟨.true, reason, message⟩
def false (reason : Reason) (message : String) : State := ⟨.false, reason, message⟩
def unknown (message : String) : State := ⟨.unknown, .observationUnavailable, message⟩

end State

/-- `map[string]conditions.State`. -/
abbrev States := ConditionType → Option State

/-- `states[type] = state`. -/
def States.set (states : States) (type : ConditionType) (state : State) : States :=
  fun t => if t = type then some state else states t

/-- `apiMeta.FindStatusCondition`: the first condition of the type. -/
def findStatusCondition (conditions : List Condition) (type : ConditionType) : Option Condition :=
  conditions.find? fun c => c.type = type

/-- `conditions.Build`: one condition per type of `order`; the transition time of a
condition whose polarity did not change is kept.
SOURCE: conditions/conditions.go:38-59 -/
def build (previous : List Condition) (generation : Int) (now : Time)
    (order : List ConditionType) (states : States) : List Condition :=
  order.map fun type =>
    let state := (states type).getD (State.unknown "Condition observation is unavailable")
    let transition := match findStatusCondition previous type with
      | some old => if old.status = state.status then old.lastTransitionTime else now
      | none => now
    { type, status := state.status, reason := state.reason, message := state.message,
      observedGeneration := generation, lastTransitionTime := transition }

/-- `conditions.Current`: both the enclosing status and the condition must be of the
object's current generation.
SOURCE: conditions/conditions.go:63-72 -/
def current (values : List Condition) (type : ConditionType)
    (statusGeneration generation : Int) : Option Condition :=
  if statusGeneration ≠ generation then none
  else match findStatusCondition values type with
    | none => none
    | some condition => if condition.observedGeneration ≠ generation then none else some condition

/-- `conditions.CurrentTrue`.
SOURCE: conditions/conditions.go:74-77 -/
def currentTrue (values : List Condition) (type : ConditionType)
    (statusGeneration generation : Int) : Bool :=
  match current values type statusGeneration generation with
  | some condition => condition.status == .true
  | none => false

/-! ## PortForwardLease -/

/-- `TransportProtocol`: the API admits `TCP` and `UDP`; the runtime's wire type is an
open string and checks for others itself.
SOURCE: api/v1beta1/portforwardlease_types.go:11-16 -/
inductive TransportProtocol where
  | tcp | udp
  | other (text : String)
  deriving DecidableEq

def TransportProtocol.text : TransportProtocol → String
  | .tcp => "TCP"
  | .udp => "UDP"
  | .other text => text

inductive IntOrString where
  | int (value : Int)
  | string (value : String)
  deriving DecidableEq

/-- SOURCE: api/v1beta1/portforwardlease_types.go:18-29 -/
structure ServiceBackendReference where
  group : String
  kind : String
  name : ObjectName
  port : IntOrString
  deriving DecidableEq

structure NamespacedObjectReference where
  namespaceName : NamespaceName
  name : ObjectName
  deriving DecidableEq

/-- SOURCE: api/v1beta1/portforwardlease_types.go:36-53 -/
structure PortForwardLeaseSpec where
  gatewayRef : NamespacedObjectReference
  backendRef : ServiceBackendReference
  protocols : List TransportProtocol
  applicationAdapterRef : Option ObjectName
  deriving DecidableEq

inductive EndpointHandoffPhase where
  | selecting | draining | active
  deriving DecidableEq

/-- SOURCE: api/v1beta1/portforwardlease_types.go:63-73 -/
structure ActiveLeaseEndpoint where
  serviceUID : ObjectUID
  endpointSliceUID : ObjectUID
  podUID : ObjectUID
  phase : EndpointHandoffPhase
  deriving DecidableEq

structure ProviderMappingStatus where
  publicAddress : String
  publicPort : Int
  expiresAt : Time
  deriving DecidableEq

/-- SOURCE: api/v1beta1/portforwardlease_types.go:88-99 -/
structure PortForwardLeaseStatus where
  observedGeneration : Int
  activeEndpoint : Option ActiveLeaseEndpoint
  provider : Option ProviderMappingStatus
  handoffGeneration : Int
  conditions : List Condition
  deriving DecidableEq

/-- The status of a lease no controller has written yet. -/
def PortForwardLeaseStatus.empty : PortForwardLeaseStatus :=
  { observedGeneration := 0, activeEndpoint := none, provider := none, handoffGeneration := 0,
    conditions := [] }

/-- A stored `PortForwardLease`: identity, metadata, spec and status. -/
structure PortForwardLease where
  namespaceName : NamespaceName
  name : ObjectName
  uid : ObjectUID
  generation : Int
  deletionTimestamp : Option Time
  finalizers : List String
  spec : PortForwardLeaseSpec
  status : PortForwardLeaseStatus
  deriving DecidableEq

/-! ## Referenced objects -/

/-- The `VPNGateway` fields the lease controller and the runtime read. -/
structure VPNGateway where
  namespaceName : NamespaceName
  name : ObjectName
  uid : ObjectUID
  generation : Int
  observedGeneration : Int
  supportedFeatures : List FeatureName
  conditions : List Condition
  deriving DecidableEq

/-- The `WorkloadAdapter` fields the lease controller reads. -/
structure WorkloadAdapter where
  generation : Int
  supportedFeatures : List FeatureName
  observedGeneration : Int
  conditions : List Condition
  deriving DecidableEq

/-- `portforward.Candidate`: one resolved endpoint.
SOURCE: portforward/resolver.go:52-62 -/
structure Candidate where
  serviceUID : ObjectUID
  endpointSliceUID : ObjectUID
  podName : ObjectName
  podUID : ObjectUID
  bindingName : ObjectName
  bindingUID : ObjectUID
  overlayAddress : Addr
  applicationAddress : Addr
  targetPort : UInt16
  deriving DecidableEq

end Waycloak.Model
