import Waycloak.Computation.KeyedStore
import Waycloak.Computation.Runs
import Waycloak.Model.Routes

/-!
# The reconciler that binds enrolled Pods, and the cluster it shares with the route controller

`PodBindingReconciler` creates the binding of an enrolled Pod, keeps its network intent
current and deletes a binding that no longer matches the Pod, its route or the gateway. It
never evaluates consent itself: it reads the status the route controller wrote.

`Cluster` is what the two controllers and everything else change: any user or controller may
replace Pods, gateways, Namespaces and the specification of routes; a route's status is
written by the route controller alone, a binding's specification by `PodBindingReconciler`
alone.
-/

set_option autoImplicit false

namespace Waycloak.Model

open Waycloak.Computation

/-! ## Prefixes and the parsers -/

/-- `netip.Prefix`. -/
structure Prefix where
  addr : Addr
  bits : ℕ
  deriving DecidableEq

/-- `Prefix.Masked`: the host bits and the zone are dropped. -/
def Prefix.masked (p : Prefix) : Prefix :=
  match p.addr with
  | .zero => p
  | .v4 bits => { p with addr := .v4 (bits &&& (BitVec.allOnes 32 <<< (32 - p.bits))) }
  | .v6 bits _ => { p with addr := .v6 (bits &&& (BitVec.allOnes 128 <<< (128 - p.bits))) "" }

/-- `Prefix.Contains`: families must agree, and an address with a zone is in no prefix. -/
def Prefix.contains (p : Prefix) (address : Addr) : Bool :=
  match p.addr, address with
  | .v4 _, .v4 _ => ({ p with addr := address } : Prefix).masked == p.masked
  | .v6 _ _, .v6 _ zone => zone == "" && ({ p with addr := address } : Prefix).masked == p.masked
  | _, _ => false

def Prefix.string (p : Prefix) : String := p.addr.string ++ "/" ++ toString p.bits

/-- `netip.AddrPort`. -/
structure AddrPort where
  addr : Addr
  port : UInt16
  deriving DecidableEq

def AddrPort.string (a : AddrPort) : String :=
  match a.addr with
  | .v6 _ _ => "[" ++ a.addr.string ++ "]:" ++ toString a.port.toNat
  | _ => a.addr.string ++ ":" ++ toString a.port.toNat

/-- `netip.ParsePrefix`, `ParseAddr` and `ParseAddrPort`, and `strconv.ParseInt(_, 10, 32)`. -/
structure NetworkParsers where
  parsePrefix : String → Option Prefix
  parseAddr : String → Option Addr
  parseAddrPort : String → Option AddrPort
  parseInt32 : String → Option Int

/-! ## What a gateway's status projects into its bindings -/

variable (parsers : NetworkParsers) (shortHash : String → String) (gateway : EgressGateway)

/-- The first overlay CIDR the gateway reports.
SOURCE: binding/allocation.go:309-324 -/
def parseOverlayCIDR : Except String Prefix :=
  match gateway.addresses.find? fun address => address.type = .overlayCIDR with
  | none => .error "gateway has no observed overlay CIDR"
  | some address =>
    match parsers.parsePrefix address.value with
    | none => .error "parse observed gateway overlay CIDR"
    | some overlay => .ok overlay.masked

/-- `values[type]`: of several addresses of one type the last one counts.
SOURCE: controller/vpnworkloadbinding_controller.go:153-156 -/
def addressValue (type : GatewayAddressType) : String :=
  (gateway.addresses.reverse.find? fun address => address.type = type).elim "" (·.value)

/-- A decimal value of the gateway's status between two bounds. -/
def boundedValue (type : GatewayAddressType)
    (low high : Int) (message : String) : Except String Int :=
  match parsers.parseInt32 (addressValue gateway type) with
  | none => .error message
  | some value => if value < low ∨ high < value then .error message else .ok value

def gatewayAddressTypeText : GatewayAddressType → String
  | .overlayCIDR => "networking.waycloak.io/OverlayCIDR"
  | .overlayAddress => "networking.waycloak.io/OverlayAddress"
  | .underlayEndpoint => "networking.waycloak.io/UnderlayEndpoint"
  | .overlayHealthPort => "networking.waycloak.io/OverlayHealthPort"
  | .vni => "networking.waycloak.io/VNI"
  | .mtu => "networking.waycloak.io/MTU"
  | .other text => text

/-- SOURCE: controller/vpnworkloadbinding_controller.go:157-161 -/
def requiredAddressTypes : List GatewayAddressType :=
  [.overlayCIDR, .overlayAddress, .underlayEndpoint, .overlayHealthPort, .vni, .mtu]

/-- SOURCE: controller/vpnworkloadbinding_controller.go:152-197 -/
def workloadNetworkIntent : Except String WorkloadNetworkIntent := do
  match requiredAddressTypes.find? fun type => addressValue gateway type = "" with
  | some missing =>
    throw ("gateway status address \"" ++ gatewayAddressTypeText missing ++ "\" is unavailable")
  | none =>
    match parsers.parsePrefix (addressValue gateway .overlayCIDR) with
    | none => throw "parse gateway overlay CIDR"
    | some overlay =>
      match parsers.parseAddr (addressValue gateway .overlayAddress) with
      | none => throw "gateway overlay address is invalid"
      | some gatewayAddress =>
        if overlay.contains gatewayAddress = false then
          throw "gateway overlay address is invalid"
        else match parsers.parseAddrPort (addressValue gateway .underlayEndpoint) with
          | none => throw "gateway underlay endpoint is invalid"
          | some endpoint =>
            if endpoint.port = 0 then throw "gateway underlay endpoint is invalid"
            else
              let healthPort ← boundedValue parsers gateway .overlayHealthPort 1 65535
                "gateway overlay health port is invalid"
              let vni ← boundedValue parsers gateway .vni 1 16777215 "gateway VNI is invalid"
              let mtu ← boundedValue parsers gateway .mtu 576 9000 "gateway MTU is invalid"
              return {
                gatewayGeneration := gateway.generation
                overlayCIDR := overlay.masked.string
                gatewayAddress := gatewayAddress.string
                gatewayEndpoint := endpoint.string
                gatewayHealthPort := healthPort
                vni := vni
                mtu := mtu
                clusterTraffic := gateway.clusterTraffic }

/-! ## Eligibility -/

/-- SOURCE: controller/vpnworkloadbinding_controller.go:505-513 -/
def routeEligible (route : VPNEgressRoute) : Bool :=
  if route.uid = "" ∨ route.deletionTimestamp.isSome then false
  else match route.parentRefs, route.status.parents with
    | [specParent], [parent] =>
      parent.controllerName == routeControllerName && parent.parentRef == specParent &&
        currentTrue route.status.conditions .ready route.status.observedGeneration
          route.generation &&
        currentTrue parent.conditions .ready route.status.observedGeneration route.generation
    | _, _ => false

/-- SOURCE: controller/vpnworkloadbinding_controller.go:515-518 -/
def gatewayEligible : Bool :=
  gateway.uid != "" && gateway.deletionTimestamp.isNone &&
    currentTrue gateway.conditions .ready gateway.observedGeneration gateway.generation

/-- SOURCE: controller/vpnworkloadbinding_controller.go:520-525 -/
def bindingMatches (binding : VPNWorkloadBinding) (pod : Pod) (route : VPNEgressRoute)
    (gateway : EgressGateway) : Bool :=
  binding.spec.podRef == ⟨pod.name, pod.uid⟩ && binding.spec.routeRef == ⟨route.name, route.uid⟩ &&
    binding.spec.gatewayRef == ⟨gateway.namespaceName, gateway.name, gateway.uid⟩ &&
    binding.spec.nodeName == pod.nodeName && binding.deletionTimestamp.isNone

/-! ## PodBindingReconciler -/

/-- `Allocator.Reserve` without an error: the part of the reservation a binding records. -/
structure AddressReservation where
  identity : String
  address : Prefix
  deriving DecidableEq

/-- `ErrPoolExhausted`, or any other error of `Reserve`. -/
inductive ReserveError where
  | exhausted
  | other (text : String)
  deriving DecidableEq

/-- `ErrReservationConflict`, or any other error of `Ensure`. -/
inductive EnsureError where
  | conflict
  | other (text : String)
  deriving DecidableEq

inductive CreateError where
  | alreadyExists
  | other (text : String)
  deriving DecidableEq

/-- What the API and the allocator answer during one reconcile of a Pod. -/
structure PodBindingAPI where
  pod : Except ReadError Pod
  route : NamespaceName × ObjectName → Except ReadError VPNEgressRoute
  gateway : NamespaceName × ObjectName → Except ReadError EgressGateway
  binding : NamespaceName × ObjectName → Except ReadError VPNWorkloadBinding
  ensure : EgressGateway → VPNWorkloadBinding → Except EnsureError Unit
  reserve : EgressGateway → ObjectUID → Prefix → Except ReserveError AddressReservation
  deleteFailure : Option String
  patchFailure : Option String
  createFailure : Option CreateError

variable (api : PodBindingAPI)

/-- A write that took effect. -/
inductive BindingWrite where
  | delete (existing : VPNWorkloadBinding)
  | patchNetwork (existing : VPNWorkloadBinding) (network : WorkloadNetworkIntent)
  | create (binding : VPNWorkloadBinding)
  deriving DecidableEq

structure PodBindingOutcome where
  write : Option BindingWrite
  requeueAfter : Duration
  error : Option String
  deriving DecidableEq

namespace PodBindingOutcome

def done : PodBindingOutcome := { write := none, requeueAfter := 0, error := none }
def requeue : PodBindingOutcome := { write := none, requeueAfter := second, error := none }
def fail (text : String) : PodBindingOutcome :=
  { write := none, requeueAfter := 0, error := some text }

end PodBindingOutcome

/-- `BindingName`; `shortHash` is the model's parameter for the digest.
SOURCE: binding/allocation.go:266-277 -/
def bindingName (podUID : ObjectUID) : ObjectName :=
  "pod-" ++ shortHash podUID

def dataplaneCleanupFinalizer : String := "networking.waycloak.io/dataplane-cleanup"

/-- A Pod the reconciler goes on with.
SOURCE: controller/vpnworkloadbinding_controller.go:52-55 -/
def Pod.enrolled (pod : Pod) : Bool :=
  pod.routeLabel != "" && pod.uid != "" && pod.nodeName != "" && pod.deletionTimestamp.isNone

/-- The route and gateway of a Pod, with the pool and network intent the gateway projects. -/
structure PodTarget where
  route : VPNEgressRoute
  gateway : EgressGateway
  pool : Prefix
  network : WorkloadNetworkIntent
  deriving DecidableEq

/-- The reads up to the network intent, each with its early return.
SOURCE: controller/vpnworkloadbinding_controller.go:57-88 -/
def resolveTarget (pod : Pod) : Except PodBindingOutcome PodTarget :=
  match api.route (pod.namespaceName, pod.routeLabel) with
  | .error .notFound => .error .requeue
  | .error (.other err) => .error (.fail ("resolve enrolled route: " ++ err))
  | .ok route =>
    if routeEligible route = false then .error .requeue
    else match route.parentRefs with
      | [] => .error .requeue -- not reached: an eligible route has one parent
      | parent :: _ =>
        match api.gateway parent.key with
        | .error .notFound => .error .requeue
        | .error (.other err) => .error (.fail ("resolve binding gateway: " ++ err))
        | .ok gateway =>
          if gateway.uid = "" ∨ gatewayEligible gateway = false then .error .requeue
          else match parseOverlayCIDR parsers gateway with
            | .error _ => .error .requeue
            | .ok pool =>
              match workloadNetworkIntent parsers gateway with
              | .error _ => .error .requeue
              | .ok network => .ok { route, gateway, pool, network }

/-- The branch for a binding that exists under the Pod's name.
SOURCE: controller/vpnworkloadbinding_controller.go:94-119 -/
def reconcileExisting (pod : Pod) (target : PodTarget)
    (existing : VPNWorkloadBinding) : PodBindingOutcome :=
  if existing.spec.podRef.uid ≠ pod.uid then .fail "UID-derived binding name collision"
  else if bindingMatches existing pod target.route target.gateway = false then
    if existing.deletionTimestamp.isNone then
      match api.deleteFailure with
      | some err => .fail ("withdraw obsolete workload binding: " ++ err)
      | none => { PodBindingOutcome.requeue with write := some (.delete existing) }
    else .requeue
  else if existing.spec.network ≠ target.network then
    match api.patchFailure with
    | some err => .fail ("update credential-free binding network intent: " ++ err)
    | none => { PodBindingOutcome.done with write := some (.patchNetwork existing target.network) }
  else match api.ensure target.gateway existing with
    | .ok () => .done
    | .error .conflict =>
      let failed := PodBindingOutcome.fail
        "validate binding reservation: address reservation belongs to another allocation"
      -- the deletion's own error is dropped
      if existing.deletionTimestamp.isNone ∧ api.deleteFailure.isNone then
        { failed with write := some (.delete existing) }
      else failed
    | .error (.other err) => .fail ("validate binding reservation: " ++ err)

/-- SOURCE: controller/vpnworkloadbinding_controller.go:131-145 -/
def desiredBinding (pod : Pod) (target : PodTarget)
    (reservation : AddressReservation) : VPNWorkloadBinding :=
  { namespaceName := pod.namespaceName
    name := bindingName shortHash pod.uid
    uid := ""
    generation := 1
    deletionTimestamp := none
    finalizers := [dataplaneCleanupFinalizer]
    spec :=
      { podRef := ⟨pod.name, pod.uid⟩
        routeRef := ⟨target.route.name, target.route.uid⟩
        gatewayRef := ⟨target.gateway.namespaceName, target.gateway.name, target.gateway.uid⟩
        nodeName := pod.nodeName
        allocation := { identity := reservation.identity, address := reservation.address.string }
        network := target.network }
    status := .empty }

/-- The branch for a Pod without a binding.
SOURCE: controller/vpnworkloadbinding_controller.go:123-149 -/
def createBinding (pod : Pod) (target : PodTarget) : PodBindingOutcome :=
  match api.reserve target.gateway pod.uid target.pool with
  | .error .exhausted => .requeue
  | .error (.other err) => .fail err
  | .ok reservation =>
    match api.createFailure with
    | some (.other err) => .fail ("persist UID-bound workload binding: " ++ err)
    | some .alreadyExists => .done
    | none =>
      { PodBindingOutcome.done with
        write := some (.create (desiredBinding shortHash pod target reservation)) }

/-- SOURCE: controller/vpnworkloadbinding_controller.go:47-150 -/
def PodBindingReconciler.reconcile : PodBindingOutcome :=
  match api.pod with
  | .error .notFound => .done
  | .error (.other err) => .fail err
  | .ok pod =>
    if pod.enrolled = false then .done
    else match resolveTarget parsers api pod with
      | .error outcome => outcome
      | .ok target =>
        match api.binding (pod.namespaceName, bindingName shortHash pod.uid) with
        | .ok existing => reconcileExisting api pod target existing
        | .error (.other err) => .fail ("read UID-bound workload binding: " ++ err)
        | .error .notFound => createBinding shortHash api pod target

/-! ## The cluster -/

def Pod.key (pod : Pod) : NamespaceName × ObjectName := (pod.namespaceName, pod.name)

def VPNWorkloadBinding.key (binding : VPNWorkloadBinding) : NamespaceName × ObjectName :=
  (binding.namespaceName, binding.name)

/-- The objects of the API server that routes and bindings are made from. -/
structure Cluster where
  labels : NamespaceName → Labels
  pods : KeyedStore Pod.key
  routes : KeyedStore VPNEgressRoute.key
  gateways : KeyedStore EgressGateway.key
  bindings : KeyedStore VPNWorkloadBinding.key

def Cluster.empty : Cluster :=
  { labels := fun _ => [], pods := .empty _, routes := .empty _, gateways := .empty _
    bindings := .empty _ }

/-- The code outside the repository. -/
structure ClusterLibraries where
  selectors : Selectors
  parsers : NetworkParsers
  shortHash : String → String

/-- A read of the object under a key: the request may fail, or find nothing. -/
def readResult {α : Type} (failure : Option String) (found : Option α) : Except ReadError α :=
  match failure, found with
  | some err, _ => .error (.other err)
  | none, none => .error .notFound
  | none, some object => .ok object

/-- Which requests of one Pod reconcile fail, what the allocator answers, and what the API server
assigns to the objects written. -/
structure PodAnswers where
  podFailure : Option String
  routeFailure : Option String
  gatewayFailure : Option String
  bindingFailure : Option String
  ensure : EgressGateway → VPNWorkloadBinding → Except EnsureError Unit
  reserve : EgressGateway → ObjectUID → Prefix → Except ReserveError AddressReservation
  deleteFailure : Option String
  patchFailure : Option String
  createFailure : Option String
  uid : ObjectUID
  now : Time

/-- Every API request of the reconcile succeeds. -/
def PodAnswers.succeed (answers : PodAnswers) : Bool :=
  answers.podFailure.isNone && answers.routeFailure.isNone && answers.gatewayFailure.isNone &&
    answers.bindingFailure.isNone && answers.deleteFailure.isNone &&
    answers.patchFailure.isNone && answers.createFailure.isNone

/-- What the reconciler of the Pod under a key is answered in this cluster. -/
def Cluster.podAPI (c : Cluster) (answers : PodAnswers) (key : NamespaceName × ObjectName) :
    PodBindingAPI :=
  { pod := readResult answers.podFailure (c.pods.find key)
    route := fun k => readResult answers.routeFailure (c.routes.find k)
    gateway := fun k => readResult answers.gatewayFailure (c.gateways.find k)
    binding := fun k => readResult answers.bindingFailure (c.bindings.find k)
    ensure := answers.ensure
    reserve := answers.reserve
    deleteFailure := answers.deleteFailure
    patchFailure := answers.patchFailure
    createFailure := answers.createFailure.map .other }

/-- A deletion request: an object that still has a finalizer is only marked. -/
def VPNWorkloadBinding.markDeleting (now : Time) (binding : VPNWorkloadBinding) :
    VPNWorkloadBinding :=
  if binding.deletionTimestamp.isSome then binding
  else { binding with deletionTimestamp := some now, generation := binding.generation + 1 }

theorem markDeleting_key (now : Time) (binding : VPNWorkloadBinding) :
    (binding.markDeleting now).key = binding.key := by
  unfold VPNWorkloadBinding.markDeleting
  split <;> rfl

def VPNWorkloadBinding.patchNetwork (network : WorkloadNetworkIntent)
    (binding : VPNWorkloadBinding) : VPNWorkloadBinding :=
  { binding with spec := { binding.spec with network }, generation := binding.generation + 1 }

theorem patchNetwork_key (network : WorkloadNetworkIntent) (binding : VPNWorkloadBinding) :
    (binding.patchNetwork network).key = binding.key := rfl

/-- The stored bindings after a write of `PodBindingReconciler`. -/
def applyBindingWrite (answers : PodAnswers) (bindings : KeyedStore VPNWorkloadBinding.key) :
    Option BindingWrite → KeyedStore VPNWorkloadBinding.key
  | none => bindings
  | some (.delete existing) =>
    if existing.finalizers = [] then bindings.delete existing.key
    else bindings.update existing.key (·.markDeleting answers.now) (markDeleting_key answers.now)
  | some (.patchNetwork existing network) =>
    bindings.update existing.key (·.patchNetwork network) (patchNetwork_key network)
  | some (.create binding) => (bindings.create { binding with uid := answers.uid }).getD bindings

/-- What other components may change of a binding: everything but its identity and its
specification. -/
structure BindingMetadata where
  generation : Int
  deletionTimestamp : Option Time
  finalizers : List String
  status : VPNWorkloadBindingStatus
  deriving DecidableEq

def VPNWorkloadBinding.withMetadata (binding : VPNWorkloadBinding) (metadata : BindingMetadata) :
    VPNWorkloadBinding :=
  { binding with
    generation := metadata.generation, deletionTimestamp := metadata.deletionTimestamp
    finalizers := metadata.finalizers, status := metadata.status }

theorem withMetadata_key (change : VPNWorkloadBinding → Option BindingMetadata)
    (binding next : VPNWorkloadBinding)
    (h : (change binding).map binding.withMetadata = some next) : next.key = binding.key := by
  obtain ⟨metadata, -, rfl⟩ := Option.map_eq_some_iff.mp h
  rfl

/-- A write to a route's specification leaves the status of the object; a new object has none. -/
def keepRouteStatus (routes : KeyedStore VPNEgressRoute.key) (next : VPNEgressRoute) :
    VPNEgressRoute :=
  match routes.find next.key with
  | some route => { next with status := if route.uid = next.uid then route.status else .empty }
  | none => { next with status := .empty }

theorem keepRouteStatus_key (routes : KeyedStore VPNEgressRoute.key) (route next : VPNEgressRoute)
    (h : some (keepRouteStatus routes route) = some next) : next.key = route.key := by
  cases h
  unfold keepRouteStatus
  split <;> rfl

theorem routeStatus_key (status : VPNEgressRouteStatus) (route : VPNEgressRoute) :
    ({ route with status } : VPNEgressRoute).key = route.key := rfl

/-- Which requests of one route reconcile fail, and its clock. -/
structure RouteRequest where
  gatewayFailure : Option String
  labelsFailure : Option String
  writeFailure : Option String
  now : Time

def Cluster.routeAnswers (c : Cluster) (request : RouteRequest) : RouteAnswers :=
  { gateway := fun k => readResult request.gatewayFailure (c.gateways.find k)
    labels := fun n => match request.labelsFailure with
      | some err => .error err
      | none => .ok (c.labels n)
    writeFailure := request.writeFailure
    now := request.now }

inductive ClusterEvent where
  /-- users and other controllers replace Pods, routes, gateways and Namespace labels -/
  | environment (next : Cluster)
  /-- other controllers and users change or remove bindings -/
  | changeBindings (change : VPNWorkloadBinding → Option BindingMetadata)
  | reconcileRoute (key : NamespaceName × ObjectName) (request : RouteRequest)
  | reconcilePod (key : NamespaceName × ObjectName) (answers : PodAnswers)

/-- One step of the cluster, with the outcome of a Pod reconcile. -/
def Cluster.next (libraries : ClusterLibraries) (c : Cluster) :
    ClusterEvent → Cluster × Option PodBindingOutcome
  | .environment next =>
    let routes := next.routes.filterMap (fun route => some (keepRouteStatus c.routes route))
      (keepRouteStatus_key c.routes)
    ({ next with routes, bindings := c.bindings }, none)
  | .changeBindings change =>
    let bindings := c.bindings.filterMap
      (fun binding => (change binding).map binding.withMetadata) (withMetadata_key change)
    ({ c with bindings }, none)
  | .reconcileRoute key request =>
    match c.routes.find key with
    | none => (c, none)
    | some route =>
      match VPNEgressRouteReconciler.reconcile libraries.selectors (c.routeAnswers request) route with
      | none => (c, none)
      | some status =>
        let routes := c.routes.update key (fun route => { route with status })
          (routeStatus_key status)
        ({ c with routes }, none)
  | .reconcilePod key answers =>
    let outcome := PodBindingReconciler.reconcile libraries.parsers libraries.shortHash
      (c.podAPI answers key)
    ({ c with bindings := applyBindingWrite answers c.bindings outcome.write }, some outcome)

/-- A run of the cluster from the empty one. -/
def clusterRun (libraries : ClusterLibraries) (events : List ClusterEvent) :
    List (Record Cluster ClusterEvent (Option PodBindingOutcome)) :=
  exec (Cluster.next libraries) .empty events

end Waycloak.Model
