import Mathlib
import Waycloak.Model.Bindings
import Waycloak.Model.Controller

/-!
# The endpoint resolver

`Resolver.Resolve` turns the Service a lease names into candidates: a Pod behind one of its
EndpointSlices that runs, is enrolled, and has exactly one binding on the gateway. What the
API answers is a `BackendView`. `netip.ParseAddr` and `netip.ParsePrefix` are parameters of
the resolver; the error a failed request carries is left out, since the lease controller
reads only the kind.

The two maps by Pod UID are lists with at most one candidate per UID, in the order of their
first insertion, and sorted at the end.
-/

set_option autoImplicit false

namespace Waycloak.Model

/-! ## What the resolver reads -/

structure ServicePort where
  name : String
  port : Int
  targetPort : IntOrString
  deriving DecidableEq

/-- The Service fields the resolver reads; `external` for the type `ExternalName`. -/
structure Service where
  name : ObjectName
  uid : ObjectUID
  external : Bool
  ports : List ServicePort
  deriving DecidableEq

structure OwnerReference where
  apiVersion : String
  kind : String
  name : ObjectName
  uid : ObjectUID
  controller : Option Bool
  deriving DecidableEq

structure ObjectReference where
  kind : String
  namespaceName : NamespaceName
  name : ObjectName
  uid : ObjectUID
  deriving DecidableEq

structure EndpointPort where
  name : Option String
  port : Option Int
  deriving DecidableEq

structure Endpoint where
  addresses : List String
  ready : Option Bool
  serving : Option Bool
  terminating : Option Bool
  targetRef : Option ObjectReference
  deriving DecidableEq

/-- The EndpointSlice fields the resolver reads; `ipv4` for the address type `IPv4`. -/
structure EndpointSlice where
  uid : ObjectUID
  ownerReferences : List OwnerReference
  ipv4 : Bool
  ports : List EndpointPort
  endpoints : List Endpoint
  deriving DecidableEq

/-- `client.IgnoreNotFound`: an API read that found nothing, or failed otherwise. -/
inductive ReadError where
  | notFound
  | other (text : String)
  deriving DecidableEq

/-- What the API answers during one resolution: the Service of the lease's backend reference, the
EndpointSlices with its name, the bindings of the namespace, and its Pods by name. -/
structure BackendView where
  service : Except ReadError Service
  slices : Except String (List EndpointSlice)
  bindings : Except String (List VPNWorkloadBinding)
  pod : ObjectName → Except ReadError Pod

/-- `netip.ParseAddr` and the address of `netip.ParsePrefix`. -/
structure Netip where
  parseAddr : String → Option Addr
  parsePrefixAddr : String → Option Addr

/-! ## Ports -/

/-- SOURCE: portforward/resolver.go:215-226 -/
def matchingServicePorts (service : Service) (ref : IntOrString) : Option (List ServicePort) :=
  let ports := service.ports.filter fun port =>
    match ref with
    | .string value => port.name == value
    | .int value => port.port == value
  if ports.length = 0 then none else some ports

/-- The first port of a slice that serves a Service port.
SOURCE: portforward/resolver.go:231-253 -/
def endpointPortFor (servicePort : ServicePort) (ports : List EndpointPort) : Option Int :=
  ports.findSome? fun endpointPort =>
    match endpointPort.port with
    | none => none
    | some port =>
      let expected := match servicePort.targetPort with
        | .int value => if value ≠ 0 then value else servicePort.port
        | .string _ => servicePort.port
      let named := match servicePort.targetPort with
        | .string _ => true
        | .int _ => false
      let unnamedTarget := match servicePort.targetPort with
        | .string value => value != "" && servicePort.name == ""
        | .int _ => false
      if servicePort.name ≠ "" ∧ endpointPort.name ≠ some servicePort.name then none
      else if unnamedTarget = true then none
      else if port ≠ expected ∧ named = false then none
      else if port < 1 ∨ 65535 < port then none
      else some port

/-- SOURCE: portforward/resolver.go:228-263 -/
def targetPortForSlice (slice : EndpointSlice) (servicePorts : List ServicePort) : Option UInt16 :=
  match servicePorts.filterMap fun servicePort => endpointPortFor servicePort slice.ports with
  | [] => none
  | first :: rest => if rest.all (fun target => target == first)
    then some (UInt16.ofNat first.toNat) else none

/-! ## Endpoints -/

/-- SOURCE: portforward/resolver.go:265-272 -/
def ownedByService (slice : EndpointSlice) (service : Service) : Bool :=
  slice.ownerReferences.any fun owner =>
    owner.apiVersion == "v1" && owner.kind == "Service" &&
      owner.name == service.name && owner.uid == service.uid &&
      owner.controller == some true

/-- SOURCE: portforward/resolver.go:274-278 -/
def eligibleEndpoint (endpoint : Endpoint) : Bool :=
  endpoint.ready == some true && endpoint.serving != some false &&
    endpoint.terminating != some true

/-- The binding is the Pod's one on the gateway's current generation, and the Pod is still enrolled
in its route.
SOURCE: portforward/resolver.go:179-189 -/
def bindingServes (gateway : VPNGateway) (pod : Pod) (binding : VPNWorkloadBinding) : Bool :=
  binding.spec.podRef.name == pod.name && binding.spec.podRef.uid == pod.uid &&
    binding.spec.gatewayRef.namespaceName == gateway.namespaceName &&
    binding.spec.gatewayRef.name == gateway.name &&
    binding.spec.gatewayRef.uid == gateway.uid &&
    binding.spec.network.gatewayGeneration == gateway.generation &&
    binding.uid != "" && binding.deletionTimestamp == none &&
    pod.routeLabel == binding.spec.routeRef.name

/-- SOURCE: portforward/resolver.go:209-211 -/
def bindingLive (binding : VPNWorkloadBinding) : Bool :=
  let status := binding.status
  currentTrue status.conditions .programmed status.observedGeneration binding.generation &&
    currentTrue status.conditions .ready status.observedGeneration binding.generation &&
    currentTrue status.conditions .nodeReady status.observedGeneration binding.generation

variable (netip : Netip) (view : BackendView)

variable (bindings : List VPNWorkloadBinding) (lease : PortForwardLease) (gateway : VPNGateway)
  (service : Service)

/-- The candidate an endpoint stands for, and whether it is eligible; nothing if it stands for none.
SOURCE: portforward/resolver.go:153-213 -/
def candidateFor (slice : EndpointSlice)
    (endpoint : Endpoint) (targetPort : UInt16) : Except String (Option (Candidate × Bool)) :=
  match endpoint.targetRef with
  | none => .ok none
  | some ref =>
    if ref.kind ≠ "Pod" ∨ ref.name = "" ∨ ref.uid = "" ∨
        (ref.namespaceName ≠ "" ∧ ref.namespaceName ≠ lease.namespaceName) then .ok none
    else match view.pod ref.name with
      | .error .notFound => .ok none
      | .error (.other err) => .error err
      | .ok pod =>
        if pod.uid ≠ ref.uid ∨ pod.phase ≠ .running ∨ pod.deletionTimestamp ≠ none then .ok none
        else match endpoint.addresses with
          | [text] =>
            match netip.parseAddr text with
            | none => .ok none
            | some applicationAddress =>
              if applicationAddress.is4 = false ∨ pod.podIP = "" ∨
                  pod.podIP ≠ applicationAddress.string then .ok none
              else match bindings.filter (bindingServes gateway pod) with
                | [binding] =>
                  match netip.parsePrefixAddr binding.spec.allocation.address with
                  | none => .ok none
                  | some overlayAddress =>
                    if overlayAddress.is4 = false then .ok none
                    else
                      .ok (some
                        ({ serviceUID := service.uid, endpointSliceUID := slice.uid
                           podName := pod.name, podUID := pod.uid, bindingName := binding.name
                           bindingUID := binding.uid, overlayAddress, applicationAddress
                           targetPort }, bindingLive binding))
                | _ => .ok none
          | _ => .ok none

/-! ## Resolve -/

/-- `map[PodUID]Candidate`: the candidate of the smallest EndpointSlice UID is kept.
SOURCE: portforward/resolver.go:127-130 -/
def keepCandidate (candidate : Candidate) : List Candidate → List Candidate
  | [] => [candidate]
  | current :: rest =>
    if current.podUID = candidate.podUID then
      (if candidate.endpointSliceUID < current.endpointSliceUID then candidate else current) :: rest
    else current :: keepCandidate candidate rest

/-- One endpoint of a slice.
SOURCE: portforward/resolver.go:111-131 -/
def resolveEndpoint (slice : EndpointSlice)
    (targetPort : UInt16) (found : Resolution) (endpoint : Endpoint) : Except String Resolution :=
  if eligibleEndpoint endpoint = false then .ok found
  else match candidateFor netip view bindings lease gateway service slice endpoint targetPort with
    | .error err => .error err
    | .ok none => .ok found
    | .ok (some (candidate, true)) =>
      .ok { found with candidates := keepCandidate candidate found.candidates }
    | .ok (some (candidate, false)) =>
      .ok { found with
        unavailableCandidates := keepCandidate candidate found.unavailableCandidates }

/-- One EndpointSlice.
SOURCE: portforward/resolver.go:102-132 -/
def resolveSlice (servicePorts : List ServicePort) (found : Resolution) (slice : EndpointSlice) :
    Except String Resolution :=
  if ownedByService slice service = false ∨ slice.ipv4 = false then .ok found
  else match targetPortForSlice slice servicePorts with
    | none => .ok found
    | some targetPort =>
      slice.endpoints.foldlM
        (resolveEndpoint netip view bindings lease gateway service slice targetPort) found

/-- `Resolver.Resolve`.
SOURCE: portforward/resolver.go:74-143 -/
def resolve : Except ResolutionKind Resolution :=
  if lease.spec.backendRef.group ≠ "" ∨ lease.spec.backendRef.kind ≠ "Service" then .error .invalid
  else match view.service with
    | .error .notFound => .error .notFound
    | .error (.other _) => .error .unavailable
    | .ok service =>
      if service.external = true ∨ service.uid = "" then .error .invalid
      else match matchingServicePorts service lease.spec.backendRef.port with
        | none => .error .notFound
        | some servicePorts =>
          match view.slices, view.bindings with
          | .ok slices, .ok bindings =>
            match slices.foldlM (resolveSlice netip view bindings lease gateway service servicePorts)
                { candidates := [], unavailableCandidates := [] } with
            | .error _ => .error .unavailable
            | .ok found =>
              .ok { candidates := found.candidates.insertionSort candidateLE
                    unavailableCandidates := found.unavailableCandidates.insertionSort candidateLE }
          | _, _ => .error .unavailable

end Waycloak.Model
