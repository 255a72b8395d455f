import Waycloak.Model.PodBindings

/-!
# CNI attachments and the configuration of a sandbox

The identities the CNI plugin and the node agent exchange, the durable attachment records
they share on a node, and the data-plane configuration the agent derives from a binding.
-/

set_option autoImplicit false

namespace Waycloak.Model

/-! ## Identities -/

/-- SOURCE: cni/types.go:20-27 -/
structure PodIdentity where
  namespaceName : NamespaceName
  name : ObjectName
  uid : ObjectUID
  containerID : String
  ifName : String
  netNS : String
  deriving DecidableEq

/-- SOURCE: cni/types.go:29-37 -/
def PodIdentity.validate (p : PodIdentity) : Except String Unit :=
  if p.namespaceName = "" ∨ p.name = "" ∨ p.uid = "" then
    .error "exact Pod namespace, name, and UID are required"
  else if p.containerID = "" ∨ p.ifName = "" ∨ p.netNS = "" then
    .error "exact sandbox container, interface, and network namespace identities are required"
  else .ok ()

/-- `cni.Resolution`. SOURCE: cni/types.go:39-43 -/
structure EnrollmentResolution where
  podUID : ObjectUID
  enrolled : Bool
  terminating : Bool
  deriving DecidableEq

/-- `cni.Binding`: the identity of a binding that CNI requests name.
SOURCE: cni/types.go:45-50 -/
structure BindingReference where
  uid : ObjectUID
  generation : Int
  podUID : ObjectUID
  gatewayUID : ObjectUID
  deriving DecidableEq

/-- SOURCE: cni/types.go:52-60 -/
def BindingReference.validate (b : BindingReference) (expectedPodUID : ObjectUID) :
    Except String Unit :=
  if b.uid = "" ∨ b.generation < 1 ∨ b.podUID = "" ∨ b.gatewayUID = "" then
    .error "binding UID, generation, Pod UID, and gateway UID are required"
  else if b.podUID ≠ expectedPodUID then
    .error "binding Pod UID does not match exact CNI Pod UID"
  else .ok ()

/-! ## Durable attachments -/

inductive Phase where
  | lockedDown | ready
  | other (text : String)
  deriving DecidableEq

/-- SOURCE: cni/types.go:84-93 -/
structure Attachment where
  network : String
  pod : PodIdentity
  namespaceIdentity : String
  phase : Phase
  bindingUID : ObjectUID
  bindingGeneration : Int
  gatewayUID : ObjectUID
  updatedAt : Time
  deriving DecidableEq

/-- SOURCE: cni/types.go:123-127 -/
structure AttachmentKey where
  network : String
  containerID : String
  ifName : String
  deriving DecidableEq

def Attachment.key (a : Attachment) : AttachmentKey :=
  { network := a.network, containerID := a.pod.containerID, ifName := a.pod.ifName }

/-- SOURCE: cni/types.go:99-121 -/
def Attachment.validate (a : Attachment) : Except String Unit :=
  if a.network = "" then .error "CNI network name is required"
  else do
    a.pod.validate
    if a.namespaceIdentity = "" then throw "network namespace identity is required"
    match a.phase with
    | .lockedDown => return ()
    | .ready =>
      if a.bindingUID = "" ∨ a.bindingGeneration < 1 ∨ a.gatewayUID = "" then
        throw "ready attachment requires exact current binding identity"
    | .other text => throw ("unknown attachment phase \"" ++ text ++ "\"")

/-- SOURCE: cni/types.go:143-146 -/
structure CNIRequest where
  network : String
  pod : PodIdentity
  deriving DecidableEq

def CNIRequest.key (r : CNIRequest) : AttachmentKey :=
  { network := r.network, containerID := r.pod.containerID, ifName := r.pod.ifName }

/-- SOURCE: cni/types.go:152-157 -/
def CNIRequest.validate (r : CNIRequest) : Except String Unit :=
  if r.network = "" then .error "CNI network name is required" else r.pod.validate

/-! ## The configuration of a sandbox -/

/-- `dataplane.ClusterTrafficMode`. SOURCE: dataplane/dataplane.go:15-21 -/
inductive TrafficMode where
  | preserve | gateway | deny
  deriving DecidableEq

/-- The fields of `dataplane.Config` that a binding determines.
SOURCE: dataplane/dataplane.go:23-39 -/
structure Config where
  podUID : ObjectUID
  allocationGeneration : Int
  gatewayGeneration : Int
  address : Prefix
  overlayCIDR : Prefix
  gatewayAddress : Addr
  gatewayEndpoint : AddrPort
  gatewayHealthPort : ℕ
  vni : ℕ
  mtu : Int
  clusterTrafficMode : TrafficMode
  clusterCIDRs : List Prefix
  deriving DecidableEq

/-- `Prefix.IsValid`. -/
def Prefix.isValid (p : Prefix) : Bool :=
  match p.addr with
  | .zero => false
  | .v4 _ => p.bits ≤ 32
  | .v6 _ _ => p.bits ≤ 128

/-- SOURCE: dataplane/dataplane.go:48-81 -/
def Config.validate (c : Config) : Except String Unit :=
  if c.podUID = "" then .error "pod UID is required"
  else if c.address.isValid = false ∨ c.overlayCIDR.isValid = false ∨
      c.address.bits ≠ c.overlayCIDR.bits ∨ c.overlayCIDR.contains c.address.addr = false then
    .error "allocated address must belong to the overlay CIDR"
  else if c.gatewayAddress.isValid = false ∨ c.overlayCIDR.contains c.gatewayAddress = false ∨
      c.gatewayAddress = c.address.addr then
    .error "gateway address must be a different address in the overlay CIDR"
  else if c.gatewayEndpoint.addr.isValid = false ∨ c.gatewayEndpoint.port = 0 then
    .error "gateway underlay endpoint is required"
  else if c.gatewayHealthPort = 0 then
    .error "observed gateway overlay health port is required"
  else if c.vni = 0 ∨ 16777215 < c.vni then .error "VNI must be between 1 and 16777215"
  else if c.mtu < 576 then .error "MTU must be at least 576"
  else if c.clusterCIDRs.any (fun p => !p.isValid) then .error "cluster CIDRs must be valid"
  else .ok ()

/-- `netip.PrefixFrom`: the zone is dropped. -/
def prefixFrom (addr : Addr) (bits : ℕ) : Prefix :=
  match addr with
  | .v6 value _ => ⟨.v6 value "", bits⟩
  | _ => ⟨addr, bits⟩

/-- The bypass CIDRs of a binding, parsed one after another.
SOURCE: nodeagent/service.go:715-721 -/
def parseBypassCIDRs (parsers : NetworkParsers) : List String → Except String (List Prefix)
  | [] => .ok []
  | text :: rest =>
    match parsers.parsePrefix text with
    | none => .error "parse projected bypass CIDR"
    | some p => (parseBypassCIDRs parsers rest).map (p :: ·)

/-- `ConfigFromBinding`.
SOURCE: nodeagent/service.go:683-723 -/
def configFromBinding (parsers : NetworkParsers) (binding : VPNWorkloadBinding) :
    Except String Config :=
  if binding.generation < 1 then .error "current binding is required"
  else match parsers.parsePrefix binding.spec.network.overlayCIDR with
    | none => .error "parse projected overlay CIDR"
    | some overlay =>
      match parsers.parsePrefix binding.spec.allocation.address with
      | none => .error "parse allocated address"
      | some allocated =>
        match parsers.parseAddr binding.spec.network.gatewayAddress with
        | none => .error "parse projected gateway address"
        | some gateway =>
          match parsers.parseAddrPort binding.spec.network.gatewayEndpoint with
          | none => .error "parse projected gateway endpoint"
          | some endpoint => do
            let clusterCIDRs ←
              parseBypassCIDRs parsers binding.spec.network.clusterTraffic.bypassCIDRs
            let config : Config :=
              { podUID := binding.spec.podRef.uid
                allocationGeneration := binding.generation
                gatewayGeneration := binding.spec.network.gatewayGeneration
                address := prefixFrom allocated.addr overlay.bits
                overlayCIDR := overlay
                gatewayAddress := gateway
                gatewayEndpoint := endpoint
                gatewayHealthPort := (binding.spec.network.gatewayHealthPort % 65536).toNat
                vni := (binding.spec.network.vni % 4294967296).toNat
                mtu := binding.spec.network.mtu
                clusterTrafficMode := match binding.spec.network.clusterTraffic.mode with
                  | .bypassCluster => .preserve
                  | .tunnelAll => .gateway
                clusterCIDRs }
            config.validate
            return config

end Waycloak.Model
