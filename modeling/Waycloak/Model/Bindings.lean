import Waycloak.Model.Objects

/-!
# Pods and workload bindings

The `VPNWorkloadBinding` of the replacement API with the part of a Pod the components read:
the binding controllers write the first, the endpoint resolver, the relay and the node
agent read both. A missing label is the empty string.
-/

set_option autoImplicit false

namespace Waycloak.Model

structure LocalUIDReference where
  name : ObjectName
  uid : ObjectUID
  deriving DecidableEq

structure NamespacedUIDReference where
  namespaceName : NamespaceName
  name : ObjectName
  uid : ObjectUID
  deriving DecidableEq

/-! ## Pods -/

inductive PodPhase where
  | pending | running | succeeded | failed | unknown
  deriving DecidableEq

/-- The Pod fields that are read; `routeLabel` is the enrollment label. -/
structure Pod where
  namespaceName : NamespaceName
  name : ObjectName
  uid : ObjectUID
  routeLabel : String
  nodeName : ObjectName
  deletionTimestamp : Option Time
  phase : PodPhase
  podIP : String
  deriving DecidableEq

/-! ## VPNWorkloadBinding -/

/-- SOURCE: api/v1beta1/vpnworkloadbinding_types.go:8-17 -/
structure WorkloadAllocation where
  identity : String
  address : String
  deriving DecidableEq

inductive ClusterTrafficMode where
  | bypassCluster | tunnelAll
  deriving DecidableEq

/-- SOURCE: api/v1beta1/vpngateway_types.go:59-68 -/
structure ClusterTraffic where
  mode : ClusterTrafficMode
  bypassCIDRs : List String
  deriving DecidableEq

/-- SOURCE: api/v1beta1/vpnworkloadbinding_types.go:23-51 -/
structure WorkloadNetworkIntent where
  gatewayGeneration : Int
  overlayCIDR : String
  gatewayAddress : String
  gatewayEndpoint : String
  gatewayHealthPort : Int
  vni : Int
  mtu : Int
  clusterTraffic : ClusterTraffic
  deriving DecidableEq

/-- SOURCE: api/v1beta1/vpnworkloadbinding_types.go:53-70 -/
structure VPNWorkloadBindingSpec where
  podRef : LocalUIDReference
  routeRef : LocalUIDReference
  gatewayRef : NamespacedUIDReference
  nodeName : ObjectName
  allocation : WorkloadAllocation
  network : WorkloadNetworkIntent
  deriving DecidableEq

/-- SOURCE: api/v1beta1/vpnworkloadbinding_types.go:72-85 -/
structure NodeAgentObservation where
  nodeName : ObjectName
  nodeBootID : String
  instanceID : String
  observedAt : Time
  deriving DecidableEq

/-- SOURCE: api/v1beta1/vpnworkloadbinding_types.go:87-100 -/
structure VPNWorkloadBindingStatus where
  observedGeneration : Int
  appliedGeneration : Int
  observedPodUID : ObjectUID
  observedGatewayUID : ObjectUID
  agent : Option NodeAgentObservation
  conditions : List Condition
  deriving DecidableEq

/-- The status of a binding nothing has written yet. -/
def VPNWorkloadBindingStatus.empty : VPNWorkloadBindingStatus :=
  { observedGeneration := 0, appliedGeneration := 0, observedPodUID := "", observedGatewayUID := ""
    agent := none, conditions := [] }

structure VPNWorkloadBinding where
  namespaceName : NamespaceName
  name : ObjectName
  uid : ObjectUID
  generation : Int
  deletionTimestamp : Option Time
  finalizers : List String
  spec : VPNWorkloadBindingSpec
  status : VPNWorkloadBindingStatus
  deriving DecidableEq

end Waycloak.Model
