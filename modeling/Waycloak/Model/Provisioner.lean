import Waycloak.Model.Resolver

/-!
# The runtime objects of a gateway

`Provisioner.Reconcile` writes four objects for a gateway into its namespace: the Service and the
StatefulSet under `runtimeName`, the ConfigMap of its DNS server, and, for a gateway that requests
port forwarding, the Service of the port-forward runtime under a digest of its name. Without that
request the last one is deleted, if it is the gateway's.

`RuntimeStore` is the namespace. The answers of the API server to the calls of a reconcile are
inputs (`ObjectAnswers`), and nothing else writes meanwhile. The checks and reads before the first
write are one input (`inputs`); the DNS configuration and the Pod template are texts; what is
observed of the Pods afterwards is left out.

Names are ASCII, so that their bytes are their characters.
-/

set_option autoImplicit false

namespace Waycloak.Model

/-! ## Objects -/

inductive RuntimeKind where
  | service
  | configMap
  | statefulSet
  deriving DecidableEq

structure RuntimePort where
  name : String
  port : Nat
  deriving DecidableEq

structure RuntimeServiceSpec where
  clusterIP : String
  selector : List (String × String)
  ports : List RuntimePort
  deriving DecidableEq

/-- `kept` stands for the fields that a reconcile does not set. -/
structure RuntimeStatefulSetSpec where
  serviceName : String
  replicas : Nat
  updateStrategy : String
  selector : List (String × String)
  template : String
  kept : String
  deriving DecidableEq

/-- What a kind of object holds; a ConfigMap its data. -/
def RuntimeContent : RuntimeKind → Type
  | .service => RuntimeServiceSpec
  | .configMap => List (String × String)
  | .statefulSet => RuntimeStatefulSetSpec

instance : (kind : RuntimeKind) → DecidableEq (RuntimeContent kind)
  | .service => inferInstanceAs (DecidableEq RuntimeServiceSpec)
  | .configMap => inferInstanceAs (DecidableEq (List (String × String)))
  | .statefulSet => inferInstanceAs (DecidableEq RuntimeStatefulSetSpec)

structure RuntimeObject (kind : RuntimeKind) where
  uid : ObjectUID
  labels : List (String × String)
  ownerReferences : List OwnerReference
  content : RuntimeContent kind
  deriving DecidableEq

/-- The objects of a namespace by kind and name. -/
abbrev RuntimeStore := (kind : RuntimeKind) → ObjectName → Option (RuntimeObject kind)

namespace RuntimeStore

/-- The namespace with one object written or removed. -/
def put (store : RuntimeStore) (kind : RuntimeKind) (name : ObjectName)
    (value : Option (RuntimeObject kind)) : RuntimeStore :=
  Function.update store kind (Function.update (store kind) name value)

end RuntimeStore

/-! ## Names -/

/-- `shortHash`, and the hexadecimal form of the first eight bytes of SHA-256.
SOURCE: gatewayruntime/provisioner.go:495-498, portforward/transport.go:344-347 -/
structure RuntimeHashes where
  shortHash : String → String
  serviceDigest : String → String
  shortHash_length : ∀ value, (shortHash value).length = 32
  serviceDigest_length : ∀ value, (serviceDigest value).length = 16

def takeChars (count : Nat) (value : String) : String := String.ofList (value.toList.take count)

/-- SOURCE: gatewayruntime/provisioner.go:462-468 -/
def runtimeName (hashes : RuntimeHashes) (name : String) : String :=
  let value := "waycloak-gateway-" ++ name
  if value.length ≤ 63 then value
  else takeChars 50 value ++ "-" ++ takeChars 12 (hashes.shortHash name)

/-- SOURCE: portforward/transport.go:344-347 -/
def gatewayRuntimeServiceName (hashes : RuntimeHashes) (namespaceName name : String) : String :=
  "waycloak-gateway-" ++ hashes.serviceDigest (namespaceName ++ "/" ++ name)

def dnsConfigName (hashes : RuntimeHashes) (name : String) : String :=
  runtimeName hashes name ++ "-dns"

/-! ## Gateways -/

structure ProvisionedGateway where
  namespaceName : NamespaceName
  name : ObjectName
  uid : ObjectUID
  /-- It requests `PortForwardSingleActive`. -/
  portForward : Bool
  deriving DecidableEq

/-- SOURCE: gatewayruntime/provisioner.go:469-472 -/
def ProvisionedGateway.owner (gateway : ProvisionedGateway) : OwnerReference where
  apiVersion := "networking.waycloak.io/v1beta1"
  kind := "VPNGateway"
  name := gateway.name
  uid := gateway.uid
  controller := some true

/-- SOURCE: gatewayruntime/provisioner.go:474-481 -/
def ownedByGateway (references : List OwnerReference) (gateway : ProvisionedGateway) : Bool :=
  references.any fun reference =>
    reference.apiVersion == "networking.waycloak.io/v1beta1" && reference.kind == "VPNGateway" &&
      reference.name == gateway.name && reference.uid == gateway.uid &&
      reference.controller == some true

structure Provisioner where
  hashes : RuntimeHashes
  healthPort : Nat
  portForwardRuntimePort : Nat
  corefile : String
  template : String

namespace Provisioner

variable (provisioner : Provisioner) (gateway : ProvisionedGateway)

def labels : List (String × String) :=
  [("app.kubernetes.io/name", "waycloak-gateway"), ("app.kubernetes.io/component", "gateway"),
    ("app.kubernetes.io/instance", runtimeName provisioner.hashes gateway.name),
    ("runtime.networking.waycloak.io/gateway-uid", provisioner.hashes.shortHash gateway.uid)]

/-- An object that is asked for; the server gives it its UID. -/
def desired {kind : RuntimeKind} (provisioner : Provisioner) (gateway : ProvisionedGateway)
    (content : RuntimeContent kind) : RuntimeObject kind where
  uid := ""
  labels := provisioner.labels gateway
  ownerReferences := [gateway.owner]
  content := content

/-- SOURCE: gatewayruntime/provisioner.go:281-283 -/
def desiredService : RuntimeObject .service :=
  let spec : RuntimeServiceSpec :=
    { clusterIP := "None", selector := provisioner.labels gateway
      ports := [⟨"health", provisioner.healthPort⟩] }
  provisioner.desired gateway spec

/-- SOURCE: gatewayruntime/provisioner.go:332 -/
def desiredPortForwardService : RuntimeObject .service :=
  let spec : RuntimeServiceSpec :=
    { clusterIP := "", selector := provisioner.labels gateway
      ports := [⟨"runtime", provisioner.portForwardRuntimePort⟩] }
  provisioner.desired gateway spec

/-- SOURCE: gatewayruntime/provisioner.go:281-313 -/
def desiredCoreDNSConfig : RuntimeObject .configMap :=
  let data : List (String × String) := [("Corefile", provisioner.corefile)]
  provisioner.desired gateway data

/-- SOURCE: gatewayruntime/provisioner.go:336-400 -/
def desiredStatefulSet : RuntimeObject .statefulSet :=
  let spec : RuntimeStatefulSetSpec :=
    { serviceName := runtimeName provisioner.hashes gateway.name, replicas := 1
      updateStrategy := "OnDelete", selector := provisioner.labels gateway
      template := provisioner.template, kept := "" }
  provisioner.desired gateway spec

end Provisioner

/-! ## Reconciling -/

/-- The error of each call, if it fails, and the UID of a created object. -/
structure ObjectAnswers where
  get : Option String
  create : Option String
  patch : Option String
  delete : Option String
  createdUID : ObjectUID
  deriving DecidableEq

/-- The fields of the content that a reconcile sets in an object that exists. -/
def adoptContent : (kind : RuntimeKind) → RuntimeContent kind → RuntimeContent kind →
    RuntimeContent kind
  | .service, (desired : RuntimeServiceSpec), (existing : RuntimeServiceSpec) =>
    ({ existing with selector := desired.selector, ports := desired.ports } : RuntimeServiceSpec)
  | .configMap, desired, _ => desired
  | .statefulSet, (desired : RuntimeStatefulSetSpec), (existing : RuntimeStatefulSetSpec) =>
    ({ desired with kept := existing.kept } : RuntimeStatefulSetSpec)

/-- SOURCE: gatewayruntime/provisioner.go:402-440 -/
def reconcileObject {kind : RuntimeKind} (answers : ObjectAnswers) (name : ObjectName)
    (desired : RuntimeObject kind) (store : RuntimeStore) : Except String Unit × RuntimeStore :=
  match answers.get with
  | some err => (.error err, store)
  | none =>
    match store kind name with
    | none =>
      match answers.create with
      | some err => (.error err, store)
      | none => (.ok (), store.put kind name (some { desired with uid := answers.createdUID }))
    | some existing =>
      let updated : RuntimeObject kind :=
        { existing with
          labels := desired.labels
          ownerReferences := desired.ownerReferences
          content := adoptContent kind desired.content existing.content }
      if existing = updated then (.ok (), store)
      else
        match answers.patch with
        | some err => (.error err, store)
        | none => (.ok (), store.put kind name (some updated))

namespace Provisioner

/-- SOURCE: gatewayruntime/provisioner.go:315-334 -/
def reconcilePortForwardService (provisioner : Provisioner) (answers : ObjectAnswers)
    (gateway : ProvisionedGateway) (store : RuntimeStore) : Except String Unit × RuntimeStore :=
  let name := gatewayRuntimeServiceName provisioner.hashes gateway.namespaceName gateway.name
  if gateway.portForward then
    reconcileObject answers name (provisioner.desiredPortForwardService gateway) store
  else
    match answers.get with
    | some err => (.error err, store)
    | none =>
      match store .service name with
      | none => (.ok (), store)
      | some current =>
        if ownedByGateway current.ownerReferences gateway = false then
          (.error "gateway runtime Service name is owned by another object", store)
        else
          match answers.delete with
          | some err => (.error err, store)
          | none => (.ok (), store.put .service name none)

end Provisioner

/-- The answers to the calls of a reconcile, for each of the four objects. -/
structure ProvisionAnswers where
  inputs : Except String Unit
  service : ObjectAnswers
  portForwardService : ObjectAnswers
  dnsConfig : ObjectAnswers
  statefulSet : ObjectAnswers

/-- A step after one that succeeded. -/
def andThen (before : Except String Unit × RuntimeStore)
    (next : RuntimeStore → Except String Unit × RuntimeStore) : Except String Unit × RuntimeStore :=
  match before.1 with
  | .error err => (.error err, before.2)
  | .ok () => next before.2

/-- SOURCE: gatewayruntime/provisioner.go:126-178 -/
def Provisioner.reconcile (provisioner : Provisioner) (answers : ProvisionAnswers)
    (gateway : ProvisionedGateway) (store : RuntimeStore) : Except String Unit × RuntimeStore :=
  match answers.inputs with
  | .error err => (.error err, store)
  | .ok () =>
    let name := runtimeName provisioner.hashes gateway.name
    let services := andThen
      (reconcileObject answers.service name (provisioner.desiredService gateway) store)
      (provisioner.reconcilePortForwardService answers.portForwardService gateway)
    let configured := andThen services
      (reconcileObject answers.dnsConfig (dnsConfigName provisioner.hashes gateway.name)
        (provisioner.desiredCoreDNSConfig gateway))
    andThen configured
      (reconcileObject answers.statefulSet name (provisioner.desiredStatefulSet gateway))

end Waycloak.Model
