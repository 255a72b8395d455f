import Waycloak.Model.Deployment

/-!
# Delivery to workload adapters

`DeliveryManager` is the delivery backend of a gateway runtime: it delivers a lease to the
adapter its intent names, asks that adapter to withdraw it, and treats a lease without an
adapter as delivered. What it asks of the adapters is listed as `AdapterCall`s; what they
answer is free.

`Deployment.nextDelivering` is a step of the deployment in which the runtime that serves the
lease delivers through such a manager.
-/

set_option autoImplicit false

namespace Waycloak.Model

/-- SOURCE: portforward/delivery.go:15 -/
def adapterAPIVersion : String := "networking.waycloak.io/adapter/v1"

/-- SOURCE: portforward/delivery.go:20-33 -/
structure AdapterLeaseRecord where
  apiVersion : String
  leaseNamespace : NamespaceName
  leaseUID : ObjectUID
  handoffGeneration : Int
  podUID : ObjectUID
  publicAddress : Addr
  publicPort : UInt16
  expiresAt : Time
  targetPort : UInt16
  applicationAddress : Addr
  backendPort : UInt16
  protocols : List TransportProtocol
  deriving DecidableEq

/-- SOURCE: portforward/delivery.go:35-43 -/
structure AdapterAcknowledgement where
  apiVersion : String
  leaseNamespace : NamespaceName
  leaseUID : ObjectUID
  handoffGeneration : Int
  podUID : ObjectUID
  observedAt : Time
  expiresAt : Time
  deriving DecidableEq

/-- SOURCE: portforward/delivery.go:47-54 -/
structure AdapterWithdrawalIntent where
  apiVersion : String
  leaseNamespace : NamespaceName
  leaseUID : ObjectUID
  handoffGeneration : Int
  podUID : ObjectUID
  applicationEndpointRetired : Bool
  deriving DecidableEq

/-- The answers of the adapters, by adapter name.
SOURCE: portforward/delivery.go:56-59 -/
structure AdapterProtocol where
  deliver : ObjectName → AdapterLeaseRecord → Except String AdapterAcknowledgement
  withdraw : ObjectName → AdapterWithdrawalIntent → Bool × Option String

/-- A call to an adapter. -/
inductive AdapterCall where
  | deliver (name : ObjectName) (record : AdapterLeaseRecord)
  | withdraw (name : ObjectName) (request : AdapterWithdrawalIntent) (answer : Bool × Option String)
  deriving DecidableEq

/-- The manager, with its three readings of the clock.
SOURCE: portforward/delivery.go:64-67 -/
structure DeliveryManager where
  adapter : Option AdapterProtocol
  checkedAt : Time
  notBeforeAt : Time
  notAfterAt : Time

/-- SOURCE: portforward/delivery.go:105-111 -/
def validDeliveryInput (intent : Intent) (provider : ProviderObservation) (now : Time) : Option String :=
  if intent.leaseNamespace = "" ∨ intent.leaseUID = "" ∨ intent.handoffGeneration < 1 ∨
      intent.podUID = "" ∨ intent.backendPort = 0 ∨ intent.targetPort = 0 ∨
      intent.applicationAddress.is4 = false ∨ provider.publicAddress.isValid = false ∨
      provider.publicAddress.isGlobalUnicast = false ∨ provider.publicPort = 0 ∨
      ¬ now < provider.expiresAt then some "lease delivery input is invalid"
  else none

/-- SOURCE: portforward/delivery.go:79-82 -/
def adapterLeaseRecord (intent : Intent) (provider : ProviderObservation) : AdapterLeaseRecord :=
  { apiVersion := adapterAPIVersion, leaseNamespace := intent.leaseNamespace
    leaseUID := intent.leaseUID, handoffGeneration := intent.handoffGeneration
    podUID := intent.podUID, publicAddress := provider.publicAddress
    publicPort := provider.publicPort, expiresAt := provider.expiresAt
    targetPort := intent.targetPort, applicationAddress := intent.applicationAddress
    backendPort := intent.backendPort, protocols := intent.protocols }

/-- SOURCE: portforward/delivery.go:98-99 -/
def adapterWithdrawal (intent : WithdrawalIntent) : AdapterWithdrawalIntent :=
  { apiVersion := adapterAPIVersion, leaseNamespace := intent.leaseNamespace
    leaseUID := intent.leaseUID, handoffGeneration := intent.handoffGeneration
    podUID := intent.podUID, applicationEndpointRetired := intent.applicationEndpointRetired }

namespace DeliveryManager

def protocolUnavailable : String := "application adapter protocol is unavailable"

variable (d : DeliveryManager)

/-- SOURCE: portforward/delivery.go:87-89 -/
def acknowledges (record : AdapterLeaseRecord) (acknowledgement : AdapterAcknowledgement) : Bool :=
  acknowledgement.apiVersion == adapterAPIVersion &&
    acknowledgement.leaseNamespace == record.leaseNamespace &&
    acknowledgement.leaseUID == record.leaseUID &&
    acknowledgement.handoffGeneration == record.handoffGeneration &&
    acknowledgement.podUID == record.podUID && acknowledgement.observedAt != 0 &&
    decide (d.notBeforeAt - defaultObservationFreshness ≤ acknowledgement.observedAt) &&
    decide (acknowledgement.observedAt ≤ d.notAfterAt + minute) &&
    acknowledgement.expiresAt == record.expiresAt

/-- SOURCE: portforward/delivery.go:69-91 -/
def reconcile (intent : Intent) (provider : ProviderObservation) :
    List AdapterCall × (Bool × Bool × Option String) :=
  match validDeliveryInput intent provider d.checkedAt with
  | some err => ([], (false, false, some err))
  | none =>
    if intent.adapterName = "" then ([], (true, true, none))
    else match d.adapter with
      | none => ([], (false, false, some protocolUnavailable))
      | some adapter =>
        let record := adapterLeaseRecord intent provider
        ([.deliver intent.adapterName record],
          match adapter.deliver intent.adapterName record with
          | .error err => (false, false, some err)
          | .ok acknowledgement => (true, d.acknowledges record acknowledgement, none))

/-- SOURCE: portforward/delivery.go:93-103 -/
def withdraw (intent : WithdrawalIntent) : List AdapterCall × (Bool × Option String) :=
  if intent.adapterName = "" then ([], (true, none))
  else match d.adapter with
    | none => ([], (false, some protocolUnavailable))
    | some adapter =>
      let answer := adapter.withdraw intent.adapterName (adapterWithdrawal intent)
      ([.withdraw intent.adapterName (adapterWithdrawal intent) answer], answer)

/-- The manager as the delivery backend of a runtime. -/
def backend : DeliveryBackend :=
  { reconcile := fun intent provider => (d.reconcile intent provider).2
    withdraw := fun intent => (d.withdraw intent).2 }

/-- The adapter calls behind an effect of the runtime. -/
def calls : Effect → List AdapterCall
  | .deliver intent mapping _ => (d.reconcile intent mapping).1
  | .withdrawDelivery intent _ => (d.withdraw intent).1
  | _ => []

end DeliveryManager

/-! ## Delivering deployments -/

/-- The request of the lease is served with this manager as its delivery backend. -/
def Transport.through (d : DeliveryManager) : Transport → Transport
  | .lost err => .lost err
  | .unanswered b err => .unanswered { b with delivery := some d.backend } err
  | .answered b => .answered { b with delivery := some d.backend }

def DeploymentInput.through (d : DeliveryManager) : DeploymentInput → DeploymentInput
  | .reconcile step => .reconcile { step with transport := step.transport.through d }
  | .edit change => .edit change
  | .request gatewayUID call => .request gatewayUID call

structure DeliveryInput where
  input : DeploymentInput
  delivery : DeliveryManager

structure DeliveryOutput where
  output : DeploymentOutput
  calls : List AdapterCall

/-- One step of a deployment, with the adapter calls made for the lease. -/
def Deployment.nextDelivering (leaseUID : ObjectUID) (s : Deployment) (i : DeliveryInput) :
    Deployment × DeliveryOutput :=
  let r := s.next leaseUID (i.input.through i.delivery)
  (r.1,
    { output := r.2
      calls := match r.2.reply with
        | some reply => reply.effects.flatMap i.delivery.calls
        | none => [] })

end Waycloak.Model
