import Waycloak.Model.LeaseStore
import Waycloak.Model.Manager
import Mathlib.Logic.Function.Basic

/-!
# One lease, its controller and the gateway runtimes

`Deployment` joins the stored lease with the runtime manager of every gateway. Its
reconciles come one after another, as the controller's work queue runs them; each makes at
most one request, which is served at once or not at all. A request can fail before it takes
effect, after it, or not; so can the write at the end. What the API shows, who else edits
the lease and what the backends of a runtime answer is free in every step.

A request that is served after the controller gave it up is the subject of
`Waycloak.Model.Messages`.
-/

set_option autoImplicit false

namespace Waycloak.Model

/-! ## Requests and answers -/

/-- How a request to a gateway runtime fares. -/
inductive Transport where
  /-- it does not reach the runtime -/
  | lost (err : String)
  /-- the runtime serves it and the answer does not come back -/
  | unanswered (b : Backends) (err : String)
  | answered (b : Backends)

/-- What the client makes of a served call: an error hides the observation. The error's kind and
status code are left out, nothing reads them.
SOURCE: portforward/transport.go:144-158, 203-216 -/
def clientAnswer (result : CallResult) : Observation × Option String :=
  match result.err with
  | none => (result.observation, none)
  | some _ => (Observation.empty, some "gateway runtime request failed")

namespace Transport

/-- What the controller sees of a call that `serve` carries out. -/
def answer (t : Transport) (serve : Backends → CallResult) : Observation × Option String :=
  match t with
  | .lost err => (Observation.empty, some err)
  | .unanswered _ err => (Observation.empty, some err)
  | .answered b => clientAnswer (serve b)

/-- What the runtime meets, if it serves the request. -/
def backends : Transport → Option Backends
  | .lost _ => none
  | .unanswered b _ => some b
  | .answered b => some b

end Transport

/-- The runtimes of all gateways, by gateway UID. -/
abbrev Gateways := ObjectUID → GatewayRuntimeManager

/-- `RuntimeClient`: a request reaches the runtime of exactly the gateway it names. `Quarantine` is
not delegated to the runtime.
SOURCE: portforward/transport.go:104-122 -/
def runtimeClient (gateways : Gateways) (t : Transport) : Runtime :=
  { reconcile := fun gateway intent =>
      t.answer fun b => (gateways gateway.uid).reconcile b gateway.uid intent
    withdraw := fun gateway intent =>
      t.answer fun b => (gateways gateway.uid).withdraw b gateway.uid intent
    quarantine := fun _ _ _ => none }

namespace Sent

def gatewayUID : Sent → ObjectUID
  | .reconcile gateway _ _ => gateway.uid
  | .withdraw gateway _ _ => gateway.uid

/-- The call that a request is at its runtime. -/
def call (b : Backends) : Sent → Call
  | .reconcile gateway intent _ => .reconcile gateway.uid intent b
  | .withdraw gateway intent _ => .withdraw gateway.uid intent b

end Sent

/-! ## The system -/

structure Deployment where
  store : Option StoredLease
  gateways : Gateways

/-- Everything a reconcile of the deployment meets. `written` says whether its write takes effect:
it does not when the API server fails, or rejects it because the lease has changed. -/
structure ReconcileStep where
  reconciler : PortForwardLeaseReconciler
  api : ApiView
  transport : Transport
  written : Bool

inductive DeploymentInput where
  | reconcile (step : ReconcileStep)
  /-- another writer changes the lease -/
  | edit (edit : LeaseEdit)
  /-- the request of another lease is served -/
  | request (gatewayUID : ObjectUID) (call : Call)

/-- The request of a step, and the reply of the runtime that served it. -/
structure DeploymentOutput where
  sent : Option Sent
  reply : Option Reply

def DeploymentOutput.quiet : DeploymentOutput := { sent := none, reply := none }

namespace Deployment

/-- The runtime of one gateway serves a call. -/
def serve (gateways : Gateways) (gatewayUID : ObjectUID) (c : Call) : Gateways × Reply :=
  let served := (gateways gatewayUID).serve c
  (Function.update gateways gatewayUID served.1, served.2)

/-- The reconcile that a step runs. -/
def reconcileOf (s : Deployment) (stored : StoredLease) (step : ReconcileStep) : OpenReconcile :=
  { read := stored
    input :=
      { reconciler := step.reconciler, runtime := some (runtimeClient s.gateways step.transport)
        api := step.api } }

/-- The effect of the request of a reconcile on the runtimes. -/
def handle (gateways : Gateways) (t : Transport) (sent : Option Sent) : Gateways × DeploymentOutput :=
  match sent, t.backends with
  | some sent, some b =>
    let served := serve gateways sent.gatewayUID (sent.call b)
    (served.1, { sent := some sent, reply := some served.2 })
  | sent, _ => (gateways, { sent, reply := none })

/-- One step of the system of the lease `leaseUID`. -/
def next (leaseUID : ObjectUID) (s : Deployment) : DeploymentInput → Deployment × DeploymentOutput
  | .reconcile step =>
    match s.store with
    | none => (s, .quiet)
    | some stored =>
      let o := s.reconcileOf stored step
      let handled := handle s.gateways step.transport o.result.sent
      ({ store := if step.written then stored.write o else some stored
         gateways := handled.1 }, handled.2)
  | .edit edit =>
    match s.store with
    | none => (s, .quiet)
    | some stored => ({ s with store := stored.edit edit }, .quiet)
  | .request gatewayUID call =>
    if call.leaseUID = leaseUID then (s, .quiet)
    else ({ s with gateways := (serve s.gateways gatewayUID call).1 }, .quiet)

end Deployment

end Waycloak.Model
