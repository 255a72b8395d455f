import Waycloak.Model.Deployment

/-!
# Requests that outlive the reconcile that sent them

`Messaging` is a lease, its controller and the gateway runtimes with requests as messages.
The controller runs one reconcile at a time: it reads the lease and sends its request, waits
for the answer or gives it up, and writes. A request that was given up stays in flight. The
runtimes process the messages in flight in any order, each at most once and possibly never.

Messages are numbered in the order in which they are sent. `served` lists those that have
been processed; no step reads it.
-/

set_option autoImplicit false

namespace Waycloak.Model

/-- A request to a gateway runtime, as it travels. -/
inductive Request where
  | reconcile (gatewayUID : ObjectUID) (intent : Intent)
  | withdraw (gatewayUID : ObjectUID) (intent : WithdrawalIntent)

namespace Request

def gatewayUID : Request → ObjectUID
  | .reconcile gatewayUID _ => gatewayUID
  | .withdraw gatewayUID _ => gatewayUID

/-- The call that a request is at its runtime. -/
def call (b : Backends) : Request → Call
  | .reconcile gatewayUID intent => .reconcile gatewayUID intent b
  | .withdraw gatewayUID intent => .withdraw gatewayUID intent b

end Request

def Sent.request : Sent → Request
  | .reconcile gateway intent _ => .reconcile gateway.uid intent
  | .withdraw gateway intent _ => .withdraw gateway.uid intent

structure Message where
  id : ℕ
  request : Request

/-- A runtime client whose one call has this outcome. -/
def answeringRuntime (answer : Observation × Option String) : Runtime :=
  { reconcile := fun _ _ => answer
    withdraw := fun _ _ => answer
    quarantine := fun _ _ _ => none }

/-- A reconcile that has read the lease and sent its request, if it has one. -/
structure Waiting where
  read : StoredLease
  reconciler : PortForwardLeaseReconciler
  api : ApiView
  awaits : Option ℕ
  answer : Option (Observation × Option String)

namespace Waiting

/-- The request of a reconcile. It is made before the answer is known, so any answer will do. -/
def request (reconciler : PortForwardLeaseReconciler) (api : ApiView) (lease : PortForwardLease) :
    Option Request :=
  (reconciler.reconcile (some (answeringRuntime (Observation.empty, none))) api lease).sent.map
    Sent.request

/-- The outcome the reconcile goes on with: the error with which it gives up, or the answer, once
there is one. A reconcile without a request has nothing to wait for.
SOURCE: portforward/transport.go:137-141 -/
def outcome (w : Waiting) (abandoned : Option String) : Option (Observation × Option String) :=
  match abandoned, w.awaits with
  | some err, _ => some (Observation.empty, some err)
  | none, some _ => w.answer
  | none, none => some (Observation.empty, none)

/-- The reconcile with the outcome of its request. -/
def resume (w : Waiting) (answer : Observation × Option String) : OpenReconcile :=
  { read := w.read
    input :=
      { reconciler := w.reconciler, runtime := some (answeringRuntime answer), api := w.api } }

/-- The answer to the message arrives. -/
def hear (w : Waiting) (id : ℕ) (answer : Observation × Option String) : Waiting :=
  if w.awaits = some id then { w with answer := some answer } else w

end Waiting

structure Messaging where
  store : Option StoredLease
  gateways : Gateways
  waiting : Option Waiting
  inflight : List Message
  served : List Message
  nextId : ℕ

inductive MessagingInput where
  /-- a reconcile reads the lease and sends its request -/
  | start (reconciler : PortForwardLeaseReconciler) (api : ApiView)
  /-- a runtime processes a message in flight -/
  | process (index : ℕ) (b : Backends)
  /-- the reconcile goes on and ends; its write may not take effect -/
  | finish (abandoned : Option String) (written : Bool)
  /-- another writer changes the lease -/
  | edit (edit : LeaseEdit)
  /-- the request of another lease is served -/
  | request (gatewayUID : ObjectUID) (call : Call)

namespace Messaging

/-- The system with this lease, before any request. -/
def start (stored : StoredLease) : Messaging :=
  { store := some stored, gateways := fun _ => GatewayRuntimeManager.start, waiting := none
    inflight := [], served := [], nextId := 0 }

/-- A reconcile of `stored` begins. -/
def begin (s : Messaging) (stored : StoredLease) (reconciler : PortForwardLeaseReconciler)
    (api : ApiView) : Messaging :=
  let w : Waiting := { read := stored, reconciler, api, awaits := none, answer := none }
  match Waiting.request reconciler api stored.lease with
  | none => { s with waiting := some w }
  | some request =>
    { s with
      waiting := some { w with awaits := some s.nextId }
      inflight := s.inflight ++ [{ id := s.nextId, request }]
      nextId := s.nextId + 1 }

/-- The message at `index` is processed. -/
def process (s : Messaging) (index : ℕ) (message : Message) (b : Backends) : Messaging :=
  let call := message.request.call b
  let gatewayUID := message.request.gatewayUID
  { s with
    gateways := (Deployment.serve s.gateways gatewayUID call).1
    waiting := s.waiting.map fun w =>
      w.hear message.id (clientAnswer (call.result (s.gateways gatewayUID)))
    inflight := s.inflight.eraseIdx index
    served := message :: s.served }

/-- One step of the system of the lease `leaseUID`, with the message it processed and the reply. -/
def next (leaseUID : ObjectUID) (s : Messaging) : MessagingInput → Messaging × Option (Message × Reply)
  | .start reconciler api =>
    match s.waiting, s.store with
    | none, some stored => (s.begin stored reconciler api, none)
    | _, _ => (s, none)
  | .process index b =>
    match s.inflight[index]? with
    | none => (s, none)
    | some message =>
      (s.process index message b,
        some (message, (Deployment.serve s.gateways message.request.gatewayUID
          (message.request.call b)).2))
  | .finish abandoned written =>
    match s.waiting with
    | none => (s, none)
    | some w =>
      match w.outcome abandoned with
      | none => (s, none)
      | some answer =>
        ({ s with
            waiting := none
            store := s.store.bind fun stored =>
              if written then stored.write (w.resume answer) else some stored }, none)
  | .edit edit => ({ s with store := s.store.bind (·.edit edit) }, none)
  | .request gatewayUID call =>
    if call.leaseUID = leaseUID then (s, none)
    else ({ s with gateways := (Deployment.serve s.gateways gatewayUID call).1 }, none)

end Messaging

end Waycloak.Model
