import Waycloak.Model.PodBindings

/-!
# What two controllers conclude from observations

`VPNWorkloadBindingReconciler` writes the conditions of a binding from the agent's observation of it
and from one read of its gateway. `NodeCapabilityReconciler` keeps the readiness label of a Node
while the report it stands for is fresh. Both say when they want to look again; controller-runtime
takes a `RequeueAfter` of zero as no wish at all.

`strconv.ParseInt` is a parameter of the model.
-/

set_option autoImplicit false

namespace Waycloak.Model

/-! ## The status of a binding -/

/-- SOURCE: controller/vpnworkloadbinding_controller.go:288-293 -/
structure BindingGatewayObservation where
  resolved : State
  ready : State
  deriving DecidableEq

/-- `observeGateway`, by what the direct reader answers for the referenced gateway.
SOURCE: controller/vpnworkloadbinding_controller.go:356-390 -/
def observeGateway (binding : VPNWorkloadBinding) :
    Except ReadError EgressGateway → BindingGatewayObservation
  | .error .notFound =>
    { resolved := .false .refNotFound "Exact gateway reference is unavailable"
      ready := .false .notReady "Referenced gateway data plane is unavailable" }
  | .error (.other _) =>
    { resolved := .unknown "Exact gateway reference observation is unavailable"
      ready := .unknown "Referenced gateway readiness observation is unavailable" }
  | .ok gateway =>
    if gateway.uid = "" ∨ gateway.uid ≠ binding.spec.gatewayRef.uid ∨
        gateway.deletionTimestamp.isSome then
      { resolved := .false .incompatibleRef "Exact gateway reference no longer matches"
        ready := .false .notReady "Referenced gateway data plane is unavailable" }
    else
      { resolved := .true .resolvedRefs "UID-bound references are resolved"
        ready :=
          if binding.spec.network.gatewayGeneration ≠ gateway.generation then
            .false .notReady
              "Binding network intent does not match the current gateway generation"
          else if gatewayEligible gateway = false then
            .false .notReady "Referenced gateway data plane is not ready"
          else .true .ready "Referenced gateway live data plane is ready" }

structure VPNWorkloadBindingReconciler where
  configuredTTL : Duration
  deriving DecidableEq

namespace VPNWorkloadBindingReconciler

variable (r : VPNWorkloadBindingReconciler) (binding : VPNWorkloadBinding)

/-- SOURCE: controller/vpnworkloadbinding_controller.go:36,539-544 -/
def observationTTL : Duration :=
  if 0 < r.configuredTTL then r.configuredTTL else 30 * second

/-- `exact`: the observation of the binding's own Pod, gateway and node, if the status has it.
SOURCE: controller/vpnworkloadbinding_controller.go:324-325 -/
def exactAgent : Option NodeAgentObservation :=
  binding.status.agent.filter fun agent =>
    binding.status.observedPodUID == binding.spec.podRef.uid &&
      binding.status.observedGatewayUID == binding.spec.gatewayRef.uid &&
      agent.nodeName == binding.spec.nodeName

/-- The age of an observation; one from the future has none.
SOURCE: controller/vpnworkloadbinding_controller.go:330-333 -/
def age (now observedAt : Time) : Duration :=
  if now - observedAt < 0 then 0 else now - observedAt

/-- The states of the conditions and the delay until the next look.
SOURCE: controller/vpnworkloadbinding_controller.go:316-349 -/
def desiredStates (observation : BindingGatewayObservation) (now : Time) : States × Duration :=
  let initial : States := fun type => match type with
    | .accepted => some (.true .accepted "Binding intent is accepted")
    | .resolvedRefs => some observation.resolved
    | .programmed => some (.false .pending "Binding programming is pending")
    | .ready => some (.unknown "Live protected-path observation is unavailable")
    | .nodeReady => some (.unknown "Node-agent observation is unavailable")
    | _ => none
  let applied := binding.status.appliedGeneration
  let (states, requeue) : States × Duration :=
    if 0 < applied ∧ applied ≠ binding.generation then
      (initial.set .programmed (.false .staleGeneration "Node applied generation is stale"), 0)
    else if applied = binding.generation then
      match exactAgent binding with
      | some agent =>
        let states :=
          initial.set .programmed (.true .programmed "Current binding generation is applied")
        if age now agent.observedAt < r.observationTTL then
          ((states.set .nodeReady (.true .nodeReady "Current node data plane is observed")).set
            .ready (.true .ready "Exact Pod protected path is live"),
            r.observationTTL - age now agent.observedAt)
        else
          ((states.set .nodeReady (.false .nodeNotReady "Node-agent observation is stale")).set
            .ready (.false .notReady "Protected-path observation is stale"), 0)
      | none =>
        (((initial.set .programmed
          (.false .applyFailed "Applied binding identity does not match desired state")).set
          .nodeReady (.false .nodeNotReady "Node-agent identity does not match binding")).set
          .ready (.false .notReady "Protected-path identity does not match binding"), 0)
    else (initial, 0)
  (if observation.ready.status ≠ .true then states.set .ready observation.ready else states,
    requeue)

/-- SOURCE: controller/vpnworkloadbinding_controller.go:313-354 -/
def desiredStatus
    (observation : BindingGatewayObservation) (now : Time) : VPNWorkloadBindingStatus × Duration :=
  let (states, requeue) := r.desiredStates binding observation now
  ({ binding.status with
      observedGeneration := binding.generation
      conditions := build binding.status.conditions binding.generation now
        [.accepted, .resolvedRefs, .programmed, .ready, .nodeReady] states },
    requeue)

end VPNWorkloadBindingReconciler

/-- A `Reconcile` of a binding that is not being deleted: what it reads, and when. -/
structure BindingPass where
  binding : VPNWorkloadBinding
  gateway : Except ReadError EgressGateway
  now : Time

/-- The status the pass leaves stored and its `RequeueAfter`. A status that is equal already is not
written again.
SOURCE: controller/vpnworkloadbinding_controller.go:295-311 -/
def VPNWorkloadBindingReconciler.reconcile (r : VPNWorkloadBindingReconciler) (pass : BindingPass) :
    VPNWorkloadBindingStatus × Duration :=
  r.desiredStatus pass.binding (observeGateway pass.binding pass.gateway) pass.now

/-! ## The readiness label of a Node -/

/-- The two labels of a Node that stand for a report; a missing label is the empty string. -/
structure CapabilityLabels where
  cniReady : String
  capabilityEpoch : String
  deriving DecidableEq

def defaultClockSkew : Duration := minute

/-- `time.Unix`, in nanoseconds since the zero time. -/
def unixTime (epoch : Int) : Time := (epoch + 62135596800) * second

section Capability

variable (parseInt : String → Option Int)

/-- SOURCE: scheduling/nodes.go:145-155 -/
def CapabilityLabels.stale (labels : CapabilityLabels) (now : Time) (freshness : Duration) : Bool :=
  if labels.cniReady ≠ "true" then false
  else match parseInt labels.capabilityEpoch with
    | none => true
    | some epoch =>
      decide (now + defaultClockSkew < unixTime epoch) || decide (freshness < now - unixTime epoch)

/-- `Publisher.withdraw`, where the calls of the API succeed.
SOURCE: scheduling/nodes.go:95-111 -/
def CapabilityLabels.withdraw (labels : CapabilityLabels) : CapabilityLabels :=
  if labels.cniReady = "" ∧ labels.capabilityEpoch = "" then labels else ⟨"", ""⟩

structure NodeCapabilityReconciler where
  configuredFreshness : Duration
  deriving DecidableEq

namespace NodeCapabilityReconciler

/-- SOURCE: scheduling/controller.go:50-55 -/
def freshness (r : NodeCapabilityReconciler) : Duration :=
  if 0 < r.configuredFreshness then r.configuredFreshness else 20 * second

/-- `Reconcile`, where the calls of the API succeed: the labels it leaves and its `RequeueAfter`.
SOURCE: scheduling/controller.go:22-37 -/
def reconcile (r : NodeCapabilityReconciler) (labels : CapabilityLabels) (now : Time) :
    CapabilityLabels × Duration :=
  if labels.cniReady ≠ "true" then (labels, 0)
  else if labels.stale parseInt now r.freshness then (labels.withdraw, 0)
  else (labels, r.freshness - (now - unixTime ((parseInt labels.capabilityEpoch).getD 0)))

/-- The runs from a first one at `now`, each exactly when the one before has asked for it, and what
each leaves; `n` bounds their number. -/
def askedRuns (r : NodeCapabilityReconciler) :
    ℕ → CapabilityLabels → Time → List (Time × CapabilityLabels)
  | 0, _, _ => []
  | n + 1, labels, now =>
    let (left, delay) := r.reconcile parseInt labels now
    (now, left) :: if 0 < delay then r.askedRuns n left (now + delay) else []

end NodeCapabilityReconciler

end Capability

end Waycloak.Model
