import Waycloak.Model.PortableState
import Waycloak.Model.Resolver

/-!
# Rolling the gateways to a release

A gateway runs in the Pod of a StatefulSet with the `OnDelete` strategy: a new template reaches it
only when its Pod is deleted. `ensureTargetGatewayPod` polls until the Pod of a gateway runs the
release, and deletes at most one Pod on the way. `VerifyNativeInstall` calls it for every gateway.

What the API server shows at a poll is the input of the poll (`RolloutPoll`), and a run is a list of
polls, so that a list that ends is the timeout. A run keeps the Pods it compared with the release
while it had not deleted one, and the Pods it asked to delete, each with the StatefulSet it was read
with.
-/

set_option autoImplicit false

namespace Waycloak.Model

/-! ## Releases -/

structure Artifact where
  repository : String
  digest : String
  deriving DecidableEq

/-- SOURCE: waycloakctl/plan.go:49-58 -/
structure ReleaseManifest where
  version : String
  manifestDigest : String
  images : List (String × Artifact)
  deriving DecidableEq

variable (target : ReleaseManifest)

/-- The reference of an image of the release. A name that is not in the map has the zero
artifact. -/
def ReleaseManifest.image (name : String) : String :=
  let artifact := (target.images.lookup name).getD ⟨"", ""⟩
  artifact.repository ++ "@" ++ artifact.digest

/-- SOURCE: waycloakctl/lifecycle.go:870-873 -/
def validExactImageReference (reference : String) : Bool :=
  match reference.toList.splitOn '@' with
  | [repository, digest] => !repository.isEmpty && validDigest (String.ofList digest)
  | _ => false

def ReleaseManifest.engine : String := target.image "gluetun"

def ReleaseManifest.agent (target : ReleaseManifest) : String :=
  target.image "waycloak-gateway-agent"

/-! ## What a poll reads -/

structure GatewayContainer where
  name : String
  image : String
  deriving DecidableEq

structure GatewayPod where
  name : ObjectName
  uid : ObjectUID
  ownerReferences : List OwnerReference
  deleting : Bool
  containers : List GatewayContainer
  annotations : List (String × String)
  labels : List (String × String)
  containerStatuses : List (String × Bool)
  deriving DecidableEq

structure GatewayStatefulSet where
  name : ObjectName
  uid : ObjectUID
  ownerReferences : List OwnerReference
  templateContainers : List GatewayContainer
  templateAnnotations : List (String × String)
  updateRevision : String
  deriving DecidableEq

/-- The gateway the rollout was started for. -/
structure GatewayIdentity where
  apiVersion : String
  kind : String
  namespaceName : NamespaceName
  name : ObjectName
  uid : ObjectUID
  deriving DecidableEq

variable (gateway : GatewayIdentity)

structure ReadyCondition where
  type : String
  status : String
  observedGeneration : Int
  deriving DecidableEq

structure ObservedGateway where
  uid : ObjectUID
  generation : Int
  conditions : List ReadyCondition
  deriving DecidableEq

inductive GatewayRead where
  | notFound
  | failed
  | found (current : ObservedGateway)
  deriving DecidableEq

inductive PodDeletion where
  | deleted
  | notFound
  | failed (err : String)
  deriving DecidableEq

structure RolloutPoll where
  statefulSets : Except String (List GatewayStatefulSet)
  pods : Except String (List GatewayPod)
  deletion : PodDeletion
  gateway : GatewayRead

/-! ## The checks of a poll -/

/-- SOURCE: waycloakctl/install_gateway_rollout.go:208-218 -/
def gatewayCurrentReady (current : ObservedGateway) : Bool :=
  current.conditions.any fun condition =>
    condition.type == "Ready" && condition.status == "True" &&
      condition.observedGeneration == current.generation

/-- The gateway as it is now; none is a read that is tried again.
SOURCE: waycloakctl/install_gateway_rollout.go:119-132 -/
def reobserveGateway : GatewayRead →
    Except String (Option ObservedGateway)
  | .notFound => .error "gateway was removed during exact release rollout"
  | .failed => .ok none
  | .found current =>
    if current.uid ≠ gateway.uid then .error "gateway UID changed during exact release rollout"
    else .ok (some current)

/-- The only item with an owner reference that counts, or an error if there are two such
references. -/
def exactOwned {α : Type} (ownerReferences : α → List OwnerReference)
    (owns : OwnerReference → Bool) (several : String) (items : Except String (List α)) :
    Except String (Option α) :=
  match items with
  | .error err => .error err
  | .ok items =>
    match items.flatMap fun item => ((ownerReferences item).filter owns).map fun _ => item with
    | [] => .ok none
    | [matched] => .ok (some matched)
    | _ => .error several

/-- SOURCE: waycloakctl/install_gateway_rollout.go:134-152 -/
def exactGatewayStatefulSet :
    Except String (List GatewayStatefulSet) → Except String (Option GatewayStatefulSet) :=
  exactOwned (·.ownerReferences)
    (fun owner => owner.apiVersion == gateway.apiVersion && owner.kind == gateway.kind &&
      owner.name == gateway.name && owner.uid == gateway.uid && owner.controller == some true)
    "multiple StatefulSets own the exact gateway UID"

/-- SOURCE: waycloakctl/install_gateway_rollout.go:154-172 -/
def exactStatefulSetPod (statefulSet : GatewayStatefulSet) :
    Except String (List GatewayPod) → Except String (Option GatewayPod) :=
  exactOwned (·.ownerReferences)
    (fun owner => owner.apiVersion == "apps/v1" && owner.kind == "StatefulSet" &&
      owner.name == statefulSet.name && owner.uid == statefulSet.uid &&
      owner.controller == some true)
    "multiple Pods belong to the exact gateway StatefulSet UID"

/-- A map filled from a list: the last entry of a name counts. -/
def lastEntry {α : Type} (entries : List (String × α)) (name : String) : Option α :=
  entries.reverse.lookup name

/-- SOURCE: waycloakctl/install_gateway_rollout.go:198-204 -/
def gatewayContainersMatch (containers : List GatewayContainer) (target : ReleaseManifest) : Bool :=
  let images := lastEntry (containers.map fun container => (container.name, container.image))
  (images "vpn-engine").getD "" == target.engine && (images "gateway-agent").getD "" == target.agent

/-- The two annotations of the release. -/
def releaseAnnotationsMatch (annotations : List (String × String)) (target : ReleaseManifest) :
    Bool :=
  (annotations.lookup "runtime.networking.waycloak.io/release-version").getD "" == target.version &&
    (annotations.lookup "runtime.networking.waycloak.io/release-manifest-digest").getD "" ==
      target.manifestDigest

/-- SOURCE: waycloakctl/install_gateway_rollout.go:192-196 -/
def gatewayTemplateIsTarget (statefulSet : GatewayStatefulSet) (target : ReleaseManifest) : Bool :=
  gatewayContainersMatch statefulSet.templateContainers target &&
    releaseAnnotationsMatch statefulSet.templateAnnotations target

def GatewayPod.revision (pod : GatewayPod) : String :=
  (pod.labels.lookup "controller-revision-hash").getD ""

def GatewayPod.ready (pod : GatewayPod) (container : String) : Bool :=
  (lastEntry pod.containerStatuses container).getD false

/-- SOURCE: waycloakctl/install_gateway_rollout.go:174-190 -/
def gatewayPodIsTarget (pod : GatewayPod) (statefulSet : GatewayStatefulSet)
    (target : ReleaseManifest) : Bool :=
  if pod.deleting || !gatewayContainersMatch pod.containers target ||
      !releaseAnnotationsMatch pod.annotations target then
    false
  else if statefulSet.updateRevision == "" || pod.revision != statefulSet.updateRevision then false
  else pod.ready "vpn-engine" && pod.ready "gateway-agent"

/-! ## Polling -/

structure RolloutState where
  oldUID : ObjectUID
  rolled : Bool
  deriving DecidableEq

inductive PollAnswer where
  | again
  | done
  | failed (err : String)
  deriving DecidableEq

/-- A Pod with the StatefulSet it was read with. -/
structure ReadPod where
  statefulSet : GatewayStatefulSet
  pod : GatewayPod
  deriving DecidableEq

structure PollEffect where
  state : RolloutState
  answer : PollAnswer
  compared : Option ReadPod
  deleted : Option ReadPod

/-- The end of a poll: the gateway has to be `Ready` as it is now. -/
def settleGateway (read : GatewayRead) (ready : Bool) : PollAnswer :=
  match reobserveGateway gateway read with
  | .error err => .failed err
  | .ok none => .again
  | .ok (some current) => if gatewayCurrentReady current = ready then .done else .again

/-- The part of a poll from the Pod on: a Pod that is not the target is deleted, once.
SOURCE: waycloakctl/install_gateway_rollout.go:83-111 -/
def pollPod (state : RolloutState) (poll : RolloutPoll) (read : ReadPod) : PollEffect :=
  let isTarget := gatewayPodIsTarget read.pod read.statefulSet target
  let compared := if state.rolled then none else some read
  if !state.rolled && !isTarget then
    match poll.deletion with
    | .failed err =>
      { state := { state with oldUID := read.pod.uid }
        answer := .failed ("delete exact stale gateway Pod UID " ++ read.pod.uid ++ ": " ++ err)
        compared, deleted := some read }
    | _ =>
      { state := { oldUID := read.pod.uid, rolled := true }, answer := .again
        compared, deleted := some read }
  else if state.rolled && read.pod.uid == state.oldUID then
    { state, answer := .again, compared, deleted := none }
  else if !isTarget then { state, answer := .again, compared, deleted := none }
  else { state, answer := settleGateway gateway poll.gateway true, compared, deleted := none }

/-- A gateway without a StatefulSet is done unless it claims to be `Ready`.
SOURCE: waycloakctl/install_gateway_rollout.go:58-112 -/
def pollGateway (state : RolloutState) (poll : RolloutPoll) : PollEffect :=
  let waiting (answer : PollAnswer) : PollEffect :=
    { state, answer, compared := none, deleted := none }
  match exactGatewayStatefulSet gateway poll.statefulSets with
  | .error err => waiting (.failed err)
  | .ok none => waiting (settleGateway gateway poll.gateway false)
  | .ok (some statefulSet) =>
    if !gatewayTemplateIsTarget statefulSet target then waiting .again
    else match exactStatefulSetPod statefulSet poll.pods with
      | .error err => waiting (.failed err)
      | .ok none => waiting .again
      | .ok (some pod) => pollPod target gateway state poll ⟨statefulSet, pod⟩

/-- The Pods a rollout compared with the release and those it asked to delete. -/
structure RolloutOutcome where
  compared : List ReadPod
  deleted : List ReadPod
  result : Except String Unit

/-- The loop of `wait.PollUntilContextTimeout`. -/
def pollUntilDone (target : ReleaseManifest) (gateway : GatewayIdentity) :
    RolloutState → List RolloutPoll → RolloutOutcome
  | _, [] => { compared := [], deleted := [], result := .error "context deadline exceeded" }
  | state, poll :: rest =>
    let effect := pollGateway target gateway state poll
    let ended (result : Except String Unit) : RolloutOutcome :=
      { compared := effect.compared.toList, deleted := effect.deleted.toList, result }
    match effect.answer with
    | .failed err => ended (.error err)
    | .done => ended (.ok ())
    | .again =>
      let after := pollUntilDone target gateway effect.state rest
      { compared := effect.compared.toList ++ after.compared
        deleted := effect.deleted.toList ++ after.deleted
        result := after.result }

/-- SOURCE: waycloakctl/install_gateway_rollout.go:49-117 -/
def ensureTargetGatewayPod (polls : List RolloutPoll) : RolloutOutcome :=
  if !validExactImageReference target.engine || !validExactImageReference target.agent then
    { compared := [], deleted := []
      result := .error "target gateway image identity is incomplete" }
  else
    let outcome := pollUntilDone target gateway { oldUID := "", rolled := false } polls
    { outcome with
      result := match outcome.result with
        | .ok () => .ok ()
        | .error err =>
          .error ("wait for exact target gateway Pod and current Ready observation: " ++ err) }

/-- The loop over the gateways, which the first failure ends. -/
def rollGateways (target : ReleaseManifest) (polls : GatewayIdentity → List RolloutPoll) :
    List GatewayIdentity → RolloutOutcome
  | [] => { compared := [], deleted := [], result := .ok () }
  | gateway :: rest =>
    let outcome := ensureTargetGatewayPod target gateway (polls gateway)
    match outcome.result with
    | .error err =>
      { outcome with
        result := .error ("roll gateway " ++ gateway.namespaceName ++ "/" ++ gateway.name ++
          " to exact release: " ++ err) }
    | .ok () =>
      let after := rollGateways target polls rest
      { compared := outcome.compared ++ after.compared
        deleted := outcome.deleted ++ after.deleted
        result := after.result }

/-- SOURCE: waycloakctl/install_gateway_rollout.go:25-47 -/
def ensureTargetGatewayPods (gateways : Except String (List GatewayIdentity))
    (polls : GatewayIdentity → List RolloutPoll) : RolloutOutcome :=
  match gateways with
  | .error err =>
    { compared := [], deleted := []
      result := .error ("inventory gateways for exact release rollout: " ++ err) }
  | .ok gateways =>
    rollGateways target polls
      (Computation.sortBy (fun gateway => gateway.namespaceName ++ "/" ++ gateway.name) gateways)

/-- What a verification observes: the installed release, layout and trust before the rollout, the
gateways and their polls, and the nodes and the controller after it. -/
structure VerifyObservation where
  installed : Except String Unit
  gateways : Except String (List GatewayIdentity)
  polls : GatewayIdentity → List RolloutPoll
  nodesReady : Except String Unit

/-- SOURCE: waycloakctl/native_install.go:390-424 -/
def verifyNativeInstall (observation : VerifyObservation) : RolloutOutcome :=
  match observation.installed with
  | .error err => { compared := [], deleted := [], result := .error err }
  | .ok () =>
    let outcome := ensureTargetGatewayPods target observation.gateways observation.polls
    match outcome.result with
    | .error _ => outcome
    | .ok () => { outcome with result := observation.nodesReady }

end Waycloak.Model
