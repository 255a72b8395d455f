import Waycloak.Model.NodeAgent

/-!
# The CNI plugin, and a node with its agent and plugin

`Plugin` runs as one process for each request of the container runtime. `Add`, `Check` and
`Delete` of one Pod UID exclude each other by a file lock; the node agent and `GC` do not take
it, nor does a `Delete` that finds no record before it would. `Add` is cut where it waits for the
agent, so that everything else can happen in between:

* `addBegin` up to the first saved record (or an early return);
* `addBind` waits for the Pod's binding and saves its identity;
* `addPrepare` asks the agent for the protected path;
* `addFinish` records the attachment as ready and returns.

`Delete`, `GC` and `ReconcileAll` are cut where they look and at every action: they list or load
records first, and by the time they act on what they saw it may have changed.

A request to the agent may not reach it, or its answer may be lost.
-/

set_option autoImplicit false

namespace Waycloak.Model

open Waycloak.Computation

/-! ## Requests to the agent -/

/-- What becomes of a request to the agent. -/
inductive Delivery where
  | undelivered | unanswered | answered
  deriving DecidableEq

/-- The actions a request causes, and the error its caller sees. -/
def Script.delivered (script : Script) : Delivery → Script
  | .undelivered => .fail "local agent is unavailable"
  | .unanswered => { script with error := some "local agent request timed out" }
  | .answered => script

/-! ## The plugin -/

/-- `Store.Save` accepts a record only if it is valid.
SOURCE: cni/store.go:41-78 -/
def Attachment.save (a : Attachment) (failure : Option String) : Except String Unit :=
  match a.validate with
  | .error err => .error err
  | .ok () => match failure with
    | some err => .error err
    | none => .ok ()

namespace Plugin

/-- SOURCE: cni/plugin.go:243-251 -/
def sameAttachment (a : Attachment) (request : CNIRequest) (namespaceIdentity : String) :
    Except String Unit :=
  if a.network ≠ request.network ∨ a.pod ≠ request.pod then
    .error "stored attachment does not match exact CNI attachment identity"
  else if a.namespaceIdentity ≠ namespaceIdentity then
    .error "network namespace identity changed for the same CNI attachment"
  else .ok ()

/-- The record is of the Pod: the same namespace, name and UID. -/
def isRecordOf (pod : PodIdentity) (a : Attachment) : Bool :=
  a.pod.namespaceName == pod.namespaceName && a.pod.name == pod.name && a.pod.uid == pod.uid

variable (s : NodeService) (node : Node) (parsers : NetworkParsers)

/-- SOURCE: cni/plugin.go:185-196 -/
def hasPriorEnrollment (request : CNIRequest) : Bool :=
  node.attachments.entries.any fun a => a.network == request.network && isRecordOf request.pod a

/-- The binding a record names. -/
def recordedBinding (a : Attachment) (podUID : ObjectUID) : BindingReference :=
  { uid := a.bindingUID, generation := a.bindingGeneration, podUID, gatewayUID := a.gatewayUID }

/-! ### Add -/

inductive AddStage where
  | denied
  | bound (binding : BindingReference)
  | prepared
  deriving DecidableEq

/-- An `Add` that waits: its record and how far it has come. -/
structure AddProgress where
  attachment : Attachment
  stage : AddStage
  deriving DecidableEq

structure AddBeginAnswers where
  identityFailure : Option String
  loadFailure : Option String
  checkDelivery : Delivery
  check : NodeService.ProgramAnswers
  listFailure : Option String
  resolveFailure : Option String
  pod : Except ReadError Pod
  lockdown : Bool
  saveFailure : Option String
  rollbackDenied : Bool
  rollbackRest : Bool
  now : Time

/-- Deny first, then record; a denial that cannot be recorded is rolled back.
SOURCE: cni/plugin.go:66-76 -/
def denyAndRecord (answers : AddBeginAnswers) (request : CNIRequest)
    (namespaceIdentity : String) : Script × Option AddProgress :=
  let pod := request.pod
  let attachment : Attachment :=
    { network := request.network, pod, namespaceIdentity, phase := .lockedDown
      bindingUID := "", bindingGeneration := 0, gatewayUID := "", updatedAt := answers.now }
  let lockdown (ok : Bool) : AgentAction := .program (.installLockdown pod.netNS pod.uid ok)
  if node.reaches pod.netNS answers.lockdown = false then
    ({ actions := [lockdown false], error := some "install deny-first policy" }, none)
  else match attachment.save answers.saveFailure with
    | .error err =>
      ({ actions := [lockdown true,
          .program (.cleanup pod.netNS pod.uid answers.rollbackDenied
            (answers.rollbackDenied && answers.rollbackRest))]
         error := some ("record deny-first attachment state: " ++ err) }, none)
    | .ok () =>
      ({ actions := [lockdown true, .save attachment], error := none },
        some { attachment, stage := .denied })

/-- `Resolve`, asked until it answers or the time is up: the last answer counts. -/
def resolvePod (answers : AddBeginAnswers) (pod : PodIdentity) :
    Except String EnrollmentResolution :=
  match answers.resolveFailure with
  | some err => .error err
  | none => match s.resolve answers.pod pod with
    | .error err => .error err.text
    | .ok resolution => .ok resolution

/-- `Add` up to its first saved record.
SOURCE: cni/plugin.go:24-76 -/
def addBegin (node : Node) (answers : AddBeginAnswers)
    (request : CNIRequest) : Script × Option AddProgress :=
  match request.validate with
  | .error err => (.fail err, none)
  | .ok () =>
    match node.identity answers.identityFailure request.pod.netNS with
    | .error err => (.fail ("resolve exact network namespace identity: " ++ err), none)
    | .ok none => (.fail "resolve exact network namespace identity: file does not exist", none)
    | .ok (some namespaceIdentity) =>
      match answers.loadFailure with
      | some err => (.fail ("load prior attachment state: " ++ err), none)
      | none =>
        match node.attachments.find request.key with
        | some existing =>
          match sameAttachment existing request namespaceIdentity with
          | .error err => (.fail err, none)
          | .ok () =>
            if existing.phase = .ready then
              let checked := (s.serveCheck parsers node answers.check request.pod
                (recordedBinding existing request.pod.uid)).delivered answers.checkDelivery
              match checked.error with
              | none => (checked, none)
              | some _ =>
                let (denied, progress) := denyAndRecord (node.applyAll checked.actions) answers
                  request namespaceIdentity
                (NodeService.before checked.actions denied, progress)
            else denyAndRecord node answers request namespaceIdentity
        | none =>
          match answers.listFailure with
          | some err => (.fail ("find prior UID-bound enrollment: " ++ err), none)
          | none =>
            if hasPriorEnrollment node request then
              denyAndRecord node answers request namespaceIdentity
            else match resolvePod s answers request.pod with
              | .error err =>
                (.fail ("resolve exact Pod enrollment through local agent: " ++ err), none)
              | .ok resolution =>
                if resolution.podUID ≠ request.pod.uid then
                  (.fail ("local agent resolved Pod UID \"" ++ resolution.podUID ++ "\", expected \""
                    ++ request.pod.uid ++ "\""), none)
                else if resolution.enrolled = false then (.done, none)
                else denyAndRecord node answers request namespaceIdentity

structure AddBindAnswers where
  bindingFailure : Option String
  pod : Except ReadError Pod
  binding : Except ReadError VPNWorkloadBinding
  saveFailure : Option String
  now : Time

/-- The wait for the binding: the last answer counts. -/
def waitForBinding (answers : AddBindAnswers) (pod : PodIdentity) :
    Except String BindingReference :=
  match answers.bindingFailure with
  | some err => .error err
  | none => match s.serveBinding answers.pod answers.binding pod with
    | .error err => .error err.text
    | .ok binding => .ok binding

/-- SOURCE: cni/plugin.go:78-93 -/
def addBind (answers : AddBindAnswers) (attachment : Attachment) : Script × Option AddProgress :=
  match waitForBinding s answers attachment.pod with
  | .error err => (.fail ("wait for UID-bound allocation with deny retained: " ++ err), none)
  | .ok binding =>
    match binding.validate attachment.pod.uid with
    | .error err =>
      (.fail ("validate UID-bound protected-path configuration with deny retained: " ++ err), none)
    | .ok () =>
      let bound : Attachment :=
        { attachment with
          bindingUID := binding.uid, bindingGeneration := binding.generation
          gatewayUID := binding.gatewayUID, updatedAt := answers.now }
      match bound.save answers.saveFailure with
      | .error err => (.fail ("record allocated attachment state: " ++ err), none)
      | .ok () =>
        ({ actions := [.save bound], error := none },
          some { attachment := bound, stage := .bound binding })

/-- SOURCE: cni/plugin.go:94-96 -/
def addPrepare (node : Node) (delivery : Delivery)
    (answers : NodeService.ProgramAnswers) (attachment : Attachment) (binding : BindingReference) :
    Script × Option AddProgress :=
  let prepared := (s.servePrepare parsers node answers attachment.pod binding).delivered delivery
  (prepared, match prepared.error with
    | none => some { attachment, stage := .prepared }
    | some _ => none)

/-- SOURCE: cni/plugin.go:97-102 -/
def addFinish (attachment : Attachment) (saveFailure : Option String) (now : Time) : Script :=
  let ready : Attachment := { attachment with phase := .ready, updatedAt := now }
  match ready.save saveFailure with
  | .error err => .fail ("record ready attachment state: " ++ err)
  | .ok () => { actions := [.save ready], error := none }

structure AddAnswers where
  start : AddBeginAnswers
  bind : AddBindAnswers
  /-- the agent's health when `Prepare` arrives -/
  relayHealthy : Bool
  backendHealthy : Bool
  prepareDelivery : Delivery
  prepare : NodeService.ProgramAnswers
  saveFailure : Option String
  now : Time

/-- The node after some actions, with the agent's health as it is then. -/
def healthThen (answers : AddAnswers) (node : Node) (actions : List AgentAction) : Node :=
  { node.applyAll actions with
    relayHealthy := answers.relayHealthy, backendHealthy := answers.backendHealthy }

/-- `Add` with nothing else happening on the node in between.
SOURCE: cni/plugin.go:24-103 -/
def add (node : Node) (answers : AddAnswers) (request : CNIRequest) : Script :=
  match addBegin s parsers node answers.start request with
  | (begun, none) => begun
  | (begun, some progress) =>
    match addBind s answers.bind progress.attachment with
    | (bound, some { attachment, stage := .bound binding }) =>
      let performed := begun.actions ++ bound.actions
      match addPrepare s parsers (healthThen answers node performed) answers.prepareDelivery
          answers.prepare attachment binding with
      | (prepared, none) => NodeService.before performed prepared
      | (prepared, some _) =>
        NodeService.before (performed ++ prepared.actions)
          (addFinish attachment answers.saveFailure answers.now)
    | (bound, _) => NodeService.before begun.actions bound

/-! ### Check, Delete and GC -/

structure CheckAnswers where
  loadFailure : Option String
  identityFailure : Option String
  delivery : Delivery
  check : NodeService.ProgramAnswers

/-- SOURCE: cni/plugin.go:111-135 -/
def check (node : Node) (answers : CheckAnswers) (request : CNIRequest) : Script :=
  match request.validate with
  | .error err => .fail err
  | .ok () =>
    match answers.loadFailure, node.attachments.find request.key with
    | some err, _ => .fail ("load attachment state for CHECK: " ++ err)
    | none, none => .fail "load attachment state for CHECK: file does not exist"
    | none, some attachment =>
      match node.identity answers.identityFailure request.pod.netNS with
      | .error err => .fail ("resolve network namespace identity for CHECK: " ++ err)
      | .ok none => .fail "resolve network namespace identity for CHECK: file does not exist"
      | .ok (some namespaceIdentity) =>
        match sameAttachment attachment request namespaceIdentity with
        | .error err => .fail err
        | .ok () =>
          if attachment.phase ≠ .ready then
            .fail "attachment has not completed deny-first protected-path setup"
          else
            (s.serveCheck parsers node answers.check request.pod
              (recordedBinding attachment request.pod.uid)).delivered answers.delivery

structure DeleteAnswers where
  loadFailure : Option String
  resolveFailure : Option String
  pod : Except ReadError Pod
  identityFailure : Option String
  withdrawDelivery : Delivery
  withdraw : NodeService.WithdrawAnswers
  cleanupDenied : Bool
  cleanupRest : Bool
  deleteFailure : Option String

/-- What `Delete` learns of the Pod: it is gone for good, it is still there, or neither is known.
SOURCE: cni/plugin.go:155-162 -/
def podIsGone (answers : DeleteAnswers) (a : Attachment) : Except String Bool :=
  match answers.resolveFailure with
  | some err => .error ("resolve exact Pod for DEL with durable state retained: " ++ err)
  | none =>
    match s.resolve answers.pod a.pod with
    | .error (.podLookupFailed .notFound) => .ok true
    | .error err => .error ("resolve exact Pod for DEL with durable state retained: " ++ err.text)
    | .ok resolution => .ok (resolution.podUID == a.pod.uid && resolution.terminating)

/-- SOURCE: cni/plugin.go:163-181 -/
def deleteGone (answers : DeleteAnswers) (a : Attachment) (netns : String) : Script :=
  let path := if netns = "" then a.pod.netNS else netns
  match node.identity answers.identityFailure path with
  | .error err => .fail ("observe exact network namespace for DEL: " ++ err)
  | .ok identity =>
    let withdrawn := (s.withdraw node answers.withdraw a.pod).delivered answers.withdrawDelivery
    match withdrawn.error with
    | some err => { withdrawn with error := some ("confirm exact attachment withdrawal: " ++ err) }
    | none =>
      let ok := answers.cleanupDenied && answers.cleanupRest
      let cleanup := if identity = some a.namespaceIdentity then
        [AgentAction.program (.cleanup path a.pod.uid answers.cleanupDenied ok)] else []
      let performed := withdrawn.actions ++ cleanup
      if identity = some a.namespaceIdentity ∧ ok = false then
        { actions := performed, error := some "remove exact Waycloak network state" }
      else match answers.deleteFailure with
        | some err => { actions := performed, error := some ("delete attachment state: " ++ err) }
        | none => { actions := performed ++ [.delete a.key], error := none }

/-- SOURCE: cni/plugin.go:137-183 -/
def delete (answers : DeleteAnswers) (key : AttachmentKey) (netns : String) : Script :=
  match answers.loadFailure, node.attachments.find key with
  | some err, _ => .fail ("load attachment state for DEL: " ++ err)
  | none, none => .done
  | none, some a =>
    match podIsGone s answers a with
    | .error err => .fail err
    | .ok false => .done
    | .ok true => deleteGone s node answers a netns

structure GCAnswers where
  identityFailure : AttachmentKey → Option String
  cleanupDenied : AttachmentKey → Bool
  cleanupRest : AttachmentKey → Bool
  deleteFailure : AttachmentKey → Option String

/-- One record that is not among the valid ones: whatever goes wrong with its namespace identity, the
record is deleted.
SOURCE: cni/plugin.go:208-221 -/
def gcAttachment (answers : GCAnswers) (a : Attachment) : Script :=
  let ok := answers.cleanupDenied a.key && answers.cleanupRest a.key
  let exact : Bool := match node.identity (answers.identityFailure a.key) a.pod.netNS with
    | .ok identity => identity == some a.namespaceIdentity
    | .error _ => false
  let cleanup := if exact then
    [AgentAction.program (.cleanup a.pod.netNS a.pod.uid (answers.cleanupDenied a.key) ok)] else []
  if exact && !ok then { actions := cleanup, error := some "clean stale attachment" }
  else match answers.deleteFailure a.key with
    | some err => { actions := cleanup, error := some err }
    | none => { actions := cleanup ++ [.delete a.key], error := none }

/-- The records that `GC` is going to collect, as it lists them.
SOURCE: cni/plugin.go:202-207 -/
def gcStale (network : String) (valid : List AttachmentKey) : List Attachment :=
  node.attachments.entries.filter fun a => a.network == network && !valid.contains a.key

end Plugin

/-! ## A node with its agent and its plugin -/

/-- What an operation in progress does next. -/
inductive Task where
  | act (action : AgentAction)
  /-- `Delete` loads the record and asks for the Pod -/
  | load (key : AttachmentKey) (netns : String)
  /-- `GC` turns to a record of its list -/
  | collect (attachment : Attachment)
  /-- `ReconcileAll` turns to a group of its list -/
  | group (podUID : ObjectUID) (attachments : List Attachment)

inductive TaskAnswers where
  | act
  | load (answers : Plugin.DeleteAnswers)
  | collect (answers : Plugin.GCAnswers)
  | group (answers : NodeService.GroupAnswers)

/-- A `Delete`, `GC` or `ReconcileAll` in progress: the Pod UID whose lock it holds, if it does, and
what it still has to do. -/
structure Operation where
  lock : Option ObjectUID
  tasks : List Task

/-- A node, the agent that runs on it, for each Pod UID the `Add` that is in progress, and the other
operations that are. -/
structure Host where
  node : Node
  service : NodeService
  adding : ObjectUID → Option Plugin.AddProgress
  running : List Operation

inductive HostEvent where
  | addBegin (request : CNIRequest) (answers : Plugin.AddBeginAnswers)
  | addBind (podUID : ObjectUID) (answers : Plugin.AddBindAnswers)
  | addPrepare (podUID : ObjectUID) (delivery : Delivery) (answers : NodeService.ProgramAnswers)
  | addFinish (podUID : ObjectUID) (saveFailure : Option String) (now : Time)
  /-- the process of an `Add` ends -/
  | abandon (podUID : ObjectUID)
  | check (request : CNIRequest) (answers : Plugin.CheckAnswers)
  | delete (key : AttachmentKey) (netns : String) (loadFailure : Option String)
  | gc (network : String) (valid : List AttachmentKey) (listFailure : Option String)
  | reconcileAll (listFailure : Option String) (held : NodeService.LockdownAnswers)
  /-- an operation in progress takes up its next task -/
  | advance (index : Nat) (answers : TaskAnswers)
  /-- an operation ends, whether or not it has come to its end -/
  | stop (index : Nat)
  | lockdownAll (answers : NodeService.LockdownAnswers)
  | health (relay backend : Bool)
  /-- another agent takes over, with nothing observed -/
  | restart (service : NodeService)
  /-- sandboxes appear and disappear -/
  | namespaces (next : String → Option String)

/-- `AcquireAttachmentLock`: the lock of a Pod UID is held by an `Add` or a `Delete` in progress.
SOURCE: cni/lock_linux.go:27-60, cmd/waycloak-cni/main_linux.go:58-104 -/
def Host.locked (host : Host) (podUID : ObjectUID) : Bool :=
  (host.adding podUID).isSome || host.running.any (·.lock == some podUID)

def lockTimeout : Script := .fail "acquire CNI attachment lock within 30s"

/-- `cmdDel` takes the lock of the Pod whose record it can load, and no lock if it can load none.
SOURCE: cmd/waycloak-cni/main_linux.go:87-103 -/
def Host.deleteLock (host : Host) (key : AttachmentKey) : Option String → Option ObjectUID
  | some _ => none
  | none => (host.node.attachments.find key).map (·.pod.uid)

def Host.deleteWaits (host : Host) (key : AttachmentKey) (loadFailure : Option String) : Bool :=
  (host.deleteLock key loadFailure).any host.locked

/-- What a task does at once, and the actions it turns into. -/
def Host.perform (parsers : NetworkParsers) (host : Host) :
    Task → TaskAnswers → Option (List AgentAction × List AgentAction)
  | .act action, .act => some ([action], [])
  | .load key netns, .load answers =>
    some ([], (Plugin.delete host.service host.node answers key netns).actions)
  | .collect attachment, .collect answers =>
    some ([], (Plugin.gcAttachment host.node answers attachment).actions)
  | .group _ attachments, .group answers =>
    some ([], (host.service.reconcileAttachmentGroup parsers host.node answers attachments).actions)
  | _, _ => none

/-- The next task of an operation: what it does at once, and the operations after it. -/
def Host.advance (parsers : NetworkParsers) (host : Host) (index : Nat) (answers : TaskAnswers) :
    List AgentAction × List Operation :=
  match host.running[index]? with
  | some { lock, tasks := task :: rest } =>
    match host.perform parsers task answers with
    | some (actions, more) =>
      (actions, host.running.set index { lock, tasks := more.map .act ++ rest })
    | none => ([], host.running)
  | _ => ([], host.running)

/-- The groups of `ReconcileAll`, as it lists them.
SOURCE: nodeagent/service.go:387-402 -/
def NodeService.groups (node : Node) : List Task :=
  let attachments := node.attachments.entries.filter fun attachment =>
    attachment.pod.uid != "" && attachment.pod.netNS != ""
  (groupedPodUIDs attachments).map fun podUID => .group podUID (attachmentGroup attachments podUID)

/-- The operations in progress after an event. -/
def Host.operations (parsers : NetworkParsers) (host : Host) : HostEvent → List Operation
  | .delete key netns loadFailure =>
    if host.deleteWaits key loadFailure then host.running
    else host.running ++ [{ lock := host.deleteLock key loadFailure, tasks := [.load key netns] }]
  | .gc network valid none =>
    host.running ++
      [{ lock := none, tasks := (Plugin.gcStale host.node network valid).map .collect }]
  | .reconcileAll none _ =>
    if host.service.transitionHeld then host.running
    else host.running ++ [{ lock := none, tasks := NodeService.groups host.node }]
  | .advance index answers => (host.advance parsers index answers).2
  | .stop index => host.running.eraseIdx index
  | _ => host.running

/-- The script of an event, and the progress of the `Add` it belongs to. -/
def Host.script (parsers : NetworkParsers) (host : Host) : HostEvent → Script × Option Plugin.AddProgress
  | .addBegin request answers =>
    if host.locked request.pod.uid then (lockTimeout, host.adding request.pod.uid)
    else Plugin.addBegin host.service parsers host.node answers request
  | .addBind podUID answers =>
    match host.adding podUID with
    | some { attachment, stage := .denied } => Plugin.addBind host.service answers attachment
    | progress => (.done, progress)
  | .addPrepare podUID delivery answers =>
    match host.adding podUID with
    | some { attachment, stage := .bound binding } =>
      Plugin.addPrepare host.service parsers host.node delivery answers attachment binding
    | progress => (.done, progress)
  | .addFinish podUID saveFailure now =>
    match host.adding podUID with
    | some { attachment, stage := .prepared } => (Plugin.addFinish attachment saveFailure now, none)
    | progress => (.done, progress)
  | .abandon _ => (.done, none)
  | .check request answers =>
    if host.locked request.pod.uid then (lockTimeout, none)
    else (Plugin.check host.service parsers host.node answers request, none)
  | .delete key _ loadFailure =>
    (if host.deleteWaits key loadFailure then lockTimeout else .done, none)
  | .gc _ _ listFailure => (match listFailure with
    | some err => .fail err
    | none => .done, none)
  | .reconcileAll listFailure held =>
    (if host.service.transitionHeld then host.service.lockdownAll host.node held
      else match listFailure with
        | some err => .fail ("list durable CNI attachments: " ++ err)
        | none => .done, none)
  | .advance index answers =>
    ({ actions := (host.advance parsers index answers).1, error := none }, none)
  | .lockdownAll answers => (host.service.lockdownAll host.node answers, none)
  | .stop _ => (.done, none)
  | .health _ _ => (.done, none)
  | .restart _ => (.done, none)
  | .namespaces _ => (.done, none)

/-- The Pod UID whose `Add` an event is a part of. -/
def HostEvent.adds : HostEvent → Option ObjectUID
  | .addBegin request _ => some request.pod.uid
  | .addBind podUID _ => some podUID
  | .addPrepare podUID _ _ => some podUID
  | .addFinish podUID _ _ => some podUID
  | .abandon podUID => some podUID
  | _ => none

def Host.next (parsers : NetworkParsers) (host : Host) (event : HostEvent) : Host × Script :=
  let (script, progress) := host.script parsers event
  let node := host.node.applyAll script.actions
  let adding := fun podUID => if event.adds = some podUID then progress else host.adding podUID
  match event with
  | .health relay backend =>
    ({ host with node := { node with relayHealthy := relay, backendHealthy := backend } }, script)
  | .restart service =>
    ({ host with
       service
       node := { node with observations := fun _ => none, relayHealthy := false, backendHealthy := false } },
      script)
  | .namespaces next => ({ host with node := { node with namespaces := next } }, script)
  | _ => ({ host with node, adding, running := host.operations parsers event }, script)

/-- A node on which nothing has been recorded yet. -/
def Host.Empty (host : Host) : Prop :=
  host.node.attachments.entries = [] ∧ (∀ podUID, host.adding podUID = none) ∧ host.running = []

abbrev HostRecord := Record Host HostEvent Script

def hostRun (parsers : NetworkParsers) (host : Host) (events : List HostEvent) : List HostRecord :=
  exec (Host.next parsers) host events

end Waycloak.Model
