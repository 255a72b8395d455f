import Mathlib.Data.List.Sort
import Mathlib.Data.List.Dedup
import Waycloak.Model.Attachments

/-!
# The node agent

`nodeagent.Service` on one node: it resolves callers against the API, programs the network
namespaces of Pods, keeps one observation for each Pod UID, and rebuilds from the durable
attachments after a restart.

Each operation is the list of actions it performs, in order, with its error. What the API,
the programmer, the store and the publisher answer is given by one record for each operation,
with one field for each call. A programmer call that fails leaves the policy as it was; a
cleanup begins with the deny policy, which stays even if the rest of it fails. Verification
succeeds only on a configured policy, and then as its answer says: it looks at the overlay
link, its address and route and the gateway's probe, not at the configuration.
-/

set_option autoImplicit false

namespace Waycloak.Model

open Waycloak.Computation

/-! ## Programmer calls and what they leave in a namespace -/

/-- A call of the programmer and its outcome.
SOURCE: nodeagent/service.go:38-44 -/
inductive ProgrammerCall where
  | installLockdown (netNS : String) (podUID : ObjectUID) (ok : Bool)
  | configure (netNS : String) (config : Config) (ok : Bool)
  | verify (netNS : String) (config : Config) (ok : Bool)
  | cleanup (netNS : String) (podUID : ObjectUID) (denied ok : Bool)
  deriving DecidableEq

namespace ProgrammerCall

def netNS : ProgrammerCall → String
  | .installLockdown netNS _ _ => netNS
  | .configure netNS _ _ => netNS
  | .verify netNS _ _ => netNS
  | .cleanup netNS _ _ _ => netNS

def podUID : ProgrammerCall → ObjectUID
  | .installLockdown _ podUID _ => podUID
  | .configure _ config _ => config.podUID
  | .verify _ config _ => config.podUID
  | .cleanup _ podUID _ _ => podUID

end ProgrammerCall

/-- A Pod's nftables policy in a namespace: none, deny only, or a protected path. -/
inductive Policy where
  | absent
  | denied
  | configured (config : Config)
  deriving DecidableEq

/-- The policy a call installs, if it takes effect.
SOURCE: dataplane/backend_linux.go:54-96, 263-281 -/
def ProgrammerCall.installs : ProgrammerCall → Option Policy
  | .installLockdown _ _ ok => if ok then some .denied else none
  | .configure _ config ok => if ok then some (.configured config) else none
  | .verify _ _ _ => none
  | .cleanup _ _ denied _ => if denied then some .denied else none

/-- A call that was issued, with the identity of the namespace its path named. -/
structure IssuedCall where
  namespaceIdentity : Option String
  call : ProgrammerCall
  deriving DecidableEq

/-- A Pod's policy in a namespace after the calls, the latest first. -/
def policyIn (identity : String) (podUID : ObjectUID) : List IssuedCall → Policy
  | [] => .absent
  | issued :: earlier =>
    if issued.namespaceIdentity = some identity ∧ issued.call.podUID = podUID then
      match issued.call.installs with
      | some policy => policy
      | none => policyIn identity podUID earlier
    else policyIn identity podUID earlier

/-! ## The node -/

/-- SOURCE: nodeagent/service.go:52-64 -/
structure NodeObservation where
  bindingNamespace : NamespaceName
  bindingName : ObjectName
  bindingUID : ObjectUID
  generation : Int
  podUID : ObjectUID
  gatewayUID : ObjectUID
  nodeName : ObjectName
  nodeBootID : String
  instanceID : String
  observedAt : Time
  ready : Bool
  deriving DecidableEq

/-- A node: its durable attachments, the identity of the namespace under each path, the calls
issued so far (the latest first), and the agent's memory. -/
structure Node where
  attachments : KeyedStore Attachment.key
  namespaces : String → Option String
  issued : List IssuedCall
  observations : ObjectUID → Option NodeObservation
  relayHealthy : Bool
  backendHealthy : Bool

/-- What an operation does, step by step. -/
inductive AgentAction where
  | program (call : ProgrammerCall)
  | observe (observation : NodeObservation)
  | forget (podUID : ObjectUID)
  | publish (observation : NodeObservation) (accepted : Bool)
  | save (attachment : Attachment)
  | delete (key : AttachmentKey)
  deriving DecidableEq

def Node.apply (node : Node) : AgentAction → Node
  | .program call => { node with issued := ⟨node.namespaces call.netNS, call⟩ :: node.issued }
  | .observe observation =>
    { node with
      observations := fun podUID =>
        if podUID = observation.podUID then some observation else node.observations podUID }
  | .forget podUID =>
    { node with
      observations := fun uid => if uid = podUID then none else node.observations uid }
  | .publish _ _ => node
  | .save attachment => { node with attachments := node.attachments.put attachment }
  | .delete key => { node with attachments := node.attachments.delete key }

def Node.applyAll (node : Node) (actions : List AgentAction) : Node :=
  actions.foldl Node.apply node

/-- An operation: its actions in order, and its error. -/
structure Script where
  actions : List AgentAction
  error : Option String
  deriving DecidableEq

namespace Script

def done : Script := { actions := [], error := none }
def fail (text : String) : Script := { actions := [], error := some text }

end Script

/-- `errors.Join`. -/
def joinErrors (errors : List (Option String)) : Option String :=
  match errors.filterMap id with
  | [] => none
  | texts => some (String.intercalate "\n" texts)

/-- Scripts one after another, whatever their errors. -/
def Script.all (scripts : List Script) : Script :=
  { actions := scripts.flatMap (·.actions), error := joinErrors (scripts.map (·.error)) }

/-- A request into the namespace of a path succeeds only if there is one. -/
def Node.reaches (node : Node) (netNS : String) (answer : Bool) : Bool :=
  (node.namespaces netNS).isSome && answer

/-- `Programmer.Identity`; a path without a namespace is `fs.ErrNotExist`. -/
def Node.identity (node : Node) (failure : Option String) (netNS : String) :
    Except String (Option String) :=
  match failure with
  | some err => .error err
  | none => .ok (node.namespaces netNS)

/-- The policy under a path. -/
def Node.policy (node : Node) (netNS : String) (podUID : ObjectUID) : Policy :=
  match node.namespaces netNS with
  | none => .absent
  | some identity => policyIn identity podUID node.issued

/-- `Verify` on what is installed under a path. -/
def Node.verifies (node : Node) (netNS : String) (podUID : ObjectUID) (answer : Bool) : Bool :=
  match node.policy netNS podUID with
  | .configured _ => answer
  | _ => false

/-! ## The service -/

/-- SOURCE: nodeagent/service.go:96-120 -/
structure NodeService where
  nodeName : ObjectName
  nodeBootID : String
  instanceID : String
  requireRelay : Bool
  transitionHeld : Bool
  publisher : Bool
  deriving DecidableEq

/-- SOURCE: nodeagent/service.go:70-76, cni/types.go:15-18 -/
inductive AgentError where
  | podIdentityInvalid (text : String)
  | podLookupFailed (err : ReadError)
  | podUIDMismatch
  | podNodeMismatch
  | bindingNotReady
  | other (text : String)
  deriving DecidableEq

def AgentError.text : AgentError → String
  | .podIdentityInvalid text => "pod identity is invalid: " ++ text
  | .podLookupFailed err => "kubernetes Pod observation failed: " ++ err.text
  | .podUIDMismatch => "pod UID does not match API observation"
  | .podNodeMismatch => "pod node does not match local authority"
  | .bindingNotReady => "workload binding is not ready"
  | .other text => text

namespace NodeService

variable (s : NodeService) (parsers : NetworkParsers) (node : Node)

/-- SOURCE: nodeagent/service.go:211-213 -/
def ready : Bool :=
  !s.transitionHeld && node.backendHealthy && (!s.requireRelay || node.relayHealthy)

/-- SOURCE: nodeagent/service.go:725-738 -/
def observation (binding : VPNWorkloadBinding) (ready : Bool) (now : Time) : NodeObservation :=
  { bindingNamespace := binding.namespaceName, bindingName := binding.name
    bindingUID := binding.uid, generation := binding.generation
    podUID := binding.spec.podRef.uid, gatewayUID := binding.spec.gatewayRef.uid
    nodeName := s.nodeName, nodeBootID := s.nodeBootID, instanceID := s.instanceID
    observedAt := now, ready }

/-- `observe`. -/
def observe (binding : VPNWorkloadBinding) (ready : Bool) (now : Time) : AgentAction :=
  .observe (s.observation binding ready now)

/-- SOURCE: nodeagent/service.go:635-653 -/
def pod (s : NodeService) (read : Except ReadError Pod) (identity : PodIdentity) :
    Except AgentError Pod :=
  match identity.validate with
  | .error err => .error (.podIdentityInvalid err)
  | .ok () =>
    if s.nodeName = "" then
      .error (.podIdentityInvalid "node agent dependencies are incomplete")
    else match read with
      | .error err => .error (.podLookupFailed err)
      | .ok pod =>
        if pod.uid ≠ identity.uid then .error .podUIDMismatch
        else if pod.nodeName ≠ s.nodeName then .error .podNodeMismatch
        else .ok pod

/-- `rawBinding`: the object under the Pod's binding name, if it is of that Pod.
SOURCE: nodeagent/service.go:666-679 -/
def rawBinding (read : Except ReadError VPNWorkloadBinding) (podUID : ObjectUID) :
    Except AgentError VPNWorkloadBinding :=
  match read with
  | .error .notFound => .error .bindingNotReady
  | .error (.other err) => .error (.other err)
  | .ok binding => if binding.spec.podRef.uid ≠ podUID then .error .bindingNotReady else .ok binding

/-- SOURCE: nodeagent/service.go:655-664 -/
def binding (s : NodeService) (read : Except ReadError VPNWorkloadBinding) (pod : Pod) :
    Except AgentError VPNWorkloadBinding :=
  match rawBinding read pod.uid with
  | .error err => .error err
  | .ok binding =>
    if binding.deletionTimestamp.isSome ∨ binding.spec.podRef.name ≠ pod.name ∨
        binding.spec.nodeName ≠ s.nodeName ∨ binding.uid = "" then
      .error .bindingNotReady
    else .ok binding

/-- SOURCE: nodeagent/service.go:681-683 -/
def bindingReference (binding : VPNWorkloadBinding) : BindingReference :=
  { uid := binding.uid, generation := binding.generation
    podUID := binding.spec.podRef.uid, gatewayUID := binding.spec.gatewayRef.uid }

/-- `Resolve`. SOURCE: nodeagent/service.go:119-125 -/
def resolve (read : Except ReadError Pod) (identity : PodIdentity) :
    Except AgentError EnrollmentResolution :=
  match s.pod read identity with
  | .error err => .error err
  | .ok pod =>
    .ok { podUID := pod.uid, enrolled := pod.routeLabel != ""
          terminating := pod.deletionTimestamp.isSome }

/-- `Binding`. SOURCE: nodeagent/service.go:127-140 -/
def serveBinding (podRead : Except ReadError Pod)
    (bindingRead : Except ReadError VPNWorkloadBinding) (identity : PodIdentity) :
    Except AgentError BindingReference :=
  match s.pod podRead identity with
  | .error err => .error err
  | .ok pod =>
    if pod.routeLabel = "" then .error .bindingNotReady
    else match s.binding bindingRead pod with
      | .error err => .error err
      | .ok binding => .ok (bindingReference binding)

/-! ### Prepare and Check -/

/-- What is answered while a sandbox is programmed: the two reads of `authority`, and one field for
each call of the programmer. -/
structure ProgramAnswers where
  pod : Except ReadError Pod
  binding : Except ReadError VPNWorkloadBinding
  verifyFirst : Bool
  lockdown : Bool
  configure : Bool
  verify : Bool
  relock : Bool
  now : Time

/-- SOURCE: nodeagent/service.go:614-633 -/
def authority (answers : ProgramAnswers) (identity : PodIdentity) (requested : BindingReference) :
    Except AgentError (VPNWorkloadBinding × Config) :=
  match requested.validate identity.uid with
  | .error err => .error (.other err)
  | .ok () =>
    match s.pod answers.pod identity with
    | .error err => .error err
    | .ok pod =>
      match s.binding answers.binding pod with
      | .error err => .error err
      | .ok binding =>
        if bindingReference binding ≠ requested then
          .error (.other "requested binding identity or generation is stale")
        else match configFromBinding parsers binding with
          | .error err => .error (.other err)
          | .ok config => .ok (binding, config)

/-- `prepare`: deny first, then configure and verify, with the deny restored after a failure.
SOURCE: nodeagent/service.go:149-172 -/
def prepare (answers : ProgramAnswers)
    (identity : PodIdentity) (requested : BindingReference) : Script :=
  match s.authority parsers answers identity requested with
  | .error err => .fail err.text
  | .ok (binding, config) =>
    let lockdown (ok : Bool) : AgentAction :=
      .program (.installLockdown identity.netNS identity.uid (node.reaches identity.netNS ok))
    if node.reaches identity.netNS answers.lockdown = false then
      { actions := [lockdown false], error := some "re-establish deny-first state" }
    else if node.reaches identity.netNS answers.configure = false then
      { actions :=
          [lockdown true, .program (.configure identity.netNS config false),
            lockdown answers.relock, s.observe binding false answers.now]
        error := some "program protected path with deny retained" }
    else if answers.verify = false then
      { actions :=
          [lockdown true, .program (.configure identity.netNS config true),
            .program (.verify identity.netNS config false), lockdown answers.relock,
            s.observe binding false answers.now]
        error := some "verify protected path before startup" }
    else
      { actions :=
          [lockdown true, .program (.configure identity.netNS config true),
            .program (.verify identity.netNS config true), s.observe binding true answers.now]
        error := none }

/-- `check`: what is installed is verified first; only a failed verification programs again. A caller
whose authority fails is locked down, and nothing is observed.
SOURCE: nodeagent/service.go:182-205 -/
def check (answers : ProgramAnswers)
    (identity : PodIdentity) (requested : BindingReference) : Script :=
  let lockdown (ok : Bool) : AgentAction :=
    .program (.installLockdown identity.netNS identity.uid (node.reaches identity.netNS ok))
  match s.authority parsers answers identity requested with
  | .error err => { actions := [lockdown answers.lockdown], error := some err.text }
  | .ok (binding, config) =>
    let verifyFirst (ok : Bool) : AgentAction := .program (.verify identity.netNS config ok)
    if node.verifies identity.netNS identity.uid answers.verifyFirst then
      { actions := [verifyFirst true, s.observe binding true answers.now], error := none }
    else if node.reaches identity.netNS answers.lockdown = false then
      { actions := [verifyFirst false, lockdown false, s.observe binding false answers.now]
        error := some "restore deny-first state after drift" }
    else if node.reaches identity.netNS answers.configure = false then
      { actions :=
          [verifyFirst false, lockdown true, .program (.configure identity.netNS config false),
            s.observe binding false answers.now]
        error := some "repair protected path" }
    else if answers.verify = false then
      { actions :=
          [verifyFirst false, lockdown true, .program (.configure identity.netNS config true),
            .program (.verify identity.netNS config false), lockdown answers.relock,
            s.observe binding false answers.now]
        error := some "verify repaired protected path" }
    else
      { actions :=
          [verifyFirst false, lockdown true, .program (.configure identity.netNS config true),
            .program (.verify identity.netNS config true), s.observe binding true answers.now]
        error := none }

/-- `Prepare`, the request of the CNI plugin.
SOURCE: nodeagent/service.go:142-147 -/
def servePrepare (answers : ProgramAnswers)
    (identity : PodIdentity) (requested : BindingReference) : Script :=
  if s.ready node = false then
    .fail "node backend or controller observation relay is unavailable"
  else s.prepare parsers node answers identity requested

/-- `Check`, the request of the CNI plugin: an agent that is not ready locks the sandbox down.
SOURCE: nodeagent/service.go:174-180 -/
def serveCheck (answers : ProgramAnswers)
    (identity : PodIdentity) (requested : BindingReference) : Script :=
  if s.ready node = false then
    { actions :=
        [.program (.installLockdown identity.netNS identity.uid
          (node.reaches identity.netNS answers.lockdown))]
      error := some "node backend or controller observation relay is unavailable" }
  else s.check parsers node answers identity requested

/-! ### LockdownAll -/

/-- What is answered during one `LockdownAll`, for each attachment and then for the node's
bindings. -/
structure LockdownAnswers where
  listFailure : Option String
  identityFailure : AttachmentKey → Option String
  lockdown : AttachmentKey → Bool
  binding : AttachmentKey → Except ReadError VPNWorkloadBinding
  bindings : Except String (List VPNWorkloadBinding)
  now : Time

/-- One attachment: nothing is done in a namespace that is missing or has been reused.
SOURCE: nodeagent/service.go:236-254 -/
def lockdownAttachment (answers : LockdownAnswers) (attachment : Attachment) : Script :=
  match node.identity (answers.identityFailure attachment.key) attachment.pod.netNS with
  | .error err => .fail ("observe durable attachment namespace: " ++ err)
  | .ok namespaceIdentity =>
    if namespaceIdentity ≠ some attachment.namespaceIdentity then .done
    else if answers.lockdown attachment.key = false then
      { actions := [.program (.installLockdown attachment.pod.netNS attachment.pod.uid false)]
        error := some "install lockdown" }
    else
      { actions := .program (.installLockdown attachment.pod.netNS attachment.pod.uid true) ::
          match rawBinding (answers.binding attachment.key) attachment.pod.uid with
          | .ok binding => [s.observe binding false answers.now]
          | .error _ => []
        error := none }

/-- A listed binding the agent may report on.
SOURCE: nodeagent/service.go:274-277 -/
def reportable (binding : VPNWorkloadBinding) : Bool :=
  binding.spec.nodeName == s.nodeName && !(binding.generation < 1 : Bool) && binding.uid != "" &&
    binding.spec.podRef.uid != "" && binding.spec.gatewayRef.uid != ""

/-- Every binding assigned to the node is observed as not ready.
SOURCE: nodeagent/service.go:262-281 -/
def observeNodeBindings (answers : LockdownAnswers) : Script :=
  match answers.bindings with
  | .error err => .fail ("list node bindings for withdrawal: " ++ err)
  | .ok bindings =>
    { actions := (bindings.filter s.reportable).map fun binding =>
        s.observe binding false answers.now
      error := none }

/-- SOURCE: nodeagent/service.go:230-283 -/
def lockdownAll (answers : LockdownAnswers) : Script :=
  match answers.listFailure with
  | some err => .fail err
  | none =>
    Script.all (node.attachments.entries.map (s.lockdownAttachment node answers) ++
      [s.observeNodeBindings answers])

/-! ### Withdraw -/

structure WithdrawAnswers where
  listFailure : Option String
  pod : Except ReadError Pod
  identityFailure : Option String
  lockdown : Bool
  cleanupDenied : Bool
  cleanupRest : Bool
  binding : Except ReadError VPNWorkloadBinding
  publishFailure : Option String
  now : Time

/-- SOURCE: nodeagent/service.go:337-339 -/
def exactPodAbsent : AgentError → Bool
  | .podLookupFailed .notFound => true
  | .podUIDMismatch => true
  | _ => false

/-- `withdrawalBinding`: a binding that is absent needs no report.
SOURCE: nodeagent/service.go:361-374 -/
def withdrawalBinding (read : Except ReadError VPNWorkloadBinding) (podUID : ObjectUID) :
    Except String (Option VPNWorkloadBinding) :=
  match read with
  | .error .notFound => .ok none
  | .error (.other err) => .error ("resolve exact binding for withdrawal: " ++ err)
  | .ok binding =>
    if binding.spec.podRef.uid ≠ podUID then
      .error "withdrawal binding Pod UID does not match durable attachment"
    else .ok (some binding)

/-- The report of a withdrawal, published before the observation is forgotten.
SOURCE: nodeagent/service.go:316-335 -/
def reportWithdrawal (read : Except ReadError VPNWorkloadBinding)
    (podUID : ObjectUID) (publishFailure : Option String) (now : Time)
    (forget : List AgentAction) : Script :=
  match withdrawalBinding read podUID with
  | .error err => .fail err
  | .ok none => { actions := forget, error := none }
  | .ok (some binding) =>
    if s.publisher = false then .fail "synchronous withdrawal publisher is unavailable"
    else
      let observation := s.observation binding false now
      match publishFailure with
      | some err =>
        { actions := [.observe observation, .publish observation false]
          error := some ("publish exact attachment withdrawal: " ++ err) }
      | none =>
        { actions := .observe observation :: .publish observation true :: forget, error := none }

/-- Actions before a script. -/
def before (actions : List AgentAction) (script : Script) : Script :=
  { script with actions := actions ++ script.actions }

/-- SOURCE: nodeagent/service.go:295-335 -/
def withdrawAttachment (answers : WithdrawAnswers) (attachment : Attachment) : Script :=
  let identity := attachment.pod
  let report := s.reportWithdrawal answers.binding identity.uid answers.publishFailure answers.now
    [.forget identity.uid]
  let withdraw (absent : Bool) (terminating : Bool) : Script :=
    match node.identity answers.identityFailure identity.netNS with
    | .error err => .fail ("observe exact attachment namespace for withdrawal: " ++ err)
    | .ok namespaceIdentity =>
      if namespaceIdentity ≠ some attachment.namespaceIdentity then report
      else if !absent && !terminating then
        let lockdown := AgentAction.program
          (.installLockdown identity.netNS identity.uid answers.lockdown)
        if answers.lockdown then before [lockdown] report
        else { actions := [lockdown], error := some "withdraw allow path while retaining deny" }
      else
        let ok := answers.cleanupDenied && answers.cleanupRest
        let cleanup := AgentAction.program
          (.cleanup identity.netNS identity.uid answers.cleanupDenied ok)
        if ok then before [cleanup] report
        else { actions := [cleanup], error := some "clean terminating exact attachment" }
  match s.pod answers.pod identity with
  | .ok pod => withdraw false pod.deletionTimestamp.isSome
  | .error err => if exactPodAbsent err then withdraw true false else .fail err.text

/-- SOURCE: nodeagent/service.go:285-293, 347-359 -/
def withdraw (answers : WithdrawAnswers) (identity : PodIdentity) : Script :=
  match identity.validate with
  | .error err => .fail err
  | .ok () =>
    match answers.listFailure with
    | some err => .fail ("list durable attachments for withdrawal: " ++ err)
    | none =>
      match node.attachments.entries.find? fun attachment => attachment.pod = identity with
      | none => .fail "exact durable attachment is unavailable"
      | some attachment => s.withdrawAttachment node answers attachment

/-! ### ReconcileAll -/

/-- What is answered while the attachments of one Pod UID are reconciled. -/
structure GroupAnswers where
  pod : Except ReadError Pod
  identityFailure : AttachmentKey → Option String
  observed : AttachmentKey → Except ReadError VPNWorkloadBinding
  lockdown : AttachmentKey → Bool
  cleanupDenied : AttachmentKey → Bool
  cleanupRest : AttachmentKey → Bool
  binding : Except ReadError VPNWorkloadBinding
  withdrawal : Except ReadError VPNWorkloadBinding
  publishFailure : Option String
  program : ProgramAnswers
  saveFailure : Option String
  deleteFailure : AttachmentKey → Option String
  now : Time

def lockedDownReconcileDelay : Duration := 45 * second

variable (answers : GroupAnswers) (attachment : Attachment) (attachments : List Attachment)

/-- SOURCE: nodeagent/service.go:594-600 -/
def attachmentIsYoung (now : Time) : Bool :=
  attachment.updatedAt != 0 && (now - attachment.updatedAt < lockedDownReconcileDelay : Bool)

/-- SOURCE: nodeagent/service.go:588-592 -/
def observeNotReady (read : Except ReadError VPNWorkloadBinding)
    (podUID : ObjectUID) (now : Time) : List AgentAction :=
  match rawBinding read podUID with
  | .ok binding => [s.observe binding false now]
  | .error _ => []

/-- An attachment whose namespace is the recorded one.
SOURCE: nodeagent/service.go:511-525 -/
def isLive : Bool :=
  match node.identity (answers.identityFailure attachment.key) attachment.pod.netNS with
  | .error _ => false
  | .ok namespaceIdentity => namespaceIdentity == some attachment.namespaceIdentity

def liveAttachments : List Attachment × Option String :=
  (attachments.filter (isLive node answers),
    joinErrors (attachments.map fun attachment =>
      (answers.identityFailure attachment.key).map fun err =>
        "observe durable attachment namespace \"" ++ attachment.pod.netNS ++ "\": " ++ err))

def lockdownOne : AgentAction :=
  .program (.installLockdown attachment.pod.netNS attachment.pod.uid
    (answers.lockdown attachment.key))

def lockdownError : Option String :=
  if answers.lockdown attachment.key then none else some "install lockdown"

/-- SOURCE: nodeagent/service.go:535-543 -/
def lockdownAttachments : Script :=
  { actions := attachments.map (lockdownOne answers)
    error := joinErrors (attachments.map (lockdownError answers)) }

/-- SOURCE: nodeagent/service.go:527-533 -/
def quarantineAttachmentGroup (cause : String) : Script :=
  let (live, classifyErr) := liveAttachments node answers attachments
  let lockdown := lockdownAttachments answers live
  { actions := attachments.flatMap (fun attachment =>
      s.observeNotReady (answers.observed attachment.key) attachment.pod.uid answers.now) ++
        lockdown.actions
    error := joinErrors [some cause, classifyErr, lockdown.error] }

def cleanupOk : Bool :=
  answers.cleanupDenied attachment.key && answers.cleanupRest attachment.key

def cleanupOne : AgentAction :=
  .program (.cleanup attachment.pod.netNS attachment.pod.uid
    (answers.cleanupDenied attachment.key) (cleanupOk answers attachment))

/-- The deletions of a group's records; a failed one is an error and leaves its record.
SOURCE: nodeagent/service.go:499-507, 575-583 -/
def deleteAttachments : Script :=
  { actions := attachments.flatMap fun attachment =>
      if (answers.deleteFailure attachment.key).isSome then [] else [.delete attachment.key]
    error := joinErrors (attachments.map fun attachment => answers.deleteFailure attachment.key) }

/-- SOURCE: nodeagent/service.go:545-586 -/
def withdrawAttachmentGroup (canonical : PodIdentity) (attachments : List Attachment) : Script :=
  let (live, classifyErr) := liveAttachments node answers attachments
  match classifyErr with
  | some err => .fail err
  | none =>
    let cleanups := live.map (cleanupOne answers)
    if live.all (cleanupOk answers) = false then
      { actions := cleanups, error := some "clean live attachments" }
    else
      let deletions := deleteAttachments answers attachments
      let forget := if deletions.error.isSome then [] else [AgentAction.forget canonical.uid]
      let report := s.reportWithdrawal answers.withdrawal canonical.uid answers.publishFailure
        answers.now []
      if report.error.isSome then before cleanups report
      else
        { actions := cleanups ++ report.actions ++ deletions.actions ++ forget
          error := deletions.error }

/-- The last part of a group's reconcile: the exact Ready sandbox is programmed, and only then are
the records of older attempts removed.
SOURCE: nodeagent/service.go:466-509 -/
def reconcileCurrent (current : Attachment) (binding : VPNWorkloadBinding) : Script :=
  let requested := bindingReference binding
  let adopting : Bool := current.bindingGeneration != requested.generation
  let program := if adopting then s.prepare parsers node answers.program current.pod requested
    else s.check parsers node answers.program current.pod requested
  match program.error with
  | some err =>
    { actions := program.actions ++ [s.observe binding false answers.now], error := some err }
  | none =>
    let superseded := attachments.filter fun attachment =>
      !(attachment.key == current.key ||
        attachment.phase == .lockedDown && attachmentIsYoung attachment answers.now)
    if adopting then
      match answers.saveFailure with
      | some err =>
        { actions := program.actions ++
            [lockdownOne answers current, s.observe binding false answers.now]
          error := joinErrors
            [some ("persist adopted binding generation: " ++ err), lockdownError answers current] }
      | none =>
        let adopted := { current with
          bindingGeneration := requested.generation, updatedAt := answers.now }
        before (program.actions ++ [.save adopted]) (deleteAttachments answers superseded)
    else before program.actions (deleteAttachments answers superseded)

/-- The part of a group's reconcile for a Pod that is there and not terminating.
SOURCE: nodeagent/service.go:436-464 -/
def reconcileLive (first : Attachment) (attachments : List Attachment) (pod : Pod) : Script :=
  let notReady := s.observeNotReady (answers.observed first.key) first.pod.uid answers.now
  let (live, classifyErr) := liveAttachments node answers attachments
  let lockdown := lockdownAttachments answers live
  match classifyErr with
  | some err =>
    { actions := notReady ++ lockdown.actions, error := joinErrors [some err, lockdown.error] }
  | none =>
    match live with
    | [] => { actions := notReady, error := none }
    | current :: others =>
      if others ≠ [] then
        { actions := notReady ++ lockdown.actions
          error := joinErrors
            [some "multiple live sandboxes exist for one Pod UID", lockdown.error] }
      else if current.phase = .lockedDown then
        if attachmentIsYoung current answers.now then { actions := notReady, error := none }
        else
          { actions := notReady ++ [lockdownOne answers current]
            error := lockdownError answers current }
      else match s.binding answers.binding pod with
        | .error err =>
          { actions := lockdownOne answers current :: notReady
            error := joinErrors [some "durable attachment binding was revoked or replaced",
              some err.text, lockdownError answers current] }
        | .ok binding =>
          if binding.uid ≠ current.bindingUID ∨ binding.spec.gatewayRef.uid ≠ current.gatewayUID
          then
            { actions := [lockdownOne answers current, s.observe binding false answers.now]
              error := joinErrors [some "durable attachment binding was revoked or replaced",
                lockdownError answers current] }
          else s.reconcileCurrent parsers node answers attachments current binding

/-- `reconcileAttachmentGroup` on a group in its order.
SOURCE: nodeagent/service.go:412-509 -/
def reconcileAttachmentGroup : Script :=
  match attachments with
  | [] => .done
  | first :: rest =>
    let canonical := first.pod
    if rest.any fun attachment => attachment.pod.namespaceName != canonical.namespaceName ||
        attachment.pod.name != canonical.name then
      s.quarantineAttachmentGroup node answers attachments
        "durable attachments disagree on Pod namespace or name"
    else match s.pod answers.pod canonical with
      | .error err =>
        if exactPodAbsent err then s.withdrawAttachmentGroup node answers canonical attachments
        else
          { actions := s.observeNotReady (answers.observed first.key) canonical.uid answers.now
            error := some err.text }
      | .ok pod =>
        if pod.deletionTimestamp.isSome then
          s.withdrawAttachmentGroup node answers canonical attachments
        else s.reconcileLive parsers node answers first attachments pod

/-- The order of a group: by network, container and interface.
SOURCE: nodeagent/service.go:413-422 -/
def attachmentLess (left right : AttachmentKey) : Bool :=
  if left.network ≠ right.network then left.network < right.network
  else if left.containerID ≠ right.containerID then left.containerID < right.containerID
  else left.ifName < right.ifName

/-- The attachments of one Pod UID, in their order. -/
def attachmentGroup (podUID : ObjectUID) : List Attachment :=
  (attachments.filter fun attachment => attachment.pod.uid = podUID).insertionSort
    fun left right => attachmentLess right.key left.key = false

/-- The Pod UIDs of the attachments, in order.
SOURCE: nodeagent/service.go:390-402 -/
def groupedPodUIDs : List ObjectUID :=
  (attachments.map (·.pod.uid)).dedup.insertionSort (· ≤ ·)

structure ReconcileAnswers where
  listFailure : Option String
  group : ObjectUID → GroupAnswers
  held : LockdownAnswers

/-- SOURCE: nodeagent/service.go:376-410 -/
def reconcileAll (answers : ReconcileAnswers) : Script :=
  if s.transitionHeld then s.lockdownAll node answers.held
  else match answers.listFailure with
    | some err => .fail ("list durable CNI attachments: " ++ err)
    | none =>
      let attachments := node.attachments.entries.filter fun attachment =>
        attachment.pod.uid != "" && attachment.pod.netNS != ""
      Script.all ((groupedPodUIDs attachments).map fun podUID =>
        let script := s.reconcileAttachmentGroup parsers node (answers.group podUID)
          (attachmentGroup attachments podUID)
        { script with
          error := script.error.map fun err => "reconcile Pod UID \"" ++ podUID ++ "\": " ++ err })

end NodeService

/-! ## Runs of one agent -/

/-- The operations of one agent, and what changes around it: its health flags, the durable
attachments the CNI plugin writes, and the node's namespaces. -/
inductive AgentEvent where
  | prepare (identity : PodIdentity) (requested : BindingReference)
      (answers : NodeService.ProgramAnswers)
  | check (identity : PodIdentity) (requested : BindingReference)
      (answers : NodeService.ProgramAnswers)
  | withdraw (identity : PodIdentity) (answers : NodeService.WithdrawAnswers)
  | reconcileAll (answers : NodeService.ReconcileAnswers)
  | lockdownAll (answers : NodeService.LockdownAnswers)
  | health (relay backend : Bool)
  | environment (attachments : KeyedStore Attachment.key) (namespaces : String → Option String)

/-- The script of an operation. -/
def NodeService.script (s : NodeService) (parsers : NetworkParsers) (node : Node) : AgentEvent → Script
  | .prepare identity requested answers => s.servePrepare parsers node answers identity requested
  | .check identity requested answers => s.serveCheck parsers node answers identity requested
  | .withdraw identity answers => s.withdraw node answers identity
  | .reconcileAll answers => s.reconcileAll parsers node answers
  | .lockdownAll answers => s.lockdownAll node answers
  | .health _ _ => .done
  | .environment _ _ => .done

def Node.next (s : NodeService) (parsers : NetworkParsers) (node : Node) (event : AgentEvent) :
    Node × Script :=
  let script := s.script parsers node event
  match event with
  | .health relay backend =>
    ({ node with relayHealthy := relay, backendHealthy := backend }, script)
  | .environment attachments namespaces => ({ node with attachments, namespaces }, script)
  | _ => (node.applyAll script.actions, script)

/-- An agent that has observed nothing yet; the calls an earlier agent issued may be anything. -/
def Node.Fresh (node : Node) : Prop := ∀ podUID, node.observations podUID = none

def agentRun (s : NodeService) (parsers : NetworkParsers) (node : Node) (events : List AgentEvent) :
    List (Record Node AgentEvent Script) :=
  exec (Node.next s parsers) node events

end Waycloak.Model
