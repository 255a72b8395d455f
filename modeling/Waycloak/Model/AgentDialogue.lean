import Waycloak.Computation.Dialogue
import Waycloak.Model.NodeAgent

/-!
# The node agent, call by call

The operations of the node agent as dialogues with everything outside it: the API, the programmer,
the attachment store, the publisher, the clock, and its own memory of observations. Each answer is
whatever it is at that moment: a network-namespace path may name another sandbox at the next call,
and a read may show another object.

A call of the programmer carries the Pod identity whose path and UID the code passes, and `Identity`
the attachment whose path it passes.
-/

set_option autoImplicit false

namespace Waycloak.Model

open Waycloak.Computation

inductive AgentCall where
  | ready
  | now
  | listAttachments
  | saveAttachment (attachment : Attachment)
  | deleteAttachment (key : AttachmentKey)
  | identity (attachment : Attachment)
  | installLockdown (pod : PodIdentity)
  | configure (pod : PodIdentity) (config : Config)
  | verify (pod : PodIdentity) (config : Config)
  | cleanup (pod : PodIdentity)
  | readPod (namespaceName : NamespaceName) (name : ObjectName)
  | readBinding (namespaceName : NamespaceName) (podUID : ObjectUID)
  | listBindings
  | publish (observation : NodeObservation)
  | observe (observation : NodeObservation)
  | forget (podUID : ObjectUID)

/-- What is answered. A missing namespace is `.ok none`; a cleanup says whether its denial took effect
and whether all of it succeeded. -/
@[reducible] def AgentCall.Answer : AgentCall → Type
  | .ready => Bool
  | .now => Time
  | .listAttachments => Except String (List Attachment)
  | .saveAttachment _ => Option String
  | .deleteAttachment _ => Option String
  | .identity _ => Except String (Option String)
  | .installLockdown _ => Bool
  | .configure _ _ => Bool
  | .verify _ _ => Bool
  | .cleanup _ => Bool × Bool
  | .readPod _ _ => Except ReadError Pod
  | .readBinding _ _ => Except ReadError VPNWorkloadBinding
  | .listBindings => Except String (List VPNWorkloadBinding)
  | .publish _ => Option String
  | .observe _ => Unit
  | .forget _ => Unit

abbrev AgentDialogue := Dialogue AgentCall.Answer
abbrev AgentExchange := Exchange AgentCall.Answer

namespace AgentDialogue

open Dialogue

/-! ### Calls -/

def isReady : AgentDialogue Bool := request AgentCall.ready
def now : AgentDialogue Time := request AgentCall.now
def listAttachments : AgentDialogue (Except String (List Attachment)) :=
  request AgentCall.listAttachments
def saveAttachment (attachment : Attachment) : AgentDialogue (Option String) :=
  request (AgentCall.saveAttachment attachment)
def deleteAttachment (key : AttachmentKey) : AgentDialogue (Option String) :=
  request (AgentCall.deleteAttachment key)
def identity (attachment : Attachment) : AgentDialogue (Except String (Option String)) :=
  request (AgentCall.identity attachment)
def installLockdown (pod : PodIdentity) : AgentDialogue Bool :=
  request (AgentCall.installLockdown pod)
def configure (pod : PodIdentity) (config : Config) : AgentDialogue Bool :=
  request (AgentCall.configure pod config)
def verify (pod : PodIdentity) (config : Config) : AgentDialogue Bool :=
  request (AgentCall.verify pod config)
def cleanup (pod : PodIdentity) : AgentDialogue (Bool × Bool) := request (AgentCall.cleanup pod)
def readPod (namespaceName : NamespaceName) (name : ObjectName) :
    AgentDialogue (Except ReadError Pod) :=
  request (AgentCall.readPod namespaceName name)
def readBinding (namespaceName : NamespaceName) (podUID : ObjectUID) :
    AgentDialogue (Except ReadError VPNWorkloadBinding) :=
  request (AgentCall.readBinding namespaceName podUID)
def listBindings : AgentDialogue (Except String (List VPNWorkloadBinding)) :=
  request AgentCall.listBindings
def publish (observation : NodeObservation) : AgentDialogue (Option String) :=
  request (AgentCall.publish observation)
def remember (observation : NodeObservation) : AgentDialogue Unit :=
  request (AgentCall.observe observation)
def forget (podUID : ObjectUID) : AgentDialogue Unit := request (AgentCall.forget podUID)

/-! ### Reads -/

variable (s : NodeService) (parsers : NetworkParsers)

/-- SOURCE: nodeagent/service.go:725-738 -/
def observe (binding : VPNWorkloadBinding) (ready : Bool) : AgentDialogue NodeObservation := do
  let now ← now
  let observation := s.observation binding ready now
  remember observation
  return observation

/-- SOURCE: nodeagent/service.go:634-652 -/
def pod (identity : PodIdentity) : AgentDialogue (Except AgentError Pod) :=
  match identity.validate with
  | .error err => return .error (.podIdentityInvalid err)
  | .ok () =>
    if s.nodeName = "" then
      return .error (.podIdentityInvalid "node agent dependencies are incomplete")
    else do
      let read ← readPod identity.namespaceName identity.name
      return s.pod read identity

variable (attachment : Attachment) (namespaceName : NamespaceName) (attachments : List Attachment)
  (podUID : ObjectUID)

/-- SOURCE: nodeagent/service.go:665-678 -/
def rawBinding : AgentDialogue (Except AgentError VPNWorkloadBinding) := do
  let read ← readBinding namespaceName podUID
  return NodeService.rawBinding read podUID

/-- SOURCE: nodeagent/service.go:654-663 -/
def binding (pod : Pod) : AgentDialogue (Except AgentError VPNWorkloadBinding) := do
  let read ← readBinding pod.namespaceName pod.uid
  return s.binding read pod

/-- SOURCE: nodeagent/service.go:612-632 -/
def authority (s : NodeService) (parsers : NetworkParsers) (identity : PodIdentity)
    (requested : BindingReference) :
    AgentDialogue (Except AgentError (VPNWorkloadBinding × Config)) :=
  match requested.validate identity.uid with
  | .error err => return .error (.other err)
  | .ok () => do
    match ← pod s identity with
    | .error err => return .error err
    | .ok pod =>
      match ← binding s pod with
      | .error err => return .error err
      | .ok binding =>
        if NodeService.bindingReference binding ≠ requested then
          return .error (.other "requested binding identity or generation is stale")
        else match configFromBinding parsers binding with
          | .error err => return .error (.other err)
          | .ok config => return .ok (binding, config)

/-! ### Prepare and Check -/

/-- `prepare` once `authority` has answered. SOURCE: nodeagent/service.go:150-170 -/
def prepareGranted (identity : PodIdentity) :
    Except AgentError (VPNWorkloadBinding × Config) → AgentDialogue (Option String)
  | .error err => return some err.text
  | .ok (binding, config) => do
    match ← installLockdown identity with
    | false => return some "re-establish deny-first state"
    | true =>
      match ← configure identity config with
      | false =>
        let _ ← installLockdown identity
        let _ ← observe s binding false
        return some "program protected path with deny retained"
      | true =>
        match ← verify identity config with
        | false =>
          let _ ← installLockdown identity
          let _ ← observe s binding false
          return some "verify protected path before startup"
        | true =>
          let _ ← observe s binding true
          return none

/-- SOURCE: nodeagent/service.go:149-170 -/
def prepare (identity : PodIdentity)
    (requested : BindingReference) : AgentDialogue (Option String) := do
  let granted ← authority s parsers identity requested
  prepareGranted s identity granted

/-- `check` once `authority` has answered. SOURCE: nodeagent/service.go:181-205 -/
def checkGranted (identity : PodIdentity) :
    Except AgentError (VPNWorkloadBinding × Config) → AgentDialogue (Option String)
  | .error err => do
    let _ ← installLockdown identity
    return some err.text
  | .ok (binding, config) => do
    match ← verify identity config with
    | true =>
      let _ ← observe s binding true
      return none
    | false =>
      match ← installLockdown identity with
      | false =>
        let _ ← observe s binding false
        return some "restore deny-first state after drift"
      | true =>
        match ← configure identity config with
        | false =>
          let _ ← observe s binding false
          return some "repair protected path"
        | true =>
          match ← verify identity config with
          | false =>
            let _ ← installLockdown identity
            let _ ← observe s binding false
            return some "verify repaired protected path"
          | true =>
            let _ ← observe s binding true
            return none

/-- SOURCE: nodeagent/service.go:180-205 -/
def check (identity : PodIdentity)
    (requested : BindingReference) : AgentDialogue (Option String) := do
  let granted ← authority s parsers identity requested
  checkGranted s identity granted

/-- SOURCE: nodeagent/service.go:142-147 -/
def servePrepare (identity : PodIdentity)
    (requested : BindingReference) : AgentDialogue (Option String) := do
  match ← isReady with
  | false => return some "node backend or controller observation relay is unavailable"
  | true => prepare s parsers identity requested

/-- SOURCE: nodeagent/service.go:172-178 -/
def serveCheck (identity : PodIdentity)
    (requested : BindingReference) : AgentDialogue (Option String) := do
  match ← isReady with
  | false =>
    let _ ← installLockdown identity
    return some "node backend or controller observation relay is unavailable"
  | true => check s parsers identity requested

/-! ### LockdownAll -/

/-- SOURCE: nodeagent/service.go:588-592 -/
def observeNotReady : AgentDialogue Unit := do
  match ← rawBinding namespaceName podUID with
  | .error _ => return ()
  | .ok binding =>
    let _ ← observe s binding false
    return ()

/-- SOURCE: nodeagent/service.go:236-255 -/
def lockdownAttachment : AgentDialogue (Option String) := do
  match ← identity attachment with
  | .error err => return some ("observe durable attachment namespace: " ++ err)
  | .ok namespaceIdentity =>
    if namespaceIdentity ≠ some attachment.namespaceIdentity then return none
    else
      match ← installLockdown attachment.pod with
      | false => return some "install lockdown"
      | true =>
        observeNotReady s attachment.pod.namespaceName attachment.pod.uid
        return none

/-- SOURCE: nodeagent/service.go:256-281 -/
def observeNodeBindings : AgentDialogue (Option String) := do
  match ← listBindings with
  | .error err => return some ("list node bindings for withdrawal: " ++ err)
  | .ok bindings =>
    let _ ← each (fun binding => observe s binding false) (bindings.filter s.reportable)
    return none

/-- SOURCE: nodeagent/service.go:229-283 -/
def lockdownAll : AgentDialogue (Option String) := do
  match ← listAttachments with
  | .error err => return some err
  | .ok attachments =>
    let errs ← each (lockdownAttachment s) attachments
    let err ← observeNodeBindings s
    return joinErrors (errs ++ [err])

/-! ### Withdraw -/

/-- `withdrawalBinding` and the report of a withdrawal, published before it is forgotten.
SOURCE: nodeagent/service.go:316-335, 361-374 -/
def reportWithdrawal : AgentDialogue (Option String) := do
  let read ← readBinding namespaceName podUID
  match NodeService.withdrawalBinding read podUID with
  | .error err => return some err
  | .ok none => return none
  | .ok (some binding) =>
    if s.publisher = false then return some "synchronous withdrawal publisher is unavailable"
    else
      let observation ← observe s binding false
      match ← publish observation with
      | some err => return some ("publish exact attachment withdrawal: " ++ err)
      | none => return none

/-- SOURCE: nodeagent/service.go:308-314 -/
def closeSandbox (gone : Bool) : AgentDialogue (Option String) := do
  if gone then
    match ← cleanup attachment.pod with
    | (_, false) => return some "clean terminating exact attachment"
    | (_, true) => return none
  else
    match ← installLockdown attachment.pod with
    | false => return some "withdraw allow path while retaining deny"
    | true => return none

/-- The lockdown or cleanup of a withdrawal, in the recorded namespace only.
SOURCE: nodeagent/service.go:302-315 -/
def withdrawSandbox (gone : Bool) : AgentDialogue (Option String) := do
  match ← identity attachment with
  | .error err => return some ("observe exact attachment namespace for withdrawal: " ++ err)
  | .ok namespaceIdentity =>
    if namespaceIdentity ≠ some attachment.namespaceIdentity then return none
    else closeSandbox attachment gone

/-- The withdrawal once the Pod is known. SOURCE: nodeagent/service.go:302-335 -/
def withdrawKnown (gone : Bool) : AgentDialogue (Option String) := do
  match ← withdrawSandbox attachment gone with
  | some err => return some err
  | none =>
    match ← reportWithdrawal s attachment.pod.namespaceName attachment.pod.uid with
    | some err => return some err
    | none =>
      forget attachment.pod.uid
      return none

/-- SOURCE: nodeagent/service.go:295-335 -/
def withdrawAttachment : AgentDialogue (Option String) := do
  match ← pod s attachment.pod with
  | .ok pod => withdrawKnown s attachment pod.deletionTimestamp.isSome
  | .error err =>
    if NodeService.exactPodAbsent err then withdrawKnown s attachment true else return some err.text

/-- SOURCE: nodeagent/service.go:284-293, 347-358 -/
def withdraw (identity : PodIdentity) : AgentDialogue (Option String) :=
  match identity.validate with
  | .error err => return some err
  | .ok () => do
    match ← listAttachments with
    | .error err => return some ("list durable attachments for withdrawal: " ++ err)
    | .ok attachments =>
      match attachments.find? fun attachment => attachment.pod = identity with
      | none => return some "exact durable attachment is unavailable"
      | some attachment => withdrawAttachment s attachment

/-! ### ReconcileAll -/

/-- One namespace of a group: the attachment if it is live, and the error of its observation.
SOURCE: nodeagent/service.go:514-523 -/
def observeNamespace : AgentDialogue (Option Attachment × Option String) := do
  match ← identity attachment with
  | .error err =>
    return (none, some ("observe durable attachment namespace \"" ++ attachment.pod.netNS ++ "\": " ++
      err))
  | .ok namespaceIdentity =>
    return (if namespaceIdentity = some attachment.namespaceIdentity then some attachment else none,
      none)

/-- SOURCE: nodeagent/service.go:511-525 -/
def liveAttachments : AgentDialogue (List Attachment × Option String) := do
  let observed ← each observeNamespace attachments
  return (observed.filterMap Prod.fst, joinErrors (observed.map Prod.snd))

def lockdownOne : AgentDialogue (Option String) := do
  match ← installLockdown attachment.pod with
  | false => return some "install lockdown"
  | true => return none

/-- SOURCE: nodeagent/service.go:535-543 -/
def lockdownAttachments : AgentDialogue (Option String) := do
  let errs ← each lockdownOne attachments
  return joinErrors errs

/-- SOURCE: nodeagent/service.go:527-533 -/
def quarantineAttachmentGroup (cause : String) : AgentDialogue (Option String) := do
  let (live, classifyErr) ← liveAttachments attachments
  let _ ← each (fun attachment =>
    observeNotReady s attachment.pod.namespaceName attachment.pod.uid) attachments
  let lockErr ← lockdownAttachments live
  return joinErrors [some cause, classifyErr, lockErr]

def cleanupOne : AgentDialogue (Option String) := do
  match ← cleanup attachment.pod with
  | (_, false) => return some "clean live attachment"
  | (_, true) => return none

def deleteOne : AgentDialogue (Option String) :=
  deleteAttachment attachment.key

/-- SOURCE: nodeagent/service.go:545-586 -/
def withdrawAttachmentGroup (canonical : PodIdentity)
    (attachments : List Attachment) : AgentDialogue (Option String) := do
  let (live, classifyErr) ← liveAttachments attachments
  match classifyErr with
  | some err => return some err
  | none =>
    let cleanupErrs ← each cleanupOne live
    match joinErrors cleanupErrs with
    | some err => return some err
    | none =>
      match ← reportWithdrawal s canonical.namespaceName canonical.uid with
      | some err => return some err
      | none =>
        let deleteErrs ← each deleteOne attachments
        match joinErrors deleteErrs with
        | some err => return some err
        | none =>
          forget canonical.uid
          return none

/-- The removal of a superseded record, which a young locked-down record escapes.
SOURCE: nodeagent/service.go:500-506 -/
def removeSuperseded (current attachment : Attachment) : AgentDialogue (Option String) :=
  if attachment.key = current.key then return none
  else if attachment.phase = .lockedDown then do
    let now ← now
    if NodeService.attachmentIsYoung attachment now then return none
    else deleteOne attachment
  else deleteOne attachment

/-- SOURCE: nodeagent/service.go:499-509 -/
def removeAllSuperseded (current : Attachment) : AgentDialogue (Option String) := do
  let errs ← each (removeSuperseded current) attachments
  return joinErrors errs

/-- A record of another generation is prepared anew. SOURCE: nodeagent/service.go:476-480 -/
def programCurrent (current : Attachment)
    (requested : BindingReference) : AgentDialogue (Option String) :=
  if current.bindingGeneration ≠ requested.generation then prepare s parsers current.pod requested
  else check s parsers current.pod requested

/-- SOURCE: nodeagent/service.go:474-509 -/
def reconcileCurrent
    (current : Attachment) (binding : VPNWorkloadBinding) : AgentDialogue (Option String) := do
  let requested := NodeService.bindingReference binding
  match ← programCurrent s parsers current requested with
  | some err =>
    let _ ← observe s binding false
    return some err
  | none =>
    if current.bindingGeneration ≠ requested.generation then
      let now ← now
      match ← saveAttachment { current with
          bindingGeneration := requested.generation, updatedAt := now } with
      | some err =>
        let lockErr ← lockdownOne current
        let _ ← observe s binding false
        return joinErrors [some ("persist adopted binding generation: " ++ err), lockErr]
      | none => removeAllSuperseded attachments current
    else removeAllSuperseded attachments current

/-- SOURCE: nodeagent/service.go:453-467 -/
def reconcileSandbox (canonical : PodIdentity)
    (attachments : List Attachment) (current : Attachment) (pod : Pod) :
    AgentDialogue (Option String) := do
  if current.phase = .lockedDown then
    observeNotReady s canonical.namespaceName canonical.uid
    let now ← now
    if NodeService.attachmentIsYoung current now then return none
    else lockdownOne current
  else
    match ← binding s pod with
    | .error err =>
      let lockErr ← lockdownOne current
      observeNotReady s canonical.namespaceName canonical.uid
      return joinErrors [some "durable attachment binding was revoked or replaced", some err.text,
        lockErr]
    | .ok binding =>
      if binding.uid ≠ current.bindingUID ∨ binding.spec.gatewayRef.uid ≠ current.gatewayUID then
        let lockErr ← lockdownOne current
        let _ ← observe s binding false
        return joinErrors [some "durable attachment binding was revoked or replaced", lockErr]
      else reconcileCurrent s parsers attachments current binding

/-- SOURCE: nodeagent/service.go:436-451 -/
def reconcileLive (canonical : PodIdentity)
    (attachments : List Attachment) (pod : Pod) : AgentDialogue (Option String) := do
  let (live, classifyErr) ← liveAttachments attachments
  match classifyErr, live with
  | some err, live =>
    observeNotReady s canonical.namespaceName canonical.uid
    let lockErr ← lockdownAttachments live
    return joinErrors [some err, lockErr]
  | none, [] =>
    observeNotReady s canonical.namespaceName canonical.uid
    return none
  | none, [current] => reconcileSandbox s parsers canonical attachments current pod
  | none, live =>
    observeNotReady s canonical.namespaceName canonical.uid
    let lockErr ← lockdownAttachments live
    return joinErrors [some "multiple live sandboxes exist for one Pod UID", lockErr]

/-- The order of a group. SOURCE: nodeagent/service.go:413-422 -/
def sortAttachments : List Attachment :=
  attachments.insertionSort fun left right => NodeService.attachmentLess right.key left.key = false

/-- SOURCE: nodeagent/service.go:412-509 -/
def reconcileAttachmentGroup (group : List Attachment) : AgentDialogue (Option String) :=
  match sortAttachments group with
  | [] => return none
  | first :: rest => do
    let canonical := first.pod
    if rest.any fun attachment => attachment.pod.namespaceName != canonical.namespaceName ||
        attachment.pod.name != canonical.name then
      quarantineAttachmentGroup s (first :: rest)
        "durable attachments disagree on Pod namespace or name"
    else
      match ← pod s canonical with
      | .error err =>
        if NodeService.exactPodAbsent err then withdrawAttachmentGroup s canonical (first :: rest)
        else
          observeNotReady s canonical.namespaceName canonical.uid
          return some err.text
      | .ok pod =>
        if pod.deletionTimestamp.isSome then withdrawAttachmentGroup s canonical (first :: rest)
        else reconcileLive s parsers canonical (first :: rest) pod

/-- SOURCE: nodeagent/service.go:376-410 -/
def reconcileAll : AgentDialogue (Option String) :=
  if s.transitionHeld then lockdownAll s
  else do
    match ← listAttachments with
    | .error err => return some ("list durable CNI attachments: " ++ err)
    | .ok stored =>
      let attachments := stored.filter fun attachment =>
        attachment.pod.uid != "" && attachment.pod.netNS != ""
      let errs ← each (fun podUID => do
        let err ← reconcileAttachmentGroup s parsers
          (attachments.filter fun attachment => attachment.pod.uid = podUID)
        return err.map fun err => "reconcile Pod UID \"" ++ podUID ++ "\": " ++ err)
        (NodeService.groupedPodUIDs attachments)
      return joinErrors errs

end AgentDialogue

/-- The operations of the node agent. -/
inductive AgentOperation where
  | prepare (identity : PodIdentity) (requested : BindingReference)
  | check (identity : PodIdentity) (requested : BindingReference)
  | withdraw (identity : PodIdentity)
  | reconcileAll
  | lockdownAll

def AgentOperation.dialogue (s : NodeService) (parsers : NetworkParsers) :
    AgentOperation → AgentDialogue (Option String)
  | .prepare identity requested => AgentDialogue.servePrepare s parsers identity requested
  | .check identity requested => AgentDialogue.serveCheck s parsers identity requested
  | .withdraw identity => AgentDialogue.withdraw s identity
  | .reconcileAll => AgentDialogue.reconcileAll s parsers
  | .lockdownAll => AgentDialogue.lockdownAll s

end Waycloak.Model
