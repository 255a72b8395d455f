import Waycloak.Interface.AgentSteps
import Waycloak.Model.Plugin

/-!
# What the CNI plugin's operations do, action by action

One inversion lemma for each part of `Add`, and the actions of `Delete`, of `GC` and of the agent's
operations as far as they change durable records.
-/

set_option autoImplicit false

namespace Waycloak.Interface

open Waycloak.Model Waycloak.Computation

variable {a : Attachment} {action : AgentAction} {answers : Plugin.DeleteAnswers}
  {podUID : ObjectUID} {script : Script} {node : Node} {s : NodeService}
variable {identity : PodIdentity} {key : AttachmentKey} {attachments : List Attachment}
  {parsers : NetworkParsers}

/-! ## Requests to the agent -/

theorem delivered_actions (script : Script) (delivery : Delivery) :
    (script.delivered delivery).actions = [] ∨
      delivery ≠ .undelivered ∧ (script.delivered delivery).actions = script.actions := by
  cases delivery with
  | undelivered => exact Or.inl rfl
  | unanswered => exact Or.inr ⟨nofun, rfl⟩
  | answered => exact Or.inr ⟨nofun, rfl⟩

/-- INTERNAL: a request to the agent that succeeds was answered, and answered well. -/
theorem delivered_done {delivery : Delivery} (h : (script.delivered delivery).error = none) :
    script.delivered delivery = script ∧ script.error = none := by
  cases delivery with
  | undelivered => cases h
  | unanswered => cases h
  | answered => exact ⟨rfl, h⟩

/-! ## Add -/

section Add

variable {request : CNIRequest}

/-- The cases of the denial with which `Add` begins, if it reaches the sandbox or not. -/
inductive DenialOf (reached : Bool) (answers : Plugin.AddBeginAnswers) (request : CNIRequest)
    (namespaceIdentity : String) : Script → Option Plugin.AddProgress → Prop
  | unlocked (err : String) (hreached : reached = false) :
      DenialOf reached answers request namespaceIdentity
        { actions := [.program (.installLockdown request.pod.netNS request.pod.uid false)]
          error := some err } none
  | unrecorded (err : String) :
      DenialOf reached answers request namespaceIdentity
        { actions := [.program (.installLockdown request.pod.netNS request.pod.uid true),
            .program (.cleanup request.pod.netNS request.pod.uid answers.rollbackDenied
              (answers.rollbackDenied && answers.rollbackRest))]
          error := some err } none
  | recorded (attachment : Attachment) (hnetwork : attachment.network = request.network)
      (hpod : attachment.pod = request.pod)
      (hidentity : attachment.namespaceIdentity = namespaceIdentity)
      (hphase : attachment.phase = .lockedDown) :
      DenialOf reached answers request namespaceIdentity
        { actions := [.program (.installLockdown request.pod.netNS request.pod.uid true),
            .save attachment]
          error := none }
        (some { attachment, stage := .denied })

/-- INTERNAL: the inversion of the denial. -/
theorem denyAndRecord_cases (node : Node) (answers : Plugin.AddBeginAnswers) (request : CNIRequest)
    (namespaceIdentity : String) :
    DenialOf (node.reaches request.pod.netNS answers.lockdown) answers request namespaceIdentity
      (Plugin.denyAndRecord node answers request namespaceIdentity).1
      (Plugin.denyAndRecord node answers request namespaceIdentity).2 := by
  unfold Plugin.denyAndRecord
  dsimp only
  split
  · next hreached => exact .unlocked _ hreached
  split
  · exact .unrecorded _
  · exact .recorded _ rfl rfl rfl rfl

/-- INTERNAL: a record that passes the check is of the very sandbox. -/
theorem sameAttachment_ok {namespaceIdentity : String}
    (h : Plugin.sameAttachment a request namespaceIdentity = .ok ()) :
    a.network = request.network ∧ a.pod = request.pod ∧ a.namespaceIdentity = namespaceIdentity := by
  unfold Plugin.sameAttachment at h
  split at h
  · cases h
  next hidentity =>
  split at h
  · cases h
  · next hnamespace =>
    simp only [not_or, ne_eq, not_not] at hidentity hnamespace
    exact ⟨hidentity.1, hidentity.2, hnamespace⟩

/-- INTERNAL: no action changes which calls reach a namespace. -/
theorem reaches_applyAll (node : Node) (actions : List AgentAction) (netNS : String)
    (answer : Bool) : (node.applyAll actions).reaches netNS answer = node.reaches netNS answer := by
  simp [Node.reaches]

/-- The agent says that the Pod is not enrolled, and no record of it is found. -/
structure Unenrolled (s : NodeService) (node : Node) (answers : Plugin.AddBeginAnswers)
    (request : CNIRequest) : Prop where
  valid : request.validate = .ok ()
  identity : answers.identityFailure = none
  sandbox : (node.namespaces request.pod.netNS).isSome
  load : answers.loadFailure = none
  find : node.attachments.find request.key = none
  list : answers.listFailure = none
  prior : Plugin.hasPriorEnrollment node request = false
  resolved : ∃ resolution, Plugin.resolvePod s answers request.pod = .ok resolution ∧
    resolution.podUID = request.pod.uid ∧ resolution.enrolled = false

/-- INTERNAL: `Add` succeeds at once for a Pod that is not enrolled. -/
theorem Unenrolled.addBegin {answers : Plugin.AddBeginAnswers}
    (h : Unenrolled s node answers request) :
    Plugin.addBegin s parsers node answers request = (.done, none) := by
  obtain ⟨namespaceIdentity, hnamespace⟩ := Option.isSome_iff_exists.mp h.sandbox
  obtain ⟨resolution, hresolve, huid, henrolled⟩ := h.resolved
  simp [Plugin.addBegin, Node.identity, h.valid, h.identity, hnamespace, h.load, h.find, h.list,
    h.prior, hresolve, huid, henrolled]

/-- `Add` finds a ready record of its exact sandbox and has the agent check it. -/
structure Rechecks (node : Node) (answers : Plugin.AddBeginAnswers) (request : CNIRequest)
    (existing : Attachment) : Prop where
  valid : request.validate = .ok ()
  identity : answers.identityFailure = none
  sandbox : node.namespaces request.pod.netNS = some existing.namespaceIdentity
  load : answers.loadFailure = none
  find : node.attachments.find request.key = some existing
  network : existing.network = request.network
  pod : existing.pod = request.pod
  phase : existing.phase = .ready

/-- The answer to the check of the existing record. -/
def recheckScript (s : NodeService) (parsers : NetworkParsers) (node : Node)
    (answers : Plugin.AddBeginAnswers) (request : CNIRequest) (existing : Attachment) : Script :=
  s.serveCheck parsers node answers.check request.pod
    (Plugin.recordedBinding existing request.pod.uid)

/-- INTERNAL: `Add` ends when the check has failed and the sandbox cannot be denied. -/
theorem Rechecks.unlocked {answers : Plugin.AddBeginAnswers} {existing : Attachment}
    (h : Rechecks node answers request existing) (hlockdown : answers.lockdown = false)
    (hfailed : ((recheckScript s parsers node answers request existing).delivered
      answers.checkDelivery).error.isSome) :
    Plugin.addBegin s parsers node answers request =
      ({ actions := ((recheckScript s parsers node answers request existing).delivered
            answers.checkDelivery).actions ++
          [.program (.installLockdown request.pod.netNS request.pod.uid false)]
         error := some "install deny-first policy" }, none) := by
  obtain ⟨err, herr⟩ := Option.isSome_iff_exists.mp hfailed
  unfold recheckScript at herr ⊢
  simp [Plugin.addBegin, Node.identity, h.valid, h.identity, h.sandbox, h.load, h.find,
    Plugin.sameAttachment, h.network, h.pod, h.phase, herr, Plugin.denyAndRecord, Node.reaches,
    hlockdown, NodeService.before]

/-- **The cases of `Add` up to its first record.** It returns early (`refused`, `notEnrolled`,
`checked`), or it denies, after a check of the existing record that failed or without one. -/
inductive AddBegun (s : NodeService) (parsers : NetworkParsers) (node : Node)
    (answers : Plugin.AddBeginAnswers) (request : CNIRequest) :
    Script → Option Plugin.AddProgress → Prop
  | refused (err : String) : AddBegun s parsers node answers request (.fail err) none
  | notEnrolled (h : Unenrolled s node answers request) :
      AddBegun s parsers node answers request .done none
  | checked {existing : Attachment} {script : Script}
      (hfind : node.attachments.find request.key = some existing)
      (hnetwork : existing.network = request.network) (hpod : existing.pod = request.pod)
      (hidentity : node.namespaces request.pod.netNS = some existing.namespaceIdentity)
      (hphase : existing.phase = .ready)
      (hscript : script = s.serveCheck parsers node answers.check request.pod
        (Plugin.recordedBinding existing request.pod.uid))
      (hdone : script.error = none) : AddBegun s parsers node answers request script none
  | denied {namespaceIdentity : String} {script : Script} {progress : Option Plugin.AddProgress}
      (checked : List AgentAction)
      (hidentity : node.namespaces request.pod.netNS = some namespaceIdentity)
      (hchecked : checked = [] ∨ ∃ existing, Rechecks node answers request existing ∧
        answers.checkDelivery ≠ .undelivered ∧
        checked = (recheckScript s parsers node answers request existing).actions)
      (hdenial : DenialOf (node.reaches request.pod.netNS answers.lockdown) answers request
        namespaceIdentity script progress) :
      AddBegun s parsers node answers request (NodeService.before checked script) progress

/-- INTERNAL: **the inversion of `Add` up to its first record.** -/
theorem addBegin_cases (s : NodeService) (parsers : NetworkParsers) (node : Node)
    (answers : Plugin.AddBeginAnswers) (request : CNIRequest) :
    AddBegun s parsers node answers request (Plugin.addBegin s parsers node answers request).1
      (Plugin.addBegin s parsers node answers request).2 := by
  have hdeny {namespaceIdentity : String}
      (hidentity : node.namespaces request.pod.netNS = some namespaceIdentity) :
      AddBegun s parsers node answers request
        (Plugin.denyAndRecord node answers request namespaceIdentity).1
        (Plugin.denyAndRecord node answers request namespaceIdentity).2 :=
    .denied [] hidentity (Or.inl rfl) (denyAndRecord_cases node answers request _)
  unfold Plugin.addBegin Node.identity
  split
  · exact .refused _
  next hvalid =>
  cases hfailure : answers.identityFailure with
  | some err => exact .refused _
  | none =>
    dsimp only
    cases hidentity : node.namespaces request.pod.netNS with
    | none => exact .refused _
    | some namespaceIdentity =>
      dsimp only
      split
      · exact .refused _
      next hload =>
      split
      · next existing hfind =>
        split
        · exact .refused _
        next hsame =>
        have hsame' := sameAttachment_ok hsame
        split
        · next hphase =>
          split
          · next hdone =>
            obtain ⟨hanswered, hok⟩ := delivered_done hdone
            rw [hanswered]
            exact .checked hfind hsame'.1 hsame'.2.1
              (by rw [hidentity, hsame'.2.2]) hphase rfl hok
          · generalize hchecked : (s.serveCheck parsers node answers.check
              request.pod (Plugin.recordedBinding existing
                request.pod.uid)).delivered answers.checkDelivery = checked
            have hdenial := denyAndRecord_cases
              (node.applyAll checked.actions) answers request namespaceIdentity
            rw [reaches_applyAll] at hdenial
            refine .denied _ hidentity ?_ hdenial
            rcases delivered_actions (s.serveCheck parsers node answers.check
              request.pod (Plugin.recordedBinding existing request.pod.uid))
              answers.checkDelivery with hnone | hall
            · exact Or.inl (hchecked ▸ hnone)
            · refine Or.inr ⟨existing, ⟨hvalid, hfailure, ?_, hload, hfind, hsame'.1, hsame'.2.1,
                hphase⟩, hall.1, hchecked ▸ hall.2⟩
              rw [hidentity, hsame'.2.2]
        · exact hdeny hidentity
      · next hfind =>
        split
        · exact .refused _
        next hlist =>
        split
        · exact hdeny hidentity
        next hprior =>
        split
        · exact .refused _
        next resolution hresolve =>
        split
        · exact .refused _
        next huid =>
        split
        · next henrolled =>
          exact .notEnrolled ⟨hvalid, hfailure, by simp [hidentity],
            hload, hfind, hlist, by simpa using hprior, resolution,
            hresolve, not_not.mp huid, henrolled⟩
        · exact hdeny hidentity

/-- The cases of the wait for the binding. -/
inductive AddBound (attachment : Attachment) : Script → Option Plugin.AddProgress → Prop
  | refused (err : String) : AddBound attachment (.fail err) none
  | bound (bound : Attachment) (binding : BindingReference)
      (hkey : bound.network = attachment.network) (hpod : bound.pod = attachment.pod)
      (hidentity : bound.namespaceIdentity = attachment.namespaceIdentity)
      (hphase : bound.phase = attachment.phase)
      (hbinding : Plugin.recordedBinding bound attachment.pod.uid = binding) :
      AddBound attachment { actions := [.save bound], error := none }
        (some { attachment := bound, stage := .bound binding })

/-- INTERNAL: a valid reference names the Pod. -/
theorem bindingReference_validate {b : BindingReference} (h : b.validate podUID = .ok ()) :
    b.podUID = podUID := by
  unfold BindingReference.validate at h
  split at h
  · cases h
  · split at h
    · cases h
    · next huid => exact not_not.mp huid

/-- INTERNAL: the inversion of the wait for the binding. -/
theorem addBind_cases (s : NodeService) (answers : Plugin.AddBindAnswers)
    (attachment : Attachment) :
    AddBound attachment (Plugin.addBind s answers attachment).1
      (Plugin.addBind s answers attachment).2 := by
  unfold Plugin.addBind
  split
  · exact .refused _
  next binding hwait =>
  split
  · exact .refused _
  next hvalid =>
  dsimp only
  split
  · exact .refused _
  · refine .bound _ _ rfl rfl rfl rfl ?_
    rw [Plugin.recordedBinding, ← bindingReference_validate hvalid]

/-- INTERNAL: `Add` ends with the save of a ready record, or fails. -/
theorem addFinish_cases (attachment : Attachment) (saveFailure : Option String) (now : Time) :
    (∃ err, Plugin.addFinish attachment saveFailure now = .fail err) ∨
      Plugin.addFinish attachment saveFailure now =
        { actions := [.save { attachment with phase := .ready, updatedAt := now }]
          error := none } := by
  unfold Plugin.addFinish
  dsimp only
  split
  · exact Or.inl ⟨_, rfl⟩
  · exact Or.inr rfl

/-- `Add` has recorded its sandbox and the binding it waited for, and asks the agent. -/
def AddReaches (s : NodeService) (parsers : NetworkParsers) (node : Node)
    (answers : Plugin.AddAnswers) (request : CNIRequest) (begun : Script) (bound : Attachment)
    (binding : BindingReference) : Prop :=
  ∃ progress, Plugin.addBegin s parsers node answers.start request = (begun, some progress) ∧
    Plugin.addBind s answers.bind progress.attachment =
      ({ actions := [.save bound], error := none }, some { attachment := bound, stage := .bound binding })

/-- The answer to the `Prepare` of an `Add` that gets there. -/
def preparedScript (s : NodeService) (parsers : NetworkParsers) (node : Node)
    (answers : Plugin.AddAnswers) (begun : Script) (bound : Attachment)
    (binding : BindingReference) : Script :=
  (s.servePrepare parsers (Plugin.healthThen answers node (begun.actions ++ [.save bound]))
    answers.prepare bound.pod binding).delivered answers.prepareDelivery

/-- **The exits of `Add`.** -/
inductive Added (s : NodeService) (parsers : NetworkParsers) (node : Node)
    (answers : Plugin.AddAnswers) (request : CNIRequest) : Script → Prop
  | early {script : Script} (h : AddBegun s parsers node answers.start request script none) :
      Added s parsers node answers request script
  | unbound {begun : Script} {progress : Plugin.AddProgress} (err : String)
      (hbegun : AddBegun s parsers node answers.start request begun (some progress)) :
      Added s parsers node answers request (NodeService.before begun.actions (.fail err))
  | unprepared {begun : Script} {bound : Attachment} {binding : BindingReference}
      (hreaches : AddReaches s parsers node answers request begun bound binding) (err : String)
      (hfailed : (preparedScript s parsers node answers begun bound binding).error = some err) :
      Added s parsers node answers request (NodeService.before (begun.actions ++ [.save bound])
        (preparedScript s parsers node answers begun bound binding))
  | unsaved {begun : Script} {bound : Attachment} {binding : BindingReference}
      (hreaches : AddReaches s parsers node answers request begun bound binding)
      (hdone : (preparedScript s parsers node answers begun bound binding).error = none)
      (err : String) :
      Added s parsers node answers request
        { actions := begun.actions ++ [.save bound] ++
            (preparedScript s parsers node answers begun bound binding).actions
          error := some err }
  | finished {begun : Script} {bound : Attachment} {binding : BindingReference}
      (hreaches : AddReaches s parsers node answers request begun bound binding)
      (hdone : (preparedScript s parsers node answers begun bound binding).error = none) :
      Added s parsers node answers request
        { actions := begun.actions ++ [.save bound] ++
            (preparedScript s parsers node answers begun bound binding).actions ++
            [.save { bound with phase := .ready, updatedAt := answers.now }]
          error := none }

/-- INTERNAL: an `Add` that reaches `Prepare` ends as `Prepare` and the last save do. -/
theorem add_of_reaches {answers : Plugin.AddAnswers} {begun : Script} {bound : Attachment}
    {binding : BindingReference}
    (h : AddReaches s parsers node answers request begun bound binding) :
    Plugin.add s parsers node answers request =
      match (preparedScript s parsers node answers begun bound binding).error with
      | some _ => NodeService.before (begun.actions ++ [.save bound])
          (preparedScript s parsers node answers begun bound binding)
      | none => NodeService.before (begun.actions ++ [.save bound] ++
            (preparedScript s parsers node answers begun bound binding).actions)
          (Plugin.addFinish bound answers.saveFailure answers.now) := by
  obtain ⟨progress, hbegun, hbound⟩ := h
  unfold Plugin.add
  rw [hbegun]
  dsimp only
  rw [hbound]
  dsimp only [Plugin.addPrepare]
  rw [← preparedScript]
  cases (preparedScript s parsers node answers begun bound binding).error <;> rfl

/-- INTERNAL: **the inversion of `Add`.** -/
theorem add_cases (s : NodeService) (parsers : NetworkParsers) (node : Node)
    (answers : Plugin.AddAnswers) (request : CNIRequest) :
    Added s parsers node answers request (Plugin.add s parsers node answers request) := by
  have hbegun := addBegin_cases s parsers node answers.start request
  cases hstart : Plugin.addBegin s parsers node answers.start request with
  | mk begun progress =>
    rw [hstart] at hbegun
    cases progress with
    | none =>
      have hadd : Plugin.add s parsers node answers request = begun := by simp [Plugin.add, hstart]
      rw [hadd]
      exact .early hbegun
    | some progress =>
      have hbound := addBind_cases s answers.bind progress.attachment
      cases hbind : Plugin.addBind s answers.bind progress.attachment with
      | mk =>
        rw [hbind] at hbound
        dsimp only at hbound
        cases hbound with
        | refused err =>
          have hadd : Plugin.add s parsers node answers request =
              NodeService.before begun.actions (.fail err) := by
            simp [Plugin.add, hstart, hbind]
          rw [hadd]
          exact .unbound err hbegun
        | bound bound binding =>
          have hreaches : AddReaches s parsers node answers request begun bound binding :=
            ⟨progress, hstart, hbind⟩
          rw [add_of_reaches hreaches]
          cases herror : (preparedScript s parsers node answers begun bound binding).error with
          | some err => exact .unprepared hreaches err herror
          | none =>
            rcases addFinish_cases bound answers.saveFailure answers.now with
              ⟨err, hfinish⟩ | hfinish
            · dsimp only
              rw [hfinish]
              simpa [NodeService.before, Script.fail] using
                Added.unsaved hreaches herror err
            · dsimp only
              rw [hfinish]
              exact .finished hreaches herror

end Add

/-! ## Delete -/

/-- What the API says when the Pod of a UID is absent or terminating. -/
def PodGone (read : Except ReadError Pod) (podUID : ObjectUID) : Prop :=
  read = .error .notFound ∨
    ∃ pod, read = .ok pod ∧ (pod.uid ≠ podUID ∨ pod.deletionTimestamp.isSome)

section Delete

/-- INTERNAL: a read that counts as absence found no Pod of this UID. -/
theorem pod_absent {read : Except ReadError Pod} {err : AgentError}
    (h : s.pod read identity = .error err) (habsent : NodeService.exactPodAbsent err = true) :
    PodGone read identity.uid := by
  revert h
  fun_cases NodeService.pod s read identity with
  | case3 _ _ readErr =>
    rintro ⟨⟩
    cases readErr with
    | notFound => exact Or.inl rfl
    | other => cases habsent
  | case4 _ _ pod huid => exact fun _ => Or.inr ⟨pod, rfl, Or.inl huid⟩
  | _ =>
    rintro ⟨⟩
    try cases habsent

/-- INTERNAL: a Pod counts as gone only if the API said so. -/
theorem podIsGone_true (h : Plugin.podIsGone s answers a = .ok true) :
    PodGone answers.pod a.pod.uid := by
  unfold Plugin.podIsGone at h
  split at h
  · cases h
  cases hresolve : s.resolve answers.pod a.pod with
  | error err =>
    rw [hresolve] at h
    have hpod : s.pod answers.pod a.pod = .error err := by
      unfold NodeService.resolve at hresolve
      split at hresolve
      · next hpod =>
        cases hresolve
        exact hpod
      · cases hresolve
    split at h
    · next heq =>
      cases heq
      exact pod_absent hpod rfl
    · cases h
    · next heq => cases heq
  | ok =>
    rw [hresolve] at h
    unfold NodeService.resolve at hresolve
    split at hresolve
    · cases hresolve
    next pod hpod =>
    cases hresolve
    simp only [Except.ok.injEq, Bool.and_eq_true] at h
    exact Or.inr ⟨pod, (pod_ok hpod).1, Or.inr h.2⟩

end Delete

/-! ## GC -/

theorem mem_gcAttachment {answers : Plugin.GCAnswers}
    (h : action ∈ (Plugin.gcAttachment node answers a).actions) :
    (∃ denied ok, action = .program (.cleanup a.pod.netNS a.pod.uid denied ok)) ∨
      action = .delete a.key := by
  unfold Plugin.gcAttachment at h
  extract_lets ok exact cleanup at h
  have hcleanup : action ∈ cleanup →
      ∃ denied ok, action = .program (.cleanup a.pod.netNS a.pod.uid denied ok) := by
    intro hmem
    simp only [cleanup] at hmem
    split at hmem
    · exact ⟨_, _, List.mem_singleton.mp hmem⟩
    · cases hmem
  split at h
  · exact Or.inl (hcleanup h)
  split at h
  · exact Or.inl (hcleanup h)
  · rcases List.mem_append.mp h with h | h
    · exact Or.inl (hcleanup h)
    · exact Or.inr (List.mem_singleton.mp h)

/-! ## Durable records -/

/-- The same sandbox on the same network. -/
def SameSandbox (a b : Attachment) : Prop :=
  a.network = b.network ∧ a.pod = b.pod ∧ a.namespaceIdentity = b.namespaceIdentity

/-- The actions neither save nor delete a record. -/
def LeavesRecords (actions : List AgentAction) : Prop :=
  ∀ action ∈ actions, (∀ a, action ≠ .save a) ∧ ∀ key, action ≠ .delete key

/-- INTERNAL: a list leaves the records if its parts do. -/
theorem leavesRecords_append {first second : List AgentAction} :
    LeavesRecords (first ++ second) ↔ LeavesRecords first ∧ LeavesRecords second :=
  List.forall_mem_append

section Records

/-- INTERNAL: programmer calls leave the records. -/
theorem program_leavesRecords (calls : List ProgrammerCall) :
    LeavesRecords (calls.map .program) := by
  intro action haction
  obtain ⟨call, -, rfl⟩ := List.mem_map.mp haction
  exact ⟨fun _ => nofun, fun _ => nofun⟩

/-- INTERNAL: `Prepare` and `Check` leave the records. -/
theorem Programming.leavesRecords {answers : NodeService.ProgramAnswers}
    {requested : BindingReference} {keptWhen : Prop}
    (h : Programming s parsers node answers identity requested keptWhen script) :
    LeavesRecords script.actions := by
  cases h with
  | refused err => simp [LeavesRecords, Script.fail]
  | denied => simp [LeavesRecords]
  | failed calls =>
    refine leavesRecords_append.mpr ⟨program_leavesRecords calls, ?_⟩
    simp [LeavesRecords, NodeService.observe]
  | kept => simp [LeavesRecords, NodeService.observe]
  | programmed calls =>
    refine leavesRecords_append.mpr ⟨program_leavesRecords calls, ?_⟩
    simp [LeavesRecords, NodeService.observe]

/-- INTERNAL: restraining a Pod leaves its records. -/
theorem Restrains.leavesRecords (h : Restrains podUID action) :
    (∀ a, action ≠ .save a) ∧ ∀ key, action ≠ .delete key :=
  ⟨by rintro a rfl; exact h, by rintro key rfl; exact h⟩

/-- INTERNAL: `Withdraw` leaves the records. -/
theorem withdraw_leavesRecords (s : NodeService) (node : Node)
    (answers : NodeService.WithdrawAnswers) (identity : PodIdentity) :
    LeavesRecords (s.withdraw node answers identity).actions :=
  fun action haction => (withdraw_restrains s node answers identity action haction).leavesRecords

/-- INTERNAL: `LockdownAll` leaves the records. -/
theorem lockdownAll_leavesRecords (s : NodeService) (node : Node)
    (answers : NodeService.LockdownAnswers) :
    LeavesRecords (s.lockdownAll node answers).actions := by
  intro action haction
  obtain ⟨podUID, hrestrains⟩ := lockdownAll_restrains haction
  exact hrestrains.leavesRecords

/-- INTERNAL: tidying up saves no record. -/
theorem Tidies.not_save (h : Tidies podUID action) (a : Attachment) : action ≠ .save a := by
  rcases h with h | ⟨key, rfl⟩
  · exact h.leavesRecords.1 a
  · nofun

/-- INTERNAL: **the records a group's reconcile saves** have the identity of one of the group. -/
theorem GroupReconciled.saves {answers : NodeService.GroupAnswers} {b : Attachment}
    (h : GroupReconciled s parsers node answers podUID attachments script)
    (hsave : .save b ∈ script.actions) : ∃ a ∈ attachments, SameSandbox b a := by
  cases h with
  | tidied h => exact absurd rfl ((h _ hsave).not_save b)
  | programmed saved rest error hcurrent hprogram hsaved hrest =>
    rcases List.mem_append.mp hsave with hsave | hsave
    · exact absurd rfl ((hprogram.leavesRecords _ hsave).1 b)
    rcases List.mem_append.mp hsave with hsave | hsave
    · obtain ⟨a, ha, heq⟩ := List.mem_map.mp hsave
      cases heq
      refine ⟨_, hcurrent, ?_⟩
      rw [hsaved b ha]
      exact ⟨rfl, rfl, rfl⟩
    · exact absurd rfl ((hrest _ hsave).not_save b)

/-- INTERNAL: what was not delivered leaves the records too. -/
theorem delivered_leavesRecords (h : LeavesRecords script.actions) (delivery : Delivery) :
    LeavesRecords (script.delivered delivery).actions := by
  rcases delivered_actions script delivery with heq | ⟨-, heq⟩
  · rw [heq]
    simp [LeavesRecords]
  · rw [heq]
    exact h

/-- INTERNAL: `Delete` for a Pod that is gone deletes no record but its own. -/
theorem mem_deleteGone {netns : String}
    (h : action ∈ (Plugin.deleteGone s node answers a netns).actions) :
    LeavesRecords [action] ∨ action = .delete a.key := by
  have hwithdrawn : LeavesRecords
      ((s.withdraw node answers.withdraw a.pod).delivered answers.withdrawDelivery).actions :=
    delivered_leavesRecords (withdraw_leavesRecords _ _ _ _) _
  have hcleanup (p : Prop) [Decidable p] (call : ProgrammerCall) :
      LeavesRecords (if p then [AgentAction.program call] else []) := by
    split <;> simp [LeavesRecords]
  have hperformed {actions : List AgentAction} (hleaves : LeavesRecords actions)
      (hmem : action ∈ actions) : LeavesRecords [action] :=
    List.forall_mem_singleton.mpr (hleaves _ hmem)
  unfold Plugin.deleteGone at h
  extract_lets path withdrawn ok at h
  split at h
  · cases h
  split at h
  · exact Or.inl (hperformed hwithdrawn h)
  dsimp only at h
  split at h
  · exact Or.inl (hperformed (leavesRecords_append.mpr ⟨hwithdrawn, hcleanup _ _⟩) h)
  split at h
  · exact Or.inl (hperformed (leavesRecords_append.mpr ⟨hwithdrawn, hcleanup _ _⟩) h)
  · rcases List.mem_append.mp h with h | h
    · exact Or.inl (hperformed (leavesRecords_append.mpr ⟨hwithdrawn, hcleanup _ _⟩) h)
    · exact Or.inr (List.mem_singleton.mp h)

/-- INTERNAL: **what `Delete` does to records.** It deletes the one it was asked to, if the API says that
its Pod is gone, and changes no other. -/
theorem mem_delete {netns : String}
    (h : action ∈ (Plugin.delete s node answers key netns).actions) :
    LeavesRecords [action] ∨ action = .delete key ∧
      ∃ a, node.attachments.find key = some a ∧ PodGone answers.pod a.pod.uid := by
  revert h
  fun_cases Plugin.delete s node answers key netns with
  | case5 a hfind _ hgone =>
    intro h
    rw [← (KeyedStore.find_eq_some.mp hfind).2]
    exact (mem_deleteGone h).imp_right fun hdelete =>
      ⟨hdelete, a, (KeyedStore.find_eq_some.mp hfind).2 ▸ hfind, podIsGone_true hgone⟩
  | _ => nofun

end Records

end Waycloak.Interface
