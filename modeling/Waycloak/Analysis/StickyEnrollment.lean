import Waycloak.Analysis.TransitionDeny
import Waycloak.Interface.HostSteps

/-!
# Enrollment is sticky for a Pod UID

Once an `Add` has recorded a Pod on a network, a later `Add` for it must not succeed as if the Pod
had never been enrolled, until the API says that the Pod is gone. `hasPriorEnrollment` is what
makes it so: it looks for any record of the Pod on the network. So the question is which steps can
take the last such record away while the Pod is there.

* `Delete` holds the lock of the Pod and only does so for a Pod that is gone (`PodGone`).
* `GC` deletes whatever the runtime does not list, and does not ask the API at all.
* `ReconcileAll` keeps the record of the one live sandbox of its list and deletes the others, also
  those of other networks, or all of them for a Pod that is gone.

The last two hold no lock, and what they delete was listed earlier. `Accounted` is the other half:
every record, every `Add` in progress, and every record an operation is still to save goes back to a
step of the run in which an `Add` denied that very sandbox before it recorded it.
-/

set_option autoImplicit false

namespace Waycloak.Analysis

open Waycloak.Model Waycloak.Interface Waycloak.Computation

variable {a : Attachment} {request : CNIRequest} {events : List HostEvent} {network : String}
  {pod : PodIdentity} {r : HostRecord} {l : List HostRecord}
  {parsers : NetworkParsers}
variable {answers : Plugin.AddBeginAnswers} {progress : Plugin.AddProgress}

/-! ## The property -/

/-- A record of the Pod on the network. -/
def RecordOf (network : String) (pod : PodIdentity) (a : Attachment) : Prop :=
  a.network = network ∧ Plugin.isRecordOf pod a = true

def HasRecord (network : String) (pod : PodIdentity) (node : Node) : Prop :=
  ∃ a ∈ node.attachments, RecordOf network pod a

/-- The same Pod, in whichever sandbox. -/
def SamePod (p q : PodIdentity) : Prop :=
  p.namespaceName = q.namespaceName ∧ p.name = q.name ∧ p.uid = q.uid

/-- What the runtime and the API guarantee of the requests of a run: a sandbox belongs to one Pod,
and a UID is the UID of one Pod. -/
def DistinctPods (events : List HostEvent) : Prop :=
  ∀ request answers request' answers', HostEvent.addBegin request answers ∈ events →
    HostEvent.addBegin request' answers' ∈ events →
    request.key = request'.key ∨ request.pod.uid = request'.pod.uid →
    SamePod request.pod request'.pod

/-- A step that learns from the API that the Pod is absent or terminating. -/
inductive ReportsGone (pod : PodIdentity) (r : HostRecord) : Prop
  | delete {index : Nat} {answers : Plugin.DeleteAnswers} {op : Operation} {key : AttachmentKey}
      {netns : String} {rest : List Task} {a : Attachment}
      (hinput : r.input = .advance index (.load answers))
      (hop : r.before.running[index]? = some op) (htasks : op.tasks = .load key netns :: rest)
      (hfind : r.before.node.attachments.find key = some a) (huid : a.pod.uid = pod.uid)
      (hgone : PodGone answers.pod pod.uid)
  | reconcile {index : Nat} {answers : NodeService.GroupAnswers} {op : Operation}
      {attachments : List Attachment} {rest : List Task}
      (hinput : r.input = .advance index (.group answers))
      (hop : r.before.running[index]? = some op)
      (htasks : op.tasks = .group pod.uid attachments :: rest)
      (hgone : PodGone answers.pod pod.uid)

/-- A step of an `Add` for the Pod that records it on the network. -/
def RecordsPod (network : String) (pod : PodIdentity) (r : HostRecord) : Prop :=
  r.input.adds = some pod.uid ∧ ∃ a, .save a ∈ r.output.actions ∧ RecordOf network pod a

/-- An `Add` that returns success. -/
inductive AddSucceeds (r : HostRecord) : CNIRequest → Prop
  | early {request : CNIRequest} {answers : Plugin.AddBeginAnswers}
      (hinput : r.input = .addBegin request answers) (hdone : r.output.error = none)
      (hended : r.after.adding request.pod.uid = none) : AddSucceeds r request
  | finished {podUID : ObjectUID} {saveFailure : Option String} {now : Time}
      {attachment : Attachment} (hinput : r.input = .addFinish podUID saveFailure now)
      (hadding : r.before.adding podUID = some { attachment, stage := .prepared })
      (hdone : r.output.error = none) : AddSucceeds r ⟨attachment.network, attachment.pod⟩

/-- A step of an `Add` for the sandbox that installed its lockdown. -/
structure DeniesSandbox (r : HostRecord) (a : Attachment) : Prop where
  adds : ∃ answers, r.input = .addBegin ⟨a.network, a.pod⟩ answers
  identity : r.before.node.namespaces a.pod.netNS = some a.namespaceIdentity
  denied : .program (.installLockdown a.pod.netNS a.pod.uid true) ∈ r.output.actions

/-- A step of an `Add` for the sandbox whose `Prepare` or `Check` succeeded, for the binding that the
`Add` named. -/
inductive Completes (parsers : NetworkParsers) (r : HostRecord)
    (pod : PodIdentity) : Prop
  | prepare {attachment : Attachment} {requested : BindingReference} {delivery : Delivery}
      {answers : NodeService.ProgramAnswers}
      (hinput : r.input = .addPrepare pod.uid delivery answers)
      (hadding : r.before.adding pod.uid = some { attachment, stage := .bound requested })
      (hpod : attachment.pod = pod)
      (h : PathConfirmed r.before.service parsers answers pod requested r.output.actions)
  | check {request : CNIRequest} {answers : Plugin.AddBeginAnswers} {existing : Attachment}
      (hinput : r.input = .addBegin request answers) (hpod : request.pod = pod)
      (hfind : r.before.node.attachments.find request.key = some existing)
      (h : PathConfirmed r.before.service parsers answers.check pod
        (Plugin.recordedBinding existing pod.uid) r.output.actions)

/-- An `Add` in progress: it has denied its sandbox, has not ended since, and has the agent's
confirmation if it is past that point. -/
def InProgress (parsers : NetworkParsers) (l : List HostRecord)
    (progress : Plugin.AddProgress) : Prop :=
  ∃ first r rest, l = first ++ r :: rest ∧ DeniesSandbox r progress.attachment ∧
    (∀ r' ∈ r :: rest, (r'.after.adding progress.attachment.pod.uid).isSome) ∧
    (progress.stage = .prepared → ∃ r' ∈ rest, Completes parsers r' progress.attachment.pod)

/-- The step `b`, after the steps `l`, ends an `Add` that has installed lockdown and completed
`Prepare` itself, or one that completes `Check` for a sandbox whose lockdown an `Add` installed. -/
inductive ProtectedAdd (parsers : NetworkParsers) (l : List HostRecord)
    (b : HostRecord) (request : CNIRequest) : Prop
  | checked {existing : Attachment} (hnetwork : existing.network = request.network)
      (hpod : existing.pod = request.pod)
      (hidentity : b.before.node.namespaces request.pod.netNS = some existing.namespaceIdentity)
      (hdenied : ∃ r ∈ l, DeniesSandbox r existing) (hcompletes : Completes parsers b request.pod)
  | prepared {progress : Plugin.AddProgress} (hnetwork : progress.attachment.network = request.network)
      (hpod : progress.attachment.pod = request.pod) (hstage : progress.stage = .prepared)
      (h : InProgress parsers l progress)

/-- The Pod UID whose lock the operation of a step holds. -/
def holder (host : Host) : HostEvent → Option ObjectUID
  | .advance index _ => (host.running[index]?).bind Operation.lock
  | _ => none

/-- **The condition.** An operation that holds no lock deletes a record only while another one of the
Pod on the network is there. -/
def RetainsRecords (network : String) (pod : PodIdentity) (r : HostRecord) : Prop :=
  holder r.before r.input = none → ∀ key, .delete key ∈ r.output.actions →
    ∃ a ∈ r.before.node.attachments, a.key ≠ key ∧ RecordOf network pod a

/-! ## Records and the requests they come from -/

theorem recordOf_iff : RecordOf network pod a ↔ a.network = network ∧ SamePod a.pod pod := by
  simp [RecordOf, Plugin.isRecordOf, SamePod, and_assoc]

/-- A step denied the sandbox. -/
def Denied (l : List HostRecord) (a : Attachment) : Prop := ∃ r ∈ l, DeniesSandbox r a

/-- The key is that of a sandbox of the Pod UID. -/
def KeyOf (l : List HostRecord) (podUID : ObjectUID) (key : AttachmentKey) : Prop :=
  ∃ a, Denied l a ∧ a.key = key ∧ a.pod.uid = podUID

/-- What an operation may have before it: what it saves goes back to a step that denied the sandbox,
and under the lock of a Pod it deletes records of that Pod only. -/
def TaskAccounted (l : List HostRecord) (lock : Option ObjectUID) : Task → Prop
  | .act (.save a) => Denied l a
  | .act (.delete key) => ∀ podUID, lock = some podUID → KeyOf l podUID key
  | .act _ => True
  | .load key _ => ∀ podUID, lock = some podUID → KeyOf l podUID key
  | .collect _ => lock = none
  | .group podUID attachments =>
    lock = none ∧ ∀ a ∈ attachments, Denied l a ∧ a.pod.uid = podUID

/-- Every record, every `Add` in progress and what other operations have before them goes back to
steps that denied the sandbox; a lock is held once. -/
structure Accounted (parsers : NetworkParsers) (l : List HostRecord) (host : Host) : Prop where
  records : ∀ a ∈ host.node.attachments, Denied l a
  adding : ∀ podUID progress, host.adding podUID = some progress →
    progress.attachment.pod.uid = podUID ∧ InProgress parsers l progress
  tasks : ∀ op ∈ host.running, ∀ task ∈ op.tasks, TaskAccounted l op.lock task
  exclusive : ∀ op ∈ host.running, ∀ podUID, op.lock = some podUID → host.adding podUID = none

section Accounted

variable {b : Attachment} {l' : List HostRecord} {podUID : ObjectUID} {lock : Option ObjectUID}
  {task : Task} {host : Host} {event : HostEvent} {op : Operation}

theorem DeniesSandbox.sameSandbox (h : DeniesSandbox r a) (hsame : SameSandbox b a) :
    DeniesSandbox r b := by
  obtain ⟨hnetwork, hpod, hidentity⟩ := hsame
  refine ⟨?_, ?_, ?_⟩
  · rw [hnetwork, hpod]
    exact h.adds
  · rw [hpod, hidentity]
    exact h.identity
  · rw [hpod]
    exact h.denied

theorem begins_deniesSandbox (hinput : r.input = .addBegin request answers)
    (h : Begins r.before request a r.output.actions) : DeniesSandbox r a := by
  obtain ⟨hnetwork, hpod, hidentity, hdenied⟩ := h
  refine ⟨⟨answers, ?_⟩, ?_, ?_⟩
  · rw [hinput, hnetwork, hpod]
  · rw [hpod]
    exact hidentity
  · rw [hpod]
    exact hdenied

theorem Denied.sameSandbox (h : Denied l a) (hsame : SameSandbox b a) : Denied l b := by
  obtain ⟨r, hr, hdenies⟩ := h
  exact ⟨r, hr, hdenies.sameSandbox hsame⟩

theorem Denied.mono (h : Denied l a) : Denied (l ++ l') a := by
  obtain ⟨r, hr, hdenies⟩ := h
  exact ⟨r, List.mem_append_left _ hr, hdenies⟩

theorem KeyOf.mono {key : AttachmentKey} (h : KeyOf l podUID key) : KeyOf (l ++ l') podUID key := by
  obtain ⟨a, hdenied, hkey, huid⟩ := h
  exact ⟨a, hdenied.mono, hkey, huid⟩

theorem TaskAccounted.mono (h : TaskAccounted l lock task) : TaskAccounted (l ++ l') lock task := by
  cases task with
  | act action =>
    cases action with
    | save a => exact Denied.mono h
    | delete key => exact fun podUID hlock => (h podUID hlock).mono
    | _ => trivial
  | load => exact fun podUID hlock => (h podUID hlock).mono
  | collect => exact h
  | group => exact ⟨h.1, fun a ha => ⟨(h.2 a ha).1.mono, (h.2 a ha).2⟩⟩

theorem InProgress.denied (h : InProgress parsers l progress) : Denied l progress.attachment := by
  obtain ⟨first, r, rest, rfl, hdenies, -, -⟩ := h
  exact ⟨r, by simp, hdenies⟩

theorem InProgress.extend {before after : Plugin.AddProgress} (h : InProgress parsers l before)
    (hsame : SameSandbox after.attachment before.attachment)
    (hongoing : (r.after.adding after.attachment.pod.uid).isSome)
    (hstage : after.stage = .prepared →
      before.stage = .prepared ∨ Completes parsers r after.attachment.pod) :
    InProgress parsers (l ++ [r]) after := by
  obtain ⟨first, d, rest, rfl, hdenies, hongoing', hcompletes⟩ := h
  refine ⟨first, d, rest ++ [r], by simp, hdenies.sameSandbox hsame, ?_, ?_⟩
  · intro r' hr'
    rcases List.mem_append.mp (by simpa using hr' : r' ∈ (d :: rest) ++ [r]) with hr' | hr'
    · rw [hsame.2.1]
      exact hongoing' r' hr'
    · rw [List.mem_singleton.mp hr']
      exact hongoing
  · intro hprepared
    rcases hstage hprepared with hbefore | hcomplete
    · obtain ⟨r', hr', hcomplete⟩ := hcompletes hbefore
      rw [hsame.2.1]
      exact ⟨r', List.mem_append_left _ hr', hcomplete⟩
    · exact ⟨r, by simp, hcomplete⟩

theorem sameSandbox_refl (a : Attachment) : SameSandbox a a := ⟨rfl, rfl, rfl⟩

theorem adding_accounted (hrec : r = record (Host.next parsers) r.before r.input)
    (h : Accounted parsers l r.before) (hadding : r.after.adding podUID = some progress) :
    progress.attachment.pod.uid = podUID ∧ InProgress parsers (l ++ [r]) progress := by
  obtain ⟨hafter, houtput⟩ := hostRecord_eq hrec
  have hcase := host_adding (hafter ▸ hadding)
  rw [← houtput] at hcase
  have hsome : (r.after.adding podUID).isSome := by rw [hadding]; rfl
  cases hcase with
  | same hbefore =>
    obtain ⟨huid, hprogress⟩ := h.adding podUID progress hbefore
    exact ⟨huid, hprogress.extend (sameSandbox_refl _) (huid ▸ hsome) Or.inl⟩
  | begun hinput huid _ hbegins hstage =>
    have huid' : progress.attachment.pod.uid = podUID := by rw [hbegins.pod, huid]
    refine ⟨huid', l, r, [], rfl, begins_deniesSandbox hinput hbegins, ?_, ?_⟩
    · intro r' hr'
      rw [List.mem_singleton.mp hr', huid']
      exact hsome
    · intro hprepared
      rw [hstage] at hprepared
      cases hprepared
  | bound hbefore hsame hstage =>
    obtain ⟨huid, hprogress⟩ := h.adding podUID _ hbefore
    have huid' : progress.attachment.pod.uid = podUID := by rw [hsame.2.1, huid]
    exact ⟨huid', hprogress.extend hsame (huid' ▸ hsome) fun hprepared => absurd hprepared hstage⟩
  | @prepared attachment requested delivery answers hinput hbefore hprogress hconfirmed =>
    obtain ⟨huid, hinprogress⟩ := h.adding podUID _ hbefore
    subst hprogress
    refine ⟨huid, hinprogress.extend (sameSandbox_refl _) (huid ▸ hsome) fun _ => Or.inr ?_⟩
    subst huid
    exact .prepare hinput hbefore rfl hconfirmed

theorem saves_denied (hrec : r = record (Host.next parsers) r.before r.input)
    (h : Accounted parsers l r.before) (hb : .save b ∈ r.output.actions) : Denied (l ++ [r]) b := by
  have houtput := (hostRecord_eq hrec).2
  have hsaves : HostChanges r.before r.input r.output.actions (.save b) := by
    rw [houtput] at hb ⊢
    exact host_saves hb
  cases hsaves with
  | begun hinput _ hbegins => exact ⟨r, by simp, begins_deniesSandbox hinput hbegins⟩
  | adding _ hadding hsame => exact ((h.adding _ _ hadding).2.denied.sameSandbox hsame).mono
  | @performed _ _ op _ _ _ hop htasks =>
    have hdenied : Denied l b := h.tasks op (List.mem_of_getElem? hop) (.act (.save b)) (by simp [htasks])
    exact hdenied.mono

theorem leavesRecords_accounted {action : AgentAction} (h : LeavesRecords [action]) :
    TaskAccounted l lock (.act action) := by
  obtain ⟨hsave, hdelete⟩ := h action (List.mem_singleton_self _)
  cases action with
  | save a => exact absurd rfl (hsave a)
  | delete key => exact absurd rfl (hdelete key)
  | _ => trivial

/-- INTERNAL: a task that is accounted for turns into actions that are. -/
theorem expands_accounted {answers : TaskAnswers} {more : List AgentAction}
    (h : TaskAccounted l lock task) (hexpands : Expands parsers host task answers more) :
    ∀ action ∈ more, TaskAccounted l lock (.act action) := by
  intro action haction
  cases hexpands with
  | load =>
    rcases mem_delete haction with hleaves | ⟨rfl, -⟩
    · exact leavesRecords_accounted hleaves
    · exact h
  | collect =>
    rcases mem_gcAttachment haction with ⟨denied, ok, rfl⟩ | rfl
    · trivial
    · intro podUID hlock
      cases (show lock = none from h).symm.trans hlock
  | group podUID attachments answers =>
    obtain ⟨hlock, hgroup⟩ := h
    cases action with
    | save b =>
      obtain ⟨a, ha, hsame⟩ :=
        (reconcileAttachmentGroup_reconciled fun a ha => (hgroup a ha).2).saves haction
      exact (hgroup a ha).1.sameSandbox hsame
    | delete key =>
      intro podUID' hlock'
      cases hlock.symm.trans hlock'
    | _ => trivial

theorem running_accounted (h : Accounted parsers l host)
    (hrunning : HostRunning parsers host event op) :
    ∀ task ∈ op.tasks, TaskAccounted l op.lock task := by
  intro task htask
  cases hrunning with
  | same hop => exact h.tasks op hop task htask
  | deleting key netns loadFailure =>
    rw [List.mem_singleton.mp htask]
    intro podUID hlock
    cases loadFailure with
    | some => cases hlock
    | none =>
      obtain ⟨a, hfind, huid⟩ := Option.map_eq_some_iff.mp hlock
      obtain ⟨hmem, hkey⟩ := KeyedStore.find_eq_some.mp hfind
      exact ⟨a, h.records a hmem, hkey, huid⟩
  | collecting =>
    obtain ⟨a, -, rfl⟩ := List.mem_map.mp htask
    rfl
  | reconciling =>
    obtain ⟨podUID, -, rfl⟩ := List.mem_map.mp htask
    refine ⟨rfl, fun a ha => ?_⟩
    obtain ⟨hlisted, huid⟩ := mem_attachmentGroup.mp ha
    exact ⟨h.records a (KeyedStore.mem_entries.mp (List.mem_filter.mp hlisted).1), huid⟩
  | @performed op _ rest hop htasks =>
    exact h.tasks op hop task (by rw [htasks]; exact List.mem_cons_of_mem _ htask)
  | @expanded _ _ op taken rest more _ hop htasks hexpands =>
    have htaken := h.tasks op (List.mem_of_getElem? hop)
    rw [htasks] at htaken
    rcases List.mem_append.mp htask with htask | htask
    · obtain ⟨action, haction, rfl⟩ := List.mem_map.mp htask
      exact expands_accounted (htaken taken List.mem_cons_self) hexpands action haction
    · exact htaken task (List.mem_cons_of_mem _ htask)

theorem locked_of_lock (hop : op ∈ host.running) (hlock : op.lock = some podUID) :
    host.locked podUID = true := by
  simp only [Host.locked, Bool.or_eq_true, List.any_eq_true, beq_iff_eq]
  exact Or.inr ⟨op, hop, hlock⟩

/-- INTERNAL: a lock is of an operation that was in progress, or was free. -/
theorem running_lock (hrunning : HostRunning parsers host event op) (hlock : op.lock = some podUID) :
    (∃ op ∈ host.running, op.lock = some podUID) ∨ host.locked podUID = false := by
  cases hrunning with
  | same hop => exact Or.inl ⟨op, hop, hlock⟩
  | deleting key netns loadFailure hfree =>
    right
    rw [Host.deleteWaits, show host.deleteLock key loadFailure = some podUID from hlock] at hfree
    exact hfree
  | collecting | reconciling => cases hlock
  | performed hop => exact Or.inl ⟨_, hop, hlock⟩
  | expanded _ hop => exact Or.inl ⟨_, List.mem_of_getElem? hop, hlock⟩

/-- INTERNAL: **what a step leaves accounted for.** -/
theorem next_accounted (hrec : r = record (Host.next parsers) r.before r.input)
    (h : Accounted parsers l r.before) : Accounted parsers (l ++ [r]) r.after := by
  obtain ⟨hafter, houtput⟩ := hostRecord_eq hrec
  have hrunning : ∀ op ∈ r.after.running, HostRunning parsers r.before r.input op := by
    rw [hafter]
    exact fun op => host_running
  refine ⟨?_, fun podUID progress => adding_accounted hrec h,
    fun op hop task htask => (running_accounted h (hrunning op hop) task htask).mono, ?_⟩
  · rw [hafter, hostNext_attachments, ← houtput]
    exact applyAll_records (fun a ha => (h.records a ha).mono) fun b => saves_denied hrec h
  · intro op hop podUID hlock
    rw [Option.eq_none_iff_forall_ne_some]
    intro progress hadding
    -- the `Add` was in progress before, or it has just found the lock free
    have hbefore : (r.before.adding podUID).isSome ∨
        r.before.locked podUID = false ∧ r.after.running = r.before.running := by
      rw [hafter] at hadding
      cases host_adding hadding with
      | same hsame => exact Or.inl (by simp [hsame])
      | begun hinput _ hfree =>
        refine Or.inr ⟨hfree, ?_⟩
        rw [hafter, hostNext_running, operations_adds _ _ _ (by rw [hinput]; rfl)]
      | bound hbound => exact Or.inl (by simp [hbound])
      | prepared _ hprepared => exact Or.inl (by simp [hprepared])
    rcases hbefore with hsome | ⟨hfree, hsame⟩
    · rcases running_lock (hrunning op hop) hlock with ⟨op', hop', hlock'⟩ | hfree
      · rw [h.exclusive op' hop' podUID hlock'] at hsome
        cases hsome
      · simp [Host.locked, hsome] at hfree
    · rw [hsame] at hop
      rw [locked_of_lock hop hlock] at hfree
      cases hfree

end Accounted

/-! ## Which records a step keeps -/

/-- No operation that holds the lock of the Pod UID is about to delete a record. -/
def NoDeletion (podUID : ObjectUID) (host : Host) : Prop :=
  ∀ op ∈ host.running, op.lock = some podUID → ∀ key, .act (.delete key) ∉ op.tasks

section Keeps

variable {b : Attachment} (hdistinct : DistinctPods events)

include hdistinct

theorem Denied.samePod (hl : ∀ r ∈ l, r.input ∈ events) (ha : Denied l a) (hb : Denied l b)
    (hkey : a.key = b.key) : SamePod a.pod b.pod := by
  obtain ⟨d, hd, hdenies⟩ := ha
  obtain ⟨d', hd', hdenies'⟩ := hb
  obtain ⟨answers, hinput⟩ := hdenies.adds
  obtain ⟨answers', hinput'⟩ := hdenies'.adds
  exact hdistinct ⟨a.network, a.pod⟩ answers ⟨b.network, b.pod⟩ answers'
    (hinput ▸ hl d hd) (hinput' ▸ hl d' hd') (Or.inl hkey)

/-- INTERNAL: the records a step saves over one of the Pod are of the Pod. -/
theorem saved_recordOf (hl : ∀ r' ∈ l, r'.input ∈ events) (ha : Denied l a) (hb : Denied l b)
    (hof : RecordOf network pod a) (hkey : b.key = a.key) : RecordOf network pod b := by
  have hpod := hb.samePod hdistinct hl ha hkey
  obtain ⟨hnetwork, hnamespace, hname, huid⟩ := recordOf_iff.mp hof
  refine recordOf_iff.mpr ⟨(congrArg AttachmentKey.network hkey).trans hnetwork, ?_⟩
  exact ⟨hpod.1.trans hnamespace, hpod.2.1.trans hname, hpod.2.2.trans huid⟩

variable (hrec : r = record (Host.next parsers) r.before r.input)
  (haccounted : Accounted parsers l r.before)

include hrec haccounted

/-- INTERNAL: an operation with the Pod's lock is to delete a record only once the API has said that
the Pod is gone. -/
theorem next_noDeletion (hl : ∀ r' ∈ l, r'.input ∈ events) (h : NoDeletion pod.uid r.before)
    (hgone : ¬ ReportsGone pod r) : NoDeletion pod.uid r.after := by
  intro op hafter hlock key hdelete
  rw [hrec] at hafter
  cases host_running hafter with
  | same hop => exact h op hop hlock key hdelete
  | deleting => simp at hdelete
  | collecting | reconciling => cases hlock
  | performed hop htasks =>
    exact h _ hop hlock key (by rw [htasks]; exact List.mem_cons_of_mem _ hdelete)
  | @expanded index answers op task rest more hinput hop htasks hexpands =>
    have hmem := List.mem_of_getElem? hop
    have htask : TaskAccounted l op.lock task := haccounted.tasks op hmem task (by simp [htasks])
    rcases List.mem_append.mp hdelete with hdelete | hdelete
    · obtain ⟨action, haction, heq⟩ := List.mem_map.mp hdelete
      cases heq
      cases hexpands with
      | load loaded netns answers =>
        rcases mem_delete haction with hleaves | ⟨heq, a, hfind, habsent⟩
        · exact (hleaves _ (List.mem_singleton_self _)).2 key rfl
        obtain ⟨b, hb, hkey, huid⟩ := htask pod.uid hlock
        obtain ⟨ha, hakey⟩ := KeyedStore.find_eq_some.mp hfind
        have hsame := (haccounted.records a ha).samePod hdistinct hl hb (hakey.trans hkey.symm)
        have hauid : a.pod.uid = pod.uid := hsame.2.2.trans huid
        exact hgone (.delete hinput hop htasks hfind hauid (hauid ▸ habsent))
      | collect => cases (show op.lock = none from htask).symm.trans hlock
      | group => cases htask.1.symm.trans hlock
    · exact h op hmem hlock key (by simp [htasks, hdelete])

/-- INTERNAL: a record of the Pod that the step does not delete. -/
theorem host_spares (hl : ∀ r' ∈ l, r'.input ∈ events)
    (hrecord : HasRecord network pod r.before.node) (hretains : RetainsRecords network pod r)
    (hlocked : NoDeletion pod.uid r.before) :
    ∃ a ∈ r.before.node.attachments, RecordOf network pod a ∧ .delete a.key ∉ r.output.actions := by
  have houtput := (hostRecord_eq hrec).2
  obtain ⟨a, ha, hof⟩ := hrecord
  by_cases hdeleted : .delete a.key ∈ r.output.actions
  case neg => exact ⟨a, ha, hof, hdeleted⟩
  obtain ⟨index, answers, op, rest, hinput, hop, htasks⟩ := host_deletes (houtput ▸ hdeleted)
  have hmem := List.mem_of_getElem? hop
  cases hlock : op.lock with
  | none =>
    have hholder : holder r.before r.input = none := by simp [hinput, holder, hop, hlock]
    obtain ⟨b, hb, hkey, hofb⟩ := hretains hholder a.key hdeleted
    refine ⟨b, hb, hofb, fun hdelete => ?_⟩
    obtain ⟨_, _, _, _, hinput', hop', htasks'⟩ := host_deletes (houtput ▸ hdelete)
    cases hinput.symm.trans hinput'
    cases hop.symm.trans hop'
    have hsame := (List.cons.inj (htasks.symm.trans htasks')).1
    simp only [Task.act.injEq, AgentAction.delete.injEq] at hsame
    exact hkey hsame.symm
  | some podUID =>
    -- under a lock, only records of the Pod whose lock it is are deleted
    have htask : TaskAccounted l op.lock (.act (.delete a.key)) :=
      haccounted.tasks op hmem _ (by simp [htasks])
    obtain ⟨b, hb, hkey, huid⟩ := htask podUID hlock
    have hsame := (haccounted.records a ha).samePod hdistinct hl hb hkey.symm
    have hpod : podUID = pod.uid := by
      rw [← huid, ← hsame.2.2]
      exact (recordOf_iff.mp hof).2.2.2
    exact absurd (by simp [htasks]) (hlocked op hmem (hpod ▸ hlock) a.key)

/-- INTERNAL: **while the Pod is there, a step that retains records keeps one.** -/
theorem next_keeps (hl : ∀ r' ∈ l ++ [r], r'.input ∈ events)
    (hrecord : HasRecord network pod r.before.node) (hretains : RetainsRecords network pod r)
    (hlocked : NoDeletion pod.uid r.before) : HasRecord network pod r.after.node := by
  obtain ⟨hafter, houtput⟩ := hostRecord_eq hrec
  obtain ⟨a, ha, hof, hspared⟩ := host_spares hdistinct hrec haccounted
    (fun r' hr' => hl r' (List.mem_append_left _ hr')) hrecord hretains hlocked
  unfold HasRecord
  rw [hafter, hostNext_attachments, ← houtput]
  exact applyAll_keeps ha hof hspared fun b hb hkey =>
    saved_recordOf hdistinct hl (haccounted.records a ha).mono (saves_denied hrec haccounted hb) hof
      hkey

/-- INTERNAL: **where an `Add` records the Pod**, its record is there, and nobody else has the Pod's
lock. -/
theorem recordsPod_after (hl : ∀ r' ∈ l ++ [r], r'.input ∈ events)
    (hrecords : RecordsPod network pod r) :
    HasRecord network pod r.after.node ∧ NoDeletion pod.uid r.after := by
  obtain ⟨hafter, houtput⟩ := hostRecord_eq hrec
  obtain ⟨hadds, a, hsave, hof⟩ := hrecords
  constructor
  · unfold HasRecord
    rw [hafter, hostNext_attachments, ← houtput]
    refine applyAll_saved hsave hof ?_ fun b hb hkey => saved_recordOf hdistinct hl
      (saves_denied hrec haccounted hsave) (saves_denied hrec haccounted hb) hof hkey
    intro key hdelete
    obtain ⟨index, answers, op, rest, hinput, -⟩ := host_deletes (houtput ▸ hdelete)
    rw [hinput] at hadds
    cases hadds
  · intro op hop hlock
    rw [hafter, hostNext_running, operations_adds _ _ _ hadds] at hop
    rw [houtput] at hsave
    cases host_saves hsave with
    | begun hinput hfree =>
      rw [hinput] at hadds
      rw [Option.some.inj hadds, locked_of_lock hop hlock] at hfree
      cases hfree
    | adding hadds' hadding =>
      cases hadds.symm.trans hadds'
      rw [haccounted.exclusive op hop _ hlock] at hadding
      cases hadding
    | performed hinput =>
      rw [hinput] at hadds
      cases hadds

end Keeps

/-! ## Every `Add` that succeeds -/

section Adds

variable {b : HostRecord}

/-- INTERNAL: an `Add` that ends where it began found a record of its own sandbox that the agent
confirmed, or no record of its Pod at all. -/
theorem early_success (hrec : b = record (Host.next parsers) b.before b.input)
    (hinput : b.input = .addBegin request answers) (hdone : b.output.error = none)
    (hended : b.after.adding request.pod.uid = none) (haccounted : Accounted parsers l b.before) :
    ProtectedAdd parsers l b request ∨
      Plugin.hasPriorEnrollment b.before.node request = false := by
  have houtput := (hostRecord_eq hrec).2
  rw [hinput] at houtput
  have hadding : (b.before.script parsers (.addBegin request answers)).2 = none := by
    rw [hrec, hinput, record_after, hostNext_adding] at hended
    simpa [HostEvent.adds] using hended
  dsimp only [Host.script] at houtput hadding
  split at houtput
  · rw [houtput] at hdone
    cases hdone
  next hlock =>
  rw [if_neg hlock] at hadding
  have hbegun := addBegin_cases b.before.service parsers b.before.node answers request
  rw [← houtput, hadding] at hbegun
  generalize hscript : b.output = script at hbegun hdone
  generalize hprogress : (none : Option Plugin.AddProgress) = progress at hbegun
  cases hbegun with
  | refused err => cases hdone
  | notEnrolled hunenrolled => exact Or.inr hunenrolled.prior
  | checked hfind hnetwork hpod hidentity _ hcheck hok =>
    left
    have hconfirmed := serveCheck_programming.confirmed (hcheck ▸ hok)
    rw [← hcheck, ← hscript] at hconfirmed
    exact .checked hnetwork hpod hidentity
      (haccounted.records _ (KeyedStore.find_eq_some.mp hfind).1)
      (.check hinput rfl hfind hconfirmed)
  | denied _ _ _ hdenial =>
    cases hdenial with
    | unlocked => cases hdone
    | unrecorded => cases hdone
    | recorded => cases hprogress

/-- INTERNAL: **an `Add` that succeeds while a record of its Pod is there is protected.** -/
theorem success_protected (hdistinct : DistinctPods events) (hl : ∀ r ∈ l, r.input ∈ events)
    (hb : b.input ∈ events) (hrec : b = record (Host.next parsers) b.before b.input)
    (haccounted : Accounted parsers l b.before) (hrecord : HasRecord network pod b.before.node)
    (hsucceeds : AddSucceeds b request) (hnetwork : request.network = network)
    (huid : request.pod.uid = pod.uid) : ProtectedAdd parsers l b request := by
  cases hsucceeds with
  | @early _ answers hinput hdone hended =>
    rcases early_success hrec hinput hdone hended haccounted with hprotected | hprior
    · exact hprotected
    obtain ⟨a, ha, hof⟩ := hrecord
    obtain ⟨d, hd, hdenies⟩ := haccounted.records a ha
    obtain ⟨answers', hinput'⟩ := hdenies.adds
    obtain ⟨hanetwork, -, -, hauid⟩ := recordOf_iff.mp hof
    have hsame : SamePod a.pod request.pod := hdistinct _ answers' _ answers
      (hinput' ▸ hl d hd) (hinput ▸ hb) (Or.inr (hauid.trans huid.symm))
    have hof' : RecordOf request.network request.pod a :=
      recordOf_iff.mpr ⟨hanetwork.trans hnetwork.symm, hsame⟩
    simp only [Plugin.hasPriorEnrollment, List.any_eq_false, Bool.and_eq_true, beq_iff_eq] at hprior
    exact absurd hof' (hprior a ha)
  | finished _ hadding => exact .prepared rfl rfl rfl (haccounted.adding _ _ hadding).2

end Adds

/-- An `Add` for a sandbox of the Pod. -/
def stickyRequest (containerID : String) : CNIRequest :=
  ⟨"waycloak", { agentSandbox with containerID }⟩

/-- Calls that succeed, with the Pod labelled as given. -/
def stickyBegin (label : String) : Plugin.AddBeginAnswers :=
  { identityFailure := none, loadFailure := none, checkDelivery := .answered
    check := agentProgram 1, listFailure := none, resolveFailure := none
    pod := .ok { agentPod with routeLabel := label }, lockdown := true, saveFailure := none
    rollbackDenied := true, rollbackRest := true, now := 1 }

def stickyBind (failure : Option String) : Plugin.AddBindAnswers :=
  { bindingFailure := failure, pod := .ok agentPod, binding := .ok (agentBinding 1)
    saveFailure := none, now := 1 }

/-- A collection that cannot tell the identity of a namespace, and deletes the record. -/
def stickyCollect : TaskAnswers :=
  .collect
    { identityFailure := fun _ => some "permission denied", cleanupDenied := fun _ => true
      cleanupRest := fun _ => true, deleteFailure := fun _ => none }

/-- A node on which nothing is recorded. -/
def emptyHost : Host :=
  { node := agentNode [] List.nodup_nil, service := agentService false, adding := fun _ => none
    running := [] }

/-- An `Add` that waits in vain for a binding, one for a new sandbox of the Pod, and in between a
collection that lists the new sandbox and deletes the record of the first. -/
def stickyAdd : List HostEvent :=
  [.health true true, .addBegin (stickyRequest "sandbox") (stickyBegin "private"),
    .addBind "pod-uid" (stickyBind (some "binding is not ready")),
    .addBegin (stickyRequest "retried") (stickyBegin ""),
    .gc "waycloak" [(stickyRequest "retried").key] none, .advance 0 stickyCollect, .advance 0 .act,
    .addBind "pod-uid" (stickyBind none), .addPrepare "pod-uid" .answered (agentProgram 1),
    .addFinish "pod-uid" none 3]

/-- An `Add` that waits in vain for a binding, a collection that does not list its sandbox, and an
`Add` for a new sandbox of the Pod after its label has been removed. -/
def forgottenAdd : List HostEvent :=
  [.addBegin (stickyRequest "sandbox") (stickyBegin "private"),
    .addBind "pod-uid" (stickyBind (some "binding is not ready")),
    .gc "waycloak" [] none, .advance 0 stickyCollect, .advance 0 .act,
    .addBegin (stickyRequest "retried") (stickyBegin "")]

theorem emptyHost_empty : emptyHost.Empty := ⟨rfl, fun _ => rfl, rfl⟩

/-- The record of a sandbox of the Pod at the start of its `Add`. -/
def stickyRecord (containerID : String) : Attachment :=
  { network := "waycloak", pod := { agentSandbox with containerID }, namespaceIdentity := "ns:1"
    phase := .lockedDown, bindingUID := "", bindingGeneration := 0, gatewayUID := "", updatedAt := 1 }

theorem stickyRecord_of (containerID : String) :
    RecordOf "waycloak" agentSandbox (stickyRecord containerID) :=
  recordOf_iff.mpr ⟨rfl, rfl, rfl, rfl⟩

/-- The event has a task look the Pod up. -/
def readsPod : HostEvent → Bool
  | .advance _ (.load _) => true
  | .advance _ (.group _) => true
  | _ => false

theorem not_reportsGone (h : readsPod r.input = false) : ¬ ReportsGone pod r := by
  rintro (⟨hinput, -⟩ | ⟨hinput, -⟩)
  · rw [hinput] at h
    cases h
  · rw [hinput] at h
    cases h

def isDeletion : AgentAction → Bool
  | .delete _ => true
  | _ => false

theorem retains_of_no_deletion (h : r.output.actions.any isDeletion = false) :
    RetainsRecords network pod r := by
  intro _ key hdelete
  rw [List.any_eq_false] at h
  exact absurd rfl (h _ hdelete)

theorem sandboxes_distinct
    (h : ∀ event ∈ events, ∀ request answers, event = .addBegin request answers →
      ∃ containerID, request = stickyRequest containerID) : DistinctPods events := by
  rintro request answers request' answers' hmem hmem' -
  obtain ⟨containerID, rfl⟩ := h _ hmem _ _ rfl
  obtain ⟨containerID', rfl⟩ := h _ hmem' _ _ rfl
  exact ⟨rfl, rfl, rfl⟩

theorem Completes.verifies (h : Completes parsers r pod) :
    ∃ netNS config, .program (.verify netNS config true) ∈ r.output.actions := by
  cases h with
  | prepare _ _ _ h | check _ _ _ h =>
    obtain ⟨binding, config, -, hverify, -⟩ := h
    exact ⟨_, _, hverify⟩

end Waycloak.Analysis
