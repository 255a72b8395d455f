import Waycloak.Interface.PluginSteps

/-!
# What a step of a node does

The node, its agent and its plugin as one system: what an event does to the durable records, and
how the `Add` in progress for a Pod and the other operations advance. Every record a step saves
has the identity of the request it belongs to or of the `Add` in progress, or an operation in
progress had it to save.
-/

set_option autoImplicit false

namespace Waycloak.Interface

open Waycloak.Model Waycloak.Computation

variable {answers : Plugin.AddBeginAnswers} {attachment b a : Attachment}
  {binding : BindingReference} {podUID : ObjectUID} {progress : Option Plugin.AddProgress}
  {request : CNIRequest} {s : NodeService} {script : Script} {node : Node}
  {actions : List AgentAction}
variable {action : AgentAction} {R : Attachment → Prop}

/-! ## The state after a step -/

section Next

variable (parsers : NetworkParsers) (host : Host) (event : HostEvent)

theorem hostNext_output : (host.next parsers event).2 = (host.script parsers event).1 := by
  cases event <;> rfl

theorem hostRecord_eq {parsers : NetworkParsers} {r : HostRecord}
    (hrec : r = record (Host.next parsers) r.before r.input) :
    r.after = (r.before.next parsers r.input).1 ∧
      r.output = (r.before.script parsers r.input).1 := by
  constructor
  · rw [hrec]
    rfl
  · rw [hrec]
    exact hostNext_output parsers r.before r.input

theorem hostNext_attachments : (host.next parsers event).1.node.attachments =
      (host.node.applyAll (host.script parsers event).1.actions).attachments := by
  cases event <;> rfl

theorem hostNext_adding (podUID : ObjectUID) : (host.next parsers event).1.adding podUID =
      if event.adds = some podUID then (host.script parsers event).2 else host.adding podUID := by
  cases event <;> rfl

theorem hostNext_running :
    (host.next parsers event).1.running = host.operations parsers event := by
  cases event <;> rfl

theorem operations_adds {podUID : ObjectUID} (h : event.adds = some podUID) :
    host.operations parsers event = host.running := by
  cases event with
  | addBegin | addBind | addPrepare | addFinish | abandon => rfl
  | _ => cases h

end Next

/-! ## Operations in progress -/

/-- The actions a task turns into when an operation takes it up. -/
inductive Expands (parsers : NetworkParsers) (host : Host) :
    Task → TaskAnswers → List AgentAction → Prop
  | load (key : AttachmentKey) (netns : String) (answers : Plugin.DeleteAnswers) :
      Expands parsers host (.load key netns) (.load answers)
        (Plugin.delete host.service host.node answers key netns).actions
  | collect (attachment : Attachment) (answers : Plugin.GCAnswers) :
      Expands parsers host (.collect attachment) (.collect answers)
        (Plugin.gcAttachment host.node answers attachment).actions
  | group (podUID : ObjectUID) (attachments : List Attachment)
      (answers : NodeService.GroupAnswers) :
      Expands parsers host (.group podUID attachments) (.group answers)
        (host.service.reconcileAttachmentGroup parsers host.node answers attachments).actions

/-- **How an operation advances**: not at all, by an action, or by taking up a task. -/
inductive Advanced (parsers : NetworkParsers) (host : Host) (index : Nat) (answers : TaskAnswers) :
    List AgentAction → List Operation → Prop
  | idle : Advanced parsers host index answers [] host.running
  | performed {op : Operation} {action : AgentAction} {rest : List Task}
      (hop : host.running[index]? = some op) (htasks : op.tasks = .act action :: rest) :
      Advanced parsers host index answers [action]
        (host.running.set index { op with tasks := rest })
  | expanded {op : Operation} {task : Task} {rest : List Task} {more : List AgentAction}
      (hop : host.running[index]? = some op) (htasks : op.tasks = task :: rest)
      (hexpands : Expands parsers host task answers more) :
      Advanced parsers host index answers []
        (host.running.set index { op with tasks := more.map .act ++ rest })

theorem advance_cases (parsers : NetworkParsers) (host : Host) (index : Nat)
    (answers : TaskAnswers) :
    Advanced parsers host index answers (host.advance parsers index answers).1
      (host.advance parsers index answers).2 := by
  unfold Host.advance
  split
  · next lock task rest hop =>
    fun_cases Host.perform parsers host task answers with
    | case1 => exact .performed hop rfl
    | case2 key netns answers => exact .expanded hop rfl (.load key netns answers)
    | case3 attachment answers => exact .expanded hop rfl (.collect attachment answers)
    | case4 podUID attachments answers => exact .expanded hop rfl (.group podUID attachments answers)
    | case5 => exact .idle
  · exact .idle

/-- **How an operation comes to be in progress after a step.** -/
inductive HostRunning (parsers : NetworkParsers) (host : Host) (event : HostEvent) :
    Operation → Prop
  | same {op : Operation} (hop : op ∈ host.running) : HostRunning parsers host event op
  | deleting (key : AttachmentKey) (netns : String) (loadFailure : Option String)
      (hfree : host.deleteWaits key loadFailure = false) :
      HostRunning parsers host event
        { lock := host.deleteLock key loadFailure, tasks := [.load key netns] }
  | collecting (attachments : List Attachment) :
      HostRunning parsers host event { lock := none, tasks := attachments.map .collect }
  | reconciling :
      HostRunning parsers host event { lock := none, tasks := NodeService.groups host.node }
  | performed {op : Operation} {action : AgentAction} {rest : List Task} (hop : op ∈ host.running)
      (htasks : op.tasks = .act action :: rest) :
      HostRunning parsers host event { op with tasks := rest }
  | expanded {index : Nat} {answers : TaskAnswers} {op : Operation} {task : Task}
      {rest : List Task} {more : List AgentAction} (hevent : event = .advance index answers)
      (hop : host.running[index]? = some op) (htasks : op.tasks = task :: rest)
      (hexpands : Expands parsers host task answers more) :
      HostRunning parsers host event { op with tasks := more.map .act ++ rest }

theorem host_running {parsers : NetworkParsers} {host : Host} {event : HostEvent} {op : Operation}
    (h : op ∈ (host.next parsers event).1.running) : HostRunning parsers host event op := by
  rw [hostNext_running] at h
  revert h
  fun_cases Host.operations parsers host event with
  | case2 key netns loadFailure hwaits =>
    intro h
    rcases List.mem_append.mp h with h | h
    · exact .same h
    · rw [List.mem_singleton.mp h]
      exact .deleting key netns loadFailure (by simpa using hwaits)
  | case3 =>
    intro h
    rcases List.mem_append.mp h with h | h
    · exact .same h
    · rw [List.mem_singleton.mp h]
      exact .collecting _
  | case5 =>
    intro h
    rcases List.mem_append.mp h with h | h
    · exact .same h
    · rw [List.mem_singleton.mp h]
      exact .reconciling
  | case6 index answers =>
    have hadvanced := advance_cases parsers host index answers
    generalize host.advance parsers index answers = result at hadvanced ⊢
    obtain ⟨actions, running⟩ := result
    intro h
    cases hadvanced with
    | idle => exact .same h
    | performed hop htasks =>
      rcases List.mem_or_eq_of_mem_set h with h | rfl
      · exact .same h
      · exact .performed (List.mem_of_getElem? hop) htasks
    | expanded hop htasks hexpands =>
      rcases List.mem_or_eq_of_mem_set h with h | rfl
      · exact .same h
      · exact .expanded rfl hop htasks hexpands
  | case7 => exact fun h => .same (List.mem_of_mem_eraseIdx h)
  | _ => exact .same

/-! ## Durable records -/

theorem apply_attachments (h : (∀ a, action ≠ .save a) ∧ ∀ key, action ≠ .delete key) :
    (node.apply action).attachments = node.attachments := by
  cases action with
  | save a => exact absurd rfl (h.1 a)
  | delete key => exact absurd rfl (h.2 key)
  | _ => rfl

theorem applyAll_leavesRecords (h : LeavesRecords actions) :
    (node.applyAll actions).attachments = node.attachments :=
  applyAll_invariant (P := fun n => n.attachments = node.attachments)
    (fun action haction _ hn => (apply_attachments (h action haction)).trans hn) rfl

theorem applyAll_records (hrecords : ∀ a ∈ node.attachments, R a)
    (hsaves : ∀ b, .save b ∈ actions → R b) : ∀ a ∈ (node.applyAll actions).attachments, R a := by
  apply applyAll_invariant (P := fun node => ∀ a ∈ node.attachments, R a) ?_ hrecords
  intro action haction node hnode a ha
  cases action with
  | save b =>
    rcases KeyedStore.mem_put.mp ha with rfl | ⟨ha, -⟩
    · exact hsaves _ haction
    · exact hnode a ha
  | delete key => exact hnode a (KeyedStore.mem_delete.mp ha).1
  | _ => exact hnode a ha

theorem applyAll_keeps (ha : a ∈ node.attachments) (hR : R a) (hdeletes : .delete a.key ∉ actions)
    (hsaves : ∀ b, .save b ∈ actions → b.key = a.key → R b) :
    ∃ b ∈ (node.applyAll actions).attachments, R b := by
  have hkept : ∃ b ∈ (node.applyAll actions).attachments, b.key = a.key ∧ R b := by
    apply applyAll_invariant (P := fun node => ∃ b ∈ node.attachments, b.key = a.key ∧ R b) ?_
      ⟨a, ha, rfl, hR⟩
    intro action haction node hnode
    obtain ⟨b, hb, hkey, hRb⟩ := hnode
    cases action with
    | save c =>
      by_cases hc : c.key = a.key
      · exact ⟨c, KeyedStore.mem_put.mpr (Or.inl rfl), hc, hsaves c haction hc⟩
      · refine ⟨b, KeyedStore.mem_put.mpr (Or.inr ⟨hb, ?_⟩), hkey, hRb⟩
        rw [hkey]
        exact Ne.symm hc
    | delete key =>
      refine ⟨b, KeyedStore.mem_delete.mpr ⟨hb, ?_⟩, hkey, hRb⟩
      intro heq
      rw [← heq, hkey] at haction
      exact hdeletes haction
    | _ => exact ⟨b, hb, hkey, hRb⟩
  obtain ⟨b, hb, -, hRb⟩ := hkept
  exact ⟨b, hb, hRb⟩

theorem applyAll_saved (hb : .save b ∈ actions) (hR : R b) (hdeletes : ∀ key, .delete key ∉ actions)
    (hsaves : ∀ c, .save c ∈ actions → c.key = b.key → R c) :
    ∃ c ∈ (node.applyAll actions).attachments, R c := by
  obtain ⟨first, second, rfl⟩ := List.append_of_mem hb
  rw [applyAll_append, applyAll_cons]
  refine applyAll_keeps (KeyedStore.mem_put.mpr (Or.inl rfl)) hR ?_ ?_
  · exact fun hdelete => hdeletes b.key (by simp [hdelete])
  · exact fun c hc => hsaves c (by simp [hc])

/-! ## What an event saves and deletes -/

section Script

variable {parsers : NetworkParsers} {host : Host} {event : HostEvent}

/-- The `Add` that begins with a record denied its sandbox first. -/
structure Begins (host : Host) (request : CNIRequest) (b : Attachment)
    (actions : List AgentAction) : Prop where
  network : b.network = request.network
  pod : b.pod = request.pod
  identity : host.node.namespaces request.pod.netNS = some b.namespaceIdentity
  denied : .program (.installLockdown request.pod.netNS request.pod.uid true) ∈ actions

/-- **How a step changes a record.** It saves that of the `Add` that begins, one with the identity
of the `Add` in progress, or an operation in progress had the change to make. -/
inductive HostChanges (host : Host) (event : HostEvent) (actions : List AgentAction) :
    AgentAction → Prop
  | begun {request : CNIRequest} {answers : Plugin.AddBeginAnswers} {b : Attachment}
      (hevent : event = .addBegin request answers) (hfree : host.locked request.pod.uid = false)
      (h : Begins host request b actions) : HostChanges host event actions (.save b)
  | adding {podUID : ObjectUID} {progress : Plugin.AddProgress} {b : Attachment}
      (hadds : event.adds = some podUID) (hadding : host.adding podUID = some progress)
      (h : SameSandbox b progress.attachment) : HostChanges host event actions (.save b)
  | performed {index : Nat} {answers : TaskAnswers} {op : Operation} {action : AgentAction}
      {rest : List Task} (hevent : event = .advance index answers)
      (hop : host.running[index]? = some op) (htasks : op.tasks = .act action :: rest) :
      HostChanges host event actions action

theorem checked_leavesRecords {checked : List AgentAction}
    (h : checked = [] ∨ ∃ existing, Rechecks node answers request existing ∧
      answers.checkDelivery ≠ .undelivered ∧
      checked = (recheckScript s parsers node answers request existing).actions) :
    LeavesRecords checked := by
  rcases h with rfl | ⟨existing, -, -, rfl⟩
  · simp [LeavesRecords]
  · exact serveCheck_programming.leavesRecords

theorem LeavesRecords.of_mem (h : LeavesRecords actions) (haction : action ∈ actions) :
    LeavesRecords [action] :=
  List.forall_mem_singleton.mpr (h action haction)

theorem addBegin_changes
    (hbegun : AddBegun host.service parsers host.node answers request script progress)
    (h : action ∈ script.actions) : LeavesRecords [action] ∨ ∃ b, action = .save b ∧
      Begins host request b script.actions ∧
      progress = some { attachment := b, stage := .denied } := by
  cases hbegun with
  | refused err => cases h
  | notEnrolled => cases h
  | checked _ _ _ _ _ hscript =>
    rw [hscript] at h
    exact Or.inl (serveCheck_programming.leavesRecords.of_mem h)
  | denied _ hidentity hchecked hdenial =>
    rcases List.mem_append.mp h with h | h
    · exact Or.inl ((checked_leavesRecords hchecked).of_mem h)
    cases hdenial with
    | unlocked | unrecorded =>
      left
      refine LeavesRecords.of_mem ?_ h
      simp [LeavesRecords]
    | recorded b hnetwork hpod hid =>
      rcases List.mem_cons.mp h with rfl | h
      · exact Or.inl (by simp [LeavesRecords])
      · exact Or.inr ⟨b, List.mem_singleton.mp h,
          ⟨hnetwork, hpod, by rw [hidentity, hid], by simp [NodeService.before]⟩, rfl⟩

theorem addBind_changes (hbound : AddBound attachment script progress)
    (h : action ∈ script.actions) : ∃ b, action = .save b ∧ SameSandbox b attachment := by
  cases hbound with
  | refused err => cases h
  | bound bound _ hkey hpod hidentity =>
    exact ⟨bound, List.mem_singleton.mp h, hkey, hpod, hidentity⟩

theorem addFinish_changes {saveFailure : Option String} {now : Time}
    (h : action ∈ (Plugin.addFinish attachment saveFailure now).actions) :
    ∃ b, action = .save b ∧ SameSandbox b attachment := by
  rcases addFinish_cases attachment saveFailure now with ⟨err, heq⟩ | heq
  · rw [heq] at h
    cases h
  rw [heq] at h
  exact ⟨_, List.mem_singleton.mp h, rfl, rfl, rfl⟩

theorem addPrepare_leavesRecords {delivery : Delivery} {answers : NodeService.ProgramAnswers} :
    LeavesRecords
      (Plugin.addPrepare s parsers node delivery answers attachment binding).1.actions :=
  delivered_leavesRecords servePrepare_programming.leavesRecords delivery

theorem check_leavesRecords (s : NodeService) (node : Node) (answers : Plugin.CheckAnswers)
    (request : CNIRequest) :
    LeavesRecords (Plugin.check s parsers node answers request).actions := by
  fun_cases Plugin.check s parsers node answers request with
  | case8 => exact delivered_leavesRecords serveCheck_programming.leavesRecords _
  | _ => simp [LeavesRecords, Script.fail]

/-- INTERNAL: **the actions of a step** leave the records alone, or change one as above. -/
theorem host_changes (h : action ∈ (host.script parsers event).1.actions) :
    LeavesRecords [action] ∨ HostChanges host event (host.script parsers event).1.actions action := by
  revert h
  fun_cases Host.script parsers host event with
  | case2 _ _ hfree =>
    intro h
    rcases addBegin_changes (addBegin_cases _ _ _ _ _) h with hleaves | ⟨b, rfl, hbegins, -⟩
    · exact Or.inl hleaves
    · exact Or.inr (.begun rfl (by simpa using hfree) hbegins)
  | case3 _ _ _ hadding =>
    intro h
    obtain ⟨b, rfl, hsame⟩ := addBind_changes (addBind_cases _ _ _) h
    exact Or.inr (.adding rfl hadding hsame)
  | case5 => exact fun h => Or.inl (addPrepare_leavesRecords.of_mem h)
  | case7 _ _ _ _ hadding =>
    intro h
    obtain ⟨b, rfl, hsame⟩ := addFinish_changes h
    exact Or.inr (.adding rfl hadding hsame)
  | case11 => exact fun h => Or.inl ((check_leavesRecords _ _ _ _).of_mem h)
  | case12 =>
    dsimp only
    split <;> nofun
  | case13 =>
    dsimp only
    split <;> nofun
  | case14 =>
    dsimp only
    split
    · exact fun h => Or.inl ((lockdownAll_leavesRecords _ _ _).of_mem h)
    · split <;> nofun
  | case15 index taskAnswers =>
    have hadvanced := advance_cases parsers host index taskAnswers
    generalize host.advance parsers index taskAnswers = result at hadvanced ⊢
    obtain ⟨actions, running⟩ := result
    cases hadvanced with
    | idle | expanded => nofun
    | performed hop htasks =>
      intro h
      cases List.mem_singleton.mp h
      exact Or.inr (.performed rfl hop htasks)
  | case16 => exact fun h => Or.inl ((lockdownAll_leavesRecords _ _ _).of_mem h)
  | _ => nofun

theorem host_saves (h : .save b ∈ (host.script parsers event).1.actions) :
    HostChanges host event (host.script parsers event).1.actions (.save b) :=
  (host_changes h).resolve_left fun hleaves => (hleaves _ (List.mem_singleton_self _)).1 b rfl

/-- INTERNAL: **the record a step deletes** is one that an operation in progress had to delete. -/
theorem host_deletes {key : AttachmentKey}
    (h : .delete key ∈ (host.script parsers event).1.actions) :
    ∃ index answers op rest, event = .advance index answers ∧
      host.running[index]? = some op ∧ op.tasks = .act (.delete key) :: rest := by
  rcases host_changes h with hleaves | hchanges
  · exact absurd rfl ((hleaves _ (List.mem_singleton_self _)).2 key)
  cases hchanges with
  | performed hevent hop htasks => exact ⟨_, _, _, _, hevent, hop, htasks⟩

/-! ## The `Add` in progress -/

/-- A protected path that the agent programmed or found, verified and reported ready for the binding
that was asked for. -/
def PathConfirmed (s : NodeService) (parsers : NetworkParsers) (answers : NodeService.ProgramAnswers)
    (pod : PodIdentity) (requested : BindingReference) (actions : List AgentAction) : Prop :=
  ∃ binding config, Authorized s parsers answers pod requested binding config ∧
    .program (.verify pod.netNS config true) ∈ actions ∧
    s.observe binding true answers.now ∈ actions

theorem Programming.confirmed {answers : NodeService.ProgramAnswers} {pod : PodIdentity}
    {requested : BindingReference} {keptWhen : Prop}
    (h : Programming s parsers node answers pod requested keptWhen script)
    (hdone : script.error = none) :
    PathConfirmed s parsers answers pod requested script.actions := by
  cases h with
  | refused err | denied | failed => cases hdone
  | kept _ hauthority => exact ⟨_, _, authority_ok hauthority, by simp, by simp⟩
  | programmed _ hauthority => exact ⟨_, _, hauthority, by simp, by simp⟩

/-- **How an `Add` comes to be in progress after a step.** -/
inductive HostAdding (parsers : NetworkParsers) (host : Host) (event : HostEvent)
    (podUID : ObjectUID) (actions : List AgentAction) (progress : Plugin.AddProgress) : Prop
  | same (h : host.adding podUID = some progress)
  | begun {request : CNIRequest} {answers : Plugin.AddBeginAnswers}
      (hevent : event = .addBegin request answers) (huid : request.pod.uid = podUID)
      (hfree : host.locked podUID = false) (h : Begins host request progress.attachment actions)
      (hstage : progress.stage = .denied)
  | bound {before : Plugin.AddProgress} (h : host.adding podUID = some before)
      (hsame : SameSandbox progress.attachment before.attachment)
      (hstage : progress.stage ≠ .prepared)
  | prepared {attachment : Attachment} {requested : BindingReference} {delivery : Delivery}
      {answers : NodeService.ProgramAnswers}
      (hevent : event = .addPrepare podUID delivery answers)
      (h : host.adding podUID = some { attachment, stage := .bound requested })
      (hprogress : progress = { attachment, stage := .prepared })
      (hconfirmed : PathConfirmed host.service parsers answers attachment.pod requested actions)

/-- An `Add` that goes on has denied its sandbox and then recorded it. -/
structure DeniedFirst (node : Node) (request : CNIRequest) (begun : Script) (a : Attachment) :
    Prop where
  actions : ∃ checked, LeavesRecords checked ∧ begun =
    { actions := checked ++
        [.program (.installLockdown request.pod.netNS request.pod.uid true), .save a]
      error := none }
  network : a.network = request.network
  pod : a.pod = request.pod
  identity : node.namespaces request.pod.netNS = some a.namespaceIdentity
  phase : a.phase = .lockedDown

theorem addBegin_denial {begun : Script} {progress : Plugin.AddProgress}
    (hbegun : AddBegun s parsers node answers request begun (some progress)) :
    DeniedFirst node request begun progress.attachment := by
  generalize hp : some progress = result at hbegun
  cases hbegun with
  | refused err | notEnrolled | checked => cases hp
  | denied checked hidentity hchecked hdenial =>
    subst hp
    generalize hp : some progress = result at hdenial
    cases hdenial with
    | unlocked => cases hp
    | unrecorded => cases hp
    | recorded _ hnetwork hpod hid hphase =>
      cases hp
      refine ⟨⟨checked, checked_leavesRecords hchecked, rfl⟩, hnetwork, hpod, ?_, hphase⟩
      rw [hidentity, hid]

theorem addBegin_progress {progress : Plugin.AddProgress}
    (hbegun : AddBegun host.service parsers host.node answers request script (some progress)) :
    .save progress.attachment ∈ script.actions := by
  obtain ⟨checked, -, hscript⟩ := (addBegin_denial hbegun).actions
  rw [hscript]
  simp

/-- INTERNAL: **the progress of an `Add` after a step.** -/
theorem host_adding {progress : Plugin.AddProgress}
    (h : (host.next parsers event).1.adding podUID = some progress) :
    HostAdding parsers host event podUID (host.script parsers event).1.actions progress := by
  rw [hostNext_adding] at h
  split at h
  · next hadds =>
    revert h
    fun_cases Host.script parsers host event with
    | case1 | case4 | case6 | case8 =>
      cases hadds
      exact .same
    | case2 request answers hfree =>
      cases hadds
      intro h
      have hbegun := addBegin_cases host.service parsers host.node answers request
      rw [h] at hbegun
      rcases addBegin_changes hbegun (addBegin_progress hbegun) with
        hleaves | ⟨b, heq, hbegins, hprogress⟩
      · exact absurd rfl ((hleaves _ (List.mem_singleton_self _)).1 _)
      · cases heq
        exact .begun rfl rfl (by simpa using hfree) hbegins
          (congrArg Plugin.AddProgress.stage (Option.some.inj hprogress))
    | case3 uid answers attachment hadding =>
      cases hadds
      intro h
      have hbound := addBind_cases host.service answers attachment
      generalize Plugin.addBind host.service answers attachment = result at h hbound
      obtain ⟨script, after⟩ := result
      cases hbound with
      | refused err => cases h
      | bound bound _ hkey hpod hidentity =>
        cases h
        exact .bound hadding ⟨hkey, hpod, hidentity⟩ (by simp)
    | case5 uid delivery answers attachment binding hadding =>
      cases hadds
      dsimp only [Plugin.addPrepare]
      split
      · next hdone =>
        obtain ⟨hanswered, hok⟩ := delivered_done hdone
        rintro ⟨⟩
        refine .prepared rfl hadding rfl ?_
        rw [hanswered]
        exact servePrepare_programming.confirmed hok
      · nofun
    | case7 | case9 => nofun
    | _ => cases hadds
  · exact .same h

end Script

end Waycloak.Interface
