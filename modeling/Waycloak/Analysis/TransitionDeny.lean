import Waycloak.Analysis.VerifiedPaths

/-!
# A held agent reports a Pod as denied only after it has denied its sandboxes

An agent that is held for a release transition reports every binding of its node as not ready,
and the transition proceeds on those reports. It programs nothing: `Prepare` refuses, `Check`
only denies, and every reconcile is a `LockdownAll`.

`LockdownAll` takes the attachments and then the node's bindings, and the second part does not
look at how the first one ended. The property below holds for a Pod in every run in which the
sandboxes of the Pod have been denied by the time a report about it is made.
-/

set_option autoImplicit false

namespace Waycloak.Analysis

open Waycloak.Model Waycloak.Interface Waycloak.Computation

variable {answers : NodeService.LockdownAnswers} {call : ProgrammerCall}
  {observation : NodeObservation} {script : Script} {podUID : ObjectUID} {attachment : Attachment}
  {start : List IssuedCall} {node : Node}
variable {event : AgentEvent} {s : NodeService}

/-! ## The property -/

/-- The attachment's namespace is there under its recorded identity. -/
def HasSandbox (node : Node) (attachment : Attachment) : Prop :=
  node.namespaces attachment.pod.netNS = some attachment.namespaceIdentity

/-- The calls issued since `start` have denied the attachment's sandbox, and nothing reopened it. -/
def DeniedSince (start : List IssuedCall) (node : Node) (attachment : Attachment) : Prop :=
  ∃ since, node.issued = since ++ start ∧
    policyIn attachment.namespaceIdentity attachment.pod.uid since = .denied

/-- Every sandbox of the Pod that is still there has been denied since `start`. -/
def DenyApplied (start : List IssuedCall) (podUID : ObjectUID) (node : Node) : Prop :=
  ∀ attachment ∈ node.attachments, attachment.pod.uid = podUID → HasSandbox node attachment →
    DeniedSince start node attachment

/-- A Pod that is reported not ready is denied. -/
def DenyReported (start : List IssuedCall) (podUID : ObjectUID) (node : Node) : Prop :=
  ∀ observation, node.observations podUID = some observation → observation.ready = false →
    DenyApplied start podUID node

/-! ## Actions that only deny -/

/-- The action opens no path and changes no attachment. -/
def onlyDenies : AgentAction → Bool
  | .program (.configure _ _ _) => false
  | .save _ => false
  | .delete _ => false
  | _ => true

section Denials

variable {action : AgentAction} {actions : List AgentAction}

theorem installs_of_onlyDenies (h : onlyDenies (.program call) = true) :
    call.installs = none ∨ call.installs = some .denied := by
  cases call with
  | installLockdown _ _ ok => cases ok <;> simp [ProgrammerCall.installs]
  | configure => cases h
  | verify => exact Or.inl rfl
  | cleanup _ _ denied => cases denied <;> simp [ProgrammerCall.installs]

theorem apply_deniedSince (haction : onlyDenies action = true)
    (h : DeniedSince start node attachment) : DeniedSince start (node.apply action) attachment := by
  obtain ⟨since, hissued, hdenied⟩ := h
  rcases apply_issued node action with hsame | ⟨call, rfl, hcall⟩
  · exact ⟨since, by rw [hsame, hissued], hdenied⟩
  refine ⟨⟨node.namespaces call.netNS, call⟩ :: since, by rw [hcall, hissued]; rfl, ?_⟩
  unfold policyIn
  split
  · rcases installs_of_onlyDenies haction with hnone | hinstalls
    · simpa only [hnone] using hdenied
    · simp only [hinstalls]
  · exact hdenied

theorem denies_deniedSince (hsandbox : HasSandbox node attachment)
    (hnetNS : call.netNS = attachment.pod.netNS) (hpod : call.podUID = attachment.pod.uid)
    (hinstalls : call.installs = some .denied) (hstart : start <:+ node.issued) :
    DeniedSince start (node.apply (.program call)) attachment := by
  obtain ⟨since, hissued⟩ := hstart
  refine ⟨⟨node.namespaces call.netNS, call⟩ :: since, by simp [Node.apply, ← hissued], ?_⟩
  have hidentity : node.namespaces attachment.pod.netNS = some attachment.namespaceIdentity :=
    hsandbox
  simp [policyIn, hnetNS, hidentity, hpod, hinstalls]

theorem apply_suffix (h : start <:+ node.issued) : start <:+ (node.apply action).issued := by
  rcases apply_issued node action with hsame | ⟨call, -, hcall⟩
  · rwa [hsame]
  · rw [hcall]
    exact h.trans (List.suffix_cons _ _)

theorem applyAll_suffix (h : start <:+ node.issued) : start <:+ (node.applyAll actions).issued :=
  applyAll_invariant (P := fun n => start <:+ n.issued) (fun _ _ _ hn => apply_suffix hn) h

theorem applyAll_observed (h : (node.applyAll actions).observations podUID = some observation) :
    node.observations podUID = some observation ∨
      .observe observation ∈ actions ∧ observation.podUID = podUID := by
  induction actions generalizing node with
  | nil => exact Or.inl h
  | cons action _ ih =>
    rw [applyAll_cons] at h
    rcases ih h with hbefore | ⟨hmem, huid⟩
    · by_cases hconcerns : concerns action = some podUID
      · cases action with
        | observe =>
          cases hconcerns
          simp only [Node.apply, if_true, Option.some.injEq] at hbefore
          subst hbefore
          exact Or.inr ⟨List.mem_cons_self, rfl⟩
        | forget uid =>
          cases hconcerns
          simp [Node.apply] at hbefore
        | program => exact Or.inl hbefore
        | publish | save | delete key => cases hconcerns
      · rw [apply_observations hconcerns] at hbefore
        exact Or.inl hbefore
    · exact Or.inr ⟨List.mem_cons_of_mem _ hmem, huid⟩

variable (hactions : ∀ action ∈ actions, onlyDenies action = true)

include hactions

theorem applyAll_deniedSince (h : DeniedSince start node attachment) :
    DeniedSince start (node.applyAll actions) attachment :=
  applyAll_invariant (P := fun n => DeniedSince start n attachment)
    (fun action ha _ hn => apply_deniedSince (hactions action ha) hn) h

/-- INTERNAL: **a denial somewhere in a list that only denies.** -/
theorem applyAll_denies (hmem : .program call ∈ actions) (hsandbox : HasSandbox node attachment)
    (hnetNS : call.netNS = attachment.pod.netNS) (hpod : call.podUID = attachment.pod.uid)
    (hinstalls : call.installs = some .denied) (hstart : start <:+ node.issued) :
    DeniedSince start (node.applyAll actions) attachment := by
  obtain ⟨first, rest, rfl⟩ := List.append_of_mem hmem
  rw [applyAll_append, applyAll_cons]
  apply applyAll_deniedSince (fun action ha => hactions action (by simp [ha]))
  refine denies_deniedSince ?_ hnetNS hpod hinstalls (applyAll_suffix hstart)
  rwa [HasSandbox, applyAll_namespaces]

theorem applyAll_attachments : (node.applyAll actions).attachments = node.attachments := by
  refine applyAll_invariant (P := fun n => n.attachments = node.attachments) ?_ rfl
  intro action haction n hn
  cases action with
  | save a => cases hactions _ haction
  | delete key => cases hactions _ haction
  | program | observe | forget uid | publish => exact hn

/-- INTERNAL: **one operation that only denies.** It keeps the property of a Pod if whatever it
reports about the Pod is so afterwards. -/
theorem applyAll_denyReported
    (hreported : ∀ observation, .observe observation ∈ actions → observation.podUID = podUID →
      DenyApplied start podUID (node.applyAll actions))
    (h : DenyReported start podUID node) : DenyReported start podUID (node.applyAll actions) := by
  intro observation hobservation hready
  rcases applyAll_observed hobservation with hbefore | ⟨hmem, huid⟩
  · intro attachment hattachment hpod hsandbox
    rw [applyAll_attachments hactions] at hattachment
    rw [HasSandbox, applyAll_namespaces] at hsandbox
    exact applyAll_deniedSince hactions (h observation hbefore hready attachment hattachment hpod
      hsandbox)
  · exact hreported observation hmem huid

end Denials

/-! ## The operations of a held agent -/

/-- A report that a `LockdownAll` makes about the Pod. -/
def LockdownReports (s : NodeService) (node : Node) (answers : NodeService.LockdownAnswers)
    (podUID : ObjectUID) : Prop :=
  (∃ attachment ∈ node.attachments, attachment.pod.uid = podUID ∧
      answers.lockdown attachment.key = true ∧
      ∃ binding, NodeService.rawBinding (answers.binding attachment.key) podUID = .ok binding) ∨
    ∃ bindings, answers.bindings = .ok bindings ∧ ∃ binding ∈ bindings,
      s.reportable binding = true ∧ binding.spec.podRef.uid = podUID

/-- When a `LockdownAll` reports about the Pod, every sandbox of the Pod was denied before, or its
identity is read and the lockdown in it succeeds. -/
def LockdownDenies (start : List IssuedCall) (s : NodeService) (podUID : ObjectUID) (node : Node)
    (answers : NodeService.LockdownAnswers) : Prop :=
  LockdownReports s node answers podUID →
    ∀ attachment ∈ node.attachments, attachment.pod.uid = podUID → HasSandbox node attachment →
      DeniedSince start node attachment ∨
        answers.identityFailure attachment.key = none ∧ answers.lockdown attachment.key = true

/-- When a `Withdraw` reports about the Pod, every sandbox of the Pod was denied before or is the one
that is withdrawn. -/
def WithdrawDenies (start : List IssuedCall) (podUID : ObjectUID) (node : Node)
    (identity : PodIdentity) (answers : NodeService.WithdrawAnswers) : Prop :=
  identity.uid = podUID →
    (∃ binding, NodeService.withdrawalBinding answers.binding podUID = .ok (some binding)) →
    ∀ attachment ∈ node.attachments, attachment.pod.uid = podUID → HasSandbox node attachment →
      DeniedSince start node attachment ∨
        node.attachments.entries.find? (fun a => a.pod = identity) = some attachment

/-- What an operation reports about the Pod it has denied, and no sandbox appears behind a report.
-/
def DeniesWhatItReports (start : List IssuedCall) (s : NodeService) (podUID : ObjectUID)
    (node : Node) : AgentEvent → Prop
  | .prepare _ _ _ => True
  | .check _ _ _ => True
  | .withdraw identity answers => WithdrawDenies start podUID node identity answers
  | .lockdownAll answers => LockdownDenies start s podUID node answers
  | .reconcileAll answers => LockdownDenies start s podUID node answers.held
  | .health _ _ => True
  | .environment attachments namespaces =>
    (∃ observation, node.observations podUID = some observation) →
      ∀ attachment ∈ attachments, attachment.pod.uid = podUID →
        namespaces attachment.pod.netNS = some attachment.namespaceIdentity →
        attachment ∈ node.attachments ∧ HasSandbox node attachment

section Operations

/-- INTERNAL: what restrains a Pod opens no path. -/
theorem restrains_onlyDenies {action : AgentAction} (h : Restrains podUID action) :
    onlyDenies action = true := by
  cases action with
  | program call => cases call with
    | installLockdown | verify | cleanup => rfl
    | configure => cases h
  | observe | forget uid | publish => rfl
  | save a => cases h
  | delete key => cases h

theorem lockdownAll_onlyDenies (s : NodeService) (node : Node)
    (answers : NodeService.LockdownAnswers) :
    ∀ action ∈ (s.lockdownAll node answers).actions, onlyDenies action = true := by
  intro action haction
  obtain ⟨other, hrestrains⟩ := lockdownAll_restrains haction
  exact restrains_onlyDenies hrestrains

theorem lockdownAll_reportsPod (h : .observe observation ∈ (s.lockdownAll node answers).actions)
    (huid : observation.podUID = podUID) : LockdownReports s node answers podUID := by
  obtain ⟨-, ⟨attachment, hattachment, h⟩ | h⟩ := mem_lockdownAll h
  · obtain heq | ⟨hlockdown, h⟩ := mem_lockdownAttachment h
    · cases heq
    obtain ⟨binding, hread, hpod, heq⟩ := mem_observeNotReady h
    cases heq
    have hattached : attachment.pod.uid = podUID := hpod.symm.trans huid
    refine Or.inl ⟨attachment, hattachment, hattached, hlockdown, binding, ?_⟩
    simp [hread, NodeService.rawBinding, hpod, hattached]
  · obtain ⟨bindings, hbindings, binding, hmem, hreportable, heq⟩ := mem_observeNodeBindings h
    cases heq
    exact Or.inr ⟨bindings, hbindings, binding, hmem, hreportable, huid⟩

theorem lockdownAll_applied (hstart : start <:+ node.issued)
    (hdenies : LockdownDenies start s podUID node answers)
    (h : .observe observation ∈ (s.lockdownAll node answers).actions)
    (huid : observation.podUID = podUID) :
    DenyApplied start podUID (node.applyAll (s.lockdownAll node answers).actions) := by
  have honly := lockdownAll_onlyDenies s node answers
  intro attachment hattachment hpod hsandbox
  rw [applyAll_attachments honly] at hattachment
  rw [HasSandbox, applyAll_namespaces] at hsandbox
  rcases hdenies (lockdownAll_reportsPod h huid) attachment hattachment hpod hsandbox with
    hdenied | ⟨hidentity, hlockdown⟩
  · exact applyAll_deniedSince honly hdenied
  have hcall : .program (.installLockdown attachment.pod.netNS attachment.pod.uid true) ∈
      (s.lockdownAttachment node answers attachment).actions := by
    have hidentified : node.namespaces attachment.pod.netNS = some attachment.namespaceIdentity :=
      hsandbox
    simp [NodeService.lockdownAttachment, Node.identity, hidentified, hidentity, hlockdown]
  exact applyAll_denies honly
    (lockdownAll_of_attachment (mem_lockdownAll h).1 hattachment hcall) hsandbox rfl rfl rfl hstart

/-- INTERNAL: what a withdrawal publishes it keeps as its observation. -/
theorem withdrawal_published {answers : NodeService.WithdrawAnswers} {accepted : Bool}
    (h : Withdrawal s node answers attachment script)
    (hmem : .publish observation accepted ∈ script.actions) :
    .observe observation ∈ script.actions := by
  have hreport {report : Script} (h : WithdrawalReport s answers.binding attachment.pod.uid
      answers.now [.forget attachment.pod.uid] report)
      (hmem : .publish observation accepted ∈ report.actions) :
      .observe observation ∈ report.actions := by
    cases h with
    | unsent => cases hmem
    | absent => simp at hmem
    | rejected | published =>
      simp [NodeService.observe] at hmem ⊢
      exact hmem.1
  cases h with
  | refused err => cases hmem
  | failed => simp at hmem
  | gone hgone h => exact hreport h hmem
  | withdrawn _ _ hcall h =>
    exact List.mem_append_right _ (hreport h (by simpa [NodeService.before] using hmem))

theorem withdrawalReport_observes {read : Except ReadError VPNWorkloadBinding} {now : Time}
    (h : WithdrawalReport s read podUID now [.forget podUID] script)
    (hmem : .observe observation ∈ script.actions) :
    ∃ binding, NodeService.withdrawalBinding read podUID = .ok (some binding) := by
  cases h with
  | unsent => cases hmem
  | absent => simp at hmem
  | rejected err hread => exact ⟨_, hread⟩
  | published hread => exact ⟨_, hread⟩

theorem withdrawal_applied {answers : NodeService.WithdrawAnswers}
    (h : Withdrawal s node answers attachment script)
    (hfound : node.attachments.entries.find? (fun a => a.pod = attachment.pod) = some attachment)
    (hstart : start <:+ node.issued)
    (hdenies : WithdrawDenies start podUID node attachment.pod answers)
    (hmem : .observe observation ∈ script.actions) (huid : observation.podUID = podUID) :
    DenyApplied start podUID (node.applyAll script.actions) := by
  have honly := fun action haction => restrains_onlyDenies (h.restrains action haction)
  have hpod : attachment.pod.uid = podUID := ((h.restrains _ hmem).concerns _ rfl).symm.trans huid
  intro other hother hotherPod hsandbox
  rw [applyAll_attachments honly] at hother
  rw [HasSandbox, applyAll_namespaces] at hsandbox
  have hcovered (hread : ∃ binding, NodeService.withdrawalBinding answers.binding podUID =
      .ok (some binding)) : DeniedSince start node other ∨ attachment = other := by
    rcases hdenies hpod hread other hother hotherPod hsandbox with hdenied | hsame
    · exact Or.inl hdenied
    · exact Or.inr (Option.some.inj (hfound.symm.trans hsame))
  cases h with
  | refused err => cases hmem
  | failed => simp at hmem
  | gone hgone hreport =>
    have hread := withdrawalReport_observes hreport hmem
    rw [hpod] at hread
    rcases hcovered hread with hdenied | rfl
    · exact applyAll_deniedSince honly hdenied
    · exact absurd hsandbox hgone
  | @withdrawn report call hexact hcall hreport =>
    have hread := withdrawalReport_observes hreport (by simpa [NodeService.before] using hmem)
    rw [hpod] at hread
    rcases hcovered hread with hdenied | rfl
    · exact applyAll_deniedSince honly hdenied
    have hcallMem : .program call ∈ (NodeService.before [.program call] report).actions :=
      List.mem_append_left _ (List.mem_singleton_self _)
    rcases hcall with rfl | rfl
    · exact applyAll_denies honly hcallMem hsandbox rfl rfl rfl hstart
    · exact applyAll_denies honly hcallMem hsandbox rfl rfl rfl hstart

end Operations

/-! ## Runs of a held agent -/

/-- What one operation of a held agent does. -/
structure HeldStep (start : List IssuedCall) (podUID : ObjectUID) (node : Node)
    (actions : List AgentAction) : Prop where
  onlyDenies : ∀ action ∈ actions, onlyDenies action = true
  published : ∀ observation accepted, .publish observation accepted ∈ actions →
    .observe observation ∈ actions
  applied : ∀ observation, .observe observation ∈ actions → observation.podUID = podUID →
    DenyApplied start podUID (node.applyAll actions)

section Runs

variable {parsers : NetworkParsers}

theorem heldStep_lockdownAll (hstart : start <:+ node.issued)
    (hdenies : LockdownDenies start s podUID node answers) :
    HeldStep start podUID node (s.lockdownAll node answers).actions where
  onlyDenies := lockdownAll_onlyDenies s node answers
  published observation accepted hmem := by
    obtain ⟨-, ⟨attachment, -, h⟩ | h⟩ := mem_lockdownAll hmem
    · obtain heq | ⟨-, h⟩ := mem_lockdownAttachment h
      · cases heq
      · obtain ⟨binding, -, -, heq⟩ := mem_observeNotReady h
        cases heq
    · obtain ⟨-, -, binding, -, -, heq⟩ := mem_observeNodeBindings h
      cases heq
  applied observation hmem huid := lockdownAll_applied hstart hdenies hmem huid

theorem heldStep_nil : HeldStep start podUID node [] :=
  ⟨by simp, by simp, by simp⟩

theorem held_script (parsers : NetworkParsers) (hheld : s.transitionHeld = true)
    (hstart : start <:+ node.issued) (hdenies : DeniesWhatItReports start s podUID node event) :
    HeldStep start podUID node (s.script parsers node event).actions := by
  have hready : s.ready node = false := by simp [NodeService.ready, hheld]
  cases event with
  | prepare identity requested answers =>
    have hscript : (s.script parsers node (.prepare identity requested answers)).actions = [] := by
      simp [NodeService.script, NodeService.servePrepare, hready, Script.fail]
    rw [hscript]
    exact heldStep_nil
  | check =>
    simp only [NodeService.script, NodeService.serveCheck, hready, if_true]
    exact ⟨by simp [onlyDenies], by simp, by simp⟩
  | withdraw identity answers =>
    dsimp only [NodeService.script]
    rcases agentWithdraw_cases s node answers identity with
      ⟨err, hfail⟩ | ⟨attachment, rfl, hfound, hscript⟩
    · rw [hfail]
      exact heldStep_nil
    rw [hscript]
    have hcases : Withdrawal s node answers attachment _ := withdrawAttachment_cases
    exact ⟨fun action haction => restrains_onlyDenies (hcases.restrains action haction),
      fun _ _ => withdrawal_published hcases,
      fun observation hmem huid => withdrawal_applied hcases hfound hstart hdenies hmem huid⟩
  | lockdownAll => exact heldStep_lockdownAll hstart hdenies
  | reconcileAll answers =>
    rw [held_reconcileAll hheld]
    exact heldStep_lockdownAll hstart hdenies
  | health | environment => exact heldStep_nil

theorem held_next (hheld : s.transitionHeld = true)
    (hdenies : DeniesWhatItReports start s podUID node event)
    (h : start <:+ node.issued ∧ DenyReported start podUID node) :
    start <:+ (node.next s parsers event).1.issued ∧
      DenyReported start podUID (node.next s parsers event).1 := by
  obtain ⟨hstart, hreported⟩ := h
  have hstep := held_script parsers hheld hstart hdenies
  have hafter : start <:+ (node.applyAll (s.script parsers node event).actions).issued ∧
      DenyReported start podUID (node.applyAll (s.script parsers node event).actions) :=
    ⟨applyAll_suffix hstart, applyAll_denyReported hstep.onlyDenies hstep.applied hreported⟩
  cases event with
  | prepare | check | withdraw | lockdownAll | reconcileAll => exact hafter
  | health => exact ⟨hstart, hreported⟩
  | environment =>
    refine ⟨hstart, fun observation hobservation hready attachment hattachment hpod hsandbox => ?_⟩
    -- the sandbox was there before the environment's step
    obtain ⟨hmem, hbefore⟩ := hdenies ⟨observation, hobservation⟩ attachment hattachment hpod
      hsandbox
    exact hreported observation hobservation hready attachment hmem hpod hbefore

end Runs

/-- **A held agent reports a Pod as denied only once its sandboxes are.** In every run of an agent
held for a transition in which each step denies what it reports about the Pod, a not-ready
observation of the Pod, kept or published, means that every durable attachment of the Pod whose
namespace is still the recorded one has been locked down by this agent and not reopened. -/
theorem transition_deny_truthful (s : NodeService) (hheld : s.transitionHeld = true)
    (parsers : NetworkParsers) (start : Node) (hfresh : start.Fresh) (podUID : ObjectUID)
    (events : List AgentEvent)
    (hdenies : ∀ r ∈ agentRun s parsers start events,
      DeniesWhatItReports start.issued s podUID r.before r.input) :
    ∀ r ∈ agentRun s parsers start events,
      DenyReported start.issued podUID r.before ∧ DenyReported start.issued podUID r.after ∧
      ∀ observation accepted, .publish observation accepted ∈ r.output.actions →
        observation.podUID = podUID → DenyApplied start.issued podUID r.after := by
  intro r hr
  have hinvariant := (exec_linked (Node.next s parsers) start events).invariant
    (P := fun node => start.issued <:+ node.issued ∧ DenyReported start.issued podUID node)
    (fun r hr hrec hbefore => by
      rw [hrec]
      exact held_next hheld (hdenies r hr) hbefore)
    ⟨List.suffix_rfl, fun observation hobservation => by simp [hfresh podUID] at hobservation⟩
  obtain ⟨hrec, hbefore, hafter⟩ := hinvariant r hr
  refine ⟨hbefore.2, hafter.2, fun observation accepted hmem huid => ?_⟩
  have hstep := held_script parsers hheld hbefore.1 (hdenies r hr)
  have houtput : r.output = s.script parsers r.before r.input := by
    rw [hrec]
    exact next_output s parsers r.before r.input
  rw [houtput] at hmem
  have happly : r.after = r.before.applyAll (s.script parsers r.before r.input).actions := by
    rw [hrec]
    exact next_of_action hmem
  rw [happly]
  exact hstep.applied observation (hstep.published observation accepted hmem) huid

/-- The Pod's durable attachment. -/
def agentAttachment (phase : Phase) : Attachment :=
  { network := "waycloak", pod := agentSandbox, namespaceIdentity := "ns:1", phase
    bindingUID := "binding-uid", bindingGeneration := 1, gatewayUID := "gateway-uid", updatedAt := 1 }

/-- A `LockdownAll` whose reads succeed and whose lockdowns end as given. -/
def heldLockdown (lockdown : Bool) : AgentEvent :=
  .lockdownAll
    { listFailure := none, identityFailure := fun _ => none, lockdown := fun _ => lockdown
      binding := fun _ => .ok (agentBinding 1), bindings := .ok [agentBinding 1], now := 2 }

def attachedNode : Node := agentNode [agentAttachment .ready] (List.nodup_singleton _)

/-- The first `LockdownAll` of a held agent denies the sandbox and reports it. -/
theorem transition_deny_truthful_locked :
    ∃ r ∈ agentRun (agentService true) agentParsers attachedNode [heldLockdown true],
      r.after.observations "pod-uid" =
        some ((agentService true).observation (agentBinding 1) false 2) ∧
      agentAttachment .ready ∈ r.after.attachments ∧
      HasSandbox r.after (agentAttachment .ready) ∧
      DeniedSince [] r.after (agentAttachment .ready) := by
  have hdenies : ∀ r ∈ agentRun (agentService true) agentParsers attachedNode [heldLockdown true],
      DeniesWhatItReports attachedNode.issued (agentService true) "pod-uid" r.before r.input := by
    simp only [agentRun, exec_cons, exec_nil, List.mem_singleton, forall_eq]
    exact fun _ attachment _ _ _ => Or.inr ⟨rfl, rfl⟩
  let r := (agentRun (agentService true) agentParsers attachedNode [heldLockdown true]).get
    ⟨0, by decide⟩
  have hobserved : r.after.observations "pod-uid" =
      some ((agentService true).observation (agentBinding 1) false 2) := by decide +kernel
  have hmem : agentAttachment .ready ∈ r.after.attachments.entries := by decide +kernel
  refine ⟨r, List.get_mem _ _, hobserved, hmem, rfl, ?_⟩
  exact (transition_deny_truthful _ rfl _ _ (fun _ => rfl) "pod-uid" _ hdenies r
    (List.get_mem _ _)).2.1 _ hobserved rfl _ hmem rfl rfl

/-- The lockdown in the sandbox fails, and the agent reports the binding as not ready. -/
theorem failed_lockdown_acknowledged :
    ∃ r ∈ agentRun (agentService true) agentParsers attachedNode [heldLockdown false],
      r.after.observations "pod-uid" =
        some ((agentService true).observation (agentBinding 1) false 2) ∧
      agentAttachment .ready ∈ r.after.attachments ∧
      HasSandbox r.after (agentAttachment .ready) ∧
      ¬ DeniedSince [] r.after (agentAttachment .ready) := by
  let r := (agentRun (agentService true) agentParsers attachedNode [heldLockdown false]).get
    ⟨0, by decide⟩
  have hmem : agentAttachment .ready ∈ r.after.attachments.entries := by decide +kernel
  refine ⟨r, List.get_mem _ _, by decide +kernel, hmem, rfl, ?_⟩
  rintro ⟨since, hissued, hdenied⟩
  rw [List.append_nil] at hissued
  have hpolicy : policyIn "ns:1" "pod-uid" r.after.issued = .absent := by decide +kernel
  rw [hissued] at hpolicy
  rw [show policyIn "ns:1" "pod-uid" since = .denied from hdenied] at hpolicy
  cases hpolicy

end Waycloak.Analysis
