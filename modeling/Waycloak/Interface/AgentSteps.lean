import Waycloak.Model.NodeAgent

/-!
# What the node agent's operations do, action by action

Facts about single actions and lists of actions (which Pod they concern, what they leave of
another Pod's observation and calls), and one inversion lemma for each operation: what
`authority` has checked, how a sandbox is programmed, which attachments `LockdownAll` and a
group's reconcile act on.
-/

set_option autoImplicit false

namespace Waycloak.Interface

open Waycloak.Model Waycloak.Computation

variable {action : AgentAction} {attachment : Attachment} {binding : VPNWorkloadBinding}
  {now : Time} {read : Except ReadError VPNWorkloadBinding} {script : Script} {config : Config}
  {pod : Pod} {node : Node} {podUID : ObjectUID} {parsers : NetworkParsers} {s : NodeService}
  {identity : PodIdentity} {requested : BindingReference}
variable {actions forget : List AgentAction} {first a : Attachment} {attachments : List Attachment}

/-! ## Lists of actions -/

@[simp] theorem applyAll_nil (node : Node) : node.applyAll [] = node := rfl

@[simp] theorem applyAll_cons (node : Node) (action : AgentAction) (actions : List AgentAction) :
    node.applyAll (action :: actions) = (node.apply action).applyAll actions := rfl

@[simp] theorem applyAll_append (node : Node) (first second : List AgentAction) :
    node.applyAll (first ++ second) = (node.applyAll first).applyAll second :=
  List.foldl_append

/-- INTERNAL: **the rule for a list of actions.** What every action keeps, the list keeps. -/
theorem applyAll_invariant {P : Node → Prop}
    (hstep : ∀ action ∈ actions, ∀ node, P node → P (node.apply action)) (h : P node) :
    P (node.applyAll actions) := by
  induction actions generalizing node with
  | nil => exact h
  | cons action _ ih =>
    rw [applyAll_cons]
    apply ih (fun action' haction' => hstep action' (List.mem_cons_of_mem _ haction'))
    exact hstep action List.mem_cons_self node h

/-- The Pod an action concerns. -/
def concerns : AgentAction → Option ObjectUID
  | .program call => some call.podUID
  | .observe observation => some observation.podUID
  | .forget podUID => some podUID
  | .publish _ _ => none
  | .save _ => none
  | .delete _ => none

/-- Every action concerns the Pod, or none. -/
def ScopedTo (podUID : ObjectUID) (actions : List AgentAction) : Prop :=
  ∀ action ∈ actions, ∀ uid, concerns action = some uid → uid = podUID

/-- INTERNAL: lists of actions for one Pod compose. -/
theorem ScopedTo.append {first second : List AgentAction} (hfirst : ScopedTo podUID first)
    (hsecond : ScopedTo podUID second) : ScopedTo podUID (first ++ second) := by
  intro action haction
  rcases List.mem_append.mp haction with h | h
  · exact hfirst action h
  · exact hsecond action h

/-- INTERNAL: a list of actions is for one Pod if each of them is. -/
theorem scopedTo_cons : ScopedTo podUID (action :: actions) ↔
      (∀ uid, concerns action = some uid → uid = podUID) ∧ ScopedTo podUID actions := by
  simp [ScopedTo]

/-- The action denies or cleans sandboxes of the Pod or reports it as not ready. -/
def Restrains (podUID : ObjectUID) : AgentAction → Prop
  | .program (.installLockdown _ uid _) => uid = podUID
  | .program (.cleanup _ uid _ _) => uid = podUID
  | .program _ => False
  | .observe observation => observation.podUID = podUID ∧ observation.ready = false
  | .publish _ _ => True
  | .forget uid => uid = podUID
  | .save _ => False
  | .delete _ => False

/-- INTERNAL: what restrains a Pod concerns no other. -/
theorem Restrains.concerns (h : Restrains podUID action) :
    ∀ uid, concerns action = some uid → uid = podUID := by
  intro uid huid
  cases action with
  | program call =>
    cases call with
    | installLockdown | cleanup => exact (Option.some.inj huid).symm.trans h
    | configure | verify => cases h
  | observe => exact (Option.some.inj huid).symm.trans h.1
  | forget => exact (Option.some.inj huid).symm.trans h
  | publish | save | delete => cases huid

/-- INTERNAL: an action for another Pod leaves the observation of this one. -/
theorem apply_observations (h : concerns action ≠ some podUID) :
    (node.apply action).observations podUID = node.observations podUID := by
  cases action with
  | observe observation =>
    have hother : podUID ≠ observation.podUID := fun heq => h (by rw [heq]; rfl)
    simp [Node.apply, hother]
  | forget uid =>
    have hother : podUID ≠ uid := fun heq => h (by rw [heq]; rfl)
    simp [Node.apply, hother]
  | program | publish | save | delete key => rfl

/-- INTERNAL: only programmer calls are recorded as issued. -/
theorem apply_issued (node : Node) (action : AgentAction) :
    (node.apply action).issued = node.issued ∨
      ∃ call, action = .program call ∧
        (node.apply action).issued = ⟨node.namespaces call.netNS, call⟩ :: node.issued := by
  cases action with
  | program call => exact Or.inr ⟨call, rfl, rfl⟩
  | observe | forget uid | publish | save | delete key => exact Or.inl rfl

/-- INTERNAL: actions do not move namespaces. -/
@[simp] theorem apply_namespaces (node : Node) (action : AgentAction) :
    (node.apply action).namespaces = node.namespaces := by
  cases action <;> rfl

@[simp] theorem applyAll_namespaces (node : Node) (actions : List AgentAction) :
    (node.applyAll actions).namespaces = node.namespaces :=
  applyAll_invariant (P := fun n => n.namespaces = node.namespaces)
    (fun action _ n hn => by rw [apply_namespaces, hn]) rfl

/-! ## Authority -/

/-- INTERNAL: a configuration is for the Pod its binding names. -/
theorem configFromBinding_podUID (h : configFromBinding parsers binding = .ok config) :
    config.podUID = binding.spec.podRef.uid := by
  revert h
  fun_cases configFromBinding parsers binding with
  | case6 =>
    intro h
    cases hbypass : parseBypassCIDRs parsers
        binding.spec.network.clusterTraffic.bypassCIDRs with
    | error err =>
      rw [hbypass] at h
      cases h
    | ok =>
      rw [hbypass] at h
      simp only [bind, Except.bind, pure, Except.pure] at h
      split at h
      · cases h
      · cases h
        rfl
  | _ => nofun

/-- What `authority` has checked before anything is programmed. -/
structure Authorized (s : NodeService) (parsers : NetworkParsers)
    (answers : NodeService.ProgramAnswers) (identity : PodIdentity)
    (requested : BindingReference) (binding : VPNWorkloadBinding) (config : Config) : Prop where
  podRead : ∃ pod, answers.pod = .ok pod ∧ pod.uid = identity.uid ∧ pod.nodeName = s.nodeName
  bindingRead : answers.binding = .ok binding
  pod : binding.spec.podRef.uid = identity.uid
  live : binding.deletionTimestamp = none
  node : binding.spec.nodeName = s.nodeName
  exact : NodeService.bindingReference binding = requested
  config : configFromBinding parsers binding = .ok config

/-- INTERNAL: a Pod that passes the check is the caller's, on this node. -/
theorem pod_ok {read : Except ReadError Pod} (h : s.pod read identity = .ok pod) :
    read = .ok pod ∧ pod.uid = identity.uid ∧ pod.nodeName = s.nodeName := by
  revert h
  fun_cases NodeService.pod s read identity with
  | case6 _ _ pod huid hnode =>
    rintro ⟨⟩
    exact ⟨rfl, not_not.mp huid, not_not.mp hnode⟩
  | _ => nofun

/-- INTERNAL: a binding that passes the first check is of the Pod. -/
theorem rawBinding_ok (h : NodeService.rawBinding read podUID = .ok binding) :
    read = .ok binding ∧ binding.spec.podRef.uid = podUID := by
  unfold NodeService.rawBinding at h
  split at h
  · cases h
  · cases h
  · split at h
    · cases h
    · next huid =>
      cases h
      exact ⟨rfl, not_not.mp huid⟩

/-- INTERNAL: a binding that passes the check is of the Pod, live and for this node. -/
theorem binding_ok (h : s.binding read pod = .ok binding) :
    read = .ok binding ∧ binding.spec.podRef.uid = pod.uid ∧ binding.deletionTimestamp = none ∧
      binding.spec.nodeName = s.nodeName := by
  unfold NodeService.binding at h
  split at h
  · cases h
  next binding' hraw =>
  split at h
  · cases h
  next hcurrent =>
  cases h
  obtain ⟨hread, huid⟩ := rawBinding_ok hraw
  simp only [not_or, Option.not_isSome_iff_eq_none, ne_eq, not_not] at hcurrent
  exact ⟨hread, huid, hcurrent.1, hcurrent.2.2.1⟩

/-- INTERNAL: **what a caller with authority has shown.** -/
theorem authority_ok {answers : NodeService.ProgramAnswers}
    (h : s.authority parsers answers identity requested = .ok (binding, config)) :
    Authorized s parsers answers identity requested binding config := by
  revert h
  fun_cases NodeService.authority s parsers answers identity requested with
  | case6 _ pod hpod _ hbinding hreference _ hconfig =>
    rintro ⟨⟩
    obtain ⟨hpodRead, hpodUID, hnode⟩ := pod_ok hpod
    obtain ⟨hbindingRead, huid, hlive, hbindingNode⟩ := binding_ok hbinding
    exact ⟨⟨pod, hpodRead, hpodUID, hnode⟩, hbindingRead, huid.trans hpodUID,
      hlive, hbindingNode, not_not.mp hreference, hconfig⟩
  | _ => nofun

/-- INTERNAL: the configuration is for the caller's Pod. -/
theorem Authorized.configPod {answers : NodeService.ProgramAnswers}
    (h : Authorized s parsers answers identity requested binding config) :
    config.podUID = identity.uid :=
  (configFromBinding_podUID h.config).trans h.pod

/-! ## Programming a sandbox -/

/-- **How `prepare` and `check` leave a sandbox.** `denied` is a lockdown nothing is observed about;
`kept` is `check` satisfied with what it verifies, and happens only when the last parameter says so;
`programmed` ends with the configuration of the binding, verified. -/
inductive Programming (s : NodeService) (parsers : NetworkParsers) (node : Node)
    (answers : NodeService.ProgramAnswers) (identity : PodIdentity)
    (requested : BindingReference) (keptWhen : Prop) : Script → Prop
  | refused (err : String) :
      Programming s parsers node answers identity requested keptWhen (.fail err)
  | denied (ok : Bool) (err : String) :
      Programming s parsers node answers identity requested keptWhen
        { actions := [.program (.installLockdown identity.netNS identity.uid ok)]
          error := some err }
  | failed {binding : VPNWorkloadBinding} {config : Config} (calls : List ProgrammerCall)
      (err : String) (hauthority : Authorized s parsers answers identity requested binding config)
      (hcalls : ∀ call ∈ calls, call.netNS = identity.netNS ∧ call.podUID = identity.uid) :
      Programming s parsers node answers identity requested keptWhen
        { actions := calls.map .program ++ [s.observe binding false answers.now]
          error := some err }
  | kept {binding : VPNWorkloadBinding} {config : Config} (hwhen : keptWhen)
      (hauthority : s.authority parsers answers identity requested = .ok (binding, config))
      (hverifies : node.verifies identity.netNS identity.uid answers.verifyFirst = true) :
      Programming s parsers node answers identity requested keptWhen
        { actions := [.program (.verify identity.netNS config true),
            s.observe binding true answers.now]
          error := none }
  | programmed {binding : VPNWorkloadBinding} {config : Config} (calls : List ProgrammerCall)
      (hauthority : Authorized s parsers answers identity requested binding config)
      (hcalls : ∀ call ∈ calls, call.netNS = identity.netNS ∧ call.podUID = identity.uid) :
      Programming s parsers node answers identity requested keptWhen
        { actions := calls.map .program ++
            [.program (.configure identity.netNS config true),
              .program (.verify identity.netNS config true), s.observe binding true answers.now]
          error := none }

section Programming

variable {answers : NodeService.ProgramAnswers} {keptWhen : Prop}

/-- INTERNAL: the condition for a kept path may be weakened. -/
theorem Programming.mono {keptWhen' : Prop}
    (h : Programming s parsers node answers identity requested keptWhen script)
    (hkept : keptWhen → keptWhen') :
    Programming s parsers node answers identity requested keptWhen' script := by
  cases h with
  | refused err => exact .refused err
  | denied ok err => exact .denied ok err
  | failed calls err hauthority hcalls => exact .failed calls err hauthority hcalls
  | kept hwhen hauthority hverifies => exact .kept (hkept hwhen) hauthority hverifies
  | programmed calls hauthority hcalls => exact .programmed calls hauthority hcalls

/-- INTERNAL: the inversion of `prepare`. -/
theorem prepare_programming : Programming s parsers node answers identity requested False
      (s.prepare parsers node answers identity requested) := by
  unfold NodeService.prepare
  split
  · exact .refused _
  next binding config hauthority =>
  have h := authority_ok hauthority
  have hpod := h.configPod
  dsimp only
  split
  · exact .denied _ _
  split
  · refine .failed [.installLockdown _ _ _, .configure _ config false,
      .installLockdown _ _ _] _ h ?_
    simp [ProgrammerCall.netNS, ProgrammerCall.podUID, hpod]
  split
  · refine .failed [.installLockdown _ _ _, .configure _ config true,
      .verify _ config false, .installLockdown _ _ _] _ h ?_
    simp [ProgrammerCall.netNS, ProgrammerCall.podUID, hpod]
  · refine .programmed [.installLockdown _ _ _] h ?_
    simp [ProgrammerCall.netNS, ProgrammerCall.podUID]

/-- INTERNAL: the inversion of `check`. -/
theorem check_programming : Programming s parsers node answers identity requested True
      (s.check parsers node answers identity requested) := by
  unfold NodeService.check
  dsimp only
  split
  · exact .denied _ _
  next binding config hauthority =>
  have h := authority_ok hauthority
  have hpod := h.configPod
  split
  · next hverifies => exact .kept trivial hauthority hverifies
  split
  · refine .failed [.verify _ config false, .installLockdown _ _ _] _ h ?_
    simp [ProgrammerCall.netNS, ProgrammerCall.podUID, hpod]
  split
  · refine .failed [.verify _ config false, .installLockdown _ _ _,
      .configure _ config false] _ h ?_
    simp [ProgrammerCall.netNS, ProgrammerCall.podUID, hpod]
  split
  · refine .failed [.verify _ config false, .installLockdown _ _ _,
      .configure _ config true, .verify _ config false, .installLockdown _ _ _] _ h ?_
    simp [ProgrammerCall.netNS, ProgrammerCall.podUID, hpod]
  · refine .programmed [.verify _ config false, .installLockdown _ _ _] h ?_
    simp [ProgrammerCall.netNS, ProgrammerCall.podUID, hpod]

/-- INTERNAL: the inversion of `Prepare`, which keeps no path. -/
theorem servePrepare_programming : Programming s parsers node answers identity requested False
      (s.servePrepare parsers node answers identity requested) := by
  unfold NodeService.servePrepare
  split
  · exact .refused _
  · exact prepare_programming

/-- INTERNAL: the inversion of `Check`, which keeps a path only if the agent is ready. -/
theorem serveCheck_programming : Programming s parsers node answers identity requested
      (s.ready node = true) (s.serveCheck parsers node answers identity requested) := by
  unfold NodeService.serveCheck
  split
  · exact .denied _ _
  · next hready => exact check_programming.mono fun _ => by simpa using hready

/-- INTERNAL: calls for the sandbox are for its Pod. -/
theorem program_scoped {calls : List ProgrammerCall}
    (hcalls : ∀ call ∈ calls, call.netNS = identity.netNS ∧ call.podUID = identity.uid) :
    ScopedTo identity.uid (calls.map .program) := by
  intro action haction uid huid
  obtain ⟨call, hcall, rfl⟩ := List.mem_map.mp haction
  cases huid
  exact (hcalls call hcall).2

/-- INTERNAL: an observation concerns the binding's Pod. -/
theorem observe_scoped {ready : Bool} (h : binding.spec.podRef.uid = podUID) :
    ScopedTo podUID [s.observe binding ready now] := by
  simp [ScopedTo, concerns, NodeService.observe, NodeService.observation, h]

/-- INTERNAL: `Prepare` and `Check` act for the caller's Pod only. -/
theorem Programming.scoped
    (h : Programming s parsers node answers identity requested keptWhen script) :
    ScopedTo identity.uid script.actions := by
  cases h with
  | refused err => exact List.forall_mem_nil _
  | denied => simp [ScopedTo, concerns, ProgrammerCall.podUID]
  | failed _ _ hauthority hcalls =>
    exact (program_scoped hcalls).append (observe_scoped hauthority.pod)
  | kept _ hauthority =>
    have h := authority_ok hauthority
    refine scopedTo_cons.mpr ⟨?_, observe_scoped h.pod⟩
    simp [concerns, ProgrammerCall.podUID, h.configPod]
  | programmed calls hauthority hcalls =>
    refine (program_scoped hcalls).append (scopedTo_cons.mpr ⟨?_, scopedTo_cons.mpr ⟨?_,
      observe_scoped hauthority.pod⟩⟩)
    · simp [concerns, ProgrammerCall.podUID, hauthority.configPod]
    · simp [concerns, ProgrammerCall.podUID, hauthority.configPod]

end Programming

/-! ## Withdrawals -/

/-- The cases of the report of a withdrawal. -/
inductive WithdrawalReport (s : NodeService) (read : Except ReadError VPNWorkloadBinding)
    (podUID : ObjectUID) (now : Time) (forget : List AgentAction) : Script → Prop
  | unsent (err : String) : WithdrawalReport s read podUID now forget (.fail err)
  | absent (hread : NodeService.withdrawalBinding read podUID = .ok none) :
      WithdrawalReport s read podUID now forget { actions := forget, error := none }
  | rejected {binding : VPNWorkloadBinding} (err : String)
      (hread : NodeService.withdrawalBinding read podUID = .ok (some binding)) :
      WithdrawalReport s read podUID now forget
        { actions := [s.observe binding false now,
            .publish (s.observation binding false now) false]
          error := some err }
  | published {binding : VPNWorkloadBinding}
      (hread : NodeService.withdrawalBinding read podUID = .ok (some binding)) :
      WithdrawalReport s read podUID now forget
        { actions := s.observe binding false now ::
            .publish (s.observation binding false now) true :: forget
          error := none }

/-- INTERNAL: the inversion of the report. -/
theorem reportWithdrawal_cases {publishFailure : Option String} :
    WithdrawalReport s read podUID now forget
      (s.reportWithdrawal read podUID publishFailure now forget) := by
  unfold NodeService.reportWithdrawal
  split
  · exact .unsent _
  · next hread => exact .absent hread
  · next binding hread =>
    split
    · exact .unsent _
    dsimp only
    split
    · exact .rejected _ hread
    · exact .published hread

/-- INTERNAL: the binding of a withdrawal is of the Pod. -/
theorem withdrawalBinding_ok (h : NodeService.withdrawalBinding read podUID = .ok (some binding)) :
    read = .ok binding ∧ binding.spec.podRef.uid = podUID := by
  unfold NodeService.withdrawalBinding at h
  split at h
  · cases h
  · cases h
  · split at h
    · cases h
    · next huid =>
      cases h
      exact ⟨rfl, not_not.mp huid⟩

/-- INTERNAL: an observation of not ready restrains. -/
theorem notReady_restrains (h : binding.spec.podRef.uid = podUID) :
    Restrains podUID (s.observe binding false now) :=
  ⟨h, rfl⟩

/-- INTERNAL: a report only says that the Pod is not ready. -/
theorem WithdrawalReport.restrains (h : WithdrawalReport s read podUID now forget script)
    (hforget : ∀ action ∈ forget, Restrains podUID action) :
    ∀ action ∈ script.actions, Restrains podUID action := by
  cases h with
  | unsent => simp [Script.fail]
  | absent => exact hforget
  | rejected err hread =>
    simpa [Restrains] using notReady_restrains (withdrawalBinding_ok hread).2
  | published hread =>
    exact List.forall_mem_cons.mpr ⟨notReady_restrains (withdrawalBinding_ok hread).2,
      List.forall_mem_cons.mpr ⟨trivial, hforget⟩⟩

/-- The cases of `withdrawAttachment`: the report comes only after the sandbox was denied or
cleaned, or if it is not there any more. -/
inductive Withdrawal (s : NodeService) (node : Node) (answers : NodeService.WithdrawAnswers)
    (attachment : Attachment) : Script → Prop
  | refused (err : String) : Withdrawal s node answers attachment (.fail err)
  | failed (err : String) (call : ProgrammerCall)
      (hcall : call = .installLockdown attachment.pod.netNS attachment.pod.uid false ∨
        call = .cleanup attachment.pod.netNS attachment.pod.uid answers.cleanupDenied false) :
      Withdrawal s node answers attachment { actions := [.program call], error := some err }
  | gone {report : Script}
      (hgone : node.namespaces attachment.pod.netNS ≠ some attachment.namespaceIdentity)
      (hreport : WithdrawalReport s answers.binding attachment.pod.uid answers.now
        [.forget attachment.pod.uid] report) :
      Withdrawal s node answers attachment report
  | withdrawn {report : Script} (call : ProgrammerCall)
      (hexact : node.namespaces attachment.pod.netNS = some attachment.namespaceIdentity)
      (hcall : call = .installLockdown attachment.pod.netNS attachment.pod.uid true ∨
        call = .cleanup attachment.pod.netNS attachment.pod.uid true true)
      (hreport : WithdrawalReport s answers.binding attachment.pod.uid answers.now
        [.forget attachment.pod.uid] report) :
      Withdrawal s node answers attachment (NodeService.before [.program call] report)

/-- INTERNAL: the inversion of `withdrawAttachment`. -/
theorem withdrawAttachment_cases {answers : NodeService.WithdrawAnswers} :
    Withdrawal s node answers attachment (s.withdrawAttachment node answers attachment) := by
  unfold NodeService.withdrawAttachment
  extract_lets identity report lockdown ok cleanup withdraw
  have hreport : WithdrawalReport s answers.binding attachment.pod.uid answers.now
      [.forget attachment.pod.uid] report := reportWithdrawal_cases
  have hwithdraw : ∀ absent terminating,
      Withdrawal s node answers attachment (withdraw absent terminating) := by
    intro absent terminating
    dsimp only [withdraw, lockdown, ok, cleanup, identity, Node.identity]
    cases answers.identityFailure with
    | some err => exact .refused _
    | none =>
      dsimp only
      split
      · next hgone => exact .gone hgone hreport
      next hexact =>
      split
      · split
        · next hlockdown =>
          rw [hlockdown]
          exact .withdrawn _ (not_not.mp hexact) (Or.inl rfl) hreport
        next hlockdown =>
        rw [Bool.not_eq_true] at hlockdown
        rw [hlockdown]
        exact .failed _ _ (Or.inl rfl)
      · split
        · next hcleanup =>
          have hdenied : answers.cleanupDenied = true := by simp_all
          rw [hcleanup, hdenied]
          exact .withdrawn _ (not_not.mp hexact) (Or.inr rfl) hreport
        · next hcleanup =>
          rw [Bool.not_eq_true] at hcleanup
          rw [hcleanup]
          exact .failed _ _ (Or.inr rfl)
  split
  · exact hwithdraw _ _
  · split
    · exact hwithdraw _ _
    · exact .refused _

/-- INTERNAL: a withdrawal restrains the Pod and does nothing else. -/
theorem Withdrawal.restrains {answers : NodeService.WithdrawAnswers}
    (h : Withdrawal s node answers attachment script) :
    ∀ action ∈ script.actions, Restrains attachment.pod.uid action := by
  have hforget : ∀ action ∈ [AgentAction.forget attachment.pod.uid],
      Restrains attachment.pod.uid action := by simp [Restrains]
  cases h with
  | refused err => simp [Script.fail]
  | failed _ _ hcall => rcases hcall with rfl | rfl <;> simp [Restrains]
  | gone hgone hreport => exact hreport.restrains hforget
  | withdrawn _ _ hcall hreport =>
    refine List.forall_mem_append.mpr ⟨?_, hreport.restrains hforget⟩
    rcases hcall with rfl | rfl <;> simp [Restrains]

/-- INTERNAL: `Withdraw` fails, or withdraws the first attachment of the very sandbox. -/
theorem agentWithdraw_cases (s : NodeService) (node : Node) (answers : NodeService.WithdrawAnswers)
    (identity : PodIdentity) :
    (∃ err, s.withdraw node answers identity = .fail err) ∨
      ∃ attachment, attachment.pod = identity ∧
        node.attachments.entries.find? (fun a => a.pod = identity) = some attachment ∧
        s.withdraw node answers identity = s.withdrawAttachment node answers attachment := by
  fun_cases NodeService.withdraw s node answers identity with
  | case4 _ _ attachment hfound =>
    exact Or.inr ⟨attachment, by simpa using List.find?_some hfound, hfound, rfl⟩
  | _ => exact Or.inl ⟨_, rfl⟩

/-- INTERNAL: `Withdraw` restrains the caller's Pod and does nothing else. -/
theorem withdraw_restrains (s : NodeService) (node : Node) (answers : NodeService.WithdrawAnswers)
    (identity : PodIdentity) :
    ∀ action ∈ (s.withdraw node answers identity).actions, Restrains identity.uid action := by
  rcases agentWithdraw_cases s node answers identity with
    ⟨err, hfail⟩ | ⟨attachment, rfl, -, hscript⟩
  · simp [hfail, Script.fail]
  · rw [hscript]
    exact withdrawAttachment_cases.restrains

/-! ## LockdownAll -/

section LockdownAll

variable {answers : NodeService.LockdownAnswers}

/-- INTERNAL: an attachment under `LockdownAll` is locked down, and if that succeeds reported as not
ready. -/
theorem mem_lockdownAttachment
    (h : action ∈ (s.lockdownAttachment node answers attachment).actions) :
    action = .program (.installLockdown attachment.pod.netNS attachment.pod.uid
        (answers.lockdown attachment.key)) ∨
      answers.lockdown attachment.key = true ∧
        action ∈ s.observeNotReady (answers.binding attachment.key) attachment.pod.uid
          answers.now := by
  unfold NodeService.lockdownAttachment at h
  split at h
  · cases h
  split at h
  · cases h
  split at h
  · next hlockdown =>
    rw [hlockdown]
    exact Or.inl (List.mem_singleton.mp h)
  · next hlockdown =>
    rw [Bool.not_eq_false] at hlockdown
    rw [hlockdown]
    rcases List.mem_cons.mp h with rfl | h
    · exact Or.inl rfl
    · exact Or.inr ⟨rfl, h⟩

/-- INTERNAL: an action of `LockdownAll` belongs to one attachment or is the report of a listed
binding. -/
theorem mem_lockdownAll (h : action ∈ (s.lockdownAll node answers).actions) :
    answers.listFailure = none ∧
      ((∃ attachment ∈ node.attachments,
          action ∈ (s.lockdownAttachment node answers attachment).actions) ∨
        action ∈ (s.observeNodeBindings answers).actions) := by
  unfold NodeService.lockdownAll at h
  split at h
  · cases h
  next hlist =>
  refine ⟨hlist, ?_⟩
  simp only [Script.all, List.mem_flatMap, List.mem_append, List.mem_map,
    List.mem_singleton] at h
  obtain ⟨script, ⟨attachment, hattachment, rfl⟩ | rfl, haction⟩ := h
  · exact Or.inl ⟨attachment, KeyedStore.mem_entries.mp hattachment, haction⟩
  · exact Or.inr haction

/-- INTERNAL: unless the listing fails, `LockdownAll` takes every attachment. -/
theorem lockdownAll_of_attachment (hlist : answers.listFailure = none)
    (hattachment : attachment ∈ node.attachments)
    (h : action ∈ (s.lockdownAttachment node answers attachment).actions) :
    action ∈ (s.lockdownAll node answers).actions := by
  unfold NodeService.lockdownAll
  rw [hlist]
  simp only [Script.all, List.mem_flatMap, List.mem_append, List.mem_map, List.mem_singleton]
  exact ⟨_, Or.inl ⟨attachment, KeyedStore.mem_entries.mpr hattachment, rfl⟩, h⟩

/-- INTERNAL: the reports on the node's bindings. -/
theorem mem_observeNodeBindings (h : action ∈ (s.observeNodeBindings answers).actions) :
    ∃ bindings, answers.bindings = .ok bindings ∧ ∃ binding ∈ bindings,
      s.reportable binding = true ∧ action = s.observe binding false answers.now := by
  unfold NodeService.observeNodeBindings at h
  split at h
  · cases h
  next bindings hbindings =>
  simp only [List.mem_map, List.mem_filter] at h
  obtain ⟨binding, ⟨hmem, hreportable⟩, rfl⟩ := h
  exact ⟨bindings, hbindings, binding, hmem, hreportable, rfl⟩

/-- INTERNAL: the report of a Pod whose binding can be read. -/
theorem mem_observeNotReady (h : action ∈ s.observeNotReady read podUID now) :
    ∃ binding, read = .ok binding ∧ binding.spec.podRef.uid = podUID ∧
      action = s.observe binding false now := by
  unfold NodeService.observeNotReady at h
  split at h
  · next binding hread =>
    obtain ⟨hok, huid⟩ := rawBinding_ok hread
    exact ⟨binding, hok, huid, List.mem_singleton.mp h⟩
  · cases h

/-- INTERNAL: **`LockdownAll` restrains Pods and does nothing else.** -/
theorem lockdownAll_restrains (h : action ∈ (s.lockdownAll node answers).actions) :
    ∃ podUID, Restrains podUID action := by
  obtain ⟨-, ⟨attachment, -, h⟩ | h⟩ := mem_lockdownAll h
  · obtain rfl | ⟨-, h⟩ := mem_lockdownAttachment h
    · exact ⟨_, rfl⟩
    · obtain ⟨binding, -, -, rfl⟩ := mem_observeNotReady h
      exact ⟨_, notReady_restrains rfl⟩
  · obtain ⟨-, -, binding, -, -, rfl⟩ := mem_observeNodeBindings h
    exact ⟨_, notReady_restrains rfl⟩

end LockdownAll

/-! ## The attachments of one Pod -/

/-- The action restrains the Pod, or deletes a record. -/
def Tidies (podUID : ObjectUID) (action : AgentAction) : Prop :=
  Restrains podUID action ∨ ∃ key, action = .delete key

/-- **How a group's reconcile goes.** It does nothing but deny, clean and report the Pod as not
ready, and delete records; or it programs the sandbox of the current binding first, and may record
the generation it has adopted. -/
inductive GroupReconciled (s : NodeService) (parsers : NetworkParsers) (node : Node)
    (answers : NodeService.GroupAnswers) (podUID : ObjectUID) (attachments : List Attachment) :
    Script → Prop
  | tidied {script : Script} (h : ∀ action ∈ script.actions, Tidies podUID action) :
      GroupReconciled s parsers node answers podUID attachments script
  | programmed {current : Attachment} {binding : VPNWorkloadBinding} {program : Script}
      (saved : List Attachment) (rest : List AgentAction) (error : Option String)
      (hcurrent : current ∈ attachments)
      (hprogram : Programming s parsers node answers.program current.pod
        (NodeService.bindingReference binding)
        (current.bindingGeneration = binding.generation) program)
      (hsaved : ∀ a ∈ saved, a = { current with
        bindingGeneration := binding.generation, updatedAt := answers.now })
      (hrest : ∀ action ∈ rest, Tidies podUID action) :
      GroupReconciled s parsers node answers podUID attachments
        { actions := program.actions ++ (saved.map .save ++ rest), error }

section Group

variable {answers : NodeService.GroupAnswers}

/-- INTERNAL: no error is left out of a joined one. -/
theorem joinErrors_eq_none {errors : List (Option String)} (h : joinErrors errors = none) :
    ∀ error ∈ errors, error = none := by
  unfold joinErrors at h
  split at h
  · next hnil =>
    intro error herror
    cases error with
    | none => rfl
    | some err =>
      have hmem : err ∈ errors.filterMap id := List.mem_filterMap.mpr ⟨_, herror, rfl⟩
      rw [hnil] at hmem
      cases hmem
  · cases h

theorem observeNotReady_tidies (read : Except ReadError VPNWorkloadBinding) (podUID : ObjectUID)
    (now : Time) : ∀ action ∈ s.observeNotReady read podUID now, Tidies podUID action := by
  intro action haction
  obtain ⟨binding, -, huid, rfl⟩ := mem_observeNotReady haction
  exact Or.inl (notReady_restrains huid)

/-- INTERNAL: deleting records is tidying up. -/
theorem deleteAttachments_tidies (attachments : List Attachment) :
    ∀ action ∈ (NodeService.deleteAttachments answers attachments).actions,
      Tidies podUID action := by
  intro action haction
  simp only [NodeService.deleteAttachments, List.mem_flatMap] at haction
  obtain ⟨a, -, ha⟩ := haction
  split at ha
  · cases ha
  · exact Or.inr ⟨a.key, List.mem_singleton.mp ha⟩

theorem lockdownOne_tidies (h : a.pod.uid = podUID) :
    Tidies podUID (NodeService.lockdownOne answers a) :=
  Or.inl h

/-- INTERNAL: a quarantine of the group only tidies up. -/
theorem quarantineAttachmentGroup_tidies (hgroup : ∀ a ∈ attachments, a.pod.uid = podUID)
    (cause : String) :
    ∀ action ∈ (s.quarantineAttachmentGroup node answers attachments cause).actions,
      Tidies podUID action := by
  refine List.forall_mem_append.mpr ⟨fun action haction => ?_, List.forall_mem_map.mpr fun a ha =>
    lockdownOne_tidies (hgroup a (List.mem_filter.mp ha).1)⟩
  obtain ⟨a, ha, hobserve⟩ := List.mem_flatMap.mp haction
  exact hgroup a ha ▸ observeNotReady_tidies _ _ _ action hobserve

/-- INTERNAL: a withdrawal of the group only tidies up. -/
theorem withdrawAttachmentGroup_tidies {canonical : PodIdentity} (huid : canonical.uid = podUID)
    (hgroup : ∀ a ∈ attachments, a.pod.uid = podUID) :
    ∀ action ∈ (s.withdrawAttachmentGroup node answers canonical attachments).actions,
      Tidies podUID action := by
  have hcleanups : ∀ action ∈ (NodeService.liveAttachments node answers attachments).1.map
      (NodeService.cleanupOne answers), Tidies podUID action :=
    List.forall_mem_map.mpr fun a ha => Or.inl (hgroup a (List.mem_filter.mp ha).1)
  have hreport : ∀ action ∈ (s.reportWithdrawal answers.withdrawal canonical.uid
      answers.publishFailure answers.now []).actions, Tidies podUID action :=
    fun action haction => Or.inl (huid ▸ reportWithdrawal_cases.restrains (by simp) action haction)
  unfold NodeService.withdrawAttachmentGroup
  dsimp only
  split
  · simp [Script.fail]
  split
  · exact hcleanups
  split
  · exact List.forall_mem_append.mpr ⟨hcleanups, hreport⟩
  · refine List.forall_mem_append.mpr ⟨List.forall_mem_append.mpr ⟨List.forall_mem_append.mpr
      ⟨hcleanups, hreport⟩, deleteAttachments_tidies _⟩, ?_⟩
    split
    · simp
    · simp [Tidies, Restrains, huid]

/-- INTERNAL: the reconcile of the current sandbox. -/
theorem reconcileCurrent_reconciled {current : Attachment}
    (hcurrent : current ∈ attachments) (huid : current.pod.uid = podUID)
    (hbinding : binding.spec.podRef.uid = podUID) :
    GroupReconciled s parsers node answers podUID attachments
      (s.reconcileCurrent parsers node answers attachments current binding) := by
  have hobserve : Tidies podUID (s.observe binding false answers.now) :=
    Or.inl (notReady_restrains hbinding)
  unfold NodeService.reconcileCurrent
  extract_lets requested adopting program superseded adopted
  have hprogram : Programming s parsers node answers.program current.pod
      (NodeService.bindingReference binding)
      (current.bindingGeneration = binding.generation) program := by
    by_cases hadopting : adopting = true
    · simp only [program, hadopting, if_true]
      exact prepare_programming.mono False.elim
    · simp only [program, hadopting]
      refine check_programming.mono fun _ => ?_
      simpa [adopting, requested, NodeService.bindingReference] using hadopting
  have hsuperseded : ∀ action ∈ (NodeService.deleteAttachments answers superseded).actions,
      Tidies podUID action := deleteAttachments_tidies superseded
  split
  · exact .programmed [] _ _ hcurrent hprogram (by simp) (by simpa using hobserve)
  split
  · split
    · exact .programmed [] _ _ hcurrent hprogram (by simp)
        (by simpa using ⟨lockdownOne_tidies huid, hobserve⟩)
    · have hadopted : ∀ a ∈ [adopted], a = { current with
          bindingGeneration := binding.generation, updatedAt := answers.now } := by
        simp [adopted, requested, NodeService.bindingReference]
      have h := GroupReconciled.programmed [adopted] _
        (NodeService.deleteAttachments answers superseded).error hcurrent hprogram hadopted
        hsuperseded
      simpa [NodeService.before] using h
  · exact .programmed [] _ _ hcurrent hprogram (by simp) hsuperseded

/-- INTERNAL: the reconcile of a group whose Pod is there. -/
theorem reconcileLive_reconciled (hfirst : first ∈ attachments)
    (hgroup : ∀ a ∈ attachments, a.pod.uid = podUID) (hpod : pod.uid = podUID) :
    GroupReconciled s parsers node answers podUID attachments
      (s.reconcileLive parsers node answers first attachments pod) := by
  unfold NodeService.reconcileLive
  dsimp only
  rw [hgroup first hfirst]
  have hnotReady := observeNotReady_tidies (s := s) (answers.observed first.key) podUID answers.now
  have hlive : ∀ a ∈ (NodeService.liveAttachments node answers attachments).1,
      Tidies podUID (NodeService.lockdownOne answers a) :=
    fun a ha => lockdownOne_tidies (hgroup a (List.mem_filter.mp ha).1)
  have hlocked := List.forall_mem_append.mpr ⟨hnotReady, List.forall_mem_map.mpr hlive⟩
  split
  · exact .tidied hlocked
  split
  · exact .tidied hnotReady
  next current others hcurrent =>
  have hmem : current ∈ (NodeService.liveAttachments node answers attachments).1 := by
    rw [hcurrent]
    exact List.mem_cons_self
  split
  · exact .tidied hlocked
  split
  · split
    · exact .tidied hnotReady
    · exact .tidied (List.forall_mem_append.mpr ⟨hnotReady, by simpa using hlive current hmem⟩)
  split
  · exact .tidied (List.forall_mem_cons.mpr ⟨hlive current hmem, hnotReady⟩)
  · next binding hbinding =>
    have huid : binding.spec.podRef.uid = podUID := (binding_ok hbinding).2.1.trans hpod
    split
    · exact .tidied (by simpa using ⟨hlive current hmem, Or.inl (notReady_restrains huid)⟩)
    · have hgrouped := (List.mem_filter.mp hmem).1
      exact reconcileCurrent_reconciled hgrouped (hgroup current hgrouped) huid

/-- INTERNAL: **the inversion of the reconcile of a group.** -/
theorem reconcileAttachmentGroup_reconciled (hgroup : ∀ a ∈ attachments, a.pod.uid = podUID) :
    GroupReconciled s parsers node answers podUID attachments
      (s.reconcileAttachmentGroup parsers node answers attachments) := by
  unfold NodeService.reconcileAttachmentGroup
  split
  · exact .tidied (by simp [Script.done])
  next first rest =>
  have hfirst : first ∈ first :: rest := List.mem_cons_self
  have huid := hgroup first hfirst
  dsimp only
  split
  · exact .tidied (quarantineAttachmentGroup_tidies hgroup _)
  split
  · split
    · exact .tidied (withdrawAttachmentGroup_tidies huid hgroup)
    · rw [huid]
      exact .tidied (observeNotReady_tidies _ _ _)
  · next pod hpod =>
    split
    · exact .tidied (withdrawAttachmentGroup_tidies huid hgroup)
    · exact reconcileLive_reconciled hfirst hgroup ((pod_ok hpod).2.1.trans huid)

/-- INTERNAL: tidying up concerns no other Pod. -/
theorem Tidies.concerns (h : Tidies podUID action) :
    ∀ uid, Interface.concerns action = some uid → uid = podUID := by
  rcases h with h | ⟨key, rfl⟩
  · exact h.concerns
  · nofun

/-- INTERNAL: the reconcile of a group acts for its Pod only. -/
theorem GroupReconciled.scoped
    (h : GroupReconciled s parsers node answers podUID attachments script)
    (hgroup : ∀ a ∈ attachments, a.pod.uid = podUID) : ScopedTo podUID script.actions := by
  cases h with
  | tidied h => exact fun action haction => (h action haction).concerns
  | programmed saved rest error hcurrent hprogram hsaved hrest =>
    have hscoped := hprogram.scoped
    rw [hgroup _ hcurrent] at hscoped
    refine hscoped.append (ScopedTo.append ?_ fun action haction => (hrest action haction).concerns)
    simp [ScopedTo, Interface.concerns]

end Group

/-! ## ReconcileAll -/

section ReconcileAll

variable {answers : NodeService.ReconcileAnswers}

/-- INTERNAL: a group has the attachments of its Pod. -/
theorem mem_attachmentGroup :
    a ∈ NodeService.attachmentGroup attachments podUID ↔ a ∈ attachments ∧ a.pod.uid = podUID := by
  simp [NodeService.attachmentGroup]

/-- INTERNAL: each Pod has one group. -/
theorem groupedPodUIDs_nodup (attachments : List Attachment) :
    (NodeService.groupedPodUIDs attachments).Nodup :=
  (List.perm_insertionSort _ _).nodup_iff.mpr (List.nodup_dedup _)

/-- The attachments `ReconcileAll` looks at. -/
def groupable (node : Node) : List Attachment :=
  node.attachments.entries.filter fun attachment =>
    attachment.pod.uid != "" && attachment.pod.netNS != ""

/-- The script of the group of one Pod. -/
def groupScript (s : NodeService) (parsers : NetworkParsers) (node : Node)
    (answers : NodeService.ReconcileAnswers) (podUID : ObjectUID) : Script :=
  s.reconcileAttachmentGroup parsers node (answers.group podUID)
    (NodeService.attachmentGroup (groupable node) podUID)

/-- INTERNAL: the inversion of one Pod's part of `ReconcileAll`. -/
theorem groupScript_reconciled (podUID : ObjectUID) :
    GroupReconciled s parsers node (answers.group podUID) podUID
      (NodeService.attachmentGroup (groupable node) podUID)
      (groupScript s parsers node answers podUID) :=
  reconcileAttachmentGroup_reconciled fun _ ha => (mem_attachmentGroup.mp ha).2

/-- INTERNAL: one Pod's part acts for that Pod only. -/
theorem groupScript_scoped (podUID : ObjectUID) :
    ScopedTo podUID (groupScript s parsers node answers podUID).actions :=
  (groupScript_reconciled podUID).scoped fun _ ha => (mem_attachmentGroup.mp ha).2

/-- INTERNAL: a held agent reconciles by locking down. -/
theorem held_reconcileAll (hheld : s.transitionHeld = true) :
    s.script parsers node (.reconcileAll answers) = s.lockdownAll node answers.held := by
  simp [NodeService.script, NodeService.reconcileAll, hheld]

/-- INTERNAL: `ReconcileAll` is one group after another. -/
theorem reconcileAll_actions (hheld : s.transitionHeld = false)
    (hlist : answers.listFailure = none) :
    (s.reconcileAll parsers node answers).actions =
      (NodeService.groupedPodUIDs (groupable node)).flatMap fun podUID =>
        (groupScript s parsers node answers podUID).actions := by
  unfold NodeService.reconcileAll
  rw [hheld, hlist]
  simp only [Script.all, List.flatMap_map]
  rfl

/-- INTERNAL: **the part of `ReconcileAll` that concerns one Pod** is the script of its group. -/
theorem reconcileAll_split (parsers : NetworkParsers) (node : Node)
    (answers : NodeService.ReconcileAnswers) (hheld : s.transitionHeld = false)
    (podUID : ObjectUID) :
    (∀ action ∈ (s.reconcileAll parsers node answers).actions, concerns action ≠ some podUID) ∨
      ∃ first rest, (s.reconcileAll parsers node answers).actions =
          first ++ ((groupScript s parsers node answers podUID).actions ++ rest) ∧
        (∀ action ∈ first, concerns action ≠ some podUID) ∧
        ∀ action ∈ rest, concerns action ≠ some podUID := by
  have hother (l : List ObjectUID) (hl : podUID ∉ l) :
      ∀ action ∈ l.flatMap (fun uid => (groupScript s parsers node answers uid).actions),
        concerns action ≠ some podUID := by
    intro action haction hconcerns
    obtain ⟨uid, huid, hgroup⟩ := List.mem_flatMap.mp haction
    rw [groupScript_scoped uid action hgroup podUID hconcerns] at hl
    exact hl huid
  cases hlist : answers.listFailure with
  | some err =>
    left
    unfold NodeService.reconcileAll
    rw [hheld, hlist]
    intro action haction
    cases haction
  | none =>
    rw [reconcileAll_actions hheld hlist]
    by_cases hmem : podUID ∈ NodeService.groupedPodUIDs (groupable node)
    · right
      obtain ⟨before, after, hsplit⟩ := List.append_of_mem hmem
      have hnodup := groupedPodUIDs_nodup (groupable node)
      rw [hsplit, List.nodup_middle, List.nodup_cons, List.mem_append, not_or] at hnodup
      refine ⟨_, _, ?_, hother before hnodup.1.1, hother after hnodup.1.2⟩
      rw [hsplit, List.flatMap_append, List.flatMap_cons]
    · exact Or.inl (hother _ hmem)

end ReconcileAll

/-! ## Steps of the agent -/

theorem next_output (s : NodeService) (parsers : NetworkParsers) (node : Node)
    (event : AgentEvent) : (node.next s parsers event).2 = s.script parsers node event := by
  cases event <;> rfl

/-- INTERNAL: an operation with actions is their effect. -/
theorem next_of_action {event : AgentEvent} (h : action ∈ (s.script parsers node event).actions) :
    (node.next s parsers event).1 = node.applyAll (s.script parsers node event).actions := by
  cases event with
  | health => cases h
  | environment => cases h
  | prepare | check | withdraw | reconcileAll | lockdownAll => rfl

end Waycloak.Interface
