import Waycloak.Analysis.StickyEnrollment

/-!
# `Add` is fail closed at every exit

One `Add`, with every pattern of failures and lost answers. It succeeds for a Pod that the agent
says is not enrolled, or with a ready record of its sandbox and the agent's confirmation for the
binding in that record. On an error exit after an `InstallLockdown`, its own or one of the agent, the
sandbox must be denied or have a policy that was verified since it was installed (`Guarded`).

`Prepare`, and `Check` when it repairs, replace the lockdown by the protected policy before they
verify it. When the verification fails they ask for the lockdown again and discard the answer, so
an unverified policy stays after a failed verification and a failed lockdown (`Unverifiable`). After
the check of an existing record, the lockdown of `Add` itself must have failed too.
-/

set_option autoImplicit false

namespace Waycloak.Analysis

open Waycloak.Model Waycloak.Interface Waycloak.Computation

variable {a : Attachment} {script : Script}
variable {actions : List AgentAction} {b : Attachment}

/-! ## Policies and their verification -/

/-- The policy of a Pod in a namespace was verified, for the configuration it has, since it was
installed; the latest call comes first. -/
def verifiedIn (identity : String) (podUID : ObjectUID) : List IssuedCall → Bool
  | [] => false
  | issued :: earlier =>
    if issued.namespaceIdentity = some identity ∧ issued.call.podUID = podUID then
      match issued.call with
      | .verify _ config ok => ok && policyIn identity podUID earlier == .configured config
      | call => call.installs.isNone && verifiedIn identity podUID earlier
    else verifiedIn identity podUID earlier

/-- The sandbox of the Pod is denied, or has a protected policy that was verified. -/
def Guarded (node : Node) (pod : PodIdentity) : Prop :=
  ∃ identity, node.namespaces pod.netNS = some identity ∧
    (policyIn identity pod.uid node.issued = .denied ∨
      (∃ config, policyIn identity pod.uid node.issued = .configured config) ∧
        verifiedIn identity pod.uid node.issued = true)

/-- The agent programs the path, cannot verify it and cannot deny it again. -/
structure Unverifiable (s : NodeService) (parsers : NetworkParsers) (node : Node)
    (answers : NodeService.ProgramAnswers) (pod : PodIdentity) (requested : BindingReference) :
    Prop where
  ready : s.ready node = true
  authority : ∃ granted, s.authority parsers answers pod requested = .ok granted
  lockdown : answers.lockdown = true
  configure : answers.configure = true
  verify : answers.verify = false
  relock : answers.relock = false

section Policy

variable {node : Node} {pod : PodIdentity} {identity : String}

theorem applyAll_issued (node : Node) (actions : List AgentAction) :
    (node.applyAll actions).issued =
      (actions.filterMap fun action => match action with
        | .program call => some ⟨node.namespaces call.netNS, call⟩
        | _ => none).reverse ++ node.issued := by
  induction actions generalizing node with
  | nil => rfl
  | cons action _ ih =>
    rw [applyAll_cons, ih]
    cases action <;> simp [Node.apply]

theorem guarded_of_denied (hidentity : node.namespaces pod.netNS = some identity)
    (h : policyIn identity pod.uid node.issued = .denied) : Guarded node pod :=
  ⟨identity, hidentity, Or.inl h⟩

theorem applyAll_issued_of_silent (h : ∀ action ∈ actions, ∀ call, action ≠ .program call) :
    (node.applyAll actions).issued = node.issued := by
  rw [applyAll_issued, List.filterMap_eq_nil_iff.mpr ?_]
  · rfl
  intro action haction
  cases action with
  | program call => exact absurd rfl (h _ haction call)
  | _ => rfl

theorem policyIn_lockdown (issued : List IssuedCall) (netNS : String) (podUID : ObjectUID) :
    policyIn identity podUID
      (⟨some identity, .installLockdown netNS podUID true⟩ :: issued) = .denied := by
  simp [policyIn, ProgrammerCall.podUID, ProgrammerCall.installs]

theorem guarded_applyAll (hidentity : node.namespaces pod.netNS = some identity)
    (actions : List AgentAction) :
    Guarded (node.applyAll actions) pod ↔
      policyIn identity pod.uid (node.applyAll actions).issued = .denied ∨
        (∃ config, policyIn identity pod.uid (node.applyAll actions).issued = .configured config) ∧
          verifiedIn identity pod.uid (node.applyAll actions).issued = true := by
  simp [Guarded, hidentity]

/-- INTERNAL: **what `Prepare` leaves in a denied sandbox**: a guard, unless it can neither verify
the path nor deny it again. -/
theorem servePrepare_guarded (s : NodeService) (parsers : NetworkParsers)
    (answers : NodeService.ProgramAnswers) (requested : BindingReference)
    (hidentity : node.namespaces pod.netNS = some identity)
    (hdenied : policyIn identity pod.uid node.issued = .denied) :
    Guarded (node.applyAll (s.servePrepare parsers node answers pod requested).actions) pod ↔
      ¬ Unverifiable s parsers node answers pod requested := by
  have hreaches (answer : Bool) : node.reaches pod.netNS answer = answer := by
    simp [Node.reaches, hidentity]
  rw [guarded_applyAll hidentity, applyAll_issued]
  unfold NodeService.servePrepare
  cases hready : s.ready node with
  | false =>
    simp only [if_pos, Script.fail, List.filterMap_nil, List.reverse_nil, List.nil_append]
    exact iff_of_true (Or.inl hdenied) fun h => absurd h.ready (by simp [hready])
  | true =>
    simp only [Bool.true_eq_false, if_false]
    unfold NodeService.prepare
    cases hauthority : s.authority parsers answers pod requested with
    | error err =>
      refine iff_of_true (Or.inl hdenied) fun h => ?_
      obtain ⟨granted, hgranted⟩ := h.authority
      rw [hauthority] at hgranted
      cases hgranted
    | ok granted =>
      obtain ⟨binding, config⟩ := granted
      have huid : config.podUID = pod.uid := (authority_ok hauthority).configPod
      dsimp only
      simp only [hreaches]
      cases hlockdown : answers.lockdown with
      | false =>
        refine iff_of_true (Or.inl ?_) fun h => absurd h.lockdown (by simp [hlockdown])
        simpa [policyIn, ProgrammerCall.installs] using hdenied
      | true =>
        cases hconfigure : answers.configure with
        | false =>
          refine iff_of_true (Or.inl ?_) fun h => absurd h.configure (by simp [hconfigure])
          cases hrelock : answers.relock <;>
            simp [NodeService.observe, policyIn, ProgrammerCall.installs,
              ProgrammerCall.podUID, ProgrammerCall.netNS, hidentity, huid]
        | true =>
          cases hverify : answers.verify with
          | true =>
            refine iff_of_true (Or.inr ?_) fun h => absurd h.verify (by simp [hverify])
            simp [NodeService.observe, policyIn, verifiedIn, ProgrammerCall.installs,
              ProgrammerCall.podUID, ProgrammerCall.netNS, hidentity, huid]
          | false =>
            cases hrelock : answers.relock with
            | true =>
              refine iff_of_true (Or.inl ?_) fun h => absurd h.relock (by simp [hrelock])
              simp [NodeService.observe, policyIn, ProgrammerCall.installs,
                ProgrammerCall.podUID, ProgrammerCall.netNS, hidentity]
            | false =>
              refine iff_of_false ?_ fun h => h
                ⟨hready, ⟨_, hauthority⟩, hlockdown, hconfigure, hverify, hrelock⟩
              simp [NodeService.observe, policyIn, verifiedIn, ProgrammerCall.installs,
                ProgrammerCall.podUID, ProgrammerCall.netNS, hidentity, huid]

/-- INTERNAL: **what a `Check` that installed lockdown leaves**, also after another lockdown that
fails: a guard, unless it can neither verify the path it repaired nor deny it again. -/
theorem serveCheck_guarded (s : NodeService) (parsers : NetworkParsers)
    (answers : NodeService.ProgramAnswers) (requested : BindingReference)
    (hidentity : node.namespaces pod.netNS = some identity)
    (hlocked : .program (.installLockdown pod.netNS pod.uid true) ∈
      (s.serveCheck parsers node answers pod requested).actions) :
    Guarded (node.applyAll ((s.serveCheck parsers node answers pod requested).actions ++
        [.program (.installLockdown pod.netNS pod.uid false)])) pod ↔
      ¬ (node.verifies pod.netNS pod.uid answers.verifyFirst = false ∧
        Unverifiable s parsers node answers pod requested) := by
  have hreaches (answer : Bool) : node.reaches pod.netNS answer = answer := by
    simp [Node.reaches, hidentity]
  rw [guarded_applyAll hidentity, applyAll_issued]
  revert hlocked
  unfold NodeService.serveCheck
  cases hready : s.ready node with
  | false =>
    cases hlockdown : answers.lockdown with
    | false => simp [hreaches]
    | true =>
      intro _
      refine iff_of_true (Or.inl ?_) fun h => absurd h.2.ready (by simp [hready])
      simp [hreaches, policyIn, ProgrammerCall.installs, ProgrammerCall.podUID,
        ProgrammerCall.netNS, hidentity]
  | true =>
    simp only [Bool.true_eq_false, if_false]
    unfold NodeService.check
    cases hauthority : s.authority parsers answers pod requested with
    | error err =>
      cases hlockdown : answers.lockdown with
      | false => simp [hreaches]
      | true =>
        intro _
        refine iff_of_true (Or.inl ?_) fun h => ?_
        · simp [hreaches, policyIn, ProgrammerCall.installs, ProgrammerCall.podUID,
            ProgrammerCall.netNS, hidentity]
        · obtain ⟨granted, hgranted⟩ := h.2.authority
          rw [hauthority] at hgranted
          cases hgranted
    | ok granted =>
      obtain ⟨binding, config⟩ := granted
      have huid : config.podUID = pod.uid := (authority_ok hauthority).configPod
      dsimp only
      simp only [hreaches]
      cases hfirst : node.verifies pod.netNS pod.uid answers.verifyFirst with
      | true => simp [NodeService.observe]
      | false =>
        cases hlockdown : answers.lockdown with
        | false => simp [NodeService.observe]
        | true =>
          intro _
          cases hconfigure : answers.configure with
          | false =>
            refine iff_of_true (Or.inl ?_) fun h => absurd h.2.configure (by simp [hconfigure])
            simp [NodeService.observe, policyIn, ProgrammerCall.installs,
              ProgrammerCall.podUID, ProgrammerCall.netNS, hidentity, huid]
          | true =>
            cases hverify : answers.verify with
            | true =>
              refine iff_of_true (Or.inr ?_) fun h => absurd h.2.verify (by simp [hverify])
              simp [NodeService.observe, policyIn, verifiedIn, ProgrammerCall.installs,
                ProgrammerCall.podUID, ProgrammerCall.netNS, hidentity, huid]
            | false =>
              cases hrelock : answers.relock with
              | true =>
                refine iff_of_true (Or.inl ?_) fun h => absurd h.2.relock (by simp [hrelock])
                simp [NodeService.observe, policyIn, ProgrammerCall.installs,
                  ProgrammerCall.podUID, ProgrammerCall.netNS, hidentity]
              | false =>
                refine iff_of_false ?_ fun h => h
                  ⟨rfl, hready, ⟨_, hauthority⟩, hlockdown, hconfigure, hverify, hrelock⟩
                simp [NodeService.observe, policyIn, verifiedIn, ProgrammerCall.installs,
                  ProgrammerCall.podUID, ProgrammerCall.netNS, hidentity, huid]

end Policy

/-! ## The property -/

section Property

variable (s : NodeService) (parsers : NetworkParsers) (node : Node) (answers : Plugin.AddAnswers)
  (request : CNIRequest)

/-- The agent resolved the exact Pod as not enrolled, and the network has no record of its UID. -/
def NotEnrolled : Prop :=
  (∃ resolution, Plugin.resolvePod s answers.start request.pod = .ok resolution ∧
    resolution.podUID = request.pod.uid ∧ resolution.enrolled = false) ∧
  ∀ a ∈ node.attachments, a.network = request.network → a.pod.uid ≠ request.pod.uid

/-- The store holds a ready record of the exact sandbox, and the agent accepted `Check` or `Prepare`
for the binding in it. -/
def RecordedReady (script : Script) : Prop :=
  ∃ a ∈ (node.applyAll script.actions).attachments, a.key = request.key ∧ a.pod = request.pod ∧
    node.namespaces request.pod.netNS = some a.namespaceIdentity ∧ a.phase = .ready ∧
    (PathConfirmed s parsers answers.start.check request.pod
        (Plugin.recordedBinding a request.pod.uid) script.actions ∨
      PathConfirmed s parsers answers.prepare request.pod
        (Plugin.recordedBinding a request.pod.uid) script.actions)

/-- **`Add` is fail closed**: what its success means, and what an error leaves behind once an
`InstallLockdown` has succeeded, be it of `Add` itself or of the agent. -/
structure AddFailsClosed : Prop where
  success : (Plugin.add s parsers node answers request).error = none →
    NotEnrolled s node answers request ∨
      RecordedReady s parsers node answers request (Plugin.add s parsers node answers request)
  guarded : (Plugin.add s parsers node answers request).error.isSome →
    .program (.installLockdown request.pod.netNS request.pod.uid true) ∈
      (Plugin.add s parsers node answers request).actions →
    Guarded (node.applyAll (Plugin.add s parsers node answers request).actions) request.pod
  unready : (Plugin.add s parsers node answers request).error.isSome →
    ∀ a ∈ (node.applyAll (Plugin.add s parsers node answers request).actions).attachments,
      a.phase = .ready → a ∈ node.attachments

/-- `Prepare` reaches the agent, which can neither verify the path it programmed nor deny it again. -/
def PrepareUnverified : Prop :=
  ∃ begun bound binding, AddReaches s parsers node answers request begun bound binding ∧
    answers.prepareDelivery ≠ .undelivered ∧
    Unverifiable s parsers (Plugin.healthThen answers node (begun.actions ++ [.save bound]))
      answers.prepare request.pod binding

/-- The check of a ready record reaches the agent, which finds the path changed and can neither verify
its repair nor deny it again; then the lockdown of `Add` fails as well. -/
def CheckUnverified : Prop :=
  ∃ existing, Rechecks node answers.start request existing ∧
    answers.start.checkDelivery ≠ .undelivered ∧
    (node.verifies request.pod.netNS request.pod.uid answers.start.check.verifyFirst = false ∧
      Unverifiable s parsers node answers.start.check request.pod
        (Plugin.recordedBinding existing request.pod.uid)) ∧
    answers.start.lockdown = false

/-- An unverified policy is left. -/
def LeavesUnverified : Prop :=
  PrepareUnverified s parsers node answers request ∨ CheckUnverified s parsers node answers request

/-- The Pod counts as not enrolled although the network has a record of its UID, under another name. -/
def OverlooksRecord : Prop :=
  Unenrolled s node answers.start request ∧
    ∃ a ∈ node.attachments, a.network = request.network ∧ a.pod.uid = request.pod.uid

end Property

/-! ## The exits -/

section Exits

variable {s : NodeService} {parsers : NetworkParsers} {node : Node} {answers : Plugin.AddAnswers}
  {request : CNIRequest} {begun : Script} {bound : Attachment} {binding : BindingReference}

/-- What is known once `Add` asks the agent. -/
structure AtPrepare (node : Node) (request : CNIRequest) (begun : Script) (bound : Attachment)
    (binding : BindingReference) (answers : Plugin.AddAnswers) : Prop where
  begun : ∃ a, DeniedFirst node request begun a
  network : bound.network = request.network
  pod : bound.pod = request.pod
  identity : node.namespaces request.pod.netNS = some bound.namespaceIdentity
  phase : bound.phase = .lockedDown
  binding : Plugin.recordedBinding bound request.pod.uid = binding

theorem addReaches_atPrepare (h : AddReaches s parsers node answers request begun bound binding) :
    AtPrepare node request begun bound binding answers := by
  obtain ⟨progress, hbegun, hbound⟩ := h
  have hcases := addBegin_cases s parsers node answers.start request
  rw [hbegun] at hcases
  have hdenial := addBegin_denial hcases
  have hcases' := addBind_cases s answers.bind progress.attachment
  rw [hbound] at hcases'
  cases hcases' with
  | bound _ _ hnetwork hpod hidentity hphase hbinding =>
    refine ⟨⟨_, hdenial⟩, hnetwork.trans hdenial.network, hpod.trans hdenial.pod, ?_,
      hphase.trans hdenial.phase, ?_⟩
    · rw [hidentity]
      exact hdenial.identity
    · rw [← hbinding, hdenial.pod]

theorem policyIn_deniedFirst (h : DeniedFirst node request begun a)
    (rest : List Attachment) :
    policyIn a.namespaceIdentity request.pod.uid
      (node.applyAll (begun.actions ++ rest.map .save)).issued = .denied := by
  obtain ⟨checked, -, rfl⟩ := h.actions
  have hsilent : ∀ action ∈ AgentAction.save a :: rest.map .save, ∀ call, action ≠ .program call := by
    simp
  have hsplit : checked ++ [.program (.installLockdown request.pod.netNS request.pod.uid true),
      .save a] ++ rest.map AgentAction.save =
      (checked ++ [.program (.installLockdown request.pod.netNS request.pod.uid true)]) ++
        (.save a :: rest.map .save) := by simp
  rw [hsplit, applyAll_append, applyAll_issued_of_silent hsilent, applyAll_append]
  simp only [applyAll_cons, applyAll_nil, Node.apply, applyAll_namespaces, ProgrammerCall.netNS,
    h.identity]
  exact policyIn_lockdown _ _ _

theorem guarded_healthThen (answers : Plugin.AddAnswers) (performed actions : List AgentAction) :
    Guarded ((Plugin.healthThen answers node performed).applyAll actions) request.pod ↔
      Guarded (node.applyAll (performed ++ actions)) request.pod := by
  have hissued : ((Plugin.healthThen answers node performed).applyAll actions).issued =
      (node.applyAll (performed ++ actions)).issued := by
    rw [applyAll_append, applyAll_issued, applyAll_issued (node.applyAll performed)]
    rfl
  have hnamespaces : (Plugin.healthThen answers node performed).namespaces = node.namespaces := by
    simp [Plugin.healthThen]
  simp [Guarded, hissued, hnamespaces]

/-- INTERNAL: **what the `Prepare` of an `Add` leaves in the sandbox.** -/
theorem prepared_guarded (h : AddReaches s parsers node answers request begun bound binding) :
    Guarded (node.applyAll (begun.actions ++ [.save bound] ++
        (preparedScript s parsers node answers begun bound binding).actions)) request.pod ↔
      (answers.prepareDelivery ≠ .undelivered → ¬ Unverifiable s parsers
        (Plugin.healthThen answers node (begun.actions ++ [.save bound])) answers.prepare request.pod
        binding) := by
  obtain ⟨⟨a, hdenied⟩, -, hpod, -, -, -⟩ := addReaches_atPrepare h
  have hpolicy : policyIn a.namespaceIdentity request.pod.uid
      (Plugin.healthThen answers node (begun.actions ++ [.save bound])).issued = .denied :=
    policyIn_deniedFirst hdenied [bound]
  have hidentity : (Plugin.healthThen answers node (begun.actions ++ [.save bound])).namespaces
      request.pod.netNS = some a.namespaceIdentity := by
    simpa [Plugin.healthThen] using hdenied.identity
  have hprepare := servePrepare_guarded s parsers answers.prepare binding hidentity hpolicy
  rw [← guarded_healthThen answers]
  unfold preparedScript
  rw [hpod]
  cases hdelivery : answers.prepareDelivery with
  | undelivered =>
    refine iff_of_true ?_ fun hne => absurd rfl hne
    exact guarded_of_denied hidentity hpolicy
  | unanswered | answered => simpa [Script.delivered] using hprepare

theorem deniedFirst_issued (h : DeniedFirst node request begun a) :
    .program (.installLockdown request.pod.netNS request.pod.uid true) ∈ begun.actions := by
  obtain ⟨checked, -, rfl⟩ := h.actions
  simp

theorem unverifiable_fails (hdelivery : answers.prepareDelivery ≠ .undelivered)
    (hpod : bound.pod = request.pod)
    (h : Unverifiable s parsers (Plugin.healthThen answers node (begun.actions ++ [.save bound]))
      answers.prepare request.pod binding) :
    (preparedScript s parsers node answers begun bound binding).error.isSome := by
  have hprepare : (s.servePrepare parsers
      (Plugin.healthThen answers node (begun.actions ++ [.save bound])) answers.prepare bound.pod
      binding).error.isSome := by
    obtain ⟨⟨granted, config⟩, hgranted⟩ := h.authority
    rw [hpod]
    simp only [NodeService.servePrepare, h.ready, Bool.true_eq_false, if_false, NodeService.prepare,
      hgranted, h.verify, if_true]
    split
    · rfl
    · split
      · rfl
      · rfl
  unfold preparedScript
  cases hcase : answers.prepareDelivery with
  | undelivered => exact absurd hcase hdelivery
  | unanswered => rfl
  | answered => exact hprepare

theorem preparedScript_leavesRecords :
    LeavesRecords (preparedScript s parsers node answers begun bound binding).actions :=
  delivered_leavesRecords servePrepare_programming.leavesRecords _

theorem applyAll_unready (h : ∀ b, .save b ∈ actions → b.phase ≠ .ready) :
    ∀ a ∈ (node.applyAll actions).attachments, a.phase = .ready → a ∈ node.attachments :=
  applyAll_records (R := fun a => a.phase = .ready → a ∈ node.attachments)
    (fun _ ha _ => ha) fun b hb hready => absurd hready (h b hb)

theorem deniedFirst_saves (h : DeniedFirst node request begun a)
    (hb : .save b ∈ begun.actions) : b.phase ≠ .ready := by
  obtain ⟨checked, hleaves, rfl⟩ := h.actions
  rcases List.mem_append.mp hb with hb | hb
  · exact absurd rfl ((hleaves _ hb).1 b)
  · have hba : b = a := by simpa using hb
    rw [hba, h.phase]
    simp

theorem prepare_saves (h : AddReaches s parsers node answers request begun bound binding)
    (hb : .save b ∈ begun.actions ++ [.save bound] ++
      (preparedScript s parsers node answers begun bound binding).actions) : b.phase ≠ .ready := by
  obtain ⟨⟨a, hdenied⟩, -, -, -, hphase, -⟩ := addReaches_atPrepare h
  rcases List.mem_append.mp hb with hb | hb
  · rcases List.mem_append.mp hb with hb | hb
    · exact deniedFirst_saves hdenied hb
    · have hbound : b = bound := by simpa using hb
      rw [hbound, hphase]
      simp
  · exact absurd rfl ((preparedScript_leavesRecords _ hb).1 b)

theorem early_leavesRecords (h : AddBegun s parsers node answers.start request script none) :
    LeavesRecords script.actions := by
  generalize hp : (none : Option Plugin.AddProgress) = progress at h
  cases h with
  | refused err => simp [LeavesRecords, Script.fail]
  | notEnrolled => simp [LeavesRecords, Script.done]
  | checked _ _ _ _ _ hscript =>
    rw [hscript]
    exact serveCheck_programming.leavesRecords
  | denied _ _ hchecked hdenial =>
    refine leavesRecords_append.mpr ⟨checked_leavesRecords hchecked, ?_⟩
    cases hdenial with
    | unlocked | unrecorded => simp [LeavesRecords]
    | recorded => cases hp

/-- INTERNAL: an early exit after a lockdown is the rollback of a record that could not be saved,
which leaves the lockdown, or comes after a check of the agent that installed one. -/
theorem early_guarded (h : AddBegun s parsers node answers.start request script none)
    (herror : script.error.isSome) (hverified : ¬ CheckUnverified s parsers node answers request)
    (hissued : .program (.installLockdown request.pod.netNS request.pod.uid true) ∈ script.actions) :
    Guarded (node.applyAll script.actions) request.pod := by
  generalize hp : (none : Option Plugin.AddProgress) = progress at h
  cases h with
  | refused err => cases hissued
  | notEnrolled => cases hissued
  | checked _ _ _ _ _ _ hdone =>
    rw [hdone] at herror
    cases herror
  | denied checked hidentity hchecked hdenial =>
    cases hdenial with
    | unlocked err hreached =>
      have hchecked' : .program (.installLockdown request.pod.netNS request.pod.uid true) ∈
          checked := by simpa [NodeService.before] using hissued
      rcases hchecked with rfl | ⟨existing, hrechecks, hdelivery, rfl⟩
      · cases hchecked'
      refine (serveCheck_guarded s parsers _ _ hidentity hchecked').mpr fun hunverifiable => ?_
      exact hverified ⟨existing, hrechecks, hdelivery, hunverifiable,
        by simpa [Node.reaches, hidentity] using hreached⟩
    | unrecorded =>
      refine guarded_of_denied ((applyAll_namespaces _ _).symm ▸ hidentity) ?_
      -- the rollback denies again, or leaves the lockdown as it is
      cases hrollback : answers.start.rollbackDenied <;>
        simp [NodeService.before, Node.apply, policyIn, ProgrammerCall.installs,
          ProgrammerCall.podUID, ProgrammerCall.netNS, hidentity]
    | recorded => cases hp

/-- INTERNAL: the check that can neither verify its repair nor deny it again has installed lockdown,
and fails. -/
theorem unverifiable_check {answers : NodeService.ProgramAnswers} {pod : PodIdentity}
    {requested : BindingReference} {identity : String}
    (hidentity : node.namespaces pod.netNS = some identity)
    (hfirst : node.verifies pod.netNS pod.uid answers.verifyFirst = false)
    (h : Unverifiable s parsers node answers pod requested) :
    (s.serveCheck parsers node answers pod requested).error.isSome ∧
      .program (.installLockdown pod.netNS pod.uid true) ∈
        (s.serveCheck parsers node answers pod requested).actions := by
  obtain ⟨⟨binding, config⟩, hgranted⟩ := h.authority
  simp [NodeService.serveCheck, NodeService.check, h.ready, hgranted, hfirst, Node.reaches,
    hidentity, h.lockdown, h.configure, h.verify]

theorem checkUnverified_left (h : CheckUnverified s parsers node answers request) :
    ¬ AddFailsClosed s parsers node answers request := by
  obtain ⟨existing, hrechecks, hdelivery, hunverifiable, hlockdown⟩ := h
  obtain ⟨herror, hlocked⟩ :=
    unverifiable_check hrechecks.sandbox hunverifiable.1 hunverifiable.2
  have hdelivered : ((recheckScript s parsers node answers.start request existing).delivered
        answers.start.checkDelivery).error.isSome ∧
      ((recheckScript s parsers node answers.start request existing).delivered
        answers.start.checkDelivery).actions =
        (recheckScript s parsers node answers.start request existing).actions := by
    cases hcase : answers.start.checkDelivery with
    | undelivered => exact absurd hcase hdelivery
    | unanswered => exact ⟨rfl, rfl⟩
    | answered => exact ⟨herror, rfl⟩
  have hbegin := hrechecks.unlocked hlockdown hdelivered.1
  have hadd : Plugin.add s parsers node answers request =
      { actions := (recheckScript s parsers node answers.start request existing).actions ++
          [.program (.installLockdown request.pod.netNS request.pod.uid false)]
        error := some "install deny-first policy" } := by
    simp [Plugin.add, hbegin, hdelivered.2]
  intro hclosed
  have hguarded := hclosed.guarded
  rw [hadd] at hguarded
  have hleft := hguarded rfl (List.mem_append_left _ hlocked)
  exact (serveCheck_guarded s parsers _ _ hrechecks.sandbox hlocked).mp hleft hunverifiable

theorem early_succeeds (h : AddBegun s parsers node answers.start request script none)
    (hdone : script.error = none) :
    Unenrolled s node answers.start request ∨
      RecordedReady s parsers node answers request script := by
  generalize hp : (none : Option Plugin.AddProgress) = progress at h
  cases h with
  | refused err => cases hdone
  | notEnrolled hunenrolled => exact Or.inl hunenrolled
  | @checked existing _ hfind hnetwork hpod hidentity hphase hscript hok =>
    obtain ⟨hmem, hkey⟩ := KeyedStore.find_eq_some.mp hfind
    have hconfirmed := serveCheck_programming.confirmed (hscript ▸ hok)
    rw [← hscript] at hconfirmed
    refine Or.inr ⟨existing, ?_, hkey, hpod, hidentity, hphase, Or.inl hconfirmed⟩
    rw [hscript, applyAll_leavesRecords serveCheck_programming.leavesRecords]
    exact hmem
  | denied _ _ _ hdenial =>
    cases hdenial with
    | unlocked => cases hdone
    | unrecorded => cases hdone
    | recorded => cases hp

theorem finished_succeeds (h : AddReaches s parsers node answers request begun bound binding)
    (hdone : (preparedScript s parsers node answers begun bound binding).error = none)
    (error : Option String) :
    RecordedReady s parsers node answers request
      { actions := begun.actions ++ [.save bound] ++
          (preparedScript s parsers node answers begun bound binding).actions ++
          [.save { bound with phase := .ready, updatedAt := answers.now }]
        error } := by
  obtain ⟨-, hnetwork, hpod, hidentity, hphase, hbinding⟩ := addReaches_atPrepare h
  refine ⟨{ bound with phase := .ready, updatedAt := answers.now }, ?_, ?_, hpod, hidentity, rfl,
    Or.inr ?_⟩
  · rw [applyAll_append]
    exact KeyedStore.mem_put.mpr (Or.inl rfl)
  · simp [Attachment.key, CNIRequest.key, hnetwork, hpod]
  · obtain ⟨hanswered, hok⟩ := delivered_done hdone
    obtain ⟨granted, config, hauthorized, hverify, hobserve⟩ :=
      servePrepare_programming.confirmed hok
    rw [← hanswered, ← preparedScript] at hverify hobserve
    rw [hpod] at hverify
    refine ⟨granted, config, ?_, ?_, ?_⟩
    · rw [hpod, ← hbinding] at hauthorized
      exact hauthorized
    · exact List.mem_append_left _ (List.mem_append_right _ hverify)
    · exact List.mem_append_left _ (List.mem_append_right _ hobserve)

end Exits

/-- Every call of the `Add` succeeds, up to the verification and the lockdown after it. -/
def unverifiedAdd : Plugin.AddAnswers :=
  { start := stickyBegin "private", bind := stickyBind none, relayHealthy := true
    backendHealthy := true, prepareDelivery := .answered
    prepare := { agentProgram 1 with verify := false, relock := false }
    saveFailure := none, now := 3 }

end Waycloak.Analysis
