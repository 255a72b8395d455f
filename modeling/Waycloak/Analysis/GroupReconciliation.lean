import Waycloak.Interface.DialogueScripts
import Waycloak.Analysis.TransitionDeny

/-!
# Reconciling the attachments of one Pod

One run of `reconcileAttachmentGroup`, whatever each of its calls is answered. What a call may rely on
is stated of the exchanges before it (`Permitted`) and proved along the operation: a sandbox is
configured only as the sole live one, and a record is deleted only after a withdrawal that was
cleaned and published, or after another Ready sandbox of the Pod was verified.
-/

set_option autoImplicit false

namespace Waycloak.Analysis

open Waycloak.Model Waycloak.Interface Waycloak.Computation Waycloak.Computation.Dialogue

variable {canonical : PodIdentity} {first a current : Attachment} {pod : Pod} {r : AgentCall}
  {α : Type} {p : AgentDialogue α}
variable {t' t : List AgentExchange} {identity : Option String} {live attachments : List Attachment}

/-! ## The property -/

section Property

variable (s : NodeService) (parsers : NetworkParsers) (group : List Attachment)
  (h : List AgentExchange)

/-- Every namespace of the group was observed, and one attachment alone is live. -/
structure SoleLive (current : Attachment) : Prop where
  mem : current ∈ group
  live : Live h current
  observed : ∀ a ∈ group, ∃ identity, Observed h a identity
  sole : ∀ a ∈ group, Live h a → a = current

/-- The record is Ready for this binding, which was read. -/
structure ReadyFor (current : Attachment) (binding : VPNWorkloadBinding) : Prop where
  ready : current.phase = .ready
  read : ∃ namespaceName podUID,
    (⟨.readBinding namespaceName podUID, .ok binding⟩ : AgentExchange) ∈ h
  uid : binding.uid = current.bindingUID
  gateway : binding.spec.gatewayRef.uid = current.gatewayUID

/-- **The sandbox may be configured**: it is the sole live one, and its record is Ready for the
binding the configuration is made from. -/
def MayConfigure (pod : PodIdentity) (config : Config) : Prop :=
  ∃ current binding, SoleLive group h current ∧ current.pod = pod ∧ ReadyFor h current binding ∧
    configFromBinding parsers binding = .ok config

/-- The exact Pod was observed absent or terminating. -/
def PodObservedGone : Prop :=
  ∃ a ∈ group, ∃ read,
    (⟨.readPod a.pod.namespaceName a.pod.name, read⟩ : AgentExchange) ∈ h ∧
      ((∃ err, s.pod read a.pod = .error err ∧ NodeService.exactPodAbsent err = true) ∨
        ∃ pod, s.pod read a.pod = .ok pod ∧ pod.deletionTimestamp.isSome = true)

/-- **The group was withdrawn**: the Pod is gone, every namespace was observed and every live
sandbox cleaned, and the withdrawal of the binding, if there is one, was published. -/
structure GroupWithdrawn : Prop where
  gone : PodObservedGone s group h
  observed : ∀ a ∈ group, ∃ identity, Observed h a identity
  cleaned : ∀ a ∈ group, Live h a →
    ∃ denied, (⟨.cleanup a.pod, (denied, true)⟩ : AgentExchange) ∈ h
  published : ∃ a ∈ group, WithdrawalPublished s a.pod.namespaceName a.pod.uid h

/-- The sandbox of a Ready record was verified in this run with the configuration of its binding,
and the record names that binding's generation, as it was or as it was saved. -/
def VerifiedCurrent (current : Attachment) : Prop :=
  ∃ binding config, ReadyFor h current binding ∧ configFromBinding parsers binding = .ok config ∧
    (⟨.verify current.pod config, true⟩ : AgentExchange) ∈ h ∧
    (current.bindingGeneration = binding.generation ∨ ∃ now,
      (⟨.saveAttachment { current with bindingGeneration := binding.generation, updatedAt := now },
        none⟩ : AgentExchange) ∈ h)

/-- **The record was superseded** by another attachment of the group, and is not a locked-down one
within its grace period. -/
def RecordSuperseded (key : AttachmentKey) : Prop :=
  ∃ a ∈ group, ∃ current ∈ group, a.key = key ∧ current.key ≠ key ∧
    VerifiedCurrent parsers h current ∧
    (a.phase = .lockedDown → ∃ now, (⟨.now, now⟩ : AgentExchange) ∈ h ∧
      NodeService.attachmentIsYoung a now = false)

/-- What a call of the run may rely on. -/
def Permitted : AgentCall → Prop
  | .configure pod config => MayConfigure parsers group h pod config
  | .deleteAttachment key => GroupWithdrawn s group h ∨ RecordSuperseded parsers group h key
  | _ => True

/-- The Pod was read and is not terminating. -/
def PodObservedThere : Prop :=
  ∃ a ∈ group, ∃ read pod,
    (⟨.readPod a.pod.namespaceName a.pod.name, read⟩ : AgentExchange) ∈ h ∧
      s.pod read a.pod = .ok pod ∧ pod.deletionTimestamp = none

/-- The records disagree on the Pod's namespace or name. -/
def RecordsDisagree : Prop :=
  ∃ a ∈ group, ∃ b ∈ group,
    a.pod.namespaceName ≠ b.pod.namespaceName ∨ a.pod.name ≠ b.pod.name

/-- The whole property of one run. -/
structure GroupReconciledSafely (t : List AgentExchange) : Prop where
  configured : ∀ before pod config ok after, t = before ++ ⟨.configure pod config, ok⟩ :: after →
    MayConfigure parsers group before pod config
  one : ∀ pod config ok pod' config' ok', (⟨.configure pod config, ok⟩ : AgentExchange) ∈ t →
    (⟨.configure pod' config', ok'⟩ : AgentExchange) ∈ t → pod = pod'
  ambiguous : (PodObservedThere s group t ∧
      ∃ a ∈ group, ∃ b ∈ group, a ≠ b ∧ Live t a ∧ Live t b) ∨ RecordsDisagree group →
    (∀ a ∈ group, Live t a → ∃ ok, (⟨.installLockdown a.pod, ok⟩ : AgentExchange) ∈ t) ∧
      ∀ pod config ok, (⟨.configure pod config, ok⟩ : AgentExchange) ∉ t
  deleted : ∀ before key failure after, t = before ++ ⟨.deleteAttachment key, failure⟩ :: after →
    GroupWithdrawn s group before ∨ RecordSuperseded parsers group before key

end Property

variable {s : NodeService} {parsers : NetworkParsers} {group : List Attachment}
  {h : List AgentExchange}

/-! ## Calls that are always permitted -/

/-- Calls that neither configure a sandbox nor delete a record. -/
def alwaysPermitted : AgentCall → Bool
  | .configure _ _ => false
  | .deleteAttachment _ => false
  | _ => true

theorem permitted_of_alwaysPermitted (hr : alwaysPermitted r = true) :
    Permitted s parsers group h r := by
  cases r <;> trivial

theorem alwaysPermitted_of_quiet (hr : isQuiet r = true) : alwaysPermitted r = true := by
  cases r <;> first | rfl | cases hr

theorem quiet_permitted (hp : Asks (isQuiet · = true) p) :
    Allowed (Permitted s parsers group) h p :=
  hp.allowed fun _ _ _ hr => permitted_of_alwaysPermitted (alwaysPermitted_of_quiet hr)

theorem reads_permitted (hp : Asks (readsObject · = true) p) :
    Allowed (Permitted s parsers group) h p := by
  refine hp.allowed fun t r _ hr => permitted_of_alwaysPermitted ?_
  cases r <;> first | rfl | cases hr

theorem liveAttachments_permitted (attachments : List Attachment) :
    Allowed (Permitted s parsers group) h (AgentDialogue.liveAttachments attachments) := by
  refine (liveAttachments_asks attachments).allowed fun t r _ hr => permitted_of_alwaysPermitted ?_
  cases r <;> first | rfl | cases hr

theorem lockdownOne_permitted (a : Attachment) :
    Allowed (Permitted s parsers group) h (AgentDialogue.lockdownOne a) := by
  refine allowed_request_bind trivial fun ok => ?_
  cases ok <;> exact allowed_pure

theorem lockdownAttachments_permitted (live : List Attachment) :
    Allowed (Permitted s parsers group) h (AgentDialogue.lockdownAttachments live) :=
  allowed_bind (allowed_each fun a _ _ _ => lockdownOne_permitted a) fun _ _ _ => allowed_pure

theorem cleanupOne_permitted (a : Attachment) :
    Allowed (Permitted s parsers group) h (AgentDialogue.cleanupOne a) := by
  refine allowed_request_bind trivial fun ok => ?_
  split <;> exact allowed_pure

theorem quarantineAttachmentGroup_permitted (attachments : List Attachment) (cause : String) :
    Allowed (Permitted s parsers group) h
      (AgentDialogue.quarantineAttachmentGroup s attachments cause) := by
  refine allowed_bind (liveAttachments_permitted _) fun _ result _ => ?_
  refine allowed_bind (allowed_each fun a _ _ _ => quiet_permitted (observeNotReady_quiet _ _)) ?_
  intro _ _ _
  exact allowed_bind (lockdownAttachments_permitted _) fun _ _ _ => allowed_pure

/-! ## Deletions of a withdrawn group -/

/-- Exchanges among which no namespace is observed. -/
def ObservesNone (t : List AgentExchange) : Prop := ∀ e ∈ t, observesNamespace e.1 = false

theorem ObservesNone.append (ht : ObservesNone t) (ht' : ObservesNone t') :
    ObservesNone (t ++ t') := by
  intro e he
  rcases List.mem_append.mp he with he | he
  · exact ht e he
  · exact ht' e he

theorem observed_of_append (hobserved : Observed (h ++ t) a identity) (ht : ObservesNone t) :
    Observed h a identity := by
  rcases List.mem_append.mp hobserved with hmem | hmem
  · exact hmem
  · cases ht _ hmem

theorem observed_of_prepend (hobserved : Observed (h ++ t) a identity) (hh : ObservesNone h) :
    Observed t a identity := by
  rcases List.mem_append.mp hobserved with hmem | hmem
  · cases hh _ hmem
  · exact hmem

theorem PodObservedGone.append (hgone : PodObservedGone s group h) :
    PodObservedGone s group (h ++ t) := by
  obtain ⟨a, ha, read, hread, hresult⟩ := hgone
  exact ⟨a, ha, read, List.mem_append_left _ hread, hresult⟩

theorem GroupWithdrawn.append (hwithdrawn : GroupWithdrawn s group h) (ht : ObservesNone t) :
    GroupWithdrawn s group (h ++ t) where
  gone := hwithdrawn.gone.append
  observed := by
    intro a ha
    obtain ⟨identity, hidentity⟩ := hwithdrawn.observed a ha
    exact ⟨identity, List.mem_append_left _ hidentity⟩
  cleaned := by
    intro a ha hlive
    obtain ⟨denied, hcleanup⟩ := hwithdrawn.cleaned a ha (observed_of_append hlive ht)
    exact ⟨denied, List.mem_append_left _ hcleanup⟩
  published := by
    obtain ⟨a, ha, hpublished⟩ := hwithdrawn.published
    exact ⟨a, ha, hpublished.mono fun _ => List.mem_append_left _⟩

theorem deleteAttachments_permitted (hwithdrawn : GroupWithdrawn s group h) :
    Allowed (Permitted s parsers group) h (each AgentDialogue.deleteOne attachments) := by
  refine allowed_each fun a _ t ht => allowed_request.mpr (Or.inl (hwithdrawn.append ?_))
  intro e he
  obtain ⟨b, -, piece, failure, hrun, hmem⟩ := ht e he
  rw [runs_request.mp hrun, List.mem_singleton] at hmem
  rw [hmem]
  rfl

theorem cleanup_observesNone {errs : List (Option String)}
    (hrun : Runs (each AgentDialogue.cleanupOne live) t errs) : ObservesNone t := by
  have hasks : Asks (observesNamespace · = false) (each AgentDialogue.cleanupOne live) := by
    refine asks_each fun a _ => asks_bind (asks_request.mpr rfl) fun ok => ?_
    split <;> exact asks_pure
  exact hasks.of_runs hrun

theorem quiet_observesNone {x : α} (hp : Asks (isQuiet · = true) p) (hrun : Runs p t x) :
    ObservesNone t :=
  fun e he => observesNamespace_of_quiet (hp.of_runs hrun e he)

/-- INTERNAL: **a group's withdrawal deletes its records last.** -/
theorem withdrawAttachmentGroup_permitted (hmem : ∀ a, a ∈ attachments ↔ a ∈ group)
    (hfirst : first ∈ group) (hgone : PodObservedGone s group h) (hh : ObservesNone h) :
    Allowed (Permitted s parsers group) h
      (AgentDialogue.withdrawAttachmentGroup s first.pod attachments) := by
  refine allowed_bind (liveAttachments_permitted _) fun t result hlive => ?_
  obtain ⟨live, classifyErr⟩ := result
  obtain ⟨hexactly, hobserved⟩ := runs_liveAttachments hlive
  cases classifyErr with
  | some err => exact allowed_pure
  | none =>
    refine allowed_bind (allowed_each fun a _ _ _ => cleanupOne_permitted a) ?_
    intro tclean errs hclean
    cases hok : joinErrors errs with
    | some err => exact allowed_pure
    | none =>
      have hcleaned := runs_cleanup hclean hok
      refine allowed_bind (quiet_permitted (reportWithdrawal_quiet _ _)) ?_
      intro treport result hreport
      cases result with
      | some err => exact allowed_pure
      | none =>
        have hnone : ObservesNone (tclean ++ treport) :=
          (cleanup_observesNone hclean).append
            (quiet_observesNone (reportWithdrawal_quiet _ _) hreport)
        have hpublished := (reportWithdrawal_reported [] _ _).of_runs hreport rfl
        have hwithdrawn : GroupWithdrawn s group (h ++ t ++ tclean ++ treport) := by
          refine ⟨?_, ?_, ?_, first, hfirst, ?_⟩
          · rw [List.append_assoc, List.append_assoc]
            exact hgone.append
          · intro a ha
            obtain ⟨identity, hidentity⟩ := hobserved rfl a ((hmem a).mpr ha)
            refine ⟨identity, ?_⟩
            simp only [Observed, List.mem_append] at hidentity ⊢
            exact Or.inl (Or.inl (Or.inr hidentity))
          · intro a ha halive
            have hmemLive : a ∈ live := by
              refine (hexactly a).mpr ⟨(hmem a).mpr ha, ?_⟩
              rw [List.append_assoc (h ++ t)] at halive
              exact observed_of_prepend (observed_of_append halive hnone) hh
            obtain ⟨denied, hcleanup⟩ := hcleaned a hmemLive
            exact ⟨denied, by simp [hcleanup]⟩
          · exact hpublished.mono fun _ => List.mem_append_right _
        refine allowed_bind (deleteAttachments_permitted hwithdrawn) fun _ errs _ => ?_
        split
        · exact allowed_pure
        · exact allowed_request_bind trivial fun _ => allowed_pure

/-! ## The exact Ready sandbox -/

section Current

variable {binding : VPNWorkloadBinding}

theorem SoleLive.append (hsole : SoleLive group h current) (ht : ObservesNone t) :
    SoleLive group (h ++ t) current where
  mem := hsole.mem
  live := List.mem_append_left _ hsole.live
  observed := by
    intro a ha
    obtain ⟨identity, hidentity⟩ := hsole.observed a ha
    exact ⟨identity, List.mem_append_left _ hidentity⟩
  sole := fun a ha hlive => hsole.sole a ha (observed_of_append hlive ht)

theorem ReadyFor.of_reference {binding' : VPNWorkloadBinding} (hready : ReadyFor h current binding)
    (hreference : NodeService.bindingReference binding' = NodeService.bindingReference binding)
    (hread : ∃ namespaceName podUID,
      (⟨.readBinding namespaceName podUID, .ok binding'⟩ : AgentExchange) ∈ t) :
    ReadyFor t current binding' where
  ready := hready.ready
  read := hread
  uid := (congrArg BindingReference.uid hreference).trans hready.uid
  gateway := (congrArg BindingReference.gatewayUID hreference).trans hready.gateway

theorem VerifiedCurrent.append (hverified : VerifiedCurrent parsers h current) :
    VerifiedCurrent parsers (h ++ t) current := by
  obtain ⟨binding, config, ⟨hready, ⟨namespaceName, podUID, hread⟩, huid, hgateway⟩, hconfig, hverify,
    hgeneration⟩ := hverified
  refine ⟨binding, config, ⟨hready, ⟨namespaceName, podUID, List.mem_append_left _ hread⟩, huid,
    hgateway⟩, hconfig, List.mem_append_left _ hverify, ?_⟩
  rcases hgeneration with hsame | ⟨now, hsaved⟩
  · exact Or.inl hsame
  · exact Or.inr ⟨now, List.mem_append_left _ hsaved⟩

theorem programCurrent_permitted (hsole : SoleLive group h current)
    (hready : ReadyFor h current binding) :
    Allowed (Permitted s parsers group) h (AgentDialogue.programCurrent s parsers current
      (NodeService.bindingReference binding)) := by
  refine programCurrent_authorizes.allowed (fun t r hr => ?_) fun t granted r ht hgrants hr => ?_
  · cases r <;> trivial
  cases hr with
  | now | observe _ | installLockdown | verify _ => trivial
  | @configure binding' config hgranted =>
    obtain ⟨hreference, hconfig, hread⟩ := (hgrants _ hgranted).binding
    obtain ⟨namespaceName, podUID, hread⟩ := hread
    refine ⟨current, binding', hsole.append ht, rfl, ?_, hconfig⟩
    exact hready.of_reference hreference
      ⟨namespaceName, podUID, List.mem_append_right _ hread⟩

theorem removeSuperseded_permitted (ha : a ∈ group) (hcurrent : current ∈ group)
    (hverified : VerifiedCurrent parsers h current) :
    Allowed (Permitted s parsers group) h (AgentDialogue.removeSuperseded current a) := by
  unfold AgentDialogue.removeSuperseded
  split
  · exact allowed_pure
  next hkey =>
  split
  · refine allowed_request_bind trivial fun now => ?_
    split
    · exact allowed_pure
    next hold =>
    refine allowed_request.mpr (Or.inr ⟨a, ha, current, hcurrent, rfl, Ne.symm hkey,
      hverified.append, fun _ => ⟨now, by simp, ?_⟩⟩)
    simpa using hold
  · next hphase =>
    exact allowed_request.mpr (Or.inr ⟨a, ha, current, hcurrent, rfl, Ne.symm hkey,
      hverified, fun hlocked => absurd hlocked hphase⟩)

theorem removeAllSuperseded_permitted (hmem : ∀ a, a ∈ attachments ↔ a ∈ group)
    (hcurrent : current ∈ group) (hverified : VerifiedCurrent parsers h current) :
    Allowed (Permitted s parsers group) h
      (AgentDialogue.removeAllSuperseded attachments current) := by
  refine allowed_bind (allowed_each fun a ha t _ => ?_) fun _ _ _ => allowed_pure
  exact removeSuperseded_permitted ((hmem a).mp ha) hcurrent hverified.append

theorem reconcileCurrent_permitted (hmem : ∀ a, a ∈ attachments ↔ a ∈ group)
    (hsole : SoleLive group h current) (hready : ReadyFor h current binding) :
    Allowed (Permitted s parsers group) h
      (AgentDialogue.reconcileCurrent s parsers attachments current binding) := by
  refine allowed_bind (programCurrent_permitted hsole hready) fun t result hrun => ?_
  cases result with
  | some err => exact allowed_bind (quiet_permitted (observe_quiet _ _)) fun _ _ _ => allowed_pure
  | none =>
    obtain ⟨binding', config, hgrants, hverify⟩ := programCurrent_authorizes.verified hrun
    obtain ⟨hreference, hconfig, namespaceName, podUID, hread⟩ := hgrants.binding
    have hgeneration : binding'.generation = binding.generation :=
      congrArg BindingReference.generation hreference
    have hready' (t' : List AgentExchange) : ReadyFor (h ++ t ++ t') current binding' :=
      hready.of_reference hreference ⟨namespaceName, podUID, by simp [hread]⟩
    dsimp only
    split
    · refine allowed_request_bind trivial fun now => ?_
      refine allowed_request_bind trivial fun failure => ?_
      cases failure with
      | some err =>
        refine allowed_bind (lockdownOne_permitted _) fun _ _ _ => ?_
        exact allowed_bind (quiet_permitted (observe_quiet _ _)) fun _ _ _ => allowed_pure
      | none =>
        refine removeAllSuperseded_permitted hmem hsole.mem ?_
        rw [List.append_assoc (h ++ t)]
        refine ⟨binding', config, hready' _, hconfig, by simp [hverify], Or.inr ⟨now, ?_⟩⟩
        rw [hgeneration]
        simp [NodeService.bindingReference]
    · next hsame =>
      refine removeAllSuperseded_permitted hmem hsole.mem ⟨binding', config, ?_, hconfig,
        by simp [hverify], Or.inl ?_⟩
      · simpa using hready' []
      · rw [hgeneration]
        exact not_not.mp hsame

theorem attachment_validate_ok (hvalid : a.validate = .ok ()) :
    a.pod.validate = .ok () ∧ (a.phase ≠ .lockedDown → a.phase = .ready) := by
  unfold Attachment.validate at hvalid
  split at hvalid
  · cases hvalid
  cases hpod : a.pod.validate with
  | error err =>
    rw [hpod] at hvalid
    cases hvalid
  | ok _ =>
    refine ⟨rfl, fun hphase => ?_⟩
    cases hcase : a.phase with
    | ready => rfl
    | lockedDown => exact absurd hcase hphase
    | other =>
      rw [hpod, hcase] at hvalid
      by_cases hidentity : a.namespaceIdentity = ""
      · simp [hidentity, Bind.bind, Except.bind, throw, throwThe, MonadExceptOf.throw] at hvalid
      · simp [hidentity, Bind.bind, Except.bind, throw, throwThe, MonadExceptOf.throw] at hvalid

theorem reconcileSandbox_permitted (hmem : ∀ a, a ∈ attachments ↔ a ∈ group)
    (hvalid : current.validate = .ok ()) (hsole : SoleLive group h current) :
    Allowed (Permitted s parsers group) h
      (AgentDialogue.reconcileSandbox s parsers canonical attachments current pod) := by
  unfold AgentDialogue.reconcileSandbox
  split
  · refine allowed_bind (quiet_permitted (observeNotReady_quiet _ _)) fun _ _ _ => ?_
    refine allowed_request_bind trivial fun now => ?_
    split
    · exact allowed_pure
    · exact lockdownOne_permitted current
  · next hphase =>
    refine allowed_bind (reads_permitted (binding_asks _)) fun t result hrun => ?_
    obtain ⟨read, rfl, rfl⟩ := runs_binding hrun
    cases hresult : s.binding read pod with
    | error err =>
      refine allowed_bind (lockdownOne_permitted current) fun _ _ _ => ?_
      exact allowed_bind (quiet_permitted (observeNotReady_quiet _ _)) fun _ _ _ => allowed_pure
    | ok =>
      dsimp only
      split
      · refine allowed_bind (lockdownOne_permitted current) fun _ _ _ => ?_
        exact allowed_bind (quiet_permitted (observe_quiet _ _)) fun _ _ _ => allowed_pure
      next hsame =>
      rw [not_or, not_not, not_not] at hsame
      obtain ⟨rfl, -⟩ := binding_ok hresult
      refine reconcileCurrent_permitted hmem (hsole.append ?_) ?_
      · intro e he
        rw [List.mem_singleton.mp he]
        rfl
      · exact ⟨(attachment_validate_ok hvalid).2 hphase,
          ⟨pod.namespaceName, pod.uid, by simp⟩, hsame.1, hsame.2⟩

theorem reconcileLive_permitted (hmem : ∀ a, a ∈ attachments ↔ a ∈ group)
    (hvalid : ∀ a ∈ group, a.validate = .ok ()) (hh : ObservesNone h) :
    Allowed (Permitted s parsers group) h
      (AgentDialogue.reconcileLive s parsers canonical attachments pod) := by
  refine allowed_bind (liveAttachments_permitted _) fun t result hrun => ?_
  obtain ⟨live, classifyErr⟩ := result
  obtain ⟨hexactly, hobserved⟩ := runs_liveAttachments hrun
  dsimp only
  split
  · refine allowed_bind (quiet_permitted (observeNotReady_quiet _ _)) fun _ _ _ => ?_
    exact allowed_bind (lockdownAttachments_permitted _) fun _ _ _ => allowed_pure
  · exact allowed_bind (quiet_permitted (observeNotReady_quiet _ _)) fun _ _ _ => allowed_pure
  · next current =>
    obtain ⟨hcurrent, hlive⟩ := (hexactly current).mp (by simp)
    have hgroup := (hmem current).mp hcurrent
    refine reconcileSandbox_permitted hmem (hvalid current hgroup) ⟨hgroup, ?_, ?_, ?_⟩
    · exact List.mem_append_right _ hlive
    · intro a ha
      obtain ⟨identity, hidentity⟩ := hobserved rfl a ((hmem a).mpr ha)
      exact ⟨identity, List.mem_append_right _ hidentity⟩
    · intro a ha halive
      have hmemLive := (hexactly a).mpr ⟨(hmem a).mpr ha, observed_of_prepend halive hh⟩
      simpa using hmemLive
  · refine allowed_bind (quiet_permitted (observeNotReady_quiet _ _)) fun _ _ _ => ?_
    exact allowed_bind (lockdownAttachments_permitted _) fun _ _ _ => allowed_pure

theorem mem_sortAttachments (a : Attachment) :
    a ∈ AgentDialogue.sortAttachments group ↔ a ∈ group :=
  List.mem_insertionSort _

/-- INTERNAL: **every configuration and every deletion of a group's reconcile is permitted.** -/
theorem reconcileAttachmentGroup_permitted (hvalid : ∀ a ∈ group, a.validate = .ok ()) :
    Allowed (Permitted s parsers group) []
      (AgentDialogue.reconcileAttachmentGroup s parsers group) := by
  have hmem : ∀ a, a ∈ AgentDialogue.sortAttachments group ↔ a ∈ group := mem_sortAttachments
  unfold AgentDialogue.reconcileAttachmentGroup
  split
  · exact allowed_pure
  next first rest hsort =>
  rw [hsort] at hmem
  have hfirst : first ∈ group := (hmem first).mp (by simp)
  dsimp only
  split
  · exact quarantineAttachmentGroup_permitted _ _
  refine allowed_bind (reads_permitted (pod_asks _)) fun t result hrun => ?_
  have ht : ObservesNone ([] ++ t) := fun e he =>
    observesNamespace_of_readsObject ((pod_asks _).of_runs hrun e he)
  have hread := runs_pod hrun
  cases result with
  | error err =>
    dsimp only
    split
    · next habsent =>
      refine withdrawAttachmentGroup_permitted hmem hfirst ?_ ht
      obtain ⟨read, rfl, hresult⟩ | ⟨-, err', herr', -⟩ := hread
      · exact ⟨first, hfirst, read, by simp, Or.inl ⟨err, hresult.symm, habsent⟩⟩
      · cases herr'
        cases habsent
    · exact allowed_bind (quiet_permitted (observeNotReady_quiet _ _)) fun _ _ _ => allowed_pure
  | ok pod =>
    obtain ⟨read, rfl, hresult⟩ | ⟨-, err', herr', -⟩ := hread
    swap
    · cases herr'
    dsimp only
    split
    · next hterminating =>
      refine withdrawAttachmentGroup_permitted hmem hfirst ?_ ht
      exact ⟨first, hfirst, read, by simp, Or.inr ⟨pod, hresult.symm, hterminating⟩⟩
    · exact reconcileLive_permitted hmem hvalid ht

end Current

/-! ## More than one live sandbox -/

/-- Calls that neither read the Pod nor configure a sandbox. -/
def closesOnly : AgentCall → Bool
  | .readPod _ _ => false
  | .configure _ _ => false
  | _ => true

/-- Every attachment that was observed live is locked down, and nothing is configured. -/
def LocksDown (attachments : List Attachment) (t : List AgentExchange) : Prop :=
  (∀ a ∈ attachments, Live t a → ∃ ok, (⟨.installLockdown a.pod, ok⟩ : AgentExchange) ∈ t) ∧
    ∀ e ∈ t, closesOnly e.1 = true

section Ambiguous

variable {err : Option String}

theorem closesOnly_of_quiet (hr : isQuiet r = true) : closesOnly r = true := by
  cases r <;> first | rfl | cases hr

theorem liveAttachments_closesOnly :
    Asks (closesOnly · = true) (AgentDialogue.liveAttachments attachments) := by
  refine (liveAttachments_asks attachments).mono fun r hr => ?_
  cases r <;> first | rfl | cases hr

theorem lockdownAttachments_asks : Asks (fun r => closesOnly r = true ∧ observesNamespace r = false)
      (AgentDialogue.lockdownAttachments live) := by
  refine asks_bind (asks_each fun a _ => asks_bind (asks_request.mpr ⟨rfl, rfl⟩) fun ok => ?_)
    fun _ => asks_pure
  cases ok <;> exact asks_pure

theorem withdrawAttachmentGroup_closesOnly : Asks (closesOnly · = true)
      (AgentDialogue.withdrawAttachmentGroup s canonical attachments) := by
  refine asks_bind liveAttachments_closesOnly fun result => ?_
  obtain ⟨live, classifyErr⟩ := result
  cases classifyErr with
  | some err => exact asks_pure
  | none =>
    refine asks_bind (asks_each fun a _ => asks_bind (asks_request.mpr rfl) fun ok => ?_) ?_
    · split <;> exact asks_pure
    intro errs
    split
    · exact asks_pure
    refine asks_bind ((reportWithdrawal_quiet _ _).mono fun _ => closesOnly_of_quiet) ?_
    intro result
    cases result with
    | some err => exact asks_pure
    | none =>
      refine asks_bind (asks_each fun a _ => asks_request.mpr rfl) fun errs => ?_
      split
      · exact asks_pure
      · exact asks_bind (asks_request.mpr rfl) fun _ => asks_pure

/-- INTERNAL: **live sandboxes that are not acted on are locked down**: the group is classified, what
follows reports only, and then every live sandbox is locked down. -/
theorem classified_locked {f : AgentDialogue α} {g : Option String → Option String}
    {classifyErr : Option String}
    (hlive : Runs (AgentDialogue.liveAttachments attachments) t (live, classifyErr))
    (hf : Asks (isQuiet · = true) f)
    (hrest : Runs (do
      let _ ← f
      let lockErr ← AgentDialogue.lockdownAttachments live
      return g lockErr) t' err) : LocksDown attachments (t ++ t') := by
  obtain ⟨_, tquiet, rest, rfl, hquiet, hrest⟩ := runs_bind.mp hrest
  obtain ⟨lockErr, tlock, last, rfl, hlock, hlast⟩ := runs_bind.mp hrest
  obtain ⟨rfl, -⟩ := runs_pure.mp hlast
  rw [List.append_nil]
  have hquietAsks := hf.of_runs hquiet
  have hlockAsks := lockdownAttachments_asks.of_runs hlock
  constructor
  · intro a ha halive
    have hnone : ObservesNone (tquiet ++ tlock) :=
      (quiet_observesNone hf hquiet).append fun e he => (hlockAsks e he).2
    have hmem := ((runs_liveAttachments hlive).1 a).mpr ⟨ha, observed_of_append halive hnone⟩
    obtain ⟨ok, hlocked⟩ := runs_lockdownAttachments hlock a hmem
    exact ⟨ok, by simp [hlocked]⟩
  · intro e he
    simp only [List.mem_append] at he
    rcases he with he | he | he
    · exact liveAttachments_closesOnly.of_runs hlive e he
    · exact closesOnly_of_quiet (hquietAsks e he)
    · exact (hlockAsks e he).1

theorem quarantineAttachmentGroup_locked {cause : String}
    (hrun : Runs (AgentDialogue.quarantineAttachmentGroup s attachments cause) t err) :
    LocksDown attachments t := by
  obtain ⟨⟨live, classifyErr⟩, tlive, rest, rfl, hlive, hrest⟩ := runs_bind.mp hrun
  have hquiet := asks_each fun a (_ : a ∈ attachments) =>
    observeNotReady_quiet (s := s) a.pod.namespaceName a.pod.uid
  exact classified_locked hlive hquiet hrest

theorem programCurrent_observesNone {requested : BindingReference} :
    Asks (observesNamespace · = false)
      (AgentDialogue.programCurrent s parsers current requested) := by
  unfold AgentDialogue.programCurrent
  split
  · exact asks_bind ((authority_asks _ _).mono fun _ => observesNamespace_of_readsObject)
      fun granted => (prepareGranted_asks granted).mono fun _ => ProgramsPath.observesNamespace
  · exact asks_bind ((authority_asks _ _).mono fun _ => observesNamespace_of_readsObject)
      fun granted => (checkGranted_asks granted).mono fun _ => ProgramsPath.observesNamespace

theorem lockdownOne_observesNone (a : Attachment) :
    Asks (observesNamespace · = false) (AgentDialogue.lockdownOne a) := by
  refine asks_bind (asks_request.mpr rfl) fun ok => ?_
  cases ok <;> exact asks_pure

theorem removeAllSuperseded_observesNone : Asks (observesNamespace · = false)
      (AgentDialogue.removeAllSuperseded attachments current) := by
  refine asks_bind (asks_each fun a _ => ?_) fun _ => asks_pure
  unfold AgentDialogue.removeSuperseded
  split
  · exact asks_pure
  split
  · refine asks_bind (asks_request.mpr rfl) fun now => ?_
    split
    · exact asks_pure
    · exact asks_request.mpr rfl
  · exact asks_request.mpr rfl

theorem reconcileSandbox_observesNone : Asks (observesNamespace · = false)
      (AgentDialogue.reconcileSandbox s parsers canonical attachments current pod) := by
  have hnotReady := (observeNotReady_quiet (s := s) canonical.namespaceName canonical.uid).mono
    fun _ => observesNamespace_of_quiet
  have hobserve (binding : VPNWorkloadBinding) :=
    (observe_quiet (s := s) binding false).mono fun _ => observesNamespace_of_quiet
  unfold AgentDialogue.reconcileSandbox
  split
  · refine asks_bind hnotReady fun _ => asks_bind (asks_request.mpr rfl) fun now => ?_
    split
    · exact asks_pure
    · exact lockdownOne_observesNone current
  · refine asks_bind ((binding_asks _).mono fun _ => observesNamespace_of_readsObject) ?_
    intro result
    cases result with
    | error err =>
      refine asks_bind (lockdownOne_observesNone current) fun _ => ?_
      exact asks_bind hnotReady fun _ => asks_pure
    | ok binding =>
      dsimp only
      split
      · refine asks_bind (lockdownOne_observesNone current) fun _ => ?_
        exact asks_bind (hobserve binding) fun _ => asks_pure
      refine asks_bind programCurrent_observesNone fun result => ?_
      cases result with
      | some err => exact asks_bind (hobserve binding) fun _ => asks_pure
      | none =>
        dsimp only
        split
        · refine asks_bind (asks_request.mpr rfl) fun now => ?_
          refine asks_bind (asks_request.mpr rfl) fun failure => ?_
          cases failure with
          | none => exact removeAllSuperseded_observesNone
          | some err =>
            refine asks_bind (lockdownOne_observesNone current) fun _ => ?_
            exact asks_bind (hobserve binding) fun _ => asks_pure
        · exact removeAllSuperseded_observesNone

theorem reconcileLive_locked {b : Attachment}
    (hrun : Runs (AgentDialogue.reconcileLive s parsers canonical attachments pod) t err)
    (ha : a ∈ attachments) (hb : b ∈ attachments) (hne : a ≠ b) (halive : Live t a)
    (hblive : Live t b) : LocksDown attachments t := by
  obtain ⟨⟨live, classifyErr⟩, tlive, rest, rfl, hlive, hrest⟩ := runs_bind.mp hrun
  have hexactly := (runs_liveAttachments hlive).1
  have hquiet := observeNotReady_quiet (s := s) canonical.namespaceName canonical.uid
  dsimp only at hrest
  split at hrest
  · exact classified_locked hlive hquiet hrest
  · -- nothing is observed after the classification, which found nothing live
    exfalso
    have hnone : ObservesNone rest := by
      obtain ⟨_, first, last, rfl, hfirst, hlast⟩ := runs_bind.mp hrest
      obtain ⟨rfl, -⟩ := runs_pure.mp hlast
      simpa using quiet_observesNone hquiet hfirst
    simpa using (hexactly a).mpr ⟨ha, observed_of_append halive hnone⟩
  · next current =>
    exfalso
    have hnone : ObservesNone rest := reconcileSandbox_observesNone.of_runs hrest
    have hacurrent := (hexactly a).mpr ⟨ha, observed_of_append halive hnone⟩
    have hbcurrent := (hexactly b).mpr ⟨hb, observed_of_append hblive hnone⟩
    rw [List.mem_singleton] at hacurrent hbcurrent
    exact hne (hacurrent.trans hbcurrent.symm)
  · exact classified_locked hlive hquiet hrest

theorem pod_congr {read : Except ReadError Pod} {identity identity' : PodIdentity}
    (hvalid : identity.validate = .ok ()) (hvalid' : identity'.validate = .ok ())
    (huid : identity.uid = identity'.uid) : s.pod read identity = s.pod read identity' := by
  simp only [NodeService.pod, hvalid, hvalid', huid]

theorem podObservedThere_run {tpod rest : List AgentExchange} {result : Except AgentError Pod}
    (hvalid : ∀ a ∈ group, a.validate = .ok ()) (huid : ∀ a ∈ group, a.pod.uid = first.pod.uid)
    (hfirst : first ∈ group) (hpod : Runs (AgentDialogue.pod s first.pod) tpod result)
    (hrest : ∀ e ∈ rest, ∀ namespaceName name, e.1 ≠ .readPod namespaceName name)
    (hthere : PodObservedThere s group (tpod ++ rest)) :
    ∃ pod, result = .ok pod ∧ pod.deletionTimestamp = none := by
  obtain ⟨a, ha, read, pod, hread, hok, hstays⟩ := hthere
  have hmem : (⟨.readPod a.pod.namespaceName a.pod.name, read⟩ : AgentExchange) ∈ tpod := by
    rcases List.mem_append.mp hread with hmem | hmem
    · exact hmem
    · exact absurd rfl (hrest _ hmem _ _)
  refine ⟨pod, ?_, hstays⟩
  rcases runs_pod hpod with ⟨read', rfl, rfl⟩ | ⟨rfl, -⟩
  · simp only [List.mem_singleton, Sigma.mk.injEq, AgentCall.readPod.injEq] at hmem
    cases eq_of_heq hmem.2
    rw [← hok]
    exact pod_congr (attachment_validate_ok (hvalid first hfirst)).1
      (attachment_validate_ok (hvalid a ha)).1 (huid a ha).symm
  · cases hmem

theorem agree_of_not_any {rest : List Attachment} (hmem : ∀ a, a ∈ first :: rest ↔ a ∈ group)
    (hagree : ¬ (rest.any fun attachment =>
      attachment.pod.namespaceName != first.pod.namespaceName ||
        attachment.pod.name != first.pod.name) = true) : ¬ RecordsDisagree group := by
  have hsame (a : Attachment) (ha : a ∈ group) :
      a.pod.namespaceName = first.pod.namespaceName ∧ a.pod.name = first.pod.name := by
    rcases List.mem_cons.mp ((hmem a).mpr ha) with rfl | hrest
    · exact ⟨rfl, rfl⟩
    · simp only [List.any_eq_true, not_exists, not_and, Bool.or_eq_true, bne_iff_ne, not_or,
        not_not] at hagree
      exact hagree a hrest
  rintro ⟨a, ha, b, hb, hnamespace | hname⟩
  · exact hnamespace ((hsame a ha).1.trans (hsame b hb).1.symm)
  · exact hname ((hsame a ha).2.trans (hsame b hb).2.symm)

/-- INTERNAL: **an ambiguous group is locked down and not configured.** -/
theorem reconcileAttachmentGroup_locked (hvalid : ∀ a ∈ group, a.validate = .ok ())
    (huid : ∀ a ∈ group, ∀ b ∈ group, a.pod.uid = b.pod.uid)
    (hrun : Runs (AgentDialogue.reconcileAttachmentGroup s parsers group) t err)
    (hambiguous : (PodObservedThere s group t ∧
      ∃ a ∈ group, ∃ b ∈ group, a ≠ b ∧ Live t a ∧ Live t b) ∨ RecordsDisagree group) :
    (∀ a ∈ group, Live t a → ∃ ok, (⟨.installLockdown a.pod, ok⟩ : AgentExchange) ∈ t) ∧
      ∀ e ∈ t, ∀ pod config, e.1 ≠ .configure pod config := by
  have hnot {l : List AgentExchange} {call : AgentCall} (hl : ∀ e ∈ l, closesOnly e.1 = true)
      (hcall : closesOnly call = false) : ∀ e ∈ l, e.1 ≠ call := by
    rintro e he rfl
    rw [hl e he] at hcall
    cases hcall
  have hmem : ∀ a, a ∈ AgentDialogue.sortAttachments group ↔ a ∈ group := mem_sortAttachments
  unfold AgentDialogue.reconcileAttachmentGroup at hrun
  split at hrun
  · next hsort =>
    rw [hsort] at hmem
    exfalso
    rcases hambiguous with ⟨⟨a, ha, -⟩, -⟩ | ⟨a, ha, -⟩
    · cases (hmem a).mpr ha
    · cases (hmem a).mpr ha
  · next first rest hsort =>
    rw [hsort] at hmem
    have hfirst : first ∈ group := (hmem first).mp (by simp)
    dsimp only at hrun
    split at hrun
    · obtain ⟨hlocked, hcloses⟩ := quarantineAttachmentGroup_locked hrun
      exact ⟨fun a ha => hlocked a ((hmem a).mpr ha), fun e he _ _ => hnot hcloses rfl e he⟩
    next hagree =>
    obtain ⟨hthere, a, ha, b, hb, hne, halive, hblive⟩ :=
      hambiguous.resolve_right (agree_of_not_any hmem hagree)
    obtain ⟨result, tpod, trest, rfl, hpod, hrest⟩ := runs_bind.mp hrun
    have hpodNone : ObservesNone tpod := fun e he =>
      observesNamespace_of_readsObject ((pod_asks _).of_runs hpod e he)
    have hresult (hcloses : ∀ e ∈ trest, closesOnly e.1 = true) :=
      podObservedThere_run hvalid (fun a ha => huid a ha first hfirst) hfirst hpod
        (fun e he _ _ => hnot hcloses rfl e he) hthere
    cases result with
    | error podErr =>
      exfalso
      dsimp only at hrest
      split at hrest
      · obtain ⟨pod, habsurd, -⟩ :=
          hresult (withdrawAttachmentGroup_closesOnly.of_runs hrest)
        cases habsurd
      have hquiet := asks_bind (observeNotReady_quiet (s := s) first.pod.namespaceName
        first.pod.uid) fun _ => asks_pure (a := some podErr.text)
      obtain ⟨pod, habsurd, -⟩ := hresult fun e he =>
        closesOnly_of_quiet (hquiet.of_runs hrest e he)
      cases habsurd
    | ok pod =>
      dsimp only at hrest
      split at hrest
      · next hterminating =>
        exfalso
        obtain ⟨pod', hsame, hstays⟩ :=
          hresult (withdrawAttachmentGroup_closesOnly.of_runs hrest)
        cases hsame
        rw [hstays] at hterminating
        cases hterminating
      · obtain ⟨hlocked, hcloses⟩ := reconcileLive_locked hrest ((hmem a).mpr ha)
          ((hmem b).mpr hb) hne (observed_of_prepend halive hpodNone)
          (observed_of_prepend hblive hpodNone)
        refine ⟨fun c hc hclive => ?_, fun e he => ?_⟩
        · obtain ⟨ok, hlockdown⟩ := hlocked c ((hmem c).mpr hc)
            (observed_of_prepend hclive hpodNone)
          exact ⟨ok, List.mem_append_right _ hlockdown⟩
        rcases List.mem_append.mp he with he | he
        · intro pod config hconfigure
          have hreads := (pod_asks _).of_runs hpod e he
          rw [hconfigure] at hreads
          cases hreads
        · exact fun _ _ => hnot hcloses rfl e he

theorem configured_one {before before' : List AgentExchange} {pod pod' : PodIdentity}
    {config config' : Config} (h : MayConfigure parsers group before pod config)
    (h' : MayConfigure parsers group before' pod' config') (hsub : ∀ e ∈ before, e ∈ before') :
    pod = pod' := by
  obtain ⟨current, binding, hsole, rfl, -⟩ := h
  obtain ⟨current', binding', hsole', rfl, -⟩ := h'
  rw [hsole'.sole current hsole.mem (hsub _ hsole.live)]

end Ambiguous

/-- **One open sandbox for each Pod, and no premature loss of a record.** For every set of durable
attachments of one Pod UID and whatever every call is answered: a sandbox is configured only as the
sole live one with a Ready record for the binding, and at most one is; several live sandboxes of a
live Pod, or records that disagree on the Pod, are all locked down and none is configured; and a
record is deleted only after the withdrawal of the group or once another Ready sandbox was verified.
-/
theorem group_reconciled_safely (s : NodeService) (parsers : NetworkParsers)
    (group : List Attachment) (hdurable : ∀ a ∈ group, a.validate = .ok ())
    (huid : ∀ a ∈ group, ∀ b ∈ group, a.pod.uid = b.pod.uid) {t : List AgentExchange}
    {err : Option String}
    (hrun : Runs (AgentDialogue.reconcileAttachmentGroup s parsers group) t err) :
    GroupReconciledSafely s parsers group t := by
  have hpermitted : Allowed (Permitted s parsers group) []
      (AgentDialogue.reconcileAttachmentGroup s parsers group) :=
    reconcileAttachmentGroup_permitted hdurable
  have hconfigured (before : List AgentExchange) (pod : PodIdentity) (config : Config) (ok : Bool)
      (after : List AgentExchange) (ht : t = before ++ ⟨.configure pod config, ok⟩ :: after) :
      MayConfigure parsers group before pod config := hpermitted.of_runs hrun ht
  refine ⟨hconfigured, ?_, fun hambiguous => ?_, fun before key failure after ht =>
    hpermitted.of_runs hrun ht⟩
  · intro pod config ok pod' config' ok' hmem hmem'
    obtain ⟨before, after, ht⟩ := List.append_of_mem hmem
    obtain ⟨before', after', ht'⟩ := List.append_of_mem hmem'
    have hmay := hconfigured _ _ _ _ _ ht
    have hmay' := hconfigured _ _ _ _ _ ht'
    rcases List.append_eq_append_iff.mp (ht.symm.trans ht') with ⟨middle, rfl, -⟩ | ⟨middle, rfl, -⟩
    · exact configured_one hmay hmay' fun _ => List.mem_append_left _
    · exact (configured_one hmay' hmay fun _ => List.mem_append_left _).symm
  · obtain ⟨hlocked, hnone⟩ := reconcileAttachmentGroup_locked hdurable huid hrun hambiguous
    exact ⟨hlocked, fun pod config ok hmem => hnone _ hmem pod config rfl⟩

/-- Reads and calls that succeed, after a restart that lost the policy. -/
def restartedAnswers (h : List AgentExchange) : (r : AgentCall) → r.Answer
  | .ready | .installLockdown _ | .configure _ _ => true
  | .now => 100 * second
  | .listAttachments | .listBindings => .ok []
  | .saveAttachment _ | .deleteAttachment _ | .publish _ => none
  | .identity a => .ok (attachedNode.namespaces a.pod.netNS)
  | .verify _ _ => h.any fun e => match e.1 with
    | .configure _ _ => true
    | _ => false
  | .cleanup _ => (true, true)
  | .readPod _ _ => .ok agentPod
  | .readBinding _ _ => .ok (agentBinding 1)
  | .observe _ | .forget _ => ()

/-- An older attempt of the same Pod, whose sandbox is gone. -/
def olderAttempt : Attachment :=
  { agentAttachment .lockedDown with
    pod := { agentSandbox with containerID := "older", netNS := "/run/netns/older" } }

/-- The one live sandbox is configured anew, and the record of the older attempt is deleted. -/
theorem group_reconciled_safely_restarted :
    ∃ t err, Runs (AgentDialogue.reconcileAttachmentGroup (agentService false) agentParsers
        [agentAttachment .ready, olderAttempt]) t err ∧
      .program (.configure agentSandbox.netNS (agentConfig 1) true) ∈ t.filterMap performed ∧
      .delete olderAttempt.key ∈ t.filterMap performed ∧
      GroupReconciledSafely (agentService false) agentParsers
        [agentAttachment .ready, olderAttempt] t := by
  have hrun := runs_play restartedAnswers [] (AgentDialogue.reconcileAttachmentGroup
    (agentService false) agentParsers [agentAttachment .ready, olderAttempt])
  exact ⟨_, _, hrun, by decide +kernel, by decide +kernel,
    group_reconciled_safely (agentService false) agentParsers
      [agentAttachment .ready, olderAttempt] (by decide +kernel) (by decide +kernel) hrun⟩

end Waycloak.Analysis
