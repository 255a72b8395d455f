import Waycloak.Interface.DialogueScripts
import Waycloak.Analysis.TransitionDeny

/-!
# Which sandbox the node agent programs

A network-namespace path may name another sandbox at every call, so the agent may program a path
only after it has seen, in the same operation, the recorded namespace under it. `LockdownAll`,
`Withdraw` and `ReconcileAll` read the store and observe the namespace first. `Prepare` and `Check`
take the path from the request: they neither read the store nor observe the namespace, so a run of
theirs is right only if it programs nothing.
-/

set_option autoImplicit false

namespace Waycloak.Analysis

open Waycloak.Model Waycloak.Interface Waycloak.Computation Waycloak.Computation.Dialogue

variable {α : Type} {p : AgentDialogue (Option String)}
variable {pod identity : PodIdentity} {requested : BindingReference}
  {f : Except AgentError (VPNWorkloadBinding × Config) → AgentDialogue (Option String)}
  {t : List AgentExchange} {err : Option String} {s : NodeService} {parsers : NetworkParsers}

/-! ## The property -/

/-- The attachment is one of those the store has answered. -/
def Stored (h : List AgentExchange) (a : Attachment) : Prop :=
  ∃ stored : List Attachment, (⟨.listAttachments, .ok stored⟩ : AgentExchange) ∈ h ∧ a ∈ stored

/-- **The exact recorded sandbox was observed**: a stored attachment with exactly this namespace,
name, UID and path, whose path was observed to name its recorded namespace. -/
def ExactlyObserved (h : List AgentExchange) (pod : PodIdentity) : Prop :=
  ∃ a, Stored h a ∧ a.pod.namespaceName = pod.namespaceName ∧ a.pod.name = pod.name ∧
    a.pod.uid = pod.uid ∧ a.pod.netNS = pod.netNS ∧ Live h a

/-- A call that programs a path comes after the observation of its exact sandbox. -/
def ProgramsExactly (h : List AgentExchange) (r : AgentCall) : Prop :=
  ∀ pod, programs r = some pod → ExactlyObserved h pod

/-- Every call of the run that programs a path does so. -/
def OnlyExactSandboxes (t : List AgentExchange) : Prop :=
  ∀ before r x after, t = before ++ ⟨r, x⟩ :: after → ProgramsExactly before r

/-- **The answers with which a request makes the agent program its path.** `Prepare` does when the
agent is ready and the API grants the request; `Check` does when the agent is not ready, when the
API does not grant the request, and when the path does not verify. -/
def MakesAgentProgram (s : NodeService) (parsers : NetworkParsers) :
    AgentOperation → List AgentExchange → Prop
  | .prepare identity requested, t =>
    (⟨.ready, true⟩ : AgentExchange) ∈ t ∧ ∃ granted, Grants s parsers identity requested t granted
  | .check identity requested, t =>
    (⟨.ready, false⟩ : AgentExchange) ∈ t ∨
      (¬ ∃ granted, Grants s parsers identity requested t granted) ∨
      ∃ config, (⟨.verify identity config, false⟩ : AgentExchange) ∈ t
  | _, _ => False

/-! ## Operations that observe the sandbox

For each operation a lemma `…_exactly`: after a history in which its attachments are stored, or
already observed, it programs exactly observed sandboxes only. -/

section Observing

variable {h : List AgentExchange} {a : Attachment}

/-- INTERNAL: what the store has answered stays answered. -/
theorem Stored.append (ha : Stored h a) : Stored (h ++ t) a := by
  obtain ⟨stored, hlist, ha⟩ := ha
  exact ⟨stored, List.mem_append_left _ hlist, ha⟩

/-- INTERNAL: a stored attachment seen live is exactly observed. -/
theorem exactlyObserved_of_live (ha : Stored h a) (hlive : Live h a) : ExactlyObserved h a.pod :=
  ⟨a, ha, rfl, rfl, rfl, rfl, hlive⟩

/-- INTERNAL: an observation stays one. -/
theorem ExactlyObserved.append (hpod : ExactlyObserved h pod) : ExactlyObserved (h ++ t) pod := by
  obtain ⟨a, ha, hnamespace, hname, huid, hpath, hlive⟩ := hpod
  exact ⟨a, ha.append, hnamespace, hname, huid, hpath, List.mem_append_left _ hlive⟩

/-- INTERNAL: a dialogue that programs nothing is exact. -/
theorem silent_exactly {p : AgentDialogue α} (hp : Asks (programs · = none) p) :
    Allowed ProgramsExactly h p := by
  refine hp.allowed fun t r _ hr pod hpod => ?_
  rw [hr] at hpod
  cases hpod

/-- INTERNAL: reports are exact. -/
theorem quiet_exactly {p : AgentDialogue α} (hp : Asks (isQuiet · = true) p) :
    Allowed ProgramsExactly h p :=
  silent_exactly (hp.mono fun _ => programs_of_quiet)

/-- INTERNAL: reads are exact. -/
theorem reads_exactly {p : AgentDialogue α} (hp : Asks (readsObject · = true) p) :
    Allowed ProgramsExactly h p :=
  silent_exactly (hp.mono fun _ => programs_of_readsObject)

/-- INTERNAL: the classification of a group is exact. -/
theorem liveAttachments_exactly (attachments : List Attachment) :
    Allowed ProgramsExactly h (AgentDialogue.liveAttachments attachments) :=
  silent_exactly ((liveAttachments_asks attachments).mono fun _ => programs_of_observesNamespace)

/-- INTERNAL: a call for an observed sandbox is exact. -/
theorem exactly_of_observed {r : AgentCall} (hpod : ExactlyObserved h pod)
    (hr : ∀ pod', programs r = some pod' → pod' = pod) : ProgramsExactly h r := by
  intro pod' hpod'
  rw [hr pod' hpod']
  exact hpod

theorem lockdownOne_exactly (ha : ExactlyObserved h a.pod) :
    Allowed ProgramsExactly h (AgentDialogue.lockdownOne a) := by
  refine allowed_request_bind (exactly_of_observed ha fun _ hpod => (Option.some.inj hpod).symm) ?_
  intro ok
  cases ok <;> exact allowed_pure

theorem cleanupOne_exactly (ha : ExactlyObserved h a.pod) :
    Allowed ProgramsExactly h (AgentDialogue.cleanupOne a) := by
  refine allowed_request_bind (exactly_of_observed ha fun _ hpod => (Option.some.inj hpod).symm) ?_
  intro ok
  split <;> exact allowed_pure

/-- INTERNAL: `LockdownAll` observes each namespace before it acts there. -/
theorem lockdownAttachment_exactly (ha : Stored h a) :
    Allowed ProgramsExactly h (AgentDialogue.lockdownAttachment s a) := by
  refine allowed_request_bind nofun fun observed => ?_
  split
  · exact allowed_pure
  next identity =>
  split
  · exact allowed_pure
  next hidentity =>
  rw [not_ne_iff] at hidentity
  subst hidentity
  have hlive : Live (h ++ [⟨.identity a, .ok (some a.namespaceIdentity)⟩]) a := by
    simp [Live, Observed]
  have hexact := exactlyObserved_of_live ha.append hlive
  refine allowed_request_bind
    (exactly_of_observed hexact fun _ hpod => (Option.some.inj hpod).symm) fun ok => ?_
  cases ok with
  | false => exact allowed_pure
  | true =>
    refine allowed_bind (quiet_exactly (observeNotReady_quiet _ _)) fun _ _ _ => ?_
    exact allowed_pure

/-- INTERNAL: **`LockdownAll` is exact.** -/
theorem lockdownAll_exactly : Allowed ProgramsExactly h (AgentDialogue.lockdownAll s) := by
  refine allowed_request_bind nofun fun listed => ?_
  cases listed with
  | error err => exact allowed_pure
  | ok stored =>
    refine allowed_bind (allowed_each fun a ha t _ => ?_) fun _ _ _ => ?_
    · have hstored : Stored (h ++ [⟨.listAttachments, .ok stored⟩]) a := ⟨stored, by simp, ha⟩
      exact lockdownAttachment_exactly hstored.append
    · exact allowed_bind (quiet_exactly observeNodeBindings_quiet) fun _ _ _ => allowed_pure

/-- INTERNAL: closing an observed sandbox is exact. -/
theorem closeSandbox_exactly (ha : ExactlyObserved h a.pod) (gone : Bool) :
    Allowed ProgramsExactly h (AgentDialogue.closeSandbox a gone) := by
  unfold AgentDialogue.closeSandbox
  split
  · refine allowed_request_bind
      (exactly_of_observed ha fun _ hpod => (Option.some.inj hpod).symm) fun ok => ?_
    split <;> exact allowed_pure
  · refine allowed_request_bind
      (exactly_of_observed ha fun _ hpod => (Option.some.inj hpod).symm) fun ok => ?_
    split <;> exact allowed_pure

/-- INTERNAL: a withdrawal observes the namespace before it closes the sandbox. -/
theorem withdrawSandbox_exactly (ha : Stored h a) (gone : Bool) :
    Allowed ProgramsExactly h (AgentDialogue.withdrawSandbox a gone) := by
  refine allowed_request_bind nofun fun observed => ?_
  split
  · exact allowed_pure
  next identity =>
  split
  · exact allowed_pure
  next hidentity =>
  rw [not_ne_iff] at hidentity
  subst hidentity
  have hlive : Live (h ++ [⟨.identity a, .ok (some a.namespaceIdentity)⟩]) a := by
    simp [Live, Observed]
  exact closeSandbox_exactly (exactlyObserved_of_live ha.append hlive) gone

theorem withdrawKnown_exactly (ha : Stored h a) (gone : Bool) :
    Allowed ProgramsExactly h (AgentDialogue.withdrawKnown s a gone) := by
  refine allowed_bind (withdrawSandbox_exactly ha gone) fun _ result _ => ?_
  cases result with
  | some err => exact allowed_pure
  | none =>
    refine allowed_bind (quiet_exactly (reportWithdrawal_quiet _ _)) fun _ result _ => ?_
    cases result with
    | some err => exact allowed_pure
    | none => exact allowed_request_bind nofun fun _ => allowed_pure

/-- INTERNAL: a withdrawal reads the Pod first, which programs nothing. -/
theorem withdrawAttachment_exactly (ha : Stored h a) :
    Allowed ProgramsExactly h (AgentDialogue.withdrawAttachment s a) := by
  refine allowed_bind (reads_exactly (pod_asks _)) fun t pod _ => ?_
  cases pod with
  | ok pod => exact withdrawKnown_exactly ha.append _
  | error err =>
    dsimp only
    split
    · exact withdrawKnown_exactly ha.append true
    · exact allowed_pure

/-- INTERNAL: **`Withdraw` is exact.** -/
theorem withdraw_exactly (identity : PodIdentity) :
    Allowed ProgramsExactly h (AgentDialogue.withdraw s identity) := by
  unfold AgentDialogue.withdraw
  split
  · exact allowed_pure
  refine allowed_request_bind nofun fun listed => ?_
  cases listed with
  | error err => exact allowed_pure
  | ok stored =>
    dsimp only
    split
    · exact allowed_pure
    next a hfind =>
    have hstored : Stored (h ++ [⟨.listAttachments, .ok stored⟩]) a :=
      ⟨stored, by simp, List.mem_of_find?_eq_some hfind⟩
    exact withdrawAttachment_exactly hstored

/-! ### Groups -/

variable {attachments live : List Attachment} {current : Attachment}

/-- INTERNAL: sandboxes classified as live are observed, and stay so. -/
theorem live_exactlyObserved {classifyErr : Option String} (hstored : ∀ a ∈ attachments, Stored h a)
    (hrun : Runs (AgentDialogue.liveAttachments attachments) t (live, classifyErr)) :
    ∀ a ∈ live, ∀ t', ExactlyObserved (h ++ t ++ t') a.pod := by
  intro a ha t'
  obtain ⟨hmem, hlive⟩ := ((runs_liveAttachments hrun).1 a).mp ha
  exact (exactlyObserved_of_live (hstored a hmem).append (List.mem_append_right h hlive)).append

theorem lockdownAttachments_exactly (hlive : ∀ a ∈ live, ∀ t, ExactlyObserved (h ++ t) a.pod) :
    Allowed ProgramsExactly h (AgentDialogue.lockdownAttachments live) :=
  allowed_bind (allowed_each fun a ha t _ => lockdownOne_exactly (hlive a ha t)) fun _ _ _ =>
    allowed_pure

theorem quarantineAttachmentGroup_exactly (hstored : ∀ a ∈ attachments, Stored h a)
    (cause : String) :
    Allowed ProgramsExactly h (AgentDialogue.quarantineAttachmentGroup s attachments cause) := by
  refine allowed_bind (liveAttachments_exactly _) fun t result hrun => ?_
  obtain ⟨live, classifyErr⟩ := result
  have hlive := live_exactlyObserved hstored hrun
  refine allowed_bind (allowed_each fun a _ t _ => quiet_exactly (observeNotReady_quiet _ _)) ?_
  intro t' _ _
  refine allowed_bind (lockdownAttachments_exactly fun a ha t'' => ?_) fun _ _ _ => allowed_pure
  rw [List.append_assoc]
  exact hlive a ha (t' ++ t'')

theorem withdrawAttachmentGroup_exactly (hstored : ∀ a ∈ attachments, Stored h a)
    (canonical : PodIdentity) :
    Allowed ProgramsExactly h (AgentDialogue.withdrawAttachmentGroup s canonical attachments) := by
  refine allowed_bind (liveAttachments_exactly _) fun t result hrun => ?_
  obtain ⟨live, classifyErr⟩ := result
  have hlive := live_exactlyObserved hstored hrun
  cases classifyErr with
  | some err => exact allowed_pure
  | none =>
    refine allowed_bind (allowed_each fun a ha t' _ => cleanupOne_exactly (hlive a ha t')) ?_
    intro _ errs _
    split
    · exact allowed_pure
    refine allowed_bind (quiet_exactly (reportWithdrawal_quiet _ _)) fun _ result _ => ?_
    cases result with
    | some err => exact allowed_pure
    | none =>
      refine allowed_bind (allowed_each fun a _ t _ => allowed_request.mpr nofun) ?_
      intro _ errs _
      split
      · exact allowed_pure
      · exact allowed_request_bind nofun fun _ => allowed_pure

/-- INTERNAL: removing a superseded record programs nothing. -/
theorem removeSuperseded_silent (a : Attachment) :
    Asks (programs · = none) (AgentDialogue.removeSuperseded current a) := by
  unfold AgentDialogue.removeSuperseded
  split
  · exact asks_pure
  split
  · refine asks_bind (asks_request.mpr rfl) fun now => ?_
    split
    · exact asks_pure
    · exact asks_request.mpr rfl
  · exact asks_request.mpr rfl

/-- INTERNAL: programming an observed sandbox is exact. -/
theorem authorizes_exactly (hp : Authorizes s parsers identity requested p)
    (hexact : ∀ t, ExactlyObserved (h ++ t) identity) : Allowed ProgramsExactly h p := by
  refine hp.allowed (fun t r hr => ?_) fun t granted r _ _ hr => ?_
  · intro pod hpod
    rw [programs_of_readsObject hr] at hpod
    cases hpod
  · exact exactly_of_observed (hexact t) fun _ => hr.programs

theorem removeAllSuperseded_exactly :
    Allowed ProgramsExactly h (AgentDialogue.removeAllSuperseded attachments current) :=
  silent_exactly (asks_bind (asks_each fun a _ => removeSuperseded_silent a) fun _ => asks_pure)

theorem reconcileCurrent_exactly (hexact : ∀ t, ExactlyObserved (h ++ t) current.pod)
    (binding : VPNWorkloadBinding) :
    Allowed ProgramsExactly h
      (AgentDialogue.reconcileCurrent s parsers attachments current binding) := by
  refine allowed_bind (authorizes_exactly programCurrent_authorizes hexact) fun t result _ => ?_
  cases result with
  | some err => exact allowed_bind (quiet_exactly (observe_quiet _ _)) fun _ _ _ => allowed_pure
  | none =>
    dsimp only
    split
    · refine allowed_request_bind nofun fun now => ?_
      refine allowed_request_bind nofun fun failure => ?_
      cases failure with
      | none => exact removeAllSuperseded_exactly
      | some err =>
        rw [List.append_assoc, List.append_assoc]
        refine allowed_bind (lockdownOne_exactly (hexact _)) fun _ _ _ => ?_
        exact allowed_bind (quiet_exactly (observe_quiet _ _)) fun _ _ _ => allowed_pure
    · exact removeAllSuperseded_exactly

/-- INTERNAL: the one live sandbox is already observed. -/
theorem reconcileSandbox_exactly (hexact : ∀ t, ExactlyObserved (h ++ t) current.pod)
    (canonical : PodIdentity) (pod : Pod) :
    Allowed ProgramsExactly h
      (AgentDialogue.reconcileSandbox s parsers canonical attachments current pod) := by
  have hexact' (t t' : List AgentExchange) : ExactlyObserved (h ++ t ++ t') current.pod := by
    rw [List.append_assoc]
    exact hexact (t ++ t')
  unfold AgentDialogue.reconcileSandbox
  split
  · refine allowed_bind (quiet_exactly (observeNotReady_quiet _ _)) fun t _ _ => ?_
    refine allowed_request_bind nofun fun now => ?_
    split
    · exact allowed_pure
    · exact lockdownOne_exactly (hexact' t _)
  · refine allowed_bind (reads_exactly (binding_asks _)) ?_
    intro t result _
    cases result with
    | error err =>
      refine allowed_bind (lockdownOne_exactly (hexact t)) fun _ _ _ => ?_
      exact allowed_bind (quiet_exactly (observeNotReady_quiet _ _)) fun _ _ _ => allowed_pure
    | ok binding =>
      dsimp only
      split
      · refine allowed_bind (lockdownOne_exactly (hexact t)) fun _ _ _ => ?_
        exact allowed_bind (quiet_exactly (observe_quiet _ _)) fun _ _ _ => allowed_pure
      · exact reconcileCurrent_exactly (hexact' t) binding

theorem reconcileLive_exactly (hstored : ∀ a ∈ attachments, Stored h a) (canonical : PodIdentity)
    (pod : Pod) :
    Allowed ProgramsExactly h
      (AgentDialogue.reconcileLive s parsers canonical attachments pod) := by
  refine allowed_bind (liveAttachments_exactly _) fun t result hrun => ?_
  obtain ⟨live, classifyErr⟩ := result
  have hlive := live_exactlyObserved hstored hrun
  have hlockdown (t' : List AgentExchange) :
      Allowed ProgramsExactly (h ++ t ++ t') (AgentDialogue.lockdownAttachments live) := by
    refine lockdownAttachments_exactly fun a ha t'' => ?_
    rw [List.append_assoc]
    exact hlive a ha (t' ++ t'')
  dsimp only
  split
  · refine allowed_bind (quiet_exactly (observeNotReady_quiet _ _)) fun t' _ _ => ?_
    exact allowed_bind (hlockdown t') fun _ _ _ => allowed_pure
  · refine allowed_bind (quiet_exactly (observeNotReady_quiet _ _)) fun _ _ _ => allowed_pure
  · exact reconcileSandbox_exactly (hlive _ (by simp)) canonical pod
  · refine allowed_bind (quiet_exactly (observeNotReady_quiet _ _)) fun t' _ _ => ?_
    exact allowed_bind (hlockdown t') fun _ _ _ => allowed_pure

/-- INTERNAL: the reconcile of stored attachments is exact. -/
theorem reconcileAttachmentGroup_exactly (hstored : ∀ a ∈ attachments, Stored h a) :
    Allowed ProgramsExactly h
      (AgentDialogue.reconcileAttachmentGroup s parsers attachments) := by
  have hsorted : ∀ a ∈ AgentDialogue.sortAttachments attachments, Stored h a := fun a ha =>
    hstored a ((List.mem_insertionSort _).mp ha)
  unfold AgentDialogue.reconcileAttachmentGroup
  split
  · exact allowed_pure
  next first rest hsort =>
  rw [hsort] at hsorted
  have happend (t : List AgentExchange) : ∀ a ∈ first :: rest, Stored (h ++ t) a :=
    fun a ha => (hsorted a ha).append
  dsimp only
  split
  · exact quarantineAttachmentGroup_exactly hsorted _
  refine allowed_bind (reads_exactly (pod_asks _)) ?_
  intro t result _
  cases result with
  | error err =>
    dsimp only
    split
    · exact withdrawAttachmentGroup_exactly (happend t) _
    · exact allowed_bind (quiet_exactly (observeNotReady_quiet _ _)) fun _ _ _ => allowed_pure
  | ok pod =>
    dsimp only
    split
    · exact withdrawAttachmentGroup_exactly (happend t) _
    · exact reconcileLive_exactly (happend t) _ pod

/-- INTERNAL: **`ReconcileAll` is exact.** -/
theorem reconcileAll_exactly :
    Allowed ProgramsExactly h (AgentDialogue.reconcileAll s parsers) := by
  unfold AgentDialogue.reconcileAll
  split
  · exact lockdownAll_exactly
  refine allowed_request_bind nofun fun listed => ?_
  cases listed with
  | error err => exact allowed_pure
  | ok stored =>
    refine allowed_bind (allowed_each fun podUID _ t _ => ?_) fun _ _ _ => allowed_pure
    refine allowed_bind (reconcileAttachmentGroup_exactly fun a ha => ?_) fun _ _ _ => allowed_pure
    have hmem := (List.mem_filter.mp (List.mem_filter.mp ha).1).1
    exact ⟨stored, by simp, hmem⟩

end Observing

/-! ## Requests that name the path themselves -/

/-- Some exchange programs a path. -/
def Programs (t : List AgentExchange) : Prop := ∃ e ∈ t, programs e.1 ≠ none

section Requests

variable {granted : Except AgentError (VPNWorkloadBinding × Config)}

/-- INTERNAL: silent dialogues program nothing in any run. -/
theorem not_programs {p : AgentDialogue α} {a : α} (hp : Asks (programs · = none) p)
    (hrun : Runs p t a) : ¬ Programs t := by
  rintro ⟨e, he, hprograms⟩
  exact hprograms (hp.of_runs hrun e he)

/-- INTERNAL: a lockdown that was performed was asked for. -/
theorem programs_of_performed {e : AgentExchange} {netNS : String} {podUID : ObjectUID} {ok : Bool}
    (h : performed e = some (.program (.installLockdown netNS podUID ok))) :
    programs e.1 ≠ none := by
  unfold performed at h
  split at h
  all_goals cases h
  simp [programs]

theorem observe_silent (binding : VPNWorkloadBinding) (ready : Bool) :
    Asks (programs · = none) (AgentDialogue.observe s binding ready) :=
  (observe_quiet binding ready).mono fun _ => programs_of_quiet

/-- INTERNAL: `prepare` programs exactly if it was granted. -/
theorem prepareGranted_programs
    (hrun : Runs (AgentDialogue.prepareGranted s identity granted) t err) :
    Programs t ↔ ∃ g, granted = .ok g := by
  rcases granted with _ | ⟨binding, config⟩
  · obtain ⟨rfl, -⟩ := runs_pure.mp hrun
    simp [Programs]
  · obtain ⟨locked, rest, rfl, -⟩ := runs_request_bind.mp hrun
    refine iff_of_true ⟨_, List.mem_cons_self, ?_⟩ ⟨_, rfl⟩
    simp [programs]

/-- INTERNAL: `check` programs exactly if it was not granted or its first `Verify` failed. -/
theorem checkGranted_programs (hrun : Runs (AgentDialogue.checkGranted s identity granted) t err) :
    Programs t ↔ (¬ ∃ g, granted = .ok g) ∨
      ∃ config, (⟨.verify identity config, false⟩ : AgentExchange) ∈ t := by
  rcases granted with _ | ⟨binding, config⟩
  · obtain ⟨locked, rest, rfl, -⟩ := runs_request_bind.mp hrun
    refine iff_of_true ⟨_, List.mem_cons_self, ?_⟩ (Or.inl (by simp))
    simp [programs]
  obtain ⟨verified, rest, rfl, hrest⟩ := runs_request_bind.mp hrun
  cases verified with
  | false =>
    obtain ⟨locked, rest, rfl, -⟩ := runs_request_bind.mp hrest
    refine iff_of_true ⟨⟨.installLockdown identity, locked⟩, by simp, by simp [programs]⟩ ?_
    exact Or.inr ⟨config, List.mem_cons_self⟩
  | true =>
    obtain ⟨observation, first, last, rfl, hobserve, hlast⟩ := runs_bind.mp hrest
    obtain ⟨rfl, -⟩ := runs_pure.mp hlast
    -- what follows the verification reads the clock and remembers the observation
    have hsilent := not_programs (observe_silent binding true) hobserve
    obtain ⟨now, rest, rfl, hnow⟩ := runs_request_bind.mp hobserve
    obtain ⟨_, rest, rfl, hdone⟩ := runs_request_bind.mp hnow
    obtain ⟨rfl, -⟩ := runs_pure.mp hdone
    refine iff_of_false ?_ ?_
    · rintro ⟨e, he, hprograms⟩
      rcases List.mem_cons.mp he with rfl | he
      · exact hprograms rfl
      · exact hsilent ⟨e, by simpa using he, hprograms⟩
    · simp

/-- INTERNAL: `authority` reads objects and nothing after it does: the reads of the whole run grant
exactly what `authority` granted, and whether the run programs is decided after it. -/
theorem served_run (hasks : ∀ granted, Asks (ProgramsPath identity granted) (f granted))
    (hrun : Runs (AgentDialogue.authority s parsers identity requested >>= f) t err) :
    ∃ granted first rest, t = first ++ rest ∧ Runs (f granted) rest err ∧
      (∀ e ∈ first, readsObject e.1 = true) ∧
      (Programs (⟨.ready, true⟩ :: t) ↔ Programs rest) ∧
      ((∃ g, Grants s parsers identity requested (⟨.ready, true⟩ :: t) g) ↔
        ∃ g, granted = .ok g) := by
  obtain ⟨granted, first, rest, rfl, hauthority, hrest⟩ := runs_bind.mp hrun
  have hreads := (authority_asks identity requested).of_runs hauthority
  refine ⟨granted, first, rest, rfl, hrest, hreads, ?_, exists_congr fun g => ?_⟩
  · constructor
    · rintro ⟨e, he, hprograms⟩
      simp only [List.mem_cons, List.mem_append] at he
      rcases he with rfl | hfirst | hmem
      · exact absurd rfl hprograms
      · exact absurd (programs_of_readsObject (hreads e hfirst)) hprograms
      · exact ⟨e, hmem, hprograms⟩
    · rintro ⟨e, he, hprograms⟩
      exact ⟨e, by simp [he], hprograms⟩
  · rw [runs_authority hauthority]
    refine grants_congr fun e he => ?_
    simp only [List.mem_cons, List.mem_append]
    constructor
    · rintro (rfl | hfirst | hmem)
      · cases he
      · exact hfirst
      · rw [((hasks granted).of_runs hrest e hmem).readsObject] at he
        cases he
    · intro hfirst
      exact Or.inr (Or.inl hfirst)

/-- INTERNAL: **`Prepare` programs its path exactly with the answers of `MakesAgentProgram`.** -/
theorem servePrepare_programs
    (hrun : Runs (AgentDialogue.servePrepare s parsers identity requested) t err) :
    Programs t ↔ MakesAgentProgram s parsers (.prepare identity requested) t := by
  obtain ⟨ready, rest, rfl, hrest⟩ := runs_request_bind.mp hrun
  cases ready with
  | false =>
    obtain ⟨rfl, -⟩ := runs_pure.mp hrest
    simp [Programs, MakesAgentProgram, programs]
  | true =>
    obtain ⟨granted, first, last, rfl, hlast, -, hprograms, hgrants⟩ :=
      served_run prepareGranted_asks hrest
    rw [hprograms, prepareGranted_programs hlast, ← hgrants]
    simp [MakesAgentProgram]

/-- INTERNAL: **`Check` programs its path exactly with the answers of `MakesAgentProgram`.** -/
theorem serveCheck_programs
    (hrun : Runs (AgentDialogue.serveCheck s parsers identity requested) t err) :
    Programs t ↔ MakesAgentProgram s parsers (.check identity requested) t := by
  obtain ⟨ready, rest, rfl, hrest⟩ := runs_request_bind.mp hrun
  cases ready with
  | false =>
    obtain ⟨locked, last, rfl, -⟩ := runs_request_bind.mp hrest
    refine iff_of_true ⟨⟨.installLockdown identity, locked⟩, by simp, by simp [programs]⟩ ?_
    exact Or.inl List.mem_cons_self
  | true =>
    obtain ⟨granted, first, last, rfl, hlast, hreads, hprograms, hgrants⟩ :=
      served_run checkGranted_asks hrest
    have hverify (config : Config) :
        (⟨.verify identity config, false⟩ : AgentExchange) ∈ first ++ last ↔
          (⟨.verify identity config, false⟩ : AgentExchange) ∈ last := by
      refine ⟨fun hmem => ?_, fun hmem => List.mem_append_right _ hmem⟩
      rcases List.mem_append.mp hmem with hfirst | hlast
      · cases hreads _ hfirst
      · exact hlast
    have hready : (⟨.ready, false⟩ : AgentExchange) ∉ first ++ last := by
      intro hmem
      rcases List.mem_append.mp hmem with hfirst | hmem
      · cases hreads _ hfirst
      · cases (checkGranted_asks granted).of_runs hlast _ hmem
    rw [hprograms, checkGranted_programs hlast, ← hgrants]
    simp only [MakesAgentProgram, List.mem_cons, Sigma.mk.injEq, true_and, heq_eq_eq, reduceCtorEq,
      false_or, false_and, hverify]
    simp [hready]

/-- INTERNAL: without the store, only a run that programs nothing is exact. -/
theorem served_no_store (hp : Asks (· ≠ .listAttachments) p) (hrun : Runs p t err) :
    OnlyExactSandboxes t ↔ ¬ Programs t := by
  constructor
  · rintro hexact ⟨⟨r, x⟩, he, hprograms⟩
    obtain ⟨before, after, rfl⟩ := List.append_of_mem he
    obtain ⟨pod, hpod⟩ := Option.ne_none_iff_exists'.mp hprograms
    obtain ⟨a, ⟨stored, hlist, -⟩, -⟩ := hexact before r x after rfl pod hpod
    exact hp.of_runs hrun _ (List.mem_append_left _ hlist) rfl
  · rintro hnone before r x after rfl pod hpod
    exact absurd ⟨⟨r, x⟩, by simp, by simp [hpod]⟩ hnone

/-- INTERNAL: a served request does not read the store. -/
theorem served_asks (hasks : ∀ granted, Asks (ProgramsPath identity granted) (f granted)) :
    Asks (· ≠ .listAttachments) (AgentDialogue.authority s parsers identity requested >>= f) := by
  refine asks_bind ((authority_asks identity requested).mono ?_) fun granted =>
    (hasks granted).mono ?_
  · rintro r hr rfl
    cases hr
  · rintro r hr rfl
    cases hr

theorem servePrepare_no_store :
    Asks (· ≠ .listAttachments) (AgentDialogue.servePrepare s parsers identity requested) := by
  refine asks_bind (asks_request.mpr nofun) fun ready => ?_
  cases ready with
  | false => exact asks_pure
  | true => exact served_asks prepareGranted_asks

theorem serveCheck_no_store :
    Asks (· ≠ .listAttachments) (AgentDialogue.serveCheck s parsers identity requested) := by
  refine asks_bind (asks_request.mpr nofun) fun ready => ?_
  cases ready with
  | false => exact asks_bind (asks_request.mpr nofun) fun _ => asks_pure
  | true => exact served_asks checkGranted_asks

end Requests

/-! ## Every operation -/

/-- INTERNAL: from what each step allows to the whole run. -/
theorem onlyExact_of_allowed (hp : Allowed ProgramsExactly [] p) (hrun : Runs p t err) :
    OnlyExactSandboxes t :=
  fun _ _ _ _ ht => hp.of_runs hrun ht

/-- **Only the exact recorded sandbox is programmed, except by a request that programs.** For every
operation of the agent and whatever it is answered, call by call, each call that installs a
lockdown, configures or cleans a path is preceded in the operation by an observation of the recorded
namespace of a stored attachment of exactly that Pod and path, if and only if the operation is not a
`Prepare` or `Check` that makes the agent program. -/
theorem exact_sandbox_programmed (s : NodeService) (parsers : NetworkParsers)
    (operation : AgentOperation) {t : List AgentExchange} {err : Option String}
    (hrun : Runs (operation.dialogue s parsers) t err) :
    OnlyExactSandboxes t ↔ ¬ MakesAgentProgram s parsers operation t := by
  cases operation with
  | prepare =>
    rw [← servePrepare_programs hrun]
    exact served_no_store servePrepare_no_store hrun
  | check =>
    rw [← serveCheck_programs hrun]
    exact served_no_store serveCheck_no_store hrun
  | withdraw identity =>
    exact iff_of_true (onlyExact_of_allowed (withdraw_exactly identity) hrun) id
  | reconcileAll => exact iff_of_true (onlyExact_of_allowed reconcileAll_exactly hrun) id
  | lockdownAll => exact iff_of_true (onlyExact_of_allowed lockdownAll_exactly hrun) id

/-- A `LockdownAll` denies the recorded sandbox, and only after it has observed it. -/
theorem exact_sandbox_programmed_lockdown :
    ∃ t err, Runs (AgentOperation.lockdownAll.dialogue (agentService false) agentParsers) t err ∧
      .program (.installLockdown agentSandbox.netNS "pod-uid" true) ∈ t.filterMap performed ∧
      OnlyExactSandboxes t := by
  obtain ⟨t, hrun, hactions⟩ := script_performs (agentService false) agentParsers attachedNode
    (show operationOf (heldLockdown true) = some .lockdownAll from rfl)
  refine ⟨t, _, hrun, ?_, ?_⟩
  · rw [hactions]
    decide +kernel
  · exact (exact_sandbox_programmed (agentService false) agentParsers .lockdownAll hrun).mpr id

/-- A node where the sandbox's path names another namespace. -/
def reusedNode : Node :=
  { attachedNode with
    namespaces := fun path => if path = agentSandbox.netNS then some "ns:2" else none
    relayHealthy := true, backendHealthy := true }

/-- The path of the recorded sandbox has been reused, and a `Prepare` opens the namespace that is
there now. -/
theorem reused_path_prepared :
    ∃ t, Runs ((AgentOperation.prepare agentSandbox (agentReference 1)).dialogue
        (agentService false) agentParsers) t none ∧
      agentAttachment .ready ∈ reusedNode.attachments.entries ∧
      reusedNode.namespaces agentSandbox.netNS ≠ some (agentAttachment .ready).namespaceIdentity ∧
      (reusedNode.applyAll (t.filterMap performed)).policy agentSandbox.netNS "pod-uid" =
        .configured (agentConfig 1) ∧
      ¬ OnlyExactSandboxes t := by
  have hscript : ((agentService false).servePrepare agentParsers reusedNode (agentProgram 1)
      agentSandbox (agentReference 1)).error = none := by decide +kernel
  obtain ⟨t, hrun, hactions⟩ := servePrepare_performs (s := agentService false) reusedNode
    (agentProgram 1)
  rw [hscript] at hrun
  refine ⟨t, hrun, by decide +kernel, by decide +kernel, ?_, ?_⟩
  · rw [hactions]
    decide +kernel
  rw [served_no_store servePrepare_no_store hrun, not_not]
  have hlockdown : AgentAction.program (.installLockdown agentSandbox.netNS "pod-uid" true) ∈
      t.filterMap performed := by
    rw [hactions]
    decide +kernel
  obtain ⟨e, he, hperformed⟩ := List.mem_filterMap.mp hlockdown
  exact ⟨e, he, programs_of_performed hperformed⟩

end Waycloak.Analysis
