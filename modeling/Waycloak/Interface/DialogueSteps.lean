import Waycloak.Model.AgentDialogue
import Waycloak.Interface.AgentSteps

/-!
# What the node agent asks for, and when

For each part of the agent's operations: which calls it makes (`Asks`), and what its result says
about the answers it got (`Runs`). `prepare` and `check` are `authority` followed by what they do
with its result (`prepareGranted`, `checkGranted`); everything a run of `authority` decides is
`Grants`, read off the two objects it was answered.
-/

set_option autoImplicit false

namespace Waycloak.Interface

open Waycloak.Model Waycloak.Computation Waycloak.Computation.Dialogue

variable {r : AgentCall} {t' t : List AgentExchange} {s : NodeService} {parsers : NetworkParsers}
variable {identity : PodIdentity} {requested : BindingReference}

/-! ## Kinds of calls -/

/-- The Pod identity a call programs. -/
def programs : AgentCall → Option PodIdentity
  | .installLockdown pod => some pod
  | .configure pod _ => some pod
  | .cleanup pod => some pod
  | _ => none

/-- Calls that read a binding, report or remember. -/
def isQuiet : AgentCall → Bool
  | .now => true
  | .readBinding _ _ => true
  | .listBindings => true
  | .publish _ => true
  | .observe _ => true
  | .forget _ => true
  | _ => false

theorem programs_of_quiet (h : isQuiet r = true) : programs r = none := by
  cases r <;> first | rfl | cases h

/-- Reads of an object. -/
def readsObject : AgentCall → Bool
  | .readPod _ _ => true
  | .readBinding _ _ => true
  | _ => false

theorem programs_of_readsObject (h : readsObject r = true) : programs r = none := by
  cases r <;> first | rfl | cases h

/-- Observations of a namespace. -/
def observesNamespace : AgentCall → Bool
  | .identity _ => true
  | _ => false

theorem programs_of_observesNamespace (h : observesNamespace r = true) : programs r = none := by
  cases r <;> first | rfl | cases h

theorem observesNamespace_of_quiet (h : isQuiet r = true) : observesNamespace r = false := by
  cases r <;> first | rfl | cases h

theorem observesNamespace_of_readsObject (h : readsObject r = true) :
    observesNamespace r = false := by
  cases r <;> first | rfl | cases h

/-- The calls that follow `authority`: they program or verify the path of one Pod identity, with the
configuration that was granted, or remember an observation. -/
inductive ProgramsPath (pod : PodIdentity)
    (granted : Except AgentError (VPNWorkloadBinding × Config)) : AgentCall → Prop
  | now : ProgramsPath pod granted .now
  | observe (observation : NodeObservation) : ProgramsPath pod granted (.observe observation)
  | installLockdown : ProgramsPath pod granted (.installLockdown pod)
  | configure {binding : VPNWorkloadBinding} {config : Config}
      (h : granted = .ok (binding, config)) : ProgramsPath pod granted (.configure pod config)
  | verify (config : Config) : ProgramsPath pod granted (.verify pod config)

section ProgramsPath

variable {pod : PodIdentity} {granted : Except AgentError (VPNWorkloadBinding × Config)}

theorem ProgramsPath.programs {pod' : PodIdentity} (h : ProgramsPath pod granted r)
    (hr : programs r = some pod') : pod' = pod := by
  cases h <;> cases hr <;> rfl

theorem ProgramsPath.observesNamespace (h : ProgramsPath pod granted r) :
    observesNamespace r = false := by
  cases h <;> rfl

theorem ProgramsPath.readsObject (h : ProgramsPath pod granted r) : readsObject r = false := by
  cases h <;> rfl

end ProgramsPath

/-! ## Calls that only read, report or remember -/

section Quiet

theorem observe_asks (pod : PodIdentity) (granted : Except AgentError (VPNWorkloadBinding × Config))
    (binding : VPNWorkloadBinding) (ready : Bool) :
    Asks (ProgramsPath pod granted) (AgentDialogue.observe s binding ready) := by
  refine asks_bind (asks_request.mpr .now) fun now => ?_
  exact asks_bind (asks_request.mpr (.observe _)) fun _ => asks_pure

theorem observe_quiet (binding : VPNWorkloadBinding) (ready : Bool) :
    Asks (isQuiet · = true) (AgentDialogue.observe s binding ready) := by
  refine asks_bind (asks_request.mpr rfl) fun now => ?_
  exact asks_bind (asks_request.mpr rfl) fun _ => asks_pure

theorem pod_asks (identity : PodIdentity) :
    Asks (readsObject · = true) (AgentDialogue.pod s identity) := by
  unfold AgentDialogue.pod
  split
  · exact asks_pure
  · split
    · exact asks_pure
    · exact asks_bind (asks_request.mpr rfl) fun read => asks_pure

theorem binding_asks (pod : Pod) : Asks (readsObject · = true) (AgentDialogue.binding s pod) :=
  asks_bind (asks_request.mpr rfl) fun _ => asks_pure

theorem authority_asks (identity : PodIdentity) (requested : BindingReference) :
    Asks (readsObject · = true) (AgentDialogue.authority s parsers identity requested) := by
  unfold AgentDialogue.authority
  split
  · exact asks_pure
  refine asks_bind (pod_asks identity) fun pod => ?_
  split
  · exact asks_pure
  · refine asks_bind (binding_asks _) fun binding => ?_
    repeat' split
    all_goals exact asks_pure

theorem observeNotReady_quiet (namespaceName : NamespaceName) (podUID : ObjectUID) :
    Asks (isQuiet · = true) (AgentDialogue.observeNotReady s namespaceName podUID) := by
  refine asks_bind (asks_bind (asks_request.mpr rfl) fun _ => asks_pure) fun binding => ?_
  split
  · exact asks_pure
  · exact asks_bind (observe_quiet _ _) fun _ => asks_pure

theorem observeNodeBindings_quiet :
    Asks (isQuiet · = true) (AgentDialogue.observeNodeBindings s) := by
  refine asks_bind (asks_request.mpr rfl) fun bindings => ?_
  split
  · exact asks_pure
  · exact asks_bind (asks_each fun binding _ => observe_quiet binding false) fun _ => asks_pure

theorem reportWithdrawal_quiet (namespaceName : NamespaceName) (podUID : ObjectUID) :
    Asks (isQuiet · = true) (AgentDialogue.reportWithdrawal s namespaceName podUID) := by
  refine asks_bind (asks_request.mpr rfl) fun read => ?_
  split
  · exact asks_pure
  · exact asks_pure
  · split
    · exact asks_pure
    refine asks_bind (observe_quiet _ _) fun observation => ?_
    refine asks_bind (asks_request.mpr rfl) fun failure => ?_
    split
    · exact asks_pure
    · exact asks_pure

theorem liveAttachments_asks (attachments : List Attachment) :
    Asks (observesNamespace · = true) (AgentDialogue.liveAttachments attachments) := by
  refine asks_bind (asks_each fun attachment _ => ?_) fun observed => asks_pure
  refine asks_bind (asks_request.mpr rfl) fun identity => ?_
  split
  · exact asks_pure
  · exact asks_pure

end Quiet

/-! ## Authority -/

/-- **The reads among the exchanges grant the request**: `authority` of the Pod and the binding they
were answered. -/
def Grants (s : NodeService) (parsers : NetworkParsers) (identity : PodIdentity)
    (requested : BindingReference) (t : List AgentExchange)
    (granted : VPNWorkloadBinding × Config) : Prop :=
  ∃ answers : NodeService.ProgramAnswers,
    (⟨.readPod identity.namespaceName identity.name, answers.pod⟩ : AgentExchange) ∈ t ∧
    (∃ namespaceName podUID,
      (⟨.readBinding namespaceName podUID, answers.binding⟩ : AgentExchange) ∈ t) ∧
    s.authority parsers answers identity requested = .ok granted

section Authority

theorem Grants.mono {granted : VPNWorkloadBinding × Config}
    (h : Grants s parsers identity requested t granted) (hsub : ∀ e ∈ t, e ∈ t') :
    Grants s parsers identity requested t' granted := by
  obtain ⟨answers, hpod, ⟨namespaceName, podUID, hbinding⟩, hok⟩ := h
  exact ⟨answers, hsub _ hpod, ⟨namespaceName, podUID, hsub _ hbinding⟩, hok⟩

theorem grants_congr {granted : VPNWorkloadBinding × Config}
    (hreads : ∀ e : AgentExchange, readsObject e.1 = true → (e ∈ t ↔ e ∈ t')) :
    Grants s parsers identity requested t granted ↔
      Grants s parsers identity requested t' granted := by
  unfold Grants
  refine exists_congr fun answers => ?_
  rw [hreads _ rfl]
  refine and_congr_right fun _ => and_congr_left fun _ => ?_
  exact exists_congr fun _ => exists_congr fun _ => hreads _ rfl

theorem Grants.binding {binding : VPNWorkloadBinding} {config : Config}
    (h : Grants s parsers identity requested t (binding, config)) :
    NodeService.bindingReference binding = requested ∧
      configFromBinding parsers binding = .ok config ∧
      ∃ namespaceName podUID,
        (⟨.readBinding namespaceName podUID, .ok binding⟩ : AgentExchange) ∈ t := by
  obtain ⟨answers, -, ⟨namespaceName, podUID, hread⟩, hok⟩ := h
  have hauthorized := authority_ok hok
  rw [hauthorized.bindingRead] at hread
  exact ⟨hauthorized.exact, hauthorized.config, namespaceName, podUID, hread⟩

theorem runs_pod {result : Except AgentError Pod}
    (h : Runs (AgentDialogue.pod s identity) t result) :
    (∃ read, t = [⟨.readPod identity.namespaceName identity.name, read⟩] ∧
      result = s.pod read identity) ∨
    (t = [] ∧ ∃ err, result = .error (.podIdentityInvalid err) ∧
      ∀ read, s.pod read identity = .error (.podIdentityInvalid err)) := by
  unfold AgentDialogue.pod at h
  split at h
  · next err hvalid =>
    obtain ⟨rfl, rfl⟩ := runs_pure.mp h
    exact Or.inr ⟨rfl, err, rfl, fun read => by simp [NodeService.pod, hvalid]⟩
  next hvalid =>
  split at h
  · next hnode =>
    obtain ⟨rfl, rfl⟩ := runs_pure.mp h
    exact Or.inr ⟨rfl, _, rfl, fun read => by simp [NodeService.pod, hvalid, hnode]⟩
  · obtain ⟨read, rest, rfl, hrest⟩ := runs_request_bind.mp h
    obtain ⟨rfl, rfl⟩ := runs_pure.mp hrest
    exact Or.inl ⟨read, rfl, rfl⟩

theorem runs_binding {pod : Pod} {result : Except AgentError VPNWorkloadBinding}
    (h : Runs (AgentDialogue.binding s pod) t result) :
    ∃ read, t = [⟨.readBinding pod.namespaceName pod.uid, read⟩] ∧ result = s.binding read pod := by
  obtain ⟨read, rest, rfl, hrest⟩ := runs_request_bind.mp h
  obtain ⟨rfl, rfl⟩ := runs_pure.mp hrest
  exact ⟨read, rfl, rfl⟩

/-- INTERNAL: **`authority` decides by the objects it was answered.** -/
theorem runs_authority {result : Except AgentError (VPNWorkloadBinding × Config)}
    (h : Runs (AgentDialogue.authority s parsers identity requested) t result)
    (granted : VPNWorkloadBinding × Config) :
    result = .ok granted ↔ Grants s parsers identity requested t granted := by
  unfold AgentDialogue.authority at h
  split at h
  · next err hrequested =>
    obtain ⟨rfl, rfl⟩ := runs_pure.mp h
    simp [Grants]
  next hrequested =>
  obtain ⟨podResult, first, rest, rfl, hpod, hrest⟩ := runs_bind.mp h
  have hread := runs_pod hpod
  split at hrest
  · -- without a Pod no binding is read
    obtain ⟨rfl, rfl⟩ := runs_pure.mp hrest
    rcases hread with ⟨read, rfl, -⟩ | ⟨rfl, -⟩ <;> simp [Grants]
  next pod =>
  obtain ⟨podRead, rfl, hpodOk⟩ | ⟨-, err, habsurd, -⟩ := hread
  swap
  · cases habsurd
  obtain ⟨bindingResult, middle, last, rfl, hbinding, hlast⟩ := runs_bind.mp hrest
  obtain ⟨bindingRead, rfl, rfl⟩ := runs_binding hbinding
  have hdecides : last = [] ∧ ∀ answers : NodeService.ProgramAnswers,
      answers.pod = podRead → answers.binding = bindingRead →
      result = s.authority parsers answers identity requested := by
    simp only [NodeService.authority, hrequested]
    cases hresult : s.binding bindingRead pod with
    | error err =>
      rw [hresult] at hlast
      obtain ⟨rfl, rfl⟩ := runs_pure.mp hlast
      refine ⟨rfl, fun answers hp hb => ?_⟩
      simp only [hp, hb, ← hpodOk, hresult]
    | ok =>
      rw [hresult] at hlast
      dsimp only at hlast
      split at hlast
      · next hstale =>
        obtain ⟨rfl, rfl⟩ := runs_pure.mp hlast
        refine ⟨rfl, fun answers hp hb => ?_⟩
        simp only [hp, hb, ← hpodOk, hresult, if_pos hstale]
      · next hexact =>
        split at hlast
        all_goals
          next hconfig =>
            obtain ⟨rfl, rfl⟩ := runs_pure.mp hlast
            refine ⟨rfl, fun answers hp hb => ?_⟩
            simp only [hp, hb, ← hpodOk, hresult, if_neg hexact, hconfig]
  obtain ⟨rfl, hdecides⟩ := hdecides
  constructor
  · intro hok
    refine ⟨⟨podRead, bindingRead, false, false, false, false, false, 0⟩, by simp,
      ⟨pod.namespaceName, pod.uid, by simp⟩, ?_⟩
    rw [← hdecides _ rfl rfl, hok]
  · rintro ⟨answers, hpodRead, ⟨namespaceName, podUID, hbindingRead⟩, hok⟩
    rw [hdecides answers (by simpa using hpodRead) ?_, hok]
    simp at hbindingRead
    obtain ⟨⟨rfl, rfl⟩, hbindingRead⟩ := hbindingRead
    exact hbindingRead

end Authority

/-! ## Prepare and Check -/

section Granted

theorem prepareGranted_asks (result : Except AgentError (VPNWorkloadBinding × Config)) :
    Asks (ProgramsPath identity result) (AgentDialogue.prepareGranted s identity result) := by
  rcases result with err | ⟨binding, config⟩
  · exact asks_pure
  refine asks_bind (asks_request.mpr .installLockdown) fun locked => ?_
  split
  · exact asks_pure
  refine asks_bind (asks_request.mpr (.configure rfl)) fun configured => ?_
  split
  · refine asks_bind (asks_request.mpr .installLockdown) fun _ => ?_
    exact asks_bind (observe_asks _ _ _ _) fun _ => asks_pure
  refine asks_bind (asks_request.mpr (.verify config)) fun verified => ?_
  split
  · refine asks_bind (asks_request.mpr .installLockdown) fun _ => ?_
    exact asks_bind (observe_asks _ _ _ _) fun _ => asks_pure
  · exact asks_bind (observe_asks _ _ _ _) fun _ => asks_pure

theorem checkGranted_asks (result : Except AgentError (VPNWorkloadBinding × Config)) :
    Asks (ProgramsPath identity result) (AgentDialogue.checkGranted s identity result) := by
  rcases result with err | ⟨binding, config⟩
  · exact asks_bind (asks_request.mpr .installLockdown) fun _ => asks_pure
  refine asks_bind (asks_request.mpr (.verify config)) fun verified => ?_
  split
  · exact asks_bind (observe_asks _ _ _ _) fun _ => asks_pure
  refine asks_bind (asks_request.mpr .installLockdown) fun locked => ?_
  split
  · exact asks_bind (observe_asks _ _ _ _) fun _ => asks_pure
  refine asks_bind (asks_request.mpr (.configure rfl)) fun configured => ?_
  split
  · exact asks_bind (observe_asks _ _ _ _) fun _ => asks_pure
  refine asks_bind (asks_request.mpr (.verify config)) fun verified => ?_
  split
  · refine asks_bind (asks_request.mpr .installLockdown) fun _ => ?_
    exact asks_bind (observe_asks _ _ _ _) fun _ => asks_pure
  · exact asks_bind (observe_asks _ _ _ _) fun _ => asks_pure

/-- The path is verified with the granted configuration whenever the result is a success. -/
def VerifiedWhenDone (identity : PodIdentity)
    (granted : Except AgentError (VPNWorkloadBinding × Config)) (t : List AgentExchange)
    (result : Option String) : Prop :=
  result = none → ∃ binding config, granted = .ok (binding, config) ∧
    (⟨.verify identity config, true⟩ : AgentExchange) ∈ t

theorem prepareGranted_verified (h : List AgentExchange)
    (granted : Except AgentError (VPNWorkloadBinding × Config)) :
    Yields (VerifiedWhenDone identity granted) h
      (AgentDialogue.prepareGranted s identity granted) := by
  rcases granted with err | ⟨binding, config⟩
  · exact yields_pure.mpr nofun
  refine yields_request_bind fun locked => ?_
  cases locked with
  | false => exact yields_pure.mpr nofun
  | true =>
    refine yields_request_bind fun configured => ?_
    cases configured with
    | false =>
      refine yields_request_bind fun _ => ?_
      exact yields_bind fun _ _ _ => yields_pure.mpr nofun
    | true =>
      refine yields_request_bind fun verified => ?_
      cases verified with
      | false =>
        refine yields_request_bind fun _ => ?_
        exact yields_bind fun _ _ _ => yields_pure.mpr nofun
      | true =>
        refine yields_bind fun _ _ _ => yields_pure.mpr fun _ => ?_
        exact ⟨binding, config, rfl, by simp⟩

theorem checkGranted_verified (h : List AgentExchange)
    (granted : Except AgentError (VPNWorkloadBinding × Config)) :
    Yields (VerifiedWhenDone identity granted) h
      (AgentDialogue.checkGranted s identity granted) := by
  rcases granted with err | ⟨binding, config⟩
  · exact yields_request_bind fun _ => yields_pure.mpr nofun
  refine yields_request_bind fun verified => ?_
  cases verified with
  | true =>
    refine yields_bind fun _ _ _ => yields_pure.mpr fun _ => ?_
    exact ⟨binding, config, rfl, by simp⟩
  | false =>
    refine yields_request_bind fun locked => ?_
    cases locked with
    | false => exact yields_bind fun _ _ _ => yields_pure.mpr nofun
    | true =>
      refine yields_request_bind fun configured => ?_
      cases configured with
      | false => exact yields_bind fun _ _ _ => yields_pure.mpr nofun
      | true =>
        refine yields_request_bind fun verified => ?_
        cases verified with
        | false =>
          refine yields_request_bind fun _ => ?_
          exact yields_bind fun _ _ _ => yields_pure.mpr nofun
        | true =>
          refine yields_bind fun _ _ _ => yields_pure.mpr fun _ => ?_
          exact ⟨binding, config, rfl, by simp⟩

/-- What is true of `prepare` and `check`: their calls, and their success. -/
structure Authorizes (s : NodeService) (parsers : NetworkParsers) (identity : PodIdentity)
    (requested : BindingReference) (p : AgentDialogue (Option String)) : Prop where
  allowed : ∀ {ok : List AgentExchange → AgentCall → Prop} {h : List AgentExchange},
    (∀ t r, readsObject r = true → ok (h ++ t) r) →
    (∀ t granted r, (∀ e ∈ t, observesNamespace e.1 = false) →
      (∀ g, granted = .ok g → Grants s parsers identity requested t g) →
      ProgramsPath identity granted r → ok (h ++ t) r) →
    Allowed ok h p
  verified : ∀ {t : List AgentExchange}, Runs p t none →
    ∃ binding config, Grants s parsers identity requested t (binding, config) ∧
      (⟨.verify identity config, true⟩ : AgentExchange) ∈ t

theorem authorizes_bind
    {f : Except AgentError (VPNWorkloadBinding × Config) → AgentDialogue (Option String)}
    (hasks : ∀ granted, Asks (ProgramsPath identity granted) (f granted))
    (hverified : ∀ h granted, Yields (VerifiedWhenDone identity granted) h (f granted)) :
    Authorizes s parsers identity requested
      (AgentDialogue.authority s parsers identity requested >>= f) where
  allowed := by
    intro ok h hreads hpath
    refine allowed_bind ((authority_asks identity requested).allowed fun t r _ => hreads t r) ?_
    intro t granted hrun
    have hfirst := (authority_asks identity requested).of_runs hrun
    refine (hasks granted).allowed fun t' r ht' hr => ?_
    rw [List.append_assoc]
    refine hpath (t ++ t') granted r (fun e he => ?_) (fun g hg => ?_) hr
    · rcases List.mem_append.mp he with he | he
      · exact observesNamespace_of_readsObject (hfirst e he)
      · exact (ht' e he).observesNamespace
    · exact ((runs_authority hrun g).mp hg).mono fun e he => List.mem_append_left _ he
  verified := by
    intro t hrun
    obtain ⟨granted, first, rest, rfl, hauthority, hrest⟩ := runs_bind.mp hrun
    obtain ⟨binding, config, hgranted, hmem⟩ := (hverified [] granted).of_runs hrest rfl
    refine ⟨binding, config, ?_, List.mem_append_right _ (by simpa using hmem)⟩
    exact ((runs_authority hauthority _).mp hgranted).mono fun e he => List.mem_append_left _ he

theorem prepare_authorizes :
    Authorizes s parsers identity requested (AgentDialogue.prepare s parsers identity requested) :=
  authorizes_bind prepareGranted_asks prepareGranted_verified

theorem check_authorizes :
    Authorizes s parsers identity requested (AgentDialogue.check s parsers identity requested) :=
  authorizes_bind checkGranted_asks checkGranted_verified

theorem programCurrent_authorizes {current : Attachment} :
    Authorizes s parsers current.pod requested
      (AgentDialogue.programCurrent s parsers current requested) := by
  unfold AgentDialogue.programCurrent
  split
  · exact prepare_authorizes
  · exact check_authorizes

end Granted

/-! ## Live attachments and withdrawals -/

/-- The namespace of the attachment was observed. -/
def Observed (t : List AgentExchange) (attachment : Attachment) (identity : Option String) : Prop :=
  (⟨.identity attachment, .ok identity⟩ : AgentExchange) ∈ t

/-- The attachment was observed in the namespace it is recorded with. -/
def Live (t : List AgentExchange) (attachment : Attachment) : Prop :=
  Observed t attachment (some attachment.namespaceIdentity)

/-- The withdrawal of a binding needed no report, or it was published. -/
def WithdrawalPublished (s : NodeService) (namespaceName : NamespaceName) (podUID : ObjectUID)
    (t : List AgentExchange) : Prop :=
  (⟨.readBinding namespaceName podUID, .error .notFound⟩ : AgentExchange) ∈ t ∨
    ∃ binding now, (⟨.readBinding namespaceName podUID, .ok binding⟩ : AgentExchange) ∈ t ∧
      (⟨.publish (s.observation binding false now), none⟩ : AgentExchange) ∈ t

theorem WithdrawalPublished.mono {namespaceName : NamespaceName} {podUID : ObjectUID}
    (h : WithdrawalPublished s namespaceName podUID t) (hsub : ∀ e ∈ t, e ∈ t') :
    WithdrawalPublished s namespaceName podUID t' := by
  rcases h with hmem | ⟨binding, now, hread, hpublish⟩
  · exact Or.inl (hsub _ hmem)
  · exact Or.inr ⟨binding, now, hsub _ hread, hsub _ hpublish⟩

section Groups

variable {attachments live : List Attachment}

theorem runs_observeNamespace {attachment : Attachment} {result : Option Attachment × Option String}
    (h : Runs (AgentDialogue.observeNamespace attachment) t result) :
    ∃ answer, t = [⟨.identity attachment, answer⟩] ∧
      (result.1 = if answer = .ok (some attachment.namespaceIdentity) then some attachment
        else none) ∧
      (result.2 = none → ∃ identity, answer = .ok identity) := by
  obtain ⟨answer, rest, rfl, hrest⟩ := runs_request_bind.mp h
  refine ⟨answer, ?_⟩
  cases answer with
  | error err =>
    obtain ⟨rfl, rfl⟩ := runs_pure.mp hrest
    simp
  | ok =>
    obtain ⟨rfl, rfl⟩ := runs_pure.mp hrest
    simp

/-- INTERNAL: **`liveAttachments` keeps exactly the live attachments**; without an error it has
observed every namespace. -/
theorem runs_liveAttachments {classifyErr : Option String}
    (h : Runs (AgentDialogue.liveAttachments attachments) t (live, classifyErr)) :
    (∀ a, a ∈ live ↔ a ∈ attachments ∧ Live t a) ∧
      (classifyErr = none → ∀ a ∈ attachments, ∃ identity, Observed t a identity) := by
  obtain ⟨observed, first, rest, rfl, heach, hrest⟩ := runs_bind.mp h
  obtain ⟨rfl, hresult⟩ := runs_pure.mp hrest
  obtain ⟨rfl, rfl⟩ := Prod.mk.inj hresult
  rw [List.append_nil]
  refine ⟨fun a => ⟨fun ha => ?_, fun ⟨ha, hlive⟩ => ?_⟩, fun herr a ha => ?_⟩
  · obtain ⟨result, hmem, hfst⟩ := List.mem_filterMap.mp ha
    obtain ⟨b, hb, piece, hpiece, hsub⟩ := result_runs_each heach hmem
    obtain ⟨answer, rfl, hkept, -⟩ := runs_observeNamespace hpiece
    rw [hkept] at hfst
    split at hfst
    · next hanswer =>
      cases hfst
      subst hanswer
      exact ⟨hb, hsub _ (by simp)⟩
    · cases hfst
  · obtain ⟨b, hb, piece, result, hpiece, hmem, hresult⟩ := mem_runs_each heach hlive
    obtain ⟨answer, rfl, hkept, -⟩ := runs_observeNamespace hpiece
    simp only [List.mem_singleton, Sigma.mk.injEq, AgentCall.identity.injEq] at hmem
    obtain ⟨rfl, hanswer⟩ := hmem
    cases eq_of_heq hanswer
    refine List.mem_filterMap.mpr ⟨result, hresult, ?_⟩
    simpa using hkept
  · obtain ⟨piece, result, hpiece, hresult, hsub⟩ := runs_each_of_mem heach ha
    obtain ⟨answer, rfl, -, hok⟩ := runs_observeNamespace hpiece
    obtain ⟨identity, rfl⟩ := hok (joinErrors_eq_none herr _ (List.mem_map_of_mem hresult))
    exact ⟨identity, hsub _ (by simp)⟩

theorem runs_cleanup {errs : List (Option String)}
    (h : Runs (each AgentDialogue.cleanupOne live) t errs) (hok : joinErrors errs = none) :
    ∀ a ∈ live, ∃ denied, (⟨.cleanup a.pod, (denied, true)⟩ : AgentExchange) ∈ t := by
  intro a ha
  obtain ⟨piece, err, hpiece, herr, hsub⟩ := runs_each_of_mem h ha
  cases joinErrors_eq_none hok err herr
  obtain ⟨⟨denied, cleaned⟩, rest, rfl, hrest⟩ := runs_request_bind.mp hpiece
  cases cleaned with
  | false =>
    obtain ⟨-, habsurd⟩ := runs_pure.mp hrest
    cases habsurd
  | true => exact ⟨denied, hsub _ (by simp)⟩

theorem runs_lockdownAttachments {err : Option String}
    (h : Runs (AgentDialogue.lockdownAttachments live) t err) :
    ∀ a ∈ live, ∃ ok, (⟨.installLockdown a.pod, ok⟩ : AgentExchange) ∈ t := by
  intro a ha
  obtain ⟨errs, first, rest, rfl, heach, -⟩ := runs_bind.mp h
  obtain ⟨piece, err, hpiece, -, hsub⟩ := runs_each_of_mem heach ha
  obtain ⟨ok, rest', rfl, -⟩ := runs_request_bind.mp hpiece
  exact ⟨ok, List.mem_append_left _ (hsub _ (by simp))⟩

theorem reportWithdrawal_reported (h : List AgentExchange) (namespaceName : NamespaceName)
    (podUID : ObjectUID) :
    Yields (fun t result => result = none → WithdrawalPublished s namespaceName podUID t) h
      (AgentDialogue.reportWithdrawal s namespaceName podUID) := by
  refine yields_request_bind fun read => ?_
  split
  · exact yields_pure.mpr nofun
  · next hbinding =>
    refine yields_pure.mpr fun _ => Or.inl ?_
    have hread : read = .error .notFound := by
      revert hbinding
      fun_cases NodeService.withdrawalBinding read podUID with
      | case1 => exact fun _ => rfl
      | _ => nofun
    simp [hread]
  · next binding hbinding =>
    have hread := (withdrawalBinding_ok hbinding).1
    split
    · exact yields_pure.mpr nofun
    refine yields_bind fun t observation hrun => ?_
    obtain ⟨now, rest, rfl, hrest⟩ := runs_request_bind.mp hrun
    obtain ⟨_, _, rfl, hdone⟩ := runs_request_bind.mp hrest
    obtain ⟨rfl, rfl⟩ := runs_pure.mp hdone
    refine yields_request_bind fun failure => ?_
    cases failure with
    | some err => exact yields_pure.mpr nofun
    | none =>
      refine yields_pure.mpr fun _ => Or.inr ⟨binding, now, ?_, by simp⟩
      simp [hread]

end Groups

end Waycloak.Interface
