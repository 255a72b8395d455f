import Waycloak.Interface.AgentSteps

/-!
# A Pod reported ready has a verified path

`lastPath` reads from the calls issued for a Pod which of them counts: the last `Configure`
that took effect, as long as neither `InstallLockdown` nor `Cleanup` was issued after it, and
whether a `Verify` of that configuration in that namespace has succeeded since.

Whatever an operation reports ready, it has just verified (`ReportsVerified`): it verifies the path
that the Pod has, or one that it has configured itself. So the property holds at every moment, also
between two calls of one operation, exactly if no call ends a Pod's path or starts another while the
Pod is reported ready (`SparesReady`).
-/

set_option autoImplicit false

namespace Waycloak.Analysis

open Waycloak.Model Waycloak.Interface Waycloak.Computation

variable {answers : NodeService.ProgramAnswers} {identity : PodIdentity} {netNS : String}
  {now : Time} {requested : BindingReference} {script : Script} {config : Config}
  {podUID : ObjectUID} {actions : List AgentAction} {parsers : NetworkParsers}
  {served : VPNWorkloadBinding → Prop} {node : Node}
variable {action : AgentAction} {observation : NodeObservation} {binding : VPNWorkloadBinding}
  {keptWhen : Prop} {attachments : List Attachment} {event : AgentEvent} {s : NodeService}

/-! ## The property -/

/-- A configured path: the namespace, its configuration, and whether it has been verified. -/
structure Path where
  namespaceIdentity : Option String
  config : Config
  verified : Bool
  deriving DecidableEq

/-- The path that the calls issued for a Pod have left, the latest call first. -/
def lastPath (podUID : ObjectUID) : List IssuedCall → Option Path
  | [] => none
  | issued :: earlier =>
    if issued.call.podUID ≠ podUID then lastPath podUID earlier
    else match issued.call with
      | .installLockdown _ _ _ => none
      | .cleanup _ _ _ _ => none
      | .configure _ config ok =>
        if ok then some ⟨issued.namespaceIdentity, config, false⟩ else lastPath podUID earlier
      | .verify _ config ok =>
        (lastPath podUID earlier).map fun path =>
          if ok ∧ path.namespaceIdentity = issued.namespaceIdentity ∧ path.config = config then
            { path with verified := true }
          else path

/-- The agent reports the Pod as ready. -/
def HasReady (node : Node) (podUID : ObjectUID) : Prop :=
  ∃ observation, node.observations podUID = some observation ∧ observation.ready = true

/-- The observation names a binding the agent was given, and the configuration is the one of that
binding. -/
def Backed (parsers : NetworkParsers) (served : VPNWorkloadBinding → Prop)
    (observation : NodeObservation) (config : Config) : Prop :=
  ∃ binding, served binding ∧ binding.uid = observation.bindingUID ∧
    binding.generation = observation.generation ∧
    binding.spec.podRef.uid = observation.podUID ∧ configFromBinding parsers binding = .ok config

/-- The Pod has a verified path with the configuration of the binding that the observation names. -/
def HasPath (parsers : NetworkParsers) (served : VPNWorkloadBinding → Prop) (podUID : ObjectUID)
    (observation : NodeObservation) (node : Node) : Prop :=
  ∃ config namespaceIdentity, Backed parsers served observation config ∧
    lastPath podUID node.issued = some ⟨namespaceIdentity, config, true⟩

/-- A Pod reported ready has a verified path with the configuration of the binding generation that
is reported. -/
def Truthful (parsers : NetworkParsers) (served : VPNWorkloadBinding → Prop) (podUID : ObjectUID)
    (node : Node) : Prop :=
  ∀ observation, node.observations podUID = some observation → observation.ready = true →
    observation.podUID = podUID ∧ HasPath parsers served podUID observation node

/-! ## Single actions -/

/-- A call that ends a Pod's path or starts another. -/
def disturbs (podUID : ObjectUID) : AgentAction → Bool
  | .program (.installLockdown _ uid _) => uid == podUID
  | .program (.configure _ config ok) => config.podUID == podUID && ok
  | .program (.cleanup _ uid _ _) => uid == podUID
  | _ => false

def reportsReady (podUID : ObjectUID) : AgentAction → Bool
  | .observe observation => observation.podUID == podUID && observation.ready
  | _ => false

/-- What an action may report of a Pod: ready only with a verified path. -/
def Reports (parsers : NetworkParsers) (served : VPNWorkloadBinding → Prop) (podUID : ObjectUID)
    (node : Node) (action : AgentAction) : Prop :=
  reportsReady podUID action = true →
    ∃ observation, action = .observe observation ∧ HasPath parsers served podUID observation node

theorem disturbs_concerns (h : disturbs podUID action = true) : concerns action = some podUID := by
  cases action with
  | program call =>
    cases call <;> simp_all [disturbs, concerns, ProgrammerCall.podUID]
  | observe | forget uid | publish | save | delete key => cases h

theorem reportsReady_concerns (h : reportsReady podUID action = true) :
    concerns action = some podUID := by
  cases action with
  | observe => simp_all [reportsReady, concerns]
  | program | forget uid | publish | save | delete key => cases h

section Actions

theorem apply_lastPath (h : disturbs podUID action = false) {path : Path}
    (hpath : lastPath podUID node.issued = some path) :
    ∃ verified, lastPath podUID (node.apply action).issued = some { path with verified } ∧
      (path.verified = true → verified = true) := by
  rcases apply_issued node action with hsame | ⟨call, rfl, hissued⟩
  · exact ⟨path.verified, by rw [hsame, hpath], id⟩
  rw [hissued]
  by_cases huid : call.podUID = podUID
  · cases call with
    | installLockdown | cleanup => simp_all [disturbs, ProgrammerCall.podUID]
    | configure =>
      -- a failed `Configure` leaves the path that was there
      refine ⟨path.verified, ?_, id⟩
      simp_all [disturbs, ProgrammerCall.podUID, lastPath]
    | verify =>
      simp only [lastPath, huid, ne_eq, not_true_eq_false, if_false, hpath, Option.map_some]
      split
      · exact ⟨true, rfl, fun _ => rfl⟩
      · exact ⟨path.verified, rfl, id⟩
  · refine ⟨path.verified, ?_, id⟩
    simp [lastPath, huid, hpath]

/-- INTERNAL: a call that disturbs the Pod's path leaves none that is verified. -/
theorem disturbed_path (h : disturbs podUID action = true) {namespaceIdentity : Option String} :
    lastPath podUID (node.apply action).issued ≠ some ⟨namespaceIdentity, config, true⟩ := by
  cases action with
  | program call =>
    cases call with
    | installLockdown | configure | cleanup =>
      simp_all [disturbs, Node.apply, lastPath, ProgrammerCall.podUID]
    | verify => cases h
  | observe | forget uid | publish | save | delete key => cases h

theorem apply_observation (h : reportsReady podUID action = false)
    (hobservation : (node.apply action).observations podUID = some observation)
    (hready : observation.ready = true) : node.observations podUID = some observation := by
  by_cases hconcerns : concerns action = some podUID
  · cases action with
    | observe =>
      cases hconcerns
      simp only [Node.apply, if_true, Option.some.injEq] at hobservation
      subst hobservation
      simp [reportsReady, hready] at h
    | forget uid =>
      cases hconcerns
      simp [Node.apply] at hobservation
    | program => exact hobservation
    | publish | save | delete key => cases hconcerns
  · rwa [apply_observations hconcerns] at hobservation

/-- INTERNAL: **one action.** The property stays if a Pod is reported ready only with a verified path,
and its path is disturbed only while it is not. -/
theorem apply_truthful (hreports : Reports parsers served podUID node action)
    (hspares : disturbs podUID action = true → ¬ HasReady node podUID)
    (htruthful : Truthful parsers served podUID node) :
    Truthful parsers served podUID (node.apply action) := by
  intro observation hobservation hready
  cases hreported : reportsReady podUID action with
  | true =>
    obtain ⟨reported, rfl, config, identity, hbacked, hpath⟩ := hreports hreported
    simp only [reportsReady, Bool.and_eq_true, beq_iff_eq] at hreported
    simp only [Node.apply, hreported.1, if_true, Option.some.injEq] at hobservation
    subst hobservation
    exact ⟨hreported.1, config, identity, hbacked, hpath⟩
  | false =>
    have hbefore := apply_observation hreported hobservation hready
    obtain ⟨huid, config, identity, hbacked, hpath⟩ := htruthful observation hbefore hready
    have hundisturbed : disturbs podUID action = false := by
      cases hdisturbs : disturbs podUID action with
      | false => rfl
      | true => exact absurd ⟨observation, hbefore, hready⟩ (hspares hdisturbs)
    obtain ⟨verified, hafter, hverified⟩ := apply_lastPath hundisturbed hpath
    refine ⟨huid, config, identity, hbacked, ?_⟩
    rw [hafter, hverified rfl]

end Actions

/-! ## Lists of actions -/

/-- Every action of the list meets the condition in the state before it. -/
def Along (P : Node → AgentAction → Prop) : Node → List AgentAction → Prop
  | _, [] => True
  | node, action :: actions => P node action ∧ Along P (node.apply action) actions

/-- No call disturbs the path of the Pod while the Pod is reported ready. -/
def SparesReady (podUID : ObjectUID) (node : Node) (actions : List AgentAction) : Prop :=
  Along (fun n action => disturbs podUID action = true → ¬ HasReady n podUID) node actions

/-- The Pod is reported ready only with a verified path. -/
def ReportsVerified (parsers : NetworkParsers) (served : VPNWorkloadBinding → Prop)
    (podUID : ObjectUID) (node : Node) (actions : List AgentAction) : Prop :=
  Along (Reports parsers served podUID) node actions

section Lists

variable {P : Node → AgentAction → Prop}

theorem along_append {first second : List AgentAction} :
    Along P node (first ++ second) ↔ Along P node first ∧ Along P (node.applyAll first) second := by
  induction first generalizing node with
  | nil => simp [Along]
  | cons action first ih => simp [Along, ih, and_assoc]

theorem along_of_forall (h : ∀ action ∈ actions, ∀ n, P n action) : Along P node actions := by
  induction actions generalizing node with
  | nil => trivial
  | cons action actions ih =>
    exact ⟨h action List.mem_cons_self node,
      ih fun action' haction' => h action' (List.mem_cons_of_mem _ haction')⟩

theorem along_iff : Along P node actions ↔
    ∀ performed action left, actions = performed ++ action :: left →
      P (node.applyAll performed) action := by
  constructor
  · rintro h performed action left rfl
    exact (along_append.mp h).2.1
  intro h
  induction actions generalizing node with
  | nil => trivial
  | cons action actions ih =>
    refine ⟨h [] action actions rfl, ih fun performed action' left hsplit => ?_⟩
    exact h (action :: performed) action' left (by rw [hsplit, List.cons_append])

theorem reportsVerified_of_silent (h : ∀ action ∈ actions, reportsReady podUID action = false) :
    ReportsVerified parsers served podUID node actions := by
  refine along_of_forall fun action haction n hready => ?_
  rw [h action haction] at hready
  cases hready

/-- INTERNAL: **the property after some actions.** -/
theorem applyAll_truthful (hreports : ReportsVerified parsers served podUID node actions)
    (hspares : SparesReady podUID node actions) (htruthful : Truthful parsers served podUID node) :
    Truthful parsers served podUID (node.applyAll actions) := by
  induction actions generalizing node with
  | nil => exact htruthful
  | cons action actions ih =>
    exact ih hreports.2 hspares.2 (apply_truthful hreports.1 hspares.1 htruthful)

/-- The path of the Pod is the configuration in the namespace of the path. -/
def LastConfigured (node : Node) (podUID : ObjectUID) (netNS : String) (config : Config) : Prop :=
  ∃ verified, lastPath podUID node.issued = some ⟨node.namespaces netNS, config, verified⟩

theorem applyAll_lastConfigured (h : ∀ action ∈ actions, disturbs podUID action = false)
    (hlast : LastConfigured node podUID netNS config) :
    LastConfigured (node.applyAll actions) podUID netNS config := by
  refine applyAll_invariant (P := fun n => LastConfigured n podUID netNS config) ?_ hlast
  rintro action haction n ⟨verified, hpath⟩
  obtain ⟨verified', hafter, -⟩ := apply_lastPath (h action haction) hpath
  exact ⟨verified', by rw [hafter, apply_namespaces]⟩

/-- INTERNAL: **verifying the Pod's path and reporting it ready.** -/
theorem verified_reports (hconfig : config.podUID = podUID)
    (hbacked : Backed parsers served observation config)
    (hlast : LastConfigured node podUID netNS config) :
    ReportsVerified parsers served podUID node
      [.program (.verify netNS config true), .observe observation] := by
  obtain ⟨verified, hpath⟩ := hlast
  refine ⟨nofun, fun _ => ⟨observation, rfl, config, node.namespaces netNS, hbacked, ?_⟩, trivial⟩
  simp [Node.apply, lastPath, ProgrammerCall.podUID, ProgrammerCall.netNS, hconfig, hpath]

theorem configured_last (hconfig : config.podUID = podUID) :
    LastConfigured (node.apply (.program (.configure netNS config true))) podUID netNS config :=
  ⟨false, by simp [Node.apply, lastPath, ProgrammerCall.podUID, ProgrammerCall.netNS, hconfig]⟩

end Lists

/-! ## The operations -/

section Operations

theorem backed_of_authorized (h : Authorized s parsers answers identity requested binding config)
    (hserved : ∀ binding, answers.binding = .ok binding → served binding) :
    Backed parsers served (s.observation binding true answers.now) config :=
  ⟨binding, hserved binding h.bindingRead, rfl, rfl, rfl, h.config⟩

theorem program_reports (calls : List ProgrammerCall) (podUID : ObjectUID) :
    ∀ action ∈ calls.map AgentAction.program, reportsReady podUID action = false := by
  intro action haction
  obtain ⟨call, -, rfl⟩ := List.mem_map.mp haction
  rfl

theorem restrains_silent {other : ObjectUID} (h : Restrains other action) (podUID : ObjectUID) :
    reportsReady podUID action = false := by
  cases action with
  | observe observation => simp [reportsReady, h.2]
  | program | publish | forget | save | delete => rfl

theorem tidies_silent {other : ObjectUID} (h : Tidies other action) (podUID : ObjectUID) :
    reportsReady podUID action = false := by
  rcases h with h | ⟨key, rfl⟩
  · exact restrains_silent h podUID
  · rfl

theorem programming_silent {err : String}
    (h : Programming s parsers node answers identity requested keptWhen script)
    (herror : script.error = some err) (podUID : ObjectUID) :
    ∀ action ∈ script.actions, reportsReady podUID action = false := by
  cases h with
  | refused => simp [Script.fail]
  | denied => simp [reportsReady]
  | failed calls =>
    exact List.forall_mem_append.mpr ⟨program_reports calls podUID,
      by simpa using restrains_silent (notReady_restrains rfl) podUID⟩
  | kept => cases herror
  | programmed => cases herror

/-- INTERNAL: what programming a sandbox reports, performed in the state `n`. A path that is kept must
be the binding's. -/
theorem programming_reports {n : Node}
    (h : Programming s parsers node answers identity requested keptWhen script)
    (hserved : ∀ binding, answers.binding = .ok binding → served binding)
    (hkept : keptWhen → ∀ binding config,
      s.authority parsers answers identity requested = .ok (binding, config) →
      node.verifies identity.netNS identity.uid answers.verifyFirst = true →
      LastConfigured n identity.uid identity.netNS config) :
    ReportsVerified parsers served identity.uid n script.actions := by
  have hfailed {err : String} (herror : script.error = some err) :
      ReportsVerified parsers served identity.uid n script.actions :=
    reportsVerified_of_silent (programming_silent h herror _)
  cases h with
  | refused | denied | failed => exact hfailed rfl
  | kept hwhen hauthority hverifies =>
    have h := authority_ok hauthority
    exact verified_reports h.configPod (backed_of_authorized h hserved)
      (hkept hwhen _ _ hauthority hverifies)
  | programmed calls hauthority =>
    refine along_append.mpr ⟨reportsVerified_of_silent (program_reports calls _), nofun, ?_⟩
    exact verified_reports hauthority.configPod (backed_of_authorized hauthority hserved)
      (configured_last hauthority.configPod)

theorem lockdownAll_silent {answers : NodeService.LockdownAnswers} :
    ∀ action ∈ (s.lockdownAll node answers).actions, reportsReady podUID action = false := by
  intro action haction
  obtain ⟨other, hrestrains⟩ := lockdownAll_restrains haction
  exact restrains_silent hrestrains podUID

/-- INTERNAL: what the reconcile of a group reports, performed in the state `n`. -/
theorem reconciled_reports {answers : NodeService.GroupAnswers} {n : Node}
    (h : GroupReconciled s parsers node answers podUID attachments script)
    (hgroup : ∀ a ∈ attachments, a.pod.uid = podUID)
    (hserved : ∀ binding, answers.program.binding = .ok binding → served binding)
    (hkept : ∀ a ∈ attachments, ∀ binding config,
      s.authority parsers answers.program a.pod (NodeService.bindingReference binding) =
        .ok (binding, config) →
      a.bindingGeneration = binding.generation →
      node.verifies a.pod.netNS podUID answers.program.verifyFirst = true →
      LastConfigured n podUID a.pod.netNS config) :
    ReportsVerified parsers served podUID n script.actions := by
  cases h with
  | tidied h =>
    exact reportsVerified_of_silent fun action haction => tidies_silent (h action haction) podUID
  | @programmed current _ _ saved rest _ hcurrent hprogram _ hrest =>
    have huid := hgroup current hcurrent
    refine along_append.mpr ⟨?_, reportsVerified_of_silent (List.forall_mem_append.mpr
      ⟨by simp [reportsReady], fun action haction =>
        tidies_silent (hrest action haction) podUID⟩)⟩
    rw [← huid]
    refine programming_reports hprogram hserved ?_
    intro hgeneration authorized config hauthority hverifies
    have hexact := (authority_ok hauthority).exact
    rw [huid] at hverifies ⊢
    refine hkept current hcurrent authorized config (by rw [hexact, hauthority]) ?_ hverifies
    rw [hgeneration]
    exact (congrArg BindingReference.generation hexact).symm

end Operations

/-! ## Runs -/

/-- The bindings an operation may take its configuration from. -/
def readsBinding : AgentEvent → VPNWorkloadBinding → Prop
  | .prepare _ _ answers, binding => answers.binding = .ok binding
  | .check _ _ answers, binding => answers.binding = .ok binding
  | .reconcileAll answers, binding => ∃ podUID, (answers.group podUID).program.binding = .ok binding
  | _, _ => False

/-- The operation keeps a path that it finds verified only if the path was configured as the binding
says. -/
def KeepsConfigured (s : NodeService) (parsers : NetworkParsers) (node : Node) : AgentEvent → Prop
  | .check identity requested answers =>
    s.ready node = true → ∀ binding config,
      s.authority parsers answers identity requested = .ok (binding, config) →
      node.verifies identity.netNS identity.uid answers.verifyFirst = true →
      LastConfigured node identity.uid identity.netNS config
  | .reconcileAll answers =>
    s.transitionHeld = false → ∀ attachment ∈ node.attachments, ∀ binding config,
      s.authority parsers (answers.group attachment.pod.uid).program attachment.pod
        (NodeService.bindingReference binding) = .ok (binding, config) →
      attachment.bindingGeneration = binding.generation →
      node.verifies attachment.pod.netNS attachment.pod.uid
        (answers.group attachment.pod.uid).program.verifyFirst = true →
      LastConfigured node attachment.pod.uid attachment.pod.netNS config
  | _ => True

/-- The property at every moment of a step: after it, and before and after each of its actions. -/
def TruthfulThroughout (parsers : NetworkParsers) (served : VPNWorkloadBinding → Prop)
    (podUID : ObjectUID) (r : Record Node AgentEvent Script) : Prop :=
  Truthful parsers served podUID r.after ∧
    ∀ performed left, r.output.actions = performed ++ left →
      Truthful parsers served podUID (r.before.applyAll performed)

section Runs

theorem silent_of_concerns (h : ∀ action ∈ actions, concerns action ≠ some podUID) :
    ∀ action ∈ actions, reportsReady podUID action = false :=
  fun action haction => Bool.eq_false_iff.mpr
    fun hready => h action haction (reportsReady_concerns hready)

theorem silent_of_scoped {other : ObjectUID} (h : ScopedTo other actions)
    (hother : podUID ≠ other) : ∀ action ∈ actions, reportsReady podUID action = false :=
  silent_of_concerns fun action haction hconcerns => hother (h action haction podUID hconcerns)

/-- INTERNAL: **what one operation reports of one Pod.** -/
theorem script_reports (podUID : ObjectUID)
    (hserved : ∀ binding, readsBinding event binding → served binding)
    (hkept : KeepsConfigured s parsers node event) :
    ReportsVerified parsers served podUID node (s.script parsers node event).actions := by
  cases event with
  | prepare identity =>
    by_cases huid : podUID = identity.uid
    · subst huid
      exact programming_reports servePrepare_programming hserved False.elim
    · exact reportsVerified_of_silent (silent_of_scoped servePrepare_programming.scoped huid)
  | check identity =>
    by_cases huid : podUID = identity.uid
    · subst huid
      exact programming_reports serveCheck_programming hserved hkept
    · exact reportsVerified_of_silent (silent_of_scoped serveCheck_programming.scoped huid)
  | withdraw identity answers =>
    exact reportsVerified_of_silent fun action haction =>
      restrains_silent (withdraw_restrains s node answers identity action haction) podUID
  | lockdownAll => exact reportsVerified_of_silent lockdownAll_silent
  | reconcileAll answers =>
    cases hheld : s.transitionHeld with
    | true =>
      rw [held_reconcileAll hheld]
      exact reportsVerified_of_silent lockdownAll_silent
    | false =>
      dsimp only [NodeService.script]
      rcases reconcileAll_split parsers node answers hheld podUID with
        hnone | ⟨first, rest, hactions, hfirst, hrest⟩
      · exact reportsVerified_of_silent (silent_of_concerns hnone)
      rw [hactions]
      refine along_append.mpr ⟨reportsVerified_of_silent (silent_of_concerns hfirst),
        along_append.mpr ⟨?_, reportsVerified_of_silent (silent_of_concerns hrest)⟩⟩
      refine reconciled_reports (groupScript_reconciled podUID)
        (fun a ha => (mem_attachmentGroup.mp ha).2)
        (fun binding hread => hserved binding ⟨podUID, hread⟩) ?_
      intro a ha binding config hauthority hgeneration hverifies
      obtain ⟨hmem, rfl⟩ := mem_attachmentGroup.mp ha
      refine applyAll_lastConfigured (fun action haction => Bool.eq_false_iff.mpr
        fun hdisturbs => hfirst action haction (disturbs_concerns hdisturbs)) ?_
      exact hkept hheld a (KeyedStore.mem_entries.mp (List.mem_of_mem_filter hmem)) binding config
        hauthority hgeneration hverifies
  | health | environment => trivial

/-- INTERNAL: **a step that spares the Pod** while it is reported ready. -/
theorem next_truthful {r : Record Node AgentEvent Script}
    (hrec : r = record (Node.next s parsers) r.before r.input)
    (hserved : ∀ binding, readsBinding r.input binding → served binding)
    (hkept : KeepsConfigured s parsers r.before r.input)
    (hspares : SparesReady podUID r.before r.output.actions)
    (htruthful : Truthful parsers served podUID r.before) :
    TruthfulThroughout parsers served podUID r := by
  have hreports := script_reports podUID hserved hkept
  have houtput : r.output = s.script parsers r.before r.input := by
    rw [hrec]
    exact next_output s parsers r.before r.input
  rw [← houtput] at hreports
  constructor
  · have hall := applyAll_truthful hreports hspares htruthful
    rw [houtput] at hall
    rw [hrec]
    cases hinput : r.input with
    | health | environment => exact htruthful
    | prepare | check | withdraw | reconcileAll | lockdownAll =>
      rw [hinput] at hall
      exact hall
  · intro performed left hsplit
    rw [hsplit] at hreports hspares
    exact applyAll_truthful (along_append.mp hreports).1 (along_append.mp hspares).1 htruthful

/-- INTERNAL: a step at every moment of which the property holds spares the Pod. -/
theorem TruthfulThroughout.spares {r : Record Node AgentEvent Script}
    (h : TruthfulThroughout parsers served podUID r) :
    SparesReady podUID r.before r.output.actions := by
  refine along_iff.mpr fun performed action left hsplit hdisturbs hready => ?_
  obtain ⟨observation, hobservation, hobserved⟩ := hready
  -- the call changes no observation, so the Pod is still reported ready after it
  have hstill : ((r.before.applyAll performed).apply action).observations podUID =
      some observation := by
    cases action with
    | program => exact hobservation
    | observe | forget uid | publish | save | delete key => cases hdisturbs
  have hafter := h.2 (performed ++ [action]) left (by simpa using hsplit)
  rw [applyAll_append] at hafter
  obtain ⟨-, config, identity, -, hpath⟩ := hafter observation hstill hobserved
  exact disturbed_path hdisturbs hpath

end Runs

/-- Parsers that know the texts of the binding below. -/
def agentParsers : NetworkParsers :=
  { parsePrefix := fun text =>
      if text = "10.77.0.2/32" then some ⟨.v4 0x0a4d0002#32, 32⟩ else some ⟨.v4 0x0a4d0000#32, 24⟩
    parseAddr := fun _ => some (.v4 0x0a4d0001#32)
    parseAddrPort := fun _ => some ⟨.v4 0xc0a80001#32, 4789⟩
    parseInt32 := fun _ => none }

def agentBinding (generation : Int) : VPNWorkloadBinding :=
  { namespaceName := "apps", name := "pod-pod-uid", uid := "binding-uid", generation
    deletionTimestamp := none, finalizers := [dataplaneCleanupFinalizer]
    spec :=
      { podRef := ⟨"web", "pod-uid"⟩, routeRef := ⟨"private", "route-uid"⟩
        gatewayRef := ⟨"vpn", "gateway", "gateway-uid"⟩, nodeName := "node-a"
        allocation := { identity := "identity", address := "10.77.0.2/32" }
        network :=
          { gatewayGeneration := 1, overlayCIDR := "10.77.0.0/24", gatewayAddress := "10.77.0.1"
            gatewayEndpoint := "192.168.0.1:4789", gatewayHealthPort := 1400, vni := 1400
            mtu := 1400, clusterTraffic := { mode := .tunnelAll, bypassCIDRs := [] } } }
    status := .empty }

/-- The configuration of that binding. -/
def agentConfig (generation : Int) : Config :=
  { podUID := "pod-uid", allocationGeneration := generation, gatewayGeneration := 1
    address := ⟨.v4 0x0a4d0002#32, 24⟩, overlayCIDR := ⟨.v4 0x0a4d0000#32, 24⟩
    gatewayAddress := .v4 0x0a4d0001#32, gatewayEndpoint := ⟨.v4 0xc0a80001#32, 4789⟩
    gatewayHealthPort := 1400, vni := 1400, mtu := 1400, clusterTrafficMode := .gateway
    clusterCIDRs := [] }

def agentPod : Pod :=
  { namespaceName := "apps", name := "web", uid := "pod-uid", routeLabel := "private"
    nodeName := "node-a", deletionTimestamp := none, phase := .running, podIP := "" }

def agentSandbox : PodIdentity :=
  { namespaceName := "apps", name := "web", uid := "pod-uid", containerID := "sandbox"
    ifName := "eth0", netNS := "/run/netns/sandbox" }

def agentService (held : Bool) : NodeService :=
  { nodeName := "node-a", nodeBootID := "boot", instanceID := "plan", requireRelay := true
    transitionHeld := held, publisher := true }

/-- A node with the sandbox and nothing else. -/
def agentNode (attachments : List Attachment) (h : (attachments.map Attachment.key).Nodup) : Node :=
  { attachments := ⟨attachments, h⟩
    namespaces := fun path => if path = agentSandbox.netNS then some "ns:1" else none
    issued := [], observations := fun _ => none, relayHealthy := false, backendHealthy := false }

/-- Reads and calls that succeed. -/
def agentProgram (generation : Int) : NodeService.ProgramAnswers :=
  { pod := .ok agentPod, binding := .ok (agentBinding generation), verifyFirst := true
    lockdown := true, configure := true, verify := true, relock := true, now := 0 }

def agentReference (generation : Int) : BindingReference :=
  NodeService.bindingReference (agentBinding generation)

/-- The sandbox is prepared while the agent is healthy, and then checked. -/
def preparedThenChecked (relay : Bool) : List AgentEvent :=
  [.health true true, .prepare agentSandbox (agentReference 1) (agentProgram 1),
    .health relay true, .check agentSandbox (agentReference 1) (agentProgram 1)]

end Waycloak.Analysis
