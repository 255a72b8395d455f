import Waycloak.Interface.DialogueSteps

/-!
# Scripts of the node agent are runs of its dialogues

`NodeService.script` computes what an operation does from one node and one answer for each call site;
`AgentOperation.dialogue` asks for every answer when it needs it. The script of a `Prepare`, a `Check`
or a `LockdownAll` is what some run of the dialogue does: `performed` reads an action off an exchange,
and the lemmas follow the operations in the order in which they call each other, up to
`script_performs`.
-/

set_option autoImplicit false

namespace Waycloak.Interface

open Waycloak.Model Waycloak.Computation Waycloak.Computation.Dialogue

/-- The action an exchange is, if it is one. A failed write of the store is none. -/
def performed : AgentExchange → Option AgentAction
  | ⟨.saveAttachment attachment, none⟩ => some (.save attachment)
  | ⟨.deleteAttachment key, none⟩ => some (.delete key)
  | ⟨.installLockdown pod, ok⟩ => some (.program (.installLockdown pod.netNS pod.uid ok))
  | ⟨.configure pod config, ok⟩ => some (.program (.configure pod.netNS config ok))
  | ⟨.verify pod config, ok⟩ => some (.program (.verify pod.netNS config ok))
  | ⟨.cleanup pod, (denied, ok)⟩ => some (.program (.cleanup pod.netNS pod.uid denied ok))
  | ⟨.publish observation, failure⟩ => some (.publish observation failure.isNone)
  | ⟨.observe observation, _⟩ => some (.observe observation)
  | ⟨.forget podUID, _⟩ => some (.forget podUID)
  | _ => none

section Performs

variable {s : NodeService} {parsers : NetworkParsers} (node : Node) {identity : PodIdentity}
  {requested : BindingReference}

theorem performs_ask {α : Type} {r : AgentCall} (x : r.Answer) {f : r.Answer → AgentDialogue α}
    {actions : List AgentAction} {a : α} (h : Performs performed (f x) actions a) :
    Performs performed (request r >>= f) ((performed ⟨r, x⟩).toList ++ actions) a :=
  performs_bind (performs_request r x) h

theorem observe_performs (binding : VPNWorkloadBinding) (ready : Bool) (now : Time) :
    Performs performed (AgentDialogue.observe s binding ready) [s.observe binding ready now]
      (s.observation binding ready now) :=
  performs_ask (r := .now) now (performs_ask (r := .observe _) () performs_pure)

theorem observed_performs {α : Type} (binding : VPNWorkloadBinding) (ready : Bool) (now : Time)
    (a : α) :
    Performs performed (do let _ ← AgentDialogue.observe s binding ready; return a)
      [s.observe binding ready now] a :=
  performs_bind (observe_performs binding ready now) performs_pure

/-! ## Prepare and Check -/

theorem pod_performs (read : Except ReadError Pod) :
    Performs performed (AgentDialogue.pod s identity) [] (s.pod read identity) := by
  cases hvalid : identity.validate with
  | error err =>
    simp only [AgentDialogue.pod, NodeService.pod, hvalid]
    exact performs_pure
  | ok _ =>
    by_cases hnode : s.nodeName = ""
    · simp only [AgentDialogue.pod, NodeService.pod, hvalid, if_pos hnode]
      exact performs_pure
    · simp only [AgentDialogue.pod, hvalid, if_neg hnode]
      exact performs_ask (r := .readPod _ _) read performs_pure

theorem binding_performs (read : Except ReadError VPNWorkloadBinding) (pod : Pod) :
    Performs performed (AgentDialogue.binding s pod) [] (s.binding read pod) :=
  performs_ask (r := .readBinding _ _) read performs_pure

variable (answers : NodeService.ProgramAnswers)

theorem authority_performs :
    Performs performed (AgentDialogue.authority s parsers identity requested) []
      (s.authority parsers answers identity requested) := by
  unfold AgentDialogue.authority NodeService.authority
  cases requested.validate identity.uid with
  | error err => exact performs_pure
  | ok _ =>
    refine performs_bind (pod_performs answers.pod) ?_
    dsimp only
    cases s.pod answers.pod identity with
    | error err => exact performs_pure
    | ok pod =>
      refine performs_bind (binding_performs answers.binding pod) ?_
      dsimp only
      cases s.binding answers.binding pod with
      | error err => exact performs_pure
      | ok binding =>
        dsimp only
        split
        · exact performs_pure
        · cases configFromBinding parsers binding <;> exact performs_pure

theorem reaches_false (netNS : String) : node.reaches netNS false = false := by
  simp [Node.reaches]

theorem reaches_true {node : Node} {netNS : String} {answer : Bool}
    (h : ¬ node.reaches netNS answer = false) : node.reaches netNS true = true := by
  simp only [Node.reaches, Bool.not_eq_false, Bool.and_eq_true] at h ⊢
  exact ⟨h.1, trivial⟩

theorem relock_performs {α : Type} (binding : VPNWorkloadBinding) (ok : Bool) (now : Time) (a : α) :
    Performs performed (do
        let _ ← AgentDialogue.installLockdown identity
        let _ ← AgentDialogue.observe s binding false
        return a)
      [.program (.installLockdown identity.netNS identity.uid ok), s.observe binding false now] a :=
  performs_ask (r := .installLockdown identity) ok (observed_performs binding false now a)

theorem prepare_performs : Performs performed (AgentDialogue.prepare s parsers identity requested)
      (s.prepare parsers node answers identity requested).actions
      (s.prepare parsers node answers identity requested).error := by
  unfold NodeService.prepare
  refine performs_bind (authority_performs answers) ?_
  cases s.authority parsers answers identity requested with
  | error err => exact performs_pure
  | ok granted =>
    obtain ⟨binding, config⟩ := granted
    dsimp only
    split
    · rw [reaches_false]
      exact performs_ask (r := .installLockdown identity) false performs_pure
    next hlockdown =>
    rw [reaches_true hlockdown]
    split
    · refine performs_ask (r := .installLockdown identity) true ?_
      exact performs_ask (r := .configure identity config) false (relock_performs _ _ _ _)
    split
    · refine performs_ask (r := .installLockdown identity) true ?_
      refine performs_ask (r := .configure identity config) true ?_
      exact performs_ask (r := .verify identity config) false (relock_performs _ _ _ _)
    · refine performs_ask (r := .installLockdown identity) true ?_
      refine performs_ask (r := .configure identity config) true ?_
      exact performs_ask (r := .verify identity config) true (observed_performs _ _ _ _)

theorem check_performs : Performs performed (AgentDialogue.check s parsers identity requested)
      (s.check parsers node answers identity requested).actions
      (s.check parsers node answers identity requested).error := by
  unfold NodeService.check
  refine performs_bind (authority_performs answers) ?_
  cases s.authority parsers answers identity requested with
  | error err => exact performs_ask (r := .installLockdown identity) _ performs_pure
  | ok granted =>
    obtain ⟨binding, config⟩ := granted
    dsimp only
    split
    · exact performs_ask (r := .verify identity config) true (observed_performs _ _ _ _)
    split
    · rw [reaches_false]
      refine performs_ask (r := .verify identity config) false ?_
      exact performs_ask (r := .installLockdown identity) false (observed_performs _ _ _ _)
    next hlockdown =>
    rw [reaches_true hlockdown]
    split
    · refine performs_ask (r := .verify identity config) false ?_
      refine performs_ask (r := .installLockdown identity) true ?_
      exact performs_ask (r := .configure identity config) false (observed_performs _ _ _ _)
    split
    · refine performs_ask (r := .verify identity config) false ?_
      refine performs_ask (r := .installLockdown identity) true ?_
      refine performs_ask (r := .configure identity config) true ?_
      exact performs_ask (r := .verify identity config) false (relock_performs _ _ _ _)
    · refine performs_ask (r := .verify identity config) false ?_
      refine performs_ask (r := .installLockdown identity) true ?_
      refine performs_ask (r := .configure identity config) true ?_
      exact performs_ask (r := .verify identity config) true (observed_performs _ _ _ _)

theorem servePrepare_performs :
    Performs performed (AgentDialogue.servePrepare s parsers identity requested)
      (s.servePrepare parsers node answers identity requested).actions
      (s.servePrepare parsers node answers identity requested).error := by
  unfold NodeService.servePrepare
  split
  · exact performs_ask (r := .ready) false performs_pure
  · exact performs_ask (r := .ready) true (prepare_performs node answers)

theorem serveCheck_performs :
    Performs performed (AgentDialogue.serveCheck s parsers identity requested)
      (s.serveCheck parsers node answers identity requested).actions
      (s.serveCheck parsers node answers identity requested).error := by
  unfold NodeService.serveCheck
  split
  · refine performs_ask (r := .ready) false ?_
    exact performs_ask (r := .installLockdown identity) _ performs_pure
  · exact performs_ask (r := .ready) true (check_performs node answers)

/-! ## LockdownAll -/

theorem observeNotReady_performs (read : Except ReadError VPNWorkloadBinding)
    (namespaceName : NamespaceName) (podUID : ObjectUID) (now : Time) :
    Performs performed (AgentDialogue.observeNotReady s namespaceName podUID)
      (s.observeNotReady read podUID now) () := by
  have hread : Performs performed (AgentDialogue.rawBinding namespaceName podUID) []
      (NodeService.rawBinding read podUID) :=
    performs_ask (r := .readBinding _ _) read performs_pure
  unfold NodeService.observeNotReady
  refine performs_bind hread ?_
  cases NodeService.rawBinding read podUID with
  | error err => exact performs_pure
  | ok => exact observed_performs _ _ _ _

theorem lockdownAttachment_performs (answers : NodeService.LockdownAnswers)
    (attachment : Attachment) :
    Performs performed (AgentDialogue.lockdownAttachment s attachment)
      (s.lockdownAttachment node answers attachment).actions
      (s.lockdownAttachment node answers attachment).error := by
  unfold NodeService.lockdownAttachment
  refine performs_ask (r := .identity attachment)
    (node.identity (answers.identityFailure attachment.key) attachment.pod.netNS) ?_
  cases node.identity (answers.identityFailure attachment.key) attachment.pod.netNS with
  | error err => exact performs_pure
  | ok =>
    dsimp only
    split
    · exact performs_pure
    split
    · exact performs_ask (r := .installLockdown attachment.pod) false performs_pure
    · refine performs_ask (r := .installLockdown attachment.pod) true ?_
      exact performs_bind_pure (observeNotReady_performs (answers.binding attachment.key)
        attachment.pod.namespaceName attachment.pod.uid answers.now)

theorem observeNodeBindings_performs (answers : NodeService.LockdownAnswers) :
    Performs performed (AgentDialogue.observeNodeBindings s) (s.observeNodeBindings answers).actions
      (s.observeNodeBindings answers).error := by
  unfold NodeService.observeNodeBindings
  refine performs_ask (r := .listBindings) answers.bindings ?_
  cases answers.bindings with
  | error err => exact performs_pure
  | ok bindings =>
    have heach : Performs performed
        (each (fun binding => AgentDialogue.observe s binding false)
          (bindings.filter s.reportable))
        ((bindings.filter s.reportable).flatMap fun binding =>
          [s.observe binding false answers.now]) _ :=
      performs_each fun binding _ => observe_performs binding false answers.now
    rw [← List.map_eq_flatMap] at heach
    exact performs_bind_pure heach

theorem lockdownAll_performs (answers : NodeService.LockdownAnswers) :
    Performs performed (AgentDialogue.lockdownAll s) (s.lockdownAll node answers).actions
      (s.lockdownAll node answers).error := by
  unfold NodeService.lockdownAll
  cases answers.listFailure with
  | some err => exact performs_ask (r := .listAttachments) (.error err) performs_pure
  | none =>
    refine performs_ask (r := .listAttachments) (.ok node.attachments.entries) ?_
    have heach : Performs performed
        (each (AgentDialogue.lockdownAttachment s) node.attachments.entries) _ _ :=
      performs_each fun attachment _ => lockdownAttachment_performs node answers attachment
    have hrest (errs : List (Option String)) : Performs performed
        (AgentDialogue.observeNodeBindings s >>= fun err => pure (joinErrors (errs ++ [err]))) _ _ :=
      performs_bind_pure (observeNodeBindings_performs answers)
    have hall := performs_bind (f := fun errs => AgentDialogue.observeNodeBindings s >>= fun err =>
      pure (joinErrors (errs ++ [err]))) heach (hrest _)
    simpa [Script.all, Function.comp_def, List.flatMap_def] using hall

end Performs

/-- The operation an event asks for, where its script is compared with the dialogue. -/
def operationOf : AgentEvent → Option AgentOperation
  | .prepare identity requested _ => some (.prepare identity requested)
  | .check identity requested _ => some (.check identity requested)
  | .lockdownAll _ => some .lockdownAll
  | _ => none

/-- INTERNAL: **the script of a request or of a lockdown is what some run of its dialogue does**, in
the same order and with the same error. -/
theorem script_performs (s : NodeService) (parsers : NetworkParsers) (node : Node)
    {event : AgentEvent} {operation : AgentOperation} (h : operationOf event = some operation) :
    Performs performed (operation.dialogue s parsers) (s.script parsers node event).actions
      (s.script parsers node event).error := by
  cases event <;> cases h
  case prepare identity requested answers => exact servePrepare_performs node answers
  case check identity requested answers => exact serveCheck_performs node answers
  case lockdownAll answers => exact lockdownAll_performs node answers

end Waycloak.Interface
