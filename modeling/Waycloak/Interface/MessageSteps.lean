import Waycloak.Interface.DeploymentSteps
import Waycloak.Model.Messages

/-!
# What one step of the message system can do

`MessagingCase` is the inversion of `Messaging.next`. `Consistent` is the invariant that ties
the waiting reconcile to its message: the message it waits for is the last one sent, an
answer it has heard comes from a runtime that processed that message, and what it read is
what is stored unless the lease has changed since.
-/

set_option autoImplicit false

namespace Waycloak.Interface

open Waycloak.Model Waycloak.Computation

variable {leaseUID : ObjectUID}

/-! ## Steps -/

/-- What a step of the message system can do. -/
inductive MessagingCase (s : Messaging) :
    MessagingInput → Messaging × Option (Message × Reply) → Prop
  /-- no reconcile and no message moves, and the status stays -/
  | quiet (input : MessagingInput) (s' : Messaging)
      (hstore : s'.store = s.store ∨ ∃ stored lease, s.store = some stored ∧
        StatusKept stored lease ∧ s'.store = stored.replace lease)
      (hwaiting : s'.waiting = s.waiting) (hinflight : s'.inflight = s.inflight)
      (hserved : s'.served = s.served) (hnext : s'.nextId = s.nextId) :
      MessagingCase s input (s', none)
  | started (stored : StoredLease) (reconciler : PortForwardLeaseReconciler) (api : ApiView)
      (hidle : s.waiting = none) (hstore : s.store = some stored) :
      MessagingCase s (.start reconciler api) (s.begin stored reconciler api, none)
  | processed (index : ℕ) (b : Backends) (message : Message)
      (hmessage : s.inflight[index]? = some message) :
      MessagingCase s (.process index b) (s.process index message b,
        some (message, (Deployment.serve s.gateways message.request.gatewayUID
          (message.request.call b)).2))
  | finished (w : Waiting) (abandoned : Option String) (written : Bool)
      (answer : Observation × Option String) (hwaiting : s.waiting = some w)
      (houtcome : w.outcome abandoned = some answer) :
      MessagingCase s (.finish abandoned written)
        ({ s with
            waiting := none
            store := s.store.bind fun stored =>
              if written then stored.write (w.resume answer) else some stored }, none)

/-- INTERNAL: **the inversion of the message system's step.** -/
theorem next_messagingCase (leaseUID : ObjectUID) (s : Messaging) (input : MessagingInput) :
    MessagingCase s input (s.next leaseUID input) := by
  have hsame : MessagingCase s input (s, none) := .quiet input s (Or.inl rfl) rfl rfl rfl rfl
  cases input with
  | start reconciler api =>
    cases hidle : s.waiting with
    | some w => simpa only [Messaging.next, hidle] using hsame
    | none =>
      cases hstore : s.store with
      | none => simpa only [Messaging.next, hidle, hstore] using hsame
      | some stored =>
        simpa only [Messaging.next, hidle, hstore] using
          MessagingCase.started stored reconciler api hidle hstore
  | process index b =>
    cases hmessage : s.inflight[index]? with
    | none => simpa only [Messaging.next, hmessage] using hsame
    | some message =>
      simpa only [Messaging.next, hmessage] using
        MessagingCase.processed index b message hmessage
  | finish abandoned written =>
    cases hwaiting : s.waiting with
    | none => simpa only [Messaging.next, hwaiting] using hsame
    | some w =>
      cases houtcome : w.outcome abandoned with
      | none => simpa only [Messaging.next, hwaiting, houtcome] using hsame
      | some answer =>
        simpa only [Messaging.next, hwaiting, houtcome] using
          MessagingCase.finished w abandoned written answer hwaiting houtcome
  | edit =>
    refine .quiet _ _ ?_ rfl rfl rfl rfl
    cases hstore : s.store with
    | none => exact Or.inl rfl
    | some stored =>
      refine Or.inr ⟨stored, _, rfl, ?_, rfl⟩
      exact ⟨rfl, rfl⟩
  | request _ call =>
    by_cases hown : call.leaseUID = leaseUID
    · simpa only [Messaging.next, if_pos hown] using hsame
    · simp only [Messaging.next, if_neg hown]
      exact .quiet _ _ (Or.inl rfl) rfl rfl rfl rfl

theorem begin_cases (s : Messaging) (stored : StoredLease) (reconciler : PortForwardLeaseReconciler)
    (api : ApiView) :
    (Waiting.request reconciler api stored.lease = none ∧
      s.begin stored reconciler api =
        { s with waiting := some ⟨stored, reconciler, api, none, none⟩ }) ∨
    ∃ request, Waiting.request reconciler api stored.lease = some request ∧
      s.begin stored reconciler api =
        { s with
          waiting := some ⟨stored, reconciler, api, some s.nextId, none⟩
          inflight := s.inflight ++ [⟨s.nextId, request⟩]
          nextId := s.nextId + 1 } := by
  unfold Messaging.begin
  cases hrequest : Waiting.request reconciler api stored.lease with
  | none => exact Or.inl ⟨rfl, rfl⟩
  | some request => exact Or.inr ⟨request, rfl, rfl⟩

/-! ## The waiting reconcile and its message -/

variable (message : Message) (stored : StoredLease)

/-- The message asks for the withdrawal of the lease at the generation. -/
def Message.Withdraws (leaseUID : ObjectUID) (generation : Int) : Prop :=
  ∃ gatewayUID intent, message.request = .withdraw gatewayUID intent ∧
    intent.leaseUID = leaseUID ∧ intent.handoffGeneration = generation

instance (message : Message) (leaseUID : ObjectUID) (generation : Int) :
    Decidable (Message.Withdraws message leaseUID generation) :=
  match h : message.request with
  | .reconcile _ _ => isFalse fun ⟨_, _, hrequest, _⟩ => by simp [h] at hrequest
  | .withdraw gatewayUID intent =>
    decidable_of_iff (intent.leaseUID = leaseUID ∧ intent.handoffGeneration = generation)
      ⟨fun hnames => ⟨gatewayUID, intent, h, hnames⟩, by
        rintro ⟨_, intent', hrequest, hnames⟩
        rw [h] at hrequest
        cases hrequest
        exact hnames⟩

/-- If the answer says `Withdrawn`, the message asked for that withdrawal. -/
def Message.Accounts (answer : Observation × Option String) : Prop :=
  answer.1.withdrawn = true →
    Message.Withdraws message answer.1.leaseUID answer.1.handoffGeneration

structure Consistent (leaseUID : ObjectUID) (s : Messaging) : Prop where
  named : ∀ stored, s.store = some stored → stored.lease.uid = leaseUID
  reads : ∀ w, s.waiting = some w → w.read.lease.uid = leaseUID
  numbered : ∀ message ∈ s.inflight, message.id < s.nextId
  awaited : ∀ w id, s.waiting = some w → w.awaits = some id → s.nextId = id + 1
  answered : ∀ w answer, s.waiting = some w → w.answer = some answer →
    ∃ message ∈ s.served, w.awaits = some message.id ∧ Message.Accounts message answer
  dated : ∀ w stored, s.waiting = some w → s.store = some stored →
    w.read.version ≤ stored.version ∧ (w.read.version = stored.version → w.read = stored)

/-- INTERNAL: what the client hears of a processed message accounts for it.
SOURCE: portforward/transport.go:144-158 -/
theorem clientAnswer_accounts (b : Backends) (m : GatewayRuntimeManager) :
    Message.Accounts message (clientAnswer ((message.request.call b).result m)) := by
  intro hwithdrawn
  unfold clientAnswer at hwithdrawn ⊢
  split at hwithdrawn
  · cases hrequest : message.request with
      | reconcile gatewayUID intent =>
        rw [hrequest] at hwithdrawn
        have hnot := reconcile_not_withdrawn m b gatewayUID intent
        exact absurd (hnot.symm.trans hwithdrawn) (by simp)
      | withdraw gatewayUID intent =>
        rw [hrequest] at hwithdrawn
        obtain ⟨huid, hgeneration, -⟩ := withdraw_reported hwithdrawn
        exact ⟨gatewayUID, intent, hrequest, huid.symm, hgeneration.symm⟩
  · cases hwithdrawn

abbrev MessagingRecord := Record Messaging MessagingInput (Option (Message × Reply))

def messagingRun (inputs : List MessagingInput) : List MessagingRecord :=
  exec (Messaging.next stored.lease.uid) (Messaging.start stored) inputs

theorem record_messagingCase {r : MessagingRecord}
    (h : r = record (Messaging.next leaseUID) r.before r.input) :
    MessagingCase r.before r.input (r.after, r.output) := by
  have hcase := next_messagingCase leaseUID r.before r.input
  rw [h]
  exact hcase

theorem consistent_start : Consistent stored.lease.uid (Messaging.start stored) := by
  constructor
  · intro stored' hstored'
    cases hstored'
    rfl
  · intro w hwaiting
    cases hwaiting
  · intro message hmessage
    cases hmessage
  · intro w id hwaiting
    cases hwaiting
  · intro w answer hwaiting
    cases hwaiting
  · intro w stored' hwaiting
    cases hwaiting

theorem consistent_begin {s : Messaging} {stored : StoredLease}
    {reconciler : PortForwardLeaseReconciler} {api : ApiView} (h : Consistent leaseUID s)
    (hstore : s.store = some stored) : Consistent leaseUID (s.begin stored reconciler api) := by
  have hreads : ∀ {awaits} w, some (⟨stored, reconciler, api, awaits, none⟩ : Waiting) = some w →
      w.read.lease.uid = leaseUID := by
    intro awaits w hw
    cases hw
    exact h.named stored hstore
  rcases begin_cases s stored reconciler api with ⟨-, hbegin⟩ | ⟨request, -, hbegin⟩
  · rw [hbegin]
    refine ⟨h.named, hreads, h.numbered, ?_, ?_, ?_⟩
    · rintro w id hw hid
      cases hw
      cases hid
    · rintro w answer hw hanswer
      cases hw
      cases hanswer
    · rintro w stored' hw hstored'
      cases hw
      have hsame : stored = stored' := Option.some.inj (hstore.symm.trans hstored')
      exact ⟨le_of_eq (congrArg StoredLease.version hsame), fun _ => hsame⟩
  · rw [hbegin]
    refine ⟨h.named, hreads, ?_, ?_, ?_, ?_⟩
    · intro message hmessage
      rcases List.mem_append.mp hmessage with hold | hnew
      · have := h.numbered message hold
        exact Nat.lt_succ_of_lt this
      · rw [List.mem_singleton.mp hnew]
        exact Nat.lt_succ_self _
    · rintro w id hw hid
      cases hw
      cases hid
      rfl
    · rintro w answer hw hanswer
      cases hw
      cases hanswer
    · rintro w stored' hw hstored'
      cases hw
      have hsame : stored = stored' := Option.some.inj (hstore.symm.trans hstored')
      exact ⟨le_of_eq (congrArg StoredLease.version hsame), fun _ => hsame⟩

theorem consistent_process {s : Messaging} {index : ℕ} {message : Message} {b : Backends}
    (h : Consistent leaseUID s) : Consistent leaseUID (s.process index message b) := by
  -- hearing an answer changes nothing else of the waiting reconcile
  have hheard : ∀ w', (s.process index message b).waiting = some w' → ∃ w, s.waiting = some w ∧
      w'.read = w.read ∧ w'.awaits = w.awaits ∧ ∀ answer, w'.answer = some answer →
        w.answer = some answer ∨ (w.awaits = some message.id ∧ Message.Accounts message answer) := by
    intro w' hw'
    obtain ⟨w, hw, rfl⟩ := Option.map_eq_some_iff.mp hw'
    refine ⟨w, hw, ?_⟩
    unfold Waiting.hear
    split
    · next hawaits =>
      refine ⟨rfl, rfl, ?_⟩
      rintro answer hanswer
      cases hanswer
      exact Or.inr ⟨hawaits, clientAnswer_accounts message b _⟩
    · exact ⟨rfl, rfl, fun answer hanswer => Or.inl hanswer⟩
  constructor
  · exact h.named
  · intro w' hw'
    obtain ⟨w, hw, hread, -⟩ := hheard w' hw'
    rw [hread]
    exact h.reads w hw
  · intro m hm
    exact h.numbered m ((List.eraseIdx_sublist _ _).subset hm)
  · intro w' id hw' hid
    obtain ⟨w, hw, -, hawaits, -⟩ := hheard w' hw'
    exact h.awaited w id hw (hawaits ▸ hid)
  · intro w' answer hw' hanswer
    obtain ⟨w, hw, -, hawaits, hcases⟩ := hheard w' hw'
    rw [hawaits]
    rcases hcases answer hanswer with hold | ⟨hid, haccounts⟩
    · obtain ⟨m, hm, hm'⟩ := h.answered w answer hw hold
      exact ⟨m, List.mem_cons_of_mem _ hm, hm'⟩
    · exact ⟨message, List.mem_cons_self, hid, haccounts⟩
  · intro w' stored hw' hstore
    obtain ⟨w, hw, hread, -⟩ := hheard w' hw'
    rw [hread]
    exact h.dated w stored hw hstore

theorem consistent_step {r : MessagingRecord}
    (hr : r = record (Messaging.next leaseUID) r.before r.input)
    (h : Consistent leaseUID r.before) : Consistent leaseUID r.after := by
  have hcase := record_messagingCase hr
  generalize r.after = after, r.output = output, r.input = input at hcase
  cases hcase with
  | quiet _ _ hstore hwaiting hinflight hserved hnext =>
    refine ⟨?_, ?_, ?_, ?_, ?_, ?_⟩
    · intro stored' hstored'
      rcases hstore with hstore | ⟨stored, lease, hold, hkept, hstore⟩
      · exact h.named stored' (hstore ▸ hstored')
      · rw [hstore] at hstored'
        rw [(replace_some hstored').1, hkept.uid]
        exact h.named stored hold
    · rw [hwaiting]
      exact h.reads
    · rw [hinflight, hnext]
      exact h.numbered
    · rw [hwaiting, hnext]
      exact h.awaited
    · rw [hwaiting, hserved]
      exact h.answered
    · intro w stored' hw hstored'
      rw [hwaiting] at hw
      rcases hstore with hstore | ⟨stored, lease, hold, hkept, hstore⟩
      · exact h.dated w stored' hw (hstore ▸ hstored')
      rw [hstore] at hstored'
      have hle := (h.dated w stored hw hold).1
      have hversion := (replace_some hstored').2
      exact ⟨by omega, fun hsame => by omega⟩
  | started _ _ _ _ hstore => exact consistent_begin h hstore
  | processed => exact consistent_process h
  | finished =>
    refine ⟨?_, ?_, h.numbered, ?_, ?_, ?_⟩
    · intro stored' hstored'
      obtain ⟨stored, hold, hwrite⟩ := Option.bind_eq_some_iff.mp hstored'
      rw [← h.named stored hold]
      split at hwrite
      · exact (write_stored hwrite).1
      · cases hwrite
        rfl
    · intro w' hw'
      cases hw'
    · intro w' id hw'
      cases hw'
    · intro w' answer' hw'
      cases hw'
    · intro w' stored' hw'
      cases hw'

/-- INTERNAL: **consistency holds throughout every run.** -/
theorem messagingRun_consistent (inputs : List MessagingInput) :
    ∀ r ∈ messagingRun stored inputs, r = record (Messaging.next stored.lease.uid) r.before r.input ∧
      Consistent stored.lease.uid r.before ∧ Consistent stored.lease.uid r.after :=
  (exec_linked _ (Messaging.start stored) inputs).invariant
    (fun _ _ hrec h => consistent_step hrec h) (consistent_start stored)

end Waycloak.Interface
