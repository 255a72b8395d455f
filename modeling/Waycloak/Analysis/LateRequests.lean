import Waycloak.Interface.MessageSteps

/-!
# Requests that arrive after a drain

A controller that has persisted a status past generation `g`, after an exact `Withdrawn` for
it, sends no programming request of `g` again. One that it gave up earlier may still be in
flight; it was sent before the withdrawal that was confirmed (`Overtaken`). The runtime has
no record of the withdrawal that would tell the two apart: a drained state of the same
target may resume, and without a state every generation is admitted.

So a late request is harmless as long as it is not processed after a withdrawal of its
generation that was sent later, unless the state it meets refuses it (`InSendingOrder`).
`late_request_restores_rule` is the run in which it is.
-/

set_option autoImplicit false

namespace Waycloak.Analysis

open Waycloak.Model Waycloak.Interface Waycloak.Computation

variable {generation : Int} {leaseUID : ObjectUID} {r : MessagingRecord}
variable {api : ApiView} {lease : PortForwardLease}

/-- The message asks for the lease to be programmed at the generation. -/
def Message.Programs (message : Message) (leaseUID : ObjectUID) (generation : Int) : Prop :=
  ∃ gatewayUID intent, message.request = .reconcile gatewayUID intent ∧
    intent.leaseUID = leaseUID ∧ intent.handoffGeneration = generation

/-- The status has a later generation, or has given up its endpoint at this one. -/
def Past (generation : Int) (status : PortForwardLeaseStatus) : Prop :=
  generation < status.handoffGeneration ∨
    (status.handoffGeneration = generation ∧ status.activeEndpoint = none)

/-- The step ends a reconcile that has obtained an exact and fresh `Withdrawn` for the generation and
persists a status past it. -/
def MovesPast (r : MessagingRecord) (generation : Int) : Prop :=
  ∃ w abandoned written answer stored', r.input = .finish abandoned written ∧
    r.before.waiting = some w ∧ w.outcome abandoned = some answer ∧
    w.read.lease.status.handoffGeneration = generation ∧
    ObtainedWithdrawn w.reconciler w.api.now w.read.lease (w.resume answer).result.sent ∧
    r.after.store = some stored' ∧
    (w.resume answer).result.write = some (.status stored'.lease.status) ∧
    Past generation stored'.lease.status

/-- The step processes a programming message of the lease at the generation. -/
def ProcessesLate (r : MessagingRecord) (leaseUID : ObjectUID) (generation : Int) (reply : Reply) :
    Prop :=
  ∃ message, r.output = some (message, reply) ∧ Message.Programs message leaseUID generation

/-- A rule set with a rule of the lease at the generation is passed to the rule backend. -/
def InstallsRule (reply : Reply) (leaseUID : ObjectUID) (generation : Int) : Prop :=
  ∃ rules, reply.Passed rules ∧
    ∃ rule ∈ rules, rule.leaseUID = leaseUID ∧ rule.handoffGeneration = generation

/-- A programming message of the lease is not processed after a withdrawal of its generation that
was sent later, unless the state it meets does not admit it. -/
def InSendingOrder (leaseUID : ObjectUID) (s : Messaging) (input : MessagingInput) : Prop :=
  ∀ index b message gatewayUID intent, input = .process index b →
    s.inflight[index]? = some message → message.request = .reconcile gatewayUID intent →
    intent.leaseUID = leaseUID →
    (∀ withdrawal ∈ s.served,
      Message.Withdraws withdrawal leaseUID intent.handoffGeneration → withdrawal.id < message.id) ∨
    admission ((s.gateways gatewayUID).state? leaseUID) intent ≠ none

instance (message : Message) (leaseUID : ObjectUID) (generation : Int) :
    Decidable (Message.Programs message leaseUID generation) :=
  match h : message.request with
  | .withdraw _ _ => isFalse fun ⟨_, _, hrequest, _⟩ => by simp [h] at hrequest
  | .reconcile gatewayUID intent =>
    decidable_of_iff (intent.leaseUID = leaseUID ∧ intent.handoffGeneration = generation)
      ⟨fun hnames => ⟨gatewayUID, intent, h, hnames⟩, by
        rintro ⟨_, intent', hrequest, hnames⟩
        rw [h] at hrequest
        cases hrequest
        exact hnames⟩

theorem inSendingOrder_iff (leaseUID : ObjectUID) (s : Messaging) (index : ℕ) (b : Backends) :
    InSendingOrder leaseUID s (.process index b) ↔ ∀ message ∈ s.inflight[index]?,
      (match message.request with
        | .withdraw _ _ => true
        | .reconcile gatewayUID intent => decide (intent.leaseUID = leaseUID →
            (∀ withdrawal ∈ s.served,
              Message.Withdraws withdrawal leaseUID intent.handoffGeneration →
                withdrawal.id < message.id) ∨
            admission ((s.gateways gatewayUID).state? leaseUID) intent ≠ none)) = true := by
  constructor
  · intro h message hmessage
    cases hrequest : message.request with
    | withdraw => rfl
    | reconcile gatewayUID intent =>
      exact decide_eq_true (h index b message gatewayUID intent rfl hmessage hrequest)
  · intro h index' b' message gatewayUID intent hinput hmessage hrequest
    cases hinput
    have hordered := h message hmessage
    rw [hrequest] at hordered
    exact of_decide_eq_true hordered

theorem inSendingOrder_of_not_process {s : Messaging} {input : MessagingInput}
    (h : ∀ index b, input ≠ .process index b) : InSendingOrder leaseUID s input := by
  intro index b message gatewayUID intent hinput
  exact absurd hinput (h index b)

/-! ## After the drain -/

/-- The stored status is past the generation. -/
def StoredPast (generation : Int) (s : Messaging) : Prop :=
  ∀ stored, s.store = some stored → Past generation stored.lease.status

/-- A withdrawal of the generation has been processed that was sent after every programming message
of the generation in flight. -/
def Overtaken (leaseUID : ObjectUID) (generation : Int) (s : Messaging) : Prop :=
  ∃ withdrawal ∈ s.served, Message.Withdraws withdrawal leaseUID generation ∧
    ∀ message ∈ s.inflight, Message.Programs message leaseUID generation → message.id ≤ withdrawal.id

/-- INTERNAL: a `Withdrawn` that a reconcile has obtained is the answer to the message it waits for.
SOURCE: portforward/controller.go:331-336 -/
theorem obtained_answer {w : Waiting} {abandoned : Option String}
    {answer : Observation × Option String} (houtcome : w.outcome abandoned = some answer)
    (hobtained : ObtainedWithdrawn w.reconciler w.api.now w.read.lease (w.resume answer).result.sent) :
    w.answer = some answer ∧ answer.1.withdrawn = true ∧ answer.1.leaseUID = w.read.lease.uid ∧
      answer.1.handoffGeneration = w.read.lease.status.handoffGeneration := by
  obtain ⟨endpoint, gateway, intent, answer', -, hsent, ⟨herr, hcurrent⟩, hgeneration, -⟩ := hobtained
  obtain ⟨⟨huid, -, -⟩, ⟨rt, hruntime, hanswer⟩, -⟩ := reconcile_withdraws hsent
  cases hruntime
  change answer' = answer at hanswer
  subst hanswer
  simp only [PortForwardLeaseReconciler.currentWithdrawal, exactWithdrawal, Bool.and_eq_true,
    beq_iff_eq] at hcurrent
  obtain ⟨⟨⟨⟨⟨⟨⟨-, hlease⟩, -⟩, hobserved⟩, -⟩, -⟩, hwithdrawn⟩, -⟩ := hcurrent
  refine ⟨?_, hwithdrawn, hlease.trans huid, hobserved.trans hgeneration⟩
  cases abandoned with
  | some err =>
    cases houtcome
    cases herr
  | none =>
    cases hawaits : w.awaits with
    | some id => simpa only [Waiting.outcome, hawaits] using houtcome
    | none =>
      simp only [Waiting.outcome, hawaits, Option.some.injEq] at houtcome
      rw [← houtcome] at hwithdrawn
      cases hwithdrawn

/-- INTERNAL: when a status past the generation is persisted, the withdrawal that was confirmed has
overtaken what is in flight. -/
theorem movesPast_overtaken (hr : r = record (Messaging.next leaseUID) r.before r.input)
    (hconsistent : Consistent leaseUID r.before) (h : MovesPast r generation) :
    StoredPast generation r.after ∧ Overtaken leaseUID generation r.after := by
  obtain ⟨w, abandoned, written, answer, stored', hinput, hwaiting, houtcome, hgeneration, hobtained,
    hstored', -, hpast⟩ := h
  refine ⟨?_, ?_⟩
  · intro stored hstored
    rw [hstored'] at hstored
    cases hstored
    exact hpast
  · obtain ⟨hanswer, hwithdrawn, huid, hobserved⟩ := obtained_answer houtcome hobtained
    obtain ⟨message, hserved, hawaits, haccounts⟩ :=
      hconsistent.answered w answer hwaiting hanswer
    have hnext := hconsistent.awaited w message.id hwaiting hawaits
    have hwithdraws := haccounts hwithdrawn
    rw [huid, hconsistent.reads w hwaiting, hobserved, hgeneration] at hwithdraws
    have hcase := record_messagingCase hr
    rw [hinput] at hcase
    generalize r.after = after, r.output = output at hcase
    cases hcase with
    | quiet _ _ _ _ hinflight hserved' =>
      refine ⟨message, hserved' ▸ hserved, hwithdraws, ?_⟩
      intro late hlate _
      have := hconsistent.numbered late (hinflight ▸ hlate)
      omega
    | finished =>
      refine ⟨message, hserved, hwithdraws, ?_⟩
      intro late hlate _
      have := hconsistent.numbered late hlate
      omega

/-- INTERNAL: a status that is written over one past the generation is past it.
SOURCE: portforward/controller.go:182-355 -/
theorem past_written {runtime : Option Runtime} {r : PortForwardLeaseReconciler}
    {status : PortForwardLeaseStatus}
    (hwrite : (r.reconcile runtime api lease).write = some (.status status))
    (h : Past generation lease.status) : Past generation status := by
  obtain ⟨-, outcome, rfl, -, hcase⟩ := reconcile_written hwrite
  unfold Past at h ⊢
  rcases statusCase_written hcase with ⟨hgeneration, hendpoint⟩ | ⟨hgeneration, -, -⟩
  · rcases h with hlt | ⟨heq, hnone⟩
    · left
      omega
    · right
      refine ⟨hgeneration.trans heq, ?_⟩
      rcases hendpoint with ⟨hgiven, -⟩ | ⟨endpoint, endpoint', hactive, -⟩
      · exact hgiven
      · rw [hnone] at hactive
        cases hactive
  · left
    rcases h with hlt | ⟨heq, -⟩ <;> omega

theorem storedPast_step (hr : r = record (Messaging.next leaseUID) r.before r.input)
    (hconsistent : Consistent leaseUID r.before) (h : StoredPast generation r.before) :
    StoredPast generation r.after := by
  have hcase := record_messagingCase hr
  intro stored' hstored'
  generalize r.after = after, r.output = output, r.input = input at hcase hstored'
  cases hcase with
  | quiet _ _ hstore =>
    rcases hstore with hstore | ⟨stored, lease, hold, hkept, hstore⟩
    · exact h stored' (hstore ▸ hstored')
    · rw [hstore] at hstored'
      rw [(replace_some hstored').1, hkept.status]
      exact h stored hold
  | started stored reconciler api =>
    rcases begin_cases r.before stored reconciler api with ⟨-, hbegin⟩ | ⟨request, -, hbegin⟩ <;>
      · rw [hbegin] at hstored'
        exact h stored' hstored'
  | processed => exact h stored' hstored'
  | finished w _ _ _ hwaiting =>
    obtain ⟨stored, hold, hwrite⟩ := Option.bind_eq_some_iff.mp hstored'
    have hpast := h stored hold
    split at hwrite
    · rcases (write_stored hwrite).2 with hkept | ⟨hversion, hstatus⟩
      · rw [hkept]
        exact hpast
      · have hread : w.read = stored := (hconsistent.dated w stored hwaiting hold).2 hversion
        rw [← hread] at hpast
        exact past_written hstatus hpast
    · cases hwrite
      exact hpast

/-- INTERNAL: no programming request of the generation is sent once the stored status is past it.
SOURCE: portforward/controller.go:229-248 -/
theorem request_not_past {reconciler : PortForwardLeaseReconciler} {request : Request} {id : ℕ}
    (hrequest : Waiting.request reconciler api lease = some request)
    (hpast : Past generation lease.status) :
    ¬ Message.Programs ⟨id, request⟩ leaseUID generation := by
  rintro ⟨gatewayUID, intent, hprograms, -, hgeneration⟩
  obtain ⟨sent, hsent, rfl⟩ := Option.map_eq_some_iff.mp hrequest
  cases sent with
  | withdraw => cases hprograms
  | reconcile =>
    cases hprograms
    obtain ⟨endpoint, candidate, port, hactive, -, -, -, -, hprogram⟩ := reconcile_sent hsent
    have hstored : lease.status.handoffGeneration = generation := by
      rw [← hgeneration, hprogram]
      rfl
    rcases hpast with hlt | ⟨-, hnone⟩
    · omega
    · rw [hnone] at hactive
      cases hactive

theorem overtaken_step (hr : r = record (Messaging.next leaseUID) r.before r.input)
    (hpast : StoredPast generation r.before) (h : Overtaken leaseUID generation r.before) :
    Overtaken leaseUID generation r.after := by
  obtain ⟨withdrawal, hserved, hwithdraws, hlate⟩ := h
  have hcase := record_messagingCase hr
  generalize r.after = after, r.output = output, r.input = input at hcase
  cases hcase with
  | quiet _ _ _ _ hinflight hserved' =>
    refine ⟨withdrawal, hserved' ▸ hserved, hwithdraws, ?_⟩
    rw [hinflight]
    exact hlate
  | started stored reconciler api hidle hstore =>
    rcases begin_cases r.before stored reconciler api with ⟨-, hbegin⟩ | ⟨request, hrequest, hbegin⟩
    · rw [hbegin]
      exact ⟨withdrawal, hserved, hwithdraws, hlate⟩
    rw [hbegin]
    refine ⟨withdrawal, hserved, hwithdraws, ?_⟩
    intro message hmessage hprograms
    rcases List.mem_append.mp hmessage with hold | hnew
    · exact hlate message hold hprograms
    · rw [List.mem_singleton.mp hnew] at hprograms
      exact absurd hprograms (request_not_past hrequest (hpast stored hstore))
  | processed =>
    refine ⟨withdrawal, List.mem_cons_of_mem _ hserved, hwithdraws, ?_⟩
    intro late hmem hprograms
    exact hlate late ((List.eraseIdx_sublist _ _).subset hmem) hprograms
  | finished => exact ⟨withdrawal, hserved, hwithdraws, hlate⟩

theorem overtaken_refused {reply : Reply}
    (hr : r = record (Messaging.next leaseUID) r.before r.input)
    (horder : InSendingOrder leaseUID r.before r.input)
    (hovertaken : Overtaken leaseUID generation r.before)
    (hlate : ProcessesLate r leaseUID generation reply) :
    ¬ InstallsRule reply leaseUID generation := by
  obtain ⟨withdrawal, hserved, hwithdraws, hsent⟩ := hovertaken
  obtain ⟨message, houtput, hprograms⟩ := hlate
  have hcase := record_messagingCase hr
  generalize r.after = after, r.output = output, r.input = input at hcase houtput horder
  cases hcase with
  | quiet | started | finished => cases houtput
  | processed index b _ hmessage =>
    cases houtput
    have hid := hsent message (List.mem_of_getElem? hmessage) hprograms
    obtain ⟨gatewayUID, intent, hrequest, rfl, rfl⟩ := hprograms
    rcases horder index b message gatewayUID intent rfl hmessage hrequest rfl with hbefore | hrefused
    · have := hbefore withdrawal hserved hwithdraws
      omega
    rintro ⟨rules, ⟨err, heffect⟩, -⟩
    rw [hrequest] at heffect
    change _ ∈ ((r.before.gateways gatewayUID).reconcile b gatewayUID intent).effects at heffect
    rw [reconcile_not_admitted hrefused] at heffect
    cases heffect

/-- **A late request undoes no completed drain** in the runs in which a programming request is not
processed after a later withdrawal of its generation, or meets a state that refuses it.
SOURCE: portforward/manager.go:75-89, 145-159; portforward/controller.go:312-355 -/
theorem late_requests_install_nothing (stored : StoredLease) (inputs : List MessagingInput)
    (pre mid post : List MessagingRecord) (a r : MessagingRecord) (generation : Int) (reply : Reply)
    (hrun : messagingRun stored inputs = pre ++ a :: (mid ++ r :: post))
    (horder : ∀ r ∈ messagingRun stored inputs, InSendingOrder stored.lease.uid r.before r.input)
    (ha : MovesPast a generation) (hlate : ProcessesLate r stored.lease.uid generation reply) :
    ¬ InstallsRule reply stored.lease.uid generation := by
  have hconsistent := messagingRun_consistent stored inputs
  have hmem : ∀ r', r' = a ∨ r' ∈ mid ∨ r' = r → r' ∈ messagingRun stored inputs :=
    fun r' hr' => mem_between hrun hr'
  obtain ⟨hrecA, hbetween, hrecR, hbeforeR⟩ := exec_between hrun
  have hstart := movesPast_overtaken hrecA (hconsistent a (hmem a (Or.inl rfl))).2.1 ha
  -- from the drain on, both facts are kept by every step
  have hend := hbetween.invariant_endState
    (P := fun s => StoredPast generation s ∧ Overtaken stored.lease.uid generation s)
    (fun r' hr' hrec h =>
      have hcons := (hconsistent r' (hmem r' (Or.inr (Or.inl hr')))).2.1
      ⟨storedPast_step hrec hcons h.1, overtaken_step hrec h.1 h.2⟩) hstart
  rw [← hbeforeR] at hend
  exact overtaken_refused hrecR (horder r (hmem r (Or.inr (Or.inr rfl)))) hend.2 hlate

theorem movesPast_of_heard {written : Bool}
    (hinput : r.input = .finish none written)
    (h : ∃ w ∈ r.before.waiting, ∃ answer ∈ w.outcome none, ∃ stored' ∈ r.after.store,
      ∃ endpoint ∈ w.read.lease.status.activeEndpoint, ∃ sent ∈ (w.resume answer).result.sent,
      (match sent with
        | .reconcile _ _ _ => false
        | .withdraw _ intent observed => decide (observed.2 = none ∧
            w.reconciler.currentWithdrawal w.api.now observed.1 intent = true ∧
            intent.handoffGeneration = w.read.lease.status.handoffGeneration ∧
            intent.podUID = endpoint.podUID)) = true ∧
      w.read.lease.status.handoffGeneration = generation ∧
      (w.resume answer).result.write = some (.status stored'.lease.status) ∧
      generation < stored'.lease.status.handoffGeneration) :
    MovesPast r generation := by
  obtain ⟨w, hw, answer, hanswer, stored', hstored', endpoint, hendpoint, sent, hsent, hconfirmed,
    hgeneration, hwrite, hlt⟩ := h
  cases sent with
  | reconcile => cases hconfirmed
  | withdraw gateway intent observed =>
    obtain ⟨herr, hcurrent, hnames, hpod⟩ := of_decide_eq_true hconfirmed
    exact ⟨w, none, written, answer, stored', hinput, hw, hanswer, hgeneration,
      ⟨endpoint, gateway, intent, observed, hendpoint, hsent, ⟨herr, hcurrent⟩, hnames, hpod⟩,
      hstored', hwrite, Or.inl hlt⟩

/-- A reconcile at `now` that finds one Pod behind a ready gateway. -/
def sampleStart (podUID : ObjectUID) (now : Time) : MessagingInput :=
  .start sampleReconciler (sampleApi (sampleGateway "gw" true) [sampleCandidate podUID] now)

/-- A message is processed at `now` by a runtime where everything succeeds. -/
def sampleProcess (index : ℕ) (now : Time) : MessagingInput :=
  .process index (sampleBackends now (.ok (sampleGrant now)) none)

/-- The programming request for the Pod `a` is given up before it is processed. `b` takes the place
of `a`, the withdrawal is processed and confirmed, and generation 2 is persisted. After these steps,
the request for `a` is processed. -/
def lateInputs (steps : List MessagingInput) : List MessagingInput :=
  [sampleStart "a" 1, .finish none true, sampleStart "a" 2, .finish (some "timeout") true,
    sampleStart "b" 3, sampleProcess 1 3, .finish none true] ++ steps ++ [sampleProcess 0 5]

/-- The successor `b` is programmed. -/
def successorSteps : List MessagingInput :=
  [sampleStart "b" 4, sampleProcess 1 4, .finish none true]

theorem successorSteps_ordered :
    ∀ r ∈ messagingRun ⟨sampleLease none, 0⟩ (lateInputs successorSteps),
      InSendingOrder "lease" r.before r.input := by
  simp only [messagingRun, lateInputs, successorSteps, List.cons_append, List.nil_append, exec_cons,
    exec_nil, List.forall_mem_cons]
  refine ⟨?_, ?_, ?_, ?_, ?_, ?_, ?_, ?_, ?_, ?_, ?_, by simp⟩
  case refine_6 => exact (inSendingOrder_iff _ _ _ _).mpr (by decide +kernel)
  case refine_9 => exact (inSendingOrder_iff _ _ _ _).mpr (by decide +kernel)
  case refine_11 => exact (inSendingOrder_iff _ _ _ _).mpr (by decide +kernel)
  all_goals exact inSendingOrder_of_not_process (fun _ _ h => by cases h)

theorem late_requests_install_nothing_successor :
    ∃ r ∈ messagingRun ⟨sampleLease none, 0⟩ (lateInputs successorSteps), ∃ reply,
      ProcessesLate r "lease" 1 reply ∧ ¬ InstallsRule reply "lease" 1 := by
  have hsplit : ∃ pre a mid r post,
      messagingRun ⟨sampleLease none, 0⟩ (lateInputs successorSteps) =
        pre ++ a :: (mid ++ r :: post) ∧ MovesPast a 1 ∧
      ∃ processed ∈ r.output, Message.Programs processed.1 "lease" 1 :=
    ⟨[_, _, _, _, _, _], _, [_, _, _], _, [], rfl, movesPast_of_heard rfl (by decide +kernel),
      by decide +kernel⟩
  obtain ⟨pre, a, mid, r, post, hrun, ha, ⟨message, reply⟩, houtput, hprograms⟩ := hsplit
  have hlate : ProcessesLate r "lease" 1 reply := ⟨message, houtput, hprograms⟩
  exact ⟨r, by simp [hrun], reply, hlate, late_requests_install_nothing ⟨sampleLease none, 0⟩
    (lateInputs successorSteps) pre mid post a r 1 reply hrun successorSteps_ordered ha hlate⟩

/-- The late request is processed before the successor is programmed. -/
theorem late_request_restores_rule :
    ∃ pre a mid r post, messagingRun ⟨sampleLease none, 0⟩ (lateInputs []) =
        pre ++ a :: (mid ++ r :: post) ∧ MovesPast a 1 ∧
      ∃ reply, ProcessesLate r "lease" 1 reply ∧ reply.Accepted [sampleRule "lease" 1] ∧
        InstallsRule reply "lease" 1 := by
  have hsplit : ∃ pre a mid r post, messagingRun ⟨sampleLease none, 0⟩ (lateInputs []) =
      pre ++ a :: (mid ++ r :: post) ∧ MovesPast a 1 ∧
      ∃ processed ∈ r.output, Message.Programs processed.1 "lease" 1 ∧
        processed.2.Accepted [sampleRule "lease" 1] :=
    ⟨[_, _, _, _, _, _], _, [], _, [], rfl, movesPast_of_heard rfl (by decide +kernel),
      by decide +kernel⟩
  obtain ⟨pre, a, mid, r, post, hrun, ha, ⟨message, reply⟩, houtput, hprograms, haccepted⟩ := hsplit
  refine ⟨pre, a, mid, r, post, hrun, ha, reply, ⟨message, houtput, hprograms⟩, haccepted, ?_⟩
  exact ⟨_, ⟨none, haccepted⟩, sampleRule "lease" 1, List.mem_singleton_self _, rfl, rfl⟩

end Waycloak.Analysis
