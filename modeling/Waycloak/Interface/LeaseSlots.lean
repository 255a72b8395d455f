import Waycloak.Interface.AdapterSteps

/-!
# The adapter as one lease sees it

A request about one lease touches the others only in that a successful `persist` also writes
what memory holds of them. So the adapter is, for each lease, a small machine of its own: its
`LeaseSlot` is what memory and file hold of the lease and the request about it in progress,
and `SlotStep` lists every step of it. `slot_step` is the refinement: whatever the adapter
does is a step of the machine of each lease. The analyses of one lease argue over `SlotStep`
alone.
-/

set_option autoImplicit false

namespace Waycloak.Interface

open Waycloak.Computation Waycloak.Model

variable {p : AdapterPoint}

/-- One executed step of an adapter. -/
abbrev AdapterRecord := Record AdapterProcess AdapterInput AdapterOutput

/-- A lease at the adapter: what the next request finds, what a restart brings back, and the
request in progress. -/
structure LeaseSlot where
  kept : Option AdapterState
  filed : Option AdapterState
  point : Option AdapterPoint

/-- What a successful `persist` leaves of a lease for the next restart. -/
def flushed (h : AdapterHandler) (kept : Option AdapterState) : Option AdapterState :=
  if h.durable then kept else none

def slot (h : AdapterHandler) (leaseUID : ObjectUID) (s : AdapterProcess) : LeaseSlot where
  kept := view h s leaseUID
  filed := flushed h (s.file leaseUID)
  point := s.running.filter fun p => p.leaseUID = leaseUID

/-- The lease a call is made for, if it is made for one. -/
def effectLease : AdapterEffect → Option ObjectUID
  | .apply leaseUID _ _ _ | .observe leaseUID _ _ _ _ => some leaseUID
  | .persist _ => none

/-- The lease an answer acknowledges, if it does. -/
def responseLease : AdapterResponse → Option ObjectUID
  | .acknowledged record _ => some record.leaseUID
  | .withdrawn intent _ => some intent.leaseUID
  | .rejected _ => none

/-- The step neither calls the application for the lease nor acknowledges it. -/
structure Foreign (leaseUID : ObjectUID) (o : AdapterOutput) : Prop where
  effect : o.effect.bind effectLease ≠ some leaseUID
  response : o.response.bind responseLease ≠ some leaseUID

/-- The step is a request to deliver the record. -/
def Delivers (leaseUID : ObjectUID) (record : AdapterLeaseRecord) (input : AdapterInput) : Prop :=
  ∃ readable clock, input = .request (.deliver leaseUID (some record)) readable clock

/-- **The steps of one lease.** -/
inductive SlotStep (h : AdapterHandler) (leaseUID podUID : ObjectUID) (input : AdapterInput) :
    LeaseSlot → LeaseSlot → AdapterOutput → Prop where
  /-- Nothing happens to the lease. -/
  | still (x : LeaseSlot) (o : AdapterOutput) (foreign : Foreign leaseUID o) :
      SlotStep h leaseUID podUID input x x o
  /-- The request of another lease persists all states. -/
  | flushed (kept filed : Option AdapterState) (o : AdapterOutput)
      (foreign : Foreign leaseUID o) :
      SlotStep h leaseUID podUID input ⟨kept, filed, none⟩ ⟨kept, flushed h kept, none⟩ o
  | restarted (x : LeaseSlot) (restarts : ∃ podUID, input = .restart podUID) :
      SlotStep h leaseUID podUID input x ⟨x.filed, x.filed, none⟩ ⟨none, none⟩
  | renewing (record : AdapterLeaseRecord) (previous : AdapterState) (now : Time)
      (filed : Option AdapterState) (lease : record.leaseUID = leaseUID)
      (renews : Renews podUID record previous) (applied : previous.appliedAt ≠ 0)
      (delivers : Delivers leaseUID record input) :
      SlotStep h leaseUID podUID input ⟨some previous, filed, none⟩
        ⟨some { previous with record, observedAt := now }, filed,
          some (.renewing record previous now)⟩ ⟨none, none⟩
  | acknowledged (record : AdapterLeaseRecord) (previous : AdapterState) (observedAt : Time)
      (filed : Option AdapterState) (lease : record.leaseUID = leaseUID)
      (named : podUID ≠ "") (renews : Renews podUID record previous)
      (delivers : Delivers leaseUID record input) :
      SlotStep h leaseUID podUID input ⟨some previous, filed, none⟩ ⟨some previous, filed, none⟩
        ⟨none, some (.acknowledged record observedAt)⟩
  | intending (pending : AdapterState) (previous filed : Option AdapterState)
      (needsApply : Bool) (lease : pending.record.leaseUID = leaseUID)
      (intends : Intends pending previous needsApply)
      (delivers : Delivers leaseUID pending.record input) :
      SlotStep h leaseUID podUID input ⟨previous, filed, none⟩
        ⟨some pending, filed, some (.intending pending previous needsApply)⟩ ⟨none, none⟩
  | withdrawn (intent : AdapterWithdrawalIntent) (now : Time) (filed : Option AdapterState)
      (lease : intent.leaseUID = leaseUID) :
      SlotStep h leaseUID podUID input ⟨none, filed, none⟩ ⟨none, filed, none⟩
        ⟨none, some (.withdrawn intent now)⟩
  | restoring (intent : AdapterWithdrawalIntent) (state : AdapterState)
      (filed : Option AdapterState) (lease : intent.leaseUID = leaseUID)
      (withdraws : WithdrawsState intent state) :
      SlotStep h leaseUID podUID input ⟨some state, filed, none⟩
        ⟨some state, filed, some (.restoring intent state)⟩ ⟨none, none⟩
  /-- The call of a request fails and the request with it. -/
  | failed (p : AdapterPoint) (filed : Option AdapterState) (lease : p.leaseUID = leaseUID)
      (fails : ∃ a, input = .answer a ∧ Fails h a p) :
      SlotStep h leaseUID podUID input ⟨p.held, filed, some p⟩ ⟨p.fallback, filed, none⟩
        ⟨some (call podUID false p), some (.rejected .serviceUnavailable)⟩
  /-- An observation fails and is made again. -/
  | retried (p : AdapterPoint) (filed : Option AdapterState) (lease : p.leaseUID = leaseUID)
      (observes : Observes p) :
      SlotStep h leaseUID podUID input ⟨p.held, filed, some p⟩ ⟨p.held, filed, some p⟩
        ⟨some (call podUID false p), none⟩
  | onward (p q : AdapterPoint) (succeeded : Bool) (filed : Option AdapterState)
      (lease : p.leaseUID = leaseUID) (onward : Onward podUID p succeeded q) :
      SlotStep h leaseUID podUID input ⟨p.held, filed, some p⟩ ⟨q.held, filed, some q⟩
        ⟨some (call podUID succeeded p), none⟩
  | saved (p q : AdapterPoint) (filed : Option AdapterState) (lease : p.leaseUID = leaseUID)
      (saved : Saved p q) :
      SlotStep h leaseUID podUID input ⟨p.held, filed, some p⟩ ⟨q.held, flushed h q.held, some q⟩
        ⟨some (.persist true), none⟩
  | answered (p : AdapterPoint) (response : AdapterResponse) (filed : Option AdapterState)
      (lease : p.leaseUID = leaseUID) (answered : Concludes p response) :
      SlotStep h leaseUID podUID input ⟨p.held, filed, some p⟩ ⟨p.held, flushed h p.held, none⟩
        ⟨some (.persist true), some response⟩

/-- What holds of a lease while a request about it stands at a point. -/
structure OrderlyAt (h : AdapterHandler) (leaseUID podUID : ObjectUID) (filed : Option AdapterState)
    (p : AdapterPoint) : Prop where
  lease : p.leaseUID = leaseUID
  named : podUID ≠ ""
  sound : Sound podUID p
  lags : h.durable = true → Trails filed p.fallback

/-- What holds of a lease at the adapter. -/
structure Orderly (h : AdapterHandler) (leaseUID podUID : ObjectUID) (x : LeaseSlot) : Prop where
  keyed : ∀ state, x.kept = some state → state.record.leaseUID = leaseUID
  idle : x.point = none → h.durable = true → Trails x.filed x.kept
  running : ∀ p, x.point = some p → x.kept = p.held ∧ OrderlyAt h leaseUID podUID x.filed p
  volatile : h.durable = false → x.filed = none

section Slots

variable {h : AdapterHandler} {s : AdapterProcess} {leaseUID : ObjectUID}

/-! ## Slots of processes -/

theorem slot_idle (hidle : s.running = none) :
    slot h leaseUID s = ⟨view h s leaseUID, flushed h (s.file leaseUID), none⟩ := by
  simp [slot, hidle]

theorem slot_start (podUID : ObjectUID) :
    slot h leaseUID (AdapterProcess.start podUID) = ⟨none, none, none⟩ := by
  simp [slot, view, flushed, AdapterProcess.start]

theorem slot_goto (hloaded : s.states.isSome) (hlease : p.leaseUID = leaseUID) :
    slot h leaseUID (s.goto p) = ⟨s.memory leaseUID, flushed h (s.file leaseUID), some p⟩ := by
  have hview : view h (s.goto p) = s.memory := view_eq_memory hloaded
  have hpoint : (s.goto p).running.filter (fun q => q.leaseUID = leaseUID) = some p := by
    simp [AdapterProcess.goto, Option.filter, hlease]
  rw [slot, hview, hpoint]
  rfl

theorem slot_goto_other (hloaded : s.states.isSome) (hlease : p.leaseUID ≠ leaseUID) :
    slot h leaseUID (s.goto p) = ⟨s.memory leaseUID, flushed h (s.file leaseUID), none⟩ := by
  have hview : view h (s.goto p) = s.memory := view_eq_memory hloaded
  have hpoint : (s.goto p).running.filter (fun q => q.leaseUID = leaseUID) = none := by
    simp [AdapterProcess.goto, Option.filter, hlease]
  rw [slot, hview, hpoint]
  rfl

theorem slot_release (hloaded : s.states.isSome) :
    slot h leaseUID s.release = ⟨s.memory leaseUID, flushed h (s.file leaseUID), none⟩ := by
  have hview : view h s.release = s.memory := view_eq_memory hloaded
  rw [slot, hview]
  rfl

theorem slot_running (htaken : s.running = some p) (hloaded : s.states.isSome)
    (hlease : p.leaseUID = leaseUID) :
    slot h leaseUID s = ⟨s.memory leaseUID, flushed h (s.file leaseUID), some p⟩ := by
  rw [← slot_goto hloaded hlease]
  simp [AdapterProcess.goto, ← htaken]

theorem slot_running_other (htaken : s.running = some p) (hloaded : s.states.isSome)
    (hlease : p.leaseUID ≠ leaseUID) :
    slot h leaseUID s = ⟨s.memory leaseUID, flushed h (s.file leaseUID), none⟩ := by
  rw [← slot_goto_other hloaded hlease]
  simp [AdapterProcess.goto, ← htaken]

theorem flushed_persist :
    flushed h ((h.persist s).file leaseUID) = flushed h (s.memory leaseUID) := by
  cases hdurable : h.durable with
  | true => rw [file_persist hdurable]
  | false => simp [flushed, hdurable]

theorem loaded_persist (hloaded : s.states.isSome) : (h.persist s).states.isSome := by
  rw [states_persist]
  exact hloaded

theorem slot_point (htaken : s.running = some p) (hlease : p.leaseUID = leaseUID) :
    (slot h leaseUID s).point = some p := by
  simp [slot, htaken, Option.filter, hlease]

/-! ## The refinement -/

theorem slot_put_other {other : ObjectUID} {state : Option AdapterState} (hother : leaseUID ≠ other)
    (hlease : p.leaseUID = other) :
    slot h leaseUID ((s.put other state).goto p) =
      ⟨s.memory leaseUID, flushed h (s.file leaseUID), none⟩ := by
  have hne : p.leaseUID ≠ leaseUID := by rw [hlease]; exact hother.symm
  rw [slot_goto_other rfl hne, memory_put, Function.update_of_ne hother]
  rfl

theorem slot_put (state : Option AdapterState) (hlease : p.leaseUID = leaseUID) :
    slot h leaseUID ((s.put leaseUID state).goto p) =
      ⟨state, flushed h (s.file leaseUID), some p⟩ := by
  rw [slot_goto rfl hlease, memory_put, Function.update_self]
  rfl

theorem slot_step_serve (hs : Standing h s) (hidle : s.running = none) (request : AdapterRequest)
    (readable : Bool) (clock : AdapterClock) :
    SlotStep h leaseUID s.podUID (.request request readable clock) (slot h leaseUID s)
      (slot h leaseUID (h.serve s request readable clock).1)
      (h.serve s request readable clock).2 := by
  have hslot : slot h leaseUID s =
      ⟨(loaded h s).memory leaseUID, flushed h (s.file leaseUID), none⟩ := slot_idle hidle
  have hrejected : ∀ status, Foreign leaseUID ⟨none, some (.rejected status)⟩ :=
    fun status => ⟨by simp, by simp [responseLease]⟩
  have hquiet : Foreign leaseUID ⟨none, none⟩ := ⟨by simp, by simp⟩
  rcases serve_cases hs hidle request readable clock with ⟨status, heq⟩ | ⟨hnamed, hserves⟩
  · rw [heq]
    have hsame : s.release = s := by simp [AdapterProcess.release, ← hidle]
    simp only [AdapterProcess.respond, hsame]
    exact .still _ _ (hrejected status)
  · rw [hslot]
    generalize h.serve s request readable clock = result at hserves
    cases hserves with
    | rejected _ status =>
      simp only [AdapterProcess.respond]
      rw [slot_release rfl]
      exact .still _ _ (hrejected status)
    | renewing record previous found renews applied =>
      by_cases hlease : leaseUID = record.leaseUID
      · subst hlease
        rw [found, slot_put _ (by rfl)]
        exact .renewing record previous clock.decidedAt _ rfl renews applied
          ⟨readable, clock, rfl⟩
      · rw [slot_put_other hlease (by rfl)]
        exact .still _ _ hquiet
    | acknowledged record previous observedAt found renews =>
      simp only [AdapterProcess.respond]
      rw [slot_release rfl]
      by_cases hlease : leaseUID = record.leaseUID
      · subst hlease
        rw [found]
        exact .acknowledged record previous observedAt _ rfl hnamed renews ⟨readable, clock, rfl⟩
      · exact .still _ _ ⟨by simp, by simpa [responseLease, eq_comm] using hlease⟩
    | intending pending needsApply intends =>
      by_cases hlease : leaseUID = pending.record.leaseUID
      · subst hlease
        rw [slot_put _ (by rfl)]
        exact .intending pending _ _ needsApply rfl intends ⟨readable, clock, rfl⟩
      · rw [slot_put_other hlease (by rfl)]
        exact .still _ _ hquiet
    | withdrawn intent absent =>
      simp only [AdapterProcess.respond]
      rw [slot_release rfl]
      by_cases hlease : leaseUID = intent.leaseUID
      · subst hlease
        rw [absent]
        exact .withdrawn intent _ _ rfl
      · exact .still _ _ ⟨by simp, by simpa [responseLease, eq_comm] using hlease⟩
    | restoring intent state found withdraws =>
      by_cases hlease : leaseUID = intent.leaseUID
      · subst hlease
        rw [slot_goto rfl (by rfl), found]
        exact .restoring intent state _ rfl (withdraws (idle_keyed hs hidle found))
      have hother : (AdapterPoint.restoring intent state).leaseUID ≠ leaseUID := fun heq =>
        hlease heq.symm
      rw [slot_goto_other rfl hother]
      exact .still _ _ hquiet

theorem foreign_call (hlease : p.leaseUID ≠ leaseUID) (podUID : ObjectUID) (succeeded : Bool) :
    effectLease (call podUID succeeded p) ≠ some leaseUID := by
  cases p with
  | applying | observing | restoring | confirming =>
    simpa [call, effectLease, AdapterPoint.leaseUID] using hlease
  | renewing | intending | recording | concluding | forgetting => simp [call, effectLease]

theorem foreign_answer {response : AdapterResponse} (hlease : p.leaseUID ≠ leaseUID)
    (hanswered : Concludes p response) : responseLease response ≠ some leaseUID := by
  cases hanswered <;> simpa [responseLease, AdapterPoint.leaseUID] using hlease

theorem slot_step_foreign (htaken : s.running = some p) (ho : Others h p.leaseUID s)
    (hstands : Stands h s p) (hlease : p.leaseUID ≠ leaseUID) (a : AdapterAnswer)
    (input : AdapterInput) :
    SlotStep h leaseUID s.podUID input (slot h leaseUID s) (slot h leaseUID (h.act s a p).1)
      (h.act s a p).2 := by
  have hacts := act_cases ho.loaded hstands a
  rw [slot_running_other htaken ho.loaded hlease]
  generalize h.act s a p = result at hacts
  cases hacts with
  | failed =>
    rw [slot_release rfl, memory_put, Function.update_of_ne hlease.symm]
    exact .still _ _ ⟨by simpa using foreign_call hlease _ _, by simp [responseLease]⟩
  | retried =>
    rw [slot_running_other htaken ho.loaded hlease]
    exact .still _ _ ⟨by simpa using foreign_call hlease _ _, by simp⟩
  | onward _ _ onward =>
    rw [slot_put_other hlease.symm (onward_leaseUID onward)]
    exact .still _ _ ⟨by simpa using foreign_call hlease _ _, by simp⟩
  | saved q saved =>
    have hne : q.leaseUID ≠ leaseUID := by rw [saved_leaseUID saved]; exact hlease
    rw [slot_goto_other (loaded_persist ho.loaded) hne, memory_persist, flushed_persist]
    exact .flushed _ _ _ ⟨by simp [effectLease], by simp⟩
  | answered _ answered =>
    rw [slot_release (loaded_persist ho.loaded), memory_persist, flushed_persist]
    exact .flushed _ _ _ ⟨by simp [effectLease], by simpa using foreign_answer hlease answered⟩

theorem slot_step_own (htaken : s.running = some p) (ho : Others h p.leaseUID s)
    (hstands : Stands h s p) (a : AdapterAnswer) :
    SlotStep h p.leaseUID s.podUID (.answer a) (slot h p.leaseUID s)
      (slot h p.leaseUID (h.act s a p).1) (h.act s a p).2 := by
  have hacts := act_cases ho.loaded hstands a
  have hslot : slot h p.leaseUID s = ⟨p.held, flushed h (s.file p.leaseUID), some p⟩ := by
    rw [slot_running htaken ho.loaded rfl, hstands.held]
  rw [hslot]
  generalize h.act s a p = result at hacts
  cases hacts with
  | failed fails =>
    rw [slot_release rfl, memory_put, Function.update_self]
    exact .failed p _ rfl ⟨a, rfl, fails⟩
  | retried observes =>
    rw [hslot]
    exact .retried p _ rfl observes
  | onward succeeded q onward =>
    rw [slot_put _ (onward_leaseUID onward)]
    exact .onward p q succeeded _ rfl onward
  | saved q saved =>
    have hstep : SlotStep h p.leaseUID s.podUID (.answer a) _ _ _ :=
      .saved p q (flushed h (s.file p.leaseUID)) rfl saved
    rw [(saved_held saved).1] at hstep
    rw [slot_goto (loaded_persist ho.loaded) (saved_leaseUID saved), memory_persist,
      flushed_persist, hstands.held]
    exact hstep
  | answered response answered =>
    rw [slot_release (loaded_persist ho.loaded), memory_persist, flushed_persist, hstands.held]
    exact .answered p response _ rfl answered

/-- INTERNAL: **whatever the adapter does is a step of each lease.** -/
theorem slot_step (hs : Standing h s) (input : AdapterInput) (leaseUID : ObjectUID) :
    SlotStep h leaseUID s.podUID input (slot h leaseUID s) (slot h leaseUID (h.next s input).1)
      (h.next s input).2 := by
  have hquiet : Foreign leaseUID ⟨none, none⟩ := ⟨by simp, by simp⟩
  cases input with
  | request request readable clock =>
    cases hidle : s.running with
    | none =>
      simp only [AdapterHandler.next, hidle]
      exact slot_step_serve hs hidle request readable clock
    | some p =>
      simp only [AdapterHandler.next, hidle]
      exact .still _ _ hquiet
  | answer a =>
    cases hs with
    | idle released =>
      simp only [AdapterHandler.next, released]
      exact .still _ _ hquiet
    | running p taken others stands =>
      simp only [AdapterHandler.next, taken]
      by_cases hlease : p.leaseUID = leaseUID
      · subst hlease
        exact slot_step_own taken others stands a
      · exact slot_step_foreign taken others stands hlease a _
  | restart podUID =>
    have hview : view h { s with podUID, states := none, running := none } leaseUID =
        flushed h (s.file leaseUID) := by
      unfold view flushed
      simp only [Option.getD_none]
      split <;> rfl
    have hslot : slot h leaseUID (h.next s (.restart podUID)).1 =
        ⟨(slot h leaseUID s).filed, (slot h leaseUID s).filed, none⟩ := by
      rw [slot_idle rfl]
      exact congrArg (LeaseSlot.mk · _ _) hview
    rw [hslot]
    exact .restarted _ ⟨podUID, rfl⟩

theorem orderly_slot (hs : Standing h s) (leaseUID : ObjectUID) :
    Orderly h leaseUID s.podUID (slot h leaseUID s) := by
  have hflushed : ∀ {state : Option AdapterState}, h.durable = true → flushed h state = state :=
    fun hdurable => by simp [flushed, hdurable]
  have hvolatile : h.durable = false → flushed h (s.file leaseUID) = none :=
    fun hvolatile => by simp [flushed, hvolatile]
  cases hs with
  | idle released keyed lags =>
    rw [slot_idle released]
    refine ⟨keyed leaseUID, fun _ hdurable => ?_, fun p hp => ?_, hvolatile⟩
    · change Trails (flushed h (s.file leaseUID)) _
      rw [hflushed hdurable]
      exact lags hdurable leaseUID
    · cases hp
  | running p taken others stands =>
    by_cases hlease : p.leaseUID = leaseUID
    · subst hlease
      rw [slot_running taken others.loaded rfl, stands.held]
      refine ⟨fun state => held_leaseUID stands.sound, fun hnone => ?_, fun q hq => ?_, hvolatile⟩
      · cases hnone
      cases hq
      refine ⟨rfl, rfl, others.named, stands.sound, fun hdurable => ?_⟩
      change Trails (flushed h (s.file p.leaseUID)) _
      rw [hflushed hdurable]
      exact stands.lags hdurable
    · rw [slot_running_other taken others.loaded hlease]
      refine ⟨others.keyed leaseUID (Ne.symm hlease), fun _ hdurable => ?_, fun q hq => ?_,
        hvolatile⟩
      · change Trails (flushed h (s.file leaseUID)) _
        rw [hflushed hdurable]
        exact others.lags hdurable leaseUID (Ne.symm hlease)
      · cases hq

/-- INTERNAL: **a run of the adapter, as one lease sees it**: each of its steps starts with the
lease in order. -/
theorem exec_slots {podUID : ObjectUID} {inputs : List AdapterInput} {r : AdapterRecord}
    (hr : r ∈ exec h.next (AdapterProcess.start podUID) inputs) (leaseUID : ObjectUID) :
    Orderly h leaseUID r.before.podUID (slot h leaseUID r.before) ∧
      SlotStep h leaseUID r.before.podUID r.input (slot h leaseUID r.before)
        (slot h leaseUID r.after) r.output := by
  obtain ⟨hrecord, hstanding, -⟩ := (exec_linked h.next _ inputs).invariant
    (fun r _ hrecord hs => by rw [hrecord]; exact standing_next hs r.input)
    (standing_start h podUID) r hr
  refine ⟨orderly_slot hstanding leaseUID, ?_⟩
  have hstep := slot_step hstanding r.input leaseUID
  rw [hrecord]
  exact hstep

end Slots

end Waycloak.Interface
