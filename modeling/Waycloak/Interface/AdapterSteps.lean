import Waycloak.Computation.Runs
import Waycloak.Model.AdapterHandler

/-!
# What one step of the adapter does

`Standing` is what every state of an adapter satisfies, whatever fails and whenever it
restarts: the file holds for each lease the record that memory holds, at most some time
stamps behind it (`Trails`), except for the lease of the request in progress, where it holds
what memory falls back to when the next call fails.

`serve_cases` says once how a request that gets the mutex goes on. The analyses use these two
and the equations of `act`.
-/

set_option autoImplicit false

namespace Waycloak.Interface

open Waycloak.Computation Waycloak.Model

variable {p q : AdapterPoint} {state : AdapterState} {leaseUID podUID : ObjectUID}
  {h : AdapterHandler} {s t : AdapterProcess}

/-! ## Records -/

theorem sameApplicationIdentity_iff {left right : AdapterLeaseRecord} :
    sameApplicationIdentity left right = true ↔
      left.leaseUID = right.leaseUID ∧ left.handoffGeneration = right.handoffGeneration ∧
        left.podUID = right.podUID ∧ left.publicAddress = right.publicAddress ∧
        left.publicPort = right.publicPort ∧ left.targetPort = right.targetPort ∧
        left.applicationAddress = right.applicationAddress ∧
        left.backendPort = right.backendPort ∧ left.protocols = right.protocols := by
  simp [sameApplicationIdentity, and_assoc]

/-- INTERNAL: a record that does not contradict the one that is held raises the generation, or keeps
the Pod, the address and the port of its generation. -/
theorem contradicts_false {record previous : AdapterLeaseRecord}
    (hcompatible : contradicts record previous = false) :
    previous.handoffGeneration < record.handoffGeneration ∨
      record.handoffGeneration = previous.handoffGeneration ∧
        record.applicationAddress = previous.applicationAddress ∧
        record.targetPort = previous.targetPort := by
  simp only [contradicts, Bool.or_eq_false_iff, Bool.and_eq_false_iff, decide_eq_false_iff_not,
    not_lt, beq_eq_false_iff_ne, bne_eq_false_iff_eq] at hcompatible
  obtain ⟨hle, hdiffers | ⟨⟨-, haddress⟩, hport⟩⟩ := hcompatible
  · exact Or.inl (lt_of_le_of_ne hle (Ne.symm hdiffers))
  · rcases lt_or_eq_of_le hle with hlt | heq
    · exact Or.inl hlt
    · exact Or.inr ⟨heq.symm, haddress, hport⟩

/-- Some delivery has been applied, or observed, under the state. -/
def Touched (state : AdapterState) : Prop := state.appliedAt ≠ 0 ∨ state.adapterPodUID ≠ ""

instance (state : AdapterState) : Decidable (Touched state) := inferInstanceAs (Decidable (_ ∨ _))

/-! ## Memory and file -/

/-- What the next request finds: the states in memory, or those it loads. -/
def view (h : AdapterHandler) (s : AdapterProcess) : AdapterStates :=
  s.states.getD (if h.durable then s.file else fun _ => none)

theorem view_eq_memory (hloaded : s.states.isSome) : view h s = s.memory := by
  obtain ⟨states, hstates⟩ := Option.isSome_iff_exists.mp hloaded
  simp [view, AdapterProcess.memory, hstates]

theorem load_view {readable : Bool} {states : AdapterStates}
    (hload : s.states.or (h.load s readable) = some states) : states = view h s := by
  unfold AdapterHandler.load at hload
  unfold view
  cases hstates : s.states with
  | some m =>
    rw [hstates] at hload
    exact (Option.some.inj hload).symm
  | none =>
    rw [hstates, Option.none_or] at hload
    split at hload
    · next hvolatile =>
      rw [hvolatile]
      exact (Option.some.inj hload).symm
    next hdurable =>
    split at hload
    · rw [Bool.not_eq_false] at hdurable
      rw [hdurable]
      exact (Option.some.inj hload).symm
    · cases hload

@[simp] theorem memory_goto (s : AdapterProcess) (p : AdapterPoint) :
    (s.goto p).memory = s.memory := rfl

@[simp] theorem memory_release (s : AdapterProcess) : s.release.memory = s.memory := rfl

@[simp] theorem memory_put (s : AdapterProcess) (leaseUID : ObjectUID)
    (state : Option AdapterState) :
    (s.put leaseUID state).memory = Function.update s.memory leaseUID state := rfl

@[simp] theorem memory_persist (h : AdapterHandler) (s : AdapterProcess) :
    (h.persist s).memory = s.memory := by
  unfold AdapterHandler.persist
  split <;> rfl

@[simp] theorem podUID_persist (h : AdapterHandler) (s : AdapterProcess) :
    (h.persist s).podUID = s.podUID := by
  unfold AdapterHandler.persist
  split <;> rfl

@[simp] theorem states_persist (h : AdapterHandler) (s : AdapterProcess) :
    (h.persist s).states = s.states := by
  unfold AdapterHandler.persist
  split <;> rfl

theorem file_persist (hdurable : h.durable = true) : (h.persist s).file = s.memory := by
  simp [AdapterHandler.persist, hdurable]

/-- The file holds the record that memory holds, and is not ahead of it. -/
structure Trails (file memory : Option AdapterState) : Prop where
  record : file.map (·.record) = memory.map (·.record)
  touched : ∀ f, file = some f → Touched f → ∃ m, memory = some m ∧ Touched m

theorem Trails.refl (state : Option AdapterState) : Trails state state :=
  ⟨rfl, fun f hf htouched => ⟨f, hf, htouched⟩⟩

theorem Trails.memory {file memory : Option AdapterState} (hlags : Trails file memory)
    {f : AdapterState} (hf : file = some f) : ∃ m, memory = some m ∧ m.record = f.record := by
  have hrecord := hlags.record
  rw [hf] at hrecord
  exact Option.map_eq_some_iff.mp hrecord.symm

theorem Trails.file {file memory : Option AdapterState} (hlags : Trails file memory)
    {m : AdapterState} (hm : memory = some m) : ∃ f, file = some f ∧ f.record = m.record := by
  have hrecord := hlags.record
  rw [hm] at hrecord
  exact Option.map_eq_some_iff.mp hrecord

theorem Trails.some {file : Option AdapterState} {old new : AdapterState}
    (hlags : Trails file (some old)) (hrecord : new.record = old.record)
    (htouched : Touched old → Touched new) : Trails file (some new) := by
  refine ⟨by rw [hlags.record]; simp [hrecord], fun f hf hf' => ?_⟩
  obtain ⟨m, hm, hmtouched⟩ := hlags.touched f hf hf'
  cases hm
  exact ⟨new, rfl, htouched hmtouched⟩

/-! ## The request in progress -/

/-- What a withdrawal knows of the state it found. -/
structure WithdrawsState (intent : AdapterWithdrawalIntent) (state : AdapterState) : Prop where
  leaseUID : state.record.leaseUID = intent.leaseUID
  handoffGeneration : state.record.handoffGeneration = intent.handoffGeneration

/-- What a delivery knows of the state it replaces by its pending one. -/
structure Intends (pending : AdapterState) (previous : Option AdapterState) (needsApply : Bool) :
    Prop where
  unobserved : pending.adapterPodUID = ""
  fresh : needsApply = true → pending.appliedAt = 0
  kept : needsApply = false → pending.appliedAt ≠ 0 ∧ ∃ old, previous = some old ∧
    sameApplicationIdentity pending.record old.record = true ∧ pending.appliedAt = old.appliedAt
  compatible : ∀ old, previous = some old →
    old.record.leaseUID = pending.record.leaseUID ∧ contradicts pending.record old.record = false

/-- What a delivery knows when it only has to renew an acknowledgement of its own Pod. -/
structure Renews (podUID : ObjectUID) (record : AdapterLeaseRecord) (previous : AdapterState) :
    Prop where
  identity : sameApplicationIdentity record previous.record = true
  podUID : previous.adapterPodUID = podUID

/-- What a request knows where it stands. -/
def Sound (podUID : ObjectUID) : AdapterPoint → Prop
  | .renewing record previous _ => Renews podUID record previous ∧ previous.appliedAt ≠ 0
  | .intending pending previous needsApply => Intends pending previous needsApply
  | .applying pending => ¬ Touched pending
  | .recording pending | .observing pending => pending.adapterPodUID = ""
  | .concluding delivered => delivered.adapterPodUID = podUID
  | .restoring intent state | .confirming intent state | .forgetting intent state =>
    WithdrawsState intent state

theorem fallback_leaseUID (hsound : Sound podUID p) (hfallback : p.fallback = some state) :
    state.record.leaseUID = p.leaseUID := by
  cases p with
  | renewing =>
    cases hfallback
    exact (sameApplicationIdentity_iff.mp hsound.1.identity).1.symm
  | intending => exact (hsound.compatible state hfallback).1
  | applying | recording | observing | concluding =>
    cases hfallback
    rfl
  | restoring | confirming | forgetting =>
    cases hfallback
    exact hsound.leaseUID

theorem held_leaseUID (hsound : Sound podUID p) (hheld : p.held = some state) :
    state.record.leaseUID = p.leaseUID := by
  cases p with
  | renewing | intending | applying | recording | observing | concluding =>
    cases hheld
    rfl
  | restoring | confirming =>
    cases hheld
    exact hsound.leaseUID
  | forgetting => cases hheld

/-- What holds of a request in progress. -/
structure Stands (h : AdapterHandler) (s : AdapterProcess) (p : AdapterPoint) : Prop where
  sound : Sound s.podUID p
  held : s.memory p.leaseUID = p.held
  lags : h.durable = true → Trails (s.file p.leaseUID) p.fallback

/-! ## Calls -/

/-- The call made at a point. -/
def call (podUID : ObjectUID) (succeeded : Bool) : AdapterPoint → AdapterEffect
  | .renewing _ _ _ | .intending _ _ _ | .recording _ | .concluding _ | .forgetting _ _ =>
    .persist succeeded
  | .applying pending =>
    .apply pending.record.leaseUID pending.record.applicationAddress pending.record.targetPort
      succeeded
  | .observing pending =>
    .observe pending.record.leaseUID pending.record.applicationAddress pending.record.targetPort
      podUID succeeded
  | .restoring intent state =>
    .apply intent.leaseUID state.record.applicationAddress state.record.backendPort succeeded
  | .confirming intent state =>
    .observe intent.leaseUID state.record.applicationAddress state.record.backendPort podUID
      succeeded

/-- The point is a call to the application that a retired endpoint excuses. -/
def Excused (intent : AdapterWithdrawalIntent) (state : AdapterState) (p : AdapterPoint) : Prop :=
  (p = .restoring intent state ∨ p = .confirming intent state) ∧
    intent.applicationEndpointRetired = true

/-- The call at the point fails, and the request with it. -/
def Fails (h : AdapterHandler) (a : AdapterAnswer) : AdapterPoint → Prop
  | .renewing _ _ _ | .intending _ _ _ | .recording _ | .concluding _ | .forgetting _ _ =>
    h.persists a = false
  | .applying _ => a.succeeded = false
  | .observing _ => a.succeeded = false ∧ a.deadline = true
  | .restoring intent _ => a.succeeded = false ∧ intent.applicationEndpointRetired = false
  | .confirming intent _ =>
    a.succeeded = false ∧ a.deadline = true ∧ intent.applicationEndpointRetired = false

/-- The point is an observation, which may be made again. -/
def Observes (p : AdapterPoint) : Prop :=
  (∃ pending, p = .observing pending) ∨ ∃ intent state, p = .confirming intent state

/-- Where a request goes on after a call to the application. -/
inductive Onward (podUID : ObjectUID) : AdapterPoint → Bool → AdapterPoint → Prop where
  | applied (pending : AdapterState) (now : Time) :
      Onward podUID (.applying pending) true (.recording { pending with appliedAt := now })
  | observed (pending : AdapterState) (now : Time) :
      Onward podUID (.observing pending) true
        (.concluding { pending with observedAt := now, adapterPodUID := podUID })
  | restored (intent : AdapterWithdrawalIntent) (state : AdapterState) :
      Onward podUID (.restoring intent state) true (.confirming intent state)
  | confirmed (intent : AdapterWithdrawalIntent) (state : AdapterState) :
      Onward podUID (.confirming intent state) true (.forgetting intent state)
  | excused (p : AdapterPoint) (intent : AdapterWithdrawalIntent) (state : AdapterState)
      (excused : Excused intent state p) : Onward podUID p false (.forgetting intent state)

/-- Where a request goes on after it has persisted a state. -/
inductive Saved : AdapterPoint → AdapterPoint → Prop where
  | applying (pending : AdapterState) (previous : Option AdapterState) :
      Saved (.intending pending previous true) (.applying pending)
  | observing (pending : AdapterState) (previous : Option AdapterState) :
      Saved (.intending pending previous false) (.observing pending)
  | recorded (pending : AdapterState) : Saved (.recording pending) (.observing pending)

/-- How a request is acknowledged after its last `persist`. -/
inductive Concludes : AdapterPoint → AdapterResponse → Prop where
  | renewed (record : AdapterLeaseRecord) (previous : AdapterState) (now : Time) :
      Concludes (.renewing record previous now) (.acknowledged record now)
  | concluded (delivered : AdapterState) :
      Concludes (.concluding delivered) (.acknowledged delivered.record delivered.observedAt)
  | forgotten (intent : AdapterWithdrawalIntent) (state : AdapterState) (now : Time) :
      Concludes (.forgetting intent state) (.withdrawn intent now)

theorem onward_leaseUID {succeeded : Bool} (honward : Onward podUID p succeeded q) :
    q.leaseUID = p.leaseUID := by
  cases honward with
  | excused _ _ _ excused => obtain ⟨rfl | rfl, -⟩ := excused <;> rfl
  | _ => rfl

theorem saved_leaseUID (hsaved : Saved p q) : q.leaseUID = p.leaseUID := by
  cases hsaved <;> rfl

theorem saved_held (hsaved : Saved p q) : q.held = p.held ∧ q.fallback = p.held := by
  cases hsaved <;> exact ⟨rfl, rfl⟩

/-- **How a request goes on** when its call ends. -/
inductive Acts (h : AdapterHandler) (s : AdapterProcess) (a : AdapterAnswer) (p : AdapterPoint) :
    AdapterProcess × AdapterOutput → Prop where
  | failed (fails : Fails h a p) :
      Acts h s a p ((s.put p.leaseUID p.fallback).release,
        ⟨some (call s.podUID false p), some (.rejected .serviceUnavailable)⟩)
  | retried (observes : Observes p) : Acts h s a p (s, ⟨some (call s.podUID false p), none⟩)
  | onward (succeeded : Bool) (q : AdapterPoint) (onward : Onward s.podUID p succeeded q) :
      Acts h s a p ((s.put p.leaseUID q.held).goto q, ⟨some (call s.podUID succeeded p), none⟩)
  | saved (q : AdapterPoint) (saved : Saved p q) :
      Acts h s a p ((h.persist s).goto q, ⟨some (.persist true), none⟩)
  | answered (response : AdapterResponse) (concludes : Concludes p response) :
      Acts h s a p ((h.persist s).release, ⟨some (.persist true), some response⟩)

theorem put_self (hloaded : s.states.isSome) {state : Option AdapterState}
    (hstate : s.memory leaseUID = state) : s.put leaseUID state = s := by
  obtain ⟨states, hstates⟩ := Option.isSome_iff_exists.mp hloaded
  subst hstate
  have hmemory : some s.memory = s.states := by
    rw [AdapterProcess.memory, hstates, Option.getD_some]
  rw [AdapterProcess.put, Function.update_eq_self, hmemory]

theorem acts_giveUp (hloaded : s.states.isSome) (hstands : Stands h s p)
    (hsame : p.fallback = p.held) {a : AdapterAnswer} (hfails : Fails h a p) :
    Acts h s a p (s.release,
      ⟨some (call s.podUID false p), some (.rejected .serviceUnavailable)⟩) := by
  have hacts : Acts h s a p _ := .failed hfails
  rwa [hsame, put_self hloaded hstands.held] at hacts

theorem act_cases (hloaded : s.states.isSome) (hstands : Stands h s p) (a : AdapterAnswer) :
    Acts h s a p (h.act s a p) := by
  -- the outcome of the call comes back in the effect of the step
  cases p with
  | renewing record previous now =>
    rw [AdapterHandler.act]
    cases hok : h.persists a with
    | false => exact .failed hok
    | true => exact .answered _ (.renewed record previous now)
  | intending pending previous needsApply =>
    rw [AdapterHandler.act]
    cases hok : h.persists a with
    | false => exact .failed hok
    | true =>
      cases needsApply with
      | true => exact .saved _ (.applying pending previous)
      | false => exact .saved _ (.observing pending previous)
  | applying pending =>
    rw [AdapterHandler.act]
    cases hok : a.succeeded with
    | false => exact acts_giveUp hloaded hstands rfl hok
    | true => exact .onward true _ (.applied pending a.now)
  | recording pending =>
    rw [AdapterHandler.act]
    cases hok : h.persists a with
    | false => exact acts_giveUp hloaded hstands rfl hok
    | true => exact .saved _ (.recorded pending)
  | observing pending =>
    rw [AdapterHandler.act]
    cases hok : a.succeeded with
    | false =>
      cases hdeadline : a.deadline with
      | false => exact .retried (Or.inl ⟨pending, rfl⟩)
      | true => exact acts_giveUp hloaded hstands rfl ⟨hok, hdeadline⟩
    | true => exact .onward true _ (.observed pending a.now)
  | concluding delivered =>
    rw [AdapterHandler.act]
    cases hok : h.persists a with
    | false => exact acts_giveUp hloaded hstands rfl hok
    | true => exact .answered _ (.concluded delivered)
  | restoring intent state =>
    rw [AdapterHandler.act]
    cases hok : a.succeeded with
    | false =>
      cases hretired : intent.applicationEndpointRetired with
      | false => exact acts_giveUp hloaded hstands rfl ⟨hok, hretired⟩
      | true => exact .onward false _ (.excused _ intent state ⟨Or.inl rfl, hretired⟩)
    | true =>
      have hkept : s.put (AdapterPoint.restoring intent state).leaseUID
          (AdapterPoint.confirming intent state).held = s := put_self hloaded hstands.held
      have hacts : Acts h s a _ _ := .onward true _ (.restored intent state)
      rwa [hkept] at hacts
  | confirming intent state =>
    rw [AdapterHandler.act]
    cases hok : a.succeeded with
    | false =>
      cases hdeadline : a.deadline with
      | false => exact .retried (Or.inr ⟨intent, state, rfl⟩)
      | true =>
        cases hretired : intent.applicationEndpointRetired with
        | false => exact acts_giveUp hloaded hstands rfl ⟨hok, hdeadline, hretired⟩
        | true => exact .onward false _ (.excused _ intent state ⟨Or.inr rfl, hretired⟩)
    | true => exact .onward true _ (.confirmed intent state)
  | forgetting intent state =>
    rw [AdapterHandler.act]
    cases hok : h.persists a with
    | false => exact .failed hok
    | true => exact .answered _ (.forgotten intent state a.now)

/-! ## What every state satisfies -/

/-- The states of all leases but one are in order. -/
structure Others (h : AdapterHandler) (leaseUID : ObjectUID) (s : AdapterProcess) : Prop where
  loaded : s.states.isSome
  named : s.podUID ≠ ""
  keyed : ∀ other, other ≠ leaseUID → ∀ state, s.memory other = some state →
    state.record.leaseUID = other
  lags : h.durable = true → ∀ other, other ≠ leaseUID → Trails (s.file other) (s.memory other)

/-- **What every state of an adapter satisfies.** -/
inductive Standing (h : AdapterHandler) (s : AdapterProcess) : Prop where
  | idle (released : s.running = none)
      (keyed : ∀ leaseUID state, view h s leaseUID = some state →
        state.record.leaseUID = leaseUID)
      (lags : h.durable = true → ∀ leaseUID, Trails (s.file leaseUID) (view h s leaseUID))
  | running (p : AdapterPoint) (taken : s.running = some p) (others : Others h p.leaseUID s)
      (stands : Stands h s p)

theorem Others.put (ho : Others h leaseUID s)
    (state : Option AdapterState) : Others h leaseUID (s.put leaseUID state) where
  loaded := rfl
  named := ho.named
  keyed := by
    intro other hother state' hstate
    rw [memory_put, Function.update_of_ne hother] at hstate
    exact ho.keyed other hother state' hstate
  lags := by
    intro hdurable other hother
    rw [memory_put, Function.update_of_ne hother]
    exact ho.lags hdurable other hother

theorem Others.persist (ho : Others h leaseUID s) : Others h leaseUID (h.persist s) where
  loaded := by rw [states_persist]; exact ho.loaded
  named := by rw [podUID_persist]; exact ho.named
  keyed := by rw [memory_persist]; exact ho.keyed
  lags := by
    intro hdurable other _
    rw [memory_persist, file_persist hdurable]
    exact Trails.refl _

theorem Others.goto (ho : Others h p.leaseUID s) (hstands : Stands h s p) : Standing h (s.goto p) :=
  .running p rfl ⟨ho.loaded, ho.named, ho.keyed, ho.lags⟩
    ⟨hstands.sound, hstands.held, hstands.lags⟩

theorem Others.release (ho : Others h leaseUID s)
    (hkeyed : ∀ state, s.memory leaseUID = some state → state.record.leaseUID = leaseUID)
    (hlags : h.durable = true → Trails (s.file leaseUID) (s.memory leaseUID)) :
    Standing h s.release := by
  have hview : view h s.release = s.memory := view_eq_memory ho.loaded
  refine .idle rfl ?_ ?_
  · intro other state hstate
    rw [hview] at hstate
    by_cases hother : other = leaseUID
    · subst hother
      exact hkeyed state hstate
    · exact ho.keyed other hother state hstate
  · intro hdurable other
    rw [hview]
    by_cases hother : other = leaseUID
    · subst hother
      exact hlags hdurable
    · exact ho.lags hdurable other hother

theorem Others.fallBack (ho : Others h p.leaseUID s) (hstands : Stands h s p) :
    Standing h (s.put p.leaseUID p.fallback).release := by
  apply (ho.put p.fallback).release
  · intro state hstate
    rw [memory_put, Function.update_self] at hstate
    exact fallback_leaseUID hstands.sound hstate
  · intro hdurable
    rw [memory_put, Function.update_self]
    exact hstands.lags hdurable

theorem Others.finish (ho : Others h p.leaseUID s) (hstands : Stands h s p) :
    Standing h (h.persist s).release := by
  apply ho.persist.release
  · intro state hstate
    rw [memory_persist, hstands.held] at hstate
    exact held_leaseUID hstands.sound hstate
  · intro hdurable
    rw [memory_persist, file_persist hdurable]
    exact Trails.refl _

theorem Stands.put (hsound : Sound s.podUID p)
    (hlags : h.durable = true → Trails (s.file p.leaseUID) p.fallback) :
    Stands h (s.put p.leaseUID p.held) p :=
  ⟨hsound, by rw [memory_put, Function.update_self], hlags⟩

theorem Stands.persist (hstands : Stands h s p)
    (hlease : q.leaseUID = p.leaseUID) (hheld : q.held = p.held) (hsame : q.held = q.fallback)
    (hsound : Sound s.podUID q) : Stands h (h.persist s) q where
  sound := by rw [podUID_persist]; exact hsound
  held := by rw [memory_persist, hlease, hheld]; exact hstands.held
  lags := by
    intro hdurable
    rw [file_persist hdurable, ← hsame, hheld, hlease, hstands.held]
    exact Trails.refl _

/-! ## Requests -/

/-- How a request that gets the mutex goes on, once the states are loaded. -/
inductive Serves (s : AdapterProcess) (clock : AdapterClock) :
    AdapterRequest → AdapterProcess × AdapterOutput → Prop where
  | rejected (request : AdapterRequest) (status : AdapterRejection) :
      Serves s clock request (s.respond (.rejected status))
  | renewing (record : AdapterLeaseRecord) (previous : AdapterState)
      (found : s.memory record.leaseUID = some previous)
      (renews : Renews s.podUID record previous) (applied : previous.appliedAt ≠ 0) :
      Serves s clock (.deliver record.leaseUID (some record))
        ((s.put record.leaseUID
            (some { previous with record, observedAt := clock.decidedAt })).goto
          (.renewing record previous clock.decidedAt), ⟨none, none⟩)
  | acknowledged (record : AdapterLeaseRecord) (previous : AdapterState) (observedAt : Time)
      (found : s.memory record.leaseUID = some previous)
      (renews : Renews s.podUID record previous) :
      Serves s clock (.deliver record.leaseUID (some record))
        (s.respond (.acknowledged record observedAt))
  | intending (pending : AdapterState) (needsApply : Bool)
      (intends : Intends pending (s.memory pending.record.leaseUID) needsApply) :
      Serves s clock (.deliver pending.record.leaseUID (some pending.record))
        ((s.put pending.record.leaseUID (some pending)).goto
          (.intending pending (s.memory pending.record.leaseUID) needsApply), ⟨none, none⟩)
  | withdrawn (intent : AdapterWithdrawalIntent) (absent : s.memory intent.leaseUID = none) :
      Serves s clock (.withdraw intent.leaseUID (some intent))
        (s.respond (.withdrawn intent clock.decidedAt))
  | restoring (intent : AdapterWithdrawalIntent) (state : AdapterState)
      (found : s.memory intent.leaseUID = some state)
      (withdraws : state.record.leaseUID = intent.leaseUID → WithdrawsState intent state) :
      Serves s clock (.withdraw intent.leaseUID (some intent))
        (s.goto (.restoring intent state), ⟨none, none⟩)

theorem validRecord_leaseUID {record : AdapterLeaseRecord} {now : Time}
    (hvalid : ¬ h.validRecord record leaseUID now = false) : record.leaseUID = leaseUID := by
  simp only [AdapterHandler.validRecord, Bool.not_eq_false, Bool.and_eq_true, beq_iff_eq] at hvalid
  tauto

theorem validWithdrawal_leaseUID {intent : AdapterWithdrawalIntent}
    (hvalid : ¬ h.validWithdrawal intent leaseUID = false) : intent.leaseUID = leaseUID := by
  simp only [AdapterHandler.validWithdrawal, Bool.not_eq_false, Bool.and_eq_true,
    beq_iff_eq] at hvalid
  tauto

theorem deliver_serves
    (hkeyed : ∀ leaseUID state, s.memory leaseUID = some state → state.record.leaseUID = leaseUID)
    (leaseUID : ObjectUID) (body : Option AdapterLeaseRecord) (clock : AdapterClock) :
    Serves s clock (.deliver leaseUID body) (h.deliver s leaseUID body clock) := by
  unfold AdapterHandler.deliver
  cases body with
  | none => exact .rejected _ _
  | some record =>
    dsimp only
    split
    · exact .rejected _ _
    next hvalid =>
    obtain rfl := validRecord_leaseUID hvalid
    split
    · next hnone =>
      have hintends : Intends ⟨record, 0, 0, ""⟩ (s.memory record.leaseUID) true :=
        ⟨rfl, fun _ => rfl, fun hno => absurd hno (by simp),
          fun old hold => by rw [hnone] at hold; cases hold⟩
      have hserves : Serves s clock _ _ := .intending _ _ hintends
      rw [hnone] at hserves
      exact hserves
    · next previous hfound =>
      split_ifs with hconflict hrenew hcached hneeds
      · exact .rejected _ _
      · exact .renewing record previous hfound ⟨hrenew.1, hrenew.2.1⟩ hrenew.2.2.2
      · exact .acknowledged record previous _ hfound ⟨hcached.1, hcached.2.1⟩
      · have hintends : Intends ⟨record, 0, 0, ""⟩ (s.memory record.leaseUID) true := by
          refine ⟨rfl, fun _ => rfl, fun hno => absurd hno (by simp), fun old hold => ?_⟩
          rw [hfound] at hold
          cases hold
          exact ⟨hkeyed _ _ hfound, by simpa using hconflict⟩
        have hserves : Serves s clock _ _ := .intending _ _ hintends
        rw [hfound] at hserves
        exact hserves
      · have hidentity : sameApplicationIdentity record previous.record = true := by
          simpa using fun hno => hneeds (Or.inl hno)
        have hintends : Intends ⟨record, previous.appliedAt, 0, ""⟩
            (s.memory record.leaseUID) false := by
          refine ⟨rfl, fun hno => absurd hno (by simp), fun _ => ⟨?_, ?_⟩,
            fun old hold => ?_⟩
          · exact fun hno => hneeds (Or.inr hno)
          · exact ⟨previous, hfound, hidentity, rfl⟩
          · rw [hfound] at hold
            cases hold
            exact ⟨hkeyed _ _ hfound, by simpa using hconflict⟩
        have hserves : Serves s clock _ _ := .intending _ _ hintends
        rw [hfound] at hserves
        exact hserves

theorem withdraw_serves (leaseUID : ObjectUID) (body : Option AdapterWithdrawalIntent)
    (clock : AdapterClock) :
    Serves s clock (.withdraw leaseUID body) (h.withdraw s leaseUID body clock) := by
  unfold AdapterHandler.withdraw
  cases body with
  | none => exact .rejected _ _
  | some intent =>
    dsimp only
    split
    · exact .rejected _ _
    next hvalid =>
    obtain rfl := validWithdrawal_leaseUID hvalid
    split
    · next hnone => exact .withdrawn intent hnone
    next state hfound =>
    split_ifs with hmismatch
    · exact .rejected _ _
    · refine .restoring intent state hfound fun hlease => ⟨hlease, ?_⟩
      exact not_not.mp fun hno => hmismatch (Or.inl hno)

/-- The process once the states are loaded. -/
def loaded (h : AdapterHandler) (s : AdapterProcess) : AdapterProcess :=
  { s with states := some (view h s) }

/-- INTERNAL: **a request that gets the mutex** is refused before the states are there, or goes
on with them. -/
theorem serve_cases (hs : Standing h s) (hidle : s.running = none) (request : AdapterRequest)
    (readable : Bool) (clock : AdapterClock) :
    (∃ status, h.serve s request readable clock = s.respond (.rejected status)) ∨
      s.podUID ≠ "" ∧ Serves (loaded h s) clock request (h.serve s request readable clock) := by
  have hkeyed : ∀ leaseUID state, view h s leaseUID = some state →
      state.record.leaseUID = leaseUID := by
    cases hs with
    | idle _ keyed => exact keyed
    | running _ taken => rw [hidle] at taken; cases taken
  unfold AdapterHandler.serve
  split
  · exact Or.inl ⟨_, rfl⟩
  next hconfigured =>
  split
  · exact Or.inl ⟨_, rfl⟩
  next states hload =>
  obtain rfl := load_view hload
  refine Or.inr ⟨fun hno => hconfigured (Or.inr (Or.inr (Or.inr hno))), ?_⟩
  cases request with
  | deliver leaseUID body => exact deliver_serves (s := loaded h s) hkeyed leaseUID body clock
  | withdraw leaseUID body => exact withdraw_serves (s := loaded h s) leaseUID body clock

/-! ## Steps -/

theorem standing_start (h : AdapterHandler) (podUID : ObjectUID) :
    Standing h (AdapterProcess.start podUID) := by
  have hview : view h (AdapterProcess.start podUID) = fun _ => none := by
    simp [view, AdapterProcess.start]
  refine .idle rfl ?_ ?_
  · intro leaseUID state hstate
    rw [hview] at hstate
    cases hstate
  · intro _ leaseUID
    rw [hview]
    exact Trails.refl _

theorem standing_restart (hs : Standing h s) (podUID : ObjectUID) :
    Standing h { s with podUID, states := none, running := none } := by
  have hfile : ∀ leaseUID state, h.durable = true → s.file leaseUID = some state →
      state.record.leaseUID = leaseUID := by
    intro leaseUID state hdurable hstate
    cases hs with
    | idle _ keyed lags =>
      obtain ⟨found, hfound, hsame⟩ := (lags hdurable leaseUID).memory hstate
      rw [← hsame]
      exact keyed leaseUID found hfound
    | running p taken others stands =>
      by_cases hother : leaseUID = p.leaseUID
      · subst hother
        obtain ⟨found, hfound, hsame⟩ := (stands.lags hdurable).memory hstate
        rw [← hsame]
        exact fallback_leaseUID stands.sound hfound
      · obtain ⟨found, hfound, hsame⟩ := (others.lags hdurable leaseUID hother).memory hstate
        rw [← hsame]
        exact others.keyed leaseUID hother found hfound
  refine .idle rfl ?_ ?_
  · intro leaseUID state hstate
    simp only [view, Option.getD_none] at hstate
    split at hstate
    · next hdurable => exact hfile leaseUID state hdurable hstate
    · cases hstate
  · intro hdurable leaseUID
    simp only [view, Option.getD_none, hdurable, if_true]
    exact Trails.refl _

theorem others_loaded (hs : Standing h s) (hidle : s.running = none) (hnamed : s.podUID ≠ "")
    (leaseUID : ObjectUID) : Others h leaseUID (loaded h s) := by
  cases hs with
  | idle _ keyed lags =>
    exact ⟨rfl, hnamed, fun other _ => keyed other, fun hdurable other _ => lags hdurable other⟩
  | running _ taken => rw [hidle] at taken; cases taken

theorem idle_lags (hs : Standing h s) (hidle : s.running = none) (hdurable : h.durable = true)
    (leaseUID : ObjectUID) : Trails (s.file leaseUID) (view h s leaseUID) := by
  cases hs with
  | idle _ _ lags => exact lags hdurable leaseUID
  | running _ taken => rw [hidle] at taken; cases taken

theorem idle_keyed (hs : Standing h s) (hidle : s.running = none)
    (hstate : view h s leaseUID = some state) : state.record.leaseUID = leaseUID := by
  cases hs with
  | idle _ keyed => exact keyed leaseUID state hstate
  | running _ taken => rw [hidle] at taken; cases taken

theorem standing_serve (hs : Standing h s) (hidle : s.running = none) (request : AdapterRequest)
    (readable : Bool) (clock : AdapterClock) : Standing h (h.serve s request readable clock).1 := by
  have hwhole : Standing h (loaded h s).release :=
    .idle rfl (fun _ _ hstate => idle_keyed (s := s) hs hidle hstate)
      (fun hdurable => idle_lags (s := s) hs hidle hdurable)
  rcases serve_cases hs hidle request readable clock with ⟨status, heq⟩ | ⟨hnamed, hserves⟩
  · rw [heq]
    have hsame : s.release = s := by simp [AdapterProcess.release, ← hidle]
    simpa [AdapterProcess.respond, hsame] using hs
  have ho := others_loaded hs hidle hnamed
  generalize h.serve s request readable clock = result at hserves
  cases hserves with
  | rejected => exact hwhole
  | renewing record previous found renews applied =>
    refine ((ho record.leaseUID).put _).goto (p := .renewing record previous clock.decidedAt) ?_
    refine Stands.put (p := .renewing record previous clock.decidedAt) ⟨renews, applied⟩ ?_
    intro hdurable
    have hlags := idle_lags hs hidle hdurable record.leaseUID
    rwa [show view h s record.leaseUID = some previous from found] at hlags
  | acknowledged => exact hwhole
  | intending pending needsApply intends =>
    refine ((ho pending.record.leaseUID).put _).goto (p := .intending pending _ needsApply) ?_
    refine Stands.put (p := .intending pending _ needsApply) intends ?_
    intro hdurable
    exact idle_lags hs hidle hdurable pending.record.leaseUID
  | withdrawn => exact hwhole
  | restoring intent state found withdraws =>
    refine (ho intent.leaseUID).goto (p := .restoring intent state) ⟨?_, found, ?_⟩
    · exact withdraws (idle_keyed hs hidle found)
    · intro hdurable
      have hlags := idle_lags hs hidle hdurable intent.leaseUID
      rwa [show view h s intent.leaseUID = some state from found] at hlags

theorem onward_stands {succeeded : Bool} (hstands : Stands h s p) (hnamed : s.podUID ≠ "")
    (honward : Onward s.podUID p succeeded q) :
    Sound s.podUID q ∧ (h.durable = true → Trails (s.file q.leaseUID) q.fallback) := by
  cases honward with
  | applied pending now =>
    have hfresh : ¬ Touched pending := hstands.sound
    refine ⟨not_not.mp fun hno => hfresh (Or.inr hno), fun hdurable => ?_⟩
    exact Trails.some (hstands.lags hdurable) rfl (fun htouched => absurd htouched hfresh)
  | observed =>
    refine ⟨rfl, fun hdurable => ?_⟩
    exact Trails.some (hstands.lags hdurable) rfl (fun _ => Or.inr hnamed)
  | restored | confirmed => exact ⟨hstands.sound, hstands.lags⟩
  | excused _ _ _ excused =>
    obtain ⟨rfl | rfl, -⟩ := excused
    · exact ⟨hstands.sound, hstands.lags⟩
    · exact ⟨hstands.sound, hstands.lags⟩

theorem saved_sound (hsound : Sound podUID p) (hsaved : Saved p q) : Sound podUID q := by
  cases hsaved with
  | applying pending previous =>
    have hintends : Intends pending previous true := hsound
    simp [Sound, Touched, hintends.unobserved, hintends.fresh rfl]
  | observing pending previous =>
    have hintends : Intends pending previous false := hsound
    exact hintends.unobserved
  | recorded => exact hsound

theorem standing_act (htaken : s.running = some p) (ho : Others h p.leaseUID s)
    (hstands : Stands h s p) (a : AdapterAnswer) : Standing h (h.act s a p).1 := by
  have hacts := act_cases ho.loaded hstands a
  generalize h.act s a p = result at hacts
  cases hacts with
  | failed => exact ho.fallBack hstands
  | retried => exact .running p htaken ho hstands
  | onward _ q onward =>
    obtain ⟨hsound, hlags⟩ := onward_stands hstands ho.named onward
    have hlease := onward_leaseUID onward
    rw [← hlease] at ho ⊢
    exact (ho.put q.held).goto (Stands.put hsound hlags)
  | saved q saved =>
    obtain ⟨hheld, hfallback⟩ := saved_held saved
    have hlease := saved_leaseUID saved
    rw [← hlease] at ho
    refine ho.persist.goto (hstands.persist hlease hheld ?_ (saved_sound hstands.sound saved))
    rw [hheld, hfallback]
  | answered => exact ho.finish hstands

/-- INTERNAL: **every step of an adapter leaves it standing.** -/
theorem standing_next (hs : Standing h s) (input : AdapterInput) :
    Standing h (h.next s input).1 := by
  cases input with
  | request request readable clock =>
    cases hidle : s.running with
    | none =>
      simp only [AdapterHandler.next, hidle]
      exact standing_serve hs hidle request readable clock
    | some p =>
      simp only [AdapterHandler.next, hidle]
      exact hs
  | answer a =>
    cases hs with
    | idle released keyed lags =>
      simp only [AdapterHandler.next, released]
      exact .idle released keyed lags
    | running p taken others stands =>
      simp only [AdapterHandler.next, taken]
      exact standing_act taken others stands a
  | restart podUID => exact standing_restart hs podUID

end Waycloak.Interface
