import Waycloak.Computation.Runs
import Waycloak.Model.Reservations

/-!
# What one step of the provider port allocator can do

`ReserveEffect` and `QuarantineEffect` say what a step of a call does to the stored
reservations; `AllocationStep` is the inversion of a step of all calls on one gateway. The
ports that `Reserve` and `Recover` return lie in the provider range, whatever the API
answers.
-/

set_option autoImplicit false

namespace Waycloak.Interface

open Waycloak.Model Waycloak.Computation

variable {d : Digest} {leaseUID : ObjectUID} {gateway : VPNGateway} {answer : Answer}
  {store : ReservationStore} {s s' : Allocation} {input : AllocationInput} {call : ReserveCall}
  {output : AllocationOutput}
variable {item e e' : ProviderReservation}

/-! ## Reserve -/

/-- What a step of `Reserve` does to the store. -/
inductive ReserveEffect (d : Digest) (leaseUID : ObjectUID) (gateway : VPNGateway)
    (store : ReservationStore) : ReserveCall → ReservationStore → AllocationEvent → Prop
  | quiet (call : ReserveCall) : ReserveEffect d leaseUID gateway store call store .quiet
  /-- an active reservation that a read has shown is returned -/
  | shown (call : ReserveCall) (item : ProviderReservation) (port : UInt16)
      (hactive : item.activeFor d leaseUID = true)
      (hport : (item.gatewayUIDAnnotation = gateway.uid ∧ item.port = some port) ∨
        item.key = (desiredProviderReservation d leaseUID gateway port).key) :
      ReserveEffect d leaseUID gateway store call store (.returned port (some item))
  /-- a quarantine that was expired when it was listed is deleted by name -/
  | deleted (now : Time) (items rest : List ProviderReservation) (item : ProviderReservation)
      (occupied : List UInt16) (hstate : item.stateLabel = .quarantine)
      (hexpired : item.quarantineExpired now = true) :
      ReserveEffect d leaseUID gateway store (.sweeping now items (item :: rest) occupied)
        (store.delete item.key) (.deleted item (store.find item.key))
  /-- a reservation is created, whether or not the call hears of it -/
  | created (now : Time) (items : List ProviderReservation) (occupied : List UInt16) (offset : ℕ)
      (created : ReservationStore) (event : AllocationEvent)
      (hcreate : store.create (desiredProviderReservation d leaseUID gateway
        (probePort d gateway.uid leaseUID offset)) = some created)
      (hevent : event = .returned (probePort d gateway.uid leaseUID offset) none ∨ event = .quiet) :
      ReserveEffect d leaseUID gateway store (.probing now items occupied offset) created event

theorem Answer.cases_effect {P : ReservationStore → AllocationEvent → Prop} (answer : Answer)
    {written : ReservationStore} {event : AllocationEvent} (hquiet : P store .quiet)
    (hwritten : P written event) : P (answer.stored store written) (answer.event event) := by
  unfold Answer.stored Answer.event
  cases answer.takesEffect
  · exact hquiet
  · exact hwritten

/-- INTERNAL: an acknowledged write took effect. -/
theorem Answer.stored_of_ok (h : answer.failure = none) (written : ReservationStore) :
    answer.stored store written = written := by
  simp [Answer.stored, Answer.takesEffect, h]

/-- INTERNAL: **the effect of one step of `Reserve`.**
SOURCE: portforward/allocation.go:80-131 -/
theorem reserveStep_effect (d : Digest) (leaseUID : ObjectUID) (gateway : VPNGateway)
    (answer : Answer) (store : ReservationStore) (call : ReserveCall) :
    ReserveEffect d leaseUID gateway store call (reserveStep d leaseUID gateway answer store call).2.1
      (reserveStep d leaseUID gateway answer store call).2.2 := by
  fun_cases reserveStep d leaseUID gateway answer store call with
  | case7 _ _ item _ _ hgateway port hport hactive =>
    exact .shown _ item port hactive (Or.inl ⟨not_not.mp hgateway, hport⟩)
  | case8 _ _ _ _ _ _ _ _ _ hexpired | case9 _ _ _ _ _ _ _ _ _ hexpired =>
    exact Answer.cases_effect answer (.quiet _) (.deleted _ _ _ _ _ hexpired.1 hexpired.2)
  | case13 _ _ _ _ _ _ _ _ _ hcreate => exact .created _ _ _ _ _ _ hcreate (Or.inl rfl)
  | case15 _ _ _ _ _ _ _ _ _ _ hcreate =>
    unfold Answer.stored
    cases answer.takesEffect
    · exact .quiet _
    · exact .created _ _ _ _ _ _ hcreate (Or.inr rfl)
  | case17 _ _ _ _ _ _ existing hexisting _ hactive =>
    exact .shown _ existing _ hactive (Or.inr (by simpa using List.find?_some hexisting))
  | _ => exact .quiet _

/-! ## Ports -/

theorem probePort_ge (d : Digest) (gatewayUID leaseUID : ObjectUID) (offset : ℕ) :
    providerPortFirst ≤ probePort d gatewayUID leaseUID offset := by
  have hlt : (d.seed gatewayUID leaseUID % providerPortCount + offset) % providerPortCount < 16384 :=
    Nat.mod_lt _ (by decide)
  unfold probePort
  dsimp only
  generalize (d.seed gatewayUID leaseUID % providerPortCount + offset) % providerPortCount = k at hlt
  rw [UInt16.le_iff_toNat_le, UInt16.toNat_add, UInt16.toNat_ofNat']
  have hfirst : providerPortFirst.toNat = 49152 := rfl
  omega

theorem port_ge {r : ProviderReservation} {port : UInt16} (h : r.port = some port) :
    providerPortFirst ≤ port := by
  unfold ProviderReservation.port at h
  have hrange := (Option.filter_eq_some_iff.mp h).2
  simp only [Bool.and_eq_true, decide_eq_true_eq] at hrange
  exact hrange.1

/-- A call that has returned a port has returned one of the provider range. -/
def PortInRange (call : ReserveCall) : Prop :=
  ∀ port, call = .done (.ok port) → providerPortFirst ≤ port

theorem reserveStep_portInRange (h : PortInRange call) :
    PortInRange (reserveStep d leaseUID gateway answer store call).1 := by
  intro port
  fun_cases reserveStep d leaseUID gateway answer store call with
  | case7 _ _ _ _ _ _ found hfound =>
    rintro ⟨⟩
    exact port_ge hfound
  | case13 | case17 =>
    intro hdone
    rw [← Except.ok.inj (ReserveCall.done.inj hdone)]
    exact probePort_ge d gateway.uid leaseUID _
  | case20 => exact h port
  | _ => nofun

/-- INTERNAL: **`Reserve` returns a port of the provider range**, whatever its requests meet.
SOURCE: portforward/allocation.go:80-131 -/
theorem reserveCall_port {steps : List (Answer × ReservationStore)} {port : UInt16}
    (hcall : PortInRange call) (h : reserveCall d leaseUID gateway steps call = .done (.ok port)) :
    providerPortFirst ≤ port := by
  induction steps generalizing call with
  | nil => exact hcall port h
  | cons _ _ ih => exact ih (reserveStep_portInRange hcall) h

/-- INTERNAL: **what `Recover` returns**: a gateway UID and a port of the provider range.
SOURCE: portforward/allocation.go:52-78 -/
theorem recoverReservation_ok {gatewayNamespace : NamespaceName}
    {view : Except String (List ProviderReservation)} {identity : ProviderReservationIdentity}
    (h : recoverReservation d leaseUID gatewayNamespace view = .ok identity) :
    identity.gatewayUID ≠ "" ∧ providerPortFirst ≤ identity.port := by
  revert h
  fun_cases recoverReservation d leaseUID gatewayNamespace view with
  | case5 _ _ _ _ port hport hidentity =>
    rintro ⟨⟩
    exact ⟨fun hempty => hidentity (Or.inl hempty), port_ge hport⟩
  | _ => nofun

/-! ## Quarantine -/

/-- What a step of `Quarantine` does to the store. -/
inductive QuarantineEffect (until_ : Time) (store : ReservationStore) :
    QuarantineCall → ReservationStore → AllocationEvent → Prop
  | quiet (call : QuarantineCall) : QuarantineEffect until_ store call store .quiet
  /-- the reservation under the listed one's name is patched -/
  | patched (now : Time) (target : ProviderReservation) :
      QuarantineEffect until_ store (.patching now target)
        (store.update target.key (mergePatch target (quarantined target until_ now))
          (mergePatch_key _ _))
        (.patched target (store.find target.key))

/-- INTERNAL: **the effect of one step of `Quarantine`.**
SOURCE: portforward/allocation.go:133-168 -/
theorem quarantineStep_effect (d : Digest) (leaseUID : ObjectUID) (gateway : VPNGateway)
    (until_ : Time) (answer : Answer) (store : ReservationStore) (call : QuarantineCall) :
    QuarantineEffect until_ store call
      (quarantineStep d leaseUID gateway until_ answer store call).2.1
      (quarantineStep d leaseUID gateway until_ answer store call).2.2 := by
  fun_cases quarantineStep d leaseUID gateway until_ answer store call with
  | case6 now target => exact Answer.cases_effect answer (.quiet _) (.patched now target)
  | case8 now target _ _ patched _ _ hok =>
    simp only [patched, Answer.stored_of_ok hok]
    exact .patched now target
  | _ => exact .quiet _

/-! ## The calls -/

/-- INTERNAL: a call of `Reserve` in its loop has just listed, or has passed over one more
reservation that is not an active one of its lease.
SOURCE: portforward/allocation.go:88-107 -/
theorem reserveStep_sweeping {now : Time} {items rest : List ProviderReservation}
    {occupied : List UInt16}
    (h : (reserveStep d leaseUID gateway answer store call).1 = .sweeping now items rest occupied) :
    (call = .listing ∧ now = answer.now ∧ rest = items ∧ ∀ item ∈ items, item ∈ answer.view) ∨
      ∃ item before, call = .sweeping now items (item :: rest) before ∧
        ¬(item.gatewayUIDAnnotation = gateway.uid ∧ item.activeFor d leaseUID = true) := by
  revert h
  fun_cases reserveStep d leaseUID gateway answer store call with
  | case3 =>
    intro h
    injection h with hnow hitems hrest
    subst hitems
    exact Or.inl ⟨rfl, hnow.symm, hrest.symm, fun item hitem => (List.mem_filter.mp hitem).1⟩
  | case5 _ _ item _ _ hgateway =>
    rintro ⟨⟩
    exact Or.inr ⟨item, _, rfl, fun hown => hgateway hown.1⟩
  | case9 _ _ item _ _ _ _ _ hactive | case10 _ _ item _ _ _ _ _ hactive =>
    rintro ⟨⟩
    exact Or.inr ⟨item, _, rfl, fun hown => hactive hown.2⟩
  | _ => nofun

/-- The listing of a call that has left its loop without a result. -/
def passedListing : ReserveCall → Option (List ProviderReservation)
  | .probing _ items _ _ | .readingBack _ items _ _ => some items
  | _ => none

/-- INTERNAL: a call that has left its loop has listed what it listed before, or has just reached the
end of its listing. -/
theorem reserveStep_passed {items : List ProviderReservation}
    (h : passedListing (reserveStep d leaseUID gateway answer store call).1 = some items) :
    passedListing call = some items ∨ ∃ now occupied, call = .sweeping now items [] occupied := by
  revert h
  fun_cases reserveStep d leaseUID gateway answer store call with
  | case4 now _ occupied =>
    rintro ⟨⟩
    exact Or.inr ⟨now, occupied, rfl⟩
  | case12 | case14 | case18 | case19 => exact Or.inl
  | _ => nofun

/-- INTERNAL: a reservation whose port is returned without a CREATE was the next one of the listing, or
has just been read.
SOURCE: portforward/allocation.go:98-100, 124-127 -/
theorem reserveStep_shown {port : UInt16}
    (h : (reserveStep d leaseUID gateway answer store call).2.2 = .returned port (some item)) :
    (∃ now items rest occupied, call = .sweeping now items (item :: rest) occupied) ∨
      item ∈ answer.view := by
  revert h
  fun_cases reserveStep d leaseUID gateway answer store call with
  | case7 now items _ rest occupied =>
    rintro ⟨⟩
    exact Or.inl ⟨now, items, rest, occupied, rfl⟩
  | case8 _ _ _ _ _ _ _ _ _ _ _ event | case9 _ _ _ _ _ _ _ _ _ _ _ event =>
    simp only [event, Answer.event]
    split <;> rintro ⟨⟩
  | case13 =>
    intro h
    cases (AllocationEvent.returned.inj h).2
  | case17 _ _ _ _ _ _ _ hexisting =>
    intro h
    injection h with _ hitem
    cases hitem
    exact Or.inr (List.mem_of_find?_eq_some hexisting)
  | _ => rintro ⟨⟩

/-- INTERNAL: the target of a patch is a listed reservation of the call's own lease.
SOURCE: portforward/allocation.go:137-152 -/
theorem quarantineStep_patching {call : QuarantineCall} {until_ now : Time}
    {target : ProviderReservation}
    (h : (quarantineStep d leaseUID gateway until_ answer store call).1 = .patching now target) :
    target.leaseUIDAnnotation = leaseUID := by
  revert h
  fun_cases quarantineStep d leaseUID gateway until_ answer store call with
  | case4 _ _ _ hfound =>
    rintro ⟨⟩
    have hmem : target ∈ quarantinable d leaseUID gateway answer.view := by
      rw [hfound]
      exact List.mem_singleton_self target
    have hnames := (List.mem_filter.mp hmem).2
    simp only [Bool.and_eq_true, beq_iff_eq] at hnames
    exact hnames.2
  | _ => nofun

/-! ## The system -/

/-- What one step of the allocation system can do. -/
inductive AllocationStep (d : Digest) (gateway : VPNGateway) (s : Allocation) :
    AllocationInput → Allocation → AllocationOutput → Prop
  /-- time passes, a call starts, or nothing happens -/
  | quiet (input : AllocationInput) (now : Time) (calls : List AllocatorCall) (hnow : s.now ≤ now)
      (hcalls : ∀ call ∈ calls, call ∈ s.calls ∨
        (∃ leaseUID, input = .reserve leaseUID ∧ call = .reserve leaseUID .listing) ∨
        ∃ leaseUID until_, input = .quarantine leaseUID until_ ∧
          call = .quarantine leaseUID until_ .listing) :
      AllocationStep d gateway s input { s with now, calls } none
  /-- a call of `Reserve` takes a step -/
  | reserve (input : AllocationInput) (leaseUID : ObjectUID) (call : ReserveCall) (answer : Answer)
      (calls : List AllocatorCall) (hcall : .reserve leaseUID call ∈ s.calls)
      (hnow : answer.now = s.now)
      (hview : ∃ version ∈ s.store :: s.past, answer.view = version.entries)
      (hcalls : ∀ other ∈ calls, other ∈ s.calls ∨ other =
        .reserve leaseUID (reserveStep d leaseUID gateway answer s.store call).1) :
      AllocationStep d gateway s input
        { s with store := (reserveStep d leaseUID gateway answer s.store call).2.1
                 past := s.store :: s.past, calls }
        (some (.reserve leaseUID call, (reserveStep d leaseUID gateway answer s.store call).2.2))
  /-- a call of `Quarantine` takes a step -/
  | quarantine (input : AllocationInput) (leaseUID : ObjectUID) (until_ : Time)
      (call : QuarantineCall) (answer : Answer) (calls : List AllocatorCall)
      (hcall : .quarantine leaseUID until_ call ∈ s.calls) (hnow : answer.now = s.now)
      (hview : ∃ version ∈ s.store :: s.past, answer.view = version.entries)
      (hcalls : ∀ other ∈ calls, other ∈ s.calls ∨ other = .quarantine leaseUID until_
        (quarantineStep d leaseUID gateway until_ answer s.store call).1) :
      AllocationStep d gateway s input
        { s with store := (quarantineStep d leaseUID gateway until_ answer s.store call).2.1
                 past := s.store :: s.past, calls }
        (some (.quarantine leaseUID until_ call,
          (quarantineStep d leaseUID gateway until_ answer s.store call).2.2))

theorem view_mem (s : Allocation) (age : ℕ) : s.view age ∈ s.store :: s.past := by
  unfold Allocation.view
  cases hversion : (s.store :: s.past)[age]? with
  | none => exact List.mem_cons_self
  | some => exact List.mem_of_getElem? hversion

/-- INTERNAL: **the inversion of a step of the allocation system.** -/
theorem allocation_step (d : Digest) (gateway : VPNGateway) (s : Allocation)
    (input : AllocationInput) :
    AllocationStep d gateway s input (s.next d gateway input).1 (s.next d gateway input).2 := by
  have hset : ∀ (index : ℕ) (new : AllocatorCall), ∀ other ∈ s.calls.set index new,
      other ∈ s.calls ∨ other = new := fun index new other h => List.mem_or_eq_of_mem_set h
  cases input with
  | reserve leaseUID =>
    refine .quiet _ s.now _ le_rfl fun call hcall => ?_
    obtain hcall | hcall := List.mem_append.mp hcall
    · exact Or.inl hcall
    · exact Or.inr (Or.inl ⟨leaseUID, rfl, List.mem_singleton.mp hcall⟩)
  | quarantine leaseUID until_ =>
    refine .quiet _ s.now _ le_rfl fun call hcall => ?_
    obtain hcall | hcall := List.mem_append.mp hcall
    · exact Or.inl hcall
    · exact Or.inr (Or.inr ⟨leaseUID, until_, rfl, List.mem_singleton.mp hcall⟩)
  | tick elapsed =>
    exact .quiet _ _ s.calls (Int.le_add_of_nonneg_right (Int.natCast_nonneg elapsed))
      fun call hcall => Or.inl hcall
  | proceed index age failure applied =>
    simp only [Allocation.next]
    cases hindex : s.calls[index]? with
    | none => exact .quiet _ s.now s.calls le_rfl fun call hcall => Or.inl hcall
    | some call =>
      have hmem : call ∈ s.calls := List.mem_of_getElem? hindex
      cases call with
      | reserve leaseUID call =>
        exact .reserve _ leaseUID call
          { failure, applied, view := (s.view age).entries, now := s.now } _ hmem rfl
          ⟨_, view_mem s age, rfl⟩ (hset index _)
      | quarantine leaseUID until_ call =>
        exact .quarantine _ leaseUID until_ call
          { failure, applied, view := (s.view age).entries, now := s.now } _ hmem rfl
          ⟨_, view_mem s age, rfl⟩ (hset index _)

abbrev AllocationRecord := Record Allocation AllocationInput AllocationOutput

/-- The runs of the calls on one gateway. -/
def allocationRun (d : Digest) (gateway : VPNGateway) (s : Allocation)
    (inputs : List AllocationInput) : List AllocationRecord :=
  exec (Allocation.next d gateway) s inputs

theorem allocation_record_step {r : AllocationRecord}
    (h : r = record (Allocation.next d gateway) r.before r.input) :
    AllocationStep d gateway r.before r.input r.after r.output := by
  rw [h]
  exact allocation_step d gateway r.before r.input

/-! ## What a step does to the stored reservations -/

/-- What a step of the calls does to the store, and what is seen of it. -/
inductive CallEffect (d : Digest) (gateway : VPNGateway) (s : Allocation) :
    ReservationStore → AllocationOutput → Prop
  | quiet : CallEffect d gateway s s.store none
  | reserve (leaseUID : ObjectUID) {call : ReserveCall} {store : ReservationStore}
      {event : AllocationEvent} (hcall : .reserve leaseUID call ∈ s.calls)
      (heffect : ReserveEffect d leaseUID gateway s.store call store event) :
      CallEffect d gateway s store (some (.reserve leaseUID call, event))
  | quarantine (leaseUID : ObjectUID) {until_ : Time} {call : QuarantineCall}
      {store : ReservationStore} {event : AllocationEvent}
      (hcall : .quarantine leaseUID until_ call ∈ s.calls)
      (heffect : QuarantineEffect until_ s.store call store event) :
      CallEffect d gateway s store (some (.quarantine leaseUID until_ call, event))

theorem AllocationStep.effect (h : AllocationStep d gateway s input s' output) :
    CallEffect d gateway s s'.store output := by
  cases h with
  | quiet => exact .quiet
  | reserve leaseUID call answer _ hcall =>
    exact .reserve leaseUID hcall (reserveStep_effect d leaseUID gateway answer s.store call)
  | quarantine leaseUID until_ call answer _ hcall =>
    exact .quarantine leaseUID hcall
      (quarantineStep_effect d leaseUID gateway until_ answer s.store call)

/-- Two versions of one reservation: nothing but its state and its times may differ. -/
structure SameReservation (e e' : ProviderReservation) : Prop where
  key : e'.key = e.key
  portLabel : e'.portLabel = e.portLabel
  gatewayUID : e'.gatewayUIDAnnotation = e.gatewayUIDAnnotation
  leaseUID : e'.leaseUIDAnnotation = e.leaseUIDAnnotation

theorem SameReservation.refl (e : ProviderReservation) : SameReservation e e := ⟨rfl, rfl, rfl, rfl⟩

theorem SameReservation.port (h : SameReservation e e') : e'.port = e.port := by
  unfold ProviderReservation.port
  rw [h.portLabel]

theorem step_origin (h : AllocationStep d gateway s input s' output) (he' : e' ∈ s'.store) :
    (∃ e ∈ s.store, SameReservation e e') ∨
      ∃ leaseUID port, e' = desiredProviderReservation d leaseUID gateway port := by
  have heffect := h.effect
  generalize s'.store = store' at heffect he'
  cases heffect with
  | quiet => exact Or.inl ⟨e', he', .refl e'⟩
  | reserve leaseUID _ heffect =>
    cases heffect with
    | quiet | shown => exact Or.inl ⟨e', he', .refl e'⟩
    | deleted => exact Or.inl ⟨e', (KeyedStore.mem_delete.mp he').1, .refl e'⟩
    | created _ _ _ _ _ _ hcreate =>
      obtain hold | hnew := (KeyedStore.mem_create hcreate).mp he'
      · exact Or.inl ⟨e', hold, .refl e'⟩
      · exact Or.inr ⟨leaseUID, _, hnew⟩
  | quarantine _ _ heffect =>
    cases heffect with
    | quiet => exact Or.inl ⟨e', he', .refl e'⟩
    | patched =>
      obtain ⟨e, he, rfl⟩ := KeyedStore.mem_update.mp he'
      refine Or.inl ⟨e, he, ?_⟩
      split
      · exact ⟨mergePatch_key _ _ e, rfl, rfl, rfl⟩
      · exact .refl e

theorem step_kept (h : AllocationStep d gateway s input s' output) (he : e ∈ s.store) :
    (∃ e' ∈ s'.store, SameReservation e e') ∨
      ∃ call shown, output = some (call, .deleted shown (some e)) := by
  have heffect := h.effect
  generalize s'.store = store' at heffect
  cases heffect with
  | quiet => exact Or.inl ⟨e, he, .refl e⟩
  | reserve _ _ heffect =>
    cases heffect with
    | quiet | shown => exact Or.inl ⟨e, he, .refl e⟩
    | deleted _ _ _ item =>
      by_cases hkey : e.key = item.key
      · rw [KeyedStore.find_eq_some.mpr ⟨he, hkey⟩]
        exact Or.inr ⟨_, item, rfl⟩
      · exact Or.inl ⟨e, KeyedStore.mem_delete.mpr ⟨he, hkey⟩, .refl e⟩
    | created _ _ _ _ _ _ hcreate =>
      exact Or.inl ⟨e, (KeyedStore.mem_create hcreate).mpr (Or.inl he), .refl e⟩
  | quarantine _ _ heffect =>
    cases heffect with
    | quiet => exact Or.inl ⟨e, he, .refl e⟩
    | patched =>
      refine Or.inl ⟨_, KeyedStore.mem_update.mpr ⟨e, he, rfl⟩, ?_⟩
      split
      · exact ⟨mergePatch_key _ _ e, rfl, rfl, rfl⟩
      · exact .refl e

/-- INTERNAL: only `Reserve` deletes, in its loop, a reservation it has listed as an expired
quarantine; what it deletes is what is stored under that name. -/
theorem step_deleted {call : AllocatorCall} {shown : ProviderReservation}
    {stored : Option ProviderReservation}
    (h : AllocationStep d gateway s input s' (some (call, .deleted shown stored))) :
    shown.stateLabel = .quarantine ∧
      ∃ leaseUID now items rest occupied,
        .reserve leaseUID (.sweeping now items (shown :: rest) occupied) ∈ s.calls ∧
        shown.quarantineExpired now = true := by
  have heffect := h.effect
  generalize s'.store = store' at heffect
  cases heffect with
  | reserve leaseUID hcall heffect =>
    cases heffect with
    | deleted now items rest item occupied hstate hexpired =>
      exact ⟨hstate, leaseUID, now, items, rest, occupied, hcall, hexpired⟩
    | created _ _ _ _ _ _ _ hevent => obtain hevent | hevent := hevent <;> cases hevent
  | quarantine _ _ heffect => cases heffect

/-- INTERNAL: only `Reserve` returns a port: of a reservation it has just created, or of an active
one of its lease that a read has shown. -/
theorem step_returned {call : AllocatorCall} {port : UInt16} {shown : Option ProviderReservation}
    (h : AllocationStep d gateway s input s' (some (call, .returned port shown))) :
    (shown = none ∧
      s.store.create (desiredProviderReservation d call.leaseUID gateway port) = some s'.store) ∨
    ∃ item, shown = some item ∧ s'.store = s.store ∧ item.activeFor d call.leaseUID = true ∧
      ((item.gatewayUIDAnnotation = gateway.uid ∧ item.port = some port) ∨
        item.key = (desiredProviderReservation d call.leaseUID gateway port).key) := by
  have heffect := h.effect
  generalize s'.store = store' at heffect ⊢
  cases heffect with
  | reserve _ _ heffect =>
    cases heffect with
    | shown _ item _ hactive hport => exact Or.inr ⟨item, rfl, rfl, hactive, hport⟩
    | created _ _ _ _ _ _ hcreate hevent =>
      obtain hevent | hevent := hevent
      · cases hevent
        exact Or.inl ⟨rfl, hcreate⟩
      · cases hevent
  | quarantine _ _ heffect => cases heffect

/-- INTERNAL: a reservation whose port is returned without a CREATE comes from the listing of the call,
or from a version of the store. -/
theorem step_shown {call : AllocatorCall} {port : UInt16}
    (h : AllocationStep d gateway s input s' (some (call, .returned port (some item)))) :
    (∃ now items rest occupied,
      .reserve call.leaseUID (.sweeping now items (item :: rest) occupied) ∈ s.calls) ∨
      ∃ version ∈ s.store :: s.past, item ∈ version := by
  generalize houtput : some (call, AllocationEvent.returned port (some item)) = output at h
  cases h with
  | quiet => cases houtput
  | reserve _ _ _ _ hcall _ hview =>
    obtain ⟨rfl, hevent⟩ := Prod.mk.inj (Option.some.inj houtput)
    obtain ⟨now, items, rest, occupied, rfl⟩ | hread := reserveStep_shown hevent.symm
    · exact Or.inl ⟨now, items, rest, occupied, hcall⟩
    · obtain ⟨version, hversion, hentries⟩ := hview
      rw [hentries] at hread
      exact Or.inr ⟨version, hversion, hread⟩
  | quarantine leaseUID until_ call answer =>
    have heffect := quarantineStep_effect d leaseUID gateway until_ answer s.store call
    have hevent := (Prod.mk.inj (Option.some.inj houtput)).2
    rw [← hevent] at heffect
    generalize (quarantineStep d leaseUID gateway until_ answer s.store call).2.1 = store' at heffect
    cases heffect

theorem step_versions (h : AllocationStep d gateway s input s' output) {version : ReservationStore}
    (hversion : version ∈ s'.store :: s'.past) :
    version = s'.store ∨ version ∈ s.store :: s.past := by
  cases h with
  | quiet => exact Or.inr hversion
  | reserve | quarantine => exact List.mem_cons.mp hversion

/-- The lease and the port of a step that returns one. -/
def returnedPort (r : AllocationRecord) : Option (ObjectUID × UInt16) :=
  match r.output with
  | some (call, .returned port _) => some (call.leaseUID, port)
  | _ => none

theorem returnedPort_some {r : AllocationRecord} {port : UInt16}
    (h : returnedPort r = some (leaseUID, port)) :
    ∃ call shown, r.output = some (call, .returned port shown) ∧ call.leaseUID = leaseUID := by
  unfold returnedPort at h
  split at h
  · next call port shown houtput =>
    cases h
    exact ⟨call, shown, houtput, rfl⟩
  · cases h

/-- UIDs as their own labels, and one seed for all: two leases may well probe alike. -/
def sampleDigest : Digest :=
  { identityLabelValue := id, shortUID := id, seed := fun _ _ => 0 }

/-- A gateway on which no call is in progress. -/
def idleAllocation (store : ReservationStore) (now : Time) : Allocation :=
  { store, past := [], now, calls := [] }

/-- The next request of a call succeeds and shows the current store. -/
def served (index : ℕ) : AllocationInput := .proceed index 0 none true

end Waycloak.Interface
