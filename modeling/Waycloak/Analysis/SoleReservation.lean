import Mathlib
import Waycloak.Interface.AllocationSteps
import Waycloak.Interface.ControllerSteps

/-!
# One reservation per lease

`Reserve` calls of one lease run with each other and with `Reserve` and `Quarantine` calls of
other leases. Each looks for an active reservation of the lease in its listing before it
probes, and reads back a name it could not create; neither read need be current.

Two calls of one lease can still create two reservations, if they have listed different
ports as occupied. As long as every CREATE for the lease comes from a listing that shows
the reservations the lease then has (`createsInformed`), and deletions and patches meet
what was listed (`writesCurrent`), the lease has one reservation for good, every call
returns its port, and no listing shows two (`sole_reservation`).
`expiry_splits_reservation` is a run in which a quarantine expires between the two listings.
-/

set_option autoImplicit false

namespace Waycloak.Analysis

open Waycloak.Model Waycloak.Interface Waycloak.Computation

variable {d : Digest} {gateway : VPNGateway} {leaseUID : ObjectUID} {r : AllocationRecord}

/-! ## Conditions on a step -/

/-- What a step deletes or patches is stored as the call was shown it. -/
def writesCurrent (r : AllocationRecord) : Bool :=
  match r.output with
  | some (_, .deleted shown (some stored)) => stored == shown
  | some (_, .patched shown (some stored)) => stored == shown
  | _ => true

/-- A CREATE for the lease comes from a listing with every reservation that names the lease. -/
def createsInformed (leaseUID : ObjectUID) (r : AllocationRecord) : Bool :=
  match r.output with
  | some (.reserve uid (.probing _ items _ _), _) =>
    uid != leaseUID || r.after.store.entries == r.before.store.entries ||
      r.before.store.entries.all fun e => e.leaseUIDAnnotation != leaseUID || items.contains e
  | _ => true

/-! ## The invariant -/

/-- The reservation is one that `Reserve` returns for the lease when it lists it. -/
def OwnActive (d : Digest) (gateway : VPNGateway) (leaseUID : ObjectUID) (e : ProviderReservation) :
    Prop :=
  e.gatewayUIDAnnotation = gateway.uid ∧ e.activeFor d leaseUID = true

theorem desired_ownActive (port : UInt16) :
    OwnActive d gateway leaseUID (desiredProviderReservation d leaseUID gateway port) := by
  simp [OwnActive, ProviderReservation.activeFor, desiredProviderReservation]

/-- The calls of the lease have met nothing but its one reservation, and no call quarantines it. -/
structure SoleCalls (d : Digest) (gateway : VPNGateway) (leaseUID : ObjectUID) (s : Allocation) :
    Prop where
  sweeping : ∀ now items rest occupied,
    .reserve leaseUID (.sweeping now items rest occupied) ∈ s.calls →
      (∀ item ∈ rest, item.leaseUIDAnnotation = leaseUID → item ∈ s.store) ∧
      ∀ item ∈ items, OwnActive d gateway leaseUID item → item ∈ rest
  passed : ∀ call items, .reserve leaseUID call ∈ s.calls → passedListing call = some items →
    ∀ item ∈ items, ¬OwnActive d gateway leaseUID item
  quarantines : ∀ uid until_ call, .quarantine uid until_ call ∈ s.calls → uid ≠ leaseUID ∧
    ∀ now target, call = .patching now target → target.leaseUIDAnnotation = uid

/-- Whatever names the lease, now or in an earlier version of the store, is one active reservation,
and is still stored. -/
structure SoleStore (d : Digest) (gateway : VPNGateway) (leaseUID : ObjectUID) (s : Allocation) :
    Prop where
  stored : ∀ version ∈ s.store :: s.past, ∀ e ∈ version, e.leaseUIDAnnotation = leaseUID →
    e ∈ s.store
  active : ∀ e ∈ s.store, e.leaseUIDAnnotation = leaseUID →
    ∃ port, e = desiredProviderReservation d leaseUID gateway port
  unique : ∀ e ∈ s.store, ∀ e' ∈ s.store, e.leaseUIDAnnotation = leaseUID →
    e'.leaseUIDAnnotation = leaseUID → e = e'

/-! ## What a step does to the reservations of the lease -/

theorem reservationName_injective {port port' : UInt16}
    (h : reservationName d gateway port = reservationName d gateway port') : port = port' := by
  have hrepr : Nat.repr port.toNat = Nat.repr port'.toNat := by
    unfold reservationName at h
    exact (String.append_right_inj _).mp h
  exact UInt16.toNat_inj.mp (Nat.repr_injective hrepr)

/-- The step leaves the reservations of the lease alone, or a call of the lease creates one. -/
inductive OwnChange (d : Digest) (gateway : VPNGateway) (leaseUID : ObjectUID) (s s' : Allocation)
    (output : AllocationOutput) : Prop
  | unchanged (h : ∀ e, e.leaseUIDAnnotation = leaseUID → (e ∈ s'.store ↔ e ∈ s.store))
  | created (now : Time) (items : List ProviderReservation) (occupied : List UInt16) (offset : ℕ)
      (event : AllocationEvent)
      (hcall : .reserve leaseUID (.probing now items occupied offset) ∈ s.calls)
      (houtput : output = some (.reserve leaseUID (.probing now items occupied offset), event))
      (hcreate : s.store.create (desiredProviderReservation d leaseUID gateway
        (probePort d gateway.uid leaseUID offset)) = some s'.store)

section Step

variable (hstore : SoleStore d gateway leaseUID r.before)
  (hcalls : SoleCalls d gateway leaseUID r.before)

include hstore hcalls

theorem created_first {now : Time} {items : List ProviderReservation} {occupied : List UInt16}
    {offset : ℕ} {event : AllocationEvent}
    (hcall : .reserve leaseUID (.probing now items occupied offset) ∈ r.before.calls)
    (houtput : r.output = some (.reserve leaseUID (.probing now items occupied offset), event))
    (hcreate : r.before.store.create (desiredProviderReservation d leaseUID gateway
      (probePort d gateway.uid leaseUID offset)) = some r.after.store)
    (hinformed : createsInformed leaseUID r = true) :
    ∀ e ∈ r.before.store, e.leaseUIDAnnotation ≠ leaseUID := by
  intro e he hlease
  have hlisted : e ∈ items := by
    have hentries := (KeyedStore.create_eq_some hcreate).2
    simp only [createsInformed, houtput, hentries, bne_self_eq_false, Bool.false_or,
      Bool.or_eq_true, beq_iff_eq, List.append_right_eq_self, List.cons_ne_nil, false_or,
      List.all_eq_true, bne_iff_ne, List.contains_iff_mem] at hinformed
    exact (hinformed e he).resolve_left fun hne => hne hlease
  obtain ⟨port, hactive⟩ := hstore.active e he hlease
  have hpassed := hcalls.passed _ items hcall rfl e hlisted
  rw [hactive] at hpassed
  exact hpassed (desired_ownActive port)

variable (h : AllocationStep d gateway r.before r.input r.after r.output)

include h

section Current

variable (hcurrent : writesCurrent r = true)

include hcurrent

/-- INTERNAL: **other calls leave the reservation of the lease alone.** -/
theorem step_ownChange : OwnChange d gateway leaseUID r.before r.after r.output := by
  obtain ⟨s, input, s', output⟩ := r
  dsimp only at h hstore hcalls ⊢
  unfold writesCurrent at hcurrent
  dsimp only at hcurrent
  have heffect := h.effect
  generalize hafter : s'.store = store' at heffect
  cases heffect with
  | quiet => exact .unchanged fun e _ => by rw [hafter]
  | reserve uid hcall heffect =>
    cases heffect with
    | quiet | shown => exact .unchanged fun e _ => by rw [hafter]
    | deleted _ _ _ _ _ hstate =>
      refine .unchanged fun e hlease => ?_
      rw [hafter]
      refine ⟨fun he => (KeyedStore.mem_delete.mp he).1, fun he => KeyedStore.mem_delete.mpr ⟨he, fun hkey => ?_⟩⟩
      -- the deleted reservation would be the lease's, which is active
      rw [KeyedStore.find_eq_some.mpr ⟨he, hkey⟩] at hcurrent
      obtain ⟨port, hactive⟩ := hstore.active e he hlease
      rw [← eq_of_beq hcurrent, hactive] at hstate
      cases hstate
    | created now items occupied offset _ _ hcreate =>
      rw [← hafter] at hcreate
      by_cases hown : uid = leaseUID
      · subst hown
        exact .created now items occupied offset _ hcall rfl hcreate
      refine .unchanged fun e hlease => ?_
      rw [KeyedStore.mem_create hcreate]
      refine ⟨fun he => he.resolve_right fun hnew => hown ?_, Or.inl⟩
      rw [← hlease, hnew]
      rfl
  | quarantine uid hcall heffect =>
    obtain ⟨hother, htarget⟩ := hcalls.quarantines uid _ _ hcall
    cases heffect with
    | quiet => exact .unchanged fun e _ => by rw [hafter]
    | patched now target =>
      -- the patched reservation names the lease of the call
      have hpatched : ∀ e ∈ s.store, e.key = target.key → e.leaseUIDAnnotation ≠ leaseUID := by
        intro e he hkey hlease
        rw [KeyedStore.find_eq_some.mpr ⟨he, hkey⟩] at hcurrent
        rw [eq_of_beq hcurrent, htarget now target rfl] at hlease
        exact hother hlease
      refine .unchanged fun e hlease => ?_
      rw [hafter, KeyedStore.mem_update]
      constructor
      · rintro ⟨old, hold, rfl⟩
        split
        · next hkey =>
          rw [if_pos hkey] at hlease
          exact absurd hlease (hpatched old hold hkey)
        · exact hold
      · intro he
        exact ⟨e, he, if_neg fun hkey => hpatched e he hkey hlease⟩

/-! ## Steps keep the invariant -/

theorem soleStore_step (hinformed : createsInformed leaseUID r = true) :
    SoleStore d gateway leaseUID r.after := by
  cases step_ownChange hstore hcalls h hcurrent with
  | unchanged hsame =>
    refine ⟨fun version hversion e he hlease => ?_, fun e he hlease => ?_,
      fun e he e' he' hlease hlease' => ?_⟩
    · obtain rfl | hold := step_versions h hversion
      · exact he
      · exact (hsame e hlease).mpr (hstore.stored version hold e he hlease)
    · exact hstore.active e ((hsame e hlease).mp he) hlease
    · exact hstore.unique e ((hsame e hlease).mp he) e' ((hsame e' hlease').mp he') hlease hlease'
  | created _ _ _ offset _ hcall houtput hcreate =>
    have hfirst := created_first hstore hcalls hcall houtput hcreate hinformed
    have hnew : ∀ e ∈ r.after.store, e.leaseUIDAnnotation = leaseUID →
        e = desiredProviderReservation d leaseUID gateway
          (probePort d gateway.uid leaseUID offset) := by
      intro e he hlease
      exact ((KeyedStore.mem_create hcreate).mp he).resolve_left fun hold => hfirst e hold hlease
    refine ⟨fun version hversion e he hlease => ?_, fun e he hlease => ⟨_, hnew e he hlease⟩,
      fun e he e' he' hlease hlease' => ?_⟩
    · obtain rfl | hold := step_versions h hversion
      · exact he
      · exact absurd hlease (hfirst e (hstore.stored version hold e he hlease))
    · rw [hnew e he hlease, hnew e' he' hlease']

theorem own_kept {e : ProviderReservation} (he : e ∈ r.before.store)
    (hlease : e.leaseUIDAnnotation = leaseUID) : e ∈ r.after.store := by
  cases step_ownChange hstore hcalls h hcurrent with
  | unchanged hsame => exact (hsame e hlease).mpr he
  | created _ _ _ _ _ _ _ hcreate => exact (KeyedStore.mem_create hcreate).mpr (Or.inl he)

theorem soleCalls_step (hothers : ∀ until_, r.input ≠ .quarantine leaseUID until_) :
    SoleCalls d gateway leaseUID r.after := by
  have hkept := fun e he hlease => own_kept (e := e) hstore hcalls h hcurrent he hlease
  obtain ⟨s, input, s', output⟩ := r
  dsimp only at h hstore hcalls hothers hkept ⊢
  cases h with
  | quiet now _ _ hnew =>
    refine ⟨fun now items rest occupied hmem => ?_, fun call items hmem hpassed => ?_,
      fun uid until_ call hmem => ?_⟩
    · obtain hold | ⟨_, -, hlisting⟩ | ⟨_, _, -, hlisting⟩ := hnew _ hmem
      · exact hcalls.sweeping now items rest occupied hold
      · cases hlisting
      · cases hlisting
    · obtain hold | ⟨_, -, hlisting⟩ | ⟨_, _, -, hlisting⟩ := hnew _ hmem
      · exact hcalls.passed call items hold hpassed
      · cases hlisting
        cases hpassed
      · cases hlisting
    · obtain hold | ⟨_, -, hlisting⟩ | ⟨_, _, hinput, hlisting⟩ := hnew _ hmem
      · exact hcalls.quarantines uid until_ call hold
      · cases hlisting
      · cases hlisting
        refine ⟨fun huid => hothers until_ (huid ▸ hinput), fun now target hpatching => ?_⟩
        cases hpatching
  | reserve _ call _ _ hcall _ hview hnew =>
    refine ⟨fun now items rest occupied hmem => ?_, fun call' items hmem hpassed => ?_,
      fun uid' until_ call' hmem => ?_⟩
    · obtain hold | hstep := hnew _ hmem
      · obtain ⟨hrest, hitems⟩ := hcalls.sweeping now items rest occupied hold
        exact ⟨fun item hitem hlease => hkept item (hrest item hitem hlease) hlease, hitems⟩
      obtain ⟨rfl, hstep⟩ := AllocatorCall.reserve.inj hstep
      obtain ⟨-, -, rfl, hlisted⟩ | ⟨item, before, rfl, hother⟩ := reserveStep_sweeping hstep.symm
      · -- the call has just listed a version of the store
        obtain ⟨version, hversion, hentries⟩ := hview
        refine ⟨fun item hitem hlease => ?_, fun item hitem _ => hitem⟩
        have hread := hlisted item hitem
        rw [hentries] at hread
        exact hkept item (hstore.stored version hversion item hread hlease) hlease
      · obtain ⟨hrest, hitems⟩ := hcalls.sweeping _ _ _ _ hcall
        refine ⟨fun next hnext hlease => ?_, fun next hnext hown => ?_⟩
        · exact hkept next (hrest next (List.mem_cons_of_mem item hnext) hlease) hlease
        · obtain rfl | hlater := List.mem_cons.mp (hitems next hnext hown)
          · exact absurd hown hother
          · exact hlater
    · obtain hold | hstep := hnew _ hmem
      · exact hcalls.passed call' items hold hpassed
      obtain ⟨rfl, rfl⟩ := AllocatorCall.reserve.inj hstep
      obtain hbefore | ⟨now, occupied, rfl⟩ := reserveStep_passed hpassed
      · exact hcalls.passed call items hcall hbefore
      · intro item hitem hown
        cases (hcalls.sweeping now items [] occupied hcall).2 item hitem hown
    · obtain hold | hstep := hnew _ hmem
      · exact hcalls.quarantines uid' until_ call' hold
      · cases hstep
  | quarantine _ _ call _ _ hcall _ _ hnew =>
    refine ⟨fun now items rest occupied hmem => ?_, fun call' items hmem hpassed => ?_,
      fun uid' until' call' hmem => ?_⟩
    · obtain hold | hstep := hnew _ hmem
      · obtain ⟨hrest, hitems⟩ := hcalls.sweeping now items rest occupied hold
        exact ⟨fun item hitem hlease => hkept item (hrest item hitem hlease) hlease, hitems⟩
      · cases hstep
    · obtain hold | hstep := hnew _ hmem
      · exact hcalls.passed call' items hold hpassed
      · cases hstep
    · obtain hold | hstep := hnew _ hmem
      · exact hcalls.quarantines uid' until' call' hold
      · obtain ⟨rfl, rfl, rfl⟩ := AllocatorCall.quarantine.inj hstep
        refine ⟨(hcalls.quarantines uid' until' call hcall).1, fun now target hpatching => ?_⟩
        exact quarantineStep_patching hpatching

end Current

/-! ## What the calls see -/

theorem returned_own {port : UInt16} (hreturned : returnedPort r = some (leaseUID, port)) :
    desiredProviderReservation d leaseUID gateway port ∈ r.after.store := by
  obtain ⟨call, shown, houtput, rfl⟩ := returnedPort_some hreturned
  rw [houtput] at h
  obtain ⟨-, hcreate⟩ | ⟨item, rfl, hsame, hactive, hport⟩ := step_returned h
  · exact (KeyedStore.mem_create hcreate).mpr (Or.inr rfl)
  have hlease : item.leaseUIDAnnotation = call.leaseUID := by
    simp only [ProviderReservation.activeFor, Bool.and_eq_true, beq_iff_eq] at hactive
    exact hactive.1.2
  have hitem : item ∈ r.before.store := by
    obtain ⟨now, items, rest, occupied, hcall⟩ | ⟨version, hversion, hread⟩ := step_shown h
    · exact (hcalls.sweeping now items _ occupied hcall).1 item List.mem_cons_self hlease
    · exact hstore.stored version hversion item hread hlease
  obtain ⟨port', rfl⟩ := hstore.active item hitem hlease
  have hsamePort : port' = port := by
    obtain ⟨-, hport⟩ | hkey := hport
    · have hlabel : some port' = some port := (Option.filter_eq_some_iff.mp hport).1
      exact Option.some.inj hlabel
    · exact reservationName_injective (Prod.mk.inj hkey).2
  rw [hsame, ← hsamePort]
  exact hitem

end Step

/-- A listing with this version of the store does not show the lease two reservations: `Recover` has
no other error than a wrong argument or a malformed reservation, and `Quarantine` does not find
several. -/
structure ListsOne (d : Digest) (gateway : VPNGateway) (leaseUID : ObjectUID)
    (version : ReservationStore) : Prop where
  recover : ∀ gatewayNamespace text,
    recoverReservation d leaseUID gatewayNamespace (.ok version.entries) = .error (.other text) →
      text = "exact lease identity and gateway namespace are required" ∨
        text = "provider port reservation identity is malformed"
  quarantine : ∀ until_ applied now store,
    (quarantineStep d leaseUID gateway until_
      { failure := none, applied, view := version.entries, now } store .listing).1 ≠
        .done (some multipleReservations)

theorem filter_own {version : ReservationStore} {keep : ProviderReservation → Bool}
    (hkeep : ∀ e, keep e = true → e.leaseUIDAnnotation = leaseUID)
    (hunique : ∀ e ∈ version, ∀ e' ∈ version, e.leaseUIDAnnotation = leaseUID →
      e'.leaseUIDAnnotation = leaseUID → e = e') :
    version.entries.filter keep = [] ∨ ∃ e, version.entries.filter keep = [e] := by
  have hnodup : (version.entries.filter keep).Nodup := version.nodup.of_map.filter keep
  have hequal : ∀ e ∈ version.entries.filter keep, ∀ e' ∈ version.entries.filter keep, e = e' := by
    intro e he e' he'
    obtain ⟨hmem, hnames⟩ := List.mem_filter.mp he
    obtain ⟨hmem', hnames'⟩ := List.mem_filter.mp he'
    exact hunique e hmem e' hmem' (hkeep e hnames) (hkeep e' hnames')
  match hlist : version.entries.filter keep with
  | [] => exact Or.inl rfl
  | [e] => exact Or.inr ⟨e, rfl⟩
  | first :: second :: rest =>
    rw [hlist] at hnodup hequal
    have hsame : first = second := hequal first (by simp) second (by simp)
    simp [hsame] at hnodup

theorem listsOne_of_sole {s : Allocation} (hstore : SoleStore d gateway leaseUID s)
    {version : ReservationStore} (hversion : version ∈ s.store :: s.past) :
    ListsOne d gateway leaseUID version := by
  have hunique : ∀ e ∈ version, ∀ e' ∈ version, e.leaseUIDAnnotation = leaseUID →
      e'.leaseUIDAnnotation = leaseUID → e = e' := fun e he e' he' hlease hlease' =>
    hstore.unique e (hstore.stored version hversion e he hlease) e'
      (hstore.stored version hversion e' he' hlease') hlease hlease'
  constructor
  · intro gatewayNamespace text herror
    unfold recoverReservation at herror
    split at herror
    · cases herror
      exact Or.inl rfl
    have hfew : recoverable d leaseUID gatewayNamespace version.entries = [] ∨
        ∃ e, recoverable d leaseUID gatewayNamespace version.entries = [e] :=
      filter_own (fun e he => by simpa using (Bool.and_eq_true_iff.mp he).2) hunique
    dsimp only at herror
    obtain hnone | ⟨e, hone⟩ := hfew
    · rw [hnone] at herror
      cases herror
    rw [hone] at herror
    dsimp only at herror
    split at herror
    · split at herror
      · cases herror
        exact Or.inr rfl
      · cases herror
    · cases herror
      exact Or.inr rfl
  · intro until_ applied now store hmultiple
    have hfew : quarantinable d leaseUID gateway version.entries = [] ∨
        ∃ e, quarantinable d leaseUID gateway version.entries = [e] :=
      filter_own (fun e he => by simpa using (Bool.and_eq_true_iff.mp he).2) hunique
    simp only [quarantineStep] at hmultiple
    split at hmultiple
    · have htext := Option.some.inj (QuarantineCall.done.inj hmultiple)
      exact absurd htext (by decide)
    obtain hnone | ⟨e, hone⟩ := hfew
    · rw [hnone] at hmultiple
      cases hmultiple
    · rw [hone] at hmultiple
      cases hmultiple

/-! ## Runs -/

/-- **One reservation per lease.** In a run without a `Quarantine` of the lease, whose steps write
what is still stored and create for the lease from an informed listing, at most one reservation ever
names the lease, every `Reserve` of the lease returns its port, which never changes, and no listing
of any version of the store shows two.
SOURCE: portforward/allocation.go:52-168 -/
theorem sole_reservation (d : Digest) (gateway : VPNGateway) (leaseUID : ObjectUID) (s : Allocation)
    (inputs : List AllocationInput) (hfresh : ∀ e ∈ s.store, e.leaseUIDAnnotation ≠ leaseUID)
    (hpast : s.past = []) (hidle : s.calls = [])
    (hothers : ∀ until_, .quarantine leaseUID until_ ∉ inputs)
    (hcurrent : ∀ r ∈ allocationRun d gateway s inputs, writesCurrent r = true)
    (hinformed : ∀ r ∈ allocationRun d gateway s inputs, createsInformed leaseUID r = true) :
    (∀ r ∈ allocationRun d gateway s inputs,
      (∀ e ∈ r.after.store, ∀ e' ∈ r.after.store, e.leaseUIDAnnotation = leaseUID →
        e'.leaseUIDAnnotation = leaseUID → e = e') ∧
      (∀ port, returnedPort r = some (leaseUID, port) →
        desiredProviderReservation d leaseUID gateway port ∈ r.after.store) ∧
      ∀ version ∈ r.after.store :: r.after.past, ListsOne d gateway leaseUID version) ∧
    ∀ pre mid post r₁ r₂ port₁ port₂,
      allocationRun d gateway s inputs = pre ++ r₁ :: (mid ++ r₂ :: post) →
      returnedPort r₁ = some (leaseUID, port₁) → returnedPort r₂ = some (leaseUID, port₂) →
      port₁ = port₂ := by
  have hstart : SoleStore d gateway leaseUID s ∧ SoleCalls d gateway leaseUID s := by
    refine ⟨⟨fun version hversion e he hlease => ?_, fun e he hlease => absurd hlease (hfresh e he),
      fun e he e' _ hlease _ => absurd hlease (hfresh e he)⟩, ⟨?_, ?_, ?_⟩⟩
    · rw [hpast, List.mem_singleton] at hversion
      rw [hversion] at he
      exact he
    all_goals
      rw [hidle]
      intros
      contradiction
  have hinvariant : ∀ r ∈ allocationRun d gateway s inputs,
      AllocationStep d gateway r.before r.input r.after r.output ∧
      (SoleStore d gateway leaseUID r.before ∧ SoleCalls d gateway leaseUID r.before) ∧
      SoleStore d gateway leaseUID r.after ∧ SoleCalls d gateway leaseUID r.after := by
    intro r hr
    obtain ⟨hrecord, hbefore, hafter⟩ := (exec_linked (Allocation.next d gateway) s inputs).invariant
      (P := fun s => SoleStore d gateway leaseUID s ∧ SoleCalls d gateway leaseUID s)
      (fun r hr hrecord hs =>
        ⟨soleStore_step hs.1 hs.2 (allocation_record_step hrecord) (hcurrent r hr) (hinformed r hr),
          soleCalls_step hs.1 hs.2 (allocation_record_step hrecord) (hcurrent r hr)
            fun until_ hinput => hothers until_ (hinput ▸ exec_input_mem hr)⟩) hstart r hr
    exact ⟨allocation_record_step hrecord, hbefore, hafter⟩
  constructor
  · intro r hr
    obtain ⟨hstep, hbefore, hafter⟩ := hinvariant r hr
    exact ⟨hafter.1.unique, fun port hreturned => returned_own hbefore.1 hbefore.2 hstep hreturned,
      fun version hversion => listsOne_of_sole hafter.1 hversion⟩
  · intro pre mid post r₁ r₂ port₁ port₂ hrun hfirst hsecond
    have hmem : ∀ r, r = r₁ ∨ r ∈ mid ∨ r = r₂ → r ∈ allocationRun d gateway s inputs :=
      fun r hr => mem_between hrun hr
    obtain ⟨hstep₁, hbefore₁, -⟩ := hinvariant r₁ (hmem r₁ (Or.inl rfl))
    obtain ⟨hstep₂, hbefore₂, hafter₂⟩ := hinvariant r₂ (hmem r₂ (Or.inr (Or.inr rfl)))
    obtain ⟨-, hmid, -, hend⟩ := exec_between hrun
    -- the first reservation is still stored when the second port is returned
    have hkept : desiredProviderReservation d leaseUID gateway port₁ ∈ r₂.before.store := by
      rw [hend]
      refine hmid.invariant_endState
        (P := fun s => desiredProviderReservation d leaseUID gateway port₁ ∈ s.store)
        (fun r hr _ hstored => ?_) (returned_own hbefore₁.1 hbefore₁.2 hstep₁ hfirst)
      have hrun' := hmem r (Or.inr (Or.inl hr))
      obtain ⟨hstep, hbefore, -⟩ := hinvariant r hrun'
      exact own_kept hbefore.1 hbefore.2 hstep (hcurrent r hrun') hstored rfl
    have hafter : desiredProviderReservation d leaseUID gateway port₁ ∈ r₂.after.store :=
      own_kept hbefore₂.1 hbefore₂.2 hstep₂ (hcurrent r₂ (hmem r₂ (Or.inr (Or.inr rfl)))) hkept rfl
    have hsame := hafter₂.1.unique _ hafter _
      (returned_own hbefore₂.1 hbefore₂.2 hstep₂ hsecond) rfl rfl
    exact Option.some.inj (congrArg ProviderReservation.portLabel hsame)

/-! ## Two calls of one lease -/

/-- Two overlapping calls of the lease `a`; the second finds the reservation of the first by name. -/
def overlapping : List AllocationInput :=
  [.reserve "a", .reserve "a", served 0, served 1, served 0, served 1, served 0, served 1,
    served 1]

theorem sole_reservation_overlapping :
    ∃ pre r₁ mid r₂ post,
      allocationRun sampleDigest (sampleGateway "gw" true) (idleAllocation (.empty _) 0) overlapping =
        pre ++ r₁ :: (mid ++ r₂ :: post) ∧
      returnedPort r₁ = some ("a", 49152) ∧ returnedPort r₂ = some ("a", 49152) ∧
      r₂.after.store.entries = r₁.after.store.entries ∧
      ListsOne sampleDigest (sampleGateway "gw" true) "a" r₂.after.store := by
  refine ⟨[_, _, _, _, _, _], _, [_], _, [], rfl, by decide +kernel, by decide +kernel,
    by decide +kernel, ?_⟩
  have hsole := sole_reservation sampleDigest (sampleGateway "gw" true) "a"
    (idleAllocation (.empty _) 0) overlapping (fun e he => absurd he (KeyedStore.not_mem_empty e)) rfl
    rfl (fun _ h => by simp [overlapping, served] at h) (by decide +kernel) (by decide +kernel)
  exact (hsole.1 _ (List.mem_of_getElem? (i := 8) rfl)).2.2 _ List.mem_cons_self

/-- A quarantine of port 49152 by another lease that ends after one second. -/
def endingReservations : ReservationStore :=
  ⟨[quarantined (desiredProviderReservation sampleDigest "b" (sampleGateway "gw" true) 49152)
    second 0], by simp⟩

/-- The first call of `a` lists the port as occupied; when the quarantine has expired, the second
deletes it and reserves the port, and the first goes on. -/
def acrossExpiry : List AllocationInput :=
  [.reserve "a", served 0, .tick 2000000000, .reserve "a", served 1, served 1, served 1,
    served 1, served 0, served 0, served 0, served 0]

/-- One lease is returned two ports and has two active reservations; neither `Recover` nor
`Quarantine` works for it any more. No read is stale and no request fails. -/
theorem expiry_splits_reservation :
    ∃ pre r₁ mid r₂ post,
      allocationRun sampleDigest (sampleGateway "gw" true) (idleAllocation endingReservations 0)
        acrossExpiry = pre ++ r₁ :: (mid ++ r₂ :: post) ∧
      returnedPort r₁ = some ("a", 49152) ∧ returnedPort r₂ = some ("a", 49153) ∧
      r₂.after.store.entries =
        [desiredProviderReservation sampleDigest "a" (sampleGateway "gw" true) 49152,
         desiredProviderReservation sampleDigest "a" (sampleGateway "gw" true) 49153] ∧
      recoverReservation sampleDigest "a" "vpn" (.ok r₂.after.store.entries) =
        .error (.other "expected one exact provider reservation, found 2") ∧
      (quarantineStep sampleDigest "a" (sampleGateway "gw" true) (10 * second)
        { failure := none, applied := true, view := r₂.after.store.entries, now := 2 * second }
        r₂.after.store .listing).1 = .done (some multipleReservations) :=
  ⟨[_, _, _, _, _, _, _], _, [_, _, _], _, [], rfl, by decide +kernel, by decide +kernel,
    by decide +kernel, by decide +kernel, by decide +kernel⟩

end Waycloak.Analysis
