import Waycloak.Interface.AllocationSteps
import Waycloak.Interface.ControllerSteps

/-!
# One lease per provider port

Any number of `Reserve` and `Quarantine` calls run on one gateway, each request a step of
its own, with reads that may be stale and writes that may fail after taking effect. A port
belongs to the lease that the reservation under its name names.

`Reserve` lists, and acts later on what it has listed: it deletes an expired quarantine by
name, and it returns the port of an active reservation of its lease. As long as what it
acts on is still stored as it was listed (`actsOnCurrent`), it deletes nothing but expired
quarantines, and a port passes from one lease to another only through such a deletion
(`ports_exclusive`). `expired_listing_deletes_active` is a run in which another call takes
the port between the listing and the deletion.
-/

set_option autoImplicit false

namespace Waycloak.Analysis

open Waycloak.Model Waycloak.Interface Waycloak.Computation

variable {call : AllocatorCall} {port : UInt16} {r : AllocationRecord} {d : Digest}
  {gateway : VPNGateway}
variable {s s' : Allocation} {input : AllocationInput} {output : AllocationOutput}
  {shown stored : ProviderReservation}

/-! ## Invariants -/

/-- Where the reservation of a port is stored. -/
def portKey (d : Digest) (gateway : VPNGateway) (port : UInt16) : NamespaceName × ObjectName :=
  (gateway.namespaceName, reservationName d gateway port)

/-- A reservation of the gateway is stored under the name of its port. -/
def WellNamed (d : Digest) (gateway : VPNGateway) (store : ReservationStore) : Prop :=
  ∀ e ∈ store, e.gatewayUIDAnnotation = gateway.uid →
    ∀ port, e.port = some port → e.key = portKey d gateway port

/-- No call has listed in the future. -/
def Timed (s : Allocation) : Prop :=
  ∀ leaseUID now items rest occupied,
    .reserve leaseUID (.sweeping now items rest occupied) ∈ s.calls → now ≤ s.now

theorem wellNamed_step (h : AllocationStep d gateway s input s' output)
    (hs : WellNamed d gateway s.store) : WellNamed d gateway s'.store := by
  intro e' he' hgateway port hport
  obtain ⟨e, he, hsame⟩ | ⟨leaseUID, created, rfl⟩ := step_origin h he'
  · rw [hsame.key]
    exact hs e he (hsame.gatewayUID ▸ hgateway) port (hsame.port ▸ hport)
  have hport' : some created = some port :=
    (Option.filter_eq_some_iff.mp hport).1
  cases hport'
  rfl

theorem timed_step (h : AllocationStep d gateway s input s' output) (hs : Timed s) : Timed s' := by
  intro leaseUID now items rest occupied hmem
  cases h with
  | quiet _ _ hnow hcalls =>
    obtain hold | ⟨_, -, hnew⟩ | ⟨_, _, -, hnew⟩ := hcalls _ hmem
    · exact le_trans (hs _ _ _ _ _ hold) hnow
    · cases hnew
    · cases hnew
  | reserve _ _ _ _ hcall hnow _ hcalls =>
    obtain hold | hnew := hcalls _ hmem
    · exact hs _ _ _ _ _ hold
    obtain ⟨rfl, hstep⟩ := AllocatorCall.reserve.inj hnew
    obtain ⟨-, hlisted, -, -⟩ | ⟨item, before, hbefore, -⟩ := reserveStep_sweeping hstep.symm
    · rw [hlisted, hnow]
    · exact hs _ _ _ _ _ (hbefore ▸ hcall)
  | quarantine _ _ _ _ _ _ _ _ hcalls =>
    obtain hold | hnew := hcalls _ hmem
    · exact hs _ _ _ _ _ hold
    · cases hnew

theorem quarantineExpired_mono {e : ProviderReservation} {now later : Time} (hle : now ≤ later)
    (h : e.quarantineExpired now = true) : e.quarantineExpired later = true := by
  unfold ProviderReservation.quarantineExpired at h ⊢
  cases hdeadline : e.deadline with
  | none => simp [hdeadline] at h
  | some =>
    simp only [hdeadline, decide_eq_true_eq] at h ⊢
    exact le_trans h hle

/-! ## Acting on what was listed -/

/-- What a step deletes, or returns the port of, is stored as the call was shown it. -/
def actsOnCurrent (r : AllocationRecord) : Bool :=
  match r.output with
  | some (_, .deleted shown (some stored)) => stored == shown
  | some (_, .returned _ (some shown)) => r.before.store.entries.contains shown
  | _ => true

theorem deletes_current (h : actsOnCurrent r = true)
    (houtput : r.output = some (call, .deleted shown (some stored))) : stored = shown := by
  simpa [actsOnCurrent, houtput] using h

theorem returns_current (h : actsOnCurrent r = true)
    (houtput : r.output = some (call, .returned port (some shown))) : shown ∈ r.before.store := by
  simpa [actsOnCurrent, houtput, KeyedStore.mem_entries] using h

/-- The step deletes an expired quarantine. -/
def DeletesExpired (r : AllocationRecord) (e : ProviderReservation) : Prop :=
  (∃ call shown, r.output = some (call, .deleted shown (some e))) ∧
    e.stateLabel = .quarantine ∧ e.quarantineExpired r.before.now = true

/-- INTERNAL: **what a step deletes is an expired quarantine.**
SOURCE: portforward/allocation.go:101-106 -/
theorem deletion_expired (h : AllocationStep d gateway r.before r.input r.after r.output)
    (htimed : Timed r.before) (hcurrent : actsOnCurrent r = true)
    (houtput : r.output = some (call, .deleted shown (some stored))) : DeletesExpired r stored := by
  refine ⟨⟨call, shown, houtput⟩, ?_⟩
  rw [houtput] at h
  obtain ⟨hstate, leaseUID, now, items, rest, occupied, hcall, hexpired⟩ := step_deleted h
  rw [deletes_current hcurrent houtput]
  exact ⟨hstate, quarantineExpired_mono (htimed _ _ _ _ _ hcall) hexpired⟩

/-! ## Who holds a port -/

/-- The reservation stored for the port names the lease. -/
def HeldBy (d : Digest) (gateway : VPNGateway) (port : UInt16) (leaseUID : ObjectUID)
    (store : ReservationStore) : Prop :=
  ∃ e ∈ store, e.key = portKey d gateway port ∧ e.leaseUIDAnnotation = leaseUID

theorem heldBy_unique {leaseUID other : ObjectUID} {store : ReservationStore}
    (h : HeldBy d gateway port leaseUID store) (h' : HeldBy d gateway port other store) :
    leaseUID = other := by
  obtain ⟨e, he, hkey, rfl⟩ := h
  obtain ⟨e', he', hkey', rfl⟩ := h'
  rw [KeyedStore.eq_of_key_eq he he' (hkey.trans hkey'.symm)]

/-- INTERNAL: a lease that is returned a port holds it afterwards; if another lease held it before,
that is a contradiction. -/
theorem returned_heldBy {shown : Option ProviderReservation}
    (h : AllocationStep d gateway r.before r.input r.after r.output)
    (hnamed : WellNamed d gateway r.before.store) (hcurrent : actsOnCurrent r = true)
    (houtput : r.output = some (call, .returned port shown)) :
    HeldBy d gateway port call.leaseUID r.after.store ∧
      ∀ other, HeldBy d gateway port other r.before.store → other = call.leaseUID := by
  have hstep := h
  rw [houtput] at hstep
  obtain ⟨rfl, hcreate⟩ | ⟨item, rfl, hstore, hactive, hport⟩ := step_returned hstep
  · refine ⟨⟨_, (KeyedStore.mem_create hcreate).mpr (Or.inr rfl), rfl, rfl⟩, ?_⟩
    rintro other ⟨e, he, hkey, -⟩
    exact absurd hkey (KeyedStore.find_eq_none.mp (KeyedStore.create_eq_some hcreate).1 e he)
  have hitem : item ∈ r.before.store := returns_current hcurrent houtput
  have hkey : item.key = portKey d gateway port := by
    obtain ⟨hgateway, hport⟩ | hkey := hport
    · exact hnamed item hitem hgateway port hport
    · exact hkey
  have hlease : item.leaseUIDAnnotation = call.leaseUID := by
    simp only [ProviderReservation.activeFor, Bool.and_eq_true, beq_iff_eq] at hactive
    exact hactive.1.2
  have hheld : HeldBy d gateway port call.leaseUID r.before.store := ⟨item, hitem, hkey, hlease⟩
  rw [hstore]
  exact ⟨hheld, fun other hother => heldBy_unique hother hheld⟩

theorem heldBy_step {leaseUID : ObjectUID}
    (h : AllocationStep d gateway r.before r.input r.after r.output) (htimed : Timed r.before)
    (hcurrent : actsOnCurrent r = true) (hheld : HeldBy d gateway port leaseUID r.before.store) :
    (∃ e, DeletesExpired r e ∧ e.key = portKey d gateway port ∧ e.leaseUIDAnnotation = leaseUID) ∨
      HeldBy d gateway port leaseUID r.after.store := by
  obtain ⟨e, he, hkey, hlease⟩ := hheld
  obtain ⟨e', he', hsame⟩ | ⟨call, shown, houtput⟩ := step_kept h he
  · exact Or.inr ⟨e', he', hsame.key.trans hkey, hsame.leaseUID.trans hlease⟩
  · exact Or.inl ⟨e, deletion_expired h htimed hcurrent houtput, hkey, hlease⟩

/-! ## Runs -/

/-- **Provider ports are exclusive.** In a run whose calls act on what is still stored, every
deleted reservation is an expired quarantine, and between two returns of one port to different
leases the reservation of the first was deleted as one.
SOURCE: portforward/allocation.go:80-168 -/
theorem ports_exclusive (d : Digest) (gateway : VPNGateway) (s : Allocation)
    (inputs : List AllocationInput) (hnamed : WellNamed d gateway s.store) (hidle : s.calls = [])
    (hcurrent : ∀ r ∈ allocationRun d gateway s inputs, actsOnCurrent r = true) :
    (∀ r ∈ allocationRun d gateway s inputs, ∀ call shown stored,
      r.output = some (call, .deleted shown (some stored)) →
        stored.stateLabel = .quarantine ∧ stored.quarantineExpired r.before.now = true) ∧
    ∀ pre mid post r₁ r₂ port leaseUID₁ leaseUID₂,
      allocationRun d gateway s inputs = pre ++ r₁ :: (mid ++ r₂ :: post) →
      returnedPort r₁ = some (leaseUID₁, port) → returnedPort r₂ = some (leaseUID₂, port) →
      leaseUID₁ ≠ leaseUID₂ →
      ∃ r ∈ mid, ∃ e, DeletesExpired r e ∧ e.key = portKey d gateway port ∧
        e.leaseUIDAnnotation = leaseUID₁ := by
  have htimed : Timed s := by
    intro leaseUID now items rest occupied hmem
    rw [hidle] at hmem
    cases hmem
  have hrecords : ∀ r ∈ allocationRun d gateway s inputs,
      AllocationStep d gateway r.before r.input r.after r.output ∧
        WellNamed d gateway r.before.store ∧ Timed r.before := by
    intro r hr
    obtain ⟨hrecord, hbefore, -⟩ := (exec_linked (Allocation.next d gateway) s inputs).invariant
      (P := fun s => WellNamed d gateway s.store ∧ Timed s)
      (fun r _ hrecord hs => ⟨wellNamed_step (allocation_record_step hrecord) hs.1,
        timed_step (allocation_record_step hrecord) hs.2⟩) ⟨hnamed, htimed⟩ r hr
    exact ⟨allocation_record_step hrecord, hbefore⟩
  constructor
  · intro r hr call shown stored houtput
    obtain ⟨hstep, -, htimed⟩ := hrecords r hr
    exact (deletion_expired hstep htimed (hcurrent r hr) houtput).2
  intro pre mid post r₁ r₂ port leaseUID₁ leaseUID₂ hrun hfirst hsecond hne
  obtain ⟨call₁, shown₁, houtput₁, rfl⟩ := returnedPort_some hfirst
  obtain ⟨call₂, shown₂, houtput₂, rfl⟩ := returnedPort_some hsecond
  have hmem₁ := mem_between hrun (Or.inl rfl)
  have hmem₂ := mem_between hrun (Or.inr (Or.inr rfl))
  obtain ⟨-, hmid, -, hend⟩ := exec_between hrun
  obtain ⟨hstep₁, hnamed₁, -⟩ := hrecords r₁ hmem₁
  obtain ⟨hstep₂, hnamed₂, -⟩ := hrecords r₂ hmem₂
  have hheld := (returned_heldBy hstep₁ hnamed₁ (hcurrent r₁ hmem₁) houtput₁).1
  have hexclusive := (returned_heldBy hstep₂ hnamed₂ (hcurrent r₂ hmem₂) houtput₂).2
  -- the first lease holds its port up to the second return, or loses it to a deletion
  obtain hdeleted | hkept := hmid.until
    (P := fun s => HeldBy d gateway port call₁.leaseUID s.store)
    (fun r hr _ hheld => heldBy_step (hrecords r (mem_between hrun (Or.inr (Or.inl hr)))).1
      (hrecords r (mem_between hrun (Or.inr (Or.inl hr)))).2.2
      (hcurrent r (mem_between hrun (Or.inr (Or.inl hr)))) hheld) hheld
  · exact hdeleted
  · rw [← hend] at hkept
    exact absurd (hexclusive _ hkept) hne

/-! ## A port that changes hands -/

/-- The lease `a` reserves a port and is quarantined for a second; two seconds later `b` reserves. -/
def handedOver : List AllocationInput :=
  [.reserve "a", served 0, served 0, served 0, .quarantine "a" second, served 1, served 1,
    .tick 2000000000, .reserve "b", served 2, served 2, served 2, served 2]

theorem ports_exclusive_handed_over :
    ∃ pre r₁ mid r₂ post,
      allocationRun sampleDigest (sampleGateway "gw" true) (idleAllocation (.empty _) 0) handedOver =
        pre ++ r₁ :: (mid ++ r₂ :: post) ∧
      returnedPort r₁ = some ("a", 49152) ∧ returnedPort r₂ = some ("b", 49152) ∧
      ∃ r ∈ mid, ∃ e, DeletesExpired r e ∧ e.leaseUIDAnnotation = "a" := by
  refine ⟨[_, _, _], _, [_, _, _, _, _, _, _, _], _, [], rfl, by decide +kernel, by decide +kernel, ?_⟩
  obtain ⟨-, hexclusive⟩ := ports_exclusive sampleDigest (sampleGateway "gw" true)
    (idleAllocation (.empty _) 0) handedOver (fun e he => absurd he (KeyedStore.not_mem_empty e)) rfl
    (by decide +kernel)
  obtain ⟨r, hr, e, hdeleted, -, hlease⟩ := hexclusive [_, _, _] [_, _, _, _, _, _, _, _] [] _ _ 49152
    "a" "b" rfl (by decide +kernel) (by decide +kernel) (by decide)
  exact ⟨r, hr, e, hdeleted, hlease⟩

/-- A quarantine of port 49152 that ended after one second. -/
def expiredReservations : ReservationStore :=
  ⟨[quarantined (desiredProviderReservation sampleDigest "old" (sampleGateway "gw" true) 49152)
    second 0], by simp⟩

/-- `a` lists the expired quarantine; `b` then reserves its port; `a` goes on. -/
def overtaken : List AllocationInput :=
  [.reserve "a", served 0, .reserve "b", served 1, served 1, served 1, served 1, served 0,
    served 0, served 0]

/-- One port is returned to two leases, and the active reservation of the first is deleted, without
any quarantine of it, stale read or failed request. -/
theorem expired_listing_deletes_active :
    ∃ pre r₁ mid r₂ post,
      allocationRun sampleDigest (sampleGateway "gw" true)
        (idleAllocation expiredReservations (2 * second)) overtaken =
          pre ++ r₁ :: (mid ++ r₂ :: post) ∧
      returnedPort r₁ = some ("b", 49152) ∧ returnedPort r₂ = some ("a", 49152) ∧
      ∃ r ∈ mid, ∃ call shown stored, r.output = some (call, .deleted shown (some stored)) ∧
        stored.stateLabel = .active ∧ stored.leaseUIDAnnotation = "b" :=
  ⟨[_, _, _, _, _, _], _, [_, _], _, [], rfl, by decide +kernel, by decide +kernel, _,
    List.mem_cons_self, _, _, _, rfl, by decide +kernel, by decide +kernel⟩

end Waycloak.Analysis
