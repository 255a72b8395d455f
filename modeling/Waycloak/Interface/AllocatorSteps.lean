import Waycloak.Model.Allocations

/-!
# What one step of an allocator call does

`act_change` says once what the API call of a step can do to the store: nothing, one CREATE
under a free name, one PATCH or one DELETE. The lemmas after it say where a call can stand
next and what it knows there. The analyses use these and never unfold a step.
-/

set_option autoImplicit false

namespace Waycloak.Interface

open Waycloak.Computation Waycloak.Model

variable {attempt : ℕ} {call next : AddressCall} {choice : ApiChoice} {lease : AddressLease}
  {request : ReserveRequest} {store : Snapshots AddressStore} {key : NamespaceName × ObjectName}
  {address : Prefix} {libraries : AllocatorLibraries}
variable {gatewayUID podUID : ObjectUID} {identity : String} {reservation : Reservation}
  {outcome : ApiOutcome} {binding : VPNWorkloadBinding}

/-! ## Matching -/

theorem leaseMatches_iff {state : AddressReservationState} :
    leaseMatches state lease gatewayUID podUID identity address = true ↔
      lease.holderIdentity = some identity ∧ lease.gatewayUID = gatewayUID ∧
        lease.podUID = podUID ∧ lease.address = address.string ∧ lease.state = state := by
  simp [leaseMatches, and_assoc]

theorem reservationMatches_iff :
    reservationMatches lease gatewayUID podUID identity address = true ↔
      lease.holderIdentity = some identity ∧ lease.gatewayUID = gatewayUID ∧
        lease.podUID = podUID ∧ lease.address = address.string ∧ lease.state = .active :=
  leaseMatches_iff

/-! ## The store -/

/-- The Lease the next API call of a call creates, if it is a CREATE. -/
def creates (libraries : AllocatorLibraries) : AddressCall → Option AddressLease
  | .reserveCreate request attempt => some (request.lease libraries attempt)
  | .ensure gateway binding =>
    (libraries.parsePrefix binding.spec.allocation.address).map
      (desiredLease libraries gateway binding.spec.podRef.uid binding.spec.allocation.identity)
  | .quarantine binding =>
    (libraries.parsePrefix binding.spec.allocation.address).map (quarantineLease libraries binding)
  | _ => none

theorem mem_without {store : AddressStore} :
    lease ∈ AddressAPI.without store key ↔ lease ∈ store ∧ lease.key ≠ key :=
  KeyedStore.mem_delete

theorem mem_quarantineAt {store : AddressStore} : lease ∈ AddressAPI.quarantine store key ↔
      ∃ old ∈ store, (if old.key = key then old.markQuarantined else old) = lease :=
  KeyedStore.mem_update

/-- What a step can do to the store. -/
inductive StoreChange (libraries : AllocatorLibraries) (store : Snapshots AddressStore) :
    AddressCall → Snapshots AddressStore → Prop where
  | same {call : AddressCall} : StoreChange libraries store call store
  | created {call : AddressCall} {lease : AddressLease} {next : AddressStore}
      (hcreates : creates libraries call = some lease)
      (hfresh : store.current.create lease = some next) :
      StoreChange libraries store call (store.write next)
  | quarantined {binding : VPNWorkloadBinding} {current : AddressLease} :
      StoreChange libraries store (.quarantinePatch binding current)
        (store.write (AddressAPI.quarantine store.current current.key))
  | deleted {binding : VPNWorkloadBinding} {current : AddressLease} :
      StoreChange libraries store (.releaseDelete binding current)
        (store.write (AddressAPI.without store.current current.key))

theorem create_change (store : Snapshots AddressStore) (outcome : ApiOutcome)
    (hcreates : creates libraries call = some lease) :
    StoreChange libraries store call (AddressAPI.create store lease outcome).1 := by
  cases outcome with
  | refused => exact .same
  | answered | lost =>
    simp only [AddressAPI.create]
    cases hnext : store.current.create lease with
    | none => exact .same
    | some => exact .created hcreates hnext

theorem change_store (write : AddressStore → NamespaceName × ObjectName → AddressStore)
    (store : Snapshots AddressStore) (key : NamespaceName × ObjectName) (outcome : ApiOutcome) :
    (AddressAPI.change write store key outcome).1 = store ∨
      (AddressAPI.change write store key outcome).1 = store.write (write store.current key) := by
  cases outcome with
  | refused => exact .inl rfl
  | answered | lost =>
    simp only [AddressAPI.change]
    cases store.current.find key with
    | none => exact .inl rfl
    | some _ => exact .inr rfl

theorem reserveCreate_store (request : ReserveRequest) (attempt : ℕ)
    (store : Snapshots AddressStore) (choice : ApiChoice) :
    (Allocator.reserveCreate libraries request attempt store choice).1 =
      (AddressAPI.create store (request.lease libraries attempt) choice.outcome).1 := by
  unfold Allocator.reserveCreate
  split <;> simp_all

theorem quarantinePatch_store (current : AddressLease) (store : Snapshots AddressStore)
    (choice : ApiChoice) :
    (Allocator.quarantinePatch current store choice).1 =
      (AddressAPI.change AddressAPI.quarantine store current.key choice.outcome).1 := by
  unfold Allocator.quarantinePatch
  split <;> simp_all

theorem releaseDelete_store (current : AddressLease) (store : Snapshots AddressStore)
    (choice : ApiChoice) :
    (Allocator.releaseDelete current store choice).1 =
      (AddressAPI.change AddressAPI.without store current.key choice.outcome).1 := by
  unfold Allocator.releaseDelete
  split <;> simp_all

theorem ensureCreate_change (gateway : NamespacedUIDReference) (binding : VPNWorkloadBinding)
    (store : Snapshots AddressStore) (choice : ApiChoice) :
    StoreChange libraries store (.ensure gateway binding)
      (Allocator.ensureCreate libraries gateway binding store choice).1 := by
  unfold Allocator.ensureCreate
  cases hparse : libraries.parsePrefix binding.spec.allocation.address with
  | none => exact .same
  | some address =>
    have hcreates : creates libraries (.ensure gateway binding) =
        some (desiredLease libraries gateway binding.spec.podRef.uid
          binding.spec.allocation.identity address) := by
      simp [creates, hparse]
    have hchange := create_change store choice.outcome hcreates
    dsimp only
    split <;> simp_all

theorem quarantineCreate_change (binding : VPNWorkloadBinding) (store : Snapshots AddressStore)
    (choice : ApiChoice) :
    StoreChange libraries store (.quarantine binding)
      (Allocator.quarantineCreate libraries binding store choice).1 := by
  unfold Allocator.quarantineCreate
  cases hparse : libraries.parsePrefix binding.spec.allocation.address with
  | none => exact .same
  | some address =>
    have hcreates : creates libraries (.quarantine binding) =
        some (quarantineLease libraries binding address) := by
      simp [creates, hparse]
    have hchange := create_change store choice.outcome hcreates
    dsimp only
    split <;> simp_all

/-- INTERNAL: **what a step does to the store.** -/
theorem act_change (store : Snapshots AddressStore) (call : AddressCall) (choice : ApiChoice) :
    StoreChange libraries store call (call.act libraries store choice).1 := by
  cases call with
  | reserve => exact .same
  | reserveCreate =>
    simp only [AddressCall.act, reserveCreate_store]
    exact create_change store choice.outcome rfl
  | reserveGet => exact .same
  | ensure gateway binding => exact ensureCreate_change gateway binding store choice
  | ensureGet => exact .same
  | quarantine binding => exact quarantineCreate_change binding store choice
  | quarantineGet => exact .same
  | quarantinePatch _ current =>
    simp only [AddressCall.act, quarantinePatch_store]
    rcases change_store AddressAPI.quarantine store current.key choice.outcome with h | h
    · rw [h]
      exact .same
    · rw [h]
      exact .quarantined
  | release => exact .same
  | releaseDelete _ current =>
    simp only [AddressCall.act, releaseDelete_store]
    rcases change_store AddressAPI.without store current.key choice.outcome with h | h
    · rw [h]
      exact .same
    · rw [h]
      exact .deleted

theorem change_lost {next : Snapshots AddressStore}
    (hchange : StoreChange libraries store call next) (hlease : lease ∈ store.current)
    (hlost : lease ∉ next.current) :
    (∃ binding current, call = .releaseDelete binding current ∧ lease.key = current.key) ∨
      lease.state ≠ .quarantined ∧
        ∃ binding current, call = .quarantinePatch binding current := by
  cases hchange with
  | same => exact absurd hlease hlost
  | created _ hfresh => exact absurd ((KeyedStore.mem_create hfresh).mpr (.inl hlease)) hlost
  | @quarantined binding current =>
    right
    refine ⟨?_, binding, current, rfl⟩
    -- a Quarantined reservation is its own patch
    intro hstate
    apply hlost
    refine mem_quarantineAt.mpr ⟨lease, hlease, ?_⟩
    split
    · rw [AddressLease.markQuarantined, ← hstate]
    · rfl
  | @deleted binding current =>
    left
    refine ⟨binding, current, rfl, ?_⟩
    by_contra hkey
    exact hlost (mem_without.mpr ⟨hlease, hkey⟩)

/-! ## Where a call stands next -/

/-- The steps after which a call goes on, with what it has learnt. -/
inductive Resumes (libraries : AllocatorLibraries) (store : Snapshots AddressStore)
    (choice : ApiChoice) : AddressCall → AddressCall → Prop where
  | first {request : ReserveRequest} (hpool : request.pool.allocatable = true)
      (hroom : 0 < request.pool.usable) :
      Resumes libraries store choice (.reserve request) (.reserveCreate request 0)
  | taken {request : ReserveRequest} {attempt : ℕ}
      (htaken : store.current.create (request.lease libraries attempt) = none) :
      Resumes libraries store choice (.reserveCreate request attempt) (.reserveGet request attempt)
  | again {request : ReserveRequest} {attempt : ℕ}
      (hgone : (store.read choice.age).find (request.lease libraries attempt).key = none)
      (hlater : 0 < attempt) (hroom : attempt < request.pool.usable) :
      Resumes libraries store choice (.reserveGet request attempt) (.reserveCreate request attempt)
  | skipped {request : ReserveRequest}
      (hgone : (store.read choice.age).find (request.lease libraries 0).key = none)
      (hroom : 1 < request.pool.usable) :
      Resumes libraries store choice (.reserveGet request 0) (.reserveCreate request 1)
  | passed {request : ReserveRequest} {attempt : ℕ} {existing : AddressLease}
      (hfound : (store.read choice.age).find (request.lease libraries attempt).key = some existing)
      (hother : reservationMatches existing request.gateway.uid request.podUID
        (request.identity libraries) (request.address libraries attempt) = false)
      (hroom : attempt + 1 < request.pool.usable) :
      Resumes libraries store choice (.reserveGet request attempt)
        (.reserveCreate request (attempt + 1))
  | ensure {gateway : NamespacedUIDReference} {binding : VPNWorkloadBinding} {address : Prefix} :
      Resumes libraries store choice (.ensure gateway binding) (.ensureGet gateway binding address)
  | quarantine {binding : VPNWorkloadBinding} {address : Prefix} :
      Resumes libraries store choice (.quarantine binding) (.quarantineGet binding address)
  | patch {binding : VPNWorkloadBinding} {address : Prefix} {current : AddressLease} :
      Resumes libraries store choice (.quarantineGet binding address)
        (.quarantinePatch binding current)
  | release {binding : VPNWorkloadBinding} {address : Prefix} {current : AddressLease}
      (hmatches : reservationMatches current binding.spec.gatewayRef.uid binding.spec.podRef.uid
        binding.spec.allocation.identity address = true) :
      Resumes libraries store choice (.release binding) (.releaseDelete binding current)

theorem probe_eq_inl (h : request.probe attempt = .inl next) :
    next = .reserveCreate request attempt ∧ attempt < request.pool.usable := by
  unfold ReserveRequest.probe at h
  split at h
  · next hroom =>
    cases h
    exact ⟨rfl, hroom⟩
  · cases h

theorem probe_ne_reserved : request.probe attempt ≠ .inr (.reserved reservation) := by
  unfold ReserveRequest.probe
  split <;> simp

theorem get_eq_notFound (h : AddressAPI.get store key choice = .error .notFound) :
    (store.read choice.age).find key = none := by
  unfold AddressAPI.get at h
  cases houtcome : choice.outcome <;> simp only [houtcome] at h
  · cases hfind : (store.read choice.age).find key with
    | none => rfl
    | some => simp [hfind] at h
  · simp at h
  · simp at h

theorem get_eq_ok (h : AddressAPI.get store key choice = .ok lease) :
    (store.read choice.age).find key = some lease := by
  unfold AddressAPI.get at h
  cases houtcome : choice.outcome <;> simp only [houtcome] at h
  · cases hfind : (store.read choice.age).find key with
    | none => simp [hfind] at h
    | some =>
      rw [hfind] at h
      cases h
      rfl
  · simp at h
  · simp at h

theorem create_eq_alreadyExists {next : Snapshots AddressStore}
    (h : AddressAPI.create store lease outcome = (next, .alreadyExists)) :
    next = store ∧ store.current.create lease = none := by
  cases outcome with
  | refused | lost => simp [AddressAPI.create] at h
  | answered =>
    simp only [AddressAPI.create] at h
    cases hnext : store.current.create lease with
    | none =>
      rw [hnext] at h
      cases h
      exact ⟨rfl, rfl⟩
    | some => simp [hnext] at h

theorem create_eq_created {next : Snapshots AddressStore}
    (h : AddressAPI.create store lease outcome = (next, .created)) :
    ∃ contents, store.current.create lease = some contents ∧ next = store.write contents := by
  cases outcome with
  | refused | lost => simp [AddressAPI.create] at h
  | answered =>
    simp only [AddressAPI.create] at h
    cases hnext : store.current.create lease with
    | none => simp [hnext] at h
    | some created =>
      rw [hnext] at h
      cases h
      exact ⟨created, rfl, rfl⟩

theorem reserveInspect_resumes
    (h : Allocator.reserveInspect libraries request store choice = .inl next) :
    Resumes libraries store choice (.reserve request) next := by
  revert h
  fun_cases Allocator.reserveInspect libraries request store choice with
  | case5 _ hpool =>
    intro h
    obtain ⟨rfl, hroom⟩ := probe_eq_inl h
    exact .first (by simpa using hpool) hroom
  | _ => nofun

theorem reserveGet_resumes
    (h : Allocator.reserveGet libraries request attempt store choice = .inl next) :
    Resumes libraries store choice (.reserveGet request attempt) next := by
  unfold Allocator.reserveGet at h
  split at h
  · next hget =>
    have hgone := get_eq_notFound hget
    split at h
    · next hlater =>
      obtain ⟨rfl, hroom⟩ := probe_eq_inl h
      exact .again hgone hlater hroom
    next hfirst =>
    obtain rfl : attempt = 0 := by omega
    obtain ⟨rfl, hroom⟩ := probe_eq_inl h
    exact .skipped hgone hroom
  · cases h
  · next existing hget =>
    split at h
    · cases h
    · next hother =>
      obtain ⟨rfl, hroom⟩ := probe_eq_inl h
      exact .passed (get_eq_ok hget) (by simpa using hother) hroom

theorem releaseGet_resumes (h : Allocator.releaseGet libraries binding store choice = .inl next) :
    Resumes libraries store choice (.release binding) next := by
  revert h
  fun_cases Allocator.releaseGet libraries binding store choice with
  | case5 _ _ _ _ hmatches =>
    rintro ⟨⟩
    exact .release (by simpa using hmatches)
  | _ => nofun

theorem quarantineGet_resumes
    (h : Allocator.quarantineGet libraries binding address store choice = .inl next) :
    Resumes libraries store choice (.quarantineGet binding address) next := by
  unfold Allocator.quarantineGet at h
  repeat' split at h
  all_goals cases h
  exact .patch

/-- INTERNAL: **where a call goes on**, and what it knows there. A call that goes on has not
changed the store. -/
theorem act_resumes (h : (call.act libraries store choice).2 = .inl next) :
    (call.act libraries store choice).1 = store ∧ Resumes libraries store choice call next := by
  cases call with
  | reserve => exact ⟨rfl, reserveInspect_resumes h⟩
  | reserveGet => exact ⟨rfl, reserveGet_resumes h⟩
  | release => exact ⟨rfl, releaseGet_resumes h⟩
  | quarantineGet => exact ⟨rfl, quarantineGet_resumes h⟩
  | ensureGet => cases h
  | reserveCreate =>
    simp only [AddressCall.act, Allocator.reserveCreate] at h ⊢
    split at h
    · cases h
    · cases h
    · next hcreate =>
      cases h
      obtain ⟨hsame, htaken⟩ := create_eq_alreadyExists hcreate
      exact ⟨hsame, .taken htaken⟩
  | ensure =>
    simp only [AddressCall.act, Allocator.ensureCreate] at h ⊢
    split at h
    · cases h
    split at h
    · cases h
    · cases h
    · next hcreate =>
      cases h
      exact ⟨(create_eq_alreadyExists hcreate).1, .ensure⟩
  | quarantine =>
    simp only [AddressCall.act, Allocator.quarantineCreate] at h ⊢
    split at h
    · cases h
    split at h
    · cases h
    · cases h
    · next hcreate =>
      cases h
      exact ⟨(create_eq_alreadyExists hcreate).1, .quarantine⟩
  | quarantinePatch | releaseDelete =>
    simp only [AddressCall.act, Allocator.quarantinePatch, Allocator.releaseDelete] at h
    split at h <;> cases h

/-- What `Reserve` returns: the address of an attempt, with a Lease that matches it and is in the
store as the last API call left it or showed it. -/
structure Reserves (libraries : AllocatorLibraries) (store : Snapshots AddressStore)
    (choice : ApiChoice) (call : AddressCall) (request : ReserveRequest) (attempt : ℕ)
    (reservation : Reservation) : Prop where
  stands : call = .reserveCreate request attempt ∨ call = .reserveGet request attempt
  address : reservation.address = request.address libraries attempt
  key : reservation.lease.key = (request.lease libraries attempt).key
  leaseMatches : reservationMatches reservation.lease request.gateway.uid request.podUID
    (request.identity libraries) (request.address libraries attempt) = true
  stored : reservation.lease ∈ (call.act libraries store choice).1.current ∨
    reservation.lease ∈ store.read choice.age ∧ (call.act libraries store choice).1 = store

theorem lease_matches (request : ReserveRequest) (attempt : ℕ) :
    reservationMatches (request.lease libraries attempt) request.gateway.uid request.podUID
      (request.identity libraries) (request.address libraries attempt) = true := by
  rw [reservationMatches_iff]
  exact ⟨rfl, rfl, rfl, rfl, rfl⟩

/-- INTERNAL: **what a successful `Reserve` returns.** -/
theorem act_reserves (h : (call.act libraries store choice).2 = .inr (.reserved reservation)) :
    ∃ request attempt, Reserves libraries store choice call request attempt reservation := by
  cases call with
  | reserve =>
    simp only [AddressCall.act, Allocator.reserveInspect] at h
    repeat' split at h
    all_goals first | cases h | exact absurd h probe_ne_reserved
  | reserveCreate request attempt =>
    have hstore := @reserveCreate_store libraries request attempt store choice
    simp only [AddressCall.act, Allocator.reserveCreate] at h
    split at h
    · next hcreate =>
      cases h
      obtain ⟨contents, hcontents, rfl⟩ := create_eq_created hcreate
      refine ⟨request, attempt, .inl rfl, rfl, rfl, lease_matches request attempt, .inl ?_⟩
      simp only [AddressCall.act, hstore, hcreate, Snapshots.write_current]
      exact (KeyedStore.mem_create hcontents).mpr (.inr rfl)
    · cases h
    · cases h
  | reserveGet request attempt =>
    simp only [AddressCall.act, Allocator.reserveGet] at h
    split at h
    · split at h <;> exact absurd h probe_ne_reserved
    · cases h
    · next existing hget =>
      split at h
      · next hmatches =>
        cases h
        obtain ⟨hmem, hkey⟩ := KeyedStore.find_eq_some.mp (get_eq_ok hget)
        exact ⟨request, attempt, .inr rfl, rfl, hkey, hmatches, .inr ⟨hmem, rfl⟩⟩
      · exact absurd h probe_ne_reserved
  -- no other call answers with a reservation
  | _ =>
    simp only [AddressCall.act, Allocator.ensureCreate, Allocator.ensureGet,
      Allocator.quarantineCreate, Allocator.quarantineGet, Allocator.quarantinePatch,
      Allocator.releaseGet, Allocator.releaseDelete] at h
    repeat' split at h
    all_goals cases h

end Waycloak.Interface
