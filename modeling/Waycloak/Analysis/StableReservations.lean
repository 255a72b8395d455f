import Waycloak.Analysis.ExclusiveAddresses
import Waycloak.Interface.ProbeOrder

/-!
# A Pod keeps its address while the addresses probed before it stay taken

`Reserve` probes a fixed order and takes the first address that is free, or that is already
the Pod's own. It finds its own reservation again as long as every address before it in the
order is still taken; an address before it that was released in the meantime is free, and a
later `Reserve` takes that one.

* `Stable`: an Active reservation of the pair stands behind passed addresses only, and so
  does every `Reserve` of the pair in progress. Two such reservations would have to be behind
  each other, so there is one (`heldAt_unique`).
* `stable_next`: a turn keeps it unless it frees an address that was passed.
* `reserve_stable`: every run whose turns do not.
-/

set_option autoImplicit false

namespace Waycloak.Analysis

open Waycloak.Computation Waycloak.Model Waycloak.Interface

variable {libraries : AllocatorLibraries} {request : ReserveRequest} {attempt : ℕ}
  {r : AllocatorRecord} {store : Snapshots AddressStore} {call : AddressCall}

/-! ## Addresses taken and held -/

section Addresses

variable (libraries : AllocatorLibraries) (request : ReserveRequest)

/-- The lease of an attempt's name is the pair's own Active reservation of that address. -/
def OwnLease (attempt : ℕ) (lease : AddressLease) : Bool :=
  reservationMatches lease request.gateway.uid request.podUID (request.identity libraries)
    (request.address libraries attempt)

/-- The pair holds the address of the attempt. -/
def HeldAt (store : Snapshots AddressStore) (attempt : ℕ) : Prop :=
  ∃ lease ∈ store.current.entries, lease.key = (request.lease libraries attempt).key ∧
    OwnLease libraries request attempt lease = true

/-- The address of the attempt is taken, and not by the pair's own Active reservation. -/
def PassedAt (store : Snapshots AddressStore) (attempt : ℕ) : Prop :=
  ∃ lease ∈ store.current.entries, lease.key = (request.lease libraries attempt).key ∧
    OwnLease libraries request attempt lease = false

def TakenAt (store : Snapshots AddressStore) (attempt : ℕ) : Prop :=
  ∃ lease ∈ store.current.entries, lease.key = (request.lease libraries attempt).key

instance (store : Snapshots AddressStore) (attempt : ℕ) :
    Decidable (HeldAt libraries request store attempt) :=
  inferInstanceAs (Decidable (∃ lease ∈ store.current.entries, _ ∧ _))

end Addresses

theorem heldAt_not_passed (hheld : HeldAt libraries request store attempt) :
    ¬ PassedAt libraries request store attempt := by
  rintro ⟨other, hother, hkey', hnot⟩
  obtain ⟨lease, hlease, hkey, hown⟩ := hheld
  have hsame : lease = other := KeyedStore.eq_of_key_eq hlease hother (by rw [hkey, hkey'])
  rw [hsame, hnot] at hown
  cases hown

/-! ## The calls of the pair and of others -/

/-- How many attempts of the pair's `Reserve` have met a taken address. -/
def tried (request : ReserveRequest) : AddressCall → ℕ
  | .reserveCreate other attempt => if other = request then attempt else 0
  | .reserveGet other attempt => if other = request then attempt + 1 else 0
  | _ => 0

/-- A call of another pair, or a `Reserve`, `Quarantine` or `Release` of this one: a `Reserve` of
the pair is this request, and no binding of the pair is restored. -/
def Admissible (request : ReserveRequest) : AddressCall → Prop
  | .reserve other | .reserveCreate other _ | .reserveGet other _ =>
    other.gateway.uid = request.gateway.uid ∧ other.podUID = request.podUID → other = request
  | .ensure gateway binding =>
    ¬ (gateway.uid = request.gateway.uid ∧ binding.spec.podRef.uid = request.podUID)
  | _ => True

/-- A turn of the histories that are considered: an admissible call starts, or a call takes a
step on the current state. -/
def AdmissibleTurn (request : ReserveRequest) : AllocatorTurn → Prop
  | .start job => Admissible request job.enter
  | .act _ choice => choice.age = 0
  | .abandon _ => True

instance (turn : AllocatorTurn) : Decidable (AdmissibleTurn request turn) :=
  match turn with
  | .start (.reserve other) =>
    inferInstanceAs (Decidable (other.gateway.uid = request.gateway.uid ∧
      other.podUID = request.podUID → other = request))
  | .start (.ensure gateway binding) =>
    inferInstanceAs (Decidable (¬ (gateway.uid = request.gateway.uid ∧
      binding.spec.podRef.uid = request.podUID)))
  | .start (.quarantine _) | .start (.release _) | .abandon _ => .isTrue trivial
  | .act _ choice => inferInstanceAs (Decidable (choice.age = 0))

/-- A DELETE frees no address that a `Reserve` of the pair in progress has met taken, or that
comes before an address the pair holds. -/
def KeepsProbed (libraries : AllocatorLibraries) (request : ReserveRequest) (r : AllocatorRecord) :
    Prop :=
  match r.output with
  | some (.releaseDelete _ current, _) =>
    (∀ call ∈ r.before.running, ∀ i < tried request call,
      (request.lease libraries i).key ≠ current.key) ∧
      ∀ j < request.pool.usable, HeldAt libraries request r.before.shared j →
        ∀ i < j, (request.lease libraries i).key ≠ current.key
  | _ => True

instance : (r : AllocatorRecord) → Decidable (KeepsProbed libraries request r)
  | ⟨before, _, _, some (.releaseDelete _ current, _)⟩ =>
    inferInstanceAs (Decidable ((∀ call ∈ before.running, ∀ i < tried request call,
      (request.lease libraries i).key ≠ current.key) ∧
      ∀ j < request.pool.usable, HeldAt libraries request before.shared j →
        ∀ i < j, (request.lease libraries i).key ≠ current.key))
  | ⟨_, _, _, none⟩ | ⟨_, _, _, some (.reserve _, _)⟩ | ⟨_, _, _, some (.reserveCreate _ _, _)⟩
  | ⟨_, _, _, some (.reserveGet _ _, _)⟩ | ⟨_, _, _, some (.ensure _ _, _)⟩
  | ⟨_, _, _, some (.ensureGet _ _ _, _)⟩ | ⟨_, _, _, some (.quarantine _, _)⟩
  | ⟨_, _, _, some (.quarantineGet _ _, _)⟩ | ⟨_, _, _, some (.quarantinePatch _ _, _)⟩
  | ⟨_, _, _, some (.release _, _)⟩ => .isTrue trivial

/-! ## The invariant -/

/-- Every Active reservation of the pair is that of an attempt, and the attempts before it have
passed. -/
structure Stable (libraries : AllocatorLibraries) (request : ReserveRequest)
    (store : Snapshots AddressStore) : Prop where
  probed : ∀ lease ∈ store.current, lease.gatewayUID = request.gateway.uid →
    lease.podUID = request.podUID → lease.state = .active →
      ∃ attempt < request.pool.usable, lease = request.lease libraries attempt
  passed : ∀ j < request.pool.usable, HeldAt libraries request store j →
    ∀ i < j, PassedAt libraries request store i

/-- What a call in progress has met: the attempts it made have passed, and the one it is about to
look at is taken. -/
structure Probing (libraries : AllocatorLibraries) (request : ReserveRequest)
    (store : Snapshots AddressStore) (call : AddressCall) : Prop where
  admissible : Admissible request call
  passed : ∀ attempt, call = .reserveCreate request attempt ∨ call = .reserveGet request attempt →
    attempt < request.pool.usable ∧ ∀ i < attempt, PassedAt libraries request store i
  taken : ∀ attempt, call = .reserveGet request attempt → TakenAt libraries request store attempt

/-- INTERNAL: **the pair holds one address.** -/
theorem heldAt_unique (h : Stable libraries request store) {i j : ℕ} (hi : i < request.pool.usable)
    (hj : j < request.pool.usable) (hheldi : HeldAt libraries request store i)
    (hheldj : HeldAt libraries request store j) : i = j := by
  rcases Nat.lt_trichotomy i j with hlt | heq | hlt
  · exact absurd (h.passed j hj hheldj i hlt) (heldAt_not_passed hheldi)
  · exact heq
  · exact absurd (h.passed i hi hheldi j hlt) (heldAt_not_passed hheldj)

theorem active_unique (h : Stable libraries request store) {a b : AddressLease}
    (ha : a ∈ store.current) (hb : b ∈ store.current)
    (hpaira : a.gatewayUID = request.gateway.uid ∧ a.podUID = request.podUID)
    (hpairb : b.gatewayUID = request.gateway.uid ∧ b.podUID = request.podUID)
    (hactivea : a.state = .active) (hactiveb : b.state = .active) : a = b := by
  obtain ⟨i, hi, rfl⟩ := h.probed a ha hpaira.1 hpaira.2 hactivea
  obtain ⟨j, hj, rfl⟩ := h.probed b hb hpairb.1 hpairb.2 hactiveb
  have hheldi : HeldAt libraries request store i := ⟨_, ha, rfl, lease_matches request i⟩
  have hheldj : HeldAt libraries request store j := ⟨_, hb, rfl, lease_matches request j⟩
  rw [heldAt_unique h hi hj hheldi hheldj]

/-! ## What a change keeps -/

section Changes

variable {next : Snapshots AddressStore}

theorem markQuarantined_not_own (lease : AddressLease) (attempt : ℕ) :
    OwnLease libraries request attempt lease.markQuarantined = false := by
  rw [Bool.eq_false_iff]
  intro hown
  obtain ⟨-, -, -, -, hstate⟩ := reservationMatches_iff.mp hown
  cases hstate

theorem change_taken (hchange : StoreChange libraries store call next)
    (hkept : ∀ binding current, call = .releaseDelete binding current →
      (request.lease libraries attempt).key ≠ current.key)
    (h : TakenAt libraries request store attempt) : TakenAt libraries request next attempt := by
  obtain ⟨lease, hlease, hkey⟩ := h
  cases hchange with
  | same => exact ⟨lease, hlease, hkey⟩
  | created _ hfresh => exact ⟨lease, (KeyedStore.mem_create hfresh).mpr (.inl hlease), hkey⟩
  | quarantined =>
    refine ⟨_, mem_quarantineAt.mpr ⟨lease, hlease, rfl⟩, ?_⟩
    split
    · exact hkey
    · exact hkey
  | deleted =>
    refine ⟨lease, mem_without.mpr ⟨hlease, ?_⟩, hkey⟩
    rw [hkey]
    exact hkept _ _ rfl

theorem change_passed (hchange : StoreChange libraries store call next)
    (hkept : ∀ binding current, call = .releaseDelete binding current →
      (request.lease libraries attempt).key ≠ current.key)
    (h : PassedAt libraries request store attempt) : PassedAt libraries request next attempt := by
  obtain ⟨lease, hlease, hkey, hnot⟩ := h
  cases hchange with
  | same => exact ⟨lease, hlease, hkey, hnot⟩
  | created _ hfresh => exact ⟨lease, (KeyedStore.mem_create hfresh).mpr (.inl hlease), hkey, hnot⟩
  | quarantined =>
    refine ⟨_, mem_quarantineAt.mpr ⟨lease, hlease, rfl⟩, ?_⟩
    split
    · exact ⟨hkey, markQuarantined_not_own lease attempt⟩
    · exact ⟨hkey, hnot⟩
  | deleted =>
    refine ⟨lease, mem_without.mpr ⟨hlease, ?_⟩, hkey, hnot⟩
    rw [hkey]
    exact hkept _ _ rfl

/-- INTERNAL: an Active reservation that is there after a change was there before, or has just
been created. -/
theorem change_active {lease : AddressLease} (hchange : StoreChange libraries store call next)
    (hlease : lease ∈ next.current) (hactive : lease.state = .active) :
    lease ∈ store.current ∨ creates libraries call = some lease := by
  cases hchange with
  | same => exact .inl hlease
  | created hcreates hfresh =>
    rcases (KeyedStore.mem_create hfresh).mp hlease with hold | rfl
    · exact .inl hold
    · exact .inr hcreates
  | quarantined =>
    obtain ⟨old, hold, heq⟩ := mem_quarantineAt.mp hlease
    split at heq
    · rw [← heq] at hactive
      cases hactive
    · rw [← heq]
      exact .inl hold
  | deleted => exact .inl (mem_without.mp hlease).1

/-- INTERNAL: the only admissible CREATE of an Active reservation of the pair is an attempt of its
`Reserve`. -/
theorem creates_own {lease : AddressLease} (hadmissible : Admissible request call)
    (hcreates : creates libraries call = some lease)
    (hgateway : lease.gatewayUID = request.gateway.uid) (hpod : lease.podUID = request.podUID)
    (hactive : lease.state = .active) :
    ∃ attempt, call = .reserveCreate request attempt ∧ lease = request.lease libraries attempt := by
  cases call with
  | reserveCreate other attempt =>
    obtain rfl := Option.some.inj hcreates
    obtain rfl : other = request := hadmissible ⟨hgateway, hpod⟩
    exact ⟨attempt, rfl, rfl⟩
  | ensure =>
    obtain ⟨address, -, rfl⟩ := Option.map_eq_some_iff.mp hcreates
    exact absurd ⟨hgateway, hpod⟩ hadmissible
  | quarantine =>
    obtain ⟨address, -, rfl⟩ := Option.map_eq_some_iff.mp hcreates
    cases hactive
  | _ => cases hcreates

end Changes

/-! ## One turn -/

section Turn

variable {s : AllocatorSystem} {choice : ApiChoice}

/-- What the condition says about the step of a call. -/
structure KeepsFor (libraries : AllocatorLibraries) (request : ReserveRequest)
    (s : AllocatorSystem) (call : AddressCall) : Prop where
  running : ∀ binding current, call = .releaseDelete binding current →
    ∀ other ∈ s.running, ∀ i < tried request other,
      (request.lease libraries i).key ≠ current.key
  held : ∀ binding current, call = .releaseDelete binding current →
    ∀ j < request.pool.usable, HeldAt libraries request s.shared j →
      ∀ i < j, (request.lease libraries i).key ≠ current.key

theorem stable_change (hkeeps : KeepsFor libraries request s call)
    (hstable : Stable libraries request s.shared)
    (hprobing : Probing libraries request s.shared call) :
    Stable libraries request (call.act libraries s.shared choice).1 := by
  have hchange : StoreChange libraries s.shared call (call.act libraries s.shared choice).1 :=
    act_change s.shared call choice
  constructor
  · intro lease hlease hgateway hpod hactive
    rcases change_active hchange hlease hactive with hold | hcreates
    · exact hstable.probed lease hold hgateway hpod hactive
    · obtain ⟨attempt, rfl, rfl⟩ :=
        creates_own hprobing.admissible hcreates hgateway hpod hactive
      exact ⟨attempt, (hprobing.passed attempt (.inl rfl)).1, rfl⟩
  · rintro j hj ⟨lease, hlease, hkey, hown⟩ i hi
    obtain ⟨-, hgateway, hpod, haddress, hactive⟩ := reservationMatches_iff.mp hown
    rcases change_active hchange hlease hactive with hold | hcreates
    · have hheld : HeldAt libraries request s.shared j := ⟨lease, hold, hkey, hown⟩
      apply change_passed hchange _ (hstable.passed j hj hheld i hi)
      intro binding current hcall
      exact hkeeps.held binding current hcall j hj hheld i hi
    · obtain ⟨attempt, rfl, rfl⟩ :=
        creates_own hprobing.admissible hcreates hgateway hpod hactive
      obtain ⟨hroom, hpassed⟩ := hprobing.passed attempt (.inl rfl)
      obtain rfl : attempt = j := probedAddress_inj hroom hj haddress
      exact change_passed hchange (fun _ _ h => by cases h) (hpassed i hi)

theorem probing_others (hkeeps : KeepsFor libraries request s call) {other : AddressCall}
    (hother : other ∈ s.running) (h : Probing libraries request s.shared other) :
    Probing libraries request (call.act libraries s.shared choice).1 other := by
  have hchange : StoreChange libraries s.shared call (call.act libraries s.shared choice).1 :=
    act_change s.shared call choice
  have hkept : ∀ i < tried request other, ∀ binding current,
      call = .releaseDelete binding current → (request.lease libraries i).key ≠ current.key :=
    fun i hi binding current hcall => hkeeps.running binding current hcall other hother i hi
  refine ⟨h.admissible, ?_, ?_⟩
  · intro attempt hstands
    obtain ⟨hroom, hpassed⟩ := h.passed attempt hstands
    refine ⟨hroom, fun i hi => change_passed hchange (hkept i ?_) (hpassed i hi)⟩
    rcases hstands with rfl | rfl
    · simpa [tried] using hi
    · simp only [tried, if_true]
      omega
  · rintro attempt rfl
    apply change_taken hchange (hkept attempt _) (h.taken attempt rfl)
    simp [tried]

theorem probing_resumed {next : AddressCall} (hage : choice.age = 0)
    (hprobing : Probing libraries request s.shared call)
    (hresumes : Resumes libraries s.shared choice call next) :
    Probing libraries request s.shared next := by
  have hread : s.shared.read choice.age = s.shared.current := by rw [hage]; rfl
  cases hresumes with
  | first hpool hroom =>
    refine ⟨hprobing.admissible, ?_, ?_⟩
    · rintro attempt (h | h) <;> cases h
      exact ⟨hroom, fun i hi => absurd hi (Nat.not_lt_zero i)⟩
    · rintro attempt ⟨⟩
  | @taken other attempt htaken =>
    refine ⟨hprobing.admissible, ?_, ?_⟩
    · rintro attempt' (h | h) <;> cases h
      exact hprobing.passed attempt (.inl rfl)
    · rintro attempt' ⟨⟩
      exact KeyedStore.create_eq_none.mp htaken
  | @again other attempt hgone hlater hroom =>
    refine ⟨hprobing.admissible, ?_, ?_⟩
    · rintro attempt' (h | h) <;> cases h
      exact hprobing.passed attempt (.inr rfl)
    · rintro attempt' ⟨⟩
  | @skipped other hgone hroom =>
    refine ⟨hprobing.admissible, ?_, ?_⟩
    · rintro attempt' (h | h) <;> cases h
      obtain ⟨lease, hlease, hkey⟩ := hprobing.taken 0 rfl
      rw [hread] at hgone
      exact absurd hkey (KeyedStore.find_eq_none.mp hgone lease hlease)
    · rintro attempt' ⟨⟩
  | @passed other attempt existing hfound hother hroom =>
    refine ⟨hprobing.admissible, ?_, ?_⟩
    · rintro attempt' (h | h) <;> cases h
      refine ⟨hroom, fun i hi => ?_⟩
      rcases Nat.lt_succ_iff_lt_or_eq.mp hi with hlt | rfl
      · exact (hprobing.passed attempt (.inr rfl)).2 i hlt
      · rw [hread] at hfound
        obtain ⟨hmem, hkey⟩ := KeyedStore.find_eq_some.mp hfound
        exact ⟨existing, hmem, hkey, hother⟩
    · rintro attempt' ⟨⟩
  | _ =>
    refine ⟨trivial, ?_, ?_⟩
    · rintro attempt (h | h) <;> cases h
    · rintro attempt ⟨⟩

end Turn

theorem keepsProbed_for {after : AddressCall ⊕ AllocatorResult}
    (h : KeepsProbed libraries request r) (hout : r.output = some (call, after)) :
    KeepsFor libraries request r.before call := by
  constructor
  · rintro binding current rfl
    simp only [KeepsProbed, hout] at h
    exact h.1
  · rintro binding current rfl
    simp only [KeepsProbed, hout] at h
    exact h.2

/-- INTERNAL: **one turn** that frees no probed address. -/
theorem stable_next (hrecord : r = record (AllocatorSystem.next libraries) r.before r.input)
    (hturn : AdmissibleTurn request r.input) (hkeeps : KeepsProbed libraries request r)
    (h : r.before.Holds (Stable libraries request) (Probing libraries request)) :
    r.after.Holds (Stable libraries request) (Probing libraries request) := by
  have hafter : r.after = (r.before.next libraries r.input).1 := congrArg Record.after hrecord
  have houtput : r.output = (r.before.next libraries r.input).2 := congrArg Record.output hrecord
  rw [hafter]
  apply Calls.Holds.next h
  · intro job hjob
    rw [hjob] at hturn
    refine ⟨hturn, ?_, ?_⟩
    · rintro attempt (hstands | hstands) <;> cases job <;> cases hstands
    · intro attempt hstands
      cases job <;> cases hstands
  · intro index choice call hinput hcall hstable hprobing
    have hage : choice.age = 0 := by
      rw [hinput] at hturn
      exact hturn
    have hout : r.output = some (call, (call.act libraries r.before.shared choice).2) := by
      rw [houtput, hinput]
      simp only [AllocatorSystem.next, Calls.next, hcall]
    have hfor : KeepsFor libraries request r.before call := keepsProbed_for hkeeps hout
    refine ⟨stable_change hfor hstable hprobing, ?_, ?_⟩
    · intro next hnext
      obtain ⟨hsame, hresumes⟩ := act_resumes hnext
      rw [hsame]
      exact probing_resumed hage hprobing hresumes
    · intro other hother hheld
      exact probing_others hfor hother hheld

/-! ## Whole runs -/

/-- A `Reserve` of the request returns in this turn. -/
def Returned (request : ReserveRequest) (r : AllocatorRecord) (reservation : Reservation) : Prop :=
  ∃ attempt, r.output = some (.reserveCreate request attempt, .inr (.reserved reservation)) ∨
    r.output = some (.reserveGet request attempt, .inr (.reserved reservation))

/-- A run that keeps reservations: the pair never has two Active reservations, and a `Reserve` returns
the address an earlier one returned while that reservation is there. -/
structure ReserveStable (request : ReserveRequest) (run : List AllocatorRecord) : Prop where
  sole : ∀ r ∈ run, ∀ a ∈ r.after.shared.current, ∀ b ∈ r.after.shared.current,
    a.gatewayUID = request.gateway.uid ∧ a.podUID = request.podUID →
    b.gatewayUID = request.gateway.uid ∧ b.podUID = request.podUID →
    a.state = .active → b.state = .active → a = b
  sameAddress : ∀ pre first mid later post, run = pre ++ first :: (mid ++ later :: post) →
    ∀ reservation again, Returned request first reservation → Returned request later again →
      reservation.lease ∈ later.before.shared.current → again.address = reservation.address

/-- INTERNAL: what a `Reserve` returned is the reservation of one of its attempts, and the pair
holds it then. -/
theorem returned_held {reservation : Reservation}
    (hrecord : r = record (AllocatorSystem.next libraries) r.before r.input)
    (hturn : AdmissibleTurn request r.input)
    (hbefore : r.before.Holds (Stable libraries request) (Probing libraries request))
    (h : Returned request r reservation) :
    ∃ attempt < request.pool.usable, reservation.address = request.address libraries attempt ∧
      reservation.lease.key = (request.lease libraries attempt).key ∧
      OwnLease libraries request attempt reservation.lease = true ∧
      reservation.lease ∈ r.after.shared.current ∧
      ∀ lease ∈ r.before.shared.current, lease ∈ r.after.shared.current := by
  obtain ⟨attempt, hout⟩ := h
  rcases Calls.record_cases hrecord with
    ⟨-, hnone⟩ | ⟨index, choice, call, hinput, hcall, hshared, hsome⟩
  · rw [hnone] at hout
    rcases hout with h | h <;> cases h
  have hage : choice.age = 0 := by
    rw [hinput] at hturn
    exact hturn
  have hstands : call = .reserveCreate request attempt ∨ call = .reserveGet request attempt := by
    rw [hsome] at hout
    rcases hout with h | h
    · exact .inl (congrArg Prod.fst (Option.some.inj h))
    · exact .inr (congrArg Prod.fst (Option.some.inj h))
  have hresult : (call.act libraries r.before.shared choice).2 = .inr (.reserved reservation) := by
    rw [hsome] at hout
    rcases hout with h | h <;> exact congrArg Prod.snd (Option.some.inj h)
  obtain ⟨request', attempt', hreserves⟩ := act_reserves hresult
  have hsame : request' = request ∧ attempt' = attempt := by
    rcases hreserves.stands with rfl | rfl <;> rcases hstands with h | h <;> cases h <;>
      exact ⟨rfl, rfl⟩
  obtain ⟨rfl, rfl⟩ := hsame
  have hprobing := hbefore.running call (List.mem_of_getElem? hcall)
  refine ⟨attempt', (hprobing.passed attempt' hstands).1, hreserves.address, hreserves.key,
    hreserves.leaseMatches, ?_, ?_⟩
  · rw [hshared]
    rcases hreserves.stored with hstored | ⟨hread, hstore⟩
    · exact hstored
    · rw [hstore]
      rw [hage] at hread
      exact hread
  · intro lease hlease
    by_contra hlost
    rw [hshared] at hlost
    rcases change_lost (act_change r.before.shared call choice) hlease hlost with
      ⟨binding, current, hdelete, -⟩ | ⟨-, binding, current, hpatch⟩
    · rcases hstands with rfl | rfl <;> cases hdelete
    · rcases hstands with rfl | rfl <;> cases hpatch

/-- **`Reserve` is stable across crashes**: in every interleaving of the pair's `Reserve` with any
calls for other Pods, on current reads, in which no DELETE frees an address that the pair's
`Reserve` had probed, the pair has one Active reservation, and a later `Reserve` returns it. -/
theorem reserve_stable (libraries : AllocatorLibraries) (request : ReserveRequest)
    (turns : List AllocatorTurn) (hturns : ∀ turn ∈ turns, AdmissibleTurn request turn)
    (hkeeps : ∀ r ∈ allocatorRun libraries turns, KeepsProbed libraries request r) :
    ReserveStable request (allocatorRun libraries turns) := by
  have hstart : AllocatorSystem.empty.Holds (Stable libraries request)
      (Probing libraries request) := by
    refine ⟨⟨fun lease hlease => ?_, ?_⟩, fun call hcall => by cases hcall⟩
    · exact absurd hlease (KeyedStore.not_mem_empty lease)
    · rintro j - ⟨lease, hlease, -⟩
      cases hlease
  have hinvariant := (exec_linked (AllocatorSystem.next libraries) .empty turns).invariant
    (P := fun s => s.Holds (Stable libraries request) (Probing libraries request))
    (fun r hr hrecord => stable_next hrecord (hturns _ (exec_input_mem hr)) (hkeeps r hr)) hstart
  constructor
  · intro r hr a ha b hb
    exact active_unique (hinvariant r hr).2.2.shared ha hb
  intro pre first mid later post hrun reservation again hfirst hlater hthere
  have hmem : ∀ r, r = first ∨ r ∈ mid ∨ r = later → r ∈ allocatorRun libraries turns :=
    fun r hr => mem_between hrun hr
  have hturn : ∀ r ∈ allocatorRun libraries turns, AdmissibleTurn request r.input :=
    fun r hr => hturns _ (exec_input_mem hr)
  obtain ⟨hrecord₁, hbefore₁, -⟩ := hinvariant first (hmem first (.inl rfl))
  obtain ⟨hrecord₂, hbefore₂, hafter₂⟩ := hinvariant later (hmem later (.inr (.inr rfl)))
  obtain ⟨i, hi, haddress₁, hkey₁, hown₁, -, -⟩ :=
    returned_held hrecord₁ (hturn first (hmem first (.inl rfl))) hbefore₁ hfirst
  obtain ⟨j, hj, haddress₂, hkey₂, hown₂, hstored₂, hkept⟩ :=
    returned_held hrecord₂ (hturn later (hmem later (.inr (.inr rfl)))) hbefore₂ hlater
  have hheld₁ : HeldAt libraries request later.after.shared i :=
    ⟨reservation.lease, hkept _ hthere, hkey₁, hown₁⟩
  have hheld₂ : HeldAt libraries request later.after.shared j :=
    ⟨again.lease, hstored₂, hkey₂, hown₂⟩
  rw [haddress₁, haddress₂, heldAt_unique hafter₂.shared hi hj hheld₁ hheld₂]

/-- The first Pod reserves its address, then the second, whose first attempt meets it. -/
def secondReserves : List AllocatorTurn :=
  [.start (.reserve (reserveFor "pod-a")), actNow 0, actNow 0,
    .start (.reserve (reserveFor "pod-b")), actNow 0, actNow 0, actNow 0, actNow 0]

/-- The second Pod reserves once more while the first keeps its address. -/
def reservesAgain : List AllocatorTurn :=
  secondReserves ++
    [.start (.reserve (reserveFor "pod-b")), actNow 0, actNow 0, actNow 0, actNow 0, actNow 0]

theorem reserve_stable_again :
    ((∀ turn ∈ reservesAgain, AdmissibleTurn (reserveFor "pod-b") turn) ∧
      ∀ r ∈ allocatorRun plainLibraries reservesAgain,
        KeepsProbed plainLibraries (reserveFor "pod-b") r) ∧
      ReserveStable (reserveFor "pod-b") (allocatorRun plainLibraries reservesAgain) := by
  have hturns : ∀ turn ∈ reservesAgain, AdmissibleTurn (reserveFor "pod-b") turn := by
    decide +kernel
  have hkeeps : ∀ r ∈ allocatorRun plainLibraries reservesAgain,
      KeepsProbed plainLibraries (reserveFor "pod-b") r := by decide +kernel
  exact ⟨⟨hturns, hkeeps⟩, reserve_stable plainLibraries _ _ hturns hkeeps⟩

/-- The first Pod's address is released before the second Pod reserves once more. -/
def reservesAfterRelease : List AllocatorTurn :=
  secondReserves ++
    [.start (.release firstBinding), actNow 0, actNow 0,
      .start (.reserve (reserveFor "pod-b")), actNow 0, actNow 0]

/-- **A released address before its own takes a Pod away from its reservation**: the second
`Reserve` of the Pod returns the first address of the pool, and the Pod has two Active
reservations. -/
theorem reserve_moves :
    (∃ r ∈ allocatorRun plainLibraries reservesAfterRelease,
      ∃ a ∈ r.after.shared.current.entries, ∃ b ∈ r.after.shared.current.entries,
        a = (reserveFor "pod-b").lease plainLibraries 0 ∧
          b = (reserveFor "pod-b").lease plainLibraries 1) ∧
      ¬ ReserveStable (reserveFor "pod-b") (allocatorRun plainLibraries reservesAfterRelease) := by
  have hrun : ∃ r ∈ allocatorRun plainLibraries reservesAfterRelease,
      ∃ a ∈ r.after.shared.current.entries, ∃ b ∈ r.after.shared.current.entries,
        a = (reserveFor "pod-b").lease plainLibraries 0 ∧
          b = (reserveFor "pod-b").lease plainLibraries 1 := by decide +kernel
  refine ⟨hrun, fun hstable => ?_⟩
  obtain ⟨r, hr, a, ha, b, hb, rfl, rfl⟩ := hrun
  have hsame := hstable.sole r hr _ ha _ hb ⟨rfl, rfl⟩ ⟨rfl, rfl⟩ rfl rfl
  exact absurd hsame (by decide +kernel)

end Waycloak.Analysis
