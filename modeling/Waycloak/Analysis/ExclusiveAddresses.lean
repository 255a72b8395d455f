import Waycloak.Interface.AllocatorSteps

/-!
# Address reservations are exclusive while a reservation is deleted as it was read

The name of a reservation is derived from the gateway and the address, so the CREATE of the
API server alone gives an address to one Pod at a time (`NamedByAddress`). `Release` reads its
reservation, checks that it is the binding's own Active one, and then deletes by name: the
object that is deleted is whatever stands under the name by then.

* `exclusive_step`: one step, with what its call has read, keeps all three properties.
* `addresses_exclusive`: every run in which each DELETE meets the reservation as it was read.
* `quarantine_released`, a run of two replicas: one releases, the other quarantines in between
  or releases as well, and a new Pod reserves.
-/

set_option autoImplicit false

namespace Waycloak.Analysis

open Waycloak.Computation Waycloak.Model Waycloak.Interface

variable {libraries : AllocatorLibraries} {call : AddressCall} {store : Snapshots AddressStore}
variable {lease : AddressLease} {r : AllocatorRecord}

/-! ## One turn -/

/-- The properties of one turn. -/
structure ExclusiveStep (r : AllocatorRecord) : Prop where
  oneHolder : ∀ a ∈ r.after.shared.current, ∀ b ∈ r.after.shared.current,
    a.namespaceName = b.namespaceName → a.gatewayUID = b.gatewayUID → a.address = b.address →
      a.podUID = b.podUID
  quarantineKept : ∀ lease ∈ r.before.shared.current, lease.state = .quarantined →
    lease ∈ r.after.shared.current
  releasesOwn : ∀ binding current next, r.output = some (.releaseDelete binding current, next) →
    ∀ lease ∈ r.before.shared.current, lease ∉ r.after.shared.current →
      lease.podUID = binding.spec.podRef.uid ∧ lease.state ≠ .quarantined

/-- A DELETE of `Release` finds the reservation as `Release` read it, or none. -/
def DeletesAsRead (r : AllocatorRecord) : Prop :=
  match r.output with
  | some (.releaseDelete _ current, _) =>
    ∀ lease ∈ r.before.shared.current.entries, lease.key = current.key → lease = current
  | _ => True

instance (r : AllocatorRecord) : Decidable (DeletesAsRead r) := by
  unfold DeletesAsRead
  split <;> infer_instance

/-! ## The invariant -/

/-- Every reservation stands under the name of its address. -/
def NamedByAddress (libraries : AllocatorLibraries) (store : Snapshots AddressStore) : Prop :=
  ∀ lease ∈ store.current, lease.name =
    "waycloak-address-" ++ libraries.shortHash (lease.gatewayUID ++ "\x00" ++ lease.address)

/-- `Release` deletes what it read as the Active reservation of its binding's Pod. -/
def ReleasesOwn : AddressCall → Prop
  | .releaseDelete binding current =>
    current.podUID = binding.spec.podRef.uid ∧ current.state = .active
  | _ => True

theorem creates_namedByAddress (h : creates libraries call = some lease) :
    lease.name =
      "waycloak-address-" ++ libraries.shortHash (lease.gatewayUID ++ "\x00" ++ lease.address) := by
  cases call with
  | reserveCreate =>
    cases h
    rfl
  | ensure | quarantine =>
    obtain ⟨address, -, rfl⟩ := Option.map_eq_some_iff.mp h
    rfl
  | _ => cases h

theorem change_namedByAddress {next : Snapshots AddressStore} (h : NamedByAddress libraries store)
    (hchange : StoreChange libraries store call next) : NamedByAddress libraries next := by
  cases hchange with
  | same => exact h
  | created hcreates hfresh =>
    intro lease hlease
    rcases (KeyedStore.mem_create hfresh).mp hlease with hold | rfl
    · exact h lease hold
    · exact creates_namedByAddress hcreates
  | quarantined =>
    intro lease hlease
    obtain ⟨old, hold, heq⟩ := mem_quarantineAt.mp hlease
    have hname := h old hold
    split at heq <;> rw [← heq] <;> exact hname
  | deleted =>
    intro lease hlease
    exact h lease (mem_without.mp hlease).1

theorem resumes_releasesOwn {choice : ApiChoice} {next : AddressCall}
    (h : Resumes libraries store choice call next) : ReleasesOwn next := by
  cases h with
  | release hmatches =>
    obtain ⟨-, -, hpod, -, hstate⟩ := reservationMatches_iff.mp hmatches
    exact ⟨hpod, hstate⟩
  | _ => trivial

theorem enter_releasesOwn (job : AllocatorJob) : ReleasesOwn job.enter := by
  cases job <;> trivial

/-- INTERNAL: **the invariant of a turn.** It needs no condition. -/
theorem next_holds {s : AllocatorSystem} (turn : AllocatorTurn)
    (h : s.Holds (NamedByAddress libraries) fun _ => ReleasesOwn) :
    (s.next libraries turn).1.Holds (NamedByAddress libraries) fun _ => ReleasesOwn := by
  apply Calls.Holds.next h
  · intro job _
    exact enter_releasesOwn job
  intro index choice call _ _ hnamed _
  refine ⟨change_namedByAddress hnamed (act_change s.shared call choice), ?_, fun _ _ => id⟩
  intro next hnext
  exact resumes_releasesOwn (act_resumes hnext).2

/-! ## The properties of a step -/

theorem namedByAddress_oneHolder (h : NamedByAddress libraries store) {a b : AddressLease}
    (ha : a ∈ store.current) (hb : b ∈ store.current)
    (hnamespace : a.namespaceName = b.namespaceName) (hgateway : a.gatewayUID = b.gatewayUID)
    (haddress : a.address = b.address) : a.podUID = b.podUID := by
  have hkey : a.key = b.key := by
    simp only [AddressLease.key, hnamespace, h a ha, h b hb, hgateway, haddress]
  rw [KeyedStore.eq_of_key_eq ha hb hkey]

/-- INTERNAL: **what a turn takes out of the store**, if a DELETE meets the reservation as it
was read: nothing Quarantined, and by a DELETE only a reservation of its own binding. -/
theorem turn_lost (hrecord : r = record (AllocatorSystem.next libraries) r.before r.input)
    (hread : DeletesAsRead r)
    (hbefore : r.before.Holds (NamedByAddress libraries) fun _ => ReleasesOwn)
    (hlease : lease ∈ r.before.shared.current) (hlost : lease ∉ r.after.shared.current) :
    lease.state ≠ .quarantined ∧
      ∀ binding current next, r.output = some (.releaseDelete binding current, next) →
        lease.podUID = binding.spec.podRef.uid := by
  rcases Calls.record_cases hrecord with
    ⟨hsame, -⟩ | ⟨index, choice, call, -, hcall, hshared, hout⟩
  · rw [hsame] at hlost
    exact absurd hlease hlost
  rw [hshared] at hlost
  rcases change_lost (act_change r.before.shared call choice) hlease hlost with
    ⟨binding, current, rfl, hkey⟩ | ⟨hstate, binding, current, rfl⟩
  · obtain ⟨hpod, hactive⟩ := hbefore.running _ (List.mem_of_getElem? hcall)
    have hsame : lease = current := by
      unfold DeletesAsRead at hread
      rw [hout] at hread
      exact hread lease hlease hkey
    refine ⟨by simp [hsame, hactive], fun binding' current' next hout' => ?_⟩
    rw [hout] at hout'
    cases hout'
    rw [hsame]
    exact hpod
  · refine ⟨hstate, fun binding' current' next hout' => ?_⟩
    rw [hout] at hout'
    cases hout'

/-- INTERNAL: **one turn** of a system in which every pending DELETE has read its own
reservation. -/
theorem exclusive_step (hrecord : r = record (AllocatorSystem.next libraries) r.before r.input)
    (hread : DeletesAsRead r)
    (hbefore : r.before.Holds (NamedByAddress libraries) fun _ => ReleasesOwn)
    (hafter : r.after.Holds (NamedByAddress libraries) fun _ => ReleasesOwn) : ExclusiveStep r where
  oneHolder := fun _ ha _ hb => namedByAddress_oneHolder hafter.shared ha hb
  quarantineKept := by
    intro lease hlease hstate
    by_contra hlost
    exact (turn_lost hrecord hread hbefore hlease hlost).1 hstate
  releasesOwn := by
    intro binding current next hout lease hlease hlost
    obtain ⟨hstate, hown⟩ := turn_lost hrecord hread hbefore hlease hlost
    exact ⟨hown binding current next hout, hstate⟩

/-- **Address reservations are exclusive**: in every interleaving of any calls of the allocator,
with reads of any age, in which each DELETE meets the reservation as it was read, an address has
one holder, a Quarantined reservation stays, and `Release` deletes only its own Active one. -/
theorem addresses_exclusive (libraries : AllocatorLibraries) (turns : List AllocatorTurn)
    (hread : ∀ r ∈ allocatorRun libraries turns, DeletesAsRead r) :
    ∀ r ∈ allocatorRun libraries turns, ExclusiveStep r := by
  intro r hr
  have hstart : AllocatorSystem.empty.Holds (NamedByAddress libraries) fun _ => ReleasesOwn := by
    refine ⟨fun lease hlease => ?_, fun call hcall => ?_⟩
    · exact absurd hlease (KeyedStore.not_mem_empty lease)
    · cases hcall
  have hinvariant := (exec_linked (AllocatorSystem.next libraries) .empty turns).invariant
    (P := fun s => s.Holds (NamedByAddress libraries) fun _ => ReleasesOwn)
    (fun r _ hrecord hbefore => by rw [hrecord]; exact next_holds r.input hbefore) hstart r hr
  obtain ⟨hrecord, hbefore, hafter⟩ := hinvariant
  exact exclusive_step hrecord (hread r hr) hbefore hafter

/-! ## Runs of two replicas -/

/-- Digests that keep their text, and one address that parses. -/
def plainLibraries : AllocatorLibraries where
  parsePrefix := fun text => if text = "10.0.0.2/32" then some ⟨.v4 0x0a000002#32, 32⟩ else none
  shortHash := id
  longHash := id
  seed := fun _ => 0

def allocatingGateway : NamespacedUIDReference := ⟨"network", "gateway", "gateway-uid"⟩

def smallPool : Prefix := ⟨.v4 0x0a000000#32, 29⟩

/-- The reservation of a Pod of the gateway. -/
def reserveFor (podUID : ObjectUID) : ReserveRequest := ⟨allocatingGateway, podUID, smallPool⟩

/-- The binding of the first Pod, at the first address of the pool. -/
def firstBinding : VPNWorkloadBinding :=
  { namespaceName := "workloads", name := "pod-a", uid := "binding-uid", generation := 1
    deletionTimestamp := none, finalizers := []
    spec :=
      { podRef := ⟨"a", "pod-a"⟩
        routeRef := ⟨"route", "route-uid"⟩
        gatewayRef := allocatingGateway
        nodeName := "node"
        allocation :=
          { identity := (reserveFor "pod-a").identity plainLibraries, address := "10.0.0.2/32" }
        network :=
          { gatewayGeneration := 1, overlayCIDR := "10.0.0.0/29", gatewayAddress := "10.0.0.1"
            gatewayEndpoint := "192.0.2.1:4789", gatewayHealthPort := 8080, vni := 1, mtu := 1400
            clusterTraffic := { mode := .tunnelAll, bypassCIDRs := [] } } }
    status := .empty }

/-- A step of a call whose API call succeeds and reads the current state. -/
def actNow (index : ℕ) : AllocatorTurn := .act index { age := 0, outcome := .answered }

/-- The first Pod reserves, and its binding's `Release` has read the reservation. -/
def releasePending : List AllocatorTurn :=
  [.start (.reserve (reserveFor "pod-a")), actNow 0, actNow 0,
    .start (.release firstBinding), actNow 0]

/-- The release goes through undisturbed. -/
theorem addresses_exclusive_released :
    (∀ r ∈ allocatorRun plainLibraries (releasePending ++ [actNow 0]), DeletesAsRead r) ∧
      ∀ r ∈ allocatorRun plainLibraries (releasePending ++ [actNow 0]), ExclusiveStep r := by
  have hread : ∀ r ∈ allocatorRun plainLibraries (releasePending ++ [actNow 0]),
      DeletesAsRead r := by decide +kernel
  exact ⟨hread, addresses_exclusive plainLibraries _ hread⟩

/-- Another replica quarantines the reservation before it is deleted. -/
def quarantinedMeanwhile : List AllocatorTurn :=
  releasePending ++ [.start (.quarantine firstBinding), actNow 1, actNow 1, actNow 1, actNow 0]

/-- Another replica releases the reservation as well, and a second Pod reserves the address. -/
def reservedMeanwhile : List AllocatorTurn :=
  releasePending ++
    [.start (.release firstBinding), actNow 1, actNow 1,
      .start (.reserve (reserveFor "pod-b")), actNow 1, actNow 1, actNow 0]

/-- The reservation of a Pod at the first address. -/
def firstLease (podUID : ObjectUID) : AddressLease := (reserveFor podUID).lease plainLibraries 0

/-- **A Quarantined reservation, and the reservation of another Pod, are deleted** by a `Release`
that read the address as its own Active reservation. -/
theorem quarantine_released :
    (∃ r ∈ allocatorRun plainLibraries quarantinedMeanwhile,
      (firstLease "pod-a").markQuarantined ∈ r.before.shared.current.entries ∧
        r.after.shared.current.entries = [] ∧ ¬ ExclusiveStep r) ∧
      ∃ r ∈ allocatorRun plainLibraries reservedMeanwhile,
        r.output = some (.releaseDelete firstBinding (firstLease "pod-a"), .inr .done) ∧
          firstLease "pod-b" ∈ r.before.shared.current.entries ∧
          r.after.shared.current.entries = [] ∧ ¬ ExclusiveStep r := by
  constructor
  · have hrun : ∃ r ∈ allocatorRun plainLibraries quarantinedMeanwhile,
        (firstLease "pod-a").markQuarantined ∈ r.before.shared.current.entries ∧
          r.after.shared.current.entries = [] := by decide +kernel
    obtain ⟨r, hr, hlease, hempty⟩ := hrun
    refine ⟨r, hr, hlease, hempty, fun h => ?_⟩
    have hkept : _ ∈ r.after.shared.current.entries := h.quarantineKept _ hlease rfl
    rw [hempty] at hkept
    cases hkept
  · have hrun : ∃ r ∈ allocatorRun plainLibraries reservedMeanwhile,
        r.output = some (.releaseDelete firstBinding (firstLease "pod-a"), .inr .done) ∧
          firstLease "pod-b" ∈ r.before.shared.current.entries ∧
          r.after.shared.current.entries = [] := by decide +kernel
    obtain ⟨r, hr, hout, hlease, hempty⟩ := hrun
    refine ⟨r, hr, hout, hlease, hempty, fun h => ?_⟩
    have hlost : firstLease "pod-b" ∉ r.after.shared.current := by
      rw [← KeyedStore.mem_entries, hempty]
      simp
    have hpod := (h.releasesOwn _ _ _ hout _ hlease hlost).1
    exact absurd hpod (by decide)

end Waycloak.Analysis
