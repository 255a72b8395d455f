import Waycloak.Computation.Histories
import Waycloak.Interface.ProbeOrder
import Waycloak.Analysis.ExclusiveAddresses

/-!
# When a pool counts as exhausted

The attempts of `Reserve` go through the usable addresses of a pool, each once. A reservation that has
vanished between a CREATE and the GET after it is tried again, by giving the loop counter back; the
first attempt has nothing to give back and goes on to the second address. So a pool counts as exhausted
with every usable address taken exactly if the GET of the first attempt did find its reservation
(`pool_exhausted_iff`).
-/

set_option autoImplicit false

namespace Waycloak.Analysis

open Waycloak.Computation Waycloak.Model Waycloak.Interface

/-! ## The addresses -/

section Addresses

variable {libraries : AllocatorLibraries} {podUID : ObjectUID} {pool : Prefix}

/-- The address at an offset from the first address of the pool. -/
def hostAddress (pool : Prefix) (offset : ℕ) : Prefix :=
  ⟨.v4 (pool.baseValue + BitVec.ofNat 32 offset), 32⟩

/-- **The attempts visit the usable addresses**: the addresses of the pool do not run over the end
of the address space, an attempt has one between the gateway and the broadcast address, and each of
these is the address of exactly one attempt. -/
structure VisitsUsable (libraries : AllocatorLibraries) (podUID : ObjectUID) (pool : Prefix) :
    Prop where
  fits : pool.baseValue.toNat + 2 ^ (32 - pool.bits) ≤ 2 ^ 32 ∧
    libraries.seed podUID % pool.usable + pool.usable ≤ 2 ^ 32
  inside : ∀ attempt < pool.usable, ∃ offset, 2 ≤ offset ∧ offset + 2 ≤ 2 ^ (32 - pool.bits) ∧
    probedAddress libraries podUID pool attempt = hostAddress pool offset
  once : ∀ offset, 2 ≤ offset → offset + 2 ≤ 2 ^ (32 - pool.bits) →
    ∃! attempt, attempt < pool.usable ∧
      probedAddress libraries podUID pool attempt = hostAddress pool offset

theorem and_mask_eq {w : ℕ} (bits : BitVec w) (n : ℕ) :
    bits &&& (BitVec.allOnes w <<< n) = (bits >>> n) <<< n := by
  ext i hi
  by_cases h : i < n
  · simp [h]
  · have hback : n + (i - n) = i := by omega
    simp [h, hback, BitVec.getLsbD_eq_getElem hi]

theorem masked_fits (bits : BitVec 32) {n : ℕ} (hn : n ≤ 32) :
    (bits &&& (BitVec.allOnes 32 <<< n)).toNat + 2 ^ n ≤ 2 ^ 32 := by
  have hpow : 2 ^ 32 = 2 ^ (32 - n) * 2 ^ n := by rw [← Nat.pow_add, Nat.sub_add_cancel hn]
  have hdiv : bits.toNat / 2 ^ n < 2 ^ (32 - n) := by
    rw [Nat.div_lt_iff_lt_mul (by positivity), ← hpow]
    exact bits.isLt
  have hmul : (bits.toNat / 2 ^ n + 1) * 2 ^ n ≤ 2 ^ 32 := by
    rw [hpow]
    exact Nat.mul_le_mul_right _ hdiv
  rw [and_mask_eq, BitVec.toNat_shiftLeft, BitVec.toNat_ushiftRight, Nat.shiftLeft_eq,
    Nat.shiftRight_eq_div_pow]
  have hle := Nat.mod_le (bits.toNat / 2 ^ n * 2 ^ n) (2 ^ 32)
  rw [Nat.add_mul, Nat.one_mul] at hmul
  omega

theorem visitsUsable (h : pool.allocatable = true) : VisitsUsable libraries podUID pool := by
  obtain ⟨addr, bits⟩ := pool
  obtain ⟨⟨hv4, hlow⟩, hhigh⟩ : (addr.is4 = true ∧ 16 ≤ bits) ∧ bits ≤ 29 := by
    simpa [Prefix.allocatable] using h
  set pool : Prefix := ⟨addr, bits⟩
  have hroom : pool.usable + 3 = 2 ^ (32 - bits) := by
    have hmin : 2 ^ 3 ≤ 2 ^ (32 - bits) := Nat.pow_le_pow_right (by omega) (by omega)
    have husable : pool.usable = 2 ^ (32 - bits) - 3 := rfl
    omega
  have hmax : 2 ^ (32 - bits) ≤ 2 ^ 16 := Nat.pow_le_pow_right (by omega) (by omega)
  have hpos : 0 < pool.usable := by
    have hmin : 2 ^ 3 ≤ 2 ^ (32 - bits) := Nat.pow_le_pow_right (by omega) (by omega)
    omega
  have hstart := Nat.mod_lt (libraries.seed podUID) hpos
  refine ⟨⟨?_, by omega⟩, fun attempt hattempt => ?_, fun offset hfirst hlast => ?_⟩
  · cases addr with
    | v4 base => exact masked_fits base (by omega)
    | zero => cases hv4
    | v6 => cases hv4
  · have hoffset := Nat.mod_lt (libraries.seed podUID % pool.usable + attempt) hpos
    refine ⟨2 + (libraries.seed podUID % pool.usable + attempt) % pool.usable, by omega, ?_, rfl⟩
    show _ ≤ 2 ^ (32 - bits)
    omega
  · have hoffset : offset + 2 ≤ 2 ^ (32 - bits) := hlast
    -- the attempt that brings the start round to the offset
    set attempt := (offset - 2 + (pool.usable - libraries.seed podUID % pool.usable)) % pool.usable
    have hattempt : attempt < pool.usable := Nat.mod_lt _ hpos
    have haddress : probedAddress libraries podUID pool attempt = hostAddress pool offset := by
      have hmod : (libraries.seed podUID % pool.usable + attempt) % pool.usable = offset - 2 := by
        rw [Nat.add_mod_mod, show libraries.seed podUID % pool.usable + (offset - 2 +
          (pool.usable - libraries.seed podUID % pool.usable)) = offset - 2 + pool.usable by omega,
          Nat.add_mod_right, Nat.mod_eq_of_lt (by omega)]
      show hostAddress pool (2 + _) = _
      rw [hmod, Nat.add_sub_cancel' hfirst]
    refine ⟨attempt, ⟨hattempt, haddress⟩, fun other hother => ?_⟩
    exact probedAddress_inj hother.1 hattempt (by rw [hother.2, haddress])

end Addresses

/-! ## One call of `Reserve` -/

/-- A call of the API that a `Reserve` makes, with whatever store and outcome it meets. -/
abbrev ProbeRecord :=
  Record (AddressCall ⊕ AllocatorResult) (Snapshots AddressStore × ApiChoice) Unit

/-- The next API call of a `Reserve`, if it has not returned. -/
def probeNext (libraries : AllocatorLibraries) :
    AddressCall ⊕ AllocatorResult → Snapshots AddressStore × ApiChoice →
      (AddressCall ⊕ AllocatorResult) × Unit
  | .inl call, (store, choice) => ((call.act libraries store choice).2, ())
  | .inr result, _ => (.inr result, ())

/-- A `Reserve` against any sequence of answers. -/
def reserveRun (libraries : AllocatorLibraries) (request : ReserveRequest)
    (answers : List (Snapshots AddressStore × ApiChoice)) : List ProbeRecord :=
  exec (probeNext libraries) (.inl (.reserve request)) answers

section Probes

variable (libraries : AllocatorLibraries) (request : ReserveRequest)

/-- The call is about the address of the attempt. -/
def Probes (attempt : ℕ) (r : ProbeRecord) : Prop :=
  r.before = .inl (.reserveCreate request attempt) ∨ r.before = .inl (.reserveGet request attempt)

/-- The answer shows a reservation of the attempt's address that is not this Pod's. -/
def ShowsOther (attempt : ℕ) (r : ProbeRecord) : Prop :=
  r.before = .inl (.reserveGet request attempt) ∧ ∃ existing,
    AddressAPI.get r.input.1 (request.lease libraries attempt).key r.input.2 = .ok existing ∧
    reservationMatches existing request.gateway.uid request.podUID (request.identity libraries)
      (request.address libraries attempt) = false

/-- The GET of the first attempt finds no reservation. -/
def FirstVanished (r : ProbeRecord) : Prop :=
  r.before = .inl (.reserveGet request 0) ∧
    AddressAPI.get r.input.1 (request.lease libraries 0).key r.input.2 = .error .notFound

/-- The last answer about the attempt's address shows a reservation that is not this Pod's. -/
def LastShowsOther (attempt : ℕ) (run : List ProbeRecord) : Prop :=
  Since (fun r => ¬ Probes request attempt r) (ShowsOther libraries request attempt) run

/-- The attempts below `bound` have been passed over; if the first reservation has vanished, then this
was the last answer about its address. -/
structure PassedOver (bound : ℕ) (run : List ProbeRecord) : Prop where
  each : ∀ attempt < bound, Since (fun r => ¬ Probes request attempt r)
    (fun r => ShowsOther libraries request attempt r ∨
      attempt = 0 ∧ FirstVanished libraries request r) run
  vanished : ∀ q ∈ run, FirstVanished libraries request q → 0 < bound ∧ 0 < request.pool.usable ∧
    Since (fun r => ¬ Probes request 0 r) (FirstVanished libraries request) run

/-- What the calls so far say about the place a `Reserve` stands at. -/
def Progress (run : List ProbeRecord) : AddressCall ⊕ AllocatorResult → Prop
  | .inl (.reserve request') => request' = request ∧ PassedOver libraries request 0 run
  | .inl (.reserveCreate request' attempt) | .inl (.reserveGet request' attempt) =>
    request' = request ∧ attempt < request.pool.usable ∧ PassedOver libraries request attempt run
  | .inl _ => False
  | .inr (.failed .poolExhausted) =>
    ∃ bound, request.pool.usable ≤ bound ∧ PassedOver libraries request bound run
  | .inr _ => True

/-- What an API call of a `Reserve` leads to: the next attempt it probes, or a result other than an
exhausted pool. -/
inductive ProbeStep (r : ProbeRecord) : Prop
  | started (hbefore : r.before = .inl (.reserve request)) (hafter : r.after = request.probe 0)
  | taken (attempt : ℕ) (hbefore : r.before = .inl (.reserveCreate request attempt))
      (hafter : r.after = .inl (.reserveGet request attempt))
  | again (attempt : ℕ) (hlater : 0 < attempt)
      (hbefore : r.before = .inl (.reserveGet request attempt))
      (hafter : r.after = request.probe attempt)
  | skipped (hvanished : FirstVanished libraries request r) (hafter : r.after = request.probe 1)
  | passed (attempt : ℕ) (hshows : ShowsOther libraries request attempt r)
      (hafter : r.after = request.probe (attempt + 1))
  | returned (result : AllocatorResult) (hresult : result ≠ .failed .poolExhausted)
      (hafter : r.after = .inr result)

end Probes

section Steps

variable {libraries : AllocatorLibraries} {request : ReserveRequest} {attempt : ℕ}
  {run : List ProbeRecord} {r : ProbeRecord}

theorem progress_probe (h : PassedOver libraries request attempt run) :
    Progress libraries request run (request.probe attempt) := by
  unfold ReserveRequest.probe
  split
  · next hroom => exact ⟨rfl, hroom, h⟩
  · next hend => exact ⟨attempt, by omega, h⟩

theorem progress_result {result : AllocatorResult} (h : result ≠ .failed .poolExhausted) :
    Progress libraries request run (.inr result) := by
  unfold Progress
  split <;> simp_all

theorem PassedOver.snoc (h : PassedOver libraries request attempt run)
    (hr : ∀ i, Probes request i r → i = attempt) (hvanished : ¬ FirstVanished libraries request r) :
    PassedOver libraries request attempt (run ++ [r]) := by
  refine ⟨fun i hi => (h.each i hi).snoc fun hi' => ?_, fun q hq hq' => ?_⟩
  · exact absurd (hr i hi') (by omega)
  rcases List.mem_append.mp hq with hq | hq
  · obtain ⟨hpos, hroom, hsince⟩ := h.vanished q hq hq'
    exact ⟨hpos, hroom, hsince.snoc fun hzero => absurd (hr 0 hzero) (by omega)⟩
  · rw [List.mem_singleton.mp hq] at hq'
    exact absurd hq' hvanished

theorem PassedOver.succ (h : PassedOver libraries request attempt run)
    (hroom : attempt < request.pool.usable) (hr : ∀ i, Probes request i r → i = attempt)
    (hevent : ShowsOther libraries request attempt r ∨
      attempt = 0 ∧ FirstVanished libraries request r) :
    PassedOver libraries request (attempt + 1) (run ++ [r]) := by
  by_cases hvanished : FirstVanished libraries request r
  · obtain rfl : attempt = 0 := (hr 0 (Or.inr hvanished.1)).symm
    refine ⟨fun i hi => ?_, fun q _ _ => ⟨Nat.succ_pos _, hroom, since_last hvanished⟩⟩
    obtain rfl : i = 0 := by omega
    exact since_last (Or.inr ⟨rfl, hvanished⟩)
  · have hsnoc := h.snoc hr hvanished
    refine ⟨fun i hi => ?_, fun q hq hq' => ⟨Nat.succ_pos _, (hsnoc.vanished q hq hq').2⟩⟩
    rcases Nat.lt_succ_iff_lt_or_eq.mp hi with hi | rfl
    · exact hsnoc.each i hi
    · exact since_last hevent

theorem probes_unique {place : ℕ → AddressCall} (hbefore : r.before = .inl (place attempt))
    (hplace : place = .reserveCreate request ∨ place = .reserveGet request) :
    ∀ i, Probes request i r → i = attempt := by
  rcases hplace with rfl | rfl <;> simp [Probes, hbefore]

/-- INTERNAL: **what one call can do.** -/
theorem probe_step {call : AddressCall} (hr : r = record (probeNext libraries) r.before r.input)
    (hbefore : r.before = .inl call) (h : Progress libraries request run (.inl call)) :
    ProbeStep libraries request r := by
  have hafter : r.after = (call.act libraries r.input.1 r.input.2).2 := by
    rw [hr, record_after, hbefore]
    rfl
  cases call with
  | reserve =>
    obtain rfl := h.1
    simp only [AddressCall.act, Allocator.reserveInspect] at hafter
    repeat' split at hafter
    all_goals first | exact .started hbefore hafter | exact .returned _ (by simp) hafter
  | reserveCreate _ attempt =>
    obtain rfl := h.1
    simp only [AddressCall.act, Allocator.reserveCreate] at hafter
    split at hafter
    · exact .returned _ (by simp) hafter
    · exact .returned _ (by simp) hafter
    · exact .taken attempt hbefore hafter
  | reserveGet _ attempt =>
    obtain rfl := h.1
    simp only [AddressCall.act, Allocator.reserveGet] at hafter
    split at hafter
    · next hget =>
      split at hafter
      · next hlater => exact .again attempt hlater hbefore hafter
      · next hfirst =>
        obtain rfl : attempt = 0 := by omega
        exact .skipped ⟨hbefore, hget⟩ hafter
    · exact .returned _ (by simp) hafter
    · next existing hget =>
      split at hafter
      · exact .returned _ (by simp) hafter
      · next hother => exact .passed attempt ⟨hbefore, existing, hget, by simpa using hother⟩ hafter
  | _ => cases h

theorem progress_returned {result : AllocatorResult} (hr : r.before = .inr result)
    (h : Progress libraries request run (.inr result)) :
    Progress libraries request (run ++ [r]) (.inr result) := by
  by_cases hresult : result = .failed .poolExhausted
  · subst hresult
    obtain ⟨bound, hbound, hpassed⟩ := h
    exact ⟨bound, hbound, hpassed.snoc (by simp [Probes, hr]) (by simp [FirstVanished, hr])⟩
  · exact progress_result hresult

/-- INTERNAL: one call keeps the account of the attempts. -/
theorem progress_step (hr : r = record (probeNext libraries) r.before r.input)
    (h : Progress libraries request run r.before) :
    Progress libraries request (run ++ [r]) r.after := by
  cases hplace : r.before with
  | inr result =>
    have hafter : r.after = .inr result := by
      rw [hr, record_after, hplace]
      rfl
    rw [hafter]
    exact progress_returned hplace (hplace ▸ h)
  | inl =>
    rw [hplace] at h
    cases probe_step hr hplace h with
    | started hbefore hafter =>
      rw [hafter]
      obtain rfl := Sum.inl.inj (hplace.symm.trans hbefore)
      exact progress_probe (h.2.snoc (by simp [Probes, hbefore]) (by simp [FirstVanished, hbefore]))
    | taken _ hbefore hafter =>
      rw [hafter]
      obtain rfl := Sum.inl.inj (hplace.symm.trans hbefore)
      exact ⟨rfl, h.2.1,
        h.2.2.snoc (probes_unique hbefore (Or.inl rfl)) (by simp [FirstVanished, hbefore])⟩
    | again _ _ hbefore hafter =>
      rw [hafter]
      obtain rfl := Sum.inl.inj (hplace.symm.trans hbefore)
      refine progress_probe (h.2.2.snoc (probes_unique hbefore (Or.inr rfl)) ?_)
      rintro ⟨hzero, -⟩
      simp [hbefore] at hzero
      omega
    | skipped hvanished hafter =>
      rw [hafter]
      obtain rfl := Sum.inl.inj (hplace.symm.trans hvanished.1)
      exact progress_probe
        (h.2.2.succ h.2.1 (probes_unique hvanished.1 (Or.inr rfl)) (Or.inr ⟨rfl, hvanished⟩))
    | passed _ hshows hafter =>
      rw [hafter]
      obtain rfl := Sum.inl.inj (hplace.symm.trans hshows.1)
      exact progress_probe
        (h.2.2.succ h.2.1 (probes_unique hshows.1 (Or.inr rfl)) (Or.inl hshows))
    | returned _ hresult hafter =>
      rw [hafter]
      exact progress_result hresult

end Steps

/-- **What an exhausted pool means.** For every safe pool, the attempts of a `Reserve` visit its
usable addresses; and if a call finds the pool exhausted, then the last answer about each usable
address has shown a reservation that is not this Pod's exactly if the GET of the first attempt has
not found its reservation gone. -/
theorem pool_exhausted_iff (libraries : AllocatorLibraries) (request : ReserveRequest)
    (answers : List (Snapshots AddressStore × ApiChoice)) :
    (request.pool.allocatable = true → VisitsUsable libraries request.podUID request.pool) ∧
    (final (probeNext libraries) (.inl (.reserve request)) answers = .inr (.failed .poolExhausted) →
      ((∀ attempt < request.pool.usable,
          LastShowsOther libraries request attempt (reserveRun libraries request answers)) ↔
        ∀ r ∈ reserveRun libraries request answers, ¬ FirstVanished libraries request r)) := by
  refine ⟨visitsUsable, fun hexhausted => ?_⟩
  obtain ⟨bound, hbound, hpassed⟩ : Progress libraries request (reserveRun libraries request answers)
      (.inr (.failed .poolExhausted)) := by
    rw [← hexhausted, ← endState_exec]
    refine (exec_linked _ _ _).history (fun m r _ _ hr h => progress_step hr h) ⟨rfl, ?_⟩
    exact ⟨by simp, by simp⟩
  constructor
  · intro hall r hr hvanished
    obtain ⟨-, hroom, hlast⟩ := hpassed.vanished r hr hvanished
    obtain ⟨q, ⟨-, existing, hfound, -⟩, -, hgone⟩ := (hall 0 hroom).agree hlast
      (fun a ha hkeeps => hkeeps (Or.inr ha.1)) (fun a ha hkeeps => hkeeps (Or.inr ha.1))
    rw [hgone] at hfound
    cases hfound
  · intro hnever attempt hattempt
    obtain ⟨pre, r, post, hrun, hevent, hpost⟩ := hpassed.each attempt (by omega)
    refine ⟨pre, r, post, hrun, hevent.resolve_right fun hvanished => ?_, hpost⟩
    exact hnever r (by rw [hrun]; simp) hvanished.2

/-! ## A first reservation that vanishes -/

/-- A store with a reservation of another Pod for each address of the pool. -/
def fullStore : AddressStore :=
  (List.range 5).foldl (fun store attempt => (store.create
    ((reserveFor "pod-a").lease plainLibraries attempt)).getD store) (.empty AddressLease.key)

/-- The first reservation is there for the CREATE and gone for the GET; the other four stay. -/
def vanishingAnswers : List (Snapshots AddressStore × ApiChoice) :=
  ([.empty AddressLease.key, fullStore, .empty AddressLease.key] ++
    List.replicate 8 fullStore).map fun store => (.start store, ⟨0, .answered⟩)

/-- **A free address in an exhausted pool**: the last answer about the first address was that nobody
has reserved it. -/
theorem exhausted_with_free_address :
    final (probeNext plainLibraries) (.inl (.reserve (reserveFor "pod-b"))) vanishingAnswers =
        .inr (.failed .poolExhausted) ∧
      (reserveFor "pod-b").pool.allocatable = true ∧
      ¬ LastShowsOther plainLibraries (reserveFor "pod-b") 0
        (reserveRun plainLibraries (reserveFor "pod-b") vanishingAnswers) := by
  refine ⟨by decide +kernel, by decide +kernel, ?_⟩
  have hgone : ∀ r ∈ reserveRun plainLibraries (reserveFor "pod-b") vanishingAnswers,
      r.before = .inl (.reserveGet (reserveFor "pod-b") 0) →
        (AddressAPI.get r.input.1 ((reserveFor "pod-b").lease plainLibraries 0).key
          r.input.2).toOption = none := by decide +kernel
  rintro ⟨pre, r, post, hrun, ⟨hbefore, existing, hget, -⟩, -⟩
  have hnone := hgone r (by rw [hrun]; simp) hbefore
  rw [hget] at hnone
  cases hnone

end Waycloak.Analysis
