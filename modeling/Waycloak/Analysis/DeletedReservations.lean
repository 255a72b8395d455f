import Mathlib.Algebra.Group.Int.Defs
import Waycloak.Interface.AllocationSteps
import Waycloak.Interface.ControllerSteps

/-!
# The reservations of a deleted lease

A cleanup that removes the finalizer should leave every reservation of the lease in
quarantine for the cleanup timeout. It quarantines at most one gateway's reservation: that
of the gateway the lease refers to, as the API shows it, and only if it does not show it
that of the gateway the reservation names.

`deletion_quarantines_iff` says exactly when that covers the reservations of the lease.
`recreated_gateway_leaves_reservation` is a cleanup that removes the finalizer and leaves
an active reservation behind.
-/

set_option autoImplicit false

namespace Waycloak.Analysis

open Waycloak.Model Waycloak.Interface Waycloak.Computation

variable {d : Digest} {leaseUID : ObjectUID} {gateway : VPNGateway} {until_ now : Time}
  {answers : CleanupAnswers} {store after : ReservationStore} {r : ProviderReservation}
variable {target : ProviderReservation}

/-! ## The deadline of a quarantine -/

/-- The deadline of a quarantine is stored in full: its seconds fit into the `int32` they are stored
in, and rounding them up makes up for the digits that the renewal loses. -/
def StoredInFull (until_ now : Time) : Prop :=
  until_ - now ≤ (2 ^ 31 - 1) * second ∧ now % 1000 ≤ (now - until_) % second

/-- INTERNAL: a quarantine lasts until the time it was asked for, exactly if that is stored in full.
SOURCE: portforward/allocation.go:158-161 -/
theorem quarantineSeconds_covers {until_ now : Int} (h : now < until_) :
    until_ ≤ now / 1000 * 1000 + quarantineSeconds until_ now * second ↔
      StoredInFull until_ now := by
  have hcovers : until_ ≤ now / 1000 * 1000 +
      (if Int.bmod ((until_ - now + 1000000000 - 1).tdiv 1000000000) (2 ^ 32) < 1 then 1
        else Int.bmod ((until_ - now + 1000000000 - 1).tdiv 1000000000) (2 ^ 32)) * 1000000000 ↔
      until_ - now ≤ (2 ^ 31 - 1) * 1000000000 ∧ now % 1000 ≤ (now - until_) % 1000000000 := by
    rw [Int.tdiv_eq_ediv_of_nonneg (by omega), Int.bmod_def]
    split <;> split <;> omega
  exact hcovers

/-! ## What `Quarantine` leaves behind -/

/-- The reservation, as the API keeps it, is in quarantine at least until then. -/
def QuarantinedUntil (until_ : Time) (r : ProviderReservation) : Prop :=
  r.stateLabel = .quarantine ∧
    ∃ deadline, r.serialized.deadline = some deadline ∧ until_ ≤ deadline

theorem quarantinedUntil_quarantined (h : now < until_) :
    QuarantinedUntil until_ (quarantined r until_ now) ↔ StoredInFull until_ now := by
  rw [← quarantineSeconds_covers h]
  constructor
  · rintro ⟨-, deadline, hdeadline, hcovers⟩
    cases hdeadline
    exact hcovers
  · intro hcovers
    exact ⟨rfl, _, rfl, hcovers⟩

theorem mergePatch_self (r : ProviderReservation) (now : Time) :
    mergePatch r (quarantined r until_ now) r = quarantined r until_ now := by
  simp only [mergePatch, quarantined, ProviderReservation.mk.injEq, true_and]
  exact ⟨ite_eq_right_iff.mpr id, ite_eq_right_iff.mpr id, ite_eq_right_iff.mpr id⟩

/-- INTERNAL: **what a successful `Quarantine` does**: nothing, if it finds no reservation, or it
quarantines the one it finds.
SOURCE: portforward/allocation.go:133-168 -/
theorem quarantineCall_ok
    (h : quarantineCall d leaseUID gateway until_ answers store = (none, after)) :
    answers.quarantineNow < until_ ∧
    ((quarantinable d leaseUID gateway store.entries = [] ∧ after = store) ∨
      ∃ target, quarantinable d leaseUID gateway store.entries = [target] ∧
        after = store.update target.key
          (mergePatch target (quarantined target until_ answers.quarantineNow)) (mergePatch_key _ _)) := by
  unfold quarantineCall at h
  by_cases hinvalid : leaseUID = "" ∨ gateway.uid = "" ∨ until_ ≤ answers.quarantineNow
  · simp [quarantineStep, hinvalid, QuarantineCall.result] at h
  have hfuture : answers.quarantineNow < until_ := by
    simp only [not_or] at hinvalid
    exact Int.not_le.mp hinvalid.2.2
  refine ⟨hfuture, ?_⟩
  cases hlist : answers.listFailure with
  | some err => simp [quarantineStep, hinvalid, hlist, QuarantineCall.result] at h
  | none =>
    cases hfound : quarantinable d leaseUID gateway store.entries with
    | nil =>
      simp [quarantineStep, hinvalid, hlist, hfound, QuarantineCall.result] at h
      exact Or.inl ⟨rfl, h.symm⟩
    | cons target rest =>
      cases rest with
      | cons => simp [quarantineStep, hinvalid, hlist, hfound, QuarantineCall.result] at h
      | nil =>
        refine Or.inr ⟨target, rfl, ?_⟩
        cases hpatch : answers.patchFailure with
        | some err =>
          simp [quarantineStep, hinvalid, hlist, hfound, hpatch, QuarantineCall.result] at h
        | none =>
          cases hstored : store.find target.key with
          | none =>
            simp [quarantineStep, hinvalid, hlist, hfound, hpatch, hstored,
              QuarantineCall.result] at h
          | some stored =>
            simp [quarantineStep, hinvalid, hlist, hfound, hpatch, hstored,
              QuarantineCall.result, Answer.stored, Answer.takesEffect] at h
            exact h.symm

theorem mem_quarantine (htarget : target ∈ store) :
    r ∈ store.update target.key (mergePatch target (quarantined target until_ now)) (mergePatch_key _ _) ↔
      r = quarantined target until_ now ∨ (r ∈ store ∧ r ≠ target) := by
  rw [KeyedStore.mem_update]
  constructor
  · rintro ⟨old, hold, rfl⟩
    split
    · next hkey =>
      rw [KeyedStore.eq_of_key_eq hold htarget hkey]
      exact Or.inl (mergePatch_self target now)
    · next hkey => exact Or.inr ⟨hold, fun h => hkey (congrArg _ h)⟩
  · rintro (rfl | ⟨hr, hne⟩)
    · exact ⟨target, htarget, by rw [if_pos rfl, mergePatch_self]⟩
    · refine ⟨r, hr, if_neg fun hkey => hne ?_⟩
      exact KeyedStore.eq_of_key_eq hr htarget hkey

/-! ## The deadline as it is stored -/

/-- INTERNAL: a renewal cut to microseconds and a duration rounded up to seconds end close to the
deadline they were made from.
SOURCE: portforward/allocation.go:156-163 -/
theorem quarantine_bounds {until_ now : Int} (hfuture : now < until_)
    (hfits : until_ - now ≤ (2 ^ 31 - 1) * second) :
    until_ - 1000 < now / 1000 * 1000 + quarantineSeconds until_ now * second ∧
      now / 1000 * 1000 + quarantineSeconds until_ now * second < until_ + second := by
  unfold quarantineSeconds second at *
  rw [Int.tdiv_eq_ediv_of_nonneg (by omega)]
  have hbmod : Int.bmod ((until_ - now + 1000000000 - 1) / 1000000000) (2 ^ 32) =
      (until_ - now + 1000000000 - 1) / 1000000000 := by
    apply Int.bmod_eq_of_le <;> omega
  simp only [hbmod]
  split <;> omega

/-- **The deadline of a quarantine is honoured to within rounding**: the reservation, as the API
keeps it, has not expired before the last microsecond, has expired a second after the deadline, and
stays expired.
SOURCE: portforward/allocation.go:133-168, 185-190 -/
theorem quarantine_deadline_honoured (d : Digest) (leaseUID : ObjectUID) (gateway : VPNGateway)
    (until_ : Time) (answers : CleanupAnswers) (store after : ReservationStore)
    (target : ProviderReservation)
    (hok : quarantineCall d leaseUID gateway until_ answers store = (none, after))
    (htarget : target ∈ quarantinable d leaseUID gateway store.entries)
    (hfits : until_ - answers.quarantineNow ≤ (2 ^ 31 - 1) * second) :
    ∃ stored ∈ after, stored.key = target.key ∧ stored.stateLabel = .quarantine ∧
      (∀ t, t < until_ - 1000 → stored.serialized.quarantineExpired t = false) ∧
      (∀ t, until_ + second ≤ t → stored.serialized.quarantineExpired t = true) ∧
      ∀ t later, t ≤ later → stored.serialized.quarantineExpired t = true →
        stored.serialized.quarantineExpired later = true := by
  obtain ⟨hfuture, ⟨hnone, -⟩ | ⟨only, hone, rfl⟩⟩ := quarantineCall_ok hok
  · rw [hnone] at htarget
    cases htarget
  obtain rfl : target = only := List.mem_singleton.mp (hone ▸ htarget)
  obtain ⟨hlow, hhigh⟩ := quarantine_bounds hfuture hfits
  have hstored : target ∈ store := KeyedStore.mem_entries.mp (List.mem_of_mem_filter htarget)
  refine ⟨quarantined target until_ answers.quarantineNow,
    (mem_quarantine hstored).mpr (Or.inl rfl), rfl, rfl, fun t ht => ?_, fun t ht => ?_,
    fun t later hle ht => ?_⟩
  · exact decide_eq_false (not_le.mpr (lt_trans ht hlow))
  · exact decide_eq_true (le_trans hhigh.le ht)
  · exact decide_eq_true (le_trans (of_decide_eq_true ht) hle)

/-! ## The cleanup -/

/-- The reservations that name the lease are kept, and in quarantine until then. -/
structure ReservationsKept (leaseUID : ObjectUID) (until_ : Time) (store after : ReservationStore) :
    Prop where
  quarantined : ∀ r ∈ after, r.leaseUIDAnnotation = leaseUID → QuarantinedUntil until_ r
  kept : ∀ r ∈ store, r.leaseUIDAnnotation = leaseUID →
    ∃ r' ∈ after, r'.key = r.key ∧ r'.leaseUIDAnnotation = leaseUID

theorem cleanup_removes {r : PortForwardLeaseReconciler} {runtime : Option Runtime} {api : ApiView}
    {lease : PortForwardLease} {deletedAt : Time}
    (h : (r.cleanup runtime (cleanupView d answers store lease api) lease deletedAt).write ≠ none) :
    (∃ err, PortForwardLeaseReconciler.cleanupGateway (cleanupView d answers store lease api) lease =
        .error err ∧ r.cleanupStore runtime d answers store api lease deletedAt = store) ∨
      ∃ gateway, PortForwardLeaseReconciler.cleanupGateway (cleanupView d answers store lease api)
          lease = .ok gateway ∧
        quarantineCall d lease.uid gateway (answers.now + r.cleanupTimeout) answers store =
          (none, r.cleanupStore runtime d answers store api lease deletedAt) := by
  unfold PortForwardLeaseReconciler.cleanup at h
  unfold PortForwardLeaseReconciler.cleanupStore
  dsimp only at h ⊢
  split at h
  · exact absurd rfl h
  next hfinalizer =>
  rw [if_neg hfinalizer]
  split at h
  · exact absurd rfl h
  next hdue =>
  rw [if_neg hdue]
  split at h
  · exact absurd rfl h
  next hquarantine =>
  unfold PortForwardLeaseReconciler.cleanupQuarantine at hquarantine
  cases hgateway : PortForwardLeaseReconciler.cleanupGateway (cleanupView d answers store lease api)
      lease with
  | error err => exact Or.inl ⟨err, rfl, rfl⟩
  | ok gateway =>
    refine Or.inr ⟨gateway, rfl, ?_⟩
    rw [hgateway] at hquarantine
    dsimp only at hquarantine
    split at hquarantine
    · cases hquarantine
    next hrefused =>
    replace hrefused : r.runtimeQuarantine runtime (cleanupView d answers store lease api) lease
      gateway (r.cleanupWithdrawal runtime (cleanupView d answers store lease api) lease).2 = none :=
      hrefused
    dsimp only
    rw [hrefused]
    exact Prod.ext hquarantine rfl

/-- The cleanup's `Quarantine` selects the reservation. -/
def Selected (d : Digest) (answers : CleanupAnswers) (store : ReservationStore) (api : ApiView)
    (lease : PortForwardLease) (r : ProviderReservation) : Prop :=
  ∃ gateway, PortForwardLeaseReconciler.cleanupGateway (cleanupView d answers store lease api) lease =
      .ok gateway ∧ r ∈ quarantinable d lease.uid gateway store.entries

theorem quarantinable_mem (h : r ∈ quarantinable d leaseUID gateway store.entries) :
    r ∈ store ∧ r.leaseUIDAnnotation = leaseUID := by
  obtain ⟨hr, hnames⟩ := List.mem_filter.mp h
  simp only [Bool.and_eq_true, beq_iff_eq] at hnames
  exact ⟨hr, hnames.2⟩

/-- INTERNAL: the reservations are kept by a cleanup that quarantines `target` exactly if every other
one of the lease is in quarantine already, and the deadline of `target` can be stored. -/
theorem reservationsKept_update (hfuture : now < until_) (htarget : target ∈ store)
    (hnames : target.leaseUIDAnnotation = leaseUID) :
    ReservationsKept leaseUID until_ store (store.update target.key
        (mergePatch target (quarantined target until_ now)) (mergePatch_key _ _)) ↔
      StoredInFull until_ now ∧
        ∀ r ∈ store, r.leaseUIDAnnotation = leaseUID → r ≠ target → QuarantinedUntil until_ r := by
  constructor
  · intro hkept
    refine ⟨?_, fun r hr hlease hne => ?_⟩
    · have hheld := hkept.quarantined _ ((mem_quarantine htarget).mpr (Or.inl rfl)) hnames
      exact (quarantinedUntil_quarantined hfuture).mp hheld
    · exact hkept.quarantined r ((mem_quarantine htarget).mpr (Or.inr ⟨hr, hne⟩)) hlease
  · rintro ⟨hfits, hothers⟩
    refine ⟨fun r hr hlease => ?_, fun r hr hlease => ?_⟩
    · obtain rfl | ⟨hold, hne⟩ := (mem_quarantine htarget).mp hr
      · exact (quarantinedUntil_quarantined hfuture).mpr hfits
      · exact hothers r hold hlease hne
    by_cases hsame : r = target
    · refine ⟨quarantined target until_ now, (mem_quarantine htarget).mpr (Or.inl rfl), ?_, hnames⟩
      rw [hsame]
      rfl
    · exact ⟨r, (mem_quarantine htarget).mpr (Or.inr ⟨hr, hsame⟩), rfl, hlease⟩

/-- **A cleanup that removes the finalizer has every reservation of the lease in quarantine
for the cleanup timeout exactly if its `Quarantine` selects each that is not in quarantine that long
already**, and the deadline is stored in full for the one it selects.
SOURCE: portforward/controller.go:384-440; portforward/allocation.go:52-78, 133-168 -/
theorem deletion_quarantines_iff (r : PortForwardLeaseReconciler) (runtime : Option Runtime)
    (d : Digest) (answers : CleanupAnswers) (store : ReservationStore) (api : ApiView)
    (lease : PortForwardLease) (deletedAt : Time)
    (hremoves : (r.cleanup runtime (cleanupView d answers store lease api) lease deletedAt).write ≠
      none) :
    ReservationsKept lease.uid (answers.now + r.cleanupTimeout) store
        (r.cleanupStore runtime d answers store api lease deletedAt) ↔
      ∀ reservation ∈ store, reservation.leaseUIDAnnotation = lease.uid →
        (Selected d answers store api lease reservation ∧
          StoredInFull (answers.now + r.cleanupTimeout) answers.quarantineNow) ∨
        (¬Selected d answers store api lease reservation ∧
          QuarantinedUntil (answers.now + r.cleanupTimeout) reservation) := by
  generalize hafter : r.cleanupStore runtime d answers store api lease deletedAt = after
  have hunchanged : ∀ until_, ReservationsKept lease.uid until_ store store ↔
      ∀ reservation ∈ store, reservation.leaseUIDAnnotation = lease.uid →
        QuarantinedUntil until_ reservation :=
    fun until_ => ⟨fun h => h.quarantined, fun h => ⟨h, fun r hr hlease => ⟨r, hr, rfl, hlease⟩⟩⟩
  obtain ⟨err, hgateway, hstore⟩ | ⟨gateway, hgateway, hcall⟩ := cleanup_removes hremoves
  · -- neither the gateway nor the reservation was found: nothing is quarantined
    have hselected : ∀ reservation, ¬Selected d answers store api lease reservation := by
      rintro reservation ⟨gateway, hfound, -⟩
      cases hgateway.symm.trans hfound
    rw [← hafter, hstore, hunchanged]
    simp [hselected]
  rw [hafter] at hcall
  have hselected : ∀ reservation, Selected d answers store api lease reservation ↔
      reservation ∈ quarantinable d lease.uid gateway store.entries := by
    intro reservation
    unfold Selected
    simp [hgateway]
  simp only [hselected]
  obtain ⟨hfuture, ⟨hnone, rfl⟩ | ⟨target, hone, rfl⟩⟩ := quarantineCall_ok hcall
  · simp [hnone, hunchanged]
  obtain ⟨htarget, hnames⟩ : target ∈ store ∧ target.leaseUIDAnnotation = lease.uid :=
    quarantinable_mem (by rw [hone]; exact List.mem_singleton_self target)
  rw [reservationsKept_update hfuture htarget hnames, hone]
  simp only [List.mem_singleton]
  constructor
  · rintro ⟨hfits, hothers⟩ reservation hreservation hlease
    by_cases hsame : reservation = target
    · exact Or.inl ⟨hsame, hfits⟩
    · exact Or.inr ⟨hsame, hothers reservation hreservation hlease hsame⟩
  · intro hall
    refine ⟨?_, fun reservation hreservation hlease hne => ?_⟩
    · obtain ⟨-, hfits⟩ | ⟨hother, -⟩ := hall target htarget hnames
      · exact hfits
      · exact absurd rfl hother
    · obtain ⟨hsame, -⟩ | ⟨-, hheld⟩ := hall reservation hreservation hlease
      · exact absurd hsame hne
      · exact hheld

/-! ## A gateway that is gone, and one that came back -/

/-- An active reservation of the sample lease, made for the gateway `gw`. -/
def sampleReservations : ReservationStore :=
  ⟨[desiredProviderReservation sampleDigest "lease" (sampleGateway "gw" true) 49152], by simp⟩

/-- A cleanup in which every request but the GET of the gateway succeeds. -/
def cleanupAnswers (gateway : Except String VPNGateway) : CleanupAnswers :=
  { gateway, recoverFailure := none, listFailure := none, patchFailure := none, patchApplied := true
    now := 5, quarantineNow := 5 }

theorem quarantine_deadline_honoured_sample :
    ∃ stored ∈ (quarantineCall sampleDigest "lease" (sampleGateway "gw" true) (2 * second + 7)
        (cleanupAnswers (.error "not found")) sampleReservations).2,
      stored.serialized.quarantineExpired (2 * second - 1000) = false ∧
      stored.serialized.quarantineExpired (3 * second + 7) = true := by
  obtain ⟨stored, hstored, -, -, hbefore, hafter, -⟩ := quarantine_deadline_honoured sampleDigest
    "lease" (sampleGateway "gw" true) (2 * second + 7) (cleanupAnswers (.error "not found"))
    sampleReservations _ _ (Prod.ext (by decide +kernel) rfl)
    (List.mem_of_mem_head? (by decide +kernel : _ = some
      (desiredProviderReservation sampleDigest "lease" (sampleGateway "gw" true) 49152)))
    (by decide)
  exact ⟨stored, hstored, hbefore _ (by decide), hafter _ (by decide)⟩

/-- A cleanup that does not find the gateway, and quarantines two microseconds after it began. -/
def goneAnswers : CleanupAnswers :=
  { cleanupAnswers (.error "not found") with quarantineNow := 2005 }

/-- The API of such a cleanup. -/
def cleanupApi : ApiView := sampleApi (sampleGateway "gw" true) [] 5

theorem deletion_quarantines_iff_gone :
    (sampleReconciler.cleanup (some (confirmingRuntime 5))
      (cleanupView sampleDigest goneAnswers sampleReservations
        (sampleLease none) cleanupApi) (sampleLease none) 2).write ≠ none ∧
    ReservationsKept "lease" (5 + sampleReconciler.cleanupTimeout) sampleReservations
      (sampleReconciler.cleanupStore (some (confirmingRuntime 5)) sampleDigest
        goneAnswers sampleReservations cleanupApi (sampleLease none) 2) := by
  have hremoves : (sampleReconciler.cleanup (some (confirmingRuntime 5))
      (cleanupView sampleDigest goneAnswers sampleReservations
        (sampleLease none) cleanupApi) (sampleLease none) 2).write ≠ none := by decide +kernel
  refine ⟨hremoves, (deletion_quarantines_iff sampleReconciler (some (confirmingRuntime 5)) sampleDigest
    goneAnswers sampleReservations cleanupApi (sampleLease none) 2
    hremoves).mpr ?_⟩
  intro reservation hreservation _
  rw [List.mem_singleton.mp hreservation]
  exact Or.inl ⟨⟨_, rfl, by decide +kernel⟩, by unfold StoredInFull; decide⟩

/-- The gateway was recreated with another UID: the finalizer is removed, and the reservation stays
active. -/
theorem recreated_gateway_leaves_reservation :
    (sampleReconciler.cleanup (some (confirmingRuntime 5))
      (cleanupView sampleDigest (cleanupAnswers (.ok (sampleGateway "new" true))) sampleReservations
        (sampleLease none) cleanupApi) (sampleLease none) 2).write = some (.finalizers []) ∧
    (sampleReconciler.cleanupStore (some (confirmingRuntime 5)) sampleDigest
      (cleanupAnswers (.ok (sampleGateway "new" true))) sampleReservations cleanupApi
      (sampleLease none) 2).entries =
      [desiredProviderReservation sampleDigest "lease" (sampleGateway "gw" true) 49152] := by
  decide +kernel

end Waycloak.Analysis
