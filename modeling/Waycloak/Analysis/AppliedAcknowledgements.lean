import Waycloak.Computation.Histories
import Waycloak.Interface.LeaseSlots

/-!
# An acknowledgement means applied and observed

A delivery is acknowledged on three paths: after it was applied and observed, from the state a
recent delivery left (`acknowledged`), and by renewing it (`renewing`). The last two rely on the
time stamps and the Pod of the state that is kept. `Supported` says what these must stand for:
the last Apply of the lease was the one the record asks for and succeeded, and the Pod has
observed it since.

A withdrawal breaks this between its own Apply and the deletion of the state. When it fails or is
cut off in between (`interrupted`), the state is still there and the next delivery is
acknowledged from it, although the application listens on its backend port again
(`acknowledged_after_restore`). In every run in which no withdrawal of an applied delivery is
interrupted, an acknowledgement means what it says (`acknowledged_applied_and_observed`).
-/

set_option autoImplicit false

namespace Waycloak.Analysis

open Waycloak.Computation Waycloak.Model Waycloak.Interface

variable {p q : AdapterPoint} {r : AdapterRecord} {state : AdapterState} {x : LeaseSlot}
  {filed kept : Option AdapterState} {record : AdapterLeaseRecord} {l : List AdapterRecord}
variable {record' : AdapterLeaseRecord} {podUID leaseUID : ObjectUID}
  {intent : AdapterWithdrawalIntent} {y : LeaseSlot} {o : AdapterOutput}

/-- The step is an Apply for the lease. -/
def AppliesFor (leaseUID : ObjectUID) (r : AdapterRecord) : Prop :=
  ∃ address port succeeded, r.output.effect = some (.apply leaseUID address port succeeded)

/-- The step is a successful Apply of the target port of the record. -/
def AppliesTarget (record : AdapterLeaseRecord) (r : AdapterRecord) : Prop :=
  r.output.effect =
    some (.apply record.leaseUID record.applicationAddress record.targetPort true)

/-- The step is a successful Observe of the target port of the record, by the Pod. -/
def ObservesTarget (record : AdapterLeaseRecord) (podUID : ObjectUID) (r : AdapterRecord) : Prop :=
  r.output.effect =
    some (.observe record.leaseUID record.applicationAddress record.targetPort podUID true)

/-- A withdrawal of a delivery that has been applied fails, or is cut off, after it has issued its
own Apply. -/
def interrupted (h : AdapterHandler) (leaseUID : ObjectUID) (r : AdapterRecord) : Bool :=
  match (slot h leaseUID r.before).point, r.input with
  | some (.restoring intent state), .answer a =>
    decide (Touched state) && !a.succeeded && !intent.applicationEndpointRetired
  | some (.confirming intent state), .answer a =>
    decide (Touched state) && !a.succeeded && a.deadline && !intent.applicationEndpointRetired
  | some (.forgetting _ state), .answer a => decide (Touched state) && !h.persists a
  | some (.confirming _ state), .restart _ | some (.forgetting _ state), .restart _ =>
    decide (Touched state)
  | _, _ => false

/-! ## What a state stands for -/

/-- The last Apply of the lease was the one of the record, and it succeeded. -/
def LastApplied (l : List AdapterRecord) (record : AdapterLeaseRecord) : Prop :=
  Since (fun r => ¬ AppliesFor record.leaseUID r) (AppliesTarget record) l

/-- The Pod has observed the target port of the record, and nothing was applied since. -/
def LastObserved (l : List AdapterRecord) (record : AdapterLeaseRecord) (podUID : ObjectUID) :
    Prop :=
  Since (fun r => ¬ AppliesFor record.leaseUID r) (ObservesTarget record podUID) l

/-- What the time stamps and the Pod of a state stand for. -/
structure Supported (l : List AdapterRecord) (state : AdapterState) : Prop where
  applied : Touched state → LastApplied l state.record
  observed : state.adapterPodUID ≠ "" → LastObserved l state.record state.adapterPodUID

/-- The same of a state that may be missing; its record names the lease. -/
def SupportedAt (l : List AdapterRecord) (leaseUID : ObjectUID) (state : Option AdapterState) :
    Prop :=
  ∀ st, state = some st → st.record.leaseUID = leaseUID ∧ Supported l st

section Congr

variable (hlease : record.leaseUID = record'.leaseUID)
  (haddress : record.applicationAddress = record'.applicationAddress)
  (hport : record.targetPort = record'.targetPort)

include hlease haddress hport

theorem lastApplied_congr (h : LastApplied l record') : LastApplied l record := by
  unfold LastApplied AppliesTarget
  rw [hlease, haddress, hport]
  exact h

theorem lastObserved_congr (h : LastObserved l record' podUID) : LastObserved l record podUID := by
  unfold LastObserved ObservesTarget
  rw [hlease, haddress, hport]
  exact h

end Congr

theorem Supported.same {old : AdapterState}
    (hidentity : sameApplicationIdentity record old.record = true) (h : Supported l old)
    {new : AdapterState} (hrecord : new.record = record) (htouched : Touched new → Touched old)
    (hpod : new.adapterPodUID ≠ "" → new.adapterPodUID = old.adapterPodUID) : Supported l new := by
  obtain ⟨hlease, -, -, -, -, hport, haddress, -⟩ := sameApplicationIdentity_iff.mp hidentity
  subst hrecord
  refine ⟨fun htouch => ?_, fun hpodUID => ?_⟩
  · exact lastApplied_congr hlease haddress hport (h.applied (htouched htouch))
  · have hold := hpod hpodUID
    rw [hold] at hpodUID ⊢
    exact lastObserved_congr hlease haddress hport (h.observed hpodUID)

theorem supported_untouched (huntouched : ¬ Touched state) : Supported l state :=
  ⟨fun htouched => absurd htouched huntouched, fun hpod => absurd (Or.inr hpod) huntouched⟩

theorem SupportedAt.snoc {state : Option AdapterState} (h : SupportedAt l leaseUID state)
    (hr : ¬ AppliesFor leaseUID r) : SupportedAt (l ++ [r]) leaseUID state := by
  intro st hst
  obtain ⟨rfl, hsupported⟩ := h st hst
  exact ⟨rfl, fun htouched => (hsupported.applied htouched).snoc hr,
    fun hpod => (hsupported.observed hpod).snoc hr⟩

theorem supportedAt_none (l : List AdapterRecord) (leaseUID : ObjectUID) :
    SupportedAt l leaseUID none := by
  intro st hst
  cases hst

/-! ## The invariant -/

/-- The withdrawal of an applied delivery has issued its Apply and is not over yet. -/
def Loose (x : LeaseSlot) : Prop :=
  ∃ intent state, Touched state ∧
    (x.point = some (.confirming intent state) ∨ x.point = some (.forgetting intent state))

/-- **What the states of a lease stand for**, along a run. -/
structure Justified (l : List AdapterRecord) (leaseUID : ObjectUID) (x : LeaseSlot) : Prop where
  kept : ¬ Loose x → SupportedAt l leaseUID x.kept
  filed : ¬ Loose x → SupportedAt l leaseUID x.filed
  fallback : ¬ Loose x → ∀ p, x.point = some p → SupportedAt l leaseUID p.fallback
  applied : ∀ pending, x.point = some (.recording pending) ∨ x.point = some (.observing pending) →
    LastApplied l pending.record

section Steps

variable {h : AdapterHandler}

theorem justified_idle (hkept : SupportedAt l leaseUID kept)
    (hfiled : SupportedAt l leaseUID filed) : Justified l leaseUID ⟨kept, filed, none⟩ where
  kept := fun _ => hkept
  filed := fun _ => hfiled
  fallback := by
    intro _ p hp
    cases hp
  applied := by rintro pending (hp | hp) <;> cases hp

theorem not_loose_idle : ¬ Loose ⟨kept, filed, none⟩ := by
  rintro ⟨intent, state, -, hp | hp⟩ <;> cases hp

theorem justified_running
    (hkept : SupportedAt l leaseUID kept) (hfiled : SupportedAt l leaseUID filed)
    (hfallback : SupportedAt l leaseUID p.fallback)
    (happlied : ∀ pending, p = .recording pending ∨ p = .observing pending →
      LastApplied l pending.record) : Justified l leaseUID ⟨kept, filed, some p⟩ where
  kept := fun _ => hkept
  filed := fun _ => hfiled
  fallback := by
    intro _ q hq
    cases hq
    exact hfallback
  applied := by
    rintro pending (hp | hp)
    · exact happlied pending (Or.inl (Option.some.inj hp))
    · exact happlied pending (Or.inr (Option.some.inj hp))

theorem justified_snoc (horderly : Orderly h leaseUID podUID x) (hj : Justified l leaseUID x)
    (hr : ¬ AppliesFor leaseUID r) :
    Justified (l ++ [r]) leaseUID x where
  kept := fun hloose => (hj.kept hloose).snoc hr
  filed := fun hloose => (hj.filed hloose).snoc hr
  fallback := fun hloose p hp => (hj.fallback hloose p hp).snoc hr
  applied := by
    intro pending hp
    have hkeyed : pending.record.leaseUID = leaseUID := by
      rcases hp with hp | hp
      · exact (horderly.running _ hp).2.lease
      · exact (horderly.running _ hp).2.lease
    refine Since.snoc (hj.applied pending hp) ?_
    rw [hkeyed]
    exact hr

theorem not_appliesFor_of_foreign (hforeign : Foreign leaseUID r.output) :
    ¬ AppliesFor leaseUID r := by
  rintro ⟨address, port, succeeded, heffect⟩
  exact hforeign.effect (by rw [heffect]; rfl)

theorem SupportedAt.flushed (hkept : SupportedAt l leaseUID kept) :
    SupportedAt l leaseUID (flushed h kept) := by
  unfold Interface.flushed
  split
  · exact hkept
  · exact supportedAt_none l leaseUID

/-- INTERNAL: when memory falls back to a state nothing was applied under, neither it nor the file
stands for anything. -/
theorem supportedAt_untouched (horderly : Orderly h leaseUID podUID ⟨p.held, filed, some p⟩)
    (huntouched : ∀ state, p.fallback = some state → ¬ Touched state) :
    SupportedAt l leaseUID p.fallback ∧ SupportedAt l leaseUID filed := by
  obtain ⟨-, hat⟩ := horderly.running p rfl
  have hfallback : SupportedAt l leaseUID p.fallback := by
    intro state hstate
    rw [← hat.lease]
    exact ⟨fallback_leaseUID hat.sound hstate, supported_untouched (huntouched state hstate)⟩
  refine ⟨hfallback, fun f hf => ?_⟩
  cases hdurable : h.durable with
  | false =>
    have hnone : filed = none := horderly.volatile hdurable
    rw [hnone] at hf
    cases hf
  | true =>
    have hlags : Trails filed p.fallback := hat.lags hdurable
    obtain ⟨state, hstate, hsame⟩ := hlags.memory hf
    refine ⟨by rw [← hsame]; exact (hfallback state hstate).1, supported_untouched ?_⟩
    intro htouched
    obtain ⟨m, hm, hmtouched⟩ := hlags.touched f hf htouched
    exact huntouched m hm hmtouched

/-- INTERNAL: an uninterrupted step is not a restart in the middle of a withdrawal of an applied
delivery. -/
theorem not_loose_restart (hx : slot h leaseUID r.before = x)
    (huninterrupted : interrupted h leaseUID r = false)
    (hrestart : ∃ podUID, r.input = .restart podUID) : ¬ Loose x := by
  obtain ⟨restarted, hinput⟩ := hrestart
  unfold interrupted at huninterrupted
  rw [hx, hinput] at huninterrupted
  rintro ⟨intent, state, htouched, hp | hp⟩
  · simp [hp, htouched] at huninterrupted
  · simp [hp, htouched] at huninterrupted

theorem untouched_failed (hx : slot h leaseUID r.before = x) (hp : x.point = some p)
    (huninterrupted : interrupted h leaseUID r = false)
    (hfails : ∃ a, r.input = .answer a ∧ Fails h a p) (intent : AdapterWithdrawalIntent)
    (state : AdapterState)
    (hwithdrawing : p = .restoring intent state ∨ p = .confirming intent state ∨
      p = .forgetting intent state) : ¬ Touched state := by
  obtain ⟨a, hinput, hfails⟩ := hfails
  intro htouched
  unfold interrupted at huninterrupted
  rw [hx, hinput, hp] at huninterrupted
  rcases hwithdrawing with rfl | rfl | rfl
  · simp [htouched, hfails.1, hfails.2] at huninterrupted
  · simp [htouched, hfails.1, hfails.2.1, hfails.2.2] at huninterrupted
  · have hpersists : h.persists a = false := hfails
    simp [htouched, hpersists] at huninterrupted

theorem justified_restored
    (horderly : Orderly h leaseUID podUID ⟨some state, filed, some (.restoring intent state)⟩)
    (hq : q = .confirming intent state ∨ q = .forgetting intent state) (hkept : kept = q.held) :
    Justified l leaseUID ⟨kept, filed, some q⟩ := by
  by_cases htouched : Touched state
  · have hloose : Loose ⟨kept, filed, some q⟩ := by
      refine ⟨intent, state, htouched, ?_⟩
      rcases hq with rfl | rfl
      · exact Or.inl rfl
      · exact Or.inr rfl
    refine ⟨fun hno => absurd hloose hno, fun hno => absurd hloose hno,
      fun hno => absurd hloose hno, ?_⟩
    rintro pending (hp | hp) <;> rcases hq with rfl | rfl <;> cases hp
  · have huntouched : ∀ state', (AdapterPoint.restoring intent state).fallback = some state' →
        ¬ Touched state' := by
      intro state' hstate'
      cases hstate'
      exact htouched
    obtain ⟨hfallback, hfiled⟩ := supportedAt_untouched (l := l) horderly huntouched
    subst hkept
    rcases hq with rfl | rfl
    · refine justified_running hfallback hfiled hfallback ?_
      rintro pending (hp | hp) <;> cases hp
    · refine justified_running (supportedAt_none l leaseUID) hfiled hfallback ?_
      rintro pending (hp | hp) <;> cases hp

theorem justified_confirmed
    (hj : Justified l leaseUID ⟨some state, filed, some (.confirming intent state)⟩) :
    Justified l leaseUID ⟨none, filed, some (.forgetting intent state)⟩ := by
  have hloose : Loose ⟨some state, filed, some (.confirming intent state)⟩ →
      Loose ⟨none, filed, some (.forgetting intent state)⟩ := by
    rintro ⟨intent', state', htouched, hp | hp⟩
    · cases hp
      exact ⟨intent, state, htouched, Or.inr rfl⟩
    · cases hp
  refine ⟨fun _ => supportedAt_none l leaseUID, fun hno => hj.filed (mt hloose hno),
    fun hno p hp => ?_, ?_⟩
  · cases hp
    exact hj.fallback (mt hloose hno) (.confirming intent state) rfl
  · rintro pending (hp | hp) <;> cases hp

section Running

variable (horderly : Orderly h leaseUID podUID ⟨p.held, filed, some p⟩)
  (hj : Justified l leaseUID ⟨p.held, filed, some p⟩)

include horderly hj

theorem justified_onward {succeeded : Bool} (honward : Onward podUID p succeeded q)
    (heffect : r.output.effect = some (call podUID succeeded p)) :
    Justified (l ++ [r]) leaseUID ⟨q.held, filed, some q⟩ := by
  have hat := (horderly.running p rfl).2
  have hsnoc (hquiet : ∀ address port ok,
      some (call podUID succeeded p) ≠ some (.apply leaseUID address port ok)) :
      Justified (l ++ [r]) leaseUID ⟨p.held, filed, some p⟩ := by
    refine justified_snoc horderly hj ?_
    rintro ⟨address, port, ok, hno⟩
    exact hquiet address port ok (heffect.symm.trans hno)
  cases honward with
  | applied pending now =>
    have hfresh : ¬ Touched pending := hat.sound
    have huntouched : ∀ state, (AdapterPoint.applying pending).fallback = some state →
        ¬ Touched state := by
      intro state hstate
      cases hstate
      exact hfresh
    have hlast : LastApplied (l ++ [r]) pending.record := since_last heffect
    have hsupported : SupportedAt (l ++ [r]) leaseUID
        (some { pending with appliedAt := now }) := by
      intro state hstate
      cases hstate
      exact ⟨hat.lease, fun _ => hlast, fun hpod => absurd (Or.inr hpod) hfresh⟩
    have hfiled := (supportedAt_untouched (l := l ++ [r]) horderly huntouched).2
    refine justified_running hsupported hfiled hsupported ?_
    rintro pending' (hp | hp)
    · cases hp
      exact hlast
    · cases hp
  | observed pending now =>
    have hj' := hsnoc nofun
    have hnotLoose : ¬ Loose
        ⟨(AdapterPoint.observing pending).held, filed, some (.observing pending)⟩ := by
      rintro ⟨intent, state, -, hp | hp⟩ <;> cases hp
    have hlast := hj'.applied pending (Or.inr rfl)
    have hsupported : SupportedAt (l ++ [r]) leaseUID
        (some { pending with observedAt := now, adapterPodUID := podUID }) := by
      intro state hstate
      cases hstate
      exact ⟨hat.lease, fun _ => hlast, fun _ => since_last heffect⟩
    refine justified_running hsupported (hj'.filed hnotLoose) hsupported ?_
    rintro pending' (hp | hp) <;> cases hp
  | restored => exact justified_restored horderly (Or.inl rfl) rfl
  | confirmed => exact justified_confirmed (hsnoc nofun)
  | excused _ _ _ excused =>
    obtain ⟨rfl | rfl, -⟩ := excused
    · exact justified_restored horderly (Or.inr rfl) rfl
    · exact justified_confirmed (hsnoc nofun)

theorem justified_saved (hsaved : Saved p q) :
    Justified l leaseUID ⟨q.held, flushed h q.held, some q⟩ := by
  obtain ⟨hheld, hfallback⟩ := saved_held hsaved
  have hnotLoose : ¬ Loose ⟨p.held, filed, some p⟩ := by
    rintro ⟨intent, state, -, hp | hp⟩ <;> cases hp <;> cases hsaved
  have hkept : SupportedAt l leaseUID q.held := by
    rw [hheld]
    exact hj.kept hnotLoose
  have happlied : ∀ pending, q = .recording pending ∨ q = .observing pending →
      LastApplied l pending.record := by
    rintro pending (rfl | rfl)
    · cases hsaved
    cases hsaved with
    | observing _ previous =>
      have hintends : Intends pending previous false := (horderly.running _ rfl).2.sound
      exact (hkept pending rfl).2.applied (Or.inl (hintends.kept rfl).1)
    | recorded _ => exact hj.applied pending (Or.inl rfl)
  refine justified_running hkept hkept.flushed ?_ happlied
  rw [hfallback, ← hheld]
  exact hkept

theorem justified_failed (hx : slot h leaseUID r.before = ⟨p.held, filed, some p⟩)
    (huninterrupted : interrupted h leaseUID r = false)
    (hfails : ∃ a, r.input = .answer a ∧ Fails h a p)
    (heffect : r.output.effect = some (call podUID false p)) :
    Justified (l ++ [r]) leaseUID ⟨p.fallback, filed, none⟩ := by
  have huntouched := untouched_failed hx rfl huninterrupted hfails
  have hnotLoose : ¬ Loose ⟨p.held, filed, some p⟩ := by
    rintro ⟨intent, state, htouched, hp | hp⟩
    · exact huntouched intent state (Or.inr (Or.inl (Option.some.inj hp))) htouched
    · exact huntouched intent state (Or.inr (Or.inr (Option.some.inj hp))) htouched
  have hfresh : (∃ pending, p = .applying pending) ∨ (∃ intent state, p = .restoring intent state) →
      ∀ state, p.fallback = some state → ¬ Touched state := by
    rintro (⟨pending, rfl⟩ | ⟨intent, state, rfl⟩) state' hstate'
    · cases hstate'
      exact (horderly.running _ rfl).2.sound
    · cases hstate'
      exact huntouched intent state (Or.inl rfl)
  by_cases happlies :
      (∃ pending, p = .applying pending) ∨ ∃ intent state, p = .restoring intent state
  · obtain ⟨hfallback, hfiled⟩ := supportedAt_untouched (l := l ++ [r]) horderly (hfresh happlies)
    exact justified_idle hfallback hfiled
  have hquiet : ¬ AppliesFor leaseUID r := by
    rintro ⟨address, port, ok, hno⟩
    rw [heffect] at hno
    cases p with
    | applying pending => exact happlies (Or.inl ⟨pending, rfl⟩)
    | restoring intent state => exact happlies (Or.inr ⟨intent, state, rfl⟩)
    | _ => cases hno
  have hj' := justified_snoc horderly hj hquiet
  exact justified_idle (hj'.fallback hnotLoose p rfl) (hj'.filed hnotLoose)

end Running

/-- INTERNAL: **one step** keeps what the states of the lease stand for. -/
theorem justified_step (hx : slot h leaseUID r.before = x)
    (huninterrupted : interrupted h leaseUID r = false) (horderly : Orderly h leaseUID podUID x)
    (ho : r.output = o) (hstep : SlotStep h leaseUID podUID r.input x y o)
    (hj : Justified l leaseUID x) : Justified (l ++ [r]) leaseUID y := by
  -- every step but those of `failed` and `onward` leaves the application alone
  have hquiet : (∀ address port ok, o.effect ≠ some (.apply leaseUID address port ok)) →
      Justified (l ++ [r]) leaseUID x := by
    intro hno
    apply justified_snoc horderly hj
    rintro ⟨address, port, ok, heffect⟩
    rw [ho] at heffect
    exact hno address port ok heffect
  cases hstep with
  | still _ _ foreign =>
    apply justified_snoc horderly hj
    rw [← ho] at foreign
    exact not_appliesFor_of_foreign foreign
  | flushed kept filed _ foreign =>
    rw [← ho] at foreign
    have hj' := justified_snoc horderly hj (not_appliesFor_of_foreign foreign)
    have hkept := hj'.kept not_loose_idle
    exact justified_idle hkept hkept.flushed
  | restarted _ restarts =>
    have hnotLoose : ¬ Loose x := not_loose_restart hx huninterrupted restarts
    have hfiled := (hquiet (by simp)).filed hnotLoose
    exact justified_idle hfiled hfiled
  | renewing _ previous _ filed lease renews =>
    have hj' := hquiet (by simp)
    obtain ⟨hkeyed, hsupported⟩ := hj'.kept not_loose_idle previous rfl
    refine justified_running ?_ (hj'.filed not_loose_idle) (hj'.kept not_loose_idle) ?_
    · intro state hstate
      cases hstate
      exact ⟨lease, hsupported.same renews.identity rfl id (fun _ => rfl)⟩
    · rintro pending (hp | hp) <;> cases hp
  | acknowledged => exact hquiet (by simp)
  | intending _ _ filed needsApply lease intends =>
    have hj' := hquiet (by simp)
    refine justified_running ?_ (hj'.filed not_loose_idle) (hj'.kept not_loose_idle) ?_
    · intro state hstate
      cases hstate
      refine ⟨lease, ?_⟩
      cases needsApply with
      | true =>
        apply supported_untouched
        simp [Touched, intends.fresh rfl, intends.unobserved]
      | false =>
        obtain ⟨happlied, old, hold, hidentity, hsame⟩ := intends.kept rfl
        obtain ⟨-, hsupported⟩ := hj'.kept not_loose_idle old hold
        refine hsupported.same hidentity rfl (fun _ => ?_) (fun hpod => ?_)
        · exact Or.inl (by rw [← hsame]; exact happlied)
        · exact absurd intends.unobserved hpod
    · rintro pending' (hp | hp) <;> cases hp
  | withdrawn => exact hquiet (by simp)
  | restoring _ _ filed =>
    have hj' := hquiet (by simp)
    refine justified_running (hj'.kept not_loose_idle) (hj'.filed not_loose_idle)
      (hj'.kept not_loose_idle) ?_
    rintro pending (hp | hp) <;> cases hp
  | failed _ _ _ fails => exact justified_failed horderly hj hx huninterrupted fails (by rw [ho])
  | retried _ _ _ observes =>
    apply hquiet
    rintro address port ok hno
    rcases observes with ⟨pending, rfl⟩ | ⟨intent, state, rfl⟩ <;> cases hno
  | onward _ _ _ _ _ onward => exact justified_onward horderly hj onward (by rw [ho])
  | saved _ _ _ _ saved => exact justified_saved horderly (hquiet (by simp)) saved
  | answered p _ _ _ concludes =>
    have hj' := hquiet (by simp)
    have hkept : SupportedAt (l ++ [r]) leaseUID p.held := by
      cases concludes with
      | renewed | concluded =>
        apply hj'.kept
        rintro ⟨intent, state, -, hp | hp⟩ <;> cases hp
      | forgotten => exact supportedAt_none _ _
    exact justified_idle hkept hkept.flushed

/-- INTERNAL: **a whole run** without interrupted withdrawals keeps what the states of the lease
stand for. -/
theorem justified_run {start : ObjectUID} {inputs : List AdapterInput}
    {pre post : List AdapterRecord}
    (hrun : exec h.next (AdapterProcess.start start) inputs = pre ++ post)
    (huninterrupted : ∀ q ∈ pre, interrupted h leaseUID q = false) :
    Justified pre leaseUID (slot h leaseUID (endState (AdapterProcess.start start) pre)) := by
  have hlinked := exec_linked h.next (AdapterProcess.start start) inputs
  rw [hrun] at hlinked
  refine Linked.history (P := fun m s => Justified m leaseUID (slot h leaseUID s))
    ((linked_append _ _ _ _).mp hlinked).1 ?_ ?_
  · intro m r _ hr _ hj
    have hmem : r ∈ exec h.next (AdapterProcess.start start) inputs := by
      rw [hrun]
      exact List.mem_append_left _ hr
    obtain ⟨horderly, hstep⟩ := exec_slots hmem leaseUID
    exact justified_step rfl (huninterrupted r hr) horderly rfl hstep hj
  · rw [slot_start]
    exact justified_idle (supportedAt_none _ _) (supportedAt_none _ _)

theorem acknowledged_supported {input : AdapterInput} {observedAt : Time}
    (horderly : Orderly h leaseUID podUID x) (hstep : SlotStep h leaseUID podUID input x y o)
    (hj : Justified l leaseUID x) (hlease : record.leaseUID = leaseUID)
    (hresponse : o.response = some (.acknowledged record observedAt)) :
    LastApplied l record ∧ LastObserved l record podUID := by
  -- a state the acknowledging Pod has observed
  have hgiven : ∀ previous, Supported l previous → podUID ≠ "" →
      sameApplicationIdentity record previous.record = true → previous.adapterPodUID = podUID →
      LastApplied l record ∧ LastObserved l record podUID := by
    intro previous hsupported hnamed hidentity hpod
    obtain ⟨hsame, -, -, -, -, hport, haddress, -⟩ := sameApplicationIdentity_iff.mp hidentity
    have hpodUID : previous.adapterPodUID ≠ "" := by rw [hpod]; exact hnamed
    have hobserved := hsupported.observed hpodUID
    rw [hpod] at hobserved
    exact ⟨lastApplied_congr hsame haddress hport (hsupported.applied (Or.inr hpodUID)),
      lastObserved_congr hsame haddress hport hobserved⟩
  cases hstep with
  | still _ _ foreign | flushed _ _ _ foreign =>
    refine absurd ?_ foreign.response
    rw [hresponse, Option.bind_some, responseLease, hlease]
  | acknowledged _ previous _ _ _ named renews =>
    cases hresponse
    obtain ⟨-, hsupported⟩ := hj.kept not_loose_idle previous rfl
    exact hgiven previous hsupported named renews.identity renews.podUID
  | answered p _ _ _ concludes =>
    have hat := (horderly.running p rfl).2
    cases hresponse
    cases concludes with
    | renewed _ previous _ =>
      obtain ⟨hrenews, -⟩ : Renews podUID record previous ∧ previous.appliedAt ≠ 0 := hat.sound
      obtain ⟨-, hsupported⟩ := hj.fallback (by
        rintro ⟨intent, state, -, hp | hp⟩ <;> cases hp) _ rfl previous rfl
      exact hgiven previous hsupported hat.named hrenews.identity hrenews.podUID
    | concluded delivered =>
      have hpod : delivered.adapterPodUID = podUID := hat.sound
      obtain ⟨-, hsupported⟩ := hj.kept (by
        rintro ⟨intent, state, -, hp | hp⟩ <;> cases hp) delivered rfl
      have hpodUID : delivered.adapterPodUID ≠ "" := by rw [hpod]; exact hat.named
      have hobserved := hsupported.observed hpodUID
      rw [hpod] at hobserved
      exact ⟨hsupported.applied (Or.inr hpodUID), hobserved⟩
  | _ => cases hresponse

end Steps

/-- **An acknowledgement means applied and observed**, in every run in which no withdrawal of an
applied delivery of the lease is interrupted: the last Apply of the lease was the target port of
the acknowledged record and succeeded, and the Pod that acknowledges it has observed it since. -/
theorem acknowledged_applied_and_observed (h : AdapterHandler) (podUID : ObjectUID)
    (inputs : List AdapterInput) {pre post : List AdapterRecord} {r : AdapterRecord}
    {record : AdapterLeaseRecord} {observedAt : Time}
    (hrun : exec h.next (AdapterProcess.start podUID) inputs = pre ++ r :: post)
    (hacknowledged : r.output.response = some (.acknowledged record observedAt))
    (huninterrupted : ∀ q ∈ pre, interrupted h record.leaseUID q = false) :
    ∃ earlier applied later, pre = earlier ++ applied :: later ∧ AppliesTarget record applied ∧
      (∀ q ∈ later, ¬ AppliesFor record.leaseUID q) ∧
      ∃ q ∈ later, ObservesTarget record r.before.podUID q := by
  have hmem : r ∈ exec h.next (AdapterProcess.start podUID) inputs := by
    rw [hrun]
    simp
  have hjustified := justified_run hrun huninterrupted
  have hlinked := exec_linked h.next (AdapterProcess.start podUID) inputs
  rw [hrun] at hlinked
  have hbefore : r.before = endState (AdapterProcess.start podUID) pre := by
    rw [hlinked.cut.2.1]
    rfl
  rw [← hbefore] at hjustified
  obtain ⟨horderly, hstep⟩ := exec_slots hmem record.leaseUID
  obtain ⟨happlied, hobserved⟩ :=
    acknowledged_supported horderly hstep hjustified rfl hacknowledged
  refine Since.after happlied hobserved ?_ ?_
  · intro q hq hno
    exact hno ⟨_, _, _, hq⟩
  · rintro q hq ⟨address, port, ok, hno⟩
    rw [hq] at hno
    cases hno

/-! ## A withdrawal that fails half-way -/

def torrentHandler : AdapterHandler :=
  { namespaceName := "media", name := "qbittorrent", image := "adapter", stateFile := "state.json" }

/-- A delivery of the first generation that expires at `expiresAt`. -/
def torrentRecord (expiresAt : Time) : AdapterLeaseRecord :=
  { apiVersion := adapterAPIVersion, leaseNamespace := "media", leaseUID := "lease"
    handoffGeneration := 1, podUID := "pod", publicAddress := .v4 0xcb007107#32
    publicPort := 40000, expiresAt, targetPort := 40000, applicationAddress := .v4 0x0a000005#32
    backendPort := 6881, protocols := [.tcp, .udp] }

def torrentWithdrawal : AdapterWithdrawalIntent :=
  { apiVersion := adapterAPIVersion, leaseNamespace := "media", leaseUID := "lease"
    handoffGeneration := 1, podUID := "pod", applicationEndpointRetired := false }

def torrentDeliver (expiresAt : Time) : AdapterInput :=
  .request (.deliver "lease" (some (torrentRecord expiresAt))) true ⟨1, 1⟩

def torrentWithdraw : AdapterInput :=
  .request (.withdraw "lease" (some torrentWithdrawal)) true ⟨1, 1⟩

def succeeds : AdapterInput := .answer ⟨true, false, 1⟩

def failsFinally : AdapterInput := .answer ⟨false, true, 1⟩

/-- The delivery is acknowledged; its withdrawal restores the backend port but cannot observe it
and answers 503; the same delivery is then acknowledged from the state that is still there. -/
def restoredThenDelivered : List AdapterInput :=
  [torrentDeliver 100, succeeds, succeeds, succeeds, succeeds, succeeds,
    torrentWithdraw, succeeds, failsFinally, torrentDeliver 100]

/-- **The last Apply before an acknowledgement can be the one of a withdrawal**: it set the
backend port. -/
theorem acknowledged_after_restore :
    (exec torrentHandler.next (AdapterProcess.start "adapter") restoredThenDelivered).map
        (fun r => r.output) =
      [⟨none, none⟩, ⟨some (.persist true), none⟩,
        ⟨some (.apply "lease" (.v4 0x0a000005#32) 40000 true), none⟩,
        ⟨some (.persist true), none⟩,
        ⟨some (.observe "lease" (.v4 0x0a000005#32) 40000 "adapter" true), none⟩,
        ⟨some (.persist true), some (.acknowledged (torrentRecord 100) 1)⟩,
        ⟨none, none⟩,
        ⟨some (.apply "lease" (.v4 0x0a000005#32) 6881 true), none⟩,
        ⟨some (.observe "lease" (.v4 0x0a000005#32) 6881 "adapter" false),
          some (.rejected .serviceUnavailable)⟩,
        ⟨none, some (.acknowledged (torrentRecord 100) 1)⟩] := by
  decide +kernel

/-- A delivery is withdrawn, the adapter restarts, and the next delivery is renewed. -/
def renewedRun : List AdapterRecord :=
  exec torrentHandler.next (AdapterProcess.start "adapter")
    [torrentDeliver 100, succeeds, succeeds, succeeds, succeeds, succeeds,
      torrentWithdraw, succeeds, succeeds, succeeds, .restart "adapter",
      torrentDeliver 100, succeeds, succeeds, succeeds, succeeds, succeeds,
      torrentDeliver 200, succeeds]

theorem acknowledged_applied_and_observed_renewed :
    ∃ r, renewedRun[18]? = some r ∧
      r.output.response = some (.acknowledged (torrentRecord 200) 1) ∧
      ∃ earlier applied later, renewedRun.take 18 = earlier ++ applied :: later ∧
        AppliesTarget (torrentRecord 200) applied ∧
        (∀ q ∈ later, ¬ AppliesFor "lease" q) ∧
        ∃ q ∈ later, ObservesTarget (torrentRecord 200) r.before.podUID q := by
  have hlast : renewedRun[18]?.map (fun r => r.output.response) =
      some (some (.acknowledged (torrentRecord 200) 1)) := by decide +kernel
  obtain ⟨r, hr, hresponse⟩ := Option.map_eq_some_iff.mp hlast
  have huninterrupted : ∀ q ∈ renewedRun.take 18, interrupted torrentHandler "lease" q = false := by
    decide +kernel
  exact ⟨r, hr, hresponse, acknowledged_applied_and_observed torrentHandler "adapter" _
    (eq_take_append_cons_drop hr) hresponse huninterrupted⟩

end Waycloak.Analysis
