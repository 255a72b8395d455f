import Waycloak.Analysis.AdapterGenerations

/-!
# No application is forgotten

A delivery persists its intent before it touches the application, so that after a crash at any
point the adapter still knows which address it has to restore. `Owed` is what is owed to every
address the target port of a lease was applied to: its backend port has been applied and observed
since (`Restored`), its withdrawal was acknowledged for a retired endpoint (`RetiredAt`), or the
state of the lease still names it.

A withdrawal for a retired endpoint is acknowledged although the application could not be
restored, and the address is then forgotten: a later withdrawal of the lease is acknowledged
without it (`retired_endpoint_forgotten`). For every other address the adapter keeps its debt:
`withdrawn_restored`. The runs are those in which a generation of a lease is not taken up while
a lower one waits for its withdrawal (`handoffsInOrder`).
-/

set_option autoImplicit false

namespace Waycloak.Analysis

open Waycloak.Computation Waycloak.Model Waycloak.Interface

variable {r : AdapterRecord} {record : AdapterLeaseRecord} {x y : LeaseSlot} {address : Addr}
  {filed : Option AdapterState} {h : AdapterHandler}
variable {l m post : List AdapterRecord} {kept : Option AdapterState} {succeeded : Bool}
  {o : AdapterOutput}

/-! ## Addresses -/

/-- The step applies the target port of a delivery of the lease at the address. -/
def Forwards (h : AdapterHandler) (leaseUID : ObjectUID) (address : Addr) (r : AdapterRecord) :
    Prop :=
  ∃ pending succeeded, (slot h leaseUID r.before).point = some (.applying pending) ∧
    r.output.effect = some (.apply leaseUID address pending.record.targetPort succeeded)

/-- The step is the successful Apply of the backend port at the address by a withdrawal. -/
def RestoresAt (h : AdapterHandler) (leaseUID : ObjectUID) (address : Addr) (port : UInt16)
    (r : AdapterRecord) : Prop :=
  ∃ intent state, (slot h leaseUID r.before).point = some (.restoring intent state) ∧
    port = state.record.backendPort ∧ r.output.effect = some (.apply leaseUID address port true)

/-- The step is a successful Observe of the port at the address. -/
def ConfirmsAt (leaseUID : ObjectUID) (address : Addr) (port : UInt16) (r : AdapterRecord) : Prop :=
  ∃ podUID, r.output.effect = some (.observe leaseUID address port podUID true)

/-- The backend port has been applied at the address and then observed there. -/
def Restored (h : AdapterHandler) (leaseUID : ObjectUID) (address : Addr)
    (l : List AdapterRecord) : Prop :=
  ∃ port b c, [b, c].Sublist l ∧ RestoresAt h leaseUID address port b ∧
    ConfirmsAt leaseUID address port c

/-- The step acknowledges the withdrawal of the delivery at the address, whose endpoint is
retired. -/
def RetiredAt (h : AdapterHandler) (leaseUID : ObjectUID) (address : Addr) (r : AdapterRecord) :
    Prop :=
  ∃ intent state now, (slot h leaseUID r.before).point = some (.forgetting intent state) ∧
    intent.applicationEndpointRetired = true ∧ state.record.applicationAddress = address ∧
    r.output.response = some (.withdrawn intent now)

/-- The address needs nothing any more. -/
def Discharged (h : AdapterHandler) (leaseUID : ObjectUID) (address : Addr)
    (l : List AdapterRecord) : Prop :=
  Restored h leaseUID address l ∨ ∃ q ∈ l, RetiredAt h leaseUID address q

/-! ## Handoffs -/

/-- The delivery the step takes up: it gets as far as persisting a state of the lease. -/
def takenUp (h : AdapterHandler) (r : AdapterRecord) : Option AdapterLeaseRecord :=
  match r.input with
  | .request (.deliver leaseUID (some record)) _ _ =>
    if (slot h leaseUID r.before).point.isNone && (slot h leaseUID r.after).point.isSome then
      some record
    else none
  | _ => none

/-- The step takes up a higher generation of the lease of the record. -/
def supersedes (h : AdapterHandler) (record : AdapterLeaseRecord) (r : AdapterRecord) : Bool :=
  match takenUp h r with
  | some next =>
    next.leaseUID == record.leaseUID && decide (record.handoffGeneration < next.handoffGeneration)
  | none => false

/-- No higher generation is taken up before the withdrawal of the record is acknowledged. -/
def awaitsWithdrawal (h : AdapterHandler) (record : AdapterLeaseRecord) : List AdapterRecord → Bool
  | [] => true
  | r :: l =>
    decide (withdrawnGeneration record.leaseUID r = some record.handoffGeneration) ||
      (!supersedes h record r && awaitsWithdrawal h record l)

/-- A delivery of a higher generation of a lease is taken up only after the withdrawal of the
lower one was acknowledged. -/
def handoffsInOrder (h : AdapterHandler) : List AdapterRecord → Bool
  | [] => true
  | r :: l =>
    (match takenUp h r with
      | some record => awaitsWithdrawal h record l
      | none => true) && handoffsInOrder h l

theorem awaitsWithdrawal_append (hawaits : awaitsWithdrawal h record (l ++ m) = true) :
    awaitsWithdrawal h record l = true := by
  induction l with
  | nil => rfl
  | cons r l ih =>
    simp only [List.cons_append, awaitsWithdrawal, Bool.or_eq_true, Bool.and_eq_true] at hawaits ⊢
    rcases hawaits with hdone | ⟨hkeeps, hrest⟩
    · exact Or.inl hdone
    · exact Or.inr ⟨hkeeps, ih hrest⟩

theorem handoffsInOrder_append (horder : handoffsInOrder h (l ++ m) = true) :
    handoffsInOrder h l = true := by
  induction l with
  | nil => rfl
  | cons r l ih =>
    simp only [List.cons_append, handoffsInOrder, Bool.and_eq_true] at horder ⊢
    refine ⟨?_, ih horder.2⟩
    cases htaken : takenUp h r with
    | none => rfl
    | some =>
      have hawaits := horder.1
      rw [htaken] at hawaits
      exact awaitsWithdrawal_append hawaits

theorem withdrawn_between {mid : List AdapterRecord}
    (hawaits : awaitsWithdrawal h record (mid ++ [r]) = true)
    (hwaiting : ∀ q ∈ mid, withdrawnGeneration record.leaseUID q ≠ some record.handoffGeneration)
    (hr : withdrawnGeneration record.leaseUID r = none) : supersedes h record r = false := by
  induction mid with
  | nil => simpa [awaitsWithdrawal, hr] using hawaits
  | cons q mid ih =>
    have hq : ¬ withdrawnGeneration record.leaseUID q = some record.handoffGeneration :=
      hwaiting q (by simp)
    simp only [List.cons_append, awaitsWithdrawal, hq, decide_false, Bool.false_or,
      Bool.and_eq_true] at hawaits
    exact ih hawaits.2 (fun q' hq' => hwaiting q' (List.mem_cons_of_mem _ hq'))

theorem handoffsInOrder_awaits {pre : List AdapterRecord} {a : AdapterRecord}
    (horder : handoffsInOrder h (pre ++ a :: post) = true) (htaken : takenUp h a = some record) :
    awaitsWithdrawal h record post = true := by
  induction pre with
  | nil =>
    simp only [List.nil_append, handoffsInOrder, htaken, Bool.and_eq_true] at horder
    exact horder.1
  | cons q pre ih =>
    simp only [List.cons_append, handoffsInOrder, Bool.and_eq_true] at horder
    exact ih horder.2

/-! ## The invariant -/

/-- The state of the lease that a failing call, or a restart, comes back to. -/
def base (x : LeaseSlot) : Option AdapterState :=
  match x.point with
  | none => x.kept
  | some p => p.fallback

/-- A delivery of the generation was taken up and its withdrawal has not been acknowledged. -/
def Opened (h : AdapterHandler) (l : List AdapterRecord) (leaseUID : ObjectUID)
    (generation : Int) : Prop :=
  Since (fun q => withdrawnGeneration leaseUID q ≠ some generation)
    (fun q => ∃ record, takenUp h q = some record ∧ record.leaseUID = leaseUID ∧
      record.handoffGeneration = generation) l

/-- What is owed to an address, by what has happened since it was forwarded to. -/
def Owed (h : AdapterHandler) (leaseUID : ObjectUID) (x : LeaseSlot) (address : Addr)
    (post : List AdapterRecord) : Prop :=
  Discharged h leaseUID address post ∨
    (∃ state, base x = some state ∧ state.record.applicationAddress = address) ∧
      (∀ intent state, x.point = some (.confirming intent state) →
        ∃ b ∈ post, RestoresAt h leaseUID address state.record.backendPort b) ∧
      ∀ intent state, x.point = some (.forgetting intent state) →
        intent.applicationEndpointRetired = true

/-- **What the adapter owes for a lease**, along a run. -/
structure InDebt (h : AdapterHandler) (l : List AdapterRecord) (leaseUID : ObjectUID)
    (x : LeaseSlot) : Prop where
  opened : ∀ state, base x = some state → Opened h l leaseUID state.record.handoffGeneration
  held : ∀ p state, x.point = some p → p.held = some state →
    Opened h l leaseUID state.record.handoffGeneration
  address : ∀ p old new, x.point = some p → p.fallback = some old → p.held = some new →
    old.record.applicationAddress = new.record.applicationAddress
  owed : ∀ address, EachFollowed (Forwards h leaseUID address) (Owed h leaseUID x address) l

section Steps

variable {leaseUID podUID : ObjectUID}

theorem Discharged.snoc (hdischarged : Discharged h leaseUID address l) (r : AdapterRecord) :
    Discharged h leaseUID address (l ++ [r]) := by
  rcases hdischarged with ⟨port, b, c, hsub, hb, hc⟩ | ⟨q, hq, hretired⟩
  · exact Or.inl ⟨port, b, c, hsub.trans (List.sublist_append_left _ _), hb, hc⟩
  · exact Or.inr ⟨q, List.mem_append_left _ hq, hretired⟩

theorem Owed.snoc (howed : Owed h leaseUID x address l) (r : AdapterRecord) :
    Owed h leaseUID x address (l ++ [r]) := by
  rcases howed with hdischarged | ⟨hbase, hconfirming, hforgetting⟩
  · exact Or.inl (hdischarged.snoc r)
  · refine Or.inr ⟨hbase, fun intent state hp => ?_, hforgetting⟩
    obtain ⟨b, hb, hrestores⟩ := hconfirming intent state hp
    exact ⟨b, List.mem_append_left _ hb, hrestores⟩

/-- The request in progress, if any, has not reached the calls of a withdrawal. -/
def Forwarding (x : LeaseSlot) : Prop :=
  ∀ intent state, x.point ≠ some (.confirming intent state) ∧
    x.point ≠ some (.forgetting intent state)

theorem Owed.move (howed : Owed h leaseUID x address l)
    (hbase : ∀ old, base x = some old → ∃ new, base y = some new ∧
      new.record.applicationAddress = old.record.applicationAddress)
    (hforwarding : Forwarding y) (r : AdapterRecord) : Owed h leaseUID y address (l ++ [r]) := by
  rcases howed with hdischarged | ⟨⟨old, hold, haddress⟩, -, -⟩
  · exact Or.inl (hdischarged.snoc r)
  obtain ⟨new, hnew, hsame⟩ := hbase old hold
  refine Or.inr ⟨⟨new, hnew, by rw [hsame, haddress]⟩, fun intent state hp => ?_,
    fun intent state hp => ?_⟩
  · exact absurd hp (hforwarding intent state).1
  · exact absurd hp (hforwarding intent state).2

theorem Opened.snoc {generation : Int} (hopened : Opened h l leaseUID generation)
    (hr : withdrawnGeneration leaseUID r = none) : Opened h (l ++ [r]) leaseUID generation :=
  Since.snoc hopened (by rw [hr]; simp)

theorem withdrawnGeneration_foreign (hforeign : Foreign leaseUID r.output) :
    withdrawnGeneration leaseUID r = none := by
  unfold withdrawnGeneration
  have hresponse := hforeign.response
  split
  · next intent now heq =>
    rw [heq] at hresponse
    rw [if_neg (by simpa [responseLease] using hresponse)]
  · rfl

theorem inDebt_keep (ha : InDebt h l leaseUID x) (hr : withdrawnGeneration leaseUID r = none)
    (hforwards : ∀ address, ¬ Forwards h leaseUID address r) :
    InDebt h (l ++ [r]) leaseUID x where
  opened := fun state hstate => (ha.opened state hstate).snoc hr
  held := fun p state hp hstate => (ha.held p state hp hstate).snoc hr
  address := ha.address
  owed := fun address => (ha.owed address).snoc (fun _ howed => howed.snoc r)
    (fun hno => absurd hno (hforwards address))

theorem inDebt_idle
    (hopened : ∀ state, kept = some state → Opened h l leaseUID state.record.handoffGeneration)
    (howed : ∀ address, EachFollowed (Forwards h leaseUID address)
      (Owed h leaseUID ⟨kept, filed, none⟩ address) l) :
    InDebt h l leaseUID ⟨kept, filed, none⟩ where
  opened := hopened
  held := by
    intro p state hp
    cases hp
  address := by
    intro p old new hp
    cases hp
  owed := howed

theorem inDebt_running {p : AdapterPoint}
    (hopened : ∀ state, p.fallback = some state ∨ p.held = some state →
      Opened h l leaseUID state.record.handoffGeneration)
    (haddress : ∀ old new, p.fallback = some old → p.held = some new →
      old.record.applicationAddress = new.record.applicationAddress)
    (howed : ∀ address, EachFollowed (Forwards h leaseUID address)
      (Owed h leaseUID ⟨kept, filed, some p⟩ address) l) :
    InDebt h l leaseUID ⟨kept, filed, some p⟩ where
  opened := fun state hstate => hopened state (Or.inl hstate)
  held := by
    intro q state hq hstate
    cases hq
    exact hopened state (Or.inr hstate)
  address := by
    intro q old new hq
    cases hq
    exact haddress old new
  owed := howed

/-- INTERNAL: a request that can only lead back to the state it found. -/
theorem inDebt_returning {p : AdapterPoint} {state : AdapterState} (hfallback : p.fallback = some state)
    (hheld : ∀ new, p.held = some new → new = state)
    (hopened : Opened h l leaseUID state.record.handoffGeneration)
    (howed : ∀ address, EachFollowed (Forwards h leaseUID address)
      (Owed h leaseUID ⟨kept, filed, some p⟩ address) l) :
    InDebt h l leaseUID ⟨kept, filed, some p⟩ := by
  refine inDebt_running ?_ (fun old new hold hnew => ?_) howed
  · rintro found (hfound | hfound)
    · cases hfallback.symm.trans hfound
      exact hopened
    · rw [hheld found hfound]
      exact hopened
  · cases hfallback.symm.trans hold
    rw [hheld new hnew]

theorem owed_quiet (ha : InDebt h l leaseUID x) (hforwards : ∀ address, ¬ Forwards h leaseUID address r)
    (hkeep : ∀ {address post}, Owed h leaseUID x address post →
      Owed h leaseUID y address (post ++ [r])) (address : Addr) :
    EachFollowed (Forwards h leaseUID address) (Owed h leaseUID y address) (l ++ [r]) :=
  (ha.owed address).snoc (fun _ => hkeep) fun hno => absurd hno (hforwards address)

theorem orderly_base (hdurable : h.durable = true) (horderly : Orderly h leaseUID podUID x) :
    Trails x.filed (base x) := by
  unfold base
  cases hp : x.point with
  | none => exact horderly.idle hp hdurable
  | some p => exact (horderly.running p hp).2.lags hdurable

theorem not_forwards (hx : slot h leaseUID r.before = x)
    (hpoint : ∀ pending, x.point ≠ some (.applying pending)) (address : Addr) :
    ¬ Forwards h leaseUID address r := by
  rintro ⟨pending, succeeded, hp, -⟩
  rw [hx] at hp
  exact hpoint pending hp

theorem forwards_address {pending : AdapterState} (hforwards : Forwards h leaseUID address r)
    (heffect : r.output.effect = some (call podUID succeeded (.applying pending))) :
    pending.record.applicationAddress = address := by
  obtain ⟨pending', ok, -, hforwarded⟩ := hforwards
  rw [heffect] at hforwarded
  simp only [call, Option.some.injEq, AdapterEffect.apply.injEq] at hforwarded
  exact hforwarded.2.1

theorem owed_forwarded
    (hbase : ∃ state, base x = some state ∧ state.record.applicationAddress = address)
    (hforwarding : Forwarding x) : Owed h leaseUID x address l :=
  Or.inr ⟨hbase, fun intent state hp => absurd hp (hforwarding intent state).1,
    fun intent state hp => absurd hp (hforwarding intent state).2⟩

/-- INTERNAL: a delivery that is taken up while a state is kept keeps its address: a state of a
lower generation would have been withdrawn first. -/
theorem intending_address {pending old : AdapterState} {needsApply : Bool}
    (horder : handoffsInOrder h (l ++ [r]) = true) (htaken : takenUp h r = some pending.record)
    (hlease : pending.record.leaseUID = leaseUID) (hr : withdrawnGeneration leaseUID r = none)
    (ha : InDebt h l leaseUID ⟨some old, filed, none⟩)
    (hintends : Intends pending (some old) needsApply) :
    old.record.applicationAddress = pending.record.applicationAddress := by
  obtain ⟨-, hcompatible⟩ := hintends.compatible old rfl
  rcases contradicts_false hcompatible with hlower | ⟨-, haddress, -⟩
  · obtain ⟨pre, a, post, rfl, ⟨record, hrecord, rfl, hgeneration⟩, hwaiting⟩ :=
      ha.opened old rfl
    have hawaits : awaitsWithdrawal h record (post ++ [r]) = true := by
      rw [List.append_assoc, List.cons_append] at horder
      exact handoffsInOrder_awaits horder hrecord
    rw [← hgeneration] at hwaiting hlower
    have hno := withdrawn_between hawaits hwaiting hr
    simp [supersedes, htaken, hlease, hlower] at hno
  · exact haddress.symm

theorem inDebt_onward {p q : AdapterPoint} (hx : slot h leaseUID r.before = ⟨p.held, filed, some p⟩)
    (hlease : p.leaseUID = leaseUID) (ha : InDebt h l leaseUID ⟨p.held, filed, some p⟩)
    (honward : Onward podUID p succeeded q)
    (heffect : r.output.effect = some (call podUID succeeded p))
    (hr : withdrawnGeneration leaseUID r = none) :
    InDebt h (l ++ [r]) leaseUID ⟨q.held, filed, some q⟩ := by
  cases honward with
  | applied pending now =>
    refine inDebt_returning rfl (by rintro _ ⟨⟩; rfl) ((ha.opened pending rfl).snoc hr)
      fun address => (ha.owed address).snoc (fun post howed => ?_) ?_
    · refine howed.move (fun old hold => ?_) (fun intent state => ⟨by simp, by simp⟩) r
      cases hold
      exact ⟨_, rfl, rfl⟩
    · intro hforwards
      have haddress : pending.record.applicationAddress = address :=
        forwards_address hforwards heffect
      exact owed_forwarded ⟨_, rfl, haddress⟩ (fun intent state => ⟨by simp, by simp⟩)
  | observed pending now =>
    refine inDebt_returning rfl (by rintro _ ⟨⟩; rfl) ((ha.opened pending rfl).snoc hr)
      (owed_quiet ha (not_forwards hx (by simp)) fun howed => ?_)
    refine howed.move (fun old hold => ?_) (fun intent state => ⟨by simp, by simp⟩) r
    cases hold
    exact ⟨_, rfl, rfl⟩
  | restored intent state =>
    refine inDebt_returning rfl (by rintro _ ⟨⟩; rfl) ((ha.opened state rfl).snoc hr)
      (owed_quiet ha (not_forwards hx (by simp)) fun howed => ?_)
    rcases howed with hdischarged | ⟨⟨old, hold, haddress⟩, -, -⟩
    · exact Or.inl (hdischarged.snoc r)
    cases hold
    refine Or.inr ⟨⟨state, rfl, haddress⟩, fun intent' state' hp => ?_, fun intent' state' hp => ?_⟩
    · cases hp
      subst haddress
      refine ⟨r, by simp, intent, state, by rw [hx], rfl, ?_⟩
      rw [heffect, ← hlease]
      rfl
    · cases hp
  | confirmed intent state =>
    refine inDebt_returning rfl nofun ((ha.opened state rfl).snoc hr)
      (owed_quiet ha (not_forwards hx (by simp)) fun howed => ?_)
    rcases howed with hdischarged | ⟨⟨old, hold, haddress⟩, hconfirming, -⟩
    · exact Or.inl (hdischarged.snoc r)
    cases hold
    subst haddress
    obtain ⟨b, hb, hrestores⟩ := hconfirming intent state rfl
    refine Or.inl (Or.inl ⟨_, b, r, ?_, hrestores, podUID, ?_⟩)
    · exact (List.singleton_sublist.mpr hb).append (List.Sublist.refl [r])
    · rw [heffect, ← hlease]
      rfl
  | excused p _ state excused =>
    obtain ⟨hp, hretired⟩ := excused
    have hfallback : p.fallback = some state := by rcases hp with rfl | rfl <;> rfl
    refine inDebt_returning rfl nofun ((ha.opened state hfallback).snoc hr)
      (owed_quiet ha (not_forwards hx ?_) fun howed => ?_)
    · rcases hp with rfl | rfl <;> simp
    rcases howed with hdischarged | ⟨⟨old, hold, haddress⟩, -, -⟩
    · exact Or.inl (hdischarged.snoc r)
    rw [show base ⟨p.held, filed, some p⟩ = some state from hfallback] at hold
    cases hold
    refine Or.inr ⟨⟨state, rfl, haddress⟩, fun intent' state' hp => ?_, fun intent' state' hp => ?_⟩
    · cases hp
    · cases hp
      exact hretired

/-- INTERNAL: **one step** keeps the accounts of the lease. -/
theorem inDebt_step (hdurable : h.durable = true) (hx : slot h leaseUID r.before = x)
    (hy : slot h leaseUID r.after = y) (horder : handoffsInOrder h (l ++ [r]) = true)
    (horderly : Orderly h leaseUID podUID x) (ho : r.output = o)
    (hstep : SlotStep h leaseUID podUID r.input x y o) (ha : InDebt h l leaseUID x) :
    InDebt h (l ++ [r]) leaseUID y := by
  have hquiet : (∀ intent now, o.response ≠ some (.withdrawn intent now)) →
      withdrawnGeneration leaseUID r = none := by
    intro hresponse
    unfold withdrawnGeneration
    rw [ho]
    split
    · next intent now heq => exact absurd heq (hresponse intent now)
    · rfl
  -- the address of the state a request comes back to does not change when it goes on
  have hmove : ∀ {z : LeaseSlot}, Forwarding z → (∀ pending, x.point ≠ some (.applying pending)) →
      (∀ old, base x = some old → ∃ new, base z = some new ∧
        new.record.applicationAddress = old.record.applicationAddress) →
      ∀ address, EachFollowed (Forwards h leaseUID address) (Owed h leaseUID z address)
        (l ++ [r]) := by
    intro z hforwarding hpoint hbase
    exact owed_quiet ha (not_forwards hx hpoint) fun howed => howed.move hbase hforwarding r
  have hidle : ∀ {kept filed : Option AdapterState}, Forwarding ⟨kept, filed, none⟩ :=
    fun intent state => ⟨by simp, by simp⟩
  cases hstep with
  | still _ _ foreign =>
    rw [← ho] at foreign
    refine inDebt_keep ha (withdrawnGeneration_foreign foreign) ?_
    rintro address ⟨pending, succeeded, -, heffect⟩
    exact foreign.effect (by rw [heffect]; rfl)
  | flushed _ _ _ foreign =>
    rw [← ho] at foreign
    have ha' := inDebt_keep ha (withdrawnGeneration_foreign foreign)
      (not_forwards hx (by simp))
    exact inDebt_idle ha'.opened ha'.owed
  | restarted =>
    have hr := hquiet (by simp)
    have hlags := orderly_base hdurable horderly
    refine inDebt_idle (fun f hf => ?_) fun address =>
      (ha.owed address).snoc (fun post howed => howed.move (fun old hold => ?_) hidle r) ?_
    · obtain ⟨m, hm, hsame⟩ := hlags.memory hf
      rw [← hsame]
      exact (ha.opened m hm).snoc hr
    · obtain ⟨f, hf, hsame⟩ := hlags.file hold
      exact ⟨f, hf, by rw [hsame]⟩
    · rintro ⟨pending, succeeded, -, heffect⟩
      rw [ho] at heffect
      cases heffect
  | renewing _ previous _ _ _ renews =>
    have hr := hquiet (by simp)
    obtain ⟨-, hgeneration, -, -, -, -, haddress, -⟩ :=
      sameApplicationIdentity_iff.mp renews.identity
    refine inDebt_running ?_ ?_ (hmove (fun intent state => ⟨by simp, by simp⟩) (by simp)
      fun old hold => ⟨old, hold, rfl⟩)
    · rintro state (hstate | hstate)
      · exact (ha.opened state hstate).snoc hr
      · cases hstate
        rw [hgeneration]
        exact (ha.opened previous rfl).snoc hr
    · intro old new hold hnew
      cases hold
      cases hnew
      exact haddress.symm
  | acknowledged => exact inDebt_keep ha (hquiet (by simp)) (not_forwards hx (by simp))
  | intending pending _ _ _ lease intends delivers =>
    have hr := hquiet (by simp)
    have htaken : takenUp h r = some pending.record := by
      obtain ⟨readable, clock, hinput⟩ := delivers
      simp [takenUp, hinput, hx, hy]
    refine inDebt_running ?_ ?_ (hmove (fun intent state => ⟨by simp, by simp⟩) (by simp)
      fun old hold => ⟨old, hold, rfl⟩)
    · rintro state (hstate | hstate)
      · exact (ha.opened state hstate).snoc hr
      · cases hstate
        exact since_last ⟨_, htaken, lease, rfl⟩
    · intro old new hold hnew
      cases hold
      cases hnew
      exact intending_address horder htaken lease hr ha intends
  | withdrawn =>
    refine inDebt_idle nofun (owed_quiet ha (not_forwards hx (by simp)) fun howed => ?_)
    rcases howed with hdischarged | ⟨⟨old, hold, -⟩, -, -⟩
    · exact Or.inl (hdischarged.snoc r)
    · cases hold
  | restoring intent state =>
    exact inDebt_returning rfl (by rintro _ ⟨⟩; rfl) ((ha.opened state rfl).snoc (hquiet (by simp)))
      (hmove (fun intent state => ⟨by simp, by simp⟩) (by simp) fun old hold => ⟨old, hold, rfl⟩)
  | failed p filed =>
    have hr := hquiet (by simp)
    have hbase : ∀ old, base ⟨p.held, filed, some p⟩ = some old →
        ∃ new, base ⟨p.fallback, filed, none⟩ = some new ∧
          new.record.applicationAddress = old.record.applicationAddress :=
      fun old hold => ⟨old, hold, rfl⟩
    refine inDebt_idle (fun state hstate => (ha.opened state hstate).snoc hr) fun address =>
      (ha.owed address).snoc (fun post howed => howed.move hbase hidle r) ?_
    intro hforwards
    have ⟨pending, ok, hp, _⟩ := hforwards
    rw [hx] at hp
    cases hp
    exact owed_forwarded ⟨pending, rfl, forwards_address hforwards (by rw [ho])⟩ hidle
  | retried _ _ _ observes =>
    refine inDebt_keep ha (hquiet (by simp)) (not_forwards hx fun pending heq => ?_)
    rcases observes with ⟨pending', rfl⟩ | ⟨intent, state, rfl⟩ <;> cases heq
  | onward _ _ _ _ lease onward =>
    exact inDebt_onward hx lease ha onward (by rw [ho]) (hquiet (by simp))
  | saved p _ _ _ saved =>
    have hr := hquiet (by simp)
    obtain ⟨hheld, hfallback⟩ := saved_held saved
    refine inDebt_running ?_ ?_ (hmove ?_ ?_ fun old hold => ?_)
    · rintro state (hstate | hstate)
      · exact (ha.held p state rfl (by rw [← hfallback, hstate])).snoc hr
      · exact (ha.held p state rfl (by rw [← hheld, hstate])).snoc hr
    · intro old new hold hnew
      rw [hfallback, ← hheld, hnew] at hold
      cases hold
      rfl
    · intro intent state
      cases saved <;> exact ⟨by simp, by simp⟩
    · intro pending
      cases saved <;> simp
    · cases hnew : p.held with
      | none => cases saved <;> cases hnew
      | some new =>
        exact ⟨new, by rw [← hnew, ← hfallback]; rfl, (ha.address p old new rfl hold hnew).symm⟩
  | answered _ _ _ _ concludes =>
    cases concludes with
    | renewed | concluded =>
      have hr := hquiet (by simp)
      refine inDebt_idle (fun state hstate => (ha.held _ state rfl hstate).snoc hr)
        (hmove hidle (by simp) fun old hold => ?_)
      exact ⟨_, rfl, (ha.address _ old _ rfl hold rfl).symm⟩
    | forgotten intent state now =>
      refine inDebt_idle nofun (owed_quiet ha (not_forwards hx (by simp)) fun howed => ?_)
      rcases howed with hdischarged | ⟨⟨old, hold, haddress⟩, -, hforgetting⟩
      · exact Or.inl (hdischarged.snoc r)
      cases hold
      refine Or.inl (Or.inr ⟨r, by simp, intent, state, now, by rw [hx], ?_, haddress, ?_⟩)
      · exact hforgetting intent state rfl
      · rw [ho]

/-- INTERNAL: a withdrawal that is acknowledged, and not for a retired endpoint, leaves nothing
owed. -/
theorem withdrawn_discharged {input : AdapterInput} {intent : AdapterWithdrawalIntent} {now : Time}
    (hstep : SlotStep h leaseUID podUID input x y o) (hlease : intent.leaseUID = leaseUID)
    (hresponse : o.response = some (.withdrawn intent now))
    (hretired : intent.applicationEndpointRetired = false)
    (howed : Owed h leaseUID x address post) : Discharged h leaseUID address post := by
  cases hstep with
  | still _ _ foreign | flushed _ _ _ foreign =>
    refine absurd ?_ foreign.response
    rw [hresponse, Option.bind_some, responseLease, hlease]
  | withdrawn =>
    rcases howed with hdischarged | ⟨⟨old, hold, -⟩, -, -⟩
    · exact hdischarged
    · cases hold
  | answered _ _ _ _ concludes =>
    cases hresponse
    cases concludes with
    | forgotten _ state _ =>
      rcases howed with hdischarged | ⟨-, -, hforgetting⟩
      · exact hdischarged
      · rw [hforgetting intent state rfl] at hretired
        cases hretired
  | _ => cases hresponse

end Steps

/-- **No application is forgotten**: when a withdrawal of a lease is acknowledged, and not for a
retired endpoint, then every address to which the target port of the lease was ever applied has
since had its backend port applied and observed, or its own withdrawal was acknowledged for a
retired endpoint since. -/
theorem withdrawn_restored (h : AdapterHandler) (hdurable : h.stateFile ≠ "") (podUID : ObjectUID)
    (inputs : List AdapterInput)
    (horder : handoffsInOrder h (exec h.next (AdapterProcess.start podUID) inputs) = true)
    {pre mid post : List AdapterRecord} {a r : AdapterRecord}
    (hrun : exec h.next (AdapterProcess.start podUID) inputs = pre ++ a :: (mid ++ r :: post))
    {intent : AdapterWithdrawalIntent} {now : Time}
    (hwithdrawn : r.output.response = some (.withdrawn intent now))
    (hretired : intent.applicationEndpointRetired = false) {address : Addr}
    (hforwards : Forwards h intent.leaseUID address a) :
    Restored h intent.leaseUID address mid ∨ ∃ q ∈ mid, RetiredAt h intent.leaseUID address q := by
  have hfile : h.durable = true := by simpa [AdapterHandler.durable] using hdurable
  have hsplit : exec h.next (AdapterProcess.start podUID) inputs =
      (pre ++ a :: mid) ++ r :: post := by
    rw [hrun]
    simp
  have hlinked := exec_linked h.next (AdapterProcess.start podUID) inputs
  rw [hsplit] at hlinked horder
  obtain ⟨hbefore, hr, -⟩ := hlinked.cut
  have hdebt := hbefore.history
    (P := fun m s => handoffsInOrder h m = true →
      InDebt h m intent.leaseUID (slot h intent.leaseUID s)) ?_ ?_
  · have hmem : r ∈ exec h.next (AdapterProcess.start podUID) inputs := by
      rw [hsplit]
      simp
    have hstart : endState (AdapterProcess.start podUID) (pre ++ a :: mid) = r.before := by
      rw [hr]
      rfl
    rw [hstart] at hdebt
    obtain ⟨-, hstep⟩ := exec_slots hmem intent.leaseUID
    exact withdrawn_discharged hstep rfl hwithdrawn hretired
      ((hdebt (handoffsInOrder_append horder)).owed address pre a mid rfl hforwards)
  · intro m q _ hq _ ha hm
    have hmem : q ∈ exec h.next (AdapterProcess.start podUID) inputs := by
      rw [hsplit]
      exact List.mem_append_left _ hq
    obtain ⟨horderly, hstep⟩ := exec_slots hmem intent.leaseUID
    exact inDebt_step hfile rfl rfl hm horderly rfl hstep (ha (handoffsInOrder_append hm))
  · intro _
    rw [slot_start]
    refine inDebt_idle (fun state hstate => ?_) fun _ => eachFollowed_nil _ _
    cases hstate

/-! ## A retired endpoint -/

/-- A delivery of a generation to a Pod at an address, with the calls of a first delivery. -/
def deliverTo (generation : Int) (podUID : ObjectUID) (applicationAddress : Addr) :
    List AdapterInput :=
  [.request (.deliver "lease" (some
      { torrentRecord 100 with handoffGeneration := generation, podUID, applicationAddress }))
      true ⟨1, 1⟩, succeeds, succeeds, succeeds, succeeds, succeeds]

/-- The request to withdraw the delivery to a Pod. -/
def withdrawFrom (generation : Int) (podUID : ObjectUID) (applicationEndpointRetired : Bool) :
    AdapterInput :=
  .request (.withdraw "lease" (some
    { torrentWithdrawal with handoffGeneration := generation, podUID, applicationEndpointRetired }))
    true ⟨1, 1⟩

/-- The first Pod is retired and its application cannot be reached any more; the next generation
goes to another Pod and is withdrawn in turn. -/
def retiredRun : List AdapterRecord :=
  exec torrentHandler.next (AdapterProcess.start "adapter")
    (deliverTo 1 "pod-a" (.v4 0x0a000005#32) ++
      [withdrawFrom 1 "pod-a" true, failsFinally, succeeds] ++
      deliverTo 2 "pod-b" (.v4 0x0a000006#32) ++
      [withdrawFrom 2 "pod-b" false, succeeds, succeeds, succeeds])

/-- **The address of a retired endpoint is forgotten**: a port was applied at the first address,
the only Apply of the backend port there has failed, and the last withdrawal is acknowledged. -/
theorem retired_endpoint_forgotten :
    handoffsInOrder torrentHandler retiredRun = true ∧
      (retiredRun.filterMap fun r => r.output.effect).filter
          (fun effect => match effect with
            | .apply _ _ _ _ => true
            | _ => false) =
        [.apply "lease" (.v4 0x0a000005#32) 40000 true,
          .apply "lease" (.v4 0x0a000005#32) 6881 false,
          .apply "lease" (.v4 0x0a000006#32) 40000 true,
          .apply "lease" (.v4 0x0a000006#32) 6881 true] ∧
      (retiredRun.getLast?.bind fun r => r.output.response) =
        some (.withdrawn
          { torrentWithdrawal with handoffGeneration := 2, podUID := "pod-b" } 1) := by
  decide +kernel

/-- A delivery is withdrawn after a crash, the next generation goes to another Pod and is
withdrawn. -/
def restoredRun : List AdapterRecord :=
  exec torrentHandler.next (AdapterProcess.start "adapter")
    ((deliverTo 1 "pod-a" (.v4 0x0a000005#32)).take 3 ++
      [.restart "adapter", withdrawFrom 1 "pod-a" false, succeeds, succeeds, succeeds] ++
      deliverTo 2 "pod-b" (.v4 0x0a000006#32) ++
      [withdrawFrom 2 "pod-b" false, succeeds, succeeds, succeeds])

theorem withdrawn_restored_after_crash :
    handoffsInOrder torrentHandler restoredRun = true ∧
      ∃ a r, restoredRun = restoredRun.take 2 ++ a ::
          ((restoredRun.drop 3).take 14 ++ r :: (restoredRun.drop 3).drop 15) ∧
        Forwards torrentHandler "lease" (.v4 0x0a000005#32) a ∧
        (Restored torrentHandler "lease" (.v4 0x0a000005#32) ((restoredRun.drop 3).take 14) ∨
          ∃ q ∈ (restoredRun.drop 3).take 14,
            RetiredAt torrentHandler "lease" (.v4 0x0a000005#32) q) := by
  have horder : handoffsInOrder torrentHandler restoredRun = true := by decide +kernel
  have hfirst : restoredRun[2]?.map
      (fun r => ((slot torrentHandler "lease" r.before).point, r.output.effect)) =
      some (some (.applying ⟨{ torrentRecord 100 with podUID := "pod-a" }, 0, 0, ""⟩),
        some (.apply "lease" (.v4 0x0a000005#32) 40000 true)) := by decide +kernel
  have hlast : (restoredRun.drop 3)[14]?.map (fun r => r.output.response) =
      some (some (.withdrawn
        { torrentWithdrawal with handoffGeneration := 2, podUID := "pod-b" } 1)) := by
    decide +kernel
  obtain ⟨a, ha, hforwards⟩ := Option.map_eq_some_iff.mp hfirst
  obtain ⟨r, hr, hresponse⟩ := Option.map_eq_some_iff.mp hlast
  have hrun : restoredRun = restoredRun.take 2 ++ a ::
      ((restoredRun.drop 3).take 14 ++ r :: (restoredRun.drop 3).drop 15) := by
    rw [← eq_take_append_cons_drop hr]
    exact eq_take_append_cons_drop ha
  obtain ⟨hpoint, heffect⟩ := Prod.mk.inj hforwards
  have hforwarded : Forwards torrentHandler "lease" (.v4 0x0a000005#32) a :=
    ⟨_, true, hpoint, heffect⟩
  exact ⟨horder, a, r, hrun, hforwarded,
    withdrawn_restored torrentHandler (by decide) "adapter" _ horder hrun hresponse rfl hforwarded⟩

end Waycloak.Analysis
