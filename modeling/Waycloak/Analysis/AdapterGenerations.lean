import Waycloak.Analysis.AppliedAcknowledgements

/-!
# The adapter's generations

Once the adapter has acknowledged a delivery or a withdrawal of a lease at some handoff
generation, it should neither apply nor acknowledge a delivery of a lower one. What it knows of
generations is the record it keeps, in memory and in the state file, and an acknowledged
withdrawal deletes that record: a delayed delivery of an earlier generation then finds nothing
to be compared with, is applied and is acknowledged (`delayed_delivery_revives`).

Where no delivery that finds the lease unknown is older than an acknowledged withdrawal of it
(`revives`), generations never regress, through every failure and restart
(`generations_never_regress`). `Covers` is the invariant: what is kept of a lease is at least as
new as everything acknowledged, or a withdrawal is.
-/

set_option autoImplicit false

namespace Waycloak.Analysis

open Waycloak.Computation Waycloak.Model Waycloak.Interface

variable {r : AdapterRecord} {p : AdapterPoint}

/-- The generation of the lease the step acknowledges a delivery or a withdrawal of. -/
def acknowledgedGeneration (leaseUID : ObjectUID) (r : AdapterRecord) : Option Int :=
  match r.output.response with
  | some (.acknowledged record _) =>
    if record.leaseUID = leaseUID then some record.handoffGeneration else none
  | some (.withdrawn intent _) =>
    if intent.leaseUID = leaseUID then some intent.handoffGeneration else none
  | _ => none

/-- The generation of the lease the step acknowledges a withdrawal of. -/
def withdrawnGeneration (leaseUID : ObjectUID) (r : AdapterRecord) : Option Int :=
  match r.output.response with
  | some (.withdrawn intent _) =>
    if intent.leaseUID = leaseUID then some intent.handoffGeneration else none
  | _ => none

/-- After `a` has acknowledged a generation of a lease, `b` applies a delivery of a lower one, or
acknowledges it. -/
def Regresses (a b : AdapterRecord) : Prop :=
  ∃ leaseUID generation, acknowledgedGeneration leaseUID a = some generation ∧
    ((∃ pending, b.before.running = some (.applying pending) ∧ b.output.effect.isSome ∧
        pending.record.leaseUID = leaseUID ∧ pending.record.handoffGeneration < generation) ∨
      ∃ record observedAt, b.output.response = some (.acknowledged record observedAt) ∧
        record.leaseUID = leaseUID ∧ record.handoffGeneration < generation)

/-- After `a` has acknowledged a withdrawal of a lease, a delivery of a lower generation gets the
mutex in `b` while nothing is kept of the lease. -/
def revives (h : AdapterHandler) (a b : AdapterRecord) : Bool :=
  match b.input with
  | .request (.deliver leaseUID (some record)) _ _ =>
    match withdrawnGeneration leaseUID a with
    | some generation =>
      b.before.running.isNone && (view h b.before leaseUID).isNone &&
        decide (record.handoffGeneration < generation)
    | none => false
  | _ => false

/-! ## What is kept covers what was acknowledged -/

/-- Everything acknowledged of the lease is at most as new as the state, or as a withdrawal. -/
def Covers (l : List AdapterRecord) (leaseUID : ObjectUID) (state : Option AdapterState) : Prop :=
  ∀ q ∈ l, ∀ generation, acknowledgedGeneration leaseUID q = some generation →
    (∀ st, state = some st → generation ≤ st.record.handoffGeneration) ∧
      (state = none → ∃ w ∈ l, ∃ withdrawn, withdrawnGeneration leaseUID w = some withdrawn ∧
        generation ≤ withdrawn)

/-- Everything acknowledged of the lease is at most as new as the record. -/
def CoveredBy (l : List AdapterRecord) (leaseUID : ObjectUID) (record : AdapterLeaseRecord) :
    Prop :=
  ∀ q ∈ l, ∀ generation, acknowledgedGeneration leaseUID q = some generation →
    generation ≤ record.handoffGeneration

/-- The record a point delivers. -/
def deliveredRecord : AdapterPoint → Option AdapterLeaseRecord
  | .renewing record _ _ => some record
  | .intending pending _ _ | .applying pending | .recording pending | .observing pending
  | .concluding pending => some pending.record
  | .restoring _ _ | .confirming _ _ | .forgetting _ _ => none

/-- **What the generations of a lease satisfy**, along a run. -/
structure Advancing (l : List AdapterRecord) (leaseUID : ObjectUID) (x : LeaseSlot) : Prop where
  kept : x.point = none → Covers l leaseUID x.kept
  fallback : ∀ p, x.point = some p → Covers l leaseUID p.fallback
  delivering : ∀ p record, x.point = some p → deliveredRecord p = some record →
    CoveredBy l leaseUID record

section Steps

variable {h : AdapterHandler} {leaseUID podUID : ObjectUID} {l : List AdapterRecord}

theorem covers_some {state : AdapterState} :
    Covers l leaseUID (some state) ↔ CoveredBy l leaseUID state.record := by
  constructor
  · intro hcovers q hq generation hg
    exact (hcovers q hq generation hg).1 state rfl
  intro hcovered q hq generation hg
  refine ⟨fun st hst => ?_, fun hno => ?_⟩
  · cases hst
    exact hcovered q hq generation hg
  · cases hno

theorem CoveredBy.mono {old new : AdapterLeaseRecord} (hcovered : CoveredBy l leaseUID old)
    (hle : old.handoffGeneration ≤ new.handoffGeneration) : CoveredBy l leaseUID new :=
  fun q hq generation hg => le_trans (hcovered q hq generation hg) hle

theorem Covers.filed {file memory : Option AdapterState} (hcovers : Covers l leaseUID memory)
    (hlags : Trails file memory) : Covers l leaseUID file := by
  intro q hq generation hg
  obtain ⟨hsome, hnone⟩ := hcovers q hq generation hg
  refine ⟨fun f hf => ?_, fun hno => ?_⟩
  · obtain ⟨m, hm, hsame⟩ := hlags.memory hf
    rw [← hsame]
    exact hsome m hm
  apply hnone
  cases hm : memory with
  | none => rfl
  | some m =>
    obtain ⟨f, hf, -⟩ := hlags.file hm
    rw [hno] at hf
    cases hf

theorem Covers.snoc {state : Option AdapterState} (hcovers : Covers l leaseUID state)
    (hr : acknowledgedGeneration leaseUID r = none) : Covers (l ++ [r]) leaseUID state := by
  intro q hq generation hg
  rcases List.mem_append.mp hq with hq | hq
  · obtain ⟨hsome, hnone⟩ := hcovers q hq generation hg
    refine ⟨hsome, fun hno => ?_⟩
    obtain ⟨w, hw, hrest⟩ := hnone hno
    exact ⟨w, List.mem_append_left _ hw, hrest⟩
  · rw [List.mem_singleton.mp hq, hr] at hg
    cases hg

theorem CoveredBy.snoc {record : AdapterLeaseRecord} (hcovered : CoveredBy l leaseUID record)
    (hr : ∀ generation, acknowledgedGeneration leaseUID r = some generation →
      generation ≤ record.handoffGeneration) : CoveredBy (l ++ [r]) leaseUID record := by
  intro q hq generation hg
  rcases List.mem_append.mp hq with hq | hq
  · exact hcovered q hq generation hg
  · rw [List.mem_singleton.mp hq] at hg
    exact hr generation hg

variable {kept filed : Option AdapterState} {q : AdapterPoint} {x y : LeaseSlot} {o : AdapterOutput}

theorem advancing_idle (hkept : Covers l leaseUID kept) :
    Advancing l leaseUID ⟨kept, filed, none⟩ where
  kept := fun _ => hkept
  fallback := by
    intro p hp
    cases hp
  delivering := by
    intro p record hp
    cases hp

theorem advancing_running (hfallback : Covers l leaseUID p.fallback)
    (hdelivering : ∀ record, deliveredRecord p = some record → CoveredBy l leaseUID record) :
    Advancing l leaseUID ⟨kept, filed, some p⟩ where
  kept := by
    intro hno
    cases hno
  fallback := by
    intro q hq
    cases hq
    exact hfallback
  delivering := by
    intro q record hq
    cases hq
    exact hdelivering record

theorem advancing_snoc (hg : Advancing l leaseUID x) (hr : acknowledgedGeneration leaseUID r = none) :
    Advancing (l ++ [r]) leaseUID x where
  kept := fun hp => (hg.kept hp).snoc hr
  fallback := fun p hp => (hg.fallback p hp).snoc hr
  delivering := fun p record hp hrecord =>
    (hg.delivering p record hp hrecord).snoc (by rw [hr]; simp)

theorem acknowledgedGeneration_foreign (hforeign : Foreign leaseUID r.output) :
    acknowledgedGeneration leaseUID r = none := by
  unfold acknowledgedGeneration
  have hresponse := hforeign.response
  split
  · next record now heq =>
    rw [heq] at hresponse
    rw [if_neg (by simpa [responseLease] using hresponse)]
  · next intent now heq =>
    rw [heq] at hresponse
    rw [if_neg (by simpa [responseLease] using hresponse)]
  · rfl

/-- INTERNAL: what is kept after an acknowledged withdrawal is nothing, and the withdrawal is as
new as everything acknowledged before. -/
theorem covers_withdrawn {intent : AdapterWithdrawalIntent} {now : Time}
    (hresponse : r.output.response = some (.withdrawn intent now))
    (hbefore : ∀ q ∈ l, ∀ generation, acknowledgedGeneration leaseUID q = some generation →
      ∃ w ∈ l ++ [r], ∃ withdrawn, withdrawnGeneration leaseUID w = some withdrawn ∧
        generation ≤ withdrawn) : Covers (l ++ [r]) leaseUID none := by
  intro q hq generation hg
  constructor
  · intro st hst
    cases hst
  intro _
  rcases List.mem_append.mp hq with hq | hq
  · exact hbefore q hq generation hg
  · rw [List.mem_singleton.mp hq] at hg
    refine ⟨r, by simp, generation, ?_, le_refl _⟩
    simpa [acknowledgedGeneration, withdrawnGeneration, hresponse] using hg

theorem coveredBy_intending {pending : AdapterState} {previous : Option AdapterState}
    {needsApply : Bool} (hx : slot h leaseUID r.before = ⟨previous, filed, none⟩)
    (hidle : r.before.running = none) (hfresh : ∀ q ∈ l, revives h q r = false)
    (hintends : Intends pending previous needsApply)
    (hdelivers : Delivers leaseUID pending.record r.input) (hcovers : Covers l leaseUID previous) :
    CoveredBy l leaseUID pending.record := by
  cases previous with
  | some old =>
    refine (covers_some.mp hcovers).mono ?_
    obtain ⟨-, hcompatible⟩ := hintends.compatible old rfl
    rcases contradicts_false hcompatible with hlt | ⟨heq, -⟩
    · exact le_of_lt hlt
    · exact le_of_eq heq.symm
  | none =>
    intro q hq generation hg
    obtain ⟨w, hw, withdrawn, hwithdrawn, hle⟩ := (hcovers q hq generation hg).2 rfl
    have hno := hfresh w hw
    have hview : view h r.before leaseUID = none := congrArg LeaseSlot.kept hx
    obtain ⟨readable, clock, hinput⟩ := hdelivers
    simp only [revives, hinput, hwithdrawn, hview, hidle, Option.isNone_none, Bool.true_and,
      decide_eq_false_iff_not, not_lt] at hno
    exact le_trans hle hno

theorem advancing_answered {response : AdapterResponse}
    (horderly : Orderly h leaseUID podUID ⟨p.held, filed, some p⟩)
    (hg : Advancing l leaseUID ⟨p.held, filed, some p⟩) (hconcludes : Concludes p response)
    (hresponse : r.output.response = some response) :
    Advancing (l ++ [r]) leaseUID ⟨p.held, flushed h p.held, none⟩ := by
  have hat := (horderly.running p rfl).2
  have hdelivered : ∀ {record : AdapterLeaseRecord} {now : Time}, record.leaseUID = leaseUID →
      r.output.response = some (.acknowledged record now) → CoveredBy l leaseUID record →
      CoveredBy (l ++ [r]) leaseUID record := by
    intro record now hlease hanswer hcovered
    apply hcovered.snoc
    intro generation hgeneration
    simp only [acknowledgedGeneration, hanswer, hlease, if_true, Option.some.injEq] at hgeneration
    exact le_of_eq hgeneration.symm
  cases hconcludes with
  | renewed record =>
    exact advancing_idle (covers_some.mpr
      (hdelivered hat.lease hresponse (hg.delivering _ record rfl rfl)))
  | concluded delivered =>
    exact advancing_idle (covers_some.mpr
      (hdelivered hat.lease hresponse (hg.delivering _ delivered.record rfl rfl)))
  | forgotten intent state now =>
    have hwithdraws : WithdrawsState intent state := hat.sound
    have hlease : intent.leaseUID = leaseUID := hat.lease
    refine advancing_idle (covers_withdrawn hresponse fun q hq generation hgeneration => ?_)
    refine ⟨r, by simp, intent.handoffGeneration, ?_, ?_⟩
    · simp [withdrawnGeneration, hresponse, hlease]
    · rw [← hwithdraws.handoffGeneration]
      exact covers_some.mp (hg.fallback _ rfl) q hq generation hgeneration

theorem advancing_onward {succeeded : Bool} (hg : Advancing l leaseUID ⟨p.held, filed, some p⟩)
    (honward : Onward podUID p succeeded q) : Advancing l leaseUID ⟨q.held, filed, some q⟩ := by
  have hfallback := hg.fallback p rfl
  cases honward with
  | applied pending | observed pending =>
    have hcovered : CoveredBy l leaseUID pending.record := covers_some.mp hfallback
    exact advancing_running (covers_some.mpr hcovered)
      (fun record hrecord => hg.delivering _ record rfl hrecord)
  | restored | confirmed =>
    refine advancing_running hfallback fun record hrecord => ?_
    cases hrecord
  | excused _ _ _ excused =>
    obtain ⟨rfl | rfl, -⟩ := excused
    · refine advancing_running hfallback fun record hrecord => ?_
      cases hrecord
    · refine advancing_running hfallback fun record hrecord => ?_
      cases hrecord

theorem advancing_saved (hg : Advancing l leaseUID ⟨p.held, filed, some p⟩) (hsaved : Saved p q) :
    Advancing l leaseUID ⟨q.held, flushed h q.held, some q⟩ := by
  cases hsaved with
  | applying pending | observing pending | recorded pending =>
    have hcovered := hg.delivering _ pending.record rfl rfl
    refine advancing_running (covers_some.mpr hcovered) fun record hrecord => ?_
    cases hrecord
    exact hcovered

/-- INTERNAL: **one step** keeps what the generations of the lease satisfy. -/
theorem advancing_step (hdurable : h.durable = true) (hx : slot h leaseUID r.before = x)
    (hy : slot h leaseUID r.after = y) (hrecord : r = record h.next r.before r.input)
    (hfresh : ∀ q ∈ l, revives h q r = false) (horderly : Orderly h leaseUID podUID x)
    (ho : r.output = o) (hstep : SlotStep h leaseUID podUID r.input x y o)
    (hg : Advancing l leaseUID x) : Advancing (l ++ [r]) leaseUID y := by
  have hquiet : (o.response = none ∨ ∃ status, o.response = some (.rejected status)) →
      acknowledgedGeneration leaseUID r = none := by
    intro hresponse
    unfold acknowledgedGeneration
    rw [ho]
    rcases hresponse with hresponse | ⟨status, hresponse⟩
    · rw [hresponse]
    · rw [hresponse]
  cases hstep with
  | still _ _ foreign =>
    rw [← ho] at foreign
    exact advancing_snoc hg (acknowledgedGeneration_foreign foreign)
  | flushed kept filed _ foreign =>
    rw [← ho] at foreign
    have hg' := advancing_snoc hg (acknowledgedGeneration_foreign foreign)
    exact advancing_idle (hg'.kept rfl)
  | restarted =>
    have hg' := advancing_snoc hg (hquiet (Or.inl rfl))
    cases hp : x.point with
    | none => exact advancing_idle ((hg'.kept hp).filed (horderly.idle hp hdurable))
    | some p =>
      have hat := (horderly.running p hp).2
      exact advancing_idle ((hg'.fallback p hp).filed (hat.lags hdurable))
  | renewing _ _ _ _ _ renews =>
    have hg' := advancing_snoc hg (hquiet (Or.inl rfl))
    have hcovered := covers_some.mp (hg'.kept rfl)
    have hsame := (sameApplicationIdentity_iff.mp renews.identity).2.1
    refine advancing_running (hg'.kept rfl) fun record' hrecord => ?_
    cases hrecord
    exact hcovered.mono (le_of_eq hsame.symm)
  | acknowledged _ _ _ _ lease _ renews =>
    have hsame := (sameApplicationIdentity_iff.mp renews.identity).2.1
    refine advancing_idle (covers_some.mpr ((covers_some.mp (hg.kept rfl)).snoc ?_))
    intro generation hgeneration
    simp only [acknowledgedGeneration, ho, lease, if_true, Option.some.injEq] at hgeneration
    rw [← hgeneration, hsame]
  | intending _ _ _ _ _ intends delivers =>
    have hidle : r.before.running = none := by
      obtain ⟨readable, clock, hinput⟩ := delivers
      cases hrunning : r.before.running with
      | none => rfl
      | some p =>
        have hsame : r.after = r.before := by
          rw [hrecord, record_after, hinput, AdapterHandler.next, hrunning]
          rfl
        rw [hsame, hx] at hy
        cases hy
    have hcovered := coveredBy_intending hx hidle hfresh intends delivers (hg.kept rfl)
    have hr := hquiet (Or.inl rfl)
    refine advancing_running ((hg.kept rfl).snoc hr) fun record hrecord => ?_
    cases hrecord
    exact hcovered.snoc (by rw [hr]; simp)
  | withdrawn intent now =>
    have hresponse : r.output.response = some (.withdrawn intent now) := by rw [ho]
    refine advancing_idle (covers_withdrawn hresponse fun q hq generation hgeneration => ?_)
    obtain ⟨w, hw, hrest⟩ := (hg.kept rfl q hq generation hgeneration).2 rfl
    exact ⟨w, List.mem_append_left _ hw, hrest⟩
  | restoring =>
    have hg' := advancing_snoc hg (hquiet (Or.inl rfl))
    refine advancing_running (hg'.kept rfl) fun record hrecord => ?_
    cases hrecord
  | failed p =>
    have hg' := advancing_snoc hg (hquiet (Or.inr ⟨_, rfl⟩))
    exact advancing_idle (hg'.fallback p rfl)
  | retried => exact advancing_snoc hg (hquiet (Or.inl rfl))
  | onward _ _ _ _ _ onward =>
    exact advancing_onward (advancing_snoc hg (hquiet (Or.inl rfl))) onward
  | saved _ _ _ _ saved => exact advancing_saved (advancing_snoc hg (hquiet (Or.inl rfl))) saved
  | answered _ _ _ _ concludes => exact advancing_answered horderly hg concludes (by rw [ho])

theorem acknowledged_covered {input : AdapterInput} {record : AdapterLeaseRecord}
    (hstep : SlotStep h leaseUID podUID input x y o) (hg : Advancing l leaseUID x)
    {observedAt : Time} (hlease : record.leaseUID = leaseUID)
    (hresponse : o.response = some (.acknowledged record observedAt)) :
    CoveredBy l leaseUID record := by
  cases hstep with
  | still _ _ foreign | flushed _ _ _ foreign =>
    refine absurd ?_ foreign.response
    rw [hresponse, Option.bind_some, responseLease, hlease]
  | acknowledged _ _ _ _ _ _ renews =>
    cases hresponse
    have hsame := (sameApplicationIdentity_iff.mp renews.identity).2.1
    exact (covers_some.mp (hg.kept rfl)).mono (le_of_eq hsame.symm)
  | answered _ _ _ _ concludes =>
    cases hresponse
    cases concludes with
    | renewed => exact hg.delivering _ record rfl rfl
    | concluded => exact hg.delivering _ _ rfl rfl
  | _ => cases hresponse

theorem not_regresses {a b : AdapterRecord} (ha : a ∈ l)
    (hstep : ∀ leaseUID, SlotStep h leaseUID podUID b.input (slot h leaseUID b.before)
      (slot h leaseUID b.after) b.output)
    (hg : ∀ leaseUID, Advancing l leaseUID (slot h leaseUID b.before)) : ¬ Regresses a b := by
  rintro ⟨leaseUID, generation, hgeneration, ⟨pending, htaken, -, hlease, hlower⟩ |
    ⟨record, observedAt, hresponse, hlease, hlower⟩⟩
  · have hcovered := (hg leaseUID).delivering _ pending.record (slot_point htaken hlease) rfl
    exact absurd hlower (not_lt.mpr (hcovered a ha generation hgeneration))
  · have hcovered := acknowledged_covered (hstep leaseUID) (hg leaseUID) hlease hresponse
    exact absurd hlower (not_lt.mpr (hcovered a ha generation hgeneration))

end Steps

/-- **Generations never regress** in a run of an adapter with a state file in which no delivery
that finds its lease unknown is older than an acknowledged withdrawal of the lease: once a
generation of a lease is acknowledged, no delivery of a lower one is applied or acknowledged. -/
theorem generations_never_regress (h : AdapterHandler) (hdurable : h.stateFile ≠ "")
    (podUID : ObjectUID) (inputs : List AdapterInput)
    (hfresh : (exec h.next (AdapterProcess.start podUID) inputs).Pairwise
      fun a b => revives h a b = false) :
    (exec h.next (AdapterProcess.start podUID) inputs).Pairwise fun a b => ¬ Regresses a b := by
  have hfile : h.durable = true := by simpa [AdapterHandler.durable] using hdurable
  have hhistory := (exec_linked h.next (AdapterProcess.start podUID) inputs).history
    (P := fun m s => m.Pairwise (fun a b => revives h a b = false) →
      m.Pairwise (fun a b => ¬ Regresses a b) ∧
        ∀ leaseUID, Advancing m leaseUID (slot h leaseUID s))
    ?_ ?_
  · exact (hhistory hfresh).1
  · intro m r _ hr hrecord hm hpairwise
    obtain ⟨hearlier, -, hlast⟩ := List.pairwise_append.mp hpairwise
    obtain ⟨hbefore, hadvancing⟩ := hm hearlier
    have hslots := fun leaseUID => exec_slots hr leaseUID
    constructor
    · refine List.pairwise_append.mpr ⟨hbefore, List.pairwise_singleton _ _, ?_⟩
      intro a ha b hb
      rw [List.mem_singleton.mp hb]
      exact not_regresses ha (fun leaseUID => (hslots leaseUID).2) hadvancing
    · intro leaseUID
      obtain ⟨horderly, hstep⟩ := hslots leaseUID
      exact advancing_step hfile rfl rfl hrecord (fun q hq => hlast q hq r (by simp)) horderly rfl
        hstep (hadvancing leaseUID)
  · intro _
    refine ⟨List.Pairwise.nil, fun leaseUID => ?_⟩
    rw [slot_start]
    refine advancing_idle fun q hq => ?_
    cases hq

/-! ## A delayed delivery -/

/-- A delivery at a generation, with the calls of a first delivery. -/
def deliverGeneration (generation : Int) : List AdapterInput :=
  [.request (.deliver "lease" (some { torrentRecord 100 with handoffGeneration := generation }))
      true ⟨1, 1⟩, succeeds, succeeds, succeeds, succeeds, succeeds]

/-- A withdrawal at a generation, with its calls. -/
def withdrawGeneration (generation : Int) : List AdapterInput :=
  [.request (.withdraw "lease" (some { torrentWithdrawal with handoffGeneration := generation }))
      true ⟨1, 1⟩, succeeds, succeeds, succeeds]

/-- **A delayed delivery is applied and acknowledged** after a later generation was delivered and
withdrawn. -/
theorem delayed_delivery_revives :
    ((exec torrentHandler.next (AdapterProcess.start "adapter")
        (deliverGeneration 2 ++ withdrawGeneration 2 ++ deliverGeneration 1)).map
      fun r => (acknowledgedGeneration "lease" r, r.output.effect)).drop 5 =
      [(some 2, some (.persist true)),
        (none, none), (none, some (.apply "lease" (.v4 0x0a000005#32) 6881 true)),
        (none, some (.observe "lease" (.v4 0x0a000005#32) 6881 "adapter" true)),
        (some 2, some (.persist true)),
        (none, none), (none, some (.persist true)),
        (none, some (.apply "lease" (.v4 0x0a000005#32) 40000 true)),
        (none, some (.persist true)),
        (none, some (.observe "lease" (.v4 0x0a000005#32) 40000 "adapter" true)),
        (some 1, some (.persist true))] := by
  decide +kernel

/-- The next generation is delivered after a withdrawal and a restart, and a delayed delivery of
the first one is refused. -/
theorem generations_never_regress_refused :
    torrentHandler.stateFile ≠ "" ∧
      (exec torrentHandler.next (AdapterProcess.start "adapter")
        (deliverGeneration 1 ++ withdrawGeneration 1 ++ [.restart "adapter"] ++
          deliverGeneration 2 ++ deliverGeneration 1)).Pairwise fun a b => ¬ Regresses a b := by
  have hfresh : (exec torrentHandler.next (AdapterProcess.start "adapter")
      (deliverGeneration 1 ++ withdrawGeneration 1 ++ [.restart "adapter"] ++
        deliverGeneration 2 ++ deliverGeneration 1)).Pairwise
      fun a b => revives torrentHandler a b = false := by decide +kernel
  exact ⟨by decide, generations_never_regress torrentHandler (by decide) "adapter" _ hfresh⟩

end Waycloak.Analysis
