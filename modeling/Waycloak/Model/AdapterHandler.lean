import Mathlib.Logic.Function.Basic
import Waycloak.Model.Delivery

/-!
# The qBittorrent adapter

`Handler` answers the delivery and withdrawal requests of gateway runtimes one at a time,
under its mutex. A request is cut at the calls it makes: it stands at an `AdapterPoint`, and
the point's name says which call it makes next. A restart drops the request in progress and
everything in memory, so it can fall between any two calls.

`persist` writes a temporary file and renames it over the state file: a call that fails, or
is cut off, leaves the file as it was.
-/

set_option autoImplicit false

namespace Waycloak.Model

/-- What the adapter remembers of a lease; `0` is the zero time.
SOURCE: qbittorrentadapter/handler.go:52-57 -/
structure AdapterState where
  record : AdapterLeaseRecord
  appliedAt : Time
  observedAt : Time
  adapterPodUID : ObjectUID
  deriving DecidableEq

/-- When the application was last seen to listen; states of older releases have no such time.
SOURCE: qbittorrentadapter/handler.go:159-162 -/
def AdapterState.lastObserved (state : AdapterState) : Time :=
  if state.observedAt = 0 then state.appliedAt else state.observedAt

abbrev AdapterStates := ObjectUID → Option AdapterState

/-- SOURCE: qbittorrentadapter/handler.go:34-50 -/
structure AdapterHandler where
  namespaceName : NamespaceName
  name : ObjectName
  image : String
  stateFile : String
  deriving DecidableEq

/-- A request that passed the checks of path, method, peer and size; the body is missing when
it does not decode.
SOURCE: qbittorrentadapter/handler.go:123-130 -/
inductive AdapterRequest where
  | deliver (leaseUID : ObjectUID) (body : Option AdapterLeaseRecord)
  | withdraw (leaseUID : ObjectUID) (body : Option AdapterWithdrawalIntent)
  deriving DecidableEq

/-- The readings of the clock when a record is validated, and when the request is decided. -/
structure AdapterClock where
  validatedAt : Time
  decidedAt : Time
  deriving DecidableEq

/-- Where a request stands: the call it makes next, with the variables it still uses. -/
inductive AdapterPoint where
  | renewing (record : AdapterLeaseRecord) (previous : AdapterState) (now : Time)
  | intending (pending : AdapterState) (previous : Option AdapterState) (needsApply : Bool)
  | applying (pending : AdapterState)
  | recording (pending : AdapterState)
  | observing (pending : AdapterState)
  | concluding (delivered : AdapterState)
  | restoring (intent : AdapterWithdrawalIntent) (state : AdapterState)
  | confirming (intent : AdapterWithdrawalIntent) (state : AdapterState)
  | forgetting (intent : AdapterWithdrawalIntent) (state : AdapterState)
  deriving DecidableEq

namespace AdapterPoint

def leaseUID : AdapterPoint → ObjectUID
  | .renewing record _ _ => record.leaseUID
  | .intending pending _ _ | .applying pending | .recording pending | .observing pending
  | .concluding pending => pending.record.leaseUID
  | .restoring intent _ | .confirming intent _ | .forgetting intent _ => intent.leaseUID

/-- What memory holds of the lease while the request stands at the point. -/
def held : AdapterPoint → Option AdapterState
  | .renewing record previous now => some { previous with record, observedAt := now }
  | .intending pending _ _ | .applying pending | .recording pending | .observing pending
  | .concluding pending => some pending
  | .restoring _ state | .confirming _ state => some state
  | .forgetting _ _ => none

/-- What memory falls back to when the call at the point fails. -/
def fallback : AdapterPoint → Option AdapterState
  | .renewing _ previous _ => some previous
  | .intending _ previous _ => previous
  | .applying pending | .recording pending | .observing pending | .concluding pending =>
    some pending
  | .restoring _ state | .confirming _ state | .forgetting _ state => some state

end AdapterPoint

/-- A call made for a lease, and whether it succeeded. -/
inductive AdapterEffect where
  | apply (leaseUID : ObjectUID) (address : Addr) (port : UInt16) (succeeded : Bool)
  | observe (leaseUID : ObjectUID) (address : Addr) (port : UInt16) (podUID : ObjectUID)
      (succeeded : Bool)
  | persist (succeeded : Bool)
  deriving DecidableEq

inductive AdapterRejection where
  | badRequest | conflict | serviceUnavailable
  deriving DecidableEq

inductive AdapterResponse where
  | acknowledged (record : AdapterLeaseRecord) (observedAt : Time)
  | withdrawn (intent : AdapterWithdrawalIntent) (observedAt : Time)
  | rejected (status : AdapterRejection)
  deriving DecidableEq

structure AdapterOutput where
  effect : Option AdapterEffect
  response : Option AdapterResponse
  deriving DecidableEq

/-- The adapter's process: its Pod, the states in memory once they are loaded, the state file
and the request that holds the mutex. -/
structure AdapterProcess where
  podUID : ObjectUID
  states : Option AdapterStates
  file : AdapterStates
  running : Option AdapterPoint

/-- How a call ends, the clock after it, and whether a failed observation was the last one
before the deadline. -/
structure AdapterAnswer where
  succeeded : Bool
  deadline : Bool
  now : Time
  deriving DecidableEq

/-- What happens next: a request gets the mutex (`readable`: the state file can be loaded),
the call of the request in progress ends, or the adapter starts again. -/
inductive AdapterInput where
  | request (request : AdapterRequest) (readable : Bool) (clock : AdapterClock)
  | answer (answer : AdapterAnswer)
  | restart (podUID : ObjectUID)
  deriving DecidableEq

namespace AdapterProcess

/-- An adapter that starts for the first time. -/
def start (podUID : ObjectUID) : AdapterProcess :=
  { podUID, states := none, file := fun _ => none, running := none }

/-- The states in memory. -/
def memory (s : AdapterProcess) : AdapterStates :=
  s.states.getD fun _ => none

/-- Set or delete the state of a lease in memory. -/
def put (s : AdapterProcess) (leaseUID : ObjectUID) (state : Option AdapterState) :
    AdapterProcess :=
  { s with states := some (Function.update s.memory leaseUID state) }

/-- The request goes on to its next call. -/
def goto (s : AdapterProcess) (p : AdapterPoint) : AdapterProcess :=
  { s with running := some p }

/-- The request is over. -/
def release (s : AdapterProcess) : AdapterProcess :=
  { s with running := none }

/-- Answer the request without a call. -/
def respond (s : AdapterProcess) (response : AdapterResponse) : AdapterProcess × AdapterOutput :=
  (s.release, ⟨none, some response⟩)

end AdapterProcess

/-! ## Records -/

/-- SOURCE: qbittorrentadapter/handler.go:284-288 -/
def sameApplicationIdentity (left right : AdapterLeaseRecord) : Bool :=
  left.leaseUID == right.leaseUID && left.handoffGeneration == right.handoffGeneration &&
    left.podUID == right.podUID && left.publicAddress == right.publicAddress &&
    left.publicPort == right.publicPort && left.targetPort == right.targetPort &&
    left.applicationAddress == right.applicationAddress && left.backendPort == right.backendPort &&
    left.protocols == right.protocols

/-- SOURCE: qbittorrentadapter/handler.go:290-292 -/
def recordsEqual (left right : AdapterLeaseRecord) : Bool :=
  sameApplicationIdentity left right && left.apiVersion == right.apiVersion &&
    left.leaseNamespace == right.leaseNamespace && left.expiresAt == right.expiresAt

/-- A record the adapter must refuse next to the one it holds.
SOURCE: qbittorrentadapter/handler.go:139-143 -/
def contradicts (record previous : AdapterLeaseRecord) : Bool :=
  decide (record.handoffGeneration < previous.handoffGeneration) ||
    record.handoffGeneration == previous.handoffGeneration &&
      (record.podUID != previous.podUID ||
        record.applicationAddress != previous.applicationAddress ||
        record.targetPort != previous.targetPort)

namespace AdapterHandler

variable (h : AdapterHandler) (s : AdapterProcess)

/-- SOURCE: qbittorrentadapter/handler.go:319-340 -/
def validRecord (record : AdapterLeaseRecord) (leaseUID : ObjectUID) (now : Time) : Bool :=
  record.apiVersion == adapterAPIVersion && record.leaseNamespace == h.namespaceName &&
    record.leaseUID == leaseUID && decide (1 ≤ record.handoffGeneration) &&
    record.podUID != "" && record.applicationAddress.is4 && record.publicAddress.isValid &&
    record.publicAddress.isGlobalUnicast && record.publicPort != 0 &&
    record.targetPort == record.publicPort && record.backendPort != 0 &&
    decide (now < record.expiresAt) &&
    record.protocols.all (fun protocol => protocol == .tcp || protocol == .udp) &&
    record.protocols.contains .tcp && record.protocols.contains .udp &&
    record.protocols.length == 2

/-- SOURCE: qbittorrentadapter/handler.go:213-214 -/
def validWithdrawal (intent : AdapterWithdrawalIntent) (leaseUID : ObjectUID) : Bool :=
  intent.apiVersion == adapterAPIVersion && intent.leaseNamespace == h.namespaceName &&
    intent.leaseUID == leaseUID && decide (1 ≤ intent.handoffGeneration) && intent.podUID != ""

/-! ## The state file -/

/-- Whether there is a state file. -/
def durable : Bool := h.stateFile != ""

/-- SOURCE: qbittorrentadapter/handler.go:60-79 -/
def load (readable : Bool) : Option AdapterStates :=
  if h.durable = false then some fun _ => none
  else if readable then some s.file
  else none

/-- Whether `persist` succeeds: without a state file it always does.
SOURCE: qbittorrentadapter/handler.go:349-374 -/
def persists (a : AdapterAnswer) : Bool :=
  !h.durable || a.succeeded

/-- The process after `persist` has succeeded. -/
def persist : AdapterProcess :=
  if h.durable then { s with file := s.memory } else s

/-! ## Delivery -/

/-- The pending state is put and persisted before the application is touched.
SOURCE: qbittorrentadapter/handler.go:166-171 -/
def intend (record : AdapterLeaseRecord) (previous : Option AdapterState)
    (appliedAt : Time) (needsApply : Bool) : AdapterProcess × AdapterOutput :=
  let pending : AdapterState := { record, appliedAt, observedAt := 0, adapterPodUID := "" }
  ((s.put record.leaseUID (some pending)).goto (.intending pending previous needsApply),
    ⟨none, none⟩)

/-- The part of `deliver` before its first call.
SOURCE: qbittorrentadapter/handler.go:132-171 -/
def deliver (leaseUID : ObjectUID)
    (body : Option AdapterLeaseRecord) (clock : AdapterClock) : AdapterProcess × AdapterOutput :=
  match body with
  | none => s.respond (.rejected .badRequest)
  | some record =>
    if h.validRecord record leaseUID clock.validatedAt = false then
      s.respond (.rejected .badRequest)
    else match s.memory leaseUID with
      | none => intend s record none 0 true
      | some previous =>
        let identityEqual := sameApplicationIdentity record previous.record
        if contradicts record previous.record then s.respond (.rejected .conflict)
        else if identityEqual ∧ previous.adapterPodUID = s.podUID ∧
            record.expiresAt ≠ previous.record.expiresAt ∧ previous.appliedAt ≠ 0 then
          let renewed := { previous with record, observedAt := clock.decidedAt }
          ((s.put leaseUID (some renewed)).goto (.renewing record previous clock.decidedAt),
            ⟨none, none⟩)
        else if identityEqual ∧ previous.adapterPodUID = s.podUID ∧
            recordsEqual record previous.record ∧
            clock.decidedAt - defaultObservationFreshness < previous.lastObserved then
          s.respond (.acknowledged record previous.lastObserved)
        else if identityEqual = false ∨ previous.appliedAt = 0 then
          intend s record (some previous) 0 true
        else intend s record (some previous) previous.appliedAt false

/-! ## Withdrawal -/

/-- The part of `withdraw` before its first call.
SOURCE: qbittorrentadapter/handler.go:211-226 -/
def withdraw (leaseUID : ObjectUID) (body : Option AdapterWithdrawalIntent) (clock : AdapterClock) :
    AdapterProcess × AdapterOutput :=
  match body with
  | none => s.respond (.rejected .badRequest)
  | some intent =>
    if h.validWithdrawal intent leaseUID = false then s.respond (.rejected .badRequest)
    else match s.memory leaseUID with
      | none => s.respond (.withdrawn intent clock.decidedAt)
      | some state =>
        if state.record.handoffGeneration ≠ intent.handoffGeneration ∨
            state.record.podUID ≠ intent.podUID then s.respond (.rejected .conflict)
        else (s.goto (.restoring intent state), ⟨none, none⟩)

/-- The state is deleted from memory, then from the file.
SOURCE: qbittorrentadapter/handler.go:241-242 -/
def forget (intent : AdapterWithdrawalIntent) (state : AdapterState) : AdapterProcess :=
  (s.put intent.leaseUID none).goto (.forgetting intent state)

/-! ## The calls of a request -/

/-- The call a request stands at ends, and the request goes on to the next one or is answered.
SOURCE: qbittorrentadapter/handler.go:145-158, 171-209, 225-282 -/
def act (a : AdapterAnswer) : AdapterPoint → AdapterProcess × AdapterOutput
  | .renewing record previous now =>
    let effect := some (.persist (h.persists a))
    if h.persists a then ((h.persist s).release, ⟨effect, some (.acknowledged record now)⟩)
    else ((s.put record.leaseUID (some previous)).release,
      ⟨effect, some (.rejected .serviceUnavailable)⟩)
  | .intending pending previous needsApply =>
    let effect := some (.persist (h.persists a))
    if h.persists a then
      ((h.persist s).goto (if needsApply then .applying pending else .observing pending),
        ⟨effect, none⟩)
    else ((s.put pending.record.leaseUID previous).release,
      ⟨effect, some (.rejected .serviceUnavailable)⟩)
  | .applying pending =>
    let effect := some (.apply pending.record.leaseUID pending.record.applicationAddress
      pending.record.targetPort a.succeeded)
    if a.succeeded then
      let applied := { pending with appliedAt := a.now }
      ((s.put pending.record.leaseUID (some applied)).goto (.recording applied), ⟨effect, none⟩)
    else (s.release, ⟨effect, some (.rejected .serviceUnavailable)⟩)
  | .recording pending =>
    let effect := some (.persist (h.persists a))
    if h.persists a then ((h.persist s).goto (.observing pending), ⟨effect, none⟩)
    else (s.release, ⟨effect, some (.rejected .serviceUnavailable)⟩)
  | .observing pending =>
    let effect := some (.observe pending.record.leaseUID pending.record.applicationAddress
      pending.record.targetPort s.podUID a.succeeded)
    if a.succeeded then
      let delivered := { pending with observedAt := a.now, adapterPodUID := s.podUID }
      ((s.put pending.record.leaseUID (some delivered)).goto (.concluding delivered),
        ⟨effect, none⟩)
    else if a.deadline then (s.release, ⟨effect, some (.rejected .serviceUnavailable)⟩)
    else (s, ⟨effect, none⟩)
  | .concluding delivered =>
    let effect := some (.persist (h.persists a))
    if h.persists a then
      ((h.persist s).release,
        ⟨effect, some (.acknowledged delivered.record delivered.observedAt)⟩)
    else (s.release, ⟨effect, some (.rejected .serviceUnavailable)⟩)
  | .restoring intent state =>
    let effect := some (.apply intent.leaseUID state.record.applicationAddress
      state.record.backendPort a.succeeded)
    if a.succeeded then (s.goto (.confirming intent state), ⟨effect, none⟩)
    else if intent.applicationEndpointRetired then (forget s intent state, ⟨effect, none⟩)
    else (s.release, ⟨effect, some (.rejected .serviceUnavailable)⟩)
  | .confirming intent state =>
    let effect := some (.observe intent.leaseUID state.record.applicationAddress
      state.record.backendPort s.podUID a.succeeded)
    if a.succeeded then (forget s intent state, ⟨effect, none⟩)
    else if a.deadline = false then (s, ⟨effect, none⟩)
    else if intent.applicationEndpointRetired then (forget s intent state, ⟨effect, none⟩)
    else (s.release, ⟨effect, some (.rejected .serviceUnavailable)⟩)
  | .forgetting intent state =>
    let effect := some (.persist (h.persists a))
    if h.persists a then ((h.persist s).release, ⟨effect, some (.withdrawn intent a.now)⟩)
    else ((s.put intent.leaseUID (some state)).release,
      ⟨effect, some (.rejected .serviceUnavailable)⟩)

/-! ## Steps -/

/-- A request that gets the mutex.
SOURCE: qbittorrentadapter/handler.go:81-130 -/
def serve (request : AdapterRequest) (readable : Bool)
    (clock : AdapterClock) : AdapterProcess × AdapterOutput :=
  if h.namespaceName = "" ∨ h.name = "" ∨ h.image = "" ∨ s.podUID = "" then
    s.respond (.rejected .badRequest)
  else
    match s.states.or (h.load s readable) with
    | none => s.respond (.rejected .serviceUnavailable)
    | some states =>
      let loaded := { s with states := some states }
      match request with
      | .deliver leaseUID body => h.deliver loaded leaseUID body clock
      | .withdraw leaseUID body => h.withdraw loaded leaseUID body clock

/-- One step of the adapter. A request that finds the mutex taken, and an answer nobody waits
for, change nothing. -/
def next : AdapterInput → AdapterProcess × AdapterOutput
  | .request request readable clock =>
    match s.running with
    | some _ => (s, ⟨none, none⟩)
    | none => h.serve s request readable clock
  | .answer a =>
    match s.running with
    | some p => h.act s a p
    | none => (s, ⟨none, none⟩)
  | .restart podUID => ({ s with podUID, states := none, running := none }, ⟨none, none⟩)

end AdapterHandler

end Waycloak.Model
