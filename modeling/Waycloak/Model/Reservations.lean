import Mathlib.Algebra.Group.Nat.Defs
import Waycloak.Computation.KeyedStore
import Waycloak.Model.Controller

/-!
# Provider port reservations

`ProviderPortAllocator` keeps one `coordination.k8s.io` Lease per reserved provider port in
the gateway's namespace. `Recover` reads, `Quarantine` reads and patches, `Reserve` reads,
deletes expired quarantines, and creates; none of them holds a lock, so each API request is
a step of its own and other calls may come between two of them.

`ReserveCall` and `QuarantineCall` are such calls between two requests, `reserveStep` and
`quarantineStep` one step of each on the stored reservations. What the API answers is an
input: a read may see an older store, and a failed write may have taken effect. The loop
over the listed reservations takes one step per reservation, whether or not it makes a
request for it.

The digests of `crypto/sha256` are a parameter. A Lease's holder, acquire time and field
manager are written and never read, and left out. A reservation's port label stands for
the number it reads as.
-/

set_option autoImplicit false

namespace Waycloak.Model

open Waycloak.Computation

/-! ## Reservations -/

/-- What the allocator takes from `crypto/sha256`: the label value and the short form of a UID,
and the first four bytes of the digest of a gateway UID and a lease UID.
SOURCE: portforward/allocation.go:110-111, 193-201 -/
structure Digest where
  identityLabelValue : ObjectUID → String
  shortUID : ObjectUID → String
  seed : ObjectUID → ObjectUID → ℕ

/-- The state label: the two named states, or any other text.
SOURCE: portforward/allocation.go:34-36 -/
inductive ReservationState where
  | active | quarantine
  | other (text : String)
  deriving DecidableEq

/-- A reservation Lease; an absent label or annotation reads as `""`.
SOURCE: portforward/allocation.go:28-36, 170-178 -/
structure ProviderReservation where
  namespaceName : NamespaceName
  name : ObjectName
  reservationLabel : String
  gatewayUIDLabel : String
  leaseUIDLabel : String
  portLabel : Option UInt16
  stateLabel : ReservationState
  gatewayUIDAnnotation : ObjectUID
  leaseUIDAnnotation : ObjectUID
  renewTime : Option Time
  leaseDurationSeconds : Option Int
  deriving DecidableEq

namespace ProviderReservation

variable (r : ProviderReservation)

def key : NamespaceName × ObjectName := (r.namespaceName, r.name)

/-- SOURCE: portforward/allocation.go:180-183 -/
def port : Option UInt16 :=
  r.portLabel.filter fun value => providerPortFirst ≤ value && value ≤ providerPortLast

/-- The end of a quarantine. -/
def deadline : Option Time :=
  match r.renewTime, r.leaseDurationSeconds with
  | some renewed, some seconds => some (renewed + seconds * second)
  | _, _ => none

/-- SOURCE: portforward/allocation.go:185-190 -/
def quarantineExpired (now : Time) : Bool :=
  match r.deadline with
  | some deadline => decide (deadline ≤ now)
  | none => false

/-- A LIST in a namespace that matches the reservation label and the given identity labels. -/
def listed (namespaceName : NamespaceName) (gatewayUIDLabel leaseUIDLabel : Option String) : Bool :=
  r.namespaceName == namespaceName && r.reservationLabel == "true" &&
    gatewayUIDLabel.all (fun value => r.gatewayUIDLabel == value) &&
    leaseUIDLabel.all (fun value => r.leaseUIDLabel == value)

/-- The reservation is an active one of the lease.
SOURCE: portforward/allocation.go:98, 125 -/
def activeFor (d : Digest) (leaseUID : ObjectUID) : Bool :=
  r.leaseUIDLabel == d.identityLabelValue leaseUID &&
    r.leaseUIDAnnotation == leaseUID && r.stateLabel == .active

end ProviderReservation

abbrev ReservationStore := KeyedStore ProviderReservation.key

variable (d : Digest)

/-- SOURCE: portforward/allocation.go:174 -/
def reservationName (gateway : VPNGateway) (port : UInt16) : ObjectName :=
  "waycloak-pf-" ++ d.shortUID gateway.uid ++ "-" ++ Nat.repr port.toNat

/-- SOURCE: portforward/allocation.go:170-178 -/
def desiredProviderReservation (leaseUID : ObjectUID) (gateway : VPNGateway)
    (port : UInt16) : ProviderReservation :=
  { namespaceName := gateway.namespaceName
    name := reservationName d gateway port
    reservationLabel := "true"
    gatewayUIDLabel := d.identityLabelValue gateway.uid
    leaseUIDLabel := d.identityLabelValue leaseUID
    portLabel := some port
    stateLabel := .active
    gatewayUIDAnnotation := gateway.uid
    leaseUIDAnnotation := leaseUID
    renewTime := none
    leaseDurationSeconds := none }

/-! ## Recover -/

/-- The reservations of a lease that `Recover` counts.
SOURCE: portforward/allocation.go:56-63 -/
def recoverable (leaseUID : ObjectUID) (gatewayNamespace : NamespaceName)
    (view : List ProviderReservation) : List ProviderReservation :=
  view.filter fun r =>
    r.listed gatewayNamespace none (some (d.identityLabelValue leaseUID)) &&
      r.leaseUIDAnnotation == leaseUID

/-- `ProviderPortAllocator.Recover` on the listing it gets.
SOURCE: portforward/allocation.go:52-78 -/
def recoverReservation (leaseUID : ObjectUID) (gatewayNamespace : NamespaceName)
    (view : Except String (List ProviderReservation)) :
    Except RecoverError ProviderReservationIdentity :=
  if leaseUID = "" ∨ gatewayNamespace = "" then
    .error (.other "exact lease identity and gateway namespace are required")
  else match view with
    | .error err => .error (.other ("recover provider port reservation: " ++ err))
    | .ok view =>
      match recoverable d leaseUID gatewayNamespace view with
      | [] => .error .notFound
      | [reservation] =>
        match reservation.port with
        | some port =>
          if reservation.gatewayUIDAnnotation = "" ∨ reservation.gatewayUIDLabel ≠
              d.identityLabelValue reservation.gatewayUIDAnnotation then
            .error (.other "provider port reservation identity is malformed")
          else
            .ok { gatewayUID := reservation.gatewayUIDAnnotation
                  gatewayNamespace := reservation.namespaceName, port }
        | none => .error (.other "provider port reservation identity is malformed")
      | found =>
        .error (.other ("expected one exact provider reservation, found " ++
          Nat.repr found.length))

/-! ## One API request -/

/-- What a step of a call does to a reservation: it deletes the one stored under the name of one it
was shown, patches it, or returns a port, of a reservation it was shown or has just created. -/
inductive AllocationEvent where
  | quiet
  | deleted (shown : ProviderReservation) (stored : Option ProviderReservation)
  | patched (shown : ProviderReservation) (stored : Option ProviderReservation)
  | returned (port : UInt16) (shown : Option ProviderReservation)
  deriving DecidableEq

/-- How the API answers a request: with an error, although a write may have taken effect, and what
a read sees; and the clock. -/
structure Answer where
  failure : Option String
  applied : Bool
  view : List ProviderReservation
  now : Time

/-- A write takes effect. -/
def Answer.takesEffect (answer : Answer) : Bool := answer.failure.isNone || answer.applied

/-- The store after a write that would make it `written`. -/
def Answer.stored (answer : Answer) (store written : ReservationStore) : ReservationStore :=
  if answer.takesEffect then written else store

/-- What a write does, if it takes effect. -/
def Answer.event (answer : Answer) (event : AllocationEvent) : AllocationEvent :=
  if answer.takesEffect then event else .quiet

/-! ## Quarantine -/

/-- `int32((until.Sub(now) + time.Second - 1) / time.Second)`, and at least one.
SOURCE: portforward/allocation.go:158-161 -/
def quarantineSeconds (until_ now : Time) : Int :=
  let seconds := Int.bmod ((until_ - now + second - 1).tdiv second) (2 ^ 32)
  if seconds < 1 then 1 else seconds

/-- SOURCE: portforward/allocation.go:155-163 -/
def quarantined (reservation : ProviderReservation) (until_ now : Time) : ProviderReservation :=
  { reservation with
    stateLabel := .quarantine
    renewTime := some now
    leaseDurationSeconds := some (quarantineSeconds until_ now) }

/-- A merge patch: what differs between the two versions is set, the rest is left alone.
SOURCE: portforward/allocation.go:164 -/
def mergePatch (before after current : ProviderReservation) : ProviderReservation :=
  { current with
    stateLabel := if before.stateLabel = after.stateLabel then current.stateLabel
      else after.stateLabel
    renewTime := if before.renewTime = after.renewTime then current.renewTime else after.renewTime
    leaseDurationSeconds :=
      if before.leaseDurationSeconds = after.leaseDurationSeconds then current.leaseDurationSeconds
      else after.leaseDurationSeconds }

theorem mergePatch_key (before after current : ProviderReservation) :
    (mergePatch before after current).key = current.key := rfl

/-- A reservation as the API keeps it: a `metav1.MicroTime` is written with six decimals, and the
digits after them are cut off. -/
def ProviderReservation.serialized (r : ProviderReservation) : ProviderReservation :=
  { r with renewTime := r.renewTime.map fun time => time / 1000 * 1000 }

/-- The reservations of a lease on a gateway that `Quarantine` counts.
SOURCE: portforward/allocation.go:137-144 -/
def quarantinable (leaseUID : ObjectUID) (gateway : VPNGateway)
    (view : List ProviderReservation) : List ProviderReservation :=
  view.filter fun r =>
    r.listed gateway.namespaceName (some (d.identityLabelValue gateway.uid))
        (some (d.identityLabelValue leaseUID)) &&
      r.gatewayUIDAnnotation == gateway.uid && r.leaseUIDAnnotation == leaseUID

/-- A call of `Quarantine` before its LIST, before its PATCH, and after it returned. -/
inductive QuarantineCall where
  | listing
  | patching (now : Time) (target : ProviderReservation)
  | done (err : Option String)
  deriving DecidableEq

def multipleReservations : String := "multiple provider port reservations exist for one lease UID"

/-- One step of `ProviderPortAllocator.Quarantine`.
SOURCE: portforward/allocation.go:133-168 -/
def quarantineStep (leaseUID : ObjectUID) (gateway : VPNGateway) (until_ : Time)
    (answer : Answer) (store : ReservationStore) :
    QuarantineCall → QuarantineCall × ReservationStore × AllocationEvent
  | .listing =>
    if leaseUID = "" ∨ gateway.uid = "" ∨ until_ ≤ answer.now then
      (.done (some "exact provider reservation and future quarantine deadline are required"),
        store, .quiet)
    else match answer.failure with
      | some err => (.done (some err), store, .quiet)
      | none =>
        match quarantinable d leaseUID gateway answer.view with
        | [] => (.done none, store, .quiet)
        | [target] => (.patching answer.now target, store, .quiet)
        | _ => (.done (some multipleReservations), store, .quiet)
  | .patching now target =>
    let stored := store.find target.key
    let patch := mergePatch target (quarantined target until_ now)
    let patched := answer.stored store (store.update target.key patch (mergePatch_key _ _))
    match answer.failure, stored with
    | some err, _ =>
      (.done (some ("quarantine provider port reservation: " ++ err)), patched,
        answer.event (.patched target stored))
    | none, none => (.done (some "quarantine provider port reservation: not found"), store, .quiet)
    | none, some _ => (.done none, patched, .patched target stored)
  | .done err => (.done err, store, .quiet)

/-! ## Reserve -/

/-- The number of provider ports.
SOURCE: portforward/allocation.go:109 -/
def providerPortCount : ℕ := (providerPortLast - providerPortFirst).toNat + 1

/-- The port a lease tries at an offset.
SOURCE: portforward/allocation.go:110-113 -/
def probePort (gatewayUID leaseUID : ObjectUID) (offset : ℕ) : UInt16 :=
  let start := d.seed gatewayUID leaseUID % providerPortCount
  providerPortFirst + UInt16.ofNat ((start + offset) % providerPortCount)

/-- A call of `Reserve`: before its LIST, in the loop over the listed reservations, before a CREATE,
before the GET that follows a refused CREATE, and after it returned. -/
inductive ReserveCall where
  | listing
  | sweeping (now : Time) (listing rest : List ProviderReservation) (occupied : List UInt16)
  | probing (now : Time) (listing : List ProviderReservation) (occupied : List UInt16) (offset : ℕ)
  | readingBack (now : Time) (listing : List ProviderReservation) (occupied : List UInt16)
      (offset : ℕ)
  | done (result : Except String UInt16)
  deriving DecidableEq

/-- One step of `ProviderPortAllocator.Reserve`.
SOURCE: portforward/allocation.go:80-131 -/
def reserveStep (leaseUID : ObjectUID) (gateway : VPNGateway) (answer : Answer)
    (store : ReservationStore) : ReserveCall → ReserveCall × ReservationStore × AllocationEvent
  | .listing =>
    if leaseUID = "" ∨ gateway.uid = "" then
      (.done (.error "exact lease and gateway identity are required for provider port allocation"),
        store, .quiet)
    else match answer.failure with
      | some err => (.done (.error ("list provider port reservations: " ++ err)), store, .quiet)
      | none =>
        let items := answer.view.filter fun r =>
          r.listed gateway.namespaceName (some (d.identityLabelValue gateway.uid)) none
        (.sweeping answer.now items items [], store, .quiet)
  | .sweeping now items [] occupied => (.probing now items occupied 0, store, .quiet)
  | .sweeping now items (item :: rest) occupied =>
    if item.gatewayUIDAnnotation ≠ gateway.uid then
      (.sweeping now items rest occupied, store, .quiet)
    else match item.port with
      | none =>
        (.done (.error ("provider port reservation " ++ item.name ++ " is malformed")), store, .quiet)
      | some port =>
        if item.activeFor d leaseUID then (.done (.ok port), store, .returned port (some item))
        else if item.stateLabel = .quarantine ∧ item.quarantineExpired now = true then
          let deleted := answer.stored store (store.delete item.key)
          let event := answer.event (.deleted item (store.find item.key))
          match answer.failure with
          | some err =>
            (.done (.error ("remove expired provider port quarantine: " ++ err)), deleted, event)
          | none => (.sweeping now items rest occupied, deleted, event)
        else (.sweeping now items rest (port :: occupied), store, .quiet)
  | .probing now items occupied offset =>
    if providerPortCount ≤ offset then
      (.done (.error "provider internal port range is exhausted"), store, .quiet)
    else
      let port := probePort d gateway.uid leaseUID offset
      if port ∈ occupied then (.probing now items occupied (offset + 1), store, .quiet)
      else match store.create (desiredProviderReservation d leaseUID gateway port), answer.failure with
        | some created, none => (.done (.ok port), created, .returned port none)
        | none, none => (.readingBack now items occupied offset, store, .quiet)
        | some created, some err =>
          (.done (.error ("create provider port reservation: " ++ err)),
            answer.stored store created, .quiet)
        | none, some err =>
          (.done (.error ("create provider port reservation: " ++ err)), store, .quiet)
  | .readingBack now items occupied offset =>
    let port := probePort d gateway.uid leaseUID offset
    let key := (desiredProviderReservation d leaseUID gateway port).key
    match answer.failure, answer.view.find? (fun r => r.key = key) with
    | none, some existing =>
      if existing.activeFor d leaseUID then
        (.done (.ok port), store, .returned port (some existing))
      else (.probing now items occupied (offset + 1), store, .quiet)
    | _, _ => (.probing now items occupied (offset + 1), store, .quiet)
  | .done result => (.done result, store, .quiet)

/-- The steps of a call of `Reserve`; each meets the store as it is then. -/
def reserveCall (d : Digest) (leaseUID : ObjectUID) (gateway : VPNGateway) :
    List (Answer × ReservationStore) → ReserveCall → ReserveCall
  | [], call => call
  | (answer, store) :: steps, call =>
    reserveCall d leaseUID gateway steps (reserveStep d leaseUID gateway answer store call).1

/-! ## Concurrent calls on one gateway -/

/-- A call for a lease. -/
inductive AllocatorCall where
  | reserve (leaseUID : ObjectUID) (call : ReserveCall)
  | quarantine (leaseUID : ObjectUID) (until_ : Time) (call : QuarantineCall)
  deriving DecidableEq

def AllocatorCall.leaseUID : AllocatorCall → ObjectUID
  | .reserve leaseUID _ => leaseUID
  | .quarantine leaseUID _ _ => leaseUID

/-- One step of a call. -/
def AllocatorCall.step (d : Digest) (gateway : VPNGateway) (answer : Answer)
    (store : ReservationStore) : AllocatorCall → AllocatorCall × ReservationStore × AllocationEvent
  | .reserve leaseUID call =>
    let (call, store, event) := reserveStep d leaseUID gateway answer store call
    (.reserve leaseUID call, store, event)
  | .quarantine leaseUID until_ call =>
    let (call, store, event) := quarantineStep d leaseUID gateway until_ answer store call
    (.quarantine leaseUID until_ call, store, event)

/-- The stored reservations with all earlier versions of the store, the clock, and the calls. -/
structure Allocation where
  store : ReservationStore
  past : List ReservationStore
  now : Time
  calls : List AllocatorCall

/-- A step of the allocation system: a call starts, a call in progress takes its next step, or time
passes. A read sees the store as it was `age` versions ago. -/
inductive AllocationInput where
  | reserve (leaseUID : ObjectUID)
  | quarantine (leaseUID : ObjectUID) (until_ : Time)
  | proceed (index : ℕ) (age : ℕ) (failure : Option String) (applied : Bool)
  | tick (elapsed : ℕ)
  deriving DecidableEq

/-- The store as it was `age` versions ago. -/
def Allocation.view (s : Allocation) (age : ℕ) : ReservationStore :=
  ((s.store :: s.past)[age]?).getD s.store

/-- What a step shows: the call that took it, and what it did. -/
abbrev AllocationOutput := Option (AllocatorCall × AllocationEvent)

/-- One step of the allocation system of a gateway. -/
def Allocation.next (gateway : VPNGateway) (s : Allocation) :
    AllocationInput → Allocation × AllocationOutput
  | .reserve leaseUID => ({ s with calls := s.calls ++ [.reserve leaseUID .listing] }, none)
  | .quarantine leaseUID until_ =>
    ({ s with calls := s.calls ++ [.quarantine leaseUID until_ .listing] }, none)
  | .proceed index age failure applied =>
    match s.calls[index]? with
    | none => (s, none)
    | some call =>
      let answer : Answer := { failure, applied, view := (s.view age).entries, now := s.now }
      let (call', store, event) := call.step d gateway answer s.store
      ({ s with store, past := s.store :: s.past, calls := s.calls.set index call' },
        some (call, event))
  | .tick elapsed => ({ s with now := s.now + elapsed }, none)

/-! ## The cleanup of a deleted lease -/

/-- How the API answers the requests of one cleanup: a LIST shows the stored reservations, and any
request may fail. The two clocks are the controller's and the allocator's. -/
structure CleanupAnswers where
  gateway : Except String VPNGateway
  recoverFailure : Option String
  listFailure : Option String
  patchFailure : Option String
  patchApplied : Bool
  now : Time
  quarantineNow : Time

/-- What a call of `Quarantine` returns. -/
def QuarantineCall.result : QuarantineCall → Option String
  | .done err => err
  | .listing | .patching _ _ => some "not done"

/-- `ProviderPortAllocator.Quarantine` with no other call between its two requests.
SOURCE: portforward/allocation.go:133-168 -/
def quarantineCall (leaseUID : ObjectUID) (gateway : VPNGateway) (until_ : Time)
    (answers : CleanupAnswers) (store : ReservationStore) : Option String × ReservationStore :=
  let list : Answer :=
    { failure := answers.listFailure, applied := false, view := store.entries
      now := answers.quarantineNow }
  let patch : Answer :=
    { failure := answers.patchFailure, applied := answers.patchApplied, view := store.entries
      now := answers.quarantineNow }
  let listed := quarantineStep d leaseUID gateway until_ list store .listing
  let patched := quarantineStep d leaseUID gateway until_ patch listed.2.1 listed.1
  (patched.1.result, patched.2.1)

/-- The API of a cleanup over the stored reservations; the answers a cleanup does not ask for are
those of `api`. -/
def cleanupView (answers : CleanupAnswers) (store : ReservationStore)
    (lease : PortForwardLease) (api : ApiView) : ApiView :=
  { api with
    gateway := answers.gateway
    recover := recoverReservation d lease.uid lease.spec.gatewayRef.namespaceName
      (match answers.recoverFailure with
        | some err => .error err
        | none => .ok store.entries)
    quarantine := fun gateway until_ => (quarantineCall d lease.uid gateway until_ answers store).1
    now := answers.now }

namespace PortForwardLeaseReconciler

/-- The quarantine a cleanup asks of the runtime.
SOURCE: portforward/controller.go:422-428 -/
def runtimeQuarantine (r : PortForwardLeaseReconciler) (runtime : Option Runtime) (api : ApiView)
    (lease : PortForwardLease) (gateway : VPNGateway) (withdrawn : Bool) : Option String :=
  match runtime with
  | some runtime =>
    if withdrawn then none
    else runtime.quarantine gateway { withdrawalFor lease gateway with releaseProvider := true }
      (api.now + r.cleanupTimeout)
  | none => none

/-- The stored reservations after a cleanup.
SOURCE: portforward/controller.go:384-440 -/
def cleanupStore (r : PortForwardLeaseReconciler) (runtime : Option Runtime) (d : Digest)
    (answers : CleanupAnswers) (store : ReservationStore) (api : ApiView) (lease : PortForwardLease)
    (deletedAt : Time) : ReservationStore :=
  let view := cleanupView d answers store lease api
  let withdrawn := (r.cleanupWithdrawal runtime view lease).2
  if lease.finalizers.contains providerCleanupFinalizer = false then store
  else if withdrawn = false ∧ view.now < deletedAt + r.cleanupTimeout then store
  else match cleanupGateway view lease with
    | .error _ => store
    | .ok gateway =>
      match r.runtimeQuarantine runtime view lease gateway withdrawn with
      | some _ => store
      | none => (quarantineCall d lease.uid gateway (view.now + r.cleanupTimeout) answers store).2

end PortForwardLeaseReconciler

end Waycloak.Model
