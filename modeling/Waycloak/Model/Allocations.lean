import Waycloak.Computation.Interleaving
import Waycloak.Model.PodBindings

/-!
# Address reservations and the allocator

`Allocator` keeps the workload addresses of a gateway as Lease objects, one under a name
that is derived from the gateway's UID and the address. `Reserve` probes the pool in an
order that depends on the Pod alone, `Ensure` restores the reservation a binding records,
`Quarantine` marks it as never to be used again and `Release` deletes it.

Each of them is a sequence of API calls. `AddressCall` is where one of them stands: the
constructor names the API call it makes next, with what the code still knows then. A CREATE
is refused when the name is taken; DELETE and PATCH name an object and carry no
precondition; a GET or LIST may show an earlier state of the store.
-/

set_option autoImplicit false

namespace Waycloak.Model

open Waycloak.Computation

/-! ## Reservations -/

/-- `ReservationStateActive` and `ReservationStateQuarantined`. -/
inductive AddressReservationState where
  | active | quarantined
  deriving DecidableEq

/-- A reservation: the labels, the annotations and the holder of the Lease. -/
structure AddressLease where
  namespaceName : NamespaceName
  name : ObjectName
  managedBy : String
  gatewayIdentity : String
  gatewayUID : ObjectUID
  podUID : ObjectUID
  address : String
  state : AddressReservationState
  holderIdentity : Option String
  deletionTimestamp : Option Time
  deriving DecidableEq

def AddressLease.key (lease : AddressLease) : NamespaceName × ObjectName :=
  (lease.namespaceName, lease.name)

/-- The state annotation set to `Quarantined`.
SOURCE: binding/allocation.go:164-168 -/
def AddressLease.markQuarantined (lease : AddressLease) : AddressLease :=
  { lease with state := .quarantined }

theorem AddressLease.markQuarantined_key (lease : AddressLease) :
    lease.markQuarantined.key = lease.key := rfl

/-- `netip.ParsePrefix` and the digests: the first ten and the first sixteen bytes of a SHA-256
sum in hexadecimal, and its first four bytes as a number. -/
structure AllocatorLibraries where
  parsePrefix : String → Option Prefix
  shortHash : String → String
  longHash : String → String
  seed : String → ℕ

section Names

variable (libraries : AllocatorLibraries)

/-- SOURCE: binding/allocation.go:261-264 -/
def allocationIdentity (gatewayUID podUID : ObjectUID) : String :=
  "alloc-" ++
    libraries.longHash ("waycloak-allocation-v1\x00" ++ gatewayUID ++ "\x00" ++ podUID)

/-- SOURCE: binding/allocation.go:270-272 -/
def addressReservationName (gatewayUID : ObjectUID) (address : Prefix) : ObjectName :=
  "waycloak-address-" ++ libraries.shortHash (gatewayUID ++ "\x00" ++ address.string)

def reservationManagedByValue : String := "binding-controller"

/-- SOURCE: binding/allocation.go:218-242 -/
def desiredLease (gateway : NamespacedUIDReference) (podUID : ObjectUID) (identity : String)
    (address : Prefix) : AddressLease :=
  { namespaceName := gateway.namespaceName
    name := addressReservationName libraries gateway.uid address
    managedBy := reservationManagedByValue
    gatewayIdentity := libraries.shortHash gateway.uid
    gatewayUID := gateway.uid
    podUID := podUID
    address := address.string
    state := .active
    holderIdentity := some identity
    deletionTimestamp := none }

end Names

/-- What `reservationMatches` and `quarantineMatches` share: all but the state. -/
def leaseMatches (state : AddressReservationState) (lease : AddressLease)
    (gatewayUID podUID : ObjectUID) (identity : String) (address : Prefix) : Bool :=
  lease.holderIdentity == some identity && lease.gatewayUID == gatewayUID &&
    lease.podUID == podUID && lease.address == address.string && lease.state == state

/-- SOURCE: binding/allocation.go:244-250 -/
def reservationMatches (lease : AddressLease) (gatewayUID podUID : ObjectUID) (identity : String)
    (address : Prefix) : Bool :=
  leaseMatches .active lease gatewayUID podUID identity address

/-- SOURCE: binding/allocation.go:252-258 -/
def quarantineMatches (lease : AddressLease) (gatewayUID podUID : ObjectUID) (identity : String)
    (address : Prefix) : Bool :=
  leaseMatches .quarantined lease gatewayUID podUID identity address

/-! ## The probe order -/

/-- SOURCE: binding/allocation.go:68-71 -/
def Prefix.allocatable (pool : Prefix) : Bool :=
  pool.addr.is4 && 16 ≤ pool.bits && pool.bits ≤ 29

/-- The network, the gateway (`.1`) and the broadcast address are reserved.
SOURCE: binding/allocation.go:92-93 -/
def Prefix.usable (pool : Prefix) : ℕ := 2 ^ (32 - pool.bits) - 3

/-- `baseValue`: the first address of the pool.
SOURCE: binding/allocation.go:97-98 -/
def Prefix.baseValue (pool : Prefix) : BitVec 32 :=
  match pool.masked.addr with
  | .v4 bits => bits
  | _ => 0

/-- The address of an attempt.
SOURCE: binding/allocation.go:94-104 -/
def probedAddress (libraries : AllocatorLibraries) (podUID : ObjectUID) (pool : Prefix)
    (attempt : ℕ) : Prefix :=
  let start := libraries.seed podUID % pool.usable
  { addr := .v4 (pool.baseValue + BitVec.ofNat 32 (2 + (start + attempt) % pool.usable))
    bits := 32 }

/-! ## The API -/

abbrev AddressStore := KeyedStore AddressLease.key

/-- How an API call ends: as the store has it, refused with another error, or carried out with
its response lost. -/
inductive ApiOutcome where
  | answered
  | refused (text : String)
  | lost (text : String)
  deriving DecidableEq

/-- What the surroundings decide about one step: how many changes ago the state lies that a read
shows, and how the call ends. -/
structure ApiChoice where
  age : ℕ
  outcome : ApiOutcome
  deriving DecidableEq

inductive CreateAnswer where
  | created
  | alreadyExists
  | failed (text : String)
  deriving DecidableEq

namespace AddressAPI

/-- `Client.Create`. -/
def create (store : Snapshots AddressStore) (lease : AddressLease) :
    ApiOutcome → Snapshots AddressStore × CreateAnswer
  | .answered =>
    match store.current.create lease with
    | none => (store, .alreadyExists)
    | some next => (store.write next, .created)
  | .refused text => (store, .failed text)
  | .lost text => ((store.current.create lease).elim store store.write, .failed text)

/-- `Reader.Get`. -/
def get (store : Snapshots AddressStore) (key : NamespaceName × ObjectName) (choice : ApiChoice) :
    Except ReadError AddressLease :=
  match choice.outcome with
  | .refused text | .lost text => .error (.other text)
  | .answered =>
    match (store.read choice.age).find key with
    | none => .error .notFound
    | some lease => .ok lease

/-- `Reader.List` of one gateway's reservations. -/
def list (libraries : AllocatorLibraries) (store : Snapshots AddressStore)
    (gateway : NamespacedUIDReference) (choice : ApiChoice) : Except String (List AddressLease) :=
  match choice.outcome with
  | .refused text | .lost text => .error text
  | .answered =>
    .ok ((store.read choice.age).entries.filter fun lease =>
      lease.namespaceName == gateway.namespaceName &&
        lease.managedBy == reservationManagedByValue &&
        lease.gatewayIdentity == libraries.shortHash gateway.uid)

/-- The contents after a DELETE by name, and after the merge patch that sets the state. -/
def without (store : AddressStore) (key : NamespaceName × ObjectName) : AddressStore :=
  store.delete key

def quarantine (store : AddressStore) (key : NamespaceName × ObjectName) : AddressStore :=
  store.update key AddressLease.markQuarantined AddressLease.markQuarantined_key

/-- A write to an object by name; the object may be gone. -/
def change (write : AddressStore → NamespaceName × ObjectName → AddressStore)
    (store : Snapshots AddressStore) (key : NamespaceName × ObjectName) :
    ApiOutcome → Snapshots AddressStore × Option ReadError
  | .answered =>
    match store.current.find key with
    | none => (store, some .notFound)
    | some _ => (store.write (write store.current key), none)
  | .refused text => (store, some (.other text))
  | .lost text =>
    match store.current.find key with
    | none => (store, some (.other text))
    | some _ => (store.write (write store.current key), some (.other text))

end AddressAPI

/-! ## The calls -/

/-- The errors of the allocator.
SOURCE: binding/allocation.go:39-45 -/
inductive AllocatorError where
  | uidsRequired
  | unsafePool
  | poolExhausted
  | reservationConflict
  | reservationDeleting
  | identityQuarantined
  | addressInvalid (text : String)
  | api (text : String) (cause : ReadError)
  deriving DecidableEq

def AllocatorError.text : AllocatorError → String
  | .uidsRequired => "client and exact gateway and Pod UIDs are required"
  | .unsafePool =>
    "gateway workload address pool is not safely allocatable: require an IPv4 /16 through /29 pool"
  | .poolExhausted => "gateway workload address pool is exhausted"
  | .reservationConflict => "address reservation belongs to another allocation"
  | .reservationDeleting => "address reservation deletion is still in progress"
  | .identityQuarantined => "allocation identity has a quarantined address"
  | .addressInvalid text => text
  | .api text cause => text ++ cause.text

/-- SOURCE: binding/allocation.go:47-52 -/
structure Reservation where
  lease : AddressLease
  identity : String
  address : Prefix
  recovered : Bool
  deriving DecidableEq

/-- What a call of the allocator returns. -/
inductive AllocatorResult where
  | reserved (reservation : Reservation)
  | ensured (lease : AddressLease)
  | done
  | failed (err : AllocatorError)
  deriving DecidableEq

/-- The arguments of `Reserve`. -/
structure ReserveRequest where
  gateway : NamespacedUIDReference
  podUID : ObjectUID
  pool : Prefix
  deriving DecidableEq

/-- A call of the allocator with its arguments. -/
inductive AllocatorJob where
  | reserve (request : ReserveRequest)
  | ensure (gateway : NamespacedUIDReference) (binding : VPNWorkloadBinding)
  | quarantine (binding : VPNWorkloadBinding)
  | release (binding : VPNWorkloadBinding)
  deriving DecidableEq

/-- Where a call stands: the API call it makes next. -/
inductive AddressCall where
  | reserve (request : ReserveRequest)
  | reserveCreate (request : ReserveRequest) (attempt : ℕ)
  | reserveGet (request : ReserveRequest) (attempt : ℕ)
  | ensure (gateway : NamespacedUIDReference) (binding : VPNWorkloadBinding)
  | ensureGet (gateway : NamespacedUIDReference) (binding : VPNWorkloadBinding) (address : Prefix)
  | quarantine (binding : VPNWorkloadBinding)
  | quarantineGet (binding : VPNWorkloadBinding) (address : Prefix)
  | quarantinePatch (binding : VPNWorkloadBinding) (current : AddressLease)
  | release (binding : VPNWorkloadBinding)
  | releaseDelete (binding : VPNWorkloadBinding) (current : AddressLease)
  deriving DecidableEq

/-- Where a call begins. -/
def AllocatorJob.enter : AllocatorJob → AddressCall
  | .reserve request => .reserve request
  | .ensure gateway binding => .ensure gateway binding
  | .quarantine binding => .quarantine binding
  | .release binding => .release binding

abbrev AllocatorStep := Snapshots AddressStore × (AddressCall ⊕ AllocatorResult)

section Calls

variable (libraries : AllocatorLibraries)

namespace ReserveRequest

variable (request : ReserveRequest)

def identity : String :=
  allocationIdentity libraries request.gateway.uid request.podUID

def address (attempt : ℕ) : Prefix :=
  probedAddress libraries request.podUID request.pool attempt

/-- The Lease an attempt creates. -/
def lease (attempt : ℕ) : AddressLease :=
  desiredLease libraries request.gateway request.podUID (request.identity libraries)
    (request.address libraries attempt)

/-- SOURCE: binding/allocation.go:83-91 -/
def quarantined (lease : AddressLease) : Bool :=
  lease.gatewayUID == request.gateway.uid && lease.podUID == request.podUID &&
    lease.holderIdentity == some (request.identity libraries) && lease.state == .quarantined

/-- The head of the loop. -/
def probe (attempt : ℕ) : AddressCall ⊕ AllocatorResult :=
  if attempt < request.pool.usable then .inl (.reserveCreate request attempt)
  else .inr (.failed .poolExhausted)

end ReserveRequest

/-- Up to the loop: the arguments, the pool and the quarantined reservations of the identity.
SOURCE: binding/allocation.go:64-91 -/
def Allocator.reserveInspect (request : ReserveRequest) (store : Snapshots AddressStore)
    (choice : ApiChoice) : AddressCall ⊕ AllocatorResult :=
  if request.gateway.uid = "" ∨ request.podUID = "" then .inr (.failed .uidsRequired)
  else if request.pool.allocatable = false then .inr (.failed .unsafePool)
  else match AddressAPI.list libraries store request.gateway choice with
    | .error err => .inr (.failed (.api "inspect durable address reservations: " (.other err)))
    | .ok reservations =>
      if reservations.any (request.quarantined libraries) then
        .inr (.failed .identityQuarantined)
      else request.probe 0

/-- SOURCE: binding/allocation.go:105-112 -/
def Allocator.reserveCreate (request : ReserveRequest) (attempt : ℕ)
    (store : Snapshots AddressStore) (choice : ApiChoice) : AllocatorStep :=
  match AddressAPI.create store (request.lease libraries attempt) choice.outcome with
  | (store, .created) =>
    (store, .inr (.reserved
      { lease := request.lease libraries attempt, identity := request.identity libraries
        address := request.address libraries attempt, recovered := false }))
  | (store, .failed text) =>
    (store, .inr (.failed (.api "create durable address reservation: " (.other text))))
  | (store, .alreadyExists) => (store, .inl (.reserveGet request attempt))

/-- A reservation that is gone by now is tried again, except by the first attempt, which moves on.
SOURCE: binding/allocation.go:113-125 -/
def Allocator.reserveGet (request : ReserveRequest) (attempt : ℕ) (store : Snapshots AddressStore)
    (choice : ApiChoice) : AddressCall ⊕ AllocatorResult :=
  match AddressAPI.get store (request.lease libraries attempt).key choice with
  | .error .notFound =>
    -- `attempt--` before the loop's own `attempt++`
    if 0 < attempt then request.probe attempt else request.probe (attempt + 1)
  | .error (.other text) =>
    .inr (.failed (.api "read conflicting address reservation: " (.other text)))
  | .ok existing =>
    if reservationMatches existing request.gateway.uid request.podUID (request.identity libraries)
        (request.address libraries attempt) then
      .inr (.reserved
        { lease := existing, identity := request.identity libraries
          address := request.address libraries attempt, recovered := true })
    else request.probe (attempt + 1)

/-- SOURCE: binding/allocation.go:195-206 -/
def Allocator.ensureCreate (gateway : NamespacedUIDReference) (binding : VPNWorkloadBinding)
    (store : Snapshots AddressStore) (choice : ApiChoice) : AllocatorStep :=
  match libraries.parsePrefix binding.spec.allocation.address with
  | none => (store, .inr (.failed (.addressInvalid "parse binding address")))
  | some address =>
    let lease := desiredLease libraries gateway binding.spec.podRef.uid
      binding.spec.allocation.identity address
    match AddressAPI.create store lease choice.outcome with
    | (store, .created) => (store, .inr (.ensured lease))
    | (store, .failed text) =>
      (store, .inr (.failed (.api "restore durable address reservation: " (.other text))))
    | (store, .alreadyExists) => (store, .inl (.ensureGet gateway binding address))

/-- SOURCE: binding/allocation.go:207-215 -/
def Allocator.ensureGet (gateway : NamespacedUIDReference) (binding : VPNWorkloadBinding)
    (address : Prefix) (store : Snapshots AddressStore) (choice : ApiChoice) : AllocatorResult :=
  match AddressAPI.get store
      (gateway.namespaceName, addressReservationName libraries gateway.uid address) choice with
  | .error err => .failed (.api "read durable address reservation: " err)
  | .ok existing =>
    if reservationMatches existing gateway.uid binding.spec.podRef.uid
        binding.spec.allocation.identity address then .ensured existing
    else .failed .reservationConflict

variable (binding : VPNWorkloadBinding) (store : Snapshots AddressStore)

/-- The Lease `Quarantine` creates when there is none. -/
def quarantineLease (address : Prefix) : AddressLease :=
  (desiredLease libraries binding.spec.gatewayRef binding.spec.podRef.uid
    binding.spec.allocation.identity address).markQuarantined

/-- SOURCE: binding/allocation.go:128-147 -/
def Allocator.quarantineCreate (choice : ApiChoice) : AllocatorStep :=
  match libraries.parsePrefix binding.spec.allocation.address with
  | none => (store, .inr (.failed (.addressInvalid "parse binding address for quarantine")))
  | some address =>
    match AddressAPI.create store (quarantineLease libraries binding address)
        choice.outcome with
    | (store, .created) => (store, .inr .done)
    | (store, .failed text) =>
      (store, .inr (.failed (.api "create durable quarantine: " (.other text))))
    | (store, .alreadyExists) => (store, .inl (.quarantineGet binding address))

/-- SOURCE: binding/allocation.go:148-163 -/
def Allocator.quarantineGet (address : Prefix)
    (store : Snapshots AddressStore) (choice : ApiChoice) : AddressCall ⊕ AllocatorResult :=
  match AddressAPI.get store (quarantineLease libraries binding address).key choice with
  | .error err => .inr (.failed (.api "read address reservation for quarantine: " err))
  | .ok current =>
    if current.deletionTimestamp.isSome then .inr (.failed .reservationDeleting)
    else if current.state = .quarantined then
      if quarantineMatches current binding.spec.gatewayRef.uid binding.spec.podRef.uid
          binding.spec.allocation.identity address then .inr .done
      else .inr (.failed .reservationConflict)
    else if reservationMatches current binding.spec.gatewayRef.uid binding.spec.podRef.uid
        binding.spec.allocation.identity address = false then
      .inr (.failed .reservationConflict)
    else .inl (.quarantinePatch binding current)

/-- SOURCE: binding/allocation.go:164-169 -/
def Allocator.quarantinePatch (current : AddressLease) (store : Snapshots AddressStore)
    (choice : ApiChoice) : AllocatorStep :=
  match AddressAPI.change AddressAPI.quarantine store current.key choice.outcome with
  | (store, none) => (store, .inr .done)
  | (store, some err) => (store, .inr (.failed (.api "" err)))

/-- SOURCE: binding/allocation.go:171-188, 293-307 -/
def Allocator.releaseGet (choice : ApiChoice) : AddressCall ⊕ AllocatorResult :=
  match libraries.parsePrefix binding.spec.allocation.address with
  | none => .inr (.failed (.addressInvalid "parse binding allocation address"))
  | some address =>
    match AddressAPI.get store (binding.spec.gatewayRef.namespaceName,
        addressReservationName libraries binding.spec.gatewayRef.uid address) choice with
    | .error .notFound => .inr .done
    | .error (.other text) => .inr (.failed (.api "" (.other text)))
    | .ok current =>
      if reservationMatches current binding.spec.gatewayRef.uid binding.spec.podRef.uid
          binding.spec.allocation.identity address = false then
        .inr (.failed .reservationConflict)
      else .inl (.releaseDelete binding current)

/-- The DELETE names the object and carries no precondition.
SOURCE: binding/allocation.go:189 -/
def Allocator.releaseDelete (current : AddressLease) (store : Snapshots AddressStore)
    (choice : ApiChoice) : AllocatorStep :=
  match AddressAPI.change AddressAPI.without store current.key choice.outcome with
  | (store, some (.other text)) => (store, .inr (.failed (.api "" (.other text))))
  | (store, _) => (store, .inr .done)

/-- The next API call of a call and what follows it up to the one after. -/
def AddressCall.act (call : AddressCall) (choice : ApiChoice) : AllocatorStep :=
  match call with
  | .reserve request => (store, Allocator.reserveInspect libraries request store choice)
  | .reserveCreate request attempt => Allocator.reserveCreate libraries request attempt store choice
  | .reserveGet request attempt =>
    (store, Allocator.reserveGet libraries request attempt store choice)
  | .ensure gateway binding => Allocator.ensureCreate libraries gateway binding store choice
  | .ensureGet gateway binding address =>
    (store, .inr (Allocator.ensureGet libraries gateway binding address store choice))
  | .quarantine binding => Allocator.quarantineCreate libraries binding store choice
  | .quarantineGet binding address =>
    (store, Allocator.quarantineGet libraries binding address store choice)
  | .quarantinePatch _ current => Allocator.quarantinePatch current store choice
  | .release binding => (store, Allocator.releaseGet libraries binding store choice)
  | .releaseDelete _ current => Allocator.releaseDelete current store choice

end Calls

/-! ## Runs -/

abbrev AllocatorSystem := Calls (Snapshots AddressStore) AddressCall
abbrev AllocatorTurn := Turn AllocatorJob ApiChoice
abbrev AllocatorRecord :=
  Record AllocatorSystem AllocatorTurn (Option (AddressCall × (AddressCall ⊕ AllocatorResult)))

/-- No reservation and no call. -/
def AllocatorSystem.empty : AllocatorSystem :=
  { shared := .start (.empty AddressLease.key), running := [] }

/-- A turn of the system. -/
def AllocatorSystem.next (libraries : AllocatorLibraries) (s : AllocatorSystem)
    (turn : AllocatorTurn) :
    AllocatorSystem × Option (AddressCall × (AddressCall ⊕ AllocatorResult)) :=
  Calls.next AllocatorJob.enter (AddressCall.act libraries) s turn

/-- The run of the turns from a store without reservations. -/
def allocatorRun (libraries : AllocatorLibraries) (turns : List AllocatorTurn) :
    List AllocatorRecord :=
  exec (AllocatorSystem.next libraries) .empty turns

end Waycloak.Model
