import Waycloak.Model.Controller

/-!
# The stored lease and reconciles in progress

The API server holds one lease with a resource version that grows with every change. A
reconcile reads the lease with its version, makes its runtime call, and writes later;
other reconciles and other writers may come in between. A status update carries the
version that was read and is rejected when it is no longer current. A finalizer patch
carries none.

`LeaseSystem` is the lease together with the reconciles that have read it and not yet
written, in any number; `LeaseSystem.next` is one step of it.
-/

set_option autoImplicit false

namespace Waycloak.Model

/-- The lease as the API server holds it. -/
structure StoredLease where
  lease : PortForwardLease
  version : ℕ
  deriving DecidableEq

/-- Everything a reconcile meets besides the lease. -/
structure ReconcileInput where
  reconciler : PortForwardLeaseReconciler
  runtime : Option Runtime
  api : ApiView

/-- A reconcile that has read the lease and made its runtime call, but has not written. -/
structure OpenReconcile where
  read : StoredLease
  input : ReconcileInput

/-- What the reconcile did and asks for. -/
def OpenReconcile.result (o : OpenReconcile) : ControllerResult :=
  o.input.reconciler.reconcile o.input.runtime o.input.api o.read.lease

/-- What another writer changes of a lease: everything but its identity and its status. -/
structure LeaseEdit where
  generation : Int
  deletionTimestamp : Option Time
  finalizers : List String
  spec : PortForwardLeaseSpec

namespace StoredLease

/-- A change of the lease, under the next version. A deleted lease without finalizers is gone. -/
def replace (stored : StoredLease) (lease : PortForwardLease) : Option StoredLease :=
  if lease.deletionTimestamp.isSome = true ∧ lease.finalizers = [] then none
  else some { lease, version := stored.version + 1 }

/-- `Status().Update`: rejected unless the version that was read is current.
SOURCE: portforward/controller.go:442-453 -/
def updateStatus (stored : StoredLease) (readVersion : ℕ) (status : PortForwardLeaseStatus) :
    Option StoredLease :=
  if readVersion = stored.version then stored.replace { stored.lease with status }
  else some stored

/-- `Patch` of the finalizers, without a version.
SOURCE: portforward/controller.go:70, 436 -/
def patchFinalizers (stored : StoredLease) (finalizers : List String) : Option StoredLease :=
  stored.replace { stored.lease with finalizers }

/-- The write of a reconcile reaches the API server. -/
def write (stored : StoredLease) (o : OpenReconcile) : Option StoredLease :=
  match o.result.write with
  | some (.status status) => stored.updateStatus o.read.version status
  | some (.finalizers finalizers) => stored.patchFinalizers finalizers
  | none => some stored

/-- Another writer changes the lease. -/
def edit (stored : StoredLease) (edit : LeaseEdit) : Option StoredLease :=
  stored.replace { stored.lease with
    generation := edit.generation, deletionTimestamp := edit.deletionTimestamp
    finalizers := edit.finalizers, spec := edit.spec }

end StoredLease

/-- The stored lease, unless it is gone, and the reconciles in progress. -/
structure LeaseSystem where
  store : Option StoredLease
  pending : List OpenReconcile

/-- One step of the system. -/
inductive LeaseInput where
  /-- a reconcile reads the lease and makes its runtime call -/
  | read (input : ReconcileInput)
  /-- the write of a reconcile in progress reaches the API server -/
  | write (index : ℕ)
  /-- a reconcile in progress never writes -/
  | abandon (index : ℕ)
  /-- another writer changes the lease -/
  | edit (edit : LeaseEdit)

/-- What a step shows: the reconcile that ran or wrote. -/
inductive LeaseOutput where
  | read (o : OpenReconcile)
  | wrote (o : OpenReconcile)
  | quiet

/-- One step: a step on a lease that is gone, or on a reconcile that is not there, does nothing. -/
def LeaseSystem.next (s : LeaseSystem) : LeaseInput → LeaseSystem × LeaseOutput
  | .read input =>
    match s.store with
    | none => (s, .quiet)
    | some stored =>
      let o : OpenReconcile := { read := stored, input }
      ({ s with pending := s.pending ++ [o] }, .read o)
  | .write index =>
    match s.pending[index]?, s.store with
    | some o, some stored =>
      ({ store := stored.write o, pending := s.pending.eraseIdx index }, .wrote o)
    | _, _ => (s, .quiet)
  | .abandon index => ({ s with pending := s.pending.eraseIdx index }, .quiet)
  | .edit edit =>
    match s.store with
    | none => (s, .quiet)
    | some stored => ({ s with store := stored.edit edit }, .quiet)

end Waycloak.Model
