import Waycloak.Computation.JsonTree
import Waycloak.Computation.KeySort
import Waycloak.Model.Objects
import Mathlib.Data.String.Basic

/-!
# Backups and restore plans

`waycloakctl` writes the intent of a cluster to a file and creates it again in another one. A
backup and a restore plan carry the digest of their own content, and `validate` checks it together
with the canonical order of the lists.

Specs are JSON. A file stores their integers as literals; what a Go program has in memory depends on
the decoder: `encoding/json` gives a `float64`, the API machinery an `int64` (`GoNumber`).

`validate` has a value receiver, but a Go slice is a reference to its array: the copy that
`validate` sorts shares the arrays of the receiver, so that sorting the copy sorts the receiver
(`StateBackup.sortedCopy`). `validate` therefore returns the receiver as it leaves it.

The JSON encoding and SHA-256 (`StateCodec`), the name checks of the API machinery (`NameChecks`)
and the outcomes of the preflight and of the prerequisite checks are parameters.
-/

set_option autoImplicit false

namespace Waycloak.Model

open Waycloak.Computation

/-! ## Specs -/

/-- An integer in a Go value of type `any`. -/
inductive GoNumber where
  | int64 (value : Int)
  | float64 (value : Int)
  deriving DecidableEq

/-- The integer that a `float64` holds for an integer literal: the nearest one with 53 significant
bits, ties to even. -/
def nearestFloat64 (n : Int) : Int :=
  let size := Nat.log2 n.natAbs + 1
  let unit := 2 ^ (size - 53)
  let quotient := n.natAbs / unit
  let rest := n.natAbs % unit
  let rounded := if unit < 2 * rest ∨ (2 * rest = unit ∧ quotient % 2 = 1) then quotient + 1
    else quotient
  n.sign * (rounded * unit : Nat)

/-- The members of a spec as `encoding/json` decodes them into `map[string]any`. -/
def decodeFile : JsonFields Int → JsonFields GoNumber :=
  JsonFields.map fun n => .float64 (nearestFloat64 n)

/-- The members of a spec as the API machinery decodes them. -/
def decodeServer : JsonFields Int → JsonFields GoNumber := JsonFields.map .int64

/-- The members of a spec as they are written. -/
def encodeSpec : JsonFields GoNumber → JsonFields Int :=
  JsonFields.map fun
    | .int64 n => n
    | .float64 n => n

/-! ## Files -/

/-- SOURCE: waycloakctl/plan.go:534-540 -/
def validDigest (value : String) : Bool :=
  "sha256:".toList.isPrefixOf value.toList && value.utf8ByteSize == 71 &&
    (value.toList.drop 7).all fun c =>
      ('0' ≤ c && c ≤ '9') || ('a' ≤ c && c ≤ 'f') || ('A' ≤ c && c ≤ 'F')

structure ClusterIdentity where
  serverFingerprint : String
  trustFingerprint : String
  clusterUIDFingerprint : String
  deriving DecidableEq

/-- SOURCE: waycloakctl/state.go:516-518 -/
def validClusterIdentity (identity : ClusterIdentity) : Bool :=
  validDigest identity.serverFingerprint && validDigest identity.trustFingerprint &&
    validDigest identity.clusterUIDFingerprint

/-- SOURCE: waycloakctl/state.go:70-83 -/
structure PortableStateResource (N : Type) where
  apiVersion : String
  kind : String
  namespaceName : NamespaceName
  name : ObjectName
  spec : Option (JsonFields N)

/-- SOURCE: waycloakctl/state.go:85-92 -/
structure StateClassRequirement where
  name : String
  specDigest : String
  version : String
  manifestDigest : String
  controllerName : String
  conformanceProfile : String
  deriving DecidableEq

/-- SOURCE: waycloakctl/state.go:94-104 -/
structure StateBackup (N : Type) where
  apiVersion : String
  kind : String
  policy : String
  backupID : String
  source : ClusterIdentity
  crdIdentities : List (String × String)
  requiredClasses : List StateClassRequirement
  resources : List (PortableStateResource N)
  excluded : List String

/-- The namespaces of a plan are a slice that can be nil.
SOURCE: waycloakctl/state.go:106-121 -/
structure StateRestorePlan (N : Type) where
  apiVersion : String
  kind : String
  policy : String
  planID : String
  backupID : String
  source : ClusterIdentity
  target : ClusterIdentity
  targetObservation : String
  overlayCIDR : String
  crdIdentities : List (String × String)
  requiredClasses : List StateClassRequirement
  requiredNamespaces : Option (List String)
  resources : List (PortableStateResource N)
  warnings : List String

deriving instance DecidableEq for PortableStateResource

/-- SOURCE: waycloakctl/state.go:27-43 -/
def portableStatePolicy : String := "PortableIntentReacquire-v1"

def portableStateExclusions : List String :=
  ["ConfigMap and Secret contents", "Pods and workload-controller objects",
    "VPNWorkloadBinding objects, allocations, and node observations",
    "conditions, status, finalizers, owner references, UIDs, and resource versions",
    "provider mappings, gateway runtime state, and live data-plane observations"]

def portableRestoreWarnings : List String :=
  ["restore creates new Kubernetes UIDs and never imports bindings, allocations, provider " ++
      "mappings, status, or live observations",
    "restore does not create namespaces, ConfigMaps, Secrets, or workload objects",
    "keep protected workloads stopped until newly acquired bindings and the live data plane " ++
      "report Ready"]

def outputAPIVersion : String := "cli.waycloak.io/v1"

/-- The kinds of a backup with their order.
SOURCE: waycloakctl/state.go:51-56 -/
def portableStateResources : List (String × String) :=
  [("WorkloadAdapter", "00"), ("VPNGateway", "01"), ("VPNEgressRoute", "02"),
    ("PortForwardLease", "03")]

/-- SOURCE: waycloakctl/state.go:58-65 -/
def stateCRDNames : List String :=
  ["portforwardleases.networking.waycloak.io", "vpnegressroutes.networking.waycloak.io",
    "vpngatewayclasses.networking.waycloak.io", "vpngateways.networking.waycloak.io",
    "vpnworkloadbindings.networking.waycloak.io", "workloadadapters.networking.waycloak.io"]

/-- The order of a kind, written with two digits. An unknown kind has the zero type. -/
def stateResourceOrder (kind : String) : String :=
  ((portableStateResources.find? (·.1 = kind)).map (·.2)).getD "00"

/-- SOURCE: waycloakctl/state.go:638-641 -/
def stateResourceKey {N : Type} (resource : PortableStateResource N) : String :=
  stateResourceOrder resource.kind ++ "/" ++ resource.kind ++ "/" ++ resource.namespaceName ++
    "/" ++ resource.name

/-! ## Checks -/

/-- `IsDNS1123Label` and `IsDNS1123Subdomain` of the API machinery. -/
structure NameChecks where
  label : String → Bool
  subdomain : String → Bool

/-- `json.Marshal` of the two documents and SHA-256. -/
structure StateCodec where
  backupJSON : StateBackup GoNumber → String
  planJSON : StateRestorePlan GoNumber → String
  sha256 : String → String

variable (names : NameChecks) (codec : StateCodec)

def StateCodec.digestBytes (data : String) : String :=
  "sha256:" ++ codec.sha256 data

/-- SOURCE: waycloakctl/state.go:484-492 -/
def validatePortableStateResource {N : Type} (names : NameChecks)
    (resource : PortableStateResource N) : Except String Unit :=
  if resource.apiVersion ≠ "networking.waycloak.io/v1beta1" ∨
      names.label resource.namespaceName = false ∨ names.subdomain resource.name = false ∨
      resource.spec.isNone = true then
    .error "portable state resource identity is incomplete"
  else if (portableStateResources.find? (·.1 = resource.kind)).isNone then
    .error ("portable state contains forbidden kind \"" ++ resource.kind ++ "\"")
  else .ok ()

/-- SOURCE: waycloakctl/state.go:453-462 -/
def validateStateClasses (names : NameChecks) :
    List String → List StateClassRequirement → Except String Unit
  | _, [] => .ok ()
  | seen, c :: rest =>
    if names.subdomain c.name = false ∨ c.controllerName = "" ∨ c.version = "" ∨
        c.conformanceProfile = "" ∨ validDigest c.specDigest = false ∨
        validDigest c.manifestDigest = false then
      .error "state class requirement is incomplete"
    else if c.name ∈ seen then .error "state class requirements contain a duplicate"
    else validateStateClasses names (c.name :: seen) rest

/-- SOURCE: waycloakctl/state.go:463-481 -/
def validateStateResources {N : Type} (names : NameChecks) (classNames : List String) :
    List String → List (PortableStateResource N) → Except String Unit
  | _, [] => .ok ()
  | seen, resource :: rest =>
    match validatePortableStateResource names resource with
    | .error err => .error err
    | .ok () =>
      if stateResourceKey resource ∈ seen then
        .error "state inventory contains a duplicate resource"
      else if resource.kind = "VPNGateway" ∧
          (resource.spec.map (·.nestedString "gatewayClassName")).getD "" ∉ classNames then
        .error ("state inventory lacks class requirement for VPNGateway " ++
          resource.namespaceName ++ "/" ++ resource.name)
      else validateStateResources names classNames (stateResourceKey resource :: seen) rest

/-- SOURCE: waycloakctl/state.go:444-482 -/
def validateStateInventory {N : Type} (names : NameChecks) (crds : List (String × String))
    (classes : List StateClassRequirement) (resources : List (PortableStateResource N)) :
    Except String Unit :=
  if crds.length ≠ stateCRDNames.length then
    .error "state inventory must contain the exact replacement CRD set"
  else match stateCRDNames.find? fun name => !validDigest ((crds.lookup name).getD "") with
    | some name => .error ("state inventory lacks exact CRD identity for " ++ name)
    | none =>
      match validateStateClasses names [] classes with
      | .error err => .error err
      | .ok () => validateStateResources names (classes.map (·.name)) [] resources

namespace StateBackup

variable {N : Type}

/-- SOURCE: waycloakctl/state.go:625-630 -/
def sortStateBackup (backup : StateBackup N) : StateBackup N :=
  { backup with
    requiredClasses := sortBy (·.name) backup.requiredClasses
    resources := sortBy stateResourceKey backup.resources }

/-- `copy := backup; sortStateBackup(&copy)`: the copy and the receiver afterwards. The slices of
the copy refer to the arrays of the receiver, which are sorted in place. -/
def sortedCopy (backup : StateBackup N) : StateBackup N × StateBackup N :=
  (backup.sortStateBackup, backup.sortStateBackup)

/-- SOURCE: waycloakctl/state.go:380-388 -/
def identityDigest (codec : StateCodec) (backup : StateBackup GoNumber) : String :=
  codec.digestBytes (codec.backupJSON { backup with backupID := "" })

/-- The answer, and the receiver afterwards.
SOURCE: waycloakctl/state.go:345-378 -/
def validate (names : NameChecks) (codec : StateCodec) (backup : StateBackup GoNumber) :
    Except String Unit × StateBackup GoNumber :=
  if backup.apiVersion ≠ outputAPIVersion ∨ backup.kind ≠ "StateBackup" ∨
      backup.policy ≠ portableStatePolicy ∨ validDigest backup.backupID = false ∨
      validClusterIdentity backup.source = false then
    (.error "state backup identity is incomplete", backup)
  else match validateStateInventory names backup.crdIdentities backup.requiredClasses
      backup.resources with
    | .error err => (.error err, backup)
    | .ok () =>
      if backup.excluded ≠ portableStateExclusions then
        (.error "state backup exclusion contract was changed", backup)
      else if 10000 < backup.resources.length then
        (.error "state backup resource limit exceeded", backup)
      else
        let (copy, backup) := backup.sortedCopy
        if copy.resources ≠ backup.resources ∨ copy.requiredClasses ≠ backup.requiredClasses then
          (.error "state backup inventory is not canonically ordered", backup)
        else if backup.backupID ≠ backup.identityDigest codec then
          (.error "state backup content does not match backupID", backup)
        else if 4 * 2 ^ 20 < (codec.backupJSON backup).utf8ByteSize then
          (.error "state backup exceeds size limit", backup)
        else (.ok (), backup)

end StateBackup

/-- SOURCE: waycloakctl/state.go:612-623 -/
def requiredStateNamespaces {N : Type} (resources : List (PortableStateResource N)) : List String :=
  sortBy id (resources.map (·.namespaceName)).dedup

namespace StateRestorePlan

variable {N : Type}

/-- SOURCE: waycloakctl/state.go:632-636 -/
def sortStateRestorePlan (plan : StateRestorePlan N) : StateRestorePlan N :=
  { plan with
    requiredClasses := sortBy (·.name) plan.requiredClasses
    resources := sortBy stateResourceKey plan.resources
    requiredNamespaces := plan.requiredNamespaces.map (sortBy id) }

/-- `copy := plan; sortStateRestorePlan(&copy)`, as `StateBackup.sortedCopy`. -/
def sortedCopy (plan : StateRestorePlan N) : StateRestorePlan N × StateRestorePlan N :=
  (plan.sortStateRestorePlan, plan.sortStateRestorePlan)

/-- The backup a plan was made from. Its slices have arrays of their own.
SOURCE: waycloakctl/state.go:403-408 -/
def embeddedBackup (plan : StateRestorePlan N) : StateBackup N :=
  { apiVersion := outputAPIVersion, kind := "StateBackup", policy := portableStatePolicy
    backupID := plan.backupID, source := plan.source, crdIdentities := plan.crdIdentities
    requiredClasses := plan.requiredClasses, resources := plan.resources
    excluded := portableStateExclusions }

/-- SOURCE: waycloakctl/state.go:434-442 -/
def identityDigest (codec : StateCodec) (plan : StateRestorePlan GoNumber) : String :=
  codec.digestBytes (codec.planJSON { plan with planID := "" })

/-- The answer, and the receiver afterwards.
SOURCE: waycloakctl/state.go:390-432 -/
def validate (names : NameChecks) (codec : StateCodec) (plan : StateRestorePlan GoNumber) :
    Except String Unit × StateRestorePlan GoNumber :=
  if plan.apiVersion ≠ outputAPIVersion ∨ plan.kind ≠ "StateRestorePlan" ∨
      plan.policy ≠ portableStatePolicy ∨ validDigest plan.planID = false ∨
      validDigest plan.backupID = false ∨ validDigest plan.targetObservation = false ∨
      validClusterIdentity plan.source = false ∨ validClusterIdentity plan.target = false ∨
      plan.overlayCIDR = "" then
    (.error "state restore plan identity is incomplete", plan)
  else match validateStateInventory names plan.crdIdentities plan.requiredClasses
      plan.resources with
    | .error err => (.error err, plan)
    | .ok () =>
      if plan.requiredNamespaces ≠ some (requiredStateNamespaces plan.resources) then
        (.error "state restore namespace inventory does not match resources", plan)
      else if plan.warnings ≠ portableRestoreWarnings then
        (.error "state restore warning contract was changed", plan)
      else match (plan.embeddedBackup.validate names codec).1 with
        | .error err => (.error ("state restore plan does not match its backup: " ++ err), plan)
        | .ok () =>
          let (copy, plan) := plan.sortedCopy
          if copy.resources ≠ plan.resources ∨ copy.requiredClasses ≠ plan.requiredClasses ∨
              copy.requiredNamespaces ≠ plan.requiredNamespaces then
            (.error "state restore plan is not canonically ordered", plan)
          else if plan.planID ≠ plan.identityDigest codec then
            (.error "state restore plan content does not match planID", plan)
          else if 4 * 2 ^ 20 < (codec.planJSON plan).utf8ByteSize then
            (.error "state restore plan exceeds size limit", plan)
          else (.ok (), plan)

end StateRestorePlan

/-! ## Loading -/

def PortableStateResource.decode (resource : PortableStateResource Int) :
    PortableStateResource GoNumber :=
  { resource with spec := resource.spec.map decodeFile }

def StateBackup.decode (file : StateBackup Int) : StateBackup GoNumber :=
  { file with resources := file.resources.map (·.decode) }

/-- A file has no member for an empty list of namespaces. -/
def StateRestorePlan.decode (file : StateRestorePlan Int) : StateRestorePlan GoNumber :=
  { file with
    resources := file.resources.map (·.decode)
    requiredNamespaces := file.requiredNamespaces.bind fun l => if l = [] then none else some l }

/-- `read` is what the strict reading of the file gives.
SOURCE: waycloakctl/state.go:306-312, 322-343 -/
def loadStateBackup
    (read : Except String (StateBackup Int)) : Except String (StateBackup GoNumber) :=
  match read with
  | .error err => .error err
  | .ok file =>
    match file.decode.validate names codec with
    | (.ok (), backup) => .ok backup
    | (.error err, _) => .error err

/-- SOURCE: waycloakctl/state.go:314-320, 322-343 -/
def loadStateRestorePlan
    (read : Except String (StateRestorePlan Int)) : Except String (StateRestorePlan GoNumber) :=
  match read with
  | .error err => .error err
  | .ok file =>
    match file.decode.validate names codec with
    | (.ok (), plan) => .ok plan
    | (.error err, _) => .error err

/-! ## Restoring -/

/-- An object of the target cluster: the plan that restored it, and its spec as it is stored. -/
structure StoredResource where
  restorePlanID : Option String
  spec : Option (JsonFields Int)

/-- The objects of the target cluster by kind, namespace and name. -/
abbrev RestoreTarget := String × NamespaceName × ObjectName → Option StoredResource

def PortableStateResource.objectKey {N : Type} (resource : PortableStateResource N) :
    String × NamespaceName × ObjectName :=
  (resource.kind, resource.namespaceName, resource.name)

/-- SOURCE: waycloakctl/state.go:604-610 -/
def stateObjectMatchesPlan (existing : StoredResource) (portable : PortableStateResource GoNumber)
    (planID : String) : Bool :=
  existing.restorePlanID.getD "" == planID && existing.spec.isSome &&
    decide (existing.spec.map decodeServer = portable.spec)

/-- The object `stateRestoreObject` asks for, as the API server stores it.
SOURCE: waycloakctl/state.go:277-288 -/
def stateRestoreObject (portable : PortableStateResource GoNumber) (planID : String) :
    StoredResource :=
  { restorePlanID := some planID, spec := portable.spec.map encodeSpec }

/-- SOURCE: waycloakctl/state.go:587-602 -/
def precheckStateRestoreConflicts (planID : String) (target : RestoreTarget) :
    List (PortableStateResource GoNumber) → Except String Unit
  | [] => .ok ()
  | portable :: rest =>
    match target portable.objectKey with
    | none => precheckStateRestoreConflicts planID target rest
    | some existing =>
      if stateObjectMatchesPlan existing portable planID = false then
        .error ("refusing restore conflict: " ++ portable.kind ++ " " ++ portable.namespaceName ++
          "/" ++ portable.name ++ " already exists")
      else precheckStateRestoreConflicts planID target rest

/-- What restoring a list of resources does: the objects it created, and the target afterwards. -/
structure RestoreOutcome where
  created : List (String × NamespaceName × ObjectName)
  target : RestoreTarget
  err : Option String

/-- The loop over the resources. Nothing else writes to the target meanwhile, and its API does not
fail. Taking the ownership of an object applies the same spec and annotation again.
SOURCE: waycloakctl/state.go:240-275, 290-304 -/
def restoreResources (planID : String) :
    List (PortableStateResource GoNumber) → RestoreTarget → RestoreOutcome
  | [], target => { created := [], target, err := none }
  | portable :: rest, target =>
    let owned := Function.update target portable.objectKey
      (some (stateRestoreObject portable planID))
    match target portable.objectKey with
    | some existing =>
      if stateObjectMatchesPlan existing portable planID then restoreResources planID rest owned
      else
        { created := [], target
          err := some ("refusing restore conflict: " ++ portable.kind ++ " " ++
            portable.namespaceName ++ "/" ++ portable.name ++ " is not owned by this exact plan") }
    | none =>
      let after := restoreResources planID rest owned
      { after with created := portable.objectKey :: after.created }

/-- What the checks before the restore observe: the preflight (its compatibility, digest and
cluster identity), and the CRDs, classes and namespaces. -/
structure RestoreChecks where
  preflight : Except String (Bool × String × ClusterIdentity)
  prerequisites : Except String Unit

/-- SOURCE: waycloakctl/state.go:219-275 -/
def applyStateRestorePlan (checks : RestoreChecks)
    (plan : StateRestorePlan GoNumber) (confirmation : String) (target : RestoreTarget) :
    RestoreOutcome :=
  let refused (err : String) : RestoreOutcome := { created := [], target, err := some err }
  match plan.validate names codec with
  | (.error err, _) => refused err
  | (.ok (), plan) =>
    if confirmation ≠ plan.planID then
      refused ("refusing mutation: --confirm must exactly equal " ++ plan.planID)
    else match checks.preflight with
      | .error err => refused ("re-run target preflight before mutation: " ++ err)
      | .ok (compatible, digest, identity) =>
        if compatible = false ∨ digest ≠ plan.targetObservation ∨ identity ≠ plan.target then
          refused ("refusing mutation: target cluster observation changed after " ++
            "restore-plan review")
        else match checks.prerequisites with
          | .error err => refused err
          | .ok () =>
            match precheckStateRestoreConflicts plan.planID target plan.resources with
            | .error err => refused err
            | .ok () => restoreResources plan.planID plan.resources target

end Waycloak.Model
