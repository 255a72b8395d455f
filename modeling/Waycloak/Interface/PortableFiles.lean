import Waycloak.Model.PortableState
import Mathlib.Data.List.Dedup

/-!
# What the checks of a backup file establish

`validateStateInventory_iff` says what an accepted inventory is, in any order of its lists, and
`backup_validate_iff` and `plan_validate_iff` when a document is accepted and what it
is afterwards: the digest that is compared is the one of the sorted document, and so is the document
that is left.
-/

set_option autoImplicit false

namespace Waycloak.Interface

open Waycloak.Computation Waycloak.Model

variable {N σ : Type} {names : NameChecks} {codec : StateCodec} {bad : Prop} {err : String}
  {crds : List (String × String)} {classes : List StateClassRequirement}
  {resources : List (PortableStateResource N)} {backup : StateBackup GoNumber}
  {plan : StateRestorePlan GoNumber} {rest : Except String Unit × σ}
variable {final : StateRestorePlan GoNumber}

/-! ## Distinct keys -/

/-- The first check of a class requirement. -/
def ClassComplete (names : NameChecks) (c : StateClassRequirement) : Prop :=
  ¬ (names.subdomain c.name = false ∨ c.controllerName = "" ∨ c.version = "" ∨
    c.conformanceProfile = "" ∨ validDigest c.specDigest = false ∨
    validDigest c.manifestDigest = false)

/-- The checks of a resource by itself. -/
def ResourceComplete (names : NameChecks) (classNames : List String)
    (resource : PortableStateResource N) : Prop :=
  validatePortableStateResource names resource = .ok () ∧
    ¬ (resource.kind = "VPNGateway" ∧
      (resource.spec.map (·.nestedString "gatewayClassName")).getD "" ∉ classNames)

theorem validateStateClasses_iff {seen : List String} :
    validateStateClasses names seen classes = .ok () ↔
      (∀ c ∈ classes, ClassComplete names c ∧ c.name ∉ seen) ∧ (classes.map (·.name)).Nodup := by
  induction classes generalizing seen with
  | nil => simp [validateStateClasses]
  | cons first rest ih =>
    unfold validateStateClasses
    rw [distinct_cons_iff, ← ih]
    split
    · next hincomplete => simp [ClassComplete, hincomplete]
    next hcomplete =>
    split
    · next hseen => simp [hseen]
    · next hfresh =>
      have hfirst : ClassComplete names first := hcomplete
      simp [hfirst, hfresh]

theorem validateStateResources_iff {classNames seen : List String} :
    validateStateResources names classNames seen resources = .ok () ↔
      (∀ r ∈ resources, ResourceComplete names classNames r ∧ stateResourceKey r ∉ seen) ∧
        (resources.map stateResourceKey).Nodup := by
  induction resources generalizing seen with
  | nil => simp [validateStateResources]
  | cons first rest ih =>
    unfold validateStateResources
    rw [distinct_cons_iff, ← ih]
    split
    · next herror => simp [ResourceComplete, herror]
    next hidentity =>
    split
    · next hseen => simp [hseen]
    next hfresh =>
    split
    · next hclass => simp [ResourceComplete, hclass]
    · next hclass =>
      have hfirst : ResourceComplete names classNames first := ⟨hidentity, hclass⟩
      simp [hfirst, hfresh]

/-- INTERNAL: **what an accepted inventory is.** None of it depends on the order of the lists.
SOURCE: waycloakctl/state.go:444-482 -/
theorem validateStateInventory_iff :
    validateStateInventory names crds classes resources = .ok () ↔
      crds.length = stateCRDNames.length ∧
      (stateCRDNames.find? fun name => !validDigest ((crds.lookup name).getD "")) = none ∧
      ((∀ c ∈ classes, ClassComplete names c) ∧ (classes.map (·.name)).Nodup) ∧
      (∀ r ∈ resources, ResourceComplete names (classes.map (·.name)) r) ∧
      (resources.map stateResourceKey).Nodup := by
  have hclasses : validateStateClasses names [] classes = .ok () ↔
      (∀ c ∈ classes, ClassComplete names c) ∧ (classes.map (·.name)).Nodup := by
    simpa using @validateStateClasses_iff names classes []
  have hresources : validateStateResources names (classes.map (·.name)) [] resources = .ok () ↔
      (∀ r ∈ resources, ResourceComplete names (classes.map (·.name)) r) ∧
        (resources.map stateResourceKey).Nodup := by
    simpa using @validateStateResources_iff N names resources (classes.map (·.name)) []
  unfold validateStateInventory
  rw [← hclasses, ← hresources]
  split
  · next hlength => simp [hlength]
  next hlength =>
  split
  · next name hfind => simp [hfind]
  next hfind =>
  split
  · next err herror => simp [herror]
  · next hchecked => simp [not_not.mp hlength, hfind, hchecked]

theorem validateStateInventory_ok
    (h : validateStateInventory names crds classes resources = .ok ()) :
    (classes.map (·.name)).Nodup ∧ (resources.map stateResourceKey).Nodup := by
  obtain ⟨-, -, ⟨-, hclasses⟩, -, hresources⟩ := validateStateInventory_iff.mp h
  exact ⟨hclasses, hresources⟩

theorem validateStateInventory_perm {classes' : List StateClassRequirement}
    {resources resources' : List (PortableStateResource N)} (hclasses : classes'.Perm classes)
    (hresources : resources'.Perm resources)
    (h : validateStateInventory names crds classes resources = .ok ()) :
    validateStateInventory names crds classes' resources' = .ok () := by
  obtain ⟨hlength, hfind, ⟨hcomplete, hnames⟩, hresource, hkeys⟩ :=
    validateStateInventory_iff.mp h
  have hsame : ∀ name, name ∈ classes'.map (·.name) ↔ name ∈ classes.map (·.name) :=
    fun name => (hclasses.map _).mem_iff
  rw [validateStateInventory_iff]
  refine ⟨hlength, hfind, ⟨?_, (hclasses.map _).nodup_iff.mpr hnames⟩, ?_,
    (hresources.map _).nodup_iff.mpr hkeys⟩
  · intro c hc
    exact hcomplete c (hclasses.mem_iff.mp hc)
  intro r hr
  obtain ⟨hidentity, hclass⟩ := hresource r (hresources.mem_iff.mp hr)
  refine ⟨hidentity, ?_⟩
  rwa [hsame]

/-! ## Backups -/

/-- The lists are in the order of their keys. -/
def CanonicalOrder (classes : List StateClassRequirement)
    (resources : List (PortableStateResource N)) : Prop :=
  StrictlyBy stateResourceKey resources ∧ StrictlyBy (·.name) classes

instance (classes : List StateClassRequirement) (resources : List (PortableStateResource N)) :
    Decidable (CanonicalOrder classes resources) :=
  inferInstanceAs (Decidable (_ ∧ _))

/-- The checks of `StateBackup.validate` before the sort. -/
structure BackupSound (names : NameChecks) (backup : StateBackup GoNumber) : Prop where
  identity : backup.apiVersion = outputAPIVersion ∧ backup.kind = "StateBackup" ∧
    backup.policy = portableStatePolicy ∧ validDigest backup.backupID = true ∧
    validClusterIdentity backup.source = true
  inventory : validateStateInventory names backup.crdIdentities backup.requiredClasses
    backup.resources = .ok ()
  excluded : backup.excluded = portableStateExclusions
  count : backup.resources.length ≤ 10000

/-- The checks of `StateBackup.validate` other than the order and the digest. -/
structure BackupChecked (names : NameChecks) (codec : StateCodec) (backup : StateBackup GoNumber) :
    Prop extends BackupSound names backup where
  size : (codec.backupJSON backup.sortStateBackup).utf8ByteSize ≤ 4 * 2 ^ 20

/-- The digest of a backup is the one of its sorted content. -/
def BackupSealed (codec : StateCodec) (backup : StateBackup GoNumber) : Prop :=
  backup.backupID = backup.sortStateBackup.identityDigest codec

instance (codec : StateCodec) (backup : StateBackup GoNumber) :
    Decidable (BackupSealed codec backup) :=
  inferInstanceAs (Decidable (_ = _))

theorem refuse_eq_iff {_ : Decidable bad} {left final : σ} :
    (if bad then (.error err, left) else rest) = (.ok (), final) ↔
      ¬ bad ∧ rest = (.ok (), final) := by
  by_cases hbad : bad
  · simp [hbad]
  · simp [hbad]

theorem pass_snd {_ : Decidable bad} {left : σ} (hgood : ¬ bad) :
    (if bad then (.error err, left) else rest).2 = rest.2 := by
  rw [if_neg hgood]

theorem refuse_snd {_ : Decidable bad} {left : σ} (hrest : rest.2 = left) :
    (if bad then (.error err, left) else rest).2 = left := by
  by_cases hbad : bad
  · rw [if_pos hbad]
  · rw [if_neg hbad, hrest]

/-- INTERNAL: **a backup that passes the checks before the sort is left sorted.**
SOURCE: waycloakctl/state.go:345-378 -/
theorem backup_validate_snd (h : BackupSound names backup) :
    (backup.validate names codec).2 = backup.sortStateBackup := by
  have hidentity : ¬ (backup.apiVersion ≠ outputAPIVersion ∨ backup.kind ≠ "StateBackup" ∨
      backup.policy ≠ portableStatePolicy ∨ validDigest backup.backupID = false ∨
      validClusterIdentity backup.source = false) := by
    simp [h.identity]
  unfold StateBackup.validate
  rw [pass_snd hidentity, h.inventory]
  dsimp only
  rw [pass_snd (not_not.mpr h.excluded), pass_snd (not_lt.mpr h.count)]
  exact refuse_snd (refuse_snd (refuse_snd rfl))

theorem backup_validate_untouched (h : ¬ BackupSound names backup) :
    (backup.validate names codec).2 = backup := by
  unfold StateBackup.validate
  split
  · rfl
  next hidentity =>
  split
  · rfl
  next hinventory =>
  split
  · rfl
  next hexcluded =>
  split
  · rfl
  · next hcount =>
    simp only [ne_eq, not_or, not_not, Bool.not_eq_false] at hidentity hexcluded
    exact absurd ⟨hidentity, hinventory, hexcluded, not_lt.mp hcount⟩ h

/-- INTERNAL: **when a backup is accepted, and what it is then.**
SOURCE: waycloakctl/state.go:345-378 -/
theorem backup_validate_iff {final : StateBackup GoNumber} :
    backup.validate names codec = (.ok (), final) ↔ BackupChecked names codec backup ∧
      BackupSealed codec backup ∧ final = backup.sortStateBackup := by
  have hid : backup.sortStateBackup.backupID = backup.backupID := rfl
  unfold StateBackup.validate BackupSealed
  rw [refuse_eq_iff]
  cases hinventory : validateStateInventory names backup.crdIdentities backup.requiredClasses
      backup.resources with
  | error err =>
    refine iff_of_false (by simp) ?_
    rintro ⟨hchecked, -⟩
    rw [hchecked.inventory] at hinventory
    cases hinventory
  | ok =>
    -- The copy and the receiver have one array, so the comparison of the order is of no effect.
    simp only [refuse_eq_iff]
    simp only [StateBackup.sortedCopy, ne_eq, not_true_eq_false, or_self, not_false_eq_true,
      true_and, not_or, not_not, Bool.not_eq_false, not_lt, hid, Prod.mk.injEq]
    constructor
    · rintro ⟨hidentity, hexcluded, hcount, hsealed, hsize, hfinal⟩
      exact ⟨⟨⟨hidentity, hinventory, hexcluded, hcount⟩, hsize⟩, hsealed, hfinal.symm⟩
    · rintro ⟨⟨⟨hidentity, -, hexcluded, hcount⟩, hsize⟩, hsealed, hfinal⟩
      exact ⟨hidentity, hexcluded, hcount, hsealed, hsize, hfinal.symm⟩

/-! ## Plans -/

/-- The checks of `StateRestorePlan.validate` before the sort. -/
structure PlanSound (names : NameChecks) (codec : StateCodec) (plan : StateRestorePlan GoNumber) :
    Prop where
  identity : plan.apiVersion = outputAPIVersion ∧ plan.kind = "StateRestorePlan" ∧
    plan.policy = portableStatePolicy ∧ validDigest plan.planID = true ∧
    validDigest plan.backupID = true ∧ validDigest plan.targetObservation = true ∧
    validClusterIdentity plan.source = true ∧ validClusterIdentity plan.target = true ∧
    plan.overlayCIDR ≠ ""
  inventory : validateStateInventory names plan.crdIdentities plan.requiredClasses
    plan.resources = .ok ()
  namespaces : plan.requiredNamespaces = some (requiredStateNamespaces plan.resources)
  warnings : plan.warnings = portableRestoreWarnings
  embedded : BackupChecked names codec plan.embeddedBackup
  embeddedSealed : BackupSealed codec plan.embeddedBackup

/-- The digest of a plan is the one of its sorted content. -/
def PlanSealed (codec : StateCodec) (plan : StateRestorePlan GoNumber) : Prop :=
  plan.planID = plan.sortStateRestorePlan.identityDigest codec

instance (codec : StateCodec) (plan : StateRestorePlan GoNumber) :
    Decidable (PlanSealed codec plan) :=
  inferInstanceAs (Decidable (_ = _))

/-- The checks of `StateRestorePlan.validate` other than the order and the digest of the plan. -/
structure PlanChecked (names : NameChecks) (codec : StateCodec)
    (plan : StateRestorePlan GoNumber) : Prop extends PlanSound names codec plan where
  size : (codec.planJSON plan.sortStateRestorePlan).utf8ByteSize ≤ 4 * 2 ^ 20

theorem embedded_accepted_iff : (plan.embeddedBackup.validate names codec).1 = .ok () ↔
      BackupChecked names codec plan.embeddedBackup ∧ BackupSealed codec plan.embeddedBackup := by
  rcases hvalidate : plan.embeddedBackup.validate names codec with ⟨answer, left⟩
  constructor
  · intro hanswer
    cases hanswer
    obtain ⟨hchecked, hsealed, -⟩ := backup_validate_iff.mp hvalidate
    exact ⟨hchecked, hsealed⟩
  · rintro ⟨hchecked, hsealed⟩
    have haccepted := backup_validate_iff.mpr ⟨hchecked, hsealed, rfl⟩
    rw [hvalidate] at haccepted
    exact congrArg Prod.fst haccepted

/-- INTERNAL: **a plan that passes the checks before the sort is left sorted.**
SOURCE: waycloakctl/state.go:390-432 -/
theorem plan_validate_snd (h : PlanSound names codec plan) :
    (plan.validate names codec).2 = plan.sortStateRestorePlan := by
  have hidentity : ¬ (plan.apiVersion ≠ outputAPIVersion ∨ plan.kind ≠ "StateRestorePlan" ∨
      plan.policy ≠ portableStatePolicy ∨ validDigest plan.planID = false ∨
      validDigest plan.backupID = false ∨ validDigest plan.targetObservation = false ∨
      validClusterIdentity plan.source = false ∨ validClusterIdentity plan.target = false ∨
      plan.overlayCIDR = "") := by
    simp [h.identity]
  have haccepted := embedded_accepted_iff.mpr ⟨h.embedded, h.embeddedSealed⟩
  unfold StateRestorePlan.validate
  rw [pass_snd hidentity, h.inventory]
  dsimp only
  rw [pass_snd (not_not.mpr h.namespaces), pass_snd (not_not.mpr h.warnings), haccepted]
  exact refuse_snd (refuse_snd (refuse_snd rfl))

theorem plan_validate_untouched (h : ¬ PlanSound names codec plan) :
    (plan.validate names codec).2 = plan := by
  unfold StateRestorePlan.validate
  split
  · rfl
  next hidentity =>
  split
  · rfl
  next hinventory =>
  split
  · rfl
  next hnamespaces =>
  split
  · rfl
  next hwarnings =>
  split
  · rfl
  next hembedded =>
  simp only [ne_eq, not_or, not_not, Bool.not_eq_false]
    at hidentity hnamespaces hwarnings
  obtain ⟨hchecked, hsealed⟩ := embedded_accepted_iff.mp hembedded
  exact absurd
    ⟨hidentity, hinventory, hnamespaces, hwarnings, hchecked, hsealed⟩ h

/-- INTERNAL: **when a plan is accepted, and what it is then.**
SOURCE: waycloakctl/state.go:390-432 -/
theorem plan_validate_iff :
    plan.validate names codec = (.ok (), final) ↔ PlanChecked names codec plan ∧
      PlanSealed codec plan ∧ final = plan.sortStateRestorePlan := by
  have hid : plan.sortStateRestorePlan.planID = plan.planID := rfl
  unfold StateRestorePlan.validate PlanSealed
  rw [refuse_eq_iff]
  cases hinventory : validateStateInventory names plan.crdIdentities plan.requiredClasses
      plan.resources with
  | error err =>
    refine iff_of_false (by simp) ?_
    rintro ⟨hchecked, -⟩
    rw [hchecked.inventory] at hinventory
    cases hinventory
  | ok =>
    simp only [refuse_eq_iff]
    cases hbackup : (plan.embeddedBackup.validate names codec).1 with
    | error err =>
      refine iff_of_false (by simp) ?_
      rintro ⟨hchecked, -⟩
      rw [embedded_accepted_iff.mpr ⟨hchecked.embedded, hchecked.embeddedSealed⟩] at hbackup
      cases hbackup
    | ok =>
      obtain ⟨hembedded, hembeddedSealed⟩ := embedded_accepted_iff.mp hbackup
      simp only [refuse_eq_iff]
      simp only [StateRestorePlan.sortedCopy, ne_eq, not_true_eq_false, or_self,
        not_false_eq_true, true_and, not_or, not_not, Bool.not_eq_false, not_lt, hid,
        Prod.mk.injEq]
      constructor
      · rintro ⟨hidentity, hnamespaces, hwarnings, hsealed, hsize, hfinal⟩
        exact ⟨⟨⟨hidentity, hinventory, hnamespaces, hwarnings, hembedded, hembeddedSealed⟩,
          hsize⟩, hsealed, hfinal.symm⟩
      · rintro ⟨⟨⟨hidentity, -, hnamespaces, hwarnings, -, -⟩, hsize⟩, hsealed, hfinal⟩
        exact ⟨hidentity, hnamespaces, hwarnings, hsealed, hsize, hfinal.symm⟩

/-! ## Sorting -/

/-- INTERNAL: **sorting a backup of distinct keys changes nothing iff it is in order.** -/
theorem sortStateBackup_eq_self_iff (h : BackupSound names backup) :
    backup.sortStateBackup = backup ↔ CanonicalOrder backup.requiredClasses backup.resources := by
  obtain ⟨hclasses, hresources⟩ := validateStateInventory_ok h.inventory
  unfold CanonicalOrder
  rw [← sortBy_eq_self_iff hresources, ← sortBy_eq_self_iff hclasses]
  constructor
  · intro hsame
    exact ⟨congrArg StateBackup.resources hsame, congrArg StateBackup.requiredClasses hsame⟩
  · rintro ⟨hsortedResources, hsortedClasses⟩
    unfold StateBackup.sortStateBackup
    rw [hsortedResources, hsortedClasses]

theorem sortStateRestorePlan_eq_self_iff (h : PlanSound names codec plan) :
    plan.sortStateRestorePlan = plan ↔ CanonicalOrder plan.requiredClasses plan.resources := by
  obtain ⟨hclasses, hresources⟩ := validateStateInventory_ok h.inventory
  have hnamespaces : plan.requiredNamespaces.map (sortBy id) = plan.requiredNamespaces := by
    have hstrict : StrictlyBy id (requiredStateNamespaces plan.resources) :=
      strictlyBy_sortBy (by simpa using List.nodup_dedup _)
    rw [h.namespaces, Option.map_some, sortBy_of_strictly hstrict]
  unfold CanonicalOrder
  rw [← sortBy_eq_self_iff hresources, ← sortBy_eq_self_iff hclasses]
  constructor
  · intro hsame
    exact ⟨congrArg StateRestorePlan.resources hsame,
      congrArg StateRestorePlan.requiredClasses hsame⟩
  · rintro ⟨hsortedResources, hsortedClasses⟩
    unfold StateRestorePlan.sortStateRestorePlan
    rw [hsortedResources, hsortedClasses, hnamespaces]

theorem sortStateBackup_idem : backup.sortStateBackup.sortStateBackup = backup.sortStateBackup := by
  unfold StateBackup.sortStateBackup
  simp only [sortBy_idem]

theorem BackupChecked.sorted
    (h : BackupChecked names codec backup) : BackupChecked names codec backup.sortStateBackup where
  identity := h.identity
  inventory := validateStateInventory_perm sortBy_perm sortBy_perm h.inventory
  excluded := h.excluded
  count := sortBy_perm.length_eq.trans_le h.count
  size := by
    rw [sortStateBackup_idem]
    exact h.size

theorem sortStateRestorePlan_idem :
    plan.sortStateRestorePlan.sortStateRestorePlan = plan.sortStateRestorePlan := by
  have hsorted : sortBy id ∘ sortBy id = (sortBy id : List String → List String) :=
    funext fun _ => sortBy_idem
  unfold StateRestorePlan.sortStateRestorePlan
  simp only [sortBy_idem, Option.map_map, hsorted]

theorem requiredStateNamespaces_perm {resources resources' : List (PortableStateResource N)}
    (h : resources'.Perm resources) :
    requiredStateNamespaces resources' = requiredStateNamespaces resources := by
  unfold requiredStateNamespaces
  apply sortBy_eq_of_perm (h.map _).dedup
  simpa using List.nodup_dedup _

theorem PlanSound.sorted (h : PlanSound names codec plan) :
    PlanSound names codec plan.sortStateRestorePlan where
  identity := h.identity
  inventory := validateStateInventory_perm sortBy_perm sortBy_perm h.inventory
  namespaces := by
    have hstrict : StrictlyBy id (requiredStateNamespaces plan.resources) :=
      strictlyBy_sortBy (by simpa using List.nodup_dedup _)
    have hperm : plan.sortStateRestorePlan.resources.Perm plan.resources := sortBy_perm
    rw [requiredStateNamespaces_perm hperm]
    unfold StateRestorePlan.sortStateRestorePlan
    simp only [h.namespaces, Option.map_some, sortBy_of_strictly hstrict]
  warnings := h.warnings
  embedded := h.embedded.sorted
  embeddedSealed := by
    have hsealed := h.embeddedSealed
    unfold BackupSealed at hsealed ⊢
    have hsorted : plan.sortStateRestorePlan.embeddedBackup =
        plan.embeddedBackup.sortStateBackup := rfl
    rw [hsorted, sortStateBackup_idem]
    exact hsealed

/-- INTERNAL: **an accepted plan is accepted again as it was left.** -/
theorem plan_validate_again (h : plan.validate names codec = (.ok (), final)) :
    final.validate names codec = (.ok (), final) := by
  obtain ⟨hchecked, hsealed, rfl⟩ := plan_validate_iff.mp h
  have hsize : (codec.planJSON plan.sortStateRestorePlan.sortStateRestorePlan).utf8ByteSize ≤
      4 * 2 ^ 20 := by
    rw [sortStateRestorePlan_idem]
    exact hchecked.size
  have hsealedAgain : PlanSealed codec plan.sortStateRestorePlan := by
    unfold PlanSealed
    rw [sortStateRestorePlan_idem]
    exact hsealed
  exact plan_validate_iff.mpr
    ⟨⟨hchecked.toPlanSound.sorted, hsize⟩, hsealedAgain, sortStateRestorePlan_idem.symm⟩

/-! ## Files -/

theorem stateResourceKey_decode (resource : PortableStateResource Int) :
    stateResourceKey resource.decode = stateResourceKey resource := rfl

theorem canonicalOrder_decode {resources : List (PortableStateResource Int)} :
    CanonicalOrder classes (resources.map (·.decode)) ↔ CanonicalOrder classes resources := by
  unfold CanonicalOrder StrictlyBy
  rw [List.pairwise_map]
  simp only [stateResourceKey_decode]

theorem loadStateBackup_ok {file : StateBackup Int} :
    loadStateBackup names codec (.ok file) = .ok backup ↔
      file.decode.validate names codec = (.ok (), backup) := by
  unfold loadStateBackup
  rcases hvalidate : file.decode.validate names codec with ⟨answer | answer, left⟩
  · simp [hvalidate]
  · simp [hvalidate]

theorem loadStateRestorePlan_ok {file : StateRestorePlan Int} :
    loadStateRestorePlan names codec (.ok file) = .ok plan ↔
      file.decode.validate names codec = (.ok (), plan) := by
  unfold loadStateRestorePlan
  rcases hvalidate : file.decode.validate names codec with ⟨answer | answer, left⟩
  · simp [hvalidate]
  · simp [hvalidate]

/-! ## Documents of adapters -/

def anyName : NameChecks := ⟨fun _ => true, fun _ => true⟩

def clusterJson (cluster : ClusterIdentity) : Json Int :=
  .ofMembers [("serverFingerprint", .str cluster.serverFingerprint),
    ("trustFingerprint", .str cluster.trustFingerprint),
    ("clusterUIDFingerprint", .str cluster.clusterUIDFingerprint)]

def resourceJson (resource : PortableStateResource GoNumber) : Json Int :=
  .ofMembers [("apiVersion", .str resource.apiVersion), ("kind", .str resource.kind),
    ("metadata", .ofMembers
      [("namespace", .str resource.namespaceName), ("name", .str resource.name)]),
    ("spec", .object (encodeSpec (resource.spec.getD .nil)))]

def textsJson (texts : List String) : Json Int := .ofItems (texts.map .str)

def backupText (backup : StateBackup GoNumber) : String :=
  (Json.ofMembers [("apiVersion", .str backup.apiVersion), ("kind", .str backup.kind),
      ("policy", .str backup.policy), ("backupID", .str backup.backupID),
      ("sourceCluster", clusterJson backup.source),
      ("crdIdentities", .ofMembers (backup.crdIdentities.map fun crd => (crd.1, .str crd.2))),
      ("resources", .ofItems (backup.resources.map resourceJson)),
      ("excluded", textsJson backup.excluded)]).text

def planText (plan : StateRestorePlan GoNumber) : String :=
  (Json.ofMembers [("apiVersion", .str plan.apiVersion), ("kind", .str plan.kind),
      ("policy", .str plan.policy), ("planID", .str plan.planID), ("backupID", .str plan.backupID),
      ("sourceCluster", clusterJson plan.source), ("targetCluster", clusterJson plan.target),
      ("targetObservationDigest", .str plan.targetObservation),
      ("overlayCIDR", .str plan.overlayCIDR),
      ("crdIdentities", .ofMembers (plan.crdIdentities.map fun crd => (crd.1, .str crd.2))),
      ("requiredNamespaces", textsJson (plan.requiredNamespaces.getD [])),
      ("resources", .ofItems (plan.resources.map resourceJson)),
      ("warnings", textsJson plan.warnings)]).text

/-- `json.Marshal` of documents that name no classes, need no escapes and have their maps in order,
and the SHA-256 sums in a table. -/
def documentCodec (sums : List (String × String)) : StateCodec where
  backupJSON := backupText
  planJSON := planText
  sha256 data := (sums.lookup data).getD ""

def zeroDigest : String := "sha256:" ++ String.ofList (List.replicate 64 '0')

def adapterNamed (name : String) (spec : JsonFields Int) : PortableStateResource Int where
  apiVersion := "networking.waycloak.io/v1beta1"
  kind := "WorkloadAdapter"
  namespaceName := "apps"
  name := name
  spec := some spec

theorem validDigest_zeroDigest : validDigest zeroDigest = true := by decide +kernel

theorem lookup_identities {identity name : String} {crds : List String} (h : name ∈ crds) :
    (crds.map (·, identity)).lookup name = some identity := by
  induction crds with
  | nil => cases h
  | cons first rest ih =>
    rw [List.map_cons, List.lookup_cons]
    by_cases hfirst : name = first
    · simp [hfirst]
    · rw [beq_false_of_ne hfirst]
      exact ih ((List.mem_cons.mp h).resolve_left hfirst)

theorem adapters_inventory {resources : List (PortableStateResource GoNumber)}
    (hadapters : ∀ r ∈ resources, ∃ name spec, r = (adapterNamed name spec).decode)
    (hdistinct : (resources.map stateResourceKey).Nodup) :
    validateStateInventory anyName (stateCRDNames.map (·, zeroDigest)) [] resources = .ok () := by
  rw [validateStateInventory_iff]
  refine ⟨rfl, ?_, by simp, ?_, hdistinct⟩
  · rw [List.find?_eq_none]
    intro name hname
    simp [lookup_identities hname, validDigest_zeroDigest]
  intro r hr
  obtain ⟨name, spec, rfl⟩ := hadapters r hr
  refine ⟨rfl, ?_⟩
  rintro ⟨hkind, -⟩
  simp [adapterNamed, PortableStateResource.decode] at hkind

end Waycloak.Interface
