import Waycloak.Interface.PortableFiles

/-!
# Applying a restore plan again

`ApplyStateRestorePlan` creates the resources of a plan one after the other. If it stops after some
of them it is meant to be applied again: the objects it has created carry the plan's ID and spec,
and only the others are created.

The loop over the resources passes over the ones that are there as the plan made them
(`restoreResources_present`) and creates the ones that are absent (`restoreResources_absent`).
Whether an object the plan made is recognised is a comparison of the spec in memory with the spec of
the API server. The first one was decoded from the file, with its integers as `float64`, the second
one has `int64`; the two are equal iff there is no number in the spec
(`stateObjectMatchesPlan_own`).
-/

set_option autoImplicit false

namespace Waycloak.Analysis

open Waycloak.Computation Waycloak.Model Waycloak.Interface

variable {names : NameChecks} {codec : StateCodec} {planID : String} {target : RestoreTarget}
  {r : PortableStateResource GoNumber} {l rest : List (PortableStateResource GoNumber)}
variable {plan : StateRestorePlan GoNumber}

/-! ## The objects of a plan -/

/-- The target with the objects of the resources in it. -/
def ownAll (planID : String) (l : List (PortableStateResource GoNumber)) (target : RestoreTarget) :
    RestoreTarget :=
  l.foldl (fun owned r => Function.update owned r.objectKey (some (stateRestoreObject r planID)))
    target

theorem ownAll_of_not_mem {key : String × NamespaceName × ObjectName}
    (h : key ∉ l.map (·.objectKey)) : ownAll planID l target key = target key := by
  induction l generalizing target with
  | nil => rfl
  | cons first rest ih =>
    rw [List.map_cons, List.mem_cons, not_or] at h
    have hrest := @ih
      (Function.update target first.objectKey (some (stateRestoreObject first planID))) h.2
    exact hrest.trans (Function.update_of_ne h.1 _ _)

theorem ownAll_of_mem (hdistinct : (l.map (·.objectKey)).Nodup) (hr : r ∈ l) :
    ownAll planID l target r.objectKey = some (stateRestoreObject r planID) := by
  induction l generalizing target with
  | nil => cases hr
  | cons first rest ih =>
    rw [List.map_cons, List.nodup_cons] at hdistinct
    obtain ⟨hnew, hdistinctRest⟩ := hdistinct
    rcases List.mem_cons.mp hr with rfl | hrest
    · have hkept := @ownAll_of_not_mem planID
        (Function.update target r.objectKey (some (stateRestoreObject r planID))) rest _ hnew
      exact hkept.trans (Function.update_self _ _ _)
    · exact ih hdistinctRest hrest

theorem objectKey_nodup (h : (l.map stateResourceKey).Nodup) : (l.map (·.objectKey)).Nodup := by
  have hkey : l.map stateResourceKey = (l.map (·.objectKey)).map fun key =>
      stateResourceOrder key.1 ++ "/" ++ key.1 ++ "/" ++ key.2.1 ++ "/" ++ key.2.2 := by
    rw [List.map_map]
    rfl
  rw [hkey] at h
  exact h.of_map

/-! ## The loop -/

/-- INTERNAL: **resources that are absent are all created.**
SOURCE: waycloakctl/state.go:240-275 -/
theorem restoreResources_absent (hdistinct : (l.map (·.objectKey)).Nodup)
    (habsent : ∀ r ∈ l, target r.objectKey = none) :
    restoreResources planID l target =
      { created := l.map (·.objectKey), target := ownAll planID l target, err := none } := by
  induction l generalizing target with
  | nil => rfl
  | cons first rest ih =>
    rw [List.map_cons, List.nodup_cons] at hdistinct
    have hrest : ∀ r ∈ rest, Function.update target first.objectKey
        (some (stateRestoreObject first planID)) r.objectKey = none := by
      intro r hr
      have hne : r.objectKey ≠ first.objectKey := by
        intro hsame
        exact hdistinct.1 (List.mem_map.mpr ⟨r, hr, hsame⟩)
      rw [Function.update_of_ne hne]
      exact habsent r (List.mem_cons_of_mem _ hr)
    unfold restoreResources
    simp only [habsent first List.mem_cons_self, ih hdistinct.2 hrest]
    rfl

/-- INTERNAL: **resources that are there as the plan made them are passed over.** -/
theorem restoreResources_present
    (hpresent : ∀ r ∈ l, target r.objectKey = some (stateRestoreObject r planID) ∧
      stateObjectMatchesPlan (stateRestoreObject r planID) r planID = true) :
    restoreResources planID (l ++ rest) target = restoreResources planID rest target := by
  induction l with
  | nil => rfl
  | cons first _ ih =>
    obtain ⟨hthere, hmatch⟩ := hpresent first List.mem_cons_self
    have hsame : Function.update target first.objectKey
        (some (stateRestoreObject first planID)) = target := by
      rw [← hthere, Function.update_eq_self]
    rw [List.cons_append, restoreResources]
    simp only [hthere, hmatch, if_true, hsame]
    exact ih fun r hr => hpresent r (List.mem_cons_of_mem _ hr)

/-- INTERNAL: the precheck passes iff every object that is there matches.
SOURCE: waycloakctl/state.go:587-602 -/
theorem precheckStateRestoreConflicts_iff : precheckStateRestoreConflicts planID target l = .ok () ↔
      ∀ r ∈ l, ∀ existing, target r.objectKey = some existing →
        stateObjectMatchesPlan existing r planID = true := by
  induction l with
  | nil => simp [precheckStateRestoreConflicts]
  | cons first rest ih =>
    unfold precheckStateRestoreConflicts
    rw [List.forall_mem_cons, ← ih]
    cases hthere : target first.objectKey with
    | none => simp
    | some existing =>
      cases hmatch : stateObjectMatchesPlan existing first planID with
      | false => simp [hmatch]
      | true => simp [hmatch]

/-! ## The comparison of specs -/

variable (spec : JsonFields Int)

theorem decodeServer_encodeSpec_decodeFile :
    decodeServer (encodeSpec (decodeFile spec)) = decodeFile spec ↔ spec.numbers = [] := by
  unfold decodeServer encodeSpec decodeFile
  rw [JsonFields.map_map, JsonFields.map_map, JsonFields.map_eq_map_iff]
  simp [List.eq_nil_iff_forall_not_mem]

/-- INTERNAL: **an object of the plan is recognised iff there is no number in its spec.**
SOURCE: waycloakctl/state.go:604-610 -/
theorem stateObjectMatchesPlan_own {resource : PortableStateResource Int} {spec : JsonFields Int}
    (hspec : resource.spec = some spec) :
    stateObjectMatchesPlan (stateRestoreObject resource.decode planID) resource.decode planID =
      true ↔ spec.numbers = [] := by
  unfold stateObjectMatchesPlan stateRestoreObject PortableStateResource.decode
  rw [← decodeServer_encodeSpec_decodeFile]
  simp [hspec]

/-! ## The plan -/

theorem applyStateRestorePlan_eq {checks : RestoreChecks}
    (hvalid : plan.validate names codec = (.ok (), plan))
    (hpreflight : checks.preflight = .ok (true, plan.targetObservation, plan.target))
    (hprerequisites : checks.prerequisites = .ok ()) :
    applyStateRestorePlan names codec checks plan plan.planID target =
      match precheckStateRestoreConflicts plan.planID target plan.resources with
      | .error err => { created := [], target, err := some err }
      | .ok () => restoreResources plan.planID plan.resources target := by
  unfold applyStateRestorePlan
  cases hconflicts : precheckStateRestoreConflicts plan.planID target plan.resources with
  | error err | ok => simp [hvalid, hpreflight, hprerequisites, hconflicts]

/-- The target after the first resources of a plan were created. -/
def stoppedAfter (count : Nat) (plan : StateRestorePlan GoNumber) (target : RestoreTarget) :
    RestoreTarget :=
  (restoreResources plan.planID (plan.resources.take count) target).target

section Again

variable {count : Nat}

variable (hdistinct : (plan.resources.map (·.objectKey)).Nodup)
  (hfresh : ∀ r ∈ plan.resources, target r.objectKey = none)

include hdistinct hfresh

theorem stoppedAfter_eq :
    stoppedAfter count plan target = ownAll plan.planID (plan.resources.take count) target := by
  have htake : ((plan.resources.take count).map (·.objectKey)).Nodup :=
    hdistinct.sublist ((List.take_sublist _ _).map _)
  unfold stoppedAfter
  rw [restoreResources_absent htake fun r hr => hfresh r (List.mem_of_mem_take hr)]

theorem stoppedAfter_created (hr : r ∈ plan.resources.take count) :
    stoppedAfter count plan target r.objectKey = some (stateRestoreObject r plan.planID) := by
  rw [stoppedAfter_eq hdistinct hfresh]
  exact ownAll_of_mem (hdistinct.sublist ((List.take_sublist _ _).map _)) hr

theorem stoppedAfter_missing (hr : r ∈ plan.resources.drop count) :
    stoppedAfter count plan target r.objectKey = none := by
  have hsplit : ((plan.resources.take count).map (·.objectKey) ++
      (plan.resources.drop count).map (·.objectKey)).Nodup := by
    rwa [← List.map_append, List.take_append_drop]
  have hnew : r.objectKey ∉ (plan.resources.take count).map (·.objectKey) := by
    intro htaken
    exact (List.nodup_append.mp hsplit).2.2 _ htaken _ (List.mem_map_of_mem hr) rfl
  rw [stoppedAfter_eq hdistinct hfresh, ownAll_of_not_mem hnew]
  exact hfresh r (List.mem_of_mem_drop hr)

variable (hmatch : ∀ r ∈ plan.resources,
    stateObjectMatchesPlan (stateRestoreObject r plan.planID) r plan.planID = true)

include hmatch

/-- INTERNAL: **the restore goes on where it stopped if it recognises what it made.** -/
theorem restoreResources_stopped :
    restoreResources plan.planID plan.resources (stoppedAfter count plan target) =
      { created := (plan.resources.drop count).map (·.objectKey)
        target := ownAll plan.planID plan.resources target
        err := none } := by
  have hpresent : ∀ r ∈ plan.resources.take count,
      stoppedAfter count plan target r.objectKey = some (stateRestoreObject r plan.planID) ∧
        stateObjectMatchesPlan (stateRestoreObject r plan.planID) r plan.planID = true :=
    fun r hr => ⟨stoppedAfter_created hdistinct hfresh hr, hmatch r (List.mem_of_mem_take hr)⟩
  have hdrop : ((plan.resources.drop count).map (·.objectKey)).Nodup :=
    hdistinct.sublist ((List.drop_sublist _ _).map _)
  have howned : ownAll plan.planID (plan.resources.drop count)
      (ownAll plan.planID (plan.resources.take count) target) =
        ownAll plan.planID plan.resources target := by
    unfold ownAll
    rw [← List.foldl_append, List.take_append_drop]
  calc restoreResources plan.planID plan.resources (stoppedAfter count plan target)
      = restoreResources plan.planID (plan.resources.take count ++ plan.resources.drop count)
          (stoppedAfter count plan target) := by rw [List.take_append_drop]
    _ = restoreResources plan.planID (plan.resources.drop count)
          (stoppedAfter count plan target) := restoreResources_present hpresent
    _ = _ := by
          rw [restoreResources_absent hdrop fun r hr => stoppedAfter_missing hdistinct hfresh hr,
            stoppedAfter_eq hdistinct hfresh, howned]

theorem precheck_stopped :
    precheckStateRestoreConflicts plan.planID (stoppedAfter count plan target) plan.resources =
      .ok () := by
  rw [precheckStateRestoreConflicts_iff]
  intro r hr existing hexisting
  have hwhere : r ∈ plan.resources.take count ∨ r ∈ plan.resources.drop count := by
    rw [← List.mem_append, List.take_append_drop]
    exact hr
  rcases hwhere with htaken | hdropped
  · rw [stoppedAfter_created hdistinct hfresh htaken] at hexisting
    cases hexisting
    exact hmatch r hr
  · rw [stoppedAfter_missing hdistinct hfresh hdropped] at hexisting
    cases hexisting

end Again

/-- **A restore that was stopped can be taken up again, wherever it was stopped, iff no spec of the
plan has a number.**
SOURCE: waycloakctl/state.go:219-275, 587-610 -/
theorem restore_taken_up_iff (names : NameChecks) (codec : StateCodec) (checks : RestoreChecks)
    (file : StateRestorePlan Int) (plan : StateRestorePlan GoNumber) (target : RestoreTarget)
    (hload : loadStateRestorePlan names codec (.ok file) = .ok plan)
    (hpreflight : checks.preflight = .ok (true, plan.targetObservation, plan.target))
    (hprerequisites : checks.prerequisites = .ok ())
    (hfresh : ∀ r ∈ plan.resources, target r.objectKey = none) :
    (∀ count,
      let again := applyStateRestorePlan names codec checks plan plan.planID
        (stoppedAfter count plan target)
      again.err = none ∧ again.created = (plan.resources.drop count).map (·.objectKey) ∧
        again.target =
          (applyStateRestorePlan names codec checks plan plan.planID target).target) ↔
      ∀ r ∈ file.resources, ∀ spec, r.spec = some spec → spec.numbers = [] := by
  have hvalidate := loadStateRestorePlan_ok.mp hload
  have hvalid := plan_validate_again hvalidate
  obtain ⟨hchecked, -, hplan⟩ := plan_validate_iff.mp hvalidate
  obtain ⟨-, -, -, hcomplete, hkeys⟩ := validateStateInventory_iff.mp hchecked.inventory
  -- The resources of the plan are those of the file, decoded and in order.
  have hresources : ∀ r, r ∈ plan.resources ↔ r ∈ file.resources.map (·.decode) := by
    intro r
    rw [hplan]
    exact mem_sortBy
  have hdistinct : (plan.resources.map (·.objectKey)).Nodup := by
    apply objectKey_nodup
    rw [hplan]
    exact (sortBy_perm.map _).nodup_iff.mpr hkeys
  have hown : ∀ r ∈ file.resources,
      (stateObjectMatchesPlan (stateRestoreObject r.decode plan.planID) r.decode plan.planID =
        true ↔ ∀ spec, r.spec = some spec → spec.numbers = []) := by
    intro r hr
    cases hspec : r.spec with
    | none =>
      have hidentity := (hcomplete r.decode (List.mem_map_of_mem hr)).1
      simp [validatePortableStateResource, PortableStateResource.decode, hspec] at hidentity
    | some =>
      rw [stateObjectMatchesPlan_own hspec]
      simp
  have happly := fun reached =>
    @applyStateRestorePlan_eq names codec reached plan checks hvalid hpreflight hprerequisites
  constructor
  · intro hagain r hr
    obtain ⟨herr, -, -⟩ := hagain plan.resources.length
    have hmem : r.decode ∈ plan.resources := (hresources _).mpr (List.mem_map_of_mem hr)
    rw [happly] at herr
    have hprecheck : precheckStateRestoreConflicts plan.planID
        (stoppedAfter plan.resources.length plan target) plan.resources = .ok () := by
      cases hanswer : precheckStateRestoreConflicts plan.planID
          (stoppedAfter plan.resources.length plan target) plan.resources with
      | error err => simp [hanswer] at herr
      | ok => rfl
    refine (hown r hr).mp (precheckStateRestoreConflicts_iff.mp hprecheck _ hmem _ ?_)
    apply stoppedAfter_created hdistinct hfresh
    rwa [List.take_length]
  · intro hnumbers count
    have hmatch : ∀ r ∈ plan.resources,
        stateObjectMatchesPlan (stateRestoreObject r plan.planID) r plan.planID = true := by
      intro r hr
      obtain ⟨source, hsource, rfl⟩ := List.mem_map.mp ((hresources r).mp hr)
      exact (hown source hsource).mpr (hnumbers source hsource)
    -- The plan applied to the fresh target is the case of a restore that was stopped at once.
    have hstart : stoppedAfter 0 plan target = target := rfl
    have hfirst := @restoreResources_stopped target plan 0 hdistinct hfresh hmatch
    have hfirstCheck := @precheck_stopped target plan 0 hdistinct hfresh hmatch
    rw [hstart] at hfirst hfirstCheck
    simp only [happly, hfirst, hfirstCheck, precheck_stopped hdistinct hfresh hmatch,
      restoreResources_stopped hdistinct hfresh hmatch, and_self]

/-! ### Plans of one adapter -/

/-- An adapter with a spec, and the SHA-256 sums of its backup and of its plan. -/
structure SealedAdapter where
  spec : JsonFields Int
  backupSum : String
  planSum : String

def textAdapter : SealedAdapter where
  spec := .cons "protocol" (.str "TCP") .nil
  backupSum := "a88644d5229412711d29ae7b8ade2a48ff7cc22704663d2c695689442ca211dc"
  planSum := "e1125d717e9e15be6bb6b0ee049a7a3b62bee686bad75ee9e57d18d5831af9df"

def portAdapter : SealedAdapter where
  spec := .cons "port" (.number 8080) .nil
  backupSum := "61110fa0d16e4cf0cbc26f262e972ab549dde2c021af88db460266c8d577c5aa"
  planSum := "ae948b9c46856e1d1102ca1b15d175ddabd1080413e90621caa84b40e1a13fb3"

variable {adapter : SealedAdapter}

def adapterPlan (adapter : SealedAdapter) : StateRestorePlan Int where
  apiVersion := outputAPIVersion
  kind := "StateRestorePlan"
  policy := portableStatePolicy
  planID := "sha256:" ++ adapter.planSum
  backupID := "sha256:" ++ adapter.backupSum
  source := ⟨zeroDigest, zeroDigest, zeroDigest⟩
  target := ⟨zeroDigest, zeroDigest, zeroDigest⟩
  targetObservation := zeroDigest
  overlayCIDR := "10.42.0.0/16"
  crdIdentities := stateCRDNames.map (·, zeroDigest)
  requiredClasses := []
  requiredNamespaces := some ["apps"]
  resources := [adapterNamed "a" adapter.spec]
  warnings := portableRestoreWarnings

def backupContent (adapter : SealedAdapter) : String :=
  backupText { (adapterPlan adapter).decode.embeddedBackup with backupID := "" }

def planContent (adapter : SealedAdapter) : String :=
  planText { (adapterPlan adapter).decode with planID := "" }

def adapterCodec (adapter : SealedAdapter) : StateCodec :=
  documentCodec [(backupContent adapter, adapter.backupSum), (planContent adapter, adapter.planSum)]

def matchingChecks : RestoreChecks where
  preflight := .ok (true, zeroDigest, ⟨zeroDigest, zeroDigest, zeroDigest⟩)
  prerequisites := .ok ()

theorem validClusterIdentity_zero :
    validClusterIdentity ⟨zeroDigest, zeroDigest, zeroDigest⟩ = true := by
  unfold validClusterIdentity
  simp [validDigest_zeroDigest]

/-- What is left to check of a plan once its documents are encoded. -/
structure Encodable (adapter : SealedAdapter) : Prop where
  backupSum : validDigest ("sha256:" ++ adapter.backupSum) = true
  planSum : validDigest ("sha256:" ++ adapter.planSum) = true
  apart : planContent adapter ≠ backupContent adapter
  backupSize : (backupText (adapterPlan adapter).decode.embeddedBackup).utf8ByteSize ≤ 4 * 2 ^ 20
  planSize : (planText (adapterPlan adapter).decode).utf8ByteSize ≤ 4 * 2 ^ 20

theorem textAdapter_encodable : Encodable textAdapter := by
  constructor <;> decide +kernel

theorem portAdapter_encodable : Encodable portAdapter := by
  constructor <;> decide +kernel

theorem adapterPlan_inventory :
    validateStateInventory anyName (adapterPlan adapter).decode.crdIdentities
      (adapterPlan adapter).decode.requiredClasses (adapterPlan adapter).decode.resources =
        .ok () := by
  apply adapters_inventory
  · intro r hr
    exact ⟨"a", adapter.spec, List.mem_singleton.mp hr⟩
  · exact List.nodup_singleton _

theorem adapterPlan_validates (h : Encodable adapter) :
    (adapterPlan adapter).decode.validate anyName (adapterCodec adapter) =
      (.ok (), (adapterPlan adapter).decode) := by
  have hoverlay : "10.42.0.0/16" ≠ "" := by decide
  have hbackupSealed : BackupSealed (adapterCodec adapter)
      (adapterPlan adapter).decode.embeddedBackup := by
    have hsum : (adapterCodec adapter).sha256 (backupContent adapter) = adapter.backupSum := by
      simp [adapterCodec, documentCodec, List.lookup_cons]
    exact congrArg ("sha256:" ++ ·) hsum.symm
  have hplanSealed : PlanSealed (adapterCodec adapter) (adapterPlan adapter).decode := by
    have hsum : (adapterCodec adapter).sha256 (planContent adapter) = adapter.planSum := by
      simp [adapterCodec, documentCodec, List.lookup_cons, beq_false_of_ne h.apart]
    exact congrArg ("sha256:" ++ ·) hsum.symm
  have hbackup : BackupChecked anyName (adapterCodec adapter)
      (adapterPlan adapter).decode.embeddedBackup :=
    { identity := ⟨rfl, rfl, rfl, h.backupSum, validClusterIdentity_zero⟩
      inventory := adapterPlan_inventory
      excluded := rfl
      count := Nat.le_add_left 1 9999
      size := h.backupSize }
  have hsound : PlanSound anyName (adapterCodec adapter) (adapterPlan adapter).decode :=
    { identity := ⟨rfl, rfl, rfl, h.planSum, h.backupSum, validDigest_zeroDigest,
        validClusterIdentity_zero, validClusterIdentity_zero, hoverlay⟩
      inventory := adapterPlan_inventory
      namespaces := rfl
      warnings := rfl
      embedded := hbackup
      embeddedSealed := hbackupSealed }
  exact plan_validate_iff.mpr ⟨⟨hsound, h.planSize⟩, hplanSealed, rfl⟩

/-- A plan whose spec has only texts can be taken up. -/
theorem restore_taken_up_protocol :
    let plan := (adapterPlan textAdapter).decode
    ∀ count,
      (applyStateRestorePlan anyName (adapterCodec textAdapter) matchingChecks plan plan.planID
        (stoppedAfter count plan fun _ => none)).err = none := by
  intro plan count
  have htaken := (restore_taken_up_iff anyName (adapterCodec textAdapter) matchingChecks
    (adapterPlan textAdapter) plan (fun _ => none)
    (loadStateRestorePlan_ok.mpr (adapterPlan_validates textAdapter_encodable)) rfl rfl
    (fun _ _ => rfl)).mpr (by
      intro r hr spec hspec
      rw [List.mem_singleton.mp hr] at hspec
      cases hspec
      rfl)
  exact (htaken count).1

/-- A plan whose spec has a port refuses the object it has created. -/
theorem restore_refuses_own_port :
    let file := adapterPlan portAdapter
    let plan := file.decode
    let codec := adapterCodec portAdapter
    loadStateRestorePlan anyName codec (.ok file) = .ok plan ∧
      (applyStateRestorePlan anyName codec matchingChecks plan plan.planID
        fun _ => none).err = none ∧
      (applyStateRestorePlan anyName codec matchingChecks plan plan.planID
        (stoppedAfter 1 plan fun _ => none)).err =
          some "refusing restore conflict: WorkloadAdapter apps/a already exists" := by
  intro file plan codec
  have hvalid : plan.validate anyName codec = (.ok (), plan) :=
    adapterPlan_validates portAdapter_encodable
  refine ⟨loadStateRestorePlan_ok.mpr hvalid, ?_, ?_⟩
  · rw [applyStateRestorePlan_eq hvalid rfl rfl]
    rfl
  · rw [applyStateRestorePlan_eq hvalid rfl rfl]
    decide +kernel

end Waycloak.Analysis
