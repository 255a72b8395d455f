import Waycloak.Interface.PortableFiles

/-!
# The order of the lists of an accepted file

`validate` is meant to accept a backup or a restore plan only in its canonical order. It compares
the document with a sorted copy of itself, but the two share their arrays (`sortedCopy`), so the
comparison is between the sorted lists and themselves. What is left of the check is the digest, and
that is taken over the sorted lists too: a file out of order is accepted iff it carries the digest
of its content in order, and `validate` then leaves its receiver sorted.
-/

set_option autoImplicit false

namespace Waycloak.Analysis

open Waycloak.Computation Waycloak.Model Waycloak.Interface

variable {names : NameChecks} {codec : StateCodec}

theorem accepted_backup_canonical_iff {file : StateBackup Int}
    (hchecked : BackupChecked names codec file.decode) :
    (∀ backup, loadStateBackup names codec (.ok file) = .ok backup →
        CanonicalOrder file.requiredClasses file.resources) ↔
      CanonicalOrder file.requiredClasses file.resources ∨ ¬ BackupSealed codec file.decode := by
  constructor
  · intro haccepted
    by_cases hsealed : BackupSealed codec file.decode
    · left
      exact haccepted _ (loadStateBackup_ok.mpr (backup_validate_iff.mpr ⟨hchecked, hsealed, rfl⟩))
    · exact Or.inr hsealed
  · intro hcondition backup hload
    obtain ⟨-, hsealed, -⟩ := backup_validate_iff.mp (loadStateBackup_ok.mp hload)
    exact hcondition.resolve_right (not_not.mpr hsealed)

theorem accepted_plan_canonical_iff {file : StateRestorePlan Int}
    (hchecked : PlanChecked names codec file.decode) :
    (∀ plan, loadStateRestorePlan names codec (.ok file) = .ok plan →
        CanonicalOrder file.requiredClasses file.resources) ↔
      CanonicalOrder file.requiredClasses file.resources ∨ ¬ PlanSealed codec file.decode := by
  constructor
  · intro haccepted
    by_cases hsealed : PlanSealed codec file.decode
    · left
      exact haccepted _
        (loadStateRestorePlan_ok.mpr (plan_validate_iff.mpr ⟨hchecked, hsealed, rfl⟩))
    · exact Or.inr hsealed
  · intro hcondition plan hload
    obtain ⟨-, hsealed, -⟩ := plan_validate_iff.mp (loadStateRestorePlan_ok.mp hload)
    exact hcondition.resolve_right (not_not.mpr hsealed)

/-- INTERNAL: `validate` leaves a backup alone iff it does not come to the sort or finds it in
order. -/
theorem backup_validate_unchanged_iff {backup : StateBackup GoNumber} :
    (backup.validate names codec).2 = backup ↔
      (BackupSound names backup → CanonicalOrder backup.requiredClasses backup.resources) := by
  by_cases hsound : BackupSound names backup
  · rw [backup_validate_snd hsound, sortStateBackup_eq_self_iff hsound]
    simp [hsound]
  · simp [hsound, backup_validate_untouched hsound]

theorem plan_validate_unchanged_iff {plan : StateRestorePlan GoNumber} :
    (plan.validate names codec).2 = plan ↔
      (PlanSound names codec plan → CanonicalOrder plan.requiredClasses plan.resources) := by
  by_cases hsound : PlanSound names codec plan
  · rw [plan_validate_snd hsound, sortStateRestorePlan_eq_self_iff hsound]
    simp [hsound]
  · simp [hsound, plan_validate_untouched hsound]

/-- The encoding of a backup and its digest determine the resources. -/
structure ContentDetermined (codec : StateCodec) : Prop where
  sha256 : Function.Injective codec.sha256
  backupJSON : ∀ first second : StateBackup Int,
    codec.backupJSON first.decode = codec.backupJSON second.decode →
      first.decode.resources = second.decode.resources

/-- A file in order is accepted, a backup or a restore plan with this `backupID` and these resources. -/
inductive AcceptedInOrder (names : NameChecks) (codec : StateCodec) :
    String → List (PortableStateResource Int) → Prop
  | backup {file : StateBackup Int} {loaded : StateBackup GoNumber}
      (hload : loadStateBackup names codec (.ok file) = .ok loaded)
      (horder : CanonicalOrder file.requiredClasses file.resources) :
      AcceptedInOrder names codec file.backupID file.resources
  | plan {file : StateRestorePlan Int} {loaded : StateRestorePlan GoNumber}
      (hload : loadStateRestorePlan names codec (.ok file) = .ok loaded)
      (horder : CanonicalOrder file.requiredClasses file.resources) :
      AcceptedInOrder names codec file.backupID file.resources

/-- INTERNAL: **the `backupID` of a file in order is the digest of a backup with its resources**, since
the digest is taken over the file as it is. -/
theorem AcceptedInOrder.digest {id : String} {resources : List (PortableStateResource Int)}
    (h : AcceptedInOrder names codec id resources) :
    ∃ file : StateBackup Int, file.resources = resources ∧
      id = codec.digestBytes (codec.backupJSON file.decode) := by
  cases h with
  | @backup file _ hload horder =>
    obtain ⟨hchecked, hsealed, -⟩ := backup_validate_iff.mp (loadStateBackup_ok.mp hload)
    have hsame := (sortStateBackup_eq_self_iff hchecked.toBackupSound).mpr
      (canonicalOrder_decode.mpr horder)
    unfold BackupSealed at hsealed
    rw [hsame] at hsealed
    exact ⟨{ file with backupID := "" }, rfl, hsealed⟩
  | @plan file _ hload horder =>
    obtain ⟨hchecked, -, -⟩ := plan_validate_iff.mp (loadStateRestorePlan_ok.mp hload)
    have hsame := (sortStateBackup_eq_self_iff hchecked.embedded.toBackupSound).mpr
      (canonicalOrder_decode.mpr horder)
    have hsealed := hchecked.embeddedSealed
    unfold BackupSealed at hsealed
    rw [hsame] at hsealed
    exact ⟨⟨outputAPIVersion, "StateBackup", portableStatePolicy, "", file.source,
      file.crdIdentities, file.requiredClasses, file.resources, portableStateExclusions⟩, rfl,
      hsealed⟩

theorem same_backupID_same_resources (hcodec : ContentDetermined codec) {id : String}
    {first second : List (PortableStateResource Int)}
    (hfirst : AcceptedInOrder names codec id first)
    (hsecond : AcceptedInOrder names codec id second) :
    first.map (·.decode) = second.map (·.decode) := by
  obtain ⟨file, rfl, hid⟩ := hfirst.digest
  obtain ⟨file', rfl, hid'⟩ := hsecond.digest
  have hencoded := hcodec.sha256 (String.append_right_inj _ |>.mp (hid.symm.trans hid'))
  exact hcodec.backupJSON file file' hencoded

/-- **When the order of the lists of a file is checked.** A backup that passes the other checks is
accepted only in order iff it is in order already or its digest refuses it, and so is a restore plan.
`validate` leaves a backup, and a plan, alone iff it does not come to the sort or finds it in order.
Two files that are accepted in order, each a backup or a plan, with one `backupID` have the same
resources in the same order. -/
theorem accepted_files_in_order (names : NameChecks) (codec : StateCodec) :
    (∀ file : StateBackup Int, BackupChecked names codec file.decode →
      ((∀ backup, loadStateBackup names codec (.ok file) = .ok backup →
          CanonicalOrder file.requiredClasses file.resources) ↔
        CanonicalOrder file.requiredClasses file.resources ∨ ¬ BackupSealed codec file.decode)) ∧
    (∀ file : StateRestorePlan Int, PlanChecked names codec file.decode →
      ((∀ plan, loadStateRestorePlan names codec (.ok file) = .ok plan →
          CanonicalOrder file.requiredClasses file.resources) ↔
        CanonicalOrder file.requiredClasses file.resources ∨ ¬ PlanSealed codec file.decode)) ∧
    (∀ backup : StateBackup GoNumber, (backup.validate names codec).2 = backup ↔
      (BackupSound names backup → CanonicalOrder backup.requiredClasses backup.resources)) ∧
    (∀ plan : StateRestorePlan GoNumber, (plan.validate names codec).2 = plan ↔
      (PlanSound names codec plan → CanonicalOrder plan.requiredClasses plan.resources)) ∧
    (ContentDetermined codec → ∀ id first second, AcceptedInOrder names codec id first →
      AcceptedInOrder names codec id second → first.map (·.decode) = second.map (·.decode)) := by
  refine ⟨?_, ?_, ?_, ?_, ?_⟩
  · intro file hchecked
    exact accepted_backup_canonical_iff hchecked
  · intro file hchecked
    exact accepted_plan_canonical_iff hchecked
  · intro backup
    exact backup_validate_unchanged_iff
  · intro plan
    exact plan_validate_unchanged_iff
  · intro hcodec id first second hfirst hsecond
    exact same_backupID_same_resources hcodec hfirst hsecond

/-! ### A backup of two adapters -/

def adaptersSum : String := "0881812235d7626d355668cf4679310a990e72729dc561d1a792c6f17b83c5fa"

def adaptersBackup (adapters : List String) : StateBackup Int where
  apiVersion := outputAPIVersion
  kind := "StateBackup"
  policy := portableStatePolicy
  backupID := "sha256:" ++ adaptersSum
  source := ⟨zeroDigest, zeroDigest, zeroDigest⟩
  crdIdentities := stateCRDNames.map (·, zeroDigest)
  requiredClasses := []
  resources := adapters.map (adapterNamed · .nil)
  excluded := portableStateExclusions

def adaptersCodec : StateCodec :=
  documentCodec [(backupText { (adaptersBackup ["a", "b"]).decode with backupID := "" },
    adaptersSum)]

theorem validDigest_adapters : validDigest ("sha256:" ++ adaptersSum) = true := by decide +kernel

theorem adaptersBackup_sorted {adapters : List String}
    (horder : adapters = ["a", "b"] ∨ adapters = ["b", "a"]) :
    (adaptersBackup adapters).decode.sortStateBackup = (adaptersBackup ["a", "b"]).decode := by
  rcases horder with rfl | rfl <;> rfl

theorem adaptersBackup_sealed {adapters : List String}
    (horder : adapters = ["a", "b"] ∨ adapters = ["b", "a"]) :
    BackupSealed adaptersCodec (adaptersBackup adapters).decode := by
  unfold BackupSealed StateBackup.identityDigest
  rw [adaptersBackup_sorted horder]
  simp [adaptersCodec, documentCodec, StateCodec.digestBytes, List.lookup_cons]
  rfl

theorem adaptersBackup_checked {adapters : List String}
    (horder : adapters = ["a", "b"] ∨ adapters = ["b", "a"]) :
    BackupChecked anyName adaptersCodec (adaptersBackup adapters).decode where
  identity := by
    refine ⟨rfl, rfl, rfl, validDigest_adapters, ?_⟩
    unfold validClusterIdentity
    simp [adaptersBackup, StateBackup.decode, validDigest_zeroDigest]
  inventory := by
    apply adapters_inventory
    · intro r hr
      obtain ⟨source, hsource, rfl⟩ := List.mem_map.mp hr
      obtain ⟨name, -, rfl⟩ := List.mem_map.mp hsource
      exact ⟨name, .nil, rfl⟩
    · rcases horder with rfl | rfl
      · decide +kernel
      · decide +kernel
  excluded := rfl
  count := by rcases horder with rfl | rfl <;> decide
  size := by
    rw [adaptersBackup_sorted horder]
    decide +kernel

theorem accepted_files_in_order_adapters :
    BackupSealed adaptersCodec (adaptersBackup ["a", "b"]).decode ∧
      ∀ backup, loadStateBackup anyName adaptersCodec (.ok (adaptersBackup ["a", "b"])) = .ok backup →
        CanonicalOrder (adaptersBackup ["a", "b"]).requiredClasses
          (adaptersBackup ["a", "b"]).resources := by
  refine ⟨adaptersBackup_sealed (.inl rfl), ?_⟩
  apply ((accepted_files_in_order anyName adaptersCodec).1 _
    (adaptersBackup_checked (.inl rfl))).mpr
  left
  decide +kernel

/-- A file whose resources are in the wrong order is accepted, with the digest of the file in order,
and `validate` has sorted it. -/
theorem unordered_backup_accepted :
    (adaptersBackup ["b", "a"]).backupID = (adaptersBackup ["a", "b"]).backupID ∧
      (adaptersBackup ["b", "a"]).resources.map (·.name) = ["b", "a"] ∧
      ¬ CanonicalOrder (adaptersBackup ["b", "a"]).requiredClasses
        (adaptersBackup ["b", "a"]).resources ∧
      loadStateBackup anyName adaptersCodec (.ok (adaptersBackup ["a", "b"])) =
        .ok (adaptersBackup ["a", "b"]).decode.sortStateBackup ∧
      loadStateBackup anyName adaptersCodec (.ok (adaptersBackup ["b", "a"])) =
        .ok (adaptersBackup ["b", "a"]).decode.sortStateBackup ∧
      ((adaptersBackup ["b", "a"]).decode.validate anyName adaptersCodec).2.resources.map (·.name) =
        ["a", "b"] := by
  refine ⟨rfl, rfl, by decide +kernel, ?_, ?_, ?_⟩
  · exact loadStateBackup_ok.mpr
      (backup_validate_iff.mpr ⟨adaptersBackup_checked (.inl rfl), adaptersBackup_sealed (.inl rfl), rfl⟩)
  · exact loadStateBackup_ok.mpr
      (backup_validate_iff.mpr ⟨adaptersBackup_checked (.inr rfl), adaptersBackup_sealed (.inr rfl), rfl⟩)
  · rw [backup_validate_snd (adaptersBackup_checked (.inr rfl)).toBackupSound]
    decide +kernel

end Waycloak.Analysis
