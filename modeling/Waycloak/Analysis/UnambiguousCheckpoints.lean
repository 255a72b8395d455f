import Waycloak.Model.ReleaseCheckpoints

/-!
# One checkpoint for each state of a release

The tests of the checkpoints exclude each other: the Helm revision, the hold of the agents and the
class tell any two of them apart. So the order in which they are made does not matter, and the two
classifications agree wherever both find a checkpoint. For that the manifest has to change: a repair
tests the last two checkpoints with another Helm revision, and then only the identity of the
controller keeps them apart from the earlier ones.
-/

set_option autoImplicit false

namespace Waycloak.Analysis

open Waycloak.Model

variable {components : DeployedReleaseComponents} {plan : InstallPlan} {c c' : InstallCheckpoint}

/-- The test of a checkpoint. -/
def exactly (components : DeployedReleaseComponents) (plan : InstallPlan) : InstallCheckpoint → Bool
  | .source => exactSourceComponents components plan.source false
  | .quiesced => exactQuiescedComponents components plan false
  | .classWithdrawn => exactSourceComponents components plan.source true
  | .quiescedClassWithdrawn => exactQuiescedComponents components plan true
  | .classReplaced => exactClassReplacedComponents components plan.source plan.target
  | .quiescedClassReplaced => exactQuiescedClassReplacedComponents components plan
  | .staged => exactStagedComponents components plan plan.targetCRDs
  | .target => exactTargetComponents components plan.source plan.target plan.targetCRDs

/-- What tells the checkpoints apart: whether the Helm revision is newer than that of the source,
whether the agents are held, and, of an older revision, whether its class is that of the source. -/
structure CheckpointMark where
  newer : Bool
  held : Bool
  sourceClass : Option Bool
  deriving DecidableEq

def markOf (components : DeployedReleaseComponents) (plan : InstallPlan) : CheckpointMark where
  newer := decide (plan.source.helmRevision < components.helmRevision)
  held := components.observationCapabilityHeld
  sourceClass :=
    if plan.source.helmRevision < components.helmRevision ∨ components.classPresent = false then none
    else some (components.classUID == plan.source.gatewayClassUID)

def checkpointMark : InstallCheckpoint → CheckpointMark
  | .source => ⟨false, false, some true⟩
  | .quiesced => ⟨false, true, some true⟩
  | .classWithdrawn => ⟨false, false, none⟩
  | .quiescedClassWithdrawn => ⟨false, true, none⟩
  | .classReplaced => ⟨false, false, some false⟩
  | .quiescedClassReplaced => ⟨false, true, some false⟩
  | .staged => ⟨true, true, none⟩
  | .target => ⟨true, false, none⟩

theorem checkpointMark_injective : Function.Injective checkpointMark := by
  intro c c' h
  cases c <;> cases c' <;> first | rfl | cases h

/-! ## What the tests require -/

theorem sourceRuntime_spec (h : exactSourceRuntimeComponents components plan.source = true) :
    components.helmRevision = plan.source.helmRevision ∧
      components.observationCapabilityHeld = false ∧
      components.controllerManifest = plan.source.manifestDigest := by
  simp only [exactSourceRuntimeComponents, DeployedReleaseComponents.notHeld,
    DeployedReleaseComponents.identified, Bool.and_eq_true, beq_iff_eq, Bool.not_eq_true'] at h
  tauto

theorem quiescedRuntime_spec (h : exactQuiescedRuntimeComponents components plan = true) :
    components.helmRevision = plan.source.helmRevision ∧
      components.observationCapabilityHeld = true ∧
      components.controllerManifest = plan.source.manifestDigest := by
  simp only [exactQuiescedRuntimeComponents, DeployedReleaseComponents.heldFor,
    DeployedReleaseComponents.identified, Bool.and_eq_true, beq_iff_eq] at h
  tauto

theorem staged_spec (h : exactly components plan .staged = true) :
    plan.source.helmRevision < components.helmRevision ∧
      components.observationCapabilityHeld = true ∧
      components.controllerManifest = plan.target.manifestDigest := by
  simp only [exactly, exactStagedComponents, DeployedReleaseComponents.heldFor,
    DeployedReleaseComponents.identified, Bool.and_eq_true, beq_iff_eq, decide_eq_true_eq] at h
  tauto

theorem target_spec (h : exactly components plan .target = true) :
    plan.source.helmRevision < components.helmRevision ∧
      components.observationCapabilityHeld = false ∧
      components.controllerManifest = plan.target.manifestDigest := by
  simp only [exactly, exactTargetComponents, DeployedReleaseComponents.notHeld,
    DeployedReleaseComponents.identified, Bool.and_eq_true, beq_iff_eq, Bool.not_eq_true',
    decide_eq_true_eq] at h
  tauto

/-- INTERNAL: **the marks of a checkpoint**, in the components that pass its test. -/
theorem exactly_mark (h : exactly components plan c = true) :
    markOf components plan = checkpointMark c ∧
      components.controllerManifest =
        if (checkpointMark c).newer then plan.target.manifestDigest
        else plan.source.manifestDigest := by
  cases c with
  | source | classWithdrawn | classReplaced =>
    simp only [exactly, exactSourceComponents, exactClassReplacedComponents,
      DeployedReleaseComponents.sourceClass, DeployedReleaseComponents.targetClass,
      Bool.and_eq_true] at h
    obtain ⟨hrevision, hheld, hmanifest⟩ := sourceRuntime_spec (by tauto)
    simp_all [markOf, checkpointMark]
  | quiesced | quiescedClassWithdrawn | quiescedClassReplaced =>
    simp only [exactly, exactQuiescedComponents, exactQuiescedClassReplacedComponents,
      DeployedReleaseComponents.sourceClass, DeployedReleaseComponents.targetClass,
      Bool.and_eq_true] at h
    obtain ⟨hrevision, hheld, hmanifest⟩ := quiescedRuntime_spec (by tauto)
    simp_all [markOf, checkpointMark]
  | staged =>
    obtain ⟨hrevision, hheld, hmanifest⟩ := staged_spec h
    simp [markOf, checkpointMark, hrevision, hheld, hmanifest]
  | target =>
    obtain ⟨hrevision, hheld, hmanifest⟩ := target_spec h
    simp [markOf, checkpointMark, hrevision, hheld, hmanifest]

theorem exactly_unique (h : exactly components plan c = true)
    (h' : exactly components plan c' = true) : c = c' :=
  checkpointMark_injective ((exactly_mark h).1.symm.trans (exactly_mark h').1)

/-! ## The two classifications -/

theorem classifyTransition_exactly
    (h : classifyInstallTransitionCheckpoint components plan = .ok c) :
    exactly components plan c = true := by
  unfold classifyInstallTransitionCheckpoint at h
  repeat' split at h
  all_goals first | (cases h; assumption) | cases h

theorem classifyRepair_exactly {effectiveRevision : Int}
    (h : classifyInstallRepairCheckpoint components plan effectiveRevision = .ok c) :
    exactly components plan c = true ∨ (checkpointMark c).newer = true ∧
      exactly { components with helmRevision := effectiveRevision } plan c = true := by
  unfold classifyInstallRepairCheckpoint at h
  dsimp only at h
  repeat' split at h
  all_goals first
    | (cases h; exact Or.inl (by assumption))
    | (cases h; exact Or.inr ⟨rfl, by assumption⟩)
    | cases h

/-- INTERNAL: a repair starts no earlier than from a withdrawn class. -/
theorem classifyRepair_withdrawn {effectiveRevision : Int}
    (h : classifyInstallRepairCheckpoint components plan effectiveRevision = .ok c) :
    c ≠ .source ∧ c ≠ .quiesced := by
  unfold classifyInstallRepairCheckpoint at h
  dsimp only at h
  repeat' split at h
  all_goals first | (cases h; decide) | cases h

theorem classifications_agree (hchanged : plan.source.manifestDigest ≠ plan.target.manifestDigest)
    {effectiveRevision : Int} (h : classifyInstallTransitionCheckpoint components plan = .ok c)
    (h' : classifyInstallRepairCheckpoint components plan effectiveRevision = .ok c') : c = c' := by
  have hexact := classifyTransition_exactly h
  obtain hsame | ⟨hnewer, hexact'⟩ := classifyRepair_exactly h'
  · exact exactly_unique hexact hsame
  -- the controller is the target's, so that the revision is newer in both
  obtain ⟨hmark, hmanifest⟩ := exactly_mark hexact
  obtain ⟨hmark', hmanifest'⟩ := exactly_mark hexact'
  have hheld : (checkpointMark c).held = (checkpointMark c').held := by
    rw [← hmark, ← hmark']
    rfl
  have hboth : (checkpointMark c).newer = true := by
    by_contra hold
    rw [if_pos hnewer] at hmanifest'
    rw [if_neg hold] at hmanifest
    exact hchanged (hmanifest.symm.trans hmanifest')
  cases c <;> cases hboth <;> cases c' <;> cases hnewer <;> first | rfl | cases hheld

end Waycloak.Analysis
