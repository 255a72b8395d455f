import Waycloak.Model.GatewayRollout

/-!
# Checkpoints of a release transition

A transition replaces a deployed release by another one in steps, and a run that finds one begun
tells from the deployed objects how far it came. Each checkpoint has a predicate on the observed
components; the command that resumes a transition and the one that repairs a stuck Helm revision
test them in different orders.

A Go map is the list of its entries in the order of the keys.
-/

set_option autoImplicit false

namespace Waycloak.Model

/-! ## Plans and observations -/

/-- SOURCE: waycloakctl/install_layout.go:17-24 -/
structure NodeInstallLayout where
  configPath : String
  binaryPath : String
  receiptPath : String
  sourceConfigPath : String
  installerNodeSelector : List (String × String)
  agentNodeSelector : List (String × String)
  deriving DecidableEq

inductive InstallState where
  | absent
  | deployed
  deriving DecidableEq

/-- SOURCE: waycloakctl/lifecycle.go:59-77 -/
structure InstalledReleaseObservation where
  nodeLayout : Option NodeInstallLayout
  state : InstallState
  helmRevision : Int
  version : String
  manifestDigest : String
  images : List (String × String)
  gatewayClassUID : String
  gatewayClassGeneration : Int
  observationCAUID : String
  observationTLSUID : String
  observationCADigest : String
  observationServingDigest : String
  observationRotationID : String
  crdIdentities : List (String × String)
  deriving DecidableEq

/-- SOURCE: waycloakctl/lifecycle.go:79-106 -/
structure DeployedReleaseComponents where
  nodeLayout : Option NodeInstallLayout
  helmRevision : Int
  controllerVersion : String
  controllerManifest : String
  controllerTransitionPlanID : String
  controllerTransitionSourceVersion : String
  controllerTransitionSourceManifest : String
  cniVersion : String
  cniManifest : String
  nodeAgentVersion : String
  nodeAgentManifest : String
  classPresent : Bool
  classVersion : String
  classManifest : String
  classUID : String
  classGeneration : Int
  images : List (String × String)
  observationCAUID : String
  observationTLSUID : String
  observationCADigest : String
  observationServingDigest : String
  observationRotationID : String
  observationCapabilityHeld : Bool
  observationCapabilityHoldID : String
  transitionPlanID : String
  crdIdentities : List (String × String)
  deriving DecidableEq

/-- SOURCE: waycloakctl/plan.go:89-114 -/
structure InstallPlan where
  planID : String
  source : InstalledReleaseObservation
  targetCRDs : List (String × String)
  target : ReleaseManifest
  deriving DecidableEq

/-- SOURCE: waycloakctl/lifecycle.go:50-57 -/
def installRuntimeImageNames : List String :=
  ["replacement-controller", "waycloak-cni", "waycloak-node-agent", "waycloak-gateway-agent",
    "gluetun", "pause"]

/-- SOURCE: waycloakctl/lifecycle.go:39-48 -/
inductive InstallCheckpoint where
  | source
  | quiesced
  | classWithdrawn
  | quiescedClassWithdrawn
  | classReplaced
  | quiescedClassReplaced
  | staged
  | target
  deriving DecidableEq

/-! ## The checkpoints in the objects -/

/-- An image of the observed components; a missing one is the empty text. -/
def imageOf (images : List (String × String)) (name : String) : String :=
  (images.lookup name).getD ""

variable (components : DeployedReleaseComponents) (source : InstalledReleaseObservation)
  (plan : InstallPlan) (target : ReleaseManifest)

/-- SOURCE: waycloakctl/lifecycle.go:570-573 -/
def sameTransitionTrust : Bool :=
  components.nodeLayout == source.nodeLayout &&
    components.observationCAUID == source.observationCAUID &&
    components.observationTLSUID == source.observationTLSUID &&
    components.observationCADigest == source.observationCADigest &&
    components.observationServingDigest == source.observationServingDigest

/-- The controller carries no identity of a transition. -/
def DeployedReleaseComponents.noTransition : Bool :=
  components.controllerTransitionPlanID == "" &&
    components.controllerTransitionSourceVersion == "" &&
    components.controllerTransitionSourceManifest == ""

/-- The agents are held for the plan. -/
def DeployedReleaseComponents.heldFor (planID : String) : Bool :=
  components.observationCapabilityHeld && components.observationCapabilityHoldID == planID &&
    components.transitionPlanID == planID

/-- The agents are not held. -/
def DeployedReleaseComponents.notHeld : Bool :=
  !components.observationCapabilityHeld && components.observationCapabilityHoldID == "" &&
    components.transitionPlanID == ""

/-- Controller and CNI installer carry one release identity and the node agent another one. -/
def DeployedReleaseComponents.identified
    (version manifestDigest agentVersion agentManifest : String) : Bool :=
  components.controllerVersion == version && components.controllerManifest == manifestDigest &&
    components.cniVersion == version && components.cniManifest == manifestDigest &&
    components.nodeAgentVersion == agentVersion && components.nodeAgentManifest == agentManifest

/-- The class is the one of the source. -/
def DeployedReleaseComponents.sourceClass : Bool :=
  components.classPresent && components.classVersion == source.version &&
    components.classManifest == source.manifestDigest &&
    components.classUID == source.gatewayClassUID &&
    components.classGeneration == source.gatewayClassGeneration

/-- There is a class with the identity of the target. -/
def DeployedReleaseComponents.targetClass : Bool :=
  components.classPresent && components.classVersion == target.version &&
    components.classManifest == target.manifestDigest && components.classUID != "" &&
    decide (1 ≤ components.classGeneration)

/-- Every image is the one of the target. -/
def DeployedReleaseComponents.targetImages : Bool :=
  installRuntimeImageNames.all fun name => imageOf components.images name == target.image name

/-- SOURCE: waycloakctl/lifecycle.go:491-517 -/
def exactQuiescedRuntimeComponents : Bool :=
  plan.source.state == .deployed && components.helmRevision == plan.source.helmRevision &&
    components.heldFor plan.planID && components.noTransition &&
    components.identified plan.source.version plan.source.manifestDigest plan.source.version
      plan.source.manifestDigest &&
    components.observationRotationID == plan.source.observationRotationID &&
    sameTransitionTrust components plan.source &&
    components.crdIdentities == plan.source.crdIdentities &&
    installRuntimeImageNames.all fun name =>
      if name == "waycloak-node-agent" then
        (plan.target.images.lookup name).isSome &&
          imageOf components.images name == plan.target.image name
      else imageOf components.images name == imageOf plan.source.images name

/-- SOURCE: waycloakctl/lifecycle.go:473-483 -/
def exactQuiescedComponents (classWithdrawn : Bool) : Bool :=
  exactQuiescedRuntimeComponents components plan &&
    if classWithdrawn then !components.classPresent else components.sourceClass plan.source

/-- SOURCE: waycloakctl/lifecycle.go:485-489 -/
def exactQuiescedClassReplacedComponents : Bool :=
  exactQuiescedRuntimeComponents components plan && components.targetClass plan.target &&
    components.classUID != plan.source.gatewayClassUID

/-- SOURCE: waycloakctl/lifecycle.go:530-540 -/
def exactSourceRuntimeComponents : Bool :=
  source.state == .deployed && components.helmRevision == source.helmRevision &&
    components.notHeld && components.noTransition &&
    components.identified source.version source.manifestDigest source.version
      source.manifestDigest &&
    components.observationRotationID == source.observationRotationID &&
    components.images == source.images && sameTransitionTrust components source &&
    components.crdIdentities == source.crdIdentities

/-- SOURCE: waycloakctl/lifecycle.go:519-528 -/
def exactSourceComponents (classWithdrawn : Bool) : Bool :=
  exactSourceRuntimeComponents components source &&
    if classWithdrawn then !components.classPresent else components.sourceClass source

/-- SOURCE: waycloakctl/lifecycle.go:542-546 -/
def exactClassReplacedComponents : Bool :=
  exactSourceRuntimeComponents components source && components.targetClass target &&
    components.classUID != source.gatewayClassUID

/-- SOURCE: waycloakctl/lifecycle.go:548-568 -/
def exactStagedComponents (targetCRDs : List (String × String)) : Bool :=
  plan.source.state == .deployed && decide (plan.source.helmRevision < components.helmRevision) &&
    components.heldFor plan.planID && components.controllerTransitionPlanID == plan.planID &&
    components.controllerTransitionSourceVersion == plan.source.version &&
    components.controllerTransitionSourceManifest == plan.source.manifestDigest &&
    components.identified plan.target.version plan.target.manifestDigest plan.source.version
      plan.source.manifestDigest &&
    components.observationRotationID == plan.source.observationRotationID &&
    components.targetClass plan.target && sameTransitionTrust components plan.source &&
    components.crdIdentities == targetCRDs && components.targetImages plan.target

/-- SOURCE: waycloakctl/repair.go:386-402 -/
def exactTargetComponents (targetCRDs : List (String × String)) : Bool :=
  source.state == .deployed && decide (source.helmRevision < components.helmRevision) &&
    components.notHeld &&
    components.identified target.version target.manifestDigest target.version
      target.manifestDigest &&
    components.observationRotationID == source.observationRotationID &&
    components.targetClass target && sameTransitionTrust components source &&
    components.crdIdentities == targetCRDs && components.targetImages target

/-! ## Classification -/

/-- SOURCE: waycloakctl/lifecycle.go:448-471 -/
def classifyInstallTransitionCheckpoint : Except String InstallCheckpoint :=
  if exactSourceComponents components plan.source false then .ok .source
  else if exactQuiescedComponents components plan false then .ok .quiesced
  else if exactSourceComponents components plan.source true then .ok .classWithdrawn
  else if exactQuiescedComponents components plan true then .ok .quiescedClassWithdrawn
  else if exactClassReplacedComponents components plan.source plan.target then .ok .classReplaced
  else if exactQuiescedClassReplacedComponents components plan then .ok .quiescedClassReplaced
  else if exactStagedComponents components plan plan.targetCRDs then .ok .staged
  else .error "release state does not match a journal-bound exact transition checkpoint"

/-- The revision that the repair takes for the deployed one counts only for the last two tests.
SOURCE: waycloakctl/repair.go:364-384 -/
def classifyInstallRepairCheckpoint
    (transition : InstallPlan) (effectiveRevision : Int) : Except String InstallCheckpoint :=
  let effective := { components with helmRevision := effectiveRevision }
  if exactQuiescedComponents components transition true then .ok .quiescedClassWithdrawn
  else if exactSourceComponents components transition.source true then .ok .classWithdrawn
  else if exactClassReplacedComponents components transition.source transition.target then
    .ok .classReplaced
  else if exactQuiescedClassReplacedComponents components transition then
    .ok .quiescedClassReplaced
  else if exactStagedComponents effective transition transition.targetCRDs then .ok .staged
  else if exactTargetComponents effective transition.source transition.target
      transition.targetCRDs then .ok .target
  else .error "runtime does not match a supported exact Helm repair checkpoint"

/-- SOURCE: waycloakctl/repair.go:404-421 -/
def repairCheckpointRank : InstallCheckpoint → Nat
  | .classWithdrawn => 1
  | .quiescedClassWithdrawn => 2
  | .classReplaced => 3
  | .quiescedClassReplaced => 4
  | .staged => 5
  | .target => 6
  | .source | .quiesced => 0

/-- The checkpoint a transition goes on to.
SOURCE: waycloakctl/install.go:410-474 -/
def InstallCheckpoint.next : InstallCheckpoint → Option InstallCheckpoint
  | .source => some .quiesced
  | .quiesced | .classWithdrawn => some .quiescedClassWithdrawn
  | .classReplaced => some .quiescedClassReplaced
  | .quiescedClassWithdrawn | .quiescedClassReplaced => some .staged
  | .staged => some .target
  | .target => none

end Waycloak.Model
