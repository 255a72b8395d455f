import Waycloak.Interface.PortableFiles
import Waycloak.Model.GatewayRollout

/-!
# Which gateway Pods a rollout deletes

A rollout is meant to delete a Pod that runs an older artifact. It compares each Pod it reads with
the release by `gatewayPodIsTarget`, and that is more than the artifact: the Pod must not be
terminating and its two containers must be ready (`gatewayPodIsTarget_iff`). So the Pods it deletes
are the compared ones that do not run the release or do not serve
(`ensureTargetGatewayPod_deleted`), and it spares every Pod that runs the release exactly as long as
the Pods it compares serve.
-/

set_option autoImplicit false

namespace Waycloak.Analysis

open Waycloak.Model Waycloak.Interface

variable {target : ReleaseManifest} {gateway : GatewayIdentity}

/-- The Pod runs the artifact of the release: its images, its annotations and the revision of its
StatefulSet. -/
def RunsTarget (target : ReleaseManifest) (read : ReadPod) : Prop :=
  gatewayContainersMatch read.pod.containers target = true ∧
    releaseAnnotationsMatch read.pod.annotations target = true ∧
    read.pod.revision = read.statefulSet.updateRevision

instance (target : ReleaseManifest) (read : ReadPod) : Decidable (RunsTarget target read) :=
  inferInstanceAs (Decidable (_ ∧ _))

/-- The Pod is not terminating, its two containers are ready, and the StatefulSet reports a
revision. -/
def PodServes (read : ReadPod) : Prop :=
  read.pod.deleting = false ∧ read.statefulSet.updateRevision ≠ "" ∧
    read.pod.ready "vpn-engine" = true ∧ read.pod.ready "gateway-agent" = true

instance (read : ReadPod) : Decidable (PodServes read) := inferInstanceAs (Decidable (_ ∧ _))

/-- INTERNAL: **what `gatewayPodIsTarget` asks of a Pod.**
SOURCE: waycloakctl/install_gateway_rollout.go:174-190 -/
theorem gatewayPodIsTarget_iff {read : ReadPod} :
    gatewayPodIsTarget read.pod read.statefulSet target = true ↔
      RunsTarget target read ∧ PodServes read := by
  unfold gatewayPodIsTarget RunsTarget PodServes
  split
  · next hartifact =>
    refine iff_of_false (by simp) ?_
    rintro ⟨⟨hcontainers, hannotations, -⟩, hdeleting, -⟩
    simp [hcontainers, hannotations, hdeleting] at hartifact
  · next hartifact =>
    split
    · next hrevision =>
      refine iff_of_false (by simp) ?_
      rintro ⟨⟨-, -, hsame⟩, -, hreported, -⟩
      simp [hsame, hreported] at hrevision
    · next hrevision =>
      simp only [Bool.or_eq_true, Bool.not_eq_true', not_or, Bool.not_eq_true,
        Bool.not_eq_false, beq_iff_eq, bne_iff_ne, ne_eq, not_not] at hartifact hrevision
      simp [hartifact, hrevision]

/-- The Pods of a list that are not the target. -/
def stale (target : ReleaseManifest) (compared : List ReadPod) : List ReadPod :=
  compared.filter fun read => !gatewayPodIsTarget read.pod read.statefulSet target

theorem stale_append (first second : List ReadPod) :
    stale target (first ++ second) = stale target first ++ stale target second :=
  List.filter_append _ _

/-- INTERNAL: **a poll deletes the Pod it compares iff that is not the target.**
SOURCE: waycloakctl/install_gateway_rollout.go:83-111 -/
theorem pollPod_deleted (state : RolloutState) (poll : RolloutPoll) (read : ReadPod) :
    (pollPod target gateway state poll read).deleted.toList =
      stale target (pollPod target gateway state poll read).compared.toList := by
  unfold pollPod
  cases hrolled : state.rolled with
  | true =>
    -- A Pod has been deleted before, so this one is only waited for.
    cases hold : read.pod.uid == state.oldUID <;>
      cases htarget : gatewayPodIsTarget read.pod read.statefulSet target <;>
        simp [stale]
  | false =>
    cases htarget : gatewayPodIsTarget read.pod read.statefulSet target with
    | true => simp [stale, htarget]
    | false => cases poll.deletion <;> simp [stale, htarget]

theorem pollGateway_deleted (state : RolloutState) (poll : RolloutPoll) :
    (pollGateway target gateway state poll).deleted.toList =
      stale target (pollGateway target gateway state poll).compared.toList := by
  unfold pollGateway
  split
  · rfl
  · rfl
  · split
    · rfl
    split
    · rfl
    · rfl
    · exact pollPod_deleted state poll _

theorem pollUntilDone_deleted (state : RolloutState) (polls : List RolloutPoll) :
    (pollUntilDone target gateway state polls).deleted =
      stale target (pollUntilDone target gateway state polls).compared := by
  induction polls generalizing state with
  | nil => rfl
  | cons poll rest ih =>
    have hpoll := @pollGateway_deleted target gateway state poll
    unfold pollUntilDone
    cases hanswer : (pollGateway target gateway state poll).answer with
    | failed err | done => simpa [hanswer] using hpoll
    | again => simp only [hpoll, ih, hanswer, stale_append]

/-- INTERNAL: **a rollout deletes the Pods it compares that are not the target.**
SOURCE: waycloakctl/install_gateway_rollout.go:49-117 -/
theorem ensureTargetGatewayPod_deleted (polls : List RolloutPoll) :
    (ensureTargetGatewayPod target gateway polls).deleted =
      stale target (ensureTargetGatewayPod target gateway polls).compared := by
  unfold ensureTargetGatewayPod
  split
  · rfl
  · exact pollUntilDone_deleted _ _

theorem rollGateways_deleted (polls : GatewayIdentity → List RolloutPoll)
    (gateways : List GatewayIdentity) :
    (rollGateways target polls gateways).deleted =
      stale target (rollGateways target polls gateways).compared := by
  induction gateways with
  | nil => rfl
  | cons gateway rest ih =>
    have hgateway := @ensureTargetGatewayPod_deleted target gateway (polls gateway)
    unfold rollGateways
    cases hresult : (ensureTargetGatewayPod target gateway (polls gateway)).result with
    | error err => simpa [hresult] using hgateway
    | ok => simp only [hgateway, ih, hresult, stale_append]

/-- INTERNAL: **a verification deletes the Pods it compares that are not the target.**
SOURCE: waycloakctl/native_install.go:390-424 -/
theorem verifyNativeInstall_deleted (observation : VerifyObservation) :
    (verifyNativeInstall target observation).deleted =
      stale target (verifyNativeInstall target observation).compared := by
  have hpods : (ensureTargetGatewayPods target observation.gateways observation.polls).deleted =
      stale target
        (ensureTargetGatewayPods target observation.gateways observation.polls).compared := by
    unfold ensureTargetGatewayPods
    split
    · rfl
    · exact rollGateways_deleted _ _
  unfold verifyNativeInstall
  split
  · rfl
  dsimp only
  split
  · exact hpods
  · exact hpods

theorem stale_spares_iff {compared : List ReadPod} :
    (∀ read ∈ stale target compared, ¬ RunsTarget target read) ↔
      ∀ read ∈ compared, RunsTarget target read → PodServes read := by
  unfold stale
  constructor
  · intro hspares read hread hruns
    by_contra hserves
    have hnot : gatewayPodIsTarget read.pod read.statefulSet target = false := by
      rw [← Bool.not_eq_true, gatewayPodIsTarget_iff]
      exact fun hboth => hserves hboth.2
    exact hspares read (List.mem_filter.mpr ⟨hread, by simp [hnot]⟩) hruns
  · intro hserve read hread hruns
    obtain ⟨hcompared, hnot⟩ := List.mem_filter.mp hread
    have htarget := gatewayPodIsTarget_iff.mpr ⟨hruns, hserve read hcompared hruns⟩
    simp [htarget] at hnot

/-- **A rollout spares the Pods that run the release iff those it compares serve, and so does every
repeated verification.** -/
theorem target_pods_spared_iff (target : ReleaseManifest) : (∀ gateway polls,
      (∀ read ∈ (ensureTargetGatewayPod target gateway polls).deleted,
        ¬ RunsTarget target read) ↔
      ∀ read ∈ (ensureTargetGatewayPod target gateway polls).compared,
        RunsTarget target read → PodServes read) ∧
    ∀ verifications : List VerifyObservation,
      (∀ v ∈ verifications, ∀ read ∈ (verifyNativeInstall target v).compared,
        RunsTarget target read) →
      ((∀ v ∈ verifications, (verifyNativeInstall target v).deleted = []) ↔
        ∀ v ∈ verifications, ∀ read ∈ (verifyNativeInstall target v).compared, PodServes read) := by
  refine ⟨?_, ?_⟩
  · intro gateway polls
    rw [ensureTargetGatewayPod_deleted]
    exact stale_spares_iff
  intro verifications hruns
  refine forall₂_congr fun v hv => ?_
  rw [verifyNativeInstall_deleted, stale, List.filter_eq_nil_iff]
  refine forall₂_congr fun read hread => ?_
  rw [Bool.not_eq_true', Bool.not_eq_false, gatewayPodIsTarget_iff]
  exact and_iff_right (hruns v hv read hread)

/-! ### A gateway whose engine is slow to become ready -/

theorem ensureTargetGatewayPod_of_images {polls : List RolloutPoll}
    (hengine : validExactImageReference target.engine = true)
    (hagent : validExactImageReference target.agent = true) :
    (ensureTargetGatewayPod target gateway polls).compared =
      (pollUntilDone target gateway ⟨"", false⟩ polls).compared := by
  unfold ensureTargetGatewayPod
  simp [hengine, hagent]

theorem verifyNativeInstall_single {polls : GatewayIdentity → List RolloutPoll} :
    (verifyNativeInstall target ⟨.ok (), .ok [gateway], polls, .ok ()⟩).compared =
      (ensureTargetGatewayPod target gateway (polls gateway)).compared := by
  unfold verifyNativeInstall ensureTargetGatewayPods
  simp only [Computation.sortBy, List.insertionSort_cons, List.insertionSort_nil,
    List.orderedInsert_nil, rollGateways]
  cases (ensureTargetGatewayPod target gateway (polls gateway)).result with
  | error err => rfl
  | ok => simp

def exactImage (repository : String) : Artifact := ⟨repository, zeroDigest⟩

def exitRelease : ReleaseManifest where
  version := "v0.2.0"
  manifestDigest := "sha256:1"
  images := [("gluetun", exactImage "gluetun"), ("waycloak-gateway-agent", exactImage "agent")]

def exitGateway : GatewayIdentity where
  apiVersion := "networking.waycloak.io/v1beta1"
  kind := "VPNGateway"
  namespaceName := "vpn"
  name := "exit"
  uid := "gateway-1"

def exitContainers : List GatewayContainer :=
  [⟨"vpn-engine", exitRelease.engine⟩, ⟨"gateway-agent", exitRelease.agent⟩]

def exitAnnotations : List (String × String) :=
  [("runtime.networking.waycloak.io/release-version", "v0.2.0"),
    ("runtime.networking.waycloak.io/release-manifest-digest", "sha256:1")]

def exitStatefulSet : GatewayStatefulSet where
  name := "waycloak-gateway-exit"
  uid := "set-1"
  ownerReferences :=
    [⟨"networking.waycloak.io/v1beta1", "VPNGateway", "exit", "gateway-1", some true⟩]
  templateContainers := exitContainers
  templateAnnotations := exitAnnotations
  updateRevision := "r2"

def exitPod (engineReady : Bool) : GatewayPod where
  name := "waycloak-gateway-exit-0"
  uid := "pod-1"
  ownerReferences := [⟨"apps/v1", "StatefulSet", "waycloak-gateway-exit", "set-1", some true⟩]
  deleting := false
  containers := exitContainers
  annotations := exitAnnotations
  labels := [("controller-revision-hash", "r2")]
  containerStatuses := [("vpn-engine", engineReady), ("gateway-agent", true)]

def exitPoll (engineReady : Bool) : RolloutPoll where
  statefulSets := .ok [exitStatefulSet]
  pods := .ok [exitPod engineReady]
  deletion := .deleted
  gateway := .found ⟨"gateway-1", 1, [⟨"Ready", "True", 1⟩]⟩

def exitVerification (engineReady : Bool) : VerifyObservation where
  installed := .ok ()
  gateways := .ok [exitGateway]
  polls := fun _ => [exitPoll engineReady]
  nodesReady := .ok ()

theorem zeroDigest_toList : zeroDigest.toList = "sha256:".toList ++ List.replicate 64 '0' := by
  simp [zeroDigest]

theorem exactImage_valid {repository : String} {name : List Char} (hname : repository.toList = name)
    (hsplit : (name ++ '@' :: zeroDigest.toList).splitOn '@' = [name, zeroDigest.toList])
    (hnonempty : name ≠ []) :
    validExactImageReference (repository ++ "@" ++ zeroDigest) = true := by
  have hreference : (repository ++ "@" ++ zeroDigest).toList =
      name ++ '@' :: zeroDigest.toList := by
    simp [hname]
  unfold validExactImageReference
  rw [hreference, hsplit]
  simp [hnonempty, validDigest_zeroDigest]

theorem exitRelease_images : validExactImageReference exitRelease.engine = true ∧
    validExactImageReference exitRelease.agent = true := by
  refine ⟨?_, ?_⟩
  · apply @exactImage_valid "gluetun" ['g', 'l', 'u', 'e', 't', 'u', 'n'] (by decide +kernel) _
      (by decide)
    rw [zeroDigest_toList]
    decide +kernel
  · apply @exactImage_valid "agent" ['a', 'g', 'e', 'n', 't'] (by decide +kernel) _ (by decide)
    rw [zeroDigest_toList]
    decide +kernel

theorem target_pods_spared_exit :
    (verifyNativeInstall exitRelease (exitVerification true)).compared =
        [⟨exitStatefulSet, exitPod true⟩] ∧
      (verifyNativeInstall exitRelease (exitVerification true)).deleted = [] := by
  have hcompared : (verifyNativeInstall exitRelease (exitVerification true)).compared =
      [⟨exitStatefulSet, exitPod true⟩] := by
    rw [exitVerification, verifyNativeInstall_single,
      ensureTargetGatewayPod_of_images exitRelease_images.1 exitRelease_images.2]
    decide +kernel
  have hspared := ((target_pods_spared_iff exitRelease).2 [exitVerification true] (by
    intro v hv read hread
    rw [List.mem_singleton.mp hv, hcompared] at hread
    rw [List.mem_singleton.mp hread]
    decide +kernel)).mpr (by
      intro v hv read hread
      rw [List.mem_singleton.mp hv, hcompared] at hread
      rw [List.mem_singleton.mp hread]
      decide)
  exact ⟨hcompared, hspared _ (List.mem_singleton.mpr rfl)⟩

/-- A Pod of the release whose engine is not ready yet is deleted. -/
theorem starting_pod_deleted : RunsTarget exitRelease ⟨exitStatefulSet, exitPod false⟩ ∧
      (ensureTargetGatewayPod exitRelease exitGateway [exitPoll false]).deleted =
        [⟨exitStatefulSet, exitPod false⟩] ∧
      (verifyNativeInstall exitRelease (exitVerification false)).deleted =
        [⟨exitStatefulSet, exitPod false⟩] := by
  refine ⟨by decide +kernel, ?_, ?_⟩
  · rw [ensureTargetGatewayPod_deleted,
      ensureTargetGatewayPod_of_images exitRelease_images.1 exitRelease_images.2]
    decide +kernel
  · rw [verifyNativeInstall_deleted, exitVerification, verifyNativeInstall_single,
      ensureTargetGatewayPod_of_images exitRelease_images.1 exitRelease_images.2]
    decide +kernel

end Waycloak.Analysis
