import Waycloak.Computation.Folds
import Waycloak.Model.Resolver

/-!
# What the resolver's candidates carry

Every candidate of a resolution, available or not, has all the identities and addresses a
runtime request needs (`SoundCandidate`). The resolver checks most of them itself; that an
EndpointSlice has a UID is the API server's guarantee (`SlicesNamed`).
-/

set_option autoImplicit false

namespace Waycloak.Interface

open Waycloak.Model Waycloak.Computation

variable {candidate : Candidate}
variable {servicePorts : List ServicePort} {endpoint : Endpoint} {targetPort : UInt16}
  {found found' : Resolution} {candidates : List Candidate}

/-- The candidate's identities are not empty, its addresses are IPv4, and its port is not zero. -/
structure SoundCandidate (candidate : Candidate) : Prop where
  service : candidate.serviceUID ≠ ""
  slice : candidate.endpointSliceUID ≠ ""
  pod : candidate.podUID ≠ ""
  binding : candidate.bindingUID ≠ ""
  overlay : candidate.overlayAddress.is4 = true
  application : candidate.applicationAddress.is4 = true
  port : candidate.targetPort ≠ 0

/-- Every listed EndpointSlice has a UID, as every stored object has. -/
def SlicesNamed (view : BackendView) : Prop :=
  ∀ slices, view.slices = .ok slices → ∀ slice ∈ slices, slice.uid ≠ ""

/-- Every candidate found so far is sound. -/
def SoundResolution (found : Resolution) : Prop :=
  (∀ candidate ∈ found.candidates, SoundCandidate candidate) ∧
    ∀ candidate ∈ found.unavailableCandidates, SoundCandidate candidate

variable {netip : Netip} {view : BackendView} {bindings : List VPNWorkloadBinding}
  {lease : PortForwardLease} {gateway : VPNGateway} {service : Service} {slice : EndpointSlice}

/-- INTERNAL: a port that serves a Service port is in range.
SOURCE: portforward/resolver.go:231-253 -/
theorem endpointPortFor_range {servicePort : ServicePort} {ports : List EndpointPort} {port : Int}
    (h : endpointPortFor servicePort ports = some port) : 1 ≤ port ∧ port ≤ 65535 := by
  unfold endpointPortFor at h
  obtain ⟨endpointPort, -, hport⟩ := List.exists_of_findSome?_eq_some h
  dsimp only at hport
  split at hport
  · cases hport
  next value hvalue =>
  simp only [Option.ite_none_left_eq_some, Option.some.injEq] at hport
  obtain ⟨-, -, -, hrange, hsame⟩ := hport
  omega

/-- INTERNAL: the target port of a slice is not zero.
SOURCE: portforward/resolver.go:228-263 -/
theorem targetPortForSlice_ne_zero {port : UInt16}
    (h : targetPortForSlice slice servicePorts = some port) : port ≠ 0 := by
  unfold targetPortForSlice at h
  split at h
  · cases h
  next first rest hports =>
  split at h
  · have hmem : first ∈ servicePorts.filterMap fun servicePort =>
        endpointPortFor servicePort slice.ports := by
      rw [hports]
      exact List.mem_cons_self
    obtain ⟨servicePort, -, hfirst⟩ := List.mem_filterMap.mp hmem
    have hrange := endpointPortFor_range hfirst
    have hport : port.toNat = first.toNat := by
      rw [← Option.some.inj h, UInt16.toNat_ofNat']
      omega
    intro hzero
    rw [hzero] at hport
    simp only [UInt16.toNat_zero] at hport
    omega
  · cases h

/-- INTERNAL: the candidate of an endpoint is sound.
SOURCE: portforward/resolver.go:153-213 -/
theorem candidateFor_sound
    {eligible : Bool} (hservice : service.uid ≠ "") (hslice : slice.uid ≠ "") (hport : targetPort ≠ 0)
    (h : candidateFor netip view bindings lease gateway service slice endpoint targetPort =
      .ok (some (candidate, eligible))) : SoundCandidate candidate := by
  revert h
  fun_cases candidateFor netip view bindings lease gateway service slice endpoint targetPort with
  | case10 ref _ hrefers pod _ hrunning _ _ applicationAddress _ hpodIP binding hbinding _ _ hoverlay4 =>
    rintro ⟨⟩
    have hserves : bindingServes gateway pod binding = true :=
      List.of_mem_filter (hbinding ▸ List.mem_singleton_self binding)
    simp only [bindingServes, Bool.and_eq_true, bne_iff_ne] at hserves
    -- the Pod has the UID the endpoint refers to, which is not empty
    refine ⟨hservice, hslice, ?_, hserves.1.1.2, ?_, ?_, hport⟩
    · intro hempty
      apply hrefers
      have hsame : pod.uid = ref.uid := by
        by_contra hne
        exact hrunning (Or.inl hne)
      exact Or.inr (Or.inr (Or.inl (hsame.symm.trans hempty)))
    · simpa using hoverlay4
    · have happlication4 : ¬ applicationAddress.is4 = false := fun hf => hpodIP (Or.inl hf)
      simpa using happlication4
  | _ => nofun

theorem mem_keepCandidate {found : Candidate} (h : found ∈ keepCandidate candidate candidates) :
    found = candidate ∨ found ∈ candidates := by
  induction candidates with
  | nil => exact Or.inl (List.mem_singleton.mp h)
  | cons =>
    unfold keepCandidate at h
    split at h
    · simp only [List.mem_cons] at h ⊢
      split at h
      · tauto
      · tauto
    · simp only [List.mem_cons] at h ⊢
      tauto

theorem keepCandidate_sound (hcandidate : SoundCandidate candidate)
    (h : ∀ other ∈ candidates, SoundCandidate other) :
    ∀ other ∈ keepCandidate candidate candidates, SoundCandidate other := by
  intro other hother
  obtain rfl | hother := mem_keepCandidate hother
  · exact hcandidate
  · exact h other hother

/-- INTERNAL: one endpoint keeps the resolution sound.
SOURCE: portforward/resolver.go:111-131 -/
theorem resolveEndpoint_sound
    (hservice : service.uid ≠ "") (hslice : slice.uid ≠ "") (hport : targetPort ≠ 0)
    (hfound : SoundResolution found)
    (h : resolveEndpoint netip view bindings lease gateway service slice targetPort found endpoint =
      .ok found') : SoundResolution found' := by
  revert h
  fun_cases resolveEndpoint netip view bindings lease gateway service slice targetPort found endpoint with
  | case1 | case3 =>
    rintro ⟨⟩
    exact hfound
  | case2 => nofun
  | case4 _ candidate hcandidate =>
    rintro ⟨⟩
    exact ⟨keepCandidate_sound (candidateFor_sound hservice hslice hport hcandidate) hfound.1,
      hfound.2⟩
  | case5 _ candidate hcandidate =>
    rintro ⟨⟩
    exact ⟨hfound.1,
      keepCandidate_sound (candidateFor_sound hservice hslice hport hcandidate) hfound.2⟩

/-- INTERNAL: one EndpointSlice keeps the resolution sound.
SOURCE: portforward/resolver.go:102-132 -/
theorem resolveSlice_sound
    (hservice : service.uid ≠ "") (hslice : slice.uid ≠ "") (hfound : SoundResolution found)
    (h : resolveSlice netip view bindings lease gateway service servicePorts found slice =
      .ok found') : SoundResolution found' := by
  unfold resolveSlice at h
  split at h
  · cases h
    exact hfound
  split at h
  · cases h
    exact hfound
  next targetPort htarget =>
  have hport := targetPortForSlice_ne_zero htarget
  exact foldlM_invariant
    (fun endpoint _ before after hbefore hafter =>
      resolveEndpoint_sound hservice hslice hport hbefore hafter) hfound h

/-- INTERNAL: **every candidate of a resolution is sound.**
SOURCE: portforward/resolver.go:74-143 -/
theorem resolve_sound (hnamed : SlicesNamed view) {resolution : Resolution}
    (h : resolve netip view lease gateway = .ok resolution) : SoundResolution resolution := by
  revert h
  fun_cases resolve netip view lease gateway with
  | case7 _ service _ hinternal _ _ slices bindings hbindings hslices found hfound =>
    rintro ⟨⟩
    have huid : service.uid ≠ "" := fun hempty => hinternal (Or.inr hempty)
    have hstart : SoundResolution { candidates := [], unavailableCandidates := [] } := by
      constructor <;> simp
    have hsound : SoundResolution found := foldlM_invariant
      (fun slice hslice before after hbefore hafter =>
        resolveSlice_sound huid (hnamed slices hslices slice hslice) hbefore hafter) hstart hfound
    constructor
    · intro candidate hcandidate
      exact hsound.1 candidate ((List.mem_insertionSort candidateLE).mp hcandidate)
    · intro candidate hcandidate
      exact hsound.2 candidate ((List.mem_insertionSort candidateLE).mp hcandidate)
  | _ => nofun

end Waycloak.Interface
