import Waycloak.Model.Manager

/-!
# What the runtime's request checks guarantee

A request that passes `validateRuntimeIntent` names one or two distinct transports, both of
which the provider's vocabulary has, so the provider request after it never fails.
-/

set_option autoImplicit false

namespace Waycloak.Interface

open Waycloak.Model

variable {protocols : List TransportProtocol}
variable {gatewayUID : ObjectUID} {intent : Intent}

/-- INTERNAL: the protocol scan accepts TCP and UDP only.
SOURCE: portforward/manager.go:386-393 -/
theorem checkProtocols_mem {previous : Option TransportProtocol}
    (h : checkProtocols previous protocols = none) :
    ∀ protocol ∈ protocols, protocol = .tcp ∨ protocol = .udp := by
  induction protocols generalizing previous with
  | nil => simp
  | cons _ _ ih =>
    unfold checkProtocols at h
    split at h
    · cases h
    next hsupported =>
    split at h
    · cases h
    intro protocol hmem
    rcases List.mem_cons.mp hmem with rfl | hmem
    · by_contra hne
      apply hsupported
      exact not_or.mp hne
    · exact ih h protocol hmem

theorem normalizedProtocols_mem {result : List TransportProtocol}
    (h : normalizedProtocols protocols = .ok result) :
    ∀ protocol ∈ protocols, protocol = .tcp ∨ protocol = .udp := by
  unfold normalizedProtocols at h
  split at h
  · cases h
  dsimp only at h
  split at h
  · cases h
  next hcheck =>
  intro protocol hmem
  apply checkProtocols_mem hcheck
  rw [List.mem_insertionSort]
  exact hmem

theorem providerProtocols_ok (h : ∀ protocol ∈ protocols, protocol = .tcp ∨ protocol = .udp) :
    ∃ result, providerProtocols protocols = .ok result := by
  induction protocols with
  | nil => exact ⟨[], rfl⟩
  | cons head rest ih =>
    obtain ⟨result, hrest⟩ := ih fun protocol hmem => h protocol (List.mem_cons_of_mem _ hmem)
    rcases h head List.mem_cons_self with rfl | rfl
    · exact ⟨.tcp :: result, by simp [providerProtocols, hrest, Except.map]⟩
    · exact ⟨.udp :: result, by simp [providerProtocols, hrest, Except.map]⟩

theorem validateRuntimeIntent_protocols (h : validateRuntimeIntent gatewayUID intent = none) :
    ∃ protocols, normalizedProtocols intent.protocols = .ok protocols := by
  unfold validateRuntimeIntent at h
  split at h
  · cases h
  · split at h
    · cases h
    · next protocols hprotocols => exact ⟨protocols, hprotocols⟩

/-- INTERNAL: the provider request of a valid intent exists.
SOURCE: portforward/manager.go:106-109 -/
theorem intentRequest_ok (h : validateRuntimeIntent gatewayUID intent = none) :
    ∃ request, intentRequest intent = .ok request := by
  obtain ⟨normalized, hnormalized⟩ := validateRuntimeIntent_protocols h
  obtain ⟨protocols, hprotocols⟩ := providerProtocols_ok (normalizedProtocols_mem hnormalized)
  unfold intentRequest providerRequest
  rw [hprotocols]
  exact ⟨_, rfl⟩

end Waycloak.Interface
