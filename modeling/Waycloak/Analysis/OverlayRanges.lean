import Waycloak.Analysis.ExhaustedPools
import Waycloak.Model.Preflight

/-!
# The overlays a compatible preflight lets through

`Preflight` asks of the overlay CIDR that it parses and overlaps no Pod CIDR. The provisioner
and the allocator want an IPv4 network of `/16` to `/29`, so `compatible_overlay_usable_iff`
needs just that of the overlay. What the overlap test answers is exact.
-/

set_option autoImplicit false

namespace Waycloak.Analysis

open Waycloak.Model

/-! ## Prefixes that share an address -/

/-- `netip.ParsePrefix` leaves no zone. -/
def NoZone : Addr → Prop
  | .v6 _ zone => zone = ""
  | _ => True

/-- The mask of the first `bits` bits. -/
def mask (w bits : ℕ) : BitVec w := BitVec.allOnes w <<< (w - bits)

theorem and_mask_mask {w i j : ℕ} (h : i ≤ j) (x : BitVec w) :
    x &&& mask w j &&& mask w i = x &&& mask w i := by
  ext t ht
  simp only [mask, BitVec.getElem_and, BitVec.getElem_shiftLeft]
  by_cases hi : t < w - i
  · simp [hi]
  · have hj : ¬ t < w - j := by omega
    simp [hi, hj]

theorem masked_masked {i j : ℕ} (h : i ≤ j) (addr : Addr) :
    Prefix.masked ⟨(Prefix.masked ⟨addr, j⟩).addr, i⟩ = Prefix.masked ⟨addr, i⟩ := by
  cases addr with
  | zero => rfl
  | v4 a => exact congrArg (fun x => Prefix.mk (.v4 x) i) (and_mask_mask h a)
  | v6 a _ => exact congrArg (fun x => Prefix.mk (.v6 x "") i) (and_mask_mask h a)

theorem masked_isValid (p : Prefix) : p.masked.addr.isValid = p.addr.isValid := by
  obtain ⟨addr, bits⟩ := p
  cases addr <;> rfl

variable {p q : Prefix} {x : Addr}

theorem contains_iff : p.contains x = true ↔
    x.isValid = true ∧ NoZone x ∧ Prefix.masked ⟨x, p.bits⟩ = p.masked := by
  obtain ⟨addr, bits⟩ := p
  cases addr <;> cases x <;> simp [Prefix.contains, Prefix.masked, NoZone, Addr.isValid]

/-- INTERNAL: of two prefixes that share an address the wider one contains the base of the other. -/
theorem contains_base (h : p.bits ≤ q.bits) (hq : NoZone q.addr) (hpx : p.contains x = true)
    (hqx : q.contains x = true) : p.contains q.addr = true := by
  obtain ⟨-, -, hpx⟩ := contains_iff.mp hpx
  obtain ⟨hvalid, -, hqx⟩ := contains_iff.mp hqx
  refine contains_iff.mpr ⟨?_, hq, ?_⟩
  · rw [← masked_isValid q, ← hqx, masked_isValid]
    exact hvalid
  · calc Prefix.masked ⟨q.addr, p.bits⟩
        = Prefix.masked ⟨q.masked.addr, p.bits⟩ := (masked_masked h q.addr).symm
      _ = Prefix.masked ⟨x, p.bits⟩ := by rw [← hqx, masked_masked h]
      _ = p.masked := hpx

/-- INTERNAL: **the overlap test is exact.**
SOURCE: waycloakctl/preflight.go:268 -/
theorem prefixesOverlap_iff (hp : NoZone p.addr) (hq : NoZone q.addr) :
    prefixesOverlap p q = true ↔ ∃ x, p.contains x = true ∧ q.contains x = true := by
  have hself : ∀ {p' q' : Prefix}, p'.contains q'.addr = true → NoZone q'.addr →
      q'.contains q'.addr = true :=
    fun h hzone => contains_iff.mpr ⟨(contains_iff.mp h).1, hzone, rfl⟩
  rw [prefixesOverlap, Bool.or_eq_true]
  constructor
  · rintro (h | h)
    · exact ⟨q.addr, h, hself h hq⟩
    · exact ⟨p.addr, hself h hp, h⟩
  · rintro ⟨x, hpx, hqx⟩
    obtain h | h := Nat.le_total p.bits q.bits
    · exact Or.inl (contains_base h hq hpx hqx)
    · exact Or.inr (contains_base h hp hqx hpx)

/-! ## The addresses of an overlay -/

variable {a : BitVec 32} {bits offset : ℕ}

/-- INTERNAL: an offset smaller than the block stays in it. -/
theorem offset_inside (h : offset < 2 ^ (32 - bits)) :
    ((a &&& mask 32 bits) + BitVec.ofNat 32 offset) &&& mask 32 bits = a &&& mask 32 bits := by
  have hlow : BitVec.ofNat 32 offset &&& mask 32 bits = 0#32 := by
    ext t ht
    by_cases hbit : t < 32 - bits
    · simp [mask, hbit]
    · have hoffset : offset < 2 ^ t := lt_of_lt_of_le h (Nat.pow_le_pow_right (by omega) (by omega))
      simp [← BitVec.getLsbD_eq_getElem, BitVec.getLsbD_ofNat, Nat.testBit_lt_two_pow hoffset]
  have hapart : a &&& mask 32 bits &&& BitVec.ofNat 32 offset = 0#32 := by
    rw [BitVec.and_assoc, BitVec.and_comm (mask 32 bits), hlow, BitVec.and_zero]
  rw [BitVec.add_eq_or_of_and_eq_zero _ _ hapart, BitVec.and_or_distrib_right, hlow,
    and_mask_mask le_rfl, BitVec.or_zero]

/-- INTERNAL: a configuration stays valid with the overlay, its gateway and an address allocated
from it.
SOURCE: dataplane/dataplane.go:48-81 -/
theorem within_validate (hlow : 16 ≤ bits) (hhigh : bits ≤ 29) (libraries : AllocatorLibraries)
    (podUID : ObjectUID) {c : Config} (hc : c.validate = .ok ()) {attempt : ℕ}
    (hattempt : attempt < (Prefix.masked ⟨.v4 a, bits⟩).usable) :
    (c.within (Prefix.masked ⟨.v4 a, bits⟩)
      (probedAddress libraries podUID (Prefix.masked ⟨.v4 a, bits⟩) attempt)).validate = .ok () := by
  set base := a &&& mask 32 bits
  rw [show Prefix.masked ⟨.v4 a, bits⟩ = ⟨.v4 base, bits⟩ from rfl] at hattempt ⊢
  have hmasked : base &&& mask 32 bits = base := and_mask_mask le_rfl a
  obtain ⟨⟨hfits, -⟩, hprobes, -⟩ : VisitsUsable libraries podUID ⟨.v4 base, bits⟩ :=
    visitsUsable (by simp [Prefix.allocatable, Addr.is4, hlow, hhigh])
  obtain ⟨offset, hfirst, hlast, haddress⟩ := hprobes attempt hattempt
  have hbase : Prefix.baseValue ⟨.v4 base, bits⟩ = base := hmasked
  rw [hbase] at hfits
  dsimp only at hfits hlast
  have hroom : 2 ^ 3 ≤ 2 ^ (32 - bits) := Nat.pow_le_pow_right (by omega) (by omega)
  have hinside : ∀ n < 2 ^ (32 - bits),
      Prefix.contains ⟨.v4 base, bits⟩ (.v4 (base + BitVec.ofNat 32 n)) = true :=
    fun n hn => contains_iff.mpr ⟨rfl, trivial, congrArg (fun x => Prefix.mk (.v4 x) bits)
      ((offset_inside hn).trans hmasked.symm)⟩
  have hgateway : Prefix.gatewayAddress ⟨.v4 base, bits⟩ = .v4 (base + 1#32) := by
    show Addr.next (.v4 (base &&& mask 32 bits)) = _
    rw [hmasked]
    refine if_neg fun h => ?_
    rw [h, BitVec.toNat_allOnes] at hfits
    omega
  have hdiffer : base + 1#32 ≠ base + BitVec.ofNat 32 offset := by
    intro h
    have hsame := congrArg BitVec.toNat ((BitVec.add_right_inj base).mp h)
    rw [BitVec.toNat_ofNat, BitVec.toNat_ofNat] at hsame
    omega
  unfold Config.validate at hc ⊢
  simp only [Config.within, haddress, hostAddress, hbase, hgateway, prefixFrom]
  split at hc
  · cases hc
  next hpod =>
  split at hc
  · cases hc
  split at hc
  · cases hc
  rw [if_neg hpod, if_neg, if_neg]
  · exact hc
  · simp [Addr.isValid, hinside 1 (by omega), hdiffer]
  · simp [Prefix.isValid, hinside offset (by omega)]
    omega

/-! ## Overlays of a plan -/

/-- What consumes the overlay of a plan accepts it: the provisioner, the pool check of `Reserve`, and
the validation of every binding with an address allocated from it. -/
structure OverlayUsable (libraries : AllocatorLibraries) (overlay : Prefix) : Prop where
  provisioned : ∀ others, provisionerValidate overlay.masked others = others
  allocatable : overlay.masked.allocatable = true
  configured : ∀ (c : Config) (podUID : ObjectUID), c.validate = .ok () →
    ∀ attempt < overlay.masked.usable,
      (c.within overlay.masked (probedAddress libraries podUID overlay.masked attempt)).validate =
        .ok ()

/-- **A compatible overlay is usable exactly if it is an IPv4 network of `/16` to `/29`.** It shares
no address with a Pod CIDR, as the overlap test is exact.
SOURCE: waycloakctl/preflight.go:53-77, 268, gatewayruntime/provisioner.go:206-221,
binding/allocation.go:68-71, dataplane/dataplane.go:48-81 -/
theorem compatible_overlay_usable_iff (parsers : NetworkParsers) (libraries : AllocatorLibraries)
    (overlayCIDR : String) (nodes : List (List String)) (others : Bool) (overlay : Prefix)
    (hzones : ∀ text p, parsers.parsePrefix text = some p → NoZone p.addr)
    (hparse : parsers.parsePrefix overlayCIDR = some overlay)
    (hcompatible : preflightCompatible parsers overlayCIDR nodes others = true) :
    (OverlayUsable libraries overlay ↔
      overlay.addr.is4 = true ∧ 16 ≤ overlay.bits ∧ overlay.bits ≤ 29) ∧
    (∀ a b : Prefix, NoZone a.addr → NoZone b.addr →
      (prefixesOverlap a b = true ↔ ∃ x, a.contains x = true ∧ b.contains x = true)) ∧
    ∀ podCIDRs ∈ nodes, ∀ value ∈ podCIDRs, ∀ pod, parsers.parsePrefix value = some pod →
      ¬∃ x, overlay.contains x = true ∧ pod.contains x = true := by
  refine ⟨?_, fun a b ha hb => prefixesOverlap_iff ha hb, fun podCIDRs hnode value hvalue pod hpod => ?_⟩
  · obtain ⟨addr, bits⟩ := overlay
    have hpool : (Prefix.masked ⟨addr, bits⟩).allocatable = true ↔
        addr.is4 = true ∧ 16 ≤ bits ∧ bits ≤ 29 := by
      rw [show (Prefix.masked ⟨addr, bits⟩).allocatable = (addr.is4 && 16 ≤ bits && bits ≤ 29) by
        cases addr <;> rfl]
      simp [and_assoc]
    refine ⟨fun h => hpool.mp h.allocatable, fun hrange => ?_⟩
    obtain ⟨hv4, hlow, hhigh⟩ := hrange
    cases addr with
    | zero | v6 => cases hv4
    | v4 a =>
      refine ⟨fun others => if_neg ?_, hpool.mpr ⟨rfl, hlow, hhigh⟩, fun c podUID hc attempt =>
        within_validate hlow hhigh libraries podUID hc⟩
      simp only [Prefix.masked, Prefix.isValid, Addr.is4] at hlow hhigh ⊢
      simp [hlow, hhigh, le_trans hhigh]
  · simp only [preflightCompatible, hparse, Bool.and_eq_true, List.all_eq_true] at hcompatible
    have hapart := hcompatible.2 podCIDRs hnode value hvalue
    rw [hpod] at hapart
    rw [← prefixesOverlap_iff (hzones _ _ hparse) (hzones _ _ hpod)]
    simpa using hapart

/-- A parser of three CIDRs. -/
def overlayParsers : NetworkParsers :=
  { parsePrefix := fun text =>
      if text = "10.96.0.0/16" then some ⟨.v4 0x0a600000#32, 16⟩
      else if text = "10.96.0.0/12" then some ⟨.v4 0x0a600000#32, 12⟩
      else if text = "10.244.0.0/24" then some ⟨.v4 0x0af40000#32, 24⟩ else none
    parseAddr := fun _ => none, parseAddrPort := fun _ => none, parseInt32 := fun _ => none }

theorem compatible_overlay_usable_iff_sixteen :
    preflightCompatible overlayParsers "10.96.0.0/16" [["10.244.0.0/24"]] true = true ∧
      OverlayUsable plainLibraries ⟨.v4 0x0a600000#32, 16⟩ := by
  have hzones : ∀ text p, overlayParsers.parsePrefix text = some p → NoZone p.addr := by
    intro text p h
    dsimp only [overlayParsers] at h
    split_ifs at h <;> cases h <;> trivial
  exact ⟨by decide +kernel, (compatible_overlay_usable_iff overlayParsers plainLibraries "10.96.0.0/16"
    [["10.244.0.0/24"]] true _ hzones rfl (by decide +kernel)).1.mpr (by decide +kernel)⟩

/-- A `/12` passes the preflight and neither the provisioner nor the allocator. -/
theorem wide_overlay_compatible :
    preflightCompatible overlayParsers "10.96.0.0/12" [["10.244.0.0/24"]] true = true ∧
      provisionerValidate (Prefix.masked ⟨.v4 0x0a600000#32, 12⟩) (.ok ()) ≠ .ok () ∧
      (Prefix.masked ⟨.v4 0x0a600000#32, 12⟩).allocatable = false := by
  decide +kernel

end Waycloak.Analysis
