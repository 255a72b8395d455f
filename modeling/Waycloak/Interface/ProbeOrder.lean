import Mathlib.Data.Nat.ModEq
import Mathlib.Data.List.Basic
import Mathlib.Tactic.Linarith
import Waycloak.Model.Allocations

/-!
# The probe order of a pool

Every attempt of `Reserve` has an address of its own, and so has its text: the dotted decimal
form of an address can be read back byte by byte.
-/

set_option autoImplicit false

namespace Waycloak.Interface

open Waycloak.Computation Waycloak.Model

variable {a b : BitVec 32} {pool : Prefix}

/-! ## Texts of addresses -/

theorem append_separator_inj {α : Type} {sep : α} {l₁ l₂ r₁ r₂ : List α} (h₁ : sep ∉ l₁)
    (h₂ : sep ∉ l₂) (h : l₁ ++ sep :: r₁ = l₂ ++ sep :: r₂) : l₁ = l₂ ∧ r₁ = r₂ := by
  induction l₁ generalizing l₂ with
  | nil =>
    cases l₂ with
    | nil => simpa using h
    | cons =>
      simp only [List.nil_append, List.cons_append, List.cons.injEq] at h
      simp [h.1] at h₂
  | cons a l₁ ih =>
    cases l₂ with
    | nil =>
      simp only [List.nil_append, List.cons_append, List.cons.injEq] at h
      simp [h.1] at h₁
    | cons =>
      simp only [List.cons_append, List.cons.injEq] at h
      obtain ⟨hl, hr⟩ := ih (fun hm => h₁ (List.mem_cons_of_mem _ hm))
        (fun hm => h₂ (List.mem_cons_of_mem _ hm)) h.2
      exact ⟨by rw [h.1, hl], hr⟩

theorem separator_not_in_byte : ∀ b : BitVec 8, '.' ∉ (toString b.toNat).toList := by
  have hbytes : ∀ b : Fin 256, '.' ∉ (toString b.val).toList := by decide +kernel
  intro b
  exact hbytes b.toFin

/-- The number a decimal text denotes. -/
def decimalValue (digits : List Char) : ℕ :=
  digits.foldl (fun value digit => 10 * value + (digit.toNat - '0'.toNat)) 0

theorem decimalValue_byte (b : BitVec 8) : decimalValue (toString b.toNat).toList = b.toNat := by
  have hbytes : ∀ b : Fin 256, decimalValue (toString b.val).toList = b.val := by decide +kernel
  exact hbytes b.toFin

theorem byteText_inj {a b : BitVec 8} (h : (toString a.toNat).toList = (toString b.toNat).toList) :
    a = b := by
  apply BitVec.eq_of_toNat_eq
  rw [← decimalValue_byte a, ← decimalValue_byte b, h]

theorem v4_string (bits : BitVec 32) : (Addr.v4 bits).string.toList =
      (toString (bits.extractLsb' 24 8).toNat).toList ++ '.' ::
        ((toString (bits.extractLsb' 16 8).toNat).toList ++ '.' ::
          ((toString (bits.extractLsb' 8 8).toNat).toList ++ '.' ::
            (toString (bits.extractLsb' 0 8).toNat).toList)) := by
  have htext : (Addr.v4 bits).string =
      toString (bits.extractLsb' 24 8).toNat ++ "." ++ toString (bits.extractLsb' 16 8).toNat ++
        "." ++ toString (bits.extractLsb' 8 8).toNat ++ "." ++
        toString (bits.extractLsb' 0 8).toNat := rfl
  rw [htext]
  simp

theorem eq_of_bytes (h3 : a.extractLsb' 24 8 = b.extractLsb' 24 8)
    (h2 : a.extractLsb' 16 8 = b.extractLsb' 16 8) (h1 : a.extractLsb' 8 8 = b.extractLsb' 8 8)
    (h0 : a.extractLsb' 0 8 = b.extractLsb' 0 8) : a = b := by
  apply BitVec.eq_of_toNat_eq
  have ha := a.isLt
  have hb := b.isLt
  replace h3 := congrArg BitVec.toNat h3
  replace h2 := congrArg BitVec.toNat h2
  replace h1 := congrArg BitVec.toNat h1
  replace h0 := congrArg BitVec.toNat h0
  simp only [BitVec.extractLsb'_toNat, Nat.shiftRight_eq_div_pow] at h0 h1 h2 h3
  omega

/-- INTERNAL: **the text of an IPv4 address determines it.** -/
theorem v4_string_inj (h : (Addr.v4 a).string = (Addr.v4 b).string) : a = b := by
  have htext := congrArg String.toList h
  rw [v4_string, v4_string] at htext
  obtain ⟨h3, hrest⟩ :=
    append_separator_inj (separator_not_in_byte _) (separator_not_in_byte _) htext
  obtain ⟨h2, hlast⟩ :=
    append_separator_inj (separator_not_in_byte _) (separator_not_in_byte _) hrest
  obtain ⟨h1, h0⟩ :=
    append_separator_inj (separator_not_in_byte _) (separator_not_in_byte _) hlast
  exact eq_of_bytes (byteText_inj h3) (byteText_inj h2) (byteText_inj h1) (byteText_inj h0)

theorem hostPrefix_string_inj (h : (Prefix.mk (.v4 a) 32).string = (Prefix.mk (.v4 b) 32).string) :
    a = b := by
  apply v4_string_inj
  have htext := congrArg String.toList h
  simp only [Prefix.string, String.toList_append, List.append_left_inj] at htext
  exact String.toList_inj.mp htext

/-! ## The attempts -/

theorem usable_add_le (h : 0 < pool.usable) : pool.usable + 3 ≤ 2 ^ (32 - pool.bits) := by
  unfold Prefix.usable at h ⊢
  omega

theorem mod_add_inj (start : ℕ) {n i j : ℕ} (hi : i < n) (hj : j < n)
    (h : (start + i) % n = (start + j) % n) : i = j := by
  have hmod : i ≡ j [MOD n] := Nat.ModEq.add_left_cancel' start h
  exact Nat.ModEq.eq_of_lt_of_lt hmod hi hj

theorem offset_toNat (start : ℕ) {attempt : ℕ} (h : attempt < pool.usable) :
    (BitVec.ofNat 32 (2 + (start + attempt) % pool.usable)).toNat =
      2 + (start + attempt) % pool.usable := by
  have hpos : 0 < pool.usable := by omega
  have hroom := usable_add_le hpos
  have hpow : 2 ^ (32 - pool.bits) ≤ 2 ^ 32 := Nat.pow_le_pow_right (by omega) (by omega)
  have hoffset := Nat.mod_lt (start + attempt) hpos
  rw [BitVec.toNat_ofNat]
  exact Nat.mod_eq_of_lt (by omega)

/-- INTERNAL: **the attempts of one `Reserve` have different addresses.** -/
theorem probedAddress_inj {libraries : AllocatorLibraries} {podUID : ObjectUID}
    {i j : ℕ} (hi : i < pool.usable) (hj : j < pool.usable)
    (h : (probedAddress libraries podUID pool i).string =
      (probedAddress libraries podUID pool j).string) : i = j := by
  have hbits := hostPrefix_string_inj h
  have hoffset := congrArg BitVec.toNat ((BitVec.add_right_inj pool.baseValue).mp hbits)
  rw [offset_toNat _ hi, offset_toNat _ hj] at hoffset
  apply mod_add_inj (libraries.seed podUID % pool.usable) hi hj
  omega

end Waycloak.Interface
