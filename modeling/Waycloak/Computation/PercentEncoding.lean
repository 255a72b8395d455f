import Mathlib.Tactic.Common

/-!
# Percent encoding

A byte that is not `plain` is written as `%` and two hexadecimal digits. Reading such a text
gives the bytes back, whatever bytes are plain, as long as `%` is not.
-/

set_option autoImplicit false

namespace Waycloak.Computation.Percent

abbrev Bytes := List UInt8

/-- The bytes of an ASCII text. -/
def ascii (text : String) : Bytes := text.toList.map fun c => UInt8.ofNat c.toNat

def hexDigit (n : ℕ) : UInt8 := if n < 10 then 48 + UInt8.ofNat n else 55 + UInt8.ofNat n

def hexValue (c : UInt8) : Option ℕ :=
  if 48 ≤ c ∧ c ≤ 57 then some (c.toNat - 48)
  else if 65 ≤ c ∧ c ≤ 70 then some (c.toNat - 55)
  else if 97 ≤ c ∧ c ≤ 102 then some (c.toNat - 87)
  else none

def escapeByte (plain : UInt8 → Bool) (c : UInt8) : Bytes :=
  if plain c then [c] else [37, hexDigit (c.toNat / 16), hexDigit (c.toNat % 16)]

def escape (plain : UInt8 → Bool) (text : Bytes) : Bytes := text.flatMap (escapeByte plain)

/-- Fails on a `%` that is not followed by two hexadecimal digits. -/
def unescape : Bytes → Option Bytes
  | [] => some []
  | c :: rest =>
    if c = 37 then
      match rest with
      | high :: low :: tail =>
        match hexValue high, hexValue low with
        | some high, some low => (unescape tail).map (UInt8.ofNat (high * 16 + low) :: ·)
        | _, _ => none
      | _ => none
    else (unescape rest).map (c :: ·)

variable {plain : UInt8 → Bool} {c : UInt8} {text : Bytes}

theorem hexValue_hexDigit : ∀ n < 16, hexValue (hexDigit n) = some n := by decide

theorem unescape_escapeByte (hplain : plain 37 = false) (c : UInt8) (rest : Bytes) :
    unescape (escapeByte plain c ++ rest) = (unescape rest).map (c :: ·) := by
  unfold escapeByte
  split
  · next hc =>
    have hne : c ≠ 37 := by
      rintro rfl
      simp [hplain] at hc
    rw [List.singleton_append, unescape.eq_def]
    exact if_neg hne
  · have hdigits : c.toNat / 16 * 16 + c.toNat % 16 = c.toNat := Nat.div_add_mod' _ _
    have hhigh : c.toNat / 16 < 16 := by have := c.toNat_lt; omega
    simp [unescape, hexValue_hexDigit _ hhigh, hexValue_hexDigit _ (Nat.mod_lt _ _), hdigits]

/-- INTERNAL: **an escaped text is read back.** -/
theorem unescape_escape (hplain : plain 37 = false) (text : Bytes) :
    unescape (escape plain text) = some text := by
  induction text with
  | nil => rfl
  | cons c rest ih =>
    show unescape (escapeByte plain c ++ escape plain rest) = _
    rw [unescape_escapeByte hplain, ih, Option.map_some]

theorem escape_inj (hplain : plain 37 = false) {text other : Bytes}
    (h : escape plain text = escape plain other) : text = other :=
  Option.some.inj (by rw [← unescape_escape hplain, h, unescape_escape hplain])

@[simp] theorem escape_append (text rest : Bytes) :
    escape plain (text ++ rest) = escape plain text ++ escape plain rest := List.flatMap_append

theorem length_escape_le (plain : UInt8 → Bool) (text : Bytes) :
    text.length ≤ (escape plain text).length := by
  induction text with
  | nil => exact Nat.zero_le 0
  | cons c rest ih =>
    show _ ≤ (escapeByte plain c ++ escape plain rest).length
    unfold escapeByte
    split <;> simp <;> omega

/-- INTERNAL: exactly a text of plain bytes is its own escaped form. -/
theorem escape_eq_self : escape plain text = text ↔ ∀ c ∈ text, plain c = true := by
  induction text with
  | nil => simp [escape]
  | cons c rest ih =>
    have hcons : escape plain (c :: rest) = escapeByte plain c ++ escape plain rest := rfl
    have hlength := length_escape_le plain rest
    rw [hcons, escapeByte, List.forall_mem_cons]
    split
    · next hc => simp [hc, ih]
    · next hc =>
      refine iff_of_false (fun h => ?_) fun h => hc h.1
      have := congrArg List.length h
      simp at this
      omega

theorem mem_escape (h : c ∈ escape plain text) :
    (c ∈ text ∧ plain c = true) ∨ c ∈ ascii "%0123456789ABCDEF" := by
  obtain ⟨d, hd, hc⟩ := List.mem_flatMap.mp h
  have hdigit : ∀ n < 16, hexDigit n ∈ ascii "%0123456789ABCDEF" := by decide +kernel
  unfold escapeByte at hc
  split at hc
  · next hplain =>
    obtain rfl := List.mem_singleton.mp hc
    exact Or.inl ⟨hd, hplain⟩
  · have hhigh : d.toNat / 16 < 16 := by have := d.toNat_lt; omega
    obtain rfl | rfl | rfl : c = 37 ∨ c = _ ∨ c = _ := by simpa using hc
    · exact Or.inr (by decide +kernel)
    · exact Or.inr (hdigit _ hhigh)
    · exact Or.inr (hdigit _ (Nat.mod_lt _ (by omega)))

end Waycloak.Computation.Percent
