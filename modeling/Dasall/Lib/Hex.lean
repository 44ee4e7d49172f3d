import Dasall.Lib.Text

/-! # Lower-case hexadecimal, two digits for a byte -/

open Dasall.Lib.Text

namespace Dasall.Lib.Hex

/-- The character `"0123456789abcdef"[v]`. -/
def hexDigit (v : Nat) : Byte := if v < 10 then UInt8.ofNat (48 + v) else UInt8.ofNat (87 + v)

def hexEncode (value : Bytes) : Bytes :=
  value.flatMap fun ch => [hexDigit (ch.toNat / 16), hexDigit (ch.toNat % 16)]

/-- `none` stands for the -1 of a character that is no hex digit. -/
def hexValue (ch : Byte) : Option Nat :=
  if 48 ≤ ch.toNat ∧ ch.toNat ≤ 57 then some (ch.toNat - 48)
  else if 97 ≤ ch.toNat ∧ ch.toNat ≤ 102 then some (10 + (ch.toNat - 97))
  else if 65 ≤ ch.toNat ∧ ch.toNat ≤ 70 then some (10 + (ch.toNat - 65))
  else none

/-- An odd length fails, as does any character that is no hex digit. -/
def hexDecode : Bytes → Option Bytes
  | [] => some []
  | [_] => none
  | high :: low :: rest => do
    let h ← hexValue high
    let l ← hexValue low
    let decoded ← hexDecode rest
    some (UInt8.ofNat (h * 16 + l) :: decoded)

theorem hexValue_hexDigit (v : Nat) (h : v < 16) : hexValue (hexDigit v) = some v := by
  interval_cases v <;> rfl

theorem hexDigit_range (v : Nat) (h : v < 16) :
    48 ≤ (hexDigit v).toNat ∧ (hexDigit v).toNat ≤ 102 ∧ (hexDigit v).toNat ≠ 61 := by
  interval_cases v <;> decide

theorem hexDecode_hexEncode (value : Bytes) : hexDecode (hexEncode value) = some value := by
  induction value with
  | nil => rfl
  | cons ch rest ih =>
    have hch := ch.toNat_lt
    have hbyte : ch.toNat / 16 * 16 + ch.toNat % 16 = ch.toNat := by omega
    simp only [hexEncode, List.flatMap_cons, List.cons_append, List.nil_append] at ih ⊢
    simp only [hexDecode, hexValue_hexDigit _ (by omega : ch.toNat / 16 < 16),
      hexValue_hexDigit _ (by omega : ch.toNat % 16 < 16), ih, Option.bind_eq_bind,
      Option.bind_some, hbyte, UInt8.ofNat_toNat]

theorem hexEncode_injective (a b : Bytes) (h : hexEncode a = hexEncode b) : a = b := by
  have := congrArg hexDecode h
  rwa [hexDecode_hexEncode, hexDecode_hexEncode, Option.some.injEq] at this

/-- Encoded text holds neither a line break nor an equals sign. -/
theorem hexEncode_clean (value : Bytes) : ∀ b ∈ hexEncode value, b ≠ 10 ∧ b ≠ 61 := by
  intro b hb
  obtain ⟨ch, -, hmem⟩ := List.mem_flatMap.mp hb
  have hch := ch.toNat_lt
  have hdigit : ∃ v, v < 16 ∧ b = hexDigit v := by
    simp only [List.mem_cons, List.not_mem_nil, or_false] at hmem
    rcases hmem with rfl | rfl
    · exact ⟨_, by omega, rfl⟩
    · exact ⟨_, by omega, rfl⟩
  obtain ⟨v, hv, rfl⟩ := hdigit
  obtain ⟨h48, -, h61⟩ := hexDigit_range v hv
  constructor
  · intro h10; rw [h10] at h48; exact absurd h48 (by decide)
  · intro h; rw [h] at h61; exact h61 rfl

end Dasall.Lib.Hex
