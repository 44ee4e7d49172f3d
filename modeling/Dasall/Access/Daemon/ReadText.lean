import Dasall.Access.Daemon.JsonReader
import Dasall.Access.Daemon.Utf8Check

/-!
# Strings read from a valid payload

A string is cut at quotes and backslashes, which are ASCII, and what an escape writes is a character
of its own. So a string read out of valid UTF-8 is valid.
-/

open Dasall.Lib Dasall.Lib.Text

namespace Dasall.Access.Daemon

/-! ## Escapes -/

theorem continuation_byte (bits : Nat) :
    (UInt8.ofNat (0x80 ||| (bits &&& 0x3F))).toNat = 0x80 + bits % 64 := by
  have hmod : bits &&& 0x3F = bits % 64 := Nat.and_two_pow_sub_one_eq_mod bits 6
  have hor : 0x80 ||| bits % 64 = 0x80 + bits % 64 :=
    (Nat.shiftLeft_add_eq_or_of_lt (show bits % 64 < 2 ^ 6 by omega) 2).symm
  rw [hmod, hor, UInt8.toNat_ofNat']
  omega

theorem lead_byte_two (bits : Nat) :
    (UInt8.ofNat (0xC0 ||| (bits &&& 0x1F))).toNat = 0xC0 + bits % 32 := by
  have hmod : bits &&& 0x1F = bits % 32 := Nat.and_two_pow_sub_one_eq_mod bits 5
  have hor : 0xC0 ||| bits % 32 = 0xC0 + bits % 32 :=
    (Nat.shiftLeft_add_eq_or_of_lt (show bits % 32 < 2 ^ 5 by omega) 6).symm
  rw [hmod, hor, UInt8.toNat_ofNat']
  omega

theorem lead_byte_three (bits : Nat) :
    (UInt8.ofNat (0xE0 ||| (bits &&& 0x0F))).toNat = 0xE0 + bits % 16 := by
  have hmod : bits &&& 0x0F = bits % 16 := Nat.and_two_pow_sub_one_eq_mod bits 4
  have hor : 0xE0 ||| bits % 16 = 0xE0 + bits % 16 :=
    (Nat.shiftLeft_add_eq_or_of_lt (show bits % 16 < 2 ^ 4 by omega) 14).symm
  rw [hmod, hor, UInt8.toNat_ofNat']
  omega

/-- Below 0x10000 and apart from surrogates, a code point is written as its character. -/
theorem appendUtf8_valid (codePoint : Nat) (hrange : codePoint < 0x10000)
    (hscalar : ¬ (0xD800 ≤ codePoint ∧ codePoint ≤ 0xDFFF)) : Utf8.Valid (appendUtf8 codePoint) := by
  have hchar : codePoint.isValidChar := by
    unfold Nat.isValidChar
    omega
  have hc : (Char.ofNat codePoint).toNat = codePoint := Utf8.toNat_ofNat codePoint hchar
  have hlast := continuation_byte codePoint
  have hmiddle := continuation_byte (codePoint >>> 6)
  have htwo := lead_byte_two (codePoint >>> 6)
  have hthree := lead_byte_three (codePoint >>> 12)
  simp only [Nat.shiftRight_eq_div_pow] at hmiddle htwo hthree
  unfold appendUtf8
  split
  · have hbyte : (UInt8.ofNat codePoint).toNat = codePoint := by
      rw [UInt8.toNat_ofNat']
      omega
    exact (Utf8.Encodes.one (c := Char.ofNat codePoint) _ (by omega) (by omega)).valid
  · simp only [Nat.shiftRight_eq_div_pow]
    split
    · exact (Utf8.Encodes.two (c := Char.ofNat codePoint) _ _ (by omega) (by omega) (by omega)
        (by omega)).valid
    · exact (Utf8.Encodes.three (c := Char.ofNat codePoint) _ _ _ (by omega) (by omega) (by omega)
        (by omega) (by omega)).valid

theorem hexDigit_range {digit : Byte} {value : Nat} (h : hexDigit digit = some value) :
    digit.toNat < 0x80 ∧ value < 16 := by
  unfold hexDigit at h
  simp only [UInt8.le_iff_toNat_le, UInt8.reduceToNat] at h
  grind

theorem parseUnicodeEscape_valid {first second third fourth : Byte} {text : Bytes}
    (h : parseUnicodeEscape first second third fourth = some text) :
    (∀ digit ∈ [first, second, third, fourth], digit.toNat < 0x80) ∧ Utf8.Valid text := by
  unfold parseUnicodeEscape at h
  simp only [Option.bind_eq_bind, Option.bind_eq_some_iff] at h
  obtain ⟨a, ha, b, hb, c, hc, d, hd, htext⟩ := h
  have ha := hexDigit_range ha
  have hb := hexDigit_range hb
  have hc := hexDigit_range hc
  have hd := hexDigit_range hd
  split at htext
  · cases htext
  · next hscalar =>
    cases htext
    refine ⟨?_, appendUtf8_valid _ (by omega) hscalar⟩
    simp only [List.forall_mem_cons, List.not_mem_nil, false_imp_iff, implies_true, and_true]
    exact ⟨ha.1, hb.1, hc.1, hd.1⟩

theorem simpleEscape_ascii {escaped byte : Byte} (h : simpleEscape escaped = some byte) :
    escaped.toNat < 0x80 ∧ byte.toNat < 0x80 := by
  have hall : ∀ escaped, (simpleEscape escaped).all
      (fun byte => escaped.toNat < 0x80 && byte.toNat < 0x80) = true := by
    apply Utf8.byte_cases
    decide +kernel
  have hescaped := hall escaped
  rw [h] at hescaped
  simpa using hescaped

/-! ## Strings -/

theorem pushed_pushed (first second : Bytes) (result : Option (Bytes × Bytes)) :
    pushed first (pushed second result) = pushed (first ++ second) result := by
  cases result <;> simp [pushed]

/-- Bytes that are not ASCII go into the string as they are. -/
theorem parseStringLoop_high (kept rest : Bytes) (hkept : ∀ b ∈ kept, 0x80 ≤ b.toNat) :
    parseStringLoop (kept ++ rest) = pushed kept (parseStringLoop rest) := by
  induction kept with
  | nil => cases h : parseStringLoop rest <;> simp [pushed, h]
  | cons b kept ih =>
    obtain ⟨hb, hkept⟩ := List.forall_mem_cons.mp hkept
    have hquote : b ≠ 34 := by
      rintro rfl
      exact absurd hb (by decide)
    have hslash : b ≠ 92 := by
      rintro rfl
      exact absurd hb (by decide)
    have hcontrol : ¬ b < 0x20 := by
      have hspace : (0x20 : Byte).toNat = 32 := rfl
      rw [UInt8.lt_iff_toNat_lt, hspace]
      omega
    rw [List.cons_append, parseStringLoop.eq_def]
    simp only [hquote, hslash, hcontrol, if_false]
    rw [ih hkept, pushed_pushed, List.singleton_append]

/-- Behind the start of a character, what is read is valid, and the loop stops behind a quote. -/
theorem parseStringLoop_valid (input : Bytes) (hinput : Utf8.Valid input) (read : Bytes × Bytes)
    (h : parseStringLoop input = some read) : Utf8.Valid read.1 := by
  induction hlength : input.length using Nat.strong_induction_on generalizing input read with
  | _ length ih =>
    subst hlength
    obtain ⟨chars, rfl⟩ := hinput
    cases chars with
    | nil => cases h
    | cons c chars =>
      have hrest : Utf8.Valid (chars.flatMap Utf8.encode) := ⟨chars, rfl⟩
      have hlength := Utf8.encode_length_pos c
      rw [List.flatMap_cons] at h ih
      generalize chars.flatMap Utf8.encode = rest at h ih hrest
      rcases Utf8.encode_ascii_or c with ⟨a, ha, hencode⟩ | hhigh
      · rw [hencode, List.singleton_append] at h ih
        rw [parseStringLoop.eq_def] at h
        dsimp only at h
        split at h
        · cases h
          exact Utf8.valid_nil
        split at h
        · -- An escape: the bytes behind the backslash are ASCII.
          split at h
          · cases h
          next escaped later =>
          split at h
          · next hunicode =>
            split at h
            · next first second third fourth after =>
              split at h
              · cases h
              next text htext =>
              obtain ⟨hdigits, hvalid⟩ := parseUnicodeEscape_valid htext
              obtain ⟨behind, hbehind, hread⟩ := pushed_eq_some _ _ _ h
              have hascii : ∀ b ∈ [escaped, first, second, third, fourth], b.toNat < 0x80 :=
                List.forall_mem_cons.mpr ⟨by rw [hunicode]; decide, hdigits⟩
              have hafter : Utf8.Valid after := (Utf8.valid_ascii_append hascii after).mp hrest
              rw [hread]
              exact hvalid.append (ih _ (by simp only [List.length_cons]; omega) after hafter _ hbehind rfl)
            · cases h
          · split at h
            · cases h
            next byte hbyte =>
            obtain ⟨hescaped, hwritten⟩ := simpleEscape_ascii hbyte
            obtain ⟨behind, hbehind, hread⟩ := pushed_eq_some _ _ _ h
            have hascii : ∀ b ∈ [escaped], b.toNat < 0x80 := by simpa using hescaped
            have hlater : Utf8.Valid later := (Utf8.valid_ascii_append hascii later).mp hrest
            rw [hread]
            exact (Utf8.valid_ascii [byte] (by simpa using hwritten)).append
              (ih _ (by simp only [List.length_cons]; omega) later hlater _ hbehind rfl)
        split at h
        · cases h
        · obtain ⟨behind, hbehind, hread⟩ := pushed_eq_some _ _ _ h
          rw [hread]
          exact (Utf8.valid_ascii [a] (by simpa using ha)).append
            (ih _ (by simp) rest hrest _ hbehind rfl)
      · rw [parseStringLoop_high _ _ hhigh] at h
        obtain ⟨behind, hbehind, hread⟩ := pushed_eq_some _ _ _ h
        rw [hread]
        refine (Utf8.valid_encode c).append (ih _ ?_ rest hrest _ hbehind rfl)
        rw [List.length_append]
        omega

/-- The check accepts the texts of Unicode scalar values, and a string read anywhere in such a
payload is one again. -/
theorem payload_strings_valid :
    (∀ input, isValidUtf8 input = true ↔
      ∃ scalars : List Char, input = scalars.flatMap String.utf8EncodeChar) ∧
    ∀ payload index read, isValidUtf8 payload = true →
      parseString (payload.drop index) = some read → isValidUtf8 read.1 = true := by
  refine ⟨isValidUtf8_iff, fun payload index read hpayload hread => ?_⟩
  rw [isValidUtf8_iff] at hpayload ⊢
  obtain ⟨rest, hquote, hloop⟩ := Option.bind_eq_some_iff.mp hread
  rw [consume_eq_some] at hquote
  rw [← List.take_append_drop index payload, hquote] at hpayload
  exact parseStringLoop_valid rest (hpayload.around_ascii (by decide)).2 read hloop

end Dasall.Access.Daemon
