import Dasall.Lib.Utf8

/-!
# The UTF-8 check

`is_valid_utf8` accepts the valid texts and no others.
-/

open Dasall.Lib Dasall.Lib.Text

namespace Dasall.Access.Daemon

/-- The width of a sequence, and the bits of the code point in its first byte. -/
def leadByte (lead : Byte) : Option (Nat × Nat) :=
  if lead &&& 0xE0 = 0xC0 then
    if lead &&& 0x1F = 0 then none else some (2, (lead &&& 0x1F).toNat)
  else if lead &&& 0xF0 = 0xE0 then some (3, (lead &&& 0x0F).toNat)
  else if lead &&& 0xF8 = 0xF0 then some (4, (lead &&& 0x07).toNat)
  else none

/-- The loop over the other bytes of a sequence: its code point, and what is behind it. -/
def continuationLoop : Nat → Nat → Bytes → Option (Nat × Bytes)
  | 0, codePoint, rest => some (codePoint, rest)
  | _ + 1, _, [] => none
  | count + 1, codePoint, byte :: rest =>
    if byte &&& 0xC0 ≠ 0x80 then none
    else continuationLoop count (codePoint <<< 6 ||| (byte &&& 0x3F).toNat) rest

def isRefused (width codePoint : Nat) : Bool :=
  (width = 2 && codePoint < 0x80) || (width = 3 && codePoint < 0x800) ||
    (width = 4 && codePoint < 0x10000) || 0x10FFFF < codePoint ||
    (0xD800 ≤ codePoint && codePoint ≤ 0xDFFF)

/-- The loop of `is_valid_utf8`. The length of the input is the fuel. -/
def validUtf8Loop : Nat → Bytes → Bool
  | _, [] => true
  | 0, _ :: _ => false
  | fuel + 1, lead :: rest =>
    if lead ≤ 0x7F then validUtf8Loop fuel rest
    else
      match leadByte lead with
      | none => false
      | some (width, codePoint) =>
        match continuationLoop (width - 1) codePoint rest with
        | none => false
        | some (codePoint, rest) => !isRefused width codePoint && validUtf8Loop fuel rest

def isValidUtf8 (input : Bytes) : Bool := validUtf8Loop input.length input

/-! ## The bytes of a sequence -/

variable (lead : Byte) (count : Nat) (text : Bytes) (byte : Byte) (rest : Bytes) (width : Nat)
  (later : Bytes) (codePoint : Nat)

theorem leadByte_spec :
    leadByte lead =
      if lead.toNat ≤ 0xC0 then none
      else if lead.toNat < 0xE0 then some (2, lead.toNat - 0xC0)
      else if lead.toNat < 0xF0 then some (3, lead.toNat - 0xE0)
      else if lead.toNat < 0xF8 then some (4, lead.toNat - 0xF0)
      else none := by
  revert lead
  apply Utf8.byte_cases
  decide +kernel

theorem continuation_iff :
    byte &&& 0xC0 = 0x80 ↔ 0x80 ≤ byte.toNat ∧ byte.toNat < 0xC0 := by
  revert byte
  apply Utf8.byte_cases
  decide +kernel

theorem continuation_bits (h : 0x80 ≤ byte.toNat ∧ byte.toNat < 0xC0) :
    (byte &&& 0x3F).toNat = byte.toNat - 0x80 := by
  revert h
  revert byte
  apply Utf8.byte_cases
  decide +kernel

theorem continuationLoop_cons (byte : Byte) (rest : Bytes)
    (h : 0x80 ≤ byte.toNat ∧ byte.toNat < 0xC0) :
    continuationLoop (count + 1) codePoint (byte :: rest) =
      continuationLoop count (codePoint * 64 + (byte.toNat - 0x80)) rest := by
  have hbits := continuation_bits byte h
  have hsmall : byte.toNat - 0x80 < 2 ^ 6 := by omega
  rw [continuationLoop, if_neg (not_not.mpr ((continuation_iff byte).mpr h)), hbits,
    ← Nat.shiftLeft_add_eq_or_of_lt hsmall, Nat.shiftLeft_eq]

theorem isRefused_eq_false :
    isRefused width codePoint = false ↔
      (width = 2 → 0x80 ≤ codePoint) ∧ (width = 3 → 0x800 ≤ codePoint) ∧
      (width = 4 → 0x10000 ≤ codePoint) ∧ codePoint ≤ 0x10FFFF ∧
      ¬ (0xD800 ≤ codePoint ∧ codePoint ≤ 0xDFFF) := by
  unfold isRefused
  simp only [Bool.or_eq_false_iff, Bool.and_eq_false_iff, decide_eq_false_iff_not]
  omega

/-! ## What is accepted -/

theorem validUtf8Loop_sequence (width bits codePoint fuel : Nat)
    (hlead : leadByte lead = some (width, bits))
    (hloop : continuationLoop (width - 1) bits rest = some (codePoint, later)) :
    validUtf8Loop (fuel + 1) (lead :: rest) =
      (!isRefused width codePoint && validUtf8Loop fuel later) := by
  have hhigh : ¬ lead ≤ 0x7F := by
    rw [leadByte_spec] at hlead
    intro hlow
    have hnat : lead.toNat ≤ 0x7F := UInt8.le_iff_toNat_le.mp hlow
    rw [if_pos (by omega)] at hlead
    simp at hlead
  rw [validUtf8Loop, if_neg hhigh, hlead]
  dsimp only
  rw [hloop]

theorem validUtf8Loop_encodes (c : Char) (text rest : Bytes) (fuel : Nat)
    (h : Utf8.Encodes c text) :
    validUtf8Loop (fuel + 1) (text ++ rest) = validUtf8Loop fuel rest := by
  have hrange := Utf8.char_range c
  induction h with
  | one a ha hc =>
    have hlow : a ≤ 0x7F := UInt8.le_iff_toNat_le.mpr (Nat.le_of_lt_succ ha)
    rw [List.singleton_append, validUtf8Loop, if_pos hlow]
  | two a b ha hb hc hleast =>
    have hlead : leadByte a = some (2, a.toNat - 0xC0) := by
      rw [leadByte_spec, if_neg (by omega), if_pos (by omega)]
    have hloop : continuationLoop 1 (a.toNat - 0xC0) (b :: rest) = some (c.toNat, rest) := by
      rw [continuationLoop_cons _ _ _ _ hb, continuationLoop, hc]
    have haccepted : isRefused 2 c.toNat = false := by
      rw [isRefused_eq_false]
      omega
    have hturn := validUtf8Loop_sequence a _ rest 2 _ _ fuel hlead hloop
    rwa [haccepted] at hturn
  | three a b d ha hb hd hc hleast =>
    have hlead : leadByte a = some (3, a.toNat - 0xE0) := by
      rw [leadByte_spec, if_neg (by omega), if_neg (by omega), if_pos (by omega)]
    have hloop : continuationLoop 2 (a.toNat - 0xE0) (b :: d :: rest) = some (c.toNat, rest) := by
      rw [continuationLoop_cons _ _ _ _ hb, continuationLoop_cons _ _ _ _ hd, continuationLoop, hc]
    have haccepted : isRefused 3 c.toNat = false := by
      rw [isRefused_eq_false]
      omega
    have hturn := validUtf8Loop_sequence a _ rest 3 _ _ fuel hlead hloop
    rwa [haccepted] at hturn
  | four a b d e ha hb hd he hc hleast =>
    have hlead : leadByte a = some (4, a.toNat - 0xF0) := by
      rw [leadByte_spec, if_neg (by omega), if_neg (by omega), if_neg (by omega),
        if_pos (by omega)]
    have hloop : continuationLoop 3 (a.toNat - 0xF0) (b :: d :: e :: rest) =
        some (c.toNat, rest) := by
      rw [continuationLoop_cons _ _ _ _ hb, continuationLoop_cons _ _ _ _ hd,
        continuationLoop_cons _ _ _ _ he, continuationLoop, hc]
    have haccepted : isRefused 4 c.toNat = false := by
      rw [isRefused_eq_false]
      omega
    have hturn := validUtf8Loop_sequence a _ rest 4 _ _ fuel hlead hloop
    rwa [haccepted] at hturn

theorem validUtf8Loop_of_valid (h : Utf8.Valid text) :
    ∀ fuel, text.length ≤ fuel → validUtf8Loop fuel text = true := by
  refine Utf8.Valid.induction
    (motive := fun text => ∀ fuel, text.length ≤ fuel → validUtf8Loop fuel text = true) ?_ ?_ h
  · intro fuel _
    rw [validUtf8Loop]
  · intro c text ih fuel hfuel
    have hlong := Utf8.encode_length_pos c
    rw [List.length_append] at hfuel
    obtain ⟨fuel, rfl⟩ : ∃ less, fuel = less + 1 := ⟨fuel - 1, by omega⟩
    rw [validUtf8Loop_encodes c _ text fuel (Utf8.encodes_encode c)]
    exact ih fuel (by omega)

theorem continuationLoop_eq_some (input : Bytes) (read : Nat × Bytes)
    (h : continuationLoop (count + 1) codePoint input = some read) :
    ∃ byte rest, input = byte :: rest ∧ (0x80 ≤ byte.toNat ∧ byte.toNat < 0xC0) ∧
      continuationLoop count (codePoint * 64 + (byte.toNat - 0x80)) rest = some read := by
  cases input with
  | nil => simp [continuationLoop] at h
  | cons byte rest =>
    by_cases hbyte : byte &&& 0xC0 = 0x80
    · have hrange := (continuation_iff byte).mp hbyte
      rw [continuationLoop_cons _ _ _ _ hrange] at h
      exact ⟨byte, rest, rfl, hrange, h⟩
    · rw [continuationLoop, if_pos hbyte] at h
      simp at h

theorem sequence_valid (width bits codePoint : Nat)
    (hlead : leadByte lead = some (width, bits))
    (hloop : continuationLoop (width - 1) bits rest = some (codePoint, later))
    (haccepted : isRefused width codePoint = false) :
    ∃ text, lead :: rest = text ++ later ∧ Utf8.Valid text := by
  rw [isRefused_eq_false] at haccepted
  obtain ⟨htwo, hthree, hfour, hend, hsurrogate⟩ := haccepted
  have hchar : codePoint.isValidChar := by
    unfold Nat.isValidChar
    omega
  have hc : (Char.ofNat codePoint).toNat = codePoint := Utf8.toNat_ofNat codePoint hchar
  rw [leadByte_spec] at hlead
  split at hlead
  · simp at hlead
  split at hlead
  · obtain ⟨rfl, rfl⟩ := Prod.mk.inj (Option.some.inj hlead)
    obtain ⟨b, rest, rfl, hb, hloop⟩ := continuationLoop_eq_some 0 _ _ _ hloop
    obtain ⟨rfl, rfl⟩ := Prod.mk.inj (Option.some.inj hloop)
    refine ⟨[lead, b], rfl, (Utf8.Encodes.two lead b (by omega) hb hc ?_).valid⟩
    omega
  split at hlead
  · obtain ⟨rfl, rfl⟩ := Prod.mk.inj (Option.some.inj hlead)
    obtain ⟨b, rest, rfl, hb, hloop⟩ := continuationLoop_eq_some 1 _ _ _ hloop
    obtain ⟨d, rest, rfl, hd, hloop⟩ := continuationLoop_eq_some 0 _ _ _ hloop
    obtain ⟨rfl, rfl⟩ := Prod.mk.inj (Option.some.inj hloop)
    refine ⟨[lead, b, d], rfl, (Utf8.Encodes.three lead b d (by omega) hb hd hc ?_).valid⟩
    omega
  split at hlead
  · obtain ⟨rfl, rfl⟩ := Prod.mk.inj (Option.some.inj hlead)
    obtain ⟨b, rest, rfl, hb, hloop⟩ := continuationLoop_eq_some 2 _ _ _ hloop
    obtain ⟨d, rest, rfl, hd, hloop⟩ := continuationLoop_eq_some 1 _ _ _ hloop
    obtain ⟨e, rest, rfl, he, hloop⟩ := continuationLoop_eq_some 0 _ _ _ hloop
    obtain ⟨rfl, rfl⟩ := Prod.mk.inj (Option.some.inj hloop)
    refine ⟨[lead, b, d, e], rfl, (Utf8.Encodes.four lead b d e (by omega) hb hd he hc ?_).valid⟩
    omega
  · simp at hlead

theorem valid_of_validUtf8Loop (fuel : Nat) (text : Bytes) (h : validUtf8Loop fuel text = true) :
    Utf8.Valid text := by
  induction fuel generalizing text with
  | zero =>
    cases text with
    | nil => exact Utf8.valid_nil
    | cons lead rest => simp [validUtf8Loop] at h
  | succ fuel ih =>
    cases text with
    | nil => exact Utf8.valid_nil
    | cons lead rest =>
    rw [validUtf8Loop] at h
    split at h
    · next hlow =>
      have hascii : Utf8.Valid [lead] := by
        apply Utf8.valid_ascii
        intro a ha
        rw [List.mem_singleton.mp ha]
        exact Nat.lt_succ_of_le (UInt8.le_iff_toNat_le.mp hlow)
      exact hascii.append (ih rest h)
    split at h
    · simp at h
    next width bits hlead =>
    split at h
    · simp at h
    next codePoint later hloop =>
    rw [Bool.and_eq_true, Bool.not_eq_true'] at h
    obtain ⟨text, htext, hvalid⟩ := sequence_valid lead rest later _ _ _ hlead hloop h.1
    rw [htext]
    exact hvalid.append (ih later h.2)

theorem isValidUtf8_iff : isValidUtf8 text = true ↔ Utf8.Valid text := by
  constructor
  · exact valid_of_validUtf8Loop text.length text
  · exact fun h => validUtf8Loop_of_valid text h text.length (Nat.le_refl _)

end Dasall.Access.Daemon
