import Dasall.Lib.Text

/-!
# Base64 for URLs, without padding

Three bytes are four symbols of six bits each, and a shorter last group has no padding. Shifts
and ors of disjoint bits are written as arithmetic. The decoder collects bits in a 32-bit
accumulator and never clears it.
-/

open Dasall.Lib.Text

namespace Dasall.Lib.Base64Url

def alphabet : Bytes := str "ABCDEFGHIJKLMNOPQRSTUVWXYZabcdefghijklmnopqrstuvwxyz0123456789-_"

def symbol (index : Nat) : Byte := alphabet.getD index 0

/-- The 24 bits of a group. -/
def chunk (first second third : Byte) : Nat :=
  first.toNat * 2 ^ 16 + second.toNat * 2 ^ 8 + third.toNat

def encode : Bytes → Bytes
  | [] => []
  | [first] => [symbol (chunk first 0 0 / 2 ^ 18 % 64), symbol (chunk first 0 0 / 2 ^ 12 % 64)]
  | [first, second] =>
    [symbol (chunk first second 0 / 2 ^ 18 % 64), symbol (chunk first second 0 / 2 ^ 12 % 64),
      symbol (chunk first second 0 / 2 ^ 6 % 64)]
  | first :: second :: third :: rest =>
    symbol (chunk first second third / 2 ^ 18 % 64) ::
      symbol (chunk first second third / 2 ^ 12 % 64) ::
      symbol (chunk first second third / 2 ^ 6 % 64) ::
      symbol (chunk first second third % 64) :: encode rest

/-- The accumulator, a `std::uint32_t`, and the number of bits in it that wait. -/
def decodeFrom (accumulator bitsCollected : Nat) : Bytes → Option Bytes
  | [] => if 6 ≤ bitsCollected then none else some []
  | character :: rest =>
    match alphabet.idxOf? character with
    | none => none
    | some value =>
      let accumulator := (accumulator * 2 ^ 6 + value) % 2 ^ 32
      let bitsCollected := bitsCollected + 6
      if 8 ≤ bitsCollected then
        let bitsCollected := bitsCollected - 8
        (decodeFrom accumulator bitsCollected rest).map fun decoded =>
          UInt8.ofNat (accumulator / 2 ^ bitsCollected % 256) :: decoded
      else decodeFrom accumulator bitsCollected rest

def decode (text : Bytes) : Option Bytes := decodeFrom 0 0 text

/-! ## Decoding what was encoded -/

theorem idxOf_symbol : ∀ index < 64, alphabet.idxOf? (symbol index) = some index := by
  decide +kernel

theorem symbol_mem : ∀ index < 64, symbol index ∈ alphabet := by
  decide +kernel

/-- One symbol into the accumulator. -/
def push (accumulator value : Nat) : Nat := (accumulator * 2 ^ 6 + value) % 2 ^ 32

variable (bytes : Bytes) (accumulator bitsCollected : Nat) (first : Byte) (index : Nat)
  (second : Byte) (rest : Bytes) (third : Byte)

theorem decodeFrom_wait (hindex : index < 64) (hwait : bitsCollected + 6 < 8) :
    decodeFrom accumulator bitsCollected (symbol index :: rest) =
      decodeFrom (push accumulator index) (bitsCollected + 6) rest := by
  rw [decodeFrom, idxOf_symbol index hindex]
  dsimp only
  rw [if_neg (by omega)]
  rfl

theorem decodeFrom_emit (hindex : index < 64) (hemit : 8 ≤ bitsCollected + 6) :
    decodeFrom accumulator bitsCollected (symbol index :: rest) =
      (decodeFrom (push accumulator index) (bitsCollected + 6 - 8) rest).map fun decoded =>
        UInt8.ofNat (push accumulator index / 2 ^ (bitsCollected + 6 - 8) % 256) :: decoded := by
  rw [decodeFrom, idxOf_symbol index hindex]
  dsimp only
  rw [if_pos hemit]
  rfl

theorem ofNat_eq (b : Byte) (n : Nat) (h : n = b.toNat) : UInt8.ofNat n = b := by
  rw [h, UInt8.ofNat_toNat]

theorem first_byte :
    UInt8.ofNat (push (push accumulator (chunk first second third / 2 ^ 18 % 64))
      (chunk first second third / 2 ^ 12 % 64) / 2 ^ 4 % 256) = first := by
  have hfirst := first.toNat_lt
  have hsecond := second.toNat_lt
  have hthird := third.toNat_lt
  apply ofNat_eq
  unfold push chunk
  omega

theorem second_byte :
    UInt8.ofNat (push (push accumulator (chunk first second third / 2 ^ 12 % 64))
      (chunk first second third / 2 ^ 6 % 64) / 2 ^ 2 % 256) = second := by
  have hfirst := first.toNat_lt
  have hsecond := second.toNat_lt
  have hthird := third.toNat_lt
  apply ofNat_eq
  unfold push chunk
  omega

theorem third_byte :
    UInt8.ofNat (push (push accumulator (chunk first second third / 2 ^ 6 % 64))
      (chunk first second third % 64) / 2 ^ 0 % 256) = third := by
  have hfirst := first.toNat_lt
  have hsecond := second.toNat_lt
  have hthird := third.toNat_lt
  apply ofNat_eq
  unfold push chunk
  omega

theorem decodeFrom_encode :
    decodeFrom accumulator 0 (encode bytes) = some bytes := by
  induction bytes using encode.induct generalizing accumulator with
  | case1 => rfl
  | case2 first =>
    rw [encode, decodeFrom_wait _ _ _ _ (Nat.mod_lt _ (by decide)) (by decide),
      decodeFrom_emit _ _ _ _ (Nat.mod_lt _ (by decide)) (by decide), first_byte]
    rfl
  | case3 first second =>
    rw [encode, decodeFrom_wait _ _ _ _ (Nat.mod_lt _ (by decide)) (by decide),
      decodeFrom_emit _ _ _ _ (Nat.mod_lt _ (by decide)) (by decide), first_byte,
      decodeFrom_emit _ _ _ _ (Nat.mod_lt _ (by decide)) (by decide), second_byte]
    rfl
  | case4 first second third rest ih =>
    rw [encode, decodeFrom_wait _ _ _ _ (Nat.mod_lt _ (by decide)) (by decide),
      decodeFrom_emit _ _ _ _ (Nat.mod_lt _ (by decide)) (by decide), first_byte,
      decodeFrom_emit _ _ _ _ (Nat.mod_lt _ (by decide)) (by decide), second_byte,
      decodeFrom_emit _ _ _ _ (Nat.mod_lt _ (by decide)) (by decide), third_byte, ih]
    rfl

theorem decode_encode : decode (encode bytes) = some bytes :=
  decodeFrom_encode bytes 0

theorem encode_alphabet : ∀ character ∈ encode bytes, character ∈ alphabet := by
  have hsymbol : ∀ n, symbol (n % 64) ∈ alphabet :=
    fun n => symbol_mem _ (Nat.mod_lt n (by decide))
  induction bytes using encode.induct with
  | case1 => simp [encode]
  | case2 first => simp [encode, hsymbol]
  | case3 first second => simp [encode, hsymbol]
  | case4 first second third rest ih =>
    simp only [encode, List.mem_cons]
    rintro character (rfl | rfl | rfl | rfl | hrest)
    · exact hsymbol _
    · exact hsymbol _
    · exact hsymbol _
    · exact hsymbol _
    · exact ih character hrest

end Dasall.Lib.Base64Url
