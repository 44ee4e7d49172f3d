import Dasall.Lib.Disk
import Dasall.Lib.Hex
import Dasall.Lib.KeyValue

/-!
# Fields of the durable records

The checkpoint store and the session store write their records with the same helpers.
The two copies differ only in the noun of their error details.
-/

open Dasall.Lib.Text Dasall.Lib.Hex Dasall.Lib.KeyValue Dasall.Lib.Disk

namespace Dasall.Runtime

/-- A durable state root. `set_durable_state_root` takes an empty one as none. -/
abbrev StateRoot := {root : Bytes // root ≠ []}

def stateRootOf (stateRoot : Option Bytes) : Option StateRoot :=
  match stateRoot with
  | some (b :: root) => some ⟨b :: root, List.cons_ne_nil _ _⟩
  | _ => none

@[simp] theorem stateRootOf_val (root : StateRoot) : stateRootOf (some root.val) = some root := by
  obtain ⟨text, hne⟩ := root
  cases text with
  | nil => exact absurd rfl hne
  | cons b text => rfl

def sampleRoot : StateRoot := ⟨str "/state", by decide⟩

/-- `root / directory / (hex_encode(name) + ".kv")`. -/
def recordPath (directory : String) (root : StateRoot) (name : Bytes) : Bytes :=
  joinPath (joinPath root.val (str directory)) (hexEncode name ++ str ".kv")

theorem recordPath_isRecord (directory : String) (root : StateRoot) (name : Bytes) :
    IsRecord (recordPath directory root name) := joinPath_isRecord _ _

theorem recordPath_injective (directory : String) (root : StateRoot) (a b : Bytes)
    (h : recordPath directory root a = recordPath directory root b) : a = b :=
  hexEncode_injective a b (List.append_cancel_right (joinPath_injective _ _ _ h))

/-! ## Writing -/

def encodedField (key value : Bytes) : Entry := (key, some (hexEncode value))

def optionalEncodedField (key : Bytes) (value : Option Bytes) : Entry := (key, value.map hexEncode)

def integerField (key : Bytes) (value : Int) : Entry := (key, some (intDecimal value))

def optionalIntegerField (key : Bytes) (value : Option Int) : Entry := (key, value.map intDecimal)

/-! ## Reading -/

/-- The error details that the decoders of one store share. -/
inductive RecordNoun
  | checkpoint
  | session

def RecordNoun.text : RecordNoun → Bytes
  | .checkpoint => str "checkpoint"
  | .session => str "session"

/-- `"durable <noun> record " + problem`. -/
def recordDetail (noun : RecordNoun) (problem : Bytes) : Bytes :=
  str "durable " ++ noun.text ++ str " record " ++ problem

section
variable (noun : RecordNoun) (fields : Fields) (key : Bytes)

def decodeOptionalStringField : Except Bytes (Option Bytes) :=
  match find fields key with
  | none => .ok none
  | some text =>
    match hexDecode text with
    | none => .error (recordDetail noun (str "could not decode " ++ key))
    | some decoded => .ok (some decoded)

def required {α : Type} (decoded : Except Bytes (Option α)) : Except Bytes α :=
  match decoded with
  | .error detail => .error detail
  | .ok none => .error (recordDetail noun (str "is missing " ++ key))
  | .ok (some value) => .ok value

def decodeRequiredStringField : Except Bytes Bytes :=
  required noun key (decodeOptionalStringField noun fields key)

def decodeOptionalIntegerField {α : Type} (parse : Bytes → Option α) : Except Bytes (Option α) :=
  match find fields key with
  | none => .ok none
  | some text =>
    match parse text with
    | none => .error (recordDetail noun (str "has an invalid integer for " ++ key))
    | some value => .ok (some value)

def decodeRequiredIntegerField {α : Type} (parse : Bytes → Option α) : Except Bytes α :=
  required noun key (decodeOptionalIntegerField noun fields key parse)

end

/-- `static_cast<std::uint32_t>(std::stoul(text))`. -/
def stoul32 (text : Bytes) : Option UInt32 := (stoull text).map UInt64.toUInt32

/-- The loop over the indexed fields of a record. -/
def readIndexed {α : Type} (read : Nat → Except Bytes α) (index : Nat) :
    Nat → Except Bytes (List α)
  | 0 => .ok []
  | count + 1 => do
    let value ← read index
    let values ← readIndexed read (index + 1) count
    .ok (value :: values)

/-! ## What was written decodes -/

section
variable (noun : RecordNoun) (fields : Fields) (key : Bytes)

theorem decodeOptionalStringField_spec (value : Option Bytes)
    (h : find fields key = value.map hexEncode) :
    decodeOptionalStringField noun fields key = .ok value := by
  unfold decodeOptionalStringField
  cases value with
  | none => rw [h]; rfl
  | some value => rw [h]; simp [hexDecode_hexEncode]

theorem decodeRequiredStringField_spec (value : Bytes)
    (h : find fields key = some (hexEncode value)) :
    decodeRequiredStringField noun fields key = .ok value := by
  unfold decodeRequiredStringField
  rw [decodeOptionalStringField_spec noun fields key (some value) h]
  rfl

theorem decodeOptionalIntegerField_spec {α : Type} (parse : Bytes → Option α) (print : α → Int)
    (hparse : ∀ a, parse (intDecimal (print a)) = some a) (value : Option α)
    (h : find fields key = (value.map print).map intDecimal) :
    decodeOptionalIntegerField noun fields key parse = .ok value := by
  unfold decodeOptionalIntegerField
  cases value with
  | none => rw [h]; rfl
  | some value => rw [h]; simp [hparse]

theorem decodeRequiredIntegerField_spec {α : Type} (parse : Bytes → Option α) (text : Bytes)
    (value : α) (hparse : parse text = some value) (h : find fields key = some text) :
    decodeRequiredIntegerField noun fields key parse = .ok value := by
  unfold decodeRequiredIntegerField decodeOptionalIntegerField
  rw [h]
  simp [hparse, required]

end

theorem readIndexed_spec {α : Type} (read : Nat → Except Bytes α) (values : List α) (index : Nat)
    (h : ∀ j (hj : j < values.length), read (index + j) = .ok values[j]) :
    readIndexed read index values.length = .ok values := by
  induction values generalizing index with
  | nil => rfl
  | cons value values ih =>
    have hhead : read index = .ok value := h 0 (by simp)
    have htail := ih (index + 1) fun j hj => by
      have := h (j + 1) (by simpa using hj)
      rwa [Nat.add_assoc, Nat.add_comm 1 j]
    simp only [List.length_cons, readIndexed, hhead, htail, bind, Except.bind]

/-! ## Numbers of each width -/

theorem intDecimal_nat (n : Nat) : intDecimal (n : Int) = decimal n := by
  simp [intDecimal]

theorem stoul32_nat (u : UInt32) : stoul32 (intDecimal (u.toNat : Int)) = some u := by
  rw [intDecimal_nat]
  exact stoul_decimal u

theorem stoul32_byte (u : UInt8) : stoul32 (intDecimal (u.toNat : Int)) = some u.toUInt32 := by
  have h := stoul32_nat u.toUInt32
  rwa [UInt8.toNat_toUInt32] at h

theorem stoul32_int (i : Int32) : stoul32 (intDecimal i.toInt) = some i.toUInt32 :=
  stoul_intDecimal i

theorem stoull_nat (u : UInt64) : stoull (intDecimal (u.toNat : Int)) = some u := by
  rw [intDecimal_nat]
  exact stoull_decimal u

theorem stoul32_count (n : Nat) (h : n < 2 ^ 32) :
    stoul32 (intDecimal (n : Int)) = some (UInt32.ofNat n) := by
  have hn := stoul32_nat (UInt32.ofNat n)
  rwa [UInt32.toNat_ofNat_of_lt' h] at hn

/-! ## Clean entries -/

theorem intDecimal_clean (i : Int) : ∀ b ∈ intDecimal i, b ≠ 10 := by
  have hdecimal : ∀ b ∈ decimal i.natAbs, b ≠ 10 := by
    rintro b hb rfl
    exact absurd (decimal_digits _ _ hb) (by decide)
  unfold intDecimal
  split
  · intro b hb
    rcases List.mem_cons.mp hb with rfl | hb
    · decide
    · exact hdecimal b hb
  · exact hdecimal

/-- A key that holds neither a line break nor an equals sign. -/
def CleanKey (key : Bytes) : Prop := ∀ b ∈ key, b ≠ 10 ∧ b ≠ 61

instance (key : Bytes) : Decidable (CleanKey key) :=
  decidable_of_iff (key.all (fun b => b != 10 && b != 61) = true) (by simp [CleanKey])

theorem cleanKey_append (a b : Bytes) (ha : CleanKey a) (hb : CleanKey b) : CleanKey (a ++ b) := by
  intro c hc
  rcases List.mem_append.mp hc with hc | hc
  · exact ha c hc
  · exact hb c hc

theorem decimal_cleanKey (n : Nat) : CleanKey (decimal n) := by
  intro b hb
  have hdigit := decimal_digits n b hb
  constructor <;> rintro rfl <;> exact absurd hdigit (by decide)

theorem encodedField_clean (key value : Bytes) (h : CleanKey key) :
    CleanEntry (encodedField key value) := by
  refine ⟨h, ?_⟩
  rintro text ⟨⟩ b hb
  exact (hexEncode_clean value b hb).1

variable (key : Bytes)

theorem optionalEncodedField_clean (value : Option Bytes) (h : CleanKey key) :
    CleanEntry (optionalEncodedField key value) := by
  cases value with
  | none => exact ⟨h, by rintro text ⟨⟩⟩
  | some value => exact encodedField_clean key value h

theorem integerField_clean (value : Int) (h : CleanKey key) :
    CleanEntry (integerField key value) := by
  refine ⟨h, ?_⟩
  rintro text ⟨⟩
  exact intDecimal_clean value

theorem optionalIntegerField_clean (value : Option Int) (h : CleanKey key) :
    CleanEntry (optionalIntegerField key value) := by
  cases value with
  | none => exact ⟨h, by rintro text ⟨⟩⟩
  | some value => exact integerField_clean key value h

end Dasall.Runtime
