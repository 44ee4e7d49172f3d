import Mathlib.Data.List.Basic
import Mathlib.Data.List.TakeWhile
import Mathlib.Data.Nat.Digits.Defs
import Mathlib.Tactic.IntervalCases

/-!
# Byte strings and the numbers written in them

A `std::string` is a list of bytes. `decimal` and `intDecimal` write a number as
`operator<<` does, and `strtoull`/`strtoll` read one back as the C library does.
-/

namespace Dasall.Lib.Text

abbrev Byte := UInt8
abbrev Bytes := List Byte

/-- The bytes of a text are tried in turn, not all the bytes there are. -/
instance (priority := high) decidableForallMemByte (condition : Byte → Prop)
    [DecidablePred condition] (text : Bytes) : Decidable (∀ byte ∈ text, condition byte) :=
  List.decidableBAll condition text

instance isPreorderByte : Std.IsPreorder Byte := inferInstance

instance lawfulBEqBytes : LawfulBEq Bytes := inferInstance

/-- The bytes of a literal. Every literal in the source is ASCII. -/
def str (s : String) : Bytes := s.toList.map fun c => UInt8.ofNat c.toNat

/-! ## Writing numbers -/

def decimal (n : Nat) : Bytes := (Nat.toDigits 10 n).map fun c => UInt8.ofNat c.toNat

def intDecimal (i : Int) : Bytes :=
  if i < 0 then 45 :: decimal i.natAbs else decimal i.natAbs

def isDigit (b : Byte) : Bool := 48 ≤ b.toNat && b.toNat ≤ 57

/-- The value of a run of digits, most significant first. -/
def digitsValue (l : Bytes) : Nat := l.foldl (fun v b => 10 * v + (b.toNat - 48)) 0

theorem digit_byte_toNat (c : Char) (h : c.isDigit) : (UInt8.ofNat c.toNat).toNat = c.toNat := by
  rw [Char.isDigit_iff_toNat] at h
  have h57 : '9'.toNat = 57 := rfl
  simp only [UInt8.toNat_ofNat']
  omega

variable (m : Nat) (b : Byte) (digits : Bytes) (i : Int64) (n : Nat)

theorem decimal_digits : ∀ b ∈ decimal n, isDigit b = true := by
  intro b hb
  obtain ⟨c, hc, rfl⟩ := List.mem_map.mp hb
  have hd := Nat.isDigit_of_mem_toDigits (by omega) (by omega) hc
  have hd' := Char.isDigit_iff_toNat.mp hd
  have h48 : '0'.toNat = 48 := rfl
  have h57 : '9'.toNat = 57 := rfl
  simp only [isDigit, digit_byte_toNat c hd, Bool.and_eq_true, decide_eq_true_eq]
  omega

theorem decimal_ne_nil : decimal n ≠ [] := by
  simp [decimal, Nat.toDigits_ne_nil]

theorem digitsValue_map (l : List Char) (h : ∀ c ∈ l, c.isDigit) (v : Nat) :
    (l.map fun c => UInt8.ofNat c.toNat).foldl (fun v b => 10 * v + (b.toNat - 48)) v =
      Nat.ofDigitChars 10 l v := by
  induction l generalizing v with
  | nil => simp
  | cons c l ih =>
    rw [List.map_cons, List.foldl_cons, ih fun d hd => h d (List.mem_cons_of_mem _ hd),
      Nat.ofDigitChars_cons, digit_byte_toNat c (h c List.mem_cons_self)]
    rfl

theorem digitsValue_decimal : digitsValue (decimal n) = n := by
  have h := digitsValue_map (Nat.toDigits 10 n)
    (fun c hc => Nat.isDigit_of_mem_toDigits (by omega) (by omega) hc) 0
  rw [Nat.ofDigitChars_ten_toDigits] at h
  exact h

theorem decimal_injective (h : decimal m = decimal n) : m = n := by
  rw [← digitsValue_decimal m, h, digitsValue_decimal]

theorem decimal_cons : ∃ d rest, decimal n = d :: rest ∧ isDigit d = true := by
  cases h : decimal n with
  | nil => exact absurd h (decimal_ne_nil n)
  | cons d rest => exact ⟨d, rest, rfl, decimal_digits n d (by rw [h]; exact List.mem_cons_self)⟩

theorem takeWhile_decimal (rest : Bytes) (h : ∀ b ∈ rest.head?, isDigit b = false) :
    (decimal n ++ rest).takeWhile isDigit = decimal n := by
  rw [List.takeWhile_append_of_pos (decimal_digits n)]
  cases rest with
  | nil => simp
  | cons b rest => simp [h b rfl]

/-- A number and a text that does not start with a digit are told apart. -/
theorem decimal_append_inj (a b : Bytes) (ha : ∀ c ∈ a.head?, isDigit c = false)
    (hb : ∀ c ∈ b.head?, isDigit c = false) (h : decimal m ++ a = decimal n ++ b) :
    m = n ∧ a = b := by
  have hdigits := congrArg (List.takeWhile isDigit) h
  rw [takeWhile_decimal m a ha, takeWhile_decimal n b hb] at hdigits
  have hmn := decimal_injective m n hdigits
  subst hmn
  exact ⟨rfl, List.append_cancel_left h⟩

/-! ## Reading numbers -/

/-- `std::isspace` in the "C" locale. -/
def isSpace (b : Byte) : Bool := b == 32 || (9 ≤ b.toNat && b.toNat ≤ 13)

/-- The optional sign that the `strto*` family reads. -/
def splitSign : Bytes → Bool × Bytes
  | 45 :: rest => (true, rest)
  | 43 :: rest => (false, rest)
  | text => (false, text)

/-- The sign and the digits that `strto*` reads. Anything after the digits is ignored. -/
def scanNumber (text : Bytes) : Bool × Bytes :=
  let (negative, rest) := splitSign (text.dropWhile isSpace)
  (negative, rest.takeWhile isDigit)

/-- `std::stoull`, and `std::stoul` where `unsigned long` has 64 bits. `none` is the
exception: no digits, or a value out of range. A minus sign negates modulo 2^64. -/
def stoull (text : Bytes) : Option UInt64 :=
  let (negative, digits) := scanNumber text
  if digits.isEmpty then none
  else if 2 ^ 64 ≤ digitsValue digits then none
  else
    let value := UInt64.ofNat (digitsValue digits)
    some (if negative then 0 - value else value)

/-- `std::stoll`. -/
def stoll (text : Bytes) : Option Int64 :=
  let (negative, digits) := scanNumber text
  if digits.isEmpty then none
  else
    let value : Int := if negative then -(digitsValue digits : Int) else digitsValue digits
    if value < -2 ^ 63 ∨ 2 ^ 63 ≤ value then none else some (Int64.ofInt value)

theorem digit_not_space (h : isDigit b = true) : isSpace b = false := by
  simp only [isDigit, Bool.and_eq_true, decide_eq_true_eq] at h
  have h32 : b ≠ 32 := by rintro rfl; simp at h
  simp [isSpace, h32]
  omega

theorem digit_not_sign (h : isDigit b = true) : b ≠ 45 ∧ b ≠ 43 := by
  constructor <;> rintro rfl <;> simp [isDigit] at h

theorem splitSign_digit (d : Byte) (rest : Bytes) (h : isDigit d = true) :
    splitSign (d :: rest) = (false, d :: rest) := by
  obtain ⟨h45, h43⟩ := digit_not_sign d h
  unfold splitSign
  split <;> simp_all

theorem decimal_takeWhile : (decimal n).takeWhile isDigit = decimal n := by
  simpa using takeWhile_decimal n [] (by simp)

theorem scanNumber_digits (hdigits : ∀ b ∈ digits, isDigit b = true) :
    scanNumber digits = (false, digits) := by
  rcases digits with _ | ⟨d, rest⟩
  · rfl
  · have hd := hdigits d List.mem_cons_self
    unfold scanNumber
    rw [List.dropWhile_cons_of_neg (by simp [digit_not_space d hd]), splitSign_digit d rest hd]
    simp only [List.takeWhile_eq_self_iff.mpr hdigits]

theorem scanNumber_decimal : scanNumber (decimal n) = (false, decimal n) :=
  scanNumber_digits _ (decimal_digits n)

theorem scanNumber_minus_decimal : scanNumber (45 :: decimal n) = (true, decimal n) := by
  have hspace : (45 :: decimal n).dropWhile isSpace = 45 :: decimal n :=
    List.dropWhile_cons_of_neg (by decide)
  unfold scanNumber
  rw [hspace]
  simp only [splitSign, decimal_takeWhile]

/-- The digits of a number read as the number, unless it is out of range. -/
theorem stoull_digits (hne : digits ≠ [])
    (hdigits : ∀ b ∈ digits, isDigit b = true) :
    stoull digits =
      if 2 ^ 64 ≤ digitsValue digits then none else some (UInt64.ofNat (digitsValue digits)) := by
  unfold stoull
  rw [scanNumber_digits digits hdigits]
  simp [hne]

/-- A `uint64_t` reads back as it was written. -/
theorem stoull_decimal (u : UInt64) : stoull (decimal u.toNat) = some u := by
  have hlt : ¬ 2 ^ 64 ≤ u.toNat := by have := u.toNat_lt; omega
  simp [stoull, scanNumber_decimal, decimal_ne_nil, digitsValue_decimal]
  omega

/-- A `uint32_t` reads back through `stoul` and the narrowing cast. -/
theorem stoul_decimal (u : UInt32) : (stoull (decimal u.toNat)).map UInt64.toUInt32 = some u := by
  have h := stoull_decimal u.toUInt64
  rw [UInt32.toNat_toUInt64] at h
  rw [h, Option.map_some, UInt32.toUInt32_toUInt64]

/-- An `int` printed with its sign reads back through `stoul` and the narrowing cast:
the minus sign negates modulo 2^64, and the cast keeps the low 32 bits. -/
theorem stoul_intDecimal (i : Int32) :
    (stoull (intDecimal i.toInt)).map UInt64.toUInt32 = some i.toUInt32 := by
  have hlo := i.le_toInt
  have hhi := i.toInt_lt
  have hbmod : i.toInt = (i.toUInt32.toNat : Int).bmod (2 ^ 32) := by
    rw [← Int32.toNat_toBitVec]; exact BitVec.toInt_eq_toNat_bmod _
  have hu := i.toUInt32.toNat_lt
  by_cases hneg : i.toInt < 0
  · simp only [stoull, intDecimal, hneg, if_true, scanNumber_minus_decimal, List.isEmpty_iff,
      decimal_ne_nil, if_false, digitsValue_decimal]
    rw [if_neg (by omega), Option.map_some, Option.some.injEq, ← UInt32.toNat_inj]
    simp only [UInt64.toNat_toUInt32, UInt64.toNat_sub, UInt64.toNat_ofNat']
    simp only [Int.bmod_def] at hbmod
    simp at hbmod ⊢
    omega
  · simp only [stoull, intDecimal, hneg, if_false, scanNumber_decimal, List.isEmpty_iff,
      decimal_ne_nil, digitsValue_decimal, Bool.false_eq_true]
    rw [if_neg (by omega), Option.map_some, Option.some.injEq, ← UInt32.toNat_inj]
    simp only [UInt64.toNat_toUInt32, UInt64.toNat_ofNat']
    simp only [Int.bmod_def] at hbmod
    simp at hbmod ⊢
    omega

/-- An `int64_t` reads back as it was written. -/
theorem stoll_intDecimal : stoll (intDecimal i.toInt) = some i := by
  have hlo := i.le_toInt
  have hhi := i.toInt_lt
  by_cases hneg : i.toInt < 0
  · have habs : -(i.toInt.natAbs : Int) = i.toInt := by omega
    simp only [stoll, intDecimal, hneg, if_true, scanNumber_minus_decimal, List.isEmpty_iff,
      decimal_ne_nil, if_false, digitsValue_decimal, habs]
    rw [if_neg (by omega), Int64.ofInt_toInt]
  · have habs : (i.toInt.natAbs : Int) = i.toInt := by omega
    simp only [stoll, intDecimal, hneg, if_false, scanNumber_decimal, List.isEmpty_iff,
      decimal_ne_nil, digitsValue_decimal, habs, Bool.false_eq_true]
    rw [if_neg (by omega), Int64.ofInt_toInt]

/-! ## `std::from_chars` -/

/-- The value of the digits, where there are some, nothing else follows them, and it is in
range. -/
def signedValue (negative : Bool) (digits : Bytes) : Option Int64 :=
  if digits = [] ∨ digits.all isDigit = false then none
  else
    let value : Int := if negative then -(digitsValue digits) else digitsValue digits
    if value < -2 ^ 63 ∨ 2 ^ 63 ≤ value then none else some (Int64.ofInt value)

/-- `std::from_chars` into an `int64_t`, where it has to read the whole text. -/
def fromChars : Bytes → Option Int64
  | 45 :: digits => signedValue true digits
  | digits => signedValue false digits

theorem signedValue_decimal (negative : Bool)
    (h : (if negative then -(i.toInt.natAbs : Int) else i.toInt.natAbs) = i.toInt) :
    signedValue negative (decimal i.toInt.natAbs) = some i := by
  have hlo := i.le_toInt
  have hhi := i.toInt_lt
  have hall : (decimal i.toInt.natAbs).all isDigit = true :=
    List.all_eq_true.mpr (decimal_digits _)
  unfold signedValue
  rw [if_neg (by simp [hall, decimal_ne_nil])]
  dsimp only
  rw [digitsValue_decimal, h, if_neg (by omega), Int64.ofInt_toInt]

/-- An `int64_t` reads back as `std::to_string` wrote it. -/
theorem fromChars_intDecimal : fromChars (intDecimal i.toInt) = some i := by
  unfold intDecimal
  split
  · refine signedValue_decimal i true ?_
    rw [if_pos rfl]
    omega
  · obtain ⟨d, rest, hdecimal, hdigit⟩ := decimal_cons i.toInt.natAbs
    have hminus : d ≠ 45 := (digit_not_sign d hdigit).1
    have hread : fromChars (decimal i.toInt.natAbs) =
        signedValue false (decimal i.toInt.natAbs) := by
      rw [hdecimal]
      unfold fromChars
      split
      · rename_i digits heq
        exact absurd (List.cons.inj heq).1 hminus
      · rfl
    rw [hread]
    refine signedValue_decimal i false ?_
    rw [if_neg Bool.false_ne_true]
    omega

end Dasall.Lib.Text

/-!
## Character classes

The predicates of `<cctype>` in the "C" locale, where no byte from 128 on belongs to a class.
-/

open Dasall.Lib.Text

namespace Dasall.Lib.Ascii

def isUpper (b : Byte) : Bool := 65 ≤ b.toNat && b.toNat ≤ 90

def isLower (b : Byte) : Bool := 97 ≤ b.toNat && b.toNat ≤ 122

def isAlpha (b : Byte) : Bool := isUpper b || isLower b

def isAlnum (b : Byte) : Bool := isAlpha b || isDigit b

/-- `std::ispunct`: what prints and is neither alphanumeric nor the space. -/
def isPunct (b : Byte) : Bool := 33 ≤ b.toNat && b.toNat ≤ 126 && !isAlnum b

def toLower (b : Byte) : Byte := if isUpper b then b + 32 else b

def lower (text : Bytes) : Bytes := text.map toLower

theorem toLower_toNat (b : Byte) :
    (toLower b).toNat = if isUpper b then b.toNat + 32 else b.toNat := by
  unfold toLower
  split
  next h =>
    simp only [isUpper, Bool.and_eq_true, decide_eq_true_eq] at h
    rw [UInt8.toNat_add]
    simp
    omega
  next => rfl

theorem isUpper_toLower (b : Byte) : isUpper (toLower b) = false := by
  simp only [isUpper, toLower_toNat]
  grind

@[simp] theorem toLower_toLower (b : Byte) : toLower (toLower b) = toLower b := by
  rw [toLower, isUpper_toLower]
  rfl

@[simp] theorem lower_append (first second : Bytes) :
    lower (first ++ second) = lower first ++ lower second := by
  simp [lower]

end Dasall.Lib.Ascii
