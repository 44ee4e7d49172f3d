import Mathlib

/-! # Casts between 64-bit integers -/

namespace Dasall.Lib.Machine

theorem toInt_toInt64 (u : UInt64) : u.toInt64.toInt = (u.toNat : Int).bmod (2 ^ 64) :=
  BitVec.toInt_eq_toNat_bmod u.toBitVec

/-- Subtraction after both operands were cast, as `static_cast<int64_t>(a) -
static_cast<int64_t>(b)` does where it does not overflow. -/
theorem toInt_sub_toInt64 (a b : UInt64) :
    (a.toInt64 - b.toInt64).toInt = ((a.toNat : Int) - b.toNat).bmod (2 ^ 64) := by
  rw [Int64.toInt_sub, toInt_toInt64, toInt_toInt64]
  simp

theorem bmod_of_range (i : Int) (hlow : -2 ^ 63 ≤ i) (hhigh : i < 2 ^ 63) : i.bmod (2 ^ 64) = i :=
  Int.bmod_eq_of_le (by simpa using hlow) (by simpa using hhigh)

theorem int64_lt_zero_iff (i : Int64) : i < 0 ↔ i.toInt < 0 := by
  rw [Int64.lt_iff_toInt_lt, Int64.toInt_zero]

end Dasall.Lib.Machine

/-!
## Folds that may be undefined

A step that is undefined leaves the whole fold undefined. A sum in a signed type is such a fold: each
partial sum has to stay in the range of the type.
-/

namespace Dasall.Lib.Checked

variable {σ τ α : Type}

/-! ## Sums in a range -/

variable (low high : Int)

def addWithin (total delta : Int) : Option Int :=
  if low ≤ total + delta ∧ total + delta < high then some (total + delta) else none

/-- Every partial sum is in the range. -/
def SumsFit (total : Int) (deltas : List Int) : Prop :=
  ∀ part, part <+: deltas → part ≠ [] → low ≤ total + part.sum ∧ total + part.sum < high

theorem sumsFit_cons (total delta : Int) (deltas : List Int) :
    SumsFit low high total (delta :: deltas) ↔
      (low ≤ total + delta ∧ total + delta < high) ∧ SumsFit low high (total + delta) deltas := by
  constructor
  · intro h
    refine ⟨?_, fun part hpart hne => ?_⟩
    · simpa using h [delta] (by simp) (by simp)
    · have hmore := h (delta :: part) (by simpa using hpart) (by simp)
      rw [List.sum_cons] at hmore
      omega
  · rintro ⟨hfirst, hrest⟩ part hpart hne
    rcases List.prefix_cons_iff.mp hpart with rfl | ⟨tail, rfl, htail⟩
    · exact absurd rfl hne
    rcases Classical.em (tail = []) with rfl | htail'
    · simpa using hfirst
    · have hmore := hrest tail htail htail'
      rw [List.sum_cons]
      omega

theorem foldlM_addWithin_eq_some_iff (deltas : List Int) (total result : Int) :
    deltas.foldlM (addWithin low high) total = some result ↔
      SumsFit low high total deltas ∧ result = total + deltas.sum := by
  induction deltas generalizing total with
  | nil =>
    have hnil : SumsFit low high total [] := by
      intro part hpart hne
      exact absurd (List.prefix_nil.mp hpart) hne
    simp only [List.foldlM_nil, Option.pure_def, Option.some.injEq, List.sum_nil, Int.add_zero]
    exact ⟨fun h => ⟨hnil, h.symm⟩, fun h => h.2.symm⟩
  | cons delta deltas ih =>
    rw [List.foldlM_cons, sumsFit_cons, List.sum_cons]
    unfold addWithin
    split
    next hfits =>
      simp only [Option.bind_eq_bind, Option.bind_some]
      have hrest := ih (total + delta)
      unfold addWithin at hrest
      rw [hrest]
      simp only [hfits, true_and]
      rw [Int.add_assoc]
    next hout => simp [hout]

end Dasall.Lib.Checked
