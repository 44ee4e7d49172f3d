import Mathlib.Data.List.Basic

/-!
# Cells that are written one at a time

A state has cells, each with values of its own type, and a rest that no cell holds. A cell may be
absent, and a write to an absent cell does nothing. What a list of writes leaves in a cell is the
last value that was written there.
-/

namespace Dasall.Lib

structure Cells (σ κ : Type) (V : κ → Type) (φ : Type) where
  read : σ → (k : κ) → Option (V k)
  write : σ → (k : κ) → V k → σ
  rest : σ → φ
  read_write_same : ∀ s k v, read (write s k v) k = (read s k).map fun _ => v
  read_write_other : ∀ s k v other, other ≠ k → read (write s k v) other = read s other
  rest_write : ∀ s k v, rest (write s k v) = rest s

namespace Cells

variable {σ κ φ : Type} {V : κ → Type} [DecidableEq κ]

/-- The value that a write gives to a cell, if it writes to that cell. -/
def valueFor (k : κ) (change : Sigma V) : Option (V k) :=
  if h : change.1 = k then some (h ▸ change.2) else none

/-- The last value that is written to a cell. -/
def lastValue (k : κ) : List (Sigma V) → Option (V k)
  | [] => none
  | change :: changes => (lastValue k changes).or (valueFor k change)

/-- The last value, or what was there before. -/
def settled (k : κ) (changes : List (Sigma V)) (before : Option (V k)) : Option (V k) :=
  before.map ((lastValue k changes).getD)

variable (cells : Cells σ κ V φ)

def writeAll (s : σ) (changes : List (Sigma V)) : σ :=
  changes.foldl (fun s change => cells.write s change.1 change.2) s

theorem read_write (s : σ) (change : Sigma V) (k : κ) :
    cells.read (cells.write s change.1 change.2) k =
      (cells.read s k).map (valueFor k change).getD := by
  obtain ⟨other, v⟩ := change
  unfold valueFor
  dsimp only
  split
  next h =>
    subst h
    exact cells.read_write_same s other v
  next h =>
    rw [cells.read_write_other s other v k (Ne.symm h)]
    exact Option.map_id'.symm

theorem read_writeAll (s : σ) (changes : List (Sigma V)) (k : κ) :
    cells.read (cells.writeAll s changes) k = settled k changes (cells.read s k) := by
  unfold writeAll settled
  induction changes generalizing s with
  | nil =>
    rw [List.foldl_nil]
    exact Option.map_id'.symm
  | cons change changes ih =>
    rw [List.foldl_cons, ih, cells.read_write, Option.map_map]
    congr 1
    funext before
    rw [Function.comp_apply, lastValue]
    cases lastValue k changes <;> rfl

omit [DecidableEq κ] in
theorem rest_writeAll (s : σ) (changes : List (Sigma V)) :
    cells.rest (cells.writeAll s changes) = cells.rest s := by
  unfold writeAll
  induction changes generalizing s with
  | nil => rfl
  | cons change changes ih => rw [List.foldl_cons, ih, cells.rest_write]

/-- A write does not make a cell present or absent. -/
theorem isSome_writeAll (s : σ) (changes : List (Sigma V)) (k : κ) :
    (cells.read (cells.writeAll s changes) k).isSome = (cells.read s k).isSome := by
  rw [cells.read_writeAll, settled, Option.isSome_map]

end Cells

end Dasall.Lib
