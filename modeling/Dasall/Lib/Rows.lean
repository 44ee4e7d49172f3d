import Mathlib.Data.List.Nodup

/-!
# Rows with keys

A vector of rows that are found by a key, the first of a key before the others. A row that is
written takes the place of the first one of its key, or joins at the end. A view of the rows
follows a list of changes.
-/

namespace Dasall.Lib.Rows

variable {α κ β : Type} [DecidableEq κ]

section
variable (key : α → κ)

def find (k : κ) (rows : List α) : Option α := rows.find? fun row => key row = k

def put (k : κ) (row : α) : List α → List α
  | [] => [row]
  | first :: rows => if key first = k then row :: rows else first :: put k row rows

theorem find_key {k : κ} {rows : List α} {row : α} (h : find key k rows = some row) :
    key row = k := by
  unfold find at h
  simpa using List.find?_some h

variable (k : κ) (row : α) (other : κ) (rows : List α)

theorem find_put_same (hrow : key row = k) (rows : List α) :
    find key k (put key k row rows) = some row := by
  induction rows with
  | nil => simp [put, find, hrow]
  | cons first rows ih =>
    unfold put
    split
    · simp [find, hrow]
    · next hfirst =>
      unfold find at ih ⊢
      rw [List.find?_cons_of_neg (by simpa using hfirst)]
      exact ih

theorem find_put_other (hother : other ≠ k) (row : α) (hrow : key row = k)
    (rows : List α) : find key other (put key k row rows) = find key other rows := by
  have hskip : ¬ key row = other := fun h => hother (h.symm.trans hrow)
  induction rows with
  | nil => simp [put, find, hskip]
  | cons first rows ih =>
    unfold put
    split
    · next hfirst =>
      have hfirst : ¬ key first = other := fun h => hother (h.symm.trans hfirst)
      unfold find
      rw [List.find?_cons_of_neg (by simpa using hskip),
        List.find?_cons_of_neg (by simpa using hfirst)]
    · unfold find at ih ⊢
      rw [List.find?_cons, List.find?_cons, ih]

theorem find_isSome : (find key k rows).isSome = true ↔ k ∈ rows.map key := by
  unfold find
  rw [List.find?_isSome, List.mem_map]
  simp

theorem find_map (f : α → α) (hkey : ∀ row, key (f row) = key row) :
    find key k (rows.map f) = (find key k rows).map f := by
  unfold find
  rw [List.find?_map]
  simp only [Function.comp_def, hkey]

theorem find_mem {k : κ} {rows : List α} {row : α} (h : find key k rows = some row) : row ∈ rows :=
  List.mem_of_find?_eq_some h

theorem mem_put (other : α) (h : other ∈ put key k row rows) :
    other = row ∨ other ∈ rows := by
  induction rows with
  | nil => simpa [put] using h
  | cons first rows ih =>
    unfold put at h
    grind

theorem mem_put_self : row ∈ put key k row rows := by
  induction rows with
  | nil => simp [put]
  | cons first rows ih =>
    unfold put
    split <;> simp [ih]

theorem mem_put_of_ne (other : α) (hother : other ∈ rows)
    (hne : key other ≠ k) : other ∈ put key k row rows := by
  induction rows with
  | nil => cases hother
  | cons first rows ih =>
    unfold put
    grind

/-- A view of the rows that the new row shares with the one it replaces does not change. -/
theorem map_put (f : α → β) (target : α)
    (hfind : find key k rows = some target) (hsame : f row = f target) :
    (put key k row rows).map f = rows.map f := by
  unfold find at hfind
  induction rows with
  | nil => simp at hfind
  | cons first rows ih =>
    unfold put
    split
    next hfirst =>
      rw [List.find?_cons_of_pos (by simpa using hfirst), Option.some.injEq] at hfind
      rw [List.map_cons, List.map_cons, hsame, hfind]
    next hfirst =>
      rw [List.find?_cons_of_neg (by simpa using hfirst)] at hfind
      rw [List.map_cons, List.map_cons, ih hfind]

theorem countP_put_le (p : α → Bool) :
    (put key k row rows).countP p ≤ rows.countP p + if p row then 1 else 0 := by
  induction rows with
  | nil => simp [put, List.countP_cons]
  | cons first rows ih =>
    unfold put
    split
    · simp only [List.countP_cons]
      omega
    · simp only [List.countP_cons]
      omega

/-- Where each key has one row, the row of a key is the one that is found. -/
theorem find_of_mem (h : (rows.map key).Nodup) (row : α) (hmem : row ∈ rows) :
    find key (key row) rows = some row := by
  unfold find
  induction rows with
  | nil => exact nomatch hmem
  | cons first rows ih =>
    obtain ⟨hfresh, hrest⟩ := List.nodup_cons.mp h
    rcases List.mem_cons.mp hmem with rfl | hmem
    · exact List.find?_cons_of_pos (by simp)
    · have hfirst : ¬ key first = key row := by
        intro hsame
        exact hfresh (hsame ▸ List.mem_map_of_mem hmem)
      rw [List.find?_cons_of_neg (by simpa using hfirst)]
      exact ih hrest hmem

end

/-! ## Views -/

/-- The view after a list of changes, each of one key. -/
def follow (view : κ → β) (changes : List (κ × β)) : κ → β :=
  changes.foldl (fun view change => Function.update view change.1 change.2) view

end Dasall.Lib.Rows
