import Mathlib.Data.List.AList

/-!
# Finite maps

The maps of a program, with operations that association lists lack: to keep the entries that pass a
test, to change every value, and to change one in its place.
-/

namespace Dasall.Lib

abbrev Table (κ β : Type) := AList fun _ : κ => β

namespace Table

variable {κ β : Type}

def keep (passes : κ → β → Bool) (table : Table κ β) : Table κ β where
  entries := table.entries.filter fun entry => passes entry.1 entry.2
  nodupKeys := table.nodupKeys.sublist List.filter_sublist

def mapValues (change : β → β) (table : Table κ β) : Table κ β where
  entries := table.entries.map fun entry => ⟨entry.1, change entry.2⟩
  nodupKeys := by
    have hkeys : (table.entries.map fun entry => (⟨entry.1, change entry.2⟩ : Sigma fun _ : κ => β)).keys =
        table.entries.keys := by
      simp [List.keys, Function.comp_def]
    unfold List.NodupKeys
    rw [hkeys]
    exact table.nodupKeys

theorem lookup_eq_some_iff [DecidableEq κ] (table : Table κ β) (key : κ) (value : β) :
    table.lookup key = some value ↔ ⟨key, value⟩ ∈ table.entries :=
  List.mem_dlookup_iff table.nodupKeys

theorem lookup_keep [DecidableEq κ] (passes : κ → β → Bool) (table : Table κ β) (key : κ) :
    (keep passes table).lookup key = (table.lookup key).filter (passes key) := by
  apply Option.ext
  intro value
  rw [lookup_eq_some_iff, Option.filter_eq_some_iff, lookup_eq_some_iff]
  simp [keep]

/-- An entry that passes stays. -/
theorem lookup_keep_of_passes [DecidableEq κ] (passes : κ → β → Bool) (table : Table κ β)
    (key : κ) (value : β) (h : table.lookup key = some value) (hpasses : passes key value = true) :
    (keep passes table).lookup key = some value := by
  rw [lookup_keep, h]
  exact Option.filter_some_pos hpasses

/-- What is left was there. -/
theorem lookup_of_lookup_keep [DecidableEq κ] (passes : κ → β → Bool) (table : Table κ β)
    (key : κ) (value : β) (h : (keep passes table).lookup key = some value) :
    table.lookup key = some value := by
  rw [lookup_keep, Option.filter_eq_some_iff] at h
  exact h.1

theorem lookup_mapValues [DecidableEq κ] (change : β → β) (table : Table κ β) (key : κ) :
    (mapValues change table).lookup key = (table.lookup key).map change := by
  apply Option.ext
  intro value
  rw [lookup_eq_some_iff, Option.map_eq_some_iff]
  simp only [lookup_eq_some_iff, mapValues, List.mem_map]
  constructor
  · rintro ⟨⟨other, old⟩, hmem, heq⟩
    obtain ⟨rfl, hvalue⟩ := Sigma.mk.inj heq
    exact ⟨old, hmem, eq_of_heq hvalue⟩
  · rintro ⟨old, hmem, rfl⟩
    exact ⟨⟨key, old⟩, hmem, rfl⟩

/-- A test that no change turns on counts no more. -/
theorem countP_mapValues_le (test : β → Bool) (change : β → β) (table : Table κ β)
    (hoff : ∀ value, test (change value) = true → test value = true) :
    (mapValues change table).entries.countP (fun entry => test entry.2) ≤
      table.entries.countP fun entry => test entry.2 := by
  unfold mapValues
  rw [List.countP_map]
  exact List.countP_mono_left fun entry _ => hoff entry.2

/-! ## One value -/

section
variable [DecidableEq κ]

/-- The entry of a key is changed where it stands. -/
def modify (key : κ) (change : β → β) (table : Table κ β) : Table κ β where
  entries := table.entries.map fun entry =>
    ⟨entry.1, if entry.1 = key then change entry.2 else entry.2⟩
  nodupKeys := by
    have hkeys : (table.entries.map fun entry =>
        (⟨entry.1, if entry.1 = key then change entry.2 else entry.2⟩ : Sigma fun _ : κ => β)).keys =
          table.entries.keys := by
      simp [List.keys, Function.comp_def]
    unfold List.NodupKeys
    rw [hkeys]
    exact table.nodupKeys

theorem lookup_modify (key : κ) (change : β → β) (table : Table κ β) (other : κ) :
    (modify key change table).lookup other =
      if other = key then (table.lookup other).map change else table.lookup other := by
  apply Option.ext
  intro value
  rw [lookup_eq_some_iff]
  simp only [modify, List.mem_map]
  split
  · next hkey =>
    rw [Option.map_eq_some_iff]
    simp only [lookup_eq_some_iff]
    constructor
    · rintro ⟨⟨found, old⟩, hmem, heq⟩
      obtain ⟨rfl, hvalue⟩ := Sigma.mk.inj heq
      rw [if_pos hkey] at hvalue
      exact ⟨old, hmem, eq_of_heq hvalue⟩
    · rintro ⟨old, hmem, rfl⟩
      exact ⟨⟨other, old⟩, hmem, by rw [if_pos hkey]⟩
  · next hkey =>
    rw [lookup_eq_some_iff]
    constructor
    · rintro ⟨⟨found, old⟩, hmem, heq⟩
      obtain ⟨rfl, hvalue⟩ := Sigma.mk.inj heq
      rw [if_neg hkey] at hvalue
      rw [← eq_of_heq hvalue]
      exact hmem
    · intro hmem
      exact ⟨⟨other, value⟩, hmem, by rw [if_neg hkey]⟩

theorem countP_modify_le (test : β → Bool) (key : κ) (change : β → β) (table : Table κ β)
    (hoff : ∀ value, test (change value) = true → test value = true) :
    (modify key change table).entries.countP (fun entry => test entry.2) ≤
      table.entries.countP fun entry => test entry.2 := by
  unfold modify
  rw [List.countP_map]
  refine List.countP_mono_left fun entry _ => ?_
  simp only [Function.comp_apply]
  split
  · exact hoff entry.2
  · exact id

theorem mem_modify {key : κ} {change : β → β} {table : Table κ β} {entry : Sigma fun _ : κ => β}
    (h : entry ∈ (modify key change table).entries) :
    entry ∈ table.entries ∨ ∃ old, ⟨key, old⟩ ∈ table.entries ∧ entry.2 = change old := by
  obtain ⟨⟨found, old⟩, hmem, rfl⟩ := List.mem_map.mp h
  dsimp only
  split
  · next hkey => exact .inr ⟨old, hkey ▸ hmem, rfl⟩
  · exact .inl hmem

end

end Table

end Dasall.Lib
