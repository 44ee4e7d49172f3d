import Mathlib.Data.List.Nodup

/-! # Lists that grow at their end by what is new -/

namespace Dasall.Lib.Unique

variable {α : Type} [DecidableEq α]

def addNew (items : List α) (item : α) : List α := if item ∈ items then items else items ++ [item]

def addAll (items news : List α) : List α := news.foldl addNew items

variable (items : List α) (item : α) (news : List α) (other : α)

theorem mem_addNew :
    other ∈ addNew items item ↔ other ∈ items ∨ other = item := by
  unfold addNew
  split
  next hmem =>
    constructor
    · exact .inl
    · rintro (h | rfl)
      · exact h
      · exact hmem
  next => simp

theorem nodup_addNew (h : items.Nodup) : (addNew items item).Nodup := by
  unfold addNew
  split
  · exact h
  next hnew =>
    rw [List.nodup_append]
    refine ⟨h, by simp, ?_⟩
    intro other hother last hlast
    rw [List.mem_singleton] at hlast
    rintro rfl
    exact hnew (hlast ▸ hother)

theorem mem_addAll :
    other ∈ addAll items news ↔ other ∈ items ∨ other ∈ news := by
  unfold addAll
  induction news generalizing items with
  | nil => simp
  | cons item news ih => rw [List.foldl_cons, ih, mem_addNew, List.mem_cons, or_assoc]

theorem nodup_addAll (h : items.Nodup) : (addAll items news).Nodup := by
  unfold addAll
  induction news generalizing items with
  | nil => exact h
  | cons item news ih => exact ih _ (nodup_addNew items item h)

variable {β : Type} [DecidableEq β]

theorem addAll_map (f : α → β) (hf : Function.Injective f) (items news : List α) :
    addAll (items.map f) (news.map f) = (addAll items news).map f := by
  unfold addAll
  induction news generalizing items with
  | nil => rfl
  | cons item news ih =>
    have hstep : addNew (items.map f) (f item) = (addNew items item).map f := by
      by_cases h : item ∈ items <;> simp [addNew, h, List.mem_map_of_injective hf]
    rw [List.map_cons, List.foldl_cons, List.foldl_cons, hstep, ih]

end Dasall.Lib.Unique
