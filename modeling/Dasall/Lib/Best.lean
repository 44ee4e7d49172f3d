import Mathlib

/-!
# The best of a list

A scan that keeps the first item and replaces it by every later one that is better.
-/

namespace Dasall.Lib.Best

variable {α : Type} (better : α → α → Bool)

def keepBetter (incumbent : Option α) (item : α) : Option α :=
  match incumbent with
  | none => some item
  | some current => if better item current then some item else some current

def best (items : List α) : Option α := items.foldl (keepBetter better) none

/-- A winner that beats every other item stays once it is reached. -/
theorem foldl_keepBetter_of_beats (winner : α) (items : List α)
    (hbeats : ∀ item ∈ items, item ≠ winner → better item winner = false) :
    items.foldl (keepBetter better) (some winner) = some winner := by
  induction items with
  | nil => rfl
  | cons item items ih =>
    obtain ⟨hitem, hitems⟩ := List.forall_mem_cons.mp hbeats
    have hkept : keepBetter better (some winner) item = some winner := by
      unfold keepBetter
      by_cases hsame : item = winner
      · simp [hsame]
      · simp [hitem hsame]
    rw [List.foldl_cons, hkept, ih hitems]

theorem foldl_keepBetter_mem (items : List α) (start : Option α) (current : α)
    (h : items.foldl (keepBetter better) start = some current) :
    start = some current ∨ current ∈ items := by
  induction items generalizing start with
  | nil => exact Or.inl h
  | cons item items ih =>
    rw [List.foldl_cons] at h
    rcases ih _ h with hstart | hlater
    · unfold keepBetter at hstart
      grind
    · exact Or.inr (List.mem_cons_of_mem _ hlater)

theorem best_mem {items : List α} {winner : α} (h : best better items = some winner) :
    winner ∈ items := by
  rcases foldl_keepBetter_mem better items none winner h with hnone | hmem
  · cases hnone
  · exact hmem

theorem best_of_beats (winner : α) (items : List α) (hmem : winner ∈ items)
    (hbeats : ∀ item ∈ items, item ≠ winner →
      better winner item = true ∧ better item winner = false) :
    best better items = some winner := by
  obtain ⟨before, after, rfl⟩ := List.append_of_mem hmem
  have hreached : ∀ incumbent, (∀ current, incumbent = some current → current ∈ before) →
      keepBetter better incumbent winner = some winner := by
    intro incumbent hincumbent
    unfold keepBetter
    split
    · rfl
    next current =>
      have hcurrent := hincumbent current rfl
      by_cases hsame : current = winner
      · simp [hsame]
      · simp [(hbeats current (by simp [hcurrent]) hsame).1]
  unfold best
  rw [List.foldl_append, List.foldl_cons, hreached _ ?_]
  · apply foldl_keepBetter_of_beats
    intro item hitem hother
    exact (hbeats item (by simp [hitem]) hother).2
  · intro current hcurrent
    exact best_mem better hcurrent

/-- Where what is no better than the best so far stays so, nothing is better than the best. -/
theorem best_least (hasymm : ∀ a b, better a b = true → better b a = false)
    (htrans : ∀ a b c, better b a = false → better c b = false → better c a = false)
    {items : List α} {winner : α} (h : best better items = some winner) :
    ∀ item ∈ items, better item winner = false := by
  have hloop : ∀ (items : List α) (current : α),
      items.foldl (keepBetter better) (some current) = some winner →
        better current winner = false ∧ ∀ item ∈ items, better item winner = false := by
    intro items
    induction items with
    | nil =>
      intro current hcurrent
      obtain rfl := Option.some.inj hcurrent
      refine ⟨?_, by simp⟩
      by_contra hself
      rw [Bool.not_eq_false] at hself
      rw [hasymm _ _ hself] at hself
      cases hself
    | cons item items ih =>
      intro current hcurrent
      rw [List.foldl_cons] at hcurrent
      unfold keepBetter at hcurrent
      simp only at hcurrent
      split at hcurrent
      · next hwins =>
        obtain ⟨hitem, hitems⟩ := ih item hcurrent
        exact ⟨htrans _ _ _ hitem (hasymm _ _ hwins), List.forall_mem_cons.mpr ⟨hitem, hitems⟩⟩
      · next hloses =>
        obtain ⟨hcurrent, hitems⟩ := ih current hcurrent
        rw [Bool.not_eq_true] at hloses
        exact ⟨hcurrent, List.forall_mem_cons.mpr ⟨htrans _ _ _ hcurrent hloses, hitems⟩⟩
  unfold best at h
  cases items with
  | nil => simp at h
  | cons item items => exact List.forall_mem_cons.mpr (hloop items item h)

theorem best_eq_none {items : List α} (h : best better items = none) : items = [] := by
  cases items with
  | nil => rfl
  | cons item items =>
    have hkept : ∀ (items : List α) (current : α),
        (items.foldl (keepBetter better) (some current)).isSome = true := by
      intro items
      induction items with
      | nil => exact fun _ => rfl
      | cons item items ih =>
        intro current
        rw [List.foldl_cons]
        unfold keepBetter
        simp only
        split
        · exact ih item
        · exact ih current
    have hsome := hkept items item
    unfold best at h
    rw [List.foldl_cons] at h
    change items.foldl (keepBetter better) (some item) = none at h
    rw [h] at hsome
    cases hsome

/-- Where a better item never ranks lower, and one that is not better never higher, the best item
ranks highest. -/
theorem foldl_keepBetter_rank {β : Type} [LinearOrder β] (rank : α → β)
    (hbetter : ∀ first second, better first second = true → rank second ≤ rank first)
    (hother : ∀ first second, better first second = false → rank first ≤ rank second)
    (items : List α) (current winner : α)
    (h : items.foldl (keepBetter better) (some current) = some winner) :
    rank current ≤ rank winner ∧ ∀ item ∈ items, rank item ≤ rank winner := by
  induction items generalizing current with
  | nil =>
    simp only [List.foldl_nil, Option.some.injEq] at h
    simp [h]
  | cons item items ih =>
    rw [List.foldl_cons] at h
    unfold keepBetter at h
    simp only at h
    split at h
    next hwins =>
      obtain ⟨hitem, hitems⟩ := ih item h
      exact ⟨le_trans (hbetter item current hwins) hitem, List.forall_mem_cons.mpr ⟨hitem, hitems⟩⟩
    next hloses =>
      obtain ⟨hcurrent, hitems⟩ := ih current h
      have hless := hother item current (by simpa using hloses)
      exact ⟨hcurrent, List.forall_mem_cons.mpr ⟨le_trans hless hcurrent, hitems⟩⟩

theorem best_rank {β : Type} [LinearOrder β] (rank : α → β)
    (hbetter : ∀ first second, better first second = true → rank second ≤ rank first)
    (hother : ∀ first second, better first second = false → rank first ≤ rank second)
    (items : List α) (winner : α) (h : best better items = some winner) :
    ∀ item ∈ items, rank item ≤ rank winner := by
  unfold best at h
  cases items with
  | nil => simp at h
  | cons item items =>
    obtain ⟨hitem, hitems⟩ := foldl_keepBetter_rank better rank hbetter hother items item winner h
    exact List.forall_mem_cons.mpr ⟨hitem, hitems⟩

end Dasall.Lib.Best

/-!
## The best items of a list

A selection of the `k` best items leaves none out that ranks before a selected one. Of a list in
rank order its first items are one, and so they are of the items that pass a filter, as long as
enough of these are looked at.
-/

namespace Dasall.Lib.TopK

variable {α R : Type}

structure IsTopK [LE R] (rank : α → R) (k : Nat) (items selected : List α) : Prop where
  size : selected.length = min k items.length
  best : ∃ leftOut, items.Perm (selected ++ leftOut) ∧
    ∀ a ∈ selected, ∀ b ∈ leftOut, rank a ≤ rank b

theorem isTopK_take [LE R] (rank : α → R) (k : Nat) (items : List α)
    (h : items.Pairwise fun a b => rank a ≤ rank b) : IsTopK rank k items (items.take k) := by
  refine ⟨List.length_take, items.drop k, ?_, ?_⟩
  · rw [List.take_append_drop]
  · rw [← List.take_append_drop k items, List.pairwise_append] at h
    exact h.2.2

/-! ## Filtering the first items only -/

variable (passes : α → Bool)

theorem filter_take_prefix (n : Nat) (items : List α) :
    (items.take n).filter passes <+: items.filter passes :=
  (List.take_prefix n items).filter passes

/-- The first items that pass are the same ones when enough pass among those that are looked at. -/
theorem take_filter_take (n k : Nat) (items : List α)
    (h : min k (items.filter passes).length ≤ ((items.take n).filter passes).length) :
    ((items.take n).filter passes).take k = (items.filter passes).take k := by
  obtain ⟨rest, hrest⟩ := filter_take_prefix passes n items
  rw [← hrest] at h ⊢
  rw [List.length_append] at h
  rcases Nat.le_total k ((items.take n).filter passes).length with hk | hk
  · rw [List.take_append_of_le_length hk]
  · have hnil : rest.take (k - ((items.take n).filter passes).length) = [] := by
      rw [List.take_eq_nil_iff]
      have : k = ((items.take n).filter passes).length ∨ rest.length = 0 := by omega
      rcases this with hsame | hnone
      · exact Or.inl (by omega)
      · exact Or.inr (List.length_eq_zero_iff.mp hnone)
    rw [List.take_append, hnil, List.append_nil]

end Dasall.Lib.TopK
