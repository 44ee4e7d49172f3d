import Mathlib.Data.List.Sort

/-!
# Sorting by a comparison

A comparison may leave elements tied. The first element of a sorted list has nothing before it,
and an element that leads its ties in the list leads the sorted list.
-/

namespace Dasall.Lib.Sort

variable {α β : Type}

/-- A comparison that tells any two keys apart. -/
structure Linear (lt : β → β → Bool) : Prop where
  asymm : ∀ x y, lt x y = true → lt y x = false
  trans : ∀ x y z, lt x y = true → lt y z = true → lt x z = true
  total : ∀ x y, x ≠ y → lt x y = true ∨ lt y x = true

/-- A comparison that may leave elements tied. -/
structure StrictWeak (less : α → α → Bool) : Prop where
  asymm : ∀ a b, less a b = true → less b a = false
  trans : ∀ a b c, less b a = false → less c b = false → less c a = false

/-- The order of `less`, as `std::sort` uses it. -/
abbrev sortBy (less : α → α → Bool) (l : List α) : List α :=
  l.insertionSort fun a b => less b a = false

/-- Compare by `key`, and by `less` where the keys are the same. -/
def thenBy [DecidableEq β] (key : α → β) (lt : β → β → Bool) (less : α → α → Bool) (a b : α) :
    Bool :=
  if key a ≠ key b then lt (key a) (key b) else less a b

variable {lt : β → β → Bool} {less : α → α → Bool} {a : α} {l : List α}

theorem Linear.irrefl (h : Linear lt) (x : β) : lt x x = false := by
  by_contra hx
  rw [Bool.not_eq_false] at hx
  rw [h.asymm x x hx] at hx
  simp at hx

theorem Linear.eq_of_tied (h : Linear lt) {x y : β} (hxy : lt x y = false)
    (hyx : lt y x = false) : x = y := by
  by_contra hne
  rcases h.total x y hne with hlt | hlt
  · simp [hlt] at hxy
  · simp [hlt] at hyx

theorem Linear.ofLT [LT β] [DecidableLT β] [Std.Asymm (α := β) (· < ·)] [IsTrans β (· < ·)]
    [Std.Trichotomous (α := β) (· < ·)] : Linear fun x y : β => decide (x < y) where
  asymm x y hxy := by
    rw [decide_eq_true_eq] at hxy
    rw [decide_eq_false_iff_not]
    exact Std.Asymm.asymm x y hxy
  trans x y z hxy hyz := by
    rw [decide_eq_true_eq] at hxy hyz ⊢
    exact IsTrans.trans x y z hxy hyz
  total x y hne := by
    rw [decide_eq_true_eq, decide_eq_true_eq]
    by_contra hneither
    rw [not_or] at hneither
    exact hne (Std.Trichotomous.trichotomous x y hneither.1 hneither.2)

theorem Linear.swap (h : Linear lt) : Linear fun x y => lt y x where
  asymm x y := h.asymm y x
  trans x y z hyx hzy := h.trans z y x hzy hyx
  total x y hne := (h.total x y hne).symm

theorem Linear.strictWeak (h : Linear lt) (key : α → β) :
    StrictWeak fun a b => lt (key a) (key b) where
  asymm a b := h.asymm (key a) (key b)
  trans a b c hab hbc := by
    by_contra hac
    rw [Bool.not_eq_false] at hac
    rcases Classical.em (key a = key b) with hkey | hkey
    · rw [hkey, hbc] at hac
      simp at hac
    rcases h.total _ _ hkey with hlt | hlt
    · rw [h.trans _ _ _ hac hlt] at hbc
      simp at hbc
    · rw [hlt] at hab
      simp at hab

theorem thenBy_key [DecidableEq β] {key : α → β} {lt : β → β → Bool} {less : α → α → Bool}
    {a b : α} (hlt : Linear lt) (h : thenBy key lt less a b = false) :
    lt (key a) (key b) = false := by
  unfold thenBy at h
  split at h
  · exact h
  · next hsame =>
    rw [not_not] at hsame
    rw [hsame]
    exact hlt.irrefl _

theorem thenBy_rest [DecidableEq β] {key : α → β} {lt : β → β → Bool} {less : α → α → Bool}
    {a b : α} (h : thenBy key lt less a b = false) (hkey : key a = key b) :
    less a b = false := by
  unfold thenBy at h
  rw [if_neg (by simp [hkey])] at h
  exact h

theorem StrictWeak.thenBy [DecidableEq β] {lt : β → β → Bool} {less : α → α → Bool}
    (hless : StrictWeak less) (hlt : Linear lt) (key : α → β) :
    StrictWeak (thenBy key lt less) where
  asymm a b hab := by
    unfold Sort.thenBy at hab ⊢
    split at hab
    · next hne =>
      rw [if_pos (Ne.symm hne)]
      exact hlt.asymm _ _ hab
    · next heq =>
      rw [if_neg fun hne => heq (Ne.symm hne)]
      exact hless.asymm _ _ hab
  trans a b c hba hcb := by
    have hkeys := (hlt.strictWeak key).trans a b c
    unfold Sort.thenBy at hba hcb ⊢
    split at hba <;> split at hcb
    · next hab hbc =>
      have hca := hkeys hba hcb
      rw [if_pos]
      · exact hca
      · intro heq
        rw [heq] at hcb
        rcases hlt.total _ _ hab with hlt | hlt
        · rw [hlt] at hba
          simp at hba
        · rw [hlt] at hcb
          simp at hcb
    · next hab hbc =>
      rw [not_not] at hbc
      rw [hbc, if_pos hab]
      exact hba
    · next hab hbc =>
      rw [not_not] at hab
      rw [← hab, if_pos hbc]
      exact hcb
    · next hab hbc =>
      rw [not_not] at hab hbc
      rw [if_neg (by rw [hbc, hab]; simp)]
      exact hless.trans a b c hba hcb

/-! ## The first of a sorted list -/

theorem StrictWeak.irrefl (h : StrictWeak less) (a : α) :
    less a a = false := by
  by_contra ha
  rw [Bool.not_eq_false] at ha
  rw [h.asymm a a ha] at ha
  simp at ha

theorem mem_sortBy (less : α → α → Bool) {l : List α} {a : α} : a ∈ sortBy less l ↔ a ∈ l :=
  List.mem_insertionSort _

theorem StrictWeak.pairwise (h : StrictWeak less) (l : List α) :
    (sortBy less l).Pairwise fun a b => less b a = false := by
  have : Std.Total fun a b => less b a = false := ⟨fun a b => by
    rcases hba : less b a with _ | _
    · exact Or.inl rfl
    · exact Or.inr (h.asymm b a hba)⟩
  have : IsTrans α fun a b => less b a = false := ⟨h.trans⟩
  exact List.pairwise_insertionSort _ l

theorem StrictWeak.head_least (h : StrictWeak less) {l rest : List α}
    {head : α} (hsort : sortBy less l = head :: rest) : ∀ a ∈ l, less a head = false := by
  intro a ha
  have hpairwise := h.pairwise l
  rw [hsort, List.pairwise_cons] at hpairwise
  rw [← mem_sortBy less, hsort] at ha
  rcases List.mem_cons.mp ha with hhead | hrest
  · rw [hhead]
    exact h.irrefl head
  · exact hpairwise.1 a hrest

theorem head_mem {rest : List α} {head : α}
    (hsort : sortBy less l = head :: rest) : head ∈ l := by
  rw [← mem_sortBy less, hsort]
  exact List.mem_cons_self

/-- An element that nothing in the list is before keeps its place at the front. -/
theorem sortBy_first
    (hfirst : ∀ b ∈ l, less b a = false) : sortBy less (a :: l) = a :: sortBy less l :=
  List.insertionSort_cons_of_forall_rel _ hfirst

/-- An element that is before all others passes the one in front of it. -/
theorem sortBy_second {c : α} {l : List α} (hpass : less a c = true)
    (hfirst : ∀ b ∈ l, less b a = false) :
    ∃ rest, sortBy less (c :: a :: l) = a :: rest := by
  unfold sortBy
  rw [List.insertionSort_cons]
  have hrest := sortBy_first hfirst
  unfold sortBy at hrest
  rw [hrest, List.orderedInsert_cons, if_neg (by simp [hpass])]
  exact ⟨_, rfl⟩

/-- What the ties agree on does not depend on the order of the list. -/
theorem StrictWeak.head_perm (h : StrictWeak less) {l l' rest rest' : List α}
    {head head' : α} (hperm : l.Perm l') (hsort : sortBy less l = head :: rest)
    (hsort' : sortBy less l' = head' :: rest') :
    less head head' = false ∧ less head' head = false :=
  ⟨h.head_least hsort' head (hperm.mem_iff.mp (head_mem hsort)),
    h.head_least hsort head' (hperm.mem_iff.mpr (head_mem hsort'))⟩

/-- Two lists that hold the same elements are sorted into the same list, and no others are. -/
theorem Linear.sortBy_eq_iff {lt : α → α → Bool} (h : Linear lt) (l l' : List α) :
    sortBy lt l = sortBy lt l' ↔ l.Perm l' := by
  have hweak : StrictWeak lt := h.strictWeak id
  constructor
  · intro heq
    have hsorted : l.Perm (sortBy lt l) := (List.perm_insertionSort _ l).symm
    rw [heq] at hsorted
    exact hsorted.trans (List.perm_insertionSort _ l')
  · intro hperm
    apply List.Perm.eq_of_pairwise _ (hweak.pairwise l) (hweak.pairwise l')
    · exact ((List.perm_insertionSort _ l).trans hperm).trans (List.perm_insertionSort _ l').symm
    · intro a b _ _ hba hab
      exact h.eq_of_tied hab hba

end Dasall.Lib.Sort
