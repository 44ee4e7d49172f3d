import Mathlib.Data.List.Basic

/-!
# Ordered maps

A map whose entries stand in the strict order of their keys, so that equal maps are equal lists.
`emplace` keeps an entry that is there.
-/

namespace Dasall.Lib

structure OrderedMap (κ β : Type) [LT κ] where
  entries : List (κ × β)
  sorted : entries.Pairwise fun first second => first.1 < second.1

namespace OrderedMap

variable {κ β : Type} [LT κ]

@[ext] theorem ext {first second : OrderedMap κ β} (h : first.entries = second.entries) :
    first = second := by
  cases first
  cases second
  congr

instance [DecidableEq κ] [DecidableEq β] : DecidableEq (OrderedMap κ β) := fun first second =>
  decidable_of_iff (first.entries = second.entries) OrderedMap.ext_iff.symm

def empty : OrderedMap κ β := ⟨[], List.Pairwise.nil⟩

theorem nodup_keys [Std.Asymm (α := κ) (· < ·)] (map : OrderedMap κ β) :
    (map.entries.map Prod.fst).Nodup := by
  rw [List.Nodup, List.pairwise_map]
  refine map.sorted.imp fun {first second} hless hsame => ?_
  rw [hsame] at hless
  exact Std.Asymm.asymm _ _ hless hless

theorem sorted_before [Trans (α := κ) (· < ·) (· < ·) (· < ·)] {key : κ} {value : β} {first : κ × β}
    {rest : List (κ × β)} (h : (first :: rest).Pairwise fun first second => first.1 < second.1)
    (hbefore : key < first.1) :
    ((key, value) :: first :: rest).Pairwise fun first second => first.1 < second.1 := by
  refine List.pairwise_cons.mpr ⟨fun entry hentry => ?_, h⟩
  rcases List.mem_cons.mp hentry with rfl | hlater
  · exact hbefore
  · exact Trans.trans hbefore ((List.pairwise_cons.mp h).1 entry hlater)

section
variable [DecidableLT κ]

def insertEntry (key : κ) (value : β) : List (κ × β) → List (κ × β)
  | [] => [(key, value)]
  | entry :: rest =>
    if key < entry.1 then (key, value) :: entry :: rest
    else if entry.1 < key then entry :: insertEntry key value rest
    else entry :: rest

variable (key : κ) (value : β) (entries : List (κ × β))

theorem mem_insertEntry (entry : κ × β)
    (h : entry ∈ insertEntry key value entries) : entry = (key, value) ∨ entry ∈ entries := by
  induction entries with
  | nil => simpa [insertEntry] using h
  | cons first rest ih =>
    unfold insertEntry at h
    split at h
    · simpa using h
    split at h
    · rcases List.mem_cons.mp h with hfirst | hrest
      · exact Or.inr (hfirst ▸ List.mem_cons_self)
      · rcases ih hrest with hnew | hold
        · exact Or.inl hnew
        · exact Or.inr (List.mem_cons_of_mem _ hold)
    · exact Or.inr h

/-- A new key is added to the entries. -/
theorem insertEntry_perm [Std.Trichotomous (α := κ) (· < ·)] (key : κ) (value : β)
    (entries : List (κ × β)) (hnew : key ∉ entries.map Prod.fst) :
    (insertEntry key value entries).Perm ((key, value) :: entries) := by
  induction entries with
  | nil => exact List.Perm.refl _
  | cons first rest ih =>
    rw [List.map_cons, List.mem_cons, not_or] at hnew
    unfold insertEntry
    split
    · exact List.Perm.refl _
    next hbefore =>
    split
    · exact ((ih hnew.2).cons first).trans (List.Perm.swap ..)
    next hafter =>
    exact absurd (Std.Trichotomous.trichotomous key first.1 hbefore hafter) hnew.1

variable [Trans (α := κ) (· < ·) (· < ·) (· < ·)]

theorem sorted_insertEntry (h : entries.Pairwise fun first second => first.1 < second.1) :
    (insertEntry key value entries).Pairwise fun first second => first.1 < second.1 := by
  induction entries with
  | nil => exact List.pairwise_singleton _ _
  | cons first rest ih =>
    obtain ⟨hfirst, hrest⟩ := List.pairwise_cons.mp h
    unfold insertEntry
    split
    · next hbefore =>
      exact sorted_before h hbefore
    split
    · next hafter =>
      refine List.pairwise_cons.mpr ⟨fun entry hentry => ?_, ih hrest⟩
      rcases mem_insertEntry key value rest entry hentry with rfl | hold
      · exact hafter
      · exact hfirst entry hold
    · exact h

def emplace (map : OrderedMap κ β) (entry : κ × β) : OrderedMap κ β where
  entries := insertEntry entry.1 entry.2 map.entries
  sorted := sorted_insertEntry entry.1 entry.2 map.entries map.sorted

theorem foldl_emplace_perm [Std.Trichotomous (α := κ) (· < ·)] (map : OrderedMap κ β)
    (entries : List (κ × β)) (hnodup : ((map.entries ++ entries).map Prod.fst).Nodup) :
    (entries.foldl emplace map).entries.Perm (map.entries ++ entries) := by
  induction entries generalizing map with
  | nil => simp
  | cons entry rest ih =>
    have hmoved : ((map.entries ++ entry :: rest).map Prod.fst).Perm
        (entry.1 :: (map.entries ++ rest).map Prod.fst) := by
      exact List.perm_middle.map Prod.fst
    have hnew := (List.nodup_cons.mp (hmoved.nodup_iff.mp hnodup)).1
    have hkey : entry.1 ∉ map.entries.map Prod.fst := by
      rw [List.map_append, List.mem_append, not_or] at hnew
      exact hnew.1
    have hperm : (emplace map entry).entries.Perm (entry :: map.entries) :=
      insertEntry_perm entry.1 entry.2 map.entries hkey
    have hwhole : ((emplace map entry).entries ++ rest).Perm (map.entries ++ entry :: rest) :=
      (hperm.append_right rest).trans List.perm_middle.symm
    have hnodup' := (hwhole.map Prod.fst).nodup_iff.mpr hnodup
    exact (ih _ hnodup').trans hwhole

/-- The entries of a map, emplaced in any order, make the map. -/
theorem foldl_emplace_entries [Std.Trichotomous (α := κ) (· < ·)] [Std.Asymm (α := κ) (· < ·)]
    (map : OrderedMap κ β) (entries : List (κ × β)) (h : entries.Perm map.entries) :
    entries.foldl emplace empty = map := by
  apply ext
  have hnodup : (entries.map Prod.fst).Nodup := (h.map Prod.fst).nodup_iff.mpr map.nodup_keys
  have hperm := (foldl_emplace_perm empty entries hnodup).trans h
  refine List.Perm.eq_of_pairwise (fun first second _ _ hless hmore => ?_)
    (entries.foldl emplace empty).sorted map.sorted hperm
  exact absurd hmore (Std.Asymm.asymm _ _ hless)

/-! ## Assignment -/

/-- `map[key] = value`: a key that is there keeps its place. -/
def assignEntry (key : κ) (value : β) : List (κ × β) → List (κ × β)
  | [] => [(key, value)]
  | entry :: rest =>
    if key < entry.1 then (key, value) :: entry :: rest
    else if entry.1 < key then entry :: assignEntry key value rest
    else (entry.1, value) :: rest

omit [Trans (α := κ) (· < ·) (· < ·) (· < ·)] in
theorem mem_keys_assignEntry (other : κ)
    (h : other ∈ (assignEntry key value entries).map Prod.fst) :
    other = key ∨ other ∈ entries.map Prod.fst := by
  induction entries with
  | nil => simpa [assignEntry] using h
  | cons first rest ih =>
    unfold assignEntry at h
    split at h
    · simpa using h
    split at h
    · rw [List.map_cons, List.mem_cons] at h ⊢
      rcases h with hfirst | hrest
      · exact .inr (.inl hfirst)
      · rcases ih hrest with hnew | hold
        · exact .inl hnew
        · exact .inr (.inr hold)
    · exact .inr h

theorem sorted_assignEntry (h : entries.Pairwise fun first second => first.1 < second.1) :
    (assignEntry key value entries).Pairwise fun first second => first.1 < second.1 := by
  induction entries with
  | nil => exact List.pairwise_singleton _ _
  | cons first rest ih =>
    obtain ⟨hfirst, hrest⟩ := List.pairwise_cons.mp h
    unfold assignEntry
    split
    · next hbefore =>
      exact sorted_before h hbefore
    split
    · next hafter =>
      refine List.pairwise_cons.mpr ⟨fun entry hentry => ?_, ih hrest⟩
      have hkey := List.mem_map_of_mem (f := Prod.fst) hentry
      rcases mem_keys_assignEntry key value rest entry.1 hkey with hnew | hold
      · rw [hnew]
        exact hafter
      · obtain ⟨other, hother, hsame⟩ := List.mem_map.mp hold
        rw [← hsame]
        exact hfirst other hother
    · exact List.pairwise_cons.mpr ⟨hfirst, hrest⟩

def assign (map : OrderedMap κ β) (key : κ) (value : β) : OrderedMap κ β where
  entries := assignEntry key value map.entries
  sorted := sorted_assignEntry key value map.entries map.sorted

omit [Trans (α := κ) (· < ·) (· < ·) (· < ·)] in

end

end OrderedMap

end Dasall.Lib
