import Dasall.Lib.Table

/-!
# Records with owners

Two maps that say the same: the records by their keys, each with its owner, and the keys of each
owner. An owner without keys has no list.
-/

namespace Dasall.Lib

structure OwnedIndex (κ σ β : Type) where
  records : Table κ (β × σ) := ∅
  keysByOwner : Table σ (List κ) := ∅

namespace OwnedIndex

variable {κ σ β : Type} [DecidableEq σ]

def keysOf (index : OwnedIndex κ σ β) (owner : σ) : List κ :=
  (index.keysByOwner.lookup owner).getD []

def append (key : κ) (owner : σ) (index : OwnedIndex κ σ β) : OwnedIndex κ σ β :=
  { index with keysByOwner := index.keysByOwner.insert owner (index.keysOf owner ++ [key]) }

variable {index next : OwnedIndex κ σ β} (key : κ) (owner : σ) (value : β) (other : σ)

theorem keysOf_of_lookup {owner : σ} {keys : List κ}
    (h : index.keysByOwner.lookup owner = some keys) : index.keysOf owner = keys := by
  simp [keysOf, h]

theorem keysOf_append (index : OwnedIndex κ σ β) :
    (index.append key owner).keysOf other =
      if other = owner then index.keysOf owner ++ [key] else index.keysOf other := by
  unfold append keysOf
  split
  · next h => rw [h, AList.lookup_insert, Option.getD_some]
  · next h => rw [AList.lookup_insert_ne h]

theorem inhabited_append
    (h : ∀ owner, index.keysByOwner.lookup owner ≠ some []) (key : κ) (owner other : σ) :
    (index.append key owner).keysByOwner.lookup other ≠ some [] := by
  unfold append
  by_cases heq : other = owner
  · rw [heq, AList.lookup_insert]
    simp
  · rw [AList.lookup_insert_ne heq]
    exact h other

variable [DecidableEq κ]

/-- A key is taken off the list of an owner, and an empty list with it. -/
def release (key : κ) (owner : σ) (index : OwnedIndex κ σ β) : OwnedIndex κ σ β :=
  match index.keysByOwner.lookup owner with
  | none => index
  | some keys =>
    if (keys.filter (· ≠ key)).isEmpty then
      { index with keysByOwner := index.keysByOwner.erase owner }
    else { index with keysByOwner := index.keysByOwner.insert owner (keys.filter (· ≠ key)) }

def setRecord (key : κ) (value : β) (owner : σ) (index : OwnedIndex κ σ β) : OwnedIndex κ σ β :=
  { index with records := index.records.insert key (value, owner) }

/-- The record of a key is set. A key that the owner has keeps its place in the list. -/
def assign (key : κ) (value : β) (owner : σ) (index : OwnedIndex κ σ β) : OwnedIndex κ σ β :=
  let released :=
    match index.records.lookup key with
    | some (_, old) => if old ≠ owner then index.release key old else index
    | none => index
  let recorded := released.setRecord key value owner
  if (recorded.keysOf owner).contains key then recorded else recorded.append key owner

/-- The record of a key is set, and the key goes to the end of its owner's list. -/
def reassign (key : κ) (value : β) (owner : σ) (index : OwnedIndex κ σ β) : OwnedIndex κ σ β :=
  let released :=
    match index.records.lookup key with
    | some (_, old) => index.release key old
    | none => index
  (released.setRecord key value owner).append key owner

/-- The records of an owner are removed. There is nothing to do for an owner without a list. -/
def revoke (owner : σ) (index : OwnedIndex κ σ β) : Option (OwnedIndex κ σ β) :=
  (index.keysByOwner.lookup owner).map fun keys =>
    { records := Table.keep (fun key _ => !keys.contains key) index.records
      keysByOwner := index.keysByOwner.erase owner }

structure Consistent (index : OwnedIndex κ σ β) : Prop where
  listed : ∀ key owner, key ∈ index.keysOf owner ↔
    ∃ value, index.records.lookup key = some (value, owner)
  nodup : ∀ owner, (index.keysOf owner).Nodup
  inhabited : ∀ owner, index.keysByOwner.lookup owner ≠ some []

/-! ## Lists of keys -/

@[simp] theorem keysOf_setRecord (owner other : σ)
    (index : OwnedIndex κ σ β) : (index.setRecord key value owner).keysOf other = index.keysOf other :=
  rfl

theorem keysOf_release (index : OwnedIndex κ σ β) :
    (index.release key owner).keysOf other =
      if other = owner then (index.keysOf owner).filter (· ≠ key) else index.keysOf other := by
  unfold release
  split
  · next h =>
    split
    · next heq => rw [heq, keysOf, h]; rfl
    · rfl
  · next keys h =>
    rw [keysOf_of_lookup h]
    split
    · next hempty =>
      unfold keysOf
      split
      · next heq => rw [heq, AList.lookup_erase, List.isEmpty_iff.mp hempty]; rfl
      · next hne => rw [AList.lookup_erase_ne hne]
    · unfold keysOf
      split
      · next heq => rw [heq, AList.lookup_insert]; rfl
      · next hne => rw [AList.lookup_insert_ne hne]

@[simp] theorem records_release (index : OwnedIndex κ σ β) :
    (index.release key owner).records = index.records := by
  unfold release
  split
  · rfl
  · split <;> rfl

theorem inhabited_release
    (h : ∀ owner, index.keysByOwner.lookup owner ≠ some []) (key : κ) (owner other : σ) :
    (index.release key owner).keysByOwner.lookup other ≠ some [] := by
  unfold release
  split
  · exact h other
  · split
    · by_cases heq : other = owner
      · rw [heq, AList.lookup_erase]
        simp
      · rw [AList.lookup_erase_ne heq]
        exact h other
    · next hfull =>
      by_cases heq : other = owner
      · rw [heq, AList.lookup_insert]
        intro hnil
        rw [Option.some.inj hnil] at hfull
        exact hfull rfl
      · rw [AList.lookup_insert_ne heq]
        exact h other

/-! ## One key without an owner -/

/-- The two maps agree on all keys but one, which no owner lists. -/
structure Free (index : OwnedIndex κ σ β) (key : κ) : Prop where
  unlisted : ∀ owner, key ∉ index.keysOf owner
  listed : ∀ other owner, other ≠ key →
    (other ∈ index.keysOf owner ↔ ∃ value, index.records.lookup other = some (value, owner))
  nodup : ∀ owner, (index.keysOf owner).Nodup
  inhabited : ∀ owner, index.keysByOwner.lookup owner ≠ some []

theorem Consistent.free (h : Consistent index) {key : κ}
    (hnone : index.records.lookup key = none) : Free index key where
  unlisted owner hmem := by
    obtain ⟨value, hvalue⟩ := (h.listed key owner).mp hmem
    rw [hnone] at hvalue
    cases hvalue
  listed other owner _ := h.listed other owner
  nodup := h.nodup
  inhabited := h.inhabited

/-- Released by its owner, a key is free. -/
theorem Consistent.release_free (h : Consistent index) {key : κ}
    {value : β} {old : σ} (hold : index.records.lookup key = some (value, old)) :
    Free (index.release key old) key where
  unlisted owner hmem := by
    rw [keysOf_release] at hmem
    split at hmem
    · simp at hmem
    · next hne =>
      obtain ⟨other, hother⟩ := (h.listed key owner).mp hmem
      rw [hold, Option.some.injEq, Prod.mk.injEq] at hother
      exact hne hother.2.symm
  listed other owner hne := by
    rw [records_release, ← h.listed, keysOf_release]
    split
    · next heq => simp [heq, hne]
    · rfl
  nodup owner := by
    rw [keysOf_release]
    split
    · exact (h.nodup old).filter _
    · exact h.nodup owner
  inhabited := inhabited_release h.inhabited key old

/-- A free key is given to an owner. -/
theorem Free.give {key : κ} (h : Free index key) (value : β) (owner : σ) :
    Consistent ((index.setRecord key value owner).append key owner) where
  listed other found := by
    have hrecords : ((index.setRecord key value owner).append key owner).records =
        index.records.insert key (value, owner) := rfl
    rw [hrecords, keysOf_append, keysOf_setRecord, keysOf_setRecord]
    by_cases hkey : other = key
    · subst hkey
      rw [AList.lookup_insert]
      split
      · next heq => simp [heq]
      · next hne => simp [h.unlisted found, Ne.symm hne]
    · rw [AList.lookup_insert_ne hkey, ← h.listed other found hkey]
      split
      · next heq => simp [heq, hkey]
      · rfl
  nodup found := by
    rw [keysOf_append, keysOf_setRecord, keysOf_setRecord]
    split
    · rw [List.nodup_append]
      refine ⟨h.nodup owner, List.nodup_singleton _, fun first hfirst second hsecond heq => ?_⟩
      rw [List.mem_singleton] at hsecond
      exact h.unlisted owner ((heq.trans hsecond) ▸ hfirst)
    · exact h.nodup found
  inhabited := @inhabited_append κ σ β _ (index.setRecord key value owner) h.inhabited key owner

/-- A key that stays with its owner is given another value. -/
theorem Consistent.setRecord (h : Consistent index) {key : κ} {owner : σ}
    {old : β} (hold : index.records.lookup key = some (old, owner)) (value : β) :
    Consistent (index.setRecord key value owner) where
  listed other found := by
    rw [keysOf_setRecord, h.listed]
    have hrecords : (index.setRecord key value owner).records =
        index.records.insert key (value, owner) := rfl
    rw [hrecords]
    by_cases hkey : other = key
    · subst hkey
      rw [AList.lookup_insert, hold]
      simp
    · rw [AList.lookup_insert_ne hkey]
  nodup := h.nodup
  inhabited := h.inhabited

/-! ## The operations -/

theorem Consistent.assign (h : Consistent index) (key : κ) (value : β)
    (owner : σ) : Consistent (index.assign key value owner) := by
  unfold OwnedIndex.assign
  split
  · next old hold =>
    split
    · have hfree := h.release_free hold
      rw [if_neg (by simpa using hfree.unlisted owner)]
      exact hfree.give value owner
    · next hsame =>
      rw [not_not] at hsame
      subst hsame
      have hmem : key ∈ index.keysOf old := (h.listed key old).mpr ⟨_, hold⟩
      rw [if_pos (by simpa using hmem)]
      exact h.setRecord hold value
  · next hnone =>
    have hfree := h.free hnone
    rw [if_neg (by simpa using hfree.unlisted owner)]
    exact hfree.give value owner

theorem Consistent.reassign (h : Consistent index) (key : κ) (value : β)
    (owner : σ) : Consistent (index.reassign key value owner) := by
  unfold OwnedIndex.reassign
  split
  · next old hold => exact (h.release_free hold).give value owner
  · next hnone => exact (h.free hnone).give value owner

theorem records_assign (owner : σ) (index : OwnedIndex κ σ β) :
    (index.assign key value owner).records = index.records.insert key (value, owner) := by
  have hset (start : OwnedIndex κ σ β) (hstart : start.records = index.records) :
      (if ((start.setRecord key value owner).keysOf owner).contains key then
          start.setRecord key value owner
        else (start.setRecord key value owner).append key owner).records =
        index.records.insert key (value, owner) := by
    rw [← hstart]
    split <;> rfl
  unfold assign
  split
  · split
    · exact hset _ (records_release ..)
    · exact hset _ rfl
  · exact hset _ rfl

theorem records_reassign (owner : σ) (index : OwnedIndex κ σ β) :
    (index.reassign key value owner).records = index.records.insert key (value, owner) := by
  have hset (start : OwnedIndex κ σ β) (hstart : start.records = index.records) :
      ((start.setRecord key value owner).append key owner).records =
        index.records.insert key (value, owner) := by
    rw [← hstart]
    rfl
  unfold reassign
  split
  · exact hset _ (records_release ..)
  · exact hset _ rfl

/-- What is left after a revocation: the records of the other owners. -/
theorem lookup_revoke (h : Consistent index) {owner : σ}
    (hrevoke : index.revoke owner = some next) (key : κ) :
    next.records.lookup key = (index.records.lookup key).filter fun record => record.2 ≠ owner := by
  obtain ⟨keys, hkeys, rfl⟩ := Option.map_eq_some_iff.mp hrevoke
  have hlisted := h.listed key owner
  rw [keysOf_of_lookup hkeys] at hlisted
  rw [Table.lookup_keep]
  rcases hrecord : index.records.lookup key with _ | ⟨value, found⟩
  · rfl
  · rw [hrecord] at hlisted
    by_cases howner : found = owner
    · subst howner
      have hmem : key ∈ keys := hlisted.mpr ⟨value, rfl⟩
      simp [Option.filter_some, hmem]
    · have hmem : key ∉ keys := by
        rw [hlisted]
        rintro ⟨other, hother⟩
        exact howner (Prod.mk.inj (Option.some.inj hother)).2
      simp [Option.filter_some, hmem, howner]

theorem Consistent.revoke (h : Consistent index) {owner : σ}
    (hrevoke : index.revoke owner = some next) : Consistent next := by
  have hlookup := lookup_revoke h hrevoke
  obtain ⟨keys, hkeys, rfl⟩ := Option.map_eq_some_iff.mp hrevoke
  have hkeysOf (found : σ) : OwnedIndex.keysOf
      { records := Table.keep (fun key _ => !keys.contains key) index.records,
        keysByOwner := index.keysByOwner.erase owner } found =
        if found = owner then [] else index.keysOf found := by
    unfold keysOf
    split
    · next heq => rw [heq, AList.lookup_erase]; rfl
    · next hne => rw [AList.lookup_erase_ne hne]
  constructor
  · intro key found
    rw [hlookup, hkeysOf]
    split
    · next heq =>
      subst heq
      simp [Option.filter_eq_some_iff]
    · next hne =>
      rw [h.listed]
      simp [Option.filter_eq_some_iff, hne]
  · intro found
    rw [hkeysOf]
    split
    · exact List.nodup_nil
    · exact h.nodup found
  · intro found
    dsimp only
    by_cases heq : found = owner
    · rw [heq, AList.lookup_erase]
      simp
    · rw [AList.lookup_erase_ne heq]
      exact h.inhabited found

/-- There is nothing to revoke for an owner without records. -/
theorem revoke_eq_none (h : Consistent index) {owner : σ} :
    index.revoke owner = none ↔ ∀ key value, index.records.lookup key ≠ some (value, owner) := by
  unfold OwnedIndex.revoke
  rw [Option.map_eq_none_iff]
  constructor
  · intro hnone key value hlookup
    have hmem := (h.listed key owner).mpr ⟨value, hlookup⟩
    simp [keysOf, hnone] at hmem
  · intro hnone
    rcases hkeys : index.keysByOwner.lookup owner with _ | keys
    · rfl
    · obtain ⟨key, rest, rfl⟩ := List.exists_cons_of_ne_nil fun hnil =>
        h.inhabited owner (hnil ▸ hkeys)
      have hmem : key ∈ index.keysOf owner := by
        rw [keysOf_of_lookup hkeys]
        exact List.mem_cons_self
      obtain ⟨value, hlookup⟩ := (h.listed key owner).mp hmem
      exact absurd hlookup (hnone key value)

/-- Whether or not there was anything to revoke, the records of the other owners are left. -/
theorem lookup_revoke_getD (h : Consistent index) (owner : σ) (key : κ) :
    ((index.revoke owner).getD index).records.lookup key =
      (index.records.lookup key).filter fun record => record.2 ≠ owner := by
  rcases hrevoke : index.revoke owner with _ | next
  · rw [Option.getD_none]
    rcases hlookup : index.records.lookup key with _ | ⟨value, found⟩
    · rfl
    · have hne : found ≠ owner := by
        rintro rfl
        exact (revoke_eq_none h).mp hrevoke key value hlookup
      simp [Option.filter_some, hne]
  · exact lookup_revoke h hrevoke key

theorem Consistent.revoke_getD (h : Consistent index) (owner : σ) :
    Consistent ((index.revoke owner).getD index) := by
  rcases hrevoke : index.revoke owner with _ | next
  · exact h
  · exact h.revoke hrevoke

theorem consistent_empty : Consistent ({} : OwnedIndex κ σ β) where
  listed key owner := by
    have hkeys : ({} : OwnedIndex κ σ β).keysOf owner = [] := rfl
    rw [hkeys]
    simp
  nodup owner := List.nodup_nil
  inhabited owner h := by cases h

end OwnedIndex

end Dasall.Lib
