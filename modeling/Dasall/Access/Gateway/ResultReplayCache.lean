import Dasall.Access.Types
import Dasall.Lib.Run

/-!
# The cache of results for replay

A list of keys, most recently used first, and a map whose entries hold iterators into the list. It is
a list of bounded length whose slots expire.
-/

open Dasall.Lib Dasall.Lib.Text Dasall.Lib.Run

namespace Dasall.Access

/-- A node of `lru_keys_`. Iterators are told apart by number. -/
structure LruNode where
  id : Nat
  key : Bytes
deriving DecidableEq

structure CacheEntry (ε : Type) where
  envelope : ε
  expiresAt : TimePoint
  lruIt : Nat

/-- The published envelope is a parameter: the cache stores it and hands it out. -/
structure ResultReplayCache (ε : Type) where
  capacity : Nat
  /-- Milliseconds. -/
  ttl : Int
  lruKeys : List LruNode := []
  entries : Table Bytes (CacheEntry ε) := ∅
  nextNode : Nat := 0

variable {ε : Type}

/-- `now + ttl`, in a signed 64-bit count of nanoseconds. A sum that is out of range is undefined in
the source; it wraps around here. -/
def expiresAfter (now : TimePoint) (ttl : Int) : TimePoint := (now + milliseconds ttl).bmod (2 ^ 64)

/-- The capacity that the constructor keeps. -/
def keptCapacity (capacity : Nat) : Nat := if capacity = 0 then 1 else capacity

def keptTtl (ttl : Int) : Int := if ttl ≤ 0 then 600000 else ttl

namespace ResultReplayCache

def make (capacity : Nat) (ttl : Int) : ResultReplayCache ε :=
  { capacity := keptCapacity capacity, ttl := keptTtl ttl }

/-- The node and the entry of a key go. -/
def dropEntry (cache : ResultReplayCache ε) (key : Bytes) (entry : CacheEntry ε) :
    ResultReplayCache ε :=
  { cache with
    lruKeys := cache.lruKeys.filter fun node => node.id ≠ entry.lruIt
    entries := cache.entries.erase key }

/-- The loop of `evict_if_needed_locked`. -/
def evictIfNeeded : Nat → ResultReplayCache ε → ResultReplayCache ε
  | 0, cache => cache
  | fuel + 1, cache =>
    if cache.capacity < cache.entries.entries.length then
      match cache.lruKeys.getLast? with
      | none => cache
      | some node =>
        evictIfNeeded fuel
          { cache with
            entries := cache.entries.erase node.key, lruKeys := cache.lruKeys.dropLast }
    else cache

def put (cache : ResultReplayCache ε) (key : Bytes) (envelope : ε) (now : TimePoint) :
    ResultReplayCache ε :=
  let expiresAt := expiresAfter now cache.ttl
  let cache := match cache.entries.lookup key with
    | some existed => cache.dropEntry key existed
    | none => cache
  let cache := { cache with
    lruKeys := ⟨cache.nextNode, key⟩ :: cache.lruKeys
    entries := cache.entries.insert key ⟨envelope, expiresAt, cache.nextNode⟩
    nextNode := cache.nextNode + 1 }
  evictIfNeeded cache.lruKeys.length cache

def touchLru (cache : ResultReplayCache ε) (key : Bytes) (entry : CacheEntry ε) :
    ResultReplayCache ε :=
  { cache with
    lruKeys := ⟨cache.nextNode, key⟩ :: cache.lruKeys.filter fun node => node.id ≠ entry.lruIt
    entries := cache.entries.insert key { entry with lruIt := cache.nextNode }
    nextNode := cache.nextNode + 1 }

def lookup (cache : ResultReplayCache ε) (key : Bytes) (now : TimePoint) :
    ResultReplayCache ε × Option ε :=
  match cache.entries.lookup key with
  | none => (cache, none)
  | some entry =>
    if entry.expiresAt ≤ now then (cache.dropEntry key entry, none)
    else (cache.touchLru key entry, some entry.envelope)

def erase (cache : ResultReplayCache ε) (key : Bytes) : ResultReplayCache ε × Bool :=
  match cache.entries.lookup key with
  | none => (cache, false)
  | some entry => (cache.dropEntry key entry, true)

/-- One turn of the loop of `evict_expired`. Each entry is compared with a reading of its own. -/
def evictTurn (clock : Bytes → TimePoint) (state : ResultReplayCache ε × Nat)
    (item : Sigma fun _ : Bytes => CacheEntry ε) : ResultReplayCache ε × Nat :=
  if item.2.expiresAt ≤ clock item.1 then (state.1.dropEntry item.1 item.2, state.2 + 1) else state

def evictExpired (cache : ResultReplayCache ε) (clock : Bytes → TimePoint) :
    ResultReplayCache ε × Nat :=
  cache.entries.entries.foldl (evictTurn clock) (cache, 0)

end ResultReplayCache

/-! ## Calls -/

inductive CacheCall (ε : Type)
  | put (key : Bytes) (envelope : ε) (now : TimePoint)
  | lookup (key : Bytes) (now : TimePoint)
  | erase (key : Bytes)
  | evictExpired (clock : Bytes → TimePoint)

inductive CacheAnswer (ε : Type)
  | done
  | found (envelope : Option ε)
  | erased (existed : Bool)
  | evicted (count : Nat)
deriving DecidableEq

def ResultReplayCache.step (cache : ResultReplayCache ε) :
    CacheCall ε → ResultReplayCache ε × CacheAnswer ε
  | .put key envelope now => (cache.put key envelope now, .done)
  | .lookup key now => ((cache.lookup key now).1, .found (cache.lookup key now).2)
  | .erase key => ((cache.erase key).1, .erased (cache.erase key).2)
  | .evictExpired clock =>
    ((cache.evictExpired clock).1, .evicted (cache.evictExpired clock).2)

/-! ## A bounded map whose slots expire -/

structure Slot (ε : Type) where
  key : Bytes
  envelope : ε
  expiresAt : TimePoint

/-- The slots of the map, the most recently used first. -/
def lruStep (capacity : Nat) (ttl : Int) (slots : List (Slot ε)) :
    CacheCall ε → List (Slot ε) × CacheAnswer ε
  | .put key envelope now =>
    ((⟨key, envelope, now + milliseconds ttl⟩ :: slots.filter (·.key ≠ key)).take capacity, .done)
  | .lookup key now =>
    match slots.find? (·.key = key) with
    | none => (slots, .found none)
    | some slot =>
      if slot.expiresAt ≤ now then (slots.filter (·.key ≠ key), .found none)
      else (slot :: slots.filter (·.key ≠ key), .found (some slot.envelope))
  | .erase key => (slots.filter (·.key ≠ key), .erased (slots.find? (·.key = key)).isSome)
  | .evictExpired clock =>
    (slots.filter fun slot => ¬ slot.expiresAt ≤ clock slot.key,
      .evicted (slots.countP fun slot => slot.expiresAt ≤ clock slot.key))

/-! ## The cache as rows -/

/-- A node of the list with the entry that points to it. -/
structure CacheRow (ε : Type) where
  id : Nat
  slot : Slot ε

def CacheRow.key (row : CacheRow ε) : Bytes := row.slot.key

def CacheRow.node (row : CacheRow ε) : LruNode := ⟨row.id, row.key⟩

def CacheRow.entry (row : CacheRow ε) : CacheEntry ε :=
  ⟨row.slot.envelope, row.slot.expiresAt, row.id⟩

structure Represents (cache : ResultReplayCache ε) (rows : List (CacheRow ε)) : Prop where
  list : cache.lruKeys = rows.map CacheRow.node
  ids : (rows.map CacheRow.id).Nodup
  keys : (rows.map CacheRow.key).Nodup
  fresh : ∀ row ∈ rows, row.id < cache.nextNode
  entries : ∀ key,
    cache.entries.lookup key = (rows.find? (·.key = key)).map CacheRow.entry

variable {cache : ResultReplayCache ε} {rows : List (CacheRow ε)}

theorem Represents.find_iff (h : Represents cache rows) (key : Bytes) (row : CacheRow ε) :
    rows.find? (·.key = key) = some row ↔ row ∈ rows ∧ row.key = key := by
  constructor
  · intro hfound
    exact ⟨List.mem_of_find?_eq_some hfound, by simpa using List.find?_some hfound⟩
  · rintro ⟨hmem, rfl⟩
    obtain ⟨other, hother⟩ : ∃ other, rows.find? (·.key = row.key) = some other := by
      rw [← Option.isSome_iff_exists, List.find?_isSome]
      exact ⟨row, hmem, by simp⟩
    have hkey : other.key = row.key := by simpa using List.find?_some hother
    rw [hother, List.inj_on_of_nodup_map h.keys (List.mem_of_find?_eq_some hother) hmem hkey]

/-- The entries are the rows in another order. -/
theorem Represents.entries_perm (h : Represents cache rows) :
    cache.entries.entries.Perm
      (rows.map fun row => (⟨row.key, row.entry⟩ : Sigma fun _ : Bytes => CacheEntry ε)) := by
  refine (List.perm_ext_iff_of_nodup cache.entries.nodupKeys.nodup ?_).mpr fun item => ?_
  · apply List.Nodup.of_map Sigma.fst
    rw [List.map_map]
    exact h.keys
  · obtain ⟨key, entry⟩ := item
    rw [← Table.lookup_eq_some_iff, h.entries, Option.map_eq_some_iff, List.mem_map]
    constructor
    · rintro ⟨row, hfound, rfl⟩
      obtain ⟨hmem, rfl⟩ := (h.find_iff key row).mp hfound
      exact ⟨row, hmem, rfl⟩
    · rintro ⟨row, hmem, heq⟩
      obtain ⟨rfl, hentry⟩ := Sigma.mk.inj heq
      exact ⟨row, (h.find_iff row.key row).mpr ⟨hmem, rfl⟩, eq_of_heq hentry⟩

theorem Represents.size (h : Represents cache rows) :
    cache.entries.entries.length = rows.length := by
  rw [h.entries_perm.length_eq, List.length_map]

/-- A node points at the row it came from. -/
theorem Represents.filter_nodes (h : Represents cache rows) {row : CacheRow ε} (hrow : row ∈ rows) :
    (rows.map CacheRow.node).filter (fun node => node.id ≠ row.id) =
      (rows.filter (·.key ≠ row.key)).map CacheRow.node := by
  rw [List.filter_map]
  congr 1
  apply List.filter_congr
  intro other hother
  have hsame : other.id = row.id ↔ other.key = row.key :=
    ⟨fun hid => by rw [List.inj_on_of_nodup_map h.ids hother hrow hid],
      fun hkey => by rw [List.inj_on_of_nodup_map h.keys hother hrow hkey]⟩
  simp only [Function.comp_apply, CacheRow.node, ne_eq, decide_not, hsame]

theorem find_filter_key (rows : List (CacheRow ε)) (key other : Bytes) :
    (rows.filter (·.key ≠ key)).find? (·.key = other) =
      if other = key then none else rows.find? (·.key = other) := by
  rw [List.find?_filter]
  split
  · next hsame =>
    rw [List.find?_eq_none]
    intro row _
    simp [hsame]
  · next hother =>
    congr 1
    funext row
    by_cases hrow : row.key = other
    · simp [hrow, hother]
    · simp [hrow]

theorem Represents.dropped (h : Represents cache rows) {row : CacheRow ε} (hrow : row ∈ rows) :
    Represents (cache.dropEntry row.key row.entry) (rows.filter (·.key ≠ row.key)) where
  list := by
    unfold ResultReplayCache.dropEntry
    rw [h.list]
    exact h.filter_nodes hrow
  ids := h.ids.sublist (List.filter_sublist.map _)
  keys := h.keys.sublist (List.filter_sublist.map _)
  fresh other hother := h.fresh other (List.mem_of_mem_filter hother)
  entries key := by
    rw [find_filter_key]
    unfold ResultReplayCache.dropEntry
    split
    · next hsame => rw [hsame, AList.lookup_erase, Option.map_none]
    · next hother => rw [AList.lookup_erase_ne hother, h.entries]

/-- A new node in front, with an entry that points at it. -/
theorem Represents.pushed (h : Represents cache rows) (slot : Slot ε)
    (hnew : ∀ row ∈ rows, row.key ≠ slot.key) (lruKeys : List LruNode)
    (hlist : lruKeys = rows.map CacheRow.node) (entries : Table Bytes (CacheEntry ε))
    (hentries : ∀ key, entries.lookup key = if key = slot.key then
      some ⟨slot.envelope, slot.expiresAt, cache.nextNode⟩
        else (rows.find? (·.key = key)).map CacheRow.entry) :
    Represents
      { cache with
        lruKeys := ⟨cache.nextNode, slot.key⟩ :: lruKeys
        entries
        nextNode := cache.nextNode + 1 }
      (⟨cache.nextNode, slot⟩ :: rows) where
  list := by
    rw [hlist]
    rfl
  ids := by
    rw [List.map_cons, List.nodup_cons]
    refine ⟨fun hmem => ?_, h.ids⟩
    obtain ⟨row, hrow, hid⟩ := List.mem_map.mp hmem
    have hlt := h.fresh row hrow
    dsimp only at hid
    omega
  keys := by
    rw [List.map_cons, List.nodup_cons]
    refine ⟨fun hmem => ?_, h.keys⟩
    obtain ⟨row, hrow, hkey⟩ := List.mem_map.mp hmem
    exact hnew row hrow hkey
  fresh row hrow := by
    rcases List.mem_cons.mp hrow with rfl | hrow
    · exact Nat.lt_succ_self _
    · exact Nat.lt_succ_of_lt (h.fresh row hrow)
  entries key := by
    rw [hentries, List.find?_cons]
    by_cases hkey : key = slot.key
    · simp [hkey, CacheRow.key, CacheRow.entry]
    · have hother : ¬ slot.key = key := fun hsame => hkey hsame.symm
      simp [hkey, hother, CacheRow.key]

/-- The last node goes with its entry. -/
theorem Represents.popped {last : CacheRow ε} (h : Represents cache (rows ++ [last])) :
    Represents
      { cache with
        entries := cache.entries.erase last.key, lruKeys := cache.lruKeys.dropLast } rows where
  list := by
    rw [h.list, List.map_append, List.map_singleton, List.dropLast_concat]
  ids := h.ids.sublist ((List.sublist_append_left _ _).map _)
  keys := h.keys.sublist ((List.sublist_append_left _ _).map _)
  fresh row hrow := h.fresh row (List.mem_append_left _ hrow)
  entries key := by
    have hfirst : ∀ row ∈ rows, row.key ≠ last.key := by
      have hkeys := h.keys
      rw [List.map_append, List.nodup_append] at hkeys
      exact fun row hrow => hkeys.2.2 _ (List.mem_map_of_mem hrow) _ (by simp)
    by_cases hkey : key = last.key
    · subst hkey
      rw [AList.lookup_erase, List.find?_eq_none.mpr fun row hrow => by simpa using hfirst row hrow,
        Option.map_none]
    · have hlast : [last].find? (·.key = key) = none := by simp [Ne.symm hkey]
      rw [AList.lookup_erase_ne hkey, h.entries, List.find?_append, hlast, Option.or_none]

theorem Represents.evicted (h : Represents cache rows) (fuel : Nat) (hfuel : rows.length ≤ fuel) :
    Represents (cache.evictIfNeeded fuel) (rows.take cache.capacity) ∧
      (cache.evictIfNeeded fuel).capacity = cache.capacity ∧
        (cache.evictIfNeeded fuel).ttl = cache.ttl := by
  induction fuel generalizing cache rows with
  | zero =>
    rw [List.eq_nil_of_length_eq_zero (Nat.le_zero.mp hfuel)] at h ⊢
    exact ⟨by rwa [List.take_nil], rfl, rfl⟩
  | succ fuel ih =>
    unfold ResultReplayCache.evictIfNeeded
    rw [h.size]
    split
    · next hfull =>
      rcases List.eq_nil_or_concat rows with rfl | ⟨front, last, rfl⟩
      · simp at hfull
      · rw [List.concat_eq_append] at h hfull hfuel ⊢
        rw [h.list, List.map_append, List.map_singleton, List.getLast?_concat]
        simp only [List.length_append, List.length_singleton] at hfull hfuel
        obtain ⟨hfront, hcapacity, httl⟩ := ih h.popped (by omega)
        rw [List.take_append_of_le_length (by omega)]
        rw [h.list, List.map_append, List.map_singleton] at hfront hcapacity httl
        exact ⟨hfront, hcapacity, httl⟩
    · next hfits =>
      rw [List.take_of_length_le (by omega)]
      exact ⟨h, rfl, rfl⟩

/-! ## What each call makes of the rows -/

def slotsOf (rows : List (CacheRow ε)) : List (Slot ε) := rows.map CacheRow.slot

theorem slotsOf_filter (rows : List (CacheRow ε)) (key : Bytes) :
    slotsOf (rows.filter (·.key ≠ key)) = (slotsOf rows).filter (·.key ≠ key) := by
  unfold slotsOf
  rw [List.filter_map]
  rfl

theorem slotsOf_find (rows : List (CacheRow ε)) (key : Bytes) :
    (slotsOf rows).find? (·.key = key) = (rows.find? (·.key = key)).map CacheRow.slot := by
  unfold slotsOf
  rw [List.find?_map]
  rfl

theorem Represents.put (h : Represents cache rows) (key : Bytes) (envelope : ε) (now : TimePoint) :
    ∃ after, Represents (cache.put key envelope now) after ∧
      slotsOf after = (⟨key, envelope, expiresAfter now cache.ttl⟩ ::
        (slotsOf rows).filter (·.key ≠ key)).take cache.capacity ∧
      (cache.put key envelope now).capacity = cache.capacity ∧
      (cache.put key envelope now).ttl = cache.ttl := by
  set slot : Slot ε := ⟨key, envelope, expiresAfter now cache.ttl⟩ with hslot
  obtain ⟨kept, hkept, hfields⟩ : ∃ kept : ResultReplayCache ε,
      Represents kept (rows.filter (·.key ≠ key)) ∧
        (match cache.entries.lookup key with
          | some existed => cache.dropEntry key existed
          | none => cache) = kept ∧ kept.capacity = cache.capacity ∧ kept.ttl = cache.ttl := by
    rw [h.entries]
    cases hfound : rows.find? (·.key = key) with
    | none =>
      have hsame : rows.filter (·.key ≠ key) = rows :=
        List.filter_eq_self.mpr fun row hrow => by simpa using List.find?_eq_none.mp hfound row hrow
      exact ⟨cache, by rwa [hsame], rfl, rfl, rfl⟩
    | some row =>
      obtain ⟨hmem, rfl⟩ := (h.find_iff key row).mp hfound
      exact ⟨_, h.dropped hmem, rfl, rfl, rfl⟩
  obtain ⟨hmatch, hcapacity, httl⟩ := hfields
  have hpushed := hkept.pushed slot (fun row hrow => by simpa using (List.mem_filter.mp hrow).2)
    kept.lruKeys hkept.list
    (kept.entries.insert key ⟨envelope, expiresAfter now cache.ttl, kept.nextNode⟩) (by
      intro other
      split
      · next hsame => rw [hsame, hslot, AList.lookup_insert]
      · next hother => rw [AList.lookup_insert_ne hother, hkept.entries])
  obtain ⟨hafter, hcapacity', httl'⟩ := hpushed.evicted _ (le_of_eq (by
    rw [List.length_cons, hkept.list, List.length_cons, List.length_map]) :
      _ ≤ (⟨kept.nextNode, slot.key⟩ :: kept.lruKeys : List LruNode).length)
  unfold ResultReplayCache.put
  rw [hmatch]
  refine ⟨_, hafter, ?_, hcapacity'.trans hcapacity, httl'.trans httl⟩
  dsimp only
  rw [hcapacity]
  unfold slotsOf
  rw [List.map_take, List.map_cons]
  exact congrArg (fun slots => (slot :: slots).take cache.capacity) (slotsOf_filter rows key)

theorem Represents.lookup (h : Represents cache rows) (key : Bytes) (now : TimePoint) :
    ∃ after, Represents (cache.lookup key now).1 after ∧
      lruStep cache.capacity cache.ttl (slotsOf rows) (.lookup key now) =
        (slotsOf after, .found (cache.lookup key now).2) ∧
      (cache.lookup key now).1.capacity = cache.capacity ∧
      (cache.lookup key now).1.ttl = cache.ttl := by
  unfold ResultReplayCache.lookup lruStep
  dsimp only
  rw [slotsOf_find, h.entries]
  cases hfound : rows.find? (·.key = key) with
  | none => exact ⟨rows, h, rfl, rfl, rfl⟩
  | some row =>
    obtain ⟨hmem, rfl⟩ := (h.find_iff key row).mp hfound
    dsimp only [Option.map_some]
    have hdropped := h.dropped hmem
    by_cases hexpired : row.slot.expiresAt ≤ now
    · have hentry : row.entry.expiresAt ≤ now := hexpired
      rw [if_pos hexpired, if_pos hentry, ← slotsOf_filter]
      exact ⟨_, hdropped, rfl, rfl, rfl⟩
    · have hentry : ¬ row.entry.expiresAt ≤ now := hexpired
      have hnew : ∀ other ∈ rows.filter (·.key ≠ row.key), other.key ≠ row.slot.key :=
        fun other hother => of_decide_eq_true (List.mem_filter.mp hother).2
      have hlookup : ∀ other, (cache.entries.insert row.key
          { row.entry with lruIt := cache.nextNode }).lookup other =
            if other = row.slot.key then
              some ⟨row.slot.envelope, row.slot.expiresAt, cache.nextNode⟩
            else ((rows.filter (·.key ≠ row.key)).find? (·.key = other)).map CacheRow.entry := by
        intro other
        rw [find_filter_key]
        by_cases hother : other = row.key
        · rw [hother, AList.lookup_insert]
          exact (if_pos rfl).symm
        · rw [AList.lookup_insert_ne hother, h.entries, if_neg hother]
          exact (if_neg hother).symm
      rw [if_neg hexpired, if_neg hentry, ← slotsOf_filter]
      exact ⟨_, hdropped.pushed row.slot hnew _ hdropped.list _ hlookup, rfl, rfl, rfl⟩

theorem Represents.erase (h : Represents cache rows) (key : Bytes) :
    ∃ after, Represents (cache.erase key).1 after ∧
      lruStep cache.capacity cache.ttl (slotsOf rows) (.erase key) =
        (slotsOf after, .erased (cache.erase key).2) ∧
      (cache.erase key).1.capacity = cache.capacity ∧ (cache.erase key).1.ttl = cache.ttl := by
  unfold ResultReplayCache.erase lruStep
  dsimp only
  rw [slotsOf_find, h.entries, ← slotsOf_filter]
  cases hfound : rows.find? (·.key = key) with
  | none =>
    have hsame : rows.filter (·.key ≠ key) = rows :=
      List.filter_eq_self.mpr fun row hrow => by simpa using List.find?_eq_none.mp hfound row hrow
    exact ⟨rows, h, by rw [hsame]; rfl, rfl, rfl⟩
  | some row =>
    obtain ⟨hmem, rfl⟩ := (h.find_iff key row).mp hfound
    exact ⟨_, h.dropped hmem, rfl, rfl, rfl⟩

/-- The loop drops the expired ones among the entries it has still to visit. -/
theorem evictTurns_spec (clock : Bytes → TimePoint)
    (items : List (Sigma fun _ : Bytes => CacheEntry ε)) (count : Nat) (h : Represents cache rows)
    (hitems : ∀ item ∈ items, ∃ row ∈ rows, row.key = item.1 ∧ row.entry = item.2)
    (hnodup : (items.map Sigma.fst).Nodup) :
    Represents (items.foldl (ResultReplayCache.evictTurn clock) (cache, count)).1
        (rows.filter fun row => ¬ (row.key ∈ items.map Sigma.fst ∧
          row.slot.expiresAt ≤ clock row.key)) ∧
      (items.foldl (ResultReplayCache.evictTurn clock) (cache, count)).2 =
        count + items.countP (fun item => item.2.expiresAt ≤ clock item.1) ∧
      (items.foldl (ResultReplayCache.evictTurn clock) (cache, count)).1.capacity =
        cache.capacity ∧
      (items.foldl (ResultReplayCache.evictTurn clock) (cache, count)).1.ttl = cache.ttl := by
  induction items generalizing cache rows count with
  | nil =>
    refine ⟨?_, rfl, rfl, rfl⟩
    rw [List.filter_eq_self.mpr fun row _ => by simp]
    exact h
  | cons item items ih =>
    rw [List.map_cons, List.nodup_cons] at hnodup
    obtain ⟨row, hrow, hkey, hentry⟩ := hitems item List.mem_cons_self
    have hrest := fun other hother => hitems other (List.mem_cons_of_mem _ hother)
    have hrows : ∀ other ∈ rows, other.key = item.1 → other = row := fun other hother hsame =>
      List.inj_on_of_nodup_map h.keys hother hrow (hsame.trans hkey.symm)
    rw [List.foldl_cons, List.countP_cons]
    by_cases hexpired : item.2.expiresAt ≤ clock item.1
    · have hturn : ResultReplayCache.evictTurn clock (cache, count) item =
          (cache.dropEntry item.1 item.2, count + 1) := if_pos hexpired
      have hdropped := h.dropped hrow
      rw [hkey, hentry] at hdropped
      rw [hturn]
      obtain ⟨hafter, hcount, hfields⟩ := ih (count + 1) hdropped (by
        intro other hother
        obtain ⟨found, hfound, hsame, hpoints⟩ := hrest other hother
        refine ⟨found, List.mem_filter.mpr ⟨hfound, ?_⟩, hsame, hpoints⟩
        have hne : found.key ≠ item.1 := by
          rw [hsame]
          intro heq
          exact hnodup.1 (heq ▸ List.mem_map_of_mem hother)
        simpa using hne) hnodup.2
      refine ⟨?_, by rw [hcount, if_pos (by simpa using hexpired)]; omega, hfields⟩
      rw [List.filter_filter] at hafter
      convert hafter using 1
      apply List.filter_congr
      intro other hother
      have hexpires : other.key = item.1 → other.slot.expiresAt ≤ clock other.key := by
        intro hsame
        rw [hsame, hrows other hother hsame]
        exact (congrArg CacheEntry.expiresAt hentry).trans_le hexpired
      rw [← Bool.decide_and, decide_eq_decide, List.map_cons, List.mem_cons]
      tauto
    · have hturn : ResultReplayCache.evictTurn clock (cache, count) item = (cache, count) :=
        if_neg hexpired
      obtain ⟨hafter, hcount, hfields⟩ := ih count h hrest hnodup.2
      rw [hturn]
      refine ⟨?_, by rw [hcount, if_neg (by simpa using hexpired)]; omega, hfields⟩
      convert hafter using 1
      apply List.filter_congr
      intro other hother
      have hopen : other.key = item.1 → ¬ other.slot.expiresAt ≤ clock other.key := by
        intro hsame
        rw [hsame, hrows other hother hsame]
        exact fun hle => hexpired ((congrArg CacheEntry.expiresAt hentry).symm.trans_le hle)
      rw [decide_eq_decide, List.map_cons, List.mem_cons]
      tauto

theorem Represents.evictExpired (h : Represents cache rows) (clock : Bytes → TimePoint) :
    ∃ after, Represents (cache.evictExpired clock).1 after ∧
      lruStep cache.capacity cache.ttl (slotsOf rows) (.evictExpired clock) =
        (slotsOf after, .evicted (cache.evictExpired clock).2) ∧
      (cache.evictExpired clock).1.capacity = cache.capacity ∧
      (cache.evictExpired clock).1.ttl = cache.ttl := by
  have hperm := h.entries_perm
  obtain ⟨hafter, hcount, hfields⟩ := evictTurns_spec clock cache.entries.entries 0 h (by
    intro item hitem
    obtain ⟨row, hrow, rfl⟩ := List.mem_map.mp (hperm.mem_iff.mp hitem)
    exact ⟨row, hrow, rfl, rfl⟩) cache.entries.nodupKeys
  refine ⟨_, hafter, ?_, hfields⟩
  have hvisited : ∀ row ∈ rows, row.key ∈ cache.entries.entries.map Sigma.fst := by
    intro row hrow
    exact List.mem_map.mpr ⟨⟨row.key, row.entry⟩, hperm.mem_iff.mpr (List.mem_map_of_mem hrow), rfl⟩
  unfold lruStep ResultReplayCache.evictExpired
  dsimp only
  rw [hcount, Nat.zero_add, hperm.countP_eq, List.countP_map]
  unfold slotsOf
  rw [List.filter_map, List.countP_map]
  refine congrArg₂ _ (congrArg _ (List.filter_congr fun row hrow => ?_)) rfl
  have hkey := hvisited row hrow
  rw [Function.comp_apply, decide_eq_decide]
  exact not_congr (and_iff_right hkey).symm

/-! ## The simulation -/

/-- The expiry of a stored entry is in the range of the clock. -/
def InRange (ttl : Int) : CacheCall ε → Prop
  | .put _ _ now => expiresAfter now ttl = now + milliseconds ttl
  | .lookup _ _ | .erase _ | .evictExpired _ => True

def Related (capacity : Nat) (ttl : Int) (cache : ResultReplayCache ε) (slots : List (Slot ε)) :
    Prop :=
  ∃ rows, Represents cache rows ∧ slotsOf rows = slots ∧ cache.capacity = capacity ∧ cache.ttl = ttl

theorem related_step (capacity : Nat) (ttl : Int) (cache : ResultReplayCache ε)
    (slots : List (Slot ε)) (call : CacheCall ε) (h : Related capacity ttl cache slots)
    (hcall : InRange ttl call) :
    (cache.step call).2 = (lruStep capacity ttl slots call).2 ∧
      Related capacity ttl (cache.step call).1 (lruStep capacity ttl slots call).1 := by
  obtain ⟨rows, hrows, rfl, rfl, rfl⟩ := h
  cases call with
  | put key envelope now =>
    obtain ⟨after, hafter, hslots, hcapacity, httl⟩ := hrows.put key envelope now
    rw [show expiresAfter now cache.ttl = _ from hcall] at hslots
    exact ⟨rfl, after, hafter, hslots, hcapacity, httl⟩
  | lookup key now =>
    obtain ⟨after, hafter, hstep, hcapacity, httl⟩ := hrows.lookup key now
    rw [hstep]
    exact ⟨rfl, after, hafter, rfl, hcapacity, httl⟩
  | erase key =>
    obtain ⟨after, hafter, hstep, hcapacity, httl⟩ := hrows.erase key
    rw [hstep]
    exact ⟨rfl, after, hafter, rfl, hcapacity, httl⟩
  | evictExpired clock =>
    obtain ⟨after, hafter, hstep, hcapacity, httl⟩ := hrows.evictExpired clock
    rw [hstep]
    exact ⟨rfl, after, hafter, rfl, hcapacity, httl⟩

/-! ## What the slots remember -/

def CacheCall.uses (key : Bytes) : CacheCall ε → Bool
  | .put other _ _ | .lookup other _ => other = key
  | .erase _ | .evictExpired _ => false

/-- The call puts the key anew, or erases it. -/
def CacheCall.resets (key : Bytes) : CacheCall ε → Bool
  | .put other _ _ | .erase other => other = key
  | .lookup _ _ | .evictExpired _ => false

/-- The position, from one on, of the last call that puts the key or looks it up. -/
def lastUse (calls : List (CacheCall ε)) (key : Bytes) : Nat :=
  calls.length - calls.reverse.findIdx (CacheCall.uses key)

/-- The slot was put, and its key was neither put again nor erased since. -/
def LastPut (ttl : Int) (calls : List (CacheCall ε)) (slot : Slot ε) : Prop :=
  ∃ before now after, calls = before ++ .put slot.key slot.envelope now :: after ∧
    slot.expiresAt = now + milliseconds ttl ∧ ∀ call ∈ after, call.resets slot.key = false

variable (calls : List (CacheCall ε)) (call : CacheCall ε)

theorem lastUse_snoc (key : Bytes) :
    lastUse (calls ++ [call]) key =
      if call.uses key then calls.length + 1 else lastUse calls key := by
  unfold lastUse
  rw [List.reverse_append, List.reverse_singleton, List.singleton_append, List.findIdx_cons,
    List.length_append, List.length_singleton]
  cases call.uses key
  · simp
  · simp

theorem lastUse_le (key : Bytes) : lastUse calls key ≤ calls.length := Nat.sub_le _ _

theorem LastPut.snoc {ttl : Int} {calls : List (CacheCall ε)} {slot : Slot ε}
    (h : LastPut ttl calls slot) (hcall : call.resets slot.key = false) :
    LastPut ttl (calls ++ [call]) slot := by
  obtain ⟨before, now, after, rfl, hexpires, hafter⟩ := h
  refine ⟨before, now, after ++ [call], by simp, hexpires, fun other hother => ?_⟩
  rcases List.mem_append.mp hother with hother | hother
  · exact hafter other hother
  · rwa [List.mem_singleton.mp hother]

/-- The slots in order of their last uses, the latest first, each as it was last put. -/
structure Tracked (capacity : Nat) (ttl : Int) (calls : List (CacheCall ε))
    (slots : List (Slot ε)) : Prop where
  bounded : slots.length ≤ capacity
  recency : slots.Pairwise fun first second => lastUse calls second.key < lastUse calls first.key
  puts : ∀ slot ∈ slots, LastPut ttl calls slot

variable {capacity : Nat} {ttl : Int} {slots : List (Slot ε)}

/-- Slots that the call neither uses nor resets stay in order. -/
theorem Tracked.kept {calls : List (CacheCall ε)} (h : Tracked capacity ttl calls slots)
    {kept : List (Slot ε)} (hkept : kept.Sublist slots)
    (hcall : ∀ slot ∈ kept, call.uses slot.key = false ∧ call.resets slot.key = false) :
    Tracked capacity ttl (calls ++ [call]) kept where
  bounded := hkept.length_le.trans h.bounded
  recency := by
    refine (h.recency.sublist hkept).imp_of_mem fun hfirst hsecond hlt => ?_
    rw [lastUse_snoc, lastUse_snoc, (hcall _ hfirst).1, (hcall _ hsecond).1]
    exact hlt
  puts slot hslot := (h.puts slot (hkept.subset hslot)).snoc call (hcall slot hslot).2

/-- The slot that the call uses stands in front of slots that it does not use. -/
theorem Tracked.front {calls : List (CacheCall ε)} {kept : List (Slot ε)} {slot : Slot ε}
    (hkept : Tracked capacity ttl (calls ++ [call]) kept) (huses : call.uses slot.key = true)
    (hothers : ∀ other ∈ kept, call.uses other.key = false)
    (hput : LastPut ttl (calls ++ [call]) slot) (hroom : kept.length < capacity) :
    Tracked capacity ttl (calls ++ [call]) (slot :: kept) where
  bounded := hroom
  recency := by
    refine List.pairwise_cons.mpr ⟨fun other hother => ?_, hkept.recency⟩
    rw [lastUse_snoc, lastUse_snoc, huses, hothers other hother]
    exact Nat.lt_succ_of_le (lastUse_le calls other.key)
  puts := List.forall_mem_cons.mpr ⟨hput, hkept.puts⟩

theorem tracked_step {calls : List (CacheCall ε)} (h : Tracked capacity ttl calls slots)
    (hcapacity : 0 < capacity) :
    Tracked capacity ttl (calls ++ [call]) (lruStep capacity ttl slots call).1 := by
  have hother : ∀ (key : Bytes) (slot : Slot ε), slot ∈ slots.filter (·.key ≠ key) →
      decide (key = slot.key) = false := fun key slot hslot =>
    decide_eq_false (Ne.symm (of_decide_eq_true (List.mem_filter.mp hslot).2))
  unfold lruStep
  cases call with
  | put key envelope now =>
    obtain ⟨room, rfl⟩ := Nat.exists_eq_add_one_of_ne_zero hcapacity.ne'
    dsimp only
    rw [List.take_succ_cons]
    have hkept : ∀ slot ∈ (slots.filter (·.key ≠ key)).take room,
        decide (key = slot.key) = false := fun slot hslot =>
      hother key slot (List.mem_of_mem_take hslot)
    have htracked := h.kept (.put key envelope now)
      ((List.take_sublist room _).trans List.filter_sublist) fun slot hslot =>
        ⟨hkept slot hslot, hkept slot hslot⟩
    exact htracked.front (.put key envelope now) (decide_eq_true rfl) hkept
      ⟨calls, now, [], rfl, rfl, fun _ hnone => absurd hnone List.not_mem_nil⟩
      (Nat.lt_succ_of_le (List.length_take_le _ _))
  | lookup key now =>
    dsimp only
    split
    · next hnone =>
      refine h.kept (.lookup key now) (List.Sublist.refl _) fun slot hslot => ⟨?_, rfl⟩
      have hne := List.find?_eq_none.mp hnone slot hslot
      exact decide_eq_false fun hsame => hne (decide_eq_true hsame.symm)
    · next slot hfound =>
      have hkey := List.find?_some hfound
      obtain rfl : slot.key = key := of_decide_eq_true hkey
      have hmem := List.mem_of_find?_eq_some hfound
      have htracked := h.kept (.lookup slot.key now) List.filter_sublist fun other hother' =>
        ⟨hother slot.key other hother', rfl⟩
      split
      · exact htracked
      · refine htracked.front (.lookup slot.key now) (decide_eq_true rfl) (hother slot.key)
          ((h.puts slot hmem).snoc _ rfl) ?_
        have hshorter : (slots.filter (·.key ≠ slot.key)).length < slots.length := by
          rw [List.length_filter_lt_length_iff_exists]
          exact ⟨slot, hmem, by simp⟩
        exact hshorter.trans_le h.bounded
  | erase key =>
    exact h.kept (.erase key) List.filter_sublist fun slot hslot => ⟨rfl, hother key slot hslot⟩
  | evictExpired clock =>
    exact h.kept (.evictExpired clock) List.filter_sublist fun slot _ => ⟨rfl, rfl⟩

theorem tracked_run (hcapacity : 0 < capacity) :
    Tracked capacity ttl calls (run (lruStep capacity ttl) [] calls).1 := by
  induction calls using List.reverseRecOn with
  | nil => exact ⟨Nat.zero_le _, List.Pairwise.nil, fun slot hslot => absurd hslot List.not_mem_nil⟩
  | append_singleton calls call ih =>
    rw [run_snoc]
    exact tracked_step call ih hcapacity

/-! ## The cache -/

/-- The list holds the keys of the entries, each once, and each iterator points at its own key. -/
structure Coherent (cache : ResultReplayCache ε) : Prop where
  nodes : (cache.lruKeys.map LruNode.id).Nodup
  keys : (cache.lruKeys.map LruNode.key).Nodup
  same : ∀ key, key ∈ cache.lruKeys.map LruNode.key ↔ key ∈ cache.entries
  iterators : ∀ key entry, cache.entries.lookup key = some entry → ⟨entry.lruIt, key⟩ ∈ cache.lruKeys

theorem Represents.coherent {cache : ResultReplayCache ε} {rows : List (CacheRow ε)}
    (h : Represents cache rows) : Coherent cache where
  nodes := by
    rw [h.list, List.map_map]
    exact h.ids
  keys := by
    rw [h.list, List.map_map]
    exact h.keys
  same key := by
    rw [h.list, List.map_map, ← AList.lookup_isSome, h.entries, Option.isSome_map, List.find?_isSome]
    simp [CacheRow.node]
  iterators key entry hentry := by
    rw [h.entries, Option.map_eq_some_iff] at hentry
    obtain ⟨row, hfound, rfl⟩ := hentry
    obtain ⟨hmem, rfl⟩ := (h.find_iff key row).mp hfound
    rw [h.list]
    exact List.mem_map_of_mem hmem

/-- The cache after the calls, and the slots of the map after them. -/
structure RefinesLru (capacity : Nat) (ttl : Int) (calls : List (CacheCall ε)) : Prop where
  answers : (run ResultReplayCache.step (.make capacity ttl) calls).2 =
    (run (lruStep (max capacity 1) (keptTtl ttl)) [] calls).2
  coherent : Coherent (run ResultReplayCache.step (.make capacity ttl : ResultReplayCache ε) calls).1
  /-- The slots are the keys of the list with their entries. -/
  list : (run ResultReplayCache.step (.make capacity ttl : ResultReplayCache ε) calls).1.lruKeys.map
    (·.key) = (run (lruStep (max capacity 1) (keptTtl ttl)) [] calls).1.map (·.key)
  entries : ∀ slot ∈ (run (lruStep (max capacity 1) (keptTtl ttl)) [] calls).1,
    ((run ResultReplayCache.step (.make capacity ttl) calls).1.entries.lookup slot.key).map
      (fun entry => (entry.envelope, entry.expiresAt)) = some (slot.envelope, slot.expiresAt)
  size : (run ResultReplayCache.step (.make capacity ttl : ResultReplayCache ε) calls).1.entries.entries.length ≤
    max capacity 1
  tracked : Tracked (max capacity 1) (keptTtl ttl) calls
    (run (lruStep (max capacity 1) (keptTtl ttl)) [] calls).1

/-- Where no expiry leaves the range of the clock, the cache is a bounded map whose slots expire. -/
theorem replayCache_refines (capacity : Nat) (ttl : Int) (calls : List (CacheCall ε))
    (hcalls : ∀ call ∈ calls, InRange (keptTtl ttl) call) : RefinesLru capacity ttl calls := by
  have hkept : keptCapacity capacity = max capacity 1 := by
    unfold keptCapacity
    split <;> omega
  have hempty : Related (max capacity 1) (keptTtl ttl)
      (.make capacity ttl : ResultReplayCache ε) [] := by
    refine ⟨[], ?_, rfl, hkept, rfl⟩
    exact ⟨rfl, List.nodup_nil, List.nodup_nil, fun _ hrow => absurd hrow List.not_mem_nil,
      fun key => rfl⟩
  obtain ⟨hanswers, rows, hrows, hslots, -, -⟩ := simulation ResultReplayCache.step
    (lruStep (max capacity 1) (keptTtl ttl))
    (Related (max capacity 1) (keptTtl ttl)) (fun _ => InRange (keptTtl ttl))
    (related_step _ _) _ _ calls hempty (allSteps_of_forall _ _ _ _ hcalls)
  have htracked : Tracked (max capacity 1) (keptTtl ttl) calls
      (run (lruStep (max capacity 1) (keptTtl ttl)) [] calls).1 :=
    tracked_run calls (by omega)
  have hbounded := htracked.bounded
  refine ⟨hanswers, hrows.coherent, ?_, ?_, ?_, htracked⟩
  · rw [hrows.list, ← hslots]
    unfold slotsOf
    rw [List.map_map, List.map_map]
    rfl
  · rw [← hslots]
    intro slot hslot
    obtain ⟨row, hrow, rfl⟩ := List.mem_map.mp hslot
    rw [hrows.entries, (hrows.find_iff row.slot.key row).mpr ⟨hrow, rfl⟩]
    rfl
  · rw [← hslots] at hbounded
    rw [hrows.size]
    unfold slotsOf at hbounded
    rwa [List.length_map] at hbounded

/-- Two puts into a cache of one, each with a lifetime of a second. -/
theorem replayCache_refines_two :
    RefinesLru 1 1000 [.put (str "a") 1 0, .put (str "b") 2 5, .lookup (str "b") 10] := by
  apply replayCache_refines
  intro call hcall
  simp only [List.mem_cons, List.not_mem_nil, or_false] at hcall
  rcases hcall with rfl | rfl | rfl
  · rfl
  · rfl
  · trivial

/-- With the longest lifetime a result is gone at once. -/
theorem longest_lifetime_expires :
    ¬ RefinesLru 1 (2 ^ 63 - 1) [.put (str "a") 1 0, .lookup (str "a") 0] := by
  intro h
  have hanswers := h.answers
  revert hanswers
  decide +kernel

end Dasall.Access
