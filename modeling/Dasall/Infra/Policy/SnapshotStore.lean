import Dasall.Infra.Policy.Types
import Dasall.Lib.Table

/-! # The snapshot store -/

open Dasall.Lib Dasall.Lib.Text

namespace Dasall.Infra.Policy

structure PolicySnapshotStore where
  maxHistorySnapshots : Nat
  snapshotsById : Table Bytes PolicySnapshot := ∅
  historyOrder : List Bytes := []
  current : PolicySnapshot := {}
  lastKnownGood : PolicySnapshot := {}
  pendingCommitFailureReason : Option Bytes := none

namespace PolicySnapshotStore

/-- The constructor. -/
def new (maxHistorySnapshots : Nat) : PolicySnapshotStore where
  maxHistorySnapshots := if maxHistorySnapshots = 0 then 1 else maxHistorySnapshots

def normalizeSnapshot (store : PolicySnapshotStore) (snapshot : PolicySnapshot) : PolicySnapshot :=
  if snapshot.lastKnownGoodRef = [] && store.lastKnownGood.isValid then
    { snapshot with lastKnownGoodRef := store.lastKnownGood.snapshotId }
  else snapshot

/-- The loop of `trim_history_locked`, which drops the oldest ids until the history fits. -/
def trimHistory (store : PolicySnapshotStore) : List Bytes → PolicySnapshotStore
  | [] => { store with historyOrder := [] }
  | evictedSnapshotId :: rest =>
    if store.maxHistorySnapshots < rest.length + 1 then
      if store.current.snapshotId = evictedSnapshotId ∨
          store.lastKnownGood.snapshotId = evictedSnapshotId then
        trimHistory store rest
      else
        trimHistory { store with snapshotsById := store.snapshotsById.erase evictedSnapshotId } rest
    else { store with historyOrder := evictedSnapshotId :: rest }

/-- The `make_failure` of a commit. -/
def commitFailure (code : PolicyErrorCode) (message : Bytes) (snapshot : PolicySnapshot) :
    PolicyOpResult :=
  makeFailure code message (str "policy.commit_snapshot")
    (if snapshot.snapshotId = [] then str "PolicySnapshotStore" else snapshot.snapshotId)

def commit (store : PolicySnapshotStore) (snapshot : PolicySnapshot) :
    PolicySnapshotStore × PolicyOpResult :=
  let snapshot := store.normalizeSnapshot snapshot
  if !snapshot.isValid then
    (store, commitFailure .bundleInvalid
      (str "policy snapshot must satisfy the frozen snapshot contract before commit") snapshot)
  else if store.current.isValid && snapshot.generation ≤ store.current.generation then
    (store, commitFailure .storeCommitFailed
      (str "policy snapshot generation must increase monotonically") snapshot)
  else if (store.snapshotsById.lookup snapshot.snapshotId).isSome then
    (store, commitFailure .storeCommitFailed
      (str "policy snapshot id must remain unique across committed history") snapshot)
  else
    match store.pendingCommitFailureReason with
    | some reason =>
      ({ store with pendingCommitFailureReason := none },
        commitFailure .storeCommitFailed reason snapshot)
    | none =>
      let historyOrder := store.historyOrder ++ [snapshot.snapshotId]
      (trimHistory
        { store with
          snapshotsById := store.snapshotsById.insert snapshot.snapshotId snapshot
          historyOrder
          current := snapshot
          lastKnownGood := snapshot } historyOrder,
        .success snapshot.snapshotId snapshot.generation)

def getById (store : PolicySnapshotStore) (snapshotId : Bytes) : PolicySnapshot :=
  (store.snapshotsById.lookup snapshotId).getD {}

def injectCommitFailureForTest (store : PolicySnapshotStore) (reason : Bytes) :
    PolicySnapshotStore :=
  { store with
    pendingCommitFailureReason := some
      (if reason = [] then str "simulated policy snapshot store commit failure" else reason) }

/-! ## What a commit does -/

variable (store : PolicySnapshotStore) (snapshot : PolicySnapshot)

theorem trimHistory_current (historyOrder : List Bytes) :
    (store.trimHistory historyOrder).current = store.current := by
  induction historyOrder generalizing store with
  | nil => rfl
  | cons evictedSnapshotId rest ih =>
    unfold trimHistory
    split
    · split
      · exact ih store
      · exact ih _
    · rfl

theorem lookup_of_trimHistory (historyOrder : List Bytes)
    (snapshotId : Bytes) (snapshot : PolicySnapshot)
    (h : (store.trimHistory historyOrder).snapshotsById.lookup snapshotId = some snapshot) :
    store.snapshotsById.lookup snapshotId = some snapshot := by
  induction historyOrder generalizing store with
  | nil => exact h
  | cons evictedSnapshotId rest ih =>
    unfold trimHistory at h
    split at h
    · split at h
      · exact ih store h
      · have herased := ih _ h
        dsimp only at herased
        by_cases hsame : snapshotId = evictedSnapshotId
        · rw [hsame, AList.lookup_erase] at herased
          simp at herased
        · rwa [AList.lookup_erase_ne hsame] at herased
    · exact h

/-- A commit that is applied moves the store on to a valid snapshot of a later generation. -/
structure Advances (store : PolicySnapshotStore) (snapshot : PolicySnapshot)
    (after : PolicySnapshotStore) : Prop where
  valid : (store.normalizeSnapshot snapshot).isValid = true
  later : store.current.isValid = true → store.current.generation < snapshot.generation
  current : after.current = store.normalizeSnapshot snapshot
  lookup : ∀ snapshotId found, after.snapshotsById.lookup snapshotId = some found →
    found = store.normalizeSnapshot snapshot ∨
      store.snapshotsById.lookup snapshotId = some found

theorem normalizeSnapshot_generation :
    (store.normalizeSnapshot snapshot).generation = snapshot.generation := by
  unfold normalizeSnapshot
  split <;> rfl

theorem normalizeSnapshot_effectiveRules :
    (store.normalizeSnapshot snapshot).effectiveRules = snapshot.effectiveRules := by
  unfold normalizeSnapshot
  split <;> rfl

theorem normalizeSnapshot_of_ref
    (h : snapshot.lastKnownGoodRef ≠ []) : store.normalizeSnapshot snapshot = snapshot := by
  unfold normalizeSnapshot
  rw [if_neg (by simp [h])]

theorem commit_cases :
    ((store.commit snapshot).2.applied = true ∧
        store.Advances snapshot (store.commit snapshot).1) ∨
      ((store.commit snapshot).2.applied = false ∧
        (store.commit snapshot).1.current = store.current ∧
        (store.commit snapshot).1.snapshotsById = store.snapshotsById) := by
  unfold commit
  dsimp only
  split
  · exact Or.inr ⟨rfl, rfl, rfl⟩
  next hvalid =>
  split
  · exact Or.inr ⟨rfl, rfl, rfl⟩
  next hlater =>
  split
  · exact Or.inr ⟨rfl, rfl, rfl⟩
  split
  · exact Or.inr ⟨rfl, rfl, rfl⟩
  · refine Or.inl ⟨rfl, by simpa using hvalid, fun hcurrent => ?_, trimHistory_current _ _,
      fun snapshotId found hfound => ?_⟩
    · rw [normalizeSnapshot_generation, hcurrent] at hlater
      simpa using hlater
    · have hinserted := lookup_of_trimHistory _ _ _ _ hfound
      dsimp only at hinserted
      by_cases hsame : snapshotId = (store.normalizeSnapshot snapshot).snapshotId
      · rw [hsame, AList.lookup_insert] at hinserted
        exact Or.inl (Option.some.inj hinserted).symm
      · rw [AList.lookup_insert_ne hsame] at hinserted
        exact Or.inr hinserted

/-- The checks of a commit pass, and no failure is injected. -/
structure Takes (store : PolicySnapshotStore) (snapshot : PolicySnapshot) : Prop where
  valid : (store.normalizeSnapshot snapshot).isValid = true
  later : store.current.isValid = true → store.current.generation < snapshot.generation
  unused : store.snapshotsById.lookup (store.normalizeSnapshot snapshot).snapshotId = none
  noFailure : store.pendingCommitFailureReason = none

theorem commit_applied_iff :
    (store.commit snapshot).2.applied = true ↔ store.Takes snapshot := by
  constructor
  · intro happlied
    rcases store.commit_cases snapshot with ⟨-, hadvances⟩ | ⟨hrefused, -⟩
    · unfold commit at happlied
      dsimp only at happlied
      split at happlied
      · simp [commitFailure] at happlied
      split at happlied
      · simp [commitFailure] at happlied
      split at happlied
      · simp [commitFailure] at happlied
      next hunused =>
      split at happlied
      · simp [commitFailure] at happlied
      next hpending =>
      exact ⟨hadvances.valid, hadvances.later, by simpa using hunused, hpending⟩
    · rw [hrefused] at happlied
      simp at happlied
  · intro htakes
    have hlater : ¬ (store.current.isValid &&
        (store.normalizeSnapshot snapshot).generation ≤ store.current.generation) = true := by
      rw [normalizeSnapshot_generation]
      simp only [Bool.and_eq_true, decide_eq_true_eq, not_and, UInt64.not_le]
      exact htakes.later
    unfold commit
    dsimp only
    rw [if_neg (by simp [htakes.valid]), if_neg hlater, if_neg (by simp [htakes.unused]),
      htakes.noFailure]
    rfl

end PolicySnapshotStore

end Dasall.Infra.Policy
