import Dasall.Runtime.Checkpoint.Store

/-!
# A save that fails

Both overloads change the manager before they know whether the save succeeds. Two stores
that later calls cannot tell apart are related by `Alike`.
-/

open Dasall.Lib.Text Dasall.Lib.Disk Dasall.Lib.Run Dasall.Contracts

namespace Dasall.Runtime

open CheckpointManager

/-! ## Stores that no call tells apart -/

structure ManagersAlike (a b : CheckpointManager) : Prop where
  stored : a.storedCheckpoints = b.storedCheckpoints
  pending : ∀ id, (a.pendingRuntimeBudgetSnapshots id).join = (b.pendingRuntimeBudgetSnapshots id).join
  root : a.durableStateRoot = b.durableStateRoot

structure Alike (a b : CheckpointStore) : Prop where
  managers : ManagersAlike a.manager b.manager
  files : SameRecords a.files b.files

theorem pendingBudget_alike {a b : CheckpointManager} (h : ManagersAlike a b)
    (checkpoint : Checkpoint) : a.pendingBudget checkpoint = b.pendingBudget checkpoint := by
  unfold pendingBudget
  cases checkpoint.checkpointId with
  | none => rfl
  | some id => exact h.pending id

theorem update_join_congr {f g : Bytes → Option (Option BudgetSnapshot)}
    (h : ∀ id, (f id).join = (g id).join) (id : Bytes) (value : Option (Option BudgetSnapshot))
    (other : Bytes) :
    (Function.update f id value other).join = (Function.update g id value other).join := by
  by_cases hid : other = id
  · subst hid; simp
  · simp [Function.update_of_ne hid, h other]

theorem readDurable_sameRecords {a b : FileSystem} (h : SameRecords a b) (opens : Bool)
    (root : StateRoot) (ref : Bytes) :
    readDurableCheckpointRecord a opens root ref = readDurableCheckpointRecord b opens root ref := by
  unfold readDurableCheckpointRecord
  rw [h _ (checkpointRecordPath_isRecord root ref)]

theorem writeDurable_sameRecords {a b : FileSystem} (h : SameRecords a b)
    (fault : Option PublishFault) (root : StateRoot) (checkpoint : Checkpoint)
    (budget : Option BudgetSnapshot) :
    (writeDurableCheckpointRecord a fault root checkpoint budget).2 =
        (writeDurableCheckpointRecord b fault root checkpoint budget).2 ∧
      SameRecords (writeDurableCheckpointRecord a fault root checkpoint budget).1
        (writeDurableCheckpointRecord b fault root checkpoint budget).1 := by
  unfold writeDurableCheckpointRecord
  split
  · exact ⟨rfl, h⟩
  · exact ⟨rfl, h⟩
  · simp only [publish_outcome]
    exact ⟨trivial, publish_sameRecords h _ _ _⟩

variable {a : CheckpointStore} (manager : CheckpointManager) (store : CheckpointStore)
  (files : FileSystem) {b : CheckpointStore} (after : CheckpointStore) (id : Bytes)
  (fault : Option PublishFault) (checkpoint : Checkpoint) (budget : Option BudgetSnapshot)

theorem writeDurable_failed (root : StateRoot)
    (checkpoint : Checkpoint) (budget : Option BudgetSnapshot)
    (h : (writeDurableCheckpointRecord files fault root checkpoint budget).2.1 = false) :
    SameRecords (writeDurableCheckpointRecord files fault root checkpoint budget).1 files := by
  unfold writeDurableCheckpointRecord at h ⊢
  split at h
  · exact SameRecords.refl _
  · exact SameRecords.refl _
  · cases fault with
    | none => cases h
    | some fault => exact publish_fault _ fault _ _

theorem buildCheckpoint_alike {a b : CheckpointManager} (h : ManagersAlike a b)
    (request : CheckpointBuildRequest) :
    (a.buildCheckpoint request).2 = (b.buildCheckpoint request).2 ∧
      ManagersAlike (a.buildCheckpoint request).1 (b.buildCheckpoint request).1 := by
  unfold buildCheckpoint
  split
  · exact ⟨rfl, h⟩
  · split
    · exact ⟨rfl, h⟩
    · simp only
      split
      · exact ⟨rfl, h.stored, update_join_congr h.pending _ _, h.root⟩
      · exact ⟨rfl, h⟩

theorem saveWithBudget_alike (h : Alike a b) (fault : Option PublishFault)
    (checkpoint : Checkpoint) (budget : Option BudgetSnapshot) :
    let left := a.manager.saveWithBudget a.files fault checkpoint budget
    let right := b.manager.saveWithBudget b.files fault checkpoint budget
    left.2 = right.2 ∧ Alike ⟨left.1.1, left.1.2⟩ ⟨right.1.1, right.1.2⟩ := by
  obtain ⟨⟨hstored, hpending, hroot⟩, hfiles⟩ := h
  unfold saveWithBudget
  by_cases hreport : (evaluateCheckpointConsistency checkpoint).consistent = true
  · have hmanagers : ∀ id root, ManagersAlike
        ⟨Function.update a.manager.pendingRuntimeBudgetSnapshots id none,
          Function.update a.manager.storedCheckpoints id (some ⟨checkpoint, budget⟩), root⟩
        ⟨Function.update b.manager.pendingRuntimeBudgetSnapshots id none,
          Function.update b.manager.storedCheckpoints id (some ⟨checkpoint, budget⟩), root⟩ :=
      fun id root => ⟨by rw [hstored], update_join_congr hpending _ _, rfl⟩
    simp only [hreport, hroot, Bool.not_true, Bool.false_eq_true, if_false]
    cases hb : b.manager.durableStateRoot with
    | none => exact ⟨rfl, hmanagers _ _, hfiles⟩
    | some root =>
      obtain ⟨hout, hrecords⟩ := writeDurable_sameRecords hfiles fault root checkpoint budget
      simp only [hout]
      split
      · exact ⟨rfl, hmanagers _ _, hrecords⟩
      · exact ⟨rfl, hmanagers _ _, hrecords⟩
  · simp only [hreport, Bool.not_false, if_true]
    exact ⟨trivial, ⟨hstored, hpending, hroot⟩, hfiles⟩

theorem save_alike (h : Alike a b) (fault : Option PublishFault)
    (checkpoint : Checkpoint) :
    let left := a.manager.save a.files fault checkpoint
    let right := b.manager.save b.files fault checkpoint
    left.2 = right.2 ∧ Alike ⟨left.1.1, left.1.2⟩ ⟨right.1.1, right.1.2⟩ := by
  unfold save
  rw [pendingBudget_alike h.managers]
  cases checkpoint.checkpointId with
  | none => exact saveWithBudget_alike h fault checkpoint _
  | some id =>
    obtain ⟨⟨hstored, hpending, hroot⟩, hfiles⟩ := h
    have herased :
        Alike ⟨a.manager.erasePending id, a.files⟩ ⟨b.manager.erasePending id, b.files⟩ :=
      ⟨⟨hstored, update_join_congr hpending _ _, hroot⟩, hfiles⟩
    exact saveWithBudget_alike herased fault checkpoint _

theorem load_alike (h : Alike a b) (opens : Bool) (ref : Bytes) :
    (a.manager.load a.files opens ref).2 = (b.manager.load b.files opens ref).2 ∧
      ManagersAlike (a.manager.load a.files opens ref).1 (b.manager.load b.files opens ref).1 := by
  obtain ⟨⟨hstored, hpending, hroot⟩, hfiles⟩ := h
  unfold load
  rw [hstored, hroot]
  split
  · exact ⟨rfl, hstored, hpending, hroot⟩
  · split
    · exact ⟨rfl, hstored, hpending, hroot⟩
    · rw [readDurable_sameRecords hfiles]
      split
      · exact ⟨rfl, hstored, hpending, hroot⟩
      · exact ⟨rfl, hstored, hpending, hroot⟩
      · exact ⟨rfl, hstored, hpending, hroot⟩
      · exact ⟨rfl, rfl, hpending, rfl⟩

theorem step_alike (a b : CheckpointStore) (call : CheckpointCall) (h : Alike a b) :
    (a.step call).2 = (b.step call).2 ∧ Alike (a.step call).1 (b.step call).1 := by
  cases call with
  | setDurableStateRoot stateRoot =>
    exact ⟨rfl, ⟨h.managers.stored, h.managers.pending, rfl⟩, h.files⟩
  | buildCheckpoint request =>
    obtain ⟨hout, hmanagers⟩ := buildCheckpoint_alike h.managers request
    exact ⟨congrArg CheckpointAnswer.built hout, hmanagers, h.files⟩
  | save fault checkpoint =>
    obtain ⟨hout, halike⟩ := save_alike h fault checkpoint
    exact ⟨congrArg CheckpointAnswer.persist hout, halike⟩
  | saveWithBudget fault checkpoint budget =>
    obtain ⟨hout, halike⟩ := saveWithBudget_alike h fault checkpoint budget
    exact ⟨congrArg CheckpointAnswer.persist hout, halike⟩
  | load opens ref =>
    obtain ⟨hout, hmanagers⟩ := load_alike h opens ref
    exact ⟨congrArg CheckpointAnswer.load hout, hmanagers, h.files⟩

/-! ## When a failed save leaves the store as it was -/

def CheckpointAnswer.loadResult : CheckpointAnswer → Option CheckpointLoadResult
  | .load result => some result
  | _ => none

open CheckpointStore

/-- What the load calls of a run return. -/
def loads (store : CheckpointStore) (calls : List CheckpointCall) : List CheckpointLoadResult :=
  (run CheckpointStore.step store calls).2.filterMap CheckpointAnswer.loadResult

/-- Whatever is called next, every load returns the same and a `save(checkpoint)` finds the
same pending budget snapshot. -/
def LeftAsItWas (before after : CheckpointStore) (checkpoint : Checkpoint) : Prop :=
  ∀ calls, loads after calls = loads before calls ∧
    (run CheckpointStore.step after calls).1.manager.pendingBudget checkpoint =
      (run CheckpointStore.step before calls).1.manager.pendingBudget checkpoint

def CheckpointCall.saved : CheckpointCall → Option Checkpoint
  | .save _ checkpoint | .saveWithBudget _ checkpoint _ => some checkpoint
  | _ => none

def CheckpointAnswer.failedSave : CheckpointAnswer → Bool
  | .persist result => !result.persisted
  | _ => false

/-- The store already holds what the save would store, and nothing is pending. -/
def AlreadyStored (store : CheckpointStore) (checkpoint : Checkpoint)
    (runtimeBudgetSnapshot : Option BudgetSnapshot) : Prop :=
  store.manager.pendingBudget checkpoint = none ∧ ∀ id, checkpoint.checkpointId = some id →
    store.manager.storedCheckpoints id = some ⟨checkpoint, runtimeBudgetSnapshot⟩

/-- The calls whose failure changes nothing: an inconsistent checkpoint with no pending
budget snapshot to lose, or a checkpoint that is already stored. -/
def Harmless (store : CheckpointStore) : CheckpointCall → Prop
  | .save _ checkpoint =>
    store.manager.pendingBudget checkpoint = none ∧
      ((evaluateCheckpointConsistency checkpoint).consistent = true →
        AlreadyStored store checkpoint none)
  | .saveWithBudget _ checkpoint runtimeBudgetSnapshot =>
    (evaluateCheckpointConsistency checkpoint).consistent = true →
      AlreadyStored store checkpoint runtimeBudgetSnapshot
  | _ => True

theorem leftAsItWas_of_alike {before after : CheckpointStore} (h : Alike after before)
    (checkpoint : Checkpoint) : LeftAsItWas before after checkpoint := by
  intro calls
  obtain ⟨hout, halike⟩ := simulation step step Alike
    (fun _ _ => True) (fun a b call h _ => step_alike a b call h) after before calls h
    (allSteps_true _ _ _)
  exact ⟨by rw [loads, loads, hout], pendingBudget_alike halike.managers checkpoint⟩

/-- The manager after a save of a consistent checkpoint, whether or not it fails. -/
def CheckpointManager.afterSave (manager : CheckpointManager) (id : Bytes) (checkpoint : Checkpoint)
    (runtimeBudgetSnapshot : Option BudgetSnapshot) : CheckpointManager :=
  { manager with
    storedCheckpoints :=
      Function.update manager.storedCheckpoints id (some ⟨checkpoint, runtimeBudgetSnapshot⟩)
    pendingRuntimeBudgetSnapshots := Function.update manager.pendingRuntimeBudgetSnapshots id none }

theorem saveWithBudget_failed
    (h : (manager.saveWithBudget files fault checkpoint budget).2.persisted = false) :
    SameRecords (manager.saveWithBudget files fault checkpoint budget).1.2 files ∧
      (manager.saveWithBudget files fault checkpoint budget).1.1 =
        if (evaluateCheckpointConsistency checkpoint).consistent then
          manager.afterSave (checkpoint.checkpointId.getD []) checkpoint budget
        else manager := by
  unfold saveWithBudget at h ⊢
  by_cases hreport : (evaluateCheckpointConsistency checkpoint).consistent = true
  · simp only [hreport, Bool.not_true, Bool.false_eq_true, if_false, if_true] at h ⊢
    cases hroot : manager.durableStateRoot with
    | none => simp [hroot] at h
    | some root =>
      simp only [hroot] at h ⊢
      cases hwritten : (writeDurableCheckpointRecord files fault root checkpoint budget).2.1 with
      | true => simp [hwritten] at h
      | false =>
        rw [if_neg (by simp)]
        exact ⟨writeDurable_failed files fault root checkpoint budget hwritten,
          by simp [afterSave, hroot]⟩
  · simp only [hreport, Bool.not_false, if_true]
    exact ⟨SameRecords.refl _, rfl⟩

theorem pendingBudget_erased (hid : checkpoint.checkpointId = some id) :
    (manager.erasePending id).pendingBudget checkpoint = none := by
  simp [pendingBudget, erasePending, hid]

/-- Erasing a pending entry changes nothing exactly when the entry carries no snapshot. -/
theorem leftAsItWas_erased
    (hid : checkpoint.checkpointId = some id) (hfiles : SameRecords after.files store.files)
    (hmanager : after.manager = store.manager.erasePending id) :
    LeftAsItWas store after checkpoint ↔ store.manager.pendingBudget checkpoint = none := by
  constructor
  · intro h
    have hnow := (h []).2
    rw [run_nil, run_nil, hmanager, pendingBudget_erased _ _ _ hid] at hnow
    exact hnow.symm
  · intro h
    refine leftAsItWas_of_alike
      ⟨⟨by rw [hmanager]; rfl, fun other => ?_, by rw [hmanager]; rfl⟩, hfiles⟩ _
    rw [hmanager]
    by_cases hother : other = id
    · subst hother
      simpa [pendingBudget, erasePending, hid] using h.symm
    · simp [erasePending, Function.update_of_ne hother]

theorem loads_memory :
    loads store [.setDurableStateRoot none, .load true id] =
      [match store.manager.storedCheckpoints id with
        | some record => loadedRecord record (str "checkpoint loaded from memory store")
        | none =>
          notLoaded .missingCheckpointId (str "checkpoint not found in memory store")] := by
  cases h : store.manager.storedCheckpoints id with
  | some record =>
    simp only [loads, run_cons, run_nil, step, setDurableStateRoot,
      load, h]
    rfl
  | none =>
    simp only [loads, run_cons, run_nil, step, setDurableStateRoot,
      load, stateRootOf, h]
    rfl

theorem loadedRecord_checkpoint (record : StoredCheckpointRecord) (detail : Bytes)
    (checkpoint : Checkpoint) (h : (loadedRecord record detail).checkpoint = some checkpoint) :
    record = ⟨checkpoint, (loadedRecord record detail).runtimeBudgetSnapshot⟩ := by
  unfold loadedRecord at h ⊢
  simp only at h ⊢
  split at h
  · rw [if_pos ‹_›]
    cases h
    rfl
  · cases h

/-- Storing a consistent checkpoint in memory changes nothing exactly when it is there. -/
theorem leftAsItWas_afterSave (hconsistent : Consistent checkpoint)
    (hid : checkpoint.checkpointId = some id) (hfiles : SameRecords after.files store.files)
    (hmanager : after.manager = store.manager.afterSave id checkpoint budget) :
    LeftAsItWas store after checkpoint ↔ AlreadyStored store checkpoint budget := by
  constructor
  · intro h
    have hnow := (h []).2
    rw [run_nil, run_nil, hmanager] at hnow
    have hnone : (store.manager.afterSave id checkpoint budget).pendingBudget checkpoint = none := by
      simp [pendingBudget, afterSave, hid]
    refine ⟨hnow.symm.trans hnone, fun id' hid' => ?_⟩
    rw [hid, Option.some.injEq] at hid'
    subst hid'
    have hload := (h [.setDurableStateRoot none, .load true id]).1
    rw [loads_memory, loads_memory, hmanager] at hload
    have hstored : (store.manager.afterSave id checkpoint budget).storedCheckpoints id =
        some ⟨checkpoint, budget⟩ := by
      simp [afterSave]
    simp only [hstored, List.singleton_inj] at hload
    rw [loadedRecord_consistent ⟨checkpoint, budget⟩ _ hconsistent] at hload
    -- The other side loads the checkpoint too, so it holds the record.
    cases hbefore : store.manager.storedCheckpoints id with
    | none => rw [hbefore] at hload; cases hload
    | some record =>
      rw [hbefore] at hload
      have hrecord := loadedRecord_checkpoint record _ checkpoint
        (congrArg CheckpointLoadResult.checkpoint hload).symm
      rw [hrecord, ← congrArg CheckpointLoadResult.runtimeBudgetSnapshot hload]
  · rintro ⟨hpending, hstored⟩
    refine leftAsItWas_of_alike ⟨⟨?_, fun other => ?_, by rw [hmanager]; rfl⟩, hfiles⟩ _
    · rw [hmanager]
      exact Function.update_eq_self_iff.mpr (hstored id hid).symm
    · rw [hmanager]
      by_cases hother : other = id
      · subst hother
        simpa [pendingBudget, afterSave, hid] using hpending.symm
      · simp [afterSave, Function.update_of_ne hother]

theorem leftAsItWas_unchanged
    (hmanager : after.manager = store.manager) (hfiles : SameRecords after.files store.files)
    (checkpoint : Checkpoint) : LeftAsItWas store after checkpoint := by
  refine leftAsItWas_of_alike ⟨?_, hfiles⟩ checkpoint
  rw [hmanager]
  exact ⟨rfl, fun _ => rfl, rfl⟩

theorem failed_saveWithBudget
    (hfailed : (store.manager.saveWithBudget store.files fault checkpoint budget).2.persisted =
      false) :
    LeftAsItWas store (store.step (.saveWithBudget fault checkpoint budget)).1 checkpoint ↔
      Harmless store (.saveWithBudget fault checkpoint budget) := by
  have hspec := (evaluateCheckpointConsistency_spec checkpoint).1
  obtain ⟨hfiles, hmanager⟩ := saveWithBudget_failed _ _ _ _ _ hfailed
  by_cases hreport : (evaluateCheckpointConsistency checkpoint).consistent = true
  · obtain ⟨id, hid, -⟩ := (hspec.mp hreport).checkpointId
    rw [if_pos hreport, hid] at hmanager
    rw [leftAsItWas_afterSave store _ id checkpoint budget (hspec.mp hreport) hid hfiles hmanager]
    exact ⟨fun h _ => h, fun h => h hreport⟩
  · rw [if_neg hreport] at hmanager
    exact iff_of_true (leftAsItWas_unchanged store _ hmanager hfiles checkpoint) fun h =>
      absurd h hreport

theorem failed_save
    (hfailed : (store.manager.save store.files fault checkpoint).2.persisted = false) :
    LeftAsItWas store (store.step (.save fault checkpoint)).1 checkpoint ↔
      Harmless store (.save fault checkpoint) := by
  have hspec := (evaluateCheckpointConsistency_spec checkpoint).1
  obtain ⟨hfiles, hmanager⟩ := saveWithBudget_failed _ _ _ _ _ hfailed
  by_cases hreport : (evaluateCheckpointConsistency checkpoint).consistent = true
  · obtain ⟨id, hid, -⟩ := (hspec.mp hreport).checkpointId
    have hafter : (store.step (.save fault checkpoint)).1.manager =
        store.manager.afterSave id checkpoint (store.manager.pendingBudget checkpoint) := by
      refine hmanager.trans ?_
      rw [if_pos hreport, hid]
      simp [afterSave, erasePending]
    rw [leftAsItWas_afterSave store _ id checkpoint _ (hspec.mp hreport) hid hfiles hafter]
    constructor
    · intro h
      exact ⟨h.1, fun _ => by rw [← h.1]; exact h⟩
    · rintro ⟨hnone, h⟩
      rw [hnone]
      exact h hreport
  · rw [if_neg hreport] at hmanager
    have hharmless : Harmless store (.save fault checkpoint) ↔
        store.manager.pendingBudget checkpoint = none :=
      ⟨fun h => h.1, fun h => ⟨h, fun h' => absurd h' hreport⟩⟩
    rw [hharmless]
    -- An inconsistent checkpoint with an id still loses its pending budget snapshot.
    cases hid : checkpoint.checkpointId with
    | none =>
      refine iff_of_true (leftAsItWas_unchanged store _ ?_ hfiles checkpoint) ?_
      · show (store.manager.save _ _ _).1.1 = _
        rw [save, hmanager, hid]
      · simp [pendingBudget, hid]
    | some id =>
      refine leftAsItWas_erased store _ id checkpoint hid hfiles ?_
      show (store.manager.save _ _ _).1.1 = _
      rw [save, hmanager, hid]

/-- A failed save leaves the store as it was exactly when the call is harmless. -/
theorem failed_save_spec (store : CheckpointStore) (call : CheckpointCall) (checkpoint : Checkpoint)
    (hsaved : call.saved = some checkpoint) (hfailed : (store.step call).2.failedSave = true) :
    LeftAsItWas store (store.step call).1 checkpoint ↔ Harmless store call := by
  cases call with
  | setDurableStateRoot | buildCheckpoint | load => cases hsaved
  | saveWithBudget fault saved budget =>
    cases hsaved
    refine failed_saveWithBudget store fault checkpoint budget ?_
    simpa [CheckpointStore.step, CheckpointAnswer.failedSave] using hfailed
  | save fault saved =>
    cases hsaved
    refine failed_save store fault checkpoint ?_
    simpa [CheckpointStore.step, CheckpointAnswer.failedSave] using hfailed

/-- A fresh manager over the root, before any call. -/
def CheckpointStore.over (root : StateRoot) : CheckpointStore := ⟨.over root, .empty⟩

/-- The rename of the first save fails, and yet a later load finds the checkpoint. -/
theorem failed_save_kept :
    let store := CheckpointStore.over sampleRoot
    let call := CheckpointCall.saveWithBudget (some .rename) sampleCheckpoint none
    (store.step call).2.failedSave = true ∧
      ¬ LeftAsItWas store (store.step call).1 sampleCheckpoint := by
  refine ⟨by decide, fun h => ?_⟩
  have hload := (h [.load true (str "ckpt=1\n" ++ [0])]).1
  exact absurd hload (by decide)

theorem failed_save_spec_sample :
    LeftAsItWas (.over sampleRoot)
        ((CheckpointStore.over sampleRoot).step (.save (some .rename) sampleCheckpoint)).1
        sampleCheckpoint ↔
      Harmless (.over sampleRoot) (.save (some .rename) sampleCheckpoint) :=
  failed_save_spec (.over sampleRoot) (.save (some .rename) sampleCheckpoint) sampleCheckpoint rfl
    (by decide)

end Dasall.Runtime
