import Dasall.Runtime.Checkpoint.Manager

/-! # What a save leaves behind -/

open Dasall.Lib.Text Dasall.Lib.Disk Dasall.Lib.Run Dasall.Contracts

namespace Dasall.Runtime

/-! ## The durable round trip -/

/-- A manager that a restarted process builds over the root. -/
def CheckpointManager.over (root : StateRoot) : CheckpointManager :=
  CheckpointManager.fresh.setDurableStateRoot (some root.val)

/-- A fresh manager over the root loads exactly this checkpoint and budget snapshot. -/
def DurablyHolds (files : FileSystem) (root : StateRoot) (checkpoint : Checkpoint)
    (runtimeBudgetSnapshot : Option BudgetSnapshot) : Prop :=
  ∀ id, checkpoint.checkpointId = some id →
    let result := ((CheckpointManager.over root).load files true id).2
    result.loaded = true ∧ result.checkpoint = some checkpoint ∧
      result.runtimeBudgetSnapshot = runtimeBudgetSnapshot

theorem loadedRecord_consistent (record : StoredCheckpointRecord) (detail : Bytes)
    (h : Consistent record.checkpoint) :
    loadedRecord record detail =
      ⟨some record.checkpoint,
        makeCheckpointConsistentReport (str "checkpoint is structurally resumable"), none, detail,
        record.runtimeBudgetSnapshot⟩ := by
  unfold loadedRecord
  rw [evaluateCheckpointConsistency_consistent _ h]
  rfl

theorem saveWithBudget_persisted (manager : CheckpointManager) (files : FileSystem)
    (fault : Option PublishFault) (root : StateRoot) (checkpoint : Checkpoint)
    (runtimeBudgetSnapshot : Option BudgetSnapshot) (hroot : manager.durableStateRoot = some root)
    (hfit : CountsFit checkpoint runtimeBudgetSnapshot)
    (h : (manager.saveWithBudget files fault checkpoint runtimeBudgetSnapshot).2.persisted = true) :
    DurablyHolds (manager.saveWithBudget files fault checkpoint runtimeBudgetSnapshot).1.2 root
      checkpoint runtimeBudgetSnapshot := by
  intro id hid
  by_cases hreport : (evaluateCheckpointConsistency checkpoint).consistent = true
  · have hconsistent := (evaluateCheckpointConsistency_spec checkpoint).1.mp hreport
    simp only [CheckpointManager.saveWithBudget, hreport, hroot, Bool.not_true, Bool.false_eq_true,
      if_false] at h ⊢
    have hwritten : (writeDurableCheckpointRecord files fault root checkpoint
        runtimeBudgetSnapshot).2.1 = true := by
      by_contra hno
      rw [if_neg hno] at h
      cases h
    rw [if_pos hwritten]
    have hread := read_write_durable files fault root checkpoint id runtimeBudgetSnapshot hconsistent
      hid hfit hwritten
    have hover : (CheckpointManager.over root).durableStateRoot = some root := stateRootOf_val root
    have hnone : (CheckpointManager.over root).storedCheckpoints id = none := rfl
    simp only [CheckpointManager.load, hover, hnone, hread]
    rw [loadedRecord_consistent _ _ hconsistent]
    exact ⟨rfl, rfl, rfl⟩
  · simp only [CheckpointManager.saveWithBudget, hreport, Bool.not_false, if_true] at h
    cases h

/-- An id with a separator, a line break and a NUL in it. -/
def sampleCheckpoint : Checkpoint where
  checkpointId := some (str "ckpt=1\n" ++ [0])
  state := some .waitingTool
  stepId := some (str "step")
  workingMemorySnapshot := some (str "memory")
  pendingAction := some (str "tool=search")
  requestId := some (str "request")
  goalId := none
  beliefStateRef := none
  retryCount := some 3
  createdAt := none
  tags := some (withRuntimeCheckpointVersionTags [str "a=b"])

def sampleBudgetSnapshot : BudgetSnapshot where
  snapshotAtMs := some 5
  entries := [⟨.token, 7, 5, -2, some (str "over\nbudget")⟩, ⟨.replan, 0, 1, 1, none⟩]
  overallRejectReason := some []

end Dasall.Runtime
