import Dasall.Lib.Run
import Dasall.Runtime.Checkpoint.RoundTrip

/-!
# The checkpoint manager

Three places hold checkpoint data: the checkpoints in memory, the budget snapshots that
`build_checkpoint` leaves pending, and the durable records.
-/

open Dasall.Lib.Text Dasall.Lib.Disk Dasall.Contracts

namespace Dasall.Runtime

abbrev StoredCheckpointRecord := ParsedCheckpointRecord

structure CheckpointManager where
  pendingRuntimeBudgetSnapshots : Bytes → Option (Option BudgetSnapshot)
  storedCheckpoints : Bytes → Option StoredCheckpointRecord
  durableStateRoot : Option StateRoot

def CheckpointManager.fresh : CheckpointManager := ⟨fun _ => none, fun _ => none, none⟩

def CheckpointManager.setDurableStateRoot (manager : CheckpointManager) (stateRoot : Option Bytes) :
    CheckpointManager :=
  { manager with durableStateRoot := stateRootOf stateRoot }

/-! ## Building -/

/-- The parts of a `StateTransitionOutcome` that building a checkpoint reads. -/
structure StateTransitionOutcome where
  accepted : Bool
  resolvedState : RuntimeState
  hintedCheckpointState : Option CheckpointState
deriving DecidableEq

structure CheckpointBuildRequest where
  transitionOutcome : StateTransitionOutcome
  checkpointId : Bytes
  stepId : Bytes
  workingMemorySnapshot : Bytes
  pendingAction : Option Bytes
  requestId : Option Bytes
  goalId : Option Bytes
  beliefStateRef : Option Bytes
  retryCount : Option UInt32
  createdAtMs : Option Int64
  runtimeBudgetSnapshot : Option BudgetSnapshot
  tags : List Bytes
deriving DecidableEq

structure CheckpointBuildResult where
  checkpoint : Option Checkpoint
  report : CheckpointConsistencyReport
  runtimeBudgetSnapshot : Option BudgetSnapshot
deriving DecidableEq

def resolveCheckpointState (outcome : StateTransitionOutcome) : Option CheckpointState :=
  match toCheckpointState outcome.resolvedState with
  | none | some .unspecified => none
  | some mapped =>
    if outcome.hintedCheckpointState.isSome && outcome.hintedCheckpointState != some mapped then none
    else some mapped

def buildRequestCheckpoint (request : CheckpointBuildRequest) (state : CheckpointState) :
    Checkpoint where
  checkpointId := some request.checkpointId
  state := some state
  stepId := some request.stepId
  workingMemorySnapshot := some request.workingMemorySnapshot
  pendingAction := some (request.pendingAction.getD [])
  requestId := request.requestId
  goalId := request.goalId
  beliefStateRef := request.beliefStateRef
  retryCount := request.retryCount
  createdAt := request.createdAtMs
  tags := some (withRuntimeCheckpointVersionTags request.tags)

def CheckpointManager.buildCheckpoint (manager : CheckpointManager)
    (request : CheckpointBuildRequest) : CheckpointManager × CheckpointBuildResult :=
  if !request.transitionOutcome.accepted then
    (manager, ⟨none, rejectCheckpoint .transitionRejected
      (str "checkpoint build requires an accepted transition outcome"), none⟩)
  else
    match resolveCheckpointState request.transitionOutcome with
    | none =>
      (manager, ⟨none, rejectCheckpoint .invalidCheckpointState
        (str "resolved runtime state cannot be folded into a compatible checkpoint state"), none⟩)
    | some state =>
      let checkpoint := buildRequestCheckpoint request state
      let report := evaluateCheckpointConsistency checkpoint
      if report.consistent then
        ({ manager with
            pendingRuntimeBudgetSnapshots := Function.update manager.pendingRuntimeBudgetSnapshots
              request.checkpointId (some request.runtimeBudgetSnapshot) },
          ⟨some checkpoint, report, request.runtimeBudgetSnapshot⟩)
      else (manager, ⟨none, report, request.runtimeBudgetSnapshot⟩)

/-! ## Saving -/

structure CheckpointPersistResult where
  persisted : Bool
  checkpointRef : Option Bytes
  errorCode : Option RuntimeErrorCode
  detail : Bytes
deriving DecidableEq

/-- `save(checkpoint, runtime_budget_snapshot)`. `value()` is called where the checkpoint is
consistent, and so has an id. -/
def CheckpointManager.saveWithBudget (manager : CheckpointManager) (files : FileSystem)
    (fault : Option PublishFault) (checkpoint : Checkpoint)
    (runtimeBudgetSnapshot : Option BudgetSnapshot) :
    (CheckpointManager × FileSystem) × CheckpointPersistResult :=
  let report := evaluateCheckpointConsistency checkpoint
  if !report.consistent then
    ((manager, files), ⟨false, none, some .rtE411CheckpointSaveFailed, report.detail⟩)
  else
    let checkpointId := checkpoint.checkpointId.getD []
    let manager := { manager with
      storedCheckpoints := Function.update manager.storedCheckpoints checkpointId
        (some ⟨checkpoint, runtimeBudgetSnapshot⟩)
      pendingRuntimeBudgetSnapshots :=
        Function.update manager.pendingRuntimeBudgetSnapshots checkpointId none }
    match manager.durableStateRoot with
    | none =>
      ((manager, files), ⟨true, checkpoint.checkpointId, none,
        str "checkpoint persisted in memory store"⟩)
    | some root =>
      let (files, written, detail) :=
        writeDurableCheckpointRecord files fault root checkpoint runtimeBudgetSnapshot
      if written then ((manager, files), ⟨true, checkpoint.checkpointId, none, detail⟩)
      else ((manager, files), ⟨false, none, some .rtE411CheckpointSaveFailed, detail⟩)

/-- The budget snapshot that `save(checkpoint)` takes from the pending ones. -/
def CheckpointManager.pendingBudget (manager : CheckpointManager) (checkpoint : Checkpoint) :
    Option BudgetSnapshot :=
  checkpoint.checkpointId.bind fun id => (manager.pendingRuntimeBudgetSnapshots id).join

/-- `pending_runtime_budget_snapshots_.erase(id)`. -/
def CheckpointManager.erasePending (manager : CheckpointManager) (id : Bytes) : CheckpointManager :=
  { manager with pendingRuntimeBudgetSnapshots :=
      Function.update manager.pendingRuntimeBudgetSnapshots id none }

/-- `save(checkpoint)` erases the pending snapshot before it knows whether the checkpoint is
consistent. -/
def CheckpointManager.save (manager : CheckpointManager) (files : FileSystem)
    (fault : Option PublishFault) (checkpoint : Checkpoint) :
    (CheckpointManager × FileSystem) × CheckpointPersistResult :=
  let runtimeBudgetSnapshot := manager.pendingBudget checkpoint
  let manager :=
    match checkpoint.checkpointId with
    | none => manager
    | some id => manager.erasePending id
  manager.saveWithBudget files fault checkpoint runtimeBudgetSnapshot

/-! ## Loading -/

structure CheckpointLoadResult where
  checkpoint : Option Checkpoint
  report : CheckpointConsistencyReport
  errorCode : Option RuntimeErrorCode
  detail : Bytes
  runtimeBudgetSnapshot : Option BudgetSnapshot
deriving DecidableEq

def CheckpointLoadResult.loaded (result : CheckpointLoadResult) : Bool :=
  result.checkpoint.isSome && result.report.consistent && result.errorCode.isNone

/-- The result for a record that was found. `detail` says where. -/
def loadedRecord (record : StoredCheckpointRecord) (detail : Bytes) : CheckpointLoadResult :=
  let report := evaluateCheckpointConsistency record.checkpoint
  if report.consistent then
    ⟨some record.checkpoint, report, none, detail, record.runtimeBudgetSnapshot⟩
  else ⟨none, report, report.errorCode, report.detail, none⟩

def notLoaded (issue : CheckpointConsistencyIssue) (detail : Bytes) : CheckpointLoadResult :=
  ⟨none, rejectCheckpoint issue detail, some .rtE410CheckpointCorrupt, detail, none⟩

def CheckpointManager.load (manager : CheckpointManager) (files : FileSystem) (opens : Bool)
    (checkpointRef : Bytes) : CheckpointManager × CheckpointLoadResult :=
  match manager.storedCheckpoints checkpointRef with
  | some record => (manager, loadedRecord record (str "checkpoint loaded from memory store"))
  | none =>
    match manager.durableStateRoot with
    | none =>
      (manager, notLoaded .missingCheckpointId (str "checkpoint not found in memory store"))
    | some root =>
      match readDurableCheckpointRecord files opens root checkpointRef with
      | ⟨.notFound, _, detail⟩ => (manager, notLoaded .missingCheckpointId detail)
      | ⟨.corrupt, _, detail⟩ | ⟨.loaded, none, detail⟩ =>
        (manager, notLoaded .invalidCheckpointState detail)
      | ⟨.loaded, some record, detail⟩ =>
        ({ manager with
            storedCheckpoints :=
              Function.update manager.storedCheckpoints checkpointRef (some record) },
          loadedRecord record detail)

/-! ## The manager over its file system -/

structure CheckpointStore where
  manager : CheckpointManager
  files : FileSystem

inductive CheckpointCall
  | setDurableStateRoot (stateRoot : Option Bytes)
  | buildCheckpoint (request : CheckpointBuildRequest)
  | save (fault : Option PublishFault) (checkpoint : Checkpoint)
  | saveWithBudget (fault : Option PublishFault) (checkpoint : Checkpoint)
      (runtimeBudgetSnapshot : Option BudgetSnapshot)
  | load (opens : Bool) (checkpointRef : Bytes)

inductive CheckpointAnswer
  | done
  | built (result : CheckpointBuildResult)
  | persist (result : CheckpointPersistResult)
  | load (result : CheckpointLoadResult)
deriving DecidableEq

def CheckpointStore.step (store : CheckpointStore) :
    CheckpointCall → CheckpointStore × CheckpointAnswer
  | .setDurableStateRoot stateRoot =>
    (⟨store.manager.setDurableStateRoot stateRoot, store.files⟩, .done)
  | .buildCheckpoint request =>
    let (manager, result) := store.manager.buildCheckpoint request
    (⟨manager, store.files⟩, .built result)
  | .save fault checkpoint =>
    let ((manager, files), result) := store.manager.save store.files fault checkpoint
    (⟨manager, files⟩, .persist result)
  | .saveWithBudget fault checkpoint runtimeBudgetSnapshot =>
    let ((manager, files), result) :=
      store.manager.saveWithBudget store.files fault checkpoint runtimeBudgetSnapshot
    (⟨manager, files⟩, .persist result)
  | .load opens checkpointRef =>
    let (manager, result) := store.manager.load store.files opens checkpointRef
    (⟨manager, store.files⟩, .load result)

end Dasall.Runtime
