import Dasall.Contracts.Checkpoint
import Dasall.Runtime.DurableRecord

/-!
# The durable checkpoint record

The writer and the reader of the record, and the round trip between them.
-/

open Dasall.Lib.Text Dasall.Lib.Hex Dasall.Lib.KeyValue Dasall.Lib.Disk Dasall.Contracts

namespace Dasall.Runtime

def checkpointRecordPath (root : StateRoot) (checkpointRef : Bytes) : Bytes :=
  recordPath "checkpoints" root checkpointRef

theorem checkpointRecordPath_isRecord (root : StateRoot) (checkpointRef : Bytes) :
    IsRecord (checkpointRecordPath root checkpointRef) := recordPath_isRecord _ _ _

def tagKey (index : Nat) : Bytes := str "tag." ++ decimal index

def budgetEntryPrefix (index : Nat) : Bytes := str "budget_entry." ++ decimal index ++ str "."

def budgetTypeCode : BudgetType → Int
  | .token => 0
  | .turn => 1
  | .toolCall => 2
  | .latency => 3
  | .replan => 4

def parseBudgetType (rawValue : UInt32) : Option BudgetType :=
  if rawValue = 0 then some .token
  else if rawValue = 1 then some .turn
  else if rawValue = 2 then some .toolCall
  else if rawValue = 3 then some .latency
  else if rawValue = 4 then some .replan
  else none

/-! ## Writing -/

def budgetEntryFields (index : Nat) (entry : BudgetSnapshotEntry) : List Entry :=
  let pre := budgetEntryPrefix index
  [integerField (pre ++ str "type") (budgetTypeCode entry.budgetType),
    integerField (pre ++ str "current") entry.current.toNat,
    integerField (pre ++ str "max") entry.max.toNat,
    integerField (pre ++ str "remaining") entry.remaining.toInt,
    optionalEncodedField (pre ++ str "reject_reason") entry.rejectReason]

def budgetSnapshotFields (snapshot : BudgetSnapshot) : List Entry :=
  [optionalIntegerField (str "budget_snapshot.snapshot_at_ms")
      (snapshot.snapshotAtMs.map fun at' => (at'.toNat : Int)),
    optionalEncodedField (str "budget_snapshot.overall_reject_reason")
      snapshot.overallRejectReason,
    integerField (str "budget_snapshot.entry_count") snapshot.entries.length] ++
  (snapshot.entries.mapIdx budgetEntryFields).flatten

def checkpointFields (checkpoint : Checkpoint) (checkpointId : Bytes) : List Entry :=
  [encodedField (str "checkpoint_id") checkpointId,
    integerField (str "state") (checkpoint.state.getD .unspecified).toRaw.toInt,
    encodedField (str "step_id") (checkpoint.stepId.getD []),
    encodedField (str "working_memory_snapshot") (checkpoint.workingMemorySnapshot.getD []),
    encodedField (str "pending_action") (checkpoint.pendingAction.getD []),
    optionalEncodedField (str "request_id") checkpoint.requestId,
    optionalEncodedField (str "goal_id") checkpoint.goalId,
    optionalEncodedField (str "belief_state_ref") checkpoint.beliefStateRef,
    optionalIntegerField (str "retry_count") (checkpoint.retryCount.map fun n => (n.toNat : Int)),
    optionalIntegerField (str "created_at") (checkpoint.createdAt.map Int64.toInt),
    integerField (str "tag_count") (checkpoint.tags.getD []).length]

def tagFields (tags : List Bytes) : List Entry :=
  tags.mapIdx fun index tag => encodedField (tagKey index) tag

/-- The lines of the record, in the order of the source. -/
def checkpointRecord (checkpoint : Checkpoint) (checkpointId : Bytes)
    (runtimeBudgetSnapshot : Option BudgetSnapshot) : List Entry :=
  checkpointFields checkpoint checkpointId ++ (tagFields (checkpoint.tags.getD []) ++
    integerField (str "budget_snapshot_present") (if runtimeBudgetSnapshot.isSome then 1 else 0) ::
      match runtimeBudgetSnapshot with
      | some snapshot => budgetSnapshotFields snapshot
      | none => [])

def checkpointWriteDetail : Option PublishFault → Bytes
  | some .createDirectories => str "checkpoint durable store could not create state directories"
  | some .openTemporary =>
    str "checkpoint durable store could not open the checkpoint record for writing"
  | some .rename =>
    str "checkpoint durable store could not atomically publish the checkpoint record"
  | none => str "checkpoint persisted in durable store"

/-- The file system afterwards, whether the write succeeded, and its detail. -/
def writeDurableCheckpointRecord (files : FileSystem) (fault : Option PublishFault)
    (root : StateRoot) (checkpoint : Checkpoint) (runtimeBudgetSnapshot : Option BudgetSnapshot) :
    FileSystem × Bool × Bytes :=
  match checkpoint.checkpointId with
  | none | some [] => (files, false, str "checkpoint durable store requires checkpoint_id")
  | some checkpointId =>
    let (files, failed) := files.publish fault (checkpointRecordPath root checkpointId)
      (writeEntries (checkpointRecord checkpoint checkpointId runtimeBudgetSnapshot))
    (files, failed.isNone, checkpointWriteDetail failed)

/-! ## Reading -/

structure ParsedCheckpointRecord where
  checkpoint : Checkpoint
  runtimeBudgetSnapshot : Option BudgetSnapshot
deriving DecidableEq

inductive DurableCheckpointReadStatus
  | notFound
  | loaded
  | corrupt
deriving DecidableEq, Repr

structure DurableCheckpointReadResult where
  status : DurableCheckpointReadStatus
  record : Option ParsedCheckpointRecord
  detail : Bytes
deriving DecidableEq

def readTags (fields : Fields) : Except Bytes (Option (List Bytes)) := do
  let tagCount ← decodeRequiredIntegerField .checkpoint fields (str "tag_count") stoul32
  if tagCount = 0 then .ok none
  else
    let tags ← readIndexed (fun index => decodeRequiredStringField .checkpoint fields (tagKey index))
      0 tagCount.toNat
    .ok (some tags)

def readBudgetEntry (fields : Fields) (index : Nat) : Except Bytes BudgetSnapshotEntry := do
  let pre := budgetEntryPrefix index
  let rawBudgetType ← decodeRequiredIntegerField .checkpoint fields (pre ++ str "type") stoul32
  let current ← decodeRequiredIntegerField .checkpoint fields (pre ++ str "current") stoull
  let max ← decodeRequiredIntegerField .checkpoint fields (pre ++ str "max") stoull
  let remaining ← decodeRequiredIntegerField .checkpoint fields (pre ++ str "remaining") stoll
  let rejectReason ← decodeOptionalStringField .checkpoint fields (pre ++ str "reject_reason")
  match parseBudgetType rawBudgetType with
  | none => .error (str "durable checkpoint record has an invalid budget type")
  | some budgetType => .ok { budgetType, current, max, remaining, rejectReason }

def readBudgetSnapshot (fields : Fields) : Except Bytes (Option BudgetSnapshot) := do
  let present ←
    decodeRequiredIntegerField .checkpoint fields (str "budget_snapshot_present") stoul32
  if present = 1 then
    let snapshotAtMs ← decodeOptionalIntegerField .checkpoint fields
      (str "budget_snapshot.snapshot_at_ms") stoull
    let overallRejectReason ← decodeOptionalStringField .checkpoint fields
      (str "budget_snapshot.overall_reject_reason")
    let entryCount ← decodeRequiredIntegerField .checkpoint fields
      (str "budget_snapshot.entry_count") stoul32
    let entries ← readIndexed (readBudgetEntry fields) 0 entryCount.toNat
    .ok (some { snapshotAtMs, entries, overallRejectReason })
  else .ok none

def readCheckpointFields (fields : Fields) (checkpointRef : Bytes) :
    Except Bytes ParsedCheckpointRecord := do
  let string := decodeRequiredStringField .checkpoint fields
  let optional := decodeOptionalStringField .checkpoint fields
  let checkpointId ← string (str "checkpoint_id")
  let stepId ← string (str "step_id")
  let workingMemorySnapshot ← string (str "working_memory_snapshot")
  let pendingAction ← string (str "pending_action")
  let requestId ← optional (str "request_id")
  let goalId ← optional (str "goal_id")
  let beliefStateRef ← optional (str "belief_state_ref")
  let retryCount ← decodeOptionalIntegerField .checkpoint fields (str "retry_count") stoul32
  let createdAt ← decodeOptionalIntegerField .checkpoint fields (str "created_at") stoll
  let rawState ← decodeRequiredIntegerField .checkpoint fields (str "state") stoul32
  let tags ← readTags fields
  let runtimeBudgetSnapshot ← readBudgetSnapshot fields
  if checkpointId = checkpointRef then
    .ok { checkpoint :=
            { checkpointId := some checkpointId
              state := some (.ofRaw rawState.toInt32)
              stepId := some stepId
              workingMemorySnapshot := some workingMemorySnapshot
              pendingAction := some pendingAction
              requestId, goalId, beliefStateRef, retryCount, createdAt, tags }
          runtimeBudgetSnapshot }
  else .error (recordDetail .checkpoint (str "checkpoint_id does not match file anchor"))

/-- `opens` says whether the file stream opens where the file exists. -/
def readDurableCheckpointRecord (files : FileSystem) (opens : Bool) (root : StateRoot)
    (checkpointRef : Bytes) : DurableCheckpointReadResult :=
  match files.files (checkpointRecordPath root checkpointRef) with
  | none => ⟨.notFound, none, str "checkpoint not found in durable store"⟩
  | some text =>
    if !opens then
      ⟨.corrupt, none, str "checkpoint durable store could not open the checkpoint record"⟩
    else
      match parseKeyValueFile text with
      | none => ⟨.corrupt, none, recordDetail .checkpoint
          (str "contains an invalid key-value line")⟩
      | some fields =>
        match readCheckpointFields fields checkpointRef with
        | .error detail => ⟨.corrupt, none, detail⟩
        | .ok record => ⟨.loaded, some record, str "checkpoint loaded from durable store"⟩

end Dasall.Runtime
