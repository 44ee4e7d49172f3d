import Dasall.Contracts.Checkpoint

/-!
# Runtime states, and how checkpoints fold them

The fold and the resume targets are two tables of the source. They agree on every state
a checkpoint can be resumed from.
-/

open Dasall.Lib.Text Dasall.Contracts

namespace Dasall.Runtime

/-- `enum class RuntimeState : std::uint8_t`. -/
inductive RuntimeState
  | idle
  | receiving
  | planning
  | reasoning
  | waitingClarify
  | waitingConfirm
  | toolCalling
  | waitingExternal
  | reflecting
  | failedSafe
  | responding
  | auditing
  | persisting
  | completed
  | failed
  | degraded
  | safeMode
  | unlisted (raw : {raw : UInt8 // 16 < raw})
deriving DecidableEq

/-- `runtime_state_catalog()`: the enumerators in the order of their values. -/
def runtimeStateCatalog : List RuntimeState :=
  [.idle, .receiving, .planning, .reasoning, .waitingClarify, .waitingConfirm, .toolCalling,
    .waitingExternal, .reflecting, .failedSafe, .responding, .auditing, .persisting, .completed,
    .failed, .degraded, .safeMode]

def RuntimeState.toRaw : RuntimeState → UInt8
  | .unlisted raw => raw.val
  | state => UInt8.ofNat (runtimeStateCatalog.idxOf state)

def RuntimeState.ofRaw (raw : UInt8) : RuntimeState :=
  if h : 16 < raw then .unlisted ⟨raw, h⟩ else runtimeStateCatalog.getD raw.toNat .idle

theorem RuntimeState.ofRaw_toRaw (state : RuntimeState) : ofRaw state.toRaw = state := by
  cases state with
  | unlisted raw => simp [toRaw, ofRaw, raw.property]
  | _ => decide

inductive RuntimeErrorCode
  | rtE000Unspecified
  | rtE100ConfigMissing
  | rtE101ProfileInvalid
  | rtE102DependencyUnavailable
  | rtE200IllegalTransition
  | rtE201GuardViolated
  | rtE202StateInconsistent
  | rtE300BudgetExhausted
  | rtE301TurnOverrun
  | rtE302ToolCallOverrun
  | rtE303LatencyOverrun
  | rtE304ReplanOverrun
  | rtE400SessionNotFound
  | rtE401SessionInconsistent
  | rtE410CheckpointCorrupt
  | rtE411CheckpointSaveFailed
  | rtE412ResumeRejected
  | rtE500RecoveryRejected
  | rtE501RecoveryEscalated
  | rtE510SafeModeEntered
  | rtE511DegradeEntered
  | rtE600LlmTimeout
  | rtE601ToolTimeout
  | rtE602MemoryTimeout
  | rtE603KnowledgeTimeout
deriving DecidableEq, Repr

def runtimeStateName : RuntimeState → Bytes
  | .idle => str "Idle"
  | .receiving => str "Receiving"
  | .planning => str "Planning"
  | .reasoning => str "Reasoning"
  | .waitingClarify => str "WaitingClarify"
  | .waitingConfirm => str "WaitingConfirm"
  | .toolCalling => str "ToolCalling"
  | .waitingExternal => str "WaitingExternal"
  | .reflecting => str "Reflecting"
  | .failedSafe => str "FailedSafe"
  | .responding => str "Responding"
  | .auditing => str "Auditing"
  | .persisting => str "Persisting"
  | .completed => str "Completed"
  | .failed => str "Failed"
  | .degraded => str "Degraded"
  | .safeMode => str "SafeMode"
  | .unlisted _ => str "Unknown"

/-! ## The two tables -/

def toCheckpointState : RuntimeState → Option CheckpointState
  | .idle => some .unspecified
  | .receiving | .planning | .reasoning | .toolCalling | .reflecting | .responding | .auditing
  | .persisting => some .running
  | .waitingClarify => some .paused
  | .waitingConfirm => some .waitingConfirm
  | .waitingExternal => some .waitingTool
  | .completed => some .succeeded
  | .failed | .failedSafe | .degraded | .safeMode => some .failed
  | .unlisted _ => none

def resumeTargetState : CheckpointState → Option RuntimeState
  | .running => some .reasoning
  | .paused => some .waitingClarify
  | .waitingConfirm => some .waitingConfirm
  | .waitingTool => some .waitingExternal
  | .failed | .succeeded | .unspecified | .unlisted _ => none

def canResumeFrom : CheckpointState → Bool
  | .running | .paused | .waitingConfirm | .waitingTool => true
  | .failed | .succeeded | .unspecified | .unlisted _ => false

variable (state : CheckpointState)

theorem resumeTargetState_folds (target : RuntimeState)
    (h : resumeTargetState state = some target) : toCheckpointState target = some state := by
  cases state <;> cases h <;> rfl

theorem resumeTargetState_isSome :
    (resumeTargetState state).isSome = canResumeFrom state := by
  cases state <;> rfl

theorem canResumeFrom_iff :
    canResumeFrom state = true ↔
      state = .running ∨ state = .paused ∨ state = .waitingConfirm ∨ state = .waitingTool := by
  cases state <;> simp [canResumeFrom]

end Dasall.Runtime
