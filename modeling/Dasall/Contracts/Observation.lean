import Dasall.Lib.Guard

/-! # Errors, observations and their guards -/

open Dasall.Lib.Text Dasall.Lib.Guard

namespace Dasall.Contracts

/-- `enum class ResultCodeCategory`. A cast can give it a value no enumerator names. -/
inductive ResultCodeCategory
  | validation
  | policy
  | tool
  | provider
  | runtime
  | unknown
  | unlisted (raw : {raw : Int32 // raw < 0 ∨ 5 < raw})
deriving DecidableEq

structure ErrorDetails where
  code : Option Int32
  message : Bytes
  stage : Bytes
deriving DecidableEq

structure ErrorSourceRefMinimal where
  refType : Bytes
  refId : Bytes
deriving DecidableEq

structure ErrorInfo where
  failureType : Option ResultCodeCategory
  retryable : Option Bool
  safeToReplan : Option Bool
  details : ErrorDetails
  sourceRef : ErrorSourceRefMinimal
deriving DecidableEq

inductive ObservationSource
  | unspecified
  | toolExecution
  | workerAgent
  | retrieval
  | humanFeedback
  | unlisted (raw : {raw : Int32 // raw < 0 ∨ 4 < raw})
deriving DecidableEq

def ObservationSource.toRaw : ObservationSource → Int32
  | .unspecified => 0
  | .toolExecution => 1
  | .workerAgent => 2
  | .retrieval => 3
  | .humanFeedback => 4
  | .unlisted raw => raw.val

structure Observation where
  observationId : Option Bytes
  source : Option ObservationSource
  success : Option Bool
  payload : Option Bytes
  createdAt : Option Int64
  error : Option ErrorInfo
  toolCallId : Option Bytes
  workerTaskId : Option Bytes
  requestId : Option Bytes
  goalId : Option Bytes
  durationMs : Option Int64
deriving DecidableEq

/-! ## Guards -/

def isSupportedErrorSourceRefType (refType : Bytes) : Bool :=
  refType == str "observation" || refType == str "tool_call" || refType == str "worker_task" ||
    refType == str "checkpoint"

def validateErrorInfoRequiredFields (errorInfo : ErrorInfo) : Check Bytes := do
  require errorInfo.failureType.isSome "failure_type is required"
  require (errorInfo.failureType != some .unknown) "failure_type cannot be unknown"
  require errorInfo.retryable.isSome "retryable is required"
  require errorInfo.safeToReplan.isSome "safe_to_replan is required"
  require errorInfo.details.code.isSome "details.code is required"
  require (!errorInfo.details.message.isEmpty) "details.message is required"
  require (!errorInfo.details.stage.isEmpty) "details.stage is required"
  require (!errorInfo.sourceRef.refType.isEmpty) "source_ref.ref_type is required"
  require (isSupportedErrorSourceRefType errorInfo.sourceRef.refType)
    "source_ref.ref_type is not supported"
  require (!errorInfo.sourceRef.refId.isEmpty) "source_ref.ref_id is required"
  pass "error info is valid"

def validateObservationRequiredFields (obs : Observation) : Check Bytes := do
  require (hasNonEmptyValue obs.observationId) "observation_id is required and must be non-empty"
  require (obs.source.isSome && obs.source != some .unspecified)
    "source is required and must not be Unspecified"
  require obs.success.isSome "success is required"
  require (hasNonEmptyValue obs.payload) "payload is required and must be non-empty"
  require (obs.createdAt.any fun createdAt => 0 < createdAt)
    "created_at is required and must be a positive timestamp"
  pass "all required fields present"

def validateObservationBoundary (obs : Observation) : Check Bytes := do
  let _ ← validateObservationRequiredFields obs
  let source ← deref obs.source
  require (0 ≤ source.toRaw && source.toRaw ≤ 4)
    "source value is outside the known ObservationSource range"
  require (obs.durationMs.all fun durationMs => 0 < durationMs)
    "duration_ms must be positive when present"
  require (!(obs.success == some false && obs.error.isNone))
    "error must be present when success is false"
  require (!(obs.success == some true && obs.error.isSome))
    "error must not be present when success is true"
  pass "observation boundary validation passed"

/-- Which correlation fields an observation may carry depends on its source. -/
def sourceCorrelation (obs : Observation) : ObservationSource → Check Unit
  | .toolExecution => do
    require (hasNonEmptyValue obs.toolCallId)
      "tool_call_id is required when source is ToolExecution"
    require obs.workerTaskId.isNone "worker_task_id must not be present when source is ToolExecution"
  | .workerAgent => do
    require (hasNonEmptyValue obs.workerTaskId)
      "worker_task_id is required when source is WorkerAgent"
    require obs.toolCallId.isNone "tool_call_id must not be present when source is WorkerAgent"
  | .retrieval =>
    require obs.workerTaskId.isNone "worker_task_id must not be present when source is Retrieval"
  | .humanFeedback => do
    require obs.toolCallId.isNone "tool_call_id must not be present when source is HumanFeedback"
    require obs.workerTaskId.isNone
      "worker_task_id must not be present when source is HumanFeedback"
  | .unspecified | .unlisted _ => .ok ()

def validateObservationSourceCorrelation (obs : Observation) : Check Bytes := do
  require (obs.source.isSome && obs.source != some .unspecified)
    "source must be present and not Unspecified before correlation validation"
  let source ← deref obs.source
  require (nonEmptyWhenPresent obs.toolCallId) "tool_call_id must be non-empty when present"
  require (nonEmptyWhenPresent obs.workerTaskId) "worker_task_id must be non-empty when present"
  require (nonEmptyWhenPresent obs.requestId) "request_id must be non-empty when present"
  require (nonEmptyWhenPresent obs.goalId) "goal_id must be non-empty when present"
  sourceCorrelation obs source
  pass "observation source correlation validation passed"

/-! ## What the guards guarantee -/

theorem isSome_and_ne {α : Type} [DecidableEq α] (o : Option α) (excluded : α) :
    (o.isSome && o != some excluded) = true ↔ ∃ value, o = some value ∧ value ≠ excluded := by
  cases o <;> simp

theorem errorInfoRequiredFields_engaged (errorInfo : ErrorInfo) :
    Engaged (validateErrorInfoRequiredFields errorInfo) := by
  unfold validateErrorInfoRequiredFields
  iterate 10 refine engaged_bind _ _ (engaged_require _ _) fun _ _ => ?_
  exact engaged_pass _

variable (obs : Observation) (reason : Bytes)

theorem observationRequiredFields_spec (h : validateObservationRequiredFields obs = .ok reason) :
    (∃ id, obs.observationId = some id ∧ id ≠ []) ∧
    (∃ source, obs.source = some source ∧ source ≠ .unspecified) ∧
    (∃ success, obs.success = some success) := by
  simp only [validateObservationRequiredFields, bind_eq_ok, require_eq_ok, isSome_and_ne,
    hasNonEmptyValue_iff, Option.isSome_iff_exists] at h
  obtain ⟨_, hid, _, hsource, _, hsuccess, _⟩ := h
  exact ⟨hid, hsource, hsuccess⟩

theorem observationRequiredFields_engaged :
    Engaged (validateObservationRequiredFields obs) := by
  unfold validateObservationRequiredFields
  iterate 5 refine engaged_bind _ _ (engaged_require _ _) fun _ _ => ?_
  exact engaged_pass _

theorem observationBoundary_spec (h : validateObservationBoundary obs = .ok reason) :
    (∃ id, obs.observationId = some id ∧ id ≠ []) ∧
    (∃ source, obs.source = some source ∧ source ≠ .unspecified) ∧
    (∃ success, obs.success = some success) := by
  simp only [validateObservationBoundary, bind_eq_ok] at h
  obtain ⟨reason', hrequired, -⟩ := h
  exact observationRequiredFields_spec obs reason' hrequired

theorem observationBoundary_engaged :
    Engaged (validateObservationBoundary obs) := by
  unfold validateObservationBoundary
  refine engaged_bind _ _ (observationRequiredFields_engaged obs) fun reason hreason => ?_
  obtain ⟨-, ⟨source, hsource, -⟩, -⟩ := observationRequiredFields_spec obs reason hreason
  refine engaged_deref_bind _ _ _ hsource ?_
  iterate 4 refine engaged_bind _ _ (engaged_require _ _) fun _ _ => ?_
  exact engaged_pass _

theorem sourceCorrelation_engaged (source : ObservationSource) :
    Engaged (sourceCorrelation obs source) := by
  cases source with
  | toolExecution | workerAgent | humanFeedback =>
    exact engaged_bind _ _ (engaged_require _ _) fun _ _ => engaged_require _ _
  | retrieval => exact engaged_require _ _
  | unspecified | unlisted _ => exact stops_ok _ _

theorem observationSourceCorrelation_engaged :
    Engaged (validateObservationSourceCorrelation obs) := by
  unfold validateObservationSourceCorrelation
  refine engaged_bind _ _ (engaged_require _ _) fun _ hsource => ?_
  obtain ⟨source, hsource, -⟩ := (isSome_and_ne _ _).mp ((require_eq_ok ..).mp hsource)
  refine engaged_deref_bind _ _ _ hsource ?_
  iterate 4 refine engaged_bind _ _ (engaged_require _ _) fun _ _ => ?_
  exact engaged_bind _ _ (sourceCorrelation_engaged obs source) fun _ _ => engaged_pass _

end Dasall.Contracts
