import Dasall.Lib.Separated
import Dasall.Lib.Threads
import Dasall.Services.ResultMapper
import Mathlib.Data.Finset.Erase
import Mathlib.Data.Finset.Insert
import Mathlib.Data.List.AList

/-!
# The execution command lane

A call is checked, looked up in the cache of results, takes the serialization key of its action where
the action is critical, goes to an adapter, and leaves the result in the cache. The lane locks its
cache and its keys for each of these accesses alone, so the calls of several threads interleave.
-/

open Dasall.Contracts Dasall.Infra.Policy Dasall.Lib Dasall.Lib.Text

namespace Dasall.Services

/-! ## Requests -/

structure CapabilityTargetRef where
  capabilityId : Bytes
  targetId : Bytes
deriving DecidableEq

structure ServiceCallContext where
  requestId : Bytes
deriving DecidableEq

structure ExecutionCommandRequest where
  context : ServiceCallContext
  target : CapabilityTargetRef
  action : Bytes
  argumentsJson : Bytes
  idempotencyKey : Option Bytes
deriving DecidableEq

structure ExecutionCompensationRequest where
  context : ServiceCallContext
  target : CapabilityTargetRef
  compensationAction : Bytes
  argumentsJson : Bytes
  sourceExecutionId : Bytes
  reasonCode : Bytes
deriving DecidableEq

structure ExecutionCommandLaneDependencies where
  router : Bool := true
  bridge : Bool := true
  resultMapper : Bool := true
  criticalActions : List Bytes := []
  highRiskActions : List Bytes := []
  allowHighRiskActions : Bool := false
  makeExecutionId : Option (ExecutionCommandRequest → Bytes) := none
  makeCompensationExecutionId : Option (ExecutionCompensationRequest → Bytes) := none

def isSafeModeAction (action : Bytes) : Bool :=
  action = str "safe_mode.enter" || action = str "safe_mode.exit"

def isHighRiskAction (dependencies : ExecutionCommandLaneDependencies) (action : Bytes) : Bool :=
  isSafeModeAction action || dependencies.highRiskActions.contains action

def isCriticalAction (dependencies : ExecutionCommandLaneDependencies) (action : Bytes)
    (highRiskAction : Bool) : Bool := highRiskAction || dependencies.criticalActions.contains action

def makeErrorPayload (errorCode message : Bytes) : Bytes :=
  str "\x7b\"error\":\"" ++ errorCode ++ str "\",\"message\":\"" ++ message ++ str "\"\x7d"

/-- The parts are joined as they are. -/
def makeIdempotencyCacheKey (target : CapabilityTargetRef) (action idempotencyKey : Bytes) :
    Bytes :=
  target.capabilityId ++ str ":" ++ target.targetId ++ str ":" ++ action ++ str ":" ++
    idempotencyKey

def makeSerializationKey (target : CapabilityTargetRef) (action : Bytes) : Bytes :=
  target.capabilityId ++ str ":" ++ target.targetId ++ str ":" ++ action

def defaultExecutionId (request : ExecutionCommandRequest) : Bytes :=
  match request.idempotencyKey with
  | some key => str "exec:" ++ key
  | none => str "exec:" ++ request.context.requestId ++ str ":" ++ request.action

def defaultCompensationExecutionId (request : ExecutionCompensationRequest) : Bytes :=
  str "comp:" ++ request.sourceExecutionId ++ str ":" ++ request.compensationAction

/-! ## Results of the lane -/

def makeReceipt (receiptRef targetId providerStatusCode payloadJson : Bytes)
    (evidenceRefs : List Bytes) : AdapterReceipt :=
  { receiptRef, targetId, providerStatusCode, payloadJson, evidenceRefs }

def makeRuntimeFailure (message stage refId : Bytes) : ExecutionCommandResult :=
  { code := some .runtimeRetryExhausted
    executionId := []
    payloadJson := []
    sideEffects := []
    compensationHints := []
    error := some
      { failureType := some .runtime
        retryable := some false
        safeToReplan := some false
        details :=
          { code := some ResultCode.runtimeRetryExhausted.toRaw
            message
            stage }
        sourceRef :=
          { refType := str "services"
            refId } } }

def applyErrorOverride (error : Option ErrorInfo) (message stage : Bytes) : Option ErrorInfo :=
  error.map fun error => { error with details := { error.details with message, stage } }

def makeErrorResult (dependencies : ExecutionCommandLaneDependencies)
    (targetId receiptRef providerStatusCode message stage : Bytes) (evidenceRefs : List Bytes)
    (executionId : Bytes) : ExecutionCommandResult :=
  if !dependencies.resultMapper then makeRuntimeFailure message stage receiptRef
  else
    let result := toExecutionCommandResult
      (makeReceipt receiptRef targetId providerStatusCode
        (makeErrorPayload providerStatusCode message) evidenceRefs) [] executionId
    { result with error := applyErrorOverride result.error message stage }

/-! ## Calls -/

inductive LaneCall
  | execute (context : ServiceCallContext) (request : ExecutionCommandRequest)
  | compensate (context : ServiceCallContext) (request : ExecutionCompensationRequest)
deriving DecidableEq

/-- What is executed under an idempotency key. -/
structure LaneTuple where
  target : CapabilityTargetRef
  action : Bytes
  idempotencyKey : Bytes
deriving DecidableEq

def LaneTuple.cacheKey (tuple : LaneTuple) : Bytes :=
  makeIdempotencyCacheKey tuple.target tuple.action tuple.idempotencyKey

/-- The arguments of `execute_impl`. -/
structure LaneJob where
  requestId : Bytes
  target : CapabilityTargetRef
  action : Bytes
  payloadJson : Bytes
  executionId : Bytes
  idempotencyKey : Option Bytes
  criticalAction : Bool
  highRiskAction : Bool
deriving DecidableEq

namespace LaneJob

def tuple (job : LaneJob) : Option LaneTuple :=
  job.idempotencyKey.map fun idempotencyKey =>
    { target := job.target, action := job.action, idempotencyKey }

def idempotencyCacheKey (job : LaneJob) : Option Bytes := job.tuple.map LaneTuple.cacheKey

def serializationKey (job : LaneJob) : Option Bytes :=
  if job.criticalAction then some (makeSerializationKey job.target job.action) else none

end LaneJob

/-- The checks of `execute` and what it passes on, or the result of the check that fails. -/
def prepareExecute (dependencies : ExecutionCommandLaneDependencies)
    (context : ServiceCallContext) (request : ExecutionCommandRequest) :
    Except ExecutionCommandResult LaneJob :=
  let refuse (message : Bytes) := makeErrorResult dependencies request.target.targetId
    (str "validator:" ++ context.requestId) (str "invalid_request") message
    (str "execution_command_lane") [] []
  let highRiskAction := isHighRiskAction dependencies request.action
  let criticalAction := isCriticalAction dependencies request.action highRiskAction
  if request.target.capabilityId.isEmpty || request.target.targetId.isEmpty ||
      request.action.isEmpty then
    .error (refuse (str "capability_id, target_id, and action are required"))
  else if criticalAction && request.idempotencyKey.isNone then
    .error (refuse (str "critical actions require idempotency_key"))
  else
    .ok
      { requestId := context.requestId
        target := request.target
        action := request.action
        payloadJson := request.argumentsJson
        executionId := (dependencies.makeExecutionId.getD defaultExecutionId) request
        idempotencyKey := request.idempotencyKey
        criticalAction
        highRiskAction }

/-- A compensation is critical and never of high risk, and its key is the execution it undoes. -/
def prepareCompensate (dependencies : ExecutionCommandLaneDependencies)
    (context : ServiceCallContext) (request : ExecutionCompensationRequest) :
    Except ExecutionCommandResult LaneJob :=
  if request.target.capabilityId.isEmpty || request.target.targetId.isEmpty ||
      request.compensationAction.isEmpty || request.sourceExecutionId.isEmpty ||
      request.reasonCode.isEmpty then
    .error (makeErrorResult dependencies request.target.targetId
      (str "validator:" ++ context.requestId) (str "invalid_request")
      (str "compensation requires capability_id, target_id, compensation_action, source_execution_id, and reason_code")
      (str "execution_command_lane") [] [])
  else
    .ok
      { requestId := context.requestId
        target := request.target
        action := request.compensationAction
        payloadJson := request.argumentsJson
        executionId :=
          (dependencies.makeCompensationExecutionId.getD defaultCompensationExecutionId) request
        idempotencyKey := some request.sourceExecutionId
        criticalAction := true
        highRiskAction := false }

def LaneCall.prepare (dependencies : ExecutionCommandLaneDependencies) :
    LaneCall → Except ExecutionCommandResult LaneJob
  | .execute context request => prepareExecute dependencies context request
  | .compensate context request => prepareCompensate dependencies context request

/-! ## Steps -/

structure ExecutionCommandLane where
  idempotencyCache : AList fun _ : Bytes => ExecutionCommandResult
  inFlightSerializationKeys : Finset Bytes

inductive LaneOutcome
  | refused (result : ExecutionCommandResult)
  | served (result : ExecutionCommandResult)

/-- Where a call is. -/
inductive LaneState
  | called (call : LaneCall)
  | probing (job : LaneJob)
  | acquiring (job : LaneJob)
  | routing (job : LaneJob)
  | invoking (job : LaneJob)
  | storing (job : LaneJob) (result : ExecutionCommandResult)
  | releasing (job : LaneJob) (outcome : LaneOutcome)
  | finished (job : LaneJob) (outcome : LaneOutcome)
  | rejected (result : ExecutionCommandResult)

inductive AdapterRouteFailure
  | invalidRequest
  | capabilityUnsupported
  | routeUnavailable
  | fallbackBlocked
  | routeNotPermitted
deriving DecidableEq

def routeFailureName : AdapterRouteFailure → Bytes
  | .invalidRequest => str "invalid_request"
  | .capabilityUnsupported => str "capability_unsupported"
  | .routeUnavailable => str "route_unavailable"
  | .fallbackBlocked => str "fallback_blocked"
  | .routeNotPermitted => str "route_not_permitted"

/-- What the router and the adapter answer, where a step asks them. -/
structure LaneAnswer where
  routeFailure : Option (AdapterRouteFailure × Bytes) := none
  receipt : AdapterReceipt
  compensationHints : List Bytes := []

inductive LaneEvent
  | quiet
  | invoked (job : LaneJob)
  | completed (job : LaneJob) (result : ExecutionCommandResult)

section
variable (dependencies : ExecutionCommandLaneDependencies)

def policyDenied (job : LaneJob) : ExecutionCommandResult :=
  makeErrorResult dependencies job.target.targetId (str "policy:cap-gate-08") (str "policy_denied")
    (str "high-risk action remains gated until CAP-GATE-08 is satisfied")
    (str "execution_command_lane") [str "cap-gate-08"] job.executionId

def targetBusy (job : LaneJob) : ExecutionCommandResult :=
  makeErrorResult dependencies job.target.targetId
    (str "target-lease:" ++ makeSerializationKey job.target job.action) (str "target_busy")
    (str "critical action is already in progress for target") (str "execution_command_lane") []
    job.executionId

def routeRefused (job : LaneJob) (failure : AdapterRouteFailure) (reason : Bytes) :
    ExecutionCommandResult :=
  makeErrorResult dependencies job.target.targetId (str "route:" ++ job.requestId)
    (routeFailureName failure) reason (str "adapter_router")
    (if failure = .routeNotPermitted then [str "policy://route/" ++ job.requestId] else [])
    job.executionId

/-- The result of an invocation. A status code of the adapter puts the lane's stage on the error. -/
def invocationResult (job : LaneJob) (answer : LaneAnswer) : ExecutionCommandResult :=
  let result := toExecutionCommandResult answer.receipt answer.compensationHints job.executionId
  if answer.receipt.providerStatusCode.isEmpty then result
  else
    { result with
      error := result.error.map fun error =>
        { error with details := { error.details with stage := str "execution_command_lane" } } }

def tryGetCachedResult (lane : ExecutionCommandLane) (job : LaneJob) :
    Option ExecutionCommandResult := job.idempotencyCacheKey.bind lane.idempotencyCache.lookup

/-- What follows the lookup, up to the next lock. -/
def afterProbe (lane : ExecutionCommandLane) (job : LaneJob) : LaneState :=
  if !dependencies.router || !dependencies.bridge || !dependencies.resultMapper then
    .finished job (.refused (makeRuntimeFailure (str "command lane dependencies are not configured")
      (str "execution_command_lane") (str "command_lane.dependencies")))
  else
    match tryGetCachedResult lane job with
    | some result => .finished job (.served result)
    | none =>
      if job.highRiskAction && !dependencies.allowHighRiskActions then
        .finished job (.refused (policyDenied dependencies job))
      else if job.criticalAction then .acquiring job
      else .routing job

def acquireKey (lane : ExecutionCommandLane) (job : LaneJob) : ExecutionCommandLane × LaneState :=
  let key := makeSerializationKey job.target job.action
  if key ∈ lane.inFlightSerializationKeys then
    (lane, .finished job (.refused (targetBusy dependencies job)))
  else
    ({ lane with inFlightSerializationKeys := insert key lane.inFlightSerializationKeys },
      .routing job)

def cacheResult (lane : ExecutionCommandLane) (job : LaneJob) (result : ExecutionCommandResult) :
    ExecutionCommandLane :=
  match job.idempotencyCacheKey with
  | none => lane
  | some key => { lane with idempotencyCache := lane.idempotencyCache.insert key result }

def releaseKey (lane : ExecutionCommandLane) (job : LaneJob) : ExecutionCommandLane :=
  match job.serializationKey with
  | none => lane
  | some key =>
    { lane with inFlightSerializationKeys := lane.inFlightSerializationKeys.erase key }

def actLane (answer : LaneAnswer) (lane : ExecutionCommandLane) :
    LaneState → (ExecutionCommandLane × LaneState) × LaneEvent
  | .called call =>
    match call.prepare dependencies with
    | .error result => ((lane, .rejected result), .quiet)
    | .ok job => ((lane, .probing job), .quiet)
  | .probing job => ((lane, afterProbe dependencies lane job), .quiet)
  | .acquiring job => (acquireKey dependencies lane job, .quiet)
  | .routing job =>
    match answer.routeFailure with
    | some (failure, reason) =>
      ((lane, .releasing job (.refused (routeRefused dependencies job failure reason))), .quiet)
    | none => ((lane, .invoking job), .invoked job)
  | .invoking job =>
    ((lane, .storing job (invocationResult job answer)),
      .completed job (invocationResult job answer))
  | .storing job result => ((cacheResult lane job result, .releasing job (.served result)), .quiet)
  | .releasing job outcome => ((releaseKey lane job, .finished job outcome), .quiet)
  | .finished job outcome => ((lane, .finished job outcome), .quiet)
  | .rejected result => ((lane, .rejected result), .quiet)

abbrev stepLane {ι : Type} [DecidableEq ι] :
    Threads ι ExecutionCommandLane LaneState → ι × LaneAnswer →
      Threads ι ExecutionCommandLane LaneState × LaneEvent :=
  Threads.step (actLane dependencies)

end

/-- A new lane, and a call in each thread. -/
def startLane {ι : Type} (calls : ι → LaneCall) : Threads ι ExecutionCommandLane LaneState where
  shared := { idempotencyCache := ∅, inFlightSerializationKeys := ∅ }
  locals := fun thread => .called (calls thread)

/-! ## From the mapper to the caller -/

/-- Where a call is some actions after its adapter answered. -/
def LaneState.returning (job : LaneJob) (result : ExecutionCommandResult) : Nat → LaneState
  | 0 => .storing job result
  | 1 => .releasing job (.served result)
  | _ + 2 => .finished job (.served result)

theorem actLane_returning (dependencies : ExecutionCommandLaneDependencies) (answer : LaneAnswer)
    (lane : ExecutionCommandLane) (job : LaneJob) (result : ExecutionCommandResult) (n : Nat) :
    (actLane dependencies answer lane (.returning job result n)).1.2 =
      .returning job result (n + 1) := by
  match n with
  | 0 => rfl
  | 1 => rfl
  | _ + 2 => rfl

section
variable {ι : Type} [DecidableEq ι] (dependencies : ExecutionCommandLaneDependencies)

/-- A call keeps its result over its own actions and those of every other call. -/
theorem returning_run (s : Threads ι ExecutionCommandLane LaneState) (thread : ι) (job : LaneJob)
    (result : ExecutionCommandResult) (n : Nat) (schedule : List (ι × LaneAnswer))
    (h : s.locals thread = .returning job result n) :
    (Run.run (stepLane dependencies) s schedule).1.locals thread =
      .returning job result (n + schedule.countP fun input => input.1 = thread) := by
  induction schedule generalizing s n with
  | nil => exact h
  | cons input schedule ih =>
    rw [Run.run_cons]
    by_cases hself : input.1 = thread
    · subst hself
      have hnext : (stepLane dependencies s input).1.locals input.1 =
          .returning job result (n + 1) := by
        rw [Threads.step_locals_self, h, actLane_returning]
      rw [ih _ _ hnext, List.countP_cons_of_pos (by simp)]
      congr 1
      omega
    · have hnext : (stepLane dependencies s input).1.locals thread = .returning job result n := by
        rw [Threads.step_locals_other _ _ _ _ (Ne.symm hself), h]
      rw [ih _ _ hnext, List.countP_cons_of_neg (by simpa using hself)]

/-- A status code of the adapter puts the stage of the lane on the error. -/
def withLaneStage (receipt : AdapterReceipt) (result : ExecutionCommandResult) :
    ExecutionCommandResult :=
  if receipt.providerStatusCode.isEmpty then result
  else
    { result with
      error := result.error.map fun error =>
        { error with details := { error.details with stage := str "execution_command_lane" } } }

/--
The law of side effects holds exactly of the accounted receipts and of those with nothing to tell.
The failures of all others tell nothing, and the lane returns what the mapper made, under its stage.
-/
theorem sideEffects_told_iff (receipt : AdapterReceipt) (compensationHints : List Bytes)
    (executionId : Bytes) (successCode : Option ResultCode) :
    (SideEffectsSafe receipt (mapResult receipt compensationHints)
        ((mapResult receipt compensationHints).toCommandResult executionId successCode) ↔
      receipt.Accounted compensationHints ∨
        receipt.sideEffects = [] ∧ ¬receipt.ReportsPartial) ∧
    (¬receipt.Accounted compensationHints →
      KeepsNothing (mapResult receipt compensationHints)
        ((mapResult receipt compensationHints).toCommandResult executionId successCode)) ∧
    ∀ (s : Threads ι ExecutionCommandLane LaneState) (thread : ι) (job : LaneJob)
      (schedule : List (ι × LaneAnswer)), s.locals thread = .invoking job →
      (Run.run (stepLane dependencies) s
          ((thread, @LaneAnswer.mk none receipt compensationHints) :: schedule)).1.locals thread =
        .returning job
          (withLaneStage receipt
            ((mapResult receipt compensationHints).toCommandResult job.executionId none))
          (schedule.countP fun input => input.1 = thread) := by
  refine ⟨sideEffectsSafe_iff receipt compensationHints executionId successCode,
    keepsNothing_of_not_accounted receipt compensationHints executionId successCode, ?_⟩
  intro s thread job schedule hinvoking
  rw [Run.run_cons, returning_run dependencies _ thread job _ 0 schedule ?_, Nat.zero_add]
  rw [Threads.step_locals_self, hinvoking, ← toExecutionCommandResult_eq]
  rfl

end

/-- A partial outcome without evidence: its side effect is gone, and it may be planned anew. -/
def unverifiedPartial : AdapterReceipt where
  receiptRef := str "receipt"
  targetId := str "switch"
  transportOutcome := .partly
  providerStatusCode := str "partial_side_effect"
  payloadJson := []
  sideEffects := [str "device.toggled"]

theorem unverified_sideEffect_dropped :
    ¬ ∀ (receipt : AdapterReceipt) (compensationHints : List Bytes) (executionId : Bytes)
      (successCode : Option ResultCode),
      SideEffectsSafe receipt (mapResult receipt compensationHints)
        ((mapResult receipt compensationHints).toCommandResult executionId successCode) := by
  intro h
  have hsafe := h unverifiedPartial [str "device.untoggle"] (str "exec") none
  have hgone := hsafe.none_of_none (by decide +kernel)
  revert hgone
  decide

def unverifiedJob : LaneJob where
  requestId := str "req"
  target := { capabilityId := str "cap", targetId := str "switch" }
  action := str "toggle"
  payloadJson := []
  executionId := str "exec"
  idempotencyKey := none
  criticalAction := false
  highRiskAction := false

/-- One call, whose adapter is about to answer. -/
def invokingLane : Threads Unit ExecutionCommandLane LaneState where
  shared := { idempotencyCache := ∅, inFlightSerializationKeys := ∅ }
  locals := fun _ => .invoking unverifiedJob

theorem unverifiedPartial_returned :
    KeepsNothing (mapResult unverifiedPartial [])
      ((mapResult unverifiedPartial []).toCommandResult (str "exec") none) ∧
    (Run.run (stepLane {}) invokingLane
        [((), @LaneAnswer.mk none unverifiedPartial []), ((), @LaneAnswer.mk none unverifiedPartial []),
          ((), @LaneAnswer.mk none unverifiedPartial [])]).1.locals () =
      .finished unverifiedJob (.served (withLaneStage unverifiedPartial
        ((mapResult unverifiedPartial []).toCommandResult (str "exec") none))) := by
  have hlaw := @sideEffects_told_iff Unit _ {} unverifiedPartial [] (str "exec") none
  refine ⟨hlaw.2.1 ?_, hlaw.2.2 invokingLane () unverifiedJob _ rfl⟩
  rintro (hnone | ⟨-, -, hevidence, -⟩)
  · revert hnone
    decide +kernel
  · exact hevidence rfl

end Dasall.Services
