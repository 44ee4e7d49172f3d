import Dasall.Contracts.Recovery
import Dasall.Tools.Execution.CompensationLedger

/-!
# The multi-agent coordinator

The tool results of a request go into one observation, one recommendation and, where something failed
and a checkpoint is there, one recovery request. What may be replayed is read off the compensation
ledger.
-/

open Dasall.Contracts Dasall.Contracts.Tool Dasall.Lib.Text Dasall.Tools Dasall.Tools.Execution

namespace Dasall.MultiAgent

structure MultiAgentRequest where
  parentRequestId : Option Bytes := none
  parentTaskId : Option Bytes := none
  goalFragment : Option Bytes := none
  planFragment : Option Bytes := none
deriving DecidableEq

structure MultiAgentExecutionContext where
  traceId : Option Bytes := none
  requestId : Option Bytes := none
  goalId : Option Bytes := none
  checkpoint : Option Checkpoint := none
  runtimeBudgetSnapshot : Option BudgetSnapshot := none
  retryCount : Option UInt32 := none
  latestObservation : Option Observation := none
  toolResults : List ToolResult := []
deriving DecidableEq

structure MultiAgentResult where
  subtaskResults : Option (List Bytes)
  mergedResult : Option Bytes
  recommendedNextAction : Option Bytes
  conflicts : Option (List Bytes)
  workerTraceRefs : Option (List Bytes)
  failureSummary : Option Bytes
deriving DecidableEq

structure SubTaskGraph where
  graphId : Option Bytes
  rootTaskId : Option Bytes
  taskIds : Option (List Bytes)
  graphRevision : Option UInt32
deriving DecidableEq

/-- An observation with the two fields that no guard reads. -/
structure EmittedObservation extends Observation where
  sideEffects : Option (List Bytes) := none
  tags : Option (List Bytes) := none
deriving DecidableEq

structure MultiAgentExecutionReport where
  disabled : Bool
  multiAgentResult : Option MultiAgentResult
  graphSnapshot : Option SubTaskGraph
  emittedObservations : List EmittedObservation
  compensationHints : List ToolCompensationHint
  recoveryRequest : Option RecoveryRequest
  auditRefs : List Bytes

def multiAgentFailureCode : Int32 := 18018

def selectString (value : Option Bytes) (fallback : Bytes) : Bytes :=
  match value with
  | some text => if text.isEmpty then fallback else text
  | none => fallback

def buildWorkerTaskId (request : MultiAgentRequest) : Bytes :=
  str "worker:" ++ selectString request.parentTaskId (str "multi-agent-parent")

def buildGraphId (request : MultiAgentRequest) : Bytes :=
  str "graph:" ++ selectString request.parentTaskId (str "multi-agent-parent")

def collectSideEffects (context : MultiAgentExecutionContext) : List Bytes :=
  context.toolResults.flatMap fun toolResult =>
    (toolResult.sideEffects.getD []).filter fun sideEffect => !sideEffect.isEmpty

/-- A result that did not succeed is registered as irreversible. -/
def registerToolResult (workerTaskId : Bytes) (ledger : CompensationLedger)
    (entry : ToolResult × Nat) : CompensationLedger :=
  registerResult ledger (workerTaskId ++ str ":tool:" ++ decimal (entry.2 + 1))
    (str "multi_agent.loopback") entry.1 (entry.1.success.getD false)

def buildCompensationLedger (request : MultiAgentRequest) (context : MultiAgentExecutionContext) :
    CompensationLedger :=
  context.toolResults.zipIdx.foldl (registerToolResult (buildWorkerTaskId request)) []

def buildCompensationHints (request : MultiAgentRequest) (context : MultiAgentExecutionContext) :
    List ToolCompensationHint := buildHints (buildCompensationLedger request context)

/-- The message of an error, where there is one. -/
def failureMessage (error : Option ErrorInfo) (fallback : Bytes) : Bytes :=
  match error with
  | some errorInfo => if errorInfo.details.message.isEmpty then fallback else errorInfo.details.message
  | none => fallback

def failedToolResult (context : MultiAgentExecutionContext) : Option ToolResult :=
  context.toolResults.find? fun toolResult => !toolResult.success.getD true

def buildFailureSummary (context : MultiAgentExecutionContext) : Option Bytes :=
  match context.latestObservation.filter fun observation => !observation.success.getD true with
  | some observation => some (failureMessage observation.error
      (str "multi_agent received a failed upstream observation"))
  | none => (failedToolResult context).map fun toolResult => failureMessage toolResult.error
      (str "multi_agent received a failed tool result")

def buildErrorInfo (workerTaskId message : Bytes) (replaySafe : Bool) : ErrorInfo where
  failureType := some .runtime
  retryable := some replaySafe
  safeToReplan := some true
  details :=
    { code := some multiAgentFailureCode
      message
      stage := str "multi_agent.coordinate" }
  sourceRef :=
    { refType := str "worker_task"
      refId := workerTaskId }

def buildObservation (request : MultiAgentRequest) (context : MultiAgentExecutionContext)
    (multiAgentResult : MultiAgentResult) (compensationHints : List ToolCompensationHint)
    (failureSummary : Option Bytes) : EmittedObservation where
  observationId := some (str "observation:multi-agent:" ++ buildWorkerTaskId request)
  source := some .workerAgent
  success := some failureSummary.isNone
  payload := multiAgentResult.mergedResult
  createdAt := some (match context.latestObservation with
    | some observation => observation.createdAt.getD 1
    | none => 1)
  error := failureSummary.map fun summary =>
    buildErrorInfo (buildWorkerTaskId request) summary compensationHints.isEmpty
  toolCallId := none
  workerTaskId := some (buildWorkerTaskId request)
  requestId := if context.requestId.isSome then context.requestId else request.parentRequestId
  goalId := if context.goalId.isSome then context.goalId else request.goalFragment
  durationMs := none
  sideEffects :=
    if (collectSideEffects context).isEmpty then none else some (collectSideEffects context)
  tags := some ([str "multi_agent", str "loopback"] ++
    [if failureSummary.isSome then str "recovery-advisory" else str "folded"])

def mapRecoveryAction (recommendedNextAction : Bytes) : ReflectionDecisionKind :=
  if recommendedNextAction = str "abort_safe" then .abortSafe
  else if recommendedNextAction = str "replan" then .replan
  else if recommendedNextAction = str "continue" then .continue_
  else .retryStep

def buildReplayReport (observation : EmittedObservation)
    (compensationHints : List ToolCompensationHint) : IdempotencyAndSideEffectReport where
  replaySafe := some compensationHints.isEmpty
  idempotencyKey := some (str "multi-agent:" ++
    selectString observation.workerTaskId (str "worker-task-missing"))
  sideEffectsPresent := some (!(observation.sideEffects.getD []).isEmpty)
  nonReplayableReason :=
    if compensationHints.isEmpty then none
    else some (str "compensation hints pending before replay")

/-- A recovery request needs a checkpoint, a failure and a recommendation. -/
def buildRecoveryRequest (request : MultiAgentRequest) (context : MultiAgentExecutionContext)
    (multiAgentResult : MultiAgentResult) (observation : EmittedObservation)
    (compensationHints : List ToolCompensationHint) (failureSummary : Option Bytes) :
    Option RecoveryRequest :=
  match context.checkpoint, failureSummary, multiAgentResult.recommendedNextAction with
  | some checkpoint, some summary, some action =>
    some
      { reflectionDecision := some
          { requestId :=
              if context.requestId.isSome then context.requestId else request.parentRequestId
            decisionKind := some (mapRecoveryAction action)
            rationale := some summary
            goalId := if context.goalId.isSome then context.goalId else request.goalFragment
            confidence := none
            relevantObservationRefs := some
              [observation.observationId.getD (str "observation:multi-agent-missing")]
            hintRef := none
            createdAt := observation.createdAt
            tags := some [str "multi_agent", str "runtime-fold"] }
        errorInfo := observation.error
        latestObservation := some observation.toObservation
        checkpoint := some checkpoint
        idempotencyAndSideEffectReport := some (buildReplayReport observation compensationHints)
        retryCount := context.retryCount
        runtimeBudgetSnapshot := context.runtimeBudgetSnapshot }
  | _, _, _ => none

def recommendNextAction (compensationHints : List ToolCompensationHint)
    (failureSummary : Option Bytes) : Bytes :=
  if failureSummary.isSome then
    if compensationHints.isEmpty then str "retry_step" else str "abort_safe"
  else str "continue"

def buildMultiAgentResult (request : MultiAgentRequest) (context : MultiAgentExecutionContext)
    (compensationHints : List ToolCompensationHint) (failureSummary : Option Bytes) :
    MultiAgentResult where
  subtaskResults := some [selectString request.planFragment
    (selectString request.goalFragment (str "multi_agent.loopback"))]
  mergedResult := if request.planFragment.isSome then request.planFragment else request.goalFragment
  recommendedNextAction := some (recommendNextAction compensationHints failureSummary)
  conflicts :=
    if failureSummary.isSome && !compensationHints.isEmpty then
      some [str "tool compensation pending"]
    else none
  workerTraceRefs := context.traceId.map fun traceId => [str "trace:" ++ traceId]
  failureSummary

def coordinate (request : MultiAgentRequest) (context : MultiAgentExecutionContext) :
    MultiAgentExecutionReport :=
  let compensationHints := buildCompensationHints request context
  let failureSummary := buildFailureSummary context
  let result := buildMultiAgentResult request context compensationHints failureSummary
  let observation := buildObservation request context result compensationHints failureSummary
  { disabled := false
    multiAgentResult := some result
    graphSnapshot := some
      { graphId := some (buildGraphId request)
        rootTaskId := request.parentTaskId
        taskIds := some [buildWorkerTaskId request]
        graphRevision := some 1 }
    emittedObservations := [observation]
    compensationHints
    recoveryRequest := buildRecoveryRequest request context result observation compensationHints
      failureSummary
    auditRefs := [str "multi_agent.enabled", str "multi_agent.graph." ++ buildGraphId request,
      str "multi_agent.worker." ++ buildWorkerTaskId request] }

/-! ## Folding into the runtime -/

structure MultiAgentRuntimeFoldResult where
  latestObservation : Option EmittedObservation
  compensationHints : List ToolCompensationHint
  recoveryRequest : Option RecoveryRequest
  auditRefs : List Bytes

def buildFallbackObservation (report : MultiAgentExecutionReport) : Option EmittedObservation :=
  report.multiAgentResult.map fun result =>
    { observationId := some (str "observation:multi-agent:fallback")
      source := some .workerAgent
      success := some result.failureSummary.isNone
      payload := result.mergedResult
      createdAt := some 1
      error := none
      toolCallId := none
      workerTaskId := none
      requestId := none
      goalId := none
      durationMs := none
      sideEffects := none
      tags := some [str "multi_agent", if report.disabled then str "disabled" else str "enabled"] }

def foldMultiAgentReportForRuntime (report : MultiAgentExecutionReport) :
    MultiAgentRuntimeFoldResult where
  latestObservation :=
    match report.emittedObservations.getLast? with
    | some observation => some observation
    | none => buildFallbackObservation report
  compensationHints := report.compensationHints
  recoveryRequest := report.recoveryRequest
  auditRefs := report.auditRefs

/-! ## The hints of the ledger -/

/-- A result that succeeded and reports side effects, the only kind that leaves a hint. -/
def Compensable (toolResult : ToolResult) : Prop :=
  toolResult.success = some true ∧ toolResult.sideEffects.getD [] ≠ []

def stepIdOf (workerTaskId : Bytes) (index : Nat) : Bytes :=
  workerTaskId ++ str ":tool:" ++ decimal (index + 1)

theorem stepIdOf_injective {workerTaskId : Bytes} {i j : Nat}
    (h : stepIdOf workerTaskId i = stepIdOf workerTaskId j) : i = j := by
  have hdecimal := decimal_injective _ _ (List.append_cancel_left h)
  omega

/-- The record that a tool result leaves. -/
def recordOf (workerTaskId : Bytes) (entry : ToolResult × Nat) : Option CompensationRecord :=
  buildRecord (stepIdOf workerTaskId entry.2) (str "multi_agent.loopback") entry.1
    (entry.1.success.getD false)

theorem recordOf_stepId {workerTaskId : Bytes} {entry : ToolResult × Nat}
    {record : CompensationRecord} (h : recordOf workerTaskId entry = some record) :
    record.stepId = stepIdOf workerTaskId entry.2 := by
  unfold recordOf buildRecord at h
  split at h
  · cases h
  · cases h
    rfl

/-- Every step has an id of its own, so each record goes to the end of the ledger. -/
theorem foldl_registerToolResult (workerTaskId : Bytes) (toolResults : List ToolResult)
    (start : Nat) (ledger : CompensationLedger)
    (h : ∀ record ∈ ledger, ∃ i < start, record.stepId = stepIdOf workerTaskId i) :
    (toolResults.zipIdx start).foldl (registerToolResult workerTaskId) ledger =
      ledger ++ (toolResults.zipIdx start).filterMap (recordOf workerTaskId) := by
  induction toolResults generalizing start ledger with
  | nil => rw [List.zipIdx_nil, List.filterMap_nil, List.append_nil, List.foldl_nil]
  | cons toolResult toolResults ih =>
    rw [List.zipIdx_cons, List.foldl_cons]
    cases hrecord : recordOf workerTaskId (toolResult, start) with
    | none =>
      have hregister : registerToolResult workerTaskId ledger (toolResult, start) = ledger := by
        unfold recordOf stepIdOf at hrecord
        rw [registerToolResult, registerResult, hrecord]
      rw [hregister, List.filterMap_cons_none hrecord]
      refine ih (start + 1) ledger fun record hmem => ?_
      obtain ⟨i, hi, hid⟩ := h record hmem
      exact ⟨i, by omega, hid⟩
    | some record =>
      have hnew : ∀ candidate ∈ ledger, candidate.stepId ≠ record.stepId := by
        intro candidate hmem hsame
        obtain ⟨i, hi, hid⟩ := h candidate hmem
        rw [hid, recordOf_stepId hrecord] at hsame
        have heq := stepIdOf_injective hsame
        omega
      have hregister :
          registerToolResult workerTaskId ledger (toolResult, start) = ledger ++ [record] := by
        unfold recordOf stepIdOf at hrecord
        rw [registerToolResult, registerResult, hrecord]
        exact put_new record ledger hnew
      rw [hregister, List.filterMap_cons_some hrecord]
      rw [ih (start + 1) (ledger ++ [record]), List.append_assoc, List.singleton_append]
      intro other hmem
      obtain hold | hlast := List.mem_append.mp hmem
      · obtain ⟨i, hi, hid⟩ := h other hold
        exact ⟨i, by omega, hid⟩
      · rw [List.mem_singleton.mp hlast]
        exact ⟨start, by omega, recordOf_stepId hrecord⟩

theorem buildCompensationLedger_eq (request : MultiAgentRequest)
    (context : MultiAgentExecutionContext) :
    buildCompensationLedger request context =
      context.toolResults.zipIdx.filterMap (recordOf (buildWorkerTaskId request)) := by
  rw [buildCompensationLedger, foldl_registerToolResult _ _ 0 [] nofun, List.nil_append]

theorem buildHints_isEmpty (ledger : CompensationLedger) :
    buildHints ledger = [] ↔
      ∀ record ∈ ledger, record.reversible = true → record.sideEffects = [] := by
  simp [buildHints, List.filter_eq_nil_iff]

theorem compensationHints_ne_nil_iff (request : MultiAgentRequest)
    (context : MultiAgentExecutionContext) :
    buildCompensationHints request context ≠ [] ↔
      ∃ toolResult ∈ context.toolResults, Compensable toolResult := by
  rw [buildCompensationHints, Ne, buildHints_isEmpty, buildCompensationLedger_eq]
  constructor
  · intro hsome
    push Not at hsome
    obtain ⟨record, hmem, hreversible, heffects⟩ := hsome
    obtain ⟨⟨toolResult, i⟩, hentry, hrecord⟩ := List.mem_filterMap.mp hmem
    refine ⟨toolResult, List.fst_mem_of_mem_zipIdx hentry, ?_⟩
    unfold recordOf buildRecord at hrecord
    split at hrecord
    · cases hrecord
    · cases hrecord
      refine ⟨?_, heffects⟩
      cases hsuccess : toolResult.success with
      | none => simp [hsuccess] at hreversible
      | some success => simpa [hsuccess] using hreversible
  · rintro ⟨toolResult, hmem, hsuccess, heffects⟩ hnone
    obtain ⟨i, hi⟩ := List.mem_iff_getElem?.mp hmem
    have hentry : (toolResult, i) ∈ context.toolResults.zipIdx :=
      List.mk_mem_zipIdx_iff_getElem?.mpr hi
    have hrecord : recordOf (buildWorkerTaskId request) (toolResult, i) = some
        { stepId := stepIdOf (buildWorkerTaskId request) i
          routeKind := str "multi_agent.loopback"
          toolCallId := toolResult.toolCallId
          toolName := toolResult.toolName
          sideEffects := toolResult.sideEffects.getD []
          evidenceRefs := collectEvidenceRefs (stepIdOf (buildWorkerTaskId request) i) toolResult
          reversible := true } := by
      unfold recordOf buildRecord
      rw [if_neg (by simpa using heffects), hsuccess]
      rfl
    exact heffects (hnone _ (List.mem_filterMap.mpr ⟨_, hentry, hrecord⟩) rfl)

/-! ## What is replayed -/

def Failed (context : MultiAgentExecutionContext) : Prop :=
  (∃ observation, context.latestObservation = some observation ∧
      observation.success = some false) ∨
    ∃ toolResult ∈ context.toolResults, toolResult.success = some false

def HasSideEffect (context : MultiAgentExecutionContext) : Prop :=
  ∃ toolResult ∈ context.toolResults, ∃ sideEffect ∈ toolResult.sideEffects.getD [],
    sideEffect ≠ []

/-- All side effects that tool results report, in order. -/
def reportedSideEffects (context : MultiAgentExecutionContext) : List Bytes :=
  (context.toolResults.flatMap fun toolResult => toolResult.sideEffects.getD []).filter
    fun sideEffect => sideEffect ≠ []

namespace MultiAgentExecutionReport

def recommendedNextAction (report : MultiAgentExecutionReport) : Option Bytes :=
  report.multiAgentResult.bind MultiAgentResult.recommendedNextAction

def failureSummary (report : MultiAgentExecutionReport) : Option Bytes :=
  report.multiAgentResult.bind MultiAgentResult.failureSummary

def errors (report : MultiAgentExecutionReport) : List ErrorInfo :=
  report.emittedObservations.filterMap fun observation => observation.error

def replaySafe (report : MultiAgentExecutionReport) : Option Bool :=
  report.recoveryRequest.bind fun recovery => recovery.idempotencyAndSideEffectReport.bind
    IdempotencyAndSideEffectReport.replaySafe

end MultiAgentExecutionReport

/-- What is reported of a run with side effects is not to be replayed, and nothing is lost. -/
structure ReplayLaw (request : MultiAgentRequest) (context : MultiAgentExecutionContext) : Prop where
  notReplayed : (coordinate request context).failureSummary.isSome → HasSideEffect context →
    (coordinate request context).recommendedNextAction ≠ some (str "retry_step") ∧
      (∀ error ∈ (coordinate request context).errors, error.retryable ≠ some true) ∧
      (coordinate request context).replaySafe ≠ some true
  effectsKept : (coordinate request context).emittedObservations.map
      (fun observation => observation.sideEffects.getD []) = [reportedSideEffects context]
  hintsFolded : (foldMultiAgentReportForRuntime (coordinate request context)).compensationHints =
    buildHints (buildCompensationLedger request context)
  agree : ∀ error ∈ (coordinate request context).errors,
    ((coordinate request context).recommendedNextAction = some (str "retry_step") ↔
        error.retryable = some true) ∧
      ((coordinate request context).recoveryRequest.isSome →
        (coordinate request context).replaySafe = error.retryable)
  error_of_recovery : (coordinate request context).recoveryRequest.isSome →
    (coordinate request context).errors ≠ []

theorem collectSideEffects_eq (context : MultiAgentExecutionContext) :
    collectSideEffects context = reportedSideEffects context := by
  rw [collectSideEffects, reportedSideEffects, List.filter_flatMap]
  congr 1
  funext toolResult
  apply List.filter_congr
  intro sideEffect _
  cases sideEffect <;> rfl

theorem buildFailureSummary_isSome_iff (context : MultiAgentExecutionContext) :
    (buildFailureSummary context).isSome = true ↔ Failed context := by
  have hfailed : ∀ success : Option Bool, (!success.getD true) = true ↔ success = some false := by
    intro success
    cases success with
    | none => simp
    | some success => cases success <;> simp
  unfold buildFailureSummary
  cases hobservation : context.latestObservation.filter
      fun observation => !observation.success.getD true with
  | some observation =>
    rw [Option.filter_eq_some_iff, hfailed] at hobservation
    exact iff_of_true rfl (Or.inl ⟨observation, hobservation⟩)
  | none =>
    have hfine : ∀ observation, context.latestObservation = some observation →
        observation.success ≠ some false := by
      intro observation hsome hfalse
      rw [Option.filter_eq_none_iff] at hobservation
      exact hobservation observation hsome ((hfailed _).mpr hfalse)
    simp only [Option.isSome_map, failedToolResult, List.find?_isSome, hfailed]
    constructor
    · rintro ⟨toolResult, hmem, hfalse⟩
      exact Or.inr ⟨toolResult, hmem, hfalse⟩
    · rintro (⟨observation, hsome, hfalse⟩ | ⟨toolResult, hmem, hfalse⟩)
      · exact absurd hfalse (hfine observation hsome)
      · exact ⟨toolResult, hmem, hfalse⟩

section
variable (request : MultiAgentRequest) (context : MultiAgentExecutionContext)

theorem coordinate_failureSummary :
    (coordinate request context).failureSummary = buildFailureSummary context := rfl

theorem coordinate_recommendedNextAction :
    (coordinate request context).recommendedNextAction =
      some (recommendNextAction (buildCompensationHints request context)
        (buildFailureSummary context)) := rfl

theorem coordinate_errors :
    (coordinate request context).errors =
      ((buildFailureSummary context).map fun summary => buildErrorInfo (buildWorkerTaskId request)
        summary (buildCompensationHints request context).isEmpty).toList := by
  simp only [MultiAgentExecutionReport.errors, coordinate, buildObservation]
  cases buildFailureSummary context <;> rfl

theorem coordinate_replaySafe :
    (coordinate request context).replaySafe =
      if context.checkpoint.isSome && (buildFailureSummary context).isSome then
        some (buildCompensationHints request context).isEmpty
      else none := by
  simp only [MultiAgentExecutionReport.replaySafe, coordinate, buildRecoveryRequest,
    buildMultiAgentResult]
  cases context.checkpoint <;> cases buildFailureSummary context <;> rfl

theorem coordinate_recoveryRequest :
    (coordinate request context).recoveryRequest.isSome =
      (context.checkpoint.isSome && (buildFailureSummary context).isSome) := by
  simp only [coordinate, buildRecoveryRequest, buildMultiAgentResult]
  cases context.checkpoint <;> cases buildFailureSummary context <;> rfl

/-- With a failure, retrying is recommended just where the ledger has no hint. -/
theorem retry_step_iff :
    recommendNextAction (buildCompensationHints request context) (buildFailureSummary context) =
        str "retry_step" ↔
      (buildFailureSummary context).isSome ∧ buildCompensationHints request context = [] := by
  unfold recommendNextAction
  cases buildFailureSummary context with
  | none =>
    simp only [Option.isSome_none, Bool.false_eq_true, if_false, false_and, iff_false]
    decide
  | some summary =>
    cases hhints : buildCompensationHints request context with
    | nil => simp
    | cons hint hints =>
      simp only [Option.isSome_some, List.isEmpty_cons, Bool.false_eq_true, if_false, if_true,
        reduceCtorEq, and_false, iff_false]
      decide

theorem mem_errors {error : ErrorInfo} (h : error ∈ (coordinate request context).errors) :
    (buildFailureSummary context).isSome ∧
      error.retryable = some (buildCompensationHints request context).isEmpty := by
  rw [coordinate_errors, Option.mem_toList, Option.map_eq_some_iff] at h
  obtain ⟨summary, hsummary, rfl⟩ := h
  exact ⟨by rw [hsummary]; rfl, rfl⟩

/-- The law holds where a failure with side effects leaves a hint, which only a result that
succeeded does. -/
theorem replayLaw_iff :
    ReplayLaw request context ↔
      (Failed context → HasSideEffect context →
        ∃ toolResult ∈ context.toolResults, Compensable toolResult) := by
  rw [← compensationHints_ne_nil_iff request, ← buildFailureSummary_isSome_iff]
  constructor
  · rintro ⟨hnot, -, -, -, -⟩ hfailed heffect hnil
    rw [coordinate_failureSummary, coordinate_recommendedNextAction] at hnot
    obtain ⟨hretry, -, -⟩ := hnot hfailed heffect
    exact hretry (congrArg some ((retry_step_iff request context).mpr ⟨hfailed, hnil⟩))
  · intro h
    constructor
    · intro hfailed heffect
      have hhints := h hfailed heffect
      refine ⟨fun hretry => ?_, fun error herror hretryable => ?_, fun hsafe => ?_⟩
      · rw [coordinate_recommendedNextAction, Option.some.injEq, retry_step_iff] at hretry
        exact hhints hretry.2
      · rw [(mem_errors request context herror).2] at hretryable
        simp [hhints] at hretryable
      · rw [coordinate_replaySafe] at hsafe
        split at hsafe
        · simp [hhints] at hsafe
        · cases hsafe
    · rw [← collectSideEffects_eq]
      simp only [coordinate, buildObservation, List.map_cons, List.map_nil, List.cons.injEq,
        and_true]
      cases hcollected : collectSideEffects context <;> rfl
    · rfl
    · intro error herror
      obtain ⟨hfailed, hretryable⟩ := mem_errors request context herror
      rw [hretryable, coordinate_recommendedNextAction, Option.some.injEq, retry_step_iff,
        coordinate_recoveryRequest, coordinate_replaySafe]
      refine ⟨?_, fun hrecovery => if_pos hrecovery⟩
      simp [hfailed]
    · intro hrecovery
      rw [coordinate_recoveryRequest, Bool.and_eq_true] at hrecovery
      obtain ⟨summary, hsummary⟩ := Option.isSome_iff_exists.mp hrecovery.2
      rw [coordinate_errors, hsummary]
      exact List.cons_ne_nil _ _

end

/-! ## A failure that left an effect -/

/-- One tool failed after it had written a file. -/
def failedWrite : MultiAgentExecutionContext where
  toolResults :=
    [{ toolName := some (str "fs.write")
       success := some false
       sideEffects := some [str "file.written"] }]

theorem failedWrite_retried :
    ¬ ∀ (request : MultiAgentRequest) (context : MultiAgentExecutionContext),
      ReplayLaw request context := by
  intro h
  have hnot := (h {} failedWrite).notReplayed rfl
    ⟨_, List.mem_singleton_self _, str "file.written", List.mem_singleton_self _, by decide⟩
  exact hnot.1 rfl

end Dasall.MultiAgent
