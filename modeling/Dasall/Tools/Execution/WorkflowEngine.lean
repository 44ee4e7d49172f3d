import Dasall.Infra.Policy.Types
import Dasall.Lib.Layers
import Dasall.Lib.Sort
import Dasall.Tools.Execution.CompensationLedger
import Dasall.Tools.Execution.StepMapping

/-!
# The workflow engine

A plan is a graph of steps. The engine lays the steps in batches, dispatches them one after another
and stops at the first that fails. What the executors do, and what the clock says, depends on a
world that they may change.
-/

open Dasall.Contracts Dasall.Contracts.Tool Dasall.Infra.Policy Dasall.Lib Dasall.Lib.Text

namespace Dasall.Tools.Execution

variable {World : Type}

inductive WorkflowStepKind
  | tool
  | delegation
deriving DecidableEq

inductive WorkflowDelegationMode
  | disabled
  | recommendOnly
deriving DecidableEq

structure WorkflowEdge where
  fromStepId : Bytes
  toStepId : Bytes
deriving DecidableEq

structure WorkflowStepOutputBinding where
  sourceStepId : Bytes
  sourceJsonPointer : Bytes
  targetStepId : Bytes
  targetArgumentKey : Bytes
  required : Bool := true
deriving DecidableEq

structure WorkflowDelegationPolicy where
  mode : WorkflowDelegationMode := .disabled
  maxDelegateSteps : UInt32 := 0
deriving DecidableEq

structure WorkflowStep where
  stepId : Bytes
  toolIr : ToolIR := {}
  routeKindHint : Option ToolIRRoute := none
  stepKind : WorkflowStepKind := .tool
  dependsOn : List Bytes := []
  allowPartialSideEffect : Bool := false
  timeoutOverrideMs : Option UInt32 := none
  delegateTarget : Option Bytes := none
deriving DecidableEq

structure WorkflowPlan where
  workflowId : Bytes
  entryStepIds : List Bytes
  steps : List WorkflowStep
  edges : List WorkflowEdge := []
  stepOutputMapping : List WorkflowStepOutputBinding := []
  delegationPolicy : WorkflowDelegationPolicy := {}
deriving DecidableEq

structure WorkflowStepReceipt where
  stepId : Bytes
  routeKind : Bytes
  result : ToolResult
  mappedArguments : List Bytes
  evidenceRefs : List Bytes
deriving DecidableEq

structure WorkflowDelegationSidecar where
  stepId : Bytes
  delegateTarget : Bytes
  reasonCode : Bytes
  inputEvidenceRefs : List Bytes
deriving DecidableEq

structure WorkflowReceipt where
  workflowId : Bytes
  status : Bytes
  completedStepIds : List Bytes := []
  skippedStepIds : List Bytes := []
  failedStepId : Option Bytes := none
  stepResults : List WorkflowStepReceipt := []
  compensationHints : List ToolCompensationHint := []
  evidenceRefs : List Bytes := []
  failureDigest : Option ErrorInfo := none
  delegationSidecar : Option WorkflowDelegationSidecar := none
deriving DecidableEq

structure WorkflowBatchBuildResult where
  ok : Bool := false
  batches : List (List Bytes) := []
  error : Option ErrorInfo := none
  evidenceRefs : List Bytes := []
  failureReasonCode : Bytes := []
deriving DecidableEq

structure WorkflowStepDispatchResult where
  ok : Bool := false
  stepId : Bytes
  routeKind : Bytes
  result : ToolResult
  mappedArguments : List Bytes := []
  evidenceRefs : List Bytes := []
  delegationSidecar : Option WorkflowDelegationSidecar := none
  failureReasonCode : Bytes := []
deriving DecidableEq

structure WorkflowExecutionOutcome where
  receipt : WorkflowReceipt
  toolResult : ToolResult
  compensationHints : Option (List ToolCompensationHint)
  evidenceRefs : List Bytes
  failureReasonCode : Bytes
deriving DecidableEq

/-- What a loader gives: a plan, or a reason code and a message. -/
structure WorkflowPlanLoad where
  plan : Option WorkflowPlan
  failureReasonCode : Bytes := []
  failureMessage : Bytes := []

abbrev WorkflowStepExecutor (World : Type) := ToolIR → World → ToolResult × World

/-- The functions the engine calls, with the clock. -/
structure WorkflowEngineDependencies (World : Type) where
  planLoader : Option (ToolIR → World → WorkflowPlanLoad × World) := none
  builtinExecutor : Option (WorkflowStepExecutor World) := none
  mcpExecutor : Option (WorkflowStepExecutor World) := none
  currentTimeMs : World → Int64 × World

def buildError (code : ResultCode) (message stage refId : Bytes) : ErrorInfo where
  failureType := some (classifyResultCode code)
  retryable := some false
  safeToReplan := some true
  details := { code := some code.toRaw, message, stage }
  sourceRef := { refType := str "workflow_engine", refId }

def routeKindString : ToolIRRoute → Bytes
  | .localTool => str "builtin"
  | .mcpRemote => str "mcp"
  | .workflowEngine => str "workflow"
  | .unspecified => str "workflow"

def appendUnique {Value : Type} [DecidableEq Value] (target : List Value) (value : Value) :
    List Value :=
  if value ∈ target then target else target ++ [value]

/-! ## Batches -/

def invalidPlan (message refId : Bytes) (evidenceRefs : List Bytes) : WorkflowBatchBuildResult where
  error := some (buildError .validationFieldMissing message (str "tools.workflow.build_batches") refId)
  evidenceRefs := evidenceRefs
  failureReasonCode := str "InvalidWorkflowPlan"

/-- The message, the id and the evidence of a rejection. -/
abbrev PlanRejection := Bytes × Bytes × List Bytes

/-- `step_order`: the ids in the order of the plan. `none` when one is empty or stands twice. -/
def readStepOrder (stepOrder : List Bytes) : List WorkflowStep → Option (List Bytes)
  | [] => some stepOrder
  | step :: steps =>
    if step.stepId.isEmpty || stepOrder.contains step.stepId then none
    else readStepOrder (stepOrder ++ [step.stepId]) steps

/-- `dependencies`: a set of step ids for each step id. -/
abbrev Dependencies := Bytes → List Bytes

def addDependency (dependencies : Dependencies) (target source : Bytes) : Dependencies :=
  Function.update dependencies target ((dependencies target).insert source)

def readDependsOn (stepOrder : List Bytes) (step : WorkflowStep) (dependencies : Dependencies) :
    List Bytes → Except PlanRejection Dependencies
  | [] => .ok dependencies
  | dependency :: rest =>
    if !stepOrder.contains dependency || dependency = step.stepId then
      .error (str "workflow.depends_on_invalid", step.stepId, [str "step:" ++ step.stepId])
    else readDependsOn stepOrder step (addDependency dependencies step.stepId dependency) rest

def readSteps (stepOrder : List Bytes) (dependencies : Dependencies) :
    List WorkflowStep → Except PlanRejection Dependencies
  | [] => .ok dependencies
  | step :: steps => do
    let dependencies ← readDependsOn stepOrder step dependencies step.dependsOn
    readSteps stepOrder dependencies steps

def readEdges (workflowId : Bytes) (stepOrder : List Bytes) (dependencies : Dependencies) :
    List WorkflowEdge → Except PlanRejection Dependencies
  | [] => .ok dependencies
  | edge :: edges =>
    if !stepOrder.contains edge.fromStepId || !stepOrder.contains edge.toStepId ||
        edge.fromStepId = edge.toStepId then
      .error (str "workflow.edge_invalid", workflowId,
        [str "edge:" ++ edge.fromStepId ++ str "->" ++ edge.toStepId])
    else readEdges workflowId stepOrder (addDependency dependencies edge.toStepId edge.fromStepId) edges

/-- A binding of a step to itself passes: the graph is cyclic then. -/
def readBindings (workflowId : Bytes) (stepOrder : List Bytes) (dependencies : Dependencies) :
    List WorkflowStepOutputBinding → Except PlanRejection Dependencies
  | [] => .ok dependencies
  | binding :: bindings =>
    if !stepOrder.contains binding.sourceStepId || !stepOrder.contains binding.targetStepId ||
        binding.sourceJsonPointer.isEmpty || binding.targetArgumentKey.isEmpty then
      .error (str "workflow.output_mapping_invalid", workflowId,
        [str "binding:" ++ binding.sourceStepId ++ str "->" ++ binding.targetStepId])
    else
      readBindings workflowId stepOrder
        (addDependency dependencies binding.targetStepId binding.sourceStepId) bindings

def readDependencies (plan : WorkflowPlan) (stepOrder : List Bytes) :
    Except PlanRejection Dependencies := do
  let dependencies ← readSteps stepOrder (fun _ => []) plan.steps
  let dependencies ← readEdges plan.workflowId stepOrder dependencies plan.edges
  readBindings plan.workflowId stepOrder dependencies plan.stepOutputMapping

/-- The steps that depend on a step, in the order of the plan. -/
def adjacency (stepOrder : List Bytes) (dependencies : Dependencies) (source : Bytes) : List Bytes :=
  stepOrder.filter fun stepId => source ∈ dependencies stepId

def arrange (stepOrder : List Bytes) (stepIds : List Bytes) : List Bytes :=
  Sort.sortBy (fun left right => stepOrder.idxOf left < stepOrder.idxOf right) stepIds

/-- The loop over the ready steps. Its fuel is enough for every graph. -/
def layBatches (stepOrder : List Bytes) (dependencies : Dependencies) (zeroIndegree : List Bytes) :
    List (List Bytes) :=
  (Layers.layersFrom (adjacency stepOrder dependencies) (arrange stepOrder) (stepOrder.length + 1)
    (fun stepId => (dependencies stepId).length) zeroIndegree).getD []

def finishBatches (plan : WorkflowPlan) (stepOrder : List Bytes) (dependencies : Dependencies) :
    WorkflowBatchBuildResult :=
  let zeroIndegree := arrange stepOrder
    (stepOrder.filter fun stepId => (dependencies stepId).length = 0)
  match zeroIndegree.find? fun stepId => !plan.entryStepIds.contains stepId with
  | some stepId =>
    invalidPlan (str "workflow.entry_step_incomplete") plan.workflowId [str "entry:" ++ stepId]
  | none =>
    let batches := layBatches stepOrder dependencies zeroIndegree
    if batches.flatten.length ≠ plan.steps.length then
      invalidPlan (str "workflow.cyclic_graph") plan.workflowId
        [str "workflow:" ++ plan.workflowId, str "workflow.cyclic_graph"]
    else { ok := true, batches }

def buildBatches (plan : WorkflowPlan) : WorkflowBatchBuildResult :=
  if plan.workflowId.isEmpty then
    invalidPlan (str "workflow.plan_id_missing") (str "workflow.plan")
      [str "workflow.plan_id_missing"]
  else if plan.steps.isEmpty || plan.entryStepIds.isEmpty then
    invalidPlan (str "workflow.plan_steps_missing") plan.workflowId
      [str "workflow.plan_steps_missing"]
  else
    match readStepOrder [] plan.steps with
    | none =>
      invalidPlan (str "workflow.step_id_invalid") plan.workflowId [str "workflow.step_id_invalid"]
    | some stepOrder =>
      match plan.entryStepIds.find? fun entryStepId => !stepOrder.contains entryStepId with
      | some entryStepId =>
        invalidPlan (str "workflow.entry_step_missing") entryStepId [str "entry:" ++ entryStepId]
      | none =>
        match readDependencies plan stepOrder with
        | .error (message, refId, evidenceRefs) => invalidPlan message refId evidenceRefs
        | .ok dependencies => finishBatches plan stepOrder dependencies

/-! ## One step -/

def buildFailureResult (step : WorkflowStep) (code : ResultCode) (message stage : Bytes)
    (completedAt : Int64) : ToolResult where
  requestId := step.toolIr.requestId
  toolCallId := step.toolIr.toolCallId
  toolName := step.toolIr.toolName
  success := some false
  error := some (buildError code message stage step.stepId)
  completedAt := some completedAt
  durationMs := some 0
  goalId := step.toolIr.goalId
  workerTaskId := step.toolIr.workerTaskId
  tags := some [str "workflow"]

/-- The time is that of the result, or the clock's when it has none. -/
def normalizeResult (step : WorkflowStep) (result : ToolResult) (completedAt : Int64) : ToolResult :=
  let success := result.success.getD result.error.isNone
  { result with
    requestId := result.requestId <|> step.toolIr.requestId
    toolCallId := result.toolCallId <|> step.toolIr.toolCallId
    toolName := result.toolName <|> step.toolIr.toolName
    goalId := result.goalId <|> step.toolIr.goalId
    workerTaskId := result.workerTaskId <|> step.toolIr.workerTaskId
    success := some success
    error :=
      if success then none
      else
        result.error <|> some (buildError .toolExecutionFailed (str "workflow.step_failed")
          (str "tools.workflow.dispatch") step.stepId)
    completedAt := some completedAt
    durationMs := result.durationMs <|> some 0 }

/-- A failure the engine finds itself, before any executor is called. -/
def failedDispatch (step : WorkflowStep) (routeKind : Bytes) (code : ResultCode)
    (message stage : Bytes) (mappedArguments evidenceRefs : List Bytes) (completedAt : Int64) :
    WorkflowStepDispatchResult where
  stepId := step.stepId
  routeKind := routeKind
  result := buildFailureResult step code message stage completedAt
  mappedArguments := mappedArguments
  evidenceRefs := evidenceRefs
  failureReasonCode := message

def dispatchDelegation (plan : WorkflowPlan) (step : WorkflowStep) (delegationCount : UInt32)
    (completedAt : Int64) : WorkflowStepDispatchResult :=
  let policy := plan.delegationPolicy
  if policy.mode ≠ .recommendOnly then
    failedDispatch step (str "workflow") .policyDenied (str "workflow.delegation_disabled")
      (str "tools.workflow.delegation") [] [str "workflow:" ++ step.stepId] completedAt
  else if 0 < policy.maxDelegateSteps ∧ policy.maxDelegateSteps ≤ delegationCount then
    failedDispatch step (str "workflow") .policyDenied (str "workflow.delegation_limit_exceeded")
      (str "tools.workflow.delegation") [] [str "workflow:" ++ step.stepId] completedAt
  else
    let delegateTarget := step.delegateTarget.getD (str "runtime.delegate")
    { ok := true
      stepId := step.stepId
      routeKind := str "workflow"
      result :=
        { requestId := step.toolIr.requestId
          toolCallId := step.toolIr.toolCallId
          toolName := step.toolIr.toolName
          success := some true
          payload := some (str "\x7b\"delegation\":\"recommended\",\"delegate_target\":\"" ++
            escapeJson delegateTarget ++ str "\"\x7d")
          completedAt := some completedAt
          durationMs := some 0
          goalId := step.toolIr.goalId
          workerTaskId := step.toolIr.workerTaskId
          tags := some [str "workflow", str "delegation"] }
      evidenceRefs := [str "workflow:" ++ step.stepId, str "delegate_target:" ++ delegateTarget]
      delegationSidecar := some
        { stepId := step.stepId
          delegateTarget
          reasonCode := str "workflow.delegation.recommend_only"
          inputEvidenceRefs := [str "workflow:" ++ step.stepId] } }

/-- What the mapping loop has made of the call. -/
structure PreparedCall where
  ir : ToolIR
  mappedArguments : List Bytes := []

/-- The payload a binding reads from: that of a step that succeeded. -/
def sourcePayload (priorResults : List WorkflowStepReceipt) (sourceStepId : Bytes) : Option Bytes :=
  match priorResults.find? fun receipt => receipt.stepId = sourceStepId with
  | none => none
  | some receipt => if receipt.result.success.getD false then receipt.result.payload else none

/-- The mapping loop. A failure is a message with its evidence. -/
def mapArguments (step : WorkflowStep) (priorResults : List WorkflowStepReceipt)
    (prepared : PreparedCall) :
    List WorkflowStepOutputBinding → Except (Bytes × Bytes × List Bytes) PreparedCall
  | [] => .ok prepared
  | binding :: bindings =>
    if binding.targetStepId ≠ step.stepId then mapArguments step priorResults prepared bindings
    else
      match sourcePayload priorResults binding.sourceStepId with
      | none =>
        if !binding.required then mapArguments step priorResults prepared bindings
        else
          .error (str "workflow.mapping_source_missing",
            str "binding:" ++ binding.sourceStepId ++ str "->" ++ binding.targetStepId,
            prepared.mappedArguments)
      | some payload =>
        match extractJsonPointerValue payload binding.sourceJsonPointer with
        | none =>
          if !binding.required then mapArguments step priorResults prepared bindings
          else
            .error (str "workflow.mapping_pointer_missing",
              str "binding:" ++ binding.sourceJsonPointer, prepared.mappedArguments)
        | some rawValue =>
          let arguments := prepared.ir.normalizedArguments.getD (str "\x7b\x7d")
          match injectArgumentValue arguments binding.targetArgumentKey rawValue with
          | none =>
            .error (str "workflow.mapping_target_invalid",
              str "target:" ++ binding.targetArgumentKey, prepared.mappedArguments)
          | some injected =>
            mapArguments step priorResults
              { ir := { prepared.ir with normalizedArguments := some injected }
                mappedArguments := prepared.mappedArguments ++ [binding.targetArgumentKey] }
              bindings

def stepExecutor (dependencies : WorkflowEngineDependencies World) (route : ToolIRRoute) :
    Option (WorkflowStepExecutor World) :=
  match route with
  | .localTool => dependencies.builtinExecutor
  | .mcpRemote => dependencies.mcpExecutor
  | .workflowEngine | .unspecified => none

def dispatchStep (dependencies : WorkflowEngineDependencies World) (plan : WorkflowPlan)
    (step : WorkflowStep) (priorResults : List WorkflowStepReceipt) (delegationCount : UInt32)
    (world : World) : WorkflowStepDispatchResult × World :=
  if step.stepKind = .delegation then
    let (completedAt, world) := dependencies.currentTimeMs world
    (dispatchDelegation plan step delegationCount completedAt, world)
  else
    let preparedIr := { step.toolIr with timeoutMs := step.timeoutOverrideMs <|> step.toolIr.timeoutMs }
    match mapArguments step priorResults { ir := preparedIr } plan.stepOutputMapping with
    | .error (message, evidence, mappedArguments) =>
      let (completedAt, world) := dependencies.currentTimeMs world
      (failedDispatch step (str "workflow") .validationFieldMissing message
        (str "tools.workflow.mapping") mappedArguments [evidence] completedAt, world)
    | .ok prepared =>
      let stepRoute := prepared.ir.route.getD (step.routeKindHint.getD .localTool)
      match stepExecutor dependencies stepRoute with
      | none =>
        let (completedAt, world) := dependencies.currentTimeMs world
        (failedDispatch step (routeKindString stepRoute) .toolExecutionFailed
          (str "workflow.executor_unavailable") (str "tools.workflow.dispatch")
          prepared.mappedArguments [str "workflow:" ++ step.stepId] completedAt, world)
      | some executor =>
        let (raw, world) := executor { prepared.ir with route := some stepRoute } world
        let (completedAt, world) :=
          match raw.completedAt with
          | some completedAt => (completedAt, world)
          | none => dependencies.currentTimeMs world
        let result := normalizeResult step raw completedAt
        let success := result.success.getD false
        ({ ok := success
           stepId := step.stepId
           routeKind := routeKindString stepRoute
           result
           mappedArguments := prepared.mappedArguments
           evidenceRefs := [str "workflow:" ++ step.stepId] ++
             (result.toolCallId.map fun toolCallId => str "tool_call:" ++ toolCallId).toList ++
             result.sideEffects.getD []
           failureReasonCode := if success then [] else str "workflow.step_failed" }, world)

/-! ## Execution -/

def collectStepResult (receipt : WorkflowReceipt) (step : WorkflowStep)
    (dispatchResult : WorkflowStepDispatchResult) : WorkflowReceipt :=
  let receipt : WorkflowReceipt :=
    { receipt with
      stepResults := receipt.stepResults ++
        [{ stepId := step.stepId
           routeKind := dispatchResult.routeKind
           result := dispatchResult.result
           mappedArguments := dispatchResult.mappedArguments
           evidenceRefs := dispatchResult.evidenceRefs }]
      evidenceRefs := dispatchResult.evidenceRefs.foldl appendUnique receipt.evidenceRefs
      delegationSidecar := receipt.delegationSidecar <|> dispatchResult.delegationSidecar }
  if dispatchResult.result.success.getD false then
    { receipt with completedStepIds := receipt.completedStepIds ++ [step.stepId] }
  else
    { receipt with
      status := str "failed"
      failedStepId := some step.stepId
      failureDigest := dispatchResult.result.error <|>
        some (buildError .toolExecutionFailed
          (if dispatchResult.failureReasonCode.isEmpty then str "workflow.step_failed"
            else dispatchResult.failureReasonCode)
          (str "tools.workflow.collect") step.stepId) }

/-- The variables of the loop. `dispatched` lists the calls of `dispatch_step`, which the source
does not keep. -/
structure WorkflowRun (World : Type) where
  receipt : WorkflowReceipt
  compensationLedger : CompensationLedger := []
  delegationCount : UInt32 := 0
  world : World
  dispatched : List Bytes := []

def registerStep (ledger : CompensationLedger) (step : WorkflowStep)
    (dispatchResult : WorkflowStepDispatchResult) : CompensationLedger :=
  if (dispatchResult.result.sideEffects.getD []).isEmpty then ledger
  else if dispatchResult.result.success.getD false || step.allowPartialSideEffect then
    registerResult ledger step.stepId dispatchResult.routeKind dispatchResult.result true
  else
    recordIrreversibleEffect ledger step.stepId dispatchResult.routeKind dispatchResult.result

def runStep (dependencies : WorkflowEngineDependencies World) (plan : WorkflowPlan)
    (state : WorkflowRun World) (step : WorkflowStep) : WorkflowRun World :=
  let (dispatchResult, world) := dispatchStep dependencies plan step state.receipt.stepResults
    state.delegationCount state.world
  { receipt := collectStepResult state.receipt step dispatchResult
    compensationLedger := registerStep state.compensationLedger step dispatchResult
    delegationCount :=
      if dispatchResult.delegationSidecar.isSome then state.delegationCount + 1
      else state.delegationCount
    world
    dispatched := state.dispatched ++ [step.stepId] }

/-- The two loops over the batches and their steps. Both are left at the first failure. -/
def runSteps (dependencies : WorkflowEngineDependencies World) (plan : WorkflowPlan) :
    WorkflowRun World → List Bytes → WorkflowRun World
  | state, [] => state
  | state, stepId :: rest =>
    match plan.steps.find? fun step => step.stepId = stepId with
    | none => runSteps dependencies plan state rest
    | some step =>
      let next := runStep dependencies plan state step
      if next.receipt.status = str "failed" then next else runSteps dependencies plan next rest

def serializeStringArray (values : List Bytes) : Bytes :=
  str "[" ++ [44].intercalate (values.map fun value => str "\"" ++ escapeJson value ++ str "\"") ++
    str "]"

def serializeReceipt (receipt : WorkflowReceipt) : Bytes :=
  str "\x7b\"workflow_id\":\"" ++ escapeJson receipt.workflowId ++
    str "\",\"status\":\"" ++ escapeJson receipt.status ++
    str "\",\"completed_step_ids\":" ++ serializeStringArray receipt.completedStepIds ++
    str ",\"skipped_step_ids\":" ++ serializeStringArray receipt.skippedStepIds ++
    (match receipt.failedStepId with
      | none => []
      | some failedStepId => str ",\"failed_step_id\":\"" ++ escapeJson failedStepId ++ str "\"") ++
    (match receipt.delegationSidecar with
      | none => []
      | some sidecar =>
        str ",\"delegation_sidecar\":\x7b\"step_id\":\"" ++ escapeJson sidecar.stepId ++
          str "\",\"delegate_target\":\"" ++ escapeJson sidecar.delegateTarget ++
          str "\",\"reason_code\":\"" ++ escapeJson sidecar.reasonCode ++ str "\"\x7d") ++
    str ",\"compensation_hint_count\":" ++ decimal receipt.compensationHints.length ++ str "\x7d"

def finalizeReceipt (dependencies : WorkflowEngineDependencies World) (receipt : WorkflowReceipt)
    (workflowIr : ToolIR) (world : World) : WorkflowExecutionOutcome × World :=
  let aggregatedSideEffects := (receipt.stepResults.flatMap fun stepReceipt =>
    stepReceipt.result.sideEffects.getD []).foldl appendUnique []
  let success : Bool := receipt.status = str "completed"
  let (completedAt, world) := dependencies.currentTimeMs world
  let toolResult : ToolResult :=
    { requestId := workflowIr.requestId
      toolCallId := workflowIr.toolCallId
      toolName := workflowIr.toolName
      success := some success
      payload := some (serializeReceipt receipt)
      error := if success then none else receipt.failureDigest
      sideEffects := if aggregatedSideEffects.isEmpty then none else some aggregatedSideEffects
      completedAt := some completedAt
      durationMs := some 0
      goalId := workflowIr.goalId
      workerTaskId := workflowIr.workerTaskId
      tags := some [str "workflow"] }
  ({ receipt
     toolResult
     compensationHints :=
       if receipt.compensationHints.isEmpty then none else some receipt.compensationHints
     evidenceRefs := receipt.evidenceRefs
     failureReasonCode :=
       if success then []
       else
         match toolResult.error with
         | none => str "workflow.step_failed"
         | some error =>
           if error.details.message.isEmpty then str "workflow.step_failed"
           else error.details.message }, world)

/-- The ids of the plan that are neither completed nor failed. -/
def skippedStepIds (plan : WorkflowPlan) (receipt : WorkflowReceipt) : List Bytes :=
  (plan.steps.map (·.stepId)).filter fun stepId =>
    !receipt.completedStepIds.contains stepId && receipt.failedStepId ≠ some stepId

/-- The execution when the batches are laid: what the loop leaves. -/
def runBatches (dependencies : WorkflowEngineDependencies World) (plan : WorkflowPlan)
    (batches : List (List Bytes)) (world : World) : WorkflowRun World :=
  runSteps dependencies plan
    { receipt :=
        { workflowId := plan.workflowId
          status := str "completed"
          evidenceRefs := [str "workflow:" ++ plan.workflowId] }
      world } batches.flatten

/-- `execute` with a plan. The ids it dispatches are given beside its outcome. -/
def executePlan (dependencies : WorkflowEngineDependencies World) (plan : WorkflowPlan)
    (workflowIr : ToolIR) (world : World) : WorkflowExecutionOutcome × List Bytes × World :=
  let batchResult := buildBatches plan
  if !batchResult.ok then
    let (outcome, world) := finalizeReceipt dependencies
      { workflowId := plan.workflowId
        status := str "rejected"
        evidenceRefs := (str "workflow:" ++ plan.workflowId) :: batchResult.evidenceRefs
        failureDigest := batchResult.error } workflowIr world
    (outcome, [], world)
  else
    let state := runBatches dependencies plan batchResult.batches world
    let (outcome, world) := finalizeReceipt dependencies
      { state.receipt with
        skippedStepIds := skippedStepIds plan state.receipt
        compensationHints := buildHints state.compensationLedger } workflowIr state.world
    (outcome, state.dispatched, world)

/-- `execute` with a call, which a loader turns into a plan. -/
def execute (dependencies : WorkflowEngineDependencies World) (workflowIr : ToolIR) (world : World) :
    WorkflowExecutionOutcome × List Bytes × World :=
  let rejected (workflowId message : Bytes) (evidenceRefs : List Bytes) (world : World) :=
    let (outcome, world) := finalizeReceipt dependencies
      { workflowId
        status := str "rejected"
        evidenceRefs
        failureDigest := some (buildError .validationFieldMissing message
          (str "tools.workflow.plan") workflowId) } workflowIr world
    (outcome, [], world)
  match dependencies.planLoader with
  | none =>
    rejected (workflowIr.toolCallId.getD (str "workflow.unconfigured"))
      (str "workflow.plan_loader_unavailable") [str "workflow.plan_loader_unavailable"] world
  | some planLoader =>
    let (load, world) := planLoader workflowIr world
    match load.plan with
    | none =>
      rejected (workflowIr.toolCallId.getD (str "workflow.invalid"))
        (if load.failureMessage.isEmpty then load.failureReasonCode else load.failureMessage)
        [str "workflow.plan_load_failed", load.failureReasonCode] world
    | some plan => executePlan dependencies plan workflowIr world

end Dasall.Tools.Execution
