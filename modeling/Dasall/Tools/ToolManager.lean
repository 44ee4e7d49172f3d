import Dasall.Tools.Execution.WorkflowEngine
import Dasall.Tools.Route.ToolRouteSelector

/-!
# The tool manager

A request is resolved, validated, admitted and routed, and then an executor or the workflow engine
runs it. A compensation goes the same way, on the builtin lane only. What the executors do, and
what the clock says, depends on a world that they may change.
-/

open Dasall.Contracts Dasall.Contracts.Tool Dasall.Infra.Policy Dasall.Lib.Guard Dasall.Lib.Text
  Dasall.Profiles Dasall.Tools.Bridge Dasall.Tools.Config Dasall.Tools.Execution
  Dasall.Tools.Policy Dasall.Tools.Registry Dasall.Tools.Route Dasall.Tools.Validation

namespace Dasall.Tools

variable {World : Type}

structure ToolConfirmationFact where
  confirmationId : Option Bytes
  subjectRef : Option Bytes
  proofType : Option Bytes
  confirmedAtMs : Option Int64
deriving DecidableEq

def ToolConfirmationFact.hasConsistentValues (fact : ToolConfirmationFact) : Bool :=
  hasNonEmptyValue fact.confirmationId && hasNonEmptyValue fact.subjectRef &&
    hasNonEmptyValue fact.proofType && fact.confirmedAtMs.any fun confirmedAt => 0 < confirmedAt

structure ToolInvocationContext where
  callerDomain : Option Bytes := none
  sessionId : Option Bytes := none
  profileSnapshot : Option RuntimePolicySnapshot := none
  confirmationFacts : Option (List ToolConfirmationFact) := none
  requestTimeoutBudgetMs : Option UInt64 := none

structure ToolRouteFacts where
  routeKind : Option Bytes
  routeRef : Option Bytes
  decisionReason : Option Bytes
  pluginId : Option Bytes
  serverId : Option Bytes
deriving DecidableEq

structure ToolInvocationEnvelope where
  toolResult : Option ToolResult := none
  routeFacts : Option ToolRouteFacts := none
  evidenceRefs : Option (List Bytes) := none
  compensationHints : Option (List ToolCompensationHint) := none
  failureReasonCode : Option Bytes := none
deriving DecidableEq

structure CompensationRequest where
  toolCallId : Option Bytes
  compensationAction : Option Bytes
  targetRef : Option Bytes
  reasonCode : Option Bytes
  evidenceRefs : Option (List Bytes)
deriving DecidableEq

structure ToolExecutionContext where
  invocationContext : ToolInvocationContext
  laneKey : Option Bytes

structure ToolExecutionRequest where
  toolIr : ToolIR
  routeDecision : ToolRouteDecision
  invocationContext : ToolInvocationContext

/-- The manifest, the functions the manager calls, the clock, and the hash of profile ids. -/
structure ToolManagerDependencies (World : Type) where
  buildManifest : BuildProfileManifest
  executor : ToolExecutionRequest → World → ToolResult × World
  compensationExecutor : ToolIR → CompensationRequest → ToolExecutionContext → World →
    ToolResult × World
  workflowEngine : WorkflowEngineDependencies World
  currentTimeMs : World → Int64 × World
  hashId : Bytes → UInt64

structure ToolManager where
  registry : ToolRegistrySnapshot := {}
  configAdapter : ToolConfigAdapter := {}
  lanePool : ExecutorLanePool := ∅
  routeHealth : ToolRouteHealthSnapshot := {}
  capabilitySnapshot : Option CapabilitySnapshot := none

namespace Manager

def resolveDescriptor (registry : ToolRegistrySnapshot) (toolName : Bytes) : Option ToolDescriptor :=
  (registry.descriptors.records.lookup toolName).map (·.1)

def listMcpBindings (registry : ToolRegistrySnapshot) (internalToolName : Bytes) :
    List MCPToolBinding :=
  (registry.mcpBindingRegistry.records.entries.map fun entry => entry.2.1).filter fun binding =>
    binding.internalToolName = internalToolName

def routeKindString : ToolIRRoute → Bytes
  | .localTool => str "builtin"
  | .workflowEngine => str "workflow"
  | .mcpRemote => str "mcp"
  | .unspecified => str "unspecified"

def acquireLaneForRoute (pool : ExecutorLanePool) (decision : ToolRouteDecision)
    (timeoutView : ToolTimeoutView) : LaneAcquireResult × ExecutorLanePool :=
  match decision.route with
  | .localTool => acquireBuiltin pool timeoutView
  | .workflowEngine => acquireWorkflow pool timeoutView
  | .mcpRemote => acquireMcp pool (decision.serverId.getD []) timeoutView
  | .unspecified => ({}, pool)

def buildError (code : ResultCode) (message stage refId : Bytes) : ErrorInfo where
  failureType := some (classifyResultCode code)
  retryable := some false
  safeToReplan := some true
  details := { code := some code.toRaw, message, stage }
  sourceRef := { refType := str "tool_manager", refId }

def buildRouteFacts (decision : ToolRouteDecision) : ToolRouteFacts where
  routeKind := some (routeKindString decision.route)
  routeRef := decision.serverId <|> some decision.laneKey
  decisionReason := some decision.reasonCode
  pluginId := none
  serverId := decision.serverId

/-- Why a call ends before an executor is called. -/
structure Refusal where
  code : ResultCode
  reasonCode : Bytes
  stage : Bytes
  routeFacts : Option ToolRouteFacts := none

def buildFailureEnvelope (request : ToolRequest) (refusal : Refusal) (completedAt : Int64) :
    ToolInvocationEnvelope where
  toolResult := some
    { requestId := request.requestId
      toolCallId := request.toolCallId
      toolName := request.toolName
      success := some false
      error := some (buildError refusal.code refusal.reasonCode refusal.stage
        (request.toolName.getD (str "unknown_tool")))
      completedAt := some completedAt
      durationMs := some 0
      goalId := request.goalId
      workerTaskId := request.workerTaskId
      tags := request.tags }
  routeFacts := refusal.routeFacts
  evidenceRefs := some [str "stage:" ++ refusal.stage, str "reason:" ++ refusal.reasonCode]
  failureReasonCode := some refusal.reasonCode

def buildCompensationFailureEnvelope (request : CompensationRequest) (refusal : Refusal)
    (completedAt : Int64) : ToolInvocationEnvelope where
  toolResult := some
    { toolCallId := request.toolCallId
      success := some false
      error := some (buildError refusal.code refusal.reasonCode refusal.stage
        (request.toolCallId.getD (str "unknown_call")))
      completedAt := some completedAt
      durationMs := some 0 }
  routeFacts := refusal.routeFacts
  evidenceRefs := request.evidenceRefs
  failureReasonCode := some refusal.reasonCode

/-! ## Admission -/

def categoryDomain : ToolCategory → Option Bytes
  | .workflow | .agentDelegation => some (str "workflow")
  | .information | .action | .diagnostic => some (str "builtin")
  | .unspecified => none

/-- The domain of the route that the call asks for, or of the category when it asks for none. -/
def deriveRequestedDomain (toolIr : ToolIR) (descriptor : ToolDescriptor) : Option Bytes :=
  match toolIr.route with
  | some .localTool => some (str "builtin")
  | some .workflowEngine => some (str "workflow")
  | some .mcpRemote => some (str "mcp")
  | some .unspecified | none => descriptor.category.bind categoryDomain

def hasConfirmationFact (context : ToolInvocationContext) : Bool :=
  (context.confirmationFacts.getD []).any ToolConfirmationFact.hasConsistentValues

def isHighRiskDescriptor (descriptor : ToolDescriptor) : Bool :=
  match descriptor.category with
  | some .action => !descriptor.isReadOnly.getD false
  | some .agentDelegation => true
  | _ => false

def admissionRequest (toolIr : ToolIR) (descriptor : ToolDescriptor) (name : Bytes)
    (context : ToolInvocationContext) : ToolAdmissionRequest :=
  let requestedDomain := deriveRequestedDomain toolIr descriptor
  { toolName := descriptor.toolName.getD name
    requiredScopes := descriptor.requiredScopes.getD []
    callerDomain := requestedDomain
    highRisk := isHighRiskDescriptor descriptor
    confirmationPresent := hasConfirmationFact context
    routeProven := requestedDomain.isSome }

/-- A call that is admitted, with the views of the snapshot and the route that it gets. -/
structure AdmittedCall where
  toolIr : ToolIR
  descriptor : ToolDescriptor
  policyView : ToolPolicyView
  timeoutView : ToolTimeoutView
  routeDecision : ToolRouteDecision

/-- Admission and the choice of a route, which are the same for calls and for compensations. -/
def admitAndRoute (manager : ToolManager) (toolIr : ToolIR) (descriptor : ToolDescriptor)
    (name : Bytes) (context : ToolInvocationContext) (policyView : ToolPolicyView)
    (timeoutView : ToolTimeoutView) : Except Refusal AdmittedCall :=
  let decision := evaluate (admissionRequest toolIr descriptor name context) policyView
  if !decision.allowed then
    .error
      { code := .policyDenied
        reasonCode := decision.reasonCode
        stage := str "tools.manager.admit" }
  else
    let routeDecision := selectRoute toolIr descriptor timeoutView
      (listMcpBindings manager.registry name) manager.capabilitySnapshot manager.routeHealth
    if !routeDecision.available then
      .error
        { code := .toolExecutionFailed
          reasonCode := routeDecision.reasonCode
          stage := str "tools.manager.route"
          routeFacts := some (buildRouteFacts routeDecision) }
    else .ok { toolIr, descriptor, policyView, timeoutView, routeDecision }

/-- The views of the snapshot, and the adapter that keeps them. -/
def buildViews (dependencies : ToolManagerDependencies World) (adapter : ToolConfigAdapter)
    (snapshot : RuntimePolicySnapshot) : ToolPolicyView × ToolTimeoutView × ToolConfigAdapter :=
  let (policyView, adapter) :=
    buildPolicyView dependencies.hashId adapter snapshot dependencies.buildManifest
  let (timeoutView, adapter) :=
    buildTimeoutView dependencies.hashId adapter snapshot dependencies.buildManifest
  (policyView, timeoutView, adapter)

/-- The snapshot, the descriptor and the call, before any view is built. -/
def resolveInvocation (manager : ToolManager) (request : ToolRequest)
    (context : ToolInvocationContext) :
    Except Refusal (RuntimePolicySnapshot × Bytes × ToolDescriptor × ToolIR) := do
  let some snapshot := context.profileSnapshot
    | .error
        { code := .validationFieldMissing
          reasonCode := str "tool.manager.profile_missing"
          stage := str "tools.manager.context" }
  let toolName := request.toolName.getD []
  ensure (!toolName.isEmpty)
    ({ code := .validationFieldMissing
       reasonCode := str "InvalidRequest"
       stage := str "tools.manager.resolve" } : Refusal)
  let some descriptor := resolveDescriptor manager.registry toolName
    | .error
        { code := .toolExecutionFailed
          reasonCode := str "tool.manager.descriptor_missing"
          stage := str "tools.manager.resolve" }
  match validate request descriptor with
  | .error diagnostics =>
    .error
      { code := .validationFieldMissing
        reasonCode := diagnostics.errorCode
        stage := str "tools.manager.validate" }
  | .ok toolIr => return (snapshot, toolName, descriptor, toolIr)

def admitInvocation (dependencies : ToolManagerDependencies World) (manager : ToolManager)
    (request : ToolRequest) (context : ToolInvocationContext) :
    Except Refusal AdmittedCall × ToolConfigAdapter :=
  match resolveInvocation manager request context with
  | .error refusal => (.error refusal, manager.configAdapter)
  | .ok (snapshot, toolName, descriptor, toolIr) =>
    let (policyView, timeoutView, adapter) := buildViews dependencies manager.configAdapter snapshot
    (admitAndRoute manager toolIr descriptor toolName context policyView timeoutView, adapter)

/-! ## Results -/

def buildNonExecutionResult (toolIr : ToolIR) (decision : ToolRouteDecision) (modeTag : Bytes)
    (completedAt : Int64) : ToolResult where
  requestId := toolIr.requestId
  toolCallId := toolIr.toolCallId
  toolName := toolIr.toolName
  success := some true
  payload := some (str "\x7b\"status\":\"accepted\",\"mode\":\"" ++ modeTag ++
    str "\",\"route\":\"" ++ routeKindString decision.route ++ str "\",\"lane\":\"" ++
    decision.laneKey ++ str "\"\x7d")
  completedAt := some completedAt
  durationMs := some 0
  goalId := toolIr.goalId
  workerTaskId := toolIr.workerTaskId
  tags := some [modeTag]

/-- What the result lacks is that of the call, or else that of the request. -/
def normalizeResult (request : ToolRequest) (toolIr : ToolIR) (result : ToolResult)
    (completedAt : Int64) : ToolResult :=
  let toolName := result.toolName <|> toolIr.toolName <|> request.toolName
  let success := result.success.getD result.error.isNone
  { result with
    requestId := result.requestId <|> toolIr.requestId <|> request.requestId
    toolCallId := result.toolCallId <|> toolIr.toolCallId <|> request.toolCallId
    toolName
    goalId := result.goalId <|> toolIr.goalId <|> request.goalId
    workerTaskId := result.workerTaskId <|> toolIr.workerTaskId <|> request.workerTaskId
    tags := result.tags <|> request.tags
    success := some success
    error :=
      if success then none
      else
        result.error <|> some (buildError .toolExecutionFailed
          (str "tool.manager.execution_failed") (str "tools.manager.execute")
          (toolName.getD (str "unknown_tool")))
    completedAt := some completedAt
    durationMs := result.durationMs <|> some 0 }

/-- The clock is read for a result that says no time. -/
def completionTime (dependencies : ToolManagerDependencies World) (result : ToolResult)
    (world : World) : Int64 × World :=
  match result.completedAt with
  | some completedAt => (completedAt, world)
  | none => dependencies.currentTimeMs world

def buildCompensationHints (result : ToolResult) : Option (List ToolCompensationHint) :=
  if (result.sideEffects.getD []).isEmpty then none
  else
    let capabilityId := result.toolName.getD (str "unknown_tool")
    let targetId := result.toolCallId.getD (str "builtin:" ++ capabilityId)
    some
      [{ compensationAction := result.toolName
         targetRef := some (formatCompensationTargetRef capabilityId targetId)
         reasonCode := some (str "tool.manager.compensation_available")
         evidenceRefs := result.sideEffects }]

def buildCitations (result : ToolResult) (decision : ToolRouteDecision) : List Bytes :=
  (result.toolCallId.map fun toolCallId => str "tool_call:" ++ toolCallId).toList ++
    [str "route_kind:" ++ routeKindString decision.route] ++
    (if decision.reasonCode.isEmpty then [] else [str "route_reason:" ++ decision.reasonCode]) ++
    (decision.serverId.map fun serverId => str "server:" ++ serverId).toList

def deriveFailureReason (result : ToolResult) : Bytes :=
  match result.error with
  | none => str "tool.manager.execution_failed"
  | some error =>
    if error.details.message.isEmpty then str "tool.manager.execution_failed"
    else error.details.message

/-- The standard projector. It says nothing about compensation. -/
def project (result : ToolResult) (decision : ToolRouteDecision) : ToolInvocationEnvelope where
  toolResult := some result
  routeFacts := some (buildRouteFacts decision)
  evidenceRefs := some (buildCitations result decision)
  failureReasonCode :=
    if result.success.getD result.error.isNone then none else some (deriveFailureReason result)

/-! ## Calls -/

/-- What ran a call: the result, and for a workflow its hints, evidence and failure. -/
structure Execution where
  result : ToolResult
  workflowCompensationHints : Option (List ToolCompensationHint) := none
  workflowEvidenceRefs : Option (List Bytes) := none
  workflowFailureReasonCode : Option Bytes := none

/-- A list or a text that is empty counts as absent. -/
def unlessEmpty {Item : Type} (items : List Item) : Option (List Item) :=
  if items.isEmpty then none else some items

def executeWorkflow (dependencies : ToolManagerDependencies World) (call : AdmittedCall)
    (world : World) : Execution × World :=
  let (outcome, _, world) := Execution.execute dependencies.workflowEngine call.toolIr world
  ({ result := outcome.toolResult
     workflowCompensationHints := outcome.compensationHints
     workflowEvidenceRefs := unlessEmpty outcome.evidenceRefs
     workflowFailureReasonCode := unlessEmpty outcome.failureReasonCode }, world)

def executeTool (dependencies : ToolManagerDependencies World) (call : AdmittedCall)
    (context : ToolInvocationContext) (world : World) : Execution × World :=
  let (result, world) := dependencies.executor
    { toolIr := call.toolIr, routeDecision := call.routeDecision, invocationContext := context } world
  ({ result }, world)

def finishInvocation (dependencies : ToolManagerDependencies World) (request : ToolRequest)
    (call : AdmittedCall) (execution : Execution) (world : World) :
    ToolInvocationEnvelope × World :=
  let (completedAt, world) := completionTime dependencies execution.result world
  let result := normalizeResult request call.toolIr execution.result completedAt
  let envelope := project result call.routeDecision
  let failureReasonCode := execution.workflowFailureReasonCode <|> envelope.failureReasonCode
  ({ envelope with
     evidenceRefs := execution.workflowEvidenceRefs <|> envelope.evidenceRefs
     failureReasonCode := if result.success.getD false then none else failureReasonCode
     compensationHints :=
       match execution.workflowCompensationHints with
       | some hints => some hints
       | none =>
         if call.routeDecision.route ≠ .workflowEngine &&
             call.descriptor.supportsCompensation.getD false then
           buildCompensationHints result
         else none }, world)

/-- What a call gives. `dispatched` lists the calls that an executor or the workflow engine was
called for, which the source does not keep. -/
structure Answer (World : Type) where
  envelope : ToolInvocationEnvelope
  dispatched : List AdmittedCall := []
  manager : ToolManager
  world : World

def refuse (dependencies : ToolManagerDependencies World) (build : Int64 → ToolInvocationEnvelope)
    (manager : ToolManager) (world : World) : Answer World :=
  let (completedAt, world) := dependencies.currentTimeMs world
  { envelope := build completedAt, manager, world }

/-- A call that holds a permit of its lane. -/
def dispatchInvocation (dependencies : ToolManagerDependencies World) (manager : ToolManager)
    (request : ToolRequest) (context : ToolInvocationContext) (call : AdmittedCall)
    (laneKey : Bytes) (world : World) : Answer World :=
  let (execution, world) :=
    if call.routeDecision.route = .workflowEngine then executeWorkflow dependencies call world
    else executeTool dependencies call context world
  let (envelope, world) := finishInvocation dependencies request call execution world
  { envelope
    dispatched := [call]
    manager := { manager with lanePool := release manager.lanePool laneKey }
    world }

/-- A call that is only checked runs nothing and takes no permit. -/
def answerWithoutExecution (dependencies : ToolManagerDependencies World) (manager : ToolManager)
    (request : ToolRequest) (call : AdmittedCall) (modeTag : Bytes) (world : World) : Answer World :=
  let (completedAt, world) := dependencies.currentTimeMs world
  let result := buildNonExecutionResult call.toolIr call.routeDecision modeTag completedAt
  let (envelope, world) := finishInvocation dependencies request call { result } world
  { envelope, manager, world }

def executeInvocation (dependencies : ToolManagerDependencies World) (manager : ToolManager)
    (request : ToolRequest) (context : ToolInvocationContext) (call : AdmittedCall) (world : World) :
    Answer World :=
  if call.toolIr.operation = some .dryRun then
    answerWithoutExecution dependencies manager request call kDryRunTag world
  else if call.toolIr.operation = some .validateOnly then
    answerWithoutExecution dependencies manager request call kValidateOnlyTag world
  else
    let (acquisition, lanePool) :=
      acquireLaneForRoute manager.lanePool call.routeDecision call.timeoutView
    let manager := { manager with lanePool }
    if !acquisition.acquired then
      refuse dependencies (buildFailureEnvelope request
        { code := .toolExecutionFailed
          reasonCode := acquisition.reasonCode
          stage := str "tools.manager.lane"
          routeFacts := some (buildRouteFacts call.routeDecision) }) manager world
    else
      dispatchInvocation dependencies manager request context call acquisition.reservation.laneKey
        world

def invoke (dependencies : ToolManagerDependencies World) (manager : ToolManager)
    (request : ToolRequest) (context : ToolInvocationContext) (world : World) : Answer World :=
  let (admission, configAdapter) := admitInvocation dependencies manager request context
  let manager := { manager with configAdapter }
  match admission with
  | .error refusal => refuse dependencies (buildFailureEnvelope request refusal) manager world
  | .ok call => executeInvocation dependencies manager request context call world

/-! ## Compensations -/

def invocationKindForCategory : ToolCategory → ToolInvocationKind
  | .information => .informationQuery
  | .action => .action
  | .workflow => .workflow
  | .agentDelegation => .agentDelegation
  | .diagnostic => .diagnostic
  | .unspecified => .action

/-- The references of the source that are not empty and not there yet go to the end. -/
def appendUniqueEvidenceRefs (target source : Option (List Bytes)) : Option (List Bytes) :=
  match source with
  | none | some [] => target
  | some refs =>
    some (refs.foldl (fun collected ref => if ref.isEmpty then collected else appendUnique collected ref)
      (target.getD []))

def compensationRefusal (code : ResultCode) (reasonCode : String)
    (stage : String := "tools.manager.compensate") : Refusal where
  code := code
  reasonCode := str reasonCode
  stage := str stage

/-- The snapshot, the capability and the descriptor of a compensation. -/
def resolveCompensation (manager : ToolManager) (request : CompensationRequest)
    (context : ToolInvocationContext) :
    Except Refusal (RuntimePolicySnapshot × Bytes × ToolDescriptor) := do
  let some snapshot := context.profileSnapshot
    | .error (compensationRefusal .validationFieldMissing "tool.manager.profile_missing")
  ensure (hasNonEmptyValue request.toolCallId && hasNonEmptyValue request.compensationAction &&
      hasNonEmptyValue request.targetRef && hasNonEmptyValue request.reasonCode)
    (compensationRefusal .validationFieldMissing "InvalidRequest")
  let some target := resolveCompensationTarget (request.targetRef.getD [])
    | .error (compensationRefusal .validationFieldMissing "tool.manager.compensation_target_invalid")
  ensure (!target.capabilityId.isEmpty)
    (compensationRefusal .validationFieldMissing "tool.manager.compensation_target_invalid")
  let some descriptor := resolveDescriptor manager.registry target.capabilityId
    | .error (compensationRefusal .toolExecutionFailed "tool.manager.descriptor_missing"
        "tools.manager.resolve")
  ensure (descriptor.supportsCompensation.getD false && decide (descriptor.category = some .action))
    (compensationRefusal .toolExecutionFailed "tool.manager.compensation_unsupported")
  return (snapshot, target.capabilityId, descriptor)

def syntheticRequest (request : CompensationRequest) (capabilityId : Bytes)
    (descriptor : ToolDescriptor) (snapshot : RuntimePolicySnapshot) (createdAt : Int64) :
    ToolRequest where
  requestId := request.toolCallId.map fun toolCallId => toolCallId ++ str ".compensate"
  toolCallId := request.toolCallId
  toolName := some capabilityId
  invocationKind := some ((descriptor.category.map invocationKindForCategory).getD .action)
  argumentsPayload := some (str "\x7b\x7d")
  createdAt := some createdAt
  runtimeBudget := some snapshot.runtimeBudget
  timeoutMs := descriptor.defaultTimeoutMs
  idempotencyKey := request.toolCallId
  tags := some [str "tool.compensation"]

/-- The call of a compensation, admitted on the builtin lane. -/
def admitCompensation (dependencies : ToolManagerDependencies World) (manager : ToolManager)
    (capabilityId : Bytes) (descriptor : ToolDescriptor) (snapshot : RuntimePolicySnapshot)
    (synthetic : ToolRequest) (context : ToolInvocationContext) :
    Except Refusal AdmittedCall × ToolConfigAdapter :=
  let toolIr := injectDefaults synthetic descriptor .invoke (str "\x7b\x7d")
  if !(validateToolIrFieldRules toolIr).isOk then
    (.error (compensationRefusal .validationFieldMissing "InvalidToolIR"), manager.configAdapter)
  else
    let (policyView, timeoutView, adapter) := buildViews dependencies manager.configAdapter snapshot
    let admission := do
      let call ← admitAndRoute manager toolIr descriptor capabilityId context policyView timeoutView
      if call.routeDecision.route ≠ .localTool then
        .error
          { compensationRefusal .toolExecutionFailed "tool.manager.compensation_route_unsupported"
              "tools.manager.route" with
            routeFacts := some (buildRouteFacts call.routeDecision) }
      else .ok call
    (admission, adapter)

def finishCompensation (dependencies : ToolManagerDependencies World) (request : CompensationRequest)
    (synthetic : ToolRequest) (call : AdmittedCall) (result : ToolResult) (world : World) :
    ToolInvocationEnvelope × World :=
  let (completedAt, world) := completionTime dependencies result world
  let result := normalizeResult synthetic call.toolIr result completedAt
  let envelope := project result call.routeDecision
  ({ envelope with
     evidenceRefs := appendUniqueEvidenceRefs envelope.evidenceRefs request.evidenceRefs
     failureReasonCode :=
       if result.success.getD false then none else envelope.failureReasonCode }, world)

def executeCompensation (dependencies : ToolManagerDependencies World) (manager : ToolManager)
    (request : CompensationRequest) (synthetic : ToolRequest) (context : ToolInvocationContext)
    (call : AdmittedCall) (world : World) : Answer World :=
  let (acquisition, lanePool) := acquireBuiltin manager.lanePool call.timeoutView
  let manager := { manager with lanePool }
  if !acquisition.acquired then
    refuse dependencies (buildCompensationFailureEnvelope request
      { code := .toolExecutionFailed
        reasonCode := acquisition.reasonCode
        stage := str "tools.manager.lane"
        routeFacts := some (buildRouteFacts call.routeDecision) }) manager world
  else
    let (result, world) := dependencies.compensationExecutor call.toolIr request
      { invocationContext := context, laneKey := some call.routeDecision.laneKey } world
    let (envelope, world) := finishCompensation dependencies request synthetic call result world
    { envelope
      dispatched := [call]
      manager := { manager with lanePool := release manager.lanePool acquisition.reservation.laneKey }
      world }

def compensate (dependencies : ToolManagerDependencies World) (manager : ToolManager)
    (request : CompensationRequest) (context : ToolInvocationContext) (world : World) :
    Answer World :=
  match resolveCompensation manager request context with
  | .error refusal =>
    refuse dependencies (buildCompensationFailureEnvelope request refusal) manager world
  | .ok (snapshot, capabilityId, descriptor) =>
    let (createdAt, world) := dependencies.currentTimeMs world
    let synthetic := syntheticRequest request capabilityId descriptor snapshot createdAt
    let (admission, configAdapter) :=
      admitCompensation dependencies manager capabilityId descriptor snapshot synthetic context
    let manager := { manager with configAdapter }
    match admission with
    | .error refusal =>
      refuse dependencies (buildCompensationFailureEnvelope request refusal) manager world
    | .ok call => executeCompensation dependencies manager request synthetic context call world

end Manager

end Dasall.Tools
