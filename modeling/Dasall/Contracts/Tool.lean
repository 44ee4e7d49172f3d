import Dasall.Contracts.Memory
import Dasall.Contracts.Observation
import Dasall.Contracts.Checkpoint

/-! # Tool descriptors -/

open Dasall.Contracts.Memory Dasall.Lib.Guard Dasall.Lib.Text Dasall.Contracts

namespace Dasall.Contracts.Tool

inductive ToolCategory
  | unspecified
  | information
  | action
  | workflow
  | agentDelegation
  | diagnostic
deriving DecidableEq

inductive ToolCapabilityTier
  | unspecified
  | stable
  | preview
  | internal
deriving DecidableEq

structure ToolDescriptor where
  toolName : Option Bytes := none
  displayName : Option Bytes := none
  category : Option ToolCategory := none
  capabilityTier : Option ToolCapabilityTier := none
  isReadOnly : Option Bool := none
  supportsCompensation : Option Bool := none
  defaultTimeoutMs : Option UInt32 := none
  inputSchemaRef : Option Bytes := none
  outputSchemaRef : Option Bytes := none
  requiredScopes : Option (List Bytes) := none
  tags : Option (List Bytes) := none
  version : Option Bytes := none
deriving DecidableEq

def validateToolDescriptorRequiredFields (descriptor : ToolDescriptor) : Check Bytes := do
  require (hasNonEmptyValue descriptor.toolName) "tool_name is required and must be non-empty"
  require (descriptor.category.any fun category => category ≠ .unspecified)
    "category is required and must not be Unspecified"
  pass "all required tool descriptor fields present"

/-- Every category that is specified is in the known range, so that check of the source always passes. -/
def validateToolDescriptorFieldRules (descriptor : ToolDescriptor) : Check Bytes := do
  let _ ← validateToolDescriptorRequiredFields descriptor
  require (descriptor.capabilityTier.all fun tier => tier ≠ .unspecified)
    "capability_tier value is outside the known enum range"
  require (nonEmptyWhenPresent descriptor.displayName) "display_name must be non-empty when present"
  require (descriptor.defaultTimeoutMs.all fun timeout => timeout ≠ 0)
    "default_timeout_ms must be positive when present"
  require (nonEmptyWhenPresent descriptor.inputSchemaRef)
    "input_schema_ref must be non-empty when present"
  require (nonEmptyWhenPresent descriptor.outputSchemaRef)
    "output_schema_ref must be non-empty when present"
  require (nonEmptyWhenPresent descriptor.version) "version must be non-empty when present"
  whenPresent descriptor.requiredScopes
    (validateStringVector "required_scopes must contain at least one item when present"
      "required_scopes must not contain empty strings"
      "required_scopes must not contain duplicate items")
  whenPresent descriptor.tags
    (validateStringVector "tags must contain at least one item when present"
      "tags must not contain empty strings" "tags must not contain duplicate items")
  pass "tool descriptor field rules validation passed"

theorem toolName_of_accepted {descriptor : ToolDescriptor} {reason : Bytes}
    (h : validateToolDescriptorFieldRules descriptor = .ok reason) :
    hasNonEmptyValue descriptor.toolName = true := by
  simp only [validateToolDescriptorFieldRules, validateToolDescriptorRequiredFields, bind_eq_ok,
    require_eq_ok] at h
  obtain ⟨_, ⟨_, hname, -⟩, -⟩ := h
  exact hname

/-! ## Tool calls and their results -/

inductive ToolIROperation
  | unspecified
  | invoke
  | dryRun
  | validateOnly
deriving DecidableEq

inductive ToolIRPriority
  | unspecified
  | low
  | normal
  | high
  | urgent
deriving DecidableEq

inductive ToolIRRoute
  | unspecified
  | localTool
  | workflowEngine
  | mcpRemote
deriving DecidableEq

structure ToolIR where
  requestId : Option Bytes := none
  toolCallId : Option Bytes := none
  toolName : Option Bytes := none
  operation : Option ToolIROperation := none
  normalizedArguments : Option Bytes := none
  route : Option ToolIRRoute := none
  timeoutMs : Option UInt32 := none
  idempotencyKey : Option Bytes := none
  priority : Option ToolIRPriority := none
  goalId : Option Bytes := none
  workerTaskId : Option Bytes := none
deriving DecidableEq

structure ToolResult where
  requestId : Option Bytes := none
  toolCallId : Option Bytes := none
  toolName : Option Bytes := none
  success : Option Bool := none
  payload : Option Bytes := none
  error : Option ErrorInfo := none
  sideEffects : Option (List Bytes) := none
  completedAt : Option Int64 := none
  durationMs : Option Int64 := none
  goalId : Option Bytes := none
  workerTaskId : Option Bytes := none
  tags : Option (List Bytes) := none
deriving DecidableEq

/-! ## Tool requests, and the guards of requests and calls -/

inductive ToolInvocationKind
  | unspecified
  | informationQuery
  | action
  | workflow
  | agentDelegation
  | diagnostic
deriving DecidableEq

structure ToolRequest where
  requestId : Option Bytes := none
  toolCallId : Option Bytes := none
  toolName : Option Bytes := none
  invocationKind : Option ToolInvocationKind := none
  argumentsPayload : Option Bytes := none
  createdAt : Option Int64 := none
  goalId : Option Bytes := none
  workerTaskId : Option Bytes := none
  runtimeBudget : Option RuntimeBudget := none
  timeoutMs : Option UInt32 := none
  idempotencyKey : Option Bytes := none
  tags : Option (List Bytes) := none
deriving DecidableEq

/-! ## Requests -/

def validateToolRequestRequiredFields (request : ToolRequest) : Check Bytes := do
  require (hasNonEmptyValue request.requestId) "request_id is required and must be non-empty"
  require (hasNonEmptyValue request.toolCallId) "tool_call_id is required and must be non-empty"
  require (hasNonEmptyValue request.toolName) "tool_name is required and must be non-empty"
  require (request.invocationKind.any fun kind => kind ≠ .unspecified)
    "invocation_kind is required and must not be Unspecified"
  require (hasNonEmptyValue request.argumentsPayload)
    "arguments_payload is required and must be non-empty"
  require (request.createdAt.any fun createdAt => 0 < createdAt)
    "created_at is required and must be a positive timestamp"
  pass "all required tool request fields present"

/-- Every kind that is specified is in the known range, so that check of the source always passes. -/
def validateToolRequestBoundary (request : ToolRequest) : Check Bytes := do
  let _ ← validateToolRequestRequiredFields request
  require (decide (request.toolCallId ≠ request.requestId))
    "tool_call_id must not equal request_id because call identity and request identity are layered separately"
  pass "tool request boundary validation passed"

/-- A limit of a budget that is absent or not zero. -/
def positiveWhenPresent (limit : Option UInt32) : Bool := limit.all fun limit => limit ≠ 0

def validateRequestBudget (budget : RuntimeBudget) : Check Unit := do
  require (positiveWhenPresent budget.maxTokens)
    "runtime_budget.max_tokens must be positive when present"
  require (positiveWhenPresent budget.maxTurns)
    "runtime_budget.max_turns must be positive when present"
  require (positiveWhenPresent budget.maxToolCalls)
    "runtime_budget.max_tool_calls must be positive when present"
  require (positiveWhenPresent budget.maxLatencyMs)
    "runtime_budget.max_latency_ms must be positive when present"
  require (positiveWhenPresent budget.maxReplanCount)
    "runtime_budget.max_replan_count must be positive when present"

def validateToolRequestFieldRules (request : ToolRequest) : Check Bytes := do
  let _ ← validateToolRequestBoundary request
  require (nonEmptyWhenPresent request.goalId) "goal_id must be non-empty when present"
  require (nonEmptyWhenPresent request.workerTaskId)
    "worker_task_id must be non-empty when present"
  require (nonEmptyWhenPresent request.idempotencyKey)
    "idempotency_key must be non-empty when present"
  require (positiveWhenPresent request.timeoutMs) "timeout_ms must be positive when present"
  whenPresent request.runtimeBudget validateRequestBudget
  whenPresent request.tags
    (validateStringVector "tags must contain at least one item when present"
      "tags must not contain empty strings" "tags must not contain duplicate items")
  pass "tool request field rules validation passed"

/-! ## Calls -/

def validateToolIrRequiredFields (toolIr : ToolIR) : Check Bytes := do
  require (hasNonEmptyValue toolIr.requestId) "request_id is required and must be non-empty"
  require (hasNonEmptyValue toolIr.toolCallId) "tool_call_id is required and must be non-empty"
  require (hasNonEmptyValue toolIr.toolName) "tool_name is required and must be non-empty"
  require (toolIr.operation.any fun operation => operation ≠ .unspecified)
    "operation is required and must not be Unspecified"
  require (hasNonEmptyValue toolIr.normalizedArguments)
    "normalized_arguments is required and must be non-empty"
  require (toolIr.route.any fun route => route ≠ .unspecified)
    "route is required and must not be Unspecified"
  pass "all required tool IR fields present"

/-- The operation and the route that are specified are in their known ranges. -/
def validateToolIrFieldRules (toolIr : ToolIR) : Check Bytes := do
  let _ ← validateToolIrRequiredFields toolIr
  require (toolIr.priority.all fun priority => priority ≠ .unspecified)
    "priority value is outside the known enum range"
  require (decide (toolIr.toolCallId ≠ toolIr.requestId))
    "tool_call_id must not equal request_id because call identity and request identity are layered separately"
  require (positiveWhenPresent toolIr.timeoutMs) "timeout_ms must be positive when present"
  require (nonEmptyWhenPresent toolIr.idempotencyKey)
    "idempotency_key must be non-empty when present"
  require (nonEmptyWhenPresent toolIr.goalId) "goal_id must be non-empty when present"
  require (nonEmptyWhenPresent toolIr.workerTaskId)
    "worker_task_id must be non-empty when present"
  pass "tool IR field rules validation passed"

end Dasall.Contracts.Tool
