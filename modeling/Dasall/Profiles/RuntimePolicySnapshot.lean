import Dasall.Contracts.Checkpoint
import Dasall.Contracts.Reflection
import Dasall.Lib.Table

/-!
# Runtime policy snapshots

A snapshot has the policies of the active profile. A manifest says what is in the build.
-/

open Dasall.Contracts Dasall.Lib Dasall.Lib.Text

namespace Dasall.Profiles

structure ModelRoutePolicy where
  route : Bytes
  fallbackRoute : Option Bytes := none
  streamingEnabled : Bool := false
deriving DecidableEq

structure ModelProfile where
  stageRoutes : Table Bytes ModelRoutePolicy

structure TokenBudgetPolicy where
  maxInputTokens : UInt32 := 0
  maxOutputTokens : UInt32 := 0
  maxHistoryTurns : UInt32 := 0
  compressionThreshold : UInt32 := 0
deriving DecidableEq

structure PromptPolicy where
  allowedPromptReleases : List Bytes
  trustedSources : List Bytes
  toolVisibilityRules : List Bytes
deriving DecidableEq

structure CapabilityCachePolicy where
  refreshIntervalMs : Int64 := 0
  expireAfterMs : Int64 := 0
  staleReadAllowed : Bool := false
  failureBackoffMs : Int64 := 0
deriving DecidableEq

structure DegradePolicy where
  fallbackChain : List Bytes
  allowModelFailover : Bool := false
  allowBudgetDegrade : Bool := false
deriving DecidableEq

structure MemoryMaintenancePolicy where
  enabled : Bool := true
  intervalMs : Int64 := 120000
  jitterMs : Int64 := 0
  retentionMs : Int64 := 300000
  checkpointStrategy : Bytes := str "passive_each_tick"
deriving DecidableEq

structure TimeoutBudget where
  timeoutMs : Int64 := 0
  retryBudget : UInt32 := 0
  circuitBreakerThreshold : UInt32 := 0
deriving DecidableEq

structure TimeoutPolicy where
  llm : TimeoutBudget
  tool : TimeoutBudget
  mcp : TimeoutBudget
  workflow : TimeoutBudget
deriving DecidableEq

structure ExecutionPolicy where
  requiresHighRiskConfirmation : Bool := true
  safeModeEnabled : Bool := true
  auditLevel : Bytes
  allowedToolDomains : List Bytes
deriving DecidableEq

structure RuntimeSinkPolicy where
  failClosedOnAuditFailure : Bool := false
  dropOnMetricsFailure : Bool := true
deriving DecidableEq

structure OptionalBackendPolicy where
  metricsExporterType : Bytes := str "noop"
  metricsExporterPackageAsset : Bytes := str "builtin:metrics-noop"
  traceExporterType : Bytes := str "noop"
  traceExporterOtlpEndpoint : Bytes := []
  traceExporterPackageAsset : Bytes := str "builtin:trace-noop"
  secretBackendType : Bytes := str "file"
  secretBackendPackageAsset : Bytes := str "builtin:secret-file"
deriving DecidableEq

structure OpsPolicy where
  logLevel : Bytes
  metricsGranularity : Bytes
  traceSampleRatio : FloatValue := .finite 0
  remoteDiagnosticsEnabled : Bool := false
  upgradeStrategy : Bytes
  optionalBackends : OptionalBackendPolicy := {}
deriving DecidableEq

structure RuntimePolicySnapshot where
  generation : UInt64
  effectiveProfileId : Bytes
  runtimeBudget : RuntimeBudget
  modelProfile : ModelProfile
  tokenBudgetPolicy : TokenBudgetPolicy
  promptPolicy : PromptPolicy
  capabilityCachePolicy : CapabilityCachePolicy
  degradePolicy : DegradePolicy
  timeoutPolicy : TimeoutPolicy
  executionPolicy : ExecutionPolicy
  opsPolicy : OpsPolicy
  workerThreads : UInt32 := 1
  multiAgentEnabled : Bool := false
  memoryMaintenancePolicy : MemoryMaintenancePolicy := {}
  runtimeSinkPolicy : RuntimeSinkPolicy := {}

/-! ## Consistency -/

def ModelRoutePolicy.hasConsistentValues (policy : ModelRoutePolicy) : Bool :=
  !policy.route.isEmpty && policy.fallbackRoute != some []

def ModelProfile.hasConsistentValues (profile : ModelProfile) : Bool :=
  !profile.stageRoutes.entries.isEmpty && profile.stageRoutes.entries.all fun entry =>
    !entry.1.isEmpty && entry.2.hasConsistentValues

def TokenBudgetPolicy.hasConsistentValues (policy : TokenBudgetPolicy) : Bool :=
  0 < policy.maxInputTokens && 0 < policy.maxOutputTokens && 0 < policy.maxHistoryTurns &&
    0 < policy.compressionThreshold

def hasUniqueValues (values : List Bytes) : Bool := decide values.Nodup

def PromptPolicy.hasConsistentValues (policy : PromptPolicy) : Bool :=
  !policy.allowedPromptReleases.isEmpty && !policy.trustedSources.isEmpty &&
    hasUniqueValues policy.allowedPromptReleases && hasUniqueValues policy.trustedSources &&
    hasUniqueValues policy.toolVisibilityRules

def CapabilityCachePolicy.hasConsistentValues (policy : CapabilityCachePolicy) : Bool :=
  0 < policy.refreshIntervalMs && policy.refreshIntervalMs ≤ policy.expireAfterMs &&
    0 ≤ policy.failureBackoffMs

def DegradePolicy.hasConsistentValues (policy : DegradePolicy) : Bool :=
  !policy.fallbackChain.isEmpty

def isSupportedCheckpointStrategy (value : Bytes) : Bool :=
  value = str "passive_each_tick" || value = str "passive_on_retention" || value = str "disabled"

def MemoryMaintenancePolicy.hasConsistentValues (policy : MemoryMaintenancePolicy) : Bool :=
  0 < policy.intervalMs && 0 ≤ policy.jitterMs && 0 ≤ policy.retentionMs &&
    isSupportedCheckpointStrategy policy.checkpointStrategy

def TimeoutBudget.hasConsistentValues (budget : TimeoutBudget) : Bool :=
  0 < budget.timeoutMs && 0 < budget.circuitBreakerThreshold

def TimeoutPolicy.hasConsistentValues (policy : TimeoutPolicy) : Bool :=
  policy.llm.hasConsistentValues && policy.tool.hasConsistentValues &&
    policy.mcp.hasConsistentValues && policy.workflow.hasConsistentValues

def ExecutionPolicy.hasConsistentValues (policy : ExecutionPolicy) : Bool :=
  !policy.auditLevel.isEmpty

def OptionalBackendPolicy.hasConsistentValues (policy : OptionalBackendPolicy) : Bool :=
  !policy.metricsExporterType.isEmpty && !policy.metricsExporterPackageAsset.isEmpty &&
    !policy.traceExporterType.isEmpty && !policy.traceExporterPackageAsset.isEmpty &&
    !policy.secretBackendType.isEmpty && !policy.secretBackendPackageAsset.isEmpty &&
    (policy.traceExporterType ≠ str "otlp" || !policy.traceExporterOtlpEndpoint.isEmpty)

/-- A ratio from zero to one. What is not a number is none. -/
def isSampleRatio (ratio : FloatValue) : Bool :=
  ratio.isFinite && !ratio.lt 0 && !ratio.gt 1

def OpsPolicy.hasConsistentValues (policy : OpsPolicy) : Bool :=
  !policy.logLevel.isEmpty && !policy.metricsGranularity.isEmpty &&
    !policy.upgradeStrategy.isEmpty && isSampleRatio policy.traceSampleRatio &&
    policy.optionalBackends.hasConsistentValues

/-- The sink policy has nothing to check. -/
def RuntimePolicySnapshot.hasConsistentValues (snapshot : RuntimePolicySnapshot) : Bool :=
  0 < snapshot.generation && !snapshot.effectiveProfileId.isEmpty &&
    snapshot.runtimeBudget.maxTokens.isSome && snapshot.runtimeBudget.maxTurns.isSome &&
    snapshot.runtimeBudget.maxToolCalls.isSome && snapshot.runtimeBudget.maxLatencyMs.isSome &&
    snapshot.runtimeBudget.maxReplanCount.isSome && snapshot.modelProfile.hasConsistentValues &&
    snapshot.tokenBudgetPolicy.hasConsistentValues && snapshot.promptPolicy.hasConsistentValues &&
    snapshot.capabilityCachePolicy.hasConsistentValues &&
    snapshot.degradePolicy.hasConsistentValues && snapshot.timeoutPolicy.hasConsistentValues &&
    snapshot.executionPolicy.hasConsistentValues && snapshot.opsPolicy.hasConsistentValues &&
    0 < snapshot.workerThreads && snapshot.memoryMaintenancePolicy.hasConsistentValues

/-! ## Manifests -/

structure BuildProfileManifest where
  enabledModules : List Bytes
  enabledAdapters : List Bytes := []
  observabilityLevel : Bytes
  buildTags : List Bytes := []
  toolchainHint : Option Bytes := none
deriving DecidableEq

def BuildProfileManifest.hasConsistentValues (manifest : BuildProfileManifest) : Bool :=
  !manifest.enabledModules.isEmpty && !manifest.observabilityLevel.isEmpty &&
    hasUniqueValues manifest.enabledModules && hasUniqueValues manifest.enabledAdapters &&
    hasUniqueValues manifest.buildTags && manifest.toolchainHint != some []

def BuildProfileManifest.enablesModule (manifest : BuildProfileManifest) (moduleName : Bytes) :
    Bool := manifest.enabledModules.contains moduleName

end Dasall.Profiles
