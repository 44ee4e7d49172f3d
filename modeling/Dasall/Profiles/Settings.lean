import Dasall.Lib.Cells
import Dasall.Profiles.ProfileOverlayComposer

/-!
# The settings of a snapshot

What an override may set in a snapshot, each setting with the values it takes, and the rest of the
snapshot, which no override touches.
-/

open Dasall.Contracts Dasall.Lib Dasall.Lib.Text

namespace Dasall.Profiles

inductive Backend
  | llm
  | tool
  | mcp
  | workflow
deriving DecidableEq

inductive Setting
  | maxTokens
  | maxTurns
  | maxToolCalls
  | maxLatencyMs
  | maxReplanCount
  | timeoutMs (backend : Backend)
  | retryBudget (backend : Backend)
  | circuitBreakerThreshold (backend : Backend)
  | logLevel
  | metricsGranularity
  | traceSampleRatio
  | remoteDiagnosticsEnabled
  | upgradeStrategy
  | refreshIntervalMs
  | expireAfterMs
  | staleReadAllowed
  | failureBackoffMs
  | fallbackChain
  | allowModelFailover
  | allowBudgetDegrade
  | fallbackRoute (stage : Bytes)
deriving DecidableEq

def Setting.Value : Setting → Type
  | maxTokens | maxTurns | maxToolCalls | maxLatencyMs | maxReplanCount => Option UInt32
  | timeoutMs _ | refreshIntervalMs | expireAfterMs | failureBackoffMs => Int64
  | retryBudget _ | circuitBreakerThreshold _ => UInt32
  | logLevel | metricsGranularity | upgradeStrategy => Bytes
  | traceSampleRatio => FloatValue
  | remoteDiagnosticsEnabled | staleReadAllowed | allowModelFailover | allowBudgetDegrade => Bool
  | fallbackChain => List Bytes
  | fallbackRoute _ => Option Bytes

def TimeoutPolicy.budget (policy : TimeoutPolicy) : Backend → TimeoutBudget
  | .llm => policy.llm
  | .tool => policy.tool
  | .mcp => policy.mcp
  | .workflow => policy.workflow

def TimeoutPolicy.setBudget (policy : TimeoutPolicy) (backend : Backend) (budget : TimeoutBudget) :
    TimeoutPolicy :=
  match backend with
  | .llm => { policy with llm := budget }
  | .tool => { policy with tool := budget }
  | .mcp => { policy with mcp := budget }
  | .workflow => { policy with workflow := budget }

namespace RuntimePolicySnapshot

/-- A setting has a value, but for the fallback route of a stage that there is not. -/
def readSetting (snapshot : RuntimePolicySnapshot) : (setting : Setting) → Option setting.Value
  | .maxTokens => some snapshot.runtimeBudget.maxTokens
  | .maxTurns => some snapshot.runtimeBudget.maxTurns
  | .maxToolCalls => some snapshot.runtimeBudget.maxToolCalls
  | .maxLatencyMs => some snapshot.runtimeBudget.maxLatencyMs
  | .maxReplanCount => some snapshot.runtimeBudget.maxReplanCount
  | .timeoutMs backend => some (snapshot.timeoutPolicy.budget backend).timeoutMs
  | .retryBudget backend => some (snapshot.timeoutPolicy.budget backend).retryBudget
  | .circuitBreakerThreshold backend =>
    some (snapshot.timeoutPolicy.budget backend).circuitBreakerThreshold
  | .logLevel => some snapshot.opsPolicy.logLevel
  | .metricsGranularity => some snapshot.opsPolicy.metricsGranularity
  | .traceSampleRatio => some snapshot.opsPolicy.traceSampleRatio
  | .remoteDiagnosticsEnabled => some snapshot.opsPolicy.remoteDiagnosticsEnabled
  | .upgradeStrategy => some snapshot.opsPolicy.upgradeStrategy
  | .refreshIntervalMs => some snapshot.capabilityCachePolicy.refreshIntervalMs
  | .expireAfterMs => some snapshot.capabilityCachePolicy.expireAfterMs
  | .staleReadAllowed => some snapshot.capabilityCachePolicy.staleReadAllowed
  | .failureBackoffMs => some snapshot.capabilityCachePolicy.failureBackoffMs
  | .fallbackChain => some snapshot.degradePolicy.fallbackChain
  | .allowModelFailover => some snapshot.degradePolicy.allowModelFailover
  | .allowBudgetDegrade => some snapshot.degradePolicy.allowBudgetDegrade
  | .fallbackRoute stage =>
    (snapshot.modelProfile.stageRoutes.lookup stage).map ModelRoutePolicy.fallbackRoute

def setBudget (snapshot : RuntimePolicySnapshot) (backend : Backend)
    (change : TimeoutBudget → TimeoutBudget) : RuntimePolicySnapshot :=
  { snapshot with
    timeoutPolicy := snapshot.timeoutPolicy.setBudget backend
      (change (snapshot.timeoutPolicy.budget backend)) }

def writeSetting (snapshot : RuntimePolicySnapshot) :
    (setting : Setting) → setting.Value → RuntimePolicySnapshot
  | .maxTokens, value =>
    { snapshot with runtimeBudget := { snapshot.runtimeBudget with maxTokens := value } }
  | .maxTurns, value =>
    { snapshot with runtimeBudget := { snapshot.runtimeBudget with maxTurns := value } }
  | .maxToolCalls, value =>
    { snapshot with runtimeBudget := { snapshot.runtimeBudget with maxToolCalls := value } }
  | .maxLatencyMs, value =>
    { snapshot with runtimeBudget := { snapshot.runtimeBudget with maxLatencyMs := value } }
  | .maxReplanCount, value =>
    { snapshot with runtimeBudget := { snapshot.runtimeBudget with maxReplanCount := value } }
  | .timeoutMs backend, value => snapshot.setBudget backend ({ · with timeoutMs := value })
  | .retryBudget backend, value => snapshot.setBudget backend ({ · with retryBudget := value })
  | .circuitBreakerThreshold backend, value =>
    snapshot.setBudget backend ({ · with circuitBreakerThreshold := value })
  | .logLevel, value => { snapshot with opsPolicy := { snapshot.opsPolicy with logLevel := value } }
  | .metricsGranularity, value =>
    { snapshot with opsPolicy := { snapshot.opsPolicy with metricsGranularity := value } }
  | .traceSampleRatio, value =>
    { snapshot with opsPolicy := { snapshot.opsPolicy with traceSampleRatio := value } }
  | .remoteDiagnosticsEnabled, value =>
    { snapshot with opsPolicy := { snapshot.opsPolicy with remoteDiagnosticsEnabled := value } }
  | .upgradeStrategy, value =>
    { snapshot with opsPolicy := { snapshot.opsPolicy with upgradeStrategy := value } }
  | .refreshIntervalMs, value =>
    { snapshot with
      capabilityCachePolicy := { snapshot.capabilityCachePolicy with refreshIntervalMs := value } }
  | .expireAfterMs, value =>
    { snapshot with
      capabilityCachePolicy := { snapshot.capabilityCachePolicy with expireAfterMs := value } }
  | .staleReadAllowed, value =>
    { snapshot with
      capabilityCachePolicy := { snapshot.capabilityCachePolicy with staleReadAllowed := value } }
  | .failureBackoffMs, value =>
    { snapshot with
      capabilityCachePolicy := { snapshot.capabilityCachePolicy with failureBackoffMs := value } }
  | .fallbackChain, value =>
    { snapshot with degradePolicy := { snapshot.degradePolicy with fallbackChain := value } }
  | .allowModelFailover, value =>
    { snapshot with degradePolicy := { snapshot.degradePolicy with allowModelFailover := value } }
  | .allowBudgetDegrade, value =>
    { snapshot with degradePolicy := { snapshot.degradePolicy with allowBudgetDegrade := value } }
  | .fallbackRoute stage, value =>
    { snapshot with
      modelProfile :=
        { stageRoutes :=
            snapshot.modelProfile.stageRoutes.modify stage ({ · with fallbackRoute := value }) } }

/-- What no setting holds, the sink policy and the generation apart. -/
structure Rest where
  effectiveProfileId : Bytes
  routes : List (Bytes × Bytes × Bool)
  tokenBudgetPolicy : TokenBudgetPolicy
  promptPolicy : PromptPolicy
  executionPolicy : ExecutionPolicy
  optionalBackends : OptionalBackendPolicy
  workerThreads : UInt32
  multiAgentEnabled : Bool
  memoryMaintenancePolicy : MemoryMaintenancePolicy
deriving DecidableEq

def rest (snapshot : RuntimePolicySnapshot) : Rest :=
  { effectiveProfileId := snapshot.effectiveProfileId
    routes := snapshot.modelProfile.stageRoutes.entries.map fun entry =>
      (entry.1, entry.2.route, entry.2.streamingEnabled)
    tokenBudgetPolicy := snapshot.tokenBudgetPolicy
    promptPolicy := snapshot.promptPolicy
    executionPolicy := snapshot.executionPolicy
    optionalBackends := snapshot.opsPolicy.optionalBackends
    workerThreads := snapshot.workerThreads
    multiAgentEnabled := snapshot.multiAgentEnabled
    memoryMaintenancePolicy := snapshot.memoryMaintenancePolicy }

variable (snapshot : RuntimePolicySnapshot) (setting : Setting) (value : setting.Value)

theorem read_write_same :
    (snapshot.writeSetting setting value).readSetting setting =
      (snapshot.readSetting setting).map fun _ => value := by
  cases setting with
  | timeoutMs backend | retryBudget backend | circuitBreakerThreshold backend =>
    cases backend <;> rfl
  | fallbackRoute stage =>
    change Option.map ModelRoutePolicy.fallbackRoute
      ((snapshot.modelProfile.stageRoutes.modify stage ({ · with fallbackRoute := value })).lookup
        stage) = _
    rw [Table.lookup_modify, if_pos rfl, Option.map_map]
    exact (Option.map_map (fun _ => value) ModelRoutePolicy.fallbackRoute _).symm
  | _ => rfl

theorem read_write_other (other : Setting) (hne : other ≠ setting) :
    (snapshot.writeSetting setting value).readSetting other = snapshot.readSetting other := by
  cases setting with
  | timeoutMs backend | retryBudget backend | circuitBreakerThreshold backend =>
    cases other <;> try rfl
    all_goals
      next otherBackend =>
        cases backend <;> cases otherBackend <;> first | rfl | exact absurd rfl hne
  | fallbackRoute stage =>
    cases other <;> try rfl
    next otherStage =>
      have hstage : otherStage ≠ stage := fun h => hne (congrArg Setting.fallbackRoute h)
      change Option.map ModelRoutePolicy.fallbackRoute
        ((snapshot.modelProfile.stageRoutes.modify stage ({ · with fallbackRoute := value })).lookup
          otherStage) = _
      rw [Table.lookup_modify, if_neg hstage]
      rfl
  | _ =>
    cases other <;> first | rfl | exact absurd rfl hne

theorem rest_writeSetting : (snapshot.writeSetting setting value).rest = snapshot.rest := by
  cases setting with
  | fallbackRoute stage =>
    unfold writeSetting rest Table.modify
    simp only [List.map_map]
    congr 2
    funext entry
    simp only [Function.comp_apply]
    split <;> rfl
  | _ => rfl

end RuntimePolicySnapshot

open RuntimePolicySnapshot

def settingCells :
    Cells RuntimePolicySnapshot Setting Setting.Value RuntimePolicySnapshot.Rest where
  read := RuntimePolicySnapshot.readSetting
  write := RuntimePolicySnapshot.writeSetting
  rest := RuntimePolicySnapshot.rest
  read_write_same := RuntimePolicySnapshot.read_write_same
  read_write_other := RuntimePolicySnapshot.read_write_other
  rest_write := RuntimePolicySnapshot.rest_writeSetting

end Dasall.Profiles
