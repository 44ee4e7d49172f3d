import Dasall.Profiles.RuntimePolicySnapshot

/-! # Overrides on a policy snapshot -/

open Dasall.Contracts Dasall.Lib Dasall.Lib.Text

namespace Dasall.Profiles

inductive ProfileErrorCode
  | profileNotFound
  | catalogUnavailable
  | schemaInvalid
  | platformMismatch
  | moduleIncompatible
  | requiredAdapterMissing
  | overrideInvalid
  | lastKnownGoodUnavailable
deriving DecidableEq

inductive ProfileOverrideLayer
  | deployment
  | runtime
deriving DecidableEq

inductive ProfileOverrideSourceKind
  | deploymentBundle
  | siteBundle
  | deviceBundle
  | runtimeCommand
  | diagnosticSession
  | externalStoreSnapshot
deriving DecidableEq

inductive ProfileOverrideTargetScope
  | fleet
  | site
  | device
  | process
deriving DecidableEq

inductive ProfileOverridePatchOp
  | replace
  | remove
deriving DecidableEq

structure ProfileOverridePatch where
  path : Bytes
  op : ProfileOverridePatchOp := .replace
  value : Bytes := []
deriving DecidableEq

def ProfileOverridePatch.hasConsistentValues (patch : ProfileOverridePatch) : Bool :=
  !patch.path.isEmpty && !(patch.op = .replace && patch.value.isEmpty)

structure ProfileOverrideInput where
  layer : ProfileOverrideLayer := .deployment
  overrideId : Bytes
  sourceKind : ProfileOverrideSourceKind := .deploymentBundle
  sourceId : Bytes
  issuedBy : Bytes
  targetScope : ProfileOverrideTargetScope := .fleet
  baseVersion : UInt64 := 0
  expiresAtEpochMs : Option UInt64 := none
  reasonCode : Bytes
  patches : List ProfileOverridePatch
deriving DecidableEq

def ProfileOverrideInput.hasConsistentValues (input : ProfileOverrideInput) : Bool :=
  if input.overrideId.isEmpty || input.sourceId.isEmpty || input.issuedBy.isEmpty ||
      input.reasonCode.isEmpty || input.baseVersion = 0 || input.patches.isEmpty then false
  else if input.layer = .runtime && input.expiresAtEpochMs.isNone then false
  else input.patches.all (·.hasConsistentValues)

structure ProfileOverlayComposeResult where
  snapshot : Option RuntimePolicySnapshot := none
  rejectedPaths : List Bytes := []
  errorCode : Option ProfileErrorCode := none

/-! ## The copy that is worked on -/

structure MutableRuntimePolicySnapshot where
  generation : UInt64
  effectiveProfileId : Bytes
  runtimeBudget : RuntimeBudget
  modelProfile : ModelProfile
  tokenBudgetPolicy : TokenBudgetPolicy
  promptPolicy : PromptPolicy
  capabilityCachePolicy : CapabilityCachePolicy
  degradePolicy : DegradePolicy
  timeoutPolicy : TimeoutPolicy
  executionPolicy : ExecutionPolicy
  opsPolicy : OpsPolicy
  workerThreads : UInt32
  multiAgentEnabled : Bool
  memoryMaintenancePolicy : MemoryMaintenancePolicy

def makeMutableSnapshot (snapshot : RuntimePolicySnapshot) : MutableRuntimePolicySnapshot :=
  { generation := snapshot.generation
    effectiveProfileId := snapshot.effectiveProfileId
    runtimeBudget := snapshot.runtimeBudget
    modelProfile := snapshot.modelProfile
    tokenBudgetPolicy := snapshot.tokenBudgetPolicy
    promptPolicy := snapshot.promptPolicy
    capabilityCachePolicy := snapshot.capabilityCachePolicy
    degradePolicy := snapshot.degradePolicy
    timeoutPolicy := snapshot.timeoutPolicy
    executionPolicy := snapshot.executionPolicy
    opsPolicy := snapshot.opsPolicy
    workerThreads := snapshot.workerThreads
    multiAgentEnabled := snapshot.multiAgentEnabled
    memoryMaintenancePolicy := snapshot.memoryMaintenancePolicy }

/-- The constructor is left to give the sink policy its default. -/
def freezeSnapshot (snapshot : MutableRuntimePolicySnapshot) : RuntimePolicySnapshot :=
  { generation := snapshot.generation
    effectiveProfileId := snapshot.effectiveProfileId
    runtimeBudget := snapshot.runtimeBudget
    modelProfile := snapshot.modelProfile
    tokenBudgetPolicy := snapshot.tokenBudgetPolicy
    promptPolicy := snapshot.promptPolicy
    capabilityCachePolicy := snapshot.capabilityCachePolicy
    degradePolicy := snapshot.degradePolicy
    timeoutPolicy := snapshot.timeoutPolicy
    executionPolicy := snapshot.executionPolicy
    opsPolicy := snapshot.opsPolicy
    workerThreads := snapshot.workerThreads
    multiAgentEnabled := snapshot.multiAgentEnabled
    memoryMaintenancePolicy := snapshot.memoryMaintenancePolicy }

/-! ## Sources, scopes and paths -/

def isDeploymentSource : ProfileOverrideSourceKind → Bool
  | .deploymentBundle | .siteBundle | .deviceBundle | .externalStoreSnapshot => true
  | .runtimeCommand | .diagnosticSession => false

def isRuntimeSource : ProfileOverrideSourceKind → Bool
  | .runtimeCommand | .diagnosticSession => true
  | .deploymentBundle | .siteBundle | .deviceBundle | .externalStoreSnapshot => false

def isRuntimeScope (scope : ProfileOverrideTargetScope) : Bool := scope = .device || scope = .process

def startsWith (value start : Bytes) : Bool := start.isPrefixOf value

def endsWith (value ending : Bytes) : Bool := ending.isSuffixOf value

def isForbiddenPath (path : Bytes) : Bool :=
  path = str "schema_version" || startsWith path (str "profile_meta.") ||
    startsWith path (str "enabled_modules.") || startsWith path (str "execution_policy.")

def isDeploymentPathAllowed (path : Bytes) : Bool :=
  startsWith path (str "runtime_budget.") || startsWith path (str "timeout_policy.") ||
    startsWith path (str "ops_policy.") || startsWith path (str "capability_cache_policy.") ||
    startsWith path (str "degrade_policy.") ||
    (startsWith path (str "model_profile.") && endsWith path (str ".fallback_route"))

def isRuntimePathAllowed (path : Bytes) : Bool :=
  if startsWith path (str "runtime_budget.") || startsWith path (str "timeout_policy.") ||
      startsWith path (str "capability_cache_policy.") then true
  else
    path = str "ops_policy.log_level" || path = str "ops_policy.trace_sample_ratio" ||
      path = str "ops_policy.remote_diagnostics_enabled"

def isPathAllowed (layer : ProfileOverrideLayer) (path : Bytes) : Bool :=
  if layer = .deployment then isDeploymentPathAllowed path else isRuntimePathAllowed path

/-! ## Values -/

/-- `std::from_chars` for an unsigned number takes no sign. -/
def parseUint32 (value : Bytes) : Option UInt32 :=
  if value ≠ [] ∧ value.all isDigit ∧ digitsValue value < 2 ^ 32 then
    some (UInt32.ofNat (digitsValue value))
  else none

def parseInt64 (value : Bytes) : Option Int64 := fromChars value

/-- The double nearest to a number with the decimal exponent, if it does not overflow. -/
def nearestDouble (negative : Bool) (mantissa : Nat) (exponent : Int) : Option FloatValue :=
  let rounded := (Float.Model.pack (.ofScientific .binary64 mantissa exponent)).unpack
  match floatValueOf (if negative then rounded.neg else rounded) with
  | .finite value => some (.finite value)
  | .infinite _ | .nan => none

/-- The exponent that ends a number, or none of it. -/
def parseExponent : Bytes → Option Int
  | [] => some 0
  | letter :: rest =>
    let signed := splitSign rest
    if (letter = 101 || letter = 69) && !signed.2.isEmpty && signed.2.all isDigit then
      some (if signed.1 then -(digitsValue signed.2 : Int) else digitsValue signed.2)
    else none

/-- `operator>>` for a `double`, which has to read the text up to its end. -/
def parseDouble (value : Bytes) : Option FloatValue :=
  let signed := splitSign (value.dropWhile isSpace)
  let whole := signed.2.takeWhile isDigit
  let afterWhole := signed.2.dropWhile isDigit
  let point := afterWhole.head? = some 46
  let fraction := if point then afterWhole.tail.takeWhile isDigit else []
  let afterFraction := if point then afterWhole.tail.dropWhile isDigit else afterWhole
  if whole ++ fraction = [] then none
  else
    match parseExponent afterFraction with
    | none => none
    | some exponent =>
      nearestDouble signed.1 (digitsValue (whole ++ fraction)) (exponent - fraction.length)

def parseBool (value : Bytes) : Option Bool :=
  if value = str "true" then some true
  else if value = str "false" then some false
  else none

/-- The items of `std::getline`, which reads no item after a comma at the end. -/
def csvItems (value : Bytes) : List Bytes :=
  let items := value.splitOn 44
  if items.getLast? = some [] then items.dropLast else items

def parseCsvList (value : Bytes) : Option (List Bytes) :=
  let items := csvItems value
  if items.any (·.isEmpty) || items.isEmpty then none else some items

/-! ## Patches -/

def timeoutPolicyPrefix : Bytes := str "timeout_policy."

/-- The change to one backend's budget that the path names, if it names a backend. -/
def changeTimeoutBudget (snapshot : MutableRuntimePolicySnapshot) (path : Bytes)
    (change : TimeoutBudget → TimeoutBudget) : Option MutableRuntimePolicySnapshot :=
  let policy := snapshot.timeoutPolicy
  if startsWith path (str "timeout_policy.llm.") then
    some { snapshot with timeoutPolicy := { policy with llm := change policy.llm } }
  else if startsWith path (str "timeout_policy.tool.") then
    some { snapshot with timeoutPolicy := { policy with tool := change policy.tool } }
  else if startsWith path (str "timeout_policy.mcp.") then
    some { snapshot with timeoutPolicy := { policy with mcp := change policy.mcp } }
  else if startsWith path (str "timeout_policy.workflow.") then
    some { snapshot with timeoutPolicy := { policy with workflow := change policy.workflow } }
  else none

/-- The stage between the prefix and the suffix of the path. Where the two overlap, the length
wraps around and the stage is all that follows the prefix. -/
def stageName (path : Bytes) : Option Bytes :=
  if !startsWith path (str "model_profile.") || !endsWith path (str ".fallback_route") then none
  else
    let stageLength := (path.length + 2 ^ 64 - 14 - 15) % 2 ^ 64
    some ((path.drop 14).take stageLength)

def changeStageRoute (snapshot : MutableRuntimePolicySnapshot) (path : Bytes)
    (change : ModelRoutePolicy → ModelRoutePolicy) : Option MutableRuntimePolicySnapshot :=
  match stageName path with
  | none => none
  | some stage =>
    if (snapshot.modelProfile.stageRoutes.lookup stage).isSome then
      some { snapshot with
        modelProfile := { stageRoutes := snapshot.modelProfile.stageRoutes.modify stage change } }
    else none

def applyBudgetPatch (snapshot : MutableRuntimePolicySnapshot) (value : Bytes)
    (set : RuntimeBudget → UInt32 → RuntimeBudget) : Option MutableRuntimePolicySnapshot :=
  (parseUint32 value).map fun parsed =>
    { snapshot with runtimeBudget := set snapshot.runtimeBudget parsed }

def applyTimeoutPatch (patch : ProfileOverridePatch) (snapshot : MutableRuntimePolicySnapshot) :
    Option MutableRuntimePolicySnapshot :=
  if endsWith patch.path (str ".timeout_ms") then
    (parseInt64 patch.value).bind fun parsed =>
      changeTimeoutBudget snapshot patch.path ({ · with timeoutMs := parsed })
  else if endsWith patch.path (str ".retry_budget") then
    (parseUint32 patch.value).bind fun parsed =>
      changeTimeoutBudget snapshot patch.path ({ · with retryBudget := parsed })
  else if endsWith patch.path (str ".circuit_breaker_threshold") then
    (parseUint32 patch.value).bind fun parsed =>
      changeTimeoutBudget snapshot patch.path ({ · with circuitBreakerThreshold := parsed })
  else none

def applyOpsPatch {α : Type} (snapshot : MutableRuntimePolicySnapshot) (parsed : Option α)
    (set : OpsPolicy → α → OpsPolicy) : Option MutableRuntimePolicySnapshot :=
  parsed.map fun value => { snapshot with opsPolicy := set snapshot.opsPolicy value }

def applyCachePatch {α : Type} (snapshot : MutableRuntimePolicySnapshot) (parsed : Option α)
    (set : CapabilityCachePolicy → α → CapabilityCachePolicy) :
    Option MutableRuntimePolicySnapshot :=
  parsed.map fun value =>
    { snapshot with capabilityCachePolicy := set snapshot.capabilityCachePolicy value }

def applyDegradePatch {α : Type} (snapshot : MutableRuntimePolicySnapshot) (parsed : Option α)
    (set : DegradePolicy → α → DegradePolicy) : Option MutableRuntimePolicySnapshot :=
  parsed.map fun value => { snapshot with degradePolicy := set snapshot.degradePolicy value }

def nonEmptyText (value : Bytes) : Option Bytes := if value.isEmpty then none else some value

/-- The copy after the patch, or nothing where the patch is refused and the copy is given up. -/
def applyPatch (patch : ProfileOverridePatch) (snapshot : MutableRuntimePolicySnapshot) :
    Option MutableRuntimePolicySnapshot :=
  if patch.path = str "runtime_budget.max_tokens" then
    applyBudgetPatch snapshot patch.value ({ · with maxTokens := some · })
  else if patch.path = str "runtime_budget.max_turns" then
    applyBudgetPatch snapshot patch.value ({ · with maxTurns := some · })
  else if patch.path = str "runtime_budget.max_tool_calls" then
    applyBudgetPatch snapshot patch.value ({ · with maxToolCalls := some · })
  else if patch.path = str "runtime_budget.max_latency_ms" then
    applyBudgetPatch snapshot patch.value ({ · with maxLatencyMs := some · })
  else if patch.path = str "runtime_budget.max_replan_count" then
    applyBudgetPatch snapshot patch.value ({ · with maxReplanCount := some · })
  else if startsWith patch.path timeoutPolicyPrefix then applyTimeoutPatch patch snapshot
  else if patch.path = str "ops_policy.log_level" then
    applyOpsPatch snapshot (nonEmptyText patch.value) ({ · with logLevel := · })
  else if patch.path = str "ops_policy.metrics_granularity" then
    applyOpsPatch snapshot (nonEmptyText patch.value) ({ · with metricsGranularity := · })
  else if patch.path = str "ops_policy.trace_sample_ratio" then
    applyOpsPatch snapshot (parseDouble patch.value) ({ · with traceSampleRatio := · })
  else if patch.path = str "ops_policy.remote_diagnostics_enabled" then
    applyOpsPatch snapshot (parseBool patch.value) ({ · with remoteDiagnosticsEnabled := · })
  else if patch.path = str "ops_policy.upgrade_strategy" then
    applyOpsPatch snapshot (nonEmptyText patch.value) ({ · with upgradeStrategy := · })
  else if patch.path = str "capability_cache_policy.refresh_interval_ms" then
    applyCachePatch snapshot (parseInt64 patch.value) ({ · with refreshIntervalMs := · })
  else if patch.path = str "capability_cache_policy.expire_after_ms" then
    applyCachePatch snapshot (parseInt64 patch.value) ({ · with expireAfterMs := · })
  else if patch.path = str "capability_cache_policy.stale_read_allowed" then
    applyCachePatch snapshot (parseBool patch.value) ({ · with staleReadAllowed := · })
  else if patch.path = str "capability_cache_policy.failure_backoff_ms" then
    applyCachePatch snapshot (parseInt64 patch.value) ({ · with failureBackoffMs := · })
  else if patch.path = str "degrade_policy.fallback_chain" then
    applyDegradePatch snapshot (parseCsvList patch.value) ({ · with fallbackChain := · })
  else if patch.path = str "degrade_policy.allow_model_failover" then
    applyDegradePatch snapshot (parseBool patch.value) ({ · with allowModelFailover := · })
  else if patch.path = str "degrade_policy.allow_budget_degrade" then
    applyDegradePatch snapshot (parseBool patch.value) ({ · with allowBudgetDegrade := · })
  else if startsWith patch.path (str "model_profile.") then
    if patch.op = .remove then
      changeStageRoute snapshot patch.path ({ · with fallbackRoute := none })
    else
      (nonEmptyText patch.value).bind fun route =>
        changeStageRoute snapshot patch.path ({ · with fallbackRoute := some route })
  else none

/-! ## Composition -/

def makeOverrideInvalidResult (rejectedPaths : List Bytes) : ProfileOverlayComposeResult :=
  { rejectedPaths, errorCode := some .overrideInvalid }

/-- The paths of the patches that the layer may not set, in their order. -/
def rejectedPatches (input : ProfileOverrideInput) : List Bytes :=
  input.patches.filterMap fun patch =>
    if !patch.hasConsistentValues then
      some (if patch.path.isEmpty then str "patch" else patch.path)
    else if isForbiddenPath patch.path then some patch.path
    else if !isPathAllowed input.layer patch.path then some patch.path
    else none

def validateOverride (input : ProfileOverrideInput) (base : RuntimePolicySnapshot) :
    Option (List Bytes) :=
  if !input.hasConsistentValues then some [str "override-metadata"]
  else if input.baseVersion ≠ base.generation then some [str "base_version"]
  else if input.layer = .deployment && !isDeploymentSource input.sourceKind then
    some [str "source_kind"]
  else if input.layer = .runtime && !isRuntimeSource input.sourceKind then some [str "source_kind"]
  else if input.layer = .runtime && !isRuntimeScope input.targetScope then some [str "target_scope"]
  else if rejectedPatches input ≠ [] then some (rejectedPatches input)
  else none

/-- The patches in turn, up to the first that is refused. -/
def applyPatches (snapshot : MutableRuntimePolicySnapshot) :
    List ProfileOverridePatch → Except Bytes MutableRuntimePolicySnapshot
  | [] => .ok snapshot
  | patch :: patches =>
    match applyPatch patch snapshot with
    | none => .error patch.path
    | some next => applyPatches next patches

/-- The copy and the number of layers after an override, if there is one. -/
def applyLayer (base : RuntimePolicySnapshot) (working : MutableRuntimePolicySnapshot × UInt64) :
    Option ProfileOverrideInput → Except (List Bytes) (MutableRuntimePolicySnapshot × UInt64)
  | none => .ok working
  | some input =>
    match validateOverride input base with
    | some rejectedPaths => .error rejectedPaths
    | none =>
      match applyPatches working.1 input.patches with
      | .error path => .error [path]
      | .ok next => .ok (next, working.2 + 1)

def finishComposition (base : RuntimePolicySnapshot)
    (working : MutableRuntimePolicySnapshot × UInt64) : ProfileOverlayComposeResult :=
  let composed := freezeSnapshot { working.1 with generation := base.generation + working.2 }
  if !composed.hasConsistentValues then makeOverrideInvalidResult [str "snapshot-consistency"]
  else { snapshot := some composed }

def compose (base : RuntimePolicySnapshot)
    (deploymentOverride runtimeOverride : Option ProfileOverrideInput) :
    ProfileOverlayComposeResult :=
  if !base.hasConsistentValues then makeOverrideInvalidResult [str "base"]
  else
    match applyLayer base (makeMutableSnapshot base, 0) deploymentOverride with
    | .error rejectedPaths => makeOverrideInvalidResult rejectedPaths
    | .ok working =>
      match applyLayer base working runtimeOverride with
      | .error rejectedPaths => makeOverrideInvalidResult rejectedPaths
      | .ok working => finishComposition base working

end Dasall.Profiles
