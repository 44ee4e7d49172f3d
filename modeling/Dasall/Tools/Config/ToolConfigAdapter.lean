import Dasall.Profiles.RuntimePolicySnapshot
import Dasall.Tools.Policy.ToolPolicyGate

/-!
# The views of a snapshot

What the policy gate and the lanes need of a snapshot. A view is kept with a fingerprint of the
snapshot that it was made from. `hashId` stands for the hash of a profile id.
-/

open Dasall.Lib.Text Dasall.Profiles

namespace Dasall.Tools.Config

structure ToolLaneTimeoutBudget where
  timeoutMs : Int64 := 0
  retryBudget : UInt32 := 0
  circuitBreakerThreshold : UInt32 := 0
deriving DecidableEq

structure ToolTimeoutView where
  tool : ToolLaneTimeoutBudget := {}
  mcp : ToolLaneTimeoutBudget := {}
  workflow : ToolLaneTimeoutBudget := {}
  maxToolCalls : UInt32 := 0
  builtinLaneEnabled : Bool := false
  mcpLaneEnabled : Bool := false
  multiAgentEnabled : Bool := false
  capabilityRefreshIntervalMs : Int64 := 0
  capabilityExpireAfterMs : Int64 := 0
  staleReadAllowed : Bool := false
  capabilityFailureBackoffMs : Int64 := 0
  snapshotFingerprint : UInt64 := 0
deriving DecidableEq

structure ToolConfigAdapter where
  cachedPolicyView : Option (UInt64 × ToolPolicyView) := none
  cachedTimeoutView : Option (UInt64 × ToolTimeoutView) := none
deriving DecidableEq

def snapshotFingerprint (hashId : Bytes → UInt64) (snapshot : RuntimePolicySnapshot) : UInt64 :=
  snapshot.generation ^^^ (hashId snapshot.effectiveProfileId <<< 1)

def buildPolicyViewUncached (snapshot : RuntimePolicySnapshot) (manifest : BuildProfileManifest) :
    ToolPolicyView :=
  if !snapshot.hasConsistentValues || !manifest.hasConsistentValues then
    { effectiveProfileId := snapshot.effectiveProfileId
      safeModeEnabled := true
      highRiskConfirmationRequired := true
      auditLevel := []
      allowedToolDomains := []
      toolVisibilityRules := [] }
  else
    { effectiveProfileId := snapshot.effectiveProfileId
      safeModeEnabled := snapshot.executionPolicy.safeModeEnabled
      highRiskConfirmationRequired := snapshot.executionPolicy.requiresHighRiskConfirmation
      auditLevel := snapshot.executionPolicy.auditLevel
      allowedToolDomains := snapshot.executionPolicy.allowedToolDomains
      toolVisibilityRules := snapshot.promptPolicy.toolVisibilityRules }

def laneTimeoutBudget (budget : TimeoutBudget) : ToolLaneTimeoutBudget where
  timeoutMs := budget.timeoutMs
  retryBudget := budget.retryBudget
  circuitBreakerThreshold := budget.circuitBreakerThreshold

def buildTimeoutViewUncached (hashId : Bytes → UInt64) (snapshot : RuntimePolicySnapshot)
    (manifest : BuildProfileManifest) : ToolTimeoutView :=
  if !snapshot.hasConsistentValues || !manifest.hasConsistentValues then
    { snapshotFingerprint := snapshotFingerprint hashId snapshot }
  else
    { tool := laneTimeoutBudget snapshot.timeoutPolicy.tool
      mcp := laneTimeoutBudget snapshot.timeoutPolicy.mcp
      workflow := laneTimeoutBudget snapshot.timeoutPolicy.workflow
      maxToolCalls := snapshot.runtimeBudget.maxToolCalls.getD 0
      builtinLaneEnabled := manifest.enablesModule (str "tools_builtin")
      mcpLaneEnabled := manifest.enablesModule (str "tools_mcp")
      multiAgentEnabled := manifest.enablesModule (str "multi_agent")
      capabilityRefreshIntervalMs := snapshot.capabilityCachePolicy.refreshIntervalMs
      capabilityExpireAfterMs := snapshot.capabilityCachePolicy.expireAfterMs
      staleReadAllowed := snapshot.capabilityCachePolicy.staleReadAllowed
      capabilityFailureBackoffMs := snapshot.capabilityCachePolicy.failureBackoffMs
      snapshotFingerprint := snapshotFingerprint hashId snapshot }

/-- The view that is kept, when it has the fingerprint. -/
def cached {View : Type} (kept : Option (UInt64 × View)) (fingerprint : UInt64) : Option View :=
  match kept with
  | none => none
  | some (keptFingerprint, view) => if keptFingerprint = fingerprint then some view else none

def buildPolicyView (hashId : Bytes → UInt64) (adapter : ToolConfigAdapter)
    (snapshot : RuntimePolicySnapshot) (manifest : BuildProfileManifest) :
    ToolPolicyView × ToolConfigAdapter :=
  let fingerprint := snapshotFingerprint hashId snapshot
  match cached adapter.cachedPolicyView fingerprint with
  | some view => (view, adapter)
  | none =>
    let view := buildPolicyViewUncached snapshot manifest
    (view, { adapter with cachedPolicyView := some (fingerprint, view) })

def buildTimeoutView (hashId : Bytes → UInt64) (adapter : ToolConfigAdapter)
    (snapshot : RuntimePolicySnapshot) (manifest : BuildProfileManifest) :
    ToolTimeoutView × ToolConfigAdapter :=
  let fingerprint := snapshotFingerprint hashId snapshot
  match cached adapter.cachedTimeoutView fingerprint with
  | some view => (view, adapter)
  | none =>
    let view := buildTimeoutViewUncached hashId snapshot manifest
    (view, { adapter with cachedTimeoutView := some (fingerprint, view) })

end Dasall.Tools.Config
