import Dasall.Lib.Run
import Dasall.Tools.Config.ToolConfigAdapter
import Dasall.Tools.Registry.ToolRegistry

/-!
# The lanes

A lane has as many permits as the snapshot allows tool calls. A call takes one and gives it back.
-/

open Dasall.Lib Dasall.Lib.Run Dasall.Lib.Text Dasall.Tools.Config Dasall.Contracts.Tool

namespace Dasall.Tools.Execution

inductive ExecutorLaneKind
  | unavailable
  | builtin
  | workflow
  | mcp
deriving DecidableEq

structure LaneReservation where
  kind : ExecutorLaneKind := .unavailable
  laneKey : Bytes := []
  available : Bool := false
  concurrencyBudget : UInt32 := 0
deriving DecidableEq

structure LaneAcquireResult where
  reservation : LaneReservation := {}
  acquired : Bool := false
  reasonCode : Bytes := []
  inflight : UInt32 := 0
deriving DecidableEq

structure LaneCounters where
  concurrencyBudget : UInt32 := 0
  inflight : UInt32 := 0
deriving DecidableEq

abbrev ExecutorLanePool := Table Bytes LaneCounters

def backpressureReasonCode : ExecutorLaneKind → Bytes
  | .builtin => str "lane.builtin.backpressure"
  | .workflow => str "lane.workflow.backpressure"
  | .mcp => str "lane.mcp.backpressure"
  | .unavailable => str "lane.unavailable"

def reserveBuiltin (timeoutView : ToolTimeoutView) : LaneReservation :=
  let available : Bool := timeoutView.builtinLaneEnabled && 0 < timeoutView.maxToolCalls &&
    0 < timeoutView.tool.timeoutMs
  { kind := if available then .builtin else .unavailable
    laneKey := str "builtin"
    available
    concurrencyBudget := if available then timeoutView.maxToolCalls else 0 }

def reserveWorkflow (timeoutView : ToolTimeoutView) : LaneReservation :=
  let available : Bool := 0 < timeoutView.maxToolCalls && 0 < timeoutView.workflow.timeoutMs
  { kind := if available then .workflow else .unavailable
    laneKey := str "workflow"
    available
    concurrencyBudget := if available then timeoutView.maxToolCalls else 0 }

def reserveMcp (serverId : Bytes) (timeoutView : ToolTimeoutView) : LaneReservation :=
  let available : Bool := timeoutView.mcpLaneEnabled && 0 < timeoutView.maxToolCalls &&
    0 < timeoutView.mcp.timeoutMs && !serverId.isEmpty
  { kind := if available then .mcp else .unavailable
    laneKey := if available then str "mcp:" ++ serverId else str "mcp"
    available
    concurrencyBudget := if available then timeoutView.maxToolCalls else 0 }

def acquire (pool : ExecutorLanePool) (reservation : LaneReservation) (reasonCode : Bytes) :
    LaneAcquireResult × ExecutorLanePool :=
  if !reservation.available || reservation.concurrencyBudget = 0 || reservation.laneKey.isEmpty then
    ({ reservation, reasonCode }, pool)
  else
    let counters := { (pool.lookup reservation.laneKey).getD {} with
      concurrencyBudget := reservation.concurrencyBudget }
    if counters.concurrencyBudget ≤ counters.inflight then
      ({ reservation, reasonCode, inflight := counters.inflight },
        pool.insert reservation.laneKey counters)
    else
      let counters := { counters with inflight := counters.inflight + 1 }
      ({ reservation, acquired := true, inflight := counters.inflight },
        pool.insert reservation.laneKey counters)

def acquireBuiltin (pool : ExecutorLanePool) (timeoutView : ToolTimeoutView) :
    LaneAcquireResult × ExecutorLanePool :=
  acquire pool (reserveBuiltin timeoutView) (backpressureReasonCode .builtin)

def acquireWorkflow (pool : ExecutorLanePool) (timeoutView : ToolTimeoutView) :
    LaneAcquireResult × ExecutorLanePool :=
  acquire pool (reserveWorkflow timeoutView) (backpressureReasonCode .workflow)

def acquireMcp (pool : ExecutorLanePool) (serverId : Bytes) (timeoutView : ToolTimeoutView) :
    LaneAcquireResult × ExecutorLanePool :=
  acquire pool (reserveMcp serverId timeoutView) (backpressureReasonCode .mcp)

def release (pool : ExecutorLanePool) (laneKey : Bytes) : ExecutorLanePool :=
  if laneKey.isEmpty then pool
  else
    match pool.lookup laneKey with
    | none => pool
    | some counters =>
      if counters.inflight = 0 then pool
      else pool.insert laneKey { counters with inflight := counters.inflight - 1 }

theorem not_acquired {pool : ExecutorLanePool} {reservation : LaneReservation} {reasonCode : Bytes}
    (hclosed : reservation.available = false) :
    (acquire pool reservation reasonCode).1.acquired = false := by
  unfold acquire
  rw [if_pos (by simp [hclosed])]

theorem reason_of_not_acquired {pool : ExecutorLanePool} {reservation : LaneReservation}
    {reasonCode : Bytes} (h : (acquire pool reservation reasonCode).1.acquired = false) :
    (acquire pool reservation reasonCode).1.reasonCode = reasonCode := by
  unfold acquire at h ⊢
  split at h
  · next hclosed => rw [if_pos hclosed]
  · next hopen =>
    rw [if_neg hopen]
    simp only at h ⊢
    split at h
    · next hfull => rw [if_pos hfull]
    · simp at h

/-! ## Calls on the lanes -/

/-- A call asks for a permit, or one that runs on the lane ends and gives its permit back. -/
inductive LaneCall
  | acquire (reservation : LaneReservation) (reasonCode : Bytes)
  | release (laneKey : Bytes)

/-- The pool, with the lane of each call that runs. -/
structure LaneSystem where
  pool : ExecutorLanePool := ∅
  running : List Bytes := []

def LaneSystem.step (system : LaneSystem) : LaneCall → LaneSystem × Bool
  | .acquire reservation reasonCode =>
    let (result, pool) := Execution.acquire system.pool reservation reasonCode
    let laneKey := result.reservation.laneKey
    ({ pool, running := if result.acquired then laneKey :: system.running else system.running },
      result.acquired)
  | .release laneKey =>
    if laneKey ∈ system.running then
      ({ pool := Execution.release system.pool laneKey
         running := system.running.erase laneKey }, true)
    else (system, false)

def inflightOf (pool : ExecutorLanePool) (laneKey : Bytes) : Nat :=
  ((pool.lookup laneKey).getD {}).inflight.toNat

structure LaneSystem.Accounted (system : LaneSystem) : Prop where
  named : [] ∉ system.running
  counted : ∀ laneKey, inflightOf system.pool laneKey = system.running.count laneKey

section
variable (pool : ExecutorLanePool) (reservation : LaneReservation) (reasonCode other : Bytes)

theorem inflightOf_insert (laneKey : Bytes) (counters : LaneCounters) :
    inflightOf (pool.insert laneKey counters) other =
      if laneKey = other then counters.inflight.toNat else inflightOf pool other := by
  unfold inflightOf
  split
  · next hsame => rw [hsame, AList.lookup_insert, Option.getD_some]
  · next hother => rw [AList.lookup_insert_ne (Ne.symm hother)]

/-- The count of a lane does not wrap, since it was below the budget. -/
theorem acquire_spec :
    ((acquire pool reservation reasonCode).1.acquired = true ↔
      reservation.available = true ∧ reservation.laneKey ≠ [] ∧
        inflightOf pool reservation.laneKey < reservation.concurrencyBudget.toNat) ∧
      (acquire pool reservation reasonCode).1.reservation = reservation ∧
      inflightOf (acquire pool reservation reasonCode).2 other =
        inflightOf pool other + if (acquire pool reservation reasonCode).1.acquired = true ∧
          reservation.laneKey = other then 1 else 0 := by
  unfold acquire
  split
  · next hclosed =>
    refine ⟨?_, rfl, by simp⟩
    simp only [Bool.or_eq_true, Bool.not_eq_true', decide_eq_true_eq, List.isEmpty_iff] at hclosed
    rcases hclosed with (hclosed | hzero) | hempty
    · simp [hclosed]
    · simp [hzero]
    · simp [hempty]
  · next hopen =>
    simp only [Bool.or_eq_true, Bool.not_eq_true', decide_eq_true_eq, List.isEmpty_iff, not_or,
      Bool.not_eq_false] at hopen
    rw [and_iff_right hopen.1.1, and_iff_right hopen.2]
    simp only
    split
    · next hfull =>
      refine ⟨by simpa [inflightOf, UInt32.le_iff_toNat_le] using hfull, rfl, ?_⟩
      rw [inflightOf_insert]
      split
      · next hsame =>
        subst hsame
        simp [inflightOf]
      · simp
    · next hroom =>
      rw [UInt32.not_le, UInt32.lt_iff_toNat_lt] at hroom
      refine ⟨by simpa [inflightOf] using hroom, rfl, ?_⟩
      rw [inflightOf_insert]
      split
      · next hsame =>
        subst hsame
        have hlimit := reservation.concurrencyBudget.toNat_lt
        simp [inflightOf]
        omega
      · next hother => simp [hother]

theorem release_inflight {laneKey : Bytes} (hnamed : laneKey ≠ []) :
    inflightOf (release pool laneKey) other =
      inflightOf pool other - if laneKey = other then 1 else 0 := by
  unfold release
  rw [if_neg (by simpa using hnamed)]
  by_cases hsame : laneKey = other
  · subst hsame
    cases hlane : pool.lookup laneKey with
    | none => simp [inflightOf, hlane]
    | some counters =>
      simp only
      split
      · next hzero => simp [inflightOf, hlane, hzero]
      · next hpositive =>
        have hone : 1 ≤ counters.inflight := UInt32.pos_iff_ne_zero.mpr hpositive
        rw [inflightOf_insert, if_pos rfl, UInt32.toNat_sub_of_le _ _ hone]
        simp [inflightOf, hlane]
  · rw [if_neg hsame, Nat.sub_zero]
    split
    · rfl
    · split
      · rfl
      · rw [inflightOf_insert, if_neg hsame]

end

theorem LaneSystem.Accounted.step {system : LaneSystem} (h : system.Accounted) (call : LaneCall) :
    (system.step call).1.Accounted := by
  cases call with
  | acquire reservation reasonCode =>
    obtain ⟨hacquired, hsame, -⟩ := acquire_spec system.pool reservation reasonCode []
    have hinflight := fun other => (acquire_spec system.pool reservation reasonCode other).2.2
    unfold LaneSystem.step
    simp only [hsame]
    constructor
    · simp only
      split
      · next htaken => simp [Ne.symm (hacquired.mp htaken).2.1, h.named]
      · exact h.named
    · intro other
      simp only [hinflight, h.counted]
      cases (Execution.acquire system.pool reservation reasonCode).1.acquired with
      | true => simp [List.count_cons]
      | false => simp
  | release laneKey =>
    unfold LaneSystem.step
    simp only
    split
    · next hmem =>
      refine ⟨fun hempty => h.named (List.mem_of_mem_erase hempty), fun other => ?_⟩
      rw [release_inflight _ _ (ne_of_mem_of_not_mem hmem h.named), h.counted, List.count_erase]
      simp
    · exact h

/-- Whatever calls came before, a lane has as many permits out as calls that run on it, and it has
one more for a call exactly while these are fewer than what the call is allowed. -/
theorem permits_accounted (calls : List LaneCall) (reservation : LaneReservation)
    (reasonCode : Bytes) :
    let system := (run LaneSystem.step {} calls).1
    (∀ laneKey, inflightOf system.pool laneKey = system.running.count laneKey) ∧
      ((system.step (.acquire reservation reasonCode)).2 = true ↔
        reservation.available = true ∧ reservation.laneKey ≠ [] ∧
          system.running.count reservation.laneKey < reservation.concurrencyBudget.toNat) := by
  have haccounted := invariant_run LaneSystem.step LaneSystem.Accounted
    (fun _ call h => h.step call) {} calls ⟨List.not_mem_nil, fun _ => rfl⟩
  refine ⟨haccounted.counted, ?_⟩
  rw [← haccounted.counted]
  exact (acquire_spec _ reservation reasonCode []).1

end Dasall.Tools.Execution

/-!
## The route selector

A tool that is no workflow runs on the builtin lane or on a server with the capability. Each has a
score, from the route the call asks for and from the state of the lane.
-/

open Dasall.Tools.Execution Dasall.Tools.Registry

namespace Dasall.Tools

inductive CapabilityFreshness
  | fresh
  | stale
  | expired
deriving DecidableEq

structure CapabilityEntry where
  capabilityId : Bytes
  capabilityVersion : Bytes
  toolNames : List Bytes
deriving DecidableEq

structure CapabilitySnapshot where
  serverId : Bytes
  entries : List CapabilityEntry
  freshness : CapabilityFreshness := .expired
  lastRefreshAtMs : Option Int64 := none
  lastError : Option Bytes := none
  trustMarker : Option Bytes := none
deriving DecidableEq

namespace Route

structure ToolRouteHealthSnapshot where
  builtinLaneHealthy : Bool := true
  workflowLaneHealthy : Bool := true
  mcpLaneHealthy : Bool := true
deriving DecidableEq

structure ToolRouteDecision where
  available : Bool := false
  route : ToolIRRoute := .unspecified
  laneKey : Bytes
  reasonCode : Bytes
  usesStaleSnapshot : Bool := false
  serverId : Option Bytes := none
deriving DecidableEq

def kBuiltinBaseScore : Int := 60
def kBuiltinRouteHintBonus : Int := 20
def kBuiltinReadOnlyBonus : Int := 5
def kMCPBaseScore : Int := 50
def kMCPRoutePreferenceBonus : Int := 25
def kMCPFreshSnapshotBonus : Int := 15

def isAgentDelegation (descriptor : ToolDescriptor) : Bool :=
  descriptor.category = some .agentDelegation

def isWorkflowLike (descriptor : ToolDescriptor) : Bool :=
  descriptor.category = some .workflow || descriptor.category = some .agentDelegation

def snapshotSupportsBinding (snapshot : CapabilitySnapshot) (binding : MCPToolBinding) : Bool :=
  snapshot.entries.any fun entry =>
    (binding.remoteCapabilityId.all fun capabilityId => capabilityId = entry.capabilityId) &&
      entry.toolNames.contains binding.remoteToolName

def mayUseStaleSnapshot (timeoutView : ToolTimeoutView) (snapshot : CapabilitySnapshot) : Bool :=
  timeoutView.staleReadAllowed && snapshot.trustMarker.any fun marker => !marker.isEmpty

def prefersMcp (toolIr : ToolIR) : Bool := toolIr.route = some .mcpRemote

def unavailable (reasonCode : Bytes) : ToolRouteDecision :=
  { laneKey := str "unavailable", reasonCode }

/-- The first binding to the server of the snapshot that the snapshot supports. -/
def selectedBinding (bindings : List MCPToolBinding) (snapshot : CapabilitySnapshot) :
    Option MCPToolBinding :=
  bindings.find? fun binding =>
    binding.serverId = snapshot.serverId && snapshotSupportsBinding snapshot binding

def scoreBuiltinCandidate (toolIr : ToolIR) (descriptor : ToolDescriptor)
    (timeoutView : ToolTimeoutView) (health : ToolRouteHealthSnapshot) : Int :=
  if !timeoutView.builtinLaneEnabled || !health.builtinLaneHealthy then 0
  else if descriptor.category.isNone || isWorkflowLike descriptor then 0
  else
    kBuiltinBaseScore + (if toolIr.route = some .localTool then kBuiltinRouteHintBonus else 0) +
      (if descriptor.isReadOnly.getD false then kBuiltinReadOnlyBonus else 0)

def scoreMcpCandidate (toolIr : ToolIR) (timeoutView : ToolTimeoutView)
    (bindings : List MCPToolBinding) (capabilitySnapshot : Option CapabilitySnapshot)
    (health : ToolRouteHealthSnapshot) : Int :=
  match capabilitySnapshot with
  | none => 0
  | some snapshot =>
    if !timeoutView.mcpLaneEnabled || !health.mcpLaneHealthy || bindings.isEmpty then 0
    else if snapshot.freshness = .expired then 0
    else if snapshot.freshness = .stale && !mayUseStaleSnapshot timeoutView snapshot then 0
    else if (selectedBinding bindings snapshot).isNone then 0
    else
      kMCPBaseScore + (if prefersMcp toolIr then kMCPRoutePreferenceBonus else 0) +
        (if snapshot.freshness = .fresh then kMCPFreshSnapshotBonus else 0)

def buildBuiltinDecision (timeoutView : ToolTimeoutView) : ToolRouteDecision :=
  let reservation := reserveBuiltin timeoutView
  if !reservation.available then unavailable (str "RouteUnavailable")
  else
    { available := true
      route := .localTool
      laneKey := reservation.laneKey
      reasonCode := str "route.builtin.selected" }

def buildMcpDecision (binding : MCPToolBinding) (timeoutView : ToolTimeoutView)
    (usesStaleSnapshot : Bool) : ToolRouteDecision :=
  let reservation := reserveMcp binding.serverId timeoutView
  if !reservation.available then unavailable (str "RouteUnavailable")
  else
    { available := true
      route := .mcpRemote
      laneKey := reservation.laneKey
      reasonCode :=
        if usesStaleSnapshot then str "route.mcp.stale_fallback" else str "route.mcp.selected"
      usesStaleSnapshot
      serverId := some binding.serverId }

def selectWorkflowRoute (descriptor : ToolDescriptor) (timeoutView : ToolTimeoutView)
    (health : ToolRouteHealthSnapshot) : ToolRouteDecision :=
  if !health.workflowLaneHealthy then unavailable (str "RouteUnavailable")
  else if isAgentDelegation descriptor && !timeoutView.multiAgentEnabled then
    unavailable (str "route.agent_delegation_disabled")
  else
    let reservation := reserveWorkflow timeoutView
    if !reservation.available then unavailable (str "RouteUnavailable")
    else
      { available := true
        route := .workflowEngine
        laneKey := reservation.laneKey
        reasonCode := str "route.workflow.selected" }

/-- A decision for the server, where the snapshot supports a binding. -/
def selectMcpRoute (timeoutView : ToolTimeoutView) (bindings : List MCPToolBinding)
    (capabilitySnapshot : Option CapabilitySnapshot) : Option ToolRouteDecision :=
  capabilitySnapshot.bind fun snapshot => (selectedBinding bindings snapshot).map fun binding =>
    buildMcpDecision binding timeoutView (snapshot.freshness = .stale)

def selectRoute (toolIr : ToolIR) (descriptor : ToolDescriptor) (timeoutView : ToolTimeoutView)
    (bindings : List MCPToolBinding) (capabilitySnapshot : Option CapabilitySnapshot)
    (health : ToolRouteHealthSnapshot) : ToolRouteDecision :=
  if isWorkflowLike descriptor then selectWorkflowRoute descriptor timeoutView health
  else
    let builtinScore := scoreBuiltinCandidate toolIr descriptor timeoutView health
    let mcpScore := scoreMcpCandidate toolIr timeoutView bindings capabilitySnapshot health
    if builtinScore ≤ 0 ∧ mcpScore ≤ 0 then unavailable (str "RouteUnavailable")
    else
      let preferred :=
        if builtinScore < mcpScore then selectMcpRoute timeoutView bindings capabilitySnapshot
        else none
      match preferred with
      | some decision => decision
      | none =>
        if 0 < builtinScore then buildBuiltinDecision timeoutView
        else
          -- Only a server is left, and its score is positive.
          ((if 0 < mcpScore then selectMcpRoute timeoutView bindings capabilitySnapshot
            else none).getD (unavailable (str "RouteUnavailable")))

/-! ## Why there is no route -/

def unavailableReasons : List Bytes :=
  [str "RouteUnavailable", str "route.agent_delegation_disabled"]

/-- A decision is for a route, or says why there is none. -/
def Explained (decision : ToolRouteDecision) : Prop :=
  decision.available = false → decision.reasonCode ∈ unavailableReasons

theorem explained_unavailable {reasonCode : Bytes} (h : reasonCode ∈ unavailableReasons) :
    Explained (unavailable reasonCode) := fun _ => h

theorem explained_ite (condition : Prop) [Decidable condition] {first second : ToolRouteDecision}
    (hfirst : Explained first) (hsecond : Explained second) :
    Explained (if condition then first else second) := by
  split
  · exact hfirst
  · exact hsecond

theorem explained_buildBuiltinDecision (timeoutView : ToolTimeoutView) :
    Explained (buildBuiltinDecision timeoutView) :=
  explained_ite _ (explained_unavailable (by decide)) (by simp [Explained])

theorem explained_buildMcpDecision (binding : MCPToolBinding) (timeoutView : ToolTimeoutView)
    (usesStaleSnapshot : Bool) :
    Explained (buildMcpDecision binding timeoutView usesStaleSnapshot) :=
  explained_ite _ (explained_unavailable (by decide)) (by simp [Explained])

theorem explained_selectWorkflowRoute (descriptor : ToolDescriptor) (timeoutView : ToolTimeoutView)
    (health : ToolRouteHealthSnapshot) :
    Explained (selectWorkflowRoute descriptor timeoutView health) :=
  explained_ite _ (explained_unavailable (by decide)) <|
    explained_ite _ (explained_unavailable (by decide)) <|
    explained_ite _ (explained_unavailable (by decide)) (by simp [Explained])

theorem explained_of_selectMcpRoute {timeoutView : ToolTimeoutView}
    {bindings : List MCPToolBinding} {capabilitySnapshot : Option CapabilitySnapshot}
    {decision : ToolRouteDecision}
    (h : selectMcpRoute timeoutView bindings capabilitySnapshot = some decision) :
    Explained decision := by
  unfold selectMcpRoute at h
  obtain ⟨snapshot, -, hbinding⟩ := Option.bind_eq_some_iff.mp h
  obtain ⟨binding, -, rfl⟩ := Option.map_eq_some_iff.mp hbinding
  exact explained_buildMcpDecision binding timeoutView _

theorem explained_selectRoute (toolIr : ToolIR) (descriptor : ToolDescriptor)
    (timeoutView : ToolTimeoutView) (bindings : List MCPToolBinding)
    (capabilitySnapshot : Option CapabilitySnapshot) (health : ToolRouteHealthSnapshot) :
    Explained (selectRoute toolIr descriptor timeoutView bindings capabilitySnapshot health) := by
  unfold selectRoute
  apply explained_ite _ (explained_selectWorkflowRoute descriptor timeoutView health)
  apply explained_ite _ (explained_unavailable (by decide))
  simp only
  split
  · next decision hpreferred =>
    split at hpreferred
    · exact explained_of_selectMcpRoute hpreferred
    · simp at hpreferred
  · apply explained_ite _ (explained_buildBuiltinDecision timeoutView)
    split
    · cases hselected : selectMcpRoute timeoutView bindings capabilitySnapshot with
      | none => exact explained_unavailable (by decide)
      | some decision => exact explained_of_selectMcpRoute hselected
    · exact explained_unavailable (by decide)

/-! ## Which lane serves a call -/

def builtinUsable (timeoutView : ToolTimeoutView) (health : ToolRouteHealthSnapshot) : Bool :=
  timeoutView.builtinLaneEnabled && health.builtinLaneHealthy

/-- The server of the snapshot can be used: its lane is open, what is known of it may be relied on,
and it has the tool of a binding. -/
def mcpUsable (timeoutView : ToolTimeoutView) (bindings : List MCPToolBinding)
    (capabilitySnapshot : Option CapabilitySnapshot) (health : ToolRouteHealthSnapshot) : Bool :=
  capabilitySnapshot.any fun snapshot =>
    timeoutView.mcpLaneEnabled && health.mcpLaneHealthy && snapshot.freshness ≠ .expired &&
      (snapshot.freshness ≠ .stale || mayUseStaleSnapshot timeoutView snapshot) &&
      (selectedBinding bindings snapshot).isSome

/-- The route that a call gets, of the one it asks for and of what can be used. -/
def servedRoute (asked : ToolIRRoute) (descriptor : ToolDescriptor) (timeoutView : ToolTimeoutView)
    (bindings : List MCPToolBinding) (capabilitySnapshot : Option CapabilitySnapshot)
    (health : ToolRouteHealthSnapshot) : ToolIRRoute :=
  if isWorkflowLike descriptor then .workflowEngine
  else if mcpUsable timeoutView bindings capabilitySnapshot health &&
      (asked = .mcpRemote || !builtinUsable timeoutView health) then .mcpRemote
  else .localTool

theorem servedRoute_cases (asked : ToolIRRoute) (descriptor : ToolDescriptor)
    (timeoutView : ToolTimeoutView) (bindings : List MCPToolBinding)
    (capabilitySnapshot : Option CapabilitySnapshot) (health : ToolRouteHealthSnapshot) :
    servedRoute asked descriptor timeoutView bindings capabilitySnapshot health = .workflowEngine ∨
      (servedRoute asked descriptor timeoutView bindings capabilitySnapshot health = .mcpRemote ∧
        mcpUsable timeoutView bindings capabilitySnapshot health = true) ∨
      servedRoute asked descriptor timeoutView bindings capabilitySnapshot health = .localTool := by
  unfold servedRoute
  split
  · exact Or.inl rfl
  split
  · next hserver =>
    rw [Bool.and_eq_true] at hserver
    exact Or.inr (Or.inl ⟨rfl, hserver.1⟩)
  · exact Or.inr (Or.inr rfl)

section Scores

variable (toolIr : ToolIR) (descriptor : ToolDescriptor) (timeoutView : ToolTimeoutView)
  (bindings : List MCPToolBinding) (capabilitySnapshot : Option CapabilitySnapshot)
  (health : ToolRouteHealthSnapshot)

/-- A tool with a category that is no workflow has a score where the builtin lane can be used. -/
theorem scoreBuiltinCandidate_eq (hcategory : descriptor.category ≠ none)
    (hworkflow : isWorkflowLike descriptor = false) :
    scoreBuiltinCandidate toolIr descriptor timeoutView health =
      if builtinUsable timeoutView health then
        60 + (if toolIr.route = some .localTool then 20 else 0) +
          (if descriptor.isReadOnly.getD false then 5 else 0)
      else 0 := by
  have hsome : descriptor.category.isNone = false := by
    rw [Option.isNone_eq_false_iff]
    exact Option.isSome_iff_ne_none.mpr hcategory
  unfold scoreBuiltinCandidate builtinUsable
  simp only [hsome, hworkflow, Bool.or_false, Bool.false_eq_true, if_false]
  cases timeoutView.builtinLaneEnabled <;> cases health.builtinLaneHealthy <;> rfl

theorem mcpUsable_some (snapshot : CapabilitySnapshot) :
    mcpUsable timeoutView bindings (some snapshot) health = true ↔
      timeoutView.mcpLaneEnabled = true ∧ health.mcpLaneHealthy = true ∧
        snapshot.freshness ≠ .expired ∧
        (snapshot.freshness = .stale → mayUseStaleSnapshot timeoutView snapshot = true) ∧
        (selectedBinding bindings snapshot).isSome = true := by
  simp [mcpUsable, and_assoc, Decidable.imp_iff_not_or]

theorem bindings_of_selected {bindings : List MCPToolBinding} {snapshot : CapabilitySnapshot}
    (h : (selectedBinding bindings snapshot).isSome = true) : bindings.isEmpty = false := by
  cases bindings with
  | nil => simp [selectedBinding] at h
  | cons binding rest => rfl

theorem scoreMcpCandidate_eq :
    scoreMcpCandidate toolIr timeoutView bindings capabilitySnapshot health =
      if mcpUsable timeoutView bindings capabilitySnapshot health then
        50 + (if prefersMcp toolIr then 25 else 0) +
          (if capabilitySnapshot.any (·.freshness = .fresh) then 15 else 0)
      else 0 := by
  cases capabilitySnapshot with
  | none => rfl
  | some snapshot =>
    unfold scoreMcpCandidate
    simp only
    split
    · next hclosed =>
      rw [if_neg]
      rw [mcpUsable_some]
      rintro ⟨henabled, hhealthy, -, -, hbinding⟩
      simp [henabled, hhealthy, bindings_of_selected hbinding] at hclosed
    split
    · next hexpired =>
      rw [if_neg]
      rw [mcpUsable_some]
      rintro ⟨-, -, hfreshness, -, -⟩
      exact hfreshness hexpired
    split
    · next hstale =>
      rw [if_neg]
      rw [mcpUsable_some]
      rintro ⟨-, -, -, hmay, -⟩
      rw [Bool.and_eq_true, decide_eq_true_eq] at hstale
      simp [hmay hstale.1] at hstale
    split
    · next hnone =>
      rw [if_neg]
      rw [mcpUsable_some]
      rintro ⟨-, -, -, -, hbinding⟩
      rw [Option.isNone_iff_eq_none] at hnone
      simp [hnone] at hbinding
    · next hclosed hexpired hstale hnone =>
      have husable : mcpUsable timeoutView bindings (some snapshot) health = true := by
        rw [mcpUsable_some]
        simp only [Bool.or_eq_true, Bool.not_eq_true', not_or, Bool.not_eq_false] at hclosed
        refine ⟨hclosed.1.1, hclosed.1.2, hexpired, ?_, ?_⟩
        · simpa using hstale
        · simpa [Option.isSome_iff_ne_none] using hnone
      rw [if_pos husable]
      simp [kMCPBaseScore, kMCPRoutePreferenceBonus, kMCPFreshSnapshotBonus]

/-- A call that asks for a server gets one that can be used, and another call gets it only where the
builtin lane cannot be used. -/
theorem scoreBuiltin_lt_scoreMcp_iff {asked : ToolIRRoute} (hroute : toolIr.route = some asked)
    (hasked : asked = .localTool ∨ asked = .mcpRemote) (hcategory : descriptor.category ≠ none)
    (hworkflow : isWorkflowLike descriptor = false) :
    scoreBuiltinCandidate toolIr descriptor timeoutView health <
        scoreMcpCandidate toolIr timeoutView bindings capabilitySnapshot health ↔
      mcpUsable timeoutView bindings capabilitySnapshot health = true ∧
        (asked = .mcpRemote ∨ builtinUsable timeoutView health = false) := by
  rw [scoreBuiltinCandidate_eq toolIr descriptor timeoutView health hcategory hworkflow,
    scoreMcpCandidate_eq]
  unfold prefersMcp
  rw [hroute]
  cases hmcp : mcpUsable timeoutView bindings capabilitySnapshot health with
  | false =>
    simp only [Bool.false_eq_true, if_false, false_and, iff_false, not_lt]
    split_ifs <;> omega
  | true =>
    cases hbuiltin : builtinUsable timeoutView health with
    | false =>
      simp only [Bool.false_eq_true, if_true, if_false, or_true, true_and, iff_true]
      split_ifs <;> omega
    | true =>
      rcases hasked with rfl | rfl
      · simp
        split_ifs <;> omega
      · simp
        split_ifs <;> omega

theorem selectMcpRoute_usable {snapshot : CapabilitySnapshot}
    (h : mcpUsable timeoutView bindings (some snapshot) health = true) :
    ∃ binding, binding.serverId = snapshot.serverId ∧
      selectMcpRoute timeoutView bindings (some snapshot) =
        some (buildMcpDecision binding timeoutView (snapshot.freshness = .stale)) := by
  obtain ⟨-, -, -, -, hsome⟩ := (mcpUsable_some timeoutView bindings health snapshot).mp h
  obtain ⟨binding, hbinding⟩ := Option.isSome_iff_exists.mp hsome
  refine ⟨binding, ?_, by simp [selectMcpRoute, hbinding]⟩
  have := List.find?_some hbinding
  simp only [Bool.and_eq_true, decide_eq_true_eq] at this
  exact this.1

theorem selectRoute_eq {asked : ToolIRRoute} (hroute : toolIr.route = some asked)
    (hasked : isWorkflowLike descriptor = true ∨ asked = .localTool ∨ asked = .mcpRemote)
    (hcategory : descriptor.category ≠ none) :
    selectRoute toolIr descriptor timeoutView bindings capabilitySnapshot health =
      match servedRoute asked descriptor timeoutView bindings capabilitySnapshot health with
      | .workflowEngine => selectWorkflowRoute descriptor timeoutView health
      | .mcpRemote => (selectMcpRoute timeoutView bindings capabilitySnapshot).getD
          (unavailable (str "RouteUnavailable"))
      | .localTool | .unspecified =>
        if builtinUsable timeoutView health then buildBuiltinDecision timeoutView
        else unavailable (str "RouteUnavailable") := by
  unfold selectRoute servedRoute
  cases hworkflow : isWorkflowLike descriptor with
  | true => simp
  | false =>
    have hlt := scoreBuiltin_lt_scoreMcp_iff toolIr descriptor timeoutView bindings
      capabilitySnapshot health hroute (by simpa [hworkflow] using hasked) hcategory hworkflow
    have hbuiltin := scoreBuiltinCandidate_eq toolIr descriptor timeoutView health hcategory hworkflow
    have hmcp := scoreMcpCandidate_eq toolIr timeoutView bindings capabilitySnapshot health
    by_cases hserver : mcpUsable timeoutView bindings capabilitySnapshot health = true ∧
        (asked = .mcpRemote ∨ builtinUsable timeoutView health = false)
    · have hless := hlt.mpr hserver
      have hnonneg : 0 ≤ scoreBuiltinCandidate toolIr descriptor timeoutView health := by
        rw [hbuiltin]
        split_ifs <;> omega
      obtain ⟨snapshot, rfl⟩ : ∃ snapshot, capabilitySnapshot = some snapshot := by
        cases capabilitySnapshot with
        | none => simp [mcpUsable] at hserver
        | some snapshot => exact ⟨snapshot, rfl⟩
      obtain ⟨binding, -, hselected⟩ := selectMcpRoute_usable timeoutView bindings health hserver.1
      have hpositive : ¬(scoreBuiltinCandidate toolIr descriptor timeoutView health ≤ 0 ∧
          scoreMcpCandidate toolIr timeoutView bindings (some snapshot) health ≤ 0) := by omega
      have hasks : (decide (asked = ToolIRRoute.mcpRemote) || !builtinUsable timeoutView health) =
          true := by simpa using hserver.2
      simp only [Bool.false_eq_true, if_false, if_neg hpositive, if_pos hless, hselected,
        hserver.1, hasks, Bool.and_self, if_true, Option.getD_some]
    · have hnot := mt hlt.mp hserver
      have hlocal : (mcpUsable timeoutView bindings capabilitySnapshot health &&
          (decide (asked = ToolIRRoute.mcpRemote) || !builtinUsable timeoutView health)) = false := by
        rw [Bool.eq_false_iff]
        simpa using hserver
      simp only [Bool.false_eq_true, if_false, if_neg hnot, hlocal]
      cases husable : builtinUsable timeoutView health with
      | true =>
        have hpositive : 0 < scoreBuiltinCandidate toolIr descriptor timeoutView health := by
          rw [hbuiltin, husable, if_pos rfl]
          split_ifs <;> omega
        rw [if_neg (by omega), if_pos hpositive, if_pos rfl]
      | false =>
        have hclosed : mcpUsable timeoutView bindings capabilitySnapshot health = false := by
          rw [Bool.eq_false_iff]
          intro hopen
          exact hserver ⟨hopen, Or.inr husable⟩
        rw [hbuiltin, hmcp, husable, hclosed]
        simp

end Scores

end Route

end Dasall.Tools
