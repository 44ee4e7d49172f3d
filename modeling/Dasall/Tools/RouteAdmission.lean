import Dasall.Tools.ToolManager

/-!
# The route that was admitted

The gate judges the domain of the route that a call asks for. The call runs on the route that is
chosen afterwards.
-/

open Dasall.Contracts Dasall.Contracts.Tool Dasall.Infra.Policy Dasall.Lib.Guard Dasall.Lib.Text
  Dasall.Profiles Dasall.Tools.Bridge Dasall.Tools.Config Dasall.Tools.Execution
  Dasall.Tools.Policy Dasall.Tools.Registry Dasall.Tools.Route Dasall.Tools.Validation

namespace Dasall.Tools.Manager

variable {World : Type}

/-- The policy admits a call on the route it runs on: the domain of that route is allowed, one of its
rules shows the tool, and a high risk is confirmed where that is asked for. -/
structure Admitted (context : ToolInvocationContext) (call : AdmittedCall) : Prop where
  shown : ShownOn
    (admissionRequest call.toolIr call.descriptor (call.toolIr.toolName.getD []) context)
    call.policyView (routeKindString call.routeDecision.route)
  confirmed : ConfirmedIn
    (admissionRequest call.toolIr call.descriptor (call.toolIr.toolName.getD []) context)
    call.policyView

def policyViewOf (dependencies : ToolManagerDependencies World) (manager : ToolManager)
    (snapshot : RuntimePolicySnapshot) : ToolPolicyView :=
  (buildViews dependencies manager.configAdapter snapshot).1

def timeoutViewOf (dependencies : ToolManagerDependencies World) (manager : ToolManager)
    (snapshot : RuntimePolicySnapshot) : ToolTimeoutView :=
  (buildViews dependencies manager.configAdapter snapshot).2.1

/-- A lane that is healthy and has a permit left. -/
def laneOpen (manager : ToolManager) (descriptor : ToolDescriptor) (timeoutView : ToolTimeoutView) :
    ToolIRRoute → Bool
  | .localTool => builtinUsable timeoutView manager.routeHealth &&
      (acquireBuiltin manager.lanePool timeoutView).1.acquired
  | .workflowEngine => manager.routeHealth.workflowLaneHealthy &&
      (!isAgentDelegation descriptor || timeoutView.multiAgentEnabled) &&
      (acquireWorkflow manager.lanePool timeoutView).1.acquired
  | .mcpRemote => manager.capabilitySnapshot.any fun snapshot =>
      (acquireMcp manager.lanePool snapshot.serverId timeoutView).1.acquired
  | .unspecified => false

/-! ## From the admission to the lane -/

variable (dependencies : ToolManagerDependencies World) (pool : ExecutorLanePool)
  (manager : ToolManager) {request : ToolRequest} (timeoutView : ToolTimeoutView)
  {descriptor : ToolDescriptor}

theorem admitAndRoute_ok (toolIr : ToolIR) (descriptor : ToolDescriptor)
    (name : Bytes) (context : ToolInvocationContext) (policyView : ToolPolicyView)
    (timeoutView : ToolTimeoutView) (call : AdmittedCall) :
    admitAndRoute manager toolIr descriptor name context policyView timeoutView = .ok call ↔
      (evaluate (admissionRequest toolIr descriptor name context) policyView).allowed = true ∧
        call.routeDecision.available = true ∧
        call =
          { toolIr, descriptor, policyView, timeoutView
            routeDecision := selectRoute toolIr descriptor timeoutView
              (listMcpBindings manager.registry name) manager.capabilitySnapshot
              manager.routeHealth } := by
  unfold admitAndRoute
  simp only
  split
  · next hdenied =>
    simp only [reduceCtorEq, false_iff, not_and]
    intro hallowed
    simp [hallowed] at hdenied
  · next hallowed =>
    rw [Bool.not_eq_true', Bool.not_eq_false] at hallowed
    split
    · next hclosed =>
      simp only [reduceCtorEq, false_iff, not_and]
      rintro - havailable rfl
      simp only at havailable
      simp [havailable] at hclosed
    · next havailable =>
      rw [Bool.not_eq_true', Bool.not_eq_false] at havailable
      constructor
      · intro h
        obtain rfl := Except.ok.inj h
        exact ⟨hallowed, havailable, rfl⟩
      · rintro ⟨-, -, rfl⟩
        rfl

theorem resolveInvocation_ok (request : ToolRequest)
    (context : ToolInvocationContext) (snapshot : RuntimePolicySnapshot) (name : Bytes)
    (descriptor : ToolDescriptor) (toolIr : ToolIR) :
    resolveInvocation manager request context = .ok (snapshot, name, descriptor, toolIr) ↔
      context.profileSnapshot = some snapshot ∧ request.toolName = some name ∧ name ≠ [] ∧
        resolveDescriptor manager.registry name = some descriptor ∧
        validate request descriptor = .ok toolIr := by
  unfold resolveInvocation
  cases context.profileSnapshot with
  | none => simp
  | some profileSnapshot =>
    simp only [bind_eq_ok, ensure_eq_ok]
    cases hname : request.toolName with
    | none => simp
    | some toolName =>
      simp only [Option.getD_some, Option.some.injEq]
      cases hdescriptor : resolveDescriptor manager.registry toolName with
      | none =>
        simp only [reduceCtorEq, and_false, exists_const, false_iff, not_and]
        rintro - rfl -
        simp [hdescriptor]
      | some found =>
        simp only
        cases hcall : validate request found with
        | error diagnostics =>
          simp only [reduceCtorEq, and_false, exists_const, false_iff, not_and]
          rintro - rfl - hfound
          obtain rfl : found = descriptor := Option.some.inj (hdescriptor.symm.trans hfound)
          simp [hcall]
        | ok call =>
          simp only [pure, Except.pure, Except.ok.injEq, Prod.mk.injEq]
          constructor
          · rintro ⟨_, hne, rfl, rfl, rfl, rfl⟩
            exact ⟨rfl, rfl, by simpa using hne, hdescriptor, hcall⟩
          · rintro ⟨rfl, rfl, hne, hfound, hother⟩
            obtain rfl : found = descriptor := Option.some.inj (hdescriptor.symm.trans hfound)
            exact ⟨(), by simpa using hne, rfl, rfl, rfl, Except.ok.inj (hcall.symm.trans hother)⟩

/-- A call goes to an executor when it is to be run and its lane has a permit. -/
theorem mem_dispatched_executeInvocation (request : ToolRequest) (context : ToolInvocationContext)
    (call other : AdmittedCall) (world : World) :
    other ∈ (executeInvocation dependencies manager request context call world).dispatched ↔
      other = call ∧ call.toolIr.operation ≠ some .dryRun ∧
        call.toolIr.operation ≠ some .validateOnly ∧
        (acquireLaneForRoute manager.lanePool call.routeDecision call.timeoutView).1.acquired =
          true := by
  unfold executeInvocation
  split
  · next hdry => simp [answerWithoutExecution, hdry]
  split
  · next hvalidate => simp [answerWithoutExecution, hvalidate]
  · next hdry hvalidate =>
    simp only
    split
    · next hfull =>
      rw [Bool.not_eq_true'] at hfull
      simp [refuse, hfull]
    · next hacquired =>
      rw [Bool.not_eq_true', Bool.not_eq_false] at hacquired
      simp [dispatchInvocation, hacquired, hdry, hvalidate]

/-! ## The lane that serves a call -/

/-- The decision is for the route, and the call runs on it exactly when the lane is open. -/
structure Grants (pool : ExecutorLanePool) (timeoutView : ToolTimeoutView)
    (decision : ToolRouteDecision) (route : ToolIRRoute) (isOpen : Bool) : Prop where
  route_eq : decision.available = true → decision.route = route
  runs_iff : decision.available = true ∧
    (acquireLaneForRoute pool decision timeoutView).1.acquired = true ↔ isOpen = true

theorem grants_unavailable (reasonCode : Bytes) (route : ToolIRRoute) :
    Grants pool timeoutView (unavailable reasonCode) route false where
  route_eq := by simp [unavailable]
  runs_iff := by simp [unavailable]

/-- A decision for a lane that is reserved. -/
theorem grants_reserved {reservation : LaneReservation} {reasonCode : Bytes}
    (decision : ToolRouteDecision) (havailable : decision.available = true)
    (hlane : acquireLaneForRoute pool decision timeoutView = acquire pool reservation reasonCode) :
    Grants pool timeoutView
      (if !reservation.available then unavailable (str "RouteUnavailable") else decision)
      decision.route (acquire pool reservation reasonCode).1.acquired := by
  split
  · next hclosed =>
    rw [Bool.not_eq_true'] at hclosed
    rw [not_acquired hclosed]
    exact grants_unavailable pool timeoutView _ _
  · exact ⟨fun _ => rfl, by rw [hlane, and_iff_right havailable]⟩

theorem grants_builtin :
    Grants pool timeoutView (buildBuiltinDecision timeoutView) .localTool
      (acquireBuiltin pool timeoutView).1.acquired :=
  grants_reserved pool timeoutView _ rfl rfl

theorem grants_mcp (binding : MCPToolBinding) (usesStaleSnapshot : Bool) :
    Grants pool timeoutView (buildMcpDecision binding timeoutView usesStaleSnapshot) .mcpRemote
      (acquireMcp pool binding.serverId timeoutView).1.acquired :=
  grants_reserved pool timeoutView _ rfl rfl

theorem grants_workflow (descriptor : ToolDescriptor)
    (timeoutView : ToolTimeoutView) :
    Grants manager.lanePool timeoutView
      (selectWorkflowRoute descriptor timeoutView manager.routeHealth) .workflowEngine
      (laneOpen manager descriptor timeoutView .workflowEngine) := by
  unfold selectWorkflowRoute laneOpen
  cases manager.routeHealth.workflowLaneHealthy with
  | false => exact grants_unavailable ..
  | true =>
    simp only [Bool.not_true, Bool.false_eq_true, if_false, Bool.true_and]
    split
    · next hdisabled =>
      have hclosed : (!isAgentDelegation descriptor || timeoutView.multiAgentEnabled) = false := by
        simpa using hdisabled
      rw [hclosed]
      exact grants_unavailable ..
    · next hdisabled =>
      have henabled : (!isAgentDelegation descriptor || timeoutView.multiAgentEnabled) = true := by
        simpa [Decidable.imp_iff_not_or] using hdisabled
      rw [henabled, Bool.true_and]
      exact grants_reserved _ _ _ rfl rfl

/-- A call runs on the route that serves it, when the lane of that route is open. -/
theorem grants_selectRoute (toolIr : ToolIR) (descriptor : ToolDescriptor)
    (timeoutView : ToolTimeoutView) (bindings : List MCPToolBinding) {asked : ToolIRRoute}
    (hroute : toolIr.route = some asked)
    (hasked : isWorkflowLike descriptor = true ∨ asked = .localTool ∨ asked = .mcpRemote)
    (hcategory : descriptor.category ≠ none) :
    Grants manager.lanePool timeoutView
      (selectRoute toolIr descriptor timeoutView bindings manager.capabilitySnapshot
        manager.routeHealth)
      (servedRoute asked descriptor timeoutView bindings manager.capabilitySnapshot
        manager.routeHealth)
      (laneOpen manager descriptor timeoutView
        (servedRoute asked descriptor timeoutView bindings manager.capabilitySnapshot
          manager.routeHealth)) := by
  rw [selectRoute_eq toolIr descriptor timeoutView bindings manager.capabilitySnapshot
    manager.routeHealth hroute hasked hcategory]
  rcases servedRoute_cases asked descriptor timeoutView bindings manager.capabilitySnapshot
    manager.routeHealth with hserved | ⟨hserved, hserver⟩ | hserved
  · rw [hserved]
    exact grants_workflow manager descriptor timeoutView
  · rw [hserved]
    cases hsnapshot : manager.capabilitySnapshot with
    | none => simp [hsnapshot, mcpUsable] at hserver
    | some snapshot =>
      rw [hsnapshot] at hserver
      obtain ⟨binding, hserverId, hselected⟩ :=
        selectMcpRoute_usable timeoutView bindings manager.routeHealth hserver
      simp only [hselected, Option.getD_some, laneOpen, hsnapshot, Option.any_some, ← hserverId]
      exact grants_mcp manager.lanePool timeoutView binding _
  · rw [hserved]
    simp only [laneOpen]
    cases builtinUsable timeoutView manager.routeHealth with
    | false => exact grants_unavailable ..
    | true => exact grants_builtin manager.lanePool timeoutView

/-! ## Calls -/

/-- The route that serves a request for a tool. -/
def servedFor (dependencies : ToolManagerDependencies World) (manager : ToolManager)
    (request : ToolRequest) (descriptor : ToolDescriptor) (snapshot : RuntimePolicySnapshot) :
    ToolIRRoute :=
  servedRoute (buildRouteHint descriptor request) descriptor
    (timeoutViewOf dependencies manager snapshot)
    (listMcpBindings manager.registry (request.toolName.getD [])) manager.capabilitySnapshot
    manager.routeHealth

/-- A request that is resolved, valid, admitted for the route it asks for and to be run, and finds
the lane that serves it open. -/
structure Runs (dependencies : ToolManagerDependencies World) (manager : ToolManager)
    (request : ToolRequest) (context : ToolInvocationContext) (snapshot : RuntimePolicySnapshot)
    (descriptor : ToolDescriptor) (toolIr : ToolIR) : Prop where
  profile : context.profileSnapshot = some snapshot
  resolved : resolveDescriptor manager.registry (request.toolName.getD []) = some descriptor
  valid : validate request descriptor = .ok toolIr
  allowed : (evaluate
    (admissionRequest toolIr descriptor (request.toolName.getD []) context)
    (policyViewOf dependencies manager snapshot)).allowed = true
  operation : toolIr.operation = some .invoke
  lane : laneOpen manager descriptor (timeoutViewOf dependencies manager snapshot)
    (servedFor dependencies manager request descriptor snapshot) = true

/-- A request that runs gets the route it asks for, or one that is allowed and shows the tool too. -/
def RouteHonoured (dependencies : ToolManagerDependencies World) (manager : ToolManager)
    (request : ToolRequest) (context : ToolInvocationContext) : Prop :=
  ∀ snapshot descriptor toolIr,
    Runs dependencies manager request context snapshot descriptor toolIr →
      servedFor dependencies manager request descriptor snapshot =
          buildRouteHint descriptor request ∨
        ShownOn (admissionRequest toolIr descriptor (request.toolName.getD []) context)
          (policyViewOf dependencies manager snapshot)
          (routeKindString (servedFor dependencies manager request descriptor snapshot))

theorem route_of_valid {toolIr : ToolIR}
    (hvalid : Valid request descriptor toolIr) :
    toolIr.route = some (buildRouteHint descriptor request) ∧
      toolIr.toolName = request.toolName ∧ descriptor.category ≠ none ∧
      (isWorkflowLike descriptor = true ∨ buildRouteHint descriptor request = .localTool ∨
        buildRouteHint descriptor request = .mcpRemote) := by
  obtain ⟨operation, normalizedArguments, -, rfl⟩ := hvalid.call
  refine ⟨rfl, rfl, ?_, ?_⟩
  · intro hnone
    have := hvalid.kind
    simp [kindMatches, hnone] at this
  · unfold buildRouteHint isWorkflowLike
    split
    · simp
    · unfold routeOfCategory
      split <;> simp_all

theorem toolName_of_valid {toolIr : ToolIR}
    (hvalid : Valid request descriptor toolIr) : ∃ name, request.toolName = some name ∧ name ≠ [] := by
  obtain ⟨reason, haccepted⟩ := hvalid.descriptor_accepted
  rw [hvalid.toolName]
  exact (hasNonEmptyValue_iff _).mp (toolName_of_accepted haccepted)

theorem operation_of_valid {toolIr : ToolIR}
    (hvalid : Valid request descriptor toolIr) :
    toolIr.operation = some .invoke ↔
      toolIr.operation ≠ some .dryRun ∧ toolIr.operation ≠ some .validateOnly := by
  obtain ⟨operation, normalizedArguments, hoperation, rfl⟩ := hvalid.call
  unfold deriveOperation at hoperation
  simp only [injectDefaults] at hoperation ⊢
  split at hoperation
  · simp at hoperation
  split at hoperation
  · obtain rfl := Option.some.inj hoperation
    simp
  split at hoperation
  · obtain rfl := Option.some.inj hoperation
    simp
  · obtain rfl := Option.some.inj hoperation
    simp

theorem requestedDomain_of_route {toolIr : ToolIR} {asked : ToolIRRoute}
    (hroute : toolIr.route = some asked) (hasked : asked ≠ .unspecified)
    (descriptor : ToolDescriptor) :
    deriveRequestedDomain toolIr descriptor = some (routeKindString asked) := by
  unfold deriveRequestedDomain
  rw [hroute]
  cases asked with
  | unspecified => exact absurd rfl hasked
  | localTool => rfl
  | workflowEngine => rfl
  | mcpRemote => rfl

/-- A request that is resolved and admitted goes to an executor when its lane has a permit. -/
theorem mem_dispatched_of_admission (request : ToolRequest) (context : ToolInvocationContext)
    (call : AdmittedCall) (world : World) :
    call ∈ (invoke dependencies manager request context world).dispatched ↔
      ∃ snapshot name descriptor toolIr,
        resolveInvocation manager request context = .ok (snapshot, name, descriptor, toolIr) ∧
        admitAndRoute manager toolIr descriptor name context
          (policyViewOf dependencies manager snapshot)
          (timeoutViewOf dependencies manager snapshot) = .ok call ∧
        call.toolIr.operation ≠ some .dryRun ∧ call.toolIr.operation ≠ some .validateOnly ∧
        (acquireLaneForRoute manager.lanePool call.routeDecision call.timeoutView).1.acquired =
          true := by
  unfold invoke admitInvocation
  rcases hresolve : resolveInvocation manager request context with refusal | resolved
  · simp [refuse]
  · obtain ⟨snapshot, name, descriptor, toolIr⟩ := resolved
    rcases hviews : buildViews dependencies manager.configAdapter snapshot with
      ⟨policyView, timeoutView, adapter⟩
    have hpolicy : policyViewOf dependencies manager snapshot = policyView := by
      rw [policyViewOf, hviews]
    have htimeout : timeoutViewOf dependencies manager snapshot = timeoutView := by
      rw [timeoutViewOf, hviews]
    simp only [Except.ok.injEq, Prod.mk.injEq, hviews]
    constructor
    · intro hmem
      rcases hadmission : admitAndRoute manager toolIr descriptor name context policyView
          timeoutView with refusal | admitted
      · simp [hadmission, refuse] at hmem
      · rw [hadmission] at hmem
        obtain ⟨rfl, hrest⟩ := (mem_dispatched_executeInvocation dependencies _ request context
          admitted call world).mp hmem
        exact ⟨snapshot, name, descriptor, toolIr, ⟨rfl, rfl, rfl, rfl⟩,
          by rw [hpolicy, htimeout, hadmission], hrest⟩
    · rintro ⟨_, _, _, _, ⟨rfl, rfl, rfl, rfl⟩, hadmission, hrest⟩
      rw [hpolicy, htimeout] at hadmission
      rw [hadmission]
      exact (mem_dispatched_executeInvocation dependencies _ request context call call world).mpr
        ⟨rfl, hrest⟩

theorem mem_dispatched_invoke (request : ToolRequest) (context : ToolInvocationContext)
    (call : AdmittedCall) (world : World) :
    call ∈ (invoke dependencies manager request context world).dispatched ↔
      ∃ snapshot, Runs dependencies manager request context snapshot call.descriptor call.toolIr ∧
        call.policyView = policyViewOf dependencies manager snapshot ∧
        call.timeoutView = timeoutViewOf dependencies manager snapshot ∧
        call.routeDecision = selectRoute call.toolIr call.descriptor call.timeoutView
          (listMcpBindings manager.registry (request.toolName.getD [])) manager.capabilitySnapshot
          manager.routeHealth := by
  rw [mem_dispatched_of_admission]
  constructor
  · rintro ⟨snapshot, name, descriptor, toolIr, hresolve, hadmission, hdry, hvalidate, hacquired⟩
    obtain ⟨hprofile, hname, -, hdescriptor, hvalid⟩ :=
      (resolveInvocation_ok manager request context snapshot name descriptor toolIr).mp hresolve
    obtain ⟨hallowed, havailable, rfl⟩ := (admitAndRoute_ok manager toolIr descriptor name context
      _ _ call).mp hadmission
    obtain ⟨hroute, -, hcategory, hasked⟩ := route_of_valid (valid_of_validate hvalid)
    have hgrants := grants_selectRoute manager toolIr descriptor
      (timeoutViewOf dependencies manager snapshot) (listMcpBindings manager.registry name) hroute
      hasked hcategory
    refine ⟨snapshot, ?_, rfl, rfl, by rw [hname]; rfl⟩
    exact
      { profile := hprofile
        resolved := by rw [hname]; exact hdescriptor
        valid := hvalid
        allowed := by rw [hname]; exact hallowed
        operation := (operation_of_valid (valid_of_validate hvalid)).mpr ⟨hdry, hvalidate⟩
        lane := by
          rw [servedFor, hname]
          exact hgrants.runs_iff.mp ⟨havailable, hacquired⟩ }
  · rintro ⟨snapshot, hruns, hpolicy, htimeout, hdecision⟩
    have hvalid := valid_of_validate hruns.valid
    obtain ⟨name, hname, hne⟩ := toolName_of_valid hvalid
    obtain ⟨hroute, -, hcategory, hasked⟩ := route_of_valid hvalid
    obtain ⟨hdry, hvalidate⟩ := (operation_of_valid hvalid).mp hruns.operation
    have hresolved := hruns.resolved
    have hallowed := hruns.allowed
    have hlane := hruns.lane
    rw [servedFor] at hlane
    rw [htimeout] at hdecision
    rw [hname, Option.getD_some] at hresolved hallowed hlane hdecision
    obtain ⟨havailable, hacquired⟩ := (grants_selectRoute manager call.toolIr call.descriptor
      (timeoutViewOf dependencies manager snapshot) (listMcpBindings manager.registry name) hroute
      hasked hcategory).runs_iff.mpr hlane
    refine ⟨snapshot, name, call.descriptor, call.toolIr, ?_, ?_, hdry, hvalidate, ?_⟩
    · rw [resolveInvocation_ok]
      exact ⟨hruns.profile, hname, hne, hresolved, hruns.valid⟩
    · rw [admitAndRoute_ok]
      refine ⟨hallowed, by rw [hdecision]; exact havailable, ?_⟩
      rw [← hpolicy, ← htimeout] at *
      rw [← hdecision]
    · rw [hdecision, htimeout]
      exact hacquired

section
variable {dependencies manager} {context : ToolInvocationContext} {snapshot : RuntimePolicySnapshot}
  {toolIr : ToolIR}

theorem route_of_dispatched
    (hruns : Runs dependencies manager request context snapshot descriptor toolIr) :
    (selectRoute toolIr descriptor (timeoutViewOf dependencies manager snapshot)
      (listMcpBindings manager.registry (request.toolName.getD [])) manager.capabilitySnapshot
      manager.routeHealth).route = servedFor dependencies manager request descriptor snapshot := by
  obtain ⟨hroute, -, hcategory, hasked⟩ := route_of_valid (valid_of_validate hruns.valid)
  have hgrants := grants_selectRoute manager toolIr descriptor
    (timeoutViewOf dependencies manager snapshot)
    (listMcpBindings manager.registry (request.toolName.getD [])) hroute hasked hcategory
  exact hgrants.route_eq (hgrants.runs_iff.mpr hruns.lane).1

theorem shown_of_runs (hruns : Runs dependencies manager request context snapshot descriptor toolIr) :
    ShownOn (admissionRequest toolIr descriptor (request.toolName.getD []) context)
        (policyViewOf dependencies manager snapshot)
        (routeKindString (buildRouteHint descriptor request)) ∧
      ConfirmedIn (admissionRequest toolIr descriptor (request.toolName.getD []) context)
        (policyViewOf dependencies manager snapshot) := by
  obtain ⟨domain, hdomain, hshown, hconfirmed⟩ := shownOn_of_allowed hruns.allowed
  obtain ⟨hroute, -, -, -⟩ := route_of_valid (valid_of_validate hruns.valid)
  have hasked := requestedDomain_of_route hroute (buildRouteHint_ne_unspecified descriptor request)
    descriptor
  obtain rfl : domain = routeKindString (buildRouteHint descriptor request) := by
    simpa [admissionRequest, hasked] using hdomain.symm
  exact ⟨hshown, hconfirmed⟩

/-! ## Compensations -/

theorem resolveCompensation_ok {request : CompensationRequest} {capabilityId : Bytes}
    (h : resolveCompensation manager request context = .ok (snapshot, capabilityId, descriptor)) :
    descriptor.category = some .action := by
  unfold resolveCompensation at h
  split at h
  · simp only [bind_eq_ok, ensure_eq_ok] at h
    obtain ⟨_, -, h⟩ := h
    split at h
    · simp only [bind_eq_ok, ensure_eq_ok] at h
      obtain ⟨_, -, h⟩ := h
      split at h
      · simp only [bind_eq_ok, ensure_eq_ok, Bool.and_eq_true, decide_eq_true_eq, pure, Except.pure,
          Except.ok.injEq, Prod.mk.injEq] at h
        obtain ⟨_, ⟨-, hcategory⟩, -, -, rfl⟩ := h
        exact hcategory
      · simp at h
    · simp at h
  · simp at h

theorem compensationCall_route (request : CompensationRequest) (capabilityId : Bytes)
    (descriptor : ToolDescriptor) (snapshot : RuntimePolicySnapshot) (createdAt : Int64)
    (hcategory : descriptor.category = some .action) :
    (injectDefaults (syntheticRequest request capabilityId descriptor snapshot createdAt) descriptor
      .invoke (str "\x7b\x7d")).route = some .localTool := by
  have huntagged : hasTag (some [str "tool.compensation"]) kPreferMcpRouteTag = false := by decide
  simp [injectDefaults, buildRouteHint, syntheticRequest, huntagged, routeOfCategory, hcategory]

theorem admitCompensation_ok {capabilityId : Bytes} {synthetic : ToolRequest} {call : AdmittedCall}
    (h : (admitCompensation dependencies manager capabilityId descriptor snapshot synthetic
      context).1 = .ok call) :
    call.toolIr = injectDefaults synthetic descriptor .invoke (str "\x7b\x7d") ∧
      call.descriptor = descriptor ∧ call.routeDecision.route = .localTool ∧
      (evaluate (admissionRequest call.toolIr descriptor capabilityId context)
        call.policyView).allowed = true := by
  unfold admitCompensation at h
  simp only at h
  split at h
  · simp at h
  · simp only [bind_eq_ok] at h
    obtain ⟨admitted, hadmitted, h⟩ := h
    split at h
    · simp at h
    · next hlocal =>
      obtain rfl := Except.ok.inj h
      obtain ⟨hallowed, -, rfl⟩ := (admitAndRoute_ok manager _ descriptor capabilityId context _ _
        admitted).mp hadmitted
      rw [not_not] at hlocal
      exact ⟨rfl, rfl, hlocal, hallowed⟩

theorem mem_dispatched_compensate {request : CompensationRequest} {world : World}
    {call : AdmittedCall}
    (hcall : call ∈ (compensate dependencies manager request context world).dispatched) :
    ∃ snapshot capabilityId descriptor createdAt,
      resolveCompensation manager request context = .ok (snapshot, capabilityId, descriptor) ∧
      (admitCompensation dependencies manager capabilityId descriptor snapshot
        (syntheticRequest request capabilityId descriptor snapshot createdAt) context).1 =
          .ok call := by
  unfold compensate at hcall
  split at hcall
  · simp [refuse] at hcall
  · next snapshot capabilityId descriptor hresolve =>
    simp only at hcall
    split at hcall
    · simp [refuse] at hcall
    · next admitted hadmitted =>
      refine ⟨snapshot, capabilityId, descriptor, (dependencies.currentTimeMs world).1, hresolve, ?_⟩
      unfold executeCompensation at hcall
      simp only at hcall
      split at hcall
      · simp [refuse] at hcall
      · simp only [List.mem_singleton] at hcall
        rw [hcall]
        exact hadmitted

end

/-- A compensation runs on the builtin lane, which is the one that it was admitted on. -/
theorem compensate_admitted
    (request : CompensationRequest) (context : ToolInvocationContext) (world : World)
    (call : AdmittedCall)
    (hcall : call ∈ (compensate dependencies manager request context world).dispatched) :
    Admitted context call := by
  obtain ⟨snapshot, capabilityId, descriptor, createdAt, hresolve, hadmitted⟩ :=
    mem_dispatched_compensate hcall
  obtain ⟨hcallIr, hdescriptor, hlocal, hallowed⟩ := admitCompensation_ok hadmitted
  have hroute := compensationCall_route request capabilityId descriptor snapshot createdAt
    (resolveCompensation_ok hresolve)
  obtain ⟨domain, hdomain, hshown, hconfirmed⟩ := shownOn_of_allowed hallowed
  have hbuiltin := requestedDomain_of_route (hcallIr ▸ hroute) (by simp) descriptor
  obtain rfl : domain = routeKindString .localTool := by
    simpa [admissionRequest, hbuiltin] using hdomain.symm
  have hname : call.toolIr.toolName = some capabilityId := by rw [hcallIr]; rfl
  constructor
  · rw [hname, hdescriptor, hlocal]
    exact hshown
  · rw [hname, hdescriptor]
    exact hconfirmed

/-- Every call that is dispatched is admitted on its route when the request gets the route it asks
for or one that is allowed too, and not otherwise. Compensations are always admitted on their route. -/
theorem dispatched_admitted_iff (dependencies : ToolManagerDependencies World)
    (manager : ToolManager) (request : ToolRequest) (compensation : CompensationRequest)
    (context : ToolInvocationContext) (world : World) :
    ((∀ call ∈ (invoke dependencies manager request context world).dispatched,
        Admitted context call) ↔ RouteHonoured dependencies manager request context) ∧
      ∀ call ∈ (compensate dependencies manager compensation context world).dispatched,
        Admitted context call := by
  refine ⟨?_, compensate_admitted dependencies manager compensation context world⟩
  constructor
  · intro hall snapshot descriptor toolIr hruns
    right
    have hname := (route_of_valid (valid_of_validate hruns.valid)).2.1
    have hadmitted := hall _ ((mem_dispatched_invoke dependencies manager request context
      { toolIr, descriptor
        policyView := policyViewOf dependencies manager snapshot
        timeoutView := timeoutViewOf dependencies manager snapshot
        routeDecision := selectRoute toolIr descriptor
          (timeoutViewOf dependencies manager snapshot)
          (listMcpBindings manager.registry (request.toolName.getD [])) manager.capabilitySnapshot
          manager.routeHealth } world).mpr ⟨snapshot, hruns, rfl, rfl, rfl⟩)
    have hshown := hadmitted.shown
    rw [route_of_dispatched hruns, hname] at hshown
    exact hshown
  · intro hhonoured call hcall
    obtain ⟨snapshot, hruns, hpolicy, htimeout, hdecision⟩ :=
      (mem_dispatched_invoke dependencies manager request context call world).mp hcall
    have hname := (route_of_valid (valid_of_validate hruns.valid)).2.1
    obtain ⟨hshown, hconfirmed⟩ := shown_of_runs hruns
    have hroute := route_of_dispatched hruns
    rw [← htimeout, ← hdecision] at hroute
    constructor
    · rw [hroute, hname, hpolicy]
      rcases hhonoured snapshot call.descriptor call.toolIr hruns with hsame | hother
      · rw [hsame]
        exact hshown
      · exact hother
    · rw [hname, hpolicy]
      exact hconfirmed

/-! ## A call that falls back to a server -/

def lookupTool : ToolDescriptor where
  toolName := some (str "lookup")
  category := some .information

def lookupBinding : MCPToolBinding where
  internalToolName := str "lookup"
  remoteToolName := str "remote.lookup"
  serverId := str "server"

/-- The builtin lane is not healthy, and a server has the tool. -/
def fallbackManager : ToolManager where
  registry := ((initialSnapshot [lookupTool]).upsertMcpBindings (str "source") [lookupBinding]).1
  routeHealth := { builtinLaneHealthy := false }
  capabilitySnapshot := some
    { serverId := str "server"
      entries :=
        [{ capabilityId := str "capability", capabilityVersion := str "1",
           toolNames := [str "remote.lookup"] }]
      freshness := .fresh }

/-- Only the builtin domain is allowed. -/
def builtinOnlyProfile : RuntimePolicySnapshot where
  generation := 1
  effectiveProfileId := str "profile"
  runtimeBudget :=
    { maxTokens := some 1, maxTurns := some 1, maxToolCalls := some 1, maxLatencyMs := some 1,
      maxReplanCount := some 1 }
  modelProfile := { stageRoutes := AList.singleton (str "stage") { route := str "route" } }
  tokenBudgetPolicy :=
    { maxInputTokens := 1, maxOutputTokens := 1, maxHistoryTurns := 1, compressionThreshold := 1 }
  promptPolicy :=
    { allowedPromptReleases := [str "release"], trustedSources := [str "source"],
      toolVisibilityRules := [str "builtin:all"] }
  capabilityCachePolicy := { refreshIntervalMs := 1, expireAfterMs := 1 }
  degradePolicy := { fallbackChain := [str "chain"] }
  timeoutPolicy :=
    { llm := { timeoutMs := 1, circuitBreakerThreshold := 1 }
      tool := { timeoutMs := 1, circuitBreakerThreshold := 1 }
      mcp := { timeoutMs := 1, circuitBreakerThreshold := 1 }
      workflow := { timeoutMs := 1, circuitBreakerThreshold := 1 } }
  executionPolicy := { auditLevel := str "full", allowedToolDomains := [str "builtin"] }
  opsPolicy :=
    { logLevel := str "info", metricsGranularity := str "minimal", upgradeStrategy := str "manual" }

def lookupRequest : ToolRequest where
  requestId := some (str "request")
  toolCallId := some (str "call")
  toolName := some (str "lookup")
  invocationKind := some .informationQuery
  argumentsPayload := some (str "\x7b\x7d")
  createdAt := some 1

def silentDependencies : ToolManagerDependencies Unit where
  buildManifest :=
    { enabledModules := [str "tools_builtin", str "tools_mcp"], observabilityLevel := str "minimal" }
  executor := fun _ world => ({}, world)
  compensationExecutor := fun _ _ _ world => ({}, world)
  workflowEngine := { currentTimeMs := fun world => (1, world) }
  currentTimeMs := fun world => (1, world)
  hashId := fun _ => 0

theorem fallback_dispatched :
    (invoke silentDependencies fallbackManager lookupRequest
      { profileSnapshot := some builtinOnlyProfile } ()).dispatched.map
        (fun call => (call.routeDecision.route, call.policyView.allowedToolDomains)) =
      [(.mcpRemote, [str "builtin"])] := by
  decide +kernel

theorem fallback_unadmitted :
    ¬∀ call ∈ (invoke silentDependencies fallbackManager lookupRequest
      { profileSnapshot := some builtinOnlyProfile } ()).dispatched,
      Admitted { profileSnapshot := some builtinOnlyProfile } call := by
  intro hall
  have hmem : ((.mcpRemote, [str "builtin"]) : ToolIRRoute × List Bytes) ∈
      (invoke silentDependencies fallbackManager lookupRequest
        { profileSnapshot := some builtinOnlyProfile } ()).dispatched.map
          (fun call => (call.routeDecision.route, call.policyView.allowedToolDomains)) := by
    rw [fallback_dispatched]
    exact List.mem_singleton.mpr rfl
  obtain ⟨call, hcall, hsame⟩ := List.mem_map.mp hmem
  obtain ⟨hroute, hdomains⟩ := Prod.mk.inj hsame
  have hallowed := (hall call hcall).shown.allowed
  rw [hroute, hdomains] at hallowed
  revert hallowed
  decide

end Dasall.Tools.Manager
