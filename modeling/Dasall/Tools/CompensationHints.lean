import Dasall.Tools.Execution.WorkflowRuns
import Dasall.Tools.RouteAdmission

/-!
# Compensation hints

A hint is written from the tool name and the id of a result with side effects. A compensation that
is asked for with the hint reads them back.
-/

open Dasall.Contracts Dasall.Contracts.Tool Dasall.Infra.Policy Dasall.Lib.Guard Dasall.Lib.Text
  Dasall.Profiles Dasall.Tools.Bridge Dasall.Tools.Config Dasall.Tools.Execution
  Dasall.Tools.Policy Dasall.Tools.Registry Dasall.Tools.Route Dasall.Tools.Validation

namespace Dasall.Tools.Manager

variable {World : Type}

/-- What a hint is written from. -/
structure HintSource where
  capabilityId : Bytes
  targetId : Bytes
  reasonCode : Bytes
  evidenceRefs : List Bytes
deriving DecidableEq

def HintSource.hint (source : HintSource) : ToolCompensationHint where
  compensationAction := some source.capabilityId
  targetRef := some (formatCompensationTargetRef source.capabilityId source.targetId)
  reasonCode := some source.reasonCode
  evidenceRefs := some source.evidenceRefs

/-! ## The sources of the hints -/

def resultSource (result : ToolResult) : HintSource where
  capabilityId := result.toolName.getD (str "unknown_tool")
  targetId := result.toolCallId.getD
    (str "builtin:" ++ result.toolName.getD (str "unknown_tool"))
  reasonCode := str "tool.manager.compensation_available"
  evidenceRefs := result.sideEffects.getD []

def receiptSource (stepReceipt : WorkflowStepReceipt) : HintSource where
  capabilityId := stepReceipt.result.toolName.getD stepReceipt.stepId
  targetId := stepReceipt.result.toolCallId.getD stepReceipt.stepId
  reasonCode := str "workflow.compensation_available"
  evidenceRefs := collectEvidenceRefs stepReceipt.stepId stepReceipt.result

/-- The result that the executor gives for a call, with what it lacks. -/
def resultOf (dependencies : ToolManagerDependencies World) (request : ToolRequest)
    (context : ToolInvocationContext) (world : World) (call : AdmittedCall) : ToolResult :=
  let (raw, world) := dependencies.executor
    { toolIr := call.toolIr, routeDecision := call.routeDecision, invocationContext := context } world
  normalizeResult request call.toolIr raw (completionTime dependencies raw world).1

/-- A result with side effects of a tool that supports compensation. -/
def toolSources (dependencies : ToolManagerDependencies World) (request : ToolRequest)
    (context : ToolInvocationContext) (world : World) (call : AdmittedCall) : List HintSource :=
  let result := resultOf dependencies request context world call
  if call.descriptor.supportsCompensation.getD false && !(result.sideEffects.getD []).isEmpty then
    [resultSource result]
  else []

/-- The steps of the plan that had side effects and can be compensated, the last first. -/
def workflowSources (dependencies : WorkflowEngineDependencies World) (workflowIr : ToolIR)
    (world : World) : List HintSource :=
  match dependencies.planLoader with
  | none => []
  | some planLoader =>
    let (load, world) := planLoader workflowIr world
    match load.plan with
    | none => []
    | some plan =>
      ((executePlan dependencies plan workflowIr world).1.receipt.stepResults.reverse.filter
        (compensable plan)).map receiptSource

def hintSources (dependencies : ToolManagerDependencies World) (request : ToolRequest)
    (context : ToolInvocationContext) (world : World) (call : AdmittedCall) : List HintSource :=
  if call.routeDecision.route = .workflowEngine then
    workflowSources dependencies.workflowEngine call.toolIr world
  else toolSources dependencies request context world call

/-! ## The hints of an answer -/

theorem hints_of_result (result : ToolResult) (hname : result.toolName ≠ none) :
    (buildCompensationHints result).getD [] =
      if !(result.sideEffects.getD []).isEmpty then [(resultSource result).hint] else [] := by
  unfold buildCompensationHints
  cases hempty : (result.sideEffects.getD []).isEmpty with
  | true => simp
  | false =>
    obtain ⟨name, hsome⟩ := Option.ne_none_iff_exists'.mp hname
    cases heffects : result.sideEffects with
    | none => simp [heffects] at hempty
    | some effects => simp [resultSource, HintSource.hint, hsome, heffects]

theorem hints_of_finalizeReceipt (dependencies : WorkflowEngineDependencies World)
    (receipt : WorkflowReceipt) (workflowIr : ToolIR) (world : World) :
    (finalizeReceipt dependencies receipt workflowIr world).1.compensationHints.getD [] =
      receipt.compensationHints := by
  unfold finalizeReceipt
  simp only
  split
  · next hempty => simpa using (List.isEmpty_iff.mp hempty).symm
  · rfl

theorem hints_of_executePlan (dependencies : WorkflowEngineDependencies World)
    (plan : WorkflowPlan) (workflowIr : ToolIR) (world : World) :
    (executePlan dependencies plan workflowIr world).1.compensationHints.getD [] =
      (executePlan dependencies plan workflowIr world).1.receipt.compensationHints := by
  unfold executePlan
  simp only
  split
  · exact hints_of_finalizeReceipt dependencies _ workflowIr world
  · exact hints_of_finalizeReceipt dependencies _ workflowIr _

theorem hints_of_plan (dependencies : WorkflowEngineDependencies World) (plan : WorkflowPlan)
    (workflowIr : ToolIR) (world : World) :
    (executePlan dependencies plan workflowIr world).1.compensationHints.getD [] =
      (((executePlan dependencies plan workflowIr world).1.receipt.stepResults.reverse.filter
        (compensable plan)).map receiptSource).map HintSource.hint := by
  rw [hints_of_executePlan, List.map_map]
  cases hok : (buildBatches plan).ok with
  | true => exact (safeRun_executePlan dependencies plan workflowIr world hok).hints
  | false =>
    have hrefused := refusedRun_executePlan dependencies plan workflowIr world hok
    rw [hrefused.hints, hrefused.stepResults]
    rfl

theorem hints_of_workflow (dependencies : WorkflowEngineDependencies World) (workflowIr : ToolIR)
    (world : World) :
    (Execution.execute dependencies workflowIr world).1.compensationHints.getD [] =
      (workflowSources dependencies workflowIr world).map HintSource.hint := by
  unfold Execution.execute workflowSources
  cases dependencies.planLoader with
  | none => rfl
  | some planLoader =>
    simp only
    cases (planLoader workflowIr world).1.plan with
    | none => rfl
    | some plan => exact hints_of_plan dependencies plan workflowIr _

variable (dependencies : ToolManagerDependencies World) (manager : ToolManager)
  (request : ToolRequest)

theorem normalizeResult_toolName (toolIr : ToolIR) (result : ToolResult)
    (completedAt : Int64) (hname : toolIr.toolName ≠ none) :
    (normalizeResult request toolIr result completedAt).toolName ≠ none := by
  obtain ⟨name, hsome⟩ := Option.ne_none_iff_exists'.mp hname
  unfold normalizeResult
  cases hresult : result.toolName with
  | none => simp [hsome]
  | some resultName => simp

theorem hints_of_dispatched (context : ToolInvocationContext) (call : AdmittedCall)
    (laneKey : Bytes) (world : World) (hname : call.toolIr.toolName ≠ none) :
    (dispatchInvocation dependencies manager request context call laneKey
        world).envelope.compensationHints.getD [] =
      (hintSources dependencies request context world call).map HintSource.hint := by
  unfold dispatchInvocation hintSources
  by_cases hworkflow : call.routeDecision.route = .workflowEngine
  · simp only [if_pos hworkflow, executeWorkflow, finishInvocation, ← hints_of_workflow]
    cases (Execution.execute dependencies.workflowEngine call.toolIr
        world).1.compensationHints with
    | none => simp [hworkflow]
    | some hints => simp
  · simp only [if_neg hworkflow, executeTool, finishInvocation, toolSources]
    cases call.descriptor.supportsCompensation.getD false with
    | false => simp
    | true =>
      rw [if_pos (by simpa using hworkflow),
        hints_of_result _ (normalizeResult_toolName request call.toolIr _ _ hname)]
      simp only [Bool.true_and, resultOf]
      split <;> rfl

theorem hints_of_unexecuted (call : AdmittedCall) (modeTag : Bytes) (world : World) :
    (answerWithoutExecution dependencies manager request call modeTag
      world).envelope.compensationHints.getD [] = [] := by
  simp [answerWithoutExecution, finishInvocation, normalizeResult, buildNonExecutionResult,
    buildCompensationHints]

theorem hints_of_invoke (context : ToolInvocationContext) (world : World) :
    (invoke dependencies manager request context world).envelope.compensationHints.getD [] =
      ((invoke dependencies manager request context world).dispatched.flatMap
        (hintSources dependencies request context world)).map HintSource.hint := by
  unfold invoke admitInvocation
  rcases hresolve : resolveInvocation manager request context with refusal | resolved
  · simp [refuse, buildFailureEnvelope]
  · obtain ⟨snapshot, name, descriptor, toolIr⟩ := resolved
    rcases hviews : buildViews dependencies manager.configAdapter snapshot with
      ⟨policyView, timeoutView, adapter⟩
    simp only [hviews]
    rcases hadmission : admitAndRoute manager toolIr descriptor name context policyView
        timeoutView with refusal | call
    · simp [refuse, buildFailureEnvelope]
    · simp only
      have hname : call.toolIr.toolName ≠ none := by
        obtain ⟨-, hrequest, -, -, hvalid⟩ := (resolveInvocation_ok manager request context snapshot
          name descriptor toolIr).mp hresolve
        obtain ⟨-, -, rfl⟩ := (admitAndRoute_ok manager toolIr descriptor name context policyView
          timeoutView call).mp hadmission
        simp [(route_of_valid (valid_of_validate hvalid)).2.1, hrequest]
      unfold executeInvocation
      split
      · rw [hints_of_unexecuted]
        rfl
      split
      · rw [hints_of_unexecuted]
        rfl
      · simp only
        split
        · simp [refuse, buildFailureEnvelope]
        · rw [hints_of_dispatched dependencies _ request context call _ world hname]
          simp [dispatchInvocation]

/-! ## Asking for a compensation with a hint -/

/-- The request that a hint is for. A hint has no call id of its own. -/
def requestOfHint (hint : ToolCompensationHint) (toolCallId : Option Bytes) : CompensationRequest where
  toolCallId := toolCallId
  compensationAction := hint.compensationAction
  targetRef := hint.targetRef
  reasonCode := hint.reasonCode
  evidenceRefs := hint.evidenceRefs

/-- The reasons that have to do with the target. -/
def targetReasons : List Bytes :=
  [str "tool.manager.compensation_target_invalid", str "tool.manager.descriptor_missing",
    str "tool.manager.compensation_unsupported"]

def RejectedWith (answer : Answer World) (reason : Bytes) : Prop :=
  answer.dispatched = [] ∧ answer.envelope.failureReasonCode = some reason

/-- The target of the hint is what it was written from, and a compensation with the hint, on the same
registry, is not rejected for its target. -/
structure Honoured (dependencies : ToolManagerDependencies World) (registry : ToolRegistrySnapshot)
    (source : HintSource) : Prop where
  resolves : source.hint.targetRef.bind resolveCompensationTarget =
    some { capabilityId := source.capabilityId, targetId := source.targetId }
  accepted : ∀ (manager : ToolManager) (toolCallId : Option Bytes)
    (context : ToolInvocationContext) (world : World), manager.registry = registry →
      ∀ reason ∈ targetReasons,
        ¬RejectedWith (compensate dependencies manager (requestOfHint source.hint toolCallId) context
          world) reason

/-- The tool is registered under a name without a slash as an action that can be compensated, and the
call has an id. -/
structure Compensable (registry : ToolRegistrySnapshot) (source : HintSource) : Prop where
  named : source.capabilityId ≠ []
  unslashed : 47 ∉ source.capabilityId
  identified : source.targetId ≠ []
  registered : ∃ descriptor, resolveDescriptor registry source.capabilityId = some descriptor ∧
    descriptor.supportsCompensation = some true ∧ descriptor.category = some .action

theorem resolveCompensation_of_target (request : CompensationRequest)
    {context : ToolInvocationContext} {snapshot : RuntimePolicySnapshot}
    {target : CompensationTargetRef} (hprofile : context.profileSnapshot = some snapshot)
    (hfields : (hasNonEmptyValue request.toolCallId &&
      hasNonEmptyValue request.compensationAction && hasNonEmptyValue request.targetRef &&
      hasNonEmptyValue request.reasonCode) = true)
    (htarget : resolveCompensationTarget (request.targetRef.getD []) = some target)
    (hnamed : target.capabilityId ≠ []) :
    resolveCompensation manager request context =
      match resolveDescriptor manager.registry target.capabilityId with
      | none => .error (compensationRefusal .toolExecutionFailed "tool.manager.descriptor_missing"
          "tools.manager.resolve")
      | some descriptor =>
        if descriptor.supportsCompensation.getD false && descriptor.category = some .action then
          .ok (snapshot, target.capabilityId, descriptor)
        else
          .error (compensationRefusal .toolExecutionFailed "tool.manager.compensation_unsupported") := by
  have hne : (!target.capabilityId.isEmpty) = true := by simpa using hnamed
  unfold resolveCompensation
  rw [hprofile]
  simp only [hfields, htarget, hne, ensure, if_true]
  cases resolveDescriptor manager.registry target.capabilityId with
  | none => rfl
  | some descriptor =>
    simp only [bind, Except.bind]
    cases descriptor.supportsCompensation.getD false && decide (descriptor.category = some .action) with
    | true => rfl
    | false => rfl

/-- A compensation that is not resolved is rejected for the reason of the refusal. -/
theorem rejected_of_unresolved {dependencies : ToolManagerDependencies World}
    {manager : ToolManager} {request : CompensationRequest} {context : ToolInvocationContext}
    {world : World} {refusal : Refusal}
    (h : resolveCompensation manager request context = .error refusal) :
    RejectedWith (compensate dependencies manager request context world) refusal.reasonCode := by
  unfold compensate
  rw [h]
  exact ⟨rfl, rfl⟩

theorem format_ne_nil {capabilityId : Bytes} (targetId : Bytes) (hnamed : capabilityId ≠ []) :
    formatCompensationTargetRef capabilityId targetId ≠ [] := by
  have hempty : capabilityId.isEmpty = false := by simpa using hnamed
  unfold formatCompensationTargetRef
  rw [hempty]
  simp only [Bool.false_eq_true, if_false]
  split <;> simp [hnamed]

variable {context : ToolInvocationContext} {snapshot : RuntimePolicySnapshot} {source : HintSource}

theorem resolveCompensation_of_hint (hprofile : context.profileSnapshot = some snapshot)
    (hreason : source.reasonCode ≠ []) (hnamed : source.capabilityId ≠ [])
    (hslash : 47 ∉ source.capabilityId) (hid : source.targetId ≠ []) :
    resolveCompensation manager (requestOfHint source.hint (some (str "call"))) context =
      match resolveDescriptor manager.registry source.capabilityId with
      | none => .error (compensationRefusal .toolExecutionFailed "tool.manager.descriptor_missing"
          "tools.manager.resolve")
      | some descriptor =>
        if descriptor.supportsCompensation.getD false && descriptor.category = some .action then
          .ok (snapshot, source.capabilityId, descriptor)
        else
          .error (compensationRefusal .toolExecutionFailed
            "tool.manager.compensation_unsupported") := by
  have htarget := (resolve_format_iff source.capabilityId source.targetId).mpr ⟨hnamed, hslash, hid⟩
  have hcall : str "call" ≠ [] := by decide
  have hfields : (hasNonEmptyValue (some (str "call")) &&
      hasNonEmptyValue (some source.capabilityId) &&
      hasNonEmptyValue (some (formatCompensationTargetRef source.capabilityId source.targetId)) &&
      hasNonEmptyValue (some source.reasonCode)) = true := by
    simp [hcall, hasNonEmptyValue, hnamed, hreason, format_ne_nil source.targetId hnamed]
  exact resolveCompensation_of_target manager (requestOfHint source.hint (some (str "call"))) hprofile
    hfields htarget hnamed

section
variable {dependencies manager} {descriptor : ToolDescriptor} {refusal : Refusal} {world : World}

theorem compensable_of_honoured (hprofile : context.profileSnapshot = some snapshot) (world : World)
    (hreason : source.reasonCode ≠ []) (h : Honoured dependencies manager.registry source) :
    Compensable manager.registry source := by
  have hresolves := h.resolves
  rw [HintSource.hint, Option.bind_some, resolve_format_iff] at hresolves
  obtain ⟨hnamed, hslash, hid⟩ := hresolves
  refine ⟨hnamed, hslash, hid, ?_⟩
  have hresolve := resolveCompensation_of_hint manager hprofile hreason hnamed hslash hid
  have hrejected : ∀ refusal, resolveCompensation manager
      (requestOfHint source.hint (some (str "call"))) context = .error refusal →
        refusal.reasonCode ∉ targetReasons := by
    intro refusal hrefused hmem
    exact h.accepted manager (some (str "call")) context world rfl _ hmem
      (rejected_of_unresolved hrefused)
  cases hdescriptor : resolveDescriptor manager.registry source.capabilityId with
  | none =>
    simp only [hdescriptor] at hresolve
    exact absurd (by decide) (hrejected _ hresolve)
  | some descriptor =>
    simp only [hdescriptor] at hresolve
    split at hresolve
    · next hsupported =>
      rw [Bool.and_eq_true, decide_eq_true_eq] at hsupported
      refine ⟨descriptor, rfl, ?_, hsupported.2⟩
      cases hsupports : descriptor.supportsCompensation with
      | none => simp [hsupports] at hsupported
      | some supports => simpa [hsupports] using hsupported.1
    · exact absurd (by decide) (hrejected _ hresolve)

/-! ## Why a compensation is refused otherwise -/

theorem admitAndRoute_refusal {toolIr : ToolIR} {name : Bytes} {policyView : ToolPolicyView}
    {timeoutView : ToolTimeoutView}
    (h : admitAndRoute manager toolIr descriptor name context policyView timeoutView = .error
      refusal) :
    refusal.reasonCode ∈ policyReasons ∨ refusal.reasonCode ∈ unavailableReasons := by
  unfold admitAndRoute at h
  simp only at h
  split at h
  · obtain rfl := Except.error.inj h
    exact Or.inl (evaluate_reason _ policyView)
  split at h
  · next hclosed =>
    obtain rfl := Except.error.inj h
    rw [Bool.not_eq_true'] at hclosed
    exact Or.inr (explained_selectRoute _ _ _ _ _ _ hclosed)
  · simp at h

theorem admitCompensation_refusal {capabilityId : Bytes} {synthetic : ToolRequest}
    (h : (admitCompensation dependencies manager capabilityId descriptor snapshot synthetic
      context).1 = .error refusal) : refusal.reasonCode ∉ targetReasons := by
  have hpolicy : ∀ reason ∈ policyReasons, reason ∉ targetReasons := by decide
  have hroute : ∀ reason ∈ unavailableReasons, reason ∉ targetReasons := by decide
  unfold admitCompensation at h
  simp only at h
  split at h
  · obtain rfl := Except.error.inj h
    decide
  · simp only at h
    rcases hadmission : admitAndRoute manager
        (injectDefaults synthetic descriptor .invoke (str "\x7b\x7d")) descriptor capabilityId context
        (buildViews dependencies manager.configAdapter snapshot).1
        (buildViews dependencies manager.configAdapter snapshot).2.1 with other | call
    · simp only [hadmission, bind, Except.bind] at h
      obtain rfl := Except.error.inj h
      rcases admitAndRoute_refusal hadmission with hmem | hmem
      · exact hpolicy _ hmem
      · exact hroute _ hmem
    · simp only [hadmission, bind, Except.bind] at h
      split at h
      · obtain rfl := Except.error.inj h
        exact (by decide : str "tool.manager.compensation_route_unsupported" ∉ targetReasons)
      · simp at h

/-- A hint for what can be compensated is resolved, or lacks something else than its target. -/
theorem resolveCompensation_refusal {toolCallId : Option Bytes}
    (hsource : Compensable manager.registry source)
    (h : resolveCompensation manager (requestOfHint source.hint toolCallId) context = .error
      refusal) : refusal.reasonCode ∉ targetReasons := by
  have htarget : resolveCompensationTarget
      ((requestOfHint source.hint toolCallId).targetRef.getD []) =
        some { capabilityId := source.capabilityId, targetId := source.targetId } :=
    (resolve_format_iff source.capabilityId source.targetId).mpr
      ⟨hsource.named, hsource.unslashed, hsource.identified⟩
  unfold resolveCompensation at h
  cases hprofile : context.profileSnapshot with
  | none =>
    simp only [hprofile] at h
    obtain rfl := Except.error.inj h
    decide
  | some snapshot =>
    cases hfields : hasNonEmptyValue (requestOfHint source.hint toolCallId).toolCallId &&
        hasNonEmptyValue (requestOfHint source.hint toolCallId).compensationAction &&
        hasNonEmptyValue (requestOfHint source.hint toolCallId).targetRef &&
        hasNonEmptyValue (requestOfHint source.hint toolCallId).reasonCode with
    | false =>
      simp only [hprofile, hfields] at h
      obtain rfl := Except.error.inj h
      decide
    | true =>
      obtain ⟨descriptor, hdescriptor, hsupports, hcategory⟩ := hsource.registered
      have hresolve := resolveCompensation_of_target manager
        (requestOfHint source.hint toolCallId) hprofile hfields htarget hsource.named
      unfold resolveCompensation at hresolve
      rw [h] at hresolve
      simp [hdescriptor, hsupports, hcategory] at hresolve

theorem executeCompensation_unrejected {request : CompensationRequest} {synthetic : ToolRequest}
    {reason : Bytes} (hreason : reason ∈ targetReasons) :
    ¬RejectedWith (executeCompensation dependencies manager request synthetic context call world)
      reason := by
  rintro ⟨hnone, hfailure⟩
  unfold executeCompensation at hnone hfailure
  simp only at hnone hfailure
  split at hnone
  · next hfull =>
    rw [if_pos hfull] at hfailure
    rw [Bool.not_eq_true'] at hfull
    have hlane : (acquireBuiltin manager.lanePool call.timeoutView).1.reasonCode =
        backpressureReasonCode .builtin := reason_of_not_acquired hfull
    simp only [refuse, buildCompensationFailureEnvelope, Option.some.injEq] at hfailure
    rw [← hfailure, hlane] at hreason
    revert hreason
    decide
  · simp at hnone

end

theorem compensate_unrejected
    (source : HintSource) (toolCallId : Option Bytes) (context : ToolInvocationContext)
    (world : World) (hsource : Compensable manager.registry source) (reason : Bytes)
    (hreason : reason ∈ targetReasons) :
    ¬RejectedWith (compensate dependencies manager (requestOfHint source.hint toolCallId) context
      world) reason := by
  unfold compensate
  split
  · next refusal hrefused =>
    rintro ⟨-, hfailure⟩
    simp only [refuse, buildCompensationFailureEnvelope, Option.some.injEq] at hfailure
    exact resolveCompensation_refusal hsource hrefused (hfailure ▸ hreason)
  · simp only
    split
    · next refusal hrefused =>
      rintro ⟨-, hfailure⟩
      simp only [refuse, buildCompensationFailureEnvelope, Option.some.injEq] at hfailure
      exact admitCompensation_refusal hrefused (hfailure ▸ hreason)
    · exact executeCompensation_unrejected hreason

theorem honoured_of_compensable
    {registry : ToolRegistrySnapshot} {source : HintSource} (h : Compensable registry source) :
    Honoured dependencies registry source where
  resolves := (resolve_format_iff source.capabilityId source.targetId).mpr
    ⟨h.named, h.unslashed, h.identified⟩
  accepted manager toolCallId context world hregistry :=
    compensate_unrejected dependencies manager source toolCallId context world (hregistry ▸ h)

theorem reasonCode_of_source {dependencies : ToolManagerDependencies World} {request : ToolRequest}
    {world : World} {call : AdmittedCall}
    (h : source ∈ hintSources dependencies request context world call) :
    source.reasonCode ≠ [] := by
  unfold hintSources at h
  split at h
  · unfold workflowSources at h
    split at h
    · simp at h
    · simp only at h
      split at h
      · simp at h
      · obtain ⟨stepReceipt, -, rfl⟩ := List.mem_map.mp h
        exact (by decide : str "workflow.compensation_available" ≠ [])
  · unfold toolSources at h
    simp only at h
    split at h
    · obtain rfl := List.mem_singleton.mp h
      exact (by decide : str "tool.manager.compensation_available" ≠ [])
    · simp at h

/-- The hints of an answer are written from the results that a call reports. All of them are honoured
when every one of these results is of a tool that can be compensated, and otherwise not all are. -/
theorem hints_honoured_iff (dependencies : ToolManagerDependencies World) (manager : ToolManager)
    (request : ToolRequest) (context : ToolInvocationContext) (world : World) :
    let answer := invoke dependencies manager request context world
    let sources := answer.dispatched.flatMap (hintSources dependencies request context world)
    answer.envelope.compensationHints.getD [] = sources.map HintSource.hint ∧
      ((∀ source ∈ sources, Honoured dependencies manager.registry source) ↔
        ∀ source ∈ sources, Compensable manager.registry source) := by
  refine ⟨hints_of_invoke dependencies manager request context world, ?_⟩
  constructor
  · intro hhonoured source hsource
    obtain ⟨call, hcall, hmem⟩ := List.mem_flatMap.mp hsource
    obtain ⟨snapshot, hruns, -⟩ :=
      (mem_dispatched_invoke dependencies manager request context call world).mp hcall
    exact compensable_of_honoured hruns.profile world (reasonCode_of_source hmem)
      (hhonoured source hsource)
  · intro hcompensable source hsource
    exact honoured_of_compensable dependencies (hcompensable source hsource)

/-! ## A tool with a slash in its name -/

def slashedTool : ToolDescriptor where
  toolName := some (str "files/write")
  category := some .action
  supportsCompensation := some true

def slashedManager : ToolManager where
  registry := initialSnapshot [slashedTool]

def writingDependencies : ToolManagerDependencies Unit :=
  { silentDependencies with
    executor := fun _ world => ({ sideEffects := some [str "file written"] }, world) }

def slashedRequest : ToolRequest :=
  { lookupRequest with
    toolName := some (str "files/write")
    invocationKind := some .action }

def confirmedContext : ToolInvocationContext where
  profileSnapshot := some builtinOnlyProfile
  confirmationFacts := some
    [{ confirmationId := some (str "confirmation"), subjectRef := some (str "subject"),
       proofType := some (str "proof"), confirmedAtMs := some 1 }]

theorem slashed_sources :
    (invoke writingDependencies slashedManager slashedRequest confirmedContext ()).dispatched.flatMap
        (hintSources writingDependencies slashedRequest confirmedContext ()) =
      [{ capabilityId := str "files/write"
         targetId := str "call"
         reasonCode := str "tool.manager.compensation_available"
         evidenceRefs := [str "file written"] }] := by
  decide +kernel

theorem slashed_unhonoured :
    ¬∀ source ∈ (invoke writingDependencies slashedManager slashedRequest confirmedContext
        ()).dispatched.flatMap
        (hintSources writingDependencies slashedRequest confirmedContext ()),
      Honoured writingDependencies slashedManager.registry source := by
  intro hall
  rw [slashed_sources] at hall
  have hresolves := (hall _ (List.mem_singleton.mpr rfl)).resolves
  revert hresolves
  decide

end Dasall.Tools.Manager
