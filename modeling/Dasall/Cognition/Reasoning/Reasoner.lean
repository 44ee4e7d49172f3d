import Dasall.Cognition.Validation.StageOutputValidator
import Dasall.Lib.Words

/-! # The reasoner, its candidate scores and the decisions it builds -/

open Dasall.Contracts.Tool Dasall.Lib.Text Dasall.Lib.Ascii Dasall.Lib.Floats Dasall.Lib.Unique
  Dasall.Lib.Words Dasall.Cognition.Validation

namespace Dasall.Cognition.Reasoning

structure ReasoningRequest where
  goalContract : GoalContract := {}
  contextPacket : ContextPacket := {}
  beliefState : BeliefState := {}
  availableToolDescriptors : List ToolDescriptor := []
  perceptionResult : PerceptionResult := {}
  activePlan : PlanGraph
  latestObservation : Option Observation := none
  budgetContext : Option BudgetContext := none
deriving DecidableEq

/-! ## The tool of an action -/

def firstToolName (request : ReasoningRequest) : Bytes :=
  match request.perceptionResult.entities.find? fun entity =>
      entity.name == str "tool" && !entity.value.isEmpty with
  | some entity => entity.value
  | none => ((request.contextPacket.activeTools.getD []).head?).getD (str "planner.next_step")

def containsCaseInsensitive (haystack needle : Bytes) : Bool :=
  !needle.isEmpty && lower needle <:+: lower haystack

def tokenizedWords (value : Bytes) : List Bytes :=
  (words isAlnum toLower value).filter fun token => 3 ≤ token.length

def collectPrefilterKeywords (request : ReasoningRequest) (activeNode : PlanNode) : List Bytes :=
  let texts :=
    [activeNode.objective, activeNode.successSignal,
      request.goalContract.goalDescription.getD [], request.goalContract.successCriteria.getD [],
      request.perceptionResult.intentSummary, request.contextPacket.userTurn.getD [],
      request.contextPacket.currentGoalSummary.getD []] ++
      request.perceptionResult.entities.flatMap fun entity => [entity.name, entity.value]
  addAll [] (texts.flatMap tokenizedWords)

structure RankedToolDescriptor where
  descriptor : ToolDescriptor
  score : Nat
deriving DecidableEq

def keywordScore (descriptor : ToolDescriptor) (toolName keyword : Bytes) : Nat :=
  (if containsCaseInsensitive toolName keyword then 12 else 0) +
    (if descriptor.displayName.any fun name => containsCaseInsensitive name keyword then 8 else 0) +
    6 * (descriptor.tags.getD []).countP fun tag => containsCaseInsensitive tag keyword

def scoreToolDescriptor (descriptor : ToolDescriptor) (request : ReasoningRequest)
    (activeNode : PlanNode) (keywords : List Bytes) : Nat :=
  match descriptor.toolName with
  | none => 0
  | some toolName =>
    if toolName.isEmpty then 0
    else
      (if request.perceptionResult.entities.any fun entity =>
          entity.name == str "tool" && entity.value == toolName then 120 else 0) +
        (if (request.contextPacket.activeTools.getD []).contains toolName then 60 else 0) +
        (if containsCaseInsensitive activeNode.objective toolName ||
            containsCaseInsensitive request.perceptionResult.intentSummary toolName ||
            containsCaseInsensitive (request.goalContract.goalDescription.getD []) toolName ||
            containsCaseInsensitive (request.contextPacket.userTurn.getD []) toolName
          then 25 else 0) +
        (keywords.map (keywordScore descriptor toolName)).sum +
        (if descriptor.category == some .information &&
            activeNode.actionKindHint == str "tool_execution" then 3 else 0)

/-- The order of `std::sort`: the higher score first, then the lesser name. -/
def ranksBefore (first second : RankedToolDescriptor) : Bool :=
  if first.score ≠ second.score then second.score < first.score
  else !(second.descriptor.toolName.getD [] < first.descriptor.toolName.getD [])

def prefilterToolDescriptors (request : ReasoningRequest) (activeNode : PlanNode) :
    List RankedToolDescriptor :=
  let keywords := collectPrefilterKeywords request activeNode
  let ranked := request.availableToolDescriptors.map fun descriptor =>
    { descriptor := descriptor
      score := scoreToolDescriptor descriptor request activeNode keywords : RankedToolDescriptor }
  ((ranked.filter fun entry => 0 < entry.score).mergeSort ranksBefore).take 3

def toolName (request : ReasoningRequest) (activeNode : PlanNode) : Bytes :=
  match prefilterToolDescriptors request activeNode with
  | best :: _ => best.descriptor.toolName.getD (firstToolName request)
  | [] => firstToolName request

def buildToolIntentHint (request : ReasoningRequest) (activeNode : PlanNode) : ToolIntentHint where
  toolName := toolName request activeNode
  intentSummary := activeNode.objective
  argumentHints :=
    [request.goalContract.goalDescription, request.goalContract.successCriteria].filterMap fun text =>
      text.filter fun text => !text.isEmpty
  evidenceRefs :=
    appendUnique (appendUnique [] activeNode.evidenceRefs) (request.beliefState.evidenceRefs.getD [])

def toolIntentDiagnostics (request : ReasoningRequest) (activeNode : PlanNode) : List Bytes :=
  let ranked := prefilterToolDescriptors request activeNode
  if !ranked.isEmpty then
    [str "tool_candidate_prefilter:applied",
      str "tool_candidate_prefilter_count:" ++ decimal ranked.length]
  else if !request.availableToolDescriptors.isEmpty then [str "tool_candidate_prefilter:fallback"]
  else []

/-! ## Builders -/

def projectResponseOutline (request : ReasoningRequest) (mode : String) (focus : Bytes) :
    ResponseOutline where
  summary := str mode ++ str ": " ++ focus
  keyPoints :=
    [request.goalContract.goalDescription.getD (str "goal description unavailable"),
      request.goalContract.successCriteria.getD (str "success criteria unavailable")] ++
      ((request.latestObservation.bind fun obs => obs.payload).filter fun payload =>
        !payload.isEmpty).toList

def buildExecuteActionDecision (request : ReasoningRequest) (activeNode : PlanNode)
    (confidence : Float32) (candidateScores : List CandidateDecisionScore) : ActionDecision where
  decisionKind := .executeAction
  selectedNodeId := some activeNode.nodeId
  rationale := some (str "highest-scoring actionable node selected for execution")
  confidence := confidence
  toolIntentHint := some (buildToolIntentHint request activeNode)
  responseOutline := some (projectResponseOutline request "execute" activeNode.objective)
  candidateScores := candidateScores
  diagnostics := toolIntentDiagnostics request activeNode

def buildDirectResponseDecision (request : ReasoningRequest) (confidence : Float32)
    (candidateScores : List CandidateDecisionScore) : ActionDecision where
  decisionKind := .directResponse
  rationale := some (str "direct response scored above the response threshold")
  confidence := confidence
  responseOutline := some (projectResponseOutline request "direct_response"
    (request.goalContract.goalDescription.getD (str "current goal")))
  candidateScores := candidateScores

def buildClarificationDecision (request : ReasoningRequest) (clarificationQuestion : Bytes)
    (confidence : Float32) (candidateScores : List CandidateDecisionScore) : ActionDecision where
  decisionKind := .askClarification
  rationale := some (str "clarification is required before safe execution can continue")
  confidence := confidence
  clarificationNeeded := true
  clarificationQuestion := some clarificationQuestion
  responseOutline := some (projectResponseOutline request "clarify"
    (request.goalContract.goalDescription.getD (str "current goal")))
  candidateScores := candidateScores

def buildConvergeSafeDecision (request : ReasoningRequest) (rationale : Bytes)
    (confidence : Float32) (candidateScores : List CandidateDecisionScore) : ActionDecision where
  decisionKind := .convergeSafe
  rationale := some rationale
  confidence := confidence
  responseOutline := some (projectResponseOutline request "converge_safe"
    (request.goalContract.successCriteria.getD (str "safe completion")))
  candidateScores := candidateScores

/-! ## What the reasoner asks of a request -/

def textHasConflictSignal (payload : Bytes) : Bool :=
  ["contradict", "incomplete", "missing", "conflict"].any fun signal => str signal <:+: payload

def hasHighBudgetPressure (request : ReasoningRequest) : Bool :=
  request.budgetContext.any fun budget => (0.8 : Float32) ≤ budget.budgetUtilization

def isNearBudgetLimit (request : ReasoningRequest) : Bool :=
  request.budgetContext.any fun budget =>
    budget.nearBudgetLimit || (0.8 : Float32) ≤ budget.budgetUtilization

def evaluateClarificationNeed (config : CognitionConfig) (request : ReasoningRequest) : Bool :=
  request.perceptionResult.requiresClarification || !request.activePlan.openQuestions.isEmpty ||
    request.perceptionResult.confidence < config.thresholds.askClarification

def hasConflictingObservation (request : ReasoningRequest) : Bool :=
  request.latestObservation.any fun obs =>
    !obs.success.getD true || obs.payload.any textHasConflictSignal ||
      obs.error.any fun error =>
        !error.details.message.isEmpty && textHasConflictSignal error.details.message

def preferDirectResponse (request : ReasoningRequest) : Bool :=
  request.perceptionResult.taskType == str "direct_response" ||
    match request.activePlan.nodes with
    | [node] => node.actionKindHint == str "direct_response"
    | _ => false

def resolveActiveNode (request : ReasoningRequest) : Option PlanNode :=
  request.activePlan.nodes.find? fun node =>
    node.actionKindHint != str "validation" && node.actionKindHint != str "direct_response"

def deriveClarificationQuestion (request : ReasoningRequest) : Bytes :=
  match request.activePlan.openQuestions, request.perceptionResult.clarificationQuestions with
  | first :: _, _ => first.question
  | [], first :: _ => first.question
  | [], [] =>
    if hasConflictingObservation request then
      str "The latest observation conflicts with the active plan. What detail should be corrected before continuing?"
    else str "What additional detail should the agent clarify before continuing this task?"

/-! ## Candidate scores -/

def applyCandidateWeight (score weight : Float32) : Float32 :=
  clamp (score * stdMax weight 0) 0 0.95

/-- The score with the amount added where the condition holds. -/
def addWhen (condition : Bool) (amount score : Float32) : Float32 :=
  if condition then score + amount else score

def subWhen (condition : Bool) (amount score : Float32) : Float32 :=
  if condition then score - amount else score

def executeScore (config : CognitionConfig) (request : ReasoningRequest) : Float32 :=
  let score :=
    if (resolveActiveNode request).isSome then
      0.30 + request.perceptionResult.confidence * 0.35 +
        request.beliefState.confidence.getD 0.50 * 0.20
    else 0
  applyCandidateWeight
    (subWhen (isNearBudgetLimit request) 0.15
      (subWhen (hasConflictingObservation request) 0.45
        (subWhen (evaluateClarificationNeed config request) 0.25 score)))
    config.candidateWeights.toolCall

def directResponseScore (config : CognitionConfig) (request : ReasoningRequest) : Float32 :=
  let preferred :=
    if preferDirectResponse request then
      addWhen (request.activePlan.nodes.length = 1) 0.15 (0.10 + 0.55)
    else 0.10
  let succeeded := request.latestObservation.any fun obs => obs.success.getD false
  applyCandidateWeight
    (subWhen (hasConflictingObservation request) 0.15
      (subWhen (evaluateClarificationNeed config request) 0.20
        (addWhen succeeded 0.10 (addWhen (isNearBudgetLimit request) 0.15 preferred))))
    config.candidateWeights.directResponse

def clarificationScore (config : CognitionConfig) (request : ReasoningRequest) : Float32 :=
  let truncated := request.budgetContext.any BudgetContext.contextWasTruncated
  applyCandidateWeight
    (addWhen truncated 0.05
      (addWhen (hasConflictingObservation request) 0.35
        (addWhen (evaluateClarificationNeed config request) 0.45 0.12)))
    config.candidateWeights.clarification

def convergeSafeScore (config : CognitionConfig) (request : ReasoningRequest) : Float32 :=
  let failed := request.latestObservation.any fun obs => !obs.success.getD true
  applyCandidateWeight
    (addWhen failed 0.10
      (addWhen (resolveActiveNode request).isNone 0.20
        (addWhen (isNearBudgetLimit request) 0.40 0.10)))
    config.candidateWeights.convergeSafe

def kExecuteCandidate : Bytes := str "execute_action"

def kDirectResponseCandidate : Bytes := str "direct_response"

def kClarificationCandidate : Bytes := str "ask_clarification"

def kConvergeSafeCandidate : Bytes := str "converge_safe"

def scoreCandidates (config : CognitionConfig) (request : ReasoningRequest) :
    List CandidateDecisionScore :=
  [{ candidateName := kExecuteCandidate, score := executeScore config request
     rationale := some (str "active node execution viability") },
    { candidateName := kDirectResponseCandidate, score := directResponseScore config request
      rationale := some (str "direct response suitability") },
    { candidateName := kClarificationCandidate, score := clarificationScore config request
      rationale := some (str "clarification need severity") },
    { candidateName := kConvergeSafeCandidate, score := convergeSafeScore config request
      rationale := some (str "safe convergence preference") }]

def lookupScore (candidateScores : List CandidateDecisionScore) (candidateName : Bytes) : Float32 :=
  match candidateScores.find? fun candidate => candidate.candidateName == candidateName with
  | some candidate => candidate.score
  | none => 0

/-! ## The decision -/

def validateDecisionThresholds (config : CognitionConfig) (request : ReasoningRequest)
    (decision : ActionDecision) : ActionDecision :=
  match decision.decisionKind with
  | .executeAction =>
    if decision.selectedNodeId.isNone || decision.toolIntentHint.isNone then
      buildClarificationDecision request (deriveClarificationQuestion request)
        config.thresholds.askClarification decision.candidateScores
    else decision
  | .directResponse =>
    if decision.confidence < config.thresholds.directResponse then
      { decision with
        decisionKind := .convergeSafe
        rationale :=
          some (str "direct response confidence fell below the direct response threshold") }
    else decision
  | .askClarification =>
    { decision with
      clarificationNeeded := true
      clarificationQuestion :=
        some (decision.clarificationQuestion.getD (deriveClarificationQuestion request)) }
  | .convergeSafe =>
    if decision.responseOutline.isNone then
      buildConvergeSafeDecision request
        (str "safe convergence retained after response outline validation")
        (stdMax decision.confidence config.thresholds.replanHint) decision.candidateScores
    else decision
  | .noDecision =>
    buildConvergeSafeDecision request
      (str "no valid decision candidate remained after threshold validation")
      config.thresholds.replanHint decision.candidateScores

/-- The branches of the selection from the active node on. -/
def selectLate (config : CognitionConfig) (request : ReasoningRequest)
    (execute directResponse clarification convergeSafe : Float32)
    (candidateScores : List CandidateDecisionScore) : ActionDecision × Option Bytes :=
  match resolveActiveNode request with
  | some activeNode =>
    if stdMax config.thresholds.askClarification 0.50 ≤ execute then
      (buildExecuteActionDecision request activeNode execute candidateScores, none)
    else if (0.40 : Float32) ≤ clarification then
      (buildClarificationDecision request (deriveClarificationQuestion request) clarification
        candidateScores, none)
    else if config.thresholds.replanHint ≤ convergeSafe then
      (buildConvergeSafeDecision request
        (str "no strong actionable candidate remained after threshold validation") convergeSafe
        candidateScores, none)
    else (buildExecuteActionDecision request activeNode execute candidateScores, none)
  | none =>
    if (0.40 : Float32) ≤ clarification then
      (buildClarificationDecision request (deriveClarificationQuestion request) clarification
        candidateScores, none)
    else if config.thresholds.replanHint ≤ convergeSafe then
      (buildConvergeSafeDecision request
        (str "no strong actionable candidate remained after threshold validation") convergeSafe
        candidateScores, none)
    else (buildDirectResponseDecision request directResponse candidateScores, none)

/-- The decision before the thresholds are looked at again, and the path that budget pressure took. -/
def selectDecision (config : CognitionConfig) (request : ReasoningRequest) :
    ActionDecision × Option Bytes :=
  let candidateScores := scoreCandidates config request
  let execute := lookupScore candidateScores kExecuteCandidate
  let directResponse := lookupScore candidateScores kDirectResponseCandidate
  let clarification := lookupScore candidateScores kClarificationCandidate
  let convergeSafe := lookupScore candidateScores kConvergeSafeCandidate
  let thresholds := config.thresholds
  if (evaluateClarificationNeed config request || hasConflictingObservation request) &&
      thresholds.askClarification ≤ clarification then
    (buildClarificationDecision request (deriveClarificationQuestion request) clarification
      candidateScores, none)
  else if hasHighBudgetPressure request then
    if preferDirectResponse request && thresholds.directResponse ≤ directResponse &&
        convergeSafe ≤ directResponse then
      (buildDirectResponseDecision request directResponse candidateScores,
        some kDirectResponseCandidate)
    else
      (buildConvergeSafeDecision request
        (str "budget utilization reached the high-pressure threshold; prefer safe convergence over executing additional steps")
        (stdMax convergeSafe thresholds.replanHint) candidateScores, some kConvergeSafeCandidate)
  else if isNearBudgetLimit request && stdMax execute directResponse ≤ convergeSafe &&
      thresholds.replanHint ≤ convergeSafe then
    (buildConvergeSafeDecision request
      (str "budget pressure or exhausted actionable nodes require safe convergence") convergeSafe
      candidateScores, none)
  else if preferDirectResponse request && thresholds.directResponse ≤ directResponse &&
      execute ≤ directResponse then
    (buildDirectResponseDecision request directResponse candidateScores, none)
  else
    selectLate config request execute directResponse clarification convergeSafe candidateScores

def appendBudgetPressureDecisionPath (decision : ActionDecision) (decisionPath : Bytes) :
    ActionDecision :=
  { decision with
    diagnostics :=
      addNew decision.diagnostics (str "budget_pressure_decision_path:" ++ decisionPath) }

def decide (config : CognitionConfig) (request : ReasoningRequest) : ActionDecision :=
  let selected := selectDecision config request
  let decision := validateDecisionThresholds config request selected.1
  match selected.2 with
  | some decisionPath => appendBudgetPressureDecisionPath decision decisionPath
  | none => decision

/-! ## The name of the tool -/

/-- Something names a tool: a descriptor that matches, an entity, or the context's first tool, if it
lists any. -/
def NamesTool (request : ReasoningRequest) (activeNode : PlanNode) : Prop :=
  (∃ descriptor ∈ request.availableToolDescriptors,
      0 < scoreToolDescriptor descriptor request activeNode
        (collectPrefilterKeywords request activeNode)) ∨
    (∃ entity ∈ request.perceptionResult.entities, entity.name = str "tool" ∧ entity.value ≠ []) ∨
    (request.contextPacket.activeTools.getD []).head? ≠ some []

theorem scored_named (descriptor : ToolDescriptor) (request : ReasoningRequest)
    (activeNode : PlanNode) (keywords : List Bytes)
    (h : 0 < scoreToolDescriptor descriptor request activeNode keywords) :
    ∃ name, descriptor.toolName = some name ∧ name ≠ [] := by
  unfold scoreToolDescriptor at h
  rcases hname : descriptor.toolName with _ | name
  · simp [hname] at h
  · refine ⟨name, rfl, ?_⟩
    rintro rfl
    simp [hname] at h

variable (request : ReasoningRequest)

variable (activeNode : PlanNode)

theorem mem_prefilterToolDescriptors
    (entry : RankedToolDescriptor) (h : entry ∈ prefilterToolDescriptors request activeNode) :
    entry.descriptor ∈ request.availableToolDescriptors ∧
      0 < scoreToolDescriptor entry.descriptor request activeNode
        (collectPrefilterKeywords request activeNode) := by
  have hsorted := List.mem_of_mem_take h
  rw [List.mem_mergeSort, List.mem_filter, List.mem_map] at hsorted
  obtain ⟨⟨descriptor, hmem, rfl⟩, hscore⟩ := hsorted
  exact ⟨hmem, of_decide_eq_true hscore⟩

theorem prefilterToolDescriptors_eq_nil_iff :
    prefilterToolDescriptors request activeNode = [] ↔
      ∀ descriptor ∈ request.availableToolDescriptors,
        ¬ 0 < scoreToolDescriptor descriptor request activeNode
          (collectPrefilterKeywords request activeNode) := by
  unfold prefilterToolDescriptors
  rw [← List.length_eq_zero_iff, List.length_take, List.length_mergeSort, Nat.min_eq_zero_iff,
    or_iff_right (by decide), List.length_eq_zero_iff, List.filter_eq_nil_iff]
  simp

theorem firstToolName_ne_nil_iff :
    firstToolName request ≠ [] ↔
      (∃ entity ∈ request.perceptionResult.entities, entity.name = str "tool" ∧ entity.value ≠ []) ∨
        (request.contextPacket.activeTools.getD []).head? ≠ some [] := by
  unfold firstToolName
  split
  next entity hentity =>
    have hfound := List.find?_some hentity
    have hmem := List.mem_of_find?_eq_some hentity
    simp only [Bool.and_eq_true, beq_iff_eq, Bool.not_eq_true', List.isEmpty_eq_false_iff] at hfound
    exact iff_of_true hfound.2 (.inl ⟨entity, hmem, hfound⟩)
  next hnone =>
    have hno : ¬ ∃ entity ∈ request.perceptionResult.entities,
        entity.name = str "tool" ∧ entity.value ≠ [] := by
      rintro ⟨entity, hmem, hname, hvalue⟩
      have := List.find?_eq_none.mp hnone entity hmem
      simp [hname, hvalue] at this
    rw [or_iff_right hno]
    rcases (request.contextPacket.activeTools.getD []).head? with _ | first
    · simp [str]
    · simp

theorem toolName_ne_nil_iff :
    toolName request activeNode ≠ [] ↔ NamesTool request activeNode := by
  unfold toolName NamesTool
  rw [← firstToolName_ne_nil_iff]
  split
  next best rest hranked =>
    obtain ⟨hmem, hscore⟩ := mem_prefilterToolDescriptors request activeNode best
      (by rw [hranked]; exact List.mem_cons_self)
    obtain ⟨name, hname, hne⟩ := scored_named _ _ _ _ hscore
    rw [hname]
    exact iff_of_true hne (.inl ⟨best.descriptor, hmem, hscore⟩)
  next hnone =>
    rw [prefilterToolDescriptors_eq_nil_iff] at hnone
    rw [or_iff_right]
    rintro ⟨descriptor, hmem, hscore⟩
    exact hnone descriptor hmem hscore

/-! ## What the validator says of each builder -/

theorem clarification_refused (question : Bytes) (confidence : Float32)
    (scores : List CandidateDecisionScore) (activePlan : Option PlanGraph) :
    actionDecisionIssues (buildClarificationDecision request question confidence scores)
      activePlan ≠ [] := by
  simp [actionDecisionIssues, buildClarificationDecision, hasResponseOutline, projectResponseOutline,
    str]

theorem response_accepted (decision : ActionDecision) (activePlan : Option PlanGraph)
    (hkind : decision.decisionKind = .directResponse ∨ decision.decisionKind = .convergeSafe)
    (houtline : hasResponseOutline decision = true) (htool : decision.toolIntentHint = none)
    (hnode : decision.selectedNodeId = none) (hneeded : decision.clarificationNeeded = false)
    (hquestion : decision.clarificationQuestion = none) :
    actionDecisionIssues decision activePlan = [] := by
  rcases hkind with hkind | hkind <;>
    simp [actionDecisionIssues, hkind, houtline, hasToolIntent, htool, hasSelectedNode, hnode,
      hneeded, hasClarificationQuestion, hquestion, Lib.Guard.hasNonEmptyValue]

theorem convergeSafe_accepted (rationale : Bytes) (confidence : Float32)
    (scores : List CandidateDecisionScore) (activePlan : Option PlanGraph) :
    actionDecisionIssues (buildConvergeSafeDecision request rationale confidence scores)
      activePlan = [] := by
  apply response_accepted <;>
    simp [buildConvergeSafeDecision, hasResponseOutline, projectResponseOutline, str]

theorem execute_accepted_iff
    (confidence : Float32) (scores : List CandidateDecisionScore)
    (hmem : activeNode ∈ request.activePlan.nodes) (hid : activeNode.nodeId ≠ []) :
    actionDecisionIssues (buildExecuteActionDecision request activeNode confidence scores)
        (some request.activePlan) = [] ↔ NamesTool request activeNode := by
  have hbelongs :
      (request.activePlan.nodes.any fun node => node.nodeId == activeNode.nodeId) = true :=
    List.any_eq_true.mpr ⟨activeNode, hmem, beq_self_eq_true _⟩
  rw [← toolName_ne_nil_iff]
  simp [actionDecisionIssues, buildExecuteActionDecision, hasSelectedNode, selectedNodeBelongs,
    hasToolIntent, buildToolIntentHint, hasClarificationQuestion, Lib.Guard.hasNonEmptyValue, hid,
    hbelongs]

/-! ## Which branch is taken -/

section
variable (config : CognitionConfig) (request : ReasoningRequest)

/-- The need for a clarification, or a conflict, comes first. -/
def asksFirst : Bool :=
  (evaluateClarificationNeed config request || hasConflictingObservation request) &&
    config.thresholds.askClarification ≤ clarificationScore config request

def convergesEarly : Bool :=
  isNearBudgetLimit request &&
    stdMax (executeScore config request) (directResponseScore config request) ≤
      convergeSafeScore config request &&
    config.thresholds.replanHint ≤ convergeSafeScore config request

def respondsEarly : Bool :=
  preferDirectResponse request &&
    config.thresholds.directResponse ≤ directResponseScore config request &&
    executeScore config request ≤ directResponseScore config request

/-- None of the branches before the active node is looked at is taken. -/
def reachesNode : Bool :=
  !asksFirst config request && !hasHighBudgetPressure request && !convergesEarly config request &&
    !respondsEarly config request

def actsStrongly : Bool :=
  (resolveActiveNode request).isSome &&
    stdMax config.thresholds.askClarification 0.50 ≤ executeScore config request

def asksLate : Bool :=
  !actsStrongly config request && (0.40 : Float32) ≤ clarificationScore config request

def asks : Bool := asksFirst config request || (reachesNode config request && asksLate config request)

def executes : Bool :=
  reachesNode config request && (resolveActiveNode request).isSome &&
    (actsStrongly config request || (!asksLate config request &&
      !(config.thresholds.replanHint ≤ convergeSafeScore config request)))

/-- What is selected is a clarification, an action on the active node or a response. -/
inductive Selected : ActionDecision → Prop
  | clarification (question : Bytes) (confidence : Float32) (scores : List CandidateDecisionScore)
      (h : asks config request = true) :
      Selected (buildClarificationDecision request question confidence scores)
  | action (node : PlanNode) (confidence : Float32) (scores : List CandidateDecisionScore)
      (h : asks config request = false) (hexecutes : executes config request = true)
      (hnode : resolveActiveNode request = some node) :
      Selected (buildExecuteActionDecision request node confidence scores)
  | convergence (rationale : Bytes) (confidence : Float32) (scores : List CandidateDecisionScore)
      (h : asks config request = false) (hexecutes : executes config request = false) :
      Selected (buildConvergeSafeDecision request rationale confidence scores)
  | response (confidence : Float32) (scores : List CandidateDecisionScore)
      (h : asks config request = false) (hexecutes : executes config request = false) :
      Selected (buildDirectResponseDecision request confidence scores)

theorem selectLate_selected (scores : List CandidateDecisionScore)
    (hfirst : asksFirst config request = false) (hreaches : reachesNode config request = true) :
    Selected config request (selectLate config request (executeScore config request)
      (directResponseScore config request) (clarificationScore config request)
      (convergeSafeScore config request) scores).1 := by
  have hasks : asks config request = asksLate config request := by simp [asks, hfirst, hreaches]
  unfold selectLate
  split
  next activeNode hnode =>
    split_ifs with hstrong hlate hconverge
    · exact .action _ _ _ (by simp [hasks, asksLate, actsStrongly, hnode, hstrong])
        (by simp [executes, hreaches, actsStrongly, hnode, hstrong]) hnode
    · exact .clarification _ _ _ (by simp [hasks, asksLate, actsStrongly, hstrong, hlate])
    · exact .convergence _ _ _ (by simp [hasks, asksLate, hlate])
        (by simp [executes, actsStrongly, hstrong, hconverge])
    · exact .action _ _ _ (by simp [hasks, asksLate, hlate])
        (by simp [executes, hreaches, hnode, asksLate, hlate, hconverge]) hnode
  next hnode =>
    have hacts : executes config request = false := by simp [executes, hnode]
    split_ifs with hlate hconverge
    · exact .clarification _ _ _ (by simp [hasks, asksLate, actsStrongly, hnode, hlate])
    · exact .convergence _ _ _ (by simp [hasks, asksLate, hlate]) hacts
    · exact .response _ _ (by simp [hasks, asksLate, hlate]) hacts

theorem selectDecision_selected : Selected config request (selectDecision config request).1 := by
  have hexecute : lookupScore (scoreCandidates config request) kExecuteCandidate =
      executeScore config request := rfl
  have hresponse : lookupScore (scoreCandidates config request) kDirectResponseCandidate =
      directResponseScore config request := rfl
  have hclarification : lookupScore (scoreCandidates config request) kClarificationCandidate =
      clarificationScore config request := rfl
  have hconverge : lookupScore (scoreCandidates config request) kConvergeSafeCandidate =
      convergeSafeScore config request := rfl
  unfold selectDecision
  simp only [hexecute, hresponse, hclarification, hconverge]
  split
  next hfirst => exact .clarification _ _ _ (by simp [asks, asksFirst, hfirst])
  next hfirst =>
    have hfirst' : asksFirst config request = false := by simpa [asksFirst] using hfirst
    split
    next hpressure =>
      have hasks : asks config request = false := by simp [asks, reachesNode, hfirst', hpressure]
      have hacts : executes config request = false := by simp [executes, reachesNode, hpressure]
      split
      · exact .response _ _ hasks hacts
      · exact .convergence _ _ _ hasks hacts
    next hpressure =>
      have hpressure' : hasHighBudgetPressure request = false := by simpa using hpressure
      split
      next hearly =>
        have hearly' : convergesEarly config request = true := hearly
        exact .convergence _ _ _ (by simp [asks, reachesNode, hfirst', hearly'])
          (by simp [executes, reachesNode, hearly'])
      next hearly =>
        have hearly' : convergesEarly config request = false := by simpa [convergesEarly] using hearly
        split
        next hresponds =>
          have hresponds' : respondsEarly config request = true := hresponds
          exact .response _ _ (by simp [asks, reachesNode, hfirst', hresponds'])
            (by simp [executes, reachesNode, hresponds'])
        next hresponds =>
          have hresponds' : respondsEarly config request = false := by
            simpa [respondsEarly] using hresponds
          have hreaches : reachesNode config request = true := by
            simp [reachesNode, hfirst', hpressure', hearly', hresponds']
          exact selectLate_selected config request _ hfirst' hreaches

/-! ## What the reasoner returns -/

theorem validateDecisionThresholds_response (confidence : Float32)
    (scores : List CandidateDecisionScore) :
    validateDecisionThresholds config request
        (buildDirectResponseDecision request confidence scores) =
      if confidence < config.thresholds.directResponse then
        { buildDirectResponseDecision request confidence scores with
          decisionKind := .convergeSafe
          rationale :=
            some (str "direct response confidence fell below the direct response threshold") }
      else buildDirectResponseDecision request confidence scores := rfl

/-- The second look at the thresholds changes nothing that the validator looks at. -/
theorem validateDecisionThresholds_issues (decision : ActionDecision)
    (hselected : Selected config request decision)
    (hids : ∀ node ∈ request.activePlan.nodes, node.nodeId ≠ []) :
    actionDecisionIssues (validateDecisionThresholds config request decision)
        (some request.activePlan) = [] ↔
      asks config request = false ∧ (executes config request = true →
        ∀ node ∈ resolveActiveNode request, NamesTool request node) := by
  cases hselected with
  | clarification question confidence scores h =>
    have hsame : validateDecisionThresholds config request
        (buildClarificationDecision request question confidence scores) =
        buildClarificationDecision request question confidence scores := rfl
    rw [hsame, h]
    exact iff_of_false (clarification_refused _ _ _ _ _) (by simp)
  | action node confidence scores h hexecutes hnode =>
    have hsame : validateDecisionThresholds config request
        (buildExecuteActionDecision request node confidence scores) =
        buildExecuteActionDecision request node confidence scores := rfl
    have hmem := List.mem_of_find?_eq_some hnode
    rw [hsame, execute_accepted_iff request node confidence scores hmem (hids node hmem), h,
      hexecutes, hnode]
    simp
  | convergence rationale confidence scores h hexecutes =>
    have hsame : validateDecisionThresholds config request
        (buildConvergeSafeDecision request rationale confidence scores) =
        buildConvergeSafeDecision request rationale confidence scores := rfl
    rw [hsame, h, hexecutes]
    exact iff_of_true (convergeSafe_accepted ..) (by simp)
  | response confidence scores h hexecutes =>
    rw [h, hexecutes]
    refine iff_of_true ?_ (by simp)
    rw [validateDecisionThresholds_response]
    split <;> apply response_accepted <;>
      simp [buildDirectResponseDecision, hasResponseOutline, projectResponseOutline, str]

theorem validateDecisionThresholds_executes (decision : ActionDecision)
    (hselected : Selected config request decision)
    (h : (validateDecisionThresholds config request decision).decisionKind = .executeAction) :
    executes config request = true := by
  cases hselected with
  | action node confidence scores _ hexecutes _ => exact hexecutes
  | clarification question confidence scores _ => exact ActionDecisionKind.noConfusion h
  | convergence rationale confidence scores _ _ => exact ActionDecisionKind.noConfusion h
  | response confidence scores _ _ =>
    rw [validateDecisionThresholds_response] at h
    split at h <;> exact ActionDecisionKind.noConfusion h

theorem decide_issues (activePlan : Option PlanGraph) :
    actionDecisionIssues (decide config request) activePlan =
      actionDecisionIssues
        (validateDecisionThresholds config request (selectDecision config request).1) activePlan := by
  unfold decide
  simp only
  split <;> rfl

theorem decide_kind :
    (decide config request).decisionKind =
      (validateDecisionThresholds config request
        (selectDecision config request).1).decisionKind := by
  unfold decide
  simp only
  split <;> rfl

theorem decide_under_pressure (h : hasHighBudgetPressure request = true) :
    (decide config request).decisionKind ≠ .executeAction := by
  rw [decide_kind]
  intro hkind
  have hexecutes := validateDecisionThresholds_executes config request _
    (selectDecision_selected config request) hkind
  simp [executes, reachesNode, h] at hexecutes

/-- The validator accepts a decision just when no clarification is asked for and the tool of an action
has a name; pressure keeps every action back. -/
theorem decide_accepted_iff (hids : ∀ node ∈ request.activePlan.nodes, node.nodeId ≠ []) :
    ((validateActionDecisionInvariants (decide config request) (some request.activePlan)).ok = true ∧
        (hasHighBudgetPressure request = true →
          (decide config request).decisionKind ≠ .executeAction)) ↔
      asks config request = false ∧ (executes config request = true →
        ∀ node ∈ resolveActiveNode request, NamesTool request node) := by
  rw [validateActionDecisionInvariants_ok, decide_issues,
    validateDecisionThresholds_issues config request _ (selectDecision_selected config request) hids,
    and_iff_left (decide_under_pressure config request)]

end

/-- A plan of one node, and a perception that may ask for a clarification. -/
def lookUp (requiresClarification : Bool) : ReasoningRequest where
  perceptionResult := { confidence := 0.9, requiresClarification := requiresClarification }
  activePlan :=
    { planId := str "plan", edges := []
      nodes :=
        [{ nodeId := str "n-1", objective := str "look up", successSignal := str "found"
           actionKindHint := str "tool_execution", dependsOn := [], evidenceRefs := [] }] }

theorem lookUp_accepted :
    (validateActionDecisionInvariants (decide {} (lookUp false)) (some (lookUp false).activePlan)).ok =
        true ∧
      (hasHighBudgetPressure (lookUp false) = true →
        (decide {} (lookUp false)).decisionKind ≠ .executeAction) := by
  apply (decide_accepted_iff {} (lookUp false) (by decide)).mpr
  refine ⟨by decide +kernel, ?_⟩
  rintro - node -
  exact .inr (.inr (by decide))

/-- A clarification carries an outline, which the validator forbids. -/
theorem clarification_rejected :
    ¬ ∀ (config : CognitionConfig) (request : ReasoningRequest),
      (∀ node ∈ request.activePlan.nodes, node.nodeId ≠ []) →
      (∀ question ∈ request.activePlan.openQuestions, question.question ≠ []) →
      (∀ question ∈ request.perceptionResult.clarificationQuestions, question.question ≠ []) →
      (validateActionDecisionInvariants (decide config request) (some request.activePlan)).ok = true ∧
        (hasHighBudgetPressure request = true →
          (decide config request).decisionKind ≠ .executeAction) := by
  intro h
  have haccepted := (h {} (lookUp true) (by decide) (by decide) (by decide)).1
  have hrejected : (validateActionDecisionInvariants (decide {} (lookUp true))
      (some (lookUp true).activePlan)).ok = false := by decide +kernel
  rw [hrejected] at haccepted
  exact Bool.noConfusion haccepted

end Dasall.Cognition.Reasoning
