import Dasall.Cognition.Types
import Dasall.Lib.Words

/-! # The engine that reads a failure and recommends what to do next -/

open Dasall.Contracts Dasall.Lib.Text Dasall.Lib.Ascii Dasall.Lib.Guard Dasall.Lib.Floats
  Dasall.Lib.Words

namespace Dasall.Cognition.Reflection

structure ReflectionAnalysisRequest where
  requestId : Bytes
  goalContract : GoalContract
  beliefState : BeliefState
  latestObservation : Observation
  errorInfo : Option ErrorInfo
  activePlan : Option PlanGraph
  /-- `execution_hints.risk_tolerance`. -/
  riskTolerance : Float32
deriving DecidableEq

/-! ## What is read of a failure -/

def containsAny (haystack : Bytes) (needles : List String) : Bool :=
  needles.any fun needle => str needle <:+: haystack

def stopWords : List Bytes :=
  ["the", "and", "for", "with", "that", "this", "from", "into", "have", "has", "was", "were", "will",
    "would", "should", "true", "false", "user", "goal", "step", "plan", "current", "must",
    "need"].map str

/-- The words of at least three letters that are no stop words, each once. -/
def extractKeywords (value : Bytes) : List Bytes :=
  ((words isAlnum toLower value).filter fun word =>
    3 ≤ word.length && !stopWords.contains word).eraseDups

def resolveErrorInfo (request : ReflectionAnalysisRequest) : Option ErrorInfo :=
  request.errorInfo <|> request.latestObservation.error

/-- The texts that the classification reads, each followed by a blank. -/
def failureTexts (request : ReflectionAnalysisRequest) : List Bytes :=
  request.latestObservation.payload.toList ++
    (match resolveErrorInfo request with
      | some error => [error.details.message, error.details.stage]
      | none => []) ++
    request.goalContract.successCriteria.toList ++
    (match request.activePlan with
      | some plan => plan.nodes.flatMap fun node => [node.objective, node.successSignal]
      | none => []) ++
    request.latestObservation.sideEffects.getD []

def collectFailureText (request : ReflectionAnalysisRequest) : Bytes :=
  lower ((failureTexts request).flatMap fun text => text ++ [32])

def succeeded (request : ReflectionAnalysisRequest) : Bool :=
  request.latestObservation.success.getD false

def hasSideEffects (request : ReflectionAnalysisRequest) : Bool :=
  !(request.latestObservation.sideEffects.getD []).isEmpty

def unsafeMarks : List String :=
  ["manual intervention", "irreversible", "committed", "side effect", "unsafe"]

def transientMarks : List String :=
  ["timeout", "temporarily unavailable", "rate limit", "transient", "retry later"]

def policyMarks : List String := ["permission denied", "policy denied", "forbidden", "not authorized"]

def shiftMarks : List String :=
  ["not available", "unavailable", "schema changed", "blocked", "missing prerequisite", "mismatch",
    "conflict"]

def goalGapMarks : List String :=
  ["incomplete evidence", "missing evidence", "cannot satisfy", "goal not met", "schema changed",
    "not available"]

def negationMarks : List String :=
  [" not ", "cannot", "can't", "unavailable", "denied", "missing", "blocked", "mismatch", "changed",
    "conflict", "failed"]

/-! ## Assessments -/

structure FailureAssessment where
  failureSource : Bytes
  retryable : Bool := false
  safeToReplan : Bool := false
  recoverabilityScore : Float32 := 0
  safetyRisk : Float32 := 0
deriving DecidableEq

structure GoalGapAssessment where
  goalGap : Bool := false
  localStepFailure : Bool := false
deriving DecidableEq

def isPolicyError (request : ReflectionAnalysisRequest) : Bool :=
  (resolveErrorInfo request).any fun error => error.failureType == some .policy

def errorRetryable (request : ReflectionAnalysisRequest) : Bool :=
  ((resolveErrorInfo request).bind ErrorInfo.retryable).getD false

def errorSafeToReplan (request : ReflectionAnalysisRequest) : Bool :=
  ((resolveErrorInfo request).bind ErrorInfo.safeToReplan).getD false

def classifyFailureSource (request : ReflectionAnalysisRequest) : FailureAssessment :=
  let evidence := collectFailureText request
  if succeeded request then
    { failureSource := str "observation_success"
      retryable := errorRetryable request
      safeToReplan := errorSafeToReplan request
      recoverabilityScore := 0.95
      safetyRisk := 0.05 }
  else if hasSideEffects request || containsAny evidence unsafeMarks then
    { failureSource := str "unsafe_failure", recoverabilityScore := 0.12, safetyRisk := 0.90 }
  else if errorRetryable request || containsAny evidence transientMarks then
    { failureSource := str "transient_execution_failure"
      retryable := true
      safeToReplan := true
      recoverabilityScore := 0.82
      safetyRisk := 0.24 }
  else if isPolicyError request || containsAny evidence policyMarks then
    { failureSource := str "policy_failure", recoverabilityScore := 0.18, safetyRisk := 0.78 }
  else if containsAny evidence shiftMarks then
    { failureSource := str "assumption_or_environment_shift"
      retryable := errorRetryable request
      safeToReplan := true
      recoverabilityScore := 0.72
      safetyRisk := 0.40 }
  else if (resolveErrorInfo request).isSome && !errorRetryable request &&
      !errorSafeToReplan request then
    { failureSource := str "non_recoverable_failure"
      retryable := errorRetryable request
      safeToReplan := errorSafeToReplan request
      recoverabilityScore := 0.15
      safetyRisk := 0.76 }
  else
    { failureSource := str "ambiguous_failure"
      retryable := errorRetryable request
      safeToReplan := errorSafeToReplan request
      recoverabilityScore := 0.22
      safetyRisk := 0.60 }

/-- The failure text holds enough of the assumption's keywords: both, where there are more. -/
def contradicts (evidence assumption : Bytes) : Bool :=
  let keywords := extractKeywords assumption
  let minimumMatches := if keywords.length = 1 then 1 else 2
  !keywords.isEmpty &&
    minimumMatches ≤ (keywords.filter fun keyword => keyword <:+: evidence).length

def detectAssumptionInvalidations (request : ReflectionAnalysisRequest) : List Bytes :=
  let evidence := collectFailureText request
  if containsAny evidence negationMarks then
    (request.beliefState.assumptions.getD []).filter fun assumption =>
      !assumption.isEmpty && contradicts evidence assumption
  else []

def evaluateGoalGap (request : ReflectionAnalysisRequest) (failure : FailureAssessment)
    (beliefInvalidations : List Bytes) : GoalGapAssessment where
  goalGap :=
    !beliefInvalidations.isEmpty || containsAny (collectFailureText request) goalGapMarks ||
      (0.75 : Float32) ≤ failure.safetyRisk ||
      request.activePlan.any fun plan => !plan.openQuestions.isEmpty
  localStepFailure := !succeeded request

/-! ## The decision -/

def decisionTag : ReflectionDecisionKind → Bytes
  | .continue_ => str "continue"
  | .retryStep => str "retry_step"
  | .replan => str "replan"
  | .abortSafe => str "abort_safe"
  | .unspecified | .unlisted _ => str "unspecified"

def firstActiveNodeId (request : ReflectionAnalysisRequest) : Option Bytes :=
  (request.activePlan.bind fun plan => plan.nodes.head?).map PlanNode.nodeId

/-- What the branches of the projection decide. -/
structure Projection where
  decisionKind : ReflectionDecisionKind
  confidence : Float32
  hintRef : Bytes
  rationale : Bytes
deriving DecidableEq

def riskTooHigh (request : ReflectionAnalysisRequest) (failure : FailureAssessment) : Bool :=
  0.45 + clamp01 request.riskTolerance * 0.30 < failure.safetyRisk

def invalidationRationale (beliefInvalidations : List Bytes) : Bytes :=
  str "reflection detected invalidated assumptions: " ++ (str "; ").intercalate beliefInvalidations

def projectKind (config : CognitionConfig) (request : ReflectionAnalysisRequest)
    (failure : FailureAssessment) (goalGap : GoalGapAssessment) (beliefInvalidations : List Bytes) :
    Projection :=
  if succeeded request && beliefInvalidations.isEmpty then
    { decisionKind := .continue_
      confidence := 0.92
      hintRef := str "hint:reflection:continue"
      rationale := str "latest observation indicates the active plan remains aligned" }
  else if !beliefInvalidations.isEmpty then
    { decisionKind := .replan
      confidence :=
        clamp01 (stdMax (config.thresholds.replanHint + 0.15) failure.recoverabilityScore)
      hintRef := str "hint:reflection:replan"
      rationale := invalidationRationale beliefInvalidations }
  else if !riskTooHigh request failure && failure.retryable && !goalGap.goalGap then
    { decisionKind := .retryStep
      confidence := clamp01 (stdMax 0.72 failure.recoverabilityScore)
      hintRef := str "hint:reflection:retry_step"
      rationale := str "latest failure appears local and retryable without changing the plan" }
  else if !riskTooHigh request failure && failure.safeToReplan &&
      (goalGap.goalGap || config.thresholds.replanHint ≤ failure.recoverabilityScore) then
    { decisionKind := .replan
      confidence := clamp01 (stdMax 0.65 failure.recoverabilityScore)
      hintRef := str "hint:reflection:replan"
      rationale :=
        str "latest evidence indicates the active plan no longer matches the environment" }
  else
    { decisionKind := .abortSafe
      confidence := clamp01 (stdMax 0.20 (1.0 - failure.safetyRisk))
      hintRef := str "hint:reflection:abort_safe"
      rationale :=
        if riskTooHigh request failure then
          str "risk signals are too high to recommend retry or replan safely"
        else str "evidence is insufficient to recommend a safe retry or replan" }

/-- What is appended to a rationale, whatever the branch. -/
def rationaleSuffix (request : ReflectionAnalysisRequest) (failure : FailureAssessment)
    (goalGap : GoalGapAssessment) (kind : ReflectionDecisionKind) : Bytes :=
  (if goalGap.localStepFailure && kind == .retryStep then
      str "; keeping recovery scoped to the current step"
    else []) ++
    (match firstActiveNodeId request with
      | some nodeId => if kind != .continue_ then str "; active_node=" ++ nodeId else []
      | none => []) ++
    str "; failure_source=" ++ failure.failureSource

/-- A decision as both the projection and the fallback write it. -/
def makeDecision (request : ReflectionAnalysisRequest) (kind : ReflectionDecisionKind)
    (rationale : Bytes) (confidence : Float32) (hintRef : Bytes) : ReflectionDecision where
  requestId := some request.requestId
  decisionKind := some kind
  rationale := some rationale
  goalId := request.goalContract.goalId.filter fun goalId => !goalId.isEmpty
  confidence := some (floatValueOf confidence.toModel.unpack)
  relevantObservationRefs :=
    (request.latestObservation.observationId.filter fun id => !id.isEmpty).map fun id => [id]
  hintRef := some hintRef
  createdAt := request.latestObservation.createdAt
  tags := some [str "cognition", str "reflection", decisionTag kind]

def projectReflectionDecision (config : CognitionConfig) (request : ReflectionAnalysisRequest)
    (failure : FailureAssessment) (goalGap : GoalGapAssessment) (beliefInvalidations : List Bytes) :
    ReflectionDecision :=
  let projection := projectKind config request failure goalGap beliefInvalidations
  makeDecision request projection.decisionKind
    (projection.rationale ++ rationaleSuffix request failure goalGap projection.decisionKind)
    projection.confidence projection.hintRef

/-- The reason that a guard gives with its answer. -/
def guardReason : Check Bytes → Bytes
  | .ok reason => reason
  | .error (.reject reason) => reason
  | .error .disengaged => []

def validateReflectionContract (request : ReflectionAnalysisRequest)
    (decision : ReflectionDecision) : ReflectionDecision :=
  match validateReflectionDecisionFieldRules decision with
  | .ok _ => decision
  | .error stop =>
    makeDecision request .abortSafe
      (str "cognition.reflection_failed: " ++ guardReason (.error stop)) 0.20
      (str "hint:reflection:abort_safe")

def analyze (config : CognitionConfig) (request : ReflectionAnalysisRequest) : ReflectionDecision :=
  let failure := classifyFailureSource request
  let beliefInvalidations := detectAssumptionInvalidations request
  let goalGap := evaluateGoalGap request failure beliefInvalidations
  validateReflectionContract request
    (projectReflectionDecision config request failure goalGap beliefInvalidations)

/-! ## What the guards let pass -/

def Accepted (decision : ReflectionDecision) : Prop :=
  ∃ reason, validateReflectionDecisionFieldRules decision = .ok reason

/-- A confidence that the guards let pass. -/
def InRange (value : FloatValue) : Prop :=
  ∃ number, value = .finite number ∧ 0 ≤ number ∧ number ≤ 1

def Timely (request : ReflectionAnalysisRequest) : Prop :=
  ∀ createdAt ∈ request.latestObservation.createdAt, 0 < createdAt

theorem inRange_iff (value : FloatValue) :
    InRange value ↔ (!(value.lt 0 || value.gt 1)) = true ∧ value.isFinite = true := by
  cases value with
  | finite number => simp [InRange, FloatValue.lt, FloatValue.gt, FloatValue.isFinite]
  | infinite negative => simp [InRange, FloatValue.isFinite]
  | nan => simp [InRange, FloatValue.isFinite]

theorem filter_ne_some_nil (value : Option Bytes) :
    (value.filter fun text => !text.isEmpty) ≠ some [] := by
  intro h
  obtain ⟨-, hne⟩ := Option.filter_eq_some_iff.mp h
  simp at hne

variable (config : CognitionConfig) (request : ReflectionAnalysisRequest)
  (decision : ReflectionDecision) (kind : ReflectionDecisionKind) (failure : FailureAssessment)
  (goalGap : GoalGapAssessment) (found : List Bytes)

theorem decisionTag_ne_nil : decisionTag kind ≠ [] := by
  cases kind <;> simp [decisionTag, str]

theorem accepted_makeDecision_iff (rationale : Bytes) (confidence : Float32) (hintRef : Bytes)
    (hkind : kind.Concrete) (hrationale : rationale ≠ []) (hhint : hintRef ≠ []) :
    Accepted (makeDecision request kind rationale confidence hintRef) ↔
      request.requestId ≠ [] ∧ Timely request ∧ InRange (floatValueOf confidence.toModel.unpack) := by
  have hraw : 1 ≤ kind.toRaw ∧ kind.toRaw ≤ 4 := by
    rcases hkind with rfl | rfl | rfl | rfl <;> decide
  have hspecified : kind ≠ .unspecified := by
    rintro rfl
    exact absurd hraw (by decide)
  have hgoal := filter_ne_some_nil request.goalContract.goalId
  have htags : str "cognition" ≠ [] ∧ str "reflection" ≠ [] ∧ decisionTag kind ≠ [] :=
    ⟨by decide, by decide, decisionTag_ne_nil kind⟩
  have htimely : (request.latestObservation.createdAt.all fun createdAt => 0 < createdAt) = true ↔
      Timely request := by
    unfold Timely
    rcases request.latestObservation.createdAt with _ | createdAt <;> simp
  rw [inRange_iff, ← htimely]
  unfold Accepted validateReflectionDecisionFieldRules validateReflectionDecisionBoundary
    validateReflectionDecisionRequiredFields
  rcases hrefs : request.latestObservation.observationId.filter fun id => !id.isEmpty with _ | ref
  · simp [makeDecision, hasNonEmptyValue, nonEmptyWhenPresent, hrefs, hraw, hspecified, hgoal,
      hrationale, hhint, htags]
    tauto
  · have href : ref ≠ [] := by
      rintro rfl
      exact filter_ne_some_nil _ hrefs
    simp [makeDecision, hasNonEmptyValue, nonEmptyWhenPresent, hrefs, hraw, hspecified, hgoal,
      hrationale, hhint, htags, href]
    tauto

/-! ## What the projection decides -/

theorem projectKind_concrete :
    (projectKind config request failure goalGap found).decisionKind.Concrete := by
  unfold projectKind ReflectionDecisionKind.Concrete
  split_ifs <;> simp

theorem projectKind_hintRef :
    (projectKind config request failure goalGap found).hintRef ≠ [] := by
  unfold projectKind
  split_ifs <;> simp [str]

theorem rationaleSuffix_ne_nil (kind : ReflectionDecisionKind) :
    rationaleSuffix request failure goalGap kind ≠ [] := by
  have hsource : str "; failure_source=" ≠ [] := by decide
  simp [rationaleSuffix, hsource]

theorem classifyFailureSource_scores :
    (classifyFailureSource request).recoverabilityScore.isNaN = false ∧
      (1.0 - (classifyFailureSource request).safetyRisk).isNaN = false := by
  unfold classifyFailureSource
  simp only
  split_ifs <;> dsimp only <;> decide +kernel

theorem inRange_clamp01_iff (value : Float32) :
    InRange (floatValueOf (clamp01 value).toModel.unpack) ↔ value.isNaN = false := by
  rcases h : value.isNaN with _ | _
  · simp only [iff_true]
    exact floatValueOf_clamp01 value h
  · rw [floatValueOf_clamp01_nan value h]
    simp [InRange]

/-- The confidence is out of range only where assumptions fell and the threshold makes it a NaN. -/
theorem projectKind_confidence :
    InRange (floatValueOf (projectKind config request (classifyFailureSource request) goalGap
        found).confidence.toModel.unpack) ↔
      (found ≠ [] → (config.thresholds.replanHint + 0.15).isNaN = false) := by
  obtain ⟨hscore, hrisk⟩ := classifyFailureSource_scores request
  have hcontinue : InRange (floatValueOf (0.92 : Float32).toModel.unpack) :=
    (inRange_iff _).mpr (by decide +kernel)
  unfold projectKind
  split_ifs with hsucceeded hfound hretry hreplan
  · rw [Bool.and_eq_true, List.isEmpty_iff] at hsucceeded
    simp [hsucceeded.2, hcontinue]
  · rw [Bool.not_eq_true', List.isEmpty_eq_false_iff] at hfound
    simp only [inRange_clamp01_iff, stdMax_isNaN _ _ hscore, hfound, ne_eq, not_false_eq_true,
      forall_const]
  all_goals
    have hnone : found = [] := by simpa using hfound
    simp only [inRange_clamp01_iff, stdMax_isNaN _ _ hscore, stdMax_isNaN _ _ hrisk, hnone, ne_eq,
      not_true_eq_false, false_implies, iff_true]
    decide +kernel

/-- Where nothing was invalidated, what may not be retried and may not be replanned is given up. -/
theorem projectKind_stops (hfailed : succeeded request = false) (hretry : failure.retryable = false)
    (hreplan : failure.safeToReplan = false) :
    (projectKind config request failure goalGap found).decisionKind = .abortSafe ↔ found = [] := by
  unfold projectKind
  split_ifs with hsucceeded hfound hretried hreplanned
  · simp [hfailed] at hsucceeded
  · simpa using hfound
  · simp [hretry] at hretried
  · simp [hreplan] at hreplanned
  · simpa using hfound
  · simpa using hfound

theorem projectKind_of_succeeded (h : succeeded request = true) :
    (projectKind config request failure goalGap found).decisionKind ≠ .abortSafe := by
  unfold projectKind
  by_cases hfound : found = []
  · simp [h, hfound]
  · simp [h, hfound]

/-! ## Unsafe failures -/

/-- The latest observation failed and reports side effects, or the error is a policy failure that is
neither transient nor retryable. -/
def UnsafeFailure (request : ReflectionAnalysisRequest) : Prop :=
  (succeeded request = false ∧ hasSideEffects request = true) ∨
    (isPolicyError request = true ∧ errorRetryable request = false ∧
      containsAny (collectFailureText request) transientMarks = false)

/-- The failure text speaks against one of the assumptions that are held. -/
def Contradicted (request : ReflectionAnalysisRequest) : Prop :=
  containsAny (collectFailureText request) negationMarks = true ∧
    ∃ assumption ∈ request.beliefState.assumptions.getD [],
      contradicts (collectFailureText request) assumption = true

theorem contradicts_nil (evidence : Bytes) : contradicts evidence [] = false := by
  simp [contradicts, extractKeywords, Lib.Words.words, Lib.Words.wordsFrom]

theorem detectAssumptionInvalidations_ne_nil_iff :
    detectAssumptionInvalidations request ≠ [] ↔ Contradicted request := by
  unfold detectAssumptionInvalidations Contradicted
  simp only
  split
  next hmarks =>
    simp only [hmarks, true_and, ne_eq, List.filter_eq_nil_iff, not_forall]
    constructor
    · rintro ⟨assumption, hmem, hboth⟩
      exact ⟨assumption, hmem, by simp_all⟩
    · rintro ⟨assumption, hmem, hcontradicts⟩
      have hne : assumption ≠ [] := by
        rintro rfl
        rw [contradicts_nil] at hcontradicts
        exact Bool.noConfusion hcontradicts
      exact ⟨assumption, hmem, by simp [hne, hcontradicts]⟩
  next hmarks => simp [hmarks]

theorem classifyFailureSource_unsafe
    (hrisky : UnsafeFailure request) (hfailed : succeeded request = false) :
    (classifyFailureSource request).retryable = false ∧
      (classifyFailureSource request).safeToReplan = false := by
  unfold classifyFailureSource
  simp only [hfailed, Bool.false_eq_true, if_false]
  rcases hrisky with ⟨-, heffects⟩ | ⟨hpolicy, hretryable, htransient⟩
  · simp [heffects]
  · simp only [hpolicy, hretryable, htransient, Bool.or_false, Bool.false_eq_true, if_false,
      Bool.true_or, if_true]
    split_ifs <;> simp

/-! ## What `analyze` returns -/

/-- What is projected for a request, before the guards look at it. -/
def projected (config : CognitionConfig) (request : ReflectionAnalysisRequest) : Projection :=
  projectKind config request (classifyFailureSource request)
    (evaluateGoalGap request (classifyFailureSource request) (detectAssumptionInvalidations request))
    (detectAssumptionInvalidations request)

def projectedDecision (config : CognitionConfig) (request : ReflectionAnalysisRequest) :
    ReflectionDecision :=
  projectReflectionDecision config request (classifyFailureSource request)
    (evaluateGoalGap request (classifyFailureSource request) (detectAssumptionInvalidations request))
    (detectAssumptionInvalidations request)

theorem analyze_eq :
    analyze config request = validateReflectionContract request (projectedDecision config request) :=
  rfl

theorem projectedDecision_kind :
    (projectedDecision config request).decisionKind = some (projected config request).decisionKind :=
  rfl

theorem accepted_projectedDecision_iff :
    Accepted (projectedDecision config request) ↔
      request.requestId ≠ [] ∧ Timely request ∧
        (Contradicted request → (config.thresholds.replanHint + 0.15).isNaN = false) := by
  rw [← detectAssumptionInvalidations_ne_nil_iff, ← projectKind_confidence config request
    (evaluateGoalGap request (classifyFailureSource request) (detectAssumptionInvalidations request))]
  apply accepted_makeDecision_iff
  · exact projectKind_concrete ..
  · simp [rationaleSuffix_ne_nil]
  · exact projectKind_hintRef _ _ _ _ _

theorem validateReflectionContract_of_accepted (h : Accepted decision) :
    validateReflectionContract request decision = decision := by
  obtain ⟨reason, hok⟩ := h
  simp [validateReflectionContract, hok]

/-- The fallback stops safely, and the guards let it pass when the request itself allows it. -/
theorem validateReflectionContract_of_not_accepted (h : ¬ Accepted decision) :
    (validateReflectionContract request decision).decisionKind = some .abortSafe ∧
      (Accepted (validateReflectionContract request decision) ↔
        request.requestId ≠ [] ∧ Timely request) := by
  have hrange : InRange (floatValueOf (0.20 : Float32).toModel.unpack) :=
    (inRange_iff _).mpr (by decide +kernel)
  unfold validateReflectionContract
  split
  next reason hok => exact absurd ⟨reason, hok⟩ h
  next stop _ =>
    refine ⟨rfl, ?_⟩
    rw [accepted_makeDecision_iff request _ _ _ _ (by simp [ReflectionDecisionKind.Concrete])
      (by simp [str]) (by simp [str])]
    simp [hrange]

theorem accepted_analyze_iff :
    Accepted (analyze config request) ↔ request.requestId ≠ [] ∧ Timely request := by
  rw [analyze_eq]
  by_cases h : Accepted (projectedDecision config request)
  · rw [validateReflectionContract_of_accepted request _ h]
    have hparts := (accepted_projectedDecision_iff config request).mp h
    exact iff_of_true h ⟨hparts.1, hparts.2.1⟩
  · exact (validateReflectionContract_of_not_accepted request _ h).2

theorem analyze_stops_iff :
    (analyze config request).decisionKind = some .abortSafe ↔
      ¬ Accepted (projectedDecision config request) ∨
        (projected config request).decisionKind = .abortSafe := by
  rw [analyze_eq]
  by_cases h : Accepted (projectedDecision config request)
  · rw [validateReflectionContract_of_accepted request _ h, projectedDecision_kind]
    simp [h]
  · simp [h, validateReflectionContract_of_not_accepted request _ h]

theorem projected_stops_iff (hrisky : UnsafeFailure request) :
    (projected config request).decisionKind = .abortSafe ↔
      succeeded request = false ∧ ¬ Contradicted request := by
  rcases hsucceeded : succeeded request with _ | _
  · obtain ⟨hretry, hreplan⟩ := classifyFailureSource_unsafe request hrisky hsucceeded
    rw [projected, projectKind_stops config request _ _ _ hsucceeded hretry hreplan,
      ← detectAssumptionInvalidations_ne_nil_iff]
    simp
  · simp [projected, projectKind_of_succeeded config request _ _ _ hsucceeded]

/-- An unsafe failure is given up, and every decision passes the guards, just when a request with an
id carries no bad timestamp and, where its failure is unsafe, did not succeed and contradicts no
assumption. -/
theorem unsafe_stops_iff (config : CognitionConfig) (request : ReflectionAnalysisRequest) :
    ((UnsafeFailure request → (analyze config request).decisionKind = some .abortSafe) ∧
        (request.requestId ≠ [] → Accepted (analyze config request))) ↔
      (request.requestId ≠ [] → Timely request ∧
        (UnsafeFailure request →
          (Contradicted request → (config.thresholds.replanHint + 0.15).isNaN = true) ∧
            (¬ Contradicted request → succeeded request = false))) := by
  have hstops : ∀ hrisky : UnsafeFailure request, request.requestId ≠ [] → Timely request →
      ((analyze config request).decisionKind = some .abortSafe ↔
        (Contradicted request → (config.thresholds.replanHint + 0.15).isNaN = true) ∧
          (¬ Contradicted request → succeeded request = false)) := by
    intro hrisky hid htimely
    rw [analyze_stops_iff, projected_stops_iff config request hrisky,
      accepted_projectedDecision_iff]
    by_cases hcontradicted : Contradicted request
    · simp [hid, htimely, hcontradicted]
    · simp [hid, htimely, hcontradicted]
  rw [accepted_analyze_iff]
  by_cases hid : request.requestId = []
  · have hrejected : ¬ Accepted (projectedDecision config request) := by
      rw [accepted_projectedDecision_iff]
      exact fun h => h.1 hid
    have hstop := (analyze_stops_iff config request).mpr (.inl hrejected)
    simp [hid, hstop]
  · by_cases htimely : Timely request
    · constructor
      · rintro ⟨hstop, -⟩ -
        exact ⟨htimely, fun hrisky => (hstops hrisky hid htimely).mp (hstop hrisky)⟩
      · intro h
        exact ⟨fun hrisky => (hstops hrisky hid htimely).mpr ((h hid).2 hrisky),
          fun _ => ⟨hid, htimely⟩⟩
    · simp [hid, htimely]

/-- A write that reports a side effect and fails with a text that speaks against an assumption. -/
def changedStore : ReflectionAnalysisRequest where
  requestId := str "r-1"
  goalContract := {}
  beliefState := { assumptions := some [str "store available"] }
  latestObservation :=
    { observationId := some (str "o-1"), source := some .toolExecution, success := some false
      payload := some (str "store not available"), createdAt := some 1, error := none
      toolCallId := none, workerTaskId := none, requestId := none, goalId := none
      durationMs := none, sideEffects := some [str "row written"] }
  errorInfo := none
  activePlan := none
  riskTolerance := 0

theorem unsafe_failure_replanned :
    ¬ ∀ (config : CognitionConfig) (request : ReflectionAnalysisRequest), 0 ≤ request.riskTolerance →
      request.riskTolerance ≤ 1 →
      (UnsafeFailure request → (analyze config request).decisionKind = some .abortSafe) ∧
        (request.requestId ≠ [] → Accepted (analyze config request)) := by
  intro h
  have hrisky : UnsafeFailure changedStore := .inl (by decide)
  have hstop := (h {} changedStore (by decide +kernel) (by decide +kernel)).1 hrisky
  have hreplan : (analyze {} changedStore).decisionKind = some .replan := by decide +kernel
  rw [hreplan] at hstop
  exact absurd hstop (by decide)

end Dasall.Cognition.Reflection
