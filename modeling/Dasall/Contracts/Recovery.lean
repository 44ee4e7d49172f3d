import Dasall.Contracts.Checkpoint
import Dasall.Contracts.Reflection

/-! # Recovery requests, recovery outcomes and their guards -/

open Dasall.Lib.Text Dasall.Lib.Guard

namespace Dasall.Contracts

structure IdempotencyAndSideEffectReport where
  replaySafe : Option Bool
  idempotencyKey : Option Bytes
  sideEffectsPresent : Option Bool
  nonReplayableReason : Option Bytes
deriving DecidableEq

structure RecoveryRequest where
  reflectionDecision : Option ReflectionDecision
  errorInfo : Option ErrorInfo
  latestObservation : Option Observation
  checkpoint : Option Checkpoint
  idempotencyAndSideEffectReport : Option IdempotencyAndSideEffectReport
  retryCount : Option UInt32
  runtimeBudgetSnapshot : Option BudgetSnapshot
deriving DecidableEq

structure RecoveryOutcome where
  executedAction : Option Bytes
  finalRuntimeState : Option Bytes
  updatedRetryCount : Option UInt32
  checkpointRef : Option Bytes
  compensationResultRef : Option Bytes
  rejectionReason : Option Bytes
  escalationReason : Option Bytes
deriving DecidableEq

/-! ## Request guards -/

def validateIdempotencyAndSideEffectReportRequiredFields
    (report : IdempotencyAndSideEffectReport) : Check Bytes := do
  let replaySafe ← present report.replaySafe
    "idempotency_and_side_effect_report.replay_safe is required"
  require (nonEmptyWhenPresent report.idempotencyKey)
    "idempotency_and_side_effect_report.idempotency_key must be non-empty when present"
  require report.sideEffectsPresent.isSome
    "idempotency_and_side_effect_report.side_effects_present is required"
  require (replaySafe || hasNonEmptyValue report.nonReplayableReason)
    "non_replayable_reason is required when replay_safe is false"
  require (!(replaySafe && hasNonEmptyValue report.nonReplayableReason))
    "non_replayable_reason must be empty when replay_safe is true"
  pass "idempotency and side-effect report is valid"

def validateIdempotencyAndSideEffectReportFieldRules
    (report : IdempotencyAndSideEffectReport) : Check Bytes := do
  let _ ← validateIdempotencyAndSideEffectReportRequiredFields report
  let replaySafe ← deref report.replaySafe
  let sideEffectsPresent ← deref report.sideEffectsPresent
  require (!(replaySafe && sideEffectsPresent && !hasNonEmptyValue report.idempotencyKey))
    "idempotency_key is required when replay_safe is true and side_effects_present is true"
  pass "idempotency and side-effect report field rules passed"

def recoveryRequestOptionalStringValuesMatch (left right : Option Bytes) : Bool :=
  left.isNone || right.isNone || left == right

/-- Every field of the two is compared. -/
def recoveryRequestErrorInfoMatches (left right : ErrorInfo) : Bool := left == right

def validateRecoveryRequestRequiredFields (request : RecoveryRequest) : Check Bytes := do
  let decision ← present request.reflectionDecision "reflection_decision is required"
  nested (validateReflectionDecisionFieldRules decision)
    "reflection_decision must pass nested ReflectionDecision validation"
  let errorInfo ← present request.errorInfo "error_info is required"
  nested (validateErrorInfoRequiredFields errorInfo)
    "error_info must pass nested ErrorInfo validation"
  let observation ← present request.latestObservation "latest_observation is required"
  nested (validateObservationBoundary observation)
    "latest_observation must pass nested Observation validation"
  let checkpoint ← present request.checkpoint "checkpoint is required"
  nested (validateCheckpointFieldRules checkpoint)
    "checkpoint must pass nested Checkpoint validation"
  let report ← present request.idempotencyAndSideEffectReport
    "idempotency_and_side_effect_report is required"
  let _ ← validateIdempotencyAndSideEffectReportRequiredFields report
  pass "all required recovery-request evidence present"

def validateRecoveryRequestBoundary (request : RecoveryRequest) : Check Bytes := do
  let _ ← validateRecoveryRequestRequiredFields request
  let observation ← deref request.latestObservation
  let success ← deref observation.success
  require (!success) "latest_observation must describe a failed execution"
  require observation.error.isSome
    "latest_observation.error must be present for recovery admission"
  let checkpoint ← deref request.checkpoint
  let state ← deref checkpoint.state
  require (state != .succeeded)
    "checkpoint.state must not be Succeeded for recovery admission"
  require (request.retryCount.isNone || checkpoint.retryCount.isNone ||
      request.retryCount == checkpoint.retryCount)
    "retry_count must match checkpoint.retry_count when both are present"
  whenPresent request.runtimeBudgetSnapshot fun snapshot =>
    nested (validateBudgetSnapshot snapshot)
      "runtime_budget_snapshot must pass nested BudgetSnapshot validation"
  pass "recovery request boundary validation passed"

/-- The reference in the error names what the observation observed. -/
def validateErrorSource (errorInfo : ErrorInfo) (observation : Observation) :
    ObservationSource → Check Unit
  | .toolExecution => do
    require (errorInfo.sourceRef.refType == str "tool_call")
      "error_info.source_ref.ref_type must be tool_call when latest_observation.source is ToolExecution"
    require (observation.toolCallId == some errorInfo.sourceRef.refId)
      "error_info.source_ref.ref_id must match latest_observation.tool_call_id for ToolExecution observations"
  | .workerAgent => do
    require (errorInfo.sourceRef.refType == str "worker_task")
      "error_info.source_ref.ref_type must be worker_task when latest_observation.source is WorkerAgent"
    require (observation.workerTaskId == some errorInfo.sourceRef.refId)
      "error_info.source_ref.ref_id must match latest_observation.worker_task_id for WorkerAgent observations"
  | .retrieval | .humanFeedback => do
    require (errorInfo.sourceRef.refType == str "observation")
      "error_info.source_ref.ref_type must be observation when latest_observation.source is Retrieval or HumanFeedback"
    let observationId ← deref observation.observationId
    require (errorInfo.sourceRef.refId == observationId)
      "error_info.source_ref.ref_id must match latest_observation.observation_id for Retrieval or HumanFeedback observations"
  | .unspecified => reject "latest_observation.source must be present and not Unspecified"
  | .unlisted _ => .ok ()

def validateRecoveryRequestFieldRules (request : RecoveryRequest) : Check Bytes := do
  let _ ← validateRecoveryRequestBoundary request
  let observation ← deref request.latestObservation
  let _ ← validateObservationSourceCorrelation observation
  let decision ← deref request.reflectionDecision
  let checkpoint ← deref request.checkpoint
  require (recoveryRequestOptionalStringValuesMatch decision.requestId observation.requestId &&
      recoveryRequestOptionalStringValuesMatch decision.requestId checkpoint.requestId &&
      recoveryRequestOptionalStringValuesMatch observation.requestId checkpoint.requestId)
    "request_id values across reflection_decision/latest_observation/checkpoint must match when present"
  require (recoveryRequestOptionalStringValuesMatch decision.goalId observation.goalId &&
      recoveryRequestOptionalStringValuesMatch decision.goalId checkpoint.goalId &&
      recoveryRequestOptionalStringValuesMatch observation.goalId checkpoint.goalId)
    "goal_id values across reflection_decision/latest_observation/checkpoint must match when present"
  let errorInfo ← deref request.errorInfo
  let observedError ← deref observation.error
  require (recoveryRequestErrorInfoMatches errorInfo observedError)
    "error_info must mirror latest_observation.error when latest_observation.error is present"
  let source ← deref observation.source
  validateErrorSource errorInfo observation source
  let report ← deref request.idempotencyAndSideEffectReport
  let _ ← validateIdempotencyAndSideEffectReportFieldRules report
  pass "recovery request field rules validation passed"

/-! ## Outcome guards -/

def recoveryOutcomeStringHasNonWhitespaceContent (value : Bytes) : Bool :=
  value.any fun ch => !isSpace ch

def recoveryOutcomeOptionalStringHasNonWhitespaceContent (value : Option Bytes) : Bool :=
  value.all recoveryOutcomeStringHasNonWhitespaceContent

def validateRecoveryOutcomeRequiredFields (outcome : RecoveryOutcome) : Check Bytes := do
  require (hasNonEmptyValue outcome.executedAction)
    "executed_action is required and must be non-empty"
  require (hasNonEmptyValue outcome.finalRuntimeState)
    "final_runtime_state is required and must be non-empty"
  pass "all required recovery-outcome fields present"

def validateRecoveryOutcomeBoundary (outcome : RecoveryOutcome) : Check Bytes := do
  let _ ← validateRecoveryOutcomeRequiredFields outcome
  require (nonEmptyWhenPresent outcome.checkpointRef) "checkpoint_ref must be non-empty when present"
  require (nonEmptyWhenPresent outcome.compensationResultRef)
    "compensation_result_ref must be non-empty when present"
  require (nonEmptyWhenPresent outcome.rejectionReason)
    "rejection_reason must be non-empty when present"
  require (nonEmptyWhenPresent outcome.escalationReason)
    "escalation_reason must be non-empty when present"
  require (!(outcome.rejectionReason.isSome && outcome.escalationReason.isSome))
    "rejection_reason and escalation_reason must not both be present"
  pass "recovery outcome boundary validation passed"

def validateRecoveryOutcomeFieldRules (outcome : RecoveryOutcome) : Check Bytes := do
  let _ ← validateRecoveryOutcomeBoundary outcome
  let executedAction ← deref outcome.executedAction
  require (recoveryOutcomeStringHasNonWhitespaceContent executedAction)
    "executed_action must contain at least one non-whitespace character"
  let finalRuntimeState ← deref outcome.finalRuntimeState
  require (recoveryOutcomeStringHasNonWhitespaceContent finalRuntimeState)
    "final_runtime_state must contain at least one non-whitespace character"
  require (recoveryOutcomeOptionalStringHasNonWhitespaceContent outcome.checkpointRef)
    "checkpoint_ref must contain at least one non-whitespace character when present"
  require (recoveryOutcomeOptionalStringHasNonWhitespaceContent outcome.compensationResultRef)
    "compensation_result_ref must contain at least one non-whitespace character when present"
  require (recoveryOutcomeOptionalStringHasNonWhitespaceContent outcome.rejectionReason)
    "rejection_reason must contain at least one non-whitespace character when present"
  require (recoveryOutcomeOptionalStringHasNonWhitespaceContent outcome.escalationReason)
    "escalation_reason must contain at least one non-whitespace character when present"
  require (!(outcome.checkpointRef.isSome && outcome.compensationResultRef.isSome &&
      outcome.checkpointRef == outcome.compensationResultRef))
    "checkpoint_ref and compensation_result_ref must not use the same identifier"
  pass "recovery outcome field rules validation passed"

/-! ## What an accepted request holds -/

/-- What the later layers, and the recovery manager, read without a check. -/
structure RequiredEvidence (request : RecoveryRequest) : Prop where
  reflectionDecision : ∃ decision kind, request.reflectionDecision = some decision ∧
    decision.decisionKind = some kind ∧ kind.Concrete
  errorInfo : ∃ errorInfo, request.errorInfo = some errorInfo
  latestObservation : ∃ observation, request.latestObservation = some observation ∧
    (∃ id, observation.observationId = some id ∧ id ≠ []) ∧
    (∃ source, observation.source = some source ∧ source ≠ .unspecified) ∧
    (∃ success, observation.success = some success)
  checkpoint : ∃ checkpoint reason, request.checkpoint = some checkpoint ∧
    validateCheckpointFieldRules checkpoint = .ok reason
  report : ∃ report replaySafe sideEffectsPresent,
    request.idempotencyAndSideEffectReport = some report ∧
    report.replaySafe = some replaySafe ∧ report.sideEffectsPresent = some sideEffectsPresent

variable (report : IdempotencyAndSideEffectReport) (request : RecoveryRequest)
  (value : Option Bytes) (reason : Bytes)

theorem reportRequiredFields_spec
    (h : validateIdempotencyAndSideEffectReportRequiredFields report = .ok reason) :
    ∃ replaySafe sideEffectsPresent,
      report.replaySafe = some replaySafe ∧ report.sideEffectsPresent = some sideEffectsPresent := by
  simp only [validateIdempotencyAndSideEffectReportRequiredFields, bind_eq_ok, present_eq_ok,
    require_eq_ok, Option.isSome_iff_exists] at h
  obtain ⟨replaySafe, hsafe, _, _, _, ⟨sideEffectsPresent, hpresent⟩, _⟩ := h
  exact ⟨replaySafe, sideEffectsPresent, hsafe, hpresent⟩

theorem recoveryRequestRequiredFields_spec
    (h : validateRecoveryRequestRequiredFields request = .ok reason) :
    RequiredEvidence request := by
  simp only [validateRecoveryRequestRequiredFields, bind_eq_ok, present_eq_ok, nested_eq_ok] at h
  obtain ⟨decision, hdecision, _, ⟨_, hkind⟩, errorInfo, herror, _, -, observation, hobservation, _,
    ⟨_, hboundary⟩, checkpoint, hcheckpoint, _, ⟨_, hrules⟩, report, hreport, _, hsafe, -⟩ := h
  obtain ⟨kind, hkind, hconcrete⟩ := reflectionFieldRules_spec decision _ hkind
  obtain ⟨replaySafe, sideEffectsPresent, hsafe, hpresent⟩ := reportRequiredFields_spec report _ hsafe
  exact ⟨⟨decision, kind, hdecision, hkind, hconcrete⟩, ⟨errorInfo, herror⟩,
    ⟨observation, hobservation, observationBoundary_spec observation _ hboundary⟩,
    ⟨checkpoint, _, hcheckpoint, hrules⟩,
    ⟨report, replaySafe, sideEffectsPresent, hreport, hsafe, hpresent⟩⟩

theorem recoveryRequestBoundary_spec (h : validateRecoveryRequestBoundary request = .ok reason) :
    (∃ reason', validateRecoveryRequestRequiredFields request = .ok reason') ∧
    RequiredEvidence request ∧
    (∃ observation error, request.latestObservation = some observation ∧
      observation.error = some error) ∧
    (∀ snapshot, request.runtimeBudgetSnapshot = some snapshot → snapshot.Valid) := by
  simp only [validateRecoveryRequestBoundary, bind_eq_ok, deref_eq_ok, require_eq_ok,
    whenPresent_eq_ok, nested_eq_ok, Option.isSome_iff_exists, validateBudgetSnapshot_spec] at h
  obtain ⟨_, hrequired, observation, hobservation, _, _, _, _, _, ⟨error, herror⟩, _, _, _, _, _, _,
    _, _, _, hsnapshot, _⟩ := h
  exact ⟨⟨_, hrequired⟩, recoveryRequestRequiredFields_spec request _ hrequired,
    ⟨observation, error, hobservation, herror⟩, hsnapshot⟩

theorem recoveryRequestFieldRules_spec
    (h : validateRecoveryRequestFieldRules request = .ok reason) :
    (∃ reason', validateRecoveryRequestBoundary request = .ok reason') ∧
    (∃ reason', validateRecoveryRequestRequiredFields request = .ok reason') ∧
    RequiredEvidence request := by
  simp only [validateRecoveryRequestFieldRules, bind_eq_ok] at h
  obtain ⟨_, hboundary, -⟩ := h
  obtain ⟨hrequired, hevidence, -⟩ := recoveryRequestBoundary_spec request _ hboundary
  exact ⟨⟨_, hboundary⟩, hrequired, hevidence⟩

/-! ## No layer reads what an earlier one has not required -/

theorem reportRequiredFields_engaged :
    Engaged (validateIdempotencyAndSideEffectReportRequiredFields report) := by
  unfold validateIdempotencyAndSideEffectReportRequiredFields
  refine engaged_bind _ _ (engaged_present _ _) fun _ _ => ?_
  iterate 4 refine engaged_bind _ _ (engaged_require _ _) fun _ _ => ?_
  exact engaged_pass _

theorem reportFieldRules_engaged :
    Engaged (validateIdempotencyAndSideEffectReportFieldRules report) := by
  unfold validateIdempotencyAndSideEffectReportFieldRules
  refine engaged_bind _ _ (reportRequiredFields_engaged report) fun reason hreason => ?_
  obtain ⟨_, _, hsafe, hpresent⟩ := reportRequiredFields_spec report reason hreason
  refine engaged_deref_bind _ _ _ hsafe ?_
  refine engaged_deref_bind _ _ _ hpresent ?_
  refine engaged_bind _ _ (engaged_require _ _) fun _ _ => ?_
  exact engaged_pass _

theorem recoveryRequestRequiredFields_engaged :
    Engaged (validateRecoveryRequestRequiredFields request) := by
  unfold validateRecoveryRequestRequiredFields
  refine engaged_bind _ _ (engaged_present _ _) fun decision _ => ?_
  refine engaged_bind _ _ (engaged_nested _ _ (reflectionFieldRules_engaged decision)) fun _ _ => ?_
  refine engaged_bind _ _ (engaged_present _ _) fun errorInfo _ => ?_
  refine engaged_bind _ _ (engaged_nested _ _ (errorInfoRequiredFields_engaged errorInfo))
    fun _ _ => ?_
  refine engaged_bind _ _ (engaged_present _ _) fun observation _ => ?_
  refine engaged_bind _ _ (engaged_nested _ _ (observationBoundary_engaged observation))
    fun _ _ => ?_
  refine engaged_bind _ _ (engaged_present _ _) fun checkpoint _ => ?_
  refine engaged_bind _ _ (engaged_nested _ _ (fieldRules_engaged checkpoint)) fun _ _ => ?_
  refine engaged_bind _ _ (engaged_present _ _) fun report _ => ?_
  refine engaged_bind _ _ (reportRequiredFields_engaged report) fun _ _ => ?_
  exact engaged_pass _

theorem recoveryRequestBoundary_engaged :
    Engaged (validateRecoveryRequestBoundary request) := by
  unfold validateRecoveryRequestBoundary
  refine engaged_bind _ _ (recoveryRequestRequiredFields_engaged request) fun reason hreason => ?_
  have hevidence := recoveryRequestRequiredFields_spec request reason hreason
  obtain ⟨observation, hobservation, -, -, success, hsuccess⟩ := hevidence.latestObservation
  obtain ⟨checkpoint, reason', hcheckpoint, hrules⟩ := hevidence.checkpoint
  obtain ⟨state, -, hstate, -⟩ := (fieldRules_spec checkpoint reason' hrules).2
  refine engaged_deref_bind _ _ _ hobservation ?_
  refine engaged_deref_bind _ _ _ hsuccess ?_
  iterate 2 refine engaged_bind _ _ (engaged_require _ _) fun _ _ => ?_
  refine engaged_deref_bind _ _ _ hcheckpoint ?_
  refine engaged_deref_bind _ _ _ hstate ?_
  iterate 2 refine engaged_bind _ _ (engaged_require _ _) fun _ _ => ?_
  refine engaged_bind _ _ (engaged_whenPresent _ _ fun snapshot _ => ?_) fun _ _ => ?_
  · exact engaged_nested _ _ (validateBudgetSnapshot_engaged snapshot)
  · exact engaged_pass _

theorem validateErrorSource_engaged (errorInfo : ErrorInfo) (observation : Observation)
    (source : ObservationSource) (h : ∃ id, observation.observationId = some id) :
    Engaged (validateErrorSource errorInfo observation source) := by
  obtain ⟨id, hid⟩ := h
  unfold validateErrorSource
  split
  · exact engaged_bind _ _ (engaged_require _ _) fun _ _ => engaged_require _ _
  · exact engaged_bind _ _ (engaged_require _ _) fun _ _ => engaged_require _ _
  · refine engaged_bind _ _ (engaged_require _ _) fun _ _ => ?_
    exact engaged_deref_bind _ _ _ hid (engaged_require _ _)
  · refine engaged_bind _ _ (engaged_require _ _) fun _ _ => ?_
    exact engaged_deref_bind _ _ _ hid (engaged_require _ _)
  · exact engaged_reject _
  · exact stops_ok _ _

theorem recoveryRequestFieldRules_engaged :
    Engaged (validateRecoveryRequestFieldRules request) := by
  unfold validateRecoveryRequestFieldRules
  refine engaged_bind _ _ (recoveryRequestBoundary_engaged request) fun reason hreason => ?_
  obtain ⟨-, hevidence, ⟨observation, error, hobservation, herror⟩, -⟩ :=
    recoveryRequestBoundary_spec request reason hreason
  obtain ⟨decision, kind, hdecision, -⟩ := hevidence.reflectionDecision
  obtain ⟨errorInfo, herrorInfo⟩ := hevidence.errorInfo
  obtain ⟨observation', h, ⟨id, hid, -⟩, ⟨source, hsource, -⟩, -⟩ := hevidence.latestObservation
  rw [hobservation, Option.some.injEq] at h
  subst h
  obtain ⟨checkpoint, _, hcheckpoint, -⟩ := hevidence.checkpoint
  obtain ⟨report, _, _, hreport, -⟩ := hevidence.report
  refine engaged_deref_bind _ _ _ hobservation ?_
  refine engaged_bind _ _ (observationSourceCorrelation_engaged observation) fun _ _ => ?_
  refine engaged_deref_bind _ _ _ hdecision ?_
  refine engaged_deref_bind _ _ _ hcheckpoint ?_
  iterate 2 refine engaged_bind _ _ (engaged_require _ _) fun _ _ => ?_
  refine engaged_deref_bind _ _ _ herrorInfo ?_
  refine engaged_deref_bind _ _ _ herror ?_
  refine engaged_bind _ _ (engaged_require _ _) fun _ _ => ?_
  refine engaged_deref_bind _ _ _ hsource ?_
  refine engaged_bind _ _ (validateErrorSource_engaged errorInfo observation source ⟨id, hid⟩)
    fun _ _ => ?_
  refine engaged_deref_bind _ _ _ hreport ?_
  refine engaged_bind _ _ (reportFieldRules_engaged report) fun _ _ => ?_
  exact engaged_pass _

/-! ## What an accepted outcome holds -/

/-- The text is absent or has a character that is not white space. -/
def MeaningfulWhenPresent (value : Option Bytes) : Prop :=
  ∀ text, value = some text → recoveryOutcomeStringHasNonWhitespaceContent text = true

structure RecoveryOutcome.Valid (outcome : RecoveryOutcome) : Prop where
  executedAction : ∃ action, outcome.executedAction = some action ∧
    recoveryOutcomeStringHasNonWhitespaceContent action = true
  finalRuntimeState : ∃ state, outcome.finalRuntimeState = some state ∧
    recoveryOutcomeStringHasNonWhitespaceContent state = true
  checkpointRef : MeaningfulWhenPresent outcome.checkpointRef
  compensationResultRef : MeaningfulWhenPresent outcome.compensationResultRef
  rejectionReason : MeaningfulWhenPresent outcome.rejectionReason
  escalationReason : MeaningfulWhenPresent outcome.escalationReason
  exclusive : outcome.rejectionReason = none ∨ outcome.escalationReason = none
  distinct : outcome.checkpointRef = none ∨ outcome.compensationResultRef = none ∨
    outcome.checkpointRef ≠ outcome.compensationResultRef

theorem nonWhitespaceContent_ne_nil (text : Bytes)
    (h : recoveryOutcomeStringHasNonWhitespaceContent text = true) : text ≠ [] := by
  rintro rfl
  cases h

theorem optionalNonWhitespaceContent_iff :
    recoveryOutcomeOptionalStringHasNonWhitespaceContent value = true ↔
      MeaningfulWhenPresent value := by
  cases value <;>
    simp [recoveryOutcomeOptionalStringHasNonWhitespaceContent, MeaningfulWhenPresent]

theorem nonEmptyWhenPresent_of_meaningful (h : MeaningfulWhenPresent value) :
    nonEmptyWhenPresent value = true := by
  rw [nonEmptyWhenPresent_iff]
  intro hempty
  exact nonWhitespaceContent_ne_nil [] (h [] hempty) rfl

theorem notBothPresent_iff (left right : Option Bytes) :
    (!(left.isSome && right.isSome)) = true ↔ left = none ∨ right = none := by
  cases left <;> cases right <;> simp

theorem validateRecoveryOutcomeFieldRules_spec (outcome : RecoveryOutcome) :
    (∃ reason, validateRecoveryOutcomeFieldRules outcome = .ok reason) ↔ outcome.Valid := by
  have hdistinct : (!(outcome.checkpointRef.isSome && outcome.compensationResultRef.isSome &&
      outcome.checkpointRef == outcome.compensationResultRef)) = true ↔
      outcome.checkpointRef = none ∨ outcome.compensationResultRef = none ∨
        outcome.checkpointRef ≠ outcome.compensationResultRef := by
    cases outcome.checkpointRef <;> cases outcome.compensationResultRef <;> simp
  simp only [validateRecoveryOutcomeFieldRules, validateRecoveryOutcomeBoundary,
    validateRecoveryOutcomeRequiredFields, bind_eq_ok, require_eq_ok, deref_eq_ok, pass_eq_ok,
    optionalNonWhitespaceContent_iff, notBothPresent_iff, hdistinct, exists_const]
  constructor
  · rintro ⟨_, _, ⟨_, _, _, _, _, _, hexclusive, _⟩, action, haction, hactionText, state, hstate,
      hstateText, hcheckpoint, hcompensation, hrejection, hescalation, hdistinct, _⟩
    exact ⟨⟨action, haction, hactionText⟩, ⟨state, hstate, hstateText⟩, hcheckpoint, hcompensation,
      hrejection, hescalation, hexclusive, hdistinct⟩
  · intro h
    obtain ⟨action, haction, hactionText⟩ := h.executedAction
    obtain ⟨state, hstate, hstateText⟩ := h.finalRuntimeState
    have hactionPresent : hasNonEmptyValue outcome.executedAction = true :=
      (hasNonEmptyValue_iff _).mpr ⟨action, haction, nonWhitespaceContent_ne_nil _ hactionText⟩
    have hstatePresent : hasNonEmptyValue outcome.finalRuntimeState = true :=
      (hasNonEmptyValue_iff _).mpr ⟨state, hstate, nonWhitespaceContent_ne_nil _ hstateText⟩
    refine ⟨_, _, ⟨_, ⟨hactionPresent, hstatePresent, rfl⟩, ?_, ?_, ?_, ?_, h.exclusive, rfl⟩,
      action, haction, hactionText, state, hstate, hstateText, h.checkpointRef,
      h.compensationResultRef, h.rejectionReason, h.escalationReason, h.distinct, rfl⟩
    · exact nonEmptyWhenPresent_of_meaningful _ h.checkpointRef
    · exact nonEmptyWhenPresent_of_meaningful _ h.compensationResultRef
    · exact nonEmptyWhenPresent_of_meaningful _ h.rejectionReason
    · exact nonEmptyWhenPresent_of_meaningful _ h.escalationReason

end Dasall.Contracts
