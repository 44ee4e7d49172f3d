import Dasall.Contracts.Recovery
import Dasall.Runtime.Checkpoint.Consistency

/-!
# The recovery manager

`evaluate` turns a request into a plan, `execute` a plan into an outcome, and `apply`
reports what became of an outcome. The retry count travels from `evaluate` to `execute`
in a member of the manager.
-/

open Dasall.Lib.Text Dasall.Lib.Guard Dasall.Contracts

namespace Dasall.Runtime

/-- `Admit`, `Reject` and `Escalate`. -/
inductive RecoveryAdmission
  | admitted
  | rejected
  | escalated
deriving DecidableEq, Repr

structure SafeFailureHint where
  enterSafeMode : Bool
  enterDegradedMode : Bool
  reason : Bytes
deriving DecidableEq

structure RecoveryExecutionPlan where
  admission : RecoveryAdmission := .rejected
  plannedAction : Bytes := []
  resumePlan : Option ResumePlan := none
  safeFailureHint : Option SafeFailureHint := none
  errorCode : Option RuntimeErrorCode := none
  detail : Bytes := []
deriving DecidableEq

def RecoveryExecutionPlan.executable (plan : RecoveryExecutionPlan) : Bool :=
  plan.admission == .admitted

def RecoveryExecutionPlan.escalated (plan : RecoveryExecutionPlan) : Bool :=
  plan.admission == .escalated

structure RecoveryApplyResult where
  applied : Bool
  errorCode : Option RuntimeErrorCode
  detail : Bytes
deriving DecidableEq

def makeRecoveryExecutionPlan (plannedAction detail : Bytes) (resumePlan : Option ResumePlan) :
    RecoveryExecutionPlan where
  admission := .admitted
  plannedAction := plannedAction
  resumePlan := resumePlan
  detail := detail

def makeRecoveryRejectionPlan (detail : Bytes) (errorCode : Option RuntimeErrorCode) :
    RecoveryExecutionPlan where
  admission := .rejected
  plannedAction := str "reject"
  errorCode := errorCode
  detail := detail

def makeRecoveryEscalationPlan (detail : Bytes) (safeFailureHint : SafeFailureHint) :
    RecoveryExecutionPlan where
  admission := .escalated
  plannedAction := str "escalate"
  safeFailureHint := some safeFailureHint
  errorCode := some .rtE501RecoveryEscalated
  detail := detail

/-! ## Budgets -/

def findBudgetEntry (snapshot : BudgetSnapshot) (budgetType : BudgetType) :
    Option BudgetSnapshotEntry :=
  snapshot.entries.find? fun entry => entry.budgetType == budgetType

def snapshotIsExhausted (snapshot : BudgetSnapshot) : Bool :=
  hasNonEmptyValue snapshot.overallRejectReason ||
    snapshot.entries.any fun entry => entry.max < entry.current || entry.rejectReason.isSome

def replanBudgetAvailable (snapshot : BudgetSnapshot) : Bool :=
  match findBudgetEntry snapshot .replan with
  | none => true
  | some entry => entry.current ≤ entry.max && entry.rejectReason.isNone

/-! ## Plans -/

def runtimeErrorCodeLabel : RuntimeErrorCode → Bytes
  | .rtE304ReplanOverrun => str "RT_E_304_REPLAN_OVERRUN"
  | .rtE412ResumeRejected => str "RT_E_412_RESUME_REJECTED"
  | .rtE500RecoveryRejected => str "RT_E_500_RECOVERY_REJECTED"
  | .rtE510SafeModeEntered => str "RT_E_510_SAFE_MODE_ENTERED"
  | .rtE511DegradeEntered => str "RT_E_511_DEGRADE_ENTERED"
  | _ => str "RT_E_000_UNSPECIFIED"

def makeDetail (code : RuntimeErrorCode) (detail : Bytes) : Bytes :=
  runtimeErrorCodeLabel code ++ str ": " ++ detail

/-- A rejection whose detail starts with the label of its error code. -/
def rejectionPlan (code : RuntimeErrorCode) (detail : Bytes) : RecoveryExecutionPlan :=
  makeRecoveryRejectionPlan (makeDetail code detail) (some code)

def makeDegradePlan (detail : Bytes) : RecoveryExecutionPlan :=
  makeRecoveryEscalationPlan detail ⟨false, true, detail⟩

def abortSafePlan : RecoveryExecutionPlan :=
  makeRecoveryEscalationPlan (str "reflection requested abort_safe escalation")
    ⟨true, false, str "abort_safe should enter a supervised recovery path"⟩

/-- The count of the request, else the one of its checkpoint, else zero. -/
def retryCountOf (request : RecoveryRequest) (checkpoint : Checkpoint) : UInt32 :=
  request.retryCount.getD (checkpoint.retryCount.getD 0)

def makeReplanToken (request : RecoveryRequest) (checkpoint : Checkpoint) : Bytes :=
  str "replan:" ++ checkpoint.checkpointId.getD (str "unknown") ++ str ":" ++
    decimal (retryCountOf request checkpoint + 1).toNat

def replanPlan (request : RecoveryRequest) (checkpoint : Checkpoint) : RecoveryExecutionPlan :=
  if request.runtimeBudgetSnapshot.all replanBudgetAvailable then
    makeRecoveryExecutionPlan (str "replan")
      (str "replan admitted; new retry_idempotency_token=" ++ makeReplanToken request checkpoint)
      none
  else rejectionPlan .rtE304ReplanOverrun (str "replan budget exhausted")

/-- The branch of `Continue` and `RetryStep`. -/
def replayPlan (request : RecoveryRequest) (checkpoint : Checkpoint)
    (kind : ReflectionDecisionKind) : Check RecoveryExecutionPlan := do
  let report ← deref request.idempotencyAndSideEffectReport
  let replaySafe ← deref report.replaySafe
  if !replaySafe then
    .ok (rejectionPlan .rtE500RecoveryRejected
      (report.nonReplayableReason.getD
        (str "replay rejected because side effects are not replay-safe")))
  else
    match report.idempotencyKey with
    | none | some [] =>
      .ok (rejectionPlan .rtE500RecoveryRejected
        (str "retry_step requires retry_idempotency_token reuse evidence"))
    | some idempotencyKey => do
      let resumeDecision ← synthesizeResumePlan checkpoint
      if !resumeDecision.resumable then
        .ok (rejectionPlan (resumeDecision.errorCode.getD .rtE412ResumeRejected)
          resumeDecision.detail)
      else
        let action := if kind == .continue_ then str "continue" else str "retry_step"
        .ok (makeRecoveryExecutionPlan action
          (action ++ str " admitted; reuse retry_idempotency_token=" ++ idempotencyKey)
          resumeDecision.plan)

/-- The switch over the kind of the decision. A kind that no case names leaves the plan
as it was built. -/
def planDecision (request : RecoveryRequest) (checkpoint : Checkpoint) :
    ReflectionDecisionKind → Check RecoveryExecutionPlan
  | .abortSafe => .ok abortSafePlan
  | .replan => .ok (replanPlan request checkpoint)
  | .continue_ => replayPlan request checkpoint .continue_
  | .retryStep => replayPlan request checkpoint .retryStep
  | .unspecified =>
    .ok (rejectionPlan .rtE500RecoveryRejected (str "reflection decision must be concrete"))
  | .unlisted _ => .ok {}

/-! ## The manager -/

structure RecoveryManager where
  lastEvaluatedRetryCount : Option UInt32
  lastOutcome : Option RecoveryOutcome
deriving DecidableEq

/-- The three branches of `evaluate`, before an unplanned action is rejected. Only the last
one writes the retry count. -/
def RecoveryManager.evaluateRequest (manager : RecoveryManager) (request : RecoveryRequest) :
    Check (RecoveryManager × RecoveryExecutionPlan) :=
  match validateRecoveryRequestFieldRules request with
  | .error .disengaged => .error .disengaged
  | .error (.reject reason) => .ok (manager, rejectionPlan .rtE500RecoveryRejected reason)
  | .ok _ =>
    match request.runtimeBudgetSnapshot.filter snapshotIsExhausted with
    | some snapshot =>
      .ok (manager, makeDegradePlan (snapshot.overallRejectReason.getD
        (str "runtime budget exhausted during recovery admission")))
    | none => do
      let checkpoint ← deref request.checkpoint
      let retryCount := retryCountOf request checkpoint
      let decision ← deref request.reflectionDecision
      let kind ← deref decision.decisionKind
      let result ← planDecision request checkpoint kind
      .ok ({ manager with lastEvaluatedRetryCount := some (retryCount + 1) }, result)

def RecoveryManager.evaluate (manager : RecoveryManager) (request : RecoveryRequest) :
    Check (RecoveryManager × RecoveryExecutionPlan) := do
  let (manager, result) ← manager.evaluateRequest request
  if result.plannedAction.isEmpty then
    .ok (manager, rejectionPlan .rtE500RecoveryRejected
      (str "recovery decision is not supported"))
  else .ok (manager, result)

def RecoveryManager.execute (manager : RecoveryManager) (plan : RecoveryExecutionPlan) :
    RecoveryOutcome :=
  let updatedRetryCount := manager.lastEvaluatedRetryCount
  if !plan.executable then
    if plan.escalated then
      let degraded := plan.safeFailureHint.any (·.enterDegradedMode)
      { executedAction := some (if degraded then str "degrade" else str "abort_safe")
        finalRuntimeState := some (if degraded then str "Degraded" else str "FailedSafe")
        updatedRetryCount
        checkpointRef := none
        compensationResultRef := none
        rejectionReason := none
        escalationReason := some plan.detail }
    else
      { executedAction := some (str "rejected")
        finalRuntimeState := some (str "FailedSafe")
        updatedRetryCount
        checkpointRef := none
        compensationResultRef := none
        rejectionReason := some plan.detail
        escalationReason := none }
  else
    let finalState :=
      if plan.plannedAction == str "replan" then str "Planning"
      else match plan.resumePlan with
        | some resumePlan => runtimeStateName resumePlan.targetState
        | none => str "Reasoning"
    { executedAction := some plan.plannedAction
      finalRuntimeState := some finalState
      updatedRetryCount
      checkpointRef := plan.resumePlan.map (·.checkpointRef)
      compensationResultRef := none
      rejectionReason := none
      escalationReason := none }

def RecoveryManager.apply (manager : RecoveryManager) (outcome : RecoveryOutcome) :
    Check (RecoveryManager × RecoveryApplyResult) :=
  match validateRecoveryOutcomeFieldRules outcome with
  | .error .disengaged => .error .disengaged
  | .error (.reject reason) => .ok (manager, ⟨false, some .rtE500RecoveryRejected, reason⟩)
  | .ok _ => do
    let manager := { manager with lastOutcome := some outcome }
    let executedAction ← deref outcome.executedAction
    if executedAction == str "rejected" then
      .ok (manager, ⟨false, some .rtE500RecoveryRejected, outcome.rejectionReason.getD
        (makeDetail .rtE500RecoveryRejected (str "rejected outcomes are not applied"))⟩)
    else if executedAction == str "abort_safe" then
      .ok (manager, ⟨true, some .rtE510SafeModeEntered,
        makeDetail .rtE510SafeModeEntered (str "abort_safe outcome applied")⟩)
    else if executedAction == str "degrade" then
      .ok (manager, ⟨true, some .rtE511DegradeEntered,
        makeDetail .rtE511DegradeEntered (str "degraded recovery outcome applied")⟩)
    else .ok (manager, ⟨true, none, str "recovery outcome applied"⟩)

end Dasall.Runtime
