import Dasall.Infra.Policy.Types
import Dasall.Lib.Sort

/-! # Requests, answers and results of boot confirmation -/

open Dasall.Contracts Dasall.Lib Dasall.Lib.Text

namespace Dasall.Infra.Ota

open Dasall.Infra.Policy (ResultCode classifyResultCode)

def hasUniqueNonEmptyValues (values : List Bytes) : Bool :=
  decide (values.Nodup ∧ ∀ value ∈ values, value ≠ [])

def makeErrorInfo (resultCode : ResultCode) (message stage sourceRef : Bytes) : ErrorInfo :=
  { failureType := some (classifyResultCode resultCode)
    retryable := some false
    safeToReplan := some false
    details := { code := some resultCode.toRaw, message, stage }
    sourceRef := { refType := str "infra.ota", refId := sourceRef } }

def isContractError (error : ErrorInfo) (resultCode : ResultCode) : Bool :=
  error.failureType = some (classifyResultCode resultCode)

/-- The message of an error that was reported, or else the one given here. -/
def reportedMessage (error : Option ErrorInfo) (message : Bytes) : Bytes :=
  match error with
  | some error => error.details.message
  | none => message

/-! ## Answers of the boot control adapter -/

structure BootTargetQueryResult where
  resolved : Bool := false
  activeTarget : Bytes := []
  resultCode : ResultCode := .runtimeRetryExhausted
  error : Option ErrorInfo := none
deriving DecidableEq

def BootTargetQueryResult.referencesOnlyContractErrorTypes (result : BootTargetQueryResult) : Bool :=
  match result.error with
  | none => result.resolved && !result.activeTarget.isEmpty
  | some error => isContractError error result.resultCode

structure BootMutationResult where
  applied : Bool := false
  target : Bytes := []
  operation : Bytes := []
  resultCode : ResultCode := .runtimeRetryExhausted
  error : Option ErrorInfo := none
deriving DecidableEq

def BootMutationResult.referencesOnlyContractErrorTypes (result : BootMutationResult) : Bool :=
  match result.error with
  | none => result.applied && !result.target.isEmpty && !result.operation.isEmpty
  | some error => isContractError error result.resultCode

/-! ## Health -/

structure HealthSnapshot where
  liveness : Bool := false
  readiness : Bool := false
  degraded : Bool := false
  failedComponents : List Bytes := []
  version : UInt64 := 0
  timestamp : Int64 := 0
deriving DecidableEq

namespace HealthSnapshot

def reservedRuntimeStateNames : List Bytes :=
  [str "final_runtime_state", str "fsm_state", str "retry_count", str "checkpoint_ref"]

def failedComponentsAreValid (snapshot : HealthSnapshot) : Bool :=
  hasUniqueNonEmptyValues snapshot.failedComponents &&
    snapshot.failedComponents.all fun component => component ∉ reservedRuntimeStateNames

def hasConsistentState (snapshot : HealthSnapshot) : Bool :=
  snapshot.failedComponentsAreValid &&
    !(!snapshot.liveness && (snapshot.readiness || snapshot.degraded)) &&
    !(snapshot.readiness && !snapshot.liveness) && !(snapshot.degraded && !snapshot.liveness)

def hasVersionMetadata (snapshot : HealthSnapshot) : Bool :=
  0 < snapshot.version && 0 < snapshot.timestamp

end HealthSnapshot

structure HealthSnapshotResult where
  ok : Bool := false
  resultCode : Option ResultCode := none
  error : Option ErrorInfo := none
  snapshot : HealthSnapshot := {}
deriving DecidableEq

def HealthSnapshotResult.referencesOnlyContractErrorTypes (result : HealthSnapshotResult) : Bool :=
  match result.resultCode, result.error with
  | none, none => result.ok
  | some resultCode, some error => isContractError error resultCode
  | _, _ => false

/-! ## Signals and reports -/

structure BootSuccessSignal where
  signalReceived : Bool := false
  selfCheckOk : Bool := false
  detailRef : Bytes := []
  observedTs : Int64 := 0
deriving DecidableEq

def BootSuccessSignal.isValid (signal : BootSuccessSignal) : Bool :=
  !signal.detailRef.isEmpty && !(signal.selfCheckOk && !signal.signalReceived) &&
    !(signal.signalReceived && signal.observedTs ≤ 0)

structure HeartbeatFreshnessReport where
  allFresh : Bool := false
  watchdogResetDetected : Bool := false
  staleEntities : List Bytes := []
  detailRef : Bytes := []
deriving DecidableEq

def HeartbeatFreshnessReport.isValid (report : HeartbeatFreshnessReport) : Bool :=
  !report.detailRef.isEmpty &&
    if report.allFresh then !report.watchdogResetDetected && report.staleEntities.isEmpty
    else report.watchdogResetDetected || hasUniqueNonEmptyValues report.staleEntities

structure VersionReportSnapshot where
  packageId : Bytes := []
  slotBoundVersions : List Bytes := []
  detailRef : Bytes := []
  version : UInt64 := 0
  observedTs : Int64 := 0
deriving DecidableEq

def VersionReportSnapshot.isValid (report : VersionReportSnapshot) : Bool :=
  !report.packageId.isEmpty && !report.slotBoundVersions.isEmpty &&
    hasUniqueNonEmptyValues report.slotBoundVersions && !report.detailRef.isEmpty &&
    0 < report.version && 0 < report.observedTs

/-! ## Requests -/

structure SlotPlan where
  activeSlot : Bytes
  targetSlot : Bytes
  slotGroup : Bytes
  switchPolicy : Bytes
  confirmDeadline : Bytes
deriving DecidableEq

def SlotPlan.isValid (plan : SlotPlan) : Bool :=
  (!plan.activeSlot.isEmpty && !plan.targetSlot.isEmpty && plan.activeSlot ≠ plan.targetSlot) &&
    !plan.slotGroup.isEmpty && !plan.switchPolicy.isEmpty && !plan.confirmDeadline.isEmpty

structure RollbackToken where
  rollbackId : Bytes
  previousBootTarget : Bytes
  stagedArtifacts : List Bytes
  createdAt : Bytes
  expiresAt : Bytes
deriving DecidableEq

def RollbackToken.isValid (token : RollbackToken) : Bool :=
  !token.rollbackId.isEmpty && !token.previousBootTarget.isEmpty &&
    !token.stagedArtifacts.isEmpty && hasUniqueNonEmptyValues token.stagedArtifacts &&
    !token.createdAt.isEmpty && !token.expiresAt.isEmpty

structure BootConfirmationPolicySnapshot where
  healthBlockingComponents : List Bytes
  requiredHeartbeatEntities : List Bytes
  expectedSlotVersions : List Bytes
  rollbackTokenArmed : Bool := true
  autoRollbackOnFailure : Bool := true
deriving DecidableEq

def BootConfirmationPolicySnapshot.isValid (policy : BootConfirmationPolicySnapshot) : Bool :=
  !policy.healthBlockingComponents.isEmpty &&
    hasUniqueNonEmptyValues policy.healthBlockingComponents &&
    !policy.requiredHeartbeatEntities.isEmpty &&
    hasUniqueNonEmptyValues policy.requiredHeartbeatEntities &&
    !policy.expectedSlotVersions.isEmpty && hasUniqueNonEmptyValues policy.expectedSlotVersions

structure BootConfirmationRequest where
  planId : Bytes
  packageId : Bytes
  slotPlan : SlotPlan
  rollbackToken : RollbackToken
  policy : BootConfirmationPolicySnapshot
deriving DecidableEq

def BootConfirmationRequest.isValid (request : BootConfirmationRequest) : Bool :=
  !request.planId.isEmpty && !request.packageId.isEmpty && request.slotPlan.isValid &&
    request.rollbackToken.isValid &&
    request.rollbackToken.previousBootTarget = request.slotPlan.activeSlot &&
    request.policy.isValid

/-! ## Results -/

inductive BootConfirmationState
  | pending
  | confirmed
  | failed
  | timedOut
deriving DecidableEq

structure BootConfirmationSelfCheck where
  successSignalPresent : Bool := false
  selfCheckOk : Bool := false
  terminalFailure : Bool := false
  signal : BootSuccessSignal
  resultCode : Option ResultCode := none
  error : Option ErrorInfo := none
  detailRef : Bytes
deriving DecidableEq

namespace BootConfirmationSelfCheck

def pending (signal : BootSuccessSignal) (detailRef : Bytes) : BootConfirmationSelfCheck :=
  { signal, detailRef }

def success (signal : BootSuccessSignal) (detailRef : Bytes) : BootConfirmationSelfCheck :=
  { successSignalPresent := true, selfCheckOk := true, signal, detailRef }

def failure (signal : BootSuccessSignal) (resultCode : ResultCode)
    (message stage sourceRef detailRef : Bytes) : BootConfirmationSelfCheck :=
  { successSignalPresent := signal.signalReceived
    terminalFailure := true
    signal
    resultCode := some resultCode
    error := some (makeErrorInfo resultCode message stage sourceRef)
    detailRef }

def referencesOnlyContractErrorTypes (check : BootConfirmationSelfCheck) : Bool :=
  match check.error with
  | none => check.resultCode.isNone && check.signal.isValid && !check.detailRef.isEmpty
  | some error =>
    match check.resultCode with
    | none => false
    | some resultCode =>
      check.signal.isValid && !check.detailRef.isEmpty && isContractError error resultCode

def isValid (check : BootConfirmationSelfCheck) : Bool :=
  if check.terminalFailure then
    check.signal.isValid && check.resultCode.isSome && check.error.isSome &&
      check.referencesOnlyContractErrorTypes
  else if check.successSignalPresent then
    check.selfCheckOk && check.resultCode.isNone && check.error.isNone && check.signal.isValid &&
      check.signal.signalReceived && check.signal.selfCheckOk && !check.detailRef.isEmpty
  else
    !check.selfCheckOk && !check.terminalFailure && check.resultCode.isNone &&
      check.error.isNone && check.signal.isValid && !check.signal.signalReceived &&
      !check.detailRef.isEmpty

end BootConfirmationSelfCheck

structure BootConfirmationResult where
  state : BootConfirmationState := .pending
  pendingConfirm : Bool := false
  rollbackRequested : Bool := false
  detailRef : Bytes
  bootMutation : Option BootMutationResult := none
  resultCode : Option ResultCode := none
  error : Option ErrorInfo := none
deriving DecidableEq

namespace BootConfirmationResult

def pending (detailRef : Bytes) : BootConfirmationResult := { pendingConfirm := true, detailRef }

def success (bootMutation : BootMutationResult) (detailRef : Bytes) : BootConfirmationResult :=
  { state := .confirmed, detailRef, bootMutation := some bootMutation }

def failure (state : BootConfirmationState) (resultCode : ResultCode)
    (message stage sourceRef detailRef : Bytes) (rollbackRequested : Bool)
    (bootMutation : Option BootMutationResult) : BootConfirmationResult :=
  { state
    rollbackRequested
    detailRef
    bootMutation
    resultCode := some resultCode
    error := some (makeErrorInfo resultCode message stage sourceRef) }

end BootConfirmationResult

/-!
## The boot confirmation monitor

What the dependencies answer during a call is an input of the call, and the marks that the call
sets with the boot control adapter are its events.
-/

def bootConfirmationMonitorSourceRef : Bytes := str "BootConfirmationMonitor"

def normalizedOr (value fallback : Bytes) : Bytes := if value.isEmpty then fallback else value

def placeholderSignal (detailRef : Bytes) : BootSuccessSignal := { detailRef }

def containsAnyComponent (currentComponents requiredComponents : List Bytes) : Bool :=
  requiredComponents.any fun component => component ∈ currentComponents

def sameVersionSet (lhs rhs : List Bytes) : Bool :=
  if !hasUniqueNonEmptyValues lhs || !hasUniqueNonEmptyValues rhs || lhs.length ≠ rhs.length then
    false
  else
    Sort.sortBy (fun x y => decide (x < y)) lhs = Sort.sortBy (fun x y => decide (x < y)) rhs

def healthGateSatisfied (snapshot : HealthSnapshot) (policy : BootConfirmationPolicySnapshot) :
    Bool :=
  if !snapshot.hasConsistentState || !snapshot.hasVersionMetadata then false
  else if !snapshot.liveness || !snapshot.readiness then false
  else if snapshot.degraded &&
      containsAnyComponent snapshot.failedComponents policy.healthBlockingComponents then false
  else true

/-- Which dependencies the monitor has. -/
structure Dependencies where
  bootControlAdapter : Bool := true
  healthMonitor : Bool := true
  successSignalProvider : Bool := true
  heartbeatFreshnessSource : Bool := true
  versionReportSource : Bool := true
deriving DecidableEq

/-- What the dependencies answer during a call, should it ask them. -/
structure Answers where
  activeTarget : BootTargetQueryResult := {}
  signal : BootSuccessSignal := {}
  health : HealthSnapshotResult := {}
  heartbeat : HeartbeatFreshnessReport := {}
  version : VersionReportSnapshot := {}
  marked : BootMutationResult := {}
deriving DecidableEq

inductive BootEvent
  | markBootSuccess (target : Bytes) (result : BootMutationResult)
  | markBootFailed (target : Bytes) (result : BootMutationResult)
deriving DecidableEq

structure BootConfirmationMonitor where
  dependencies : Dependencies := {}
  detailRefPrefix : Bytes := str "status://ota/confirm/"
  confirmedTotal : UInt64 := 0
  pendingTotal : UInt64 := 0
  failedTotal : UInt64 := 0
  timedOutTotal : UInt64 := 0
  pendingConfirm : Bool := false
  lastErrorCode : Option ResultCode := none
  lastDetailRef : Bytes
deriving DecidableEq

namespace BootConfirmationMonitor

def statusDetailRef (detailRefPrefix suffix : Bytes) : Bytes :=
  normalizedOr detailRefPrefix (str "status://ota/confirm/") ++ suffix

def create (dependencies : Dependencies) (detailRefPrefix : Bytes) : BootConfirmationMonitor :=
  { dependencies
    detailRefPrefix := normalizedOr detailRefPrefix (str "status://ota/confirm/")
    lastDetailRef := statusDetailRef detailRefPrefix (str "idle") }

def detailRef (monitor : BootConfirmationMonitor) (suffix : Bytes) : Bytes :=
  statusDetailRef monitor.detailRefPrefix suffix

/-! ## Records -/

def recordPending (monitor : BootConfirmationMonitor) (detailRef : Bytes) :
    BootConfirmationMonitor :=
  { monitor with
    pendingTotal := monitor.pendingTotal + 1
    pendingConfirm := true
    lastErrorCode := none
    lastDetailRef := detailRef }

def recordSuccess (monitor : BootConfirmationMonitor) (detailRef : Bytes) :
    BootConfirmationMonitor :=
  { monitor with
    confirmedTotal := monitor.confirmedTotal + 1
    pendingConfirm := false
    lastErrorCode := none
    lastDetailRef := detailRef }

def recordFailure (monitor : BootConfirmationMonitor) (resultCode : ResultCode)
    (detailRef : Bytes) : BootConfirmationMonitor :=
  { monitor with
    failedTotal := monitor.failedTotal + 1
    pendingConfirm := false
    lastErrorCode := some resultCode
    lastDetailRef := detailRef }

def recordTimeout (monitor : BootConfirmationMonitor) (resultCode : ResultCode)
    (detailRef : Bytes) : BootConfirmationMonitor :=
  { monitor with
    timedOutTotal := monitor.timedOutTotal + 1
    pendingConfirm := false
    lastErrorCode := some resultCode
    lastDetailRef := detailRef }

/-! ## Exits -/

def failWithoutMutation (monitor : BootConfirmationMonitor) (state : BootConfirmationState)
    (resultCode : ResultCode) (message stage detailRef : Bytes) (rollbackRequested : Bool) :
    BootConfirmationMonitor × BootConfirmationResult :=
  (if state = .timedOut then monitor.recordTimeout resultCode detailRef
    else monitor.recordFailure resultCode detailRef,
    .failure state resultCode message stage bootConfirmationMonitorSourceRef detailRef
      rollbackRequested none)

/-- A failure of `await_confirm` that leaves the boot marks alone. -/
def failAwait (monitor : BootConfirmationMonitor) (resultCode : ResultCode)
    (message suffix : Bytes) (events : List BootEvent) :
    BootConfirmationMonitor × BootConfirmationResult × List BootEvent :=
  let failed := monitor.failWithoutMutation .failed resultCode message
    (str "ota.boot.confirm.await") (monitor.detailRef suffix) false
  (failed.1, failed.2, events)

def awaitPending (monitor : BootConfirmationMonitor) (detailRef : Bytes) :
    BootConfirmationMonitor × BootConfirmationResult × List BootEvent :=
  (monitor.recordPending detailRef, .pending detailRef, [])

def markBootFailedAndFail (monitor : BootConfirmationMonitor) (request : BootConfirmationRequest)
    (marked : BootMutationResult) (state : BootConfirmationState) (resultCode : ResultCode)
    (message stage detailRef : Bytes) :
    BootConfirmationMonitor × BootConfirmationResult × List BootEvent :=
  let events := [BootEvent.markBootFailed request.slotPlan.targetSlot marked]
  if !marked.applied || !marked.referencesOnlyContractErrorTypes then
    let failed := monitor.failWithoutMutation state marked.resultCode
      (reportedMessage marked.error
        (str "boot control adapter rejected mark_boot_failed during confirm failure handling"))
      stage (monitor.detailRef (str "mark_boot_failed_failed")) false
    (failed.1, failed.2, events)
  else
    (monitor.recordFailure resultCode detailRef,
      .failure state resultCode message stage bootConfirmationMonitorSourceRef detailRef
        request.policy.autoRollbackOnFailure (some marked), events)

/-- A failure of `await_confirm` that marks the target slot as failed. -/
def rejectAwait (monitor : BootConfirmationMonitor) (request : BootConfirmationRequest)
    (answers : Answers) (resultCode : ResultCode) (message detailRef : Bytes) :
    BootConfirmationMonitor × BootConfirmationResult × List BootEvent :=
  monitor.markBootFailedAndFail request answers.marked .failed resultCode message
    (str "ota.boot.confirm.await") detailRef

/-! ## Self check -/

def selfCheckFailure (signal : BootSuccessSignal) (resultCode : ResultCode)
    (message detailRef : Bytes) : BootConfirmationSelfCheck :=
  .failure signal resultCode message (str "ota.boot.confirm.evaluate_self_check")
    bootConfirmationMonitorSourceRef detailRef

def evaluateSelfCheck (monitor : BootConfirmationMonitor) (request : BootConfirmationRequest)
    (signal : BootSuccessSignal) : BootConfirmationSelfCheck :=
  if !request.isValid then
    let detailRef := monitor.detailRef (str "self_check/pending")
    selfCheckFailure (placeholderSignal detailRef) .validationFieldMissing
      (str "boot confirmation requires a valid request with plan, package, slot plan, rollback token, and frozen policy")
      detailRef
  else if !monitor.dependencies.successSignalProvider then
    let detailRef := monitor.detailRef (str "self_check/dependency_missing")
    selfCheckFailure (placeholderSignal detailRef) .runtimeRetryExhausted
      (str "boot confirmation monitor requires a success signal provider dependency") detailRef
  else if !signal.isValid then
    let detailRef := monitor.detailRef (str "self_check/invalid_signal")
    selfCheckFailure (placeholderSignal detailRef) .validationFieldMissing
      (str "boot success signal provider must emit a valid explicit self-check payload") detailRef
  else if !signal.signalReceived then .pending signal signal.detailRef
  else if !signal.selfCheckOk then
    selfCheckFailure signal .policyDenied
      (str "explicit self-check failure must block mark_boot_success and enter confirm failure path")
      signal.detailRef
  else .success signal signal.detailRef

/-! ## Confirmation -/

/-- The end of `await_confirm`, where every gate let the call pass. -/
def confirm (monitor : BootConfirmationMonitor) (request : BootConfirmationRequest)
    (marked : BootMutationResult) :
    BootConfirmationMonitor × BootConfirmationResult × List BootEvent :=
  let events := [BootEvent.markBootSuccess request.slotPlan.targetSlot marked]
  if !marked.applied || !marked.referencesOnlyContractErrorTypes then
    monitor.failAwait marked.resultCode
      (reportedMessage marked.error
        (str "boot control adapter rejected mark_boot_success during confirm completion"))
      (str "mark_boot_success_failed") events
  else
    let detailRef := monitor.detailRef (str "success")
    (monitor.recordSuccess detailRef, .success marked detailRef, events)

/-- The gates of `await_confirm` after the self check succeeded. -/
def checkReports (monitor : BootConfirmationMonitor) (request : BootConfirmationRequest)
    (answers : Answers) : BootConfirmationMonitor × BootConfirmationResult × List BootEvent :=
  if !answers.health.ok || !answers.health.referencesOnlyContractErrorTypes then
    monitor.failAwait (answers.health.resultCode.getD .runtimeRetryExhausted)
      (reportedMessage answers.health.error
        (str "health monitor could not provide a contract-shaped snapshot for boot confirmation"))
      (str "health_snapshot_query_failed") []
  else if !healthGateSatisfied answers.health.snapshot request.policy then
    monitor.awaitPending (monitor.detailRef (str "pending/await_health"))
  else if !answers.heartbeat.isValid then
    monitor.failAwait .validationFieldMissing
      (str "heartbeat freshness source must emit a valid confirm-critical report")
      (str "heartbeat_report_invalid") []
  else if answers.heartbeat.watchdogResetDetected || !answers.heartbeat.allFresh then
    monitor.rejectAwait request answers .policyDenied
      (if answers.heartbeat.watchdogResetDetected then
        str "watchdog reset must immediately fail boot confirmation"
      else str "required heartbeat freshness must immediately fail boot confirmation when any confirm-critical entity is stale")
      answers.heartbeat.detailRef
  else if !answers.version.isValid then
    monitor.failAwait .validationFieldMissing
      (str "version report source must emit a valid slot-bound version snapshot")
      (str "version_report_invalid") []
  else if answers.version.packageId ≠ request.packageId ||
      !sameVersionSet answers.version.slotBoundVersions request.policy.expectedSlotVersions then
    monitor.rejectAwait request answers .policyDenied
      (str "slot-bound version report must match the current package and frozen expected version set before mark_boot_success")
      answers.version.detailRef
  else monitor.confirm request answers.marked

def awaitConfirm (monitor : BootConfirmationMonitor) (request : BootConfirmationRequest)
    (answers : Answers) : BootConfirmationMonitor × BootConfirmationResult × List BootEvent :=
  if !request.isValid then
    monitor.failAwait .validationFieldMissing
      (str "boot confirmation requires a valid request before awaiting success criteria")
      (str "invalid_request") []
  else if !monitor.dependencies.bootControlAdapter || !monitor.dependencies.healthMonitor ||
      !monitor.dependencies.heartbeatFreshnessSource ||
      !monitor.dependencies.versionReportSource then
    monitor.failAwait .runtimeRetryExhausted
      (str "boot confirmation monitor requires boot, health, heartbeat, and version-report dependencies")
      (str "dependency_missing") []
  else if !answers.activeTarget.resolved ||
      !answers.activeTarget.referencesOnlyContractErrorTypes then
    monitor.failAwait answers.activeTarget.resultCode
      (reportedMessage answers.activeTarget.error
        (str "boot control adapter could not resolve the current active target during confirm"))
      (str "active_target_query_failed") []
  else if answers.activeTarget.activeTarget ≠ request.slotPlan.targetSlot then
    monitor.rejectAwait request answers .policyDenied
      (str "boot confirm requires the rebooted active target to match SlotPlan.target_slot")
      (monitor.detailRef (str "active_target_mismatch"))
  else if !request.policy.rollbackTokenArmed then
    monitor.rejectAwait request answers .policyDenied
      (str "boot confirm requires an armed rollback token before mark_boot_success can run")
      (monitor.detailRef (str "rollback_token_not_armed"))
  else
    let selfCheck := monitor.evaluateSelfCheck request answers.signal
    if !selfCheck.isValid then
      monitor.failAwait .runtimeRetryExhausted
        (str "boot confirmation self-check evaluation produced an invalid internal result")
        (str "invalid_self_check_result") []
    else if selfCheck.terminalFailure then
      monitor.rejectAwait request answers (selfCheck.resultCode.getD .runtimeRetryExhausted)
        (reportedMessage selfCheck.error []) selfCheck.detailRef
    else if !selfCheck.successSignalPresent then monitor.awaitPending selfCheck.detailRef
    else monitor.checkReports request answers

def handleTimeout (monitor : BootConfirmationMonitor) (request : BootConfirmationRequest)
    (marked : BootMutationResult) :
    BootConfirmationMonitor × BootConfirmationResult × List BootEvent :=
  let stage := str "ota.boot.confirm.handle_timeout"
  if !request.isValid then
    let failed := monitor.failWithoutMutation .timedOut .validationFieldMissing
      (str "boot confirmation timeout handling requires a valid request") stage
      (monitor.detailRef (str "timeout/invalid_request")) false
    (failed.1, failed.2, [])
  else if !monitor.dependencies.bootControlAdapter then
    let failed := monitor.failWithoutMutation .timedOut .runtimeRetryExhausted
      (str "boot confirmation timeout handling requires a boot control adapter dependency") stage
      (monitor.detailRef (str "timeout/dependency_missing")) false
    (failed.1, failed.2, [])
  else
    let events := [BootEvent.markBootFailed request.slotPlan.targetSlot marked]
    if !marked.applied || !marked.referencesOnlyContractErrorTypes then
      let failed := monitor.failWithoutMutation .timedOut marked.resultCode
        (reportedMessage marked.error
          (str "boot control adapter rejected mark_boot_failed during confirm timeout handling"))
        stage (monitor.detailRef (str "timeout/mark_boot_failed_failed")) false
      (failed.1, failed.2, events)
    else
      -- The mapping of `OTABootConfirmTimeout` gives the code of a provider's timeout.
      let detailRef := monitor.detailRef (str "timeout")
      (monitor.recordTimeout .providerTimeout detailRef,
        .failure .timedOut .providerTimeout
          (str "INF_E_OTA_BOOT_CONFIRM_TIMEOUT: confirm window expired before explicit success criteria were satisfied")
          stage bootConfirmationMonitorSourceRef detailRef request.policy.autoRollbackOnFailure
          (some marked), events)

end BootConfirmationMonitor

/-- A call, with what the dependencies answer during it. -/
inductive BootCall
  | awaitConfirm (answers : Answers)
  | handleTimeout (marked : BootMutationResult)
deriving DecidableEq

/-- A call for the request. -/
def BootConfirmationMonitor.step (request : BootConfirmationRequest)
    (monitor : BootConfirmationMonitor) :
    BootCall → BootConfirmationMonitor × BootConfirmationResult × List BootEvent
  | .awaitConfirm answers => monitor.awaitConfirm request answers
  | .handleTimeout marked => monitor.handleTimeout request marked

end Dasall.Infra.Ota
