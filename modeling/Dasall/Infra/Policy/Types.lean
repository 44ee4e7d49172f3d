import Dasall.Contracts.Observation

/-! # Policy rules, bundles, patches and snapshots -/

open Dasall.Contracts Dasall.Lib.Text

namespace Dasall.Infra.Policy

inductive PolicyDomain
  | unspecified
  | secretAccess
  | pluginLoad
  | diagnosticsCommand
  | otaApply
  | otaRollback
  | policyAdmin
deriving DecidableEq

def PolicyDomain.toString : PolicyDomain → Bytes
  | .secretAccess => str "secret_access"
  | .pluginLoad => str "plugin_load"
  | .diagnosticsCommand => str "diagnostics_command"
  | .otaApply => str "ota_apply"
  | .otaRollback => str "ota_rollback"
  | .policyAdmin => str "policy_admin"
  | .unspecified => str "unspecified"

inductive PolicyEffect
  | unspecified
  | allow
  | deny
  | requireConfirmation
  | observe
deriving DecidableEq

def policyEffectPrecedence : PolicyEffect → UInt32
  | .deny => 0
  | .requireConfirmation => 1
  | .allow => 2
  | .observe => 3
  | .unspecified => 4

inductive PolicyMode
  | unspecified
  | enforced
  | compatibility
deriving DecidableEq

structure PolicyRuleDescriptor where
  ruleId : Bytes := []
  domain : PolicyDomain := .unspecified
  subject : Bytes := []
  action : Bytes := []
  targetSelector : Bytes := []
  effect : PolicyEffect := .unspecified
  priority : UInt32 := 0
  mode : PolicyMode := .unspecified
  conditions : List Bytes := []
  reasonCode : Bytes := []
deriving DecidableEq

def PolicyRuleDescriptor.isValid (rule : PolicyRuleDescriptor) : Bool :=
  rule.ruleId ≠ [] && rule.domain ≠ .unspecified && rule.subject ≠ [] && rule.action ≠ [] &&
    rule.targetSelector ≠ [] && rule.effect ≠ .unspecified && rule.mode ≠ .unspecified &&
    rule.reasonCode ≠ []

structure PolicyBundle where
  bundleId : Bytes
  schemaVersion : Bytes
  source : Bytes
  checksum : Bytes
  rules : List PolicyRuleDescriptor
  generatedAt : Bytes
deriving DecidableEq

def PolicyBundle.isValid (bundle : PolicyBundle) : Bool :=
  bundle.bundleId ≠ [] && bundle.schemaVersion ≠ [] && bundle.source ≠ [] &&
    bundle.checksum ≠ [] && bundle.generatedAt ≠ [] && bundle.rules ≠ [] &&
    bundle.rules.all PolicyRuleDescriptor.isValid

structure ValidationReport where
  blockingErrors : List Bytes := []
  warnings : List Bytes := []
  invalidRuleIds : List Bytes := []
  fieldPaths : List Bytes := []
deriving DecidableEq

def ValidationReport.hasBlockingErrors (report : ValidationReport) : Bool :=
  report.blockingErrors ≠ []

inductive PolicyPatchOperationType
  | unspecified
  | addRule
  | replaceRule
  | removeRule
  | updateMode
deriving DecidableEq

structure PolicyPatchOperation where
  operation : PolicyPatchOperationType := .unspecified
  ruleId : Bytes := []
  rule : Option PolicyRuleDescriptor := none
  mode : PolicyMode := .unspecified
deriving DecidableEq

structure PolicyPatch where
  patchId : Bytes
  baseGeneration : UInt64
  operations : List PolicyPatchOperation
  actor : Bytes
  reason : Bytes
deriving DecidableEq

structure PolicySnapshot where
  snapshotId : Bytes := []
  generation : UInt64 := 0
  version : Bytes := []
  mode : PolicyMode := .unspecified
  effectiveRules : List PolicyRuleDescriptor := []
  createdAt : Bytes := []
  sourceChain : List Bytes := []
  lastKnownGoodRef : Bytes := []
deriving DecidableEq

def PolicySnapshot.isValid (snapshot : PolicySnapshot) : Bool :=
  snapshot.snapshotId ≠ [] && snapshot.generation ≠ 0 && snapshot.version ≠ [] &&
    snapshot.mode ≠ .unspecified && snapshot.createdAt ≠ [] && snapshot.effectiveRules ≠ [] &&
    snapshot.sourceChain ≠ [] && snapshot.effectiveRules.all PolicyRuleDescriptor.isValid

/-! ## Errors -/

inductive ResultCode
  | validationFieldMissing
  | policyDenied
  | toolExecutionFailed
  | providerTimeout
  | runtimeRetryExhausted
deriving DecidableEq

def ResultCode.toRaw : ResultCode → Int32
  | .validationFieldMissing => 1001
  | .policyDenied => 2001
  | .toolExecutionFailed => 3001
  | .providerTimeout => 4001
  | .runtimeRetryExhausted => 5001

def classifyResultCodeSegment (rawCode : Int32) : ResultCodeCategory :=
  if 1000 ≤ rawCode ∧ rawCode ≤ 1999 then .validation
  else if 2000 ≤ rawCode ∧ rawCode ≤ 2999 then .policy
  else if 3000 ≤ rawCode ∧ rawCode ≤ 3999 then .tool
  else if 4000 ≤ rawCode ∧ rawCode ≤ 4999 then .provider
  else if 5000 ≤ rawCode ∧ rawCode ≤ 5999 then .runtime
  else .unknown

def classifyResultCode (code : ResultCode) : ResultCodeCategory :=
  classifyResultCodeSegment code.toRaw

inductive PolicyErrorCode
  | bundleInvalid
  | schemaUnsupported
  | conflictUnresolved
  | patchBaseMismatch
  | snapshotNotFound
  | rollbackFailed
  | queryDenied
  | sourceUnavailable
  | storeCommitFailed
  | dryRunRejected
deriving DecidableEq

def policyErrorCodeName : PolicyErrorCode → Bytes
  | .bundleInvalid => str "INF_E_POLICY_BUNDLE_INVALID"
  | .schemaUnsupported => str "INF_E_POLICY_SCHEMA_UNSUPPORTED"
  | .conflictUnresolved => str "INF_E_POLICY_CONFLICT_UNRESOLVED"
  | .patchBaseMismatch => str "INF_E_POLICY_PATCH_BASE_MISMATCH"
  | .snapshotNotFound => str "INF_E_POLICY_SNAPSHOT_NOT_FOUND"
  | .rollbackFailed => str "INF_E_POLICY_ROLLBACK_FAILED"
  | .queryDenied => str "INF_E_POLICY_QUERY_DENIED"
  | .sourceUnavailable => str "INF_E_POLICY_SOURCE_UNAVAILABLE"
  | .storeCommitFailed => str "INF_E_POLICY_STORE_COMMIT_FAILED"
  | .dryRunRejected => str "INF_E_POLICY_DRYRUN_REJECTED"

/-- The result code of `map_policy_error_code`. -/
def mapPolicyErrorCode : PolicyErrorCode → ResultCode
  | .bundleInvalid | .schemaUnsupported | .patchBaseMismatch => .validationFieldMissing
  | .conflictUnresolved | .queryDenied | .dryRunRejected => .policyDenied
  | .sourceUnavailable => .providerTimeout
  | .snapshotNotFound | .rollbackFailed | .storeCommitFailed => .runtimeRetryExhausted

structure PolicyOpResult where
  applied : Bool := false
  rolledBack : Bool := false
  dryRun : Bool := false
  snapshotId : Bytes := []
  generation : UInt64 := 0
  resultCode : ResultCode := .runtimeRetryExhausted
  errorInfo : Option ErrorInfo := none
deriving DecidableEq

def PolicyOpResult.success (snapshotId : Bytes) (generation : UInt64) (rolledBack : Bool := false) :
    PolicyOpResult :=
  { applied := true, rolledBack, snapshotId, generation }

def PolicyOpResult.failure (resultCode : ResultCode) (message stage sourceRef : Bytes) :
    PolicyOpResult :=
  { resultCode
    errorInfo := some
      { failureType := some (classifyResultCode resultCode)
        retryable := some false
        safeToReplan := some false
        details := { code := some resultCode.toRaw, message, stage }
        sourceRef := { refType := str "infra.policy", refId := sourceRef } } }

/-- `make_failure` of the manager and of the store. -/
def makeFailure (code : PolicyErrorCode) (message stage sourceRef : Bytes) : PolicyOpResult :=
  .failure (mapPolicyErrorCode code) (policyErrorCodeName code ++ str ": " ++ message) stage
    sourceRef

@[simp] theorem makeFailure_applied (code : PolicyErrorCode) (message stage sourceRef : Bytes) :
    (makeFailure code message stage sourceRef).applied = false := rfl

@[simp] theorem success_applied (snapshotId : Bytes) (generation : UInt64) (rolledBack : Bool) :
    (PolicyOpResult.success snapshotId generation rolledBack).applied = true := rfl

/-!
## The schema validator

Every error appends its text and field path to the report, and a rule label where it has one.
-/

def ValidationReport.appendError (report : ValidationReport)
    (error invalidRuleId fieldPath : Bytes) : ValidationReport :=
  { report with
    blockingErrors := report.blockingErrors ++ [error]
    invalidRuleIds :=
      if invalidRuleId = [] then report.invalidRuleIds else report.invalidRuleIds ++ [invalidRuleId]
    fieldPaths := report.fieldPaths ++ [fieldPath] }

/-- One field check: the error is appended where the field does not pass. -/
def ValidationReport.require (report : ValidationReport) (passes : Bool)
    (error invalidRuleId fieldPath : Bytes) : ValidationReport :=
  if passes then report else report.appendError error invalidRuleId fieldPath

def makeRuleLabel (rule : PolicyRuleDescriptor) (ruleIndex : Nat) : Bytes :=
  if rule.ruleId ≠ [] then rule.ruleId else str "rule[" ++ decimal ruleIndex ++ str "]"

def validateConditions (conditions : List Bytes) (conditionIndex : Nat) (ruleLabel fieldPrefix : Bytes)
    (report : ValidationReport) : ValidationReport :=
  match conditions with
  | [] => report
  | condition :: rest =>
    validateConditions rest (conditionIndex + 1) ruleLabel fieldPrefix
      (report.require (condition ≠ []) (str "policy_rule_condition_invalid") ruleLabel
        (fieldPrefix ++ str ".conditions[" ++ decimal conditionIndex ++ str "]"))

def validateRuleFields (rule : PolicyRuleDescriptor) (ruleIndex : Nat) (fieldPrefix : Bytes)
    (report : ValidationReport) : ValidationReport :=
  let ruleLabel := makeRuleLabel rule ruleIndex
  let missing := str "policy_rule_field_missing"
  let report := report.require (rule.ruleId ≠ []) missing ruleLabel (fieldPrefix ++ str ".rule_id")
  let report := report.require (rule.domain ≠ .unspecified)
    (str "policy_rule_domain_unsupported") ruleLabel (fieldPrefix ++ str ".domain")
  let report := report.require (rule.subject ≠ []) missing ruleLabel (fieldPrefix ++ str ".subject")
  let report := report.require (rule.action ≠ []) missing ruleLabel (fieldPrefix ++ str ".action")
  let report := report.require (rule.targetSelector ≠ []) missing ruleLabel
    (fieldPrefix ++ str ".target_selector")
  let report := report.require (rule.effect ≠ .unspecified) (str "policy_rule_effect_invalid")
    ruleLabel (fieldPrefix ++ str ".effect")
  let report := report.require (rule.mode ≠ .unspecified) (str "policy_rule_mode_invalid")
    ruleLabel (fieldPrefix ++ str ".mode")
  let report := report.require (rule.reasonCode ≠ []) missing ruleLabel
    (fieldPrefix ++ str ".reason_code")
  validateConditions rule.conditions 0 ruleLabel fieldPrefix report

def validatePatchOperation (operation : PolicyPatchOperation) (operationIndex : Nat)
    (report : ValidationReport) : ValidationReport :=
  let operationPrefix := str "operations[" ++ decimal operationIndex ++ str "]"
  match operation.operation with
  | .addRule | .replaceRule =>
    match operation.rule with
    | none => report.appendError (str "policy_patch_rule_missing") operation.ruleId
        (operationPrefix ++ str ".rule")
    | some rule => validateRuleFields rule operationIndex (operationPrefix ++ str ".rule") report
  | .removeRule => report.require (operation.ruleId ≠ []) (str "policy_patch_rule_missing") []
      (operationPrefix ++ str ".rule_id")
  | .updateMode => report.require (operation.mode ≠ .unspecified) (str "policy_patch_mode_invalid")
      operation.ruleId (operationPrefix ++ str ".mode")
  | .unspecified => report.appendError (str "policy_patch_operation_invalid") operation.ruleId
      (operationPrefix ++ str ".operation")

/-- `validate_bundle`. -/
def validateBundle (bundle : PolicyBundle) : ValidationReport :=
  let missing := str "policy_bundle_field_missing"
  let label := str "bundle"
  let report : ValidationReport := {}
  let report := report.require (bundle.bundleId ≠ []) missing label (str "bundle_id")
  let report :=
    if bundle.schemaVersion = [] then report.appendError missing label (str "schema_version")
    else report.require (bundle.schemaVersion = str "1") (str "policy_schema_unsupported") label
      (str "schema_version")
  let report := report.require (bundle.source ≠ []) missing label (str "source")
  let report := report.require (bundle.checksum ≠ []) missing label (str "checksum")
  let report := report.require (bundle.generatedAt ≠ []) missing label (str "generated_at")
  if bundle.rules = [] then
    report.appendError (str "policy_bundle_rules_missing") label (str "rules")
  else
    bundle.rules.zipIdx.foldl
      (fun report entry =>
        validateRuleFields entry.1 entry.2 (str "rules[" ++ decimal entry.2 ++ str "]") report)
      report

/-- `validate_patch`. -/
def validatePatch (currentSnapshot : PolicySnapshot) (patch : PolicyPatch) : ValidationReport :=
  if !currentSnapshot.isValid then
    ({} : ValidationReport).appendError (str "policy_snapshot_invalid") currentSnapshot.snapshotId
      (str "current_snapshot")
  else
    let missing := str "policy_patch_field_missing"
    let label := str "patch"
    let report : ValidationReport := {}
    let report := report.require (patch.patchId ≠ []) missing label (str "patch_id")
    let report :=
      if patch.baseGeneration = 0 then
        report.appendError (str "patch_base_mismatch") label (str "base_generation")
      else report.require (patch.baseGeneration = currentSnapshot.generation)
        (str "patch_base_mismatch") label (str "base_generation")
    let report := report.require (patch.operations ≠ []) missing label (str "operations")
    let report := report.require (patch.actor ≠ []) missing label (str "actor")
    let report := report.require (patch.reason ≠ []) missing label (str "reason")
    patch.operations.zipIdx.foldl
      (fun report entry => validatePatchOperation entry.1 entry.2 report) report

/-! ## What an empty report says -/

theorem appendError_blocks (report : ValidationReport) (error invalidRuleId fieldPath : Bytes) :
    (report.appendError error invalidRuleId fieldPath).hasBlockingErrors = true := by
  simp [ValidationReport.appendError, ValidationReport.hasBlockingErrors]

theorem require_clear (report : ValidationReport) (passes : Bool)
    (error invalidRuleId fieldPath : Bytes) :
    (report.require passes error invalidRuleId fieldPath).hasBlockingErrors = false ↔
      report.hasBlockingErrors = false ∧ passes = true := by
  unfold ValidationReport.require
  split
  · next h => simp [h]
  · next h => simp [h, appendError_blocks]

theorem validateConditions_clear (conditions : List Bytes) (conditionIndex : Nat)
    (ruleLabel fieldPrefix : Bytes) (report : ValidationReport)
    (h : (validateConditions conditions conditionIndex ruleLabel fieldPrefix
      report).hasBlockingErrors = false) : report.hasBlockingErrors = false := by
  induction conditions generalizing conditionIndex report with
  | nil => exact h
  | cons condition rest ih => exact ((require_clear ..).mp (ih _ _ h)).1

theorem validateRuleFields_clear (rule : PolicyRuleDescriptor) (ruleIndex : Nat)
    (fieldPrefix : Bytes) (report : ValidationReport)
    (h : (validateRuleFields rule ruleIndex fieldPrefix report).hasBlockingErrors = false) :
    report.hasBlockingErrors = false := by
  have hfields := validateConditions_clear _ _ _ _ _ h
  simp only [require_clear] at hfields
  exact hfields.1.1.1.1.1.1.1.1

theorem validatePatchOperation_clear (operation : PolicyPatchOperation) (operationIndex : Nat)
    (report : ValidationReport)
    (h : (validatePatchOperation operation operationIndex report).hasBlockingErrors = false) :
    report.hasBlockingErrors = false := by
  unfold validatePatchOperation at h
  split at h
  case h_1 | h_2 =>
    split at h
    · rw [appendError_blocks] at h
      simp at h
    · exact validateRuleFields_clear _ _ _ _ h
  case h_3 | h_4 => exact ((require_clear ..).mp h).1
  case h_5 =>
    rw [appendError_blocks] at h
    simp at h

theorem validateOperations_clear (operations : List (PolicyPatchOperation × Nat))
    (report : ValidationReport)
    (h : (operations.foldl (fun report entry => validatePatchOperation entry.1 entry.2 report)
      report).hasBlockingErrors = false) : report.hasBlockingErrors = false := by
  induction operations generalizing report with
  | nil => exact h
  | cons entry rest ih => exact validatePatchOperation_clear _ _ _ (ih _ h)

/-- A patch passes only against a valid snapshot of the generation that it names. -/
theorem validatePatch_clear (currentSnapshot : PolicySnapshot) (patch : PolicyPatch)
    (h : (validatePatch currentSnapshot patch).hasBlockingErrors = false) :
    currentSnapshot.isValid = true ∧ patch.patchId ≠ [] ∧
      patch.baseGeneration = currentSnapshot.generation := by
  unfold validatePatch at h
  split at h
  · rw [appendError_blocks] at h
    simp at h
  next hvalid =>
  have hfields := validateOperations_clear _ _ h
  simp only [require_clear, decide_eq_true_eq] at hfields
  have hbase := hfields.1.1.1
  split at hbase
  · rw [appendError_blocks] at hbase
    simp at hbase
  · rw [require_clear, require_clear] at hbase
    simp only [decide_eq_true_eq] at hbase
    exact ⟨by simpa using hvalid, hbase.1.2, hbase.2⟩

end Dasall.Infra.Policy
