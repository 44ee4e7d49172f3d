import Dasall.Infra.Policy.Types
import Dasall.Lib.Table

/-! # Secrets, their handles and leases, and the answers of a backend -/

open Dasall.Contracts Dasall.Lib.Text Dasall.Lib

namespace Dasall.Infra.Secret

open Dasall.Infra.Policy (ResultCode classifyResultCode)

/-! ## Errors -/

inductive SecretErrorCode
  | notFound
  | accessDenied
  | backendUnavailable
  | leaseExpired
  | versionStale
  | materializeFailed
  | rotationValidationFailed
  | rotationRollbackFailed
  | auditWriteFail
deriving DecidableEq

def secretErrorCodeName : SecretErrorCode → Bytes
  | .notFound => str "INF_E_SECRET_NOT_FOUND"
  | .accessDenied => str "INF_E_SECRET_ACCESS_DENIED"
  | .backendUnavailable => str "INF_E_SECRET_BACKEND_UNAVAILABLE"
  | .leaseExpired => str "INF_E_SECRET_LEASE_EXPIRED"
  | .versionStale => str "INF_E_SECRET_VERSION_STALE"
  | .materializeFailed => str "INF_E_SECRET_MATERIALIZE_FAILED"
  | .rotationValidationFailed => str "INF_E_SECRET_ROTATION_VALIDATION_FAILED"
  | .rotationRollbackFailed => str "INF_E_SECRET_ROTATION_ROLLBACK_FAILED"
  | .auditWriteFail => str "INF_E_SECRET_AUDIT_WRITE_FAIL"

/-- The result code of `map_secret_error_code`. -/
def mapSecretErrorCode : SecretErrorCode → ResultCode
  | .notFound => .validationFieldMissing
  | .accessDenied => .policyDenied
  | .backendUnavailable => .providerTimeout
  | .leaseExpired | .versionStale | .rotationRollbackFailed => .runtimeRetryExhausted
  | .materializeFailed | .rotationValidationFailed | .auditWriteFail => .toolExecutionFailed

def makeErrorInfo (resultCode : ResultCode) (message stage sourceRef : Bytes) : ErrorInfo :=
  { failureType := some (classifyResultCode resultCode)
    retryable := some false
    safeToReplan := some false
    details := { code := some resultCode.toRaw, message, stage }
    sourceRef := { refType := str "infra.secret", refId := sourceRef } }

def referencesOnlyContractErrorTypes (ok : Bool) (resultCode : Option ResultCode) :
    Option ErrorInfo → Bool
  | none => ok && resultCode.isNone
  | some errorInfo =>
    resultCode.any fun code => errorInfo.failureType = some (classifyResultCode code)

def extractErrorMessage (errorInfo : Option ErrorInfo) (fallbackMessage : Bytes) : Bytes :=
  match errorInfo with
  | none => fallbackMessage
  | some info => if info.details.message ≠ [] then info.details.message else fallbackMessage

/-! ## Queries and requests -/

inductive SecretAccessMode
  | unspecified
  | metadataOnly
  | materialize
  | rotate
  | revoke
deriving DecidableEq

structure SecretQuery where
  secretName : Bytes
  versionHint : Bytes := []
  purpose : Bytes
  accessMode : SecretAccessMode := .unspecified
deriving DecidableEq

def SecretQuery.isValid (query : SecretQuery) : Bool :=
  query.secretName ≠ [] && query.purpose ≠ [] && query.accessMode ≠ .unspecified

structure SecretAccessContext where
  requestId : Option Bytes := none
  sessionId : Option Bytes := none
  taskId : Option Bytes := none
  actor : Bytes
  consumerModule : Bytes
  permissionDomain : Bytes
deriving DecidableEq

def hasNonEmptyValue (value : Option Bytes) : Bool := value.any (· ≠ [])

def SecretAccessContext.hasAuditAnchor (context : SecretAccessContext) : Bool :=
  hasNonEmptyValue context.requestId || hasNonEmptyValue context.taskId

def SecretAccessContext.isValid (context : SecretAccessContext) : Bool :=
  context.hasAuditAnchor && context.actor ≠ [] && context.consumerModule ≠ [] &&
    context.permissionDomain ≠ [] && context.requestId.all (· ≠ []) &&
    context.sessionId.all (· ≠ []) && context.taskId.all (· ≠ [])

inductive RotationStrategy
  | unspecified
  | inPlace
  | dualSlot
deriving DecidableEq

structure RotationRequest where
  secretName : Bytes
  requestedBy : Bytes
  reasonCode : Bytes
  strategy : RotationStrategy := .unspecified
  validateOnly : Bool := false
deriving DecidableEq

def RotationRequest.isValid (request : RotationRequest) : Bool :=
  request.secretName ≠ [] && request.requestedBy ≠ [] && request.reasonCode ≠ [] &&
    request.strategy ≠ .unspecified

/-! ## Records, handles and leases -/

inductive SecretBackendType
  | unspecified
  | file
  | kms
  | mock
deriving DecidableEq

inductive SecretClassification
  | unspecified
  | credential
  | token
  | certificate
  | sensitiveConfig
deriving DecidableEq

structure SecretDescriptor where
  secretName : Bytes := []
  backendType : SecretBackendType := .unspecified
  classification : SecretClassification := .unspecified
  rotationPolicyRef : Bytes := []
  ownerRef : Bytes := []
deriving DecidableEq

structure SecretBackendRecord where
  descriptor : SecretDescriptor := {}
  backendRef : Bytes := []
  version : Bytes := []
  cipherRef : Bytes := []
  encryptedAtRest : Bool := true
deriving DecidableEq

structure SecretHandle where
  handleId : Bytes := []
  secretName : Bytes := []
  version : Bytes := []
  backendRef : Bytes := []
  issuedAtMs : Int64 := 0
  expiresAtMs : Int64 := 0
  redactionHint : Bytes := []
deriving DecidableEq

def SecretHandle.isValid (handle : SecretHandle) : Bool :=
  handle.handleId ≠ [] && handle.secretName ≠ [] && handle.version ≠ [] &&
    handle.backendRef ≠ [] && 0 < handle.issuedAtMs && handle.issuedAtMs ≤ handle.expiresAtMs &&
    handle.redactionHint ≠ []

inductive SecretLeaseState
  | unspecified
  | active
  | released
  | expired
  | revoked
  | stale
deriving DecidableEq

structure SecretLease where
  leaseId : Bytes := []
  handleId : Bytes := []
  consumerRef : Bytes := []
  expiresAtMs : Int64 := 0
  rotationEpoch : UInt64 := 0
  state : SecretLeaseState := .unspecified
deriving DecidableEq

def SecretLease.isValid (lease : SecretLease) : Bool :=
  lease.leaseId ≠ [] && lease.handleId ≠ [] && lease.consumerRef ≠ [] && 0 < lease.expiresAtMs &&
    0 < lease.rotationEpoch && lease.state ≠ .unspecified

/-! ## Results -/

inductive RotationValidationState
  | unspecified
  | pending
  | succeeded
  | failed
  | rolledBack
deriving DecidableEq

structure RotationResult where
  rotated : Bool := false
  secretName : Bytes
  previousVersion : Bytes
  currentVersion : Bytes
  validationState : RotationValidationState := .unspecified
  rollbackReady : Bool := false
  evidenceRef : Bytes
  resultCode : Option ResultCode := none
  errorInfo : Option ErrorInfo := none
deriving DecidableEq

def RotationResult.success (secretName previousVersion currentVersion evidenceRef : Bytes)
    (rollbackReady : Bool) : RotationResult :=
  { rotated := true
    secretName
    previousVersion
    currentVersion
    validationState := .succeeded
    rollbackReady
    evidenceRef }

def RotationResult.failure (secretName previousVersion currentVersion evidenceRef : Bytes)
    (resultCode : ResultCode) (message stage sourceRef : Bytes) (rollbackReady : Bool) :
    RotationResult :=
  { secretName
    previousVersion
    currentVersion
    validationState := .failed
    rollbackReady
    evidenceRef
    resultCode := some resultCode
    errorInfo := some (makeErrorInfo resultCode message stage sourceRef) }

structure SecretLifecycleResult where
  ok : Bool := false
  secretName : Bytes
  leaseId : Option Bytes := none
  resultCode : Option ResultCode := none
  errorInfo : Option ErrorInfo := none
deriving DecidableEq

def SecretLifecycleResult.success (secretName : Bytes) (leaseId : Option Bytes) :
    SecretLifecycleResult :=
  { ok := true, secretName, leaseId }

def SecretLifecycleResult.failure (secretName : Bytes) (resultCode : ResultCode)
    (message stage sourceRef : Bytes) (leaseId : Option Bytes) : SecretLifecycleResult :=
  { secretName
    leaseId
    resultCode := some resultCode
    errorInfo := some (makeErrorInfo resultCode message stage sourceRef) }

structure SecretHandleResult where
  ok : Bool := false
  handle : SecretHandle := {}
  resultCode : Option ResultCode := none
  errorInfo : Option ErrorInfo := none
deriving DecidableEq

def SecretHandleResult.failure (resultCode : ResultCode) (message stage sourceRef : Bytes) :
    SecretHandleResult :=
  { resultCode := some resultCode
    errorInfo := some (makeErrorInfo resultCode message stage sourceRef) }

/-- The materialized bytes themselves are left out. -/
structure SecretMaterializationResult where
  ok : Bool := false
  lease : SecretLease := {}
  resultCode : Option ResultCode := none
  errorInfo : Option ErrorInfo := none
deriving DecidableEq

def SecretMaterializationResult.failure (resultCode : ResultCode)
    (message stage sourceRef : Bytes) : SecretMaterializationResult :=
  { resultCode := some resultCode
    errorInfo := some (makeErrorInfo resultCode message stage sourceRef) }

structure SecretBackendFetchResult where
  ok : Bool := false
  record : SecretBackendRecord := {}
  resultCode : Option ResultCode := none
  errorInfo : Option ErrorInfo := none
deriving DecidableEq

structure SecretVersionPromotionRequest where
  secretName : Bytes
  previousVersion : Bytes
  candidateVersion : Bytes
  rotationEpoch : UInt64 := 0
  validateOnly : Bool := false
deriving DecidableEq

structure SecretRotationValidationContext where
  secretName : Bytes
  previousVersion : Bytes
  candidateVersion : Bytes
  strategy : RotationStrategy := .unspecified
  requestedBy : Bytes
  reasonCode : Bytes
  validationRequired : Bool := true
  dualSlotEnabled : Bool := true
  nextRotationEpoch : UInt64 := 0
  gracePeriodSec : Int64 := 0
deriving DecidableEq

def SecretRotationValidationContext.isValid (context : SecretRotationValidationContext) : Bool :=
  context.secretName ≠ [] && context.previousVersion ≠ [] && context.candidateVersion ≠ [] &&
    context.previousVersion ≠ context.candidateVersion && context.strategy ≠ .unspecified &&
    context.requestedBy ≠ [] && context.reasonCode ≠ [] && 0 < context.nextRotationEpoch &&
    0 ≤ context.gracePeriodSec

structure SecretRotationValidationDecision where
  accepted : Bool := false
  reasonCode : Bytes
  evidenceRef : Bytes
  rollbackReady : Bool := false
  resultCode : Option ResultCode := none
  errorInfo : Option ErrorInfo := none
deriving DecidableEq

def SecretRotationValidationDecision.success (reasonCode evidenceRef : Bytes)
    (rollbackReady : Bool) : SecretRotationValidationDecision :=
  { accepted := true, reasonCode, evidenceRef, rollbackReady }

def SecretRotationValidationDecision.isValid (decision : SecretRotationValidationDecision) : Bool :=
  decision.reasonCode ≠ [] && decision.evidenceRef ≠ [] &&
    if decision.accepted then decision.resultCode.isNone && decision.errorInfo.isNone
    else decision.resultCode.isSome && decision.errorInfo.isSome &&
      referencesOnlyContractErrorTypes false decision.resultCode decision.errorInfo

/-! ## The lease registry -/

structure SecretLeaseRegistryOptions where
  leasePrefix : Bytes := str "secret-lease://"
  initialRotationEpoch : UInt64 := 1

structure LeaseEntry where
  handle : SecretHandle
  lease : SecretLease
deriving DecidableEq

structure SecretLeaseCreateResult where
  ok : Bool := false
  lease : SecretLease := {}
  resultCode : Option ResultCode := none
  errorInfo : Option ErrorInfo := none

structure SecretLeaseRegistry where
  options : SecretLeaseRegistryOptions := {}
  leases : Table Bytes LeaseEntry := ∅
  nextLeaseSequence : UInt64 := 1

namespace SecretLeaseRegistry

def sourceRef : Bytes := str "SecretLeaseRegistry"

def normalizeTargetState : SecretLeaseState → SecretLeaseState
  | .released => .released
  | .expired => .expired
  | .revoked => .revoked
  | .stale => .stale
  | .unspecified | .active => .expired

/-- What follows the first "://". -/
def afterScheme : Bytes → Option Bytes
  | 58 :: 47 :: 47 :: rest => some rest
  | _ :: rest => afterScheme rest
  | [] => none

def resolveSecretName (handle : SecretHandle) (lease : SecretLease) : Bytes :=
  if handle.secretName ≠ [] then handle.secretName
  else
    match afterScheme lease.handleId with
    | none => if lease.handleId = [] then str "unresolved-secret" else lease.handleId
    | some path =>
      let name := ((path.reverse.dropWhile (· ≠ 47)).drop 1).reverse
      if name = [] then path else name

def makeCreateFailure (errorCode : SecretErrorCode) (message stage : String) :
    SecretLeaseCreateResult :=
  { resultCode := some (mapSecretErrorCode errorCode)
    errorInfo := some (makeErrorInfo (mapSecretErrorCode errorCode)
      (secretErrorCodeName errorCode ++ str ": " ++ str message) (str stage) sourceRef) }

def makeLifecycleFailure (secretName : Bytes) (leaseId : Option Bytes) (errorCode : SecretErrorCode)
    (message stage : String) : SecretLifecycleResult :=
  .failure (if secretName = [] then str "unresolved-secret" else secretName)
    (mapSecretErrorCode errorCode) (secretErrorCodeName errorCode ++ str ": " ++ str message)
    (str stage) sourceRef leaseId

/-- The failure of the three operations that are given an invalid lease or handle. -/
def refuseInvalid (handle : SecretHandle) (lease : SecretLease) (message stage : String) :
    SecretLifecycleResult :=
  .failure (resolveSecretName handle lease) .validationFieldMissing (str message) (str stage)
    sourceRef (if lease.leaseId = [] then none else some lease.leaseId)

def resolveDeadlineMs (handle : SecretHandle) (deadlineMs : Option Int64) : Int64 :=
  min handle.expiresAtMs (deadlineMs.getD handle.expiresAtMs)

/-- The id of the next lease on a handle. -/
def nextLeaseId (registry : SecretLeaseRegistry) (handle : SecretHandle) : Bytes :=
  registry.options.leasePrefix ++ handle.secretName ++ str "/" ++
    decimal registry.nextLeaseSequence.toNat

def createLease (registry : SecretLeaseRegistry) (handle : SecretHandle) (consumerRef : Bytes)
    (rotationEpoch : UInt64) (deadlineMs : Option Int64) (nowMs : Int64) :
    SecretLeaseRegistry × SecretLeaseCreateResult :=
  if !handle.isValid || consumerRef = [] then
    (registry,
      { resultCode := some .validationFieldMissing
        errorInfo := some (makeErrorInfo .validationFieldMissing
          (str "secret lease creation requires a valid handle and non-empty consumer_ref")
          (str "secret.lease.create") sourceRef) })
  else if resolveDeadlineMs handle deadlineMs < nowMs then
    (registry, makeCreateFailure .leaseExpired
      "secret lease deadline already expired during create_lease" "secret.lease.create")
  else
    let lease : SecretLease :=
      { leaseId := registry.nextLeaseId handle
        handleId := handle.handleId
        consumerRef
        expiresAtMs := resolveDeadlineMs handle deadlineMs
        rotationEpoch := max registry.options.initialRotationEpoch
          (if rotationEpoch = 0 then registry.options.initialRotationEpoch else rotationEpoch)
        state := .active }
    ({ registry with
        nextLeaseSequence := registry.nextLeaseSequence + 1
        leases := registry.leases.insert lease.leaseId { handle, lease } },
      { ok := true, lease })

/-- The state of a registered lease is set. -/
def setState (registry : SecretLeaseRegistry) (entry : LeaseEntry) (leaseId : Bytes)
    (state : SecretLeaseState) : SecretLeaseRegistry :=
  { registry with
    leases := registry.leases.insert leaseId { entry with lease := { entry.lease with state } } }

def validateLease (registry : SecretLeaseRegistry) (lease : SecretLease) (handle : SecretHandle)
    (currentRotationEpoch : UInt64) (leaseNowMs handleNowMs : Int64) :
    SecretLeaseRegistry × SecretLifecycleResult :=
  let stage := "secret.lease.validate"
  if !lease.isValid || !handle.isValid then
    (registry, refuseInvalid handle lease
      "secret lease validation requires a valid lease and handle" stage)
  else
    match registry.leases.lookup lease.leaseId with
    | none =>
      (registry, makeLifecycleFailure (resolveSecretName handle lease) (some lease.leaseId)
        .leaseExpired "secret lease is not registered" stage)
    | some entry =>
      let fail := makeLifecycleFailure entry.handle.secretName (some entry.lease.leaseId)
      if entry.handle.handleId ≠ handle.handleId || entry.handle.version ≠ handle.version ||
          entry.lease.handleId ≠ lease.handleId ||
          entry.lease.rotationEpoch ≠ lease.rotationEpoch ||
          (0 < currentRotationEpoch && entry.lease.rotationEpoch ≠ currentRotationEpoch) then
        (registry.setState entry lease.leaseId .stale, fail .versionStale
          "secret lease no longer matches the current handle or rotation epoch" stage)
      else if entry.lease.expiresAtMs < leaseNowMs || handle.expiresAtMs < handleNowMs then
        (registry.setState entry lease.leaseId .expired, fail .leaseExpired
          "secret lease expired before validation completed" stage)
      else if entry.lease.state = .stale then
        (registry, fail .versionStale "secret lease is stale and must be reacquired" stage)
      else if entry.lease.state ≠ .active then
        (registry, fail .leaseExpired "secret lease is no longer active" stage)
      else (registry, .success entry.handle.secretName (some entry.lease.leaseId))

def expireLease (registry : SecretLeaseRegistry) (lease : SecretLease)
    (targetState : SecretLeaseState) : SecretLeaseRegistry × SecretLifecycleResult :=
  let stage := "secret.lease.expire"
  if !lease.isValid then
    (registry, refuseInvalid {} lease "secret lease expiration requires a valid lease" stage)
  else
    match registry.leases.lookup lease.leaseId with
    | none =>
      (registry, makeLifecycleFailure (resolveSecretName {} lease) (some lease.leaseId)
        .leaseExpired "secret lease is not registered" stage)
    | some entry =>
      (registry.setState entry lease.leaseId (normalizeTargetState targetState),
        .success entry.handle.secretName (some entry.lease.leaseId))

def releaseLease (registry : SecretLeaseRegistry) (lease : SecretLease) (nowMs : Int64) :
    SecretLeaseRegistry × SecretLifecycleResult :=
  let stage := "secret.lease.release"
  if !lease.isValid then
    (registry, refuseInvalid {} lease "secret lease release requires a valid lease" stage)
  else
    match registry.leases.lookup lease.leaseId with
    | none =>
      (registry, makeLifecycleFailure (resolveSecretName {} lease) (some lease.leaseId)
        .leaseExpired "secret lease is not registered" stage)
    | some entry =>
      let fail := makeLifecycleFailure entry.handle.secretName (some entry.lease.leaseId)
      if entry.lease.expiresAtMs < nowMs then
        (registry.setState entry lease.leaseId .expired, fail .leaseExpired
          "secret lease expired before release completed" stage)
      else if entry.lease.state = .stale then
        (registry, fail .versionStale
          "secret lease is stale and cannot be released as active" stage)
      else if entry.lease.state ≠ .active then
        (registry, fail .leaseExpired "secret lease is no longer active" stage)
      else
        (registry.setState entry lease.leaseId .released,
          .success entry.handle.secretName (some entry.lease.leaseId))

def expireSecretLeases (registry : SecretLeaseRegistry) (secretName : Bytes)
    (targetState : SecretLeaseState) : SecretLeaseRegistry :=
  { registry with
    leases := Table.mapValues (fun entry =>
      if entry.handle.secretName = secretName && entry.lease.state = .active then
        { entry with lease := { entry.lease with state := normalizeTargetState targetState } }
      else entry) registry.leases }

def activeLeaseCount (registry : SecretLeaseRegistry) : Nat :=
  registry.leases.entries.countP (·.2.lease.state = .active)

end SecretLeaseRegistry

end Dasall.Infra.Secret
