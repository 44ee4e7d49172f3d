import Dasall.Infra.Secret.Rotations

/-!
# The secret manager

Leases are handed out by `materialize`. A version is revoked by `revoke`, and by the coordinator
during `rotate`. A call comes with the answers of the backend and the times that are read.
-/

open Dasall.Lib Dasall.Lib.Text

namespace Dasall.Infra.Secret

structure SecretManagerFacadeOptions where
  handleTtlMs : Int64 := 60000
  redactionPrefix : Bytes := str "redacted://secret/"
  dualSlotEnabled : Bool := true
  rotationValidationRequired : Bool := true
  rotationGracePeriodSec : Int64 := 600

structure SecretManagerFacade where
  options : SecretManagerFacadeOptions
  leaseRegistry : SecretLeaseRegistry := {}
  rotationCoordinator : SecretRotationCoordinator

/-- What the backend answers during a materialization, and the times read before it and by
`create_lease`. -/
structure MaterializeAnswers where
  fetched : SecretBackendFetchResult
  materialized : SecretMaterializationResult
  handleNowMs : Int64
  leaseNowMs : Int64
deriving DecidableEq

/-- The calls on the facade, and the two operations of its registry that it does not offer. -/
inductive SecretCall
  | getSecret (query : SecretQuery) (context : SecretAccessContext)
    (fetched : SecretBackendFetchResult) (nowMs : Int64)
  | materialize (handle : SecretHandle) (context : SecretAccessContext)
    (answers : MaterializeAnswers)
  | release (lease : SecretLease) (nowMs : Int64)
  | rotate (rotation : RotationCall)
  | revoke (secretName reasonCode : Bytes) (fetched : SecretBackendFetchResult)
    (revoked : SecretLifecycleResult)
  | validateLease (lease : SecretLease) (handle : SecretHandle) (currentRotationEpoch : UInt64)
    (leaseNowMs handleNowMs : Int64)
  | expireLease (lease : SecretLease) (targetState : SecretLeaseState)
deriving DecidableEq

/-- The result of a call; `none` is the
exception of `rotate`. -/
inductive SecretAnswer
  | handle (result : SecretHandleResult)
  | materialized (result : SecretMaterializationResult)
  | lifecycle (result : SecretLifecycleResult)
  | rotation (result : Option RotationResult)
deriving DecidableEq

namespace SecretManagerFacade

def sourceRef : Bytes := str "SecretManagerFacade"

def makeRotationOptions (options : SecretManagerFacadeOptions) :
    SecretRotationCoordinatorOptions :=
  { dualSlotEnabled := options.dualSlotEnabled
    validationRequired := options.rotationValidationRequired
    gracePeriodSec := options.rotationGracePeriodSec }

def new (options : SecretManagerFacadeOptions) : SecretManagerFacade :=
  { options, rotationCoordinator := .new (makeRotationOptions options) }

/-- The text of a coded failure. -/
def codedMessage (errorCode : SecretErrorCode) (message : String) : Bytes :=
  secretErrorCodeName errorCode ++ str ": " ++ str message

def makeHandle (options : SecretManagerFacadeOptions) (record : SecretBackendRecord)
    (nowMs : Int64) : SecretHandle :=
  { handleId :=
      str "secret-handle://" ++ record.descriptor.secretName ++ str "/" ++ record.version
    secretName := record.descriptor.secretName
    version := record.version
    backendRef := record.backendRef
    issuedAtMs := nowMs
    expiresAtMs := nowMs + max 1 options.handleTtlMs
    redactionHint := options.redactionPrefix ++ record.descriptor.secretName }

def getSecret (facade : SecretManagerFacade) (backendReady : Bool) (query : SecretQuery)
    (context : SecretAccessContext) (fetched : SecretBackendFetchResult) (nowMs : Int64) :
    SecretHandleResult :=
  let stage := str "secret.get_secret"
  if !query.isValid || !context.isValid then
    .failure .validationFieldMissing
      (str "secret manager requires a valid query and access context before get_secret") stage
      sourceRef
  else if !backendReady then
    .failure (mapSecretErrorCode .backendUnavailable)
      (codedMessage .backendUnavailable "secret backend is unavailable for get_secret") stage
      sourceRef
  else if !fetched.ok then
    .failure (fetched.resultCode.getD .providerTimeout)
      (extractErrorMessage fetched.errorInfo (str "secret backend fetch failed during get_secret"))
      stage sourceRef
  else { ok := true, handle := makeHandle facade.options fetched.record nowMs }

def materialize (facade : SecretManagerFacade) (backendReady : Bool) (handle : SecretHandle)
    (context : SecretAccessContext) (answers : MaterializeAnswers) :
    SecretManagerFacade × SecretMaterializationResult :=
  let stage := str "secret.materialize"
  if !handle.isValid || !context.isValid then
    (facade, .failure .validationFieldMissing
      (str "secret manager requires a valid handle and access context before materialize") stage
      sourceRef)
  else if !backendReady then
    (facade, .failure (mapSecretErrorCode .backendUnavailable)
      (codedMessage .backendUnavailable "secret backend is unavailable for materialize") stage
      sourceRef)
  else if handle.expiresAtMs < answers.handleNowMs then
    (facade, .failure (mapSecretErrorCode .leaseExpired)
      (codedMessage .leaseExpired "secret handle expired before materialize") stage sourceRef)
  else if !answers.fetched.ok then
    (facade, .failure (answers.fetched.resultCode.getD .providerTimeout)
      (extractErrorMessage answers.fetched.errorInfo
        (str "secret backend fetch failed during materialize")) stage sourceRef)
  else if answers.fetched.record.version ≠ handle.version then
    (facade, .failure (mapSecretErrorCode .versionStale)
      (codedMessage .versionStale
        "secret handle version is stale and must be reacquired before materialize") stage sourceRef)
  else if !answers.materialized.ok then
    (facade, .failure (answers.materialized.resultCode.getD .toolExecutionFailed)
      (extractErrorMessage answers.materialized.errorInfo
        (str "secret backend materialization failed")) stage sourceRef)
  else
    let (leaseRegistry, leaseResult) := facade.leaseRegistry.createLease handle
      context.consumerModule answers.materialized.lease.rotationEpoch
      (some (min handle.expiresAtMs answers.materialized.lease.expiresAtMs)) answers.leaseNowMs
    if !leaseResult.ok then
      ({ facade with leaseRegistry },
        .failure (leaseResult.resultCode.getD .runtimeRetryExhausted)
          (extractErrorMessage leaseResult.errorInfo
            (str "secret lease registry rejected the materialized handle")) stage sourceRef)
    else ({ facade with leaseRegistry }, { ok := true, lease := leaseResult.lease })

def rotate (facade : SecretManagerFacade) (backendReady : Bool) (rotation : RotationCall) :
    SecretManagerFacade × Option RotationResult × List BackendCall :=
  let request := rotation.request
  if !request.isValid then
    (facade, some (.failure request.secretName [] [] (str "audit://secret/rotate/invalid_request")
      .validationFieldMissing (str "secret manager rotate requires a valid rotation request")
      (str "secret.rotate") sourceRef false), [])
  else if !backendReady then
    (facade, some (.failure request.secretName [] []
      (str "audit://secret/rotate/backend_unavailable") (mapSecretErrorCode .backendUnavailable)
      (codedMessage .backendUnavailable "secret backend is unavailable for rotate")
      (str "secret.rotate") sourceRef false), [])
  else
    let outcome := facade.rotationCoordinator.rotate request rotation.answers
    ({ facade with rotationCoordinator := outcome.coordinator }, outcome.result, outcome.calls)

def revoke (facade : SecretManagerFacade) (backendReady : Bool) (secretName reasonCode : Bytes)
    (fetched : SecretBackendFetchResult) (revoked : SecretLifecycleResult) :
    SecretManagerFacade × SecretLifecycleResult × List BackendCall :=
  let stage := str "secret.revoke"
  let named := if secretName = [] then str "unresolved-secret" else secretName
  if secretName = [] || reasonCode = [] then
    (facade, .failure named .validationFieldMissing
      (str "secret manager revoke requires a non-empty secret_name and reason_code") stage sourceRef
      none, [])
  else if !backendReady then
    (facade, .failure named (mapSecretErrorCode .backendUnavailable)
      (codedMessage .backendUnavailable "secret backend is unavailable for revoke") stage sourceRef
      none, [])
  else if !fetched.ok then
    (facade, .failure secretName (fetched.resultCode.getD .providerTimeout)
      (extractErrorMessage fetched.errorInfo (str "secret backend fetch failed during revoke"))
      stage sourceRef none, [])
  else if !revoked.ok then
    (facade, .failure secretName (revoked.resultCode.getD .toolExecutionFailed)
      (extractErrorMessage revoked.errorInfo (str "secret backend revoke failed")) stage sourceRef
      revoked.leaseId, [.revoke secretName fetched.record.version false])
  else
    ({ facade with
        leaseRegistry := facade.leaseRegistry.expireSecretLeases secretName .revoked },
      .success secretName none, [.revoke secretName fetched.record.version true])

/-- A call, while the backend is ready or not, with the answer and what the backend was asked to
change. -/
def call (facade : SecretManagerFacade) (backendReady : Bool) :
    SecretCall → SecretManagerFacade × SecretAnswer × List BackendCall
  | .getSecret query context fetched nowMs =>
    (facade, .handle (facade.getSecret backendReady query context fetched nowMs), [])
  | .materialize handle context answers =>
    let (facade, result) := facade.materialize backendReady handle context answers
    (facade, .materialized result, [])
  | .release lease nowMs =>
    let (leaseRegistry, result) := facade.leaseRegistry.releaseLease lease nowMs
    ({ facade with leaseRegistry }, .lifecycle result, [])
  | .rotate rotation =>
    let (facade, result, calls) := facade.rotate backendReady rotation
    (facade, .rotation result, calls)
  | .revoke secretName reasonCode fetched revoked =>
    let (facade, result, calls) :=
      facade.revoke backendReady secretName reasonCode fetched revoked
    (facade, .lifecycle result, calls)
  | .validateLease lease handle currentRotationEpoch leaseNowMs handleNowMs =>
    let (leaseRegistry, result) := facade.leaseRegistry.validateLease lease handle
      currentRotationEpoch leaseNowMs handleNowMs
    ({ facade with leaseRegistry }, .lifecycle result, [])
  | .expireLease lease targetState =>
    let (leaseRegistry, result) := facade.leaseRegistry.expireLease lease targetState
    ({ facade with leaseRegistry }, .lifecycle result, [])

end SecretManagerFacade

end Dasall.Infra.Secret
