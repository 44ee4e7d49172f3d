import Dasall.Infra.Policy.Types
import Dasall.Lib.Table
import Mathlib.Data.List.Sort

/-!
# The watchdog service

The registry keeps the watched entities, the ingestor the latest sample of each, and the facade
calls both.
-/

open Dasall.Contracts Dasall.Lib Dasall.Lib.Text

namespace Dasall.Infra.Watchdog

open Dasall.Infra.Policy (ResultCode classifyResultCode)

inductive WatchdogEntityCriticality
  | unspecified
  | nonCritical
  | critical
deriving DecidableEq

structure WatchedEntityDescriptor where
  entityId : Bytes
  entityType : Bytes
  ownerModule : Bytes
  criticality : WatchdogEntityCriticality := .unspecified
  timeoutMs : UInt32 := 0
  graceMs : UInt32 := 0
deriving DecidableEq

def WatchedEntityDescriptor.hasRequiredFields (descriptor : WatchedEntityDescriptor) : Bool :=
  descriptor.entityId ≠ [] && descriptor.entityType ≠ [] && descriptor.ownerModule ≠ [] &&
    descriptor.criticality ≠ .unspecified && 0 < descriptor.timeoutMs &&
    descriptor.graceMs < descriptor.timeoutMs

structure HeartbeatSample where
  entityId : Bytes
  heartbeatTs : Int64 := 0
  deadlineTs : Int64 := 0
  seqNo : UInt64 := 0
deriving DecidableEq

def HeartbeatSample.hasRequiredFields (sample : HeartbeatSample) : Bool :=
  sample.entityId ≠ [] && 0 < sample.heartbeatTs && sample.heartbeatTs ≤ sample.deadlineTs &&
    0 < sample.seqNo

def HeartbeatSample.isOlderThan (sample other : HeartbeatSample) : Bool :=
  if sample.seqNo ≠ other.seqNo then sample.seqNo < other.seqNo
  else if sample.heartbeatTs ≠ other.heartbeatTs then sample.heartbeatTs < other.heartbeatTs
  else sample.deadlineTs < other.deadlineTs

def HeartbeatSample.isStaleAgainst (sample latest : HeartbeatSample) : Bool :=
  sample.entityId = latest.entityId &&
    (sample.isOlderThan latest ||
      (sample.seqNo = latest.seqNo && sample.heartbeatTs = latest.heartbeatTs &&
        sample.deadlineTs = latest.deadlineTs))

inductive WatchdogTimeoutLevelPolicy
  | unspecified
  | warnThenCritical
  | criticalOnly
deriving DecidableEq

inductive WatchdogEventOverflowPolicy
  | unspecified
  | block
  | overrunOldest
deriving DecidableEq

structure WatchdogServiceConfig where
  scanIntervalMs : UInt32 := 500
  timeoutMs : UInt32 := 15000
  graceMs : UInt32 := 2000
  consecutiveMissThreshold : UInt32 := 3
  timeoutLevelPolicy : WatchdogTimeoutLevelPolicy := .warnThenCritical
  eventQueueSize : UInt32 := 2048
  eventOverflowPolicy : WatchdogEventOverflowPolicy := .block
  maxEntities : UInt32 := 1024
  safeModeScanIntervalMs : UInt32 := 2000
deriving DecidableEq

def WatchdogServiceConfig.isValid (config : WatchdogServiceConfig) : Bool :=
  0 < config.scanIntervalMs && 0 < config.timeoutMs && config.graceMs < config.timeoutMs &&
    0 < config.consecutiveMissThreshold && config.timeoutLevelPolicy ≠ .unspecified &&
    0 < config.eventQueueSize && config.eventOverflowPolicy ≠ .unspecified &&
    0 < config.maxEntities && config.scanIntervalMs ≤ config.safeModeScanIntervalMs

/-! ## Errors -/

inductive WatchdogErrorCode
  | entityDuplicate
  | entityNotFound
  | heartbeatStale
  | scanOverdue
  | timeoutCritical
deriving DecidableEq

def watchdogErrorCodeName : WatchdogErrorCode → Bytes
  | .entityDuplicate => str "INF_E_WATCHDOG_ENTITY_DUPLICATE"
  | .entityNotFound => str "INF_E_WATCHDOG_ENTITY_NOT_FOUND"
  | .heartbeatStale => str "INF_E_WATCHDOG_HEARTBEAT_STALE"
  | .scanOverdue => str "INF_E_WATCHDOG_SCAN_OVERDUE"
  | .timeoutCritical => str "INF_E_WATCHDOG_TIMEOUT_CRITICAL"

/-- The result code of `map_watchdog_error_code`. -/
def mapWatchdogErrorCode : WatchdogErrorCode → ResultCode
  | .entityDuplicate | .entityNotFound | .heartbeatStale => .validationFieldMissing
  | .scanOverdue => .runtimeRetryExhausted
  | .timeoutCritical => .providerTimeout

structure WatchdogFailure where
  watchdogCode : Option WatchdogErrorCode := none
  resultCode : ResultCode
  error : ErrorInfo
deriving DecidableEq

/-- `failure` of the result types, which build one error. -/
def makeFailure (watchdogCode : Option WatchdogErrorCode) (resultCode : ResultCode)
    (message stage sourceRef : Bytes) : WatchdogFailure where
  watchdogCode := watchdogCode
  resultCode := resultCode
  error :=
    { failureType := some (classifyResultCode resultCode)
      retryable := some false
      safeToReplan := some false
      details := { code := some resultCode.toRaw, message, stage }
      sourceRef := { refType := str "infra.watchdog", refId := sourceRef } }

/-- A failure whose codes and text come from a watchdog error code. -/
def codedFailure (code : WatchdogErrorCode) (detail stage sourceRef : Bytes) : WatchdogFailure :=
  makeFailure (some code) (mapWatchdogErrorCode code)
    (watchdogErrorCodeName code ++ str ": " ++ detail) stage sourceRef

/-! ## The registry -/

structure HeartbeatRegistry where
  entries : Table Bytes WatchedEntityDescriptor := ∅
  maxEntities : Nat := 1024

def HeartbeatRegistry.size (registry : HeartbeatRegistry) : Nat := registry.entries.entries.length

def HeartbeatRegistry.registerEntity (registry : HeartbeatRegistry)
    (descriptor : WatchedEntityDescriptor) : Except WatchdogFailure HeartbeatRegistry :=
  let sourceRef := str "HeartbeatRegistry"
  let stage := str "watchdog.registry.register"
  if !descriptor.hasRequiredFields then
    .error (makeFailure none .validationFieldMissing
      (str "heartbeat registry requires entity_id, entity_type, owner_module, criticality, timeout_ms, and grace_ms")
      stage sourceRef)
  else if registry.maxEntities ≤ registry.size then
    .error (makeFailure none .validationFieldMissing
      (str "heartbeat registry rejected the registration because max_entities was reached")
      stage sourceRef)
  else if (registry.entries.lookup descriptor.entityId).isSome then
    .error (codedFailure .entityDuplicate
      (str "heartbeat registry rejects duplicate entity_id registrations") stage sourceRef)
  else .ok { registry with entries := registry.entries.insert descriptor.entityId descriptor }

def HeartbeatRegistry.unregisterEntity (registry : HeartbeatRegistry) (entityId : Bytes) :
    Except WatchdogFailure HeartbeatRegistry :=
  let sourceRef := str "HeartbeatRegistry"
  let stage := str "watchdog.registry.unregister"
  if entityId = [] then
    .error (makeFailure none .validationFieldMissing
      (str "heartbeat registry requires a non-empty entity_id for unregister_entity") stage sourceRef)
  else if (registry.entries.lookup entityId).isNone then
    .error (codedFailure .entityNotFound
      (str "heartbeat registry cannot unregister an unknown entity_id") stage sourceRef)
  else .ok { registry with entries := registry.entries.erase entityId }

def HeartbeatRegistry.queryEntity (registry : HeartbeatRegistry) (entityId : Bytes) :
    Except WatchdogFailure WatchedEntityDescriptor :=
  let sourceRef := str "HeartbeatRegistry"
  let stage := str "watchdog.registry.query"
  if entityId = [] then
    .error (makeFailure none .validationFieldMissing
      (str "heartbeat registry requires a non-empty entity_id for query_entity") stage sourceRef)
  else
    match registry.entries.lookup entityId with
    | none => .error (codedFailure .entityNotFound
        (str "heartbeat registry cannot query an unknown entity_id") stage sourceRef)
    | some descriptor => .ok descriptor

/-- The entries in the order of their ids. -/
def HeartbeatRegistry.listEntities (registry : HeartbeatRegistry) : List WatchedEntityDescriptor :=
  (registry.entries.entries.insertionSort fun first second => first.1 ≤ second.1).map (·.2)

/-! ## The ingestor -/

structure HeartbeatIngestor where
  maxTrackedEntities : Nat := 1024
  latestSamples : Table Bytes HeartbeatSample := ∅

def HeartbeatIngestor.trackedEntityCount (ingestor : HeartbeatIngestor) : Nat :=
  ingestor.latestSamples.entries.length

/-- `ingest`, against the registry that the ingestor is bound to. -/
def HeartbeatIngestor.ingest (ingestor : HeartbeatIngestor) (registry : Option HeartbeatRegistry)
    (sample : HeartbeatSample) : Except WatchdogFailure HeartbeatIngestor :=
  let sourceRef := str "HeartbeatIngestor"
  let stage := str "watchdog.ingestor.ingest"
  if !sample.hasRequiredFields then
    .error (makeFailure none .validationFieldMissing
      (str "heartbeat ingestor requires entity_id, timestamps, deadline_ts, and seq_no")
      stage sourceRef)
  else
    match registry with
    | none => .error (makeFailure none .runtimeRetryExhausted
        (str "heartbeat ingestor is not bound to a registry yet") stage sourceRef)
    | some registry =>
      match registry.queryEntity sample.entityId with
      | .error failure => .error (makeFailure failure.watchdogCode failure.resultCode
          failure.error.details.message stage sourceRef)
      | .ok _ =>
        if (ingestor.latestSamples.lookup sample.entityId).any sample.isStaleAgainst then
          .error (codedFailure .heartbeatStale
            (str "heartbeat ingestor rejected a stale sample") stage sourceRef)
        else if (ingestor.latestSamples.lookup sample.entityId).isNone &&
            ingestor.maxTrackedEntities ≤ ingestor.trackedEntityCount then
          .error (makeFailure none .validationFieldMissing
            (str "heartbeat ingestor rejected the sample because max_tracked_entities was reached")
            stage sourceRef)
        else
          .ok { ingestor with
            latestSamples := ingestor.latestSamples.insert sample.entityId sample }

def HeartbeatIngestor.latestSample (ingestor : HeartbeatIngestor) (entityId : Bytes) :
    Except WatchdogFailure HeartbeatSample :=
  let sourceRef := str "HeartbeatIngestor"
  let stage := str "watchdog.ingestor.query"
  if entityId = [] then
    .error (makeFailure none .validationFieldMissing
      (str "heartbeat ingestor requires a non-empty entity_id for latest_sample") stage sourceRef)
  else
    match ingestor.latestSamples.lookup entityId with
    | none => .error (codedFailure .entityNotFound
        (str "heartbeat ingestor has no sample for the requested entity_id") stage sourceRef)
    | some sample => .ok sample

def HeartbeatIngestor.forgetEntity (ingestor : HeartbeatIngestor) (entityId : Bytes) :
    HeartbeatIngestor :=
  if entityId = [] then ingestor
  else { ingestor with latestSamples := ingestor.latestSamples.erase entityId }

/-! ## The facade -/

inductive LifecycleState
  | created
  | initialized
  | started
  | stopped
deriving DecidableEq

def LifecycleState.name : LifecycleState → Bytes
  | .created => str "created"
  | .initialized => str "initialized"
  | .started => str "started"
  | .stopped => str "stopped"

structure WatchdogServiceFacade where
  lifecycleState : LifecycleState := .created
  registry : HeartbeatRegistry := {}
  ingestor : HeartbeatIngestor := {}
  /-- Whether `ingestor_` points to `registry_`. -/
  ingestorBound : Bool := false

namespace WatchdogServiceFacade

def invalidTransition (facade : WatchdogServiceFacade) (operation expectedState : String) :
    WatchdogFailure :=
  makeFailure none .runtimeRetryExhausted
    (str "invalid watchdog lifecycle transition for operation " ++ str operation ++
      str ": expected state " ++ str expectedState ++ str ", actual state " ++
      facade.lifecycleState.name)
    (str "watchdog.lifecycle") (str "WatchdogServiceFacade")

def fieldMissing (message stage : String) : WatchdogFailure :=
  makeFailure none .validationFieldMissing (str message) (str stage) (str "WatchdogServiceFacade")

def init (facade : WatchdogServiceFacade) (config : WatchdogServiceConfig) :
    Except WatchdogFailure WatchdogServiceFacade :=
  if facade.lifecycleState ≠ .created then .error (facade.invalidTransition "init" "created")
  else if !config.isValid then
    .error (fieldMissing
      "watchdog init requires a valid config with scan interval, timeout, grace, and queue bounds"
      "watchdog.init")
  else
    .ok { lifecycleState := .initialized
          registry := { maxEntities := config.maxEntities.toNat }
          ingestor := { maxTrackedEntities := config.maxEntities.toNat }
          ingestorBound := true }

def start (facade : WatchdogServiceFacade) : Except WatchdogFailure WatchdogServiceFacade :=
  if facade.lifecycleState ≠ .initialized then
    .error (facade.invalidTransition "start" "initialized")
  else .ok { facade with lifecycleState := .started }

def stop (facade : WatchdogServiceFacade) (timeoutMs : UInt32) :
    Except WatchdogFailure WatchdogServiceFacade :=
  if facade.lifecycleState ≠ .started then .error (facade.invalidTransition "stop" "started")
  else if timeoutMs = 0 then
    .error (fieldMissing "watchdog stop timeout must be greater than zero" "watchdog.stop")
  else .ok { facade with lifecycleState := .stopped }

def registerEntity (facade : WatchdogServiceFacade) (descriptor : WatchedEntityDescriptor) :
    Except WatchdogFailure WatchdogServiceFacade :=
  if facade.lifecycleState = .created then
    .error (facade.invalidTransition "register_entity" "initialized")
  else if !descriptor.hasRequiredFields then
    .error (fieldMissing
      "watchdog registration requires explicit entity metadata and timeout bounds"
      "watchdog.register_entity")
  else
    match facade.registry.registerEntity descriptor with
    | .error failure => .error failure
    | .ok registry => .ok { facade with registry }

def unregisterEntity (facade : WatchdogServiceFacade) (entityId : Bytes) :
    Except WatchdogFailure WatchdogServiceFacade :=
  if facade.lifecycleState = .created then
    .error (facade.invalidTransition "unregister_entity" "initialized")
  else if entityId = [] then
    .error (fieldMissing "watchdog unregister_entity requires a non-empty entity_id"
      "watchdog.unregister_entity")
  else
    match facade.registry.unregisterEntity entityId with
    | .error failure => .error failure
    | .ok registry => .ok { facade with registry, ingestor := facade.ingestor.forgetEntity entityId }

def heartbeat (facade : WatchdogServiceFacade) (sample : HeartbeatSample) :
    Except WatchdogFailure WatchdogServiceFacade :=
  if facade.lifecycleState ≠ .started then .error (facade.invalidTransition "heartbeat" "started")
  else if !sample.hasRequiredFields then
    .error (fieldMissing "watchdog heartbeat requires entity_id, timestamps, and seq_no"
      "watchdog.heartbeat")
  else
    match facade.ingestor.ingest
        (if facade.ingestorBound then some facade.registry else none) sample with
    | .error failure => .error failure
    | .ok ingestor => .ok { facade with ingestor }

end WatchdogServiceFacade

/-!
## The deadline wheel

A scan joins the registry and the samples. Once a scan comes too late, the wheel only observes.
-/

structure DeadlineCandidate where
  descriptor : WatchedEntityDescriptor
  latestSample : HeartbeatSample
  overdueByMs : Int64
deriving DecidableEq

structure DeadlineScanResult where
  ok : Bool := false
  safeObserveMode : Bool := false
  dueCandidates : List DeadlineCandidate := []
  scanTs : Int64 := 0
  scanLagMs : Int64 := 0
  failure : Option WatchdogFailure := none
deriving DecidableEq

structure DeadlineWheel where
  config : WatchdogServiceConfig := {}
  /-- Whether `registry_` and `ingestor_` are bound. -/
  bound : Bool := true
  lastScanTs : Int64 := 0
  safeObserveMode : Bool := false

namespace DeadlineWheel

def invalidRequest (wheel : DeadlineWheel) (message : String) (scanTs : Int64) :
    DeadlineScanResult where
  safeObserveMode := wheel.safeObserveMode
  scanTs := scanTs
  failure := some (makeFailure none .validationFieldMissing (str message)
    (str "watchdog.deadline.tick_collect_due") (str "DeadlineWheel"))

def scanOverdue (wheel : DeadlineWheel) (nowTs scanLagMs : Int64) (detailSuffix : String) :
    DeadlineScanResult × DeadlineWheel :=
  ({ safeObserveMode := true
     scanTs := nowTs
     scanLagMs
     failure := some (codedFailure .scanOverdue (str detailSuffix)
      (str "watchdog.deadline.tick_collect_due") (str "DeadlineWheel")) },
    { wheel with safeObserveMode := true })

/-- The body of the loop over the entities. -/
def collectDue (ingestor : HeartbeatIngestor) (nowTs : Int64)
    (descriptor : WatchedEntityDescriptor) : Option DeadlineCandidate :=
  match ingestor.latestSample descriptor.entityId with
  | .error _ => none
  | .ok latestSample =>
    if nowTs < latestSample.deadlineTs then none
    else some { descriptor, latestSample, overdueByMs := nowTs - latestSample.deadlineTs }

/-- How far a scan is behind the one expected after the previous scan. -/
def scanLag (wheel : DeadlineWheel) (nowTs : Int64) : Int64 :=
  if 0 < wheel.lastScanTs then
    max 0 (nowTs - (wheel.lastScanTs + wheel.config.scanIntervalMs.toUInt64.toInt64))
  else 0

def tickCollectDue (wheel : DeadlineWheel) (registry : HeartbeatRegistry)
    (ingestor : HeartbeatIngestor) (nowTs : Int64) : DeadlineScanResult × DeadlineWheel :=
  if nowTs ≤ 0 then
    (wheel.invalidRequest
      "deadline wheel requires a positive monotonic now_ts for tick_collect_due" nowTs, wheel)
  else if !wheel.config.isValid then
    (wheel.invalidRequest
      "deadline wheel requires a valid watchdog service config before scanning" nowTs, wheel)
  else if !wheel.bound then
    (wheel.invalidRequest
      "deadline wheel requires bound registry and ingestor dependencies before scanning" nowTs,
      wheel)
  else if wheel.safeObserveMode then
    wheel.scanOverdue nowTs 0 "deadline wheel remains in safe_observe_mode after a prior overdue scan"
  else if 0 < wheel.lastScanTs &&
      wheel.config.safeModeScanIntervalMs.toUInt64.toInt64 < nowTs - wheel.lastScanTs then
    wheel.scanOverdue nowTs (wheel.scanLag nowTs)
      "deadline wheel observed a scan gap beyond safe_mode_scan_interval_ms"
  else
    ({ ok := true
       safeObserveMode := wheel.safeObserveMode
       dueCandidates := registry.listEntities.filterMap (collectDue ingestor nowTs)
       scanTs := nowTs
       scanLagMs := wheel.scanLag nowTs },
      { wheel with lastScanTs := nowTs })

end DeadlineWheel

end Dasall.Infra.Watchdog
