import Dasall.Infra.Policy.Types
import Dasall.Lib.Rows

/-! # Plugins, their load options, and what a runtime bridge answers -/

open Dasall.Contracts Dasall.Lib.Text Dasall.Lib

namespace Dasall.Infra.Plugin

open Dasall.Infra.Policy (ResultCode classifyResultCode)

def pluginUnknownValue : Bytes := str "unknown"

inductive PluginTrustLevel
  | unknown
  | untrusted
  | external
  | vendor
  | internal
deriving DecidableEq

inductive PluginStatus
  | unknown
  | discovered
  | validated
  | rejected
  | loaded
  | active
  | disabled
  | unloaded
deriving DecidableEq

def pluginValueOrUnknown (value : Bytes) : Bytes :=
  if value.isEmpty then pluginUnknownValue else value

structure PluginDescriptor where
  pluginId : Bytes := pluginUnknownValue
  version : Bytes := pluginUnknownValue
  abi : Bytes := pluginUnknownValue
  trustLevel : PluginTrustLevel := .unknown
  status : PluginStatus := .unknown
  source : Bytes := pluginUnknownValue
deriving DecidableEq

def PluginDescriptor.normalize (descriptor : PluginDescriptor) : PluginDescriptor :=
  { descriptor with
    pluginId := pluginValueOrUnknown descriptor.pluginId
    version := pluginValueOrUnknown descriptor.version
    abi := pluginValueOrUnknown descriptor.abi
    source := pluginValueOrUnknown descriptor.source }

theorem pluginValueOrUnknown_of_ne {value : Bytes} (h : value ≠ []) :
    pluginValueOrUnknown value = value := by
  unfold pluginValueOrUnknown
  rw [if_neg (by simpa using h)]

/-! ## Errors -/

inductive PluginErrorCode
  | validateFail
  | policyDenied
  | signatureFail
  | compatibilityFail
  | loadFail
  | unloadFail
deriving DecidableEq

/-- The result code of `map_plugin_error_code`. -/
def mapPluginErrorCode : PluginErrorCode → ResultCode
  | .validateFail | .signatureFail | .compatibilityFail => .validationFieldMissing
  | .policyDenied => .policyDenied
  | .loadFail | .unloadFail => .runtimeRetryExhausted

def makeErrorInfo (resultCode : ResultCode) (message stage sourceRef : Bytes) : ErrorInfo :=
  { failureType := some (classifyResultCode resultCode)
    retryable := some false
    safeToReplan := some false
    details := { code := some resultCode.toRaw, message, stage }
    sourceRef := { refType := str "infra.plugin", refId := sourceRef } }

/-! ## Requests -/

structure PluginLoadOptions where
  profileId : Bytes := pluginUnknownValue
  actorRef : Bytes := pluginUnknownValue
  binaryPath : Bytes := pluginUnknownValue
  entrySymbol : Bytes := str "plugin_entry"
  sandboxHint : Bytes := []
  timeoutMs : UInt32 := 3000
  auditRequired : Bool := true
  dryRun : Bool := false
deriving DecidableEq

def PluginLoadOptions.isValid (options : PluginLoadOptions) : Bool :=
  options.profileId ≠ pluginUnknownValue && options.actorRef ≠ pluginUnknownValue &&
    0 < options.timeoutMs

structure PluginRuntimeLoadRequest where
  pluginId : Bytes := pluginUnknownValue
  binaryPath : Bytes
  entrySymbol : Bytes := str "plugin_entry"
  sandboxHint : Bytes
  timeoutMs : UInt32 := 3000
deriving DecidableEq

/-! ## Answers of the bridge -/

/-- A failure that the bridge reports in full. -/
def isReportedFailure (evidenceRef reasonCode message : Bytes) (resultCode : ResultCode) : Bool :=
  !evidenceRef.isEmpty && !reasonCode.isEmpty && !message.isEmpty &&
    classifyResultCode resultCode ≠ .unknown

structure PluginRuntimeLoadResult where
  loaded : Bool := false
  handleRef : Bytes := []
  evidenceRef : Bytes := []
  resultCode : ResultCode := .runtimeRetryExhausted
  reasonCode : Bytes := []
  message : Bytes := []
deriving DecidableEq

def PluginRuntimeLoadResult.isValid (result : PluginRuntimeLoadResult) : Bool :=
  if result.loaded then !result.handleRef.isEmpty && !result.evidenceRef.isEmpty
  else isReportedFailure result.evidenceRef result.reasonCode result.message result.resultCode

structure PluginRuntimeUnloadResult where
  unloaded : Bool := false
  evidenceRef : Bytes := []
  resultCode : ResultCode := .runtimeRetryExhausted
  reasonCode : Bytes := []
  message : Bytes := []
deriving DecidableEq

def PluginRuntimeUnloadResult.isValid (result : PluginRuntimeUnloadResult) : Bool :=
  if result.unloaded then !result.evidenceRef.isEmpty
  else isReportedFailure result.evidenceRef result.reasonCode result.message result.resultCode

/-! ## Results of the manager -/

inductive PluginOperationPhase
  | unknown
  | validate
  | load
  | activate
  | unload
deriving DecidableEq

structure PluginLoadResult where
  loaded : Bool := false
  pluginId : Bytes := pluginUnknownValue
  phase : PluginOperationPhase := .unknown
  handleRef : Bytes := []
  evidenceRef : Bytes := []
  resultCode : ResultCode := .runtimeRetryExhausted
  errorInfo : Option ErrorInfo := none
deriving DecidableEq

def PluginLoadResult.success (pluginId : Bytes) (phase : PluginOperationPhase)
    (handleRef evidenceRef : Bytes) : PluginLoadResult :=
  { loaded := true, pluginId := pluginValueOrUnknown pluginId, phase, handleRef, evidenceRef }

def PluginLoadResult.failure (resultCode : ResultCode) (pluginId : Bytes)
    (phase : PluginOperationPhase) (message stage sourceRef evidenceRef : Bytes) :
    PluginLoadResult :=
  { loaded := false
    pluginId := pluginValueOrUnknown pluginId
    phase
    evidenceRef
    resultCode
    errorInfo := some (makeErrorInfo resultCode message stage sourceRef) }

structure PluginUnloadResult where
  unloaded : Bool := false
  pluginId : Bytes := pluginUnknownValue
  phase : PluginOperationPhase := .unload
  evidenceRef : Bytes := []
  resultCode : ResultCode := .runtimeRetryExhausted
  errorInfo : Option ErrorInfo := none
deriving DecidableEq

def PluginUnloadResult.success (pluginId evidenceRef : Bytes) : PluginUnloadResult :=
  { unloaded := true, pluginId := pluginValueOrUnknown pluginId, evidenceRef }

def PluginUnloadResult.failure (resultCode : ResultCode)
    (pluginId message stage sourceRef evidenceRef : Bytes) : PluginUnloadResult :=
  { unloaded := false
    pluginId := pluginValueOrUnknown pluginId
    evidenceRef
    resultCode
    errorInfo := some (makeErrorInfo resultCode message stage sourceRef) }

structure PluginLifecycleTransitionResult where
  transitioned : Bool := false
  pluginId : Bytes := pluginUnknownValue
  fromStatus : PluginStatus := .unknown
  toStatus : PluginStatus := .unknown
  evidenceRef : Bytes := []
  resultCode : Option ResultCode := none
  errorInfo : Option ErrorInfo := none
deriving DecidableEq

def PluginLifecycleTransitionResult.success (pluginId : Bytes) (fromStatus toStatus : PluginStatus)
    (evidenceRef : Bytes) : PluginLifecycleTransitionResult :=
  { transitioned := true, pluginId := pluginValueOrUnknown pluginId, fromStatus, toStatus,
    evidenceRef }

def PluginLifecycleTransitionResult.failure (resultCode : ResultCode) (pluginId : Bytes)
    (fromStatus toStatus : PluginStatus) (message stage sourceRef evidenceRef : Bytes) :
    PluginLifecycleTransitionResult :=
  { transitioned := false
    pluginId := pluginValueOrUnknown pluginId
    fromStatus
    toStatus
    evidenceRef
    resultCode := some resultCode
    errorInfo := some (makeErrorInfo resultCode message stage sourceRef) }

structure ActivePluginSet where
  activePlugins : List PluginDescriptor
  safeModeActive : Bool := false
  maxActive : UInt64 := 0
deriving DecidableEq

/-- What the manager hands to its audit adapter. -/
structure PluginAuditRecord where
  actorRef : Bytes
  pluginId : Bytes
  succeeded : Bool := false
  evidenceRef : Bytes
  reasonCode : Bytes
  resultCode : Option ResultCode
deriving DecidableEq

/-!
## The lifecycle manager of plugins

A call asks the runtime bridge at most once, and its input has the answer that the bridge gives
then. What the call asked, and what it wrote to the audit adapter, are its events.
-/

def makeEvidenceRef (action pluginId suffix : Bytes) : Bytes :=
  action ++ str "." ++ pluginValueOrUnknown pluginId ++ str "." ++ suffix

def normalizedReasonCode (reasonCode fallback : Bytes) : Bytes :=
  if reasonCode.isEmpty then fallback else reasonCode

def makeManagedDescriptor (pluginId : Bytes) (status : PluginStatus) : PluginDescriptor :=
  PluginDescriptor.normalize
    { pluginId := pluginValueOrUnknown pluginId
      version := str "skeleton"
      abi := str "skeleton"
      trustLevel := .internal
      status
      source := str "runtime://plugin/" ++ pluginValueOrUnknown pluginId }

def lifecycleResultCode (code : PluginErrorCode) : ResultCode := mapPluginErrorCode code

def makeRuntimeLoadRequest (pluginId : Bytes) (loadOptions : PluginLoadOptions) :
    PluginRuntimeLoadRequest :=
  { pluginId := pluginValueOrUnknown pluginId
    binaryPath :=
      if !loadOptions.binaryPath.isEmpty && loadOptions.binaryPath ≠ pluginUnknownValue then
        loadOptions.binaryPath
      else str "./plugins/" ++ pluginValueOrUnknown pluginId ++ str ".so"
    entrySymbol :=
      if loadOptions.entrySymbol.isEmpty then str "plugin_entry" else loadOptions.entrySymbol
    sandboxHint := loadOptions.sandboxHint
    timeoutMs := loadOptions.timeoutMs }

structure ManagedPlugin where
  descriptor : PluginDescriptor
  handleRef : Bytes
  actorRef : Bytes
deriving DecidableEq

def ManagedPlugin.pluginId (plugin : ManagedPlugin) : Bytes := plugin.descriptor.pluginId

def ManagedPlugin.withStatus (plugin : ManagedPlugin) (status : PluginStatus) : ManagedPlugin :=
  { plugin with descriptor := { plugin.descriptor with status } }

@[simp] theorem ManagedPlugin.withStatus_pluginId (plugin : ManagedPlugin)
    (status : PluginStatus) : (plugin.withStatus status).pluginId = plugin.pluginId := rfl

inductive PluginEvent
  | runtimeLoad (request : PluginRuntimeLoadRequest) (result : PluginRuntimeLoadResult)
  | runtimeUnload (pluginId handleRef : Bytes) (result : PluginRuntimeUnloadResult)
  | loadAudit (record : PluginAuditRecord)
  | unloadAudit (record : PluginAuditRecord)
deriving DecidableEq

structure PluginLifecycleManager where
  managedPlugins : List ManagedPlugin := []
  hasAuditAdapter : Bool := false
  maxActive : UInt64 := 16
  safeModeFailThreshold : UInt64 := 3
  consecutiveFailures : UInt64 := 0
  safeModeActive : Bool := false
deriving DecidableEq

namespace PluginLifecycleManager

def create (hasAuditAdapter : Bool) (maxActive safeModeFailThreshold : UInt64) :
    PluginLifecycleManager :=
  { hasAuditAdapter
    maxActive
    safeModeFailThreshold := if safeModeFailThreshold = 0 then 1 else safeModeFailThreshold }

def findPlugin (manager : PluginLifecycleManager) (pluginId : Bytes) : Option ManagedPlugin :=
  Rows.find ManagedPlugin.pluginId pluginId manager.managedPlugins

def recordSuccess (manager : PluginLifecycleManager) : PluginLifecycleManager :=
  { manager with consecutiveFailures := 0 }

def recordFailure (manager : PluginLifecycleManager) : PluginLifecycleManager :=
  { manager with
    consecutiveFailures := manager.consecutiveFailures + 1
    safeModeActive := manager.safeModeActive ||
      manager.safeModeFailThreshold ≤ manager.consecutiveFailures + 1 }

def auditRecord (actorRef pluginId : Bytes) (succeeded : Bool) (evidenceRef reasonCode : Bytes)
    (resultCode : Option ResultCode) (succeededReason failedReason : Bytes) : PluginAuditRecord :=
  { actorRef := pluginValueOrUnknown actorRef
    pluginId := pluginValueOrUnknown pluginId
    succeeded
    evidenceRef
    reasonCode := normalizedReasonCode reasonCode (if succeeded then succeededReason else failedReason)
    resultCode }

def emitLoadAudit (manager : PluginLifecycleManager) (actorRef pluginId : Bytes)
    (succeeded : Bool) (evidenceRef reasonCode : Bytes) (resultCode : Option ResultCode) :
    List PluginEvent :=
  if manager.hasAuditAdapter then
    [.loadAudit (auditRecord actorRef pluginId succeeded evidenceRef reasonCode resultCode
      (str "plugin_load_succeeded") (str "plugin_load_failed"))]
  else []

def emitUnloadAudit (manager : PluginLifecycleManager) (actorRef pluginId : Bytes)
    (succeeded : Bool) (evidenceRef reasonCode : Bytes) (resultCode : Option ResultCode) :
    List PluginEvent :=
  if manager.hasAuditAdapter then
    [.unloadAudit (auditRecord actorRef pluginId succeeded evidenceRef reasonCode resultCode
      (str "plugin_unload_succeeded") (str "plugin_unload_failed"))]
  else []

def makeLoadFailure (manager : PluginLifecycleManager) (pluginId actorRef : Bytes)
    (resultCode : ResultCode) (reasonCode message evidenceRef : Bytes) :
    PluginLifecycleManager × PluginLoadResult × List PluginEvent :=
  (manager.recordFailure,
    .failure resultCode pluginId .load message (str "plugin.load") (str "PluginLifecycleManager")
      evidenceRef,
    manager.emitLoadAudit actorRef pluginId false evidenceRef reasonCode (some resultCode))

def makeUnloadFailure (manager : PluginLifecycleManager) (pluginId actorRef : Bytes)
    (resultCode : ResultCode) (reasonCode message evidenceRef : Bytes) :
    PluginLifecycleManager × PluginUnloadResult × List PluginEvent :=
  (manager.recordFailure,
    .failure resultCode pluginId message (str "plugin.unload") (str "PluginLifecycleManager")
      evidenceRef,
    manager.emitUnloadAudit actorRef pluginId false evidenceRef reasonCode (some resultCode))

def makeTransitionFailure (pluginId : Bytes) (fromStatus toStatus : PluginStatus)
    (stage message evidenceRef : Bytes) : PluginLifecycleTransitionResult :=
  .failure (lifecycleResultCode .loadFail) pluginId fromStatus toStatus message stage
    (str "PluginLifecycleManager") evidenceRef

/-! ## Load and unload -/

/-- What `load` makes of the answer of the bridge. -/
def loadAnswered (manager : PluginLifecycleManager) (pluginId : Bytes)
    (loadOptions : PluginLoadOptions) (runtimeResult : PluginRuntimeLoadResult) :
    PluginLifecycleManager × PluginLoadResult × List PluginEvent :=
  if !runtimeResult.isValid then
    manager.makeLoadFailure pluginId loadOptions.actorRef (lifecycleResultCode .loadFail)
      (str "plugin_load_invalid_runtime_result")
      (str "plugin lifecycle runtime bridge returned an invalid load outcome")
      (makeEvidenceRef (str "plugin.load") pluginId (str "invalid-runtime-result"))
  else if !runtimeResult.loaded then
    manager.makeLoadFailure pluginId loadOptions.actorRef runtimeResult.resultCode
      (normalizedReasonCode runtimeResult.reasonCode (str "plugin_load_failed"))
      runtimeResult.message runtimeResult.evidenceRef
  else
    (recordSuccess { manager with
        managedPlugins := manager.managedPlugins ++
          [{ descriptor := makeManagedDescriptor pluginId .loaded
             handleRef := runtimeResult.handleRef
             actorRef := pluginValueOrUnknown loadOptions.actorRef }] },
      .success pluginId .load runtimeResult.handleRef runtimeResult.evidenceRef,
      manager.emitLoadAudit loadOptions.actorRef pluginId true runtimeResult.evidenceRef
        (normalizedReasonCode runtimeResult.reasonCode (str "plugin_load_succeeded")) none)

def load (manager : PluginLifecycleManager) (pluginId : Bytes) (loadOptions : PluginLoadOptions)
    (runtimeResult : PluginRuntimeLoadResult) :
    PluginLifecycleManager × PluginLoadResult × List PluginEvent :=
  if pluginId.isEmpty || !loadOptions.isValid then
    manager.makeLoadFailure pluginId loadOptions.actorRef .validationFieldMissing
      (str "plugin_load_invalid_request")
      (str "plugin lifecycle load requires a plugin_id and valid load options")
      (makeEvidenceRef (str "plugin.load") pluginId (str "invalid-request"))
  else if manager.safeModeActive then
    manager.makeLoadFailure pluginId loadOptions.actorRef (lifecycleResultCode .loadFail)
      (str "plugin_load_safe_mode")
      (str "plugin lifecycle load is blocked while plugin_safe_mode is active")
      (makeEvidenceRef (str "plugin.load") pluginId (str "safe-mode"))
  else if (manager.findPlugin pluginId).isSome then
    manager.makeLoadFailure pluginId loadOptions.actorRef (lifecycleResultCode .loadFail)
      (str "plugin_load_already_managed")
      (str "plugin lifecycle load rejected an already managed plugin")
      (makeEvidenceRef (str "plugin.load") pluginId (str "already-managed"))
  else if manager.maxActive ≠ 0 && manager.maxActive.toNat ≤ manager.managedPlugins.length then
    manager.makeLoadFailure pluginId loadOptions.actorRef (lifecycleResultCode .loadFail)
      (str "plugin_load_capacity_exhausted")
      (str "plugin lifecycle load exceeded the configured max_active capacity")
      (makeEvidenceRef (str "plugin.load") pluginId (str "max-active"))
  else if loadOptions.dryRun then
    let evidenceRef := makeEvidenceRef (str "plugin.load") pluginId (str "dry-run")
    (manager.recordSuccess,
      .success pluginId .load (str "dry-run:" ++ pluginValueOrUnknown pluginId) evidenceRef,
      manager.emitLoadAudit loadOptions.actorRef pluginId true evidenceRef
        (str "plugin_load_dry_run") none)
  else
    let answered := manager.loadAnswered pluginId loadOptions runtimeResult
    (answered.1, answered.2.1,
      .runtimeLoad (makeRuntimeLoadRequest pluginId loadOptions) runtimeResult :: answered.2.2)

/-- What `unload` makes of the answer of the bridge. -/
def unloadAnswered (manager : PluginLifecycleManager) (pluginId actorRef : Bytes)
    (runtimeResult : PluginRuntimeUnloadResult) :
    PluginLifecycleManager × PluginUnloadResult × List PluginEvent :=
  if !runtimeResult.isValid then
    manager.makeUnloadFailure pluginId actorRef (lifecycleResultCode .unloadFail)
      (str "plugin_unload_invalid_runtime_result")
      (str "plugin lifecycle runtime bridge returned an invalid unload outcome")
      (makeEvidenceRef (str "plugin.unload") pluginId (str "invalid-runtime-result"))
  else if !runtimeResult.unloaded then
    manager.makeUnloadFailure pluginId actorRef runtimeResult.resultCode
      (normalizedReasonCode runtimeResult.reasonCode (str "plugin_unload_failed"))
      runtimeResult.message runtimeResult.evidenceRef
  else
    (recordSuccess { manager with
        managedPlugins := manager.managedPlugins.filter (·.pluginId ≠ pluginId) },
      .success pluginId runtimeResult.evidenceRef,
      manager.emitUnloadAudit actorRef pluginId true runtimeResult.evidenceRef
        (normalizedReasonCode runtimeResult.reasonCode (str "plugin_unload_succeeded")) none)

def unload (manager : PluginLifecycleManager) (pluginId : Bytes)
    (runtimeResult : PluginRuntimeUnloadResult) :
    PluginLifecycleManager × PluginUnloadResult × List PluginEvent :=
  if pluginId.isEmpty then
    manager.makeUnloadFailure pluginId pluginUnknownValue .validationFieldMissing
      (str "plugin_unload_invalid_request") (str "plugin lifecycle unload requires a plugin_id")
      (makeEvidenceRef (str "plugin.unload") pluginId (str "invalid-request"))
  else
    match manager.findPlugin pluginId with
    | none =>
      manager.makeUnloadFailure pluginId pluginUnknownValue (lifecycleResultCode .unloadFail)
        (str "plugin_unload_not_loaded")
        (str "plugin lifecycle unload requires an already managed plugin")
        (makeEvidenceRef (str "plugin.unload") pluginId (str "not-loaded"))
    | some managedPlugin =>
      let answered := manager.unloadAnswered pluginId managedPlugin.actorRef runtimeResult
      (answered.1, answered.2.1,
        .runtimeUnload pluginId managedPlugin.handleRef runtimeResult :: answered.2.2)

/-! ## Enable and disable -/

def setStatus (manager : PluginLifecycleManager) (managedPlugin : ManagedPlugin)
    (status : PluginStatus) : PluginLifecycleManager :=
  { manager with
    managedPlugins := Rows.put ManagedPlugin.pluginId managedPlugin.pluginId
      (managedPlugin.withStatus status) manager.managedPlugins }

def enable (manager : PluginLifecycleManager) (pluginId : Bytes) :
    PluginLifecycleManager × PluginLifecycleTransitionResult :=
  match manager.findPlugin pluginId with
  | none =>
    (manager, makeTransitionFailure pluginId .unknown .active (str "plugin.enable")
      (str "plugin lifecycle enable requires a loaded or disabled plugin")
      (makeEvidenceRef (str "plugin.enable") pluginId (str "not-loaded")))
  | some managedPlugin =>
    if managedPlugin.descriptor.status ≠ .loaded ∧ managedPlugin.descriptor.status ≠ .disabled then
      (manager, makeTransitionFailure pluginId managedPlugin.descriptor.status .active
        (str "plugin.enable")
        (str "plugin lifecycle enable only accepts Loaded or Disabled states")
        (makeEvidenceRef (str "plugin.enable") pluginId (str "invalid-state")))
    else
      (manager.setStatus managedPlugin .active,
        .success pluginId managedPlugin.descriptor.status .active
          (makeEvidenceRef (str "plugin.enable") pluginId (str "active")))

def disable (manager : PluginLifecycleManager) (pluginId : Bytes) :
    PluginLifecycleManager × PluginLifecycleTransitionResult :=
  match manager.findPlugin pluginId with
  | none =>
    (manager, makeTransitionFailure pluginId .unknown .disabled (str "plugin.disable")
      (str "plugin lifecycle disable requires a loaded or active plugin")
      (makeEvidenceRef (str "plugin.disable") pluginId (str "not-loaded")))
  | some managedPlugin =>
    if managedPlugin.descriptor.status ≠ .loaded ∧ managedPlugin.descriptor.status ≠ .active then
      (manager, makeTransitionFailure pluginId managedPlugin.descriptor.status .disabled
        (str "plugin.disable")
        (str "plugin lifecycle disable only accepts Loaded or Active states")
        (makeEvidenceRef (str "plugin.disable") pluginId (str "invalid-state")))
    else
      (manager.setStatus managedPlugin .disabled,
        .success pluginId managedPlugin.descriptor.status .disabled
          (makeEvidenceRef (str "plugin.disable") pluginId (str "disabled")))

/-! ## Queries -/

def listActive (manager : PluginLifecycleManager) : ActivePluginSet :=
  { activePlugins := manager.managedPlugins.map (·.descriptor)
    safeModeActive := manager.safeModeActive
    maxActive := manager.maxActive }

def currentStatus (manager : PluginLifecycleManager) (pluginId : Bytes) : Option PluginStatus :=
  (manager.findPlugin pluginId).map (·.descriptor.status)

end PluginLifecycleManager

/-! ## Calls -/

/-- A call, with what the bridge answers should the call ask it. -/
inductive PluginCall
  | load (pluginId : Bytes) (loadOptions : PluginLoadOptions)
      (runtimeResult : PluginRuntimeLoadResult)
  | unload (pluginId : Bytes) (runtimeResult : PluginRuntimeUnloadResult)
  | enable (pluginId : Bytes)
  | disable (pluginId : Bytes)
deriving DecidableEq

inductive PluginReply
  | load (result : PluginLoadResult)
  | unload (result : PluginUnloadResult)
  | transition (result : PluginLifecycleTransitionResult)
deriving DecidableEq

def PluginReply.ok : PluginReply → Bool
  | .load result => result.loaded
  | .unload result => result.unloaded
  | .transition result => result.transitioned

def PluginLifecycleManager.step (manager : PluginLifecycleManager) :
    PluginCall → PluginLifecycleManager × PluginReply × List PluginEvent
  | .load pluginId loadOptions runtimeResult =>
    let done := manager.load pluginId loadOptions runtimeResult
    (done.1, .load done.2.1, done.2.2)
  | .unload pluginId runtimeResult =>
    let done := manager.unload pluginId runtimeResult
    (done.1, .unload done.2.1, done.2.2)
  | .enable pluginId =>
    let done := manager.enable pluginId
    (done.1, .transition done.2, [])
  | .disable pluginId =>
    let done := manager.disable pluginId
    (done.1, .transition done.2, [])

end Dasall.Infra.Plugin
