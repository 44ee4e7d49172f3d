import Dasall.Infra.Policy.Types

/-! # Diagnostics commands and snapshots -/

open Dasall.Contracts Dasall.Lib.Text

namespace Dasall.Infra.Diagnostics

open Dasall.Infra.Policy (ResultCode classifyResultCode)

/-! ## Errors -/

inductive DiagnosticsErrorCode
  | commandDenied
  | commandInvalid
  | execTimeout
  | execFail
  | redactionFail
  | snapshotStoreFail
  | exportFail
  | remoteExportDisabled
deriving DecidableEq

/-- The result code of `map_diagnostics_error_code`. -/
def mapDiagnosticsErrorCode : DiagnosticsErrorCode → ResultCode
  | .commandDenied | .remoteExportDisabled => .policyDenied
  | .commandInvalid => .validationFieldMissing
  | .execTimeout | .exportFail => .providerTimeout
  | .execFail | .redactionFail => .toolExecutionFailed
  | .snapshotStoreFail => .runtimeRetryExhausted

def makeErrorInfo (resultCode : ResultCode) (message stage sourceRef : Bytes)
    (retryable : Bool := false) : ErrorInfo :=
  { failureType := some (classifyResultCode resultCode)
    retryable := some retryable
    safeToReplan := some false
    details := { code := some resultCode.toRaw, message, stage }
    sourceRef := { refType := str "infra.diagnostics", refId := sourceRef } }

/-! ## Commands -/

inductive RedactionProfile
  | unspecified
  | strict
  | compatibility
deriving DecidableEq

structure DiagnosticsCommand where
  commandId : Bytes
  commandName : Bytes
  args : List Bytes
  requestScope : Bytes
  timeoutMs : UInt32 := 0
  actorRef : Bytes
deriving DecidableEq

/-! ## Snapshots -/

structure DiagnosticsSnapshot where
  snapshotId : Bytes
  command : DiagnosticsCommand
  collectedAt : Bytes
  summary : Bytes
  evidenceRefs : List Bytes
  redactionProfile : RedactionProfile := .unspecified
  exporterHint : Bytes
deriving DecidableEq

/-- The value-initialised snapshot of a failed result. -/
def DiagnosticsSnapshot.empty : DiagnosticsSnapshot :=
  { snapshotId := []
    command := { commandId := [], commandName := [], args := [], requestScope := [], actorRef := [] }
    collectedAt := []
    summary := []
    evidenceRefs := []
    exporterHint := [] }

end Dasall.Infra.Diagnostics
