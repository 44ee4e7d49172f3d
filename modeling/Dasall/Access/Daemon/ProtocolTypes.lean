import Dasall.Lib.OrderedMap
import Dasall.Lib.Text

/-! # Commands and frames of the daemon protocol -/

open Dasall.Lib Dasall.Lib.Text

namespace Dasall.Access.Daemon

def kDaemonProtocolSchemaVersion : Bytes := str "1"

inductive DaemonCommandKind
  | unknown
  | ping
  | run
  | status
  | cancel
  | readiness
  | diagnostics
  | knowledge
deriving DecidableEq

inductive DaemonAsyncPreference
  | preferSync
  | preferAsync
deriving DecidableEq

inductive DaemonOutputMode
  | human
  | json
deriving DecidableEq

inductive UdsResponseDisposition
  | rejected
  | completed
  | acceptedAsync
  | notReady
deriving DecidableEq

inductive DaemonFrameDecodeError
  | none
  | emptyPayload
  | missingSchemaVersion
  | unsupportedSchemaVersion
  | missingCommand
  | unknownCommand
  | payloadTooLarge
  | malformedEnvelope
deriving DecidableEq

def classifyDaemonCommand (command : Bytes) : DaemonCommandKind :=
  if command = str "ping" then .ping
  else if command = str "run" ∨ command = str "submit" then .run
  else if command = str "status" then .status
  else if command = str "cancel" then .cancel
  else if command = str "readiness" then .readiness
  else if command = str "diag" ∨ command = str "diagnostics" then .diagnostics
  else if command = str "knowledge" then .knowledge
  else .unknown

def isKnownDaemonCommand (command : DaemonCommandKind) : Bool := command ≠ .unknown

/-- `std::map<std::string, std::string>`. -/
abbrev Args := OrderedMap Bytes Bytes

structure UdsRequestFrame where
  schemaVersion : Bytes := kDaemonProtocolSchemaVersion
  requestId : Bytes := []
  traceId : Bytes := []
  sessionHint : Option Bytes := none
  idempotencyKey : Option Bytes := none
  command : Bytes := []
  args : Args := .empty
  payload : Bytes := []
  asyncPreference : DaemonAsyncPreference := .preferSync
  outputMode : DaemonOutputMode := .human
  deadlineMs : Option Int32 := none
deriving DecidableEq

/-- The fields of an `AgentResult` that a frame carries. -/
structure CarriedResult where
  resultId : Option Bytes := none
  responseText : Option Bytes := none
  requestId : Option Bytes := none
  traceId : Option Bytes := none
  taskCompleted : Option Bool := none
deriving DecidableEq

structure UdsResponseFrame where
  schemaVersion : Bytes := kDaemonProtocolSchemaVersion
  requestId : Bytes := []
  traceId : Bytes := []
  sessionId : Option Bytes := none
  disposition : UdsResponseDisposition := .rejected
  exitCodeHint : Option Int32 := none
  receiptRef : Option Bytes := none
  agentResult : Option CarriedResult := none
  errorRef : Option Bytes := none
deriving DecidableEq

end Dasall.Access.Daemon
