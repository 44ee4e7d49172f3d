import Dasall.Access.Daemon.JsonText
import Dasall.Access.Daemon.ProtocolTypes
import Dasall.Access.Daemon.Utf8Check

/-!
# The frame codec

The encoder concatenates text, and keeps its own account of the commas. The decoder reads a root
object with known fields only, and takes the fields of the frame from it one by one.
-/

open Dasall.Lib Dasall.Lib.Text

namespace Dasall.Access.Daemon

/-! ## Fields of an object -/

def stringField (object : JsonObject) (key : Bytes) : Option Bytes :=
  match object.lookup key with
  | some (.string value) => some value
  | _ => none

def boolField (object : JsonObject) (key : Bytes) : Option Bool :=
  match object.lookup key with
  | some (.bool value) => some value
  | _ => none

def integerField (object : JsonObject) (key : Bytes) : Option Int32 :=
  match object.lookup key with
  | some (.integer value) => some value
  | _ => none

def requestFields : List Bytes :=
  [str "schema_version", str "request_id", str "trace_id", str "session_hint",
    str "idempotency_key", str "command", str "args", str "payload", str "async_preference",
    str "output_mode", str "deadline_ms"]

def agentResultFields : List Bytes :=
  [str "result_id", str "response_text", str "request_id", str "trace_id", str "task_completed"]

def responseFields : List Bytes :=
  [str "schema_version", str "request_id", str "trace_id", str "session_id", str "disposition",
    str "exit_code_hint", str "receipt_ref", str "error_ref", str "agent_result"]

def hasOnlyKnownRequestFields (object : JsonObject) : Bool :=
  object.all fun member => requestFields.contains member.1

def hasOnlyKnownAgentResultFields (object : JsonObject) : Bool :=
  object.all fun member => agentResultFields.contains member.1

def hasOnlyKnownResponseFields (object : JsonObject) : Bool :=
  object.all fun member =>
    responseFields.contains member.1 &&
      (if member.1 = str "agent_result" then
        match member.2 with
        | .object members => hasOnlyKnownAgentResultFields members
        | _ => false
      else true)

/-- The loop of `parse_args_field`. The source goes over a hash table, here it is the order of the
text: only the entries of a refused frame depend on it. -/
def parseArgsLoop : JsonObject → Args → Bool × Args
  | [], args => (true, args)
  | (key, .string value) :: rest, args => parseArgsLoop rest (args.emplace (key, value))
  | _ :: _, args => (false, args)

def parseArgsField (object : JsonObject) : Bool × Args :=
  match object.lookup (str "args") with
  | none => (true, .empty)
  | some (.object members) => parseArgsLoop members .empty
  | some _ => (false, .empty)

/-! ## Names -/

def dispositionName : UdsResponseDisposition → Bytes
  | .rejected => str "rejected"
  | .completed => str "completed"
  | .acceptedAsync => str "accepted_async"
  | .notReady => str "not_ready"

def dispositionFromName (name : Bytes) : Option UdsResponseDisposition :=
  if name = str "rejected" then some .rejected
  else if name = str "completed" then some .completed
  else if name = str "accepted_async" then some .acceptedAsync
  else if name = str "not_ready" then some .notReady
  else none

def outputModeName : DaemonOutputMode → Bytes
  | .human => str "human"
  | .json => str "json"

def outputModeFromName (name : Bytes) : Option DaemonOutputMode :=
  if name = str "human" then some .human else if name = str "json" then some .json else none

theorem dispositionFromName_dispositionName (disposition : UdsResponseDisposition) :
    dispositionFromName (dispositionName disposition) = some disposition := by
  cases disposition <;> rfl

theorem dispositionName_ne_nil (disposition : UdsResponseDisposition) :
    dispositionName disposition ≠ [] := by
  cases disposition <;> decide

theorem outputModeFromName_outputModeName (mode : DaemonOutputMode) :
    outputModeFromName (outputModeName mode) = some mode := by
  cases mode <;> rfl

/-! ## Decoding -/

def kMaxPayloadBytes : Nat := 1024 * 1024

structure DecodedDaemonRequestFrame where
  frame : UdsRequestFrame := {}
  error : DaemonFrameDecodeError := .none

structure DecodedDaemonResponseFrame where
  frame : UdsResponseFrame := {}
  error : DaemonFrameDecodeError := .none

/-- The checks on the payload that both decoders begin with. -/
def readRoot (hasOnlyKnownFields : JsonObject → Bool) (payload : Bytes) (maxPayloadBytes : Nat) :
    Except DaemonFrameDecodeError JsonObject :=
  if payload = [] then .error .emptyPayload
  else if maxPayloadBytes < payload.length then .error .payloadTooLarge
  else if !isValidUtf8 payload then .error .malformedEnvelope
  else
    match parseRootObject payload with
    | none => .error .malformedEnvelope
    | some root => if hasOnlyKnownFields root then .ok root else .error .malformedEnvelope

/-- The check on the schema version that comes next in both. -/
def readSchemaVersion (root : JsonObject) : Except DaemonFrameDecodeError Bytes :=
  match stringField root (str "schema_version") with
  | none => .error .missingSchemaVersion
  | some schemaVersion =>
    if schemaVersion ≠ kDaemonProtocolSchemaVersion then .error .unsupportedSchemaVersion
    else .ok schemaVersion

def readCommand (root : JsonObject) : Except DaemonFrameDecodeError Bytes :=
  match stringField root (str "command") with
  | none => .error .missingCommand
  | some command =>
    if command = [] then .error .missingCommand
    else if isKnownDaemonCommand (classifyDaemonCommand command) then .ok command
    else .error .unknownCommand

/-- The optional fields behind the payload, and the output mode, which can still be refused. -/
def readRequestOptions (root : JsonObject) (frame : UdsRequestFrame) : DecodedDaemonRequestFrame :=
  let frame := { frame with
    sessionHint := stringField root (str "session_hint")
    idempotencyKey := stringField root (str "idempotency_key")
    asyncPreference :=
      if boolField root (str "async_preference") = some true then .preferAsync
      else frame.asyncPreference }
  match stringField root (str "output_mode") with
  | none => { frame := { frame with deadlineMs := integerField root (str "deadline_ms") } }
  | some name =>
    match outputModeFromName name with
    | none => { frame, error := .malformedEnvelope }
    | some outputMode =>
      { frame := { frame with outputMode, deadlineMs := integerField root (str "deadline_ms") } }

def readRequestFrame (root : JsonObject) (schemaVersion command : Bytes) (maxPayloadBytes : Nat) :
    DecodedDaemonRequestFrame :=
  let (read, args) := parseArgsField root
  if !read then { frame := { args }, error := .malformedEnvelope }
  else
    let frame : UdsRequestFrame :=
      { schemaVersion, command, args
        requestId := (stringField root (str "request_id")).getD []
        traceId := (stringField root (str "trace_id")).getD []
        payload := (stringField root (str "payload")).getD [] }
    if maxPayloadBytes < frame.payload.length then { frame, error := .payloadTooLarge }
    else readRequestOptions root frame

def decodeRequestFrame (payload : Bytes) (maxPayloadBytes : Nat := kMaxPayloadBytes) :
    DecodedDaemonRequestFrame :=
  match readRoot hasOnlyKnownRequestFields payload maxPayloadBytes with
  | .error error => { error }
  | .ok root =>
    match readSchemaVersion root with
    | .error error => { error }
    | .ok schemaVersion =>
      match readCommand root with
      | .error error => { error }
      | .ok command => readRequestFrame root schemaVersion command maxPayloadBytes

def readDisposition (root : JsonObject) : Option UdsResponseDisposition :=
  match stringField root (str "disposition") with
  | none => none
  | some name => if name = [] then none else dispositionFromName name

/-- A member that is no object has no fields to take. -/
def readAgentResult (value : JsonValue) : CarriedResult :=
  let object := match value with
    | .object members => members
    | _ => []
  { resultId := stringField object (str "result_id")
    responseText := stringField object (str "response_text")
    requestId := stringField object (str "request_id")
    traceId := stringField object (str "trace_id")
    taskCompleted := boolField object (str "task_completed") }

def decodeResponseFrame (payload : Bytes) (maxPayloadBytes : Nat := kMaxPayloadBytes) :
    DecodedDaemonResponseFrame :=
  match readRoot hasOnlyKnownResponseFields payload maxPayloadBytes with
  | .error error => { error }
  | .ok root =>
    match readSchemaVersion root with
    | .error error => { error }
    | .ok schemaVersion =>
      match readDisposition root with
      | none => { error := .malformedEnvelope }
      | some disposition =>
        { frame :=
          { schemaVersion, disposition
            requestId := (stringField root (str "request_id")).getD []
            traceId := (stringField root (str "trace_id")).getD []
            sessionId := stringField root (str "session_id")
            exitCodeHint := integerField root (str "exit_code_hint")
            receiptRef := stringField root (str "receipt_ref")
            errorRef := stringField root (str "error_ref")
            agentResult := (root.lookup (str "agent_result")).map readAgentResult } }

/-! ## Encoding -/

/-- The text of a field that may be absent. -/
def optionalText {α : Type} (value : Option α) (text : α → Bytes) : Bytes :=
  match value with
  | none => []
  | some value => text value

/-- The loop over the arguments. -/
def encodeArgs : Bool → List (Bytes × Bytes) → Bytes
  | _, [] => []
  | firstArg, (key, value) :: rest =>
    (if firstArg then [] else str ",") ++
      (str "\"" ++ escapeJsonString key ++ str "\":\"" ++ escapeJsonString value ++ str "\"") ++
      encodeArgs false rest

def encodeRequestFrame (frame : UdsRequestFrame) : Bytes :=
  str "\x7b" ++
    (str "\"schema_version\":\"" ++ escapeJsonString frame.schemaVersion ++ str "\"") ++
    (str ",\"request_id\":\"" ++ escapeJsonString frame.requestId ++ str "\"") ++
    (str ",\"trace_id\":\"" ++ escapeJsonString frame.traceId ++ str "\"") ++
    optionalText frame.sessionHint (fun sessionHint =>
      str ",\"session_hint\":\"" ++ escapeJsonString sessionHint ++ str "\"") ++
    optionalText frame.idempotencyKey (fun idempotencyKey =>
      str ",\"idempotency_key\":\"" ++ escapeJsonString idempotencyKey ++ str "\"") ++
    (str ",\"command\":\"" ++ escapeJsonString frame.command ++ str "\"") ++
    (str ",\"args\":\x7b" ++ encodeArgs true frame.args.entries ++ str "\x7d") ++
    (str ",\"payload\":\"" ++ escapeJsonString frame.payload ++ str "\"") ++
    (str ",\"async_preference\":" ++
      if frame.asyncPreference = .preferAsync then str "true" else str "false") ++
    (str ",\"output_mode\":\"" ++ outputModeName frame.outputMode ++ str "\"") ++
    optionalText frame.deadlineMs (fun deadlineMs =>
      str ",\"deadline_ms\":" ++ intDecimal deadlineMs.toInt) ++
    str "\x7d"

/-- A field behind the ones written so far: a comma stands before it unless it is the first. -/
def appendField (written : Bytes × Bool) (field : Option Bytes) : Bytes × Bool :=
  match field with
  | none => written
  | some text => (written.1 ++ (if written.2 then [] else str ",") ++ text, false)

def encodeAgentResult (agentResult : CarriedResult) : Bytes :=
  ([agentResult.resultId.map fun resultId =>
      str "\"result_id\":\"" ++ escapeJsonString resultId ++ str "\"",
    agentResult.responseText.map fun responseText =>
      str "\"response_text\":\"" ++ escapeJsonString responseText ++ str "\"",
    agentResult.requestId.map fun requestId =>
      str "\"request_id\":\"" ++ escapeJsonString requestId ++ str "\"",
    agentResult.traceId.map fun traceId =>
      str "\"trace_id\":\"" ++ escapeJsonString traceId ++ str "\"",
    agentResult.taskCompleted.map fun taskCompleted =>
      str "\"task_completed\":" ++ if taskCompleted then str "true" else str "false"].foldl
    appendField ([], true)).1

def encodeResponseFrame (frame : UdsResponseFrame) : Bytes :=
  str "\x7b" ++
    (str "\"schema_version\":\"" ++ escapeJsonString frame.schemaVersion ++ str "\"") ++
    (str ",\"request_id\":\"" ++ escapeJsonString frame.requestId ++ str "\"") ++
    (str ",\"trace_id\":\"" ++ escapeJsonString frame.traceId ++ str "\"") ++
    (str ",\"disposition\":\"" ++ dispositionName frame.disposition ++ str "\"") ++
    optionalText frame.sessionId (fun sessionId =>
      str ",\"session_id\":\"" ++ escapeJsonString sessionId ++ str "\"") ++
    optionalText frame.exitCodeHint (fun exitCodeHint =>
      str ",\"exit_code_hint\":" ++ intDecimal exitCodeHint.toInt) ++
    optionalText frame.receiptRef (fun receiptRef =>
      str ",\"receipt_ref\":\"" ++ escapeJsonString receiptRef ++ str "\"") ++
    optionalText frame.errorRef (fun errorRef =>
      str ",\"error_ref\":\"" ++ escapeJsonString errorRef ++ str "\"") ++
    optionalText frame.agentResult (fun agentResult =>
      str ",\"agent_result\":\x7b" ++ encodeAgentResult agentResult ++ str "\x7d") ++
    str "\x7d"

end Dasall.Access.Daemon
