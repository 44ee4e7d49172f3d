import Dasall.Access.Daemon.FrameText
import Mathlib.Data.List.Lex
import Mathlib.Data.UInt

/-!
# Frames come back

The decoder reads the text of an object as the object, and its fields as the fields of the frame
that was encoded.
-/

open Dasall.Lib Dasall.Lib.Text

namespace Dasall.Access.Daemon

/-! ## Values that are carried -/

/-- The value is read back from its text, which is valid. -/
def Carried (value : JsonValue) : Prop := Reads value ∧ Utf8.Valid (renderValue value)

theorem carried_string (text : Bytes) (h : Utf8.Valid text) : Carried (.string text) :=
  ⟨reads_string text, valid_quote text h⟩

theorem carried_bool (value : Bool) : Carried (.bool value) :=
  ⟨reads_bool value, valid_boolText value⟩

theorem carried_integer (value : Int32) : Carried (.integer value) :=
  ⟨reads_integer value, valid_intDecimal value.toInt⟩

theorem carried_object (members : JsonObject) (hnodup : (members.map Prod.fst).Nodup)
    (h : ∀ member ∈ members, Utf8.Valid member.1 ∧ Carried member.2) :
    Carried (.object members) :=
  ⟨reads_object members (fun member hmember => (h member hmember).2.1) hnodup,
    valid_object members fun member hmember => ⟨(h member hmember).1, (h member hmember).2.2⟩⟩

theorem valid_dispositionName (disposition : UdsResponseDisposition) :
    Utf8.Valid (dispositionName disposition) := by
  apply Utf8.valid_of_all
  cases disposition <;> rfl

theorem valid_outputModeName (mode : DaemonOutputMode) : Utf8.Valid (outputModeName mode) := by
  apply Utf8.valid_of_all
  cases mode <;> rfl

/-! ## The fields of what was written -/

/-- Fields that an encoder writes: their keys differ and are ASCII, and their values are carried. -/
structure Written (fields : List (Bytes × Option JsonValue)) : Prop where
  nodup : (fields.map Prod.fst).Nodup
  ascii : (fields.map Prod.fst).all (fun key => key.all Utf8.isAscii) = true
  carried : ∀ field ∈ fields, ∀ value ∈ field.2, Carried value

namespace Written

variable {fields : List (Bytes × Option JsonValue)}

theorem stringField (h : Written fields) (key : Bytes) (value : Option Bytes)
    (hvalue : fields.lookup key = some (value.map .string)) :
    stringField (present fields) key = value := by
  unfold Daemon.stringField
  rw [lookup_present fields key h.nodup, hvalue]
  cases value <;> rfl

theorem boolField (h : Written fields) (key : Bytes) (value : Option Bool)
    (hvalue : fields.lookup key = some (value.map .bool)) :
    boolField (present fields) key = value := by
  unfold Daemon.boolField
  rw [lookup_present fields key h.nodup, hvalue]
  cases value <;> rfl

theorem integerField (h : Written fields) (key : Bytes) (value : Option Int32)
    (hvalue : fields.lookup key = some (value.map .integer)) :
    integerField (present fields) key = value := by
  unfold Daemon.integerField
  rw [lookup_present fields key h.nodup, hvalue]
  cases value <;> rfl

theorem nodup_present (h : Written fields) : ((present fields).map Prod.fst).Nodup :=
  (present_keys_sublist fields).nodup h.nodup

theorem members (h : Written fields) (member : Bytes × JsonValue) (hmember : member ∈ present fields) :
    Utf8.Valid member.1 ∧ Carried member.2 := by
  have hfield := (mem_present fields member).mp hmember
  have hkey := List.mem_map_of_mem (f := Prod.fst) hfield
  exact ⟨Utf8.valid_of_all _ (List.all_eq_true.mp h.ascii _ hkey), h.carried _ hfield _ rfl⟩

theorem object (h : Written fields) : Carried (.object (present fields)) :=
  carried_object _ h.nodup_present h.members

theorem readRoot (h : Written fields) (hasOnlyKnownFields : JsonObject → Bool)
    (maxPayloadBytes : Nat) (hknown : hasOnlyKnownFields (present fields) = true)
    (hsize : (renderValue (.object (present fields))).length ≤ maxPayloadBytes) :
    readRoot hasOnlyKnownFields (renderValue (.object (present fields))) maxPayloadBytes =
      .ok (present fields) := by
  have hnonempty : renderValue (.object (present fields)) ≠ [] := by
    rw [renderValue_object]
    exact List.cons_ne_nil _ _
  have hvalid := (isValidUtf8_iff _).mpr h.object.2
  have hroot := parseRootObject_render (present fields)
    (fun member hmember => (h.members member hmember).2.1) h.nodup_present
  unfold Daemon.readRoot
  rw [if_neg hnonempty, if_neg (by omega), hvalid, hroot]
  simp [hknown]

end Written

theorem all_known (fields : List (Bytes × Option JsonValue)) (names : List Bytes)
    (h : ∀ key ∈ fields.map Prod.fst, names.contains key = true) :
    ((present fields).all fun member => names.contains member.1) = true := by
  rw [List.all_eq_true]
  intro member hmember
  exact h _ ((present_keys_sublist fields).subset (List.mem_map_of_mem (f := Prod.fst) hmember))

theorem readSchemaVersion_of_field (root : JsonObject)
    (h : stringField root (str "schema_version") = some kDaemonProtocolSchemaVersion) :
    readSchemaVersion root = .ok kDaemonProtocolSchemaVersion := by
  unfold readSchemaVersion
  rw [h]
  simp

/-! ## Requests -/

/-- Every string of the frame is valid UTF-8. -/
structure UdsRequestFrame.ValidStrings (frame : UdsRequestFrame) : Prop where
  schemaVersion : Utf8.Valid frame.schemaVersion
  requestId : Utf8.Valid frame.requestId
  traceId : Utf8.Valid frame.traceId
  sessionHint : ∀ text ∈ frame.sessionHint, Utf8.Valid text
  idempotencyKey : ∀ text ∈ frame.idempotencyKey, Utf8.Valid text
  command : Utf8.Valid frame.command
  args : ∀ entry ∈ frame.args.entries, Utf8.Valid entry.1 ∧ Utf8.Valid entry.2
  payload : Utf8.Valid frame.payload

theorem carried_args (args : Args)
    (h : ∀ entry ∈ args.entries, Utf8.Valid entry.1 ∧ Utf8.Valid entry.2) :
    Carried (.object (argsMembers args.entries)) := by
  unfold argsMembers
  apply carried_object
  · rw [List.map_map]
    exact args.nodup_keys
  · intro member hmember
    obtain ⟨entry, hentry, rfl⟩ := List.mem_map.mp hmember
    exact ⟨(h entry hentry).1, carried_string _ (h entry hentry).2⟩

theorem carried_optional (value : Option Bytes) (h : ∀ text ∈ value, Utf8.Valid text) :
    ∀ member ∈ value.map JsonValue.string, Carried member := by
  intro member hmember
  obtain ⟨text, htext, rfl⟩ := Option.map_eq_some_iff.mp hmember
  exact carried_string text (h text htext)

theorem carried_optionalInteger (value : Option Int32) :
    ∀ member ∈ value.map JsonValue.integer, Carried member := by
  intro member hmember
  obtain ⟨number, -, rfl⟩ := Option.map_eq_some_iff.mp hmember
  exact carried_integer number

theorem carried_some {value : JsonValue} (h : Carried value) :
    ∀ member ∈ some value, Carried member := by
  rintro member ⟨⟩
  exact h

variable (frame : UdsRequestFrame) (agentResult : CarriedResult)

theorem requestMembers_keys :
    (requestMembers frame).map Prod.fst = requestFields := rfl

theorem requestMembers_written (h : frame.ValidStrings) :
    Written (requestMembers frame) where
  nodup := by
    rw [requestMembers_keys]
    decide
  ascii := rfl
  carried := by
    simp only [requestMembers, List.forall_mem_cons, List.not_mem_nil, false_imp_iff,
      implies_true, and_true]
    refine ⟨carried_some (carried_string _ h.schemaVersion),
      carried_some (carried_string _ h.requestId), carried_some (carried_string _ h.traceId),
      carried_optional _ h.sessionHint, carried_optional _ h.idempotencyKey,
      carried_some (carried_string _ h.command), carried_some (carried_args _ h.args),
      carried_some (carried_string _ h.payload), carried_some (carried_bool _),
      carried_some (carried_string _ (valid_outputModeName _)), carried_optionalInteger _⟩

theorem parseArgsLoop_members (entries : List (Bytes × Bytes)) (args : Args) :
    parseArgsLoop (argsMembers entries) args = (true, entries.foldl OrderedMap.emplace args) := by
  induction entries generalizing args with
  | nil => rfl
  | cons entry rest ih => exact ih (args.emplace entry)

theorem parseArgsField_members (h : frame.ValidStrings) :
    parseArgsField (present (requestMembers frame)) = (true, frame.args) := by
  have hlookup : (requestMembers frame).lookup (str "args") =
      some (some (.object (argsMembers frame.args.entries))) := rfl
  unfold parseArgsField
  rw [lookup_present _ _ (requestMembers_written frame h).nodup, hlookup]
  dsimp only [Option.bind_some, id]
  rw [parseArgsLoop_members,
    OrderedMap.foldl_emplace_entries frame.args frame.args.entries (List.Perm.refl _)]

theorem payload_length :
    frame.payload.length ≤ (encodeRequestFrame frame).length := by
  have hmember : (str "payload", JsonValue.string frame.payload) ∈
      present (requestMembers frame) := by
    rw [mem_present]
    simp [requestMembers]
  have hle := length_object _ _ hmember
  have hquote := length_quote frame.payload
  rw [encodeRequestFrame_eq]
  rw [renderValue] at hle
  omega

theorem decodeRequestFrame_encode (maxPayloadBytes : Nat)
    (hstrings : frame.ValidStrings) (hversion : frame.schemaVersion = kDaemonProtocolSchemaVersion)
    (hcommand : isKnownDaemonCommand (classifyDaemonCommand frame.command) = true)
    (hsize : (encodeRequestFrame frame).length ≤ maxPayloadBytes) :
    decodeRequestFrame (encodeRequestFrame frame) maxPayloadBytes = { frame := frame } := by
  have hwritten := requestMembers_written frame hstrings
  have hpayload := payload_length frame
  rw [encodeRequestFrame_eq] at hsize hpayload ⊢
  have hknown : hasOnlyKnownRequestFields (present (requestMembers frame)) = true :=
    all_known _ requestFields (by rw [requestMembers_keys]; decide)
  have hroot := hwritten.readRoot hasOnlyKnownRequestFields maxPayloadBytes hknown hsize
  have hschema := readSchemaVersion_of_field (present (requestMembers frame)) (by
    rw [← hversion]
    exact hwritten.stringField _ (some _) rfl)
  have hnonempty : frame.command ≠ [] := by
    intro hempty
    rw [hempty] at hcommand
    exact absurd hcommand (by decide)
  have hread : readCommand (present (requestMembers frame)) = .ok frame.command := by
    unfold readCommand
    rw [hwritten.stringField (str "command") (some frame.command) rfl]
    dsimp only
    rw [if_neg hnonempty, if_pos hcommand]
  have hrequestId := hwritten.stringField (str "request_id") (some frame.requestId) rfl
  have htraceId := hwritten.stringField (str "trace_id") (some frame.traceId) rfl
  have hframePayload := hwritten.stringField (str "payload") (some frame.payload) rfl
  have hhint := hwritten.stringField (str "session_hint") frame.sessionHint rfl
  have hkey := hwritten.stringField (str "idempotency_key") frame.idempotencyKey rfl
  have hasync := hwritten.boolField (str "async_preference")
    (some (frame.asyncPreference = .preferAsync)) rfl
  have hmode := hwritten.stringField (str "output_mode") (some (outputModeName frame.outputMode)) rfl
  have hdeadline := hwritten.integerField (str "deadline_ms") frame.deadlineMs rfl
  have hpreference : (if (some (decide (frame.asyncPreference = .preferAsync))) = some true then
      DaemonAsyncPreference.preferAsync else .preferSync) = frame.asyncPreference := by
    cases frame.asyncPreference <;> rfl
  unfold decodeRequestFrame
  simp only [hroot, hschema, hread]
  unfold readRequestFrame
  simp only [parseArgsField_members frame hstrings, hrequestId, htraceId, hframePayload,
    Option.getD_some, Bool.not_true, Bool.false_eq_true, if_false]
  rw [if_neg (by omega)]
  unfold readRequestOptions
  simp only [hhint, hkey, hasync, hmode, hdeadline, outputModeFromName_outputModeName,
    hpreference, ← hversion]

/-! ## Responses -/

/-- Every string of the result is valid UTF-8. -/
structure CarriedResult.ValidStrings (agentResult : CarriedResult) : Prop where
  resultId : ∀ text ∈ agentResult.resultId, Utf8.Valid text
  responseText : ∀ text ∈ agentResult.responseText, Utf8.Valid text
  requestId : ∀ text ∈ agentResult.requestId, Utf8.Valid text
  traceId : ∀ text ∈ agentResult.traceId, Utf8.Valid text

/-- Every string of the frame is valid UTF-8. -/
structure UdsResponseFrame.ValidStrings (frame : UdsResponseFrame) : Prop where
  schemaVersion : Utf8.Valid frame.schemaVersion
  requestId : Utf8.Valid frame.requestId
  traceId : Utf8.Valid frame.traceId
  sessionId : ∀ text ∈ frame.sessionId, Utf8.Valid text
  receiptRef : ∀ text ∈ frame.receiptRef, Utf8.Valid text
  agentResult : ∀ result ∈ frame.agentResult, result.ValidStrings
  errorRef : ∀ text ∈ frame.errorRef, Utf8.Valid text

theorem agentResultMembers_keys :
    (agentResultMembers agentResult).map Prod.fst = agentResultFields := rfl

theorem agentResultMembers_written (h : agentResult.ValidStrings) :
    Written (agentResultMembers agentResult) where
  nodup := by
    rw [agentResultMembers_keys]
    decide
  ascii := rfl
  carried := by
    have hcompleted : ∀ member ∈ agentResult.taskCompleted.map JsonValue.bool, Carried member := by
      intro member hmember
      obtain ⟨flag, -, rfl⟩ := Option.map_eq_some_iff.mp hmember
      exact carried_bool flag
    simp only [agentResultMembers, List.forall_mem_cons, List.not_mem_nil, false_imp_iff,
      implies_true, and_true]
    exact ⟨carried_optional _ h.resultId, carried_optional _ h.responseText,
      carried_optional _ h.requestId, carried_optional _ h.traceId, hcompleted⟩

variable (frame : UdsResponseFrame)

theorem responseMembers_keys :
    (responseMembers frame).map Prod.fst =
      [str "schema_version", str "request_id", str "trace_id", str "disposition",
        str "session_id", str "exit_code_hint", str "receipt_ref", str "error_ref",
        str "agent_result"] := rfl

theorem responseMembers_written (h : frame.ValidStrings) :
    Written (responseMembers frame) where
  nodup := by
    rw [responseMembers_keys]
    decide
  ascii := rfl
  carried := by
    have hresult : ∀ member ∈ frame.agentResult.map fun agentResult =>
        JsonValue.object (present (agentResultMembers agentResult)), Carried member := by
      intro member hmember
      obtain ⟨agentResult, hagentResult, rfl⟩ := Option.map_eq_some_iff.mp hmember
      exact (agentResultMembers_written agentResult (h.agentResult _ hagentResult)).object
    simp only [responseMembers, List.forall_mem_cons, List.not_mem_nil, false_imp_iff,
      implies_true, and_true]
    exact ⟨carried_some (carried_string _ h.schemaVersion),
      carried_some (carried_string _ h.requestId), carried_some (carried_string _ h.traceId),
      carried_some (carried_string _ (valid_dispositionName _)), carried_optional _ h.sessionId,
      carried_optionalInteger _, carried_optional _ h.receiptRef, carried_optional _ h.errorRef,
      hresult⟩

theorem hasOnlyKnownResponseFields_members :
    hasOnlyKnownResponseFields (present (responseMembers frame)) = true := by
  unfold hasOnlyKnownResponseFields
  have hresult : ∀ member ∈ present (responseMembers frame),
      member.1 = str "agent_result" → ∃ agentResult : CarriedResult,
        member.2 = .object (present (agentResultMembers agentResult)) := by
    intro member hmember hkey
    have hfield := (mem_present _ _).mp hmember
    rw [hkey] at hfield
    have hlast : some member.2 = frame.agentResult.map fun agentResult =>
        JsonValue.object (present (agentResultMembers agentResult)) := by
      simpa [responseMembers, str] using hfield
    obtain ⟨agentResult, -, hvalue⟩ := Option.map_eq_some_iff.mp hlast.symm
    exact ⟨agentResult, hvalue.symm⟩
  have hnames := all_known (responseMembers frame) responseFields (by
    rw [responseMembers_keys]
    decide)
  rw [List.all_eq_true] at hnames ⊢
  intro member hmember
  rw [hnames member hmember, Bool.true_and]
  split
  · next hkey =>
    obtain ⟨agentResult, hvalue⟩ := hresult member hmember hkey
    rw [hvalue]
    exact all_known _ agentResultFields (by rw [agentResultMembers_keys]; decide)
  · rfl

theorem readAgentResult_members (h : agentResult.ValidStrings) :
    readAgentResult (.object (present (agentResultMembers agentResult))) = agentResult := by
  have hwritten := agentResultMembers_written agentResult h
  have hresultId := hwritten.stringField (str "result_id") agentResult.resultId rfl
  have htext := hwritten.stringField (str "response_text") agentResult.responseText rfl
  have hrequestId := hwritten.stringField (str "request_id") agentResult.requestId rfl
  have htraceId := hwritten.stringField (str "trace_id") agentResult.traceId rfl
  have hcompleted := hwritten.boolField (str "task_completed") agentResult.taskCompleted rfl
  unfold readAgentResult
  simp only [hresultId, htext, hrequestId, htraceId, hcompleted]

theorem decodeResponseFrame_encode (maxPayloadBytes : Nat)
    (hstrings : frame.ValidStrings) (hversion : frame.schemaVersion = kDaemonProtocolSchemaVersion)
    (hsize : (encodeResponseFrame frame).length ≤ maxPayloadBytes) :
    decodeResponseFrame (encodeResponseFrame frame) maxPayloadBytes = { frame := frame } := by
  have hwritten := responseMembers_written frame hstrings
  rw [encodeResponseFrame_eq] at hsize ⊢
  have hroot := hwritten.readRoot hasOnlyKnownResponseFields maxPayloadBytes
    (hasOnlyKnownResponseFields_members frame) hsize
  have hschema := readSchemaVersion_of_field (present (responseMembers frame)) (by
    rw [← hversion]
    exact hwritten.stringField _ (some _) rfl)
  have hdisposition : readDisposition (present (responseMembers frame)) =
      some frame.disposition := by
    unfold readDisposition
    rw [hwritten.stringField (str "disposition") (some (dispositionName frame.disposition)) rfl]
    dsimp only
    rw [if_neg (dispositionName_ne_nil _), dispositionFromName_dispositionName]
  have hrequestId := hwritten.stringField (str "request_id") (some frame.requestId) rfl
  have htraceId := hwritten.stringField (str "trace_id") (some frame.traceId) rfl
  have hsession := hwritten.stringField (str "session_id") frame.sessionId rfl
  have hexit := hwritten.integerField (str "exit_code_hint") frame.exitCodeHint rfl
  have hreceipt := hwritten.stringField (str "receipt_ref") frame.receiptRef rfl
  have herror := hwritten.stringField (str "error_ref") frame.errorRef rfl
  have hresult : ((present (responseMembers frame)).lookup (str "agent_result")).map
      readAgentResult = frame.agentResult := by
    have hlookup : (responseMembers frame).lookup (str "agent_result") =
        some (frame.agentResult.map fun agentResult =>
          JsonValue.object (present (agentResultMembers agentResult))) := rfl
    rw [lookup_present _ _ hwritten.nodup, hlookup]
    cases hagentResult : frame.agentResult with
    | none => rfl
    | some agentResult =>
      exact congrArg some (readAgentResult_members agentResult
        (hstrings.agentResult agentResult hagentResult))
  unfold decodeResponseFrame
  simp only [hroot, hschema, hdisposition, hrequestId, htraceId, hsession, hexit, hreceipt,
    herror, hresult, Option.getD_some, ← hversion]

/-! ## Frames that do not come back -/

theorem decodeResponseFrame_tooLarge (maxPayloadBytes : Nat)
    (h : maxPayloadBytes ≤ frame.requestId.length) :
    (decodeResponseFrame (encodeResponseFrame frame) maxPayloadBytes).error = .payloadTooLarge := by
  have hmember : (str "request_id", JsonValue.string frame.requestId) ∈
      present (responseMembers frame) := by
    rw [mem_present]
    simp [responseMembers]
  have hle := length_object _ _ hmember
  have hquote := length_quote frame.requestId
  rw [renderValue] at hle
  rw [encodeResponseFrame_eq]
  have hlarge : maxPayloadBytes <
      (renderValue (.object (present (responseMembers frame)))).length := by omega
  have hnonempty : renderValue (.object (present (responseMembers frame))) ≠ [] := by
    rw [renderValue_object]
    exact List.cons_ne_nil _ _
  unfold decodeResponseFrame readRoot
  rw [if_neg hnonempty, if_pos hlarge]

def olderPeerResponse : UdsResponseFrame := { schemaVersion := str "2" }

def longResponse : UdsResponseFrame := { requestId := List.replicate kMaxPayloadBytes 97 }

theorem validStrings_ascii (schemaVersion requestId : Bytes)
    (hversion : schemaVersion.all Utf8.isAscii = true) (hid : requestId.all Utf8.isAscii = true) :
    UdsResponseFrame.ValidStrings { schemaVersion, requestId } where
  schemaVersion := Utf8.valid_of_all _ hversion
  requestId := Utf8.valid_of_all _ hid
  traceId := Utf8.valid_nil
  sessionId := by simp
  receiptRef := by simp
  agentResult := by simp
  errorRef := by simp

/-- A response of another schema version is refused, and so is one beyond the limit. -/
theorem response_refused :
    (olderPeerResponse.ValidStrings ∧
      (decodeResponseFrame (encodeResponseFrame olderPeerResponse) kMaxPayloadBytes).error =
        .unsupportedSchemaVersion) ∧
    (longResponse.ValidStrings ∧ longResponse.schemaVersion = kDaemonProtocolSchemaVersion ∧
      (decodeResponseFrame (encodeResponseFrame longResponse) kMaxPayloadBytes).error =
        .payloadTooLarge) := by
  refine ⟨⟨validStrings_ascii _ _ rfl rfl, by decide +kernel⟩,
    validStrings_ascii _ _ rfl ?_, rfl, ?_⟩
  · rw [List.all_eq_true]
    intro a ha
    rw [List.eq_of_mem_replicate ha]
    rfl
  · apply decodeResponseFrame_tooLarge
    unfold longResponse
    rw [List.length_replicate]

/-- Frames come back from their text, requests and responses of this schema version alike, as long
as the text is within the limit. -/
theorem frames_come_back (maxPayloadBytes : Nat) :
    (∀ frame : UdsRequestFrame, frame.ValidStrings →
      frame.schemaVersion = kDaemonProtocolSchemaVersion →
      isKnownDaemonCommand (classifyDaemonCommand frame.command) = true →
      (encodeRequestFrame frame).length ≤ maxPayloadBytes →
      decodeRequestFrame (encodeRequestFrame frame) maxPayloadBytes =
        { frame := frame, error := .none }) ∧
    (∀ frame : UdsResponseFrame, frame.ValidStrings →
      frame.schemaVersion = kDaemonProtocolSchemaVersion →
      (encodeResponseFrame frame).length ≤ maxPayloadBytes →
      decodeResponseFrame (encodeResponseFrame frame) maxPayloadBytes =
        { frame := frame, error := .none }) := by
  constructor
  · intro frame hstrings hversion hcommand hsize
    exact decodeRequestFrame_encode frame maxPayloadBytes hstrings hversion hcommand hsize
  · intro frame hstrings hversion hsize
    exact decodeResponseFrame_encode frame maxPayloadBytes hstrings hversion hsize

def pingRequest : UdsRequestFrame :=
  { requestId := str "r", command := str "ping", sessionHint := some [0xC3, 0xA9]
    args := OrderedMap.emplace .empty (str "k", str "v"), deadlineMs := some (-5) }

def pongResponse : UdsResponseFrame :=
  { requestId := str "r", disposition := .completed, exitCodeHint := some 0
    agentResult := some { responseText := some (str "pong"), taskCompleted := some true } }

theorem pingRequest_validStrings : pingRequest.ValidStrings where
  schemaVersion := Utf8.valid_of_all _ rfl
  requestId := Utf8.valid_of_all _ rfl
  traceId := Utf8.valid_nil
  sessionHint := by
    rintro text ⟨⟩
    exact Utf8.valid_encode 'é'
  idempotencyKey := by
    rintro text ⟨⟩
  command := Utf8.valid_of_all _ rfl
  args := by
    intro entry hentry
    rw [List.mem_singleton.mp hentry]
    exact ⟨Utf8.valid_of_all _ rfl, Utf8.valid_of_all _ rfl⟩
  payload := Utf8.valid_nil

theorem pongResponse_validStrings : pongResponse.ValidStrings where
  schemaVersion := Utf8.valid_of_all _ rfl
  requestId := Utf8.valid_of_all _ rfl
  traceId := Utf8.valid_nil
  sessionId := by
    rintro text ⟨⟩
  receiptRef := by
    rintro text ⟨⟩
  agentResult := by
    rintro agentResult ⟨⟩
    have hpong : Utf8.Valid (str "pong") := Utf8.valid_of_all _ rfl
    constructor <;> simp [hpong]
  errorRef := by
    rintro text ⟨⟩

theorem ping_and_pong_come_back :
    decodeRequestFrame (encodeRequestFrame pingRequest) kMaxPayloadBytes =
        { frame := pingRequest, error := .none } ∧
      decodeResponseFrame (encodeResponseFrame pongResponse) kMaxPayloadBytes =
        { frame := pongResponse, error := .none } := by
  constructor
  · exact (frames_come_back kMaxPayloadBytes).1 pingRequest pingRequest_validStrings rfl (by decide)
      (by decide +kernel)
  · exact (frames_come_back kMaxPayloadBytes).2 pongResponse pongResponse_validStrings rfl
      (by decide +kernel)

end Dasall.Access.Daemon
