import Dasall.Access.Daemon.FrameCodec

/-!
# The text of a frame

The encoders write the text of an object: the members of a frame that are there, with the commas
between them. The text of valid strings is valid UTF-8.
-/

open Dasall.Lib Dasall.Lib.Text

namespace Dasall.Access.Daemon

/-! ## Members that are there -/

/-- The fields that have a value. -/
def present (fields : List (Bytes × Option JsonValue)) : JsonObject :=
  fields.filterMap fun field => field.2.map fun value => (field.1, value)

@[simp] theorem present_nil : present [] = [] := rfl

variable (opening : Bytes) (entries : List (Bytes × Bytes)) (byte : Byte) (members : JsonObject)
  (text : Bytes) (fields : List (Bytes × Option JsonValue)) (key : Bytes)
  (member : Bytes × JsonValue) (value : JsonValue) (rest : List (Bytes × Option JsonValue))

@[simp] theorem present_none :
    present ((key, none) :: rest) = present rest := rfl

@[simp] theorem present_some :
    present ((key, some value) :: rest) = (key, value) :: present rest := rfl

theorem mem_present :
    member ∈ present fields ↔ (member.1, some member.2) ∈ fields := by
  unfold present
  rw [List.mem_filterMap]
  constructor
  · rintro ⟨⟨key, value⟩, hfield, hvalue⟩
    obtain ⟨value, rfl, rfl⟩ := Option.map_eq_some_iff.mp hvalue
    exact hfield
  · exact fun h => ⟨_, h, rfl⟩

theorem present_keys_sublist :
    ((present fields).map Prod.fst).Sublist (fields.map Prod.fst) := by
  induction fields with
  | nil => exact List.Sublist.refl _
  | cons field rest ih =>
    obtain ⟨key, value⟩ := field
    cases value with
    | none => exact ih.cons key
    | some value => exact ih.cons_cons key

theorem lookup_present (hnodup : (fields.map Prod.fst).Nodup) :
    (present fields).lookup key = (fields.lookup key).bind id := by
  induction fields with
  | nil => rfl
  | cons field rest ih =>
    obtain ⟨other, value⟩ := field
    rw [List.map_cons, List.nodup_cons] at hnodup
    cases value with
    | none =>
      rw [present_none, ih hnodup.2, List.lookup_cons]
      by_cases hsame : key = other
      · have habsent : rest.lookup key = none := by
          rw [List.lookup_eq_none_iff]
          intro entry hentry
          apply bne_iff_ne.mpr
          intro heq
          exact hnodup.1 (List.mem_map.mpr ⟨entry, hentry, by rw [← heq, hsame]⟩)
        rw [habsent, hsame, beq_self_eq_true]
        rfl
      · rw [beq_eq_false_iff_ne.mpr hsame]
    | some value =>
      rw [present_some, List.lookup_cons, List.lookup_cons]
      by_cases hsame : key = other
      · rw [hsame, beq_self_eq_true]
        rfl
      · rw [beq_eq_false_iff_ne.mpr hsame]
        exact ih hnodup.2

/-- The text behind the first member: a comma, and the member, for each that is there. -/
theorem renderLater_present :
    renderLater (present fields) =
      fields.flatMap fun field => optionalText field.2 fun value =>
        44 :: renderMember (field.1, value) := by
  induction fields with
  | nil => rfl
  | cons field rest ih =>
    obtain ⟨key, value⟩ := field
    cases value with
    | none =>
      rw [present_none, ih]
      rfl
    | some value =>
      rw [present_some, renderLater, ih]
      rfl

theorem renderValue_present (fields : List (Bytes × Option JsonValue)) :
    renderValue (.object (present ((key, some value) :: fields))) =
      123 :: (renderMember (key, value) ++
        (fields.flatMap fun field => optionalText field.2 fun value =>
          44 :: renderMember (field.1, value)) ++ [125]) := by
  rw [present_some, renderValue_object, renderMembers, renderLater_present]

/-! ## The members of a frame -/

def argsMembers (entries : List (Bytes × Bytes)) : JsonObject :=
  entries.map fun entry => (entry.1, .string entry.2)

def requestMembers (frame : UdsRequestFrame) : List (Bytes × Option JsonValue) :=
  [(str "schema_version", some (.string frame.schemaVersion)),
    (str "request_id", some (.string frame.requestId)),
    (str "trace_id", some (.string frame.traceId)),
    (str "session_hint", frame.sessionHint.map .string),
    (str "idempotency_key", frame.idempotencyKey.map .string),
    (str "command", some (.string frame.command)),
    (str "args", some (.object (argsMembers frame.args.entries))),
    (str "payload", some (.string frame.payload)),
    (str "async_preference", some (.bool (frame.asyncPreference = .preferAsync))),
    (str "output_mode", some (.string (outputModeName frame.outputMode))),
    (str "deadline_ms", frame.deadlineMs.map .integer)]

def agentResultMembers (agentResult : CarriedResult) : List (Bytes × Option JsonValue) :=
  [(str "result_id", agentResult.resultId.map .string),
    (str "response_text", agentResult.responseText.map .string),
    (str "request_id", agentResult.requestId.map .string),
    (str "trace_id", agentResult.traceId.map .string),
    (str "task_completed", agentResult.taskCompleted.map .bool)]

def responseMembers (frame : UdsResponseFrame) : List (Bytes × Option JsonValue) :=
  [(str "schema_version", some (.string frame.schemaVersion)),
    (str "request_id", some (.string frame.requestId)),
    (str "trace_id", some (.string frame.traceId)),
    (str "disposition", some (.string (dispositionName frame.disposition))),
    (str "session_id", frame.sessionId.map .string),
    (str "exit_code_hint", frame.exitCodeHint.map .integer),
    (str "receipt_ref", frame.receiptRef.map .string),
    (str "error_ref", frame.errorRef.map .string),
    (str "agent_result", frame.agentResult.map fun agentResult =>
      .object (present (agentResultMembers agentResult)))]

/-! ## The encoders write them -/

theorem memberText_string (value : Bytes) (h : opening = quote key ++ [58, 34]) :
    opening ++ escapeJsonString value ++ str "\"" = renderMember (key, .string value) := by
  have hclose : str "\"" = [34] := rfl
  rw [h, hclose]
  simp [renderMember, renderValue, quote]

theorem laterText_string (value : Bytes) (h : opening = 44 :: quote key ++ [58, 34]) :
    opening ++ escapeJsonString value ++ str "\"" = 44 :: renderMember (key, .string value) := by
  rw [h]
  exact congrArg (44 :: ·) (memberText_string _ key value rfl)

theorem laterText_optional (value : Option Bytes)
    (h : opening = 44 :: quote key ++ [58, 34]) :
    optionalText value (fun value => opening ++ escapeJsonString value ++ str "\"") =
      optionalText (value.map .string) fun value => 44 :: renderMember (key, value) := by
  cases value with
  | none => rfl
  | some value => exact laterText_string opening key value h

theorem laterText_integer (value : Option Int32)
    (h : opening = 44 :: quote key ++ [58]) :
    optionalText value (fun value => opening ++ intDecimal value.toInt) =
      optionalText (value.map .integer) fun value => 44 :: renderMember (key, value) := by
  cases value with
  | none => rfl
  | some value =>
    rw [h]
    simp [optionalText, renderMember, renderValue]

theorem encodeArgs_false :
    encodeArgs false entries = renderLater (argsMembers entries) := by
  induction entries with
  | nil => rfl
  | cons entry rest ih =>
    obtain ⟨key, value⟩ := entry
    unfold argsMembers at ih ⊢
    rw [encodeArgs, ih, List.map_cons, renderLater]
    simp [renderMember, renderValue, quote, str]

theorem encodeArgs_true :
    encodeArgs true entries = renderMembers (argsMembers entries) := by
  cases entries with
  | nil => rfl
  | cons entry rest =>
    obtain ⟨key, value⟩ := entry
    rw [encodeArgs, encodeArgs_false]
    unfold argsMembers
    rw [List.map_cons, renderMembers]
    simp [renderMember, renderValue, quote, str]

theorem encodeRequestFrame_eq (frame : UdsRequestFrame) :
    encodeRequestFrame frame = renderValue (.object (present (requestMembers frame))) := by
  have hargs : str ",\"args\":\x7b" ++ encodeArgs true frame.args.entries ++ str "\x7d" =
      44 :: renderMember (str "args", .object (argsMembers frame.args.entries)) := by
    have hopening : str ",\"args\":\x7b" = 44 :: quote (str "args") ++ [58, 123] := rfl
    rw [encodeArgs_true, hopening]
    simp [renderMember, renderValue, str]
  have hasync : (str ",\"async_preference\":" ++
      if frame.asyncPreference = .preferAsync then str "true" else str "false") =
        44 :: renderMember (str "async_preference",
          .bool (frame.asyncPreference = .preferAsync)) := by
    cases frame.asyncPreference <;> rfl
  have hmode : str ",\"output_mode\":\"" ++ outputModeName frame.outputMode ++ str "\"" =
      44 :: renderMember (str "output_mode", .string (outputModeName frame.outputMode)) := by
    cases frame.outputMode <;> rfl
  unfold encodeRequestFrame
  rw [memberText_string _ (str "schema_version") _ (by rfl),
    laterText_string _ (str "request_id") _ (by rfl),
    laterText_string _ (str "trace_id") _ (by rfl),
    laterText_optional _ (str "session_hint") _ (by rfl),
    laterText_optional _ (str "idempotency_key") _ (by rfl),
    laterText_string _ (str "command") _ (by rfl), hargs,
    laterText_string _ (str "payload") _ (by rfl), hasync, hmode,
    laterText_integer _ (str "deadline_ms") _ (by rfl)]
  rw [requestMembers, renderValue_present]
  have hbraces : str "\x7b" = [123] ∧ str "\x7d" = [125] := ⟨rfl, rfl⟩
  simp only [List.flatMap_cons, List.flatMap_nil, optionalText, hbraces]
  simp

theorem memberText_optional (value : Option Bytes)
    (h : opening = quote key ++ [58, 34]) :
    (value.map fun value => opening ++ escapeJsonString value ++ str "\"") =
      (value.map JsonValue.string).map fun value => renderMember (key, value) := by
  cases value with
  | none => rfl
  | some value => exact congrArg some (memberText_string opening key value h)

/-- The texts of the fields that are there. -/
def memberTexts (fields : List (Bytes × Option JsonValue)) : List (Option Bytes) :=
  fields.map fun field => field.2.map fun value => renderMember (field.1, value)

theorem foldl_appendField_false (written : Bytes) :
    ((memberTexts fields).foldl appendField (written, false)).1 =
      written ++ renderLater (present fields) := by
  unfold memberTexts
  induction fields generalizing written with
  | nil => simp [renderLater]
  | cons field rest ih =>
    obtain ⟨key, value⟩ := field
    cases value with
    | none => exact ih written
    | some value =>
      rw [List.map_cons, List.foldl_cons, Option.map_some, appendField, ih, present_some,
        renderLater]
      simp [str]

theorem foldl_appendField_true :
    ((memberTexts fields).foldl appendField ([], true)).1 = renderMembers (present fields) := by
  induction fields with
  | nil => rfl
  | cons field rest ih =>
    obtain ⟨key, value⟩ := field
    cases value with
    | none => exact ih
    | some value =>
      have hlater := foldl_appendField_false rest (renderMember (key, value))
      rw [present_some, renderMembers, ← hlater]
      rfl

theorem encodeAgentResult_eq (agentResult : CarriedResult) :
    encodeAgentResult agentResult = renderMembers (present (agentResultMembers agentResult)) := by
  have hcompleted : (agentResult.taskCompleted.map fun taskCompleted =>
      str "\"task_completed\":" ++ if taskCompleted then str "true" else str "false") =
        (agentResult.taskCompleted.map JsonValue.bool).map fun value =>
          renderMember (str "task_completed", value) := by
    cases agentResult.taskCompleted with
    | none => rfl
    | some taskCompleted => cases taskCompleted <;> rfl
  rw [← foldl_appendField_true]
  unfold encodeAgentResult
  rw [memberText_optional _ (str "result_id") _ (by rfl),
    memberText_optional _ (str "response_text") _ (by rfl),
    memberText_optional _ (str "request_id") _ (by rfl),
    memberText_optional _ (str "trace_id") _ (by rfl), hcompleted]
  rfl

theorem encodeResponseFrame_eq (frame : UdsResponseFrame) :
    encodeResponseFrame frame = renderValue (.object (present (responseMembers frame))) := by
  have hdisposition : str ",\"disposition\":\"" ++ dispositionName frame.disposition ++ str "\"" =
      44 :: renderMember (str "disposition", .string (dispositionName frame.disposition)) := by
    cases frame.disposition <;> rfl
  have hresult : (optionalText frame.agentResult fun agentResult =>
      str ",\"agent_result\":\x7b" ++ encodeAgentResult agentResult ++ str "\x7d") =
        optionalText (frame.agentResult.map fun agentResult =>
          JsonValue.object (present (agentResultMembers agentResult)))
          fun value => 44 :: renderMember (str "agent_result", value) := by
    cases frame.agentResult with
    | none => rfl
    | some agentResult =>
      have hopening : str ",\"agent_result\":\x7b" =
          44 :: quote (str "agent_result") ++ [58, 123] := rfl
      have hclosing : str "\x7d" = [125] := rfl
      dsimp only [optionalText, Option.map_some]
      rw [encodeAgentResult_eq, hopening, hclosing]
      simp [renderMember, renderValue]
  unfold encodeResponseFrame
  rw [memberText_string _ (str "schema_version") _ (by rfl),
    laterText_string _ (str "request_id") _ (by rfl),
    laterText_string _ (str "trace_id") _ (by rfl), hdisposition,
    laterText_optional _ (str "session_id") _ (by rfl),
    laterText_integer _ (str "exit_code_hint") _ (by rfl),
    laterText_optional _ (str "receipt_ref") _ (by rfl),
    laterText_optional _ (str "error_ref") _ (by rfl), hresult]
  rw [responseMembers, renderValue_present]
  have hbraces : str "\x7b" = [123] ∧ str "\x7d" = [125] := ⟨rfl, rfl⟩
  simp only [List.flatMap_cons, List.flatMap_nil, optionalText, hbraces]
  simp

/-! ## The text is valid UTF-8 -/

theorem escapeByte_of_high (h : 0x80 ≤ byte.toNat) : escapeByte byte = [byte] := by
  have hother : ∀ other : Byte, other.toNat < 0x80 → byte ≠ other := by
    rintro other hlow rfl
    omega
  have hplain : ¬ byte < 0x20 := by
    rw [UInt8.lt_iff_toNat_lt]
    intro hlow
    have h32 : (0x20 : Byte).toNat = 32 := rfl
    omega
  unfold escapeByte
  simp [hother, hplain]

theorem escapeByte_of_low (h : byte.toNat < 0x80) :
    (escapeByte byte).all Utf8.isAscii = true := by
  have htable : ∀ n < 128, (escapeByte (UInt8.ofNat n)).all Utf8.isAscii = true := by
    decide +kernel
  have hbyte := htable byte.toNat h
  rwa [UInt8.ofNat_toNat] at hbyte

theorem escapeJsonString_of_high (h : ∀ a ∈ text, 0x80 ≤ a.toNat) :
    escapeJsonString text = text := by
  unfold escapeJsonString
  induction text with
  | nil => rfl
  | cons byte text ih =>
    rw [List.flatMap_cons, escapeByte_of_high byte (h byte List.mem_cons_self),
      ih fun a ha => h a (List.mem_cons_of_mem _ ha), List.singleton_append]

/-- A character of one byte is escaped into such characters, and a longer one is kept. -/
theorem valid_escape_encodes (c : Char) (text : Bytes) (h : Utf8.Encodes c text) :
    Utf8.Valid (escapeJsonString text) := by
  have hkept : (∀ a ∈ text, 0x80 ≤ a.toNat) → Utf8.Valid (escapeJsonString text) := by
    intro hhigh
    rw [escapeJsonString_of_high text hhigh]
    exact h.valid
  induction h with
  | one a ha hc =>
    unfold escapeJsonString
    rw [List.flatMap_singleton]
    exact Utf8.valid_of_all _ (escapeByte_of_low a ha)
  | two | three | four =>
    apply hkept
    simp only [List.forall_mem_cons, List.not_mem_nil, false_imp_iff, implies_true, and_true]
    omega

theorem valid_escapeJsonString (h : Utf8.Valid text) :
    Utf8.Valid (escapeJsonString text) := by
  refine Utf8.Valid.induction (motive := fun text => Utf8.Valid (escapeJsonString text))
    Utf8.valid_nil (fun c text ih => ?_) h
  have hsplit : escapeJsonString (Utf8.encode c ++ text) =
      escapeJsonString (Utf8.encode c) ++ escapeJsonString text := List.flatMap_append
  rw [hsplit]
  exact (valid_escape_encodes c _ (Utf8.encodes_encode c)).append ih

theorem valid_quote (h : Utf8.Valid text) : Utf8.Valid (quote text) := by
  have hmark : Utf8.Valid [34] := Utf8.valid_of_all _ rfl
  have hbody := (hmark.append (valid_escapeJsonString text h)).append hmark
  simpa [quote] using hbody

theorem valid_boolText (value : Bool) : Utf8.Valid (boolText value) := by
  cases value
  · exact Utf8.valid_of_all _ rfl
  · exact Utf8.valid_of_all _ rfl

theorem valid_intDecimal (value : Int) : Utf8.Valid (intDecimal value) := by
  have hdecimal : ∀ a ∈ decimal value.natAbs, a.toNat < 0x80 := by
    intro a ha
    have hdigit := decimal_digits value.natAbs a ha
    simp only [isDigit, Bool.and_eq_true, decide_eq_true_eq] at hdigit
    omega
  apply Utf8.valid_ascii
  unfold intDecimal
  split
  · intro a ha
    rcases List.mem_cons.mp ha with rfl | hrest
    · decide
    · exact hdecimal a hrest
  · exact hdecimal

/-- The key of a member and the text of its value are valid. -/
def ValidMember (member : Bytes × JsonValue) : Prop :=
  Utf8.Valid member.1 ∧ Utf8.Valid (renderValue member.2)

theorem valid_renderMember (h : ValidMember member) :
    Utf8.Valid (renderMember member) := by
  obtain ⟨key, value⟩ := member
  have hcolon : Utf8.Valid [58] := Utf8.valid_of_all _ rfl
  have htext := ((valid_quote key h.1).append hcolon).append h.2
  simpa [renderMember] using htext

theorem valid_renderLater (h : ∀ member ∈ members, ValidMember member) :
    Utf8.Valid (renderLater members) := by
  induction members with
  | nil => exact Utf8.valid_nil
  | cons member later ih =>
    have hcomma : Utf8.Valid [44] := Utf8.valid_of_all _ rfl
    have hmember := valid_renderMember member (h member List.mem_cons_self)
    have hlater := ih fun other hother => h other (List.mem_cons_of_mem _ hother)
    have htext := (hcomma.append hmember).append hlater
    simpa [renderLater] using htext

theorem valid_object (h : ∀ member ∈ members, ValidMember member) :
    Utf8.Valid (renderValue (.object members)) := by
  have hopen : Utf8.Valid [123] := Utf8.valid_of_all _ rfl
  have hclose : Utf8.Valid [125] := Utf8.valid_of_all _ rfl
  have hmembers : Utf8.Valid (renderMembers members) := by
    cases members with
    | nil => exact Utf8.valid_nil
    | cons member later =>
      have hmember := valid_renderMember member (h member List.mem_cons_self)
      have hlater := valid_renderLater later fun other hother =>
        h other (List.mem_cons_of_mem _ hother)
      rw [renderMembers]
      exact hmember.append hlater
  have htext := (hopen.append hmembers).append hclose
  rw [renderValue_object]
  simpa using htext

/-! ## A value is no longer than its object -/

theorem length_escapeJsonString : text.length ≤ (escapeJsonString text).length := by
  have hbyte : ∀ byte, 1 ≤ (escapeByte byte).length := by
    apply Utf8.byte_cases
    decide +kernel
  unfold escapeJsonString
  induction text with
  | nil => exact Nat.le_refl _
  | cons byte text ih =>
    have hfirst := hbyte byte
    rw [List.flatMap_cons, List.length_append, List.length_cons]
    omega

theorem length_quote : text.length + 2 ≤ (quote text).length := by
  have hescaped := length_escapeJsonString text
  unfold quote
  simp only [List.cons_append, List.length_cons, List.length_append, List.length_nil]
  omega

theorem length_renderLater
    (h : member ∈ members) : (renderMember member).length ≤ (renderLater members).length := by
  induction members with
  | nil => simp at h
  | cons first later ih =>
    rw [renderLater, List.length_append, List.length_cons]
    rcases List.mem_cons.mp h with rfl | hlater
    · omega
    · have hle := ih hlater
      omega

theorem length_object (h : member ∈ members) :
    (renderValue member.2).length ≤ (renderValue (.object members)).length := by
  have hmember := renderMember_length member
  cases members with
  | nil => simp at h
  | cons first later =>
    rw [renderValue_object, renderMembers, List.length_cons, List.length_append,
      List.length_append]
    rcases List.mem_cons.mp h with rfl | hlater
    · omega
    · have hle := length_renderLater later member hlater
      omega

end Dasall.Access.Daemon
