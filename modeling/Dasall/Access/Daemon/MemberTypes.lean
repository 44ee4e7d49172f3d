import Dasall.Access.Daemon.FrameCodec

/-!
# Members of the wrong type

The accessors of the decoder answer alike for a member that is absent and for one of another type.
Only the arguments, the schema version and the command are told apart, so the frame has every
member of the payload exactly when the others have their types.
-/

open Dasall.Lib Dasall.Lib.Text

namespace Dasall.Access.Daemon

/-! ## Reading a member by its key -/

variable {object : JsonObject} (known : JsonObject → Bool) (members : JsonObject) (payload : Bytes)
  (root : JsonObject) {key : Bytes} (error : DaemonFrameDecodeError) {text : Bytes}
  (maxPayloadBytes : Nat)

theorem lookup_of_mem {value : JsonValue}
    (hnodup : (object.map Prod.fst).Nodup) (h : (key, value) ∈ object) :
    object.lookup key = some value := by
  induction object with
  | nil => simp at h
  | cons member rest ih =>
    obtain ⟨other, first⟩ := member
    rw [List.map_cons, List.nodup_cons] at hnodup
    rcases List.mem_cons.mp h with hfirst | hrest
    · obtain ⟨rfl, rfl⟩ := Prod.mk.inj hfirst
      exact List.lookup_cons_self
    · have hne : key ≠ other := fun hsame =>
        hnodup.1 (List.mem_map.mpr ⟨(key, value), hrest, hsame⟩)
      rw [List.lookup_cons, beq_eq_false_iff_ne.mpr hne]
      exact ih hnodup.2 hrest

theorem stringField_of_mem
    (hnodup : (object.map Prod.fst).Nodup) (h : (key, .string text) ∈ object) :
    stringField object key = some text := by
  unfold stringField
  rw [lookup_of_mem hnodup h]

theorem boolField_of_mem {value : Bool}
    (hnodup : (object.map Prod.fst).Nodup) (h : (key, .bool value) ∈ object) :
    boolField object key = some value := by
  unfold boolField
  rw [lookup_of_mem hnodup h]

theorem integerField_of_mem {value : Int32}
    (hnodup : (object.map Prod.fst).Nodup) (h : (key, .integer value) ∈ object) :
    integerField object key = some value := by
  unfold integerField
  rw [lookup_of_mem hnodup h]

theorem mem_of_stringField
    (h : stringField object key = some text) : (key, .string text) ∈ object := by
  unfold stringField at h
  split at h
  · next value hvalue =>
    obtain ⟨before, after, rfl, -⟩ := List.lookup_eq_some_iff.mp hvalue
    cases h
    exact List.mem_append_right before List.mem_cons_self
  · simp at h

/-! ## What an accepted frame is made of -/

/-- How the decoder fills the frame from the root object. -/
structure TakenFrom (root : JsonObject) (frame : UdsRequestFrame) : Prop where
  args : parseArgsField root = (true, frame.args)
  requestId : frame.requestId = (stringField root (str "request_id")).getD []
  traceId : frame.traceId = (stringField root (str "trace_id")).getD []
  payload : frame.payload = (stringField root (str "payload")).getD []
  sessionHint : frame.sessionHint = stringField root (str "session_hint")
  idempotencyKey : frame.idempotencyKey = stringField root (str "idempotency_key")
  asyncPreference : frame.asyncPreference =
    if boolField root (str "async_preference") = some true then .preferAsync else .preferSync
  outputMode : ∀ name, stringField root (str "output_mode") = some name →
    outputModeFromName name = some frame.outputMode
  deadlineMs : frame.deadlineMs = integerField root (str "deadline_ms")

theorem readRoot_error
    (error : DaemonFrameDecodeError) (h : readRoot known payload maxPayloadBytes = .error error) :
    error ≠ .none := by
  rintro rfl
  unfold readRoot at h
  split at h
  · simp at h
  split at h
  · simp at h
  split at h
  · simp at h
  split at h
  · simp at h
  split at h
  · simp at h
  · simp at h

theorem readRoot_ok (root : JsonObject) (h : readRoot known payload maxPayloadBytes = .ok root) :
    parseRootObject payload = some root := by
  unfold readRoot at h
  split at h
  · simp at h
  split at h
  · simp at h
  split at h
  · simp at h
  split at h
  · simp at h
  next parsed hparsed =>
  split at h
  · cases h
    exact hparsed
  · simp at h

theorem readSchemaVersion_error (h : readSchemaVersion root = .error error) : error ≠ .none := by
  rintro rfl
  unfold readSchemaVersion at h
  split at h
  · simp at h
  split at h
  · simp at h
  · simp at h

theorem readCommand_error (h : readCommand root = .error error) : error ≠ .none := by
  rintro rfl
  unfold readCommand at h
  split at h
  · simp at h
  split at h
  · simp at h
  split at h
  · simp at h
  · simp at h

theorem readRequestFrame_accepted (schemaVersion command : Bytes)
    (maxPayloadBytes : Nat)
    (h : (readRequestFrame root schemaVersion command maxPayloadBytes).error = .none) :
    TakenFrom root (readRequestFrame root schemaVersion command maxPayloadBytes).frame := by
  unfold readRequestFrame at h ⊢
  cases hargs : parseArgsField root with
  | mk read args =>
  rw [hargs] at h
  dsimp only at h ⊢
  split
  · next hrefused =>
    rw [if_pos hrefused] at h
    simp at h
  next hread =>
  rw [if_neg hread] at h
  have hargs' : parseArgsField root = (true, args) := by
    rw [hargs]
    simpa using hread
  split
  · next hlarge =>
    rw [if_pos hlarge] at h
    simp at h
  next hsmall =>
  rw [if_neg hsmall] at h
  unfold readRequestOptions at h ⊢
  dsimp only at h ⊢
  split
  · next hname =>
    exact ⟨hargs', rfl, rfl, rfl, rfl, rfl, rfl, by simp [hname], rfl⟩
  next name hname =>
  rw [hname] at h
  dsimp only at h
  split
  · next hunknown =>
    rw [hunknown] at h
    simp at h
  · next mode hmode =>
    refine ⟨hargs', rfl, rfl, rfl, rfl, rfl, rfl, fun other hother => ?_, rfl⟩
    rw [hname] at hother
    rw [← Option.some.inj hother, hmode]

/-- An accepted payload is a root object, and the frame is made of its fields. -/
theorem decodeRequestFrame_accepted
    (h : (decodeRequestFrame payload maxPayloadBytes).error = .none) :
    ∃ root, parseRootObject payload = some root ∧
      TakenFrom root (decodeRequestFrame payload maxPayloadBytes).frame := by
  unfold decodeRequestFrame at h ⊢
  split at h
  · next hroot => exact absurd h (readRoot_error _ _ _ _ hroot)
  next root hroot =>
  split at h
  · next hversion => exact absurd h (readSchemaVersion_error _ _ hversion)
  next schemaVersion hversion =>
  split at h
  · next hcommand => exact absurd h (readCommand_error _ _ hcommand)
  next command hcommand =>
  refine ⟨root, readRoot_ok _ _ _ _ hroot, ?_⟩
  exact readRequestFrame_accepted root schemaVersion command maxPayloadBytes h

/-! ## The arguments -/

theorem parseArgsLoop_eq_true (args result : Args)
    (h : parseArgsLoop members args = (true, result)) :
    ∃ entries : List (Bytes × Bytes),
      members = entries.map (fun entry => (entry.1, JsonValue.string entry.2)) ∧
      result = entries.foldl OrderedMap.emplace args := by
  induction members generalizing args with
  | nil => exact ⟨[], rfl, (Prod.mk.inj h).2.symm⟩
  | cons member rest ih =>
    obtain ⟨key, value⟩ := member
    cases value with
    | string text =>
      obtain ⟨entries, hmembers, hresult⟩ := ih (args.emplace (key, text)) h
      exact ⟨(key, text) :: entries, by rw [hmembers, List.map_cons], hresult⟩
    | bool | integer | object => simp [parseArgsLoop] at h

/-- The arguments that are taken are the members of the object, and all of them are strings. -/
theorem parseArgsLoop_entries (result : Args)
    (hnodup : (members.map Prod.fst).Nodup)
    (h : parseArgsLoop members .empty = (true, result)) (key : Bytes) (value : JsonValue) :
    (key, value) ∈ members ↔ ∃ text, value = .string text ∧ (key, text) ∈ result.entries := by
  obtain ⟨entries, rfl, rfl⟩ := parseArgsLoop_eq_true members .empty result h
  have hkeys : (entries.map Prod.fst).Nodup := by
    rwa [List.map_map] at hnodup
  have hperm : (entries.foldl OrderedMap.emplace (.empty : Args)).entries.Perm entries :=
    OrderedMap.foldl_emplace_perm .empty entries hkeys
  rw [List.mem_map]
  constructor
  · rintro ⟨entry, hentry, heq⟩
    obtain ⟨rfl, rfl⟩ := Prod.mk.inj heq
    exact ⟨entry.2, rfl, hperm.mem_iff.mpr hentry⟩
  · rintro ⟨text, rfl, htext⟩
    exact ⟨(key, text), hperm.mem_iff.mp htext, rfl⟩

/-! ## Every member is in the frame -/

/-- A request field that the decoder takes as a string. -/
def stringMembers : List Bytes :=
  [str "request_id", str "trace_id", str "session_hint", str "idempotency_key", str "payload",
    str "output_mode"]

/-- The members that no check looks at have the types of their fields. -/
structure WellTyped (root : JsonObject) : Prop where
  strings : ∀ key ∈ stringMembers, ∀ value, (key, value) ∈ root → ∃ text, value = .string text
  asyncPreference : ∀ value, (str "async_preference", value) ∈ root → ∃ flag, value = .bool flag
  deadlineMs : ∀ value, (str "deadline_ms", value) ∈ root → ∃ number, value = .integer number

/-- The frame has every member of the root object, with its value. -/
structure Reflected (root : JsonObject) (frame : UdsRequestFrame) : Prop where
  requestId : ∀ value, (str "request_id", value) ∈ root → value = .string frame.requestId
  traceId : ∀ value, (str "trace_id", value) ∈ root → value = .string frame.traceId
  sessionHint : ∀ value, (str "session_hint", value) ∈ root →
    ∃ text, value = .string text ∧ frame.sessionHint = some text
  idempotencyKey : ∀ value, (str "idempotency_key", value) ∈ root →
    ∃ text, value = .string text ∧ frame.idempotencyKey = some text
  payload : ∀ value, (str "payload", value) ∈ root → value = .string frame.payload
  asyncPreference : ∀ value, (str "async_preference", value) ∈ root →
    value = .bool (frame.asyncPreference = .preferAsync)
  outputMode : ∀ value, (str "output_mode", value) ∈ root →
    value = .string (outputModeName frame.outputMode)
  deadlineMs : ∀ value, (str "deadline_ms", value) ∈ root →
    ∃ number, value = .integer number ∧ frame.deadlineMs = some number
  args : ∀ value, (str "args", value) ∈ root → ∃ members, value = .object members ∧
    ∀ key value, (key, value) ∈ members ↔
      ∃ text, value = .string text ∧ (key, text) ∈ frame.args.entries

theorem Reflected.wellTyped {root : JsonObject} {frame : UdsRequestFrame}
    (h : Reflected root frame) : WellTyped root := by
  refine ⟨fun key hkey value hvalue => ?_, fun value hvalue => ⟨_, h.asyncPreference value hvalue⟩,
    fun value hvalue => ?_⟩
  · simp only [stringMembers, List.mem_cons, List.not_mem_nil, or_false] at hkey
    rcases hkey with rfl | rfl | rfl | rfl | rfl | rfl
    · exact ⟨_, h.requestId value hvalue⟩
    · exact ⟨_, h.traceId value hvalue⟩
    · obtain ⟨text, htext, -⟩ := h.sessionHint value hvalue
      exact ⟨text, htext⟩
    · obtain ⟨text, htext, -⟩ := h.idempotencyKey value hvalue
      exact ⟨text, htext⟩
    · exact ⟨_, h.payload value hvalue⟩
    · exact ⟨_, h.outputMode value hvalue⟩
  · obtain ⟨number, hnumber, -⟩ := h.deadlineMs value hvalue
    exact ⟨number, hnumber⟩

theorem outputModeName_of_fromName (name : Bytes) (mode : DaemonOutputMode)
    (h : outputModeFromName name = some mode) : name = outputModeName mode := by
  unfold outputModeFromName at h
  split at h
  · next hname =>
    cases h
    exact hname
  split at h
  · next hname =>
    cases h
    exact hname
  · simp at h

theorem TakenFrom.reflected {root : JsonObject} {frame : UdsRequestFrame}
    (h : TakenFrom root frame) (hdistinct : DistinctMembers root) (htyped : WellTyped root) :
    Reflected root frame := by
  have hstring : ∀ key ∈ stringMembers, ∀ value, (key, value) ∈ root →
      ∃ text, value = .string text ∧ stringField root key = some text := by
    intro key hkey value hvalue
    obtain ⟨text, rfl⟩ := htyped.strings key hkey value hvalue
    exact ⟨text, rfl, stringField_of_mem hdistinct.1 hvalue⟩
  constructor
  · intro value hvalue
    obtain ⟨text, rfl, htext⟩ := hstring _ (by decide) value hvalue
    rw [h.requestId, htext, Option.getD_some]
  · intro value hvalue
    obtain ⟨text, rfl, htext⟩ := hstring _ (by decide) value hvalue
    rw [h.traceId, htext, Option.getD_some]
  · intro value hvalue
    rw [h.sessionHint]
    exact hstring _ (by decide) value hvalue
  · intro value hvalue
    rw [h.idempotencyKey]
    exact hstring _ (by decide) value hvalue
  · intro value hvalue
    obtain ⟨text, rfl, htext⟩ := hstring _ (by decide) value hvalue
    rw [h.payload, htext, Option.getD_some]
  · intro value hvalue
    obtain ⟨flag, rfl⟩ := htyped.asyncPreference value hvalue
    rw [h.asyncPreference, boolField_of_mem hdistinct.1 hvalue]
    cases flag <;> rfl
  · intro value hvalue
    obtain ⟨text, rfl, htext⟩ := hstring _ (by decide) value hvalue
    rw [outputModeName_of_fromName text _ (h.outputMode text htext)]
  · intro value hvalue
    obtain ⟨number, rfl⟩ := htyped.deadlineMs value hvalue
    rw [h.deadlineMs]
    exact ⟨number, rfl, integerField_of_mem hdistinct.1 hvalue⟩
  · intro value hvalue
    have hread := h.args
    unfold parseArgsField at hread
    rw [lookup_of_mem hdistinct.1 hvalue] at hread
    cases value with
    | object members =>
      exact ⟨members, rfl,
        parseArgsLoop_entries members frame.args (hdistinct.2 _ hvalue) hread⟩
    | string | bool | integer => simp at hread

/-- An accepted payload is in the frame whole exactly when its members have their types. -/
theorem reflected_iff_wellTyped (payload : Bytes) (maxPayloadBytes : Nat)
    (haccepted : (decodeRequestFrame payload maxPayloadBytes).error = .none) :
    ∃ root, parseRootObject payload = some root ∧
      (Reflected root (decodeRequestFrame payload maxPayloadBytes).frame ↔ WellTyped root) := by
  obtain ⟨root, hroot, htaken⟩ := decodeRequestFrame_accepted payload maxPayloadBytes haccepted
  refine ⟨root, hroot, fun h => h.wellTyped, fun htyped => ?_⟩
  exact htaken.reflected (parseRootObject_distinct payload root hroot) htyped

def deadlineAsString : Bytes :=
  str "\x7b\"schema_version\":\"1\",\"command\":\"ping\",\"deadline_ms\":\"1500\"\x7d"

theorem reflected_iff_wellTyped_deadline : ∃ root, parseRootObject deadlineAsString = some root ∧
    (Reflected root (decodeRequestFrame deadlineAsString kMaxPayloadBytes).frame ↔
      WellTyped root) := by
  exact reflected_iff_wellTyped deadlineAsString kMaxPayloadBytes (by decide +kernel)

/-- A deadline that is a string is dropped without an error. -/
theorem deadline_dropped :
    (decodeRequestFrame deadlineAsString kMaxPayloadBytes).error = .none ∧
      (decodeRequestFrame deadlineAsString kMaxPayloadBytes).frame.deadlineMs = none ∧
      ∃ root, parseRootObject deadlineAsString = some root ∧
        (str "deadline_ms", .string (str "1500")) ∈ root ∧
        ¬ Reflected root (decodeRequestFrame deadlineAsString kMaxPayloadBytes).frame := by
  have haccepted : (decodeRequestFrame deadlineAsString kMaxPayloadBytes).error = .none := by
    decide +kernel
  have hnone : (decodeRequestFrame deadlineAsString kMaxPayloadBytes).frame.deadlineMs = none := by
    decide +kernel
  have hpresent : ((parseRootObject deadlineAsString).bind fun root =>
      stringField root (str "deadline_ms")) = some (str "1500") := by
    decide +kernel
  obtain ⟨root, hroot, hfield⟩ := Option.bind_eq_some_iff.mp hpresent
  have hmember := mem_of_stringField hfield
  refine ⟨haccepted, hnone, root, hroot, hmember, fun h => ?_⟩
  obtain ⟨number, hnumber, -⟩ := h.deadlineMs _ hmember
  exact JsonValue.noConfusion hnumber

end Dasall.Access.Daemon
