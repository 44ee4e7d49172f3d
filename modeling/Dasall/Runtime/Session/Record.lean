import Dasall.Runtime.DurableRecord
import Dasall.Runtime.State
import Dasall.Lib.Run

/-! # The durable session record -/

open Dasall.Lib.Text Dasall.Lib.Hex Dasall.Lib.KeyValue Dasall.Lib.Disk

namespace Dasall.Runtime

/-- `enum class PendingInteractionKind : std::uint8_t`. -/
inductive PendingInteractionKind
  | none
  | clarify
  | confirm
  | waitExternal
  | unlisted (raw : {raw : UInt8 // 3 < raw})
deriving DecidableEq

def PendingInteractionKind.toRaw : PendingInteractionKind → UInt8
  | .none => 0
  | .clarify => 1
  | .confirm => 2
  | .waitExternal => 3
  | .unlisted raw => raw.val

def PendingInteractionKind.ofRaw (raw : UInt8) : PendingInteractionKind :=
  if h : 3 < raw then .unlisted ⟨raw, h⟩
  else if raw = 1 then .clarify
  else if raw = 2 then .confirm
  else if raw = 3 then .waitExternal
  else .none

theorem PendingInteractionKind.ofRaw_toRaw (kind : PendingInteractionKind) :
    ofRaw kind.toRaw = kind := by
  cases kind with
  | unlisted raw => simp [toRaw, ofRaw, raw.property]
  | none | clarify | confirm | waitExternal => rfl

structure PendingInteractionState where
  interactionKind : PendingInteractionKind
  promptToken : Bytes
  deadlineMs : Option Int64
  blockingReason : Bytes
  resumeChannel : Bytes
  inputSchemaHint : Bytes
deriving DecidableEq

structure SessionSnapshot where
  sessionId : Bytes
  requestId : Bytes
  turnIndex : UInt32
  activeCheckpointRef : Option Bytes
  fsmState : RuntimeState
  budgetSnapshotRef : Option Bytes
  pendingInteraction : Option PendingInteractionState
  lastResultSummary : Option Bytes
deriving DecidableEq

/-- `SessionSnapshot{}`. -/
def SessionSnapshot.default : SessionSnapshot := ⟨[], [], 0, none, .idle, none, none, none⟩

/-! ## Writing -/

def sessionRecordPath (root : StateRoot) (sessionId : Bytes) : Bytes :=
  recordPath "sessions" root sessionId

variable (fields : Fields) (files : FileSystem) (snapshot : SessionSnapshot) (root : StateRoot)

theorem sessionRecordPath_isRecord (sessionId : Bytes) :
    IsRecord (sessionRecordPath root sessionId) := recordPath_isRecord _ _ _

def sessionFields (snapshot : SessionSnapshot) : List Entry :=
  [encodedField (str "session_id") snapshot.sessionId,
    encodedField (str "request_id") snapshot.requestId,
    integerField (str "turn_index") snapshot.turnIndex.toNat,
    optionalEncodedField (str "active_checkpoint_ref") snapshot.activeCheckpointRef,
    integerField (str "fsm_state") snapshot.fsmState.toRaw.toNat,
    optionalEncodedField (str "budget_snapshot_ref") snapshot.budgetSnapshotRef,
    optionalEncodedField (str "last_result_summary") snapshot.lastResultSummary,
    integerField (str "pending_interaction_present")
      (if snapshot.pendingInteraction.isSome then 1 else 0)]

def interactionFields (interaction : PendingInteractionState) : List Entry :=
  [integerField (str "pending_interaction.kind") interaction.interactionKind.toRaw.toNat,
    encodedField (str "pending_interaction.prompt_token") interaction.promptToken,
    optionalIntegerField (str "pending_interaction.deadline_ms")
      (interaction.deadlineMs.map Int64.toInt),
    encodedField (str "pending_interaction.blocking_reason") interaction.blockingReason,
    encodedField (str "pending_interaction.resume_channel") interaction.resumeChannel,
    encodedField (str "pending_interaction.input_schema_hint") interaction.inputSchemaHint]

/-- The lines of the record, in the order of the source. -/
def sessionRecord (snapshot : SessionSnapshot) : List Entry :=
  sessionFields snapshot ++
    match snapshot.pendingInteraction with
    | some interaction => interactionFields interaction
    | none => []

def sessionWriteDetail : Option PublishFault → Bytes
  | some .createDirectories => str "session durable store could not create state directories"
  | some .openTemporary =>
    str "session durable store could not open the session record for writing"
  | some .rename => str "session durable store could not atomically publish the session record"
  | none => str "session persisted in durable store"

def writeDurableSessionRecord (files : FileSystem) (fault : Option PublishFault) (root : StateRoot)
    (snapshot : SessionSnapshot) : FileSystem × Bool × Bytes :=
  let (files, failed) := files.publish fault (sessionRecordPath root snapshot.sessionId)
    (writeEntries (sessionRecord snapshot))
  (files, failed.isNone, sessionWriteDetail failed)

/-! ## Reading -/

def readInteraction (fields : Fields) : Except Bytes (Option PendingInteractionState) := do
  let present ←
    decodeRequiredIntegerField .session fields (str "pending_interaction_present") stoul32
  if present = 1 then
    let string := decodeRequiredStringField .session fields
    let rawKind ←
      decodeRequiredIntegerField .session fields (str "pending_interaction.kind") stoul32
    let promptToken ← string (str "pending_interaction.prompt_token")
    let deadlineMs ←
      decodeOptionalIntegerField .session fields (str "pending_interaction.deadline_ms") stoll
    let blockingReason ← string (str "pending_interaction.blocking_reason")
    let resumeChannel ← string (str "pending_interaction.resume_channel")
    let inputSchemaHint ← string (str "pending_interaction.input_schema_hint")
    .ok (some
      { interactionKind := .ofRaw rawKind.toUInt8
        promptToken, deadlineMs, blockingReason, resumeChannel, inputSchemaHint })
  else .ok none

def readSessionFields (fields : Fields) (sessionId : Bytes) : Except Bytes SessionSnapshot := do
  let optional := decodeOptionalStringField .session fields
  let recordedId ← decodeRequiredStringField .session fields (str "session_id")
  let requestId ← decodeRequiredStringField .session fields (str "request_id")
  let turnIndex ← decodeRequiredIntegerField .session fields (str "turn_index") stoul32
  let activeCheckpointRef ← optional (str "active_checkpoint_ref")
  let budgetSnapshotRef ← optional (str "budget_snapshot_ref")
  let lastResultSummary ← optional (str "last_result_summary")
  let rawFsmState ← decodeRequiredIntegerField .session fields (str "fsm_state") stoul32
  let pendingInteraction ← readInteraction fields
  if recordedId = sessionId then
    .ok { sessionId := recordedId
          fsmState := .ofRaw rawFsmState.toUInt8
          requestId, turnIndex, activeCheckpointRef, budgetSnapshotRef, lastResultSummary,
          pendingInteraction }
  else .error (recordDetail .session (str "session_id does not match file anchor"))

/-- The error is the detail that the source reports with `false`. -/
def readDurableSessionRecord (files : FileSystem) (opens : Bool) (root : StateRoot)
    (sessionId : Bytes) : Except Bytes SessionSnapshot :=
  match files.files (sessionRecordPath root sessionId) with
  | none => .error (str "session not found in durable store")
  | some text =>
    if !opens then .error (str "session durable store could not open the session record")
    else
      match parseKeyValueFile text with
      | none => .error (recordDetail .session (str "contains an invalid key-value line"))
      | some fields => readSessionFields fields sessionId

/-! ## A record reads back as it was written -/

theorem sessionRecord_nodup :
    ((sessionRecord snapshot).map Prod.fst).Nodup := by
  have hkeys : ∀ interaction, ((sessionFields snapshot ++ interactionFields interaction).map
      Prod.fst).Nodup := by
    intro interaction
    simp only [sessionFields, interactionFields, encodedField, optionalEncodedField, integerField,
      optionalIntegerField, List.map_append, List.map_cons, List.map_nil]
    decide
  unfold sessionRecord
  cases snapshot.pendingInteraction with
  | some interaction => exact hkeys interaction
  | none =>
    have hdefault := hkeys ⟨.none, [], none, [], [], []⟩
    rw [List.map_append] at hdefault ⊢
    exact hdefault.sublist ((List.nil_sublist _).append_left _)

theorem sessionRecord_clean :
    ∀ field ∈ sessionRecord snapshot, CleanEntry field := by
  have hfixed : ∀ field ∈ sessionFields snapshot, CleanEntry field := by
    simp only [sessionFields, List.forall_mem_cons]
    refine ⟨?_, ?_, ?_, ?_, ?_, ?_, ?_, ?_, by simp⟩
    case refine_3 | refine_5 | refine_8 => exact integerField_clean _ _ (by decide)
    case refine_4 | refine_6 | refine_7 => exact optionalEncodedField_clean _ _ (by decide)
    all_goals exact encodedField_clean _ _ (by decide)
  have hinteraction : ∀ interaction, ∀ field ∈ interactionFields interaction, CleanEntry field := by
    intro interaction
    simp only [interactionFields, List.forall_mem_cons]
    refine ⟨?_, ?_, ?_, ?_, ?_, ?_, by simp⟩
    case refine_1 => exact integerField_clean _ _ (by decide)
    case refine_3 => exact optionalIntegerField_clean _ _ (by decide)
    all_goals exact encodedField_clean _ _ (by decide)
  intro field hfield
  rcases List.mem_append.mp hfield with hfield | hfield
  · exact hfixed field hfield
  · cases h : snapshot.pendingInteraction with
    | none => rw [h] at hfield; cases hfield
    | some interaction => rw [h] at hfield; exact hinteraction interaction field hfield

theorem readInteraction_spec (pending : Option PendingInteractionState)
    (hpresent : find fields (str "pending_interaction_present") =
      some (intDecimal (if pending.isSome then 1 else 0)))
    (h : ∀ interaction, pending = some interaction →
      Reads fields (interactionFields interaction)) :
    readInteraction fields = .ok pending := by
  cases pending with
  | none =>
    have hread := decodeRequiredIntegerField_spec .session _ _ stoul32 _ 0 (by decide) hpresent
    simp only [readInteraction, hread, bind, Except.bind]
    rfl
  | some interaction =>
    have hone : stoul32 (intDecimal 1) = some 1 := by decide
    have hread := decodeRequiredIntegerField_spec .session _ _ stoul32 _ 1 hone hpresent
    have h := h interaction rfl
    simp only [Reads, interactionFields, integerField, encodedField, optionalIntegerField,
      List.forall_mem_cons] at h
    obtain ⟨hkind, htoken, hdeadline, hreason, hchannel, hhint, -⟩ := h
    have hkind := decodeRequiredIntegerField_spec .session _ _ _ _ _
      (stoul32_byte interaction.interactionKind.toRaw) hkind
    have hdeadline := decodeOptionalIntegerField_spec .session _ _ stoll Int64.toInt
      stoll_intDecimal interaction.deadlineMs hdeadline
    simp only [readInteraction, hread, hkind, hdeadline, bind, Except.bind, if_true,
      decodeRequiredStringField_spec _ _ _ _ htoken, decodeRequiredStringField_spec _ _ _ _ hreason,
      decodeRequiredStringField_spec _ _ _ _ hchannel, decodeRequiredStringField_spec _ _ _ _ hhint,
      UInt8.toUInt8_toUInt32, PendingInteractionKind.ofRaw_toRaw]

theorem readSessionFields_spec (h : Reads fields (sessionRecord snapshot)) :
    readSessionFields fields snapshot.sessionId = .ok snapshot := by
  simp only [Reads, sessionRecord, sessionFields, encodedField, optionalEncodedField, integerField,
    List.forall_mem_append, List.forall_mem_cons] at h
  obtain ⟨⟨hid, hrequest, hturn, hcheckpoint, hstate, hbudget, hsummary, hpresent, -⟩,
    hinteraction⟩ := h
  have hturn := decodeRequiredIntegerField_spec .session _ _ _ _ _
    (stoul32_nat snapshot.turnIndex) hturn
  have hstate := decodeRequiredIntegerField_spec .session _ _ _ _ _
    (stoul32_byte snapshot.fsmState.toRaw) hstate
  have hinteraction := readInteraction_spec fields snapshot.pendingInteraction hpresent
    fun interaction hsome => by rw [hsome] at hinteraction; exact hinteraction
  simp only [readSessionFields, hturn, hstate, hinteraction, bind, Except.bind, if_true,
    decodeRequiredStringField_spec _ _ _ _ hid, decodeRequiredStringField_spec _ _ _ _ hrequest,
    decodeOptionalStringField_spec _ _ _ _ hcheckpoint,
    decodeOptionalStringField_spec _ _ _ _ hbudget, decodeOptionalStringField_spec _ _ _ _ hsummary,
    UInt8.toUInt8_toUInt32, RuntimeState.ofRaw_toRaw]

theorem readSession_sameRecords {a b : FileSystem} (h : SameRecords a b) (opens : Bool)
    (root : StateRoot) (sessionId : Bytes) :
    readDurableSessionRecord a opens root sessionId =
      readDurableSessionRecord b opens root sessionId := by
  unfold readDurableSessionRecord
  rw [h _ (sessionRecordPath_isRecord root sessionId)]

theorem read_write_session (snapshot : SessionSnapshot) :
    readDurableSessionRecord (writeDurableSessionRecord files none root snapshot).1 true root
      snapshot.sessionId = .ok snapshot := by
  obtain ⟨fields, hparse, hreads⟩ := parse_reads (sessionRecord snapshot)
    (sessionRecord_clean snapshot) (sessionRecord_nodup snapshot)
  simp only [readDurableSessionRecord, writeDurableSessionRecord, publish_read, hparse,
    readSessionFields_spec fields snapshot hreads, Bool.not_true, Bool.false_eq_true, if_false]

theorem write_succeeds_iff (fault : Option PublishFault) (root : StateRoot)
    (snapshot : SessionSnapshot) :
    (writeDurableSessionRecord files fault root snapshot).2.1 = true ↔ fault = none := by
  simp [writeDurableSessionRecord, publish_outcome]

theorem read_other_session (opens : Bool) (root : StateRoot)
    (snapshot : SessionSnapshot) (other : Bytes) (hne : other ≠ snapshot.sessionId) :
    readDurableSessionRecord (writeDurableSessionRecord files none root snapshot).1 opens root
      other = readDurableSessionRecord files opens root other := by
  have hpath : sessionRecordPath root other ≠ sessionRecordPath root snapshot.sessionId :=
    fun h => hne (recordPath_injective _ _ _ _ h)
  simp only [readDurableSessionRecord, writeDurableSessionRecord,
    publish_other _ _ _ _ (sessionRecordPath_isRecord root other) hpath]

/-!
## The session manager

Sessions are held in memory and, where there is a durable root, in one record each.
-/

structure SessionManager where
  storedSnapshots : Bytes → Option SessionSnapshot
  durableStateRoot : Option StateRoot

def SessionManager.fresh : SessionManager := ⟨fun _ => none, none⟩

def SessionManager.setDurableStateRoot (manager : SessionManager) (stateRoot : Option Bytes) :
    SessionManager :=
  { manager with durableStateRoot := stateRootOf stateRoot }

def SessionManager.cache (manager : SessionManager) (sessionId : Bytes)
    (snapshot : SessionSnapshot) : SessionManager :=
  { manager with storedSnapshots := Function.update manager.storedSnapshots sessionId snapshot }

theorem SessionManager.cache_self (manager : SessionManager) (sessionId : Bytes)
    (snapshot : SessionSnapshot) (h : manager.storedSnapshots sessionId = some snapshot) :
    manager.cache sessionId snapshot = manager := by
  unfold cache
  rw [← h, Function.update_eq_self]

/-! ## Loading -/

structure SessionLoadRequest where
  sessionId : Bytes
  requestId : Bytes
  checkpointRef : Option Bytes
  allowSessionCreate : Bool
deriving DecidableEq

def SessionLoadRequest.hasMinimumRequirements (request : SessionLoadRequest) : Bool :=
  !request.sessionId.isEmpty && !request.requestId.isEmpty

structure SessionLoadResult where
  accepted : Bool
  createdNewSession : Bool
  snapshot : Option SessionSnapshot
  errorCode : Option RuntimeErrorCode
  detail : Bytes
deriving DecidableEq

def rejectSessionLoad (errorCode : RuntimeErrorCode) (detail : String) : SessionLoadResult :=
  ⟨false, false, none, some errorCode, str detail⟩

def makeSessionLoadResult (snapshot : SessionSnapshot) (createdNewSession : Bool)
    (detail : String) : SessionLoadResult :=
  ⟨true, createdNewSession, some snapshot, none, str detail⟩

/-- The snapshot that loading finds: the cached one, or else the durable one. -/
def SessionManager.lookup (manager : SessionManager) (files : FileSystem) (opens : Bool)
    (sessionId : Bytes) : Option SessionSnapshot :=
  match manager.storedSnapshots sessionId, manager.durableStateRoot with
  | some snapshot, _ => some snapshot
  | none, none => none
  | none, some root => (readDurableSessionRecord files opens root sessionId).toOption

def SessionManager.loadSession (manager : SessionManager) (files : FileSystem) (opens : Bool)
    (request : SessionLoadRequest) : SessionManager × SessionLoadResult :=
  if !request.hasMinimumRequirements then
    (manager, rejectSessionLoad .rtE400SessionNotFound "session_id and request_id are required")
  else
    match manager.lookup files opens request.sessionId with
    | some snapshot =>
      (manager.cache request.sessionId snapshot,
        if request.checkpointRef.isSome && snapshot.activeCheckpointRef != request.checkpointRef then
          rejectSessionLoad .rtE401SessionInconsistent
            "requested checkpoint_ref does not match active session anchor"
        else
          makeSessionLoadResult snapshot false
            (if manager.durableStateRoot.isSome then
              "existing session loaded from durable store cache"
            else "existing session loaded from in-memory store"))
    | none =>
      (manager,
        if !request.allowSessionCreate then
          rejectSessionLoad .rtE400SessionNotFound
            "session does not exist and creation is disabled"
        else
          makeSessionLoadResult
            { SessionSnapshot.default with
              sessionId := request.sessionId
              requestId := request.requestId
              activeCheckpointRef := request.checkpointRef }
            true "new session snapshot created for runtime-local store")

/-! ## Writing -/

structure SessionPersistResult where
  persisted : Bool
  activeCheckpointRef : Option Bytes
  errorCode : Option RuntimeErrorCode
  detail : Bytes
deriving DecidableEq

def rejectSessionWrite (detail : Bytes) : SessionPersistResult :=
  ⟨false, none, some .rtE401SessionInconsistent, detail⟩

/-- The second half of both writes: the snapshot is cached first and written afterwards. -/
def SessionManager.store (manager : SessionManager) (files : FileSystem)
    (fault : Option PublishFault) (snapshot : SessionSnapshot) (memoryDetail : String) :
    (SessionManager × FileSystem) × SessionPersistResult :=
  let manager := manager.cache snapshot.sessionId snapshot
  match manager.durableStateRoot with
  | none => ((manager, files), ⟨true, snapshot.activeCheckpointRef, none, str memoryDetail⟩)
  | some root =>
    let (files, written, detail) := writeDurableSessionRecord files fault root snapshot
    if written then ((manager, files), ⟨true, snapshot.activeCheckpointRef, none, detail⟩)
    else ((manager, files), rejectSessionWrite detail)

structure SessionPersistRequest where
  sessionSnapshot : SessionSnapshot
  terminalState : RuntimeState
  checkpointRef : Option Bytes
deriving DecidableEq

def SessionPersistRequest.hasMinimumRequirements (request : SessionPersistRequest) : Bool :=
  !request.sessionSnapshot.sessionId.isEmpty && !request.sessionSnapshot.requestId.isEmpty

/-- The snapshot that `persist_turn` stores. -/
def SessionPersistRequest.turn (request : SessionPersistRequest) : SessionSnapshot :=
  { request.sessionSnapshot with
    fsmState := request.terminalState
    activeCheckpointRef := request.checkpointRef <|> request.sessionSnapshot.activeCheckpointRef }

def SessionManager.persistTurn (manager : SessionManager) (files : FileSystem)
    (fault : Option PublishFault) (request : SessionPersistRequest) :
    (SessionManager × FileSystem) × SessionPersistResult :=
  if !request.hasMinimumRequirements || request.terminalState == .idle then
    ((manager, files), rejectSessionWrite
      (str "persist_turn requires session identity and a non-idle terminal state"))
  else manager.store files fault request.turn "turn persisted in in-memory session store"

structure BindCheckpointRefRequest where
  sessionId : Bytes
  requestId : Bytes
  checkpointRef : Bytes
  fsmState : RuntimeState
  pendingInteraction : Option PendingInteractionState
deriving DecidableEq

def BindCheckpointRefRequest.hasMinimumRequirements (request : BindCheckpointRefRequest) : Bool :=
  !request.sessionId.isEmpty && !request.requestId.isEmpty && !request.checkpointRef.isEmpty

/-- The snapshot that `bind_checkpoint_ref` stores over a cached one. Without a cached one
the other fields start from their defaults; the durable record is not read. -/
def BindCheckpointRefRequest.bound (request : BindCheckpointRefRequest)
    (cached : Option SessionSnapshot) : SessionSnapshot :=
  { cached.getD .default with
    sessionId := request.sessionId
    requestId := request.requestId
    activeCheckpointRef := some request.checkpointRef
    fsmState := request.fsmState
    pendingInteraction := request.pendingInteraction }

def SessionManager.bindCheckpointRef (manager : SessionManager) (files : FileSystem)
    (fault : Option PublishFault) (request : BindCheckpointRefRequest) :
    (SessionManager × FileSystem) × SessionPersistResult :=
  if !request.hasMinimumRequirements then
    ((manager, files), rejectSessionWrite
      (str "bind_checkpoint_ref requires session_id, request_id and checkpoint_ref"))
  else
    manager.store files fault (request.bound (manager.storedSnapshots request.sessionId))
      "checkpoint reference bound to in-memory session"

/-! ## The manager over its file system -/

structure SessionStore where
  manager : SessionManager
  files : FileSystem

inductive SessionCall
  | setDurableStateRoot (stateRoot : Option Bytes)
  | loadSession (opens : Bool) (request : SessionLoadRequest)
  | persistTurn (fault : Option PublishFault) (request : SessionPersistRequest)
  | bindCheckpointRef (fault : Option PublishFault) (request : BindCheckpointRefRequest)

inductive SessionAnswer
  | done
  | load (result : SessionLoadResult)
  | persist (result : SessionPersistResult)
deriving DecidableEq

def SessionStore.step (store : SessionStore) : SessionCall → SessionStore × SessionAnswer
  | .setDurableStateRoot stateRoot =>
    (⟨store.manager.setDurableStateRoot stateRoot, store.files⟩, .done)
  | .loadSession opens request =>
    let (manager, result) := store.manager.loadSession store.files opens request
    (⟨manager, store.files⟩, .load result)
  | .persistTurn fault request =>
    let ((manager, files), result) := store.manager.persistTurn store.files fault request
    (⟨manager, files⟩, .persist result)
  | .bindCheckpointRef fault request =>
    let ((manager, files), result) := store.manager.bindCheckpointRef store.files fault request
    (⟨manager, files⟩, .persist result)

end Dasall.Runtime
