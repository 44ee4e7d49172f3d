import Dasall.Runtime.Session.Record

/-!
# Damaged session records

The reader tells a damaged record from one that is not there by its detail only, which loading does
not look at. A damaged record then counts as no session.
-/

open Dasall.Lib.Text Dasall.Lib.Disk Dasall.Lib.KeyValue

namespace Dasall.Runtime

variable (manager : SessionManager) (files : FileSystem) (opens : Bool)

/-- The session is not cached, and its record is there but does not read. -/
structure SessionManager.Damaged (root : StateRoot) (sessionId : Bytes) : Prop where
  durable : manager.durableStateRoot = some root
  uncached : manager.storedSnapshots sessionId = none
  there : (files.files (sessionRecordPath root sessionId)).isSome
  unread : ∀ snapshot, readDurableSessionRecord files opens root sessionId ≠ .ok snapshot

/-- Loading makes no new session, and no turn of the session it answers, counted from zero, is
written over the record. -/
structure SessionManager.Spares (root : StateRoot) (request : SessionLoadRequest) : Prop where
  notNew : (manager.loadSession files opens request).2.createdNewSession = false
  kept : ∀ (fault : Option PublishFault) (turn : SessionPersistRequest),
    (manager.loadSession files opens request).2.snapshot = some turn.sessionSnapshot →
    turn.sessionSnapshot.turnIndex = 0 →
      ((manager.loadSession files opens request).1.persistTurn files fault turn).1.2.files
        (sessionRecordPath root request.sessionId) =
          files.files (sessionRecordPath root request.sessionId)

/-- The snapshot that loading makes where it finds none. -/
def SessionLoadRequest.fresh (request : SessionLoadRequest) : SessionSnapshot :=
  { SessionSnapshot.default with
    sessionId := request.sessionId
    requestId := request.requestId
    activeCheckpointRef := request.checkpointRef }

variable {manager files opens} {root : StateRoot}

theorem SessionManager.Damaged.lookup {sessionId : Bytes}
    (h : manager.Damaged files opens root sessionId) :
    manager.lookup files opens sessionId = none := by
  unfold SessionManager.lookup
  simp only [h.uncached, h.durable]
  cases hread : readDurableSessionRecord files opens root sessionId with
  | ok snapshot => exact absurd hread (h.unread snapshot)
  | error detail => rfl

theorem SessionManager.Damaged.load (request : SessionLoadRequest)
    (h : manager.Damaged files opens root request.sessionId) :
    manager.loadSession files opens request =
      (manager,
        if request.hasMinimumRequirements then
          if request.allowSessionCreate then
            makeSessionLoadResult request.fresh true
              "new session snapshot created for runtime-local store"
          else rejectSessionLoad .rtE400SessionNotFound
            "session does not exist and creation is disabled"
        else rejectSessionLoad .rtE400SessionNotFound "session_id and request_id are required") := by
  unfold SessionManager.loadSession
  rw [h.lookup]
  cases request.hasMinimumRequirements
  · rfl
  · cases request.allowSessionCreate <;> rfl

/-- A damaged record is spared exactly where loading may not make a session at all. -/
theorem damaged_spared_iff (manager : SessionManager) (files : FileSystem) (opens : Bool)
    (root : StateRoot) (request : SessionLoadRequest)
    (h : manager.Damaged files opens root request.sessionId) :
    manager.Spares files opens root request ↔
      ¬ (request.hasMinimumRequirements = true ∧ request.allowSessionCreate = true) := by
  constructor
  · rintro ⟨hnew, -⟩ ⟨hrequirements, hallowed⟩
    rw [h.load, if_pos hrequirements, if_pos hallowed] at hnew
    cases hnew
  · intro hrefused
    have hload : (manager.loadSession files opens request).2.createdNewSession = false ∧
        (manager.loadSession files opens request).2.snapshot = none := by
      rw [h.load]
      split
      · next hrequirements =>
        rw [if_neg (fun hallowed => hrefused ⟨hrequirements, hallowed⟩)]
        exact ⟨rfl, rfl⟩
      · exact ⟨rfl, rfl⟩
    refine ⟨hload.1, fun fault turn hsnapshot => ?_⟩
    rw [hload.2] at hsnapshot
    cases hsnapshot

/-! ## A record that is cut off -/

def loadRequest : SessionLoadRequest := ⟨str "session", str "request", none, true⟩

/-- The record ends within its first line. -/
def cutOffFiles : FileSystem :=
  (FileSystem.empty.publish none (sessionRecordPath sampleRoot (str "session"))
    (str "session_id")).1

def sampleSessions : SessionManager :=
  SessionManager.fresh.setDurableStateRoot (some sampleRoot.val)

theorem cutOff_damaged : sampleSessions.Damaged cutOffFiles true sampleRoot loadRequest.sessionId where
  durable := stateRootOf_val sampleRoot
  uncached := rfl
  there := by decide +kernel
  unread := by
    intro snapshot
    have herror : (readDurableSessionRecord cutOffFiles true sampleRoot
        loadRequest.sessionId).toOption = none := by decide +kernel
    intro hread
    rw [hread] at herror
    cases herror

theorem cutOff_unspared_iff : sampleSessions.Spares cutOffFiles true sampleRoot loadRequest ↔
    ¬ (loadRequest.hasMinimumRequirements = true ∧ loadRequest.allowSessionCreate = true) :=
  damaged_spared_iff sampleSessions cutOffFiles true sampleRoot loadRequest cutOff_damaged

/-- The load makes a new session, and its first turn is written over the record. -/
theorem cutOff_overwritten :
    sampleSessions.Damaged cutOffFiles true sampleRoot loadRequest.sessionId ∧
    (sampleSessions.loadSession cutOffFiles true loadRequest).2.createdNewSession = true ∧
    ((sampleSessions.loadSession cutOffFiles true loadRequest).1.persistTurn cutOffFiles none
      ⟨loadRequest.fresh, .completed, none⟩).1.2.files
        (sessionRecordPath sampleRoot loadRequest.sessionId) =
      some (writeEntries (sessionRecord { loadRequest.fresh with fsmState := .completed })) := by
  have hload := cutOff_damaged.load
  refine ⟨cutOff_damaged, by rw [hload]; rfl, ?_⟩
  rw [hload]
  decide +kernel

end Dasall.Runtime
