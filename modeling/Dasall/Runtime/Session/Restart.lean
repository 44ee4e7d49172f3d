import Dasall.Runtime.Session.Record

/-!
# Restarting the session manager

A restarted manager has the durable records and an empty cache. Loading reads a record that
is not cached, binding a checkpoint does not, so a restart shows in a binding.
-/

open Dasall.Lib.Text Dasall.Lib.Disk Dasall.Lib.Run

namespace Dasall.Runtime

def SessionManager.over (root : StateRoot) : SessionManager :=
  SessionManager.fresh.setDurableStateRoot (some root.val)

/-- The store with a fresh manager over the same root. -/
def SessionStore.restart (store : SessionStore) : SessionStore :=
  ⟨{ SessionManager.fresh with durableStateRoot := store.manager.durableStateRoot }, store.files⟩

/-- A call to the three session operations that meets no failure of the file system. -/
def SessionCall.Undisturbed : SessionCall → Prop
  | .setDurableStateRoot _ => False
  | .loadSession opens _ => opens = true
  | .persistTurn fault _ | .bindCheckpointRef fault _ => fault = none

/-! ## The cache agrees with the records -/

/-- Every cached session is the one that its durable record holds. -/
def Coherent (root : StateRoot) (store : SessionStore) : Prop :=
  store.manager.durableStateRoot = some root ∧ ∀ id snapshot,
    store.manager.storedSnapshots id = some snapshot →
      readDurableSessionRecord store.files true root id = .ok snapshot

variable (root : StateRoot) (manager : SessionManager) (store a b : SessionStore)
  (call : SessionCall)

theorem coherent_restart
    (hroot : store.manager.durableStateRoot = some root) : Coherent root store.restart :=
  ⟨hroot, fun _ _ h => by cases h⟩

theorem lookup_coherent (h : Coherent root store)
    (id : Bytes) : store.manager.lookup store.files true id =
      (readDurableSessionRecord store.files true root id).toOption := by
  unfold SessionManager.lookup
  rw [h.1]
  cases hstored : store.manager.storedSnapshots id with
  | none => rfl
  | some snapshot => rw [h.2 id snapshot hstored]; rfl

theorem coherent_cache (h : Coherent root store)
    (id : Bytes) (snapshot : SessionSnapshot)
    (hread : readDurableSessionRecord store.files true root id = .ok snapshot) :
    Coherent root ⟨store.manager.cache id snapshot, store.files⟩ := by
  refine ⟨h.1, fun other cached hcached => ?_⟩
  by_cases hid : other = id
  · subst hid
    have hsame : snapshot = cached := by simpa [SessionManager.cache] using hcached
    rw [← hsame]
    exact hread
  · refine h.2 other cached ?_
    simpa [SessionManager.cache, Function.update_of_ne hid] using hcached

/-- What a write that succeeds leaves behind. -/
def SessionStore.written (store : SessionStore) (root : StateRoot) (snapshot : SessionSnapshot) :
    SessionStore :=
  ⟨store.manager.cache snapshot.sessionId snapshot,
    (writeDurableSessionRecord store.files none root snapshot).1⟩

theorem coherent_written (h : Coherent root store)
    (snapshot : SessionSnapshot) : Coherent root (store.written root snapshot) := by
  refine ⟨h.1, fun other cached hcached => ?_⟩
  by_cases hid : other = snapshot.sessionId
  · subst hid
    have hsame : snapshot = cached := by
      simpa [SessionStore.written, SessionManager.cache] using hcached
    rw [← hsame]
    exact read_write_session store.files root snapshot
  · refine (read_other_session store.files true root snapshot other hid).trans
      (h.2 other cached ?_)
    simpa [SessionStore.written, SessionManager.cache, Function.update_of_ne hid] using hcached

theorem store_undisturbed
    (hroot : store.manager.durableStateRoot = some root) (snapshot : SessionSnapshot)
    (memoryDetail : String) :
    store.manager.store store.files none snapshot memoryDetail =
      (((store.written root snapshot).manager, (store.written root snapshot).files),
        ⟨true, snapshot.activeCheckpointRef, none, str "session persisted in durable store"⟩) := by
  have hwritten := (write_succeeds_iff store.files none root snapshot).mpr rfl
  have hdetail : (writeDurableSessionRecord store.files none root snapshot).2.2 =
      str "session persisted in durable store" := rfl
  simp only [SessionManager.store, SessionManager.cache, hroot, hwritten, hdetail, if_true,
    SessionStore.written]

/-! ## One call -/

/-- What a load does to a coherent store: it caches the snapshot it finds, if any. -/
theorem load_spec (h : Coherent root store)
    (request : SessionLoadRequest) :
    (request.hasMinimumRequirements = false ∧ (store.step (.loadSession true request)).1 = store) ∨
    (∃ detail, readDurableSessionRecord store.files true root request.sessionId = .error detail ∧
      (store.step (.loadSession true request)).1 = store) ∨
    (∃ snapshot,
      readDurableSessionRecord store.files true root request.sessionId = .ok snapshot ∧
      request.hasMinimumRequirements = true ∧ (store.step (.loadSession true request)).1 =
        ⟨store.manager.cache request.sessionId snapshot, store.files⟩) := by
  have hlookup := lookup_coherent root store h request.sessionId
  cases hmin : request.hasMinimumRequirements with
  | false => exact .inl ⟨rfl, by simp [SessionStore.step, SessionManager.loadSession, hmin]⟩
  | true =>
    cases hread : readDurableSessionRecord store.files true root request.sessionId with
    | error detail =>
      rw [hread] at hlookup
      refine .inr (.inl ⟨detail, rfl, ?_⟩)
      simp [SessionStore.step, SessionManager.loadSession, hmin, hlookup, Except.toOption]
    | ok snapshot =>
      rw [hread] at hlookup
      refine .inr (.inr ⟨snapshot, rfl, rfl, ?_⟩)
      simp [SessionStore.step, SessionManager.loadSession, hmin, hlookup, Except.toOption]

theorem load_answer (ha : Coherent root a)
    (hb : Coherent root b) (hfiles : a.files = b.files) (request : SessionLoadRequest) :
    (a.step (.loadSession true request)).2 = (b.step (.loadSession true request)).2 := by
  have hlookup : a.manager.lookup a.files true request.sessionId =
      b.manager.lookup b.files true request.sessionId := by
    rw [lookup_coherent root a ha, lookup_coherent root b hb, hfiles]
  simp only [SessionStore.step, SessionManager.loadSession, hlookup, ha.1, hb.1]
  split
  · rfl
  · split <;> rfl

/-- A write that is rejected changes nothing; any other writes the snapshot it builds. -/
theorem persist_spec
    (hroot : store.manager.durableStateRoot = some root) (request : SessionPersistRequest) :
    store.step (.persistTurn none request) =
      if !request.hasMinimumRequirements || request.terminalState == .idle then
        (store, .persist (rejectSessionWrite
          (str "persist_turn requires session identity and a non-idle terminal state")))
      else (store.written root request.turn, .persist ⟨true, request.turn.activeCheckpointRef, none,
        str "session persisted in durable store"⟩) := by
  simp only [SessionStore.step, SessionManager.persistTurn]
  split
  · rfl
  · simp only [store_undisturbed root store hroot]

theorem bind_spec
    (hroot : store.manager.durableStateRoot = some root) (request : BindCheckpointRefRequest) :
    store.step (.bindCheckpointRef none request) =
      if !request.hasMinimumRequirements then
        (store, .persist (rejectSessionWrite
          (str "bind_checkpoint_ref requires session_id, request_id and checkpoint_ref")))
      else (store.written root (request.bound (store.manager.storedSnapshots request.sessionId)),
        .persist ⟨true, some request.checkpointRef, none,
          str "session persisted in durable store"⟩) := by
  simp only [SessionStore.step, SessionManager.bindCheckpointRef]
  split
  · rfl
  · simp only [store_undisturbed root store hroot]
    rfl

theorem coherent_step
    (h : Coherent root store) (hcall : call.Undisturbed) : Coherent root (store.step call).1 := by
  cases call with
  | setDurableStateRoot => exact hcall.elim
  | loadSession opens request =>
    cases hcall
    obtain ⟨-, hnext⟩ | ⟨-, -, hnext⟩ | ⟨snapshot, hread, -, hnext⟩ := load_spec root store h request
    · rw [hnext]; exact h
    · rw [hnext]; exact h
    · rw [hnext]; exact coherent_cache root store h _ _ hread
  | persistTurn fault request =>
    cases hcall
    rw [persist_spec root store h.1]
    split
    · exact h
    · exact coherent_written root store h _
  | bindCheckpointRef fault request =>
    cases hcall
    rw [bind_spec root store h.1]
    split
    · exact h
    · exact coherent_written root store h _

/-! ## Two stores, one of them restarted -/

/-- The second store has the same records, and no session cached that the first has not. -/
structure Restarted (root : StateRoot) (a b : SessionStore) : Prop where
  files : a.files = b.files
  left : Coherent root a
  right : Coherent root b
  cached : ∀ id, a.manager.storedSnapshots id = none → b.manager.storedSnapshots id = none

/-- The session holds nothing that a binding would have to keep. -/
def NothingToKeep (snapshot : SessionSnapshot) : Prop :=
  snapshot.turnIndex = 0 ∧ snapshot.budgetSnapshotRef = none ∧ snapshot.lastResultSummary = none

/-- A binding is safe unless the restarted manager lacks the session that the other one has
cached, and that session has something to keep. -/
def BindSafe (stores : SessionStore × SessionStore) : SessionCall → Prop
  | .bindCheckpointRef _ request =>
    request.hasMinimumRequirements = true →
      stores.2.manager.storedSnapshots request.sessionId = none →
      ∀ snapshot, stores.1.manager.storedSnapshots request.sessionId = some snapshot →
        NothingToKeep snapshot
  | _ => True

theorem bound_eq_iff (request : BindCheckpointRefRequest) (snapshot : SessionSnapshot) :
    request.bound (some snapshot) = request.bound none ↔ NothingToKeep snapshot := by
  simp [BindCheckpointRefRequest.bound, SessionSnapshot.default, NothingToKeep]

theorem cached_cache {a b : SessionManager}
    (h : ∀ id, a.storedSnapshots id = none → b.storedSnapshots id = none) (key : Bytes)
    (x y : SessionSnapshot) (id : Bytes) (ha : (a.cache key x).storedSnapshots id = none) :
    (b.cache key y).storedSnapshots id = none := by
  have hid : id ≠ key := by
    rintro rfl
    simp [SessionManager.cache] at ha
  simp only [SessionManager.cache, Function.update_of_ne hid] at ha ⊢
  exact h id ha

theorem restarted_written (h : Restarted root a b)
    (snapshot : SessionSnapshot) :
    Restarted root (a.written root snapshot) (b.written root snapshot) := by
  refine ⟨?_, coherent_written root a h.left _, coherent_written root b h.right _, ?_⟩
  · simp only [SessionStore.written, h.files]
  · exact fun id => cached_cache h.cached _ _ _ id

/-- A pair of loads keeps the stores related: each caches the record that both find. -/
theorem restarted_load (h : Restarted root a b)
    (request : SessionLoadRequest) :
    Restarted root (a.step (.loadSession true request)).1 (b.step (.loadSession true request)).1 := by
  refine ⟨?_, coherent_step root a _ h.left rfl, coherent_step root b _ h.right rfl, ?_⟩
  · exact h.files
  · obtain ⟨hmin, ha⟩ | ⟨detail, hread, ha⟩ | ⟨snapshot, hread, hmin, ha⟩ :=
      load_spec root a h.left request
    · obtain ⟨-, hb⟩ | ⟨-, -, hb⟩ | ⟨-, -, hmin', -⟩ := load_spec root b h.right request
      · rw [ha, hb]; exact h.cached
      · rw [ha, hb]; exact h.cached
      · rw [hmin] at hmin'; cases hmin'
    · obtain ⟨-, hb⟩ | ⟨-, -, hb⟩ | ⟨_, hread', -, -⟩ := load_spec root b h.right request
      · rw [ha, hb]; exact h.cached
      · rw [ha, hb]; exact h.cached
      · rw [← h.files, hread] at hread'; cases hread'
    · obtain ⟨hmin', -⟩ | ⟨_, hread', -⟩ | ⟨other, -, -, hb⟩ := load_spec root b h.right request
      · rw [hmin] at hmin'; cases hmin'
      · rw [← h.files, hread] at hread'; cases hread'
      · rw [ha, hb]; exact fun id => cached_cache h.cached _ _ _ id

theorem bound_restarted (h : Restarted root a b)
    (request : BindCheckpointRefRequest) :
    request.bound (a.manager.storedSnapshots request.sessionId) =
        request.bound (b.manager.storedSnapshots request.sessionId) ↔
      (b.manager.storedSnapshots request.sessionId = none →
        ∀ snapshot, a.manager.storedSnapshots request.sessionId = some snapshot →
          NothingToKeep snapshot) := by
  cases hb : b.manager.storedSnapshots request.sessionId with
  | some snapshot =>
    cases ha : a.manager.storedSnapshots request.sessionId with
    | none => rw [h.cached _ ha] at hb; cases hb
    | some other =>
      have hsame := (h.left.2 _ _ ha).symm.trans (h.files ▸ h.right.2 _ _ hb)
      cases hsame
      exact iff_of_true rfl (by simp)
  | none =>
    cases ha : a.manager.storedSnapshots request.sessionId with
    | none => exact iff_of_true rfl (by simp)
    | some snapshot => simp [bound_eq_iff]

theorem restarted_keep
    (h : Restarted root a b) (hcall : call.Undisturbed) (hsafe : BindSafe (a, b) call) :
    (a.step call).2 = (b.step call).2 ∧ Restarted root (a.step call).1 (b.step call).1 := by
  cases call with
  | setDurableStateRoot => exact hcall.elim
  | loadSession opens request =>
    cases hcall
    exact ⟨load_answer root a b h.left h.right h.files request, restarted_load root a b h request⟩
  | persistTurn fault request =>
    cases hcall
    rw [persist_spec root a h.left.1, persist_spec root b h.right.1]
    split
    · exact ⟨rfl, h⟩
    · exact ⟨rfl, restarted_written root a b h _⟩
  | bindCheckpointRef fault request =>
    cases hcall
    rw [bind_spec root a h.left.1, bind_spec root b h.right.1]
    split
    · exact ⟨rfl, h⟩
    · rename_i hmin
      have hbound := (bound_restarted root a b h request).mpr (hsafe (by simpa using hmin))
      rw [hbound]
      exact ⟨rfl, restarted_written root a b h _⟩

theorem restarted_break
    (h : Restarted root a b) (hcall : call.Undisturbed) (hbad : ¬ BindSafe (a, b) call) :
    ¬ SameRecords (a.step call).1.files (b.step call).1.files := by
  cases call with
  | setDurableStateRoot | loadSession | persistTurn => exact absurd trivial hbad
  | bindCheckpointRef fault request =>
    cases hcall
    have hmin : request.hasMinimumRequirements = true := by
      by_contra hno
      exact hbad fun hyes => absurd hyes hno
    have hbound : request.bound (a.manager.storedSnapshots request.sessionId) ≠
        request.bound (b.manager.storedSnapshots request.sessionId) := by
      intro heq
      exact hbad fun _ => (bound_restarted root a b h request).mp heq
    rw [bind_spec root a h.left.1, bind_spec root b h.right.1, if_neg (by simp [hmin]),
      if_neg (by simp [hmin])]
    intro hsame
    have hresult :=
      calc (.ok (request.bound (a.manager.storedSnapshots request.sessionId)) : Except Bytes _)
        _ = readDurableSessionRecord (a.written root (request.bound
              (a.manager.storedSnapshots request.sessionId))).files true root request.sessionId :=
            (read_write_session a.files root _).symm
        _ = readDurableSessionRecord (b.written root (request.bound
              (b.manager.storedSnapshots request.sessionId))).files true root request.sessionId :=
            readSession_sameRecords hsame true root request.sessionId
        _ = .ok (request.bound (b.manager.storedSnapshots request.sessionId)) :=
            read_write_session b.files root _
    exact hbound (Except.ok.inj hresult)

/-- A restart after any run shows in no answer and in no record of the rest of the run, up
to any of its calls, exactly when every later binding is safe. -/
theorem restart_transparent (root : StateRoot) (store : SessionStore) (before after : List SessionCall)
    (hcoherent : Coherent root store) (hbefore : ∀ call ∈ before, call.Undisturbed)
    (hafter : ∀ call ∈ after, call.Undisturbed) :
    let reached := (run SessionStore.step store before).1
    (∀ k, Agree SessionStore.step (fun s t => SameRecords s.files t.files) reached reached.restart
        (after.take k)) ↔
      AllSteps (both SessionStore.step) BindSafe (reached, reached.restart) after := by
  intro reached
  have hreached : Coherent root reached :=
    invariant_of_allSteps SessionStore.step (fun _ call => call.Undisturbed) (Coherent root)
      (fun s call hs hcall => coherent_step root s call hs hcall) store before hcoherent
      (allSteps_of_forall _ _ _ _ hbefore)
  refine lockstep SessionStore.step (Restarted root) _ BindSafe SessionCall.Undisturbed ?_ ?_ ?_
    reached reached.restart after ?_ hafter
  · intro s t h
    rw [h.files]
    exact SameRecords.refl _
  · exact fun s t call h hcall hsafe => restarted_keep root s t call h hcall hsafe
  · exact fun s t call h hcall hbad => restarted_break root s t call h hcall hbad
  · exact ⟨rfl, hreached, coherent_restart root reached hreached.1, fun _ _ => rfl⟩

/-- A fresh manager over the root, before any call. -/
def SessionStore.over (root : StateRoot) : SessionStore := ⟨.over root, .empty⟩

theorem coherent_over : Coherent root (.over root) :=
  ⟨stateRootOf_val root, fun _ _ h => by cases h⟩

/-- The fourth turn of a session, with a budget reference and a summary. -/
def sampleTurn : SessionPersistRequest where
  sessionSnapshot := { SessionSnapshot.default with
    sessionId := str "session"
    requestId := str "request"
    turnIndex := 4
    budgetSnapshotRef := some (str "budget")
    lastResultSummary := some (str "summary") }
  terminalState := .waitingConfirm
  checkpointRef := none

def sampleBinding : BindCheckpointRefRequest :=
  ⟨str "session", str "request", str "ckpt", .waitingConfirm, none⟩

def sampleLoad : SessionLoadRequest := ⟨str "session", str "request", none, true⟩

/-- After a restart, the binding of a checkpoint resets the turn that was persisted. -/
theorem restart_binding_resets :
    let reached := (run SessionStore.step (.over sampleRoot) [.persistTurn none sampleTurn]).1
    let later := [.bindCheckpointRef none sampleBinding, .loadSession true sampleLoad]
    (run SessionStore.step reached later).2 ≠ (run SessionStore.step reached.restart later).2 := by
  decide

theorem restart_transparent_sample :
    let reached := (run SessionStore.step (.over sampleRoot) [.persistTurn none sampleTurn]).1
    ∀ k, Agree SessionStore.step (fun s t => SameRecords s.files t.files) reached reached.restart
      ([.loadSession true sampleLoad, .bindCheckpointRef none sampleBinding].take k) := by
  refine (restart_transparent sampleRoot (.over sampleRoot) [.persistTurn none sampleTurn] _
    (coherent_over _) ?_ ?_).mpr ⟨trivial, ?_, trivial⟩
  · intro call hcall
    cases List.mem_singleton.mp hcall
    rfl
  · intro call hcall
    simp only [List.mem_cons, List.not_mem_nil, or_false] at hcall
    rcases hcall with rfl | rfl <;> rfl
  · -- The load before the binding brings the session back into the cache.
    intro _ hnone
    exact absurd hnone (by decide +kernel)

/-! ## A session write that fails -/

/-! ## Stores that no call tells apart -/

structure SessionsAlike (a b : SessionStore) : Prop where
  manager : a.manager = b.manager
  files : SameRecords a.files b.files

theorem store_alike {a b : FileSystem} (h : SameRecords a b)
    (fault : Option PublishFault) (snapshot : SessionSnapshot) (memoryDetail : String) :
    (manager.store a fault snapshot memoryDetail).2 =
        (manager.store b fault snapshot memoryDetail).2 ∧
      (manager.store a fault snapshot memoryDetail).1.1 =
        (manager.store b fault snapshot memoryDetail).1.1 ∧
      SameRecords (manager.store a fault snapshot memoryDetail).1.2
        (manager.store b fault snapshot memoryDetail).1.2 := by
  unfold SessionManager.store
  simp only
  split
  · exact ⟨rfl, rfl, h⟩
  · simp only [writeDurableSessionRecord, publish_outcome]
    split
    · exact ⟨rfl, rfl, publish_sameRecords h _ _ _⟩
    · exact ⟨rfl, rfl, publish_sameRecords h _ _ _⟩

theorem lookup_alike {a b : FileSystem} (h : SameRecords a b)
    (opens : Bool) (sessionId : Bytes) :
    manager.lookup a opens sessionId = manager.lookup b opens sessionId := by
  unfold SessionManager.lookup
  split
  · rfl
  · rfl
  · rw [readSession_sameRecords h]

theorem sessionsAlike_step (h : SessionsAlike a b) :
    (a.step call).2 = (b.step call).2 ∧ SessionsAlike (a.step call).1 (b.step call).1 := by
  obtain ⟨manager, files⟩ := a
  obtain ⟨manager', files'⟩ := b
  obtain ⟨hmanager, hfiles⟩ := h
  cases hmanager
  cases call with
  | setDurableStateRoot stateRoot => exact ⟨rfl, rfl, hfiles⟩
  | loadSession opens request =>
    simp only [SessionStore.step, SessionManager.loadSession, lookup_alike manager hfiles]
    exact ⟨trivial, rfl, hfiles⟩
  | persistTurn fault request =>
    simp only [SessionStore.step, SessionManager.persistTurn]
    split
    · exact ⟨rfl, rfl, hfiles⟩
    · obtain ⟨hout, hmanager, hrecords⟩ := store_alike manager hfiles fault request.turn
        "turn persisted in in-memory session store"
      exact ⟨congrArg SessionAnswer.persist hout, hmanager, hrecords⟩
  | bindCheckpointRef fault request =>
    simp only [SessionStore.step, SessionManager.bindCheckpointRef]
    split
    · exact ⟨rfl, rfl, hfiles⟩
    · obtain ⟨hout, hmanager, hrecords⟩ := store_alike manager hfiles fault
        (request.bound (manager.storedSnapshots request.sessionId))
        "checkpoint reference bound to in-memory session"
      exact ⟨congrArg SessionAnswer.persist hout, hmanager, hrecords⟩

/-! ## When a failed write leaves the session as it was -/

/-- The part of a load that callers rely on: the flag, the error code and the snapshot. -/
def SessionAnswer.loadView :
    SessionAnswer → Option (Bool × Option RuntimeErrorCode × Option SessionSnapshot)
  | .load result => some (result.accepted, result.errorCode, result.snapshot)
  | _ => none

def loadViews (store : SessionStore) (calls : List SessionCall) :
    List (Bool × Option RuntimeErrorCode × Option SessionSnapshot) :=
  (run SessionStore.step store calls).2.filterMap SessionAnswer.loadView

/-- Whatever is called next, every load returns the same flag, error code and snapshot. -/
def SessionsLeftAsTheyWere (before after : SessionStore) : Prop :=
  ∀ calls, loadViews after calls = loadViews before calls

def SessionAnswer.failedWrite : SessionAnswer → Bool
  | .persist result => !result.persisted
  | _ => false

/-- The snapshot that a write puts into the cache, unless its request is rejected. -/
def SessionStore.stores (store : SessionStore) : SessionCall → Option SessionSnapshot
  | .persistTurn _ request =>
    if !request.hasMinimumRequirements || request.terminalState == .idle then none
    else some request.turn
  | .bindCheckpointRef _ request =>
    if !request.hasMinimumRequirements then none
    else some (request.bound (store.manager.storedSnapshots request.sessionId))
  | _ => none

/-- The request is rejected, or the session already is what it would store. -/
def WriteHarmless (store : SessionStore) (call : SessionCall) : Prop :=
  ∀ snapshot, store.stores call = some snapshot →
    store.manager.storedSnapshots snapshot.sessionId = some snapshot

theorem sessionsLeft_of_alike {before after : SessionStore} (h : SessionsAlike after before) :
    SessionsLeftAsTheyWere before after := by
  intro calls
  obtain ⟨hout, -⟩ := simulation SessionStore.step SessionStore.step SessionsAlike
    (fun _ _ => True) (fun a b call h _ => sessionsAlike_step a b call h) after before calls h
    (allSteps_true _ _ _)
  rw [loadViews, loadViews, hout]

theorem store_failed (files : FileSystem) (fault : Option PublishFault)
    (snapshot : SessionSnapshot) (memoryDetail : String)
    (h : (manager.store files fault snapshot memoryDetail).2.persisted = false) :
    SameRecords (manager.store files fault snapshot memoryDetail).1.2 files ∧
      (manager.store files fault snapshot memoryDetail).1.1 =
        manager.cache snapshot.sessionId snapshot := by
  unfold SessionManager.store at h ⊢
  cases hroot : (manager.cache snapshot.sessionId snapshot).durableStateRoot with
  | none => simp [hroot] at h
  | some root =>
    cases fault with
    | none =>
      have hwritten := (write_succeeds_iff files none root snapshot).mpr rfl
      simp [hroot, hwritten] at h
    | some fault =>
      have hfailed : (writeDurableSessionRecord files (some fault) root snapshot).2.1 = false := by
        simp [writeDurableSessionRecord, publish_outcome]
      simp only [hroot, hfailed, Bool.false_eq_true, if_false]
      exact ⟨publish_fault files fault _ _, trivial⟩

theorem failedWrite_spec (h : (store.step call).2.failedWrite = true) :
    SameRecords (store.step call).1.files store.files ∧
      (store.step call).1.manager =
        match store.stores call with
        | some snapshot => store.manager.cache snapshot.sessionId snapshot
        | none => store.manager := by
  cases call with
  | setDurableStateRoot | loadSession => cases h
  | persistTurn fault request =>
    simp only [SessionStore.step, SessionManager.persistTurn, SessionStore.stores] at h ⊢
    split
    · exact ⟨SameRecords.refl _, rfl⟩
    · rw [if_neg ‹_›] at h
      exact store_failed _ _ _ _ _ (by simpa [SessionAnswer.failedWrite] using h)
  | bindCheckpointRef fault request =>
    simp only [SessionStore.step, SessionManager.bindCheckpointRef, SessionStore.stores] at h ⊢
    split
    · exact ⟨SameRecords.refl _, rfl⟩
    · rw [if_neg ‹_›] at h
      exact store_failed _ _ _ _ _ (by simpa [SessionAnswer.failedWrite] using h)

theorem stores_sessionId (snapshot : SessionSnapshot)
    (h : store.stores call = some snapshot) : snapshot.sessionId ≠ [] := by
  cases call with
  | setDurableStateRoot | loadSession => cases h
  | persistTurn fault request =>
    simp only [SessionStore.stores] at h
    split at h
    · cases h
    · cases h
      simp_all [SessionPersistRequest.hasMinimumRequirements, SessionPersistRequest.turn]
  | bindCheckpointRef fault request =>
    simp only [SessionStore.stores] at h
    split at h
    · cases h
    · cases h
      simp_all [BindCheckpointRefRequest.hasMinimumRequirements, BindCheckpointRefRequest.bound]

/-- A load from memory alone, with creation disabled: the durable root is taken away first. -/
theorem loadViews_memory (sessionId : Bytes) (hid : sessionId ≠ []) :
    loadViews store [.setDurableStateRoot none, .loadSession true ⟨sessionId, str "r", none, false⟩] =
      [match store.manager.storedSnapshots sessionId with
        | some snapshot => (true, none, some snapshot)
        | none => (false, some .rtE400SessionNotFound, none)] := by
  have hmin : (⟨sessionId, str "r", none, false⟩ : SessionLoadRequest).hasMinimumRequirements =
      true := by
    simpa [SessionLoadRequest.hasMinimumRequirements, str] using hid
  cases h : store.manager.storedSnapshots sessionId with
  | some snapshot =>
    simp only [loadViews, run_cons, run_nil, SessionStore.step, SessionManager.setDurableStateRoot,
      SessionManager.loadSession, SessionManager.lookup, stateRootOf, hmin, h]
    rfl
  | none =>
    simp only [loadViews, run_cons, run_nil, SessionStore.step, SessionManager.setDurableStateRoot,
      SessionManager.loadSession, SessionManager.lookup, stateRootOf, hmin, h]
    rfl

/-- A failed write leaves every session as it was exactly when the write is harmless. -/
theorem failed_write_spec (store : SessionStore) (call : SessionCall)
    (hfailed : (store.step call).2.failedWrite = true) :
    SessionsLeftAsTheyWere store (store.step call).1 ↔ WriteHarmless store call := by
  obtain ⟨hfiles, hmanager⟩ := failedWrite_spec store call hfailed
  cases hstores : store.stores call with
  | none =>
    rw [hstores] at hmanager
    exact iff_of_true (sessionsLeft_of_alike ⟨hmanager, hfiles⟩) fun _ h => by
      rw [hstores] at h; cases h
  | some snapshot =>
    rw [hstores] at hmanager
    have hid := stores_sessionId store call snapshot hstores
    constructor
    · intro hleft written hwritten
      rw [hstores, Option.some.injEq] at hwritten
      subst hwritten
      have hload := hleft [.setDurableStateRoot none,
        .loadSession true ⟨snapshot.sessionId, str "r", none, false⟩]
      have hcached : (store.step call).1.manager.storedSnapshots snapshot.sessionId =
          some snapshot := by
        rw [hmanager]
        simp [SessionManager.cache]
      rw [loadViews_memory _ _ hid, loadViews_memory _ _ hid, hcached] at hload
      cases hbefore : store.manager.storedSnapshots snapshot.sessionId with
      | none => simp [hbefore] at hload
      | some before => simpa [hbefore] using hload.symm
    · intro hharmless
      refine sessionsLeft_of_alike ⟨?_, hfiles⟩
      exact hmanager.trans (SessionManager.cache_self _ _ _ (hharmless snapshot hstores))

/-- The rename fails, and yet a later load finds the session that was not written. -/
theorem failed_write_kept :
    let store := SessionStore.over sampleRoot
    let call := SessionCall.persistTurn (some .rename) sampleTurn
    (store.step call).2.failedWrite = true ∧
      ¬ SessionsLeftAsTheyWere store (store.step call).1 := by
  refine ⟨by decide, fun h => ?_⟩
  exact absurd (h [.loadSession true sampleLoad]) (by decide)

theorem failed_write_spec_sample :
    SessionsLeftAsTheyWere (.over sampleRoot)
        ((SessionStore.over sampleRoot).step (.persistTurn (some .rename) sampleTurn)).1 ↔
      WriteHarmless (.over sampleRoot) (.persistTurn (some .rename) sampleTurn) :=
  failed_write_spec (.over sampleRoot) (.persistTurn (some .rename) sampleTurn) (by decide)

end Dasall.Runtime
