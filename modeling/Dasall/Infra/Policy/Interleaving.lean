import Dasall.Infra.Policy.History

/-!
# What every interleaving keeps

The store beside its trace, and each thread in its phase. The store refuses a patch of any
snapshot but the current one, so the history is unbroken.
-/

open Dasall.Lib Dasall.Lib.Run Dasall.Lib.Text Dasall.Lib.Trace

namespace Dasall.Infra.Policy

open PolicyState

theorem commits_append (first second : List PolicyEvent) :
    commits (first ++ second) = commits first ++ commits second :=
  List.filterMap_append

/-- What holds of the store beside the trace. -/
structure Recorded (state : PolicyState) : Prop where
  history : Unbroken (commits state.trace)
  current : state.snapshotStore.current = lastSnapshot (commits state.trace)
  scopes : ∀ snapshotId snapshot,
    state.snapshotStore.snapshotsById.lookup snapshotId = some snapshot → ScopesApart snapshot

/-- The dry run read a snapshot of the base generation. -/
structure ReadBase (trace : List PolicyEvent) (call : PatchCall) : Prop where
  read : call.read ≤ trace.length
  valid : (lastSnapshot (commits (trace.take call.read))).isValid = true
  base : (lastSnapshot (commits (trace.take call.read))).generation = call.patch.baseGeneration

/-- The snapshot is valid, and current or of an earlier generation. -/
structure Reached (state : PolicyState) (snapshot : PolicySnapshot) : Prop where
  valid : snapshot.isValid = true
  reached : snapshot = state.snapshotStore.current ∨
    state.snapshotStore.current.isValid = true ∧
      snapshot.generation < state.snapshotStore.current.generation

/-- What holds of a thread in its phase. -/
def Stands (state : PolicyState) : PolicyPhase → Prop
  | .loadResolved bundle => (resolve bundle).resolved = true
  | .loadBuilt bundle nextSnapshot =>
    (resolve bundle).resolved = true ∧
      nextSnapshot.effectiveRules = (resolve bundle).effectiveRules
  | .applyDryRunPassed call | .applyValidated call => ReadBase state.trace call
  | .applyBuilt call nextSnapshot =>
    ReadBase state.trace call ∧ ∃ base, Reached state base ∧
      (resolve (applyPatchToSnapshot base call.patch)).resolved = true ∧
      nextSnapshot = patchSnapshot base call.patch
  | .rollbackFound _ targetSnapshot => ScopesApart targetSnapshot
  | .rollbackBuilt _ targetSnapshot nextSnapshot =>
    ScopesApart targetSnapshot ∧ nextSnapshot.effectiveRules = targetSnapshot.effectiveRules
  | .idle | .dryRunPassed _ _ | .applyAdmitted _ _ _ | .applyFailed _ | .committed _ _ => True

/-! ## What an action does to the store -/

/-- The commit that a thread makes next. -/
def PolicyPhase.pendingCommit : PolicyPhase → Option (PolicyOperation × PolicySnapshot)
  | .loadBuilt bundle nextSnapshot => some (.load bundle, nextSnapshot)
  | .applyBuilt call nextSnapshot => some (.patch call, nextSnapshot)
  | .rollbackBuilt snapshotId targetSnapshot nextSnapshot =>
    some (.rollback snapshotId targetSnapshot, nextSnapshot)
  | _ => none

theorem PolicyPhase.pendingCommit_patch {phase : PolicyPhase} {call : PatchCall}
    {snapshot : PolicySnapshot} (h : phase.pendingCommit = some (.patch call, snapshot)) :
    phase = .applyBuilt call snapshot := by
  cases phase with
  | applyBuilt other next =>
    cases h
    rfl
  | loadBuilt bundle next => cases h
  | rollbackBuilt snapshotId target next => cases h
  | _ => simp [PolicyPhase.pendingCommit] at h

/-- The snapshots are as they were, and the trace has no commit more. -/
structure Quiet (before after : PolicyState) : Prop where
  current : after.snapshotStore.current = before.snapshotStore.current
  lookup : after.snapshotStore.snapshotsById = before.snapshotStore.snapshotsById
  trace : ∃ more, after.trace = before.trace ++ more ∧ commits more = []

variable (call : PolicyCall) {before : PolicyState} (state : PolicyState) {after : PolicyState}
  (patch : PolicyPatch) (snapshot : PolicySnapshot) (phase : PolicyPhase)
  (operation : PolicyOperation)

theorem Quiet.refl : Quiet state state :=
  ⟨rfl, rfl, [], (List.append_nil _).symm, rfl⟩

theorem quiet_of_manager (manager : SecurityPolicyManager) :
    Quiet state { state with manager } :=
  ⟨rfl, rfl, [], (List.append_nil _).symm, rfl⟩

/-- A commit was applied. -/
structure Commits (before after : PolicyState) (operation : PolicyOperation)
    (snapshot : PolicySnapshot) : Prop where
  advances : before.snapshotStore.Advances snapshot after.snapshotStore
  trace : after.trace =
    before.trace ++ [.committed { operation, snapshot := after.snapshotStore.current }]

variable (snapshot : PolicySnapshot)

theorem commit_effect :
    (state.snapshotStore.Takes snapshot ∧
        Commits state (state.commit operation snapshot).1 operation snapshot) ∨
      (¬ state.snapshotStore.Takes snapshot ∧
        Quiet state (state.commit operation snapshot).1) := by
  rw [← PolicySnapshotStore.commit_applied_iff]
  unfold commit
  rcases state.snapshotStore.commit_cases snapshot with
    ⟨happlied, hadvances⟩ | ⟨hrefused, hcurrent, hlookup⟩
  · exact Or.inl ⟨happlied, hadvances, by simp [happlied]⟩
  · exact Or.inr ⟨by simp [hrefused], hcurrent, hlookup, [], by simp [hrefused], rfl⟩

theorem act_commits
    (h : phase.pendingCommit = some (operation, snapshot)) :
    (act call state phase).1.1 = (state.commit operation snapshot).1 := by
  cases phase with
  | loadBuilt bundle nextSnapshot =>
    cases h
    change (state.loadCommit bundle snapshot).1.1 = _
    unfold loadCommit
    dsimp only
    split <;> rfl
  | applyBuilt patchCall nextSnapshot =>
    cases h
    change (state.applyCommit patchCall snapshot).1.1 = _
    unfold applyCommit
    dsimp only
    split <;> rfl
  | rollbackBuilt snapshotId targetSnapshot nextSnapshot =>
    cases h
    change (state.rollbackCommit snapshotId targetSnapshot snapshot).1.1 = _
    unfold rollbackCommit
    dsimp only
    split <;> rfl
  | _ => simp [PolicyPhase.pendingCommit] at h

/-- Where a thread is after its commit. -/
inductive AfterCommit (applied : Bool) : PolicyPhase → Prop
  | committed (rules : List PolicyRuleDescriptor) (result : PolicyOpResult)
      (happlied : applied = true) : AfterCommit applied (.committed rules result)
  | failed (result : PolicyOpResult) : AfterCommit applied (.applyFailed result)
  | idle : AfterCommit applied .idle

theorem act_afterCommit
    (h : phase.pendingCommit = some (operation, snapshot)) :
    AfterCommit (state.commit operation snapshot).2.applied
      (act call state phase).1.2 := by
  cases phase with
  | loadBuilt bundle nextSnapshot =>
    cases h
    change AfterCommit _ (state.loadCommit bundle snapshot).1.2
    unfold loadCommit
    dsimp only
    split
    · next happlied => exact .committed _ _ happlied
    · exact .idle
  | applyBuilt patchCall nextSnapshot =>
    cases h
    change AfterCommit _ (state.applyCommit patchCall snapshot).1.2
    unfold applyCommit
    dsimp only
    split
    · next happlied => exact .committed _ _ happlied
    · exact .failed _
  | rollbackBuilt snapshotId targetSnapshot nextSnapshot =>
    cases h
    change AfterCommit _ (state.rollbackCommit snapshotId targetSnapshot snapshot).1.2
    unfold rollbackCommit
    dsimp only
    split
    · next happlied => exact .committed _ _ happlied
    · exact .idle
  | _ => simp [PolicyPhase.pendingCommit] at h

theorem start_quiet :
    Quiet state (state.start call).1.1 := by
  cases call with
  | loadPolicy bundle =>
    change Quiet state (state.loadStart bundle).1.1
    unfold loadStart
    dsimp only
    split
    · exact Quiet.refl state
    · split <;> exact Quiet.refl state
  | dryRunPatch patch =>
    change Quiet state (state.dryRunRead patch).1.1
    unfold dryRunRead
    split <;> exact Quiet.refl state
  | applyPatch patch =>
    change Quiet state (state.applyGate patch).1.1
    unfold applyGate
    split
    · exact Quiet.refl state
    · split
      · exact quiet_of_manager state _
      · exact Quiet.refl state
  | rollback snapshotId =>
    change Quiet state (state.rollbackStart snapshotId).1.1
    unfold rollbackStart
    dsimp only
    split <;> exact Quiet.refl state
  | injectCommitFailure reason => exact ⟨rfl, rfl, [], (List.append_nil _).symm, rfl⟩

theorem rememberDryRun_quiet (caller : DryRunCaller) :
    Quiet state (state.rememberDryRun patch caller) :=
  ⟨rfl, rfl, [.dryRunPassed patch caller], rfl, rfl⟩

theorem act_quiet
    (h : phase.pendingCommit = none) : Quiet state (act call state phase).1.1 := by
  cases phase with
  | idle => exact start_quiet call state
  | loadResolved bundle => exact Quiet.refl state
  | loadBuilt bundle nextSnapshot => simp [PolicyPhase.pendingCommit] at h
  | dryRunPassed patch warnings => exact rememberDryRun_quiet state patch .dryRunPatch
  | applyAdmitted patch dryRunRequired entered =>
    change Quiet state (state.applyDryRunRead patch dryRunRequired entered).1.1
    unfold applyDryRunRead
    split <;> exact Quiet.refl state
  | applyDryRunPassed patchCall =>
    exact rememberDryRun_quiet state patchCall.patch (.applyPatch patchCall.dryRunRequired)
  | applyValidated patchCall =>
    change Quiet state (state.applyReread patchCall).1.1
    unfold applyReread
    dsimp only
    split <;> exact Quiet.refl state
  | applyBuilt patchCall nextSnapshot => simp [PolicyPhase.pendingCommit] at h
  | applyFailed result => exact quiet_of_manager state _
  | rollbackFound snapshotId targetSnapshot => exact Quiet.refl state
  | rollbackBuilt snapshotId targetSnapshot nextSnapshot =>
    simp [PolicyPhase.pendingCommit] at h
  | committed rules result => exact quiet_of_manager state _

/-- What one action does to the store: the commit of its phase, where the store takes it, or
nothing. -/
theorem act_effect :
    (∃ operation snapshot, phase.pendingCommit = some (operation, snapshot) ∧
        state.snapshotStore.Takes snapshot ∧
        Commits state (act call state phase).1.1 operation snapshot) ∨
      ((∀ operation snapshot, phase.pendingCommit = some (operation, snapshot) →
          ¬ state.snapshotStore.Takes snapshot) ∧
        Quiet state (act call state phase).1.1) := by
  cases hpending : phase.pendingCommit with
  | none => exact Or.inr ⟨nofun, act_quiet call state phase hpending⟩
  | some pending =>
    obtain ⟨operation, snapshot⟩ := pending
    rw [act_commits call state phase operation snapshot hpending]
    rcases commit_effect state operation snapshot with ⟨htakes, hcommits⟩ | ⟨hrefuses, hquiet⟩
    · exact Or.inl ⟨operation, snapshot, rfl, htakes, hcommits⟩
    · refine Or.inr ⟨fun other next hsame => ?_, hquiet⟩
      cases hsame
      exact hrefuses

/-! ## What an action keeps of the other threads -/

structure Grows (before after : PolicyState) : Prop where
  trace : ∃ more, after.trace = before.trace ++ more
  current : after.snapshotStore.current = before.snapshotStore.current ∨
    after.snapshotStore.current.isValid = true ∧
      (before.snapshotStore.current.isValid = true →
        before.snapshotStore.current.generation < after.snapshotStore.current.generation)

theorem act_grows :
    Grows state (act call state phase).1.1 := by
  rcases act_effect call state phase with ⟨operation, snapshot, -, -, hcommits⟩ | ⟨-, hquiet⟩
  · refine ⟨⟨_, hcommits.trace⟩, Or.inr ?_⟩
    rw [hcommits.advances.current, PolicySnapshotStore.normalizeSnapshot_generation]
    exact ⟨hcommits.advances.valid, hcommits.advances.later⟩
  · obtain ⟨more, hmore, -⟩ := hquiet.trace
    exact ⟨⟨more, hmore⟩, Or.inl hquiet.current⟩

theorem ReadBase.grows {call : PatchCall}
    (h : ReadBase before.trace call) (hgrows : Grows before after) :
    ReadBase after.trace call := by
  obtain ⟨more, hmore⟩ := hgrows.trace
  have htake : after.trace.take call.read = before.trace.take call.read := by
    rw [hmore, List.take_append_of_le_length h.read]
  refine ⟨?_, by rw [htake]; exact h.valid, by rw [htake]; exact h.base⟩
  have hread := h.read
  rw [hmore, List.length_append]
  omega

theorem Reached.grows {snapshot : PolicySnapshot}
    (h : Reached before snapshot) (hgrows : Grows before after) : Reached after snapshot := by
  refine ⟨h.valid, ?_⟩
  rcases hgrows.current with hsame | ⟨hafter, hlater⟩
  · rw [hsame]
    exact h.reached
  · rcases h.reached with hcurrent | ⟨hvalid, hearlier⟩
    · rw [← hcurrent] at hlater
      exact Or.inr ⟨hafter, hlater h.valid⟩
    · exact Or.inr ⟨hafter, UInt64.lt_trans hearlier (hlater hvalid)⟩

theorem Stands.grows {phase : PolicyPhase} (h : Stands before phase)
    (hgrows : Grows before after) : Stands after phase := by
  cases phase with
  | applyDryRunPassed call => exact ReadBase.grows h hgrows
  | applyValidated call => exact ReadBase.grows h hgrows
  | applyBuilt call nextSnapshot =>
    obtain ⟨hread, base, hreached, hresolved, hnext⟩ := h
    exact ⟨hread.grows hgrows, base, hreached.grows hgrows, hresolved, hnext⟩
  | _ => exact h

/-! ## What an action keeps of its own thread -/

theorem nextGeneration_of_valid (h : snapshot.isValid = true) :
    nextGeneration snapshot = snapshot.generation + 1 := if_pos h

theorem patchSnapshot_generation (patch : PolicyPatch) :
    (patchSnapshot snapshot patch).generation = nextGeneration snapshot := rfl

theorem Reached.current_of_later {state : PolicyState} {snapshot : PolicySnapshot}
    (h : Reached state snapshot) (patch : PolicyPatch)
    (hlater : state.snapshotStore.current.isValid = true →
      state.snapshotStore.current.generation < (patchSnapshot snapshot patch).generation) :
    snapshot = state.snapshotStore.current := by
  rcases h.reached with hcurrent | ⟨hvalid, hearlier⟩
  · exact hcurrent
  · have hnext := hlater hvalid
    rw [patchSnapshot_generation, nextGeneration_of_valid _ h.valid] at hnext
    rw [UInt64.lt_iff_toNat_lt] at hnext hearlier
    rw [UInt64.toNat_add, UInt64.toNat_one] at hnext
    omega

theorem snapshotId_ne_nil {snapshot : PolicySnapshot} (h : snapshot.isValid = true) :
    snapshot.snapshotId ≠ [] := by
  unfold PolicySnapshot.isValid at h
  simp only [Bool.and_eq_true, decide_eq_true_eq] at h
  exact h.1.1.1.1.1.1.1

theorem normalizeSnapshot_patchSnapshot (store : PolicySnapshotStore) (snapshot : PolicySnapshot)
    (patch : PolicyPatch) (h : snapshot.isValid = true) :
    store.normalizeSnapshot (patchSnapshot snapshot patch) = patchSnapshot snapshot patch := by
  refine store.normalizeSnapshot_of_ref _ ?_
  change (if snapshot.isValid then snapshot.snapshotId else []) ≠ []
  rw [if_pos h]
  exact snapshotId_ne_nil h

theorem follows_of_commits {state after : PolicyState} {phase : PolicyPhase}
    {operation : PolicyOperation} {snapshot : PolicySnapshot} (hrecorded : Recorded state)
    (hstands : Stands state phase) (hpending : phase.pendingCommit = some (operation, snapshot))
    (hcommits : Commits state after operation snapshot) :
    Follows (lastSnapshot (commits state.trace))
      { operation, snapshot := after.snapshotStore.current } := by
  rw [← hrecorded.current, hcommits.advances.current]
  refine ⟨hcommits.advances.valid, ?_, ?_⟩
  · intro hvalid
    dsimp only
    rw [PolicySnapshotStore.normalizeSnapshot_generation]
    exact hcommits.advances.later hvalid
  · cases phase with
    | loadBuilt bundle nextSnapshot =>
      cases hpending
      refine ⟨hstands.1, ?_⟩
      rw [PolicySnapshotStore.normalizeSnapshot_effectiveRules]
      exact hstands.2
    | applyBuilt call nextSnapshot =>
      cases hpending
      obtain ⟨-, base, hreached, hresolved, rfl⟩ := hstands
      have hcurrent := hreached.current_of_later call.patch hcommits.advances.later
      rw [← hcurrent]
      exact ⟨hresolved, hreached.valid,
        normalizeSnapshot_patchSnapshot _ base call.patch hreached.valid⟩
    | rollbackBuilt snapshotId targetSnapshot nextSnapshot =>
      cases hpending
      refine ⟨hstands.1, ?_⟩
      rw [PolicySnapshotStore.normalizeSnapshot_effectiveRules]
      exact hstands.2
    | _ => simp [PolicyPhase.pendingCommit] at hpending

theorem commits_of_quiet (h : Quiet before after) :
    commits after.trace = commits before.trace := by
  obtain ⟨more, hmore, hnone⟩ := h.trace
  rw [hmore, commits_append, hnone, List.append_nil]

theorem commits_of_commits {operation : PolicyOperation}
    {snapshot : PolicySnapshot} (h : Commits before after operation snapshot) :
    commits after.trace =
      commits before.trace ++ [{ operation, snapshot := after.snapshotStore.current }] := by
  rw [h.trace, commits_append]
  rfl

theorem recorded_act (hrecorded : Recorded state) (hstands : Stands state phase) :
    Recorded (act call state phase).1.1 := by
  rcases act_effect call state phase with
    ⟨operation, snapshot, hpending, -, hcommits⟩ | ⟨-, hquiet⟩
  · have hfollows := follows_of_commits hrecorded hstands hpending hcommits
    have hhistory := commits_of_commits hcommits
    refine ⟨?_, ?_, fun snapshotId found hfound => ?_⟩
    · rw [hhistory]
      exact (unbroken_snoc _ _).mpr ⟨hrecorded.history, hfollows⟩
    · rw [hhistory, lastSnapshot_snoc]
    · rcases hcommits.advances.lookup snapshotId found hfound with hnew | hold
      · rw [hnew, ← hcommits.advances.current]
        exact hfollows.scopesApart
      · exact hrecorded.scopes snapshotId found hold
  · have hhistory := commits_of_quiet hquiet
    refine ⟨by rw [hhistory]; exact hrecorded.history, ?_, ?_⟩
    · rw [hquiet.current, hhistory]
      exact hrecorded.current
    · rw [hquiet.lookup]
      exact hrecorded.scopes

theorem stands_start (hrecorded : Recorded state) :
    Stands (state.start call).1.1 (state.start call).1.2 := by
  cases call with
  | loadPolicy bundle =>
    change Stands (state.loadStart bundle).1.1 (state.loadStart bundle).1.2
    unfold loadStart
    dsimp only
    split
    · trivial
    · split
      · trivial
      · next hresolved =>
        change (resolve bundle).resolved = true
        simpa using hresolved
  | dryRunPatch patch =>
    change Stands (state.dryRunRead patch).1.1 (state.dryRunRead patch).1.2
    unfold dryRunRead
    split <;> trivial
  | applyPatch patch =>
    change Stands (state.applyGate patch).1.1 (state.applyGate patch).1.2
    unfold applyGate
    split
    · trivial
    · split <;> trivial
  | rollback snapshotId =>
    change Stands (state.rollbackStart snapshotId).1.1 (state.rollbackStart snapshotId).1.2
    unfold rollbackStart PolicySnapshotStore.getById
    dsimp only
    cases hlookup : state.snapshotStore.snapshotsById.lookup snapshotId with
    | none => trivial
    | some targetSnapshot =>
      split
      · trivial
      · exact hrecorded.scopes snapshotId targetSnapshot hlookup
  | injectCommitFailure reason => trivial

theorem stands_applyDryRunRead (dryRunRequired : Bool)
    (entered : Nat) (hrecorded : Recorded state) :
    Stands (state.applyDryRunRead patch dryRunRequired entered).1.1
      (state.applyDryRunRead patch dryRunRequired entered).1.2 := by
  unfold applyDryRunRead
  split
  · trivial
  · next warnings hchecks =>
    obtain ⟨hvalid, -, hbase⟩ := dryRunChecks_base _ patch warnings hchecks
    rw [hrecorded.current] at hvalid hbase
    refine ⟨le_refl _, ?_, ?_⟩
    · dsimp only
      rw [List.take_length]
      exact hvalid
    · dsimp only
      rw [List.take_length]
      exact hbase.symm

theorem Recorded.current_valid {state : PolicyState} (h : Recorded state) {call : PatchCall}
    (hread : ReadBase state.trace call) : state.snapshotStore.current.isValid = true := by
  rw [h.current]
  refine h.history.valid fun hnone => ?_
  have hvalid := hread.valid
  rw [← List.take_append_drop call.read state.trace, commits_append, List.append_eq_nil_iff] at hnone
  rw [hnone.1] at hvalid
  simp [lastSnapshot, PolicySnapshot.isValid] at hvalid

theorem AfterCommit.stands {applied : Bool} {phase : PolicyPhase} (h : AfterCommit applied phase)
    (state : PolicyState) : Stands state phase := by
  cases h <;> trivial

theorem stands_act (hrecorded : Recorded state) (hstands : Stands state phase) :
    Stands (act call state phase).1.1 (act call state phase).1.2 := by
  have hgrows := act_grows call state phase
  cases phase with
  | idle => exact stands_start call state hrecorded
  | loadResolved bundle => exact ⟨hstands, rfl⟩
  | loadBuilt bundle nextSnapshot => exact (act_afterCommit call state _ _ _ rfl).stands _
  | dryRunPassed patch warnings => trivial
  | applyAdmitted patch dryRunRequired entered =>
    exact stands_applyDryRunRead state patch dryRunRequired entered hrecorded
  | applyDryRunPassed patchCall => exact ReadBase.grows hstands hgrows
  | applyValidated patchCall =>
    change Stands (state.applyReread patchCall).1.1 (state.applyReread patchCall).1.2
    unfold applyReread
    dsimp only
    split
    · trivial
    · next hresolved =>
      exact ⟨hstands, state.snapshotStore.current,
        ⟨hrecorded.current_valid hstands, Or.inl rfl⟩, by simpa using hresolved, rfl⟩
  | applyBuilt patchCall nextSnapshot => exact (act_afterCommit call state _ _ _ rfl).stands _
  | applyFailed result => trivial
  | rollbackFound snapshotId targetSnapshot => exact ⟨hstands, rfl⟩
  | rollbackBuilt snapshotId targetSnapshot nextSnapshot =>
    exact (act_afterCommit call state _ _ _ rfl).stands _
  | committed rules result => trivial

/-! ## All threads -/

namespace PolicyThreads

def Consistent : PolicyThreads → Prop := Threads.Holds Recorded Stands

theorem consistent_fresh (options : SecurityPolicyManagerOptions) (maxHistorySnapshots : Nat) :
    Consistent (fresh options maxHistorySnapshots) :=
  ⟨⟨trivial, rfl, nofun⟩, fun _ => trivial⟩

theorem consistent_step (s : PolicyThreads) (action : PolicyAction) (h : Consistent s) :
    Consistent (step s action).1 := by
  refine Threads.holds_step act Recorded Stands s action h ⟨?_, ?_⟩ fun phase hphase => ?_
  · exact recorded_act _ _ _ h.shared (h.locals action.1)
  · exact stands_act _ _ _ h.shared (h.locals action.1)
  · exact hphase.grows (act_grows ..)

theorem consistent_run (options : SecurityPolicyManagerOptions) (maxHistorySnapshots : Nat)
    (schedule : List PolicyAction) :
    Consistent (run step (fresh options maxHistorySnapshots) schedule).1 :=
  invariant_run step Consistent consistent_step _ schedule
    (consistent_fresh options maxHistorySnapshots)

end PolicyThreads

/-!
## Optimistic concurrency

The base generation of a patch is checked against the snapshot that its dry run reads, and the
patch is applied to the one that a second read finds. It is applied to its base exactly when
nothing was committed between its dry run and its own commit.
-/

namespace PolicyThreads

/-- When the store takes the commit of an `apply_patch`, nothing was committed since its dry run
read the store. -/
def Unraced (s : PolicyThreads) (action : PolicyAction) : Prop :=
  ∀ call nextSnapshot, s.locals action.1 = .applyBuilt call nextSnapshot →
    s.shared.snapshotStore.Takes nextSnapshot → commits (s.shared.trace.drop call.read) = []

/-- The commits of a schedule, from the construction of the manager and its store on. -/
def historyOf (options : SecurityPolicyManagerOptions) (maxHistorySnapshots : Nat)
    (schedule : List PolicyAction) : List PolicyCommit :=
  commits (run step (fresh options maxHistorySnapshots) schedule).1.shared.trace

end PolicyThreads

/-! ## One commit more -/

theorem lastSnapshot_mem (history : List PolicyCommit)
    (hvalid : (lastSnapshot history).isValid = true) :
    ∃ commit ∈ history, commit.snapshot = lastSnapshot history := by
  induction history using List.reverseRecOn with
  | nil => simp [lastSnapshot, PolicySnapshot.isValid] at hvalid
  | append_singleton history commit _ =>
    exact ⟨commit, by simp, (lastSnapshot_snoc history commit).symm⟩

theorem Unbroken.mem_valid {history : List PolicyCommit} (h : Unbroken history)
    {commit : PolicyCommit} (hmem : commit ∈ history) : commit.snapshot.isValid = true := by
  obtain ⟨before, after, rfl⟩ := List.append_of_mem hmem
  exact ((allSteps_append advance Follows {} _ _).mp h).2.1.valid

theorem generation_of_next {first second : PolicySnapshot} (hfirst : first.isValid = true)
    (hsecond : second.isValid = true) (h : nextGeneration first = nextGeneration second) :
    first.generation = second.generation := by
  rw [nextGeneration_of_valid _ hfirst, nextGeneration_of_valid _ hsecond] at h
  exact (UInt64.add_left_inj 1).mp h

/-- A patch of the current snapshot is a patch of its base exactly when nothing was committed
since its dry run read the store. -/
theorem fromBase_iff (trace : List PolicyEvent) (call : PatchCall)
    (hhistory : Unbroken (commits trace)) (hread : ReadBase trace call) :
    FromBase (commits trace)
        { operation := .patch call
          snapshot := patchSnapshot (lastSnapshot (commits trace)) call.patch } ↔
      commits (trace.drop call.read) = [] := by
  have hsplit : commits trace =
      commits (trace.take call.read) ++ commits (trace.drop call.read) := by
    rw [← commits_append, List.take_append_drop]
  have hcurrent : (lastSnapshot (commits trace)).isValid = true := by
    refine hhistory.valid fun hnone => ?_
    have hvalid := hread.valid
    rw [hsplit, List.append_eq_nil_iff] at hnone
    rw [hnone.1] at hvalid
    simp [lastSnapshot, PolicySnapshot.isValid] at hvalid
  constructor
  · intro hbase
    obtain ⟨base, hmem, hgeneration, hsnapshot⟩ := hbase call rfl
    have hnext := congrArg PolicySnapshot.generation hsnapshot
    have hsame := generation_of_next hcurrent (hhistory.mem_valid hmem) hnext
    by_contra hsome
    rw [hsplit] at hhistory
    have hlater := hhistory.later hread.valid hsome
    rw [← hsplit, hread.base, hsame, hgeneration] at hlater
    exact UInt64.lt_irrefl _ hlater
  · intro hnone other hother
    cases hother
    obtain ⟨base, hmem, hlast⟩ := lastSnapshot_mem _ hcurrent
    refine ⟨base, hmem, ?_, by rw [hlast]⟩
    rw [hlast, hsplit, hnone, List.append_nil]
    exact hread.base

namespace PolicyThreads

theorem fromBase_of_not_patch (history : List PolicyCommit) (commit : PolicyCommit)
    (h : ∀ call, commit.operation ≠ .patch call) : FromBase history commit :=
  fun call hcall => absurd hcall (h call)

theorem appliedToBase_step (s : PolicyThreads) (action : PolicyAction) (h : Consistent s) :
    AppliedToBase (commits (step s action).1.shared.trace) ↔
      AppliedToBase (commits s.shared.trace) ∧ Unraced s action := by
  have hstands := h.locals action.1
  have hshared : (step s action).1.shared =
      (act action.2 s.shared (s.locals action.1)).1.1 := rfl
  rw [hshared]
  unfold Unraced
  generalize s.locals action.1 = phase at hstands ⊢
  rcases act_effect action.2 s.shared phase with
    ⟨operation, snapshot, hpending, htakes, hcommits⟩ | ⟨hrefuses, hquiet⟩
  · rw [commits_of_commits hcommits, AppliedToBase, eachAfter_snoc]
    refine and_congr_right fun _ => ?_
    have hfollows := follows_of_commits h.shared hstands hpending hcommits
    generalize (act action.2 s.shared phase).1.1.snapshotStore.current = made
      at hfollows ⊢
    cases phase with
    | applyBuilt call nextSnapshot =>
      cases hpending
      obtain ⟨-, -, rfl⟩ := hfollows.made
      rw [fromBase_iff _ call h.shared.history hstands.1]
      constructor
      · intro hnone other next hphase _
        cases hphase
        exact hnone
      · intro hunraced
        exact hunraced call snapshot rfl htakes
    | loadBuilt bundle nextSnapshot =>
      cases hpending
      exact iff_of_true (fromBase_of_not_patch _ _ nofun) nofun
    | rollbackBuilt snapshotId targetSnapshot nextSnapshot =>
      cases hpending
      exact iff_of_true (fromBase_of_not_patch _ _ nofun) nofun
    | _ => simp [PolicyPhase.pendingCommit] at hpending
  · rw [commits_of_quiet hquiet]
    refine (and_iff_left ?_).symm
    rintro call nextSnapshot rfl htakes
    exact absurd htakes (hrefuses _ _ rfl)

theorem appliedToBase_run (options : SecurityPolicyManagerOptions) (maxHistorySnapshots : Nat)
    (schedule : List PolicyAction) :
    AppliedToBase (historyOf options maxHistorySnapshots schedule) ↔
      AllSteps step Unraced (fresh options maxHistorySnapshots) schedule := by
  induction schedule using List.reverseRecOn with
  | nil => exact iff_of_true (eachAfter_nil FromBase) trivial
  | append_singleton schedule action ih =>
    have hconsistent := consistent_run options maxHistorySnapshots schedule
    unfold historyOf at ih ⊢
    rw [run_snoc, appliedToBase_step _ action hconsistent, ih, allSteps_append]
    simp only [AllSteps, and_true]

end PolicyThreads

/-! ## Main result -/

open PolicyThreads in
/-- Generations always increase and no rule change is lost; every patch is applied to its base
generation exactly when nothing is committed between the dry run of an `apply_patch` and its
commit. -/
theorem patches_applied_to_base_iff (options : SecurityPolicyManagerOptions)
    (maxHistorySnapshots : Nat) (schedule : List PolicyAction) :
    (AppliedToBase (historyOf options maxHistorySnapshots schedule) ∧
        GenerationsIncrease (historyOf options maxHistorySnapshots schedule) ∧
        NothingLost (historyOf options maxHistorySnapshots schedule)) ↔
      AllSteps step Unraced (fresh options maxHistorySnapshots) schedule := by
  have hhistory := (consistent_run options maxHistorySnapshots schedule).shared.history
  rw [appliedToBase_run]
  exact and_iff_left ⟨hhistory.generationsIncrease, hhistory.nothingLost⟩

/-! ## Two patches of one generation -/

def firstPatch : PolicyPatch := samplePatch "patch-1" "manifest:plugin.first"

def secondPatch : PolicyPatch := samplePatch "patch-2" "manifest:plugin.second"

/-- The first patch passes its dry run, then the second is applied, then the first goes on. -/
def racedSchedule : List PolicyAction :=
  List.replicate 4 (0, .loadPolicy sampleBundle) ++
    List.replicate 2 (1, .dryRunPatch firstPatch) ++ List.replicate 2 (1, .applyPatch firstPatch) ++
    List.replicate 2 (2, .dryRunPatch secondPatch) ++
    List.replicate 6 (2, .applyPatch secondPatch) ++ List.replicate 4 (1, .applyPatch firstPatch)

def PolicyOperation.patch? : PolicyOperation → Option PolicyPatch
  | .patch call => some call.patch
  | .load _ | .rollback _ _ => none

theorem racedSchedule_history :
    (PolicyThreads.historyOf {} 16 racedSchedule).map
        (fun commit => (commit.operation.patch?, commit.snapshot.generation)) =
      [(none, 1), (some secondPatch, 2), (some firstPatch, 3)] := by decide +kernel

theorem patch_on_other_base : ¬ AppliedToBase (PolicyThreads.historyOf {} 16 racedSchedule) := by
  intro h
  have hhistory := racedSchedule_history
  obtain ⟨loaded, second, first, hcommits⟩ :
      ∃ loaded second first, PolicyThreads.historyOf {} 16 racedSchedule =
        [loaded, second, first] := by
    have hlength := congrArg List.length hhistory
    rw [List.length_map] at hlength
    exact List.length_eq_three.mp hlength
  rw [hcommits] at h hhistory
  simp only [List.map_cons, List.map_nil, List.cons.injEq, Prod.mk.injEq, and_true] at hhistory
  obtain ⟨⟨-, hloaded⟩, ⟨-, hsecond⟩, hpatch, hfirst⟩ := hhistory
  obtain ⟨call, hcall⟩ : ∃ call, first.operation = .patch call := by
    unfold PolicyOperation.patch? at hpatch
    split at hpatch
    · exact ⟨_, ‹_›⟩
    · cases hpatch
    · cases hpatch
  obtain ⟨base, hbase, hgeneration, hsnapshot⟩ := h [loaded, second] first [] rfl call hcall
  have hmade := congrArg PolicySnapshot.generation hsnapshot
  rw [hcall] at hpatch
  rw [Option.some.inj hpatch] at hgeneration
  have hnext : nextGeneration base.snapshot = 2 ∨ nextGeneration base.snapshot = 1 := by
    unfold nextGeneration
    rw [hgeneration]
    split
    · exact Or.inl rfl
    · exact Or.inr rfl
  rw [hfirst, patchSnapshot_generation] at hmade
  rcases hnext with htwo | hone
  · rw [htwo] at hmade
    simp at hmade
  · rw [hone] at hmade
    simp at hmade

end Dasall.Infra.Policy
