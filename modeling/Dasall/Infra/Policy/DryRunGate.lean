import Dasall.Infra.Policy.Interleaving

/-!
# The dry-run gate

With `dry_run_required` set, `apply_patch` goes on when the last dry run that was remembered has
the id and the base generation of its patch. The trace shows which dry run that was: an explicit
one, unless calls overlap.
-/

open Dasall.Lib Dasall.Lib.Run Dasall.Lib.Text Dasall.Lib.Trace

namespace Dasall.Infra.Policy

/-- What the manager remembers of a dry run is the same for the two patches. -/
def SameIdentity (dryRun patch : PolicyPatch) : Prop :=
  dryRun.patchId = patch.patchId ∧ dryRun.baseGeneration = patch.baseGeneration

/-- Before the call was entered, a dry run passed that counts, and nothing was committed between
it and the read of the call's own dry run. -/
def DryRunBefore (counts : PolicyPatch → DryRunCaller → Prop) (trace : List PolicyEvent)
    (call : PatchCall) : Prop :=
  ∃ before dryRun caller between after,
    trace = before ++ .dryRunPassed dryRun caller :: (between ++ after) ∧
      before.length < call.entered ∧ call.entered ≤ call.read ∧
      call.read = before.length + 1 + between.length ∧ commits between = [] ∧
      counts dryRun caller

/-- Every patch that was committed by an `apply_patch` entered with `dry_run_required` set had such
a dry run. -/
def Gated (counts : PolicyPatch → PolicyPatch → DryRunCaller → Prop) (trace : List PolicyEvent) :
    Prop :=
  ∀ commit ∈ commits trace, ∀ call, commit.operation = .patch call → call.dryRunRequired = true →
    DryRunBefore (counts call.patch) trace call

/-- A dry run of the same id and base generation, other than that of an `apply_patch` which itself
needed one. -/
def Admits (patch dryRun : PolicyPatch) (caller : DryRunCaller) : Prop :=
  SameIdentity dryRun patch ∧ caller ≠ .applyPatch true

def AdmitsExplicit (patch dryRun : PolicyPatch) (caller : DryRunCaller) : Prop :=
  SameIdentity dryRun patch ∧ caller = .dryRunPatch

/-! ## Dry runs in the trace -/

def DryRan (counts : PolicyPatch → DryRunCaller → Prop) (trace : List PolicyEvent) : Prop :=
  ∃ dryRun caller, .dryRunPassed dryRun caller ∈ trace ∧ counts dryRun caller

variable {counts : PolicyPatch → DryRunCaller → Prop} (call : PolicyCall) {before : PolicyState}
  {trace : List PolicyEvent} (state : PolicyState) {after : PolicyState} {patch : PolicyPatch}

theorem DryRan.append
    (h : DryRan counts trace) (more : List PolicyEvent) : DryRan counts (trace ++ more) := by
  obtain ⟨dryRun, caller, hmem, hcounts⟩ := h
  exact ⟨dryRun, caller, List.mem_append_left _ hmem, hcounts⟩

theorem DryRunBefore.append {call : PatchCall} (h : DryRunBefore counts trace call)
    (more : List PolicyEvent) : DryRunBefore counts (trace ++ more) call := by
  obtain ⟨before, dryRun, caller, between, after, rfl, hrest⟩ := h
  exact ⟨before, dryRun, caller, between, after ++ more, by simp, hrest⟩

/-- The snapshot is valid, and of the base generation of the patch or a later one. -/
def NotBefore (patch : PolicyPatch) (snapshot : PolicySnapshot) : Prop :=
  snapshot.isValid = true ∧ patch.baseGeneration ≤ snapshot.generation

/-- Where a dry run was remembered, the snapshot was not before its base. -/
def DatedEvent (before : List PolicyEvent) : PolicyEvent → Prop
  | .dryRunPassed patch _ => NotBefore patch (lastSnapshot (commits before))
  | .committed _ => True

def Dated (trace : List PolicyEvent) : Prop := EachAfter DatedEvent trace

theorem unbroken_of_append {first second : List PolicyEvent}
    (h : Unbroken (commits (first ++ second))) : Unbroken (commits first) := by
  rw [commits_append] at h
  exact ((allSteps_append advance Follows {} _ _).mp h).1

/-- Nothing can be committed between a dry run and a read that still finds its base generation. -/
theorem commits_between_nil {before between : List PolicyEvent} {dryRun patch : PolicyPatch}
    {caller : DryRunCaller}
    (hhistory : Unbroken (commits (before ++ .dryRunPassed dryRun caller :: between)))
    (hdated : NotBefore dryRun (lastSnapshot (commits before)))
    (hsame : SameIdentity dryRun patch)
    (hbase : (lastSnapshot (commits (before ++ .dryRunPassed dryRun caller :: between))).generation =
      patch.baseGeneration) : commits between = [] := by
  have hcommits : commits (before ++ .dryRunPassed dryRun caller :: between) =
      commits before ++ commits between := by
    rw [commits_append]
    rfl
  rw [hcommits] at hhistory hbase
  by_contra hsome
  have hlater := hhistory.later hdated.1 hsome
  have hnot := hdated.2
  rw [hbase, ← hsame.2] at hlater
  exact UInt64.lt_irrefl _ (UInt64.lt_of_le_of_lt hnot hlater)

/-- The dry run that a call was admitted for is one with no commit before the call's read. -/
theorem dryRunBefore_of_read {call : PatchCall} (hhistory : Unbroken (commits trace))
    (hdated : Dated trace) (hread : ReadBase trace call) (hentered : call.entered ≤ call.read)
    (hran : DryRan counts (trace.take call.entered))
    (hcounts : ∀ dryRun caller, counts dryRun caller → SameIdentity dryRun call.patch) :
    DryRunBefore counts trace call := by
  obtain ⟨dryRun, caller, hmem, hcounted⟩ := hran
  obtain ⟨before, rest, hsplit⟩ := List.append_of_mem hmem
  obtain ⟨gap, hgap⟩ : ∃ gap, trace.take call.read = trace.take call.entered ++ gap := by
    refine ⟨(trace.take call.read).drop call.entered, ?_⟩
    rw [← Nat.min_eq_left hentered, ← List.take_take, Nat.min_eq_left hentered,
      List.take_append_drop]
  obtain ⟨later, hlater⟩ : ∃ later, trace = trace.take call.read ++ later :=
    ⟨_, (List.take_append_drop _ _).symm⟩
  have hpast : trace.take call.read =
      before ++ .dryRunPassed dryRun caller :: (rest ++ gap) := by
    rw [hgap, hsplit]
    simp
  have hwhole : trace = before ++ .dryRunPassed dryRun caller :: (rest ++ gap ++ later) := by
    rw [hpast] at hlater
    rw [hlater]
    simp
  have hentry := congrArg List.length hsplit
  have hpastLength := congrArg List.length hpast
  have hreadLength := hread.read
  simp only [List.length_take, List.length_append, List.length_cons] at hentry hpastLength
  refine ⟨before, dryRun, caller, rest ++ gap, later, hwhole, by omega, hentered, ?_, ?_,
    hcounted⟩
  · rw [List.length_append]
    omega
  · have hbase := hread.base
    rw [hpast] at hbase
    rw [hlater, hpast] at hhistory
    exact commits_between_nil (unbroken_of_append hhistory)
      (hdated before (.dryRunPassed dryRun caller) _ hwhole) (hcounts _ _ hcounted) hbase

/-! ## What an interleaving keeps -/

structure GateRecorded (state : PolicyState) : Prop where
  recorded : Recorded state
  dated : Dated state.trace
  remembered : ∀ patch, state.manager.dryRunMatchesLocked patch = true →
    DryRan (Admits patch) state.trace
  gated : Gated Admits state.trace

/-- A call that needed a dry run had one when it was entered. -/
def Entered (trace : List PolicyEvent) (patch : PolicyPatch) (dryRunRequired : Bool)
    (entered : Nat) : Prop :=
  entered ≤ trace.length ∧
    (dryRunRequired = true → DryRan (Admits patch) (trace.take entered))

structure CallEntered (trace : List PolicyEvent) (call : PatchCall) : Prop where
  entered : Entered trace call.patch call.dryRunRequired call.entered
  read : call.entered ≤ call.read

def GateStands (state : PolicyState) : PolicyPhase → Prop
  | .dryRunPassed patch _ => NotBefore patch state.snapshotStore.current
  | .applyAdmitted patch dryRunRequired entered => Entered state.trace patch dryRunRequired entered
  | .applyDryRunPassed call | .applyValidated call | .applyBuilt call _ =>
    CallEntered state.trace call
  | _ => True

theorem NotBefore.grows
    (h : NotBefore patch before.snapshotStore.current) (hgrows : Grows before after) :
    NotBefore patch after.snapshotStore.current := by
  rcases hgrows.current with hsame | ⟨hvalid, hlater⟩
  · rw [hsame]
    exact h
  · exact ⟨hvalid, UInt64.le_trans h.2 (UInt64.le_of_lt (hlater h.1))⟩

theorem Entered.append {dryRunRequired : Bool}
    {entered : Nat} (h : Entered trace patch dryRunRequired entered) (more : List PolicyEvent) :
    Entered (trace ++ more) patch dryRunRequired entered := by
  refine ⟨?_, fun hrequired => ?_⟩
  · have hle := h.1
    rw [List.length_append]
    omega
  · rw [List.take_append_of_le_length h.1]
    exact h.2 hrequired

theorem GateStands.grows {phase : PolicyPhase}
    (h : GateStands before phase) (hgrows : Grows before after) : GateStands after phase := by
  obtain ⟨more, hmore⟩ := hgrows.trace
  unfold GateStands at h ⊢
  cases phase with
  | dryRunPassed patch warnings => exact NotBefore.grows h hgrows
  | applyAdmitted patch dryRunRequired entered =>
    rw [hmore]
    exact Entered.append h more
  | applyDryRunPassed call | applyValidated call | applyBuilt call nextSnapshot =>
    rw [hmore]
    exact ⟨h.entered.append more, h.read⟩
  | _ => trivial

/-- The trace is as it was, and no other dry run is remembered. -/
structure Still (before after : PolicyState) : Prop where
  trace : after.trace = before.trace
  remembered : ∀ patch, after.manager.dryRunMatchesLocked patch = true →
    before.manager.dryRunMatchesLocked patch = true

theorem Still.refl : Still state state := ⟨rfl, fun _ h => h⟩

theorem GateRecorded.still (h : GateRecorded before)
    (hstill : Still before after) (hrecorded : Recorded after) : GateRecorded after := by
  refine ⟨hrecorded, ?_, fun patch hmatches => ?_, ?_⟩
  · rw [hstill.trace]
    exact h.dated
  · rw [hstill.trace]
    exact h.remembered patch (hstill.remembered patch hmatches)
  · rw [hstill.trace]
    exact h.gated

theorem gated_append_dryRun (h : Gated Admits trace)
    (patch : PolicyPatch) (caller : DryRunCaller) :
    Gated Admits (trace ++ [.dryRunPassed patch caller]) := by
  intro commit hmem call hcall hrequired
  rw [commits_append, List.mem_append] at hmem
  rcases hmem with hold | hnew
  · exact (h commit hold call hcall hrequired).append _
  · simp [commits, PolicyEvent.commit?] at hnew

/-- A dry run is remembered: an explicit one, or one of a call that was admitted. -/
theorem GateRecorded.rememberDryRun {state : PolicyState} (h : GateRecorded state)
    (patch : PolicyPatch) (caller : DryRunCaller)
    (hbase : NotBefore patch state.snapshotStore.current)
    (hcaller : caller = .applyPatch true → DryRan (Admits patch) state.trace)
    (hrecorded : Recorded (state.rememberDryRun patch caller)) :
    GateRecorded (state.rememberDryRun patch caller) := by
  refine ⟨hrecorded, ?_, fun other hmatches => ?_, gated_append_dryRun h.gated patch caller⟩
  · refine (eachAfter_snoc ..).mpr ⟨h.dated, ?_⟩
    change NotBefore patch _
    rw [← h.recorded.current]
    exact hbase
  · have hsame : SameIdentity patch other := by
      unfold PolicyState.rememberDryRun SecurityPolicyManager.rememberDryRunLocked
        SecurityPolicyManager.dryRunMatchesLocked at hmatches
      simp only [Bool.and_eq_true, decide_eq_true_eq] at hmatches
      exact ⟨hmatches.1.2, hmatches.2⟩
    by_cases hinner : caller = .applyPatch true
    · obtain ⟨dryRun, earlier, hmem, hadmits⟩ := hcaller hinner
      refine ⟨dryRun, earlier, List.mem_append_left _ hmem, ⟨?_, ?_⟩, hadmits.2⟩
      · rw [hadmits.1.1, hsame.1]
      · rw [hadmits.1.2, hsame.2]
    · exact ⟨patch, caller, List.mem_append_right _ List.mem_cons_self, hsame, hinner⟩

theorem GateRecorded.commits {state after : PolicyState} {phase : PolicyPhase}
    {operation : PolicyOperation} {snapshot : PolicySnapshot} (h : GateRecorded state)
    (hstands : Stands state phase) (hgate : GateStands state phase)
    (hpending : phase.pendingCommit = some (operation, snapshot))
    (hcommits : Commits state after operation snapshot) (hmanager : after.manager = state.manager)
    (hrecorded : Recorded after) : GateRecorded after := by
  refine ⟨hrecorded, ?_, fun patch hmatches => ?_, fun commit hmem call hcall hrequired => ?_⟩
  · rw [hcommits.trace]
    exact (eachAfter_snoc ..).mpr ⟨h.dated, trivial⟩
  · rw [hcommits.trace]
    rw [hmanager] at hmatches
    exact (h.remembered patch hmatches).append _
  · rw [commits_of_commits hcommits, List.mem_append, List.mem_singleton] at hmem
    rw [hcommits.trace]
    apply DryRunBefore.append
    rcases hmem with hold | rfl
    · exact h.gated commit hold call hcall hrequired
    · cases hcall
      obtain rfl := PolicyPhase.pendingCommit_patch hpending
      exact dryRunBefore_of_read h.recorded.history h.dated hstands.1 hgate.read
        (hgate.entered.2 hrequired) fun _ _ hadmits => hadmits.1

/-! ## One action -/

theorem notePatchFailure_still :
    Still state { state with manager := state.manager.notePatchFailureLocked } :=
  ⟨rfl, fun _ h => h⟩

theorem settle_still (rules : List PolicyRuleDescriptor)
    (result : PolicyOpResult) : Still state (state.settle rules result).1.1 := by
  refine ⟨rfl, fun patch hmatches => ?_⟩
  change (state.manager.settleCommitLocked rules).1.dryRunMatchesLocked patch = true at hmatches
  have hsync : ∀ manager : SecurityPolicyManager,
      (manager.syncDryRunRequired rules).dryRunMatchesLocked patch =
        manager.dryRunMatchesLocked patch := by
    intro manager
    unfold SecurityPolicyManager.syncDryRunRequired
    split <;> rfl
  unfold SecurityPolicyManager.settleCommitLocked at hmatches
  dsimp only at hmatches
  split at hmatches
  · rwa [hsync] at hmatches
  · simp [SecurityPolicyManager.clearDryRunLocked, SecurityPolicyManager.dryRunMatchesLocked]
      at hmatches

theorem start_still :
    Still state (state.start call).1.1 := by
  cases call with
  | loadPolicy bundle =>
    change Still state (state.loadStart bundle).1.1
    unfold PolicyState.loadStart
    dsimp only
    split
    · exact Still.refl state
    · split <;> exact Still.refl state
  | dryRunPatch patch =>
    change Still state (state.dryRunRead patch).1.1
    unfold PolicyState.dryRunRead
    split <;> exact Still.refl state
  | applyPatch patch =>
    change Still state (state.applyGate patch).1.1
    unfold PolicyState.applyGate
    split
    · exact Still.refl state
    · split
      · exact notePatchFailure_still state
      · exact Still.refl state
  | rollback snapshotId =>
    change Still state (state.rollbackStart snapshotId).1.1
    unfold PolicyState.rollbackStart
    dsimp only
    split <;> exact Still.refl state
  | injectCommitFailure reason => exact ⟨rfl, fun _ h => h⟩

theorem commit_still (operation : PolicyOperation)
    (snapshot : PolicySnapshot) (h : ¬ state.snapshotStore.Takes snapshot) :
    Still state (state.commit operation snapshot).1 := by
  rw [← PolicySnapshotStore.commit_applied_iff] at h
  unfold PolicyState.commit
  exact ⟨by simp [h], fun _ hmatches => hmatches⟩

theorem notBefore_of_readBase {state : PolicyState} {call : PatchCall} (h : Recorded state)
    (hread : ReadBase state.trace call) : NotBefore call.patch state.snapshotStore.current := by
  refine ⟨h.current_valid hread, ?_⟩
  have hhistory := h.history
  rw [h.current, ← hread.base]
  rw [← List.take_append_drop call.read state.trace, commits_append] at hhistory ⊢
  by_cases hnone : commits (state.trace.drop call.read) = []
  · rw [hnone, List.append_nil, List.take_append_drop]
    exact UInt64.le_refl _
  · rw [List.take_append_drop]
    exact UInt64.le_of_lt (hhistory.later hread.valid hnone)

theorem gateRecorded_commit {state : PolicyState} {phase : PolicyPhase}
    {operation : PolicyOperation} {snapshot : PolicySnapshot} (h : GateRecorded state)
    (hstands : Stands state phase) (hgate : GateStands state phase)
    (hpending : phase.pendingCommit = some (operation, snapshot))
    (hrecorded : Recorded (state.commit operation snapshot).1) :
    GateRecorded (state.commit operation snapshot).1 := by
  rcases commit_effect state operation snapshot with ⟨-, hcommits⟩ | ⟨hrefuses, -⟩
  · exact h.commits hstands hgate hpending hcommits rfl hrecorded
  · exact h.still (commit_still state operation snapshot hrefuses) hrecorded

theorem gateRecorded_act (phase : PolicyPhase)
    (h : GateRecorded state) (hstands : Stands state phase) (hgate : GateStands state phase) :
    GateRecorded (PolicyState.act call state phase).1.1 := by
  have hrecorded := recorded_act call state phase h.recorded hstands
  have hpending := act_commits call state phase
  cases phase with
  | idle => exact h.still (start_still call state) hrecorded
  | loadResolved bundle => exact h
  | loadBuilt bundle nextSnapshot =>
    rw [hpending _ _ rfl] at hrecorded ⊢
    exact gateRecorded_commit h hstands hgate rfl hrecorded
  | dryRunPassed patch warnings => exact h.rememberDryRun patch .dryRunPatch hgate nofun hrecorded
  | applyAdmitted patch dryRunRequired entered =>
    refine h.still ?_ hrecorded
    change Still state (state.applyDryRunRead patch dryRunRequired entered).1.1
    unfold PolicyState.applyDryRunRead
    split <;> exact Still.refl state
  | applyDryRunPassed patchCall =>
    refine h.rememberDryRun patchCall.patch _ (notBefore_of_readBase h.recorded hstands)
      (fun hcaller => ?_) hrecorded
    have hran := hgate.entered.2 (DryRunCaller.applyPatch.inj hcaller)
    have hwhole := hran.append (state.trace.drop patchCall.entered)
    rwa [List.take_append_drop] at hwhole
  | applyValidated patchCall =>
    refine h.still ?_ hrecorded
    change Still state (state.applyReread patchCall).1.1
    unfold PolicyState.applyReread
    dsimp only
    split <;> exact Still.refl state
  | applyBuilt patchCall nextSnapshot =>
    rw [hpending _ _ rfl] at hrecorded ⊢
    exact gateRecorded_commit h hstands hgate rfl hrecorded
  | applyFailed result => exact h.still (notePatchFailure_still state) hrecorded
  | rollbackFound snapshotId targetSnapshot => exact h
  | rollbackBuilt snapshotId targetSnapshot nextSnapshot =>
    rw [hpending _ _ rfl] at hrecorded ⊢
    exact gateRecorded_commit h hstands hgate rfl hrecorded
  | committed rules result => exact h.still (settle_still state rules result) hrecorded

theorem gateStands_start (h : GateRecorded state) :
    GateStands (state.start call).1.1 (state.start call).1.2 := by
  cases call with
  | loadPolicy bundle =>
    change GateStands (state.loadStart bundle).1.1 (state.loadStart bundle).1.2
    unfold PolicyState.loadStart
    dsimp only
    split
    · trivial
    · split <;> trivial
  | dryRunPatch patch =>
    change GateStands (state.dryRunRead patch).1.1 (state.dryRunRead patch).1.2
    unfold PolicyState.dryRunRead
    split
    · trivial
    · next warnings hchecks =>
      obtain ⟨hvalid, -, hbase⟩ := dryRunChecks_base _ patch warnings hchecks
      exact ⟨hvalid, by rw [hbase]; exact UInt64.le_refl _⟩
  | applyPatch patch =>
    change GateStands (state.applyGate patch).1.1 (state.applyGate patch).1.2
    unfold PolicyState.applyGate
    split
    · trivial
    split
    · trivial
    · next hgate =>
      refine ⟨le_refl _, fun hrequired => ?_⟩
      rw [List.take_length]
      rw [hrequired] at hgate
      exact h.remembered patch (by simpa using hgate)
  | rollback snapshotId =>
    change GateStands (state.rollbackStart snapshotId).1.1 (state.rollbackStart snapshotId).1.2
    unfold PolicyState.rollbackStart
    dsimp only
    split <;> trivial
  | injectCommitFailure reason => trivial

theorem AfterCommit.gateStands {applied : Bool} {phase : PolicyPhase}
    (h : AfterCommit applied phase) (state : PolicyState) : GateStands state phase := by
  cases h <;> trivial

theorem gateStands_act (phase : PolicyPhase)
    (h : GateRecorded state) (hgate : GateStands state phase) :
    GateStands (PolicyState.act call state phase).1.1 (PolicyState.act call state phase).1.2 := by
  have hgrows := act_grows call state phase
  cases phase with
  | idle => exact gateStands_start call state h
  | loadBuilt bundle nextSnapshot => exact (act_afterCommit call state _ _ _ rfl).gateStands _
  | applyAdmitted patch dryRunRequired entered =>
    change GateStands (state.applyDryRunRead patch dryRunRequired entered).1.1
      (state.applyDryRunRead patch dryRunRequired entered).1.2
    unfold PolicyState.applyDryRunRead
    split
    · trivial
    · exact ⟨hgate, hgate.1⟩
  | applyDryRunPassed patchCall =>
    exact @GateStands.grows _ _ (.applyValidated patchCall) hgate hgrows
  | applyValidated patchCall =>
    change GateStands (state.applyReread patchCall).1.1 (state.applyReread patchCall).1.2
    unfold PolicyState.applyReread
    dsimp only
    split
    · trivial
    · exact hgate
  | applyBuilt patchCall nextSnapshot => exact (act_afterCommit call state _ _ _ rfl).gateStands _
  | rollbackBuilt snapshotId targetSnapshot nextSnapshot =>
    exact (act_afterCommit call state _ _ _ rfl).gateStands _
  | _ => trivial

namespace PolicyThreads

def GateConsistent : PolicyThreads → Prop :=
  Threads.Holds GateRecorded fun state phase => Stands state phase ∧ GateStands state phase

theorem gateConsistent_fresh (options : SecurityPolicyManagerOptions) (maxHistorySnapshots : Nat) :
    GateConsistent (fresh options maxHistorySnapshots) :=
  ⟨⟨(consistent_fresh options maxHistorySnapshots).shared, eachAfter_nil _, nofun, nofun⟩,
    fun _ => ⟨trivial, trivial⟩⟩

theorem gateConsistent_step (s : PolicyThreads) (action : PolicyAction) (h : GateConsistent s) :
    GateConsistent (step s action).1 := by
  obtain ⟨hstands, hgate⟩ := h.locals action.1
  refine Threads.holds_step PolicyState.act _ _ s action h ⟨?_, ?_, ?_⟩ fun phase hphase => ?_
  · exact gateRecorded_act _ _ _ h.shared hstands hgate
  · exact stands_act _ _ _ h.shared.recorded hstands
  · exact gateStands_act _ _ _ h.shared hgate
  · have hgrows := act_grows action.2 s.shared (s.locals action.1)
    exact ⟨hphase.1.grows hgrows, hphase.2.grows hgrows⟩

theorem gateConsistent_run (options : SecurityPolicyManagerOptions) (maxHistorySnapshots : Nat)
    (schedule : List PolicyAction) :
    GateConsistent (run step (fresh options maxHistorySnapshots) schedule).1 :=
  invariant_run step GateConsistent gateConsistent_step _ schedule
    (gateConsistent_fresh options maxHistorySnapshots)

end PolicyThreads

end Dasall.Infra.Policy
