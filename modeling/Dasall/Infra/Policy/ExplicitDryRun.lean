import Dasall.Infra.Policy.DryRunGate

/-!
# The dry run before an `apply_patch`

A dry run inside an `apply_patch` is remembered too. Where calls do not overlap it opens the gate
for no other patch: one that needed none leaves a dry run behind only while none is required, and
the commit that requires one again has overtaken it.
-/

open Dasall.Lib Dasall.Lib.Run Dasall.Lib.Text Dasall.Lib.Trace

namespace Dasall.Infra.Policy

/-- The dry run of an `apply_patch` that needed none is followed by a commit. -/
def SupersededEvent (event : PolicyEvent) (after : List PolicyEvent) : Prop :=
  ∀ patch, event = .dryRunPassed patch (.applyPatch false) → commits after ≠ []

def Superseded (trace : List PolicyEvent) : Prop := EachBefore SupersededEvent trace

theorem commits_snoc_ne_nil (before : List PolicyEvent) (commit : PolicyCommit) :
    commits (before ++ [.committed commit]) ≠ [] := by
  rw [commits_append]
  exact List.append_ne_nil_of_right_ne_nil _ (List.cons_ne_nil _ _)

theorem superseded_committed (trace : List PolicyEvent) (commit : PolicyCommit) :
    Superseded (trace ++ [.committed commit]) := by
  refine (eachBefore_snoc ..).mpr ⟨fun before event after _ patch _ => ?_, nofun⟩
  exact commits_snoc_ne_nil after commit

variable {trace : List PolicyEvent} (call : PolicyCall) (state : PolicyState)

theorem Superseded.dryRun (h : Superseded trace) (patch : PolicyPatch)
    {caller : DryRunCaller} (hcaller : caller ≠ .applyPatch false) :
    Superseded (trace ++ [.dryRunPassed patch caller]) := by
  refine (eachBefore_snoc ..).mpr ⟨fun before event after hsplit other hother => ?_,
    fun other hother => ?_⟩
  · have hsome := h before event after hsplit other hother
    rw [commits_append]
    exact List.append_ne_nil_of_left_ne_nil hsome _
  · exact absurd (PolicyEvent.dryRunPassed.inj hother).2 hcaller

/-! ## One call at a time -/

/-- A call that was entered with `dry_run_required` set came after every dry run of a call that was
not had been overtaken. -/
def EnteredLate (trace : List PolicyEvent) (dryRunRequired : Bool) (entered : Nat) : Prop :=
  entered ≤ trace.length ∧ (dryRunRequired = true → Superseded (trace.take entered))

/-- The call still finds `dry_run_required` as it was when it was entered, if that was off. -/
structure InProgress (state : PolicyState) (dryRunRequired : Bool) (entered : Nat) : Prop where
  late : EnteredLate state.trace dryRunRequired entered
  off : dryRunRequired = false → state.manager.options.dryRunRequired = false

def SequenceStands (state : PolicyState) : PolicyPhase → Prop
  | .applyAdmitted _ dryRunRequired entered => InProgress state dryRunRequired entered
  | .applyDryRunPassed call | .applyValidated call | .applyBuilt call _ =>
    InProgress state call.dryRunRequired call.entered
  | .committed _ _ => Superseded state.trace
  | _ => True

structure SequenceRecorded (state : PolicyState) : Prop where
  required : state.manager.options.dryRunRequired = false ∨ Superseded state.trace
  entered : ∀ commit ∈ commits state.trace, ∀ call, commit.operation = .patch call →
    EnteredLate state.trace call.dryRunRequired call.entered

theorem EnteredLate.append {dryRunRequired : Bool} {entered : Nat}
    (h : EnteredLate trace dryRunRequired entered) (more : List PolicyEvent) :
    EnteredLate (trace ++ more) dryRunRequired entered := by
  refine ⟨?_, fun hrequired => ?_⟩
  · have hle := h.1
    rw [List.length_append]
    omega
  · rw [List.take_append_of_le_length h.1]
    exact h.2 hrequired

/-- The trace is as it was, and so is `dry_run_required`. -/
structure Unmoved (before after : PolicyState) : Prop where
  trace : after.trace = before.trace
  required : after.manager.options.dryRunRequired = before.manager.options.dryRunRequired

theorem SequenceRecorded.unmoved {before after : PolicyState} (h : SequenceRecorded before)
    (hunmoved : Unmoved before after) : SequenceRecorded after := by
  refine ⟨?_, ?_⟩
  · rw [hunmoved.trace, hunmoved.required]
    exact h.required
  · rw [hunmoved.trace]
    exact h.entered

theorem SequenceRecorded.rememberDryRun {state : PolicyState} (h : SequenceRecorded state)
    (patch : PolicyPatch) (caller : DryRunCaller)
    (hcaller : caller = .applyPatch false → state.manager.options.dryRunRequired = false) :
    SequenceRecorded (state.rememberDryRun patch caller) := by
  refine ⟨?_, fun commit hmem call hcall => ?_⟩
  · by_cases hoff : caller = .applyPatch false
    · exact Or.inl (hcaller hoff)
    · rcases h.required with hrequired | hsuperseded
      · exact Or.inl hrequired
      · exact Or.inr (hsuperseded.dryRun patch hoff)
  · unfold PolicyState.rememberDryRun at hmem
    dsimp only at hmem
    rw [commits_append, List.mem_append] at hmem
    rcases hmem with hold | hnew
    · exact (h.entered commit hold call hcall).append _
    · simp [commits, PolicyEvent.commit?] at hnew

theorem SequenceRecorded.commits {state after : PolicyState} {phase : PolicyPhase}
    {operation : PolicyOperation} {snapshot : PolicySnapshot} (h : SequenceRecorded state)
    (hstands : SequenceStands state phase)
    (hpending : phase.pendingCommit = some (operation, snapshot))
    (hcommits : Commits state after operation snapshot) : SequenceRecorded after := by
  refine ⟨Or.inr ?_, fun commit hmem call hcall => ?_⟩
  · rw [hcommits.trace]
    exact superseded_committed _ _
  · rw [commits_of_commits hcommits, List.mem_append, List.mem_singleton] at hmem
    rw [hcommits.trace]
    apply EnteredLate.append
    rcases hmem with hold | rfl
    · exact h.entered commit hold call hcall
    · cases hcall
      obtain rfl := PolicyPhase.pendingCommit_patch hpending
      exact hstands.late

/-- What a commit leaves: its own commit at the end of the trace, or the state as it was. -/
theorem sequenceRecorded_commit {state : PolicyState} {phase : PolicyPhase}
    {operation : PolicyOperation} {snapshot : PolicySnapshot} (h : SequenceRecorded state)
    (hstands : SequenceStands state phase)
    (hpending : phase.pendingCommit = some (operation, snapshot)) :
    SequenceRecorded (state.commit operation snapshot).1 ∧
      ((state.commit operation snapshot).2.applied = true →
        Superseded (state.commit operation snapshot).1.trace) := by
  rcases commit_effect state operation snapshot with ⟨-, hcommits⟩ | ⟨hrefuses, -⟩
  · refine ⟨h.commits hstands hpending hcommits, fun _ => ?_⟩
    rw [hcommits.trace]
    exact superseded_committed _ _
  · have hrefused : ¬ (state.commit operation snapshot).2.applied = true := by
      rwa [← PolicySnapshotStore.commit_applied_iff] at hrefuses
    have hstill := commit_still state operation snapshot hrefuses
    exact ⟨h.unmoved ⟨hstill.trace, rfl⟩, fun happlied => absurd happlied hrefused⟩

/-! ## One action -/

theorem sequence_start (h : SequenceRecorded state) :
    SequenceRecorded (state.start call).1.1 ∧
      SequenceStands (state.start call).1.1 (state.start call).1.2 := by
  cases call with
  | loadPolicy bundle =>
    change SequenceRecorded (state.loadStart bundle).1.1 ∧
      SequenceStands (state.loadStart bundle).1.1 (state.loadStart bundle).1.2
    unfold PolicyState.loadStart
    dsimp only
    split
    · exact ⟨h, trivial⟩
    · split <;> exact ⟨h, trivial⟩
  | dryRunPatch patch =>
    change SequenceRecorded (state.dryRunRead patch).1.1 ∧
      SequenceStands (state.dryRunRead patch).1.1 (state.dryRunRead patch).1.2
    unfold PolicyState.dryRunRead
    split <;> exact ⟨h, trivial⟩
  | applyPatch patch =>
    change SequenceRecorded (state.applyGate patch).1.1 ∧
      SequenceStands (state.applyGate patch).1.1 (state.applyGate patch).1.2
    unfold PolicyState.applyGate
    split
    · exact ⟨h, trivial⟩
    split
    · exact ⟨h.unmoved ⟨rfl, rfl⟩, trivial⟩
    · refine ⟨h, ⟨le_refl _, fun hrequired => ?_⟩, fun hoff => hoff⟩
      rw [List.take_length]
      rcases h.required with hoff | hsuperseded
      · rw [hoff] at hrequired
        cases hrequired
      · exact hsuperseded
  | rollback snapshotId =>
    change SequenceRecorded (state.rollbackStart snapshotId).1.1 ∧
      SequenceStands (state.rollbackStart snapshotId).1.1 (state.rollbackStart snapshotId).1.2
    unfold PolicyState.rollbackStart
    dsimp only
    split <;> exact ⟨h, trivial⟩
  | injectCommitFailure reason => exact ⟨h.unmoved ⟨rfl, rfl⟩, trivial⟩

theorem sequence_commit (phase : PolicyPhase)
    (operation : PolicyOperation) (snapshot : PolicySnapshot) (h : SequenceRecorded state)
    (hstands : SequenceStands state phase)
    (hpending : phase.pendingCommit = some (operation, snapshot)) :
    SequenceRecorded (PolicyState.act call state phase).1.1 ∧
      SequenceStands (PolicyState.act call state phase).1.1
        (PolicyState.act call state phase).1.2 := by
  obtain ⟨hrecorded, happlied⟩ := sequenceRecorded_commit h hstands hpending
  have hafter := act_afterCommit call state phase operation snapshot hpending
  rw [act_commits call state phase operation snapshot hpending]
  refine ⟨hrecorded, ?_⟩
  generalize (PolicyState.act call state phase).1.2 = next at hafter
  induction hafter with
  | committed rules result hcommitted => exact happlied hcommitted
  | failed result => trivial
  | idle => trivial

theorem sequence_act (phase : PolicyPhase)
    (h : SequenceRecorded state) (hstands : SequenceStands state phase) :
    SequenceRecorded (PolicyState.act call state phase).1.1 ∧
      SequenceStands (PolicyState.act call state phase).1.1
        (PolicyState.act call state phase).1.2 := by
  cases phase with
  | idle => exact sequence_start call state h
  | loadResolved bundle => exact ⟨h, trivial⟩
  | loadBuilt bundle nextSnapshot => exact sequence_commit call state _ _ _ h hstands rfl
  | dryRunPassed patch warnings => exact ⟨h.rememberDryRun patch .dryRunPatch nofun, trivial⟩
  | applyAdmitted patch dryRunRequired entered =>
    change SequenceRecorded (state.applyDryRunRead patch dryRunRequired entered).1.1 ∧
      SequenceStands (state.applyDryRunRead patch dryRunRequired entered).1.1
        (state.applyDryRunRead patch dryRunRequired entered).1.2
    unfold PolicyState.applyDryRunRead
    split
    · exact ⟨h, trivial⟩
    · exact ⟨h, hstands⟩
  | applyDryRunPassed patchCall =>
    refine ⟨h.rememberDryRun patchCall.patch _ fun hcaller => ?_, hstands.late.append _,
      hstands.off⟩
    exact hstands.off (DryRunCaller.applyPatch.inj hcaller)
  | applyValidated patchCall =>
    change SequenceRecorded (state.applyReread patchCall).1.1 ∧
      SequenceStands (state.applyReread patchCall).1.1 (state.applyReread patchCall).1.2
    unfold PolicyState.applyReread
    dsimp only
    split
    · exact ⟨h, trivial⟩
    · exact ⟨h, hstands⟩
  | applyBuilt patchCall nextSnapshot => exact sequence_commit call state _ _ _ h hstands rfl
  | applyFailed result => exact ⟨h.unmoved ⟨rfl, rfl⟩, trivial⟩
  | rollbackFound snapshotId targetSnapshot => exact ⟨h, trivial⟩
  | rollbackBuilt snapshotId targetSnapshot nextSnapshot =>
    exact sequence_commit call state _ _ _ h hstands rfl
  | committed rules result => exact ⟨⟨Or.inr hstands, h.entered⟩, trivial⟩

namespace PolicyThreads

/-- No other call is in progress: every other thread is idle. -/
def OneAtATime (s : PolicyThreads) (action : PolicyAction) : Prop :=
  ∀ thread, thread ≠ action.1 → s.locals thread = .idle

def Sequential : PolicyThreads → Prop := Threads.Holds SequenceRecorded SequenceStands

theorem sequential_fresh (options : SecurityPolicyManagerOptions) (maxHistorySnapshots : Nat) :
    Sequential (fresh options maxHistorySnapshots) :=
  ⟨⟨Or.inr (eachBefore_nil _), nofun⟩, fun _ => trivial⟩

theorem sequential_step (s : PolicyThreads) (action : PolicyAction) (h : Sequential s)
    (hone : OneAtATime s action) : Sequential (step s action).1 := by
  obtain ⟨hrecorded, hstands⟩ := sequence_act action.2 s.shared (s.locals action.1) h.shared
    (h.locals action.1)
  refine ⟨hrecorded, fun thread => ?_⟩
  by_cases hself : thread = action.1
  · rw [hself]
    have hown := Threads.step_locals_self PolicyState.act s action
    unfold step
    rw [hown]
    exact hstands
  · have hother := Threads.step_locals_other PolicyState.act s action thread hself
    unfold step
    rw [hother, hone thread hself]
    trivial

theorem sequential_run (options : SecurityPolicyManagerOptions) (maxHistorySnapshots : Nat)
    (schedule : List PolicyAction)
    (h : AllSteps step OneAtATime (fresh options maxHistorySnapshots) schedule) :
    Sequential (run step (fresh options maxHistorySnapshots) schedule).1 :=
  invariant_of_allSteps step OneAtATime Sequential sequential_step _ schedule
    (sequential_fresh options maxHistorySnapshots) h

/-- What the calls of a schedule did, from the construction of the manager and its store on. -/
def traceOf (options : SecurityPolicyManagerOptions) (maxHistorySnapshots : Nat)
    (schedule : List PolicyAction) : List PolicyEvent :=
  (run step (fresh options maxHistorySnapshots) schedule).1.shared.trace

end PolicyThreads

/-- A dry run with no commit after it up to the entry of a call, which came late, is explicit. -/
theorem explicit_of_late {call : PatchCall}
    (h : DryRunBefore (Admits call.patch) trace call)
    (hlate : Superseded (trace.take call.entered)) :
    DryRunBefore (AdmitsExplicit call.patch) trace call := by
  obtain ⟨before, dryRun, caller, between, after, hsplit, hbefore, hentered, hread, hnone,
    hsame, hcaller⟩ := h
  refine ⟨before, dryRun, caller, between, after, hsplit, hbefore, hentered, hread, hnone, hsame, ?_⟩
  cases caller with
  | dryRunPatch => rfl
  | applyPatch dryRunRequired =>
    cases dryRunRequired with
    | true => exact absurd rfl hcaller
    | false =>
      have htake : trace.take call.entered = before ++ .dryRunPassed dryRun (.applyPatch false) ::
          between.take (call.entered - (before.length + 1)) := by
        obtain ⟨rest, hrest⟩ := Nat.exists_eq_add_of_lt hbefore
        have hwithin : rest ≤ between.length := by omega
        rw [hsplit, hrest, List.take_append, List.take_of_length_le (by omega),
          show before.length + rest + 1 - before.length = rest + 1 by omega,
          show before.length + rest + 1 - (before.length + 1) = rest by omega,
          List.take_succ_cons, List.take_append_of_le_length hwithin]
      have hsome := hlate before _ _ htake dryRun rfl
      have hpart : commits between = commits (between.take (call.entered - (before.length + 1))) ++
          commits (between.drop (call.entered - (before.length + 1))) := by
        rw [← commits_append, List.take_append_drop]
      rw [hnone] at hpart
      exact absurd (List.append_eq_nil_iff.mp hpart.symm).1 hsome

/-- An explicit dry run of the same operations. -/
def AdmitsSameContent (patch dryRun : PolicyPatch) (caller : DryRunCaller) : Prop :=
  AdmitsExplicit patch dryRun caller ∧ dryRun.operations = patch.operations

def dryRunOnly : PolicyPatch := samplePatch "patch-1" "manifest:plugin.first"

/-- The same id and base generation, with another rule. -/
def swappedPatch : PolicyPatch :=
  { dryRunOnly with operations := (samplePatch "patch-1" "manifest:plugin.second").operations }

def swappedSchedule : List PolicyAction :=
  List.replicate 4 (0, .loadPolicy sampleBundle) ++ List.replicate 2 (0, .dryRunPatch dryRunOnly) ++
    List.replicate 6 (0, .applyPatch swappedPatch)

theorem swappedSchedule_trace :
    PolicyThreads.traceOf {} 16 swappedSchedule =
      [.committed { operation := .load sampleBundle, snapshot := bundleSnapshot sampleBundle {} },
        .dryRunPassed dryRunOnly .dryRunPatch,
        .dryRunPassed swappedPatch (.applyPatch true),
        .committed
          { operation := .patch
              { patch := swappedPatch, dryRunRequired := true, entered := 2, read := 2 }
            snapshot := patchSnapshot (bundleSnapshot sampleBundle {}) swappedPatch }] := by
  decide +kernel

theorem swapped_not_gated :
    ¬ Gated AdmitsSameContent (PolicyThreads.traceOf {} 16 swappedSchedule) := by
  intro h
  rw [swappedSchedule_trace] at h
  obtain ⟨before, dryRun, caller, between, after, hsplit, -, -, -, -, hexplicit, hoperations⟩ :=
    h _ (List.mem_cons_of_mem _ List.mem_cons_self) _ rfl rfl
  have hmem : PolicyEvent.dryRunPassed dryRun caller ∈ before ++
      .dryRunPassed dryRun caller :: (between ++ after) := by simp
  rw [← hsplit, hexplicit.2] at hmem
  simp only [List.mem_cons, PolicyEvent.dryRunPassed.injEq, reduceCtorEq, and_false, and_true,
    List.not_mem_nil, or_false, false_or] at hmem
  rw [hmem] at hoperations
  revert hoperations
  decide +kernel

/-- The rule that requires dry runs. -/
def gateBundle : PolicyBundle :=
  { sampleBundle with
    rules := [{ sampleRule "patch-gate" "policy:runtime_patch" with
      action := str "apply_patch", conditions := [str "dry_run_required=true"] }] }

def gatedPatch : PolicyPatch := { dryRunOnly with baseGeneration := 2 }

/-- An `apply_patch` is entered after the commit that requires dry runs, and before it takes
effect; its dry run opens the gate for another. -/
def overlappingSchedule : List PolicyAction :=
  List.replicate 4 (0, .loadPolicy sampleBundle) ++ List.replicate 3 (0, .loadPolicy gateBundle) ++
    List.replicate 2 (1, .applyPatch gatedPatch) ++ [(0, .loadPolicy gateBundle)] ++
    [(1, .applyPatch gatedPatch)] ++ List.replicate 6 (2, .applyPatch gatedPatch)

def overlappingOptions : SecurityPolicyManagerOptions := { dryRunRequired := false }

theorem overlappingSchedule_trace :
    PolicyThreads.traceOf overlappingOptions 16 overlappingSchedule =
      [.committed { operation := .load sampleBundle, snapshot := bundleSnapshot sampleBundle {} },
        .committed
          { operation := .load gateBundle
            snapshot := bundleSnapshot gateBundle (bundleSnapshot sampleBundle {}) },
        .dryRunPassed gatedPatch (.applyPatch false),
        .dryRunPassed gatedPatch (.applyPatch true),
        .committed
          { operation := .patch
              { patch := gatedPatch, dryRunRequired := true, entered := 3, read := 3 }
            snapshot := patchSnapshot (bundleSnapshot gateBundle (bundleSnapshot sampleBundle {}))
              gatedPatch }] := by
  decide +kernel

theorem overlapping_not_gated :
    ¬ Gated AdmitsExplicit (PolicyThreads.traceOf overlappingOptions 16 overlappingSchedule) := by
  intro h
  rw [overlappingSchedule_trace] at h
  obtain ⟨before, dryRun, caller, between, after, hsplit, -, -, -, -, -, hcaller⟩ :=
    h _ (List.mem_cons_of_mem _ (List.mem_cons_of_mem _ List.mem_cons_self)) _ rfl rfl
  have hmem : PolicyEvent.dryRunPassed dryRun caller ∈ before ++
      .dryRunPassed dryRun caller :: (between ++ after) := by simp
  rw [← hsplit, hcaller] at hmem
  simp at hmem

end Dasall.Infra.Policy
