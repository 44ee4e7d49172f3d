import Dasall.Runtime.Checkpoint.Manager
import Dasall.Runtime.Fsm.Completion

/-!
# The checkpoint of a step

An accepted step hints at a checkpoint, and the checkpoint manager folds the state it leads to. The
two agree but for one kind of step: where a failed run goes on to respond, the hint retains the
failed checkpoint, the fold is a running one, and no checkpoint is built.
-/

open Dasall.Contracts

namespace Dasall.Runtime.Fsm

/-- What the checkpoint manager reads of an outcome. -/
def StateTransitionOutcome.read (outcome : StateTransitionOutcome) :
    Runtime.StateTransitionOutcome where
  accepted := outcome.accepted
  resolvedState := outcome.resolvedState
  hintedCheckpointState := outcome.checkpointHint.checkpointState

/-- The step has no checkpoint: it goes back to `Idle`, or from a failure to its response. -/
def Unsaved (fromState toState : RuntimeState) : Prop :=
  toState = .idle ∨ toState = .responding ∧ (fromState = .failedSafe ∨ fromState = .degraded)

/-- A checkpoint in the state is what the hint says, needs a pending action where the hint does, and
resumes where the step led if the machine waits there. -/
def StateTransitionCheckpointHint.Fits (hint : StateTransitionCheckpointHint)
    (toState : RuntimeState) (state : CheckpointState) : Prop :=
  state ≠ .unspecified ∧ (hint.checkpointState = none ∨ hint.checkpointState = some state) ∧
    hint.pendingActionRequired = isWaitingCheckpointState state ∧
    (canResumeFrom state = true → resumeTargetState state =
      some (if hint.pendingActionRequired then toState else .reasoning))

theorem rules_fold : ∀ rule ∈ transitionRules, rule.fromState ≠ .safeMode →
    let resolved := resolveCheckpointState
      ⟨true, rule.toState, rule.checkpointStrategy.checkpointState⟩
    (resolved = none ↔ Unsaved rule.fromState rule.toState) ∧
      ∀ state ∈ resolved, rule.checkpointStrategy.Fits rule.toState state := by
  unfold Unsaved StateTransitionCheckpointHint.Fits
  decide +kernel

/-- An accepted step takes a rule of the table, with its hint. -/
theorem AgentFsm.transition_rule {fsm : AgentFsm} {request : StateTransitionRequest}
    (h : (fsm.transition request).2.accepted = true) :
    ∃ rule ∈ transitionRules, rule.fromState = request.fromState ∧
      rule.toState = request.requestedTo ∧ rule.fromState ≠ .safeMode ∧
      (fsm.transition request).2 =
        makeTransitionOutcome request request.requestedTo rule.checkpointStrategy := by
  rw [transition_accepted] at h
  obtain ⟨hstate, hallowed, hstays⟩ := (evaluate_accepted_iff fsm request).mp h
  obtain ⟨rule, hrule, -⟩ := (allowedByTable_iff request).mp hallowed
  obtain ⟨hmem, hfrom, hto⟩ := (findRule_eq_some_iff _ _ rule).mp hrule
  have hhint : (fsm.evaluateRequestLocked request).checkpointHint =
      some rule.checkpointStrategy := by
    revert h
    unfold evaluateRequestLocked getGuard getCheckpointStrategy isLegal
    simp only [hrule, Option.isSome_some, Option.map_some]
    cases rule.guard.firstUnsatisfiedGuard request <;> split_ifs <;> simp
  refine ⟨rule, hmem, hfrom, hto, fun hsafe => ?_, by simp [transition, h, hhint]⟩
  have hresponding := (rules_out_of_safeMode rule hmem hsafe).1
  exact hstays ⟨hstate ▸ hfrom ▸ hsafe, by rw [← hto, hresponding]; decide⟩

/-- The state matters to the consistency of a checkpoint only where it waits. -/
theorem consistent_build_iff (build : CheckpointBuildRequest) {state : CheckpointState}
    (hstate : state ≠ .unspecified) :
    Consistent (buildRequestCheckpoint build state) ↔
      Consistent (buildRequestCheckpoint build .running) ∧
        (isWaitingCheckpointState state = true → build.pendingAction.getD [] ≠ []) := by
  constructor
  · intro h
    refine ⟨{ h with state := ⟨.running, rfl, by decide⟩, waiting := ?_ }, fun hwaiting hnone => ?_⟩
    · rintro _ ⟨⟩ hwaiting
      cases hwaiting
    · exact h.waiting state rfl hwaiting (congrArg some hnone)
  · rintro ⟨h, hpending⟩
    refine { h with state := ⟨state, rfl, hstate⟩, waiting := ?_ }
    rintro _ ⟨⟩ hwaiting hnone
    exact hpending hwaiting (Option.some.inj hnone)

theorem built_eq (manager : CheckpointManager) (build : CheckpointBuildRequest)
    (outcome : Runtime.StateTransitionOutcome) :
    (manager.buildCheckpoint { build with transitionOutcome := outcome }).2.checkpoint =
      if outcome.accepted then
        ((resolveCheckpointState outcome).map (buildRequestCheckpoint build)).filter
          fun checkpoint => (evaluateCheckpointConsistency checkpoint).consistent
      else none := by
  unfold CheckpointManager.buildCheckpoint
  dsimp only
  cases outcome.accepted with
  | false => rfl
  | true =>
    cases resolveCheckpointState outcome with
    | none => rfl
    | some state =>
      rw [if_pos rfl, Option.map_some, Option.filter_some]
      change (if (evaluateCheckpointConsistency (buildRequestCheckpoint build state)).consistent
        then _ else _ : _ × CheckpointBuildResult).2.checkpoint = _
      split <;> rfl

/-- The manager builds the checkpoint of a step exactly when the step is accepted and has one, its
fields are consistent, and an action is pending where the hint asks for it. -/
theorem built_of_step (manager : CheckpointManager) (fsm : AgentFsm)
    (request : StateTransitionRequest) (build : CheckpointBuildRequest) :
    let outcome := (fsm.transition request).2
    let built :=
      (manager.buildCheckpoint { build with transitionOutcome := outcome.read }).2.checkpoint
    (built.isSome = true ↔ outcome.accepted = true ∧
      ¬ Unsaved request.fromState request.requestedTo ∧
      Consistent (buildRequestCheckpoint build .running) ∧
      (outcome.checkpointHint.pendingActionRequired = true → build.pendingAction.getD [] ≠ [])) ∧
    ∀ checkpoint, built = some checkpoint → ∃ state, checkpoint.state = some state ∧
      outcome.checkpointHint.Fits request.requestedTo state := by
  intro outcome built
  have hbuilt : built = _ := built_eq manager build outcome.read
  cases haccepted : outcome.accepted with
  | false =>
    rw [if_neg (by simp [StateTransitionOutcome.read, haccepted])] at hbuilt
    simp [hbuilt]
  | true =>
    obtain ⟨rule, hmem, hfrom, hto, hleft, houtcome⟩ := AgentFsm.transition_rule haccepted
    obtain ⟨hunsaved, hfits⟩ := rules_fold rule hmem hleft
    have hread : outcome.read =
        ⟨true, rule.toState, rule.checkpointStrategy.checkpointState⟩ := by
      rw [hto]
      exact congrArg StateTransitionOutcome.read houtcome
    have hhint : outcome.checkpointHint = rule.checkpointStrategy :=
      congrArg StateTransitionOutcome.checkpointHint houtcome
    rw [hread, if_pos rfl] at hbuilt
    rw [hbuilt, hhint, ← hfrom, ← hto, ← hunsaved]
    cases hresolved : resolveCheckpointState
        ⟨true, rule.toState, rule.checkpointStrategy.checkpointState⟩ with
    | none => simp
    | some state =>
      have hfit := hfits state hresolved
      have hconsistent := (evaluateCheckpointConsistency_spec (buildRequestCheckpoint build state)).1
      rw [consistent_build_iff build hfit.1, ← hfit.2.2.1] at hconsistent
      constructor
      · simp [Option.filter_some, hconsistent]
      · intro checkpoint hsome
        obtain ⟨hsome, -⟩ := Option.filter_eq_some_iff.mp hsome
        obtain rfl := Option.some.inj hsome
        exact ⟨state, rfl, hfit⟩

end Dasall.Runtime.Fsm
