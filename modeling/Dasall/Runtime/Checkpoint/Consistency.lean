import Dasall.Runtime.State

/-!
# Consistent checkpoints

`evaluateCheckpointConsistency` is the one check that building, saving, loading and
resuming share.
-/

open Dasall.Lib.Text Dasall.Lib.Guard Dasall.Contracts

namespace Dasall.Runtime

inductive CheckpointConsistencyIssue
  | none
  | missingCheckpointId
  | missingStepId
  | missingWorkingMemorySnapshot
  | transitionRejected
  | invalidCheckpointState
  | missingPendingAction
  | missingVersionTag
  | unsupportedSchemaVersion
  | unsupportedFsmStateVersion
  | unsupportedBudgetSchemaVersion
deriving DecidableEq, Repr

def checkpointConsistencyErrorCode : CheckpointConsistencyIssue → Option RuntimeErrorCode
  | .none => Option.none
  | .missingCheckpointId | .missingStepId | .missingWorkingMemorySnapshot | .transitionRejected
  | .invalidCheckpointState | .missingPendingAction | .missingVersionTag =>
    some .rtE202StateInconsistent
  | .unsupportedSchemaVersion | .unsupportedFsmStateVersion | .unsupportedBudgetSchemaVersion =>
    some .rtE412ResumeRejected

structure CheckpointConsistencyReport where
  consistent : Bool
  issue : CheckpointConsistencyIssue
  errorCode : Option RuntimeErrorCode
  detail : Bytes
deriving DecidableEq

def makeCheckpointConsistentReport (detail : Bytes) : CheckpointConsistencyReport :=
  ⟨true, .none, none, detail⟩

def rejectCheckpoint (issue : CheckpointConsistencyIssue) (detail : Bytes) :
    CheckpointConsistencyReport :=
  ⟨false, issue, checkpointConsistencyErrorCode issue, detail⟩

/-! ## Version tags -/

def schemaVersionTag : Bytes := str "rt.schema_version"
def fsmStateEnumVersionTag : Bytes := str "rt.fsm_state_enum_version"
def budgetSchemaVersionTag : Bytes := str "rt.budget_schema_version"

def schemaVersion : Bytes := str "1"
def fsmStateEnumVersion : Bytes := str "1"
def budgetSchemaVersion : Bytes := str "1"

def makeCheckpointTag (key value : Bytes) : Bytes := key ++ str "=" ++ value

/-- The rest of the first tag that starts with the key and an equals sign. -/
def findCheckpointTagValue (tags : List Bytes) (key : Bytes) : Option Bytes :=
  tags.findSome? fun candidate =>
    if (key ++ str "=").isPrefixOf candidate then some (candidate.drop (key ++ str "=").length)
    else none

def appendCheckpointTagIfMissing (tags : List Bytes) (key value : Bytes) : List Bytes :=
  if (findCheckpointTagValue tags key).isSome then tags else tags ++ [makeCheckpointTag key value]

def withRuntimeCheckpointVersionTags (tags : List Bytes) : List Bytes :=
  let merged := appendCheckpointTagIfMissing tags schemaVersionTag schemaVersion
  let merged := appendCheckpointTagIfMissing merged fsmStateEnumVersionTag fsmStateEnumVersion
  appendCheckpointTagIfMissing merged budgetSchemaVersionTag budgetSchemaVersion

def validateVersionTag (checkpoint : Checkpoint) (key expectedValue : Bytes)
    (unsupportedIssue : CheckpointConsistencyIssue) : Except CheckpointConsistencyReport Unit :=
  match checkpoint.tags.bind (findCheckpointTagValue · key) with
  | none => .error (rejectCheckpoint .missingVersionTag (str "checkpoint is missing " ++ key))
  | some value =>
    ensure (value == expectedValue)
      (rejectCheckpoint unsupportedIssue
        (str "checkpoint " ++ key ++ str " is not compatible with runtime"))

/-! ## Consistency -/

/-- The early returns of `evaluate_checkpoint_consistency`, in order. -/
def checkpointConsistency (checkpoint : Checkpoint) : Except CheckpointConsistencyReport Unit := do
  ensure (hasNonEmptyValue checkpoint.checkpointId)
    (rejectCheckpoint .missingCheckpointId (str "checkpoint_id must be populated"))
  ensure (hasNonEmptyValue checkpoint.stepId)
    (rejectCheckpoint .missingStepId (str "step_id must be populated"))
  ensure (hasNonEmptyValue checkpoint.workingMemorySnapshot)
    (rejectCheckpoint .missingWorkingMemorySnapshot
      (str "working_memory_snapshot must be populated"))
  ensure (checkpoint.state.isSome && checkpoint.state != some .unspecified)
    (rejectCheckpoint .invalidCheckpointState (str "checkpoint state must be concrete"))
  ensure checkpoint.pendingAction.isSome
    (rejectCheckpoint .missingPendingAction
      (str "pending_action must be present (use empty string for none)"))
  ensure (nonEmptyWhenPresent checkpoint.requestId)
    (rejectCheckpoint .invalidCheckpointState (str "request_id must be non-empty when present"))
  ensure (nonEmptyWhenPresent checkpoint.goalId)
    (rejectCheckpoint .invalidCheckpointState (str "goal_id must be non-empty when present"))
  ensure (nonEmptyWhenPresent checkpoint.beliefStateRef)
    (rejectCheckpoint .invalidCheckpointState
      (str "belief_state_ref must be non-empty when present"))
  ensure (checkpoint.createdAt.all fun createdAt => 0 < createdAt)
    (rejectCheckpoint .invalidCheckpointState
      (str "created_at must be a positive timestamp when present"))
  ensure (checkpoint.tags != some [])
    (rejectCheckpoint .invalidCheckpointState
      (str "tags must contain at least one item when present"))
  ensure (checkpoint.tags.all fun tags => tags.all fun tag => !tag.isEmpty)
    (rejectCheckpoint .invalidCheckpointState (str "tags must not contain empty strings"))
  ensure (!(checkpoint.state.any isWaitingCheckpointState && checkpoint.pendingAction == some []))
    (rejectCheckpoint .missingPendingAction
      (str "waiting checkpoints must persist non-empty pending_action"))
  validateVersionTag checkpoint schemaVersionTag schemaVersion .unsupportedSchemaVersion
  validateVersionTag checkpoint fsmStateEnumVersionTag fsmStateEnumVersion
    .unsupportedFsmStateVersion
  validateVersionTag checkpoint budgetSchemaVersionTag budgetSchemaVersion
    .unsupportedBudgetSchemaVersion

def evaluateCheckpointConsistency (checkpoint : Checkpoint) : CheckpointConsistencyReport :=
  match checkpointConsistency checkpoint with
  | .ok () => makeCheckpointConsistentReport (str "checkpoint is structurally resumable")
  | .error report => report

/-- The tags of the checkpoint name this version. -/
def VersionTagged (checkpoint : Checkpoint) (key version : Bytes) : Prop :=
  checkpoint.tags.bind (findCheckpointTagValue · key) = some version

structure Consistent (checkpoint : Checkpoint) : Prop where
  checkpointId : ∃ id, checkpoint.checkpointId = some id ∧ id ≠ []
  stepId : ∃ id, checkpoint.stepId = some id ∧ id ≠ []
  workingMemorySnapshot : ∃ text, checkpoint.workingMemorySnapshot = some text ∧ text ≠ []
  state : ∃ state, checkpoint.state = some state ∧ state ≠ .unspecified
  pendingAction : ∃ action, checkpoint.pendingAction = some action
  requestId : checkpoint.requestId ≠ some []
  goalId : checkpoint.goalId ≠ some []
  beliefStateRef : checkpoint.beliefStateRef ≠ some []
  createdAt : ∀ createdAt, checkpoint.createdAt = some createdAt → 0 < createdAt
  tags : checkpoint.tags ≠ some []
  tag : ∀ tags, checkpoint.tags = some tags → [] ∉ tags
  waiting : ∀ state, checkpoint.state = some state → isWaitingCheckpointState state = true →
    checkpoint.pendingAction ≠ some []
  schema : VersionTagged checkpoint schemaVersionTag schemaVersion
  fsmState : VersionTagged checkpoint fsmStateEnumVersionTag fsmStateEnumVersion
  budgetSchema : VersionTagged checkpoint budgetSchemaVersionTag budgetSchemaVersion

variable (checkpoint : Checkpoint) (key version : Bytes) (issue : CheckpointConsistencyIssue)

theorem validateVersionTag_eq_ok (u : Unit) :
    validateVersionTag checkpoint key version issue = .ok u ↔
      VersionTagged checkpoint key version := by
  unfold validateVersionTag VersionTagged
  cases checkpoint.tags.bind (findCheckpointTagValue · key) <;> simp

/-- The report of a rejection: not consistent, with the error code of its issue. -/
def IsRejection (report : CheckpointConsistencyReport) : Prop :=
  report.consistent = false ∧ report.errorCode = checkpointConsistencyErrorCode report.issue ∧
    report.errorCode.isSome

theorem validateVersionTag_stops (h : (checkpointConsistencyErrorCode issue).isSome) :
    Stops IsRejection (validateVersionTag checkpoint key version issue) := by
  unfold validateVersionTag
  split
  · intro report hreport
    cases hreport
    exact ⟨rfl, rfl, rfl⟩
  · exact stops_ensure _ _ _ ⟨rfl, rfl, h⟩

theorem checkpointConsistency_stops :
    Stops IsRejection (checkpointConsistency checkpoint) := by
  unfold checkpointConsistency
  iterate 12 refine stops_bind _ _ _ (stops_ensure _ _ _ ⟨rfl, rfl, rfl⟩) fun _ _ => ?_
  iterate 2 refine stops_bind _ _ _ (validateVersionTag_stops _ _ _ _ rfl) fun _ _ => ?_
  exact validateVersionTag_stops _ _ _ _ rfl

theorem checkpointConsistency_eq_ok :
    checkpointConsistency checkpoint = .ok () ↔ Consistent checkpoint := by
  simp only [checkpointConsistency, bind_eq_ok, ensure_eq_ok, validateVersionTag_eq_ok,
    hasNonEmptyValue_iff, nonEmptyWhenPresent_iff, exists_const]
  constructor
  · rintro ⟨hid, hstep, hmemory, hstate, haction, hrequest, hgoal, hbelief, hcreated, htags, htag,
      hwaiting, hschema, hfsm, hbudget⟩
    refine ⟨hid, hstep, hmemory, ?_, Option.isSome_iff_exists.mp haction, hrequest, hgoal, hbelief,
      ?_, by simpa using htags, ?_, ?_, hschema, hfsm, hbudget⟩
    · cases h : checkpoint.state with
      | none => simp [h] at hstate
      | some state => exact ⟨state, rfl, by simpa [h] using hstate⟩
    · intro createdAt h
      simpa [h] using hcreated
    · rintro tags h hmem
      simp only [h, Option.all_some, List.all_eq_true] at htag
      exact absurd (htag [] hmem) (by simp)
    · intro state h hwait haction
      simp [h, hwait, haction] at hwaiting
  · intro h
    obtain ⟨state, hstate, hconcrete⟩ := h.state
    obtain ⟨action, haction⟩ := h.pendingAction
    refine ⟨h.checkpointId, h.stepId, h.workingMemorySnapshot, by simpa [hstate] using hconcrete,
      by simp [haction], h.requestId, h.goalId, h.beliefStateRef, ?_, by simpa using h.tags, ?_, ?_,
      h.schema, h.fsmState, h.budgetSchema⟩
    · cases hcreated : checkpoint.createdAt with
      | none => rfl
      | some createdAt => simpa using h.createdAt createdAt hcreated
    · cases htags : checkpoint.tags with
      | none => rfl
      | some tags =>
        rw [Option.all_some, List.all_eq_true]
        intro tag hmem
        cases tag with
        | nil => exact absurd hmem (h.tag tags htags)
        | cons b tag => rfl
    · cases hwait : isWaitingCheckpointState state with
      | false => simp [hstate, hwait]
      | true => simpa [hstate, hwait] using h.waiting state hstate hwait

/-- The evaluation accepts exactly the consistent checkpoints, and a rejection names the
error code of its issue. -/
theorem evaluateCheckpointConsistency_spec :
    ((evaluateCheckpointConsistency checkpoint).consistent = true ↔ Consistent checkpoint) ∧
    ((evaluateCheckpointConsistency checkpoint).consistent = false →
      IsRejection (evaluateCheckpointConsistency checkpoint)) := by
  have hiff := checkpointConsistency_eq_ok checkpoint
  have hstops := checkpointConsistency_stops checkpoint
  unfold evaluateCheckpointConsistency
  cases h : checkpointConsistency checkpoint with
  | ok u => exact ⟨iff_of_true rfl (hiff.mp h), nofun⟩
  | error report =>
    have hreport := hstops report h
    rw [h] at hiff
    refine ⟨iff_of_false (by simp [hreport.1]) fun hc => ?_, fun _ => hreport⟩
    cases hiff.mpr hc

theorem evaluateCheckpointConsistency_consistent (h : Consistent checkpoint) :
    evaluateCheckpointConsistency checkpoint =
      makeCheckpointConsistentReport (str "checkpoint is structurally resumable") := by
  unfold evaluateCheckpointConsistency
  rw [(checkpointConsistency_eq_ok checkpoint).mpr h]

/-! ## Resume plans -/

inductive ResumePlanViolation
  | none
  | checkpointInvalid
  | missingCheckpointReference
  | unsupportedCheckpointState
  | missingPendingAction
deriving DecidableEq, Repr

def resumePlanViolationErrorCode : ResumePlanViolation → Option RuntimeErrorCode
  | .none => Option.none
  | .checkpointInvalid | .missingCheckpointReference | .missingPendingAction =>
    some .rtE202StateInconsistent
  | .unsupportedCheckpointState => some .rtE412ResumeRejected

structure ResumePlan where
  checkpointRef : Bytes
  targetState : RuntimeState
  checkpointState : CheckpointState
  resumeToken : Bytes
  resumeReason : Bytes
  pendingAction : Option Bytes
  policySnapshotRef : Option Bytes
  requiresOperatorIntervention : Bool
deriving DecidableEq

structure ResumePlanDecision where
  resumable : Bool
  plan : Option ResumePlan
  violation : ResumePlanViolation
  errorCode : Option RuntimeErrorCode
  detail : Bytes
deriving DecidableEq

def makeResumePlanDecision (plan : ResumePlan) (detail : Bytes) : ResumePlanDecision :=
  ⟨true, some plan, .none, none, detail⟩

def makeRejectedResumePlan (violation : ResumePlanViolation) (detail : Bytes)
    (errorCode : Option RuntimeErrorCode) : ResumePlanDecision :=
  ⟨false, none, violation, errorCode <|> resumePlanViolationErrorCode violation, detail⟩

/-- The state is read without a check once the checkpoint is known to be consistent. -/
def synthesizeResumePlan (checkpoint : Checkpoint) : Check ResumePlanDecision :=
  let report := evaluateCheckpointConsistency checkpoint
  if !report.consistent then
    .ok (makeRejectedResumePlan .checkpointInvalid report.detail report.errorCode)
  else
    match checkpoint.checkpointId with
    | none | some [] =>
      .ok (makeRejectedResumePlan .missingCheckpointReference
        (str "checkpoint_id is required to build a resume plan") none)
    | some checkpointId => do
      let state ← deref checkpoint.state
      match resumeTargetState state with
      | none =>
        .ok (makeRejectedResumePlan .unsupportedCheckpointState
          (str "terminal or unspecified checkpoints cannot be resumed") none)
      | some targetState =>
        if isWaitingCheckpointState state && !hasNonEmptyValue checkpoint.pendingAction then
          .ok (makeRejectedResumePlan .missingPendingAction
            (str "resume plan requires pending_action for waiting checkpoints") none)
        else
          .ok (makeResumePlanDecision
            { checkpointRef := checkpointId
              targetState := targetState
              checkpointState := state
              resumeToken := []
              resumeReason := str "resume plan synthesized from checkpoint"
              pendingAction := checkpoint.pendingAction
              policySnapshotRef := none
              requiresOperatorIntervention := state == .waitingConfirm }
            (str "checkpoint is resumable"))

/-! ## What a resume plan says -/

/-- The plan names the checkpoint, and resumes it in a runtime state that folds back to
the state it was saved in. -/
structure Resumes (plan : ResumePlan) (checkpoint : Checkpoint) : Prop where
  checkpointRef : checkpoint.checkpointId = some plan.checkpointRef
  checkpointState : checkpoint.state = some plan.checkpointState
  resumable : canResumeFrom plan.checkpointState = true
  targetState : toCheckpointState plan.targetState = some plan.checkpointState
  pendingAction : isWaitingCheckpointState plan.checkpointState = true →
    hasNonEmptyValue checkpoint.pendingAction = true

def ResumePlanDecision.Rejected (decision : ResumePlanDecision) : Prop :=
  decision.resumable = false ∧ decision.plan = none ∧ decision.errorCode.isSome

structure Resumable (checkpoint : Checkpoint) : Prop where
  consistent : Consistent checkpoint
  state : ∃ state, checkpoint.state = some state ∧ canResumeFrom state = true

theorem makeRejectedResumePlan_rejected (violation : ResumePlanViolation) (detail : Bytes)
    (errorCode : Option RuntimeErrorCode)
    (h : errorCode.isSome ∨ (resumePlanViolationErrorCode violation).isSome) :
    (makeRejectedResumePlan violation detail errorCode).Rejected := by
  refine ⟨rfl, rfl, ?_⟩
  cases errorCode with
  | some code => rfl
  | none => simpa [makeRejectedResumePlan] using h

/-- A consistent checkpoint names what it waits for, so the last check of the synthesis
never fails. -/
theorem Consistent.pending (h : Consistent checkpoint)
    (state : CheckpointState) (hstate : checkpoint.state = some state)
    (hwait : isWaitingCheckpointState state = true) :
    hasNonEmptyValue checkpoint.pendingAction = true := by
  obtain ⟨action, haction⟩ := h.pendingAction
  refine (hasNonEmptyValue_iff _).mpr ⟨action, haction, ?_⟩
  rintro rfl
  exact h.waiting state hstate hwait haction

/-- A plan that resumes the checkpoint when there is one, and otherwise a rejection with an
error code. -/
theorem synthesizeResumePlan_spec :
    ∃ decision, synthesizeResumePlan checkpoint = .ok decision ∧
      ((decision.resumable = true ∧ Resumable checkpoint ∧
          ∃ plan, decision.plan = some plan ∧ Resumes plan checkpoint) ∨
        (decision.Rejected ∧ ¬ Resumable checkpoint)) := by
  have hspec := evaluateCheckpointConsistency_spec checkpoint
  unfold synthesizeResumePlan
  by_cases hreport : (evaluateCheckpointConsistency checkpoint).consistent = true
  · have hconsistent := hspec.1.mp hreport
    obtain ⟨id, hid, hne⟩ := hconsistent.checkpointId
    obtain ⟨state, hstate, -⟩ := hconsistent.state
    have hpending := Consistent.pending checkpoint hconsistent state hstate
    rw [if_neg (by simpa using hreport), hid, hstate]
    split
    · contradiction
    · cases ‹some id = some []›; exact absurd rfl hne
    · cases ‹some id = some _›
      have hread : (deref (some state) : Check CheckpointState) = .ok state := rfl
      simp only [hread, bind, Except.bind]
      cases htarget : resumeTargetState state with
      | none =>
        refine ⟨_, rfl, .inr ⟨makeRejectedResumePlan_rejected _ _ _ (.inr rfl), ?_⟩⟩
        rintro ⟨-, state', hstate', hresume⟩
        rw [hstate, Option.some.injEq] at hstate'
        subst hstate'
        rw [← resumeTargetState_isSome, htarget] at hresume
        cases hresume
      | some target =>
        have hresume : canResumeFrom state = true := by
          rw [← resumeTargetState_isSome, htarget]; rfl
        have hnamed : ¬ (isWaitingCheckpointState state &&
            !hasNonEmptyValue checkpoint.pendingAction) = true := by
          intro h
          obtain ⟨hwait, hmissing⟩ := (Bool.and_eq_true _ _).mp h
          rw [hpending hwait] at hmissing
          cases hmissing
        simp only [if_neg hnamed]
        exact ⟨_, rfl, .inl ⟨rfl, ⟨hconsistent, state, hstate, hresume⟩, _, rfl, hid, hstate,
          hresume, resumeTargetState_folds state target htarget, hpending⟩⟩
  · rw [if_pos (by simpa using hreport)]
    have hcode := (hspec.2 (by simpa using hreport)).2.2
    exact ⟨_, rfl, .inr ⟨makeRejectedResumePlan_rejected _ _ _ (.inl hcode),
      fun h => hreport (hspec.1.mpr h.consistent)⟩⟩

end Dasall.Runtime
