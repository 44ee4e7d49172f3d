import Dasall.Runtime.Recovery.Manager

/-!
# What `evaluate` plans

`Planned` says which plan each kind of request gets. `evaluate_spec` reads it, and the
retry count, off the code once for all the theorems about recovery.
-/

open Dasall.Lib.Text Dasall.Lib.Guard Dasall.Contracts

namespace Dasall.Runtime

/-! ## Kinds of requests -/

def Accepted (request : RecoveryRequest) : Bool :=
  (validateRecoveryRequestFieldRules request).isOk

def Exhausted (request : RecoveryRequest) : Bool :=
  request.runtimeBudgetSnapshot.any snapshotIsExhausted

/-- The requests whose retry count `evaluate` writes down. -/
def Counted (request : RecoveryRequest) : Bool := Accepted request && !Exhausted request

/-- The count of the request, else the one of its checkpoint, else zero. -/
def requestRetryCount (request : RecoveryRequest) : UInt32 :=
  request.retryCount.getD ((request.checkpoint.bind (·.retryCount)).getD 0)

/-- The request asks to go on, and its evidence allows it. -/
structure Replayable (request : RecoveryRequest) : Prop where
  kind : ∃ decision, request.reflectionDecision = some decision ∧
    (decision.decisionKind = some .continue_ ∨ decision.decisionKind = some .retryStep)
  report : ∃ report idempotencyKey, request.idempotencyAndSideEffectReport = some report ∧
    report.replaySafe = some true ∧ report.idempotencyKey = some idempotencyKey ∧
    idempotencyKey ≠ []
  checkpoint : ∃ checkpoint, request.checkpoint = some checkpoint ∧ Resumable checkpoint

inductive Planned (request : RecoveryRequest) : RecoveryExecutionPlan → Prop
  | refused (code : RuntimeErrorCode) (detail : Bytes) (haccepted : Accepted request = false) :
    Planned request (rejectionPlan code detail)
  | degraded (snapshot : BudgetSnapshot) (haccepted : Accepted request = true)
      (hsnapshot : request.runtimeBudgetSnapshot = some snapshot)
      (hexhausted : snapshotIsExhausted snapshot = true) :
    Planned request (makeDegradePlan (snapshot.overallRejectReason.getD
      (str "runtime budget exhausted during recovery admission")))
  | rejected (code : RuntimeErrorCode) (detail : Bytes) (hcounted : Counted request = true)
      (hreplay : ¬ Replayable request) : Planned request (rejectionPlan code detail)
  | aborted (hcounted : Counted request = true) (hreplay : ¬ Replayable request) :
    Planned request abortSafePlan
  | replanned (detail : Bytes) (hcounted : Counted request = true)
      (hreplay : ¬ Replayable request) :
    Planned request (makeRecoveryExecutionPlan (str "replan") detail none)
  | replayed (action detail : Bytes) (resumePlan : ResumePlan) (checkpoint : Checkpoint)
      (hcounted : Counted request = true) (hreplay : Replayable request)
      (haction : action = str "continue" ∨ action = str "retry_step")
      (hcheckpoint : request.checkpoint = some checkpoint)
      (hresumes : Resumes resumePlan checkpoint) :
    Planned request (makeRecoveryExecutionPlan action detail (some resumePlan))

variable (manager : RecoveryManager) (request : RecoveryRequest) (decision : ReflectionDecision)
  (checkpoint : Checkpoint) (kind : ReflectionDecisionKind)

theorem accepted_iff :
    Accepted request = true ↔ ∃ reason, validateRecoveryRequestFieldRules request = .ok reason := by
  unfold Accepted
  cases validateRecoveryRequestFieldRules request <;> simp [Except.isOk, Except.toBool]

theorem exhausted_iff :
    Exhausted request = true ↔
      ∃ snapshot, request.runtimeBudgetSnapshot = some snapshot ∧
        snapshotIsExhausted snapshot = true := by
  unfold Exhausted
  simp [Option.any_eq_true]

theorem counted_iff :
    Counted request = true ↔ Accepted request = true ∧ Exhausted request = false := by
  simp [Counted]

theorem requestRetryCount_eq (h : request.checkpoint = some checkpoint) :
    requestRetryCount request = retryCountOf request checkpoint := by
  unfold requestRetryCount retryCountOf
  rw [h]
  rfl

/-! ## The branches -/

theorem not_replayable_of_kind (hdecision : request.reflectionDecision = some decision)
    (hkind : decision.decisionKind = some kind) (h : kind ≠ .continue_ ∧ kind ≠ .retryStep) :
    ¬ Replayable request := by
  rintro ⟨⟨decision', hdecision', hreplay⟩, -, -⟩
  rw [hdecision, Option.some.injEq] at hdecision'
  subst hdecision'
  rw [hkind] at hreplay
  simp only [Option.some.injEq] at hreplay
  rcases hreplay with hreplay | hreplay
  · exact h.1 hreplay
  · exact h.2 hreplay

/-- What a replay needs is read off the one report and the one checkpoint of the request. -/
theorem replayable_needs (report : IdempotencyAndSideEffectReport) (replaySafe : Bool)
    (hcheckpoint : request.checkpoint = some checkpoint)
    (hreport : request.idempotencyAndSideEffectReport = some report)
    (hsafe : report.replaySafe = some replaySafe) (h : Replayable request) :
    replaySafe = true ∧ (∃ key, report.idempotencyKey = some key ∧ key ≠ []) ∧
      Resumable checkpoint := by
  obtain ⟨-, ⟨report', key, hreport', hsafe', hkey⟩, ⟨checkpoint', hcheckpoint', hresumable⟩⟩ := h
  rw [hreport, Option.some.injEq] at hreport'
  rw [hcheckpoint, Option.some.injEq] at hcheckpoint'
  subst hreport' hcheckpoint'
  rw [hsafe, Option.some.injEq] at hsafe'
  exact ⟨hsafe', ⟨key, hkey⟩, hresumable⟩

theorem replayPlan_spec (checkpoint : Checkpoint)
    (report : IdempotencyAndSideEffectReport) (replaySafe : Bool)
    (hcounted : Counted request = true)
    (hdecision : request.reflectionDecision = some decision)
    (hdecisionKind : decision.decisionKind = some kind)
    (hkind : kind = .continue_ ∨ kind = .retryStep)
    (hcheckpoint : request.checkpoint = some checkpoint)
    (hreport : request.idempotencyAndSideEffectReport = some report)
    (hsafe : report.replaySafe = some replaySafe) :
    ∃ plan, replayPlan request checkpoint kind = .ok plan ∧ Planned request plan := by
  have hneeds := replayable_needs request checkpoint report replaySafe hcheckpoint hreport hsafe
  have hreadReport : (deref request.idempotencyAndSideEffectReport : Check _) = .ok report := by
    rw [deref_eq_ok, hreport]
  have hreadSafe : (deref report.replaySafe : Check _) = .ok replaySafe := by
    rw [deref_eq_ok, hsafe]
  unfold replayPlan
  simp only [hreadReport, hreadSafe, bind, Except.bind]
  cases replaySafe with
  | false =>
    refine ⟨_, rfl, .rejected _ _ hcounted fun h => ?_⟩
    cases (hneeds h).1
  | true =>
    simp only [Bool.not_true, Bool.false_eq_true, if_false]
    split
    · rename_i hkey
      refine ⟨_, rfl, .rejected _ _ hcounted fun h => ?_⟩
      obtain ⟨key, hkey', -⟩ := (hneeds h).2.1
      rw [hkey] at hkey'
      cases hkey'
    · rename_i hkey
      refine ⟨_, rfl, .rejected _ _ hcounted fun h => ?_⟩
      obtain ⟨key, hkey', hne⟩ := (hneeds h).2.1
      rw [hkey, Option.some.injEq] at hkey'
      exact hne hkey'.symm
    · rename_i key hne hkey
      obtain ⟨resume, hresume, houtcome⟩ := synthesizeResumePlan_spec checkpoint
      rw [hresume]
      rcases houtcome with ⟨hok, hresumable, resumePlan, hplan, hresumes⟩ | ⟨hrejected, hno⟩
      · simp only [hok, hplan, Bool.not_true, Bool.false_eq_true, if_false]
        refine ⟨_, rfl, .replayed _ _ resumePlan checkpoint hcounted ?_ ?_ hcheckpoint hresumes⟩
        · refine ⟨⟨decision, hdecision, ?_⟩, ⟨report, key, hreport, hsafe, hkey, ?_⟩,
            ⟨checkpoint, hcheckpoint, hresumable⟩⟩
          · rw [hdecisionKind, Option.some.injEq, Option.some.injEq]
            exact hkind
          · rintro rfl
            exact hne rfl
        · split
          · exact .inl rfl
          · exact .inr rfl
      · simp only [hrejected.1, Bool.not_false, if_true]
        exact ⟨_, rfl, .rejected _ _ hcounted fun h => hno (hneeds h).2.2⟩

theorem planDecision_spec (hcounted : Counted request = true)
    (hevidence : RequiredEvidence request) :
    ∃ checkpoint decision kind plan, request.checkpoint = some checkpoint ∧
      request.reflectionDecision = some decision ∧ decision.decisionKind = some kind ∧
      planDecision request checkpoint kind = .ok plan ∧ Planned request plan := by
  obtain ⟨decision, kind, hdecision, hkind, hconcrete⟩ := hevidence.reflectionDecision
  obtain ⟨checkpoint, _, hcheckpoint, -⟩ := hevidence.checkpoint
  obtain ⟨report, replaySafe, _, hreport, hsafe, -⟩ := hevidence.report
  refine ⟨checkpoint, decision, kind, ?_⟩
  have hother := not_replayable_of_kind request decision kind hdecision hkind
  have hreplay := fun h => replayPlan_spec request decision kind checkpoint report replaySafe
    hcounted hdecision hkind h hcheckpoint hreport hsafe
  rcases hconcrete with rfl | rfl | rfl | rfl
  · obtain ⟨plan, hplan, hplanned⟩ := hreplay (.inl rfl)
    exact ⟨plan, hcheckpoint, hdecision, hkind, hplan, hplanned⟩
  · obtain ⟨plan, hplan, hplanned⟩ := hreplay (.inr rfl)
    exact ⟨plan, hcheckpoint, hdecision, hkind, hplan, hplanned⟩
  · refine ⟨_, hcheckpoint, hdecision, hkind, rfl, ?_⟩
    unfold replanPlan
    split
    · exact .replanned _ hcounted (hother (by simp))
    · exact .rejected _ _ hcounted (hother (by simp))
  · exact ⟨_, hcheckpoint, hdecision, hkind, rfl, .aborted hcounted (hother (by simp))⟩

/-! ## The whole evaluation -/

/-- What `evaluate` leaves in the manager. -/
def RecoveryManager.counting (manager : RecoveryManager) (request : RecoveryRequest) :
    RecoveryManager :=
  if Counted request then
    { manager with lastEvaluatedRetryCount := some (requestRetryCount request + 1) }
  else manager

theorem evaluateRequest_spec :
    ∃ plan, manager.evaluateRequest request = .ok (manager.counting request, plan) ∧
      Planned request plan := by
  have hengaged := recoveryRequestFieldRules_engaged request
  have haccepted := accepted_iff request
  unfold RecoveryManager.evaluateRequest RecoveryManager.counting
  split
  · rename_i hguard
    exact absurd rfl (hengaged _ hguard)
  · rename_i hguard
    have hrefused : Accepted request = false := by
      rw [← Bool.not_eq_true, haccepted, hguard]
      rintro ⟨_, h⟩
      cases h
    rw [if_neg (by simp [Counted, hrefused])]
    exact ⟨_, rfl, .refused _ _ hrefused⟩
  · rename_i reason hguard
    have hok := haccepted.mpr ⟨reason, hguard⟩
    split
    · rename_i snapshot hfilter
      obtain ⟨hsnapshot, hexhausted⟩ := Option.filter_eq_some_iff.mp hfilter
      have hflag : Exhausted request = true := (exhausted_iff _).mpr ⟨_, hsnapshot, hexhausted⟩
      rw [if_neg (by simp [Counted, hflag])]
      exact ⟨_, rfl, .degraded snapshot hok hsnapshot hexhausted⟩
    · rename_i hfilter
      have hflag : Exhausted request = false := by
        rw [← Bool.not_eq_true, exhausted_iff]
        rintro ⟨snapshot, hsnapshot, hexhausted⟩
        rw [Option.filter_eq_some_iff.mpr ⟨hsnapshot, hexhausted⟩] at hfilter
        cases hfilter
      have hcounted := (counted_iff request).mpr ⟨hok, hflag⟩
      have hevidence := (recoveryRequestFieldRules_spec request reason hguard).2.2
      obtain ⟨checkpoint, decision, kind, plan, hcheckpoint, hdecision, hkind, hplan, hplanned⟩ :=
        planDecision_spec request hcounted hevidence
      rw [if_pos hcounted, requestRetryCount_eq request checkpoint hcheckpoint]
      refine ⟨plan, ?_, hplanned⟩
      simp only [hcheckpoint, hdecision, deref, hkind, hplan, bind, Except.bind]

theorem planned_action_ne_nil (plan : RecoveryExecutionPlan)
    (h : Planned request plan) : plan.plannedAction.isEmpty = false := by
  cases h with
  | replayed action detail resumePlan checkpoint hcounted hreplay haction =>
    rcases haction with rfl | rfl <;> rfl
  | refused | degraded | rejected | aborted | replanned => rfl

/-- `evaluate` always answers, with the plan for the kind of the request, and writes the
retry count down for the counted requests only. -/
theorem evaluate_spec :
    ∃ plan, manager.evaluate request = .ok (manager.counting request, plan) ∧
      Planned request plan := by
  obtain ⟨plan, hrequest, hplanned⟩ := evaluateRequest_spec manager request
  refine ⟨plan, ?_, hplanned⟩
  unfold RecoveryManager.evaluate
  rw [hrequest]
  simp only [bind, Except.bind, planned_action_ne_nil request plan hplanned]
  rfl

/-! ## A request to try things on -/

def sampleError : ErrorInfo where
  failureType := some .tool
  retryable := some true
  safeToReplan := some true
  details := ⟨some 5001, str "failed", str "tool_execution"⟩
  sourceRef := ⟨str "tool_call", str "tool-42"⟩

/-- A failed tool call that reflection wants to retry. -/
def sampleRequest : RecoveryRequest where
  reflectionDecision := some
    { requestId := some (str "req-200")
      decisionKind := some .retryStep
      rationale := some (str "retry")
      goalId := some (str "goal-200")
      confidence := some (.finite (4 / 5))
      relevantObservationRefs := some [str "obs-200"]
      hintRef := none
      createdAt := some 1700000200
      tags := none }
  errorInfo := some sampleError
  latestObservation := some
    { observationId := some (str "obs-200")
      source := some .toolExecution
      success := some false
      payload := some (str "failed")
      createdAt := some 1700000201
      error := some sampleError
      toolCallId := some (str "tool-42")
      workerTaskId := none
      requestId := some (str "req-200")
      goalId := some (str "goal-200")
      durationMs := some 81 }
  checkpoint := some
    { checkpointId := some (str "chk-200")
      state := some .running
      stepId := some (str "tool-call")
      workingMemorySnapshot := some (str "wm")
      pendingAction := some []
      requestId := some (str "req-200")
      goalId := none
      beliefStateRef := none
      retryCount := none
      createdAt := none
      tags := some (withRuntimeCheckpointVersionTags []) }
  idempotencyAndSideEffectReport := some ⟨some true, some (str "idem-200"), some false, none⟩
  retryCount := some 1
  runtimeBudgetSnapshot := none

def samplePlan : RecoveryExecutionPlan :=
  makeRecoveryExecutionPlan (str "retry_step")
    (str "retry_step admitted; reuse retry_idempotency_token=idem-200")
    (some
      { checkpointRef := str "chk-200"
        targetState := .reasoning
        checkpointState := .running
        resumeToken := []
        resumeReason := str "resume plan synthesized from checkpoint"
        pendingAction := some []
        policySnapshotRef := none
        requiresOperatorIntervention := false })

/-! ## What an admitted replay guarantees -/

/-- Everything that has to hold before a step with side effects may run again. -/
structure SafeToReplay (request : RecoveryRequest) (plan : RecoveryExecutionPlan) : Prop where
  requiredFields : ∃ reason, validateRecoveryRequestRequiredFields request = .ok reason
  boundary : ∃ reason, validateRecoveryRequestBoundary request = .ok reason
  fieldRules : ∃ reason, validateRecoveryRequestFieldRules request = .ok reason
  report : ∃ report idempotencyKey, request.idempotencyAndSideEffectReport = some report ∧
    report.replaySafe = some true ∧ report.idempotencyKey = some idempotencyKey ∧
    idempotencyKey ≠ []
  budget : ∀ snapshot, request.runtimeBudgetSnapshot = some snapshot →
    ∀ entry ∈ snapshot.entries, entry.current ≤ entry.max
  checkpoint : ∃ checkpoint state resumePlan,
    request.checkpoint = some checkpoint ∧ checkpoint.state = some state ∧
    (state = .running ∨ state = .paused ∨ state = .waitingConfirm ∨ state = .waitingTool) ∧
    (isWaitingCheckpointState state = true →
      ∃ action, checkpoint.pendingAction = some action ∧ action ≠ []) ∧
    plan.resumePlan = some resumePlan ∧
    toCheckpointState resumePlan.targetState = some state ∧
    checkpoint.checkpointId = some resumePlan.checkpointRef

theorem not_exhausted_within_max (h : Exhausted request = false)
    (snapshot : BudgetSnapshot) (hsnapshot : request.runtimeBudgetSnapshot = some snapshot) :
    ∀ entry ∈ snapshot.entries, entry.current ≤ entry.max := by
  intro entry hentry
  rw [← Bool.not_eq_true, exhausted_iff] at h
  apply UInt64.not_lt.mp
  intro hover
  apply h
  refine ⟨snapshot, hsnapshot, ?_⟩
  unfold snapshotIsExhausted
  rw [Bool.or_eq_true, List.any_eq_true]
  exact .inr ⟨entry, hentry, by simp [hover]⟩

theorem resumes_spec (resumePlan : ResumePlan)
    (h : Resumes resumePlan checkpoint) :
    ∃ state, checkpoint.state = some state ∧
      (state = .running ∨ state = .paused ∨ state = .waitingConfirm ∨ state = .waitingTool) ∧
      (isWaitingCheckpointState state = true →
        ∃ action, checkpoint.pendingAction = some action ∧ action ≠ []) ∧
      toCheckpointState resumePlan.targetState = some state ∧
      checkpoint.checkpointId = some resumePlan.checkpointRef := by
  refine ⟨resumePlan.checkpointState, h.checkpointState, (canResumeFrom_iff _).mp h.resumable, ?_,
    h.targetState, h.checkpointRef⟩
  intro hwait
  exact (hasNonEmptyValue_iff _).mp (h.pendingAction hwait)

/-- A plan that lets a step run again was made for a request that is safe to replay. -/
theorem replay_admission_safe (manager manager' : RecoveryManager) (request : RecoveryRequest)
    (plan : RecoveryExecutionPlan) (hevaluate : manager.evaluate request = .ok (manager', plan))
    (hexecutable : plan.executable = true)
    (haction : plan.plannedAction = str "retry_step" ∨ plan.plannedAction = str "continue") :
    SafeToReplay request plan := by
  obtain ⟨plan', hevaluate', hplanned⟩ := evaluate_spec manager request
  rw [hevaluate, Except.ok.injEq, Prod.mk.injEq] at hevaluate'
  obtain ⟨-, rfl⟩ := hevaluate'
  cases hplanned with
  | refused | degraded | rejected | aborted => cases hexecutable
  | replanned detail =>
    have hreplan : ¬ (str "replan" = str "retry_step" ∨ str "replan" = str "continue") := by decide
    exact absurd haction hreplan
  | replayed action detail resumePlan checkpoint hcounted hreplay _ hcheckpoint hresumes =>
    obtain ⟨haccepted, hbudget⟩ := (counted_iff request).mp hcounted
    obtain ⟨reason, hrules⟩ := (accepted_iff request).mp haccepted
    obtain ⟨hboundary, hrequired, -⟩ := recoveryRequestFieldRules_spec request reason hrules
    obtain ⟨state, hstate, hresumable, hpending, htarget, href⟩ :=
      resumes_spec checkpoint resumePlan hresumes
    exact {
      requiredFields := hrequired
      boundary := hboundary
      fieldRules := ⟨reason, hrules⟩
      report := hreplay.report
      budget := not_exhausted_within_max request hbudget
      checkpoint := ⟨checkpoint, state, resumePlan, hcheckpoint, hstate, hresumable, hpending, rfl,
        htarget, href⟩ }

theorem replay_admission_safe_sample : SafeToReplay sampleRequest samplePlan :=
  replay_admission_safe ⟨none, none⟩ ⟨some 2, none⟩ sampleRequest samplePlan (by decide +kernel) rfl
    (.inl rfl)

end Dasall.Runtime
