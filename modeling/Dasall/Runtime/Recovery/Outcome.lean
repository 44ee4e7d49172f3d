import Dasall.Runtime.Recovery.Plan
import Dasall.Lib.Run

/-!
# Whether the recovery pipeline passes its own guard

`execute` copies three texts into the outcome that can come from the request. The guard of
the outcome is stricter about them than the guard of the request.
-/

open Dasall.Lib.Text Dasall.Lib.Guard Dasall.Contracts Dasall.Lib.Run

namespace Dasall.Runtime

/-! ## Meaningful texts -/

variable (manager : RecoveryManager) (calls : List RecoveryCall) (code : RuntimeErrorCode)
  (request : RecoveryRequest) (call : RecoveryCall) (detail : Bytes) (plan : RecoveryExecutionPlan)

theorem makeDetail_content :
    recoveryOutcomeStringHasNonWhitespaceContent (makeDetail code detail) = true := by
  have hlabel : recoveryOutcomeStringHasNonWhitespaceContent (runtimeErrorCodeLabel code) = true := by
    cases code <;> decide
  unfold recoveryOutcomeStringHasNonWhitespaceContent at hlabel ⊢
  unfold makeDetail
  rw [List.any_append, List.any_append, hlabel]
  rfl

theorem runtimeStateName_content (state : RuntimeState) :
    recoveryOutcomeStringHasNonWhitespaceContent (runtimeStateName state) = true := by
  cases state <;> rfl

theorem meaningful_some (text : Bytes) :
    MeaningfulWhenPresent (some text) ↔
      recoveryOutcomeStringHasNonWhitespaceContent text = true := by
  simp [MeaningfulWhenPresent]

theorem meaningful_none : MeaningfulWhenPresent none := by
  simp [MeaningfulWhenPresent]

/-! ## Outcomes of each kind of plan -/

theorem rejection_valid :
    (manager.execute (rejectionPlan code detail)).Valid where
  executedAction := ⟨_, rfl, by decide⟩
  finalRuntimeState := ⟨_, rfl, by decide⟩
  checkpointRef := meaningful_none
  compensationResultRef := meaningful_none
  rejectionReason := (meaningful_some _).mpr (makeDetail_content code detail)
  escalationReason := meaningful_none
  exclusive := .inr rfl
  distinct := .inl rfl

theorem escalation_valid (hint : SafeFailureHint) :
    (manager.execute (makeRecoveryEscalationPlan detail hint)).Valid ↔
      recoveryOutcomeStringHasNonWhitespaceContent detail = true := by
  constructor
  · intro h
    exact h.escalationReason detail rfl
  · intro h
    exact {
      executedAction := ⟨_, rfl, by split <;> decide⟩
      finalRuntimeState := ⟨_, rfl, by split <;> decide⟩
      checkpointRef := meaningful_none
      compensationResultRef := meaningful_none
      rejectionReason := meaningful_none
      escalationReason := (meaningful_some _).mpr h
      exclusive := .inl rfl
      distinct := .inl rfl }

theorem execution_valid (action detail : Bytes)
    (resumePlan : Option ResumePlan)
    (haction : recoveryOutcomeStringHasNonWhitespaceContent action = true) :
    (manager.execute (makeRecoveryExecutionPlan action detail resumePlan)).Valid ↔
      MeaningfulWhenPresent (resumePlan.map (·.checkpointRef)) := by
  constructor
  · intro h
    exact h.checkpointRef
  · intro h
    exact {
      executedAction := ⟨_, rfl, haction⟩
      finalRuntimeState := by
        refine ⟨_, rfl, ?_⟩
        split
        · decide
        · cases resumePlan with
          | none => rfl
          | some plan => exact runtimeStateName_content plan.targetState
      checkpointRef := h
      compensationResultRef := meaningful_none
      rejectionReason := meaningful_none
      escalationReason := meaningful_none
      exclusive := .inl rfl
      distinct := .inr (.inl rfl) }

/-- The texts that reach the outcome unlabelled: the reason of an exhausted budget, and the
id of the checkpoint that a replay goes on from. -/
structure MeaningfulTexts (request : RecoveryRequest) : Prop where
  overallRejectReason : ∀ snapshot, Accepted request = true →
    request.runtimeBudgetSnapshot = some snapshot → snapshotIsExhausted snapshot = true →
    MeaningfulWhenPresent snapshot.overallRejectReason
  checkpointId : ∀ checkpoint, Counted request = true → Replayable request →
    request.checkpoint = some checkpoint → MeaningfulWhenPresent checkpoint.checkpointId

theorem meaningfulTexts_of_counted (hcounted : Counted request = true)
    (h : Replayable request → ∀ checkpoint, request.checkpoint = some checkpoint →
      MeaningfulWhenPresent checkpoint.checkpointId) : MeaningfulTexts request := by
  refine ⟨fun snapshot _ hsnapshot hexhausted => ?_, fun checkpoint _ hreplay hcheckpoint =>
    h hreplay checkpoint hcheckpoint⟩
  have hflag := (exhausted_iff request).mpr ⟨snapshot, hsnapshot, hexhausted⟩
  rw [((counted_iff request).mp hcounted).2] at hflag
  cases hflag

theorem meaningfulTexts_of_refused (h : Accepted request = false) :
    MeaningfulTexts request := by
  refine ⟨fun _ hok => ?_, fun _ hcounted => ?_⟩
  · rw [h] at hok
    cases hok
  · rw [counted_iff, h] at hcounted
    cases hcounted.1

theorem meaningfulTexts_of_exhausted (snapshot : BudgetSnapshot)
    (hsnapshot : request.runtimeBudgetSnapshot = some snapshot)
    (hexhausted : snapshotIsExhausted snapshot = true)
    (h : MeaningfulWhenPresent snapshot.overallRejectReason) : MeaningfulTexts request := by
  refine ⟨fun snapshot' _ hsnapshot' _ => ?_, fun _ hcounted => ?_⟩
  · rw [hsnapshot, Option.some.injEq] at hsnapshot'
    exact hsnapshot' ▸ h
  · have hflag := (exhausted_iff request).mpr ⟨snapshot, hsnapshot, hexhausted⟩
    rw [counted_iff, hflag] at hcounted
    cases hcounted.2

theorem degrade_valid (reason : Option Bytes) (default : Bytes)
    (hdefault : recoveryOutcomeStringHasNonWhitespaceContent default = true) :
    (manager.execute (makeDegradePlan (reason.getD default))).Valid ↔
      MeaningfulWhenPresent reason := by
  unfold makeDegradePlan
  rw [escalation_valid]
  cases reason with
  | none => exact iff_of_true hdefault meaningful_none
  | some reason => exact (meaningful_some reason).symm

/-- The outcome of a plan passes the guard exactly when those texts are meaningful. -/
theorem outcome_valid_iff (h : Planned request plan) :
    (manager.execute plan).Valid ↔ MeaningfulTexts request := by
  cases h with
  | refused code detail haccepted =>
    exact iff_of_true (rejection_valid manager code detail)
      (meaningfulTexts_of_refused request haccepted)
  | degraded snapshot haccepted hsnapshot hexhausted =>
    rw [degrade_valid manager _ _ (by decide)]
    exact ⟨meaningfulTexts_of_exhausted request snapshot hsnapshot hexhausted, fun htexts =>
      htexts.overallRejectReason snapshot haccepted hsnapshot hexhausted⟩
  | rejected code detail hcounted hreplay =>
    exact iff_of_true (rejection_valid manager code detail)
      (meaningfulTexts_of_counted request hcounted fun h => absurd h hreplay)
  | aborted hcounted hreplay =>
    exact iff_of_true ((escalation_valid manager _ _).mpr (by decide))
      (meaningfulTexts_of_counted request hcounted fun h => absurd h hreplay)
  | replanned detail hcounted hreplay =>
    exact iff_of_true ((execution_valid manager _ detail none (by decide)).mpr meaningful_none)
      (meaningfulTexts_of_counted request hcounted fun h => absurd h hreplay)
  | replayed action detail resumePlan checkpoint hcounted hreplay haction hcheckpoint hresumes =>
    have hcontent : recoveryOutcomeStringHasNonWhitespaceContent action = true := by
      rcases haction with rfl | rfl <;> decide
    rw [execution_valid manager action detail _ hcontent, Option.map_some,
      ← hresumes.checkpointRef]
    constructor
    · intro htext
      refine meaningfulTexts_of_counted request hcounted fun _ checkpoint' hcheckpoint' => ?_
      rw [hcheckpoint, Option.some.injEq] at hcheckpoint'
      subst hcheckpoint'
      exact htext
    · intro htexts
      exact htexts.checkpointId checkpoint hcounted hreplay hcheckpoint

/-! ## The pipeline -/

open RecoveryManager

theorem apply_spec (outcome : RecoveryOutcome) (h : outcome.Valid) :
    ∃ manager' result, manager.apply outcome = .ok (manager', result) ∧
      (result.applied = false ↔ outcome.executedAction = some (str "rejected")) := by
  obtain ⟨reason, hguard⟩ := (validateRecoveryOutcomeFieldRules_spec outcome).mpr h
  obtain ⟨action, haction, -⟩ := h.executedAction
  unfold apply
  rw [hguard, haction]
  have hread : (deref (some action) : Check Bytes) = .ok action := rfl
  simp only [hread, bind, Except.bind, beq_iff_eq, Option.some.injEq]
  split
  · exact ⟨_, _, rfl, iff_of_true rfl ‹_›⟩
  · rename_i hother
    split
    · exact ⟨_, _, rfl, iff_of_false (by simp) hother⟩
    · split
      · exact ⟨_, _, rfl, iff_of_false (by simp) hother⟩
      · exact ⟨_, _, rfl, iff_of_false (by simp) hother⟩

theorem executedAction_rejected (h : Planned request plan) :
    (manager.execute plan).executedAction = some (str "rejected") ↔
      ¬ (plan.executable = true ∨ plan.escalated = true) := by
  cases h with
  | refused | rejected => exact iff_of_true rfl (by rintro (h | h) <;> cases h)
  | degraded =>
    refine iff_of_false ?_ fun hno => hno (.inr rfl)
    intro heq
    exact absurd (Option.some.inj heq : str "degrade" = _) (by decide)
  | aborted =>
    refine iff_of_false ?_ fun hno => hno (.inr rfl)
    intro heq
    exact absurd (Option.some.inj heq : str "abort_safe" = _) (by decide)
  | replanned detail =>
    refine iff_of_false ?_ fun hno => hno (.inl rfl)
    intro heq
    exact absurd (Option.some.inj heq : str "replan" = _) (by decide)
  | replayed action detail resumePlan checkpoint _ _ haction =>
    refine iff_of_false ?_ fun hno => hno (.inl rfl)
    intro heq
    have hrejected : action = str "rejected" := Option.some.inj heq
    rcases haction with rfl | rfl <;> exact absurd hrejected (by decide)

/-- `evaluate` answers, the outcome of its plan passes the guard of outcomes, and `apply`
turns away the rejected outcomes only. -/
def PipelineClosed (manager : RecoveryManager) (request : RecoveryRequest) : Prop :=
  ∃ evaluated plan, manager.evaluate request = .ok (evaluated, plan) ∧
    (∃ reason, validateRecoveryOutcomeFieldRules (evaluated.execute plan) = .ok reason) ∧
    ∃ applied result, evaluated.apply (evaluated.execute plan) = .ok (applied, result) ∧
      (plan.executable = true ∨ plan.escalated = true → result.applied = true) ∧
      (result.applied = false → (evaluated.execute plan).executedAction = some (str "rejected"))

/-- The pipeline is closed for the requests whose texts are meaningful, and for no others. -/
theorem pipeline_closed_iff (manager : RecoveryManager) (request : RecoveryRequest) :
    (∃ evaluated plan, manager.evaluate request = .ok (evaluated, plan)) ∧
    (PipelineClosed manager request ↔ MeaningfulTexts request) := by
  obtain ⟨plan, hevaluate, hplanned⟩ := evaluate_spec manager request
  have hvalid := outcome_valid_iff (manager.counting request) request plan hplanned
  refine ⟨⟨_, plan, hevaluate⟩, ?_, ?_⟩
  · rintro ⟨evaluated, plan', hevaluate', hguard, -⟩
    rw [hevaluate, Except.ok.injEq, Prod.mk.injEq] at hevaluate'
    obtain ⟨rfl, rfl⟩ := hevaluate'
    exact hvalid.mp ((validateRecoveryOutcomeFieldRules_spec _).mp hguard)
  · intro htexts
    have hok := hvalid.mpr htexts
    obtain ⟨applied, result, happly, hresult⟩ := apply_spec (manager.counting request) _ hok
    refine ⟨_, plan, hevaluate, (validateRecoveryOutcomeFieldRules_spec _).mpr hok, applied, result,
      happly, ?_, hresult.mp⟩
    intro hgoes
    rw [← Bool.not_eq_false, hresult, executedAction_rejected _ request plan hplanned]
    exact not_not_intro hgoes

/-- The sample with its budget used up, under a reason that is there but empty. -/
def blankReasonRequest : RecoveryRequest :=
  { sampleRequest with
    runtimeBudgetSnapshot := some
      ⟨some 1, [⟨.replan, 2, 1, -1, some (str "replan exhausted")⟩], some []⟩ }

theorem pipeline_not_closed : ¬ ∀ manager request, PipelineClosed manager request := by
  intro h
  obtain ⟨evaluated, plan, hevaluate, ⟨reason, hguard⟩, -⟩ := h ⟨none, none⟩ blankReasonRequest
  have hdegraded : (RecoveryManager.mk none none).evaluate blankReasonRequest =
      .ok (⟨none, none⟩, makeDegradePlan []) := by decide +kernel
  rw [hdegraded, Except.ok.injEq, Prod.mk.injEq] at hevaluate
  obtain ⟨rfl, rfl⟩ := hevaluate
  have hblank : (validateRecoveryOutcomeFieldRules
      ((RecoveryManager.mk none none).execute (makeDegradePlan []))).isOk = false := by decide +kernel
  rw [hguard] at hblank
  cases hblank

/-!
## Whose retry count an outcome carries

The count in the manager is that of the last counted request, whichever plan is executed.
-/

inductive RecoveryCall
  | evaluate (request : RecoveryRequest)
  | execute (plan : RecoveryExecutionPlan)
  | apply (outcome : RecoveryOutcome)

inductive RecoveryAnswer
  | plan (plan : RecoveryExecutionPlan)
  | outcome (outcome : RecoveryOutcome)
  | applied (result : RecoveryApplyResult)
  | threw
deriving DecidableEq

namespace RecoveryManager

def fresh : RecoveryManager := ⟨none, none⟩

def step (manager : RecoveryManager) : RecoveryCall → RecoveryManager × RecoveryAnswer
  | .evaluate request =>
    match manager.evaluate request with
    | .ok (manager, plan) => (manager, .plan plan)
    | .error _ => (manager, .threw)
  | .execute plan => (manager, .outcome (manager.execute plan))
  | .apply outcome =>
    match manager.apply outcome with
    | .ok (manager, result) => (manager, .applied result)
    | .error _ => (manager, .threw)

end RecoveryManager

/-! ## The count in the manager -/

def countedRequest : RecoveryCall → Option RecoveryRequest
  | .evaluate request => if Counted request then some request else none
  | .execute _ | .apply _ => none

/-- The last request that made `evaluate` write its count. -/
def lastCounted (calls : List RecoveryCall) : Option RecoveryRequest :=
  (calls.filterMap countedRequest).getLast?

theorem lastCounted_snoc :
    lastCounted (calls ++ [call]) = (countedRequest call).or (lastCounted calls) := by
  unfold lastCounted
  rw [List.filterMap_append]
  cases h : countedRequest call <;> simp [h]

theorem step_evaluate :
    ∃ plan, manager.step (.evaluate request) = (manager.counting request, .plan plan) := by
  obtain ⟨plan, hevaluate, -⟩ := evaluate_spec manager request
  refine ⟨plan, ?_⟩
  simp only [step, hevaluate]

theorem apply_retryCount (manager' : RecoveryManager) (outcome : RecoveryOutcome)
    (result : RecoveryApplyResult) (h : manager.apply outcome = .ok (manager', result)) :
    manager'.lastEvaluatedRetryCount = manager.lastEvaluatedRetryCount := by
  unfold apply at h
  split at h
  · cases h
  · cases h; rfl
  · simp only [bind_eq_ok, deref_eq_ok] at h
    obtain ⟨action, -, h⟩ := h
    repeat' split at h
    all_goals cases h; rfl

/-- A step writes the count of the request it counts, and no other step writes it. -/
theorem step_retryCount :
    (manager.step call).1.lastEvaluatedRetryCount =
      ((countedRequest call).map (requestRetryCount · + 1)).or
        manager.lastEvaluatedRetryCount := by
  cases call with
  | evaluate request =>
    obtain ⟨plan, hstep⟩ := step_evaluate manager request
    rw [hstep]
    simp only [counting, countedRequest]
    split <;> rfl
  | execute plan => rfl
  | apply outcome =>
    simp only [step, countedRequest]
    cases happly : manager.apply outcome with
    | ok answer => exact apply_retryCount manager answer.1 outcome answer.2 happly
    | error stop => rfl

theorem run_retryCount :
    (run step .fresh calls).1.lastEvaluatedRetryCount =
      (lastCounted calls).map (requestRetryCount · + 1) := by
  induction calls using List.reverseRecOn with
  | nil => rfl
  | append_singleton calls call ih =>
    rw [run_snoc, step_retryCount, ih, lastCounted_snoc]
    cases countedRequest call <;> rfl

theorem execute_retryCount :
    (manager.execute plan).updatedRetryCount = manager.lastEvaluatedRetryCount := by
  unfold execute
  split
  · split <;> rfl
  · rfl

/-! ## Accounting -/

/-- The outcome counts one more try than the request had behind it. -/
def Accounts (outcome : RecoveryOutcome) (request : RecoveryRequest) : Prop :=
  ∃ count, outcome.updatedRetryCount = some count ∧
    count.toNat = (requestRetryCount request).toNat + 1 ∧
    (requestRetryCount request).toNat ≤ count.toNat

/-- A request is evaluated between other calls, and the plan it got is executed last. -/
def RetryAccounted (before between : List RecoveryCall) (request : RecoveryRequest) : Prop :=
  ∃ plan outcome,
    (run RecoveryManager.step .fresh
      (before ++ .evaluate request :: (between ++ [.execute plan]))).2[before.length]? =
        some (.plan plan) ∧
    (run RecoveryManager.step .fresh
      (before ++ .evaluate request :: (between ++ [.execute plan]))).2.getLast? =
        some (.outcome outcome) ∧
    Accounts outcome request

theorem count_succ_iff (counted count : UInt32) :
    (counted + 1).toNat = count.toNat + 1 ↔ counted = count ∧ count ≠ 2 ^ 32 - 1 := by
  rw [UInt32.toNat_add, ← UInt32.toNat_inj, Ne, ← UInt32.toNat_inj]
  have hcounted := counted.toNat_lt
  have hcount := count.toNat_lt
  have hone : (1 : UInt32).toNat = 1 := rfl
  have hmax : ((2 : UInt32) ^ 32 - 1).toNat = 2 ^ 32 - 1 := rfl
  omega

/-- The outcome accounts for the request exactly when the last counted request before it
has the same count, below the largest one. -/
theorem retry_accounting_iff (before between : List RecoveryCall) (request : RecoveryRequest) :
    RetryAccounted before between request ↔
      (∃ counted, lastCounted (before ++ .evaluate request :: between) = some counted ∧
        requestRetryCount counted = requestRetryCount request) ∧
      requestRetryCount request ≠ 2 ^ 32 - 1 := by
  have hcalls : ∀ plan, before ++ .evaluate request :: (between ++ [.execute plan]) =
      (before ++ .evaluate request :: between) ++ [.execute plan] := by
    intro plan
    rw [List.append_assoc, List.cons_append]
  have hcount := run_retryCount (before ++ .evaluate request :: between)
  constructor
  · rintro ⟨plan, outcome, -, houtcome, count, hupdated, hnext, -⟩
    rw [hcalls, answer_last, Option.some.injEq] at houtcome
    cases houtcome
    rw [execute_retryCount, hcount, Option.map_eq_some_iff] at hupdated
    obtain ⟨counted, hcounted, rfl⟩ := hupdated
    obtain ⟨hsame, hmax⟩ := (count_succ_iff _ _).mp hnext
    exact ⟨⟨counted, hcounted, hsame⟩, hmax⟩
  · rintro ⟨⟨counted, hcounted, hsame⟩, hmax⟩
    obtain ⟨plan, hstep⟩ := step_evaluate (run RecoveryManager.step .fresh before).1 request
    have hnext := (count_succ_iff _ _).mpr ⟨hsame, hmax⟩
    let last := (run RecoveryManager.step .fresh (before ++ .evaluate request :: between)).1
    refine ⟨plan, last.execute plan, ?_, ?_, requestRetryCount counted + 1, ?_, hnext, by omega⟩
    · rw [answer_at, hstep]
    · rw [hcalls, answer_last]
      rfl
    · rw [execute_retryCount, hcount, hcounted]
      rfl

/-- The sample, from a checkpoint that was tried seven times. -/
def otherRequest : RecoveryRequest := { sampleRequest with retryCount := some 7 }

theorem retry_not_accounted :
    ¬ ∀ before between request, RetryAccounted before between request := by
  intro h
  obtain ⟨plan, outcome, -, houtcome, count, hcount, hnext, -⟩ :=
    h [] [.evaluate otherRequest] sampleRequest
  have hlast := answer_last RecoveryManager.step .fresh
    [.evaluate sampleRequest, .evaluate otherRequest] (.execute plan)
  have hwritten : (run RecoveryManager.step .fresh
      [.evaluate sampleRequest, .evaluate otherRequest]).1.lastEvaluatedRetryCount = some 8 := by
    decide +kernel
  rw [show [] ++ RecoveryCall.evaluate sampleRequest :: ([.evaluate otherRequest] ++
      [.execute plan]) = [.evaluate sampleRequest, .evaluate otherRequest] ++ [.execute plan]
      from rfl, hlast, Option.some.injEq] at houtcome
  cases houtcome
  rw [execute_retryCount, hwritten, Option.some.injEq] at hcount
  subst hcount
  exact absurd hnext (by decide)

end Dasall.Runtime
