import Dasall.Tools.Execution.Batches

/-!
# Executions of a plan

Whatever the executors do, a step is dispatched once at most and after all it depends on has
succeeded, and the receipt says what became of every step.
-/

open Dasall.Contracts Dasall.Contracts.Tool Dasall.Infra.Policy Dasall.Lib Dasall.Lib.Text

namespace Dasall.Tools.Execution

variable {World : Type}

def succeeded (stepReceipt : WorkflowStepReceipt) : Bool :=
  stepReceipt.result.success.getD false

def hasSideEffects (stepReceipt : WorkflowStepReceipt) : Bool :=
  !(stepReceipt.result.sideEffects.getD []).isEmpty

def allowsPartialSideEffect (plan : WorkflowPlan) (stepId : Bytes) : Bool :=
  plan.steps.any fun step => step.stepId = stepId && step.allowPartialSideEffect

/-- A step with side effects that succeeded or may leave some of them. -/
def compensable (plan : WorkflowPlan) (stepReceipt : WorkflowStepReceipt) : Bool :=
  hasSideEffects stepReceipt &&
    (succeeded stepReceipt || allowsPartialSideEffect plan stepReceipt.stepId)

/-- The hint for a step. -/
def hintOf (stepReceipt : WorkflowStepReceipt) : ToolCompensationHint :=
  hintOfRecord
    { stepId := stepReceipt.stepId
      routeKind := stepReceipt.routeKind
      toolCallId := stepReceipt.result.toolCallId
      toolName := stepReceipt.result.toolName
      sideEffects := stepReceipt.result.sideEffects.getD []
      evidenceRefs := collectEvidenceRefs stepReceipt.stepId stepReceipt.result }

def stepReceiptOf (step : WorkflowStep) (dispatchResult : WorkflowStepDispatchResult) :
    WorkflowStepReceipt where
  stepId := step.stepId
  routeKind := dispatchResult.routeKind
  result := dispatchResult.result
  mappedArguments := dispatchResult.mappedArguments
  evidenceRefs := dispatchResult.evidenceRefs

/-! ## One step -/

variable (dependencies : WorkflowEngineDependencies World) (receipt : WorkflowReceipt)
  (plan : WorkflowPlan) (workflowIr : ToolIR) (state : WorkflowRun World) (world : World)
  (step : WorkflowStep) (dispatchResult : WorkflowStepDispatchResult)

theorem collectStepResult_stepResults :
    (collectStepResult receipt step dispatchResult).stepResults =
      receipt.stepResults ++ [stepReceiptOf step dispatchResult] := by
  unfold collectStepResult
  simp only
  split <;> rfl

theorem collectStepResult_cases :
    (succeeded (stepReceiptOf step dispatchResult) = true ∧
      (collectStepResult receipt step dispatchResult).status = receipt.status ∧
      (collectStepResult receipt step dispatchResult).completedStepIds =
        receipt.completedStepIds ++ [step.stepId] ∧
      (collectStepResult receipt step dispatchResult).failedStepId = receipt.failedStepId) ∨
    (succeeded (stepReceiptOf step dispatchResult) = false ∧
      (collectStepResult receipt step dispatchResult).status = str "failed" ∧
      (collectStepResult receipt step dispatchResult).completedStepIds = receipt.completedStepIds ∧
      (collectStepResult receipt step dispatchResult).failedStepId = some step.stepId) := by
  unfold collectStepResult succeeded stepReceiptOf
  simp only
  split
  · next hsuccess => exact .inl ⟨hsuccess, rfl, rfl, rfl⟩
  · next hfailure => exact .inr ⟨by simpa using hfailure, rfl, rfl, rfl⟩

theorem allowsPartialSideEffect_step (hids : (stepIds plan).Nodup)
    (step : WorkflowStep) (hstep : step ∈ plan.steps) :
    allowsPartialSideEffect plan step.stepId = step.allowPartialSideEffect := by
  rw [Bool.eq_iff_iff, allowsPartialSideEffect, List.any_eq_true]
  constructor
  · rintro ⟨other, hother, hallows⟩
    rw [Bool.and_eq_true, decide_eq_true_eq] at hallows
    rw [← List.inj_on_of_nodup_map hids hother hstep hallows.1]
    exact hallows.2
  · intro hallows
    exact ⟨step, hstep, by simp [hallows]⟩

/-- A step adds one record when it has side effects, and one hint when it can be compensated. -/
theorem registerStep_spec (hids : (stepIds plan).Nodup)
    (ledger : CompensationLedger) (step : WorkflowStep) (hstep : step ∈ plan.steps)
    (hnew : ∀ record ∈ ledger, record.stepId ≠ step.stepId)
    (dispatchResult : WorkflowStepDispatchResult) :
    buildHints (registerStep ledger step dispatchResult) =
        (if compensable plan (stepReceiptOf step dispatchResult) then
          [hintOf (stepReceiptOf step dispatchResult)] else []) ++ buildHints ledger ∧
      ∀ record ∈ registerStep ledger step dispatchResult,
        record ∈ ledger ∨ record.stepId = step.stepId := by
  have hallows := allowsPartialSideEffect_step plan hids step hstep
  have hput : ∀ reversible, (dispatchResult.result.sideEffects.getD []).isEmpty = false →
      registerResult ledger step.stepId dispatchResult.routeKind dispatchResult.result reversible =
        ledger ++ [{
          stepId := step.stepId
          routeKind := dispatchResult.routeKind
          toolCallId := dispatchResult.result.toolCallId
          toolName := dispatchResult.result.toolName
          sideEffects := dispatchResult.result.sideEffects.getD []
          evidenceRefs := collectEvidenceRefs step.stepId dispatchResult.result
          reversible }] := by
    intro reversible heffects
    unfold registerResult buildRecord
    rw [if_neg (by simp [heffects])]
    exact put_new _ ledger hnew
  unfold registerStep
  by_cases heffects : (dispatchResult.result.sideEffects.getD []).isEmpty = true
  · have hnot : compensable plan (stepReceiptOf step dispatchResult) = false := by
      simp [compensable, hasSideEffects, stepReceiptOf, heffects]
    rw [if_pos heffects, hnot]
    refine ⟨rfl, ?_⟩
    intro record hrecord
    exact .inl hrecord
  · rw [Bool.not_eq_true] at heffects
    have hcompensable : compensable plan (stepReceiptOf step dispatchResult) =
        (dispatchResult.result.success.getD false || step.allowPartialSideEffect) := by
      simp [compensable, hasSideEffects, succeeded, stepReceiptOf, heffects, hallows]
    rw [if_neg (by simp [heffects]), hcompensable]
    by_cases hkept : (dispatchResult.result.success.getD false || step.allowPartialSideEffect) = true
    · rw [if_pos hkept, if_pos hkept, hput true heffects, buildHints_append]
      refine ⟨?_, ?_⟩
      · simp [buildHints, heffects, hintOf, stepReceiptOf]
      · intro record hrecord
        rw [List.mem_append, List.mem_singleton] at hrecord
        exact hrecord.imp_right fun hlast => by rw [hlast]
    · rw [if_neg hkept, if_neg hkept, recordIrreversibleEffect, hput false heffects,
        buildHints_append]
      refine ⟨?_, ?_⟩
      · simp [buildHints]
      · intro record hrecord
        rw [List.mem_append, List.mem_singleton] at hrecord
        exact hrecord.imp_right fun hlast => by rw [hlast]

/-- What the loop keeps of the steps it has dispatched. -/
structure Recorded (plan : WorkflowPlan) (state : WorkflowRun World) (before : List Bytes) :
    Prop where
  dispatched : state.dispatched = before
  stepResults : state.receipt.stepResults.map (·.stepId) = before
  hints : buildHints state.compensationLedger =
    (state.receipt.stepResults.reverse.filter (compensable plan)).map hintOf
  records : ∀ record ∈ state.compensationLedger, record.stepId ∈ before

theorem recorded_runStep
    (hids : (stepIds plan).Nodup) (state : WorkflowRun World) (before : List Bytes)
    (h : Recorded plan state before) (step : WorkflowStep) (hstep : step ∈ plan.steps)
    (hnew : step.stepId ∉ before) :
    Recorded plan (runStep dependencies plan state step) (before ++ [step.stepId]) := by
  obtain ⟨hhints, hrecords⟩ := registerStep_spec plan hids state.compensationLedger step hstep
    (fun record hrecord hsame => hnew (hsame ▸ h.records record hrecord))
    (dispatchStep dependencies plan step state.receipt.stepResults state.delegationCount
      state.world).1
  constructor
  · simp [runStep, h.dispatched]
  · simp [runStep, collectStepResult_stepResults, h.stepResults, stepReceiptOf]
  · simp only [runStep, collectStepResult_stepResults, hhints, h.hints]
    rw [List.reverse_append, List.reverse_singleton, List.singleton_append, List.filter_cons]
    split <;> simp
  · intro record hrecord
    rcases hrecords record hrecord with hold | hlast
    · exact List.mem_append_left _ (h.records record hold)
    · rw [hlast]
      simp

/-! ## The loop -/

/-- The loop goes on: all it has dispatched has succeeded. -/
structure Running (plan : WorkflowPlan) (state : WorkflowRun World) (before : List Bytes) : Prop
    extends Recorded plan state before where
  status : state.receipt.status = str "completed"
  completed : state.receipt.completedStepIds = before
  failed : state.receipt.failedStepId = none
  succeeded : ∀ stepReceipt ∈ state.receipt.stepResults, succeeded stepReceipt = true

/-- The loop has been left at a step that failed. -/
structure Stopped (plan : WorkflowPlan) (state : WorkflowRun World) (before : List Bytes)
    (stepId : Bytes) : Prop extends Recorded plan state (before ++ [stepId]) where
  status : state.receipt.status = str "failed"
  completed : state.receipt.completedStepIds = before
  failed : state.receipt.failedStepId = some stepId
  last : ∃ prior stepReceipt, state.receipt.stepResults = prior ++ [stepReceipt] ∧
    (∀ earlier ∈ prior, Execution.succeeded earlier = true) ∧
      Execution.succeeded stepReceipt = false

theorem runStep_receipt :
    (runStep dependencies plan state step).receipt =
      collectStepResult state.receipt step (dispatchStep dependencies plan step
        state.receipt.stepResults state.delegationCount state.world).1 := rfl

theorem runStep_running
    (hids : (stepIds plan).Nodup) (state : WorkflowRun World) (before : List Bytes)
    (h : Running plan state before) (step : WorkflowStep) (hstep : step ∈ plan.steps)
    (hnew : step.stepId ∉ before) :
    Running plan (runStep dependencies plan state step) (before ++ [step.stepId]) ∨
      Stopped plan (runStep dependencies plan state step) before step.stepId := by
  have hrecorded := recorded_runStep dependencies plan hids state before h.toRecorded step hstep hnew
  have hresults := collectStepResult_stepResults state.receipt step
    (dispatchStep dependencies plan step state.receipt.stepResults state.delegationCount
      state.world).1
  rcases collectStepResult_cases state.receipt step (dispatchStep dependencies plan step
      state.receipt.stepResults state.delegationCount state.world).1 with
    ⟨hsuccess, hstatus, hcompleted, hfailed⟩ | ⟨hfailure, hstatus, hcompleted, hfailed⟩
  · left
    refine ⟨hrecorded, hstatus.trans h.status, ?_, hfailed.trans h.failed, ?_⟩
    · rw [← h.completed]
      exact hcompleted
    · intro stepReceipt hmem
      rw [runStep_receipt, hresults, List.mem_append, List.mem_singleton] at hmem
      rcases hmem with hearlier | rfl
      · exact h.succeeded stepReceipt hearlier
      · exact hsuccess
  · right
    exact ⟨hrecorded, hstatus, hcompleted.trans h.completed, hfailed, _, _, hresults, h.succeeded,
      hfailure⟩

theorem runSteps_spec
    (hids : (stepIds plan).Nodup) (state : WorkflowRun World) (before rest : List Bytes)
    (h : Running plan state before) (hnodup : (before ++ rest).Nodup)
    (hsteps : ∀ stepId ∈ rest, stepId ∈ stepIds plan) :
    Running plan (runSteps dependencies plan state rest) (before ++ rest) ∨
      ∃ earlier stepId later, before ++ rest = earlier ++ stepId :: later ∧
        Stopped plan (runSteps dependencies plan state rest) earlier stepId := by
  induction rest generalizing state before with
  | nil =>
    left
    rw [List.append_nil]
    exact h
  | cons stepId rest ih =>
    obtain ⟨step, hstep, hid⟩ := List.mem_map.mp (hsteps stepId (by simp))
    have hfound : ∃ found, (plan.steps.find? fun step => step.stepId = stepId) = some found ∧
        found ∈ plan.steps ∧ found.stepId = stepId := by
      have hsome : (plan.steps.find? fun step => step.stepId = stepId).isSome = true := by
        rw [List.find?_isSome]
        exact ⟨step, hstep, by simpa using hid⟩
      obtain ⟨found, hfind⟩ := Option.isSome_iff_exists.mp hsome
      exact ⟨found, hfind, List.mem_of_find?_eq_some hfind, by simpa using List.find?_some hfind⟩
    obtain ⟨found, hfind, hmem, rfl⟩ := hfound
    have hnew : found.stepId ∉ before := by
      intro hbefore
      exact (List.nodup_append.mp hnodup).2.2 _ hbefore _ (by simp) rfl
    have hassoc : before ++ found.stepId :: rest = (before ++ [found.stepId]) ++ rest := by simp
    unfold runSteps
    simp only [hfind]
    rcases runStep_running dependencies plan hids state before h found hmem hnew with
      hrunning | hstopped
    · rw [if_neg (by rw [hrunning.status]; decide), hassoc]
      apply ih _ _ hrunning
      · rw [← hassoc]
        exact hnodup
      · intro other hother
        exact hsteps other (List.mem_cons_of_mem _ hother)
    · right
      rw [if_pos hstopped.status]
      exact ⟨before, found.stepId, rest, rfl, hstopped⟩

/-! ## The receipt -/

/-- What a receipt says of an execution that dispatched these steps. -/
structure SafeRun (plan : WorkflowPlan) (receipt : WorkflowReceipt) (dispatched : List Bytes) :
    Prop where
  once : dispatched.Nodup
  recorded : receipt.stepResults.map (·.stepId) = dispatched
  afterDependencies : ∀ before stepReceipt after,
    receipt.stepResults = before ++ stepReceipt :: after →
      ∀ source, DependsOn plan stepReceipt.stepId source →
        ∃ earlier ∈ before, earlier.stepId = source ∧ succeeded earlier = true
  nothingAfterFailure : ∀ before stepReceipt after,
    receipt.stepResults = before ++ stepReceipt :: after → succeeded stepReceipt = false →
      after = []
  completed : ∀ stepId, stepId ∈ receipt.completedStepIds ↔
    ∃ stepReceipt ∈ receipt.stepResults,
      stepReceipt.stepId = stepId ∧ succeeded stepReceipt = true
  partition : (receipt.completedStepIds ++ receipt.skippedStepIds ++
    receipt.failedStepId.toList).Perm (stepIds plan)
  status : receipt.status = str "completed" ↔
    ∀ stepId ∈ stepIds plan, stepId ∈ receipt.completedStepIds
  hints : receipt.compensationHints =
    (receipt.stepResults.reverse.filter (compensable plan)).map hintOf

/-- What a receipt says of a plan that is refused. -/
structure RefusedRun (receipt : WorkflowReceipt) (dispatched : List Bytes) : Prop where
  status : receipt.status = str "rejected"
  dispatched : dispatched = []
  stepResults : receipt.stepResults = []
  completed : receipt.completedStepIds = []
  skipped : receipt.skippedStepIds = []
  failed : receipt.failedStepId = none
  hints : receipt.compensationHints = []

theorem earlier_of_dependsOn (hok : (buildBatches plan).ok = true)
    (stepResults : List WorkflowStepReceipt) (later : List Bytes)
    (horder : (buildBatches plan).batches.flatten = stepResults.map (·.stepId) ++ later)
    (before : List WorkflowStepReceipt) (stepReceipt : WorkflowStepReceipt)
    (after : List WorkflowStepReceipt) (hsplit : stepResults = before ++ stepReceipt :: after)
    (source : Bytes) (hsource : DependsOn plan stepReceipt.stepId source) :
    ∃ earlier ∈ before, earlier.stepId = source := by
  have hwhole : (buildBatches plan).batches.flatten =
      before.map (·.stepId) ++ stepReceipt.stepId :: (after.map (·.stepId) ++ later) := by
    rw [horder, hsplit]
    simp
  have hmem := (buildBatches_spec plan hok).2.2 _ _ _ hwhole source hsource
  exact List.mem_map.mp hmem

theorem nodup_perm_of_mem_iff (first second : List Bytes) (hfirst : first.Nodup)
    (hsecond : second.Nodup) (h : ∀ stepId, stepId ∈ first ↔ stepId ∈ second) :
    first.Perm second :=
  (List.perm_ext_iff_of_nodup hfirst hsecond).mpr h

theorem safeRun_running (hok : (buildBatches plan).ok = true)
    (state : WorkflowRun World)
    (h : Running plan state (buildBatches plan).batches.flatten) :
    SafeRun plan
      { state.receipt with
        skippedStepIds := skippedStepIds plan state.receipt
        compensationHints := buildHints state.compensationLedger } state.dispatched := by
  obtain ⟨hids, hperm, -⟩ := buildBatches_spec plan hok
  have hskipped : skippedStepIds plan state.receipt = [] := by
    unfold skippedStepIds
    rw [List.filter_eq_nil_iff]
    intro stepId hmem
    rw [h.completed]
    have : stepId ∈ (buildBatches plan).batches.flatten := hperm.mem_iff.mpr hmem
    simp only [List.contains_iff_mem.mpr this, Bool.not_true, Bool.false_and, Bool.false_eq_true,
      not_false_eq_true]
  constructor
  · rw [h.dispatched]
    exact hperm.nodup_iff.mpr hids
  · exact h.stepResults.trans h.dispatched.symm
  · intro before stepReceipt after hsplit source hsource
    obtain ⟨earlier, hearlier, hid⟩ := earlier_of_dependsOn plan hok state.receipt.stepResults []
      (by rw [h.stepResults, List.append_nil]) before stepReceipt after hsplit source hsource
    refine ⟨earlier, hearlier, hid, h.succeeded earlier ?_⟩
    rw [hsplit]
    exact List.mem_append_left _ hearlier
  · intro before stepReceipt after hsplit hfailed
    have := h.succeeded stepReceipt (by rw [hsplit]; simp)
    rw [hfailed] at this
    simp at this
  · intro stepId
    simp only
    rw [h.completed, ← h.stepResults, List.mem_map]
    constructor
    · rintro ⟨stepReceipt, hmem, hid⟩
      exact ⟨stepReceipt, hmem, hid, h.succeeded stepReceipt hmem⟩
    · rintro ⟨stepReceipt, hmem, hid, -⟩
      exact ⟨stepReceipt, hmem, hid⟩
  · simp only [hskipped, h.failed, h.completed, Option.toList_none, List.append_nil]
    exact hperm
  · simp only [h.status, h.completed, true_iff]
    intro stepId hmem
    exact hperm.mem_iff.mpr hmem
  · exact h.hints

theorem safeRun_stopped (hok : (buildBatches plan).ok = true)
    (state : WorkflowRun World) (before : List Bytes) (stepId : Bytes) (later : List Bytes)
    (horder : (buildBatches plan).batches.flatten = before ++ stepId :: later)
    (h : Stopped plan state before stepId) :
    SafeRun plan
      { state.receipt with
        skippedStepIds := skippedStepIds plan state.receipt
        compensationHints := buildHints state.compensationLedger } state.dispatched := by
  obtain ⟨hids, hperm, -⟩ := buildBatches_spec plan hok
  obtain ⟨prior, last, hresults, hprior, hlast⟩ := h.last
  have hnodup := hperm.nodup_iff.mpr hids
  have hwhole : (buildBatches plan).batches.flatten = (before ++ [stepId]) ++ later := by
    rw [horder]
    simp
  have hdispatched : (before ++ [stepId]).Nodup := by
    rw [hwhole] at hnodup
    exact hnodup.of_append_left
  have hnew : stepId ∉ before := by
    intro hmem
    exact (List.nodup_append.mp hdispatched).2.2 _ hmem _ (by simp) rfl
  have hin : stepId ∈ stepIds plan := by
    rw [← hperm.mem_iff, horder]
    simp
  have hids' := h.stepResults
  rw [hresults, List.map_append, List.map_singleton] at hids'
  obtain ⟨hpriorIds, hlastId⟩ := List.append_inj' hids' rfl
  rw [List.cons.injEq] at hlastId
  -- A split of the results leaves only earlier steps before it.
  have hsplits : ∀ front stepReceipt back,
      state.receipt.stepResults = front ++ stepReceipt :: back →
        (∀ earlier ∈ front, earlier ∈ prior) ∧ (back ≠ [] → stepReceipt ∈ prior) := by
    intro front stepReceipt back hsplit
    rw [hresults] at hsplit
    rcases List.eq_nil_or_concat back with rfl | ⟨back, final, rfl⟩
    · obtain ⟨rfl, -⟩ := List.append_inj' hsplit rfl
      exact ⟨fun earlier hearlier => hearlier, fun hne => absurd rfl hne⟩
    · rw [List.concat_eq_append, ← List.cons_append, ← List.append_assoc] at hsplit
      obtain ⟨rfl, -⟩ := List.append_inj' hsplit rfl
      exact ⟨fun earlier hearlier => List.mem_append_left _ hearlier, fun _ => by simp⟩
  constructor
  · rw [h.dispatched]
    exact hdispatched
  · exact h.stepResults.trans h.dispatched.symm
  · intro front stepReceipt back hsplit source hsource
    obtain ⟨earlier, hearlier, hid⟩ := earlier_of_dependsOn plan hok state.receipt.stepResults later
      (by rw [h.stepResults, hwhole]) front stepReceipt back hsplit source hsource
    exact ⟨earlier, hearlier, hid, hprior earlier ((hsplits _ _ _ hsplit).1 earlier hearlier)⟩
  · intro front stepReceipt back hsplit hfailed
    by_contra hne
    have := hprior stepReceipt ((hsplits _ _ _ hsplit).2 hne)
    rw [hfailed] at this
    simp at this
  · intro other
    simp only
    rw [h.completed, hresults, ← hpriorIds, List.mem_map]
    constructor
    · rintro ⟨stepReceipt, hmem, hid⟩
      exact ⟨stepReceipt, List.mem_append_left _ hmem, hid, hprior stepReceipt hmem⟩
    · rintro ⟨stepReceipt, hmem, hid, hsuccess⟩
      rw [List.mem_append, List.mem_singleton] at hmem
      rcases hmem with hmem | rfl
      · exact ⟨stepReceipt, hmem, hid⟩
      · rw [hlast] at hsuccess
        simp at hsuccess
  · have hskipped : ∀ other, other ∈ skippedStepIds plan state.receipt ↔
        other ∈ stepIds plan ∧ other ∉ before ∧ stepId ≠ other := by
      intro other
      simp [skippedStepIds, stepIds, h.completed, h.failed]
    simp only [h.completed, h.failed, Option.toList_some]
    apply nodup_perm_of_mem_iff _ _ _ hids
    · intro other
      simp only [List.mem_append, List.mem_singleton, hskipped]
      constructor
      · rintro ((hbefore | ⟨hplan, -⟩) | rfl)
        · rw [← hperm.mem_iff, horder]
          simp [hbefore]
        · exact hplan
        · exact hin
      · intro hplan
        by_cases hbefore : other ∈ before
        · exact .inl (.inl hbefore)
        · by_cases hid : stepId = other
          · exact .inr hid.symm
          · exact .inl (.inr ⟨hplan, hbefore, hid⟩)
    · rw [List.nodup_append, List.nodup_append]
      refine ⟨⟨hdispatched.of_append_left, ?_, ?_⟩, by simp, ?_⟩
      · exact hids.filter _
      · intro first hfirst second hsecond
        rintro rfl
        exact ((hskipped first).mp hsecond).2.1 hfirst
      · intro first hfirst second hsecond
        rw [List.mem_singleton] at hsecond
        subst hsecond
        rintro rfl
        rcases List.mem_append.mp hfirst with hbefore | hskip
        · exact hnew hbefore
        · exact ((hskipped first).mp hskip).2.2 rfl
  · simp only [h.status, h.completed]
    constructor
    · intro hsame
      exact absurd hsame (by decide)
    · intro hall
      exact absurd (hall stepId hin) hnew
  · exact h.hints

theorem finalizeReceipt_receipt :
    (finalizeReceipt dependencies receipt workflowIr world).1.receipt = receipt := rfl

theorem safeRun_executePlan (hok : (buildBatches plan).ok = true) :
    SafeRun plan (executePlan dependencies plan workflowIr world).1.receipt
      (executePlan dependencies plan workflowIr world).2.1 := by
  obtain ⟨hids, hperm, -⟩ := buildBatches_spec plan hok
  have hstart : Running plan
      { receipt :=
          { workflowId := plan.workflowId
            status := str "completed"
            evidenceRefs := [str "workflow:" ++ plan.workflowId] }
        world } [] :=
    ⟨⟨rfl, rfl, rfl, by simp⟩, rfl, rfl, rfl, by simp⟩
  have hnodup : ([] ++ (buildBatches plan).batches.flatten).Nodup := by
    rw [List.nil_append]
    exact hperm.nodup_iff.mpr hids
  have hspec := runSteps_spec dependencies plan hids _ [] (buildBatches plan).batches.flatten hstart
    hnodup (fun stepId hmem => hperm.mem_iff.mp hmem)
  rw [List.nil_append] at hspec
  change Running plan (runBatches dependencies plan (buildBatches plan).batches world) _ ∨
    ∃ earlier stepId later, _ ∧ Stopped plan (runBatches dependencies plan _ world) _ _ at hspec
  unfold executePlan
  simp only [hok, Bool.not_true, Bool.false_eq_true, if_false, finalizeReceipt_receipt]
  rcases hspec with hrunning | ⟨earlier, stepId, later, horder, hstopped⟩
  · exact safeRun_running plan hok _ hrunning
  · exact safeRun_stopped plan hok _ earlier stepId later horder hstopped

theorem refusedRun_executePlan (hrefused : (buildBatches plan).ok = false) :
    RefusedRun (executePlan dependencies plan workflowIr world).1.receipt
      (executePlan dependencies plan workflowIr world).2.1 := by
  unfold executePlan
  simp only [hrefused, Bool.not_false, if_true, finalizeReceipt_receipt]
  exact ⟨rfl, rfl, rfl, rfl, rfl, rfl, rfl⟩

/-- A plan that is accepted is executed safely, whatever the executors do. A plan that is refused
is not executed at all, and its receipt lists no step. -/
theorem executePlan_safe (dependencies : WorkflowEngineDependencies World) (plan : WorkflowPlan)
    (workflowIr : ToolIR) (world : World) :
    if (buildBatches plan).ok then
      SafeRun plan (executePlan dependencies plan workflowIr world).1.receipt
        (executePlan dependencies plan workflowIr world).2.1
    else
      RefusedRun (executePlan dependencies plan workflowIr world).1.receipt
        (executePlan dependencies plan workflowIr world).2.1 := by
  split
  · next hok => exact safeRun_executePlan dependencies plan workflowIr world hok
  · next hrefused =>
    rw [Bool.not_eq_true] at hrefused
    exact refusedRun_executePlan dependencies plan workflowIr world hrefused

/-- Two steps that wait for each other. -/
def cyclicPlan : WorkflowPlan where
  workflowId := str "workflow.cycle"
  entryStepIds := [str "step-a"]
  steps :=
    [{ stepId := str "step-a", dependsOn := [str "step-b"] },
      { stepId := str "step-b", dependsOn := [str "step-a"] }]

/-- No list of the receipt of a refused plan has its steps. -/
theorem cyclicPlan_unlisted :
    let dependencies : WorkflowEngineDependencies Unit := { currentTimeMs := fun world => (0, world) }
    let receipt := (executePlan dependencies cyclicPlan {} ()).1.receipt
    receipt.status = str "rejected" ∧
      ¬ (receipt.completedStepIds ++ receipt.skippedStepIds ++ receipt.failedStepId.toList).Perm
        (stepIds cyclicPlan) := by
  decide +kernel

end Dasall.Tools.Execution
