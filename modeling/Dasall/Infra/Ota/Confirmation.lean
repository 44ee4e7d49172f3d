import Dasall.Infra.Ota.BootConfirmationMonitor
import Dasall.Lib.Run

/-!
# When a slot is marked

The marks that a call sets, from the answers it gets, and what a run of calls marks.
-/

open Dasall.Lib Dasall.Lib.Run Dasall.Lib.Text

namespace Dasall.Infra.Ota

/-! ## Version sets -/

theorem sameVersionSet_iff (lhs rhs : List Bytes) :
    sameVersionSet lhs rhs = true ↔ hasUniqueNonEmptyValues lhs = true ∧
      hasUniqueNonEmptyValues rhs = true ∧ lhs.Perm rhs := by
  unfold sameVersionSet
  split
  next hrefused =>
    simp only [Bool.or_eq_true, Bool.not_eq_eq_eq_not, Bool.not_true, decide_eq_true_eq] at hrefused
    constructor
    · intro h
      cases h
    · rintro ⟨hlhs, hrhs, hperm⟩
      rcases hrefused with (hlhs' | hrhs') | hlength
      · simp [hlhs] at hlhs'
      · simp [hrhs] at hrhs'
      · exact absurd hperm.length_eq hlength
  next hshape =>
    simp only [Bool.or_eq_true, Bool.not_eq_eq_eq_not, Bool.not_true, decide_eq_true_eq, not_or,
      Bool.not_eq_false, not_not] at hshape
    rw [decide_eq_true_eq, Sort.Linear.sortBy_eq_iff Sort.Linear.ofLT]
    simp [hshape]

/-! ## Evidence -/

/-- What a confirmation rests on. -/
structure FullEvidence (request : BootConfirmationRequest) (answers : Answers) : Prop where
  target : answers.activeTarget.resolved = true ∧
    answers.activeTarget.activeTarget = request.slotPlan.targetSlot
  armed : request.policy.rollbackTokenArmed = true
  selfCheck : answers.signal.signalReceived = true ∧ answers.signal.selfCheckOk = true
  health : answers.health.ok = true ∧
    healthGateSatisfied answers.health.snapshot request.policy = true
  heartbeat : answers.heartbeat.allFresh = true ∧ answers.heartbeat.watchdogResetDetected = false
  version : answers.version.packageId = request.packageId ∧
    answers.version.slotBoundVersions.Perm request.policy.expectedSlotVersions

section
variable (dependencies : Dependencies) (request : BootConfirmationRequest) (answers : Answers)

/-- The call gets as far as the boot target. -/
def ReachesTarget : Prop :=
  request.isValid = true ∧ (dependencies.bootControlAdapter = true ∧
    dependencies.healthMonitor = true ∧ dependencies.heartbeatFreshnessSource = true ∧
    dependencies.versionReportSource = true) ∧
    answers.activeTarget.resolved = true ∧
    answers.activeTarget.referencesOnlyContractErrorTypes = true

def OnTarget : Prop :=
  answers.activeTarget.activeTarget = request.slotPlan.targetSlot ∧
    request.policy.rollbackTokenArmed = true

def SelfChecked : Prop :=
  dependencies.successSignalProvider = true ∧ answers.signal.isValid = true ∧
    answers.signal.signalReceived = true ∧ answers.signal.selfCheckOk = true

def SelfCheckFails : Prop :=
  dependencies.successSignalProvider = false ∨ answers.signal.isValid = false ∨
    (answers.signal.signalReceived = true ∧ answers.signal.selfCheckOk = false)

def HealthPasses : Prop :=
  answers.health.ok = true ∧ answers.health.referencesOnlyContractErrorTypes = true ∧
    healthGateSatisfied answers.health.snapshot request.policy = true

def HeartbeatFails : Prop :=
  answers.heartbeat.watchdogResetDetected = true ∨ answers.heartbeat.allFresh = false

def VersionFails : Prop :=
  answers.version.packageId ≠ request.packageId ∨
    sameVersionSet answers.version.slotBoundVersions request.policy.expectedSlotVersions = false

/-- The answers on which `await_confirm` marks the slot as good. -/
def Confirms : Prop :=
  ReachesTarget dependencies request answers ∧ OnTarget request answers ∧
    SelfChecked dependencies answers ∧ HealthPasses request answers ∧
    answers.heartbeat.isValid = true ∧ ¬ HeartbeatFails answers ∧
    answers.version.isValid = true ∧ ¬ VersionFails request answers

/-- The answers on which `await_confirm` marks the slot as failed. -/
def Rejects : Prop :=
  ReachesTarget dependencies request answers ∧
    (¬ OnTarget request answers ∨ SelfCheckFails dependencies answers ∨
      (SelfChecked dependencies answers ∧ HealthPasses request answers ∧
        answers.heartbeat.isValid = true ∧
        (HeartbeatFails answers ∨
          (answers.version.isValid = true ∧ VersionFails request answers))))

end

theorem fullEvidence_of_confirms {dependencies : Dependencies} {request : BootConfirmationRequest}
    {answers : Answers} (h : Confirms dependencies request answers) :
    FullEvidence request answers := by
  obtain ⟨⟨_, _, hresolved, _⟩, ⟨htarget, harmed⟩, ⟨_, _, hsignal⟩, ⟨hok, _, hgate⟩, _, hheartbeat,
    _, hversion⟩ := h
  unfold HeartbeatFails at hheartbeat
  unfold VersionFails at hversion
  rw [not_or, Bool.not_eq_true, Bool.not_eq_false] at hheartbeat
  rw [not_or, not_not, Bool.not_eq_false, sameVersionSet_iff] at hversion
  exact ⟨⟨hresolved, htarget⟩, harmed, hsignal, ⟨hok, hgate⟩, hheartbeat.symm, hversion.1,
    hversion.2.2.2⟩

/-! ## The marks of a call -/

namespace BootConfirmationMonitor

variable (monitor : BootConfirmationMonitor)

variable (request : BootConfirmationRequest)

variable (answers : Answers)

@[simp] theorem rejectAwait_events
    (resultCode : Policy.ResultCode)
    (message detailRef : Bytes) :
    (monitor.rejectAwait request answers resultCode message detailRef).2.2 =
      [.markBootFailed request.slotPlan.targetSlot answers.marked] := by
  unfold rejectAwait markBootFailedAndFail
  split <;> rfl

@[simp] theorem confirm_events (marked : BootMutationResult) :
    (monitor.confirm request marked).2.2 =
      [.markBootSuccess request.slotPlan.targetSlot marked] := by
  unfold confirm
  split <;> rfl

theorem detailRef_ne_nil (suffix : Bytes)
    (h : suffix ≠ []) : monitor.detailRef suffix ≠ [] := by
  unfold detailRef statusDetailRef
  simp [h]

/-- The self check of a valid request ends in one of three ways, each of a valid shape. -/
theorem evaluateSelfCheck_cases
    (hrequest : request.isValid = true) :
    (monitor.evaluateSelfCheck request answers.signal).isValid = true ∧
      ((SelfCheckFails monitor.dependencies answers ∧
          (monitor.evaluateSelfCheck request answers.signal).terminalFailure = true) ∨
        (SelfChecked monitor.dependencies answers ∧
          (monitor.evaluateSelfCheck request answers.signal).terminalFailure = false ∧
          (monitor.evaluateSelfCheck request answers.signal).successSignalPresent = true) ∨
        ((¬ SelfCheckFails monitor.dependencies answers ∧
            ¬ SelfChecked monitor.dependencies answers) ∧
          (monitor.evaluateSelfCheck request answers.signal).terminalFailure = false ∧
          (monitor.evaluateSelfCheck request answers.signal).successSignalPresent = false)) := by
  have hfailure : ∀ signal resultCode message detailRef, signal.isValid = true → detailRef ≠ [] →
      (selfCheckFailure signal resultCode message detailRef).isValid = true := by
    intro signal resultCode message detailRef hsignal hdetail
    simp [selfCheckFailure, BootConfirmationSelfCheck.failure, BootConfirmationSelfCheck.isValid,
      BootConfirmationSelfCheck.referencesOnlyContractErrorTypes, isContractError, makeErrorInfo,
      hsignal, hdetail]
  have hplaceholder : ∀ suffix, suffix ≠ [] →
      (placeholderSignal (monitor.detailRef suffix)).isValid = true := by
    intro suffix hsuffix
    simp [placeholderSignal, BootSuccessSignal.isValid, detailRef_ne_nil monitor suffix hsuffix]
  have hdetail : answers.signal.isValid = true → answers.signal.detailRef ≠ [] := by
    intro hvalid
    simp [BootSuccessSignal.isValid] at hvalid
    exact hvalid.1.1
  unfold evaluateSelfCheck
  rw [if_neg (by simp [hrequest])]
  split
  next hprovider =>
    refine ⟨hfailure _ _ _ _ (hplaceholder _ (by decide)) (detailRef_ne_nil _ _ (by decide)), ?_⟩
    exact Or.inl ⟨Or.inl (by simpa using hprovider), rfl⟩
  next hprovider =>
  split
  next hinvalid =>
    refine ⟨hfailure _ _ _ _ (hplaceholder _ (by decide)) (detailRef_ne_nil _ _ (by decide)), ?_⟩
    exact Or.inl ⟨Or.inr (Or.inl (by simpa using hinvalid)), rfl⟩
  next hvalid =>
  simp only [Bool.not_eq_eq_eq_not, Bool.not_true, Bool.not_eq_false] at hprovider hvalid
  split
  next hpending =>
    simp only [Bool.not_eq_eq_eq_not, Bool.not_true] at hpending
    refine ⟨?_, Or.inr (Or.inr ⟨?_, rfl, rfl⟩)⟩
    · simp [BootConfirmationSelfCheck.pending, BootConfirmationSelfCheck.isValid, hvalid,
        hpending, hdetail hvalid]
    · simp [SelfCheckFails, SelfChecked, hprovider, hvalid, hpending]
  next hreceived =>
  simp only [Bool.not_eq_eq_eq_not, Bool.not_true, Bool.not_eq_false] at hreceived
  split
  next hfailed =>
    refine ⟨hfailure _ _ _ _ hvalid (hdetail hvalid), ?_⟩
    exact Or.inl ⟨Or.inr (Or.inr ⟨hreceived, by simpa using hfailed⟩), rfl⟩
  next hok =>
    simp only [Bool.not_eq_eq_eq_not, Bool.not_true, Bool.not_eq_false] at hok
    refine ⟨?_, Or.inr (Or.inl ⟨⟨hprovider, hvalid, hreceived, hok⟩, rfl, rfl⟩)⟩
    simp [BootConfirmationSelfCheck.success, BootConfirmationSelfCheck.isValid, hvalid, hreceived,
      hok, hdetail hvalid]

/-- The marks that go with the answers. -/
def MarksBy (dependencies : Dependencies) (request : BootConfirmationRequest) (answers : Answers)
    (events : List BootEvent) : Prop :=
  (Confirms dependencies request answers ∧ ¬ Rejects dependencies request answers ∧
      events = [.markBootSuccess request.slotPlan.targetSlot answers.marked]) ∨
    (¬ Confirms dependencies request answers ∧ Rejects dependencies request answers ∧
      events = [.markBootFailed request.slotPlan.targetSlot answers.marked]) ∨
    (¬ Confirms dependencies request answers ∧ ¬ Rejects dependencies request answers ∧
      events = [])

theorem checkReports_marks
    (hreaches : ReachesTarget monitor.dependencies request answers)
    (htarget : OnTarget request answers) (hchecked : SelfChecked monitor.dependencies answers) :
    MarksBy monitor.dependencies request answers (monitor.checkReports request answers).2.2 := by
  have hfails : ¬ SelfCheckFails monitor.dependencies answers := by
    obtain ⟨hprovider, hvalid, hreceived, hok⟩ := hchecked
    simp [SelfCheckFails, hprovider, hvalid, hreceived, hok]
  unfold checkReports MarksBy Confirms Rejects
  split
  next hquery =>
    have hhealth : ¬ HealthPasses request answers := by
      rintro ⟨hok, hshape, -⟩
      simp [hok, hshape] at hquery
    right; right
    exact ⟨by tauto, by tauto, rfl⟩
  next hquery =>
  split
  next hgate =>
    have hhealth : ¬ HealthPasses request answers := by
      rintro ⟨-, -, hpasses⟩
      simp [hpasses] at hgate
    right; right
    exact ⟨by tauto, by tauto, rfl⟩
  next hgate =>
  have hhealth : HealthPasses request answers := by
    simp at hquery hgate
    exact ⟨hquery.1, hquery.2, hgate⟩
  split
  next hinvalid =>
    rw [Bool.not_eq_true', ← Bool.not_eq_true] at hinvalid
    right; right
    exact ⟨by tauto, by tauto, rfl⟩
  next hvalid =>
  rw [Bool.not_eq_true', Bool.not_eq_false] at hvalid
  split
  next hstale =>
    have hheartbeat : HeartbeatFails answers := by simpa [HeartbeatFails] using hstale
    right; left
    exact ⟨by tauto, by tauto, rejectAwait_events ..⟩
  next hfresh =>
  have hheartbeat : ¬ HeartbeatFails answers := by simpa [HeartbeatFails] using hfresh
  split
  next hinvalid =>
    rw [Bool.not_eq_true', ← Bool.not_eq_true] at hinvalid
    right; right
    exact ⟨by tauto, by tauto, rfl⟩
  next hreport =>
  rw [Bool.not_eq_true', Bool.not_eq_false] at hreport
  split
  next hmismatch =>
    have hversion : VersionFails request answers := by simpa [VersionFails] using hmismatch
    right; left
    exact ⟨by tauto, by tauto, rejectAwait_events ..⟩
  next hmatch =>
    have hversion : ¬ VersionFails request answers := by simpa [VersionFails] using hmatch
    left
    exact ⟨by tauto, by tauto, confirm_events ..⟩

theorem awaitConfirm_marks
    :
    MarksBy monitor.dependencies request answers (monitor.awaitConfirm request answers).2.2 := by
  have hidle : ¬ ReachesTarget monitor.dependencies request answers →
      MarksBy monitor.dependencies request answers [] := by
    intro hreaches
    right; right
    exact ⟨fun h => hreaches h.1, fun h => hreaches h.1, rfl⟩
  unfold awaitConfirm
  split
  next hrequest => exact hidle fun h => by simp [h.1] at hrequest
  next hrequest =>
  split
  next hmissing => exact hidle fun h => by simp [h.2.1] at hmissing
  next hmissing =>
  split
  next hquery => exact hidle fun h => by simp [h.2.2] at hquery
  next hquery =>
  have hreaches : ReachesTarget monitor.dependencies request answers := by
    simp at hrequest hmissing hquery
    exact ⟨hrequest, by tauto, hquery⟩
  split
  next htarget =>
    have hoff : ¬ OnTarget request answers := fun h => htarget h.1
    right; left
    exact ⟨fun h => hoff h.2.1, ⟨hreaches, Or.inl hoff⟩, rejectAwait_events ..⟩
  next htarget =>
  split
  next harmed =>
    have hoff : ¬ OnTarget request answers := fun h => by simp [h.2] at harmed
    right; left
    exact ⟨fun h => hoff h.2.1, ⟨hreaches, Or.inl hoff⟩, rejectAwait_events ..⟩
  next harmed =>
  have hon : OnTarget request answers := by
    simp at htarget harmed
    exact ⟨htarget, harmed⟩
  obtain ⟨hvalid, hcases⟩ := evaluateSelfCheck_cases monitor request answers hreaches.1
  dsimp only
  rw [if_neg (by simp [hvalid])]
  rcases hcases with ⟨hfails, hterminal⟩ | ⟨hchecked, hterminal, hpresent⟩ |
    ⟨⟨hfails, hchecked⟩, hterminal, hpresent⟩
  · rw [if_pos hterminal]
    have hchecked : ¬ SelfChecked monitor.dependencies answers := by
      rintro ⟨hprovider, hsignal, hreceived, hok⟩
      simp [SelfCheckFails, hprovider, hsignal, hreceived, hok] at hfails
    right; left
    exact ⟨fun h => hchecked h.2.2.1, ⟨hreaches, Or.inr (Or.inl hfails)⟩,
      rejectAwait_events ..⟩
  · rw [if_neg (by simp [hterminal]), if_neg (by simp [hpresent])]
    exact checkReports_marks monitor request answers hreaches hon hchecked
  · rw [if_neg (by simp [hterminal]), if_pos (by simp [hpresent])]
    right; right
    refine ⟨fun h => hchecked h.2.2.1, ?_, rfl⟩
    rintro ⟨-, hoff | hfails' | ⟨hchecked', -⟩⟩
    · exact hoff hon
    · exact hfails hfails'
    · exact hchecked hchecked'

end BootConfirmationMonitor

/-! ## Runs of the boot confirmation monitor -/

open BootConfirmationMonitor

/-! ## Marks -/

def BootEvent.isMarkBootSuccess : BootEvent → Bool
  | .markBootSuccess _ _ => true
  | .markBootFailed _ _ => false

def BootEvent.applied : BootEvent → Bool
  | .markBootSuccess _ result | .markBootFailed _ result => result.applied

def asksSuccess (events : List BootEvent) : Prop :=
  ∃ event ∈ events, event.isMarkBootSuccess = true

def asksFailure (events : List BootEvent) : Prop :=
  ∃ event ∈ events, event.isMarkBootSuccess = false

def appliesSuccess (events : List BootEvent) : Prop :=
  ∃ event ∈ events, event.isMarkBootSuccess = true ∧ event.applied = true

def appliesFailure (events : List BootEvent) : Prop :=
  ∃ event ∈ events, event.isMarkBootSuccess = false ∧ event.applied = true

/-- An applied mark of one call, and a mark of a later call, do not contradict each other. -/
def Agreeing (earlier later : List BootEvent) : Prop :=
  (appliesSuccess earlier → ¬ asksFailure later) ∧ (appliesFailure earlier → ¬ asksSuccess later)

/-- The slot is decided once. -/
def DecidedOnce (outputs : List (BootConfirmationResult × List BootEvent)) : Prop :=
  outputs.Pairwise fun earlier later => Agreeing earlier.2 later.2

/-- The slot is marked as good only by an `await_confirm` that has the full evidence. -/
def OnFullEvidence (request : BootConfirmationRequest) (monitor : BootConfirmationMonitor)
    (call : BootCall) : Prop :=
  asksSuccess (step request monitor call).2.2 →
    ∃ answers, call = .awaitConfirm answers ∧ FullEvidence request answers

/-! ## Calls -/

namespace BootCall

def marked : BootCall → BootMutationResult
  | .awaitConfirm answers => answers.marked
  | .handleTimeout marked => marked

def confirms (dependencies : Dependencies) (request : BootConfirmationRequest) : BootCall → Prop
  | .awaitConfirm answers => Confirms dependencies request answers
  | .handleTimeout _ => False

def rejects (dependencies : Dependencies) (request : BootConfirmationRequest) : BootCall → Prop
  | .awaitConfirm answers => Rejects dependencies request answers
  | .handleTimeout _ => request.isValid = true ∧ dependencies.bootControlAdapter = true

end BootCall

/-- The answers of two calls do not decide the slot against each other. -/
def Compatible (dependencies : Dependencies) (request : BootConfirmationRequest)
    (earlier later : BootCall) : Prop :=
  (earlier.confirms dependencies request ∧ earlier.marked.applied = true →
      ¬ later.rejects dependencies request) ∧
    (earlier.rejects dependencies request ∧ earlier.marked.applied = true →
      ¬ later.confirms dependencies request)

variable (request : BootConfirmationRequest)

theorem step_marks (monitor : BootConfirmationMonitor)
    (call : BootCall) :
    (asksSuccess (step request monitor call).2.2 ↔ call.confirms monitor.dependencies request) ∧
      (asksFailure (step request monitor call).2.2 ↔
        call.rejects monitor.dependencies request) ∧
      (appliesSuccess (step request monitor call).2.2 ↔
        call.confirms monitor.dependencies request ∧ call.marked.applied = true) ∧
      (appliesFailure (step request monitor call).2.2 ↔
        call.rejects monitor.dependencies request ∧ call.marked.applied = true) := by
  cases call with
  | awaitConfirm answers =>
    dsimp only [step, BootCall.confirms, BootCall.rejects, BootCall.marked]
    rcases awaitConfirm_marks monitor request answers with h | h | h <;>
      simp [h, asksSuccess, asksFailure, appliesSuccess, appliesFailure,
        BootEvent.isMarkBootSuccess, BootEvent.applied]
  | handleTimeout marked =>
    dsimp only [step, BootCall.confirms, BootCall.rejects, BootCall.marked]
    unfold handleTimeout
    split
    next hrequest =>
      rw [Bool.not_eq_true', ← Bool.not_eq_true] at hrequest
      simp [hrequest, asksSuccess, asksFailure, appliesSuccess, appliesFailure]
    next hrequest =>
    split
    next hadapter =>
      rw [Bool.not_eq_true', ← Bool.not_eq_true] at hadapter
      simp [hadapter, asksSuccess, asksFailure, appliesSuccess, appliesFailure]
    next hadapter =>
      rw [Bool.not_eq_true', Bool.not_eq_false] at hrequest hadapter
      split <;>
        simp [hrequest, hadapter, asksSuccess, asksFailure, appliesSuccess, appliesFailure,
          BootEvent.isMarkBootSuccess, BootEvent.applied]

theorem agreeing_iff (first second : BootConfirmationMonitor)
    (dependencies : Dependencies) (hfirst : first.dependencies = dependencies)
    (hsecond : second.dependencies = dependencies) (earlier later : BootCall) :
    Agreeing (step request first earlier).2.2 (step request second later).2.2 ↔
      Compatible dependencies request earlier later := by
  obtain ⟨-, -, hsuccess, hfailure⟩ := step_marks request first earlier
  obtain ⟨hasks, hrejects, -, -⟩ := step_marks request second later
  unfold Agreeing Compatible
  rw [hsuccess, hfailure, hasks, hrejects, hfirst, hsecond]

theorem step_onFullEvidence
    (monitor : BootConfirmationMonitor) (call : BootCall) :
    OnFullEvidence request monitor call := by
  intro hasks
  have hconfirms := (step_marks request monitor call).1.mp hasks
  cases call with
  | awaitConfirm answers => exact ⟨answers, rfl, fullEvidence_of_confirms hconfirms⟩
  | handleTimeout marked => exact hconfirms.elim

/-! ## Runs -/

variable (monitor : BootConfirmationMonitor)

variable (request : BootConfirmationRequest)

theorem markBootFailedAndFail_dependencies
    (marked : BootMutationResult)
    (state : BootConfirmationState) (resultCode : Policy.ResultCode)
    (message stage detailRef : Bytes) :
    (monitor.markBootFailedAndFail request marked state resultCode message stage
      detailRef).1.dependencies = monitor.dependencies := by
  unfold markBootFailedAndFail failWithoutMutation
  dsimp only
  split_ifs <;> rfl

theorem confirm_dependencies (marked : BootMutationResult) :
    (monitor.confirm request marked).1.dependencies = monitor.dependencies := by
  unfold confirm
  split <;> rfl

theorem checkReports_dependencies (answers : Answers) :
    (monitor.checkReports request answers).1.dependencies = monitor.dependencies := by
  unfold checkReports
  split
  · rfl
  split
  · rfl
  split
  · rfl
  split
  · exact markBootFailedAndFail_dependencies ..
  split
  · rfl
  split
  · exact markBootFailedAndFail_dependencies ..
  exact confirm_dependencies ..

theorem awaitConfirm_dependencies (answers : Answers) :
    (monitor.awaitConfirm request answers).1.dependencies = monitor.dependencies := by
  unfold awaitConfirm
  split
  · rfl
  split
  · rfl
  split
  · rfl
  split
  · exact markBootFailedAndFail_dependencies ..
  split
  · exact markBootFailedAndFail_dependencies ..
  dsimp only
  split
  · rfl
  split
  · exact markBootFailedAndFail_dependencies ..
  split
  · rfl
  exact checkReports_dependencies ..

theorem step_dependencies (monitor : BootConfirmationMonitor)
    (call : BootCall) : (step request monitor call).1.dependencies = monitor.dependencies := by
  cases call with
  | awaitConfirm answers => exact awaitConfirm_dependencies monitor request answers
  | handleTimeout marked =>
    simp only [step, handleTimeout, failWithoutMutation]
    split_ifs <;> rfl

/-- The slot is decided once, on full evidence, exactly when no call gets answers that decide it
against an earlier call's applied mark. -/
theorem decided_once_iff (dependencies : Dependencies) (detailRefPrefix : Bytes)
    (request : BootConfirmationRequest) (calls : List BootCall) :
    (AllSteps (step request) (OnFullEvidence request) (create dependencies detailRefPrefix) calls ∧
      DecidedOnce (run (step request) (create dependencies detailRefPrefix) calls).2) ↔
      calls.Pairwise (Compatible dependencies request) := by
  have hevidence : AllSteps (step request) (OnFullEvidence request)
      (create dependencies detailRefPrefix) calls := by
    rw [allSteps_iff_split]
    intro before call after _
    exact step_onFullEvidence request _ call
  rw [and_iff_right hevidence]
  apply pairwise_outputs_iff (step request) fun monitor => monitor.dependencies = dependencies
  · intro monitor call hmonitor
    exact (step_dependencies request monitor call).trans hmonitor
  · intro first second earlier later hfirst hsecond
    exact agreeing_iff request first second dependencies hfirst hsecond earlier later
  · rfl

def sampleRequest : BootConfirmationRequest :=
  { planId := str "plan"
    packageId := str "package"
    slotPlan :=
      { activeSlot := str "a", targetSlot := str "b", slotGroup := str "rootfs",
        switchPolicy := str "ab", confirmDeadline := str "180s" }
    rollbackToken :=
      { rollbackId := str "token", previousBootTarget := str "a", stagedArtifacts := [str "image"],
        createdAt := str "t0", expiresAt := str "t1" }
    policy :=
      { healthBlockingComponents := [str "agent"], requiredHeartbeatEntities := [str "agent"],
        expectedSlotVersions := [str "v2"] } }

def sampleMutation (operation : Bytes) : BootMutationResult :=
  { applied := true, target := str "b", operation }

def sampleAnswers : Answers :=
  { activeTarget := { resolved := true, activeTarget := str "b" }
    signal := { signalReceived := true, selfCheckOk := true, detailRef := str "s", observedTs := 1 }
    health :=
      { ok := true, snapshot := { liveness := true, readiness := true, version := 1, timestamp := 1 } }
    heartbeat := { allFresh := true, detailRef := str "h" }
    version :=
      { packageId := str "package", slotBoundVersions := [str "v2"], detailRef := str "v",
        version := 1, observedTs := 1 }
    marked := sampleMutation (str "mark_boot_success") }

/-- The timeout of a confirmed slot marks it as failed. -/
theorem confirmed_then_failed : ¬ ∀ (dependencies : Dependencies) (detailRefPrefix : Bytes)
    (request : BootConfirmationRequest) (calls : List BootCall), request.isValid = true →
      AllSteps (step request) (OnFullEvidence request) (create dependencies detailRefPrefix) calls ∧
        DecidedOnce (run (step request) (create dependencies detailRefPrefix) calls).2 := by
  intro hall
  obtain ⟨-, honce⟩ := hall {} [] sampleRequest
    [.awaitConfirm sampleAnswers, .handleTimeout (sampleMutation (str "mark_boot_failed"))]
    (by decide)
  have hevents : (run (step sampleRequest) (create {} []) [.awaitConfirm sampleAnswers,
      .handleTimeout (sampleMutation (str "mark_boot_failed"))]).2.map Prod.snd =
      [[.markBootSuccess (str "b") (sampleMutation (str "mark_boot_success"))],
        [.markBootFailed (str "b") (sampleMutation (str "mark_boot_failed"))]] := by decide
  have hagree := List.pairwise_map.mpr honce
  rw [hevents, List.pairwise_pair] at hagree
  exact hagree.1 ⟨_, List.mem_singleton_self _, rfl, rfl⟩ ⟨_, List.mem_singleton_self _, rfl⟩

end Dasall.Infra.Ota
