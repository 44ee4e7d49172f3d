import Dasall.Contracts.Recovery
import Dasall.Runtime.Budget.Controller
import Dasall.Lib.Run

/-!
# The safe mode controller

A trigger picks a mode from its kind, the degrade policy and, where recovery ran out, two
texts of the recovery outcome. `transition_locked` takes any mode to any other.
-/

open Dasall.Lib.Text Dasall.Contracts Dasall.Lib.Run

namespace Dasall.Runtime.Safety

/-- `enum class SafeModeTriggerKind : std::uint8_t`. -/
inductive SafeModeTriggerKind
  | policyForbidden
  | budgetExhausted
  | recoveryExhausted
  | dependencyUnavailable
  | watchdogTimeout
  | unlisted (raw : {raw : UInt8 // 4 < raw})
deriving DecidableEq

inductive SafeModeState
  | normal
  | failedSafe
  | degraded
  | safeMode
deriving DecidableEq, Repr

def safeModeStateName : SafeModeState → Bytes
  | .normal => str "Normal"
  | .failedSafe => str "FailedSafe"
  | .degraded => str "Degraded"
  | .safeMode => str "SafeMode"

inductive SafeModeAction
  | none
  | enterFailedSafe
  | enterDegraded
  | enterSafeMode
  | exitToNormal
deriving DecidableEq, Repr

/-- The part of a `HealthSignal` that a decision reads. -/
structure HealthSignal where
  detail : Bytes
deriving DecidableEq

structure SafeModeTrigger where
  triggerKind : SafeModeTriggerKind
  budgetDecision : Option BudgetDecision := none
  recoveryOutcome : Option RecoveryOutcome := none
  healthSignal : Option HealthSignal := none
  detail : Bytes := []
deriving DecidableEq

structure SafeModeDecision where
  transitionRequired : Bool
  previousMode : SafeModeState
  targetMode : SafeModeState
  action : SafeModeAction
  targetRuntimeState : Option RuntimeState
  errorCode : Option RuntimeErrorCode
  selectedFallback : Option Bytes
  detail : Bytes
deriving DecidableEq

structure SafeModeExitRequest where
  dependenciesHealthy : Bool := true
  watchdogHealthy : Bool := true
  operatorCleared : Bool := true
  budgetRestored : Bool := true
  detail : Bytes := []
deriving DecidableEq

structure DegradePolicy where
  fallbackChain : List Bytes
  allowModelFailover : Bool
  allowBudgetDegrade : Bool
deriving DecidableEq

structure SafeModeController where
  /-- The degrade policy of the policy snapshot, where there is one. -/
  policySnapshot : Option DegradePolicy
  currentMode : SafeModeState := .normal
deriving DecidableEq

def runtimeStateForMode : SafeModeState → Option RuntimeState
  | .failedSafe => some .failedSafe
  | .degraded => some .degraded
  | .safeMode => some .safeMode
  | .normal => none

def errorCodeForMode : SafeModeState → Option RuntimeErrorCode
  | .failedSafe => some .rtE501RecoveryEscalated
  | .degraded => some .rtE511DegradeEntered
  | .safeMode => some .rtE510SafeModeEntered
  | .normal => none

/-! ## Fallbacks -/

def fallbackStepEnabled (degradePolicy : DegradePolicy) (step : Bytes) : Bool :=
  if step = str "allow_model_failover" then degradePolicy.allowModelFailover
  else if step = str "allow_budget_degrade" then degradePolicy.allowBudgetDegrade
  else step = str "allow_tool_skip" || step = str "abort_safe"

namespace SafeModeController

def selectFallback (controller : SafeModeController) (triggerKind : SafeModeTriggerKind) :
    Option Bytes :=
  controller.policySnapshot.bind fun degradePolicy =>
    if triggerKind = .budgetExhausted then
      if degradePolicy.allowBudgetDegrade then some (str "allow_budget_degrade")
      else degradePolicy.fallbackChain.find? fun step => step = str "abort_safe"
    else
      let failover :=
        if triggerKind = .dependencyUnavailable && degradePolicy.allowModelFailover then
          degradePolicy.fallbackChain.find? fun step => !step.isEmpty && step != str "abort_safe"
        else none
      failover.or (degradePolicy.fallbackChain.find? fun step =>
        fallbackStepEnabled degradePolicy step && triggerKind = .dependencyUnavailable)

/-! ## Decisions -/

def noTransition (detail : Bytes) (state : SafeModeState) : SafeModeDecision where
  transitionRequired := false
  previousMode := state
  targetMode := state
  action := .none
  targetRuntimeState := runtimeStateForMode state
  errorCode := errorCodeForMode state
  selectedFallback := none
  detail := detail

/-- Whatever the mode was, it is the target mode now. -/
def transitionLocked (controller : SafeModeController) (targetMode : SafeModeState)
    (action : SafeModeAction) (selectedFallback : Option Bytes) (detail : Bytes) :
    SafeModeController × SafeModeDecision :=
  ({ controller with currentMode := targetMode },
    { transitionRequired := controller.currentMode != targetMode
      previousMode := controller.currentMode
      targetMode
      action
      targetRuntimeState := runtimeStateForMode targetMode
      errorCode := errorCodeForMode targetMode
      selectedFallback
      detail :=
        if detail.isEmpty then str "safe mode transition -> " ++ safeModeStateName targetMode
        else detail })

def enterSafeMode (controller : SafeModeController) :=
  controller.transitionLocked .safeMode .enterSafeMode

def enterDegraded (controller : SafeModeController) :=
  controller.transitionLocked .degraded .enterDegraded

def enterFailedSafe (controller : SafeModeController) :=
  controller.transitionLocked .failedSafe .enterFailedSafe

/-- The text of the trigger, or the given one where the trigger has none. -/
def detailOr (trigger : SafeModeTrigger) (fallback : Bytes) : Bytes :=
  if trigger.detail.isEmpty then fallback else trigger.detail

def evaluateRecoveryExhausted (controller : SafeModeController) (trigger : SafeModeTrigger) :
    SafeModeController × SafeModeDecision :=
  match trigger.recoveryOutcome with
  | none => controller.enterFailedSafe none
      (detailOr trigger (str "recovery exhausted without a viable continuation path"))
  | some recoveryOutcome =>
    if recoveryOutcome.executedAction = some (str "degrade") ∨
        recoveryOutcome.finalRuntimeState = some (str "Degraded") then
      controller.enterDegraded recoveryOutcome.executedAction
        (detailOr trigger (recoveryOutcome.escalationReason.getD
          (str "recovery exhausted into degraded mode")))
    else if recoveryOutcome.finalRuntimeState = some (str "SafeMode") then
      controller.enterSafeMode recoveryOutcome.executedAction
        (detailOr trigger (recoveryOutcome.escalationReason.getD
          (str "recovery exhausted into safe mode")))
    else controller.enterFailedSafe recoveryOutcome.executedAction
      (detailOr trigger (str "recovery exhausted without a viable continuation path"))

/-- A kind that is not listed leaves a decision without a text, which is then replaced. -/
def evaluateEntry (controller : SafeModeController) (trigger : SafeModeTrigger) :
    SafeModeController × SafeModeDecision :=
  match trigger.triggerKind with
  | .policyForbidden => controller.enterSafeMode none
      (detailOr trigger (str "policy forbids continuing execution"))
  | .watchdogTimeout => controller.enterSafeMode none
      (detailOr trigger (str "watchdog timeout forces safe mode"))
  | .budgetExhausted =>
    let selectedFallback := controller.selectFallback .budgetExhausted
    let detail := detailOr trigger ((trigger.budgetDecision.map (·.detail)).getD [])
    if selectedFallback = some (str "allow_budget_degrade") then
      controller.enterDegraded selectedFallback detail
    else controller.enterFailedSafe selectedFallback detail
  | .dependencyUnavailable =>
    let selectedFallback := controller.selectFallback .dependencyUnavailable
    let detail := detailOr trigger ((trigger.healthSignal.map (·.detail)).getD [])
    if selectedFallback.any (· != str "abort_safe") then
      controller.enterDegraded selectedFallback detail
    else controller.enterFailedSafe selectedFallback detail
  | .recoveryExhausted => controller.evaluateRecoveryExhausted trigger
  | .unlisted _ => (controller, noTransition (str "unknown safe mode trigger") controller.currentMode)

def evaluateExit (controller : SafeModeController) (request : SafeModeExitRequest) :
    SafeModeController × SafeModeDecision :=
  if controller.currentMode = .normal then
    (controller, noTransition (str "runtime already in normal mode") controller.currentMode)
  else if !request.dependenciesHealthy || !request.watchdogHealthy || !request.operatorCleared ||
      !request.budgetRestored then
    (controller, noTransition
      (if request.detail.isEmpty then
        str "exit rejected because recovery conditions are incomplete"
      else request.detail) controller.currentMode)
  else
    controller.transitionLocked .normal .exitToNormal none
      (if request.detail.isEmpty then str "safe mode exit accepted" else request.detail)

end SafeModeController

/-! ## Calls -/

inductive SafeModeCall
  | evaluateEntry (trigger : SafeModeTrigger)
  | evaluateExit (request : SafeModeExitRequest)
deriving DecidableEq

def SafeModeController.step (controller : SafeModeController) :
    SafeModeCall → SafeModeController × SafeModeDecision
  | .evaluateEntry trigger => controller.evaluateEntry trigger
  | .evaluateExit request => controller.evaluateExit request

/-!
## Safe mode is kept

The exit from `SafeMode` asks for four conditions; an entry asks for none. So the mode is kept
up to an exit that meets the conditions exactly as long as no entry weakens it.
-/

/-- The exit whose dependencies, watchdog, operator and budget conditions all hold. -/
def Exits : SafeModeCall → Prop
  | .evaluateExit request => request.dependenciesHealthy = true ∧ request.watchdogHealthy = true ∧
      request.operatorCleared = true ∧ request.budgetRestored = true
  | .evaluateEntry _ => False

/-- The trigger asks for safe mode, or for nothing. -/
def EntersSafeMode (trigger : SafeModeTrigger) : Prop :=
  match trigger.triggerKind with
  | .policyForbidden | .watchdogTimeout | .unlisted _ => True
  | .budgetExhausted | .dependencyUnavailable => False
  | .recoveryExhausted => ∃ outcome, trigger.recoveryOutcome = some outcome ∧
      outcome.executedAction ≠ some (str "degrade") ∧
      outcome.finalRuntimeState = some (str "SafeMode")

namespace SafeModeController

variable (controller : SafeModeController) (trigger : SafeModeTrigger)

theorem transitionLocked_mode (targetMode : SafeModeState)
    (action : SafeModeAction) (selectedFallback : Option Bytes) (detail : Bytes) :
    (controller.transitionLocked targetMode action selectedFallback detail).1.currentMode =
      targetMode := rfl

theorem evaluateRecoveryExhausted_mode :
    (controller.evaluateRecoveryExhausted trigger).1.currentMode = .safeMode ↔
      ∃ outcome, trigger.recoveryOutcome = some outcome ∧
        outcome.executedAction ≠ some (str "degrade") ∧
        outcome.finalRuntimeState = some (str "SafeMode") := by
  unfold evaluateRecoveryExhausted enterDegraded enterSafeMode enterFailedSafe
  cases houtcome : trigger.recoveryOutcome with
  | none => simp [transitionLocked]
  | some outcome =>
    simp only [Option.some.injEq, exists_eq_left']
    split
    · rename_i hdegrade
      simp only [transitionLocked_mode, reduceCtorEq, false_iff]
      rintro ⟨haction, hstate⟩
      rcases hdegrade with hdegrade | hdegrade
      · exact haction hdegrade
      · rw [hstate] at hdegrade
        exact absurd hdegrade (by decide)
    · rename_i hdegrade
      rw [not_or] at hdegrade
      split
      · rename_i hsafe
        exact iff_of_true rfl ⟨hdegrade.1, hsafe⟩
      · rename_i hsafe
        simp only [transitionLocked_mode, reduceCtorEq, false_iff]
        exact fun h => hsafe h.2

theorem evaluateEntry_mode (h : controller.currentMode = .safeMode) :
    (controller.evaluateEntry trigger).1.currentMode = .safeMode ↔ EntersSafeMode trigger := by
  unfold evaluateEntry EntersSafeMode
  cases trigger.triggerKind with
  | policyForbidden => exact iff_of_true rfl trivial
  | watchdogTimeout => exact iff_of_true rfl trivial
  | unlisted raw => exact iff_of_true h trivial
  | budgetExhausted =>
    dsimp only
    split <;> exact iff_of_false nofun not_false
  | dependencyUnavailable =>
    dsimp only
    split <;> exact iff_of_false nofun not_false
  | recoveryExhausted => exact evaluateRecoveryExhausted_mode controller trigger

theorem evaluateExit_mode (request : SafeModeExitRequest)
    (h : controller.currentMode = .safeMode) (hstays : ¬ Exits (.evaluateExit request)) :
    (controller.evaluateExit request).1.currentMode = .safeMode := by
  have hincomplete : (!request.dependenciesHealthy || !request.watchdogHealthy ||
      !request.operatorCleared || !request.budgetRestored) = true := by
    by_contra hcomplete
    simp only [Bool.not_eq_true, Bool.or_eq_false_iff, Bool.not_eq_false'] at hcomplete
    exact hstays ⟨hcomplete.1.1.1, hcomplete.1.1.2, hcomplete.1.2, hcomplete.2⟩
  unfold evaluateExit
  rw [if_neg (by rw [h]; nofun), if_pos hincomplete]
  exact h

end SafeModeController

/-- An entry that finds the controller in safe mode asks for safe mode, or for nothing. -/
def KeepsSafeMode (controller : SafeModeController) : SafeModeCall → Prop
  | .evaluateEntry trigger => controller.currentMode = .safeMode → EntersSafeMode trigger
  | .evaluateExit _ => True

theorem step_kept_iff (controller : SafeModeController) (call : SafeModeCall) :
    (controller.currentMode = .safeMode → ¬ Exits call →
      (controller.step call).1.currentMode = .safeMode) ↔ KeepsSafeMode controller call := by
  cases call with
  | evaluateEntry trigger =>
    constructor
    · intro h hmode
      exact (controller.evaluateEntry_mode trigger hmode).mp (h hmode not_false)
    · intro h hmode _
      exact (controller.evaluateEntry_mode trigger hmode).mpr (h hmode)
  | evaluateExit request =>
    exact iff_of_true (fun hmode hstays => controller.evaluateExit_mode request hmode hstays) trivial

/-- Safe mode is kept up to a complete exit exactly when no entry in it asks for less. -/
theorem safe_mode_kept_iff (policySnapshot : Option DegradePolicy) (calls : List SafeModeCall) :
    KeptUntil SafeModeController.step (fun controller => controller.currentMode = .safeMode) Exits
        { policySnapshot } calls ↔
      AllSteps SafeModeController.step KeepsSafeMode { policySnapshot } calls := by
  rw [keptUntil_iff]
  simp only [step_kept_iff]

/-- A budget trigger after a policy trigger takes the controller out of safe mode. -/
theorem safe_mode_not_kept :
    ¬ ∀ (policySnapshot : Option DegradePolicy) (calls : List SafeModeCall),
      KeptUntil SafeModeController.step (fun controller => controller.currentMode = .safeMode)
        Exits { policySnapshot } calls := by
  intro h
  have hkept := h none [.evaluateEntry { triggerKind := .policyForbidden },
    .evaluateEntry { triggerKind := .budgetExhausted }]
    [.evaluateEntry { triggerKind := .policyForbidden }]
    [.evaluateEntry { triggerKind := .budgetExhausted }] [] rfl (by decide) (by simp [Exits])
  exact absurd hkept (by decide)

end Dasall.Runtime.Safety
