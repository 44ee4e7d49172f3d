import Dasall.Runtime.State

/-!
# The transition guard table

Which state may follow which, the facts that the step needs, and what it does to the
checkpoint. The rules are in the order of the source.
-/

open Dasall.Lib.Text Dasall.Contracts

namespace Dasall.Runtime.Fsm

/-- `enum class TransitionGuardFact : std::uint8_t`. -/
inductive TransitionGuardFact
  | agentRequestAvailable
  | facadeInitialized
  | requestValidated
  | sessionLoaded
  | budgetInitialized
  | contextAssembled
  | clarificationNeeded
  | profileAllowsClarify
  | highRiskConfirmationRequired
  | userConfirmationGranted
  | toolCallPlanned
  | budgetAllowsToolCall
  | toolDispatchSubmitted
  | externalResultAvailable
  | reflectionContinue
  | recoveryRetryAllowed
  | recoveryReplanAllowed
  | recoveryAbortSafe
  | recoveryDegrade
  | directResponseReady
  | responseMaterialized
  | auditCommitted
  | persistenceConfirmed
  | resultReturned
  | recoveryRejected
  | degradeAllowed
  | safeModeTriggerSatisfied
  | unlisted (raw : {raw : UInt8 // 26 < raw})
deriving DecidableEq

inductive CheckpointMutationKind
  | none
  | write
  | update
  | retain
  | clearActiveReference
deriving DecidableEq, Repr

structure StateTransitionCheckpointHint where
  mutation : CheckpointMutationKind := .none
  checkpointState : Option CheckpointState := none
  pendingActionRequired : Bool := false
deriving DecidableEq

structure StateTransitionRequest where
  fromState : RuntimeState
  requestedTo : RuntimeState
  transitionReason : Bytes := []
  guardFacts : List TransitionGuardFact := []
deriving DecidableEq

def StateTransitionRequest.hasGuard (request : StateTransitionRequest)
    (fact : TransitionGuardFact) : Bool :=
  request.guardFacts.any fun candidate => candidate = fact

structure TransitionGuardRule where
  allOf : List TransitionGuardFact := []
  anyOf : List TransitionGuardFact := []
deriving DecidableEq

def TransitionGuardRule.firstUnsatisfiedGuard (rule : TransitionGuardRule)
    (request : StateTransitionRequest) : Option TransitionGuardFact :=
  match rule.allOf.find? fun fact => !request.hasGuard fact with
  | some fact => some fact
  | none => if rule.anyOf.any request.hasGuard then none else rule.anyOf.head?

/-! ## The rules -/

structure TransitionRule where
  fromState : RuntimeState
  toState : RuntimeState
  guard : TransitionGuardRule
  checkpointStrategy : StateTransitionCheckpointHint
deriving DecidableEq

def requireAll (guardFacts : List TransitionGuardFact) : TransitionGuardRule := ⟨guardFacts, []⟩

def requireAny (guardFacts : List TransitionGuardFact) : TransitionGuardRule := ⟨[], guardFacts⟩

def noGuards : TransitionGuardRule := ⟨[], []⟩

def transitionRules : List TransitionRule :=
  [⟨.idle, .receiving, requireAll [.agentRequestAvailable, .facadeInitialized], ⟨.none, none, false⟩⟩,
    ⟨.receiving, .planning, requireAll [.requestValidated, .sessionLoaded, .budgetInitialized],
      ⟨.write, some .running, false⟩⟩,
    ⟨.planning, .reasoning, requireAll [.contextAssembled], ⟨.write, some .running, false⟩⟩,
    ⟨.reasoning, .waitingClarify, requireAll [.clarificationNeeded, .profileAllowsClarify],
      ⟨.write, some .paused, true⟩⟩,
    ⟨.waitingClarify, .receiving, requireAll [.agentRequestAvailable],
      ⟨.update, some .running, false⟩⟩,
    ⟨.reasoning, .waitingConfirm, requireAll [.highRiskConfirmationRequired],
      ⟨.write, some .waitingConfirm, true⟩⟩,
    ⟨.waitingConfirm, .toolCalling, requireAll [.userConfirmationGranted],
      ⟨.update, some .running, false⟩⟩,
    ⟨.reasoning, .toolCalling, requireAll [.toolCallPlanned, .budgetAllowsToolCall],
      ⟨.write, some .running, false⟩⟩,
    ⟨.toolCalling, .waitingExternal, requireAll [.toolDispatchSubmitted],
      ⟨.write, some .waitingTool, true⟩⟩,
    ⟨.waitingExternal, .reflecting, requireAll [.externalResultAvailable],
      ⟨.update, some .running, false⟩⟩,
    ⟨.reflecting, .reasoning,
      requireAny [.reflectionContinue, .recoveryRetryAllowed, .recoveryReplanAllowed],
      ⟨.write, some .running, false⟩⟩,
    ⟨.reflecting, .failedSafe, requireAll [.recoveryAbortSafe], ⟨.write, some .failed, false⟩⟩,
    ⟨.reflecting, .degraded, requireAll [.recoveryDegrade], ⟨.write, some .failed, false⟩⟩,
    ⟨.reasoning, .responding, requireAll [.directResponseReady], ⟨.write, some .running, false⟩⟩,
    ⟨.failedSafe, .responding, noGuards, ⟨.retain, some .failed, false⟩⟩,
    ⟨.degraded, .responding, noGuards, ⟨.retain, some .failed, false⟩⟩,
    ⟨.safeMode, .responding, noGuards, ⟨.retain, some .failed, false⟩⟩,
    ⟨.responding, .auditing, requireAll [.responseMaterialized], ⟨.none, none, false⟩⟩,
    ⟨.auditing, .persisting, requireAll [.auditCommitted], ⟨.none, none, false⟩⟩,
    ⟨.persisting, .completed, requireAll [.persistenceConfirmed],
      ⟨.write, some .succeeded, false⟩⟩,
    ⟨.completed, .idle, requireAll [.resultReturned], ⟨.clearActiveReference, none, false⟩⟩,
    ⟨.reasoning, .failed, requireAll [.recoveryRejected], ⟨.write, some .failed, false⟩⟩,
    ⟨.waitingExternal, .failed, requireAll [.recoveryRejected], ⟨.write, some .failed, false⟩⟩,
    ⟨.failed, .degraded, requireAll [.degradeAllowed], ⟨.retain, some .failed, false⟩⟩,
    ⟨.degraded, .safeMode, requireAll [.safeModeTriggerSatisfied],
      ⟨.retain, some .failed, false⟩⟩]

def findRule (fromState toState : RuntimeState) : Option TransitionRule :=
  transitionRules.find? fun rule => rule.fromState = fromState ∧ rule.toState = toState

def isLegal (fromState toState : RuntimeState) : Bool := (findRule fromState toState).isSome

def getGuard (fromState toState : RuntimeState) : Option TransitionGuardRule :=
  (findRule fromState toState).map (·.guard)

def getCheckpointStrategy (fromState toState : RuntimeState) :
    Option StateTransitionCheckpointHint :=
  (findRule fromState toState).map (·.checkpointStrategy)

/-! ## What a rule asks for -/

/-- Every `all_of` fact is there, and one of the `any_of` facts where there are any. -/
def TransitionGuardRule.Satisfied (rule : TransitionGuardRule)
    (guardFacts : List TransitionGuardFact) : Prop :=
  (∀ fact ∈ rule.allOf, fact ∈ guardFacts) ∧
    (rule.anyOf ≠ [] → ∃ fact ∈ rule.anyOf, fact ∈ guardFacts)

theorem hasGuard_iff (request : StateTransitionRequest) (fact : TransitionGuardFact) :
    request.hasGuard fact = true ↔ fact ∈ request.guardFacts := by
  simp [StateTransitionRequest.hasGuard]

theorem firstUnsatisfiedGuard_spec (rule : TransitionGuardRule) (request : StateTransitionRequest) :
    rule.firstUnsatisfiedGuard request = none ↔ rule.Satisfied request.guardFacts := by
  unfold TransitionGuardRule.firstUnsatisfiedGuard TransitionGuardRule.Satisfied
  split
  · rename_i fact hfact
    have hmissing : ¬ fact ∈ request.guardFacts := by
      rw [← hasGuard_iff]
      simpa using List.find?_some hfact
    simp only [reduceCtorEq, false_iff, not_and]
    exact fun h => absurd (h fact (List.mem_of_find?_eq_some hfact)) hmissing
  · rename_i hall
    have hpresent : ∀ fact ∈ rule.allOf, fact ∈ request.guardFacts := by
      intro fact hfact
      rw [← hasGuard_iff]
      simpa using List.find?_eq_none.mp hall fact hfact
    have hany : rule.anyOf.any request.hasGuard = true ↔
        ∃ fact ∈ rule.anyOf, fact ∈ request.guardFacts := by
      simp only [List.any_eq_true, hasGuard_iff]
    split
    · rename_i hsome
      exact iff_of_true rfl ⟨hpresent, fun _ => hany.mp hsome⟩
    · rename_i hnone
      rw [List.head?_eq_none_iff]
      constructor
      · intro hempty
        exact ⟨hpresent, fun h => absurd hempty h⟩
      · rintro ⟨-, h⟩
        by_contra hsome
        exact hnone (hany.mpr (h hsome))

/-!
## The agent state machine

A request is checked against the current state, the terminal state, the table and the facts
it brings, in that order. Only a request that passes moves the machine.
-/

def guardFactName : TransitionGuardFact → Bytes
  | .agentRequestAvailable => str "AgentRequestAvailable"
  | .facadeInitialized => str "FacadeInitialized"
  | .requestValidated => str "RequestValidated"
  | .sessionLoaded => str "SessionLoaded"
  | .budgetInitialized => str "BudgetInitialized"
  | .contextAssembled => str "ContextAssembled"
  | .clarificationNeeded => str "ClarificationNeeded"
  | .profileAllowsClarify => str "ProfileAllowsClarify"
  | .highRiskConfirmationRequired => str "HighRiskConfirmationRequired"
  | .userConfirmationGranted => str "UserConfirmationGranted"
  | .toolCallPlanned => str "ToolCallPlanned"
  | .budgetAllowsToolCall => str "BudgetAllowsToolCall"
  | .toolDispatchSubmitted => str "ToolDispatchSubmitted"
  | .externalResultAvailable => str "ExternalResultAvailable"
  | .reflectionContinue => str "ReflectionContinue"
  | .recoveryRetryAllowed => str "RecoveryRetryAllowed"
  | .recoveryReplanAllowed => str "RecoveryReplanAllowed"
  | .recoveryAbortSafe => str "RecoveryAbortSafe"
  | .recoveryDegrade => str "RecoveryDegrade"
  | .directResponseReady => str "DirectResponseReady"
  | .responseMaterialized => str "ResponseMaterialized"
  | .auditCommitted => str "AuditCommitted"
  | .persistenceConfirmed => str "PersistenceConfirmed"
  | .resultReturned => str "ResultReturned"
  | .recoveryRejected => str "RecoveryRejected"
  | .degradeAllowed => str "DegradeAllowed"
  | .safeModeTriggerSatisfied => str "SafeModeTriggerSatisfied"
  | .unlisted _ => str "Unknown"

inductive TransitionViolationType
  | illegalTransition
  | sourceStateMismatch
  | missingGuardFact
  | guardRejected
  | terminalStateExit
deriving DecidableEq, Repr

structure TransitionRejectionReason where
  fromState : RuntimeState
  requestedTo : RuntimeState
  violationType : TransitionViolationType
  violatedGuard : Option TransitionGuardFact
  detail : Bytes
deriving DecidableEq

structure StateTransitionOutcome where
  accepted : Bool
  previousState : RuntimeState
  resolvedState : RuntimeState
  transitionReason : Bytes
  checkpointHint : StateTransitionCheckpointHint
  rejectionReason : Option TransitionRejectionReason
deriving DecidableEq

def makeTransitionOutcome (request : StateTransitionRequest) (resolvedState : RuntimeState)
    (checkpointHint : StateTransitionCheckpointHint) : StateTransitionOutcome where
  accepted := true
  previousState := request.fromState
  resolvedState := resolvedState
  transitionReason := request.transitionReason
  checkpointHint := checkpointHint
  rejectionReason := none

def makeRejectedOutcome (request : StateTransitionRequest) (currentState : RuntimeState)
    (violationType : TransitionViolationType) (detail : Bytes)
    (violatedGuard : Option TransitionGuardFact) : StateTransitionOutcome where
  accepted := false
  previousState := currentState
  resolvedState := currentState
  transitionReason := request.transitionReason
  checkpointHint := {}
  rejectionReason := some
    { fromState := currentState, requestedTo := request.requestedTo, violationType,
      violatedGuard, detail }

/-! ## The machine -/

structure EvaluationResult where
  accepted : Bool := false
  checkpointHint : Option StateTransitionCheckpointHint := none
  violationType : TransitionViolationType := .illegalTransition
  violatedGuard : Option TransitionGuardFact := none
  detail : Bytes := []
deriving DecidableEq

structure AgentFsm where
  currentState : RuntimeState := .idle
deriving DecidableEq

def isTerminal (state : RuntimeState) : Bool := state = .safeMode

namespace AgentFsm

def evaluateRequestLocked (fsm : AgentFsm) (request : StateTransitionRequest) :
    EvaluationResult :=
  if request.fromState ≠ fsm.currentState then
    { violationType := .sourceStateMismatch
      detail := str "request.from_state=" ++ runtimeStateName request.fromState ++
        str " does not match current_state=" ++ runtimeStateName fsm.currentState }
  else if isTerminal fsm.currentState && request.requestedTo ≠ fsm.currentState then
    { violationType := .terminalStateExit
      detail := str "cannot leave terminal state " ++ runtimeStateName fsm.currentState }
  else if !isLegal request.fromState request.requestedTo then
    { violationType := .illegalTransition
      detail := str "transition " ++ runtimeStateName request.fromState ++ str " -> " ++
        runtimeStateName request.requestedTo ++ str " is not legal in section 6.7.4" }
  else
    match getGuard request.fromState request.requestedTo with
    | none =>
      { violationType := .illegalTransition
        detail := str "transition rule lookup failed for legal edge " ++
          runtimeStateName request.fromState ++ str " -> " ++
          runtimeStateName request.requestedTo }
    | some guardRule =>
      match guardRule.firstUnsatisfiedGuard request with
      | some violatedGuard =>
        { violationType := .missingGuardFact
          violatedGuard := some violatedGuard
          detail := str "missing required guard fact " ++ guardFactName violatedGuard ++
            str " for transition " ++ runtimeStateName request.fromState ++ str " -> " ++
            runtimeStateName request.requestedTo }
      | none =>
        match getCheckpointStrategy request.fromState request.requestedTo with
        | none =>
          { violationType := .illegalTransition
            detail := str "checkpoint strategy lookup failed for legal edge " ++
              runtimeStateName request.fromState ++ str " -> " ++
              runtimeStateName request.requestedTo }
        | some checkpointHint => { accepted := true, checkpointHint := some checkpointHint }

def canEnter (fsm : AgentFsm) (request : StateTransitionRequest) : Bool :=
  (fsm.evaluateRequestLocked request).accepted

def transition (fsm : AgentFsm) (request : StateTransitionRequest) :
    AgentFsm × StateTransitionOutcome :=
  let evaluation := fsm.evaluateRequestLocked request
  if !evaluation.accepted then
    (fsm, makeRejectedOutcome request fsm.currentState evaluation.violationType evaluation.detail
      evaluation.violatedGuard)
  else
    -- an accepted evaluation carries its hint
    ({ currentState := request.requestedTo },
      makeTransitionOutcome request request.requestedTo (evaluation.checkpointHint.getD {}))

end AgentFsm

end Dasall.Runtime.Fsm
