import Dasall.Runtime.State

/-! # The budget controller -/

open Dasall.Lib.Text Dasall.Lib.Guard Dasall.Contracts

namespace Dasall.Runtime

structure BudgetInitializeRequest where
  runtimeBudget : RuntimeBudget
  startedAtMs : UInt64

structure BudgetConsumeRequest where
  budgetType : BudgetType
  amount : UInt64
  observedAtMs : UInt64
  detail : Bytes
deriving DecidableEq

inductive BudgetViolationClass
  | none
  | configurationInvalid
  | snapshotUnavailable
  | tokenExhausted
  | turnExhausted
  | toolCallExhausted
  | latencyExhausted
  | replanExhausted
deriving DecidableEq, Repr

def violatedBudgetType : BudgetViolationClass → Option BudgetType
  | .tokenExhausted => some .token
  | .turnExhausted => some .turn
  | .toolCallExhausted => some .toolCall
  | .latencyExhausted => some .latency
  | .replanExhausted => some .replan
  | .none | .configurationInvalid | .snapshotUnavailable => Option.none

def budgetViolationErrorCode : BudgetViolationClass → Option RuntimeErrorCode
  | .configurationInvalid => some .rtE100ConfigMissing
  | .snapshotUnavailable => some .rtE202StateInconsistent
  | .tokenExhausted => some .rtE300BudgetExhausted
  | .turnExhausted => some .rtE301TurnOverrun
  | .toolCallExhausted => some .rtE302ToolCallOverrun
  | .latencyExhausted => some .rtE303LatencyOverrun
  | .replanExhausted => some .rtE304ReplanOverrun
  | .none => Option.none

structure BudgetDecision where
  allowed : Bool
  budgetType : Option BudgetType
  violation : BudgetViolationClass
  errorCode : Option RuntimeErrorCode
  detail : Bytes
deriving DecidableEq

def makeBudgetAllowedDecision (budgetType : Option BudgetType) (detail : Bytes) : BudgetDecision :=
  ⟨true, budgetType, .none, none, detail⟩

def makeBudgetRejectedDecision (violation : BudgetViolationClass) (detail : Bytes)
    (budgetType : Option BudgetType) : BudgetDecision :=
  ⟨false, budgetType <|> violatedBudgetType violation, violation,
    budgetViolationErrorCode violation, detail⟩

def exhaustedViolationFor : BudgetType → BudgetViolationClass
  | .token => .tokenExhausted
  | .turn => .turnExhausted
  | .toolCall => .toolCallExhausted
  | .latency => .latencyExhausted
  | .replan => .replanExhausted

/-! ## Snapshots -/

def noRuntimeBudget : RuntimeBudget := ⟨none, none, none, none, none⟩

def noSnapshot : BudgetSnapshot := ⟨none, [], none⟩

def initialEntry (budgetType : BudgetType) (max : UInt32) : BudgetSnapshotEntry where
  budgetType := budgetType
  current := 0
  max := max.toUInt64
  remaining := max.toUInt64.toInt64
  rejectReason := none

def buildInitialSnapshot (runtimeBudget : RuntimeBudget) (startedAtMs : UInt64) :
    Check BudgetSnapshot := do
  let maxTokens ← deref runtimeBudget.maxTokens
  let maxTurns ← deref runtimeBudget.maxTurns
  let maxToolCalls ← deref runtimeBudget.maxToolCalls
  let maxLatencyMs ← deref runtimeBudget.maxLatencyMs
  let maxReplanCount ← deref runtimeBudget.maxReplanCount
  .ok
    { snapshotAtMs := some startedAtMs
      entries := [initialEntry .token maxTokens, initialEntry .turn maxTurns,
        initialEntry .toolCall maxToolCalls, initialEntry .latency maxLatencyMs,
        initialEntry .replan maxReplanCount]
      overallRejectReason := none }

/-- A `uint64_t` maximum is cut to the `uint32_t` of the budget. -/
def withEntryMax (budget : RuntimeBudget) (entry : BudgetSnapshotEntry) : RuntimeBudget :=
  match entry.budgetType with
  | .token => { budget with maxTokens := some entry.max.toUInt32 }
  | .turn => { budget with maxTurns := some entry.max.toUInt32 }
  | .toolCall => { budget with maxToolCalls := some entry.max.toUInt32 }
  | .latency => { budget with maxLatencyMs := some entry.max.toUInt32 }
  | .replan => { budget with maxReplanCount := some entry.max.toUInt32 }

/-- Every dimension has to be there. -/
def runtimeBudgetFromSnapshot (snapshot : BudgetSnapshot) : Option RuntimeBudget :=
  let budget := snapshot.entries.foldl withEntryMax noRuntimeBudget
  if budget.maxTokens.isSome && budget.maxTurns.isSome && budget.maxToolCalls.isSome &&
      budget.maxLatencyMs.isSome && budget.maxReplanCount.isSome then some budget
  else none

def findEntryLocked (snapshot : BudgetSnapshot) (budgetType : BudgetType) :
    Option BudgetSnapshotEntry :=
  snapshot.entries.find? fun entry => entry.budgetType == budgetType

/-- The entry that `find_entry_locked` points at is written over. -/
def replaceEntry (budgetType : BudgetType) (written : BudgetSnapshotEntry) :
    List BudgetSnapshotEntry → List BudgetSnapshotEntry
  | [] => []
  | entry :: entries =>
    if entry.budgetType == budgetType then written :: entries
    else entry :: replaceEntry budgetType written entries

/-- The first reject reason of an entry becomes the overall one. -/
def refreshOverallRejectReason (snapshot : BudgetSnapshot) : BudgetSnapshot :=
  { snapshot with overallRejectReason := snapshot.entries.findSome? (·.rejectReason) }

/-! ## The controller -/

structure BudgetController where
  initialized : Bool := false
  startedAtMs : UInt64 := 0
  runtimeBudget : RuntimeBudget := noRuntimeBudget
  snapshot : BudgetSnapshot := noSnapshot
deriving DecidableEq

namespace BudgetController

/-- A new budget. A failed start leaves the controller as if it were new. -/
def initializeBudget (request : BudgetInitializeRequest) : Check (BudgetController × BudgetDecision) :=
  match validateRuntimeBudget request.runtimeBudget with
  | .error .disengaged => .error .disengaged
  | .error (.reject reason) =>
    .ok ({}, makeBudgetRejectedDecision .configurationInvalid reason none)
  | .ok _ => do
    let snapshot ← buildInitialSnapshot request.runtimeBudget request.startedAtMs
    .ok (⟨true, request.startedAtMs, request.runtimeBudget, snapshot⟩,
      makeBudgetAllowedDecision none (str "budget initialized"))

def restore (snapshot : BudgetSnapshot) (startedAtMs : UInt64) :
    Check (BudgetController × BudgetDecision) :=
  match validateBudgetSnapshot snapshot with
  | .error .disengaged => .error .disengaged
  | .error (.reject reason) =>
    .ok ({}, makeBudgetRejectedDecision .snapshotUnavailable reason none)
  | .ok _ =>
    match runtimeBudgetFromSnapshot snapshot with
    | none =>
      .ok ({}, makeBudgetRejectedDecision .snapshotUnavailable
        (str "budget snapshot is missing one or more dimensions") none)
    | some runtimeBudget =>
      match validateRuntimeBudget runtimeBudget with
      | .error .disengaged => .error .disengaged
      | .error (.reject reason) =>
        .ok ({}, makeBudgetRejectedDecision .configurationInvalid reason none)
      | .ok _ =>
        let restored :=
          { snapshot with snapshotAtMs := some (snapshot.snapshotAtMs.getD startedAtMs) }
        .ok (⟨true, startedAtMs, runtimeBudget, refreshOverallRejectReason restored⟩,
          makeBudgetAllowedDecision none (str "budget restored from checkpoint snapshot"))

end BudgetController

/-- The count that a request leads to. The sum wraps, as `uint64_t` does. -/
def BudgetConsumeRequest.countFrom (request : BudgetConsumeRequest) (startedAtMs current : UInt64) :
    UInt64 :=
  if request.budgetType = .latency then
    if startedAtMs < request.observedAtMs then request.observedAtMs - startedAtMs else 0
  else current + request.amount

/-- Both casts wrap. Where the difference of the two does not fit an `int64_t`, C++ leaves it
undefined, and it wraps here. -/
def consumedEntry (startedAtMs : UInt64) (entry : BudgetSnapshotEntry)
    (request : BudgetConsumeRequest) : BudgetSnapshotEntry :=
  let current := request.countFrom startedAtMs entry.current
  { entry with
    current := current
    remaining := entry.max.toInt64 - current.toInt64
    rejectReason :=
      if entry.max < current then
        some (if request.detail.isEmpty then str "budget exhausted" else request.detail)
      else none }

namespace BudgetController

def consume (controller : BudgetController) (request : BudgetConsumeRequest) :
    BudgetController × BudgetDecision :=
  if !controller.initialized then
    (controller, makeBudgetRejectedDecision .snapshotUnavailable
      (str "budget controller must be initialized before consume") none)
  else
    match findEntryLocked controller.snapshot request.budgetType with
    | none =>
      (controller, makeBudgetRejectedDecision .snapshotUnavailable
        (str "budget snapshot entry is missing") (some request.budgetType))
    | some entry =>
      let consumed := consumedEntry controller.startedAtMs entry request
      let snapshot := refreshOverallRejectReason
        { controller.snapshot with
          snapshotAtMs := some request.observedAtMs
          entries := replaceEntry request.budgetType consumed controller.snapshot.entries }
      ({ controller with snapshot := snapshot },
        match consumed.rejectReason with
        | some reason =>
          makeBudgetRejectedDecision (exhaustedViolationFor request.budgetType) reason
            (some request.budgetType)
        | none =>
          makeBudgetAllowedDecision (some request.budgetType)
            (if request.detail.isEmpty then str "budget consumed" else request.detail))

/-- What a query answers when one dimension does not let it pass. -/
def rejectionFor (controller : BudgetController) (budgetType : BudgetType) :
    Option BudgetDecision :=
  match findEntryLocked controller.snapshot budgetType with
  | none =>
    some (makeBudgetRejectedDecision .snapshotUnavailable (str "budget snapshot entry is missing")
      (some budgetType))
  | some entry =>
    if entry.max < entry.current then
      some (makeBudgetRejectedDecision (exhaustedViolationFor budgetType)
        (entry.rejectReason.getD (str "budget exhausted")) (some budgetType))
    else none

def decisionForLocked (controller : BudgetController) (requiredDimensions : List BudgetType)
    (allowedBudgetType : Option BudgetType) (allowedDetail : Bytes) : BudgetDecision :=
  if !controller.initialized then
    makeBudgetRejectedDecision .snapshotUnavailable (str "budget controller has no snapshot") none
  else
    match requiredDimensions.findSome? controller.rejectionFor with
    | some decision => decision
    | none => makeBudgetAllowedDecision allowedBudgetType allowedDetail

def continueDimensions : List BudgetType := [.token, .turn, .latency]

def replanDimensions : List BudgetType := [.token, .turn, .latency, .replan]

def toolCallDimensions : List BudgetType := [.token, .turn, .latency, .toolCall]

def canContinue (controller : BudgetController) : BudgetDecision :=
  controller.decisionForLocked continueDimensions (some .turn) (str "continue budget available")

def canReplan (controller : BudgetController) : BudgetDecision :=
  controller.decisionForLocked replanDimensions (some .replan) (str "replan budget available")

def canCallTool (controller : BudgetController) : BudgetDecision :=
  controller.decisionForLocked toolCallDimensions (some .toolCall)
    (str "tool-call budget available")

end BudgetController

end Dasall.Runtime
