import Dasall.Infra.Policy.Types

/-! # What a receipt of an adapter says to the caller -/

open Dasall.Contracts Dasall.Infra.Policy Dasall.Lib.Text

namespace Dasall.Services

inductive AdapterRouteKind
  | localPlatform
  | localService
  | remoteService
deriving DecidableEq

inductive AdapterTransportOutcome
  | acknowledged
  | timeout
  | unreachable
  | rejected
  | partly
deriving DecidableEq

structure AdapterReceipt where
  receiptRef : Bytes
  adapterId : Bytes := []
  routeKind : AdapterRouteKind := .localService
  targetId : Bytes
  transportOutcome : AdapterTransportOutcome := .rejected
  providerStatusCode : Bytes
  payloadJson : Bytes
  latencyMs : UInt32 := 0
  sideEffects : List Bytes := []
  evidenceRefs : List Bytes := []
deriving DecidableEq

structure ExecutionCommandResult where
  code : Option ResultCode
  executionId : Bytes
  payloadJson : Bytes
  sideEffects : List Bytes
  compensationHints : List Bytes
  error : Option ErrorInfo
deriving DecidableEq

inductive ServiceErrorClass
  | none
  | invalidRequest
  | capabilityUnsupported
  | policyDenied
  | routeUnavailable
  | adapterUnavailable
  | targetBusy
  | partialSideEffect
  | dataStale
  | subscriptionOverflow
deriving DecidableEq

/-! ## Error classes -/

def classifyProviderStatusCode (code : Bytes) : ServiceErrorClass :=
  if code = str "invalid_request" then .invalidRequest
  else if code = str "capability_unsupported" then .capabilityUnsupported
  else if code = str "policy_denied" ∨ code = str "confirmation_required" ∨
      code = str "route_not_permitted" then .policyDenied
  else if code = str "route_unavailable" ∨ code = str "fallback_blocked" ∨
      code = str "adapter_not_registered" ∨ code = str "route_kind_mismatch" then .routeUnavailable
  else if code = str "adapter_unavailable" ∨ code = str "platform_hal_unbound" ∨
      code = str "platform_hal_exception" ∨ code = str "local_service_unbound" ∨
      code = str "remote_service_stub" ∨ code = str "bridge_exception" then .adapterUnavailable
  else if code = str "target_busy" then .targetBusy
  else if code = str "partial_side_effect" then .partialSideEffect
  else if code = str "data_stale" then .dataStale
  else if code = str "subscription_overflow" then .subscriptionOverflow
  else .none

/-- The status code is read first, and the transport only where the code says nothing. -/
def classifyReceipt (receipt : AdapterReceipt) : ServiceErrorClass :=
  match classifyProviderStatusCode receipt.providerStatusCode with
  | .none =>
    match receipt.transportOutcome with
    | .acknowledged => .none
    | .timeout | .unreachable => .adapterUnavailable
    | .rejected => .invalidRequest
    | .partly => .partialSideEffect
  | explicitClass => explicitClass

def failureTypeFor : ServiceErrorClass → ResultCodeCategory
  | .invalidRequest | .capabilityUnsupported => .validation
  | .policyDenied => .policy
  | .routeUnavailable | .dataStale | .subscriptionOverflow => .runtime
  | .adapterUnavailable | .targetBusy | .partialSideEffect => .provider
  | .none => .unknown

def resultCodeFor : ServiceErrorClass → ResultCode
  | .invalidRequest | .capabilityUnsupported => .validationFieldMissing
  | .policyDenied => .policyDenied
  | .routeUnavailable | .dataStale | .subscriptionOverflow => .runtimeRetryExhausted
  | .adapterUnavailable | .targetBusy | .partialSideEffect => .providerTimeout
  | .none => .toolExecutionFailed

def retryableFor : ServiceErrorClass → Bool
  | .routeUnavailable | .adapterUnavailable | .targetBusy | .dataStale
  | .subscriptionOverflow => true
  | .invalidRequest | .capabilityUnsupported | .policyDenied | .partialSideEffect | .none => false

def safeToReplanFor : ServiceErrorClass → Bool
  | .invalidRequest | .capabilityUnsupported | .policyDenied | .routeUnavailable
  | .adapterUnavailable | .dataStale => true
  | .targetBusy | .partialSideEffect | .subscriptionOverflow | .none => false

def sourceRefTypeFor : ServiceErrorClass → Bytes
  | .invalidRequest => str "request_validator"
  | .capabilityUnsupported => str "capability_snapshot"
  | .policyDenied => str "policy_decision"
  | .routeUnavailable => str "route_receipt"
  | .adapterUnavailable => str "adapter_receipt"
  | .targetBusy => str "target_lease"
  | .partialSideEffect => str "evidence_ref"
  | .dataStale => str "snapshot_ref"
  | .subscriptionOverflow => str "subscription_stream"
  | .none => str "adapter_receipt"

def serviceErrorClassName : ServiceErrorClass → Bytes
  | .none => str "none"
  | .invalidRequest => str "invalid_request"
  | .capabilityUnsupported => str "capability_unsupported"
  | .policyDenied => str "policy_denied"
  | .routeUnavailable => str "route_unavailable"
  | .adapterUnavailable => str "adapter_unavailable"
  | .targetBusy => str "target_busy"
  | .partialSideEffect => str "partial_side_effect"
  | .dataStale => str "data_stale"
  | .subscriptionOverflow => str "subscription_overflow"

def namesEvidence : ServiceErrorClass → Bool
  | .partialSideEffect | .capabilityUnsupported | .policyDenied | .dataStale
  | .subscriptionOverflow => true
  | .none | .invalidRequest | .routeUnavailable | .adapterUnavailable | .targetBusy => false

def sourceRefIdFor (errorClass : ServiceErrorClass) (receipt : AdapterReceipt) : Bytes :=
  match receipt.evidenceRefs.head?.filter fun _ => namesEvidence errorClass with
  | some evidenceRef => evidenceRef
  | none =>
    if !receipt.receiptRef.isEmpty then receipt.receiptRef
    else if !receipt.adapterId.isEmpty then receipt.adapterId
    else serviceErrorClassName errorClass

def buildErrorMessage (errorClass : ServiceErrorClass) (receipt : AdapterReceipt) : Bytes :=
  serviceErrorClassName errorClass ++
    (if receipt.providerStatusCode.isEmpty then [] else str ": " ++ receipt.providerStatusCode) ++
    (if receipt.adapterId.isEmpty then [] else str " adapter=" ++ receipt.adapterId) ++
    (if receipt.targetId.isEmpty then [] else str " target=" ++ receipt.targetId)

def makeErrorInfo (errorClass : ServiceErrorClass) (receipt : AdapterReceipt) (message : Bytes) :
    ErrorInfo :=
  { failureType := some (failureTypeFor errorClass)
    retryable := some (retryableFor errorClass)
    safeToReplan := some (safeToReplanFor errorClass)
    details :=
      { code := some (resultCodeFor errorClass).toRaw
        message
        stage := str "result_mapper" }
    sourceRef :=
      { refType := sourceRefTypeFor errorClass
        refId := sourceRefIdFor errorClass receipt } }

/-! ## Mappings -/

structure ResultMapping where
  errorClass : ServiceErrorClass
  success : Bool
  code : ResultCode
  error : Option ErrorInfo
  sideEffects : List Bytes
  compensationHints : List Bytes
  evidenceRefs : List Bytes
  payloadJson : Bytes
  resyncRequired : Bool
  droppedCount : UInt32
deriving DecidableEq

def makeSuccessMapping (receipt : AdapterReceipt) : ResultMapping where
  errorClass := .none
  success := true
  code := .toolExecutionFailed
  error := none
  sideEffects := receipt.sideEffects
  compensationHints := []
  evidenceRefs := receipt.evidenceRefs
  payloadJson := receipt.payloadJson
  resyncRequired := false
  droppedCount := 0

def makeInvalidPartialContractMapping (receipt : AdapterReceipt) : ResultMapping where
  errorClass := .invalidRequest
  success := false
  code := .validationFieldMissing
  error := some (makeErrorInfo .invalidRequest receipt
    (str "partial_side_effect requires side_effects, evidence_refs, and compensation_hints"))
  sideEffects := []
  compensationHints := []
  evidenceRefs := []
  payloadJson := receipt.payloadJson
  resyncRequired := false
  droppedCount := 0

def makeFailureMapping (errorClass : ServiceErrorClass) (receipt : AdapterReceipt)
    (compensationHints : List Bytes) : ResultMapping where
  errorClass
  success := false
  code := resultCodeFor errorClass
  error := some (makeErrorInfo errorClass receipt (buildErrorMessage errorClass receipt))
  sideEffects := if errorClass = .partialSideEffect then receipt.sideEffects else []
  compensationHints := if errorClass = .partialSideEffect then compensationHints else []
  evidenceRefs := if errorClass = .partialSideEffect then receipt.evidenceRefs else []
  payloadJson := receipt.payloadJson
  resyncRequired := decide (errorClass = .subscriptionOverflow)
  droppedCount := 0

def mapResult (receipt : AdapterReceipt) (compensationHints : List Bytes) : ResultMapping :=
  if classifyReceipt receipt = .none then makeSuccessMapping receipt
  else if classifyReceipt receipt = .partialSideEffect ∧
      (receipt.sideEffects.isEmpty || receipt.evidenceRefs.isEmpty ||
        compensationHints.isEmpty) = true then
    makeInvalidPartialContractMapping receipt
  else makeFailureMapping (classifyReceipt receipt) receipt compensationHints

/-! ## Results -/

/-- A partial side effect that cannot be compensated is an invalid answer of the adapter. -/
def toExecutionCommandResult (receipt : AdapterReceipt) (compensationHints : List Bytes)
    (executionId : Bytes) : ExecutionCommandResult :=
  match classifyReceipt receipt with
  | .none =>
    { code := none
      executionId
      payloadJson := receipt.payloadJson
      sideEffects := receipt.sideEffects
      compensationHints := []
      error := none }
  | .partialSideEffect =>
    if receipt.sideEffects.isEmpty || receipt.evidenceRefs.isEmpty || compensationHints.isEmpty then
      { code := some .validationFieldMissing
        executionId
        payloadJson := receipt.payloadJson
        sideEffects := []
        compensationHints := []
        error := some (makeErrorInfo .invalidRequest receipt
          (str "partial_side_effect requires side_effects, evidence_refs, and compensation_hints")) }
    else
      { code := some (resultCodeFor .partialSideEffect)
        executionId
        payloadJson := receipt.payloadJson
        sideEffects := receipt.sideEffects
        compensationHints
        error := some (makeErrorInfo .partialSideEffect receipt
          (buildErrorMessage .partialSideEffect receipt)) }
  | errorClass =>
    { code := some (resultCodeFor errorClass)
      executionId
      payloadJson := receipt.payloadJson
      sideEffects := []
      compensationHints := []
      error := some (makeErrorInfo errorClass receipt (buildErrorMessage errorClass receipt)) }

/-- The result of a command as the mapping gives it. -/
def ResultMapping.toCommandResult (mapping : ResultMapping) (executionId : Bytes)
    (successCode : Option ResultCode) : ExecutionCommandResult where
  code := if mapping.success then successCode else some mapping.code
  executionId
  payloadJson := mapping.payloadJson
  sideEffects := mapping.sideEffects
  compensationHints := mapping.compensationHints
  error := mapping.error

theorem toExecutionCommandResult_eq (receipt : AdapterReceipt) (compensationHints : List Bytes)
    (executionId : Bytes) :
    toExecutionCommandResult receipt compensationHints executionId =
      (mapResult receipt compensationHints).toCommandResult executionId none := by
  unfold toExecutionCommandResult mapResult
  cases hclass : classifyReceipt receipt with
  | none => rfl
  | partialSideEffect =>
    by_cases hlists : (receipt.sideEffects.isEmpty || receipt.evidenceRefs.isEmpty ||
        compensationHints.isEmpty) = true
    · simp only [hlists, reduceCtorEq, if_true, if_false, and_self]
      rfl
    · simp only [hlists, reduceCtorEq, if_false, and_false]
      rfl
  | _ => rfl

/-! ## What happens to side effects -/

/-- What a caller may not replay. -/
def NotReplayable (error : Option ErrorInfo) : Prop :=
  ∃ info, error = some info ∧ info.retryable = some false ∧ info.safeToReplan = some false

namespace AdapterReceipt

def ReportsPartial (receipt : AdapterReceipt) : Prop :=
  receipt.providerStatusCode = str "partial_side_effect" ∨ receipt.transportOutcome = .partly

/-- The receipt of a success, or of a partial side effect that is proved and can be undone. -/
def Accounted (receipt : AdapterReceipt) (compensationHints : List Bytes) : Prop :=
  classifyReceipt receipt = .none ∨
    classifyReceipt receipt = .partialSideEffect ∧ receipt.sideEffects ≠ [] ∧
      receipt.evidenceRefs ≠ [] ∧ compensationHints ≠ []

end AdapterReceipt

/-- All side effects in a success, or in a failure that proves them and is not replayed. -/
def KeepsAll (receipt : AdapterReceipt) (mapping : ResultMapping) (result : ExecutionCommandResult) :
    Prop :=
  (mapping.success = true ∧ result.error = none ∧ result.sideEffects = receipt.sideEffects) ∨
    mapping.success = false ∧ result.sideEffects = receipt.sideEffects ∧
      mapping.evidenceRefs = receipt.evidenceRefs ∧ NotReplayable result.error

/-- A failure that tells nothing of what was done, and that may be replayed. -/
def KeepsNothing (mapping : ResultMapping) (result : ExecutionCommandResult) : Prop :=
  mapping.success = false ∧ mapping.evidenceRefs = [] ∧ result.sideEffects = [] ∧
    result.compensationHints = [] ∧ result.error ≠ none ∧ ¬NotReplayable result.error

/-- No side effect is lost, and none may be replayed. -/
structure SideEffectsSafe (receipt : AdapterReceipt) (mapping : ResultMapping)
    (result : ExecutionCommandResult) : Prop where
  kept : receipt.sideEffects ≠ [] ∨ receipt.ReportsPartial → KeepsAll receipt mapping result
  none_of_none : result.sideEffects = [] → receipt.sideEffects = []

theorem replayable_of_class {errorClass : ServiceErrorClass} (hnone : errorClass ≠ .none)
    (hincomplete : errorClass ≠ .partialSideEffect) :
    retryableFor errorClass = true ∨ safeToReplanFor errorClass = true := by
  cases errorClass with
  | none => exact absurd rfl hnone
  | partialSideEffect => exact absurd rfl hincomplete
  | targetBusy => exact Or.inl rfl
  | subscriptionOverflow => exact Or.inl rfl
  | _ => exact Or.inr rfl

section
variable (receipt : AdapterReceipt) (compensationHints : List Bytes)

theorem mapResult_of_none (h : classifyReceipt receipt = .none) :
    mapResult receipt compensationHints = makeSuccessMapping receipt := by
  rw [mapResult, if_pos h]

theorem mapResult_of_partialEffect (h : classifyReceipt receipt = .partialSideEffect)
    (heffects : receipt.sideEffects ≠ []) (hevidence : receipt.evidenceRefs ≠ [])
    (hhints : compensationHints ≠ []) :
    mapResult receipt compensationHints =
      makeFailureMapping .partialSideEffect receipt compensationHints := by
  rw [mapResult, h, if_neg (by decide), if_neg]
  simp [heffects, hevidence, hhints]

theorem mapResult_of_invalid (h : classifyReceipt receipt = .partialSideEffect)
    (hlists : receipt.sideEffects = [] ∨ receipt.evidenceRefs = [] ∨ compensationHints = []) :
    mapResult receipt compensationHints = makeInvalidPartialContractMapping receipt := by
  rw [mapResult, h, if_neg (by decide), if_pos]
  simpa [or_assoc] using hlists

theorem mapResult_of_other (hnone : classifyReceipt receipt ≠ .none)
    (hincomplete : classifyReceipt receipt ≠ .partialSideEffect) :
    mapResult receipt compensationHints =
      makeFailureMapping (classifyReceipt receipt) receipt compensationHints := by
  rw [mapResult, if_neg hnone, if_neg fun h => hincomplete h.1]

variable (executionId : Bytes) (successCode : Option ResultCode)

theorem keepsAll_of_accounted (h : receipt.Accounted compensationHints) :
    KeepsAll receipt (mapResult receipt compensationHints)
      ((mapResult receipt compensationHints).toCommandResult executionId successCode) := by
  obtain hnone | ⟨hincomplete, heffects, hevidence, hhints⟩ := h
  · rw [mapResult_of_none receipt compensationHints hnone]
    exact Or.inl ⟨rfl, rfl, rfl⟩
  · rw [mapResult_of_partialEffect receipt compensationHints hincomplete heffects hevidence hhints]
    exact Or.inr ⟨rfl, rfl, rfl, _, rfl, rfl, rfl⟩

theorem keepsNothing_of_not_accounted (h : ¬receipt.Accounted compensationHints) :
    KeepsNothing (mapResult receipt compensationHints)
      ((mapResult receipt compensationHints).toCommandResult executionId successCode) := by
  have hnone : classifyReceipt receipt ≠ .none := fun hnone => h (Or.inl hnone)
  by_cases hincomplete : classifyReceipt receipt = .partialSideEffect
  · have hlists : receipt.sideEffects = [] ∨ receipt.evidenceRefs = [] ∨ compensationHints = [] := by
      by_contra hlists
      push Not at hlists
      exact h (Or.inr ⟨hincomplete, hlists⟩)
    rw [mapResult_of_invalid receipt compensationHints hincomplete hlists]
    refine ⟨rfl, rfl, rfl, rfl, Option.some_ne_none _, ?_⟩
    rintro ⟨info, hinfo, -, hreplan⟩
    cases hinfo
    cases hreplan
  · rw [mapResult_of_other receipt compensationHints hnone hincomplete]
    refine ⟨rfl, if_neg hincomplete, if_neg hincomplete, if_neg hincomplete, Option.some_ne_none _, ?_⟩
    rintro ⟨info, hinfo, hretry, hreplan⟩
    cases hinfo
    have hsafe := replayable_of_class hnone hincomplete
    simp only [makeErrorInfo, Option.some.injEq] at hretry hreplan
    simp [hretry, hreplan] at hsafe

/-- The law holds of an accounted receipt, and of one that has nothing to tell. -/
theorem sideEffectsSafe_iff :
    SideEffectsSafe receipt (mapResult receipt compensationHints)
        ((mapResult receipt compensationHints).toCommandResult executionId successCode) ↔
      receipt.Accounted compensationHints ∨ receipt.sideEffects = [] ∧ ¬receipt.ReportsPartial := by
  constructor
  · intro h
    by_cases haccounted : receipt.Accounted compensationHints
    · exact Or.inl haccounted
    have hnothing := keepsNothing_of_not_accounted receipt compensationHints executionId
      successCode haccounted
    refine Or.inr ⟨h.none_of_none hnothing.2.2.1, fun hincomplete => ?_⟩
    obtain ⟨hsuccess, -⟩ | ⟨-, -, -, hreplay⟩ := h.kept (Or.inr hincomplete)
    · rw [hnothing.1] at hsuccess
      cases hsuccess
    · exact hnothing.2.2.2.2.2 hreplay
  · rintro (haccounted | ⟨heffects, hincomplete⟩)
    · have hall := keepsAll_of_accounted receipt compensationHints executionId successCode haccounted
      refine ⟨fun _ => hall, fun hempty => ?_⟩
      obtain ⟨-, -, hsame⟩ | ⟨-, hsame, -⟩ := hall
      · rw [← hsame, hempty]
      · rw [← hsame, hempty]
    · exact ⟨fun h => absurd h (not_or.mpr ⟨fun hne => hne heffects, hincomplete⟩), fun _ => heffects⟩

end

end Dasall.Services
