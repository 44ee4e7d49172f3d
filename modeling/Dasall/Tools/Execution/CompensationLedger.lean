import Dasall.Contracts.Tool
import Dasall.Tools.Bridge.CompensationTarget

/-!
# The compensation ledger

A record for each step that had side effects. The records that are reversible become hints, the
last first.
-/

open Dasall.Contracts.Tool Dasall.Lib.Text Dasall.Tools.Bridge

namespace Dasall.Tools

structure ToolCompensationHint where
  compensationAction : Option Bytes
  targetRef : Option Bytes
  reasonCode : Option Bytes
  evidenceRefs : Option (List Bytes)
deriving DecidableEq

namespace Execution

structure CompensationRecord where
  stepId : Bytes
  routeKind : Bytes
  toolCallId : Option Bytes
  toolName : Option Bytes
  sideEffects : List Bytes
  evidenceRefs : List Bytes
  reversible : Bool := true
deriving DecidableEq

/-- An entry for a field that is there and not empty. -/
def evidenceOf (opening : Bytes) (field : Option Bytes) : List Bytes :=
  match field with
  | none => []
  | some value => if value.isEmpty then [] else [opening ++ value]

def collectEvidenceRefs (stepId : Bytes) (result : ToolResult) : List Bytes :=
  (str "workflow.step." ++ stepId) :: evidenceOf (str "workflow.tool_call.") result.toolCallId ++
    evidenceOf (str "workflow.tool.") result.toolName ++
    (result.sideEffects.getD []).flatMap fun sideEffect =>
      evidenceOf (str "workflow.side_effect.") (some sideEffect)

def buildRecord (stepId routeKind : Bytes) (result : ToolResult) (reversible : Bool) :
    Option CompensationRecord :=
  if (result.sideEffects.getD []).isEmpty then none
  else
    some
      { stepId
        routeKind
        toolCallId := result.toolCallId
        toolName := result.toolName
        sideEffects := result.sideEffects.getD []
        evidenceRefs := collectEvidenceRefs stepId result
        reversible }

abbrev CompensationLedger := List CompensationRecord

/-- The record of a step is put in the place of the one before, or at the end. -/
def put (record : CompensationRecord) : CompensationLedger → CompensationLedger
  | [] => [record]
  | candidate :: records =>
    if candidate.stepId = record.stepId then record :: records else candidate :: put record records

def registerResult (ledger : CompensationLedger) (stepId routeKind : Bytes) (result : ToolResult)
    (reversible : Bool) : CompensationLedger :=
  match buildRecord stepId routeKind result reversible with
  | none => ledger
  | some record => put record ledger

def recordIrreversibleEffect (ledger : CompensationLedger) (stepId routeKind : Bytes)
    (result : ToolResult) : CompensationLedger :=
  registerResult ledger stepId routeKind result false

def hintOfRecord (record : CompensationRecord) : ToolCompensationHint :=
  let capabilityId := record.toolName.getD record.stepId
  let targetId := record.toolCallId.getD record.stepId
  { compensationAction := some capabilityId
    targetRef := some (formatCompensationTargetRef capabilityId targetId)
    reasonCode := some (str "workflow.compensation_available")
    evidenceRefs := some record.evidenceRefs }

def buildHints (ledger : CompensationLedger) : List ToolCompensationHint :=
  (ledger.reverse.filter fun record => record.reversible && !record.sideEffects.isEmpty).map
    hintOfRecord

/-! ## One record more -/

theorem put_new (record : CompensationRecord) (ledger : CompensationLedger)
    (hnew : ∀ candidate ∈ ledger, candidate.stepId ≠ record.stepId) :
    put record ledger = ledger ++ [record] := by
  induction ledger with
  | nil => rfl
  | cons candidate ledger ih =>
    rw [List.forall_mem_cons] at hnew
    rw [put, if_neg hnew.1, ih hnew.2, List.cons_append]

theorem buildHints_append (first second : CompensationLedger) :
    buildHints (first ++ second) = buildHints second ++ buildHints first := by
  simp [buildHints, List.reverse_append, List.filter_append]

end Execution

end Dasall.Tools
