import Dasall.Cognition.Types

/-! # The validator of what the stages of cognition put out -/

open Dasall.Contracts Dasall.Lib.Text Dasall.Lib.Guard

namespace Dasall.Cognition.Validation

inductive ValidationIssueCode
  | missingRequiredField
  | invalidEnumLiteral
  | numericOutOfRange
  | listSizeOutOfRange
  | planGraphInvariant
  | actionDecisionInvariant
  | responseEnvelopeInvariant
  | malformedJson
  | unknownField
  | reflectionDecisionInvariant
  | perceptionInvariant
deriving DecidableEq

structure ValidationIssue where
  code : ValidationIssueCode
  fieldPath : Bytes
  message : Bytes
deriving DecidableEq

structure ValidationResult where
  ok : Bool
  issueSet : List ValidationIssue
  errorInfo : Option ErrorInfo
  diagnostics : List Bytes
deriving DecidableEq

def makeValidationErrorInfo (stageName : Bytes) (issue : ValidationIssue) : ErrorInfo where
  failureType := some .validation
  retryable := some false
  safeToReplan := some false
  details := { code := some 1001, message := issue.message, stage := stageName }
  sourceRef := { refType := str "cognition.stage_output_validator", refId := issue.fieldPath }

def finalizeResult (issueSet : List ValidationIssue) (stageName : String) : ValidationResult where
  ok := issueSet.isEmpty
  issueSet := issueSet
  errorInfo := issueSet.head?.map (makeValidationErrorInfo (str stageName))
  diagnostics := if issueSet.isEmpty then [] else [str "validation_failed:" ++ str stageName]

/-- The issue that a check adds where it fails. -/
def issueWhen (failed : Bool) (code : ValidationIssueCode) (fieldPath message : String) :
    List ValidationIssue :=
  if failed then [{ code := code, fieldPath := str fieldPath, message := str message }] else []

@[simp] theorem issueWhen_eq_nil (failed : Bool) (code : ValidationIssueCode)
    (fieldPath message : String) : issueWhen failed code fieldPath message = [] ↔ failed = false := by
  cases failed <;> simp [issueWhen]

/-! ## Action decisions -/

def hasToolIntent (decision : ActionDecision) : Bool :=
  decision.toolIntentHint.any fun hint => !hint.toolName.isEmpty

def hasResponseOutline (decision : ActionDecision) : Bool :=
  decision.responseOutline.any fun outline => !outline.summary.isEmpty

def hasSelectedNode (decision : ActionDecision) : Bool := hasNonEmptyValue decision.selectedNodeId

def hasClarificationQuestion (decision : ActionDecision) : Bool :=
  hasNonEmptyValue decision.clarificationQuestion

def selectedNodeBelongs (decision : ActionDecision) (activePlan : Option PlanGraph) : Bool :=
  hasSelectedNode decision && activePlan.any fun plan =>
    plan.nodes.any fun node => some node.nodeId == decision.selectedNodeId

def actionDecisionIssues (decision : ActionDecision) (activePlan : Option PlanGraph) :
    List ValidationIssue :=
  match decision.decisionKind with
  | .executeAction =>
    issueWhen (!hasSelectedNode decision) .actionDecisionInvariant "selected_node_id"
        "execute_action decisions require a selected plan node" ++
      issueWhen (hasSelectedNode decision && activePlan.isSome &&
          !selectedNodeBelongs decision activePlan) .actionDecisionInvariant "selected_node_id"
        "execute_action decisions must reference a node from the active plan" ++
      issueWhen (!hasToolIntent decision) .actionDecisionInvariant "tool_intent_hint.tool_name"
        "execute_action decisions require a tool intent hint" ++
      issueWhen (decision.clarificationNeeded || hasClarificationQuestion decision)
        .actionDecisionInvariant "clarification_question"
        "execute_action decisions must not simultaneously request clarification"
  | .directResponse | .convergeSafe =>
    issueWhen (!hasResponseOutline decision) .actionDecisionInvariant "response_outline.summary"
        "response decisions require a non-empty response outline summary" ++
      issueWhen (hasToolIntent decision) .actionDecisionInvariant "tool_intent_hint.tool_name"
        "response decisions must not carry executable tool intent" ++
      issueWhen (hasSelectedNode decision) .actionDecisionInvariant "selected_node_id"
        "response decisions must not carry a selected plan node" ++
      issueWhen (decision.clarificationNeeded || hasClarificationQuestion decision)
        .actionDecisionInvariant "clarification_question"
        "response decisions must not simultaneously request clarification"
  | .askClarification =>
    issueWhen (!decision.clarificationNeeded || !hasClarificationQuestion decision)
        .actionDecisionInvariant "clarification_question"
        "clarification decisions require a clarification question" ++
      issueWhen (hasToolIntent decision) .actionDecisionInvariant "tool_intent_hint.tool_name"
        "clarification decisions must not carry a tool intent hint" ++
      issueWhen (hasSelectedNode decision) .actionDecisionInvariant "selected_node_id"
        "clarification decisions must not carry a selected plan node" ++
      issueWhen (hasResponseOutline decision) .actionDecisionInvariant "response_outline.summary"
        "clarification decisions must not carry a terminal response outline"
  | .noDecision =>
    issueWhen true .actionDecisionInvariant "decision_kind"
      "authoritative action decisions must not remain undecided"

def validateActionDecisionInvariants (decision : ActionDecision) (activePlan : Option PlanGraph) :
    ValidationResult :=
  finalizeResult (actionDecisionIssues decision activePlan) "execution"

theorem validateActionDecisionInvariants_ok (decision : ActionDecision)
    (activePlan : Option PlanGraph) :
    (validateActionDecisionInvariants decision activePlan).ok = true ↔
      actionDecisionIssues decision activePlan = [] := by
  simp [validateActionDecisionInvariants, finalizeResult]

end Dasall.Cognition.Validation
