import Dasall.Contracts.Reflection
import Dasall.Contracts.Tool
import Dasall.Lib.Floats
import Dasall.Lib.Unique

/-! # Goals, beliefs, plans and what the stages of cognition are configured with -/

open Dasall.Contracts Dasall.Lib.Text Dasall.Lib.Floats Dasall.Lib.Unique

namespace Dasall.Cognition

structure GoalContract where
  goalId : Option Bytes := none
  goalDescription : Option Bytes := none
  successCriteria : Option Bytes := none
deriving DecidableEq

structure BeliefState where
  hypotheses : Option (List Bytes) := none
  assumptions : Option (List Bytes) := none
  evidenceRefs : Option (List Bytes) := none
  confidence : Option Float32 := none
deriving DecidableEq

/-- An observation with what it reports of side effects. -/
structure Observation extends Contracts.Observation where
  sideEffects : Option (List Bytes) := none
deriving DecidableEq

/-! ## Plans -/

structure PlanNode where
  nodeId : Bytes
  objective : Bytes
  successSignal : Bytes
  actionKindHint : Bytes
  dependsOn : List Bytes
  evidenceRefs : List Bytes
deriving DecidableEq

structure PlanEdge where
  fromNodeId : Bytes
  toNodeId : Bytes
  condition : Bytes
  evidenceRefs : List Bytes
deriving DecidableEq

structure PlanOpenQuestion where
  questionId : Bytes
  question : Bytes
  reason : Bytes
  blocksPlan : Bool := true
  evidenceRefs : List Bytes := []
deriving DecidableEq

structure PlanGraph where
  planId : Bytes
  revision : UInt32 := 0
  nodes : List PlanNode
  edges : List PlanEdge
  openQuestions : List PlanOpenQuestion := []
  planRationale : Bytes := []
  estimatedComplexity : UInt32 := 0
deriving DecidableEq

/-! ## What perception and the context tell -/

structure EntityCandidate where
  name : Bytes
  value : Bytes
deriving DecidableEq

structure ClarificationCandidate where
  question : Bytes
  evidenceRefs : List Bytes := []
deriving DecidableEq

structure PerceptionResult where
  intentSummary : Bytes := []
  taskType : Bytes := []
  entities : List EntityCandidate := []
  clarificationQuestions : List ClarificationCandidate := []
  confidence : Float32 := 0
  requiresClarification : Bool := false
deriving DecidableEq

structure ContextPacket where
  userTurn : Option Bytes := none
  currentGoalSummary : Option Bytes := none
  activeTools : Option (List Bytes) := none
deriving DecidableEq

structure BudgetContext where
  budgetUtilization : Float32 := 0
  contextWasTruncated : Bool := false
  nearBudgetLimit : Bool := false
deriving DecidableEq

/-! ## Action decisions -/

inductive ActionDecisionKind
  | noDecision
  | executeAction
  | directResponse
  | askClarification
  | convergeSafe
deriving DecidableEq

structure ToolIntentHint where
  toolName : Bytes
  intentSummary : Bytes
  argumentHints : List Bytes
  evidenceRefs : List Bytes
deriving DecidableEq

structure DelegateHint where
  delegateTarget : Bytes
  rationale : Bytes
  confidence : Float32
deriving DecidableEq

structure ResponseOutline where
  summary : Bytes
  keyPoints : List Bytes
deriving DecidableEq

structure CandidateDecisionScore where
  candidateName : Bytes
  score : Float32
  rationale : Option Bytes
deriving DecidableEq

structure ActionDecision where
  decisionKind : ActionDecisionKind := .noDecision
  selectedNodeId : Option Bytes := none
  rationale : Option Bytes := none
  confidence : Float32 := 0
  clarificationNeeded : Bool := false
  clarificationQuestion : Option Bytes := none
  toolIntentHint : Option ToolIntentHint := none
  delegateHint : Option DelegateHint := none
  responseOutline : Option ResponseOutline := none
  candidateScores : List CandidateDecisionScore := []
  diagnostics : List Bytes := []
deriving DecidableEq

/-! ## Configuration -/

structure CognitionThresholds where
  askClarification : Float32 := 0.45
  directResponse : Float32 := 0.70
  replanHint : Float32 := 0.50
deriving DecidableEq

structure CognitionReasonerCandidateWeights where
  toolCall : Float32 := 1.0
  directResponse : Float32 := 1.0
  clarification : Float32 := 1.0
  convergeSafe : Float32 := 1.0
deriving DecidableEq

structure CognitionConfig where
  maxPlanNodes : UInt32 := 8
  maxPlanDepth : UInt32 := 4
  thresholds : CognitionThresholds := {}
  candidateWeights : CognitionReasonerCandidateWeights := {}
deriving DecidableEq

/-- The target and those texts of the source that are neither empty nor in it, each once. -/
def appendUnique (target source : List Bytes) : List Bytes :=
  addAll target (source.filter fun value => !value.isEmpty)

def clamp01 (value : Float32) : Float32 := clamp value 0 1

/-- The guards read a clamped value as they read a number from 0 to 1, unless it is a NaN. -/
theorem floatValueOf_clamp01 (value : Float32) (h : value.isNaN = false) :
    ∃ number, floatValueOf (clamp01 value).toModel.unpack = .finite number ∧
      0 ≤ number ∧ number ≤ 1 := by
  obtain ⟨number, hnumber, hrange⟩ := inUnit_clamp value h
  refine ⟨number, ?_, hrange⟩
  unfold clamp01
  rcases hunpack : (clamp value 0 1).toModel.unpack with _ | _ | _ | ⟨sign, _, _, _⟩
  · simp [hunpack, finiteValue] at hnumber
  · simp [hunpack, finiteValue] at hnumber
  · simpa [hunpack, finiteValue, floatValueOf] using hnumber
  · cases sign with
    | negative => simpa [hunpack, finiteValue, floatValueOf] using hnumber
    | positive => simpa [hunpack, finiteValue, floatValueOf] using hnumber

theorem floatValueOf_clamp01_nan (value : Float32) (h : value.isNaN = true) :
    floatValueOf (clamp01 value).toModel.unpack = .nan := by
  rw [clamp01, clamp_isNaN value h, (isNaN_iff value).mp h, floatValueOf]

end Dasall.Cognition
