import Dasall.Lib.Guard

/-!
# Memory contracts

The records that the memory pipelines write: a fact, a turn, a summary, an experience.
-/

open Dasall.Lib.Text Dasall.Lib.Guard

namespace Dasall.Contracts.Memory

structure MemoryFact where
  factId : Option Bytes := none
  sessionId : Option Bytes := none
  factText : Option Bytes := none
  sourceTurnIds : Option (List Bytes) := none
  /-- In [0, 100] once it is stored. -/
  confidenceScore : Option UInt32 := none
  createdAt : Option Int64 := none
  factType : Option Bytes := none
  sourceObservationRefs : Option (List Bytes) := none
  validUntil : Option Int64 := none
  supersededByFactId : Option Bytes := none
  evidenceDigest : Option Bytes := none
  tags : Option (List Bytes) := none
deriving DecidableEq, Repr

structure Turn where
  turnId : Option Bytes := none
  sessionId : Option Bytes := none
  userInput : Option Bytes := none
  agentResponse : Option Bytes := none
  toolCallRefs : Option (List Bytes) := none
  observationRefs : Option (List Bytes) := none
  summaryMemoryRef : Option Bytes := none
  createdAt : Option Int64 := none
  tags : Option (List Bytes) := none
deriving DecidableEq

structure SummaryMemory where
  summaryId : Option Bytes := none
  sessionId : Option Bytes := none
  summaryText : Option Bytes := none
  sourceTurnIds : Option (List Bytes) := none
  decisionsMade : Option (List Bytes) := none
  confirmedFacts : Option (List Bytes) := none
  toolOutcomes : Option (List Bytes) := none
  createdAt : Option Int64 := none
  tags : Option (List Bytes) := none
deriving DecidableEq

structure ExperienceMemory where
  experienceId : Option Bytes := none
  sessionId : Option Bytes := none
  lessonSummary : Option Bytes := none
  triggerCondition : Option Bytes := none
  recommendedAction : Option Bytes := none
  createdAt : Option Int64 := none
  sourceFactIds : Option (List Bytes) := none
  sourceTurnIds : Option (List Bytes) := none
  effectivenessScore : Option UInt32 := none
  applicableDomains : Option (List Bytes) := none
  riskNotes : Option Bytes := none
  expiresAt : Option Int64 := none
  supersededByExperienceId : Option Bytes := none
  tags : Option (List Bytes) := none
deriving DecidableEq

structure ReflectionLessonProjection where
  lessonSummary : Option Bytes := none
  triggerCondition : Option Bytes := none
  recommendedAction : Option Bytes := none
  effectivenessScore : Option UInt32 := none
  applicableDomains : Option (List Bytes) := none
  tags : Option (List Bytes) := none
deriving DecidableEq

def reflectionLessonExperienceKind : Bytes := str "self_reflection"

/-! ## Lists of strings -/

/-- The items in order: each is not empty, and then none after it equals it. -/
def validateItems (emptyItemReason duplicateReason : String) : List Bytes → Check Unit
  | [] => .ok ()
  | item :: rest => do
    require (!item.isEmpty) emptyItemReason
    require (!rest.contains item) duplicateReason
    validateItems emptyItemReason duplicateReason rest

def validateStringVector (emptyReason emptyItemReason duplicateReason : String)
    (values : List Bytes) : Check Unit := do
  require (!values.isEmpty) emptyReason
  validateItems emptyItemReason duplicateReason values

end Dasall.Contracts.Memory
