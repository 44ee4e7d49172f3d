import Dasall.Memory.Context.BudgetAllocator

/-!
# The context orchestrator

A context packet is cut to the budget section by section. A section of one text is cut within the
text; a section of several loses the texts that do not fit, and the first of these is cut to the room
that is left. What was cut is found by comparing the packet with the sections as they were.
-/

open Dasall.Lib Dasall.Lib.Text Dasall.Lib.Guard Dasall.Lib.Checked Dasall.Contracts.Memory

namespace Dasall.Memory.Context

structure RetrievalEvidenceRef where
  evidenceRef : Bytes
  sourceRef : Bytes
  sourceKind : Bytes
  summaryText : Bytes
  trustLevel : Bytes
  freshness : Bytes
  anchorLocator : Option Bytes := none
deriving DecidableEq

def RetrievalEvidenceRef.hasConsistentValues (ref : RetrievalEvidenceRef) : Bool :=
  if ref.evidenceRef.isEmpty || ref.sourceRef.isEmpty || ref.sourceKind.isEmpty ||
      ref.summaryText.isEmpty || ref.trustLevel.isEmpty || ref.freshness.isEmpty then false
  else nonEmptyWhenPresent ref.anchorLocator

structure MemoryContextRequest where
  requestId : Bytes := []
  userTurn : Bytes := []
  goalSummary : Bytes := []
  latestObservationDigestSummary : Bytes := []
  visibleTools : List Bytes := []
  externalEvidence : List Bytes := []
  retrievalEvidenceRefs : List RetrievalEvidenceRef := []
  constraintsSummary : Bytes := []

structure ContextPacket where
  requestId : Option Bytes := none
  userTurn : Option Bytes := none
  currentGoalSummary : Option Bytes := none
  recentHistory : Option (List Bytes) := none
  summaryMemory : Option Bytes := none
  retrievalEvidence : Option (List Bytes) := none
  retrievalEvidenceRefs : Option (List RetrievalEvidenceRef) := none
  latestObservationDigestSummary : Option Bytes := none
  activeTools : Option (List Bytes) := none
  policyDigest : Option Bytes := none
  beliefStateSummary : Option Bytes := none
  createdAt : Option Int64 := none
  tags : Option (List Bytes) := none
deriving DecidableEq

structure SlotProjection where
  currentGoalSummary : Bytes
  recentHistory : List Bytes
  summaryMemory : Bytes
  retrievalEvidence : List Bytes
  retrievalEvidenceRefs : List RetrievalEvidenceRef
  latestObservationDigestSummary : Bytes
  activeTools : List Bytes
  policyDigest : Bytes
  beliefStateSummary : Bytes

/-! ## Trimming -/

/-- How many bytes of a text are kept that comes to more tokens than the limit. -/
def keepSize (tokenLimit estimatedTokens : Int) (size : Nat) : Nat :=
  let keepRatio := Float.ofInt tokenLimit / Float.ofInt (max 1 estimatedTokens)
  max 1 (size.toUInt64.toFloat * keepRatio).toUInt64.toNat

def trimTextToTokenLimit (estimator : TokenEstimator) (text : Bytes) (tokenLimit : Int) : Bytes :=
  if text = [] then []
  else if tokenLimit ≤ 0 then []
  else
    let estimatedTokens := (estimator text).toInt
    if estimatedTokens ≤ tokenLimit then text
    else
      let size := keepSize tokenLimit estimatedTokens text.length
      if text.length ≤ size then text
      else if size ≤ 3 then text.take size
      else text.take (size - 3) ++ str "..."

/-- The loops of `trim_vector_to_token_limit`, in the order in which they visit the values. -/
def keepWithin (estimator : TokenEstimator) (tokenLimit : Int) :
    Int → List Bytes → Option (List Bytes)
  | _, [] => some []
  | usedTokens, value :: rest => do
    let total ← addWithin intLow intHigh usedTokens (estimator value).toInt
    if total ≤ tokenLimit then
      let kept ← keepWithin estimator tokenLimit total rest
      pure (value :: kept)
    else
      let remainingTokens ← inInt (tokenLimit - usedTokens)
      let truncated := trimTextToTokenLimit estimator value remainingTokens
      pure (if truncated = [] then [] else [truncated])

def trimVectorToTokenLimit (estimator : TokenEstimator) (values : List Bytes) (tokenLimit : Int)
    (keepTail : Bool) : Option (List Bytes) :=
  if values = [] then some []
  else if tokenLimit ≤ 0 then some []
  else if keepTail then (keepWithin estimator tokenLimit 0 values.reverse).map List.reverse
  else keepWithin estimator tokenLimit 0 values

/-! ## The untrimmed sections -/

/-- The value of the first key whose slot is not empty. -/
def findSnapshotSlot (snapshot : Working.WorkingMemorySnapshot) (keys : List Bytes) : Option Bytes :=
  keys.findSome? fun key =>
    match snapshot.slots.find? fun slot => slot.key == key with
    | some slot => if slot.value = [] then none else some slot.value
    | none => none

def latestUserTurn (candidates : CandidateSet) : Option Bytes :=
  match candidates.recentTurns.head?.bind (·.userInput) with
  | some (byte :: text) => some (byte :: text)
  | _ => findSnapshotSlot candidates.workingSnapshot [str "user_turn", str "latest_user_turn"]

def fallbackUserTurn (candidates : CandidateSet) (request : MemoryContextRequest) : Bytes :=
  if request.userTurn ≠ [] then request.userTurn
  else
    match latestUserTurn candidates with
    | some (byte :: text) => byte :: text
    | _ => if request.goalSummary ≠ [] then request.goalSummary else str "context unavailable"

def fallbackGoalSummary (candidates : CandidateSet) (request : MemoryContextRequest) : Bytes :=
  if request.goalSummary ≠ [] then request.goalSummary
  else (findSnapshotSlot candidates.workingSnapshot
    [str "current_goal_summary", str "goal_summary"]).getD (str "goal unavailable")

/-- The entry behind its label, where the turn has one. -/
def textEntry (label : String) (text : Option Bytes) : List Bytes :=
  match text with
  | some (byte :: text) => [str label ++ byte :: text]
  | _ => []

def listEntry (label : String) (values : Option (List Bytes)) : List Bytes :=
  match values with
  | some (value :: values) => [str label ++ List.intercalate (str ", ") (value :: values)]
  | _ => []

def serializeRecentHistory (candidates : CandidateSet) : List Bytes :=
  candidates.recentTurns.reverse.flatMap fun turn =>
    textEntry "[user] " turn.userInput ++ textEntry "[assistant] " turn.agentResponse ++
      listEntry "[tools] " turn.toolCallRefs ++ listEntry "[observations] " turn.observationRefs

def experienceEntry (experience : ExperienceMemory) : List Bytes :=
  (textEntry "[experience] " experience.lessonSummary).map fun entry =>
    entry ++ (textEntry " | when: " experience.triggerCondition).flatten ++
      (textEntry " | do: " experience.recommendedAction).flatten

def hitFirst (left right : VectorHit) : Bool :=
  if left.score != right.score then decide (right.score < left.score)
  else decide (left.docId < right.docId)

def appendUnique (values : List Bytes) (value : Bytes) : List Bytes :=
  if values.contains value then values else values ++ [value]

/-- Hits that compare equal keep their order. -/
def buildRetrievalEvidenceEntries (candidates : CandidateSet) : List Bytes :=
  let entries := candidates.relevantExperiences.flatMap experienceEntry ++
    (Sort.sortBy hitFirst candidates.vectorHits).map fun hit =>
      str "[vector] " ++ hit.docId ++ str " (" ++ hit.docType ++ str ") " ++ hit.textSnippet
  candidates.externalEvidence.foldl appendUnique entries

/-- The bytes of "已确认事实：". -/
def beliefStateLabel : Bytes :=
  [0xE5, 0xB7, 0xB2, 0xE7, 0xA1, 0xAE, 0xE8, 0xAE, 0xA4, 0xE4, 0xBA, 0x8B, 0xE5, 0xAE, 0x9E, 0xEF,
    0xBC, 0x9A]

/-- The bytes of "；". -/
def beliefStateSeparator : Bytes := [0xEF, 0xBC, 0x9B]

def beliefStatePart (fact : MemoryFact) : List Bytes :=
  (textEntry "" fact.factText).map fun text =>
    text ++ str " (" ++ decimal (fact.confidenceScore.getD 0).toNat ++ str "%)"

def buildBeliefStateSummary (candidates : CandidateSet) : Bytes :=
  match candidates.relevantFacts.flatMap beliefStatePart with
  | [] => []
  | part :: parts => beliefStateLabel ++ List.intercalate beliefStateSeparator (part :: parts)

def projectSlots (candidates : CandidateSet) (request : MemoryContextRequest) : SlotProjection where
  currentGoalSummary := fallbackGoalSummary candidates request
  recentHistory := serializeRecentHistory candidates
  summaryMemory := (candidates.latestSummary.bind (·.summaryText)).getD []
  retrievalEvidence := buildRetrievalEvidenceEntries candidates
  retrievalEvidenceRefs := request.retrievalEvidenceRefs
  latestObservationDigestSummary := request.latestObservationDigestSummary
  activeTools := request.visibleTools
  policyDigest := request.constraintsSummary
  beliefStateSummary := buildBeliefStateSummary candidates

/-! ## Packets -/

def effectiveSlotLimit (plan : BudgetPlan) (slotName : Bytes) : Int :=
  match plan.trimActions.find? fun action => action.slotName == slotName with
  | some action => action.targetTokens
  | none => 2 ^ 31 - 1

def unlessEmpty {α : Type} (values : List α) : Option (List α) :=
  match values with
  | [] => none
  | value :: values => some (value :: values)

def packetRequestId (request : MemoryContextRequest) : Bytes :=
  if request.requestId = [] then str "context-request" else request.requestId

def buildPacket (estimator : TokenEstimator) (candidates : CandidateSet) (plan : BudgetPlan)
    (request : MemoryContextRequest) : Option ContextPacket := do
  let projection := projectSlots candidates request
  let trimText text slotName :=
    unlessEmpty (trimTextToTokenLimit estimator text (effectiveSlotLimit plan (str slotName)))
  let recentHistory ← trimVectorToTokenLimit estimator projection.recentHistory
    (effectiveSlotLimit plan (str "recent_history")) true
  let retrievalEvidence ← trimVectorToTokenLimit estimator projection.retrievalEvidence
    (effectiveSlotLimit plan (str "retrieval_evidence")) false
  let activeTools ← trimVectorToTokenLimit estimator projection.activeTools
    (effectiveSlotLimit plan (str "active_tools")) false
  pure
    { requestId := some (packetRequestId request)
      userTurn := some (fallbackUserTurn candidates request)
      currentGoalSummary := some (fallbackGoalSummary candidates request)
      recentHistory := some recentHistory
      summaryMemory := trimText projection.summaryMemory "summary_memory"
      retrievalEvidence := unlessEmpty retrievalEvidence
      retrievalEvidenceRefs := unlessEmpty projection.retrievalEvidenceRefs
      latestObservationDigestSummary := trimText projection.latestObservationDigestSummary
        "latest_observation_digest_summary"
      activeTools := unlessEmpty activeTools
      policyDigest := trimText projection.policyDigest "policy_digest"
      beliefStateSummary := trimText projection.beliefStateSummary "belief_state_summary" }

def packetTags : List Bytes := [str "memory", str "context"]

def makeMinimalPacket (request : MemoryContextRequest) (currentTimeMs : Int64) : ContextPacket where
  requestId := some (packetRequestId request)
  userTurn := some (if request.userTurn ≠ [] then request.userTurn
    else if request.goalSummary ≠ [] then request.goalSummary else str "context unavailable")
  currentGoalSummary := some (if request.goalSummary ≠ [] then request.goalSummary
    else str "goal unavailable")
  recentHistory := some []
  latestObservationDigestSummary := unlessEmpty request.latestObservationDigestSummary
  activeTools := unlessEmpty request.visibleTools
  retrievalEvidence := unlessEmpty request.externalEvidence
  retrievalEvidenceRefs := unlessEmpty request.retrievalEvidenceRefs
  policyDigest := unlessEmpty request.constraintsSummary
  createdAt := some currentTimeMs
  tags := some packetTags

def validateRequiredFields (packet : ContextPacket) : Check Unit := do
  require (hasNonEmptyValue packet.requestId) "request_id is required and must be non-empty"
  require (hasNonEmptyValue packet.userTurn) "user_turn is required and must be non-empty"
  require (hasNonEmptyValue packet.currentGoalSummary)
    "current_goal_summary is required and must be non-empty"
  require packet.recentHistory.isSome
    "recent_history is required (use empty vector for first turn)"

def validateBoundary (packet : ContextPacket) : Check Unit := do
  validateRequiredFields packet
  whenPresent packet.createdAt fun createdAt =>
    require (decide (0 < createdAt)) "created_at must be a positive timestamp when present"

def validateTexts (values : Option (List Bytes)) (emptyReason itemReason : String) : Check Unit :=
  whenPresent values fun values => do
    require (!values.isEmpty) emptyReason
    require (values.all (!·.isEmpty)) itemReason

/-- The signal of the user's turn and the report of the budget are never empty in a packet that was
built, and the checks of the two are left out. -/
def validateContextPacketFieldRules (packet : ContextPacket) : Check Unit := do
  validateBoundary packet
  require (nonEmptyWhenPresent packet.summaryMemory) "summary_memory must be non-empty when present"
  validateTexts packet.retrievalEvidence
    "retrieval_evidence must contain at least one item when present"
    "retrieval_evidence must not contain empty strings"
  whenPresent packet.retrievalEvidenceRefs fun refs => do
    require (!refs.isEmpty) "retrieval_evidence_refs must contain at least one item when present"
    require (refs.all (·.hasConsistentValues))
      "retrieval_evidence_refs must contain only consistent evidence refs"
  require (nonEmptyWhenPresent packet.latestObservationDigestSummary)
    "latest_observation_digest_summary must be non-empty when present"
  validateTexts packet.activeTools "active_tools must contain at least one item when present"
    "active_tools must not contain empty strings"
  require (nonEmptyWhenPresent packet.policyDigest) "policy_digest must be non-empty when present"
  require (nonEmptyWhenPresent packet.beliefStateSummary)
    "belief_state_summary must be non-empty when present"
  validateTexts packet.tags "tags must contain at least one item when present"
    "tags must not contain empty strings"

/-! ## What was cut -/

inductive Section
  | userTurn
  | currentGoalSummary
  | recentHistory
  | summaryMemory
  | retrievalEvidence
  | retrievalEvidenceRefs
  | latestObservationDigestSummary
  | activeTools
  | policyDigest
  | beliefStateSummary
deriving DecidableEq

def Section.name : Section → Bytes
  | .userTurn => str "user_turn"
  | .currentGoalSummary => str "current_goal_summary"
  | .recentHistory => str "recent_history"
  | .summaryMemory => str "summary_memory"
  | .retrievalEvidence => str "retrieval_evidence"
  | .retrievalEvidenceRefs => str "retrieval_evidence_refs"
  | .latestObservationDigestSummary => str "latest_observation_digest_summary"
  | .activeTools => str "active_tools"
  | .policyDigest => str "policy_digest"
  | .beliefStateSummary => str "belief_state_summary"

def shorterList {α : Type} (projected : List α) (kept : Option (List α)) : Bool :=
  decide ((kept.getD []).length < projected.length)

def otherText (projected : Bytes) (kept : Option Bytes) : Bool :=
  decide (projected ≠ [] ∧ kept.getD [] ≠ projected)

/-- The comparison of the section. The user's turn and the goal are not compared. -/
def Section.dropped (projection : SlotProjection) (packet : ContextPacket) : Section → Bool
  | .userTurn | .currentGoalSummary => false
  | .recentHistory => shorterList projection.recentHistory packet.recentHistory
  | .summaryMemory => otherText projection.summaryMemory packet.summaryMemory
  | .retrievalEvidence => shorterList projection.retrievalEvidence packet.retrievalEvidence
  | .retrievalEvidenceRefs =>
    shorterList projection.retrievalEvidenceRefs packet.retrievalEvidenceRefs
  | .latestObservationDigestSummary =>
    otherText projection.latestObservationDigestSummary packet.latestObservationDigestSummary
  | .activeTools => shorterList projection.activeTools packet.activeTools
  | .policyDigest => otherText projection.policyDigest packet.policyDigest
  | .beliefStateSummary => otherText projection.beliefStateSummary packet.beliefStateSummary

/-- The sections in the order in which they are compared. -/
def comparedSections : List Section :=
  [.recentHistory, .summaryMemory, .retrievalEvidence, .retrievalEvidenceRefs,
    .latestObservationDigestSummary, .activeTools, .policyDigest, .beliefStateSummary]

def detectDroppedSections (projection : SlotProjection) (packet : ContextPacket) : List Bytes :=
  ((comparedSections.filter (·.dropped projection packet)).map Section.name).foldl appendUnique []

structure ContextAssemblyResult where
  contextPacket : ContextPacket
  droppedSections : List Bytes
deriving DecidableEq

/-- `assemble` from the plan on. A packet that its guard rejects is replaced by a minimal one, and
the list of what was cut stays. -/
def assembleWith (estimator : TokenEstimator) (candidates : CandidateSet) (plan : BudgetPlan)
    (request : MemoryContextRequest) (currentTimeMs : Int64) : Option ContextAssemblyResult := do
  let built ← buildPacket estimator candidates plan request
  let packet := { built with createdAt := some currentTimeMs, tags := some packetTags }
  let droppedSections := detectDroppedSections (projectSlots candidates request) packet
  match validateContextPacketFieldRules packet with
  | .ok _ => pure { contextPacket := packet, droppedSections }
  | .error _ =>
    pure { contextPacket := makeMinimalPacket request currentTimeMs, droppedSections }

end Dasall.Memory.Context
