import Dasall.Contracts.Memory
import Dasall.Lib.Checked
import Dasall.Memory.Working.WorkingMemoryBoard

/-!
# The budget allocator

The token budget is shared between the slots of a context, and the slots of low priority are cut
first where the candidates need more. The shares are products of the budget in an `int`: a budget
beyond an eighteenth of its range has none. An operation that leaves the range of `int` leaves the
plan undefined.
-/

open Dasall.Lib Dasall.Lib.Text Dasall.Lib.Ascii Dasall.Lib.Checked Dasall.Contracts.Memory

namespace Dasall.Memory.Context

structure VectorHit where
  docId : Bytes := []
  docType : Bytes := []
  score : Float32 := 0
  textSnippet : Bytes := []

/-- The candidates for a context. The newest turn comes first. -/
structure CandidateSet where
  workingSnapshot : Working.WorkingMemorySnapshot := { sessionId := [] }
  recentTurns : List Turn := []
  latestSummary : Option SummaryMemory := none
  relevantFacts : List MemoryFact := []
  relevantExperiences : List ExperienceMemory := []
  externalEvidence : List Bytes := []
  vectorHits : List VectorHit := []

structure BudgetPolicy where
  totalTokenBudget : Int32 := 0
  stage : Bytes := []
  riskLevel : Int32 := 0
  latencyBudgetMs : Int32 := 0

structure SlotBudget where
  slotName : Bytes
  allocatedTokens : Int := 0
  estimatedTokens : Int := 0
  priority : Int := 0
deriving DecidableEq

structure TrimAction where
  slotName : Bytes
  targetTokens : Int := 0
deriving DecidableEq

structure BudgetPlan where
  slotBudgets : List SlotBudget := []
  trimActions : List TrimAction := []
  totalTokenBudget : Int := 0
  estimatedTotalTokens : Int := 0
  overBudget : Bool := false
deriving DecidableEq

/-! ## Estimates -/

/-- `ITokenEstimator::estimate_text_tokens`. -/
abbrev TokenEstimator := Bytes → Int32

def intLow : Int := -2 ^ 31

def intHigh : Int := 2 ^ 31

/-- The value, where an `int` can hold it. -/
def inInt (value : Int) : Option Int := addWithin intLow intHigh 0 value

/-- A total of tokens, as the loops of the estimates add it up. -/
def totalTokens (counts : List Int) : Option Int := counts.foldlM (addWithin intLow intHigh) 0

def userTurnTexts (candidates : CandidateSet) : List Bytes :=
  match candidates.recentTurns with
  | [] => []
  | turn :: _ => [turn.userInput.getD []]

/-- The input of the newest turn has a slot of its own. -/
def recentHistoryTexts (candidates : CandidateSet) : List Bytes :=
  candidates.recentTurns.zipIdx.flatMap fun (turn, index) =>
    (if index ≠ 0 then turn.userInput.toList else []) ++ turn.agentResponse.toList ++
      turn.toolCallRefs.getD [] ++ turn.observationRefs.getD []

def summaryTexts (candidates : CandidateSet) : List Bytes :=
  match candidates.latestSummary with
  | none => []
  | some summary =>
    summary.summaryText.toList ++ summary.decisionsMade.getD [] ++ summary.confirmedFacts.getD [] ++
      summary.toolOutcomes.getD []

def beliefStateTexts (candidates : CandidateSet) : List Bytes :=
  candidates.relevantFacts.flatMap fun fact => fact.factText.toList ++ fact.factType.toList

def retrievalEvidenceTexts (candidates : CandidateSet) : List Bytes :=
  candidates.externalEvidence ++
    candidates.vectorHits.flatMap fun hit => [hit.textSnippet, hit.docType]

/-- The texts that `estimate_slot_tokens` counts for a slot. -/
def slotTexts (candidates : CandidateSet) (slotName : Bytes) : List Bytes :=
  if slotName = str "user_turn" then userTurnTexts candidates
  else if slotName = str "recent_history" then recentHistoryTexts candidates
  else if slotName = str "summary_memory" then summaryTexts candidates
  else if slotName = str "belief_state_summary" then beliefStateTexts candidates
  else if slotName = str "retrieval_evidence" then retrievalEvidenceTexts candidates
  else []

def slotCounts (estimator : TokenEstimator) (candidates : CandidateSet) (slotName : Bytes) :
    List Int :=
  (slotTexts candidates slotName).map fun text => (estimator text).toInt

def estimateSlotTokens (estimator : TokenEstimator) (candidates : CandidateSet)
    (slotName : Bytes) : Option Int :=
  totalTokens (slotCounts estimator candidates slotName)

/-! ## Shares -/

structure SlotTemplate where
  slotName : Bytes
  basisPoints : Int
  priority : Int

def reflectionTemplates : List SlotTemplate :=
  [⟨str "user_turn", 6, 100⟩, ⟨str "current_goal_summary", 12, 95⟩, ⟨str "policy_digest", 12, 95⟩,
    ⟨str "latest_observation_digest_summary", 18, 100⟩, ⟨str "recent_history", 10, 50⟩,
    ⟨str "summary_memory", 18, 85⟩, ⟨str "belief_state_summary", 14, 80⟩,
    ⟨str "retrieval_evidence", 3, 40⟩, ⟨str "active_tools", 2, 30⟩]

def reasoningTemplates : List SlotTemplate :=
  [⟨str "user_turn", 8, 100⟩, ⟨str "current_goal_summary", 15, 95⟩, ⟨str "policy_digest", 10, 90⟩,
    ⟨str "latest_observation_digest_summary", 17, 100⟩, ⟨str "recent_history", 18, 55⟩,
    ⟨str "summary_memory", 10, 70⟩, ⟨str "belief_state_summary", 10, 75⟩,
    ⟨str "retrieval_evidence", 5, 45⟩, ⟨str "active_tools", 2, 35⟩]

def otherTemplates : List SlotTemplate :=
  [⟨str "user_turn", 8, 100⟩, ⟨str "current_goal_summary", 18, 95⟩, ⟨str "policy_digest", 12, 95⟩,
    ⟨str "latest_observation_digest_summary", 7, 85⟩, ⟨str "recent_history", 18, 50⟩,
    ⟨str "summary_memory", 12, 70⟩, ⟨str "belief_state_summary", 12, 75⟩,
    ⟨str "retrieval_evidence", 6, 40⟩, ⟨str "active_tools", 2, 30⟩]

def stageTemplates (policy : BudgetPolicy) : List SlotTemplate :=
  let stage := lower policy.stage
  if stage = str "reflection" then reflectionTemplates
  else if stage = str "reasoning" then reasoningTemplates
  else otherTemplates

/-- Changes the slot that `find_slot_budget` finds. -/
def changeSlot (slotName : Bytes) (change : Int → Int) : List SlotBudget → List SlotBudget
  | [] => []
  | slot :: rest =>
    if slot.slotName = slotName then
      { slot with allocatedTokens := change slot.allocatedTokens } :: rest
    else slot :: changeSlot slotName change rest

def findSlotBudget (slotBudgets : List SlotBudget) (slotName : Bytes) : Option SlotBudget :=
  slotBudgets.find? fun slot => slot.slotName == slotName

def transferBudget (slotBudgets : List SlotBudget) (fromName toName : Bytes) (tokens : Int) :
    List SlotBudget :=
  if tokens ≤ 0 then slotBudgets
  else
    match findSlotBudget slotBudgets fromName, findSlotBudget slotBudgets toName with
    | some fromSlot, some _ =>
      let transferredTokens := min tokens fromSlot.allocatedTokens
      changeSlot toName (· + transferredTokens)
        (changeSlot fromName (· - transferredTokens) slotBudgets)
    | _, _ => slotBudgets

def totalBudget (policy : BudgetPolicy) : Int := max 0 policy.totalTokenBudget.toInt

def slotBudgetOf (estimator : TokenEstimator) (candidates : CandidateSet) (policy : BudgetPolicy)
    (template : SlotTemplate) : Option SlotBudget := do
  let share ← inInt (totalBudget policy * template.basisPoints)
  let estimatedTokens ← estimateSlotTokens estimator candidates template.slotName
  pure { slotName := template.slotName, allocatedTokens := share / 100, estimatedTokens,
         priority := template.priority }

/-- A share that moves is one of a sum of no more than the budget, and stays in the range. -/
def transferShares (policy : BudgetPolicy) (slotBudgets : List SlotBudget) : List SlotBudget :=
  let total := totalBudget policy
  let slotBudgets :=
    if 2 ≤ policy.riskLevel.toInt then
      transferBudget
        (transferBudget slotBudgets (str "recent_history") (str "policy_digest")
          (max 1 (total / 20)))
        (str "summary_memory") (str "latest_observation_digest_summary") (max 1 (total / 33))
    else slotBudgets
  if 0 < policy.latencyBudgetMs.toInt ∧ policy.latencyBudgetMs.toInt ≤ 200 then
    transferBudget
      (transferBudget slotBudgets (str "retrieval_evidence") (str "current_goal_summary")
        (max 1 (total / 33)))
      (str "recent_history") (str "latest_observation_digest_summary") (max 1 (total / 50))
  else slotBudgets

def computeSlotBudgets (estimator : TokenEstimator) (candidates : CandidateSet)
    (policy : BudgetPolicy) : Option (List SlotBudget) := do
  let slotBudgets ← (stageTemplates policy).mapM (slotBudgetOf estimator candidates policy)
  pure (transferShares policy slotBudgets)

/-! ## Cuts -/

/-- The order in which the slots are cut. -/
def cutsFirst : SlotBudget → SlotBudget → Bool :=
  Sort.thenBy (·.priority) (fun x y => decide (x < y))
    (Sort.thenBy (·.estimatedTokens) (fun x y => decide (y < x))
      (fun left right => decide (left.slotName < right.slotName)))

/-- The loop of `compute_trim_actions`. -/
def trimLoop : Int → List SlotBudget → List TrimAction
  | _, [] => []
  | excessTokens, slot :: rest =>
    if excessTokens ≤ 0 then []
    else
      let minTargetTokens := min slot.allocatedTokens slot.estimatedTokens
      let reducibleTokens := slot.estimatedTokens - minTargetTokens
      if reducibleTokens ≤ 0 then trimLoop excessTokens rest
      else
        let trimmedTokens := min excessTokens reducibleTokens
        { slotName := slot.slotName, targetTokens := slot.estimatedTokens - trimmedTokens } ::
          trimLoop (excessTokens - trimmedTokens) rest

def computeTrimActions (slotBudgets : List SlotBudget) (totalTokenBudget totalEstimatedTokens : Int) :
    Option (List TrimAction) := do
  let difference ← inInt (totalEstimatedTokens - totalTokenBudget)
  pure (trimLoop (max 0 difference) (Sort.sortBy cutsFirst slotBudgets))

/-- What an action takes off the estimate. -/
def cutTokens (slotBudgets : List SlotBudget) (action : TrimAction) : Int :=
  match findSlotBudget slotBudgets action.slotName with
  | some slot => max 0 (slot.estimatedTokens - action.targetTokens)
  | none => 0

def allocate (estimator : TokenEstimator) (candidates : CandidateSet) (policy : BudgetPolicy) :
    Option BudgetPlan := do
  let totalTokenBudget := totalBudget policy
  let slotBudgets ← computeSlotBudgets estimator candidates policy
  let estimatedTotalTokens ← totalTokens (slotBudgets.map (·.estimatedTokens))
  let trimActions ← computeTrimActions slotBudgets totalTokenBudget estimatedTotalTokens
  -- the cuts stay below the excess, so that this never falls below the budget
  let reducedEstimatedTokens := trimActions.foldl
    (fun reduced action => reduced - cutTokens slotBudgets action) estimatedTotalTokens
  pure { slotBudgets, trimActions, totalTokenBudget, estimatedTotalTokens,
         overBudget := decide (totalTokenBudget < reducedEstimatedTokens) }

/-! ## Transfers -/

def allocatedSum (slotBudgets : List SlotBudget) : Int :=
  (slotBudgets.map (·.allocatedTokens)).sum

/-- The shares apart, the slots are the same, and the shares have the same sum. -/
structure Moved (slotBudgets moved : List SlotBudget) : Prop where
  others : moved.map (fun slot => { slot with allocatedTokens := 0 }) =
    slotBudgets.map fun slot => { slot with allocatedTokens := 0 }
  sum : allocatedSum moved = allocatedSum slotBudgets
  nonneg : ∀ slot ∈ moved, 0 ≤ slot.allocatedTokens

theorem changeSlot_others (slotName : Bytes) (change : Int → Int) (slotBudgets : List SlotBudget) :
    (changeSlot slotName change slotBudgets).map (fun slot => { slot with allocatedTokens := 0 }) =
      slotBudgets.map fun slot => { slot with allocatedTokens := 0 } := by
  induction slotBudgets with
  | nil => rfl
  | cons slot rest ih =>
    rw [changeSlot]
    split
    · rfl
    · rw [List.map_cons, List.map_cons, ih]

variable {slotBudgets : List SlotBudget}

/-- The slot that is found is changed, and no other. -/
theorem changeSlot_spec {slotName : Bytes} (change : Int → Int) {found : SlotBudget}
    (h : findSlotBudget slotBudgets slotName = some found) :
    allocatedSum (changeSlot slotName change slotBudgets) =
        allocatedSum slotBudgets - found.allocatedTokens + change found.allocatedTokens ∧
      ∀ slot ∈ changeSlot slotName change slotBudgets,
        slot ∈ slotBudgets ∨ slot.allocatedTokens = change found.allocatedTokens := by
  induction slotBudgets with
  | nil => cases h
  | cons slot rest ih =>
    unfold findSlotBudget at h ih
    rw [List.find?_cons] at h
    rw [changeSlot]
    by_cases hname : slot.slotName = slotName
    · simp only [hname, beq_self_eq_true, Option.some.injEq] at h
      subst h
      rw [if_pos hname]
      constructor
      · simp only [allocatedSum, List.map_cons, List.sum_cons]
        omega
      · intro other hmem
        rcases List.mem_cons.mp hmem with rfl | hrest
        · exact .inr rfl
        · exact .inl (List.mem_cons_of_mem _ hrest)
    · rw [beq_eq_false_iff_ne.mpr hname] at h
      obtain ⟨hsum, hslots⟩ := ih h
      rw [if_neg hname]
      constructor
      · simp only [allocatedSum, List.map_cons, List.sum_cons] at hsum ⊢
        omega
      · intro other hmem
        rcases List.mem_cons.mp hmem with rfl | hrest
        · exact .inl List.mem_cons_self
        · rcases hslots other hrest with hold | hnew
          · exact .inl (List.mem_cons_of_mem _ hold)
          · exact .inr hnew

theorem findSlotBudget_changed (slotName other : Bytes) (change : Int → Int)
    (slotBudgets : List SlotBudget) (h : (findSlotBudget slotBudgets slotName).isSome = true) :
    (findSlotBudget (changeSlot other change slotBudgets) slotName).isSome = true := by
  rw [findSlotBudget, List.find?_isSome] at h ⊢
  obtain ⟨slot, hmem, hname⟩ := h
  have hothers := changeSlot_others other change slotBudgets
  have hsame : { slot with allocatedTokens := 0 } ∈
      (changeSlot other change slotBudgets).map fun slot => { slot with allocatedTokens := 0 } := by
    rw [hothers]
    exact List.mem_map_of_mem hmem
  obtain ⟨changed, hchanged, heq⟩ := List.mem_map.mp hsame
  refine ⟨changed, hchanged, ?_⟩
  rw [(SlotBudget.mk.inj heq).1]
  exact hname

theorem transferBudget_moved (hnonneg : ∀ slot ∈ slotBudgets, 0 ≤ slot.allocatedTokens)
    (fromName toName : Bytes) (tokens : Int) :
    Moved slotBudgets (transferBudget slotBudgets fromName toName tokens) := by
  unfold transferBudget
  split
  · exact ⟨rfl, rfl, hnonneg⟩
  · next htokens =>
    split
    · next fromSlot toSlot hfrom hto =>
      have htaken : 0 ≤ fromSlot.allocatedTokens :=
        hnonneg fromSlot (List.mem_of_find?_eq_some hfrom)
      obtain ⟨hsum, hslots⟩ :=
        changeSlot_spec (· - min tokens fromSlot.allocatedTokens) hfrom
      obtain ⟨target, htarget⟩ := Option.isSome_iff_exists.mp
        (findSlotBudget_changed toName fromName (· - min tokens fromSlot.allocatedTokens)
          slotBudgets (by rw [hto]; rfl))
      obtain ⟨hsum', hslots'⟩ :=
        changeSlot_spec (· + min tokens fromSlot.allocatedTokens) htarget
      have hfirst : ∀ slot ∈ changeSlot fromName (· - min tokens fromSlot.allocatedTokens)
          slotBudgets, 0 ≤ slot.allocatedTokens := by
        intro slot hmem
        rcases hslots slot hmem with hold | hnew
        · exact hnonneg slot hold
        · omega
      have hbefore := hfirst target (List.mem_of_find?_eq_some htarget)
      refine ⟨?_, ?_, ?_⟩
      · rw [changeSlot_others, changeSlot_others]
      · simp only at hsum hsum' ⊢
        omega
      · intro slot hmem
        rcases hslots' slot hmem with hold | hnew
        · exact hfirst slot hold
        · omega
    · exact ⟨rfl, rfl, hnonneg⟩

theorem Moved.trans {first second third : List SlotBudget} (h : Moved first second)
    (h' : Moved second third) : Moved first third :=
  ⟨h'.others.trans h.others, h'.sum.trans h.sum, h'.nonneg⟩

theorem transferShares_moved (policy : BudgetPolicy)
    (hnonneg : ∀ slot ∈ slotBudgets, 0 ≤ slot.allocatedTokens) :
    Moved slotBudgets (transferShares policy slotBudgets) := by
  unfold transferShares
  simp only
  have hrisk : Moved slotBudgets (if 2 ≤ policy.riskLevel.toInt then
      transferBudget (transferBudget slotBudgets (str "recent_history") (str "policy_digest")
        (max 1 (totalBudget policy / 20))) (str "summary_memory")
        (str "latest_observation_digest_summary") (max 1 (totalBudget policy / 33))
      else slotBudgets) := by
    split
    · have hfirst := transferBudget_moved hnonneg (str "recent_history") (str "policy_digest")
        (max 1 (totalBudget policy / 20))
      exact hfirst.trans (transferBudget_moved hfirst.nonneg ..)
    · exact ⟨rfl, rfl, hnonneg⟩
  split
  · have hfirst := transferBudget_moved hrisk.nonneg (str "retrieval_evidence")
      (str "current_goal_summary") (max 1 (totalBudget policy / 33))
    exact hrisk.trans (hfirst.trans (transferBudget_moved hfirst.nonneg ..))
  · exact hrisk

/-! ## The cuts -/

/-- The shares and the estimates of the slots of the loop, each once. -/
def NamesDistinct (slotBudgets : List SlotBudget) : Prop :=
  (slotBudgets.map (·.slotName)).Nodup

theorem trimLoop_targets (excessTokens : Int) (slotBudgets : List SlotBudget) :
    ((trimLoop excessTokens slotBudgets).map (·.slotName)).Sublist
        (slotBudgets.map (·.slotName)) ∧
      ∀ action ∈ trimLoop excessTokens slotBudgets, ∃ slot ∈ slotBudgets,
        slot.slotName = action.slotName ∧
        min slot.allocatedTokens slot.estimatedTokens ≤ action.targetTokens ∧
        action.targetTokens < slot.estimatedTokens := by
  induction slotBudgets generalizing excessTokens with
  | nil => exact ⟨List.Sublist.refl _, by simp [trimLoop]⟩
  | cons slot rest ih =>
    rw [trimLoop]
    split
    · exact ⟨List.nil_sublist _, by simp⟩
    · next hexcess =>
      simp only
      split
      · obtain ⟨hsub, htargets⟩ := ih excessTokens
        refine ⟨hsub.cons _, fun action hmem => ?_⟩
        obtain ⟨other, hother, htarget⟩ := htargets action hmem
        exact ⟨other, List.mem_cons_of_mem _ hother, htarget⟩
      · next hreducible =>
        obtain ⟨hsub, htargets⟩ := ih (excessTokens -
          min excessTokens (slot.estimatedTokens - min slot.allocatedTokens slot.estimatedTokens))
        refine ⟨hsub.cons_cons _, fun action hmem => ?_⟩
        rcases List.mem_cons.mp hmem with rfl | hrest
        · refine ⟨slot, List.mem_cons_self, rfl, ?_, ?_⟩
          · simp only
            omega
          · simp only
            omega
        · obtain ⟨other, hother, htarget⟩ := htargets action hrest
          exact ⟨other, List.mem_cons_of_mem _ hother, htarget⟩

/-- Behind a slot that is cut, every slot before it that can be cut is cut down to its share. -/
theorem trimLoop_before (excessTokens : Int) (front : List SlotBudget) (slot : SlotBudget)
    (rest : List SlotBudget) (hnames : NamesDistinct (front ++ slot :: rest))
    (h : ∃ action ∈ trimLoop excessTokens (front ++ slot :: rest),
      action.slotName = slot.slotName) :
    ∀ other ∈ front, other.allocatedTokens < other.estimatedTokens →
      { slotName := other.slotName, targetTokens := other.allocatedTokens } ∈
        trimLoop excessTokens (front ++ slot :: rest) := by
  induction front generalizing excessTokens with
  | nil => simp
  | cons first front ih =>
    obtain ⟨hnew, hnames⟩ := List.nodup_cons.mp hnames
    have hother : first.slotName ≠ slot.slotName := by
      intro hsame
      apply hnew
      simp [hsame]
    obtain ⟨action, hmem, haction⟩ := h
    intro other hin hcut
    rw [List.cons_append, trimLoop] at hmem ⊢
    split at hmem
    · cases hmem
    · next hexcess =>
      rw [if_neg hexcess]
      simp only at hmem ⊢
      split at hmem
      · next hreducible =>
        rw [if_pos hreducible]
        rcases List.mem_cons.mp hin with rfl | hfront
        · omega
        · exact ih excessTokens hnames ⟨action, hmem, haction⟩ other hfront hcut
      · next hreducible =>
        rw [if_neg hreducible]
        rcases List.mem_cons.mp hmem with rfl | hlater
        · exact absurd haction hother
        · -- something is left to cut, so the first slot has given all that it can
          have hleft : 0 < excessTokens - min excessTokens (first.estimatedTokens -
              min first.allocatedTokens first.estimatedTokens) := by
            by_contra hnone
            rw [Int.not_lt] at hnone
            cases hbehind : front ++ slot :: rest with
            | nil => simp at hbehind
            | cons second behind =>
              rw [hbehind, trimLoop, if_pos hnone] at hlater
              cases hlater
          rcases List.mem_cons.mp hin with rfl | hfront
          · have htarget : other.estimatedTokens - min excessTokens (other.estimatedTokens -
                min other.allocatedTokens other.estimatedTokens) = other.allocatedTokens := by omega
            rw [htarget]
            exact List.mem_cons_self
          · exact List.mem_cons_of_mem _
              (ih _ hnames ⟨action, hlater, haction⟩ other hfront hcut)

/-- What is left of a slot's estimate. -/
def effectiveTokens (trimActions : List TrimAction) (slot : SlotBudget) : Int :=
  match trimActions.find? fun action => action.slotName == slot.slotName with
  | some action => action.targetTokens
  | none => slot.estimatedTokens

theorem effectiveTokens_absent {trimActions : List TrimAction} {slot : SlotBudget}
    (h : slot.slotName ∉ trimActions.map (·.slotName)) :
    effectiveTokens trimActions slot = slot.estimatedTokens := by
  unfold effectiveTokens
  rw [List.find?_eq_none.mpr]
  intro action hmem hname
  exact h (List.mem_map.mpr ⟨action, hmem, beq_iff_eq.mp hname⟩)

/-- The actions take off the estimates what is not left of them. -/
theorem trimLoop_sum {all : List SlotBudget} (excessTokens : Int) (slotBudgets : List SlotBudget)
    (hnames : NamesDistinct slotBudgets)
    (hfound : ∀ slot ∈ slotBudgets, findSlotBudget all slot.slotName = some slot) :
    (slotBudgets.map (effectiveTokens (trimLoop excessTokens slotBudgets))).sum +
        ((trimLoop excessTokens slotBudgets).map (cutTokens all)).sum =
      (slotBudgets.map (·.estimatedTokens)).sum := by
  induction slotBudgets generalizing excessTokens with
  | nil => rfl
  | cons slot rest ih =>
    obtain ⟨hnew, hnames⟩ := List.nodup_cons.mp hnames
    rw [List.forall_mem_cons] at hfound
    have hrest := fun excess => ih excess hnames hfound.2
    have habsent : ∀ excess, effectiveTokens (trimLoop excess rest) slot = slot.estimatedTokens :=
      fun excess => effectiveTokens_absent fun hmem =>
        hnew ((trimLoop_targets excess rest).1.subset hmem)
    rw [trimLoop]
    split
    · have hnone : effectiveTokens [] = (·.estimatedTokens) := rfl
      rw [hnone, List.map_nil, List.sum_nil, Int.add_zero]
    · simp only
      split
      · have := hrest excessTokens
        rw [List.map_cons, List.map_cons, List.sum_cons, List.sum_cons, habsent]
        omega
      · next hreducible =>
        generalize htrimmed : min excessTokens (slot.estimatedTokens -
          min slot.allocatedTokens slot.estimatedTokens) = trimmed
        have hsum := hrest (excessTokens - trimmed)
        -- the other slots do not see the action of this one
        have hothers : rest.map (effectiveTokens
            ({ slotName := slot.slotName, targetTokens := slot.estimatedTokens - trimmed } ::
              trimLoop (excessTokens - trimmed) rest)) =
            rest.map (effectiveTokens (trimLoop (excessTokens - trimmed) rest)) := by
          apply List.map_congr_left
          intro other hother
          have hname : (slot.slotName == other.slotName) = false := by
            rw [beq_eq_false_iff_ne]
            intro hsame
            exact hnew (List.mem_map.mpr ⟨other, hother, hsame.symm⟩)
          unfold effectiveTokens
          rw [List.find?_cons_of_neg (by simp [hname])]
        have hslot : effectiveTokens
            ({ slotName := slot.slotName, targetTokens := slot.estimatedTokens - trimmed } ::
              trimLoop (excessTokens - trimmed) rest) slot = slot.estimatedTokens - trimmed := by
          unfold effectiveTokens
          rw [List.find?_cons_of_pos (by simp)]
        have hcut : cutTokens all
            { slotName := slot.slotName, targetTokens := slot.estimatedTokens - trimmed } =
              max 0 trimmed := by
          unfold cutTokens
          simp only [hfound.1]
          congr 1
          omega
        rw [List.map_cons, List.map_cons, List.map_cons, List.sum_cons, List.sum_cons, List.sum_cons,
          hslot, hothers, hcut]
        omega

theorem cutsFirst_priority {left right : SlotBudget} (h : cutsFirst right left = false) :
    left.priority ≤ right.priority := by
  have hnumbers : Sort.Linear fun x y : Int => decide (x < y) := Sort.Linear.ofLT
  have hkey := Sort.thenBy_key hnumbers h
  simpa using hkey

theorem cutsFirst_strictWeak : Sort.StrictWeak cutsFirst := by
  have hnumbers : Sort.Linear fun x y : Int => decide (x < y) := Sort.Linear.ofLT
  have hnames : Sort.Linear fun x y : Bytes => decide (x < y) := Sort.Linear.ofLT
  exact ((hnames.strictWeak SlotBudget.slotName).thenBy hnumbers.swap _).thenBy hnumbers _

theorem findSlotBudget_self (hnames : NamesDistinct slotBudgets) {slot : SlotBudget}
    (h : slot ∈ slotBudgets) :
    findSlotBudget slotBudgets slot.slotName = some slot := by
  induction slotBudgets with
  | nil => cases h
  | cons first rest ih =>
    obtain ⟨hnew, hnames⟩ := List.nodup_cons.mp hnames
    unfold findSlotBudget at ih ⊢
    rw [List.find?_cons]
    rcases List.mem_cons.mp h with rfl | hrest
    · rw [beq_self_eq_true]
    · have hname : (first.slotName == slot.slotName) = false := by
        rw [beq_eq_false_iff_ne]
        intro hsame
        exact hnew (List.mem_map.mpr ⟨slot, hrest, hsame.symm⟩)
      rw [hname]
      exact ih hnames hrest

/-! ## The plan -/

/-- What is estimated of the context once the actions are applied. -/
def BudgetPlan.reducedTokens (plan : BudgetPlan) : Int :=
  (plan.slotBudgets.map (effectiveTokens plan.trimActions)).sum

/-- The shares of the templates, before any of them moves. -/
def templateShares (policy : BudgetPolicy) : List Int :=
  (stageTemplates policy).map fun template => totalBudget policy * template.basisPoints / 100

structure PlanLaws (policy : BudgetPolicy) (plan : BudgetPlan) : Prop where
  budget : plan.totalTokenBudget = totalBudget policy
  names : NamesDistinct plan.slotBudgets
  nonneg : ∀ slot ∈ plan.slotBudgets, 0 ≤ slot.allocatedTokens
  within : allocatedSum plan.slotBudgets ≤ plan.totalTokenBudget
  unmoved : allocatedSum plan.slotBudgets = (templateShares policy).sum
  targets : ∀ action ∈ plan.trimActions, ∃ slot ∈ plan.slotBudgets,
    slot.slotName = action.slotName ∧
    min slot.allocatedTokens slot.estimatedTokens ≤ action.targetTokens ∧
    action.targetTokens ≤ slot.estimatedTokens
  once : (plan.trimActions.map (·.slotName)).Nodup
  reduced : plan.overBudget = false ↔ plan.reducedTokens ≤ plan.totalTokenBudget
  ordered : ∀ action ∈ plan.trimActions, ∀ slot ∈ plan.slotBudgets,
    slot.slotName = action.slotName → ∀ other ∈ plan.slotBudgets,
    other.priority < slot.priority → other.allocatedTokens < other.estimatedTokens →
    { slotName := other.slotName, targetTokens := other.allocatedTokens } ∈ plan.trimActions

/-- Every `int` of the computation stays in its range. -/
structure Fits (estimator : TokenEstimator) (candidates : CandidateSet) (policy : BudgetPolicy) :
    Prop where
  shares : 18 * totalBudget policy < 2 ^ 31
  slots : ∀ template ∈ stageTemplates policy,
    SumsFit intLow intHigh 0 (slotCounts estimator candidates template.slotName)
  total : SumsFit intLow intHigh 0 ((stageTemplates policy).map fun template =>
    (slotCounts estimator candidates template.slotName).sum)
  excess : intLow ≤ ((stageTemplates policy).map fun template =>
    (slotCounts estimator candidates template.slotName).sum).sum - totalBudget policy

/-- The budget of a slot before any share moves. -/
def plainSlot (estimator : TokenEstimator) (candidates : CandidateSet) (policy : BudgetPolicy)
    (template : SlotTemplate) : SlotBudget where
  slotName := template.slotName
  allocatedTokens := totalBudget policy * template.basisPoints / 100
  estimatedTokens := (slotCounts estimator candidates template.slotName).sum
  priority := template.priority

variable {estimator : TokenEstimator} {candidates : CandidateSet} {policy : BudgetPolicy}

theorem stageTemplates_cases {property : List SlotTemplate → Prop}
    (hreflection : property reflectionTemplates) (hreasoning : property reasoningTemplates)
    (hother : property otherTemplates) : property (stageTemplates policy) := by
  unfold stageTemplates
  simp only
  split
  · exact hreflection
  · split
    · exact hreasoning
    · exact hother

theorem stageTemplates_points :
    (∀ template ∈ stageTemplates policy, 0 < template.basisPoints ∧ template.basisPoints ≤ 18) ∧
      (∃ template ∈ stageTemplates policy, template.basisPoints = 18) ∧
      ((stageTemplates policy).map (·.slotName)).Nodup ∧
      ((stageTemplates policy).map (·.basisPoints)).sum ≤ 100 := by
  apply @stageTemplates_cases policy fun templates =>
    (∀ template ∈ templates, 0 < template.basisPoints ∧ template.basisPoints ≤ 18) ∧
      (∃ template ∈ templates, template.basisPoints = 18) ∧
      (templates.map (·.slotName)).Nodup ∧ (templates.map (·.basisPoints)).sum ≤ 100
  all_goals exact ⟨by decide, by decide, by decide, by decide⟩

theorem totalTokens_iff (counts : List Int) (total : Int) :
    totalTokens counts = some total ↔ SumsFit intLow intHigh 0 counts ∧ total = counts.sum := by
  rw [totalTokens, foldlM_addWithin_eq_some_iff, Int.zero_add]

theorem inInt_iff (value result : Int) :
    inInt value = some result ↔ (intLow ≤ value ∧ value < intHigh) ∧ result = value := by
  unfold inInt addWithin
  rw [Int.zero_add]
  split
  · next h => simp [h, eq_comm]
  · next h => simp [h]

theorem slotBudgetOf_iff (template : SlotTemplate) (slot : SlotBudget) :
    slotBudgetOf estimator candidates policy template = some slot ↔
      (intLow ≤ totalBudget policy * template.basisPoints ∧
        totalBudget policy * template.basisPoints < intHigh) ∧
      SumsFit intLow intHigh 0 (slotCounts estimator candidates template.slotName) ∧
      slot = plainSlot estimator candidates policy template := by
  unfold slotBudgetOf estimateSlotTokens
  simp only [Option.bind_eq_bind, Option.bind_eq_some_iff, Option.pure_def, Option.some.injEq,
    inInt_iff, totalTokens_iff]
  constructor
  · rintro ⟨share, ⟨hrange, rfl⟩, estimated, ⟨hfits, rfl⟩, rfl⟩
    exact ⟨hrange, hfits, rfl⟩
  · rintro ⟨hrange, hfits, rfl⟩
    exact ⟨_, ⟨hrange, rfl⟩, _, ⟨hfits, rfl⟩, rfl⟩

theorem mapM_eq_some_iff {α β : Type} (f : α → Option β) (g : α → β) (fits : α → Prop)
    (hf : ∀ a b, f a = some b ↔ fits a ∧ b = g a) (items : List α) (results : List β) :
    items.mapM f = some results ↔ (∀ a ∈ items, fits a) ∧ results = items.map g := by
  induction items generalizing results with
  | nil => simp [eq_comm]
  | cons a items ih =>
    rw [List.mapM_cons]
    simp only [Option.bind_eq_bind, Option.bind_eq_some_iff, Option.pure_def, Option.some.injEq, hf,
      ih, List.forall_mem_cons, List.map_cons]
    constructor
    · rintro ⟨b, ⟨hfits, rfl⟩, rest, ⟨hrest, rfl⟩, rfl⟩
      exact ⟨⟨hfits, hrest⟩, rfl⟩
    · rintro ⟨⟨hfits, hrest⟩, rfl⟩
      exact ⟨_, ⟨hfits, rfl⟩, _, ⟨hrest, rfl⟩, rfl⟩

variable (estimator candidates policy) in
/-- The slots of the plan. -/
def movedSlots : List SlotBudget :=
  transferShares policy ((stageTemplates policy).map (plainSlot estimator candidates policy))

theorem totalBudget_nonneg : 0 ≤ totalBudget policy := le_max_left _ _

theorem movedSlots_moved :
    Moved ((stageTemplates policy).map (plainSlot estimator candidates policy))
      (movedSlots estimator candidates policy) := by
  apply transferShares_moved
  intro slot hmem
  obtain ⟨template, htemplate, rfl⟩ := List.mem_map.mp hmem
  have hpoints := (stageTemplates_points.1 template htemplate).1
  have hbudget := @totalBudget_nonneg policy
  exact Int.ediv_nonneg (Int.mul_nonneg hbudget (by omega)) (by omega)

/-- The names and the estimates are those of the templates. -/
theorem movedSlots_others {β : Type} (view : SlotBudget → β)
    (hview : ∀ slot, view { slot with allocatedTokens := 0 } = view slot) :
    (movedSlots estimator candidates policy).map view =
      (stageTemplates policy).map fun template =>
        view (plainSlot estimator candidates policy template) := by
  have h := congrArg (List.map view)
    (@movedSlots_moved estimator candidates policy).others
  simpa only [List.map_map, Function.comp_def, hview] using h

theorem movedSlots_sum : allocatedSum (movedSlots estimator candidates policy) =
    (templateShares policy).sum := by
  rw [movedSlots_moved.sum, allocatedSum, List.map_map]
  rfl

theorem templateShares_sum_le : (templateShares policy).sum ≤ totalBudget policy := by
  have hbudget := @totalBudget_nonneg policy
  have hpoints := (@stageTemplates_points policy).2.2.2
  unfold templateShares
  have hall : ∀ templates : List SlotTemplate,
      (templates.map fun template => totalBudget policy * template.basisPoints / 100).sum * 100 ≤
        totalBudget policy * (templates.map (·.basisPoints)).sum := by
    intro templates
    induction templates with
    | nil => simp
    | cons template templates ih =>
      have hshare := Int.ediv_mul_le (totalBudget policy * template.basisPoints)
        (by decide : (100 : Int) ≠ 0)
      rw [List.map_cons, List.map_cons, List.sum_cons, List.sum_cons, Int.add_mul, Int.mul_add]
      omega
  have htotal := hall (stageTemplates policy)
  have hmost := Int.mul_le_mul_of_nonneg_left hpoints hbudget
  omega

variable (estimator candidates policy) in
/-- The estimate of the whole context. -/
def estimatedTotal : Int :=
  ((stageTemplates policy).map fun template =>
    (slotCounts estimator candidates template.slotName).sum).sum

variable (estimator candidates policy) in
/-- The plan, where everything fits. -/
def planOf : BudgetPlan :=
  let slotBudgets := movedSlots estimator candidates policy
  let estimatedTotalTokens := estimatedTotal estimator candidates policy
  let trimActions := trimLoop (max 0 (estimatedTotalTokens - totalBudget policy))
    (Sort.sortBy cutsFirst slotBudgets)
  { slotBudgets, trimActions
    totalTokenBudget := totalBudget policy
    estimatedTotalTokens
    overBudget := decide (totalBudget policy < trimActions.foldl
      (fun reduced action => reduced - cutTokens slotBudgets action) estimatedTotalTokens) }

theorem shares_fit :
    (∀ template ∈ stageTemplates policy, intLow ≤ totalBudget policy * template.basisPoints ∧
      totalBudget policy * template.basisPoints < intHigh) ↔ 18 * totalBudget policy < 2 ^ 31 := by
  have hbudget := @totalBudget_nonneg policy
  obtain ⟨hpoints, ⟨most, hmem, hmost⟩, -⟩ := @stageTemplates_points policy
  constructor
  · intro h
    have hrange := (h most hmem).2
    rw [hmost] at hrange
    unfold intHigh at hrange
    omega
  · intro h template htemplate
    obtain ⟨hpos, hle⟩ := hpoints template htemplate
    have hlow := Int.mul_nonneg hbudget (le_of_lt hpos)
    have hhigh := Int.mul_le_mul_of_nonneg_left hle hbudget
    unfold intLow intHigh
    constructor
    · omega
    · omega

theorem allocate_iff (plan : BudgetPlan) :
    allocate estimator candidates policy = some plan ↔
      Fits estimator candidates policy ∧ plan = planOf estimator candidates policy := by
  have hslots : ∀ slots, computeSlotBudgets estimator candidates policy = some slots ↔
      (18 * totalBudget policy < 2 ^ 31 ∧ ∀ template ∈ stageTemplates policy,
        SumsFit intLow intHigh 0 (slotCounts estimator candidates template.slotName)) ∧
      slots = movedSlots estimator candidates policy := by
    intro slots
    unfold computeSlotBudgets
    simp only [Option.bind_eq_bind, Option.bind_eq_some_iff, Option.pure_def, Option.some.injEq]
    constructor
    · rintro ⟨plain, hplain, rfl⟩
      rw [mapM_eq_some_iff _ _ _ fun template slot =>
        (slotBudgetOf_iff template slot).trans and_assoc.symm] at hplain
      obtain ⟨hfits, rfl⟩ := hplain
      exact ⟨⟨shares_fit.mp fun template h => (hfits template h).1, fun template h =>
        (hfits template h).2⟩, rfl⟩
    · rintro ⟨⟨hshares, hcounts⟩, rfl⟩
      refine ⟨_, ?_, rfl⟩
      rw [mapM_eq_some_iff _ _ _ fun template slot =>
        (slotBudgetOf_iff template slot).trans and_assoc.symm]
      exact ⟨fun template h => ⟨shares_fit.mpr hshares template h, hcounts template h⟩, rfl⟩
  have hestimates : (movedSlots estimator candidates policy).map (·.estimatedTokens) =
      (stageTemplates policy).map fun template =>
        (slotCounts estimator candidates template.slotName).sum :=
    movedSlots_others _ fun _ => rfl
  unfold allocate computeTrimActions
  simp only [Option.bind_eq_bind, Option.bind_eq_some_iff, Option.pure_def, Option.some.injEq,
    hslots, inInt_iff, totalTokens_iff]
  constructor
  · rintro ⟨slots, ⟨⟨hshares, hcounts⟩, rfl⟩, total, ⟨htotal, rfl⟩, actions,
      ⟨difference, ⟨hrange, rfl⟩, rfl⟩, rfl⟩
    rw [hestimates] at htotal hrange ⊢
    exact ⟨⟨hshares, hcounts, htotal, hrange.1⟩, rfl⟩
  · rintro ⟨hfits, rfl⟩
    have htotal := hfits.total
    have hbudget := @totalBudget_nonneg policy
    refine ⟨_, ⟨⟨hfits.shares, hfits.slots⟩, rfl⟩, _, ⟨hestimates ▸ htotal, rfl⟩, _,
      ⟨_, ⟨⟨?_, ?_⟩, rfl⟩, rfl⟩, ?_⟩
    · rw [hestimates]
      exact hfits.excess
    · rw [hestimates]
      have hsum := htotal _ (List.prefix_refl _) (by
        obtain ⟨template, hmem, -⟩ := (@stageTemplates_points policy).2.1
        exact List.ne_nil_of_mem (List.mem_map_of_mem hmem))
      omega
    · rw [hestimates]
      rfl

theorem namesDistinct_moved : NamesDistinct (movedSlots estimator candidates policy) := by
  unfold NamesDistinct
  rw [movedSlots_others _ fun _ => rfl]
  exact (@stageTemplates_points policy).2.2.1

theorem planOf_reduced :
    (planOf estimator candidates policy).trimActions.foldl
        (fun reduced action => reduced - cutTokens (movedSlots estimator candidates policy) action)
        (estimatedTotal estimator candidates policy) =
      (planOf estimator candidates policy).reducedTokens := by
  have hdistinct := @namesDistinct_moved estimator candidates policy
  have hperm : (Sort.sortBy cutsFirst (movedSlots estimator candidates policy)).Perm
      (movedSlots estimator candidates policy) := List.perm_insertionSort _ _
  have hfold : ∀ (actions : List TrimAction) (start : Int), actions.foldl (fun reduced action =>
      reduced - cutTokens (movedSlots estimator candidates policy) action) start =
        start - (actions.map (cutTokens (movedSlots estimator candidates policy))).sum := by
    intro actions
    induction actions with
    | nil => intro start; simp
    | cons action actions ih =>
      intro start
      rw [List.foldl_cons, ih, List.map_cons, List.sum_cons]
      omega
  have hestimates : estimatedTotal estimator candidates policy =
      ((movedSlots estimator candidates policy).map (·.estimatedTokens)).sum := by
    rw [movedSlots_others _ fun _ => rfl]
    rfl
  have hsum := trimLoop_sum (max 0 (estimatedTotal estimator candidates policy - totalBudget policy))
    (Sort.sortBy cutsFirst (movedSlots estimator candidates policy))
    ((hperm.map _).nodup_iff.mpr hdistinct)
    (fun slot hmem => findSlotBudget_self hdistinct (hperm.mem_iff.mp hmem))
  rw [(hperm.map _).sum_eq, (hperm.map (·.estimatedTokens)).sum_eq, ← hestimates] at hsum
  rw [hfold]
  unfold BudgetPlan.reducedTokens planOf
  simp only
  omega

theorem planOf_laws : PlanLaws policy (planOf estimator candidates policy) where
  budget := rfl
  names := namesDistinct_moved
  nonneg := movedSlots_moved.nonneg
  within := by
    rw [planOf, movedSlots_sum]
    exact templateShares_sum_le
  unmoved := movedSlots_sum
  targets := by
    intro action hmem
    obtain ⟨slot, hslot, hname, hlow, hhigh⟩ := (trimLoop_targets _ _).2 action hmem
    exact ⟨slot, (Sort.mem_sortBy _).mp hslot, hname, hlow, le_of_lt hhigh⟩
  once := by
    have hperm := List.perm_insertionSort (fun a b => cutsFirst b a = false)
      (movedSlots estimator candidates policy)
    exact ((hperm.map SlotBudget.slotName).nodup_iff.mpr namesDistinct_moved).sublist
      (trimLoop_targets _ _).1
  reduced := by
    rw [← planOf_reduced]
    unfold planOf
    simp only
    rw [decide_eq_false_iff_not, Int.not_lt]
  ordered := by
    intro action hmem slot hslot hname other hother hpriority hcut
    have hperm : (Sort.sortBy cutsFirst (movedSlots estimator candidates policy)).Perm
        (movedSlots estimator candidates policy) := List.perm_insertionSort _ _
    obtain ⟨front, rest, hsorted⟩ := List.append_of_mem (hperm.mem_iff.mpr hslot)
    have hpairwise := cutsFirst_strictWeak.pairwise (movedSlots estimator candidates policy)
    rw [hsorted, List.pairwise_append, List.pairwise_cons] at hpairwise
    have hfront : other ∈ front := by
      have hin := hperm.mem_iff.mpr hother
      rw [hsorted, List.mem_append, List.mem_cons] at hin
      rcases hin with hfront | rfl | hrest
      · exact hfront
      · omega
      · have := cutsFirst_priority (hpairwise.2.1.1 other hrest)
        omega
    have hnames : NamesDistinct (front ++ slot :: rest) := by
      rw [← hsorted]
      exact (hperm.map SlotBudget.slotName).nodup_iff.mpr namesDistinct_moved
    unfold planOf at hmem ⊢
    simp only [hsorted] at hmem ⊢
    exact trimLoop_before _ front slot rest hnames ⟨action, hmem, hname.symm⟩ other hfront hcut

/-- There is a plan, and it keeps the laws, exactly when every `int` of it stays in its range. -/
theorem planLaws_iff (estimator : TokenEstimator) (candidates : CandidateSet)
    (policy : BudgetPolicy) :
    (∃ plan, allocate estimator candidates policy = some plan ∧ PlanLaws policy plan) ↔
      Fits estimator candidates policy := by
  constructor
  · rintro ⟨plan, hplan, -⟩
    exact ((allocate_iff plan).mp hplan).1
  · intro h
    exact ⟨_, (allocate_iff _).mpr ⟨h, rfl⟩, planOf_laws⟩

/-- The largest share of two hundred million tokens is a product beyond the range of `int`. -/
theorem planLaws_large :
    ¬ ∃ plan, allocate (fun _ => 0) {} { totalTokenBudget := 200000000 } = some plan ∧
      PlanLaws { totalTokenBudget := 200000000 } plan := by
  rintro ⟨plan, hplan, -⟩
  have hfits := ((allocate_iff plan).mp hplan).1
  exact absurd hfits.shares (by decide)

end Dasall.Memory.Context
