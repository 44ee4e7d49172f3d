import Dasall.Contracts.Memory
import Dasall.Lib.Utf8
import Mathlib.Data.Finset.Card

/-!
# The memory conflict resolver

Compares a candidate fact with the stored facts that look related, and says what the writer has
to do. A step outside the `try` blocks that throws makes the whole call throw.
-/

open Dasall.Contracts.Memory Dasall.Lib.Ascii Dasall.Lib.Guard Dasall.Lib.Text Dasall.Lib.Utf8

namespace Dasall.Memory.Conflict

inductive ConflictAction
  | accept
  | supersede
  | reject
  | coexist
deriving DecidableEq, Repr

structure ConflictRecord where
  newFactId : Bytes
  existingFactId : Bytes
  action : ConflictAction
  reason : Bytes
  confidenceDelta : Int32
deriving DecidableEq

structure ConflictResolutionPlan where
  action : ConflictAction := .accept
  conflictRecords : List ConflictRecord := []
  supersedeTargetId : Option Bytes := none
  warnings : List Bytes := []
  degraded : Bool := false
deriving DecidableEq

structure FactCandidate where
  fact : MemoryFact
  extractionSource : Bytes := []
deriving DecidableEq

structure FactQuery where
  sessionId : Option Bytes := none
  userId : Option Bytes := none
  factType : Option Bytes := none
  minConfidence : Option Int32 := none
  excludeSuperseded : Bool := true
  limit : Int32 := 50
deriving DecidableEq

/-- What leaves a function as an exception. -/
inductive Thrown
  | outOfRange
  | storeFailure
  | embeddingFailure
deriving DecidableEq

/-- What the resolver is built over. `assist` tells whether the embeddings of two texts have a
similarity that reaches the configured threshold; it is absent where no adapter is configured. -/
structure Environment where
  queryFacts : FactQuery → Except Thrown (List MemoryFact)
  assist : Option (Bytes → Bytes → Except Thrown Bool) := none

/-! ## Words -/

def noiseTokens : List Bytes :=
  [str "a", str "an", str "the", str "is", str "are", str "was", str "were", str "to", str "of",
    str "and", str "or"]

def negationMarkers : List Bytes :=
  [str "not", str "never", str "no ", str "disabled", utf8 "不", utf8 "未", utf8 "无", utf8 "禁止"]

def polarityPairs : List (Bytes × Bytes) :=
  [(str "enabled", str "disabled"), (str "allow", str "deny"), (str "online", str "offline"),
    (str "success", str "failed"), (str "true", str "false"), (str "on", str "off"),
    (utf8 "启用", utf8 "禁用"), (utf8 "开启", utf8 "关闭"), (utf8 "允许", utf8 "拒绝")]

def isTokenChar (ch : Byte) : Bool := 128 ≤ ch.toNat || isAlnum ch || ch == 95

/-- One byte of the scan: the tokens found so far and the one being read. -/
def tokenizeStep (state : List Bytes × Bytes) (ch : Byte) : List Bytes × Bytes :=
  if isTokenChar ch then (state.1, state.2 ++ [ch])
  else if state.2.isEmpty then state
  else (state.1 ++ [state.2], [])

def tokenize (text : Bytes) : List Bytes :=
  let (tokens, current) := (lower text).foldl tokenizeStep ([], [])
  if current.isEmpty then tokens else tokens ++ [current]

def isNoiseToken (token : Bytes) : Bool := noiseTokens.contains token

def isPolarityToken (token : Bytes) : Bool :=
  polarityPairs.any fun pair => token == pair.1 || token == pair.2

def containsSubstring (text needle : Bytes) : Bool := needle <:+: text

def hasNegationMarker (text : Bytes) : Bool := negationMarkers.any (containsSubstring text)

def buildAnchorTokenSet (text : Bytes) : Finset Bytes :=
  ((tokenize text).filter fun token => !isNoiseToken token && !isPolarityToken token).toFinset

def sharedAnchorCount (existingText candidateText : Bytes) : Nat :=
  (buildAnchorTokenSet existingText ∩ buildAnchorTokenSet candidateText).card

def hasPolarityConflict (existingText candidateText : Bytes) : Bool :=
  polarityPairs.any fun pair =>
    (containsSubstring existingText pair.1 && containsSubstring candidateText pair.2) ||
      (containsSubstring existingText pair.2 && containsSubstring candidateText pair.1)

/-! ## The number in a text -/

/-- The value read so far and the digits of the run being read. -/
structure NumberScan where
  value : Option Int64 := none
  digits : Bytes := []

/-- `flush_digits`: `none` inside is a second number. -/
def NumberScan.flushDigits (scan : NumberScan) : Except Thrown (Option NumberScan) :=
  if scan.digits.isEmpty then .ok (some scan)
  else if scan.value.isSome then .ok none
  else
    match stoll scan.digits with
    | some value => .ok (some { value := some value, digits := [] })
    | none => .error .outOfRange

def scanNumbers (scan : NumberScan) : Bytes → Except Thrown (Option Int64)
  | [] => do
    match ← scan.flushDigits with
    | some scan => pure scan.value
    | none => pure none
  | ch :: rest =>
    if isDigit ch then scanNumbers { scan with digits := scan.digits ++ [ch] } rest
    else do
      match ← scan.flushDigits with
      | some scan => scanNumbers scan rest
      | none => pure none

/-- The number of a text that has just one. -/
def extractSingleNumber (text : Bytes) : Except Thrown (Option Int64) := scanNumbers {} text

/-! ## The test -/

def typesDiffer (existing candidate : MemoryFact) : Bool :=
  existing.factType.isSome && candidate.factType.isSome && existing.factType != candidate.factType

/-- Both texts hold a single number, and the two differ. -/
def numbersDiffer (existingText candidateText : Bytes) : Except Thrown Bool := do
  let existingNumber ← extractSingleNumber existingText
  let candidateNumber ← extractSingleNumber candidateText
  pure (existingNumber.isSome && candidateNumber.isSome && existingNumber != candidateNumber)

def isSemanticallyConflicting (existing candidate : MemoryFact) : Except Thrown Bool :=
  match existing.factText, candidate.factText with
  | some existingText, some candidateText =>
    if typesDiffer existing candidate then .ok false
    else if sharedAnchorCount (lower existingText) (lower candidateText) = 0 then .ok false
    else if hasPolarityConflict (lower existingText) (lower candidateText) then .ok true
    else if hasNegationMarker (lower existingText) != hasNegationMarker (lower candidateText) then
      .ok true
    else numbersDiffer (lower existingText) (lower candidateText)
  | _, _ => .ok false

def isEmbeddingAssistCandidate (existing candidate : MemoryFact) : Except Thrown Bool :=
  match existing.factText, candidate.factText with
  | some existingText, some candidateText =>
    if typesDiffer existing candidate then .ok false
    else if sharedAnchorCount (lower existingText) (lower candidateText) = 0 then .ok false
    else if hasPolarityConflict (lower existingText) (lower candidateText) then .ok false
    else if hasNegationMarker (lower existingText) != hasNegationMarker (lower candidateText) then
      .ok false
    else do return !(← numbersDiffer (lower existingText) (lower candidateText))
  | _, _ => .ok false

/-! ## The related facts -/

def isRelated (factType : Option Bytes) (factText : Bytes) (fact : MemoryFact) : Bool :=
  match fact.factText with
  | none => false
  | some text =>
    !text.isEmpty &&
      ((factType.isSome && fact.factType == factType) || decide (0 < sharedAnchorCount text factText) ||
        (containsSubstring text factText || containsSubstring factText text))

def relatedQuery (sessionId : Bytes) : FactQuery :=
  { sessionId := some sessionId, minConfidence := some 0, excludeSuperseded := true, limit := 16 }

def Environment.findRelatedFacts (environment : Environment) (sessionId : Bytes)
    (factType : Option Bytes) (factText : Bytes) : Except Thrown (List MemoryFact) := do
  let facts ← environment.queryFacts (relatedQuery sessionId)
  pure (facts.filter (isRelated factType factText))

/-! ## The plan -/

def confidenceOrZero (fact : MemoryFact) : Int32 := (fact.confidenceScore.getD 0).toInt32

def determineAction (existing candidate : MemoryFact) : ConflictAction :=
  if confidenceOrZero existing < confidenceOrZero candidate then .supersede else .reject

def buildReason (action : ConflictAction) (confidenceDelta : Int32) (semanticConflict : Bool) :
    Bytes :=
  match action with
  | .supersede =>
    if semanticConflict then str "higher-confidence conflicting fact supersedes existing fact"
    else str "higher-confidence related fact replaces an older entry"
  | .reject =>
    if confidenceDelta ≤ 0 then str "existing conflicting fact has equal or higher confidence"
    else str "candidate fact rejected by conflict policy"
  | .coexist => str "related fact is compatible or conflict is inconclusive"
  | .accept => str "no related conflicting fact detected"

def appendWarningOnce (warnings : List Bytes) (warning : Bytes) : List Bytes :=
  if warnings.contains warning then warnings else warnings ++ [warning]

/-- The plan in the making and the locals of the loop. -/
structure Resolution where
  plan : ConflictResolutionPlan := {}
  sawReject : Bool := false
  sawSupersede : Bool := false
  sawCoexist : Bool := false
  highestSupersededConfidence : Int32 := -1

def Resolution.embeddingSkipped (resolution : Resolution) : Resolution :=
  { resolution with plan :=
    { resolution.plan with
      warnings := appendWarningOnce resolution.plan.warnings
        (str "conflict_embedding_similarity_skipped")
      degraded := true } }

/-- The action of a fact that does not conflict, which similar embeddings may turn into
`supersede`. An adapter that throws leaves a warning. -/
def Resolution.assisted (resolution : Resolution) (assist : Option (Bytes → Bytes → Except Thrown Bool))
    (existing candidate : MemoryFact) : Except Thrown (Resolution × ConflictAction) :=
  match assist with
  | none => .ok (resolution, .coexist)
  | some similar => do
    if ← isEmbeddingAssistCandidate existing candidate then
      match similar (existing.factText.getD []) (candidate.factText.getD []) with
      | .error _ => pure (resolution.embeddingSkipped, .coexist)
      | .ok reached =>
        if reached && decide (confidenceOrZero existing < confidenceOrZero candidate) then
          pure (resolution, .supersede)
        else pure (resolution, .coexist)
    else pure (resolution, .coexist)

def conflictRecord (existing candidate : MemoryFact) (action : ConflictAction)
    (semanticConflict : Bool) : ConflictRecord :=
  let confidenceDelta := confidenceOrZero candidate - confidenceOrZero existing
  { newFactId := candidate.factId.getD []
    existingFactId := existing.factId.getD []
    action
    reason := buildReason action confidenceDelta semanticConflict
    confidenceDelta }

/-- The record of one fact and the flag that its action raises. -/
def Resolution.add (resolution : Resolution) (existing : MemoryFact) (record : ConflictRecord) :
    Resolution :=
  let resolution := { resolution with plan :=
    { resolution.plan with conflictRecords := resolution.plan.conflictRecords ++ [record] } }
  match record.action with
  | .reject => { resolution with sawReject := true }
  | .supersede =>
    if resolution.highestSupersededConfidence < confidenceOrZero existing then
      { resolution with
        sawSupersede := true
        highestSupersededConfidence := confidenceOrZero existing
        plan := { resolution.plan with supersedeTargetId := existing.factId } }
    else { resolution with sawSupersede := true }
  | .accept | .coexist => { resolution with sawCoexist := true }

def resolveFact (environment : Environment) (candidate : MemoryFact) (resolution : Resolution)
    (existing : MemoryFact) : Except Thrown Resolution := do
  let semanticConflict ← isSemanticallyConflicting existing candidate
  let (resolution, action) ←
    if semanticConflict then pure (resolution, determineAction existing candidate)
    else resolution.assisted environment.assist existing candidate
  pure (resolution.add existing (conflictRecord existing candidate action semanticConflict))

def Resolution.finish (resolution : Resolution) : ConflictResolutionPlan :=
  if resolution.sawReject then { resolution.plan with action := .reject }
  else if resolution.sawSupersede then { resolution.plan with action := .supersede }
  else if resolution.sawCoexist then { resolution.plan with action := .coexist }
  else resolution.plan

def conflictCheckSkipped : ConflictResolutionPlan :=
  { warnings := [str "conflict_check_skipped"], degraded := true }

def resolve (environment : Environment) (candidate : FactCandidate) (sessionId : Bytes) :
    Except Thrown ConflictResolutionPlan :=
  match candidate.fact.factText with
  | none => .ok {}
  | some factText =>
    if sessionId.isEmpty || factText.isEmpty then .ok {}
    else
      match environment.findRelatedFacts sessionId candidate.fact.factType factText with
      | .error _ => .ok conflictCheckSkipped
      | .ok relatedFacts =>
        if relatedFacts.isEmpty then .ok {}
        else do
          let resolution ← relatedFacts.foldlM (resolveFact environment candidate.fact) {}
          pure resolution.finish

/-!
## When reading the number of a text throws

Only the first run of digits is read as a number: a second run ends the scan before it is read.
-/

def firstDigitRun (text : Bytes) : Bytes :=
  (text.dropWhile fun ch => !isDigit ch).takeWhile isDigit

/-- The first run of digits, if there is one, is no more than the greatest `long long`. -/
def FirstRunFits (text : Bytes) : Prop := digitsValue (firstDigitRun text) < 2 ^ 63

variable (ch : Byte) (scan : NumberScan) (existingText digits text rest candidateText : Bytes)

theorem firstDigitRun_digit (h : isDigit ch = true) :
    firstDigitRun (ch :: rest) = ch :: rest.takeWhile isDigit := by
  simp [firstDigitRun, h]

theorem firstDigitRun_other (h : isDigit ch = false) :
    firstDigitRun (ch :: rest) = firstDigitRun rest := by
  simp [firstDigitRun, h]

theorem stoll_digits (hne : digits ≠ [])
    (hdigits : ∀ ch ∈ digits, isDigit ch = true) :
    stoll digits =
      if 2 ^ 63 ≤ digitsValue digits then none else some (Int64.ofInt (digitsValue digits)) := by
  unfold stoll
  rw [scanNumber_digits digits hdigits]
  have hsome : digits.isEmpty = false := by simpa using hne
  simp only [hsome, Bool.false_eq_true, if_false]
  by_cases hlarge : 2 ^ 63 ≤ digitsValue digits
  · rw [if_pos hlarge, if_pos (by omega)]
  · rw [if_neg hlarge, if_neg (by omega)]

theorem flushDigits_first (hne : digits ≠ [])
    (hdigits : ∀ ch ∈ digits, isDigit ch = true) :
    NumberScan.flushDigits { value := none, digits } =
      if 2 ^ 63 ≤ digitsValue digits then .error .outOfRange
      else .ok (some { value := some (Int64.ofInt (digitsValue digits)) }) := by
  unfold NumberScan.flushDigits
  rw [stoll_digits digits hne hdigits]
  by_cases hlarge : 2 ^ 63 ≤ digitsValue digits
  · rw [if_pos hlarge, if_pos hlarge]
    simp [hne]
  · rw [if_neg hlarge, if_neg hlarge]
    simp [hne]

theorem scanNumbers_after (value : Int64) (digits text : Bytes) :
    ∃ number, scanNumbers { value := some value, digits } text = .ok number := by
  induction text generalizing digits with
  | nil =>
    unfold scanNumbers NumberScan.flushDigits
    split <;> simp [pure, Except.pure]
  | cons ch rest ih =>
    unfold scanNumbers
    split
    · exact ih (digits ++ [ch])
    · unfold NumberScan.flushDigits
      split
      · exact ih digits
      · simp [pure, Except.pure]

theorem scanNumbers_run (hne : digits ≠ [])
    (hdigits : ∀ ch ∈ digits, isDigit ch = true) :
    (∃ number, scanNumbers { value := none, digits } text = .ok number) ↔
      digitsValue (digits ++ text.takeWhile isDigit) < 2 ^ 63 := by
  induction text generalizing digits with
  | nil =>
    unfold scanNumbers
    rw [flushDigits_first digits hne hdigits, List.takeWhile_nil, List.append_nil]
    by_cases hlarge : 2 ^ 63 ≤ digitsValue digits
    · rw [if_pos hlarge]
      exact iff_of_false (by simp [bind, Except.bind]) (Nat.not_lt.mpr hlarge)
    · rw [if_neg hlarge]
      exact iff_of_true ⟨_, rfl⟩ (Nat.lt_of_not_le hlarge)
  | cons ch rest ih =>
    unfold scanNumbers
    split
    next h =>
      rw [ih (digits ++ [ch]) (by simp) (by simpa [or_imp, forall_and, h] using hdigits)]
      simp [h]
    next h =>
      rw [flushDigits_first digits hne hdigits, List.takeWhile_cons_of_neg h, List.append_nil]
      by_cases hlarge : 2 ^ 63 ≤ digitsValue digits
      · rw [if_pos hlarge]
        exact iff_of_false (by simp [bind, Except.bind]) (Nat.not_lt.mpr hlarge)
      · rw [if_neg hlarge]
        exact iff_of_true (scanNumbers_after _ [] rest) (Nat.lt_of_not_le hlarge)

theorem extractSingleNumber_ok_iff :
    (∃ number, extractSingleNumber text = .ok number) ↔ FirstRunFits text := by
  unfold extractSingleNumber FirstRunFits
  induction text with
  | nil => simp [scanNumbers, NumberScan.flushDigits, pure, Except.pure, firstDigitRun, digitsValue]
  | cons ch rest ih =>
    cases h : isDigit ch with
    | true =>
      rw [firstDigitRun_digit ch rest h, scanNumbers, if_pos h]
      exact scanNumbers_run [ch] rest (by simp) (by simpa using h)
    | false =>
      rw [firstDigitRun_other ch rest h, ← ih, scanNumbers, h]
      rfl

theorem stops_flushDigits : Stops (· = .outOfRange) scan.flushDigits := by
  unfold NumberScan.flushDigits
  split
  · exact stops_ok _ _
  split
  · exact stops_ok _ _
  split
  · exact stops_ok _ _
  · intro stop h
    simpa using h.symm

theorem stops_scanNumbers :
    Stops (· = .outOfRange) (scanNumbers scan text) := by
  induction text generalizing scan with
  | nil =>
    unfold scanNumbers
    apply stops_bind _ _ _ (stops_flushDigits scan)
    intro flushed _
    cases flushed <;> exact stops_ok _ _
  | cons ch rest ih =>
    unfold scanNumbers
    split
    · exact ih _
    apply stops_bind _ _ _ (stops_flushDigits scan)
    intro flushed _
    cases flushed with
    | some next => exact ih next
    | none => exact stops_ok _ _

/-- The number of a text is read without an exception just when its first run of digits fits. -/
theorem extractSingleNumber_cases :
    (∃ number, extractSingleNumber text = .ok number ∧ FirstRunFits text) ∨
      (extractSingleNumber text = .error .outOfRange ∧ ¬ FirstRunFits text) := by
  have hok := extractSingleNumber_ok_iff text
  cases h : extractSingleNumber text with
  | ok number =>
    left
    exact ⟨number, rfl, hok.mp ⟨number, h⟩⟩
  | error stop =>
    right
    have hstop := stops_scanNumbers {} text stop h
    refine ⟨by rw [hstop], fun hfits => ?_⟩
    obtain ⟨number, hnumber⟩ := hok.mpr hfits
    rw [h] at hnumber
    cases hnumber

theorem numbersDiffer_ok_iff :
    (∃ answer, numbersDiffer existingText candidateText = .ok answer) ↔
      FirstRunFits existingText ∧ FirstRunFits candidateText := by
  unfold numbersDiffer
  rcases extractSingleNumber_cases existingText with ⟨m, hm, hmfits⟩ | ⟨hm, hmfits⟩ <;>
    rcases extractSingleNumber_cases candidateText with ⟨n, hn, hnfits⟩ | ⟨hn, hnfits⟩ <;>
      simp [hm, hn, hmfits, hnfits, bind, Except.bind, pure, Except.pure]

theorem numbersDiffer_comm :
    numbersDiffer existingText candidateText = numbersDiffer candidateText existingText := by
  unfold numbersDiffer
  rcases extractSingleNumber_cases existingText with ⟨m, hm, -⟩ | ⟨hm, -⟩ <;>
    rcases extractSingleNumber_cases candidateText with ⟨n, hn, -⟩ | ⟨hn, -⟩ <;>
      simp only [hm, hn, bind, Except.bind, pure, Except.pure]
  rw [Bool.and_comm n.isSome, bne_comm]

theorem numbersDiffer_self (answer : Bool)
    (h : numbersDiffer text text = .ok answer) : answer = false := by
  unfold numbersDiffer at h
  rcases extractSingleNumber_cases text with ⟨n, hn, -⟩ | ⟨hn, -⟩
  · simpa [hn, bind, Except.bind, pure, Except.pure] using h.symm
  · simp [hn, bind, Except.bind] at h

end Dasall.Memory.Conflict
