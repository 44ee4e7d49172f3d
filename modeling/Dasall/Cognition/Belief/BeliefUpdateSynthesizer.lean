import Dasall.Cognition.Reflection.ReflectionEngine
import Dasall.Lib.Markers

/-! # Belief updates from a reflection, and what they retract -/

open Dasall.Contracts Dasall.Lib.Text Dasall.Lib.Ascii Dasall.Lib.Separated Dasall.Lib.Markers
  Dasall.Lib.Unique Dasall.Cognition.Reflection

namespace Dasall.Cognition.Belief

inductive BeliefDeltaKind
  | upsert
  | retract
deriving DecidableEq

inductive BeliefMergeMode
  | append
  | merge
  | replace
deriving DecidableEq

/-- A delta: what is said (a fact, a hypothesis, an assumption or a reference) and what becomes of
it. -/
structure Delta where
  item : Bytes
  deltaKind : BeliefDeltaKind := .upsert
deriving DecidableEq

structure BeliefUpdateHint where
  confirmedFactsDelta : List Delta := []
  hypothesesDelta : List Delta := []
  assumptionsDelta : List Delta := []
  evidenceRefsDelta : List Delta := []
  missingEvidenceRefs : List Bytes := []
  confidenceHint : Option FloatValue := none
  mergeMode : BeliefMergeMode := .append
deriving DecidableEq

def trimCopy (value : Bytes) : Bytes := (value.dropWhile isSpace).rdropWhile isSpace

def splitSemicolonList (value : Bytes) : List Bytes :=
  ((value.splitOn 59).map trimCopy).filter fun token => !token.isEmpty

def assumptionsMarker : Bytes := str "invalidated assumptions:"

def failureSourceMarker : Bytes := str "; failure_source="

def parseInvalidatedAssumptions (rationale : Option Bytes) : List Bytes :=
  match rationale with
  | none => []
  | some rationale =>
    match findFirst assumptionsMarker (lower rationale) with
    | none => []
    | some place =>
      let suffix := rationale.drop (place + assumptionsMarker.length)
      splitSemicolonList (before failureSourceMarker suffix)

/-- `std::clamp` on a value as the guards read it. -/
def clampValue (value : FloatValue) : FloatValue :=
  if value.lt 0 then .finite 0 else if value.gt 1 then .finite 1 else value

/-- One reference of `normalize_evidence_refs`. -/
def normalizeEvidenceRef (normalized : List Delta) (delta : Delta) : List Delta :=
  let evidenceRef := trimCopy delta.item
  if evidenceRef.isEmpty then normalized
  else if normalized.any fun probe => probe.item == evidenceRef then
    if delta.deltaKind = .retract then
      normalized.map fun probe =>
        if probe.item = evidenceRef then { probe with deltaKind := .retract } else probe
    else normalized
  else normalized ++ [{ item := evidenceRef, deltaKind := delta.deltaKind }]

def normalizeEvidenceRefs (hint : BeliefUpdateHint) : BeliefUpdateHint :=
  let normalizedRefs := hint.evidenceRefsDelta.foldl normalizeEvidenceRef []
  { hint with
    evidenceRefsDelta := normalizedRefs
    missingEvidenceRefs :=
      addAll [] ((hint.missingEvidenceRefs.map trimCopy).filter fun missing =>
        !missing.isEmpty && !(normalizedRefs.any fun delta => delta.item == missing)) }

def dropUnverifiedDelta (hint : BeliefUpdateHint) : BeliefUpdateHint :=
  if hint.evidenceRefsDelta.isEmpty then
    { hint with confirmedFactsDelta := [], hypothesesDelta := [], assumptionsDelta := [] }
  else hint

/-- The id of the latest observation, when it has one. -/
def observationRefs (latestObservation : Option Observation) : List Bytes :=
  ((latestObservation.bind fun obs => obs.observationId).filter fun id => !id.isEmpty).toList

/-- The hypotheses and the merge mode that a kind of decision brings. -/
def kindUpdate : Option ReflectionDecisionKind → List Delta × BeliefMergeMode
  | some .replan => ([{ item := str "reflection:replan" }], .replace)
  | some .retryStep => ([{ item := str "reflection:retry_step" }], .merge)
  | some .abortSafe => ([{ item := str "reflection:abort_safe" }], .merge)
  | _ => ([], .append)

/-- An invalidated assumption is passed over when the belief state names assumptions and this is none
of them. -/
def isKnown (beliefState : BeliefState) (assumption : Bytes) : Bool :=
  beliefState.assumptions.all fun known => known.contains assumption

def synthesizeFromReflection (decision : ReflectionDecision) (beliefState : BeliefState)
    (latestObservation : Option Observation) : BeliefUpdateHint :=
  let evidenceRefs := decision.relevantObservationRefs.getD [] ++ observationRefs latestObservation
  let retracted := (parseInvalidatedAssumptions decision.rationale).filter (isKnown beliefState)
  dropUnverifiedDelta (normalizeEvidenceRefs
    { hypothesesDelta := (kindUpdate decision.decisionKind).1
      assumptionsDelta :=
        addAll [] (retracted.map fun assumption => { item := assumption, deltaKind := .retract })
      evidenceRefsDelta := addAll [] (evidenceRefs.map fun ref => { item := ref })
      confidenceHint := decision.confidence.map clampValue
      mergeMode := (kindUpdate decision.decisionKind).2 })

/-! ## Tokens of a list -/

variable (value text : Bytes) (config : CognitionConfig) (decision : ReflectionDecision)
  (request : ReflectionAnalysisRequest) (nodeId : Option Bytes) (found : List Bytes)
  (beliefState : BeliefState) (assumption source : Bytes) (latestObservation : Option Observation)

theorem trimCopy_space : trimCopy (32 :: value) = trimCopy value := by
  simp [trimCopy, isSpace]

theorem mem_of_mem_trimCopy (b : Byte) (h : b ∈ trimCopy value) : b ∈ value :=
  (List.dropWhile_sublist _).subset ((List.rdropWhile_prefix _ _).subset h)

theorem trimCopy_trimCopy : trimCopy (trimCopy value) = trimCopy value := by
  have hfront : (trimCopy value).dropWhile isSpace = trimCopy value := by
    rcases htrim : trimCopy value with _ | ⟨b, rest⟩
    · rfl
    · have hprefix : b :: rest <+: value.dropWhile isSpace := htrim ▸ List.rdropWhile_prefix _ _
      have hhead : (value.dropWhile isSpace).head? = some b := by
        obtain ⟨more, hmore⟩ := hprefix
        rw [← hmore]
        rfl
      have hletter := List.head?_dropWhile_not isSpace value
      rw [hhead] at hletter
      exact List.dropWhile_cons_of_neg (by simpa using hletter)
  have hback : (trimCopy value).rdropWhile isSpace = trimCopy value :=
    List.rdropWhile_idempotent isSpace (value.dropWhile isSpace)
  rw [trimCopy, hfront, hback]

theorem mem_splitSemicolonList (token : Bytes) (h : token ∈ splitSemicolonList value) :
    59 ∉ token ∧ trimCopy token = token := by
  unfold splitSemicolonList at h
  rw [List.mem_filter, List.mem_map] at h
  obtain ⟨⟨piece, hpiece, rfl⟩, -⟩ := h
  refine ⟨?_, trimCopy_trimCopy piece⟩
  intro hmem
  exact not_mem_of_mem_splitOn 59 value piece hpiece (mem_of_mem_trimCopy piece 59 hmem)

/-! ## The written list -/

/-- The key of the failure source as it stands behind a semicolon. -/
def failureSourceKey : Bytes := str " failure_source="

/-- The items up to the first, apart from the very first, that reads as the failure source. -/
def beforeCut : List Bytes → List Bytes
  | [] => []
  | first :: rest => first :: rest.takeWhile fun item => !(str "failure_source=").isPrefixOf item

/-- The text of an active node in a rationale, read as a list. -/
def activeNodeTokens (nodeId : Bytes) : List Bytes :=
  splitSemicolonList (before failureSourceMarker (str " active_node=" ++ nodeId))

theorem intercalate_blank (items : List Bytes) (hne : items ≠ []) :
    32 :: (str "; ").intercalate items = join 59 (items.map (32 :: ·)) := by
  have hsep : str "; " = [59, 32] := by decide
  rw [hsep]
  induction items with
  | nil => exact absurd rfl hne
  | cons first items ih =>
    rcases items with _ | ⟨second, rest⟩
    · simp [join]
    · rw [List.map_cons, List.map_cons, join_cons_cons, ← List.map_cons,
        ← ih (List.cons_ne_nil _ _)]
      simp [List.intercalate]

theorem takeWhile_append_stop {α : Type} (keep : α → Bool) (items rest : List α)
    (hrest : ∀ item ∈ rest.head?, keep item = false) :
    (items ++ rest).takeWhile keep = items.takeWhile keep := by
  induction items with
  | nil =>
    rcases rest with _ | ⟨item, rest⟩
    · rfl
    · exact List.takeWhile_cons_of_neg (by simpa using hrest item rfl)
  | cons item items ih => simp only [List.cons_append, List.takeWhile_cons, ih]

theorem failureSourceMarker_eq : failureSourceMarker = 59 :: failureSourceKey := by decide

theorem not_mem_failureSourceKey : 59 ∉ failureSourceKey := by decide

theorem pieces_before :
    (before failureSourceMarker text).splitOn 59 =
      (text.splitOn 59).take 1 ++
        (text.splitOn 59).tail.takeWhile fun piece => !failureSourceKey.isPrefixOf piece := by
  rw [failureSourceMarker_eq]
  exact splitOn_before 59 failureSourceKey text not_mem_failureSourceKey

theorem head_splitOn_keyed :
    ∀ piece ∈ (text.splitOn 59).head?, failureSourceKey.isPrefixOf piece =
      failureSourceKey.isPrefixOf text := by
  intro piece hpiece
  obtain ⟨rest, hrest⟩ := splitOn_eq_cons 59 text
  rw [hrest, List.head?_cons, Option.mem_some_iff] at hpiece
  rw [← hpiece, Bool.eq_iff_iff, List.isPrefixOf_iff_prefix, List.isPrefixOf_iff_prefix]
  exact prefix_takeWhile_iff 59 failureSourceKey text not_mem_failureSourceKey

/-- The pieces of the active node's text up to the failure source that it may hold itself. -/
theorem activeNode_pieces (nodeId : Bytes) :
    ((str " active_node=" ++ nodeId).splitOn 59).takeWhile
        (fun piece => !failureSourceKey.isPrefixOf piece) =
      (before failureSourceMarker (str " active_node=" ++ nodeId)).splitOn 59 := by
  have hkeyed := head_splitOn_keyed (str " active_node=" ++ nodeId)
  rw [pieces_before]
  obtain ⟨rest, hrest⟩ := splitOn_eq_cons 59 (str " active_node=" ++ nodeId)
  rw [hrest] at hkeyed ⊢
  have hfirst := hkeyed _ rfl
  have hother : failureSourceKey.isPrefixOf (str " active_node=" ++ nodeId) = false := rfl
  rw [hother] at hfirst
  rw [List.takeWhile_cons_of_pos (by rw [hfirst]; rfl)]
  rfl

/-- What follows the last item: the active node, if there is one, and the failure source. -/
def tailPieces (nodeId : Option Bytes) (source : Bytes) : List Bytes :=
  (match nodeId with
    | some nodeId => (str " active_node=" ++ nodeId).splitOn 59
    | none => []) ++ (failureSourceKey ++ source).splitOn 59

theorem takeWhile_tailPieces :
    (tailPieces nodeId source).takeWhile (fun piece => !failureSourceKey.isPrefixOf piece) =
      match nodeId with
      | some nodeId => (before failureSourceMarker (str " active_node=" ++ nodeId)).splitOn 59
      | none => [] := by
  have hstop : ∀ piece ∈ ((failureSourceKey ++ source).splitOn 59).head?,
      (!failureSourceKey.isPrefixOf piece) = false := by
    intro piece hpiece
    rw [head_splitOn_keyed _ piece hpiece]
    simp
  unfold tailPieces
  rw [takeWhile_append_stop _ _ _ hstop]
  rcases nodeId with _ | nodeId
  · rfl
  · exact activeNode_pieces nodeId

/-- What stands behind the marker, from the blank on. -/
def listText (found : List Bytes) (nodeId : Option Bytes) (source : Bytes) : Bytes :=
  32 :: (str "; ").intercalate found ++
    (match nodeId with
      | some nodeId => str "; active_node=" ++ nodeId
      | none => []) ++ failureSourceMarker ++ source

theorem splitOn_listText (nodeId : Option Bytes) (source : Bytes)
    (hne : found ≠ []) (hplain : ∀ item ∈ found, 59 ∉ item) :
    (listText found nodeId source).splitOn 59 =
      found.map (32 :: ·) ++ tailPieces nodeId source := by
  have hfound : (join 59 (found.map (32 :: ·))).splitOn 59 = found.map (32 :: ·) := by
    apply List.splitOn_intercalate
    · intro piece hpiece
      obtain ⟨item, hitem, rfl⟩ := List.mem_map.mp hpiece
      rw [List.mem_cons, not_or]
      exact ⟨by decide, hplain item hitem⟩
    · simpa using hne
  have hactive : str "; active_node=" = 59 :: str " active_node=" := by decide
  unfold listText tailPieces
  rw [intercalate_blank found hne, failureSourceMarker_eq, hactive]
  rcases nodeId with _ | nodeId
  · dsimp only
    rw [List.append_nil, List.nil_append, List.append_assoc, List.cons_append,
      List.splitOn_append_cons_self, hfound]
  · dsimp only
    rw [List.append_assoc, List.append_assoc, List.cons_append, List.cons_append,
      List.splitOn_append_cons_self, hfound, List.cons_append, List.splitOn_append_cons_self]

/-- The list is read back up to the first item that reads as the failure source; where no item does,
the active node is read as more items. -/
theorem splitSemicolonList_listText (nodeId : Option Bytes) (source : Bytes)
    (hne : found ≠ []) (hitems : ∀ item ∈ found, item ≠ [])
    (hplain : ∀ item ∈ found, 59 ∉ item ∧ trimCopy item = item) :
    splitSemicolonList (before failureSourceMarker (listText found nodeId source)) =
      beforeCut found ++
        if beforeCut found = found then (nodeId.map activeNodeTokens).getD [] else [] := by
  obtain ⟨first, rest, rfl⟩ := List.exists_cons_of_ne_nil hne
  have hkeep : ∀ items : List Bytes,
      (∀ item ∈ items, item ∈ first :: rest) →
      ((items.map (32 :: ·)).map trimCopy).filter (fun token => !token.isEmpty) = items := by
    intro items hmem
    have htrim : (items.map (32 :: ·)).map trimCopy = items := by
      rw [List.map_map]
      conv_rhs => rw [← List.map_id items]
      apply List.map_congr_left
      intro item hitem
      exact (trimCopy_space item).trans (hplain item (hmem item hitem)).2
    rw [htrim, List.filter_eq_self]
    intro item hitem
    simpa using hitems item (hmem item hitem)
  have hmapped : (rest.map (32 :: ·)).takeWhile (fun piece => !failureSourceKey.isPrefixOf piece) =
      (rest.takeWhile fun item => !(str "failure_source=").isPrefixOf item).map (32 :: ·) := by
    rw [List.takeWhile_map]
    rfl
  have hhead : (((32 :: first) :: rest.map (32 :: ·)) ++ tailPieces nodeId source).take 1 =
      [first].map (32 :: ·) := rfl
  have htail : (((32 :: first) :: rest.map (32 :: ·)) ++ tailPieces nodeId source).tail =
      rest.map (32 :: ·) ++ tailPieces nodeId source := rfl
  unfold splitSemicolonList
  rw [pieces_before, splitOn_listText _ nodeId source hne fun item hitem => (hplain item hitem).1,
    List.map_cons, hhead, htail]
  by_cases hcut : (rest.takeWhile fun item => !(str "failure_source=").isPrefixOf item) = rest
  · rw [hcut] at hmapped
    have hrun : (rest.map (32 :: ·) ++ tailPieces nodeId source).takeWhile
        (fun piece => !failureSourceKey.isPrefixOf piece) =
        rest.map (32 :: ·) ++ (tailPieces nodeId source).takeWhile
          fun piece => !failureSourceKey.isPrefixOf piece := by
      rw [List.takeWhile_append, if_pos (by rw [hmapped])]
    have hbefore : beforeCut (first :: rest) = first :: rest := by rw [beforeCut, hcut]
    rw [hrun, takeWhile_tailPieces, hbefore, if_pos rfl, ← List.append_assoc, ← List.map_append,
      List.map_append, List.filter_append, List.singleton_append, hkeep _ fun _ h => h]
    rcases nodeId with _ | nodeId <;> rfl
  · have hrun : (rest.map (32 :: ·) ++ tailPieces nodeId source).takeWhile
        (fun piece => !failureSourceKey.isPrefixOf piece) =
        (rest.takeWhile fun item => !(str "failure_source=").isPrefixOf item).map (32 :: ·) := by
      rw [List.takeWhile_append, hmapped, if_neg]
      intro hlength
      rw [List.length_map, List.length_map] at hlength
      exact hcut ((List.takeWhile_prefix _).eq_of_length hlength)
    have hbefore : beforeCut (first :: rest) ≠ first :: rest := by
      intro h
      exact hcut (List.cons.inj h).2
    rw [hrun, if_neg hbefore, List.append_nil, ← List.map_append, List.singleton_append, beforeCut]
    apply hkeep
    intro item hitem
    rcases List.mem_cons.mp hitem with rfl | hmem
    · exact List.mem_cons_self
    · exact List.mem_cons_of_mem _ ((List.takeWhile_prefix _).subset hmem)

/-! ## The list that a reflection writes -/

theorem parse_rationale (rest : Bytes) :
    parseInvalidatedAssumptions
        (some (str "reflection detected invalidated assumptions: " ++ rest)) =
      splitSemicolonList (before failureSourceMarker (32 :: rest)) := by
  have hfind : findFirst assumptionsMarker
      (lower (str "reflection detected invalidated assumptions: " ++ rest)) = some 20 := by
    rw [lower_append]
    rfl
  unfold parseInvalidatedAssumptions
  simp only [hfind]
  rfl

theorem analyze_of_replan (hreplan : (analyze config request).decisionKind = some .replan) :
    analyze config request = projectedDecision config request := by
  rw [analyze_eq]
  apply validateReflectionContract_of_accepted
  by_contra h
  rw [analyze_eq, (validateReflectionContract_of_not_accepted request _ h).1] at hreplan
  exact absurd hreplan (by decide)

/-- A decision to replan because of fallen assumptions carries them in its rationale. -/
theorem analyze_rationale (hfound : detectAssumptionInvalidations request ≠ [])
    (hreplan : (analyze config request).decisionKind = some .replan) :
    parseInvalidatedAssumptions (analyze config request).rationale =
      splitSemicolonList (before failureSourceMarker
        (listText (detectAssumptionInvalidations request) (firstActiveNodeId request)
          (classifyFailureSource request).failureSource)) := by
  have hprojected : projected config request =
      { decisionKind := .replan
        confidence := clamp01 (Lib.Floats.stdMax (config.thresholds.replanHint + 0.15)
          (classifyFailureSource request).recoverabilityScore)
        hintRef := str "hint:reflection:replan"
        rationale := invalidationRationale (detectAssumptionInvalidations request) } := by
    simp [projected, projectKind, hfound]
  have hrationale : (projectedDecision config request).rationale =
      some ((projected config request).rationale ++ rationaleSuffix request
        (classifyFailureSource request)
        (evaluateGoalGap request (classifyFailureSource request)
          (detectAssumptionInvalidations request))
        (projected config request).decisionKind) := rfl
  rw [analyze_of_replan config request hreplan, hrationale, hprojected, invalidationRationale,
    List.append_assoc, parse_rationale]
  congr 2
  unfold listText rationaleSuffix
  rcases firstActiveNodeId request with _ | nodeId <;> simp [failureSourceMarker]

/-! ## What is retracted -/

theorem normalizeEvidenceRef_ne_nil (normalized : List Delta) (delta : Delta)
    (h : normalized ≠ []) : normalizeEvidenceRef normalized delta ≠ [] := by
  unfold normalizeEvidenceRef
  simp only
  split_ifs <;> simp [h]

theorem foldl_normalizeEvidenceRef_eq_nil (refs normalized : List Delta) :
    refs.foldl normalizeEvidenceRef normalized = [] ↔
      normalized = [] ∧ ∀ delta ∈ refs, trimCopy delta.item = [] := by
  induction refs generalizing normalized with
  | nil => simp
  | cons delta refs ih =>
    rw [List.foldl_cons, ih, List.forall_mem_cons]
    by_cases hblank : trimCopy delta.item = []
    · simp [normalizeEvidenceRef, hblank]
    · have hkept : normalizeEvidenceRef normalized delta ≠ [] := by
        by_cases hnil : normalized = []
        · simp [normalizeEvidenceRef, hblank, hnil]
        · exact normalizeEvidenceRef_ne_nil normalized delta hnil
      simp [hkept, hblank]

def evidenceOf (decision : ReflectionDecision) (latestObservation : Option Observation) :
    List Bytes :=
  decision.relevantObservationRefs.getD [] ++ observationRefs latestObservation

theorem evidence_eq_nil_iff (refs : List Bytes) :
    (addAll [] (refs.map fun ref => ({ item := ref } : Delta))).foldl normalizeEvidenceRef [] = [] ↔
      ∀ ref ∈ refs, trimCopy ref = [] := by
  rw [foldl_normalizeEvidenceRef_eq_nil]
  simp [mem_addAll]

theorem synthesize_retracts :
    (synthesizeFromReflection decision beliefState latestObservation).assumptionsDelta =
      if ∀ ref ∈ evidenceOf decision latestObservation, trimCopy ref = [] then []
      else (addAll [] ((parseInvalidatedAssumptions decision.rationale).filter
        (isKnown beliefState))).map fun assumption =>
          { item := assumption, deltaKind := .retract } := by
  have hinjective : Function.Injective fun assumption : Bytes =>
      ({ item := assumption, deltaKind := .retract } : Delta) := by
    intro first second h
    exact congrArg Delta.item h
  rw [← addAll_map _ hinjective]
  unfold synthesizeFromReflection dropUnverifiedDelta normalizeEvidenceRefs
  simp only [List.isEmpty_iff, evidence_eq_nil_iff, evidenceOf, List.map_nil]
  split_ifs <;> rfl

/-! ## What comes back -/

/-- The hint retracts the assumptions that were found, each once, and does nothing else to any. -/
structure RetractsExactly (hint : BeliefUpdateHint) (found : List Bytes) : Prop where
  once : (hint.assumptionsDelta.map Delta.item).Nodup
  same : ∀ assumption, assumption ∈ hint.assumptionsDelta.map Delta.item ↔ assumption ∈ found
  retracts : ∀ delta ∈ hint.assumptionsDelta, delta.deltaKind = .retract

/-- What the assumptions, the active node's id and the evidence have to be like for the rationale to
carry the assumptions. -/
structure Survives (request : ReflectionAnalysisRequest) (latestObservation : Option Observation)
    (found : List Bytes) : Prop where
  /-- No assumption holds a semicolon or a blank at its ends. -/
  plain : ∀ assumption ∈ found, 59 ∉ assumption ∧ trimCopy assumption = assumption
  /-- Each is written before the first that reads as the failure source. -/
  reached : ∀ assumption ∈ found, assumption ∈ beforeCut found
  /-- The active node's text does not read as another assumption. -/
  activeNode : beforeCut found = found → ∀ nodeId ∈ firstActiveNodeId request,
    ∀ token ∈ activeNodeTokens nodeId,
      token ∈ request.beliefState.assumptions.getD [] → token ∈ found
  /-- One of the observations has an id that is not blank. -/
  verified : ∃ ref ∈ request.latestObservation.observationId.toList ++
    observationRefs latestObservation, trimCopy ref ≠ []

theorem mem_found (h : assumption ∈ detectAssumptionInvalidations request) :
    assumption ≠ [] ∧ assumption ∈ request.beliefState.assumptions.getD [] := by
  unfold detectAssumptionInvalidations at h
  simp only at h
  split at h
  · rw [List.mem_filter, Bool.and_eq_true] at h
    exact ⟨by simpa using h.2.1, h.1⟩
  · simp at h

theorem isKnown_iff (hfound : detectAssumptionInvalidations request ≠ []) :
    isKnown request.beliefState assumption = true ↔
      assumption ∈ request.beliefState.assumptions.getD [] := by
  obtain ⟨first, rest, hfirst⟩ := List.exists_cons_of_ne_nil hfound
  have hmem := (mem_found request first (by rw [hfirst]; exact List.mem_cons_self)).2
  unfold isKnown
  rcases hassumptions : request.beliefState.assumptions with _ | known
  · simp [hassumptions] at hmem
  · simp

theorem tokens_same_iff (hfound : detectAssumptionInvalidations request ≠ []) :
    (∀ assumption, (assumption ∈ splitSemicolonList (before failureSourceMarker
        (listText (detectAssumptionInvalidations request) (firstActiveNodeId request) source)) ∧
        assumption ∈ request.beliefState.assumptions.getD []) ↔
          assumption ∈ detectAssumptionInvalidations request) ↔
      (∀ assumption ∈ detectAssumptionInvalidations request,
        59 ∉ assumption ∧ trimCopy assumption = assumption) ∧
      (∀ assumption ∈ detectAssumptionInvalidations request,
        assumption ∈ beforeCut (detectAssumptionInvalidations request)) ∧
      (beforeCut (detectAssumptionInvalidations request) = detectAssumptionInvalidations request →
        ∀ nodeId ∈ firstActiveNodeId request, ∀ token ∈ activeNodeTokens nodeId,
          token ∈ request.beliefState.assumptions.getD [] →
            token ∈ detectAssumptionInvalidations request) := by
  have hread := splitSemicolonList_listText _ (firstActiveNodeId request) source hfound
    fun item hitem => (mem_found request item hitem).1
  have hheld := fun item hitem => (mem_found request item hitem).2
  generalize detectAssumptionInvalidations request = found at *
  constructor
  · intro hsame
    have hplain : ∀ assumption ∈ found, 59 ∉ assumption ∧ trimCopy assumption = assumption := by
      intro assumption hmem
      exact mem_splitSemicolonList _ _ ((hsame assumption).mpr hmem).1
    rw [hread hplain] at hsame
    refine ⟨hplain, ?_, ?_⟩
    · intro assumption hmem
      have hboth := ((hsame assumption).mpr hmem).1
      split_ifs at hboth with hcut
      · exact hcut.symm ▸ hmem
      · simpa using hboth
    · intro hcut nodeId hnode token htoken hknown
      apply (hsame token).mp
      rw [if_pos hcut, List.mem_append]
      refine ⟨.inr ?_, hknown⟩
      rw [Option.mem_def.mp hnode]
      exact htoken
  · rintro ⟨hplain, hreached, hactive⟩ assumption
    have hbefore : ∀ item ∈ beforeCut found, item ∈ found := by
      intro item hitem
      rcases found with _ | ⟨first, rest⟩
      · exact hitem
      · rcases List.mem_cons.mp hitem with rfl | hrest
        · exact List.mem_cons_self
        · exact List.mem_cons_of_mem _ ((List.takeWhile_prefix _).subset hrest)
    rw [hread hplain]
    constructor
    · rintro ⟨hmem, hknown⟩
      rcases List.mem_append.mp hmem with hitem | htoken
      · exact hbefore assumption hitem
      · split_ifs at htoken with hcut
        · rcases hnode : firstActiveNodeId request with _ | nodeId
          · simp [hnode] at htoken
          · rw [hnode] at htoken
            exact hactive hcut nodeId hnode assumption htoken hknown
        · simp at htoken
    · intro hmem
      exact ⟨List.mem_append_left _ (hreached assumption hmem), hheld assumption hmem⟩

theorem evidenceOf_analyze (observationId : Bytes)
    (hid : request.latestObservation.observationId = some observationId) (hne : observationId ≠ [])
    (hreplan : (analyze config request).decisionKind = some .replan) :
    evidenceOf (analyze config request) latestObservation =
      request.latestObservation.observationId.toList ++ observationRefs latestObservation := by
  have hrefs : (projectedDecision config request).relevantObservationRefs =
      (request.latestObservation.observationId.filter fun id => !id.isEmpty).map fun id => [id] :=
    rfl
  rw [evidenceOf, analyze_of_replan config request hreplan, hrefs, hid]
  simp [Option.filter_some, hne]

theorem retractsExactly_iff (found : List Bytes) (hfound : found ≠ []) :
    RetractsExactly (synthesizeFromReflection decision beliefState latestObservation) found ↔
      (∃ ref ∈ evidenceOf decision latestObservation, trimCopy ref ≠ []) ∧
        ∀ assumption, (assumption ∈ parseInvalidatedAssumptions decision.rationale ∧
          isKnown beliefState assumption = true) ↔ assumption ∈ found := by
  have hretracts := synthesize_retracts decision beliefState latestObservation
  by_cases hblank : ∀ ref ∈ evidenceOf decision latestObservation, trimCopy ref = []
  · rw [if_pos hblank] at hretracts
    obtain ⟨first, rest, rfl⟩ := List.exists_cons_of_ne_nil hfound
    apply iff_of_false
    · rintro ⟨-, hsame, -⟩
      have := (hsame first).mpr List.mem_cons_self
      simp [hretracts] at this
    · rintro ⟨⟨ref, href, hne⟩, -⟩
      exact hne (hblank ref href)
  · rw [if_neg hblank] at hretracts
    have hitems : (synthesizeFromReflection decision beliefState
        latestObservation).assumptionsDelta.map Delta.item =
        addAll [] ((parseInvalidatedAssumptions decision.rationale).filter (isKnown beliefState)) := by
      rw [hretracts, List.map_map]
      exact List.map_id _
    have hverified : ∃ ref ∈ evidenceOf decision latestObservation, trimCopy ref ≠ [] := by
      simpa using hblank
    constructor
    · rintro ⟨-, hsame, -⟩
      refine ⟨hverified, fun assumption => ?_⟩
      rw [← hsame, hitems, mem_addAll, List.mem_filter]
      simp
    · rintro ⟨-, hsame⟩
      refine ⟨?_, fun assumption => ?_, ?_⟩
      · rw [hitems]
        exact nodup_addAll _ _ List.nodup_nil
      · rw [← hsame, hitems, mem_addAll, List.mem_filter]
        simp
      · rw [hretracts]
        intro delta hdelta
        obtain ⟨assumption, -, rfl⟩ := List.mem_map.mp hdelta
        rfl

/-- The found assumptions come back from the rationale just when they survive it. -/
theorem retracts_iff_survives (config : CognitionConfig) (request : ReflectionAnalysisRequest)
    (latestObservation : Option Observation) (observationId : Bytes)
    (hid : request.latestObservation.observationId = some observationId) (hne : observationId ≠ [])
    (hfound : detectAssumptionInvalidations request ≠ [])
    (hreplan : (analyze config request).decisionKind = some .replan) :
    RetractsExactly (synthesizeFromReflection (analyze config request) request.beliefState
        latestObservation) (detectAssumptionInvalidations request) ↔
      Survives request latestObservation (detectAssumptionInvalidations request) := by
  have hsame := tokens_same_iff request (classifyFailureSource request).failureSource hfound
  rw [← analyze_rationale config request hfound hreplan] at hsame
  rw [retractsExactly_iff _ _ _ _ hfound,
    evidenceOf_analyze config request latestObservation observationId hid hne hreplan]
  simp only [isKnown_iff request _ hfound]
  rw [hsame]
  constructor
  · rintro ⟨hverified, hplain, hreached, hactive⟩
    exact ⟨hplain, hreached, hactive, hverified⟩
  · rintro ⟨hplain, hreached, hactive, hverified⟩
    exact ⟨hverified, hplain, hreached, hactive⟩

/-- A failed tool call that speaks against the one assumption that is held. -/
def fallenAssumption (assumption : Bytes) : ReflectionAnalysisRequest where
  requestId := str "r-1"
  goalContract := {}
  beliefState := { assumptions := some [assumption] }
  latestObservation :=
    { observationId := some (str "o-1"), source := some .toolExecution, success := some false
      payload := some (str "cache not available, store blocked"), createdAt := some 1, error := none
      toolCallId := none, workerTaskId := none, requestId := none, goalId := none
      durationMs := none }
  errorInfo := none
  activePlan := none
  riskTolerance := 0

theorem store_available_retracted :
    RetractsExactly (synthesizeFromReflection (analyze {} (fallenAssumption (str "store available")))
        (fallenAssumption (str "store available")).beliefState none) [str "store available"] := by
  have hfound : detectAssumptionInvalidations (fallenAssumption (str "store available")) =
      [str "store available"] := by decide +kernel
  have hsurvives : Survives (fallenAssumption (str "store available")) none
      [str "store available"] := by
    refine ⟨by decide, by decide, ?_, ⟨str "o-1", by decide, by decide⟩⟩
    intro _ nodeId hnode
    have hnone : firstActiveNodeId (fallenAssumption (str "store available")) = none := rfl
    rw [hnone] at hnode
    cases hnode
  have hiff := retracts_iff_survives {} (fallenAssumption (str "store available")) none (str "o-1")
    rfl (by decide) (by rw [hfound]; decide) (by decide +kernel)
  rw [hfound] at hiff
  exact hiff.mpr hsurvives

/-- An assumption with a semicolon in it is read back as two, neither of which is held. -/
theorem semicolon_assumption_lost :
    ¬ ∀ (config : CognitionConfig) (request : ReflectionAnalysisRequest)
        (latestObservation : Option Observation) (observationId : Bytes),
      request.latestObservation.observationId = some observationId → observationId ≠ [] →
      detectAssumptionInvalidations request ≠ [] →
      (analyze config request).decisionKind = some .replan →
      RetractsExactly (synthesizeFromReflection (analyze config request) request.beliefState
        latestObservation) (detectAssumptionInvalidations request) := by
  intro h
  have hfound :
      detectAssumptionInvalidations (fallenAssumption (str "store available; cache warm")) =
        [str "store available; cache warm"] := by decide +kernel
  have hretracts := h {} (fallenAssumption (str "store available; cache warm")) none (str "o-1") rfl
    (by decide) (by rw [hfound]; decide) (by decide +kernel)
  have hnone : (synthesizeFromReflection
      (analyze {} (fallenAssumption (str "store available; cache warm")))
      (fallenAssumption (str "store available; cache warm")).beliefState
      none).assumptionsDelta = [] := by
    decide +kernel
  have hmem := (hretracts.same (str "store available; cache warm")).mpr (by rw [hfound]; decide)
  rw [hnone] at hmem
  exact absurd hmem (by decide)

end Dasall.Cognition.Belief
