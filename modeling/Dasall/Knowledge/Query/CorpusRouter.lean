import Dasall.Knowledge.Index.CorpusCatalog

/-!
# The corpus router

Filters the catalog by what the query asks for, picks a retrieval mode for what is left, and
narrows the corpora to those that support it.
-/

open Dasall.Knowledge.Index Dasall.Lib.Text

namespace Dasall.Knowledge.Query

structure RetrievalPlan where
  mode : RetrievalMode
  corpusIds : List Bytes
  sparseTopK : UInt64
  denseTopK : UInt64
  allowPartialResults : Bool
  allowStaleSnapshot : Bool
  maxProjectionItems : UInt64
  routeReasonCodes : List Bytes
deriving DecidableEq

structure RoutePlanResult where
  ok : Bool
  plan : Option RetrievalPlan := none
  routeReasonCodes : List Bytes
  error : Option KnowledgeError := none
deriving DecidableEq

/-! ## Capabilities -/

def supportsLexical (descriptor : CorpusDescriptor) : Bool :=
  descriptor.supportedModes.contains .lexicalOnly || descriptor.supportedModes.contains .hybrid

def supportsDense (descriptor : CorpusDescriptor) : Bool :=
  descriptor.supportedModes.contains .denseOnly || descriptor.supportedModes.contains .hybrid

def supportsHybridRoute (descriptor : CorpusDescriptor) : Bool :=
  supportsLexical descriptor && supportsDense descriptor

def allLexicalCapable (candidates : List CorpusDescriptor) : Bool :=
  !candidates.isEmpty && candidates.all supportsLexical

def prefersDenseOnly (queryKind : KnowledgeQueryKind) : Bool := queryKind == .diagnosticContext

def prefersHybrid : KnowledgeQueryKind → Bool
  | .factLookup | .procedureLookup | .policyEvidence => true
  | .diagnosticContext | .multiHop => false

/-! ## The filters -/

def matchesAllowedCorpora (query : NormalizedQuery) (descriptor : CorpusDescriptor) : Bool :=
  query.allowedCorpora.isEmpty || query.allowedCorpora.contains descriptor.corpusId

def minimumAuthority : KnowledgeQueryKind → AuthorityLevel
  | .policyEvidence => .normative
  | .diagnosticContext => .advisory
  | .factLookup | .procedureLookup => .reference
  | .multiHop => .normative

def matchesMinimumAuthority (queryKind : KnowledgeQueryKind) (descriptor : CorpusDescriptor) :
    Bool :=
  descriptor.authorityLevel.toNat ≤ (minimumAuthority queryKind).toNat

/-- The corpora that are left after the four filters, in the order of the catalog. -/
def filterCandidates (query : NormalizedQuery) (catalog : CorpusCatalogSnapshot) :
    List CorpusDescriptor :=
  let candidates :=
    if query.domainTags.isEmpty then catalog.listAll else catalog.filterByTags query.domainTags
  let candidates := candidates.filter fun descriptor => descriptor.trustLevel = .trusted
  let candidates :=
    if query.allowedCorpora.isEmpty then candidates
    else candidates.filter (matchesAllowedCorpora query)
  candidates.filter (matchesMinimumAuthority query.queryKind)

def filterReasonCodes (query : NormalizedQuery) : List Bytes :=
  let codes :=
    if query.domainTags.isEmpty then [] else appendReasonCode [] (str "domain_tag_filter_applied")
  let codes := appendReasonCode codes (str "trusted_corpus_filter_applied")
  let codes :=
    if query.allowedCorpora.isEmpty then codes
    else appendReasonCode codes (str "allowed_corpora_filter_applied")
  appendReasonCode codes (str "authority_filter_applied")

/-! ## The mode -/

def selectMode (query : NormalizedQuery) (config : KnowledgeConfigSnapshot)
    (candidates : List CorpusDescriptor) : RetrievalMode :=
  if !config.vectorEnabled || config.retrievalModeDefault == .lexicalOnly then .lexicalOnly
  else
    let denseRouteAvailable := candidates.any supportsDense
    let hybridRouteAvailable := candidates.any supportsHybridRoute
    if prefersDenseOnly query.queryKind && denseRouteAvailable then .denseOnly
    else if prefersHybrid query.queryKind && hybridRouteAvailable then .hybrid
    else if config.retrievalModeDefault == .denseOnly && denseRouteAvailable then .denseOnly
    else if config.retrievalModeDefault == .hybrid && hybridRouteAvailable then .hybrid
    else .lexicalOnly

/-- The lexical route keeps every candidate, the other two those that support them. -/
def routedCandidates (mode : RetrievalMode) (candidates : List CorpusDescriptor) :
    List CorpusDescriptor :=
  match mode with
  | .denseOnly => candidates.filter supportsDense
  | .hybrid => candidates.filter supportsHybridRoute
  | .lexicalOnly => candidates

/-- Why the route is lexical, where there is something to say about it. -/
def lexicalReasonCodes (query : NormalizedQuery) (config : KnowledgeConfigSnapshot)
    (candidates : List CorpusDescriptor) (codes : List Bytes) : List Bytes :=
  let denseRouteAvailable := candidates.any supportsDense
  let hybridRouteAvailable := candidates.any supportsHybridRoute
  if !config.vectorEnabled then appendReasonCode codes (str "vector_disabled_lexical_fallback")
  else if (prefersDenseOnly query.queryKind && !denseRouteAvailable) ||
      (prefersHybrid query.queryKind && !hybridRouteAvailable) ||
      (config.retrievalModeDefault == .denseOnly && !denseRouteAvailable) ||
      (config.retrievalModeDefault == .hybrid && !hybridRouteAvailable) then
    appendReasonCode codes (str "corpus_mode_capability_downgraded")
  else if config.retrievalModeDefault == .lexicalOnly then
    appendReasonCode codes (str "profile_forced_lexical_only")
  else codes

def modeReasonCodes (query : NormalizedQuery) (config : KnowledgeConfigSnapshot)
    (mode : RetrievalMode) (candidates : List CorpusDescriptor) (codes : List Bytes) : List Bytes :=
  let subsetSelected (codes : List Bytes) : List Bytes :=
    if (routedCandidates mode candidates).length != candidates.length then
      appendReasonCode codes (str "dense_capable_subset_selected")
    else codes
  match mode with
  | .lexicalOnly =>
    lexicalReasonCodes query config candidates (appendReasonCode codes (str "mode_lexical_only"))
  | .denseOnly => subsetSelected (appendReasonCode codes (str "mode_dense_only"))
  | .hybrid => subsetSelected (appendReasonCode codes (str "mode_hybrid"))

/-! ## The plan -/

def makeRouteError (code : KnowledgeErrorCode) (message : String) (reasonCodes : List Bytes) :
    RoutePlanResult where
  ok := false
  routeReasonCodes := reasonCodes
  error := some (makeKnowledgeErrorInfo code (str message) (str "corpus_router.build_plan"))

/-- The reason code of a snapshot that may be read, or the code and the message of one that may
not. -/
def freshnessGate (query : NormalizedQuery) (freshness : FreshnessSnapshot) :
    Except (Bytes × String) Bytes :=
  match freshness.state with
  | .fresh => .ok (str "fresh_snapshot_required")
  | .staleAllowed =>
    if !freshness.staleReadAllowed || !query.allowStale then
      .error (str "stale_snapshot_rejected", "stale snapshot is not allowed for this query")
    else .ok (str "stale_snapshot_allowed")
  | .staleRejected =>
    .error (str "stale_snapshot_rejected", "current snapshot is stale and rejected by policy")
  | .unknown =>
    .error (str "freshness_unknown", "snapshot freshness is unknown and cannot be routed")

def makePlan (query : NormalizedQuery) (config : KnowledgeConfigSnapshot)
    (freshness : FreshnessSnapshot) (mode : RetrievalMode) (candidates : List CorpusDescriptor)
    (codes : List Bytes) : RetrievalPlan :=
  let allowPartialResults := mode == .hybrid && config.allowBudgetDegrade
  { mode
    corpusIds := (routedCandidates mode candidates).map (·.corpusId)
    sparseTopK := if mode = .denseOnly then 0 else query.topK
    denseTopK := if mode = .lexicalOnly then 0 else query.topK
    allowPartialResults
    allowStaleSnapshot := freshness.state == .staleAllowed
    maxProjectionItems := query.maxContextProjectionItems
    routeReasonCodes :=
      if allowPartialResults then appendReasonCode codes (str "partial_results_allowed") else codes }

/-- The part of `build_plan` after the filters and the freshness gate. -/
def routeMode (query : NormalizedQuery) (config : KnowledgeConfigSnapshot)
    (freshness : FreshnessSnapshot) (candidates : List CorpusDescriptor) (codes : List Bytes) :
    RoutePlanResult :=
  let mode := selectMode query config candidates
  let plan :=
    makePlan query config freshness mode candidates
      (modeReasonCodes query config mode candidates codes)
  if mode == .denseOnly && !candidates.any supportsDense then
    makeRouteError .noCorpusAvailable "dense-only route selected without any dense-capable corpus"
      [str "dense_route_unavailable"]
  else if mode == .lexicalOnly && !allLexicalCapable (routedCandidates mode candidates) then
    makeRouteError .noCorpusAvailable "lexical route selected without any lexical-capable corpus"
      [str "lexical_route_unavailable"]
  else { ok := true, plan := some plan, routeReasonCodes := plan.routeReasonCodes }

/-- The catalog snapshot is consistent by its type, the other inputs are checked. -/
def buildPlan (query : NormalizedQuery) (config : KnowledgeConfigSnapshot)
    (catalog : CorpusCatalogSnapshot) (freshness : FreshnessSnapshot) : RoutePlanResult :=
  if !query.hasConsistentValues || !config.hasConsistentValues ||
      !freshness.hasConsistentValues then
    makeRouteError .internalError "corpus router inputs are inconsistent"
      [str "router_input_inconsistent"]
  else if !config.knowledgeEnabled then
    makeRouteError .disabled "knowledge module is disabled by configuration"
      [str "knowledge_disabled"]
  else
    let candidates := filterCandidates query catalog
    let codes := filterReasonCodes query
    if candidates.isEmpty then
      makeRouteError .noCorpusAvailable
        "no corpus satisfies corpus, tag, trust, and authority filters"
        (appendReasonCode codes (str "no_corpus_available"))
    else
      match freshnessGate query freshness with
      | .error (code, message) =>
        makeRouteError .indexStaleRejected message (appendReasonCode codes code)
      | .ok code => routeMode query config freshness candidates (appendReasonCode codes code)

/-!
## What the router answers

Every corpus of a plan satisfies the query and supports the mode of the plan. A query is turned
away although a corpus could serve it where the lexical route finds corpora of both kinds: it keeps
those that it cannot read, where the other routes leave them out.
-/

/-! ## What a query asks of a corpus -/

/-- The corpus may be read for the query: it is trusted, allowed, tagged and of authority. -/
structure Satisfies (query : NormalizedQuery) (descriptor : CorpusDescriptor) : Prop where
  trusted : descriptor.trustLevel = .trusted
  allowed : query.allowedCorpora ≠ [] → descriptor.corpusId ∈ query.allowedCorpora
  tagged : ∀ tag ∈ query.domainTags, tag ∈ descriptor.tags
  authority : descriptor.authorityLevel.toNat ≤ (minimumAuthority query.queryKind).toNat

def Supports (descriptor : CorpusDescriptor) : RetrievalMode → Prop
  | .lexicalOnly => supportsLexical descriptor
  | .denseOnly => supportsDense descriptor
  | .hybrid => supportsHybridRoute descriptor

/-- The configuration has the vector lane open and does not force lexical routes. -/
def VectorOpen (config : KnowledgeConfigSnapshot) : Prop :=
  config.vectorEnabled = true ∧ config.retrievalModeDefault ≠ .lexicalOnly

/-- The lexical mode is always permitted. A vector mode needs the vector lane, and the kind of the
query or the default of the configuration has to ask for it. -/
def Permitted (query : NormalizedQuery) (config : KnowledgeConfigSnapshot) : RetrievalMode → Prop
  | .lexicalOnly => True
  | .denseOnly => VectorOpen config ∧
    (prefersDenseOnly query.queryKind ∨ config.retrievalModeDefault = .denseOnly)
  | .hybrid => VectorOpen config ∧
    (prefersHybrid query.queryKind ∨ config.retrievalModeDefault = .hybrid)

variable (query : NormalizedQuery) (config : KnowledgeConfigSnapshot)
  (catalog : CorpusCatalogSnapshot) (candidates : List CorpusDescriptor)
  (freshness : FreshnessSnapshot)

theorem mem_filterCandidates (descriptor : CorpusDescriptor) :
    descriptor ∈ filterCandidates query catalog ↔
      descriptor ∈ catalog.descriptors ∧ Satisfies query descriptor := by
  have htagged : descriptor ∈ (if query.domainTags.isEmpty then catalog.listAll
      else catalog.filterByTags query.domainTags) ↔
        descriptor ∈ catalog.descriptors ∧ ∀ tag ∈ query.domainTags, tag ∈ descriptor.tags := by
    rw [← CorpusCatalogSnapshot.mem_filterByTags]
    unfold CorpusCatalogSnapshot.filterByTags
    split <;> rfl
  have hallowed : ∀ candidates : List CorpusDescriptor,
      descriptor ∈ (if query.allowedCorpora.isEmpty then candidates
        else candidates.filter (matchesAllowedCorpora query)) ↔
        descriptor ∈ candidates ∧
          (query.allowedCorpora ≠ [] → descriptor.corpusId ∈ query.allowedCorpora) := by
    intro candidates
    split
    next h =>
      rw [List.isEmpty_iff] at h
      simp [h]
    next h =>
      rw [List.isEmpty_iff] at h
      simp [matchesAllowedCorpora, h]
  unfold filterCandidates
  dsimp only
  rw [List.mem_filter, hallowed, List.mem_filter, htagged]
  simp only [matchesMinimumAuthority, decide_eq_true_eq]
  constructor
  · rintro ⟨⟨⟨⟨hmem, htags⟩, htrust⟩, hallow⟩, hauthority⟩
    exact ⟨hmem, htrust, hallow, htags, hauthority⟩
  · rintro ⟨hmem, htrust, hallow, htags, hauthority⟩
    exact ⟨⟨⟨⟨hmem, htags⟩, htrust⟩, hallow⟩, hauthority⟩

/-! ## The mode -/

theorem vectorClosed_iff :
    (!config.vectorEnabled || config.retrievalModeDefault == .lexicalOnly) = true ↔
      ¬ VectorOpen config := by
  unfold VectorOpen
  cases config.vectorEnabled <;> simp

/-- The lexical route is taken where neither vector mode is both asked for and available. -/
theorem selectMode_lexical_of_open (hopen : VectorOpen config) :
    selectMode query config candidates = .lexicalOnly ↔
      (candidates.any supportsDense = true → ¬ Permitted query config .denseOnly) ∧
        (candidates.any supportsHybridRoute = true → ¬ Permitted query config .hybrid) := by
  have hclosed : ¬ (!config.vectorEnabled || config.retrievalModeDefault == .lexicalOnly) = true := by
    rw [vectorClosed_iff]
    exact not_not.mpr hopen
  unfold selectMode Permitted
  rw [if_neg hclosed]
  simp only [hopen, true_and]
  generalize candidates.any supportsDense = dense
  generalize candidates.any supportsHybridRoute = hybrid
  generalize prefersDenseOnly query.queryKind = prefersDense
  generalize prefersHybrid query.queryKind = prefersHybrid
  cases dense <;> cases hybrid <;> cases prefersDense <;> cases prefersHybrid <;>
    cases config.retrievalModeDefault <;> simp

theorem selectMode_lexical_iff :
    selectMode query config candidates = .lexicalOnly ↔
      ∀ descriptor ∈ candidates, ∀ mode, Supports descriptor mode → Permitted query config mode →
        mode = .lexicalOnly := by
  by_cases hopen : VectorOpen config
  · rw [selectMode_lexical_of_open query config candidates hopen]
    simp only [List.any_eq_true]
    constructor
    · rintro ⟨hdense, hhybrid⟩ descriptor hmem mode hsupports hpermitted
      cases mode with
      | lexicalOnly => rfl
      | denseOnly => exact absurd hpermitted (hdense ⟨descriptor, hmem, hsupports⟩)
      | hybrid => exact absurd hpermitted (hhybrid ⟨descriptor, hmem, hsupports⟩)
    · intro h
      constructor
      · rintro ⟨descriptor, hmem, hsupports⟩ hpermitted
        cases h descriptor hmem .denseOnly hsupports hpermitted
      · rintro ⟨descriptor, hmem, hsupports⟩ hpermitted
        cases h descriptor hmem .hybrid hsupports hpermitted
  · unfold selectMode
    rw [if_pos ((vectorClosed_iff config).mpr hopen)]
    refine iff_of_true rfl ?_
    intro descriptor _ mode _ hpermitted
    cases mode with
    | lexicalOnly => rfl
    | denseOnly => exact absurd hpermitted.1 hopen
    | hybrid => exact absurd hpermitted.1 hopen

theorem selectMode_dense (h : selectMode query config candidates = .denseOnly) :
    candidates.any supportsDense = true := by
  unfold selectMode at h
  grind

/-- What the route keeps supports its mode, but for the candidates of a lexical route. -/
theorem mem_routedCandidates {mode : RetrievalMode} {candidates : List CorpusDescriptor}
    (hlexical : mode = .lexicalOnly → ∀ descriptor ∈ candidates, supportsLexical descriptor = true)
    {descriptor : CorpusDescriptor} (h : descriptor ∈ routedCandidates mode candidates) :
    descriptor ∈ candidates ∧ Supports descriptor mode := by
  unfold routedCandidates at h
  cases mode with
  | lexicalOnly => exact ⟨h, hlexical rfl descriptor h⟩
  | denseOnly => simpa [Supports] using h
  | hybrid => simpa [Supports] using h

/-! ## The answers -/

def NoCorpusAvailable (result : RoutePlanResult) : Prop :=
  ∃ error, result.error = some error ∧ error.code = .noCorpusAvailable

/-- The lexical route is left for candidates of which some are not lexical. -/
def LexicalStuck (query : NormalizedQuery) (config : KnowledgeConfigSnapshot)
    (candidates : List CorpusDescriptor) : Prop :=
  selectMode query config candidates = .lexicalOnly ∧
    ∃ descriptor ∈ candidates, supportsLexical descriptor = false

theorem routeMode_spec (candidates : List CorpusDescriptor) (codes : List Bytes)
    (hne : candidates ≠ []) :
    (NoCorpusAvailable (routeMode query config freshness candidates codes) ↔
        LexicalStuck query config candidates) ∧
      ∀ plan, (routeMode query config freshness candidates codes).plan = some plan →
        ∀ corpusId ∈ plan.corpusIds, ∃ descriptor ∈ candidates, descriptor.corpusId = corpusId ∧
          Supports descriptor plan.mode := by
  have hdense : (selectMode query config candidates == .denseOnly &&
      !candidates.any supportsDense) = false := by
    by_cases h : selectMode query config candidates = .denseOnly
    · simp [selectMode_dense query config candidates h]
    · simp [h]
  have hlexical : (selectMode query config candidates == .lexicalOnly &&
      !allLexicalCapable (routedCandidates (selectMode query config candidates) candidates)) =
        true ↔ LexicalStuck query config candidates := by
    unfold LexicalStuck allLexicalCapable
    by_cases h : selectMode query config candidates = .lexicalOnly
    · simp [h, routedCandidates, hne]
    · simp [h]
  unfold routeMode
  dsimp only
  rw [hdense, if_neg Bool.false_ne_true]
  split
  next hstuck =>
    refine ⟨iff_of_true ⟨_, rfl, rfl⟩ (hlexical.mp hstuck), ?_⟩
    intro plan hplan
    simp [makeRouteError] at hplan
  next hfine =>
    have hnot := fun h => hfine (hlexical.mpr h)
    refine ⟨iff_of_false (fun ⟨error, herror, _⟩ => by simp at herror) hnot, ?_⟩
    intro plan hplan
    simp only [Option.some.injEq] at hplan
    subst hplan
    intro corpusId hid
    simp only [makePlan, List.mem_map] at hid ⊢
    obtain ⟨descriptor, hmem, hcorpus⟩ := hid
    have hall : selectMode query config candidates = .lexicalOnly →
        ∀ descriptor ∈ candidates, supportsLexical descriptor = true := by
      intro hmode other hother
      cases hsupports : supportsLexical other with
      | true => rfl
      | false => exact absurd ⟨hmode, other, hother, hsupports⟩ hnot
    obtain ⟨hcandidate, hsupports⟩ := mem_routedCandidates hall hmem
    exact ⟨descriptor, hcandidate, hcorpus, hsupports⟩

/-- The inputs pass the checks that come before the choice of a mode. -/
def Admitted (query : NormalizedQuery) (config : KnowledgeConfigSnapshot)
    (freshness : FreshnessSnapshot) : Prop :=
  query.hasConsistentValues = true ∧ config.hasConsistentValues = true ∧
    freshness.hasConsistentValues = true ∧ config.knowledgeEnabled = true ∧
    (freshness.state = .fresh ∨
      freshness.state = .staleAllowed ∧ freshness.staleReadAllowed = true ∧ query.allowStale = true)

theorem freshnessGate_ok_iff :
    (∃ code, freshnessGate query freshness = .ok code) ↔
      freshness.state = .fresh ∨
        freshness.state = .staleAllowed ∧ freshness.staleReadAllowed = true ∧
          query.allowStale = true := by
  unfold freshnessGate
  cases freshness.state with
  | staleAllowed => cases freshness.staleReadAllowed <;> cases query.allowStale <;> simp
  | fresh | staleRejected | unknown => simp

/-- Every corpus of the plan satisfies the query and supports the mode. -/
def Sound (query : NormalizedQuery) (catalog : CorpusCatalogSnapshot) (result : RoutePlanResult) :
    Prop :=
  ∀ plan, result.plan = some plan → ∀ corpusId ∈ plan.corpusIds,
    ∃ descriptor ∈ catalog.descriptors, descriptor.corpusId = corpusId ∧
      Satisfies query descriptor ∧ Supports descriptor plan.mode

/-- No corpus is reported only where none serves the query in a permitted mode. -/
def Complete (query : NormalizedQuery) (config : KnowledgeConfigSnapshot)
    (catalog : CorpusCatalogSnapshot) (result : RoutePlanResult) : Prop :=
  NoCorpusAvailable result → ¬ ∃ descriptor ∈ catalog.descriptors, Satisfies query descriptor ∧
    ∃ mode, Permitted query config mode ∧ Supports descriptor mode

/-- How a call ends: turned away for another reason, without a candidate, or by its mode. -/
theorem buildPlan_cases :
    (filterCandidates query catalog = [] ∧
        (buildPlan query config catalog freshness).plan = none) ∨
      (filterCandidates query catalog ≠ [] ∧ ¬ Admitted query config freshness ∧
        ¬ NoCorpusAvailable (buildPlan query config catalog freshness) ∧
        (buildPlan query config catalog freshness).plan = none) ∨
      (filterCandidates query catalog ≠ [] ∧ Admitted query config freshness ∧
        ∃ codes, buildPlan query config catalog freshness =
          routeMode query config freshness (filterCandidates query catalog) codes) := by
  have hgate := freshnessGate_ok_iff query freshness
  unfold buildPlan Admitted
  by_cases hempty : filterCandidates query catalog = []
  · left
    refine ⟨hempty, ?_⟩
    split
    · rfl
    split
    · rfl
    simp [hempty, makeRouteError]
  · right
    split
    next hinconsistent =>
      left
      refine ⟨hempty, ?_, ?_, rfl⟩
      · rintro ⟨hquery, hconfig, hfreshness, -⟩
        simp [hquery, hconfig, hfreshness] at hinconsistent
      · rintro ⟨error, herror, hcode⟩
        simp only [makeRouteError, makeKnowledgeErrorInfo, Option.some.injEq] at herror
        simp [← herror] at hcode
    next hconsistent =>
    simp only [Bool.not_eq_true, Bool.or_eq_false_iff, Bool.not_eq_false'] at hconsistent
    obtain ⟨⟨hquery, hconfig⟩, hfreshness⟩ := hconsistent
    split
    next hdisabled =>
      left
      refine ⟨hempty, ?_, ?_, rfl⟩
      · rintro ⟨-, -, -, henabled, -⟩
        simp [henabled] at hdisabled
      · rintro ⟨error, herror, hcode⟩
        simp only [makeRouteError, makeKnowledgeErrorInfo, Option.some.injEq] at herror
        simp [← herror] at hcode
    next henabled =>
    simp only [Bool.not_eq_true, Bool.not_eq_false'] at henabled
    simp only [List.isEmpty_iff, hempty, if_false]
    split
    next code message hrefused =>
      left
      refine ⟨hempty, ?_, ?_, rfl⟩
      · rintro ⟨-, -, -, -, hadmits⟩
        obtain ⟨code', hcode'⟩ := hgate.mpr hadmits
        rw [hrefused] at hcode'
        cases hcode'
      · rintro ⟨error, herror, hcode⟩
        simp only [makeRouteError, makeKnowledgeErrorInfo, Option.some.injEq] at herror
        simp [← herror] at hcode
    next code hok =>
      right
      exact ⟨hempty, ⟨hquery, hconfig, hfreshness, henabled, hgate.mp ⟨code, hok⟩⟩, _, rfl⟩

theorem buildPlan_sound :
    Sound query catalog (buildPlan query config catalog freshness) := by
  intro plan hplan corpusId hid
  rcases buildPlan_cases query config catalog freshness with
    ⟨-, hnone⟩ | ⟨-, -, -, hnone⟩ | ⟨hne, -, codes, hroute⟩
  · simp [hnone] at hplan
  · simp [hnone] at hplan
  · rw [hroute] at hplan
    obtain ⟨descriptor, hmem, hcorpus, hsupports⟩ :=
      (routeMode_spec query config freshness _ codes hne).2 plan hplan corpusId hid
    rw [mem_filterCandidates] at hmem
    exact ⟨descriptor, hmem.1, hcorpus, hmem.2, hsupports⟩

/-- The corpora that satisfy the query are lexical all or none, wherever no other permitted mode
serves one of them. -/
def EvenlyLexical (query : NormalizedQuery) (config : KnowledgeConfigSnapshot)
    (catalog : CorpusCatalogSnapshot) : Prop :=
  (∀ descriptor ∈ catalog.descriptors, Satisfies query descriptor →
      ∀ mode, Supports descriptor mode → Permitted query config mode → mode = .lexicalOnly) →
    ∀ first ∈ catalog.descriptors, ∀ second ∈ catalog.descriptors, Satisfies query first →
      Satisfies query second → supportsLexical first = true → supportsLexical second = true

theorem buildPlan_complete_iff :
    Complete query config catalog (buildPlan query config catalog freshness) ↔
      (Admitted query config freshness → EvenlyLexical query config catalog) := by
  have hmem := mem_filterCandidates query catalog
  rcases buildPlan_cases query config catalog freshness with
    ⟨hempty, -⟩ | ⟨-, hrefused, hother, -⟩ | ⟨hne, hadmitted, codes, hroute⟩
  · have hnone : ∀ descriptor ∈ catalog.descriptors, ¬ Satisfies query descriptor := by
      intro descriptor hin hsatisfies
      have hcandidate := (hmem descriptor).mpr ⟨hin, hsatisfies⟩
      simp [hempty] at hcandidate
    refine iff_of_true ?_ ?_
    · rintro - ⟨descriptor, hin, hsatisfies, -⟩
      exact hnone descriptor hin hsatisfies
    · intro _ _ first hfirst _ _ hsatisfies
      exact absurd hsatisfies (hnone first hfirst)
  · exact iff_of_true (fun h => absurd h hother) (fun h => absurd h hrefused)
  · unfold Complete
    rw [hroute, (routeMode_spec query config freshness _ codes hne).1]
    unfold LexicalStuck EvenlyLexical
    rw [selectMode_lexical_iff]
    simp only [hmem, hadmitted, true_imp_iff]
    constructor
    · intro h hlexical first hfirst second hsecond hfirst' hsecond' hsupports
      cases hother : supportsLexical second with
      | true => rfl
      | false =>
        refine absurd ⟨first, hfirst, hfirst', .lexicalOnly, trivial, hsupports⟩ (h ⟨?_, ?_⟩)
        · exact fun descriptor hin => hlexical descriptor hin.1 hin.2
        · exact ⟨second, ⟨hsecond, hsecond'⟩, hother⟩
    · rintro h ⟨hlexical, second, ⟨hsecond, hsecond'⟩, hother⟩ ⟨first, hfirst, hfirst', mode,
        hpermitted, hsupports⟩
      obtain rfl := hlexical first ⟨hfirst, hfirst'⟩ mode hsupports hpermitted
      have hsame := h (fun descriptor hin hsatisfies => hlexical descriptor ⟨hin, hsatisfies⟩)
        first hfirst second hsecond hfirst' hsecond' hsupports
      rw [hother] at hsame
      cases hsame

theorem routing_iff (query : NormalizedQuery) (config : KnowledgeConfigSnapshot)
    (catalog : CorpusCatalogSnapshot) (freshness : FreshnessSnapshot) :
    (Sound query catalog (buildPlan query config catalog freshness) ∧
        Complete query config catalog (buildPlan query config catalog freshness)) ↔
      (Admitted query config freshness → EvenlyLexical query config catalog) := by
  rw [buildPlan_complete_iff]
  exact and_iff_right (buildPlan_sound query config catalog freshness)

/-! ## A catalog of both kinds -/

def plainMetadata : Lib.OrderedMap Bytes Bytes :=
  ⟨[(str "baseline_class", []), (str "default_language", []), (str "owner_module", []),
    (str "refresh_strategy", [])], by decide⟩

/-- A reference corpus with one supported mode. -/
def oneModeCorpus (corpusId : Bytes) (mode : RetrievalMode) : CorpusDescriptor :=
  { corpusId
    displayName := corpusId
    sourceUri := corpusId
    includeGlobs := [str "*.md"]
    supportedModes := [mode]
    metadata := plainMetadata }

def mixedCatalog : CorpusCatalogSnapshot where
  descriptors :=
    [oneModeCorpus (str "lexical") .lexicalOnly, oneModeCorpus (str "dense") .denseOnly]
  consistent := by decide +kernel

/-- The vector lane is off, and the lexical corpus stands beside a dense one. -/
theorem mixed_catalog_turned_away :
    ¬ ∀ (query : NormalizedQuery) (config : KnowledgeConfigSnapshot)
      (catalog : CorpusCatalogSnapshot) (freshness : FreshnessSnapshot),
      Sound query catalog (buildPlan query config catalog freshness) ∧
        Complete query config catalog (buildPlan query config catalog freshness) := by
  intro h
  let query : NormalizedQuery :=
    { requestId := str "request", normalizedText := str "text", lexicalTerms := [str "text"] }
  let config : KnowledgeConfigSnapshot :=
    { knowledgeEnabled := true, evidenceBudgetTokens := 1, maxContextProjectionItems := 1
      catalogRefreshIntervalMs := 1, catalogExpireAfterMs := 1, requestDeadlineMs := 1
      sparseRecallTimeoutMs := 1, denseRecallTimeoutMs := 1, ingestTimeoutMs := 1 }
  obtain ⟨-, hcomplete⟩ := h query config mixedCatalog { state := .fresh }
  have herror : (buildPlan query config mixedCatalog { state := .fresh }).error =
      some (makeKnowledgeErrorInfo .noCorpusAvailable
        (str "lexical route selected without any lexical-capable corpus")
        (str "corpus_router.build_plan")) := by
    decide +kernel
  have hlexical : supportsLexical (oneModeCorpus (str "lexical") .lexicalOnly) = true := rfl
  apply hcomplete ⟨_, herror, rfl⟩
  refine ⟨oneModeCorpus (str "lexical") .lexicalOnly, List.mem_cons_self, ⟨rfl, ?_, ?_, ?_⟩,
    .lexicalOnly, trivial, hlexical⟩
  · intro hallowed
    exact absurd rfl hallowed
  · intro tag htag
    cases htag
  · decide

end Dasall.Knowledge.Query
