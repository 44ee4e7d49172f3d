import Dasall.Services.ExecutionCommandLane

/-!
# Data queries and their projection cache

A query is answered from the cache where it has an entry, and from an adapter where it has none.
The router, the adapter and the two readings of the clock are the answer of the environment.
-/

open Dasall.Contracts Dasall.Infra.Policy Dasall.Lib Dasall.Lib.Text

namespace Dasall.Services

inductive ServiceDataFreshness
  | strict
  | allowStale
deriving DecidableEq

structure DataQueryRequest where
  dataset : Bytes
  filtersJson : Bytes
  projection : Bytes
  freshness : ServiceDataFreshness
deriving DecidableEq

structure DataQueryResult where
  code : Option ResultCode
  rowsJson : Bytes
  fromCache : Bool
  error : Option ErrorInfo
deriving DecidableEq

/-! ## The cache -/

inductive ProjectionCacheState
  | miss
  | hitFresh
  | hitStale
deriving DecidableEq

structure CachedProjectionSnapshot where
  cacheKey : Bytes
  rowsJson : Bytes
  cacheRef : Bytes
  cachedAtMs : UInt64
  ageMs : UInt64
deriving DecidableEq

structure ProjectionCacheLookup where
  state : ProjectionCacheState
  fromCache : Bool
  snapshot : Option CachedProjectionSnapshot
deriving DecidableEq

structure ProjectionCacheRecord where
  rowsJson : Bytes
  cacheRef : Bytes
  cachedAtMs : UInt64
deriving DecidableEq

abbrev DataProjectionCache := AList fun _ : Bytes => ProjectionCacheRecord

/-- The parts are joined as they are. -/
def makeCacheKey (request : DataQueryRequest) : Bytes :=
  request.dataset ++ str "|" ++ request.filtersJson ++ str "|" ++ request.projection

namespace DataProjectionCache

def defaultCacheRef (cacheKey : Bytes) : Bytes := str "cache://data/" ++ cacheKey

def store (cache : DataProjectionCache) (nowMs : UInt64) (request : DataQueryRequest)
    (rowsJson cacheRef : Bytes) : DataProjectionCache :=
  cache.insert (makeCacheKey request)
    { rowsJson
      cacheRef := if cacheRef.isEmpty then defaultCacheRef (makeCacheKey request) else cacheRef
      cachedAtMs := nowMs }

/-- A clock that went back makes the entry new. -/
def ageMs (nowMs cachedAtMs : UInt64) : UInt64 :=
  if cachedAtMs ≤ nowMs then nowMs - cachedAtMs else 0

def find (cache : DataProjectionCache) (ttlMs nowMs : UInt64) (request : DataQueryRequest)
    (freshness : ServiceDataFreshness) : ProjectionCacheLookup :=
  match AList.lookup (makeCacheKey request) cache with
  | none =>
    { state := .miss
      fromCache := false
      snapshot := none }
  | some record =>
    let age := ageMs nowMs record.cachedAtMs
    let stale := decide (ttlMs < age)
    { state := if stale then .hitStale else .hitFresh
      fromCache := !stale || freshness == .allowStale
      snapshot := some
        { cacheKey := makeCacheKey request
          rowsJson := record.rowsJson
          cacheRef := record.cacheRef
          cachedAtMs := record.cachedAtMs
          ageMs := age } }

end DataProjectionCache

/-! ## The lane -/

structure DataQueryLaneDependencies where
  router : Bool := true
  bridge : Bool := true
  resultMapper : Bool := true
  projectionCache : Bool := true
  ttlMs : UInt64 := 0

/-- What the clock, the router and the adapter say during one query. -/
structure DataQueryAnswer where
  lookupAtMs : UInt64
  storeAtMs : UInt64
  routeFailure : Option (AdapterRouteFailure × Bytes) := none
  receipt : AdapterReceipt

def toDataQueryResult (receipt : AdapterReceipt) (fromCache : Bool) : DataQueryResult :=
  let mapped := mapResult receipt []
  { code := if mapped.success then none else some mapped.code
    rowsJson := if mapped.success then mapped.payloadJson else []
    fromCache
    error := mapped.error }

def makeRuntimeQueryFailure (message stage refId : Bytes) : DataQueryResult where
  code := some .runtimeRetryExhausted
  rowsJson := []
  fromCache := false
  error := some
    { failureType := some .runtime
      retryable := some false
      safeToReplan := some false
      details :=
        { code := some ResultCode.runtimeRetryExhausted.toRaw
          message
          stage }
      sourceRef :=
        { refType := str "services"
          refId } }

def makeQueryErrorResult (dependencies : DataQueryLaneDependencies)
    (dataset receiptRef providerStatusCode message stage : Bytes) (evidenceRefs : List Bytes)
    (fromCache : Bool) : DataQueryResult :=
  if !dependencies.resultMapper then makeRuntimeQueryFailure message stage receiptRef
  else
    let result := toDataQueryResult
      (makeReceipt receiptRef dataset providerStatusCode
        (makeErrorPayload providerStatusCode message) evidenceRefs) fromCache
    { result with error := applyErrorOverride result.error message stage }

section
variable (dependencies : DataQueryLaneDependencies) (requestId : Bytes) (request : DataQueryRequest)

/-- What follows the lookup of an expired entry under strict freshness. -/
def dataStale (cacheRef : Bytes) : DataQueryResult :=
  makeQueryErrorResult dependencies request.dataset cacheRef (str "data_stale")
    (str "cached projection is stale under strict freshness") (str "data_query_lane") [cacheRef]
    false

def queryRouteRefused (failure : AdapterRouteFailure) (reason : Bytes) : DataQueryResult :=
  makeQueryErrorResult dependencies request.dataset (str "route:" ++ requestId)
    (routeFailureName failure) reason (str "adapter_router")
    (if failure = .routeNotPermitted then [str "policy://route/" ++ requestId] else []) false

/-- What the lane makes of the receipt, and the cache with the rows of a success. -/
def queryAdapter (cache : DataProjectionCache) (answer : DataQueryAnswer) :
    DataProjectionCache × DataQueryResult :=
  let receipt := answer.receipt
  if !receipt.sideEffects.isEmpty then
    (cache, makeQueryErrorResult dependencies request.dataset
      (if receipt.receiptRef.isEmpty then str "data_query_receipt:" ++ requestId
        else receipt.receiptRef)
      (str "invalid_request") (str "data query must not emit side_effects") (str "data_query_lane")
      receipt.evidenceRefs false)
  else
    let result := toDataQueryResult receipt false
    if result.error.isNone then
      (cache.store answer.storeAtMs request receipt.payloadJson (receipt.evidenceRefs.head?.getD []),
        result)
    else if !receipt.providerStatusCode.isEmpty then
      (cache,
        { result with
          error := result.error.map fun error =>
            { error with details := { error.details with stage := str "data_query_lane" } } })
    else (cache, result)

def queryRouted (cache : DataProjectionCache) (answer : DataQueryAnswer) :
    DataProjectionCache × DataQueryResult × Bool :=
  match answer.routeFailure with
  | some (failure, reason) =>
    (cache, queryRouteRefused dependencies requestId request failure reason, false)
  | none =>
    ((queryAdapter dependencies requestId request cache answer).1,
      (queryAdapter dependencies requestId request cache answer).2, true)

def requestAnswerable : Bool :=
  !(request.dataset.isEmpty || request.projection.isEmpty) && dependencies.router &&
    dependencies.bridge && dependencies.resultMapper && dependencies.projectionCache

/-- A query, with whether it asked the adapter. -/
def query (cache : DataProjectionCache) (answer : DataQueryAnswer) :
    DataProjectionCache × DataQueryResult × Bool :=
  if request.dataset.isEmpty || request.projection.isEmpty then
    (cache, makeQueryErrorResult dependencies request.dataset (str "validator:" ++ requestId)
      (str "invalid_request") (str "dataset and projection are required") (str "data_query_lane") []
      false, false)
  else if !dependencies.router || !dependencies.bridge || !dependencies.resultMapper ||
      !dependencies.projectionCache then
    (cache, makeRuntimeQueryFailure (str "data query lane dependencies are not configured")
      (str "data_query_lane") (str "data_query_lane.dependencies"), false)
  else
    let cached := cache.find dependencies.ttlMs answer.lookupAtMs request request.freshness
    match cached.snapshot with
    | some snapshot =>
      if cached.fromCache then
        (cache,
          { code := none
            rowsJson := snapshot.rowsJson
            fromCache := true
            error := none }, false)
      else if cached.state = .hitStale then
        (cache, dataStale dependencies request snapshot.cacheRef, false)
      else queryRouted dependencies requestId request cache answer
    | none => queryRouted dependencies requestId request cache answer

end

/-! ## Runs -/

structure QueryInput where
  requestId : Bytes
  request : DataQueryRequest
  answer : DataQueryAnswer

/-- A query of a run. `fetched` has the rows that the adapter gave, and when they were stored. -/
structure QueryOutcome where
  request : DataQueryRequest
  lookupAtMs : UInt64
  result : DataQueryResult
  fetched : Option (Bytes × UInt64)

/-- The rows of a successful answer of the adapter. -/
def fetchedRows (asked : Bool) (answer : DataQueryAnswer) : Option (Bytes × UInt64) :=
  if asked ∧ answer.receipt.sideEffects = [] ∧ classifyReceipt answer.receipt = .none then
    some (answer.receipt.payloadJson, answer.storeAtMs)
  else none

def stepQuery (dependencies : DataQueryLaneDependencies) (cache : DataProjectionCache)
    (input : QueryInput) : DataProjectionCache × QueryOutcome :=
  let answered := query dependencies input.requestId input.request cache input.answer
  (answered.1,
    { request := input.request
      lookupAtMs := input.answer.lookupAtMs
      result := answered.2.1
      fetched := fetchedRows answered.2.2 input.answer })

def SameQuestion (first second : DataQueryRequest) : Prop :=
  first.dataset = second.dataset ∧ first.filtersJson = second.filtersJson ∧
    first.projection = second.projection

def SameKey (first second : DataQueryRequest) : Prop := makeCacheKey first = makeCacheKey second

/-- The rows of a result were fetched: just now, or by an earlier query for the same, and under
strict freshness no longer ago than the entry lives. -/
def RowsFetched (same : DataQueryRequest → DataQueryRequest → Prop) (ttlMs : UInt64)
    (before : List QueryOutcome) (outcome : QueryOutcome) : Prop :=
  outcome.result.error = none →
    (outcome.result.fromCache = false ∧
      ∃ storedAtMs, outcome.fetched = some (outcome.result.rowsJson, storedAtMs)) ∨
    outcome.result.fromCache = true ∧ ∃ earlier ∈ before, ∃ storedAtMs,
      earlier.fetched = some (outcome.result.rowsJson, storedAtMs) ∧
        same earlier.request outcome.request ∧
        (outcome.request.freshness = .strict →
          outcome.lookupAtMs.toNat ≤ storedAtMs.toNat + ttlMs.toNat)

/-- A strict query that meets an expired entry. -/
def MeetsExpired (dependencies : DataQueryLaneDependencies) (cache : DataProjectionCache)
    (input : QueryInput) : Prop :=
  input.request.freshness = .strict ∧
    (cache.find dependencies.ttlMs input.answer.lookupAtMs input.request
      input.request.freshness).state = .hitStale

/-- What the query would do without the entry. -/
def AsIfAbsent (dependencies : DataQueryLaneDependencies) (cache : DataProjectionCache)
    (input : QueryInput) : Prop :=
  MeetsExpired dependencies cache input →
    (query dependencies input.requestId input.request cache input.answer).2 =
      (query dependencies input.requestId input.request
        (cache.erase (makeCacheKey input.request)) input.answer).2

/-- The query fails fast: no adapter is asked, and the cache stays as it is. -/
def FailsFast (dependencies : DataQueryLaneDependencies) (cache : DataProjectionCache)
    (input : QueryInput) : Prop :=
  MeetsExpired dependencies cache input → requestAnswerable dependencies input.request = true →
    ∃ cacheRef, query dependencies input.requestId input.request cache input.answer =
      (cache, dataStale dependencies input.request cacheRef, false)

/-- Without an entry the query goes to the router, and with a route to the adapter. -/
def AbsentIsRouted (dependencies : DataQueryLaneDependencies) (cache : DataProjectionCache)
    (input : QueryInput) : Prop :=
  cache.lookup (makeCacheKey input.request) = none →
    requestAnswerable dependencies input.request = true →
      query dependencies input.requestId input.request cache input.answer =
        queryRouted dependencies input.requestId input.request cache input.answer

/-! ## The outcomes of a query -/

section
variable (dependencies : DataQueryLaneDependencies)

theorem makeQueryErrorResult_error (dataset receiptRef providerStatusCode message stage : Bytes)
    (evidenceRefs : List Bytes) (fromCache : Bool)
    (h : classifyProviderStatusCode providerStatusCode ≠ .none) :
    (makeQueryErrorResult dependencies dataset receiptRef providerStatusCode message stage
      evidenceRefs fromCache).error ≠ none := by
  unfold makeQueryErrorResult
  split
  · exact Option.some_ne_none _
  · have hclass : classifyReceipt (makeReceipt receiptRef dataset providerStatusCode
        (makeErrorPayload providerStatusCode message) evidenceRefs) ≠ .none := by
      unfold classifyReceipt makeReceipt
      simp only
      cases hcode : classifyProviderStatusCode providerStatusCode <;>
        first | exact absurd hcode h | exact nofun
    have herror : ∀ receipt : AdapterReceipt, classifyReceipt receipt ≠ .none →
        (mapResult receipt []).error ≠ none := by
      intro receipt hne
      rw [mapResult, if_neg hne]
      split <;> exact Option.some_ne_none _
    intro hnone
    have hmapped := Option.map_eq_none_iff.mp hnone
    exact herror _ hclass hmapped

theorem routeFailureName_classified (failure : AdapterRouteFailure) :
    classifyProviderStatusCode (routeFailureName failure) ≠ .none := by
  cases failure <;> decide

theorem toDataQueryResult_error (receipt : AdapterReceipt) (fromCache : Bool) :
    (toDataQueryResult receipt fromCache).error = none ↔ classifyReceipt receipt = .none := by
  change (mapResult receipt []).error = none ↔ _
  constructor
  · intro hnone
    by_contra hclass
    rw [mapResult, if_neg hclass] at hnone
    split at hnone <;> cases hnone
  · intro hclass
    rw [mapResult_of_none receipt [] hclass]
    rfl

theorem toDataQueryResult_success {receipt : AdapterReceipt} (h : classifyReceipt receipt = .none)
    (fromCache : Bool) :
    toDataQueryResult receipt fromCache =
      { code := none
        rowsJson := receipt.payloadJson
        fromCache
        error := none } := by
  rw [toDataQueryResult, mapResult_of_none receipt [] h]
  rfl

variable (requestId : Bytes) (request : DataQueryRequest) (cache : DataProjectionCache)
  (answer : DataQueryAnswer)

/-- An adapter that is asked gives rows that are stored and returned, or an error. -/
theorem queryAdapter_cases :
    (answer.receipt.sideEffects = [] ∧ classifyReceipt answer.receipt = .none ∧
      queryAdapter dependencies requestId request cache answer =
        (cache.store answer.storeAtMs request answer.receipt.payloadJson
            (answer.receipt.evidenceRefs.head?.getD []),
          { code := none
            rowsJson := answer.receipt.payloadJson
            fromCache := false
            error := none })) ∨
    ¬(answer.receipt.sideEffects = [] ∧ classifyReceipt answer.receipt = .none) ∧
      (queryAdapter dependencies requestId request cache answer).1 = cache ∧
      (queryAdapter dependencies requestId request cache answer).2.error ≠ none := by
  unfold queryAdapter
  cases heffects : answer.receipt.sideEffects with
  | cons effect rest =>
    simp only [heffects, List.isEmpty_cons, Bool.not_false, if_true]
    refine Or.inr ⟨fun h => ?_, trivial, ?_⟩
    · cases h.1
    · exact makeQueryErrorResult_error dependencies _ _ _ _ _ _ _ (by decide)
  | nil =>
    by_cases hclass : classifyReceipt answer.receipt = .none
    · left
      refine ⟨rfl, hclass, ?_⟩
      simp only [toDataQueryResult_success hclass, heffects, List.isEmpty_nil, Bool.not_true,
        Bool.false_eq_true, if_false, Option.isNone_none, if_true]
    · right
      have herror : (toDataQueryResult answer.receipt false).error ≠ none :=
        fun h => hclass ((toDataQueryResult_error _ _).mp h)
      refine ⟨fun h => hclass h.2, ?_, ?_⟩
      · simp only [heffects, List.isEmpty_nil, Bool.not_true, Bool.false_eq_true, if_false,
          Option.isNone_iff_eq_none, herror]
        split <;> rfl
      · simp only [heffects, List.isEmpty_nil, Bool.not_true, Bool.false_eq_true, if_false,
          Option.isNone_iff_eq_none, herror]
        split
        · intro hnone
          exact herror (Option.map_eq_none_iff.mp hnone)
        · exact herror

theorem find_of_none (h : cache.lookup (makeCacheKey request) = none) (nowMs : UInt64)
    (freshness : ServiceDataFreshness) :
    (cache.find dependencies.ttlMs nowMs request freshness).snapshot = none := by
  unfold DataProjectionCache.find
  rw [h]

theorem find_of_some {record : ProjectionCacheRecord}
    (h : cache.lookup (makeCacheKey request) = some record) (nowMs : UInt64)
    (freshness : ServiceDataFreshness) :
    cache.find dependencies.ttlMs nowMs request freshness =
      { state := if dependencies.ttlMs < DataProjectionCache.ageMs nowMs record.cachedAtMs
          then .hitStale else .hitFresh
        fromCache := !decide (dependencies.ttlMs <
          DataProjectionCache.ageMs nowMs record.cachedAtMs) || freshness == .allowStale
        snapshot := some
          { cacheKey := makeCacheKey request
            rowsJson := record.rowsJson
            cacheRef := record.cacheRef
            cachedAtMs := record.cachedAtMs
            ageMs := DataProjectionCache.ageMs nowMs record.cachedAtMs } } := by
  unfold DataProjectionCache.find
  rw [h]
  simp only [decide_eq_true_eq]

theorem le_of_not_stale {ttlMs nowMs cachedAtMs : UInt64}
    (h : ¬ttlMs < DataProjectionCache.ageMs nowMs cachedAtMs) :
    nowMs.toNat ≤ cachedAtMs.toNat + ttlMs.toNat := by
  unfold DataProjectionCache.ageMs at h
  split at h
  · next hle =>
    rw [UInt64.lt_iff_toNat_lt, UInt64.toNat_sub_of_le _ _ hle] at h
    omega
  · next hback =>
    rw [UInt64.le_iff_toNat_le] at hback
    omega

theorem query_answerable (h : requestAnswerable dependencies request = true) :
    query dependencies requestId request cache answer =
      match (cache.find dependencies.ttlMs answer.lookupAtMs request request.freshness).snapshot with
      | some snapshot =>
        if (cache.find dependencies.ttlMs answer.lookupAtMs request request.freshness).fromCache then
          (cache,
            { code := none
              rowsJson := snapshot.rowsJson
              fromCache := true
              error := none }, false)
        else if (cache.find dependencies.ttlMs answer.lookupAtMs request request.freshness).state =
            .hitStale then
          (cache, dataStale dependencies request snapshot.cacheRef, false)
        else queryRouted dependencies requestId request cache answer
      | none => queryRouted dependencies requestId request cache answer := by
  unfold requestAnswerable at h
  simp only [Bool.and_eq_true, Bool.not_eq_true', Bool.or_eq_false_iff] at h
  obtain ⟨⟨⟨⟨hrequest, hrouter⟩, hbridge⟩, hmapper⟩, hcache⟩ := h
  unfold query
  simp only [hrequest, hrouter, hbridge, hmapper, hcache, Bool.or_false, Bool.not_true,
    Bool.false_eq_true, if_false]

theorem query_unanswerable (h : requestAnswerable dependencies request = false) :
    (query dependencies requestId request cache answer).1 = cache ∧
      (query dependencies requestId request cache answer).2.1.error ≠ none ∧
      (query dependencies requestId request cache answer).2.2 = false := by
  unfold query
  split
  · exact ⟨rfl, makeQueryErrorResult_error dependencies _ _ _ _ _ _ _ (by decide), rfl⟩
  · split
    · exact ⟨rfl, Option.some_ne_none _, rfl⟩
    · next hrequest hconfigured =>
      simp only [Bool.not_eq_true, Bool.or_eq_false_iff, Bool.not_eq_false'] at hrequest hconfigured
      simp [requestAnswerable, hrequest, hconfigured] at h

/-- What one query does: it serves an entry, refuses an expired one, fails, or stores what it got. -/
inductive QueryMove : DataProjectionCache × DataQueryResult × Bool → Prop
  | served (record : ProjectionCacheRecord) (rowsJson : Bytes)
      (hlookup : cache.lookup (makeCacheKey request) = some record)
      (hfresh : request.freshness = .strict →
        answer.lookupAtMs.toNat ≤ record.cachedAtMs.toNat + dependencies.ttlMs.toNat)
      (hrows : rowsJson = record.rowsJson) :
    QueryMove (cache,
      { code := none
        rowsJson
        fromCache := true
        error := none }, false)
  | failed (result : DataQueryResult) (asked : Bool) (herror : result.error ≠ none)
      (hfetched : fetchedRows asked answer = none) : QueryMove (cache, result, asked)
  | fetched (cacheRef : Bytes) (hfetched : fetchedRows true answer =
      some (answer.receipt.payloadJson, answer.storeAtMs)) :
    QueryMove (cache.store answer.storeAtMs request answer.receipt.payloadJson cacheRef,
      { code := none
        rowsJson := answer.receipt.payloadJson
        fromCache := false
        error := none }, true)

theorem queryRouted_move :
    QueryMove dependencies request cache answer
      (queryRouted dependencies requestId request cache answer) := by
  unfold queryRouted
  cases answer.routeFailure with
  | some refused =>
    exact .failed _ _ (makeQueryErrorResult_error dependencies _ _ _ _ _ _ _
      (routeFailureName_classified refused.1)) rfl
  | none =>
    obtain ⟨heffects, hclass, hanswer⟩ | ⟨hneither, hcache, herror⟩ :=
      queryAdapter_cases dependencies requestId request cache answer
    · simp only [hanswer]
      exact .fetched _ (if_pos ⟨rfl, heffects, hclass⟩)
    · simp only [hcache]
      exact .failed _ _ herror (if_neg fun h => hneither h.2)

theorem query_move :
    QueryMove dependencies request cache answer (query dependencies requestId request cache answer) := by
  cases hanswerable : requestAnswerable dependencies request with
  | false =>
    obtain ⟨hcache, herror, hasked⟩ :=
      query_unanswerable dependencies requestId request cache answer hanswerable
    have hquery : query dependencies requestId request cache answer =
        (cache, (query dependencies requestId request cache answer).2.1, false) :=
      Prod.ext hcache (Prod.ext rfl hasked)
    rw [hquery]
    exact .failed _ _ herror rfl
  | true =>
    rw [query_answerable dependencies requestId request cache answer hanswerable]
    cases hlookup : cache.lookup (makeCacheKey request) with
    | none =>
      rw [find_of_none dependencies request cache hlookup]
      exact queryRouted_move dependencies requestId request cache answer
    | some record =>
      rw [find_of_some dependencies request cache hlookup]
      simp only
      split
      · next hserve =>
        refine .served record _ hlookup (fun hstrict => ?_) rfl
        rw [hstrict] at hserve
        simp only [Bool.or_eq_true, Bool.not_eq_true', decide_eq_false_iff_not, beq_iff_eq,
          reduceCtorEq, or_false] at hserve
        exact le_of_not_stale hserve
      · split
        · exact .failed _ _ (makeQueryErrorResult_error dependencies _ _ _ _ _ _ _ (by decide)) rfl
        · exact queryRouted_move dependencies requestId request cache answer

end

/-! ## The law of a run -/

section
variable (dependencies : DataQueryLaneDependencies)

/-- Rows come from the adapter, live as long as they may, and never stand in the way of new ones. -/
structure DataQueryLaw (inputs : List QueryInput) : Prop where
  rows : Trace.EachAfter (RowsFetched SameQuestion dependencies.ttlMs)
    (Run.run (stepQuery dependencies) ∅ inputs).2
  refresh : Run.AllSteps (stepQuery dependencies) (AsIfAbsent dependencies) ∅ inputs

/-- Each entry has rows that the adapter gave to a query of its key. -/
def CacheHolds (cache : DataProjectionCache) (trace : List QueryOutcome) : Prop :=
  ∀ key record, cache.lookup key = some record → ∃ outcome ∈ trace,
    makeCacheKey outcome.request = key ∧
      outcome.fetched = some (record.rowsJson, record.cachedAtMs)

theorem CacheHolds.mono {cache : DataProjectionCache} {trace : List QueryOutcome}
    (h : CacheHolds cache trace) (outcome : QueryOutcome) :
    CacheHolds cache (trace ++ [outcome]) := by
  intro key record hlookup
  obtain ⟨found, hmem, hfound⟩ := h key record hlookup
  exact ⟨found, List.mem_append_left _ hmem, hfound⟩

theorem CacheHolds.step {cache : DataProjectionCache} {trace : List QueryOutcome}
    (h : CacheHolds cache trace) (input : QueryInput) :
    CacheHolds (stepQuery dependencies cache input).1
        (trace ++ [(stepQuery dependencies cache input).2]) ∧
      RowsFetched SameKey dependencies.ttlMs trace (stepQuery dependencies cache input).2 := by
  have hmove := query_move dependencies input.requestId input.request cache input.answer
  unfold stepQuery
  generalize query dependencies input.requestId input.request cache input.answer = answered at hmove
  cases hmove with
  | served record rowsJson hlookup hfresh hrows =>
    refine ⟨h.mono _, fun _ => Or.inr ⟨rfl, ?_⟩⟩
    obtain ⟨found, hmem, hkey, hfetched⟩ := h _ record hlookup
    refine ⟨found, hmem, record.cachedAtMs, ?_, hkey, hfresh⟩
    rw [hrows]
    exact hfetched
  | failed result asked herror hfetched =>
    exact ⟨h.mono _, fun hnone => absurd hnone herror⟩
  | fetched cacheRef hfetched =>
    refine ⟨fun key record hlookup => ?_, fun _ => Or.inl ⟨rfl, input.answer.storeAtMs, hfetched⟩⟩
    by_cases hkey : key = makeCacheKey input.request
    · subst hkey
      rw [DataProjectionCache.store, AList.lookup_insert] at hlookup
      cases hlookup
      exact ⟨_, List.mem_append_right _ (List.mem_singleton_self _), rfl, hfetched⟩
    · rw [DataProjectionCache.store, AList.lookup_insert_ne hkey] at hlookup
      exact h.mono _ key record hlookup

theorem rowsFetched_run (inputs : List QueryInput) :
    CacheHolds (Run.run (stepQuery dependencies) ∅ inputs).1
        (Run.run (stepQuery dependencies) ∅ inputs).2 ∧
      Trace.EachAfter (RowsFetched SameKey dependencies.ttlMs)
        (Run.run (stepQuery dependencies) ∅ inputs).2 := by
  have hrun := Run.invariant_trace (stepQuery dependencies) (fun _ _ => True)
    (fun cache trace => CacheHolds cache trace ∧
      Trace.EachAfter (RowsFetched SameKey dependencies.ttlMs) trace) ?_ ∅ inputs []
    ⟨fun key record hlookup => by simp at hlookup, Trace.eachAfter_nil _⟩
    (Run.allSteps_true _ _ _)
  · exact hrun
  · rintro cache trace input ⟨hcache, htrace⟩ -
    obtain ⟨hnext, hrows⟩ := hcache.step dependencies input
    exact ⟨hnext, (Trace.eachAfter_snoc _ _ _).mpr ⟨htrace, hrows⟩⟩

variable (cache : DataProjectionCache)

theorem requests_run (inputs : List QueryInput) :
    (Run.run (stepQuery dependencies) cache inputs).2.map QueryOutcome.request =
      inputs.map QueryInput.request := by
  induction inputs generalizing cache with
  | nil => rfl
  | cons input inputs ih =>
    rw [Run.run_cons, List.map_cons, List.map_cons, ih]
    rfl

/-- Among requests whose keys are their own, the same key is the same question. -/
theorem RowsFetched.sameQuestion {ttlMs : UInt64} {before : List QueryOutcome}
    {outcome : QueryOutcome} (h : RowsFetched SameKey ttlMs before outcome)
    (hkeys : ∀ earlier ∈ before, SameKey earlier.request outcome.request →
      SameQuestion earlier.request outcome.request) :
    RowsFetched SameQuestion ttlMs before outcome := by
  intro hnone
  obtain hnow | ⟨hcache, earlier, hmem, storedAtMs, hfetched, hkey, hfresh⟩ := h hnone
  · exact Or.inl hnow
  · exact Or.inr ⟨hcache, earlier, hmem, storedAtMs, hfetched, hkeys earlier hmem hkey, hfresh⟩

theorem failsFast (input : QueryInput) :
    FailsFast dependencies cache input := by
  rintro ⟨hstrict, hstale⟩ hanswerable
  rw [query_answerable dependencies input.requestId input.request cache input.answer hanswerable]
  cases hlookup : cache.lookup (makeCacheKey input.request) with
  | none =>
    unfold DataProjectionCache.find at hstale
    rw [hlookup] at hstale
    cases hstale
  | some record =>
    rw [find_of_some dependencies input.request cache hlookup] at hstale ⊢
    simp only at hstale
    by_cases hold : dependencies.ttlMs <
        DataProjectionCache.ageMs input.answer.lookupAtMs record.cachedAtMs
    · rw [hstrict]
      simp only [hold, decide_true, Bool.not_true, Bool.false_or, if_true]
      exact ⟨record.cacheRef, rfl⟩
    · rw [if_neg hold] at hstale
      cases hstale

theorem absentIsRouted (input : QueryInput) :
    AbsentIsRouted dependencies cache input := by
  intro hlookup hanswerable
  rw [query_answerable dependencies input.requestId input.request cache input.answer hanswerable,
    find_of_none dependencies input.request cache hlookup]

/--
In every run the rows of a result come from a successful answer of the adapter to a query of the
same key, and of the same question where no two questions of the run share a key; none is served
under strict freshness beyond its time. A strict query that meets an expired entry fails fast.
-/
theorem dataQueries_run (inputs : List QueryInput) :
    Trace.EachAfter (RowsFetched SameKey dependencies.ttlMs)
        (Run.run (stepQuery dependencies) ∅ inputs).2 ∧
      ((∀ first ∈ inputs, ∀ second ∈ inputs, SameKey first.request second.request →
          SameQuestion first.request second.request) →
        Trace.EachAfter (RowsFetched SameQuestion dependencies.ttlMs)
          (Run.run (stepQuery dependencies) ∅ inputs).2) ∧
      Run.AllSteps (stepQuery dependencies)
        (fun cache input => FailsFast dependencies cache input ∧
          AbsentIsRouted dependencies cache input) ∅ inputs := by
  have hrows := (rowsFetched_run dependencies inputs).2
  refine ⟨hrows, fun hkeys before outcome after hsplit => ?_, ?_⟩
  · refine (hrows before outcome after hsplit).sameQuestion fun earlier hmem hkey => ?_
    have hrequest : ∀ o ∈ (Run.run (stepQuery dependencies) ∅ inputs).2,
        ∃ input ∈ inputs, input.request = o.request := by
      intro o ho
      have hmapped := List.mem_map_of_mem (f := QueryOutcome.request) ho
      rw [requests_run] at hmapped
      exact List.mem_map.mp hmapped
    obtain ⟨first, hfirst, hsame⟩ := hrequest earlier (by rw [hsplit]; simp [hmem])
    obtain ⟨second, hsecond, hlast⟩ := hrequest outcome (by rw [hsplit]; simp)
    rw [← hsame, ← hlast] at hkey ⊢
    exact hkeys first hfirst second hsecond hkey
  · rw [Run.allSteps_iff_split]
    exact fun before input _ _ => ⟨failsFast dependencies _ input, absentIsRouted dependencies _ input⟩

end

/-! ## An expired entry -/

def devicesRequest : DataQueryRequest where
  dataset := str "devices"
  filtersJson := []
  projection := str "default"
  freshness := .strict

/-- A query of the devices at a time at which the adapter has these rows. -/
def devicesAt (nowMs : UInt64) (rowsJson : Bytes) : QueryInput where
  requestId := str "req"
  request := devicesRequest
  answer :=
    { lookupAtMs := nowMs
      storeAtMs := nowMs
      receipt :=
        { receiptRef := str "receipt"
          targetId := str "devices"
          transportOutcome := .acknowledged
          providerStatusCode := []
          payloadJson := rowsJson } }

/-- The second query comes after the entry expired, and the adapter that has new rows is not asked. -/
theorem expired_entry_blocks :
    ¬ ∀ (dependencies : DataQueryLaneDependencies) (inputs : List QueryInput),
      DataQueryLaw dependencies inputs := by
  intro h
  have hrefresh := (h { ttlMs := 100 }
    [devicesAt 1000 (str "[1]"), devicesAt 1205 (str "[2]")]).refresh
  have hblocked := hrefresh.2.1 ⟨rfl, by decide +kernel⟩
  revert hblocked
  decide +kernel

end Dasall.Services
