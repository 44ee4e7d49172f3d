import Dasall.Lib.OrderedMap
import Dasall.Lib.Text
import Mathlib.Data.List.Dedup

/-!
# Knowledge types

The values that the parts of the knowledge module exchange, each with its consistency check.
-/

open Dasall.Lib Dasall.Lib.Text

namespace Dasall.Knowledge

/-- The values are sorted and compared with their neighbours, which finds every duplicate. -/
def hasUniqueValues (values : List Bytes) : Bool := values.Nodup

@[simp] theorem hasUniqueValues_iff (values : List Bytes) :
    hasUniqueValues values = true ↔ values.Nodup := by
  simp [hasUniqueValues]

def appendReasonCode (reasonCodes : List Bytes) (reasonCode : Bytes) : List Bytes :=
  if reasonCodes.contains reasonCode then reasonCodes else reasonCodes ++ [reasonCode]

inductive KnowledgeQueryKind
  | factLookup
  | procedureLookup
  | diagnosticContext
  | policyEvidence
  | multiHop
deriving DecidableEq, Repr

inductive RetrievalMode
  | lexicalOnly
  | denseOnly
  | hybrid
deriving DecidableEq, Repr

inductive FreshnessState
  | fresh
  | staleAllowed
  | staleRejected
  | unknown
deriving DecidableEq, Repr

inductive TrustLevel
  | trusted
  | quarantined
  | unregistered
deriving DecidableEq, Repr

inductive AuthorityLevel
  | normative
  | reference
  | advisory
deriving DecidableEq, Repr

def AuthorityLevel.toNat : AuthorityLevel → Nat
  | normative => 0
  | reference => 1
  | advisory => 2

inductive SourceKind
  | file
  | configSnapshot
  | curatedBundle
deriving DecidableEq, Repr

inductive SourceFormat
  | markdown
  | yaml
  | text
deriving DecidableEq, Repr

/-! ## Errors -/

inductive KnowledgeErrorCode
  | unspecified
  | queryValidationFailed
  | disabled
  | indexStaleRejected
  | evidenceBudgetExhausted
  | notSupported
  | noCorpusAvailable
  | indexUnavailable
  | vectorBackendUnavailable
  | refreshFailed
  | notInitialized
  | recallTimeout
  | refreshBusy
  | internalError
deriving DecidableEq, Repr

/-- The name of a code, which is also its default reference. -/
def knowledgeErrorCodeName : KnowledgeErrorCode → Bytes
  | .unspecified => str "unspecified"
  | .queryValidationFailed => str "query_validation_failed"
  | .disabled => str "disabled"
  | .indexStaleRejected => str "index_stale_rejected"
  | .evidenceBudgetExhausted => str "evidence_budget_exhausted"
  | .notSupported => str "not_supported"
  | .noCorpusAvailable => str "no_corpus_available"
  | .indexUnavailable => str "index_unavailable"
  | .vectorBackendUnavailable => str "vector_backend_unavailable"
  | .refreshFailed => str "refresh_failed"
  | .notInitialized => str "not_initialized"
  | .recallTimeout => str "recall_timeout"
  | .refreshBusy => str "refresh_busy"
  | .internalError => str "internal_error"

/-- What the callers of this module read of an `ErrorInfo`. -/
structure KnowledgeError where
  code : KnowledgeErrorCode
  message : Bytes
  stage : Bytes
  refId : Bytes
deriving DecidableEq

def makeKnowledgeErrorInfo (code : KnowledgeErrorCode) (message stage : Bytes)
    (refId : Bytes := []) : KnowledgeError :=
  { code, message, stage, refId := if refId = [] then knowledgeErrorCodeName code else refId }

/-! ## Corpora -/

structure CorpusDescriptor where
  corpusId : Bytes
  displayName : Bytes
  sourceUri : Bytes
  trustLevel : TrustLevel := .trusted
  authorityLevel : AuthorityLevel := .reference
  sourceKind : SourceKind := .file
  allowedFormats : List SourceFormat := [.markdown]
  includeGlobs : List Bytes := []
  excludeGlobs : List Bytes := []
  supportedModes : List RetrievalMode := [.lexicalOnly]
  activeSnapshotId : Bytes := []
  lastUpdatedMs : Int64 := 0
  tags : List Bytes := []
  metadata : OrderedMap Bytes Bytes := OrderedMap.empty
deriving DecidableEq

def metadataContains (metadata : OrderedMap Bytes Bytes) (key : Bytes) : Bool :=
  metadata.entries.any fun entry => entry.1 == key

def CorpusDescriptor.hasConsistentValues (descriptor : CorpusDescriptor) : Bool :=
  !descriptor.corpusId.isEmpty && !descriptor.displayName.isEmpty &&
    !descriptor.sourceUri.isEmpty && !descriptor.allowedFormats.isEmpty &&
    !descriptor.includeGlobs.isEmpty && !descriptor.supportedModes.isEmpty &&
    decide (0 ≤ descriptor.lastUpdatedMs) && hasUniqueValues descriptor.tags &&
    metadataContains descriptor.metadata (str "baseline_class") &&
    metadataContains descriptor.metadata (str "owner_module") &&
    metadataContains descriptor.metadata (str "refresh_strategy") &&
    metadataContains descriptor.metadata (str "default_language")

/-! ## Configuration and freshness -/

structure KnowledgeConfigSnapshot where
  knowledgeEnabled : Bool := false
  vectorEnabled : Bool := false
  retrievalModeDefault : RetrievalMode := .lexicalOnly
  evidenceBudgetTokens : UInt64 := 0
  maxContextProjectionItems : UInt64 := 0
  catalogRefreshIntervalMs : Int64 := 0
  catalogExpireAfterMs : Int64 := 0
  failureBackoffMs : Int64 := 0
  requestDeadlineMs : Int64 := 0
  allowBudgetDegrade : Bool := false
  maxParallelRecall : UInt64 := 1
  sparseRecallTimeoutMs : Int64 := 0
  denseRecallTimeoutMs : Int64 := 0
  ingestTimeoutMs : Int64 := 0
deriving DecidableEq

def KnowledgeConfigSnapshot.hasConsistentValues (config : KnowledgeConfigSnapshot) : Bool :=
  if !config.knowledgeEnabled then config.retrievalModeDefault == .lexicalOnly
  else if !config.vectorEnabled && config.retrievalModeDefault != .lexicalOnly then false
  else
    decide (0 < config.evidenceBudgetTokens) && decide (0 < config.maxContextProjectionItems) &&
      decide (0 < config.catalogRefreshIntervalMs) &&
      decide (config.catalogRefreshIntervalMs ≤ config.catalogExpireAfterMs) &&
      decide (0 ≤ config.failureBackoffMs) && decide (0 < config.requestDeadlineMs) &&
      decide (0 < config.maxParallelRecall) && decide (0 < config.sparseRecallTimeoutMs) &&
      decide (0 < config.denseRecallTimeoutMs) && decide (0 < config.ingestTimeoutMs)

structure FreshnessSnapshot where
  state : FreshnessState := .unknown
  ageMs : Int64 := 0
  staleReadAllowed : Bool := false
  rebuildRecommended : Bool := false
  reasonCodes : List Bytes := []
deriving DecidableEq

def FreshnessSnapshot.hasConsistentValues (freshness : FreshnessSnapshot) : Bool :=
  if decide (freshness.ageMs < 0) || !hasUniqueValues freshness.reasonCodes then false
  else
    match freshness.state with
    | .fresh => !freshness.staleReadAllowed && !freshness.rebuildRecommended
    | .staleAllowed => freshness.staleReadAllowed && freshness.rebuildRecommended
    | .staleRejected => !freshness.staleReadAllowed && freshness.rebuildRecommended
    | .unknown => !freshness.staleReadAllowed

/-! ## Queries -/

structure KnowledgeQuery where
  requestId : Bytes
  queryText : Bytes
  preferredMode : Option RetrievalMode := none
  queryKind : KnowledgeQueryKind := .factLookup
  domainTags : List Bytes := []
  allowedCorpora : List Bytes := []
  requiredTags : List Bytes := []
  requiredLanguage : Option Bytes := none
  topK : UInt64 := 8
  maxContextProjectionItems : UInt64 := 6
  allowStale : Bool := false
deriving DecidableEq

structure NormalizedQuery where
  requestId : Bytes
  normalizedText : Bytes
  lexicalTerms : List Bytes
  preferredMode : Option RetrievalMode := none
  domainTags : List Bytes := []
  allowedCorpora : List Bytes := []
  requiredTags : List Bytes := []
  requiredLanguage : Option Bytes := none
  queryKind : KnowledgeQueryKind := .factLookup
  topK : UInt64 := 8
  maxContextProjectionItems : UInt64 := 6
  preferExactMatch : Bool := false
  allowStale : Bool := false
  warnings : List Bytes := []
deriving DecidableEq

def NormalizedQuery.hasConsistentValues (query : NormalizedQuery) : Bool :=
  !query.requestId.isEmpty && !query.normalizedText.isEmpty && !query.lexicalTerms.isEmpty &&
    query.queryKind != .multiHop && decide (0 < query.topK) &&
    decide (0 < query.maxContextProjectionItems) && hasUniqueValues query.lexicalTerms &&
    hasUniqueValues query.domainTags && hasUniqueValues query.allowedCorpora &&
    hasUniqueValues query.requiredTags && query.requiredLanguage != some [] &&
    hasUniqueValues query.warnings

end Dasall.Knowledge
