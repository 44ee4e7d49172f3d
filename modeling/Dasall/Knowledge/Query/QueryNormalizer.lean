import Dasall.Knowledge.Query.Identifier
import Dasall.Knowledge.Types

/-!
# The query normalizer

Brings the text, the tags and the corpora of a query into one spelling, within the limits of a
policy and of the kind of the query.
-/

open Dasall.Lib Dasall.Lib.Ascii Dasall.Lib.Text

namespace Dasall.Knowledge.Query

/-! ## Helpers -/

structure QueryKindDefaults where
  maxTopK : UInt64 := 8
  maxContextProjectionItems : UInt64 := 6
  preferExactMatch : Bool := false

def defaultsForQueryKind : KnowledgeQueryKind → QueryKindDefaults
  | .factLookup => { maxTopK := 8, maxContextProjectionItems := 6, preferExactMatch := true }
  | .procedureLookup => { maxTopK := 10, maxContextProjectionItems := 6 }
  | .diagnosticContext => { maxTopK := 12, maxContextProjectionItems := 8 }
  | .policyEvidence => { maxTopK := 8, maxContextProjectionItems := 6, preferExactMatch := true }
  | .multiHop => {}

def appendUnique (values : List Bytes) (value : Bytes) : List Bytes :=
  if values.contains value then values else values ++ [value]

def appendUniqueIf (condition : Bool) (values : List Bytes) (value : Bytes) : List Bytes :=
  if condition then appendUnique values value else values

/-- The loop of `utf8_safe_prefix_length`, down from a length to the first byte of a character. -/
def safeLengthFrom (text : Bytes) : Nat → Nat
  | 0 => 0
  | length + 1 =>
    if text.getD (length + 1) 0 &&& 0xC0 = 0x80 then safeLengthFrom text length else length + 1

def utf8SafePrefixLength (text : Bytes) (maxBytes : Nat) : Nat :=
  if text.length ≤ maxBytes then text.length else safeLengthFrom text maxBytes

def trimSpaces (value : Bytes) : Bytes := value.rdropWhile (· == 32)

def canonicalizeStep (found : List Bytes × Bool) (value : Bytes) : List Bytes × Bool :=
  let canonical := normalizeIdentifier value
  if canonical.isEmpty then (found.1, true) else (appendUnique found.1 canonical, found.2)

/-- The canonical spellings, each once, and whether a value had none. -/
def canonicalizeValues (values : List Bytes) : List Bytes × Bool :=
  values.foldl canonicalizeStep ([], false)

variable (allowed values : List Bytes) (found : List Bytes × Bool) (warning other : Bytes)

theorem mem_appendUnique (value other : Bytes) :
    other ∈ appendUnique values value ↔ other ∈ values ∨ other = value := by
  unfold appendUnique
  split
  next h =>
    rw [List.contains_iff_mem] at h
    constructor
    · exact Or.inl
    · rintro (hmem | rfl)
      · exact hmem
      · exact h
  next => simp

theorem mem_foldl_canonicalizeStep :
    other ∈ (values.foldl canonicalizeStep found).1 ↔
      other ∈ found.1 ∨ other ≠ [] ∧ ∃ value ∈ values, normalizeIdentifier value = other := by
  induction values generalizing found with
  | nil => simp
  | cons value values ih =>
    rw [List.foldl_cons, ih, canonicalizeStep]
    simp only [List.mem_cons, exists_eq_or_imp, List.isEmpty_iff]
    split
    next h => grind
    next h =>
      rw [mem_appendUnique]
      grind

theorem mem_canonicalizeValues :
    other ∈ (canonicalizeValues values).1 ↔
      other ≠ [] ∧ ∃ value ∈ values, normalizeIdentifier value = other := by
  simp [canonicalizeValues, mem_foldl_canonicalizeStep]

theorem foldl_canonicalizeStep_invalid :
    (values.foldl canonicalizeStep found).2 = true ↔
      found.2 = true ∨ ∃ value ∈ values, normalizeIdentifier value = [] := by
  induction values generalizing found with
  | nil => simp
  | cons value values ih =>
    rw [List.foldl_cons, ih, canonicalizeStep]
    simp only [List.mem_cons, exists_eq_or_imp, List.isEmpty_iff]
    split <;> simp_all

theorem canonicalizeValues_invalid :
    (canonicalizeValues values).2 = true ↔ ∃ value ∈ values, normalizeIdentifier value = [] := by
  simp [canonicalizeValues, foldl_canonicalizeStep_invalid]

/-! ## The policy -/

structure QueryNormalizePolicy where
  maxQueryTextBytes : UInt64 := 512
  maxLexicalTerms : UInt64 := 16
  maxTopK : UInt64 := 12
  maxContextProjectionItems : UInt64 := 8
  allowedDomainTags : List Bytes := []
  allowedCorpora : List Bytes := []
  domainTagAliases : OrderedMap Bytes Bytes := OrderedMap.empty

def QueryNormalizePolicy.hasConsistentValues (policy : QueryNormalizePolicy) : Bool :=
  let (canonicalDomainTags, sawInvalidDomainTag) := canonicalizeValues policy.allowedDomainTags
  let (canonicalCorpora, sawInvalidCorpus) := canonicalizeValues policy.allowedCorpora
  policy.maxQueryTextBytes != 0 && policy.maxLexicalTerms != 0 && policy.maxTopK != 0 &&
    policy.maxContextProjectionItems != 0 &&
    !sawInvalidDomainTag && canonicalDomainTags.length == policy.allowedDomainTags.length &&
    !sawInvalidCorpus && canonicalCorpora.length == policy.allowedCorpora.length &&
    policy.domainTagAliases.entries.all fun (tagAlias, canonical) =>
      !(normalizeIdentifier tagAlias).isEmpty && !(normalizeIdentifier canonical).isEmpty &&
        (canonicalDomainTags.isEmpty ||
          canonicalDomainTags.contains (normalizeIdentifier canonical))

def resolveTagAlias (aliases : OrderedMap Bytes Bytes) (value : Bytes) : Option Bytes :=
  (aliases.entries.find? fun entry => normalizeIdentifier entry.1 == value).map
    fun entry => normalizeIdentifier entry.2

/-! ## The text -/

/-- The loop of `canonicalize_text`. -/
def canonicalTextLoop (canonicalText : Bytes) (previousWasSpace : Bool) : Bytes → Bytes
  | [] => canonicalText
  | byte :: rest =>
    if isSpace byte then
      canonicalTextLoop
        (if !canonicalText.isEmpty && !previousWasSpace then canonicalText ++ [32]
          else canonicalText) true rest
    else
      canonicalTextLoop (canonicalText ++ [if byte < 128 then toLower byte else byte]) false rest

def canonicalizeText (policy : QueryNormalizePolicy) (queryText : Bytes) (warnings : List Bytes) :
    Bytes × List Bytes :=
  let canonicalText := trimSpaces (canonicalTextLoop [] true queryText)
  if policy.maxQueryTextBytes.toNat < canonicalText.length then
    let safeLength := utf8SafePrefixLength canonicalText policy.maxQueryTextBytes.toNat
    (trimSpaces (canonicalText.take safeLength),
      appendUnique warnings (str "query_text_truncated"))
  else (canonicalText, warnings)

/-- `flush_current_term`, with the terms and the warnings that it writes to. -/
def flushCurrentTerm (policy : QueryNormalizePolicy) (currentTerm : Bytes)
    (lexicalTerms warnings : List Bytes) : List Bytes × List Bytes :=
  if currentTerm.isEmpty || lexicalTerms.contains currentTerm then (lexicalTerms, warnings)
  else if lexicalTerms.length < policy.maxLexicalTerms.toNat then
    (lexicalTerms ++ [currentTerm], warnings)
  else (lexicalTerms, appendUnique warnings (str "lexical_terms_clamped"))

def lexicalTermsLoop (policy : QueryNormalizePolicy) (currentTerm : Bytes)
    (lexicalTerms warnings : List Bytes) : Bytes → List Bytes × List Bytes
  | [] => flushCurrentTerm policy currentTerm lexicalTerms warnings
  | byte :: rest =>
    if isAlnum byte || 128 ≤ byte then
      lexicalTermsLoop policy (currentTerm ++ [if byte < 128 then toLower byte else byte])
        lexicalTerms warnings rest
    else
      let (lexicalTerms, warnings) := flushCurrentTerm policy currentTerm lexicalTerms warnings
      lexicalTermsLoop policy [] lexicalTerms warnings rest

def deriveLexicalTerms (policy : QueryNormalizePolicy) (text : Bytes) (warnings : List Bytes) :
    List Bytes × List Bytes :=
  lexicalTermsLoop policy [] [] warnings text

/-! ## Tags, language and corpora -/

def filterStep (allowed : List Bytes) (warning : Bytes) (found : List Bytes × List Bytes)
    (value : Bytes) : List Bytes × List Bytes :=
  if !allowed.isEmpty && !allowed.contains value then (found.1, appendUnique found.2 warning)
  else (appendUnique found.1 value, found.2)

/-- The values that are on the list, where there is one, each once. -/
def filterAllowed (allowed : List Bytes) (warning : Bytes) (values warnings : List Bytes) :
    List Bytes × List Bytes :=
  values.foldl (filterStep allowed warning) ([], warnings)

theorem mem_foldl_filterStep (values : List Bytes)
    (found : List Bytes × List Bytes) (other : Bytes) :
    other ∈ (values.foldl (filterStep allowed warning) found).1 ↔
      other ∈ found.1 ∨ other ∈ values ∧ (allowed = [] ∨ other ∈ allowed) := by
  induction values generalizing found with
  | nil => simp
  | cons value values ih =>
    rw [List.foldl_cons, ih, filterStep]
    split
    next h =>
      simp only [Bool.and_eq_true, Bool.not_eq_true', List.isEmpty_eq_false_iff, ne_eq,
        List.contains_eq_mem, decide_eq_false_iff_not] at h
      grind
    next h =>
      rw [mem_appendUnique]
      have hvalue : allowed = [] ∨ value ∈ allowed := by
        by_contra hnot
        rw [not_or] at hnot
        exact h (by simp [hnot.1, hnot.2])
      grind

theorem mem_filterAllowed (values warnings : List Bytes)
    (other : Bytes) :
    other ∈ (filterAllowed allowed warning values warnings).1 ↔
      other ∈ values ∧ (allowed = [] ∨ other ∈ allowed) := by
  simp [filterAllowed, mem_foldl_filterStep]

def normalizeTags (policy : QueryNormalizePolicy) (tags warnings : List Bytes)
    (droppedInvalidWarning filteredAllowlistWarning : Bytes) : List Bytes × List Bytes :=
  let (normalizedTags, sawInvalid) := canonicalizeValues tags
  let warnings := appendUniqueIf sawInvalid warnings droppedInvalidWarning
  let resolvedTags := normalizedTags.map fun tag =>
    (resolveTagAlias policy.domainTagAliases tag).getD tag
  filterAllowed (canonicalizeValues policy.allowedDomainTags).1 filteredAllowlistWarning
    resolvedTags warnings

def normalizeRequiredTags (tags : List Bytes) : Option (List Bytes) :=
  let (normalizedTags, sawInvalid) := canonicalizeValues tags
  if sawInvalid then none else some normalizedTags

def normalizeRequiredLanguage (language : Option Bytes) : Option Bytes :=
  language.bind fun language =>
    let normalizedLanguage := normalizeIdentifier language
    if normalizedLanguage.isEmpty then none else some normalizedLanguage

def normalizeAllowedCorpora (policy : QueryNormalizePolicy) (corpora warnings : List Bytes) :
    List Bytes × List Bytes :=
  let (normalizedCorpora, sawInvalid) := canonicalizeValues corpora
  let warnings := appendUniqueIf sawInvalid warnings (str "allowed_corpus_dropped_invalid")
  filterAllowed (canonicalizeValues policy.allowedCorpora).1
    (str "allowed_corpus_filtered_allowlist") normalizedCorpora warnings

/-- A bound of the query: the default for zero, and no more than the ceiling. -/
def clampBound (asked default policyMaximum : UInt64) (defaultedWarning clampedWarning : Bytes)
    (warnings : List Bytes) : UInt64 × List Bytes :=
  let value := if asked = 0 then default else asked
  let warnings := appendUniqueIf (asked == 0) warnings defaultedWarning
  let ceiling := min policyMaximum default
  if ceiling < value then (ceiling, appendUnique warnings clampedWarning) else (value, warnings)

/-! ## The whole query -/

def normalizerError (code : KnowledgeErrorCode) (message refId : String) : KnowledgeError :=
  makeKnowledgeErrorInfo code (str message) (str "query_normalizer.normalize") (str refId)

def normalize (policy : QueryNormalizePolicy) (query : KnowledgeQuery) :
    Except KnowledgeError NormalizedQuery := do
  if !policy.hasConsistentValues then
    throw (normalizerError .internalError "query normalize policy is inconsistent"
      "normalizer_policy_inconsistent")
  if query.requestId.isEmpty then
    throw (normalizerError .queryValidationFailed "request_id must be non-empty"
      "query_validation_failed")
  if query.queryKind = .multiHop then
    throw (normalizerError .notSupported "multi-hop query kind is reserved in v1" "not_supported")
  let (normalizedText, warnings) := canonicalizeText policy query.queryText []
  if normalizedText.isEmpty then
    throw (normalizerError .queryValidationFailed
      "query_text must contain non-whitespace content" "query_validation_failed")
  let (lexicalTerms, warnings) := deriveLexicalTerms policy normalizedText warnings
  if lexicalTerms.isEmpty then
    throw (normalizerError .queryValidationFailed
      "query_text produced no lexical terms after normalization" "query_validation_failed")
  let defaults := defaultsForQueryKind query.queryKind
  let (domainTags, warnings) := normalizeTags policy query.domainTags warnings
    (str "domain_tag_dropped_invalid") (str "domain_tag_filtered_allowlist")
  let (allowedCorpora, warnings) := normalizeAllowedCorpora policy query.allowedCorpora warnings
  let some requiredTags := normalizeRequiredTags query.requiredTags
    | throw (normalizerError .queryValidationFailed
        "required_tags must contain non-empty normalized values" "query_validation_failed")
  let requiredLanguage := normalizeRequiredLanguage query.requiredLanguage
  if query.requiredLanguage.isSome && requiredLanguage.isNone then
    throw (normalizerError .queryValidationFailed
      "required_language must contain a non-empty normalized value" "query_validation_failed")
  let (topK, warnings) := clampBound query.topK defaults.maxTopK policy.maxTopK
    (str "top_k_defaulted") (str "top_k_clamped") warnings
  let (maxContextProjectionItems, warnings) := clampBound query.maxContextProjectionItems
    defaults.maxContextProjectionItems policy.maxContextProjectionItems
    (str "max_context_projection_items_defaulted") (str "max_context_projection_items_clamped")
    warnings
  pure
    { requestId := query.requestId
      normalizedText, lexicalTerms
      preferredMode := query.preferredMode
      domainTags, allowedCorpora, requiredTags, requiredLanguage
      queryKind := query.queryKind
      topK, maxContextProjectionItems
      preferExactMatch := defaults.preferExactMatch
      allowStale := query.allowStale
      warnings }

end Dasall.Knowledge.Query
