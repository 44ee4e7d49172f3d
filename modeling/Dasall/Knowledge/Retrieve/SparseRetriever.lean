import Dasall.Knowledge.Index.LexicalSearch
import Dasall.Knowledge.Query.CorpusRouter
import Dasall.Lib.Sort
import Dasall.Knowledge.Query.NormalizedText

/-!
# The sparse retriever

Asks the index for the rows of a plan, filters them once more, and cuts a snippet around the
sentence of each that has the most terms of the query.
-/

open Dasall.Knowledge.Index Dasall.Knowledge.Query Dasall.Lib.Ascii Dasall.Lib.Sort
open Dasall.Lib.Text Dasall.Lib

  Dasall.Lib.Utf8

namespace Dasall.Knowledge.Retrieve

/-! ## Text -/

def trimCopy (value : Bytes) : Bytes := (value.dropWhile isSpace).rdropWhile isSpace

/-- The loop of `collapse_whitespace`. -/
def collapseLoop (collapsed : Bytes) (previousWasSpace : Bool) : Bytes → Bytes
  | [] => collapsed
  | character :: rest =>
    if isSpace character then
      collapseLoop
        (if !previousWasSpace && !collapsed.isEmpty then collapsed ++ [32] else collapsed) true rest
    else collapseLoop (collapsed ++ [character]) false rest

def collapseWhitespace (value : Bytes) : Bytes :=
  let collapsed := collapseLoop [] false value
  if collapsed.getLast? = some 32 then collapsed.dropLast else collapsed

/-! ## Query expressions -/

/-- The words of the text, for a query without terms. -/
def textTerms (currentTerm : Bytes) : Bytes → List Bytes
  | [] => if currentTerm.isEmpty then [] else [currentTerm]
  | character :: rest =>
    if isSpace character then
      (if currentTerm.isEmpty then [] else [currentTerm]) ++ textTerms [] rest
    else textTerms (currentTerm ++ [character]) rest

def deriveTerms (query : NormalizedQuery) : List Bytes :=
  if !query.lexicalTerms.isEmpty then query.lexicalTerms else textTerms [] query.normalizedText

def escapeFtsLiteral (value : Bytes) : Bytes :=
  value.flatMap fun character => if character = 34 then [34, character] else [character]

def buildTermExpression (lexicalTerms : List Bytes) : Bytes :=
  (str " AND ").intercalate (lexicalTerms.map fun term => 34 :: escapeFtsLiteral term ++ [34])

def buildPhraseExpression (lexicalTerms : List Bytes) : Bytes :=
  34 :: (str " ").intercalate (lexicalTerms.map escapeFtsLiteral) ++ [34]

def buildQueryExpression (query : NormalizedQuery) : SparseQueryExpression :=
  let lexicalTerms := deriveTerms query
  if lexicalTerms.isEmpty then { matchExpression := [], lexicalTerms := [] }
  else
    let exactPhrasePreferred := query.preferExactMatch && decide (1 < lexicalTerms.length)
    let termExpression := buildTermExpression lexicalTerms
    { matchExpression :=
        if exactPhrasePreferred then
          str "(" ++ buildPhraseExpression lexicalTerms ++ str ") OR (" ++ termExpression ++ str ")"
        else termExpression
      lexicalTerms, exactPhrasePreferred }

/-! ## Sentences -/

def utf8SentenceDelimiters : List Bytes := [utf8 "。", utf8 "！", utf8 "？", utf8 "；"]

def isAsciiSentenceDelimiter (character : Byte) : Bool :=
  [46, 33, 63, 59, 10].contains character

/-- The length of the delimiter at the head of the text, or zero. -/
def delimiterSize (text : Bytes) : Nat :=
  match utf8SentenceDelimiters.find? fun delimiter => delimiter.isPrefixOf text with
  | some delimiter => delimiter.length
  | none => if text.head?.any isAsciiSentenceDelimiter then 1 else 0

/-- The loop over the text, which every step shortens. -/
def sentenceLoop (sentence : Bytes) (text : Bytes) : Nat → List Bytes
  | 0 => [sentence]
  | fuel + 1 =>
    match text with
    | [] => [sentence]
    | character :: rest =>
      let size := delimiterSize text
      if 0 < size then
        (sentence ++ text.take size) :: sentenceLoop [] (text.drop size) fuel
      else sentenceLoop (sentence ++ [character]) rest fuel

def splitSentences (chunkText : Bytes) : List Bytes :=
  let sentences := ((sentenceLoop [] chunkText chunkText.length).map trimCopy).filter
    fun sentence => !sentence.isEmpty
  if sentences.isEmpty && !(trimCopy chunkText).isEmpty then [trimCopy chunkText] else sentences

/-- `std::string::find` of a text that is not empty. -/
def containsText (text pattern : Bytes) : Bool := text.tails.any fun tail => pattern.isPrefixOf tail

def sentenceScore (sentence : Bytes) (lexicalTerms : List Bytes) : Nat :=
  (lexicalTerms.filter fun term => !term.isEmpty && containsText (lower sentence) (lower term)).length

/-- The first sentence with the best score. -/
def findAnchorSentence (sentences : List Bytes) (lexicalTerms : List Bytes) : Nat :=
  (sentences.zipIdx.foldl (fun (anchorIndex, bestScore) (sentence, index) =>
    if bestScore < sentenceScore sentence lexicalTerms then
      (index, sentenceScore sentence lexicalTerms)
    else (anchorIndex, bestScore)) (0, 0)).1

/-! ## Snippets -/

structure SparseRetrieverPolicy where
  sentenceWindow : UInt64 := 1
  maxSnippetCharacters : UInt64 := 320

def shortenSnippet (policy : SparseRetrieverPolicy) (snippet : Bytes) : Bytes :=
  if policy.maxSnippetCharacters.toNat < snippet.length && decide (3 < policy.maxSnippetCharacters)
  then snippet.take (policy.maxSnippetCharacters - 3).toNat ++ str "..."
  else snippet

/-- The sentences around the anchor. -/
def sentenceWindow (policy : SparseRetrieverPolicy) (lexicalTerms : List Bytes)
    (sentences : List Bytes) : List Bytes :=
  let anchorIndex := UInt64.ofNat (findAnchorSentence sentences lexicalTerms)
  let windowBegin :=
    if policy.sentenceWindow < anchorIndex then anchorIndex - policy.sentenceWindow else 0
  let windowEnd := min sentences.length (anchorIndex + policy.sentenceWindow + 1).toNat
  (sentences.take windowEnd).drop windowBegin.toNat

def buildWindowSnippet (policy : SparseRetrieverPolicy) (chunkText : Bytes)
    (lexicalTerms : List Bytes) : Bytes :=
  let sentences := splitSentences chunkText
  if sentences.isEmpty then []
  else
    shortenSnippet policy
      (collapseWhitespace ([32].intercalate (sentenceWindow policy lexicalTerms sentences)))

/-- The window around the best sentence, or else the text of the chunk. -/
def makeSnippet (policy : SparseRetrieverPolicy) (chunkText : Bytes) (lexicalTerms : List Bytes) :
    Bytes :=
  let snippet := buildWindowSnippet policy chunkText lexicalTerms
  if snippet.isEmpty then shortenSnippet policy (collapseWhitespace chunkText) else snippet

/-! ## Retrieval -/

structure SparseRetrieveRequest where
  normalizedQuery : NormalizedQuery
  plan : RetrievalPlan
  requiredLanguage : Option Bytes := none

section
variable {R S : Type}

def minimumAuthorityLevel : KnowledgeQueryKind → AuthorityLevel := minimumAuthority

/-- The request to the index. -/
def SparseRetrieveRequest.searchRequest (request : SparseRetrieveRequest) :
    SparseIndexSearchRequest :=
  { expression := buildQueryExpression request.normalizedQuery
    allowedCorpusIds := request.plan.corpusIds
    requiredTags := request.normalizedQuery.requiredTags
    requiredLanguage := request.requiredLanguage
    minimumAuthorityLevel := minimumAuthorityLevel request.normalizedQuery.queryKind
    topK := request.plan.sparseTopK }

variable [LinearOrder S]

end

/-!
## Tags that a query and the catalog spell alike

The normalizer rewrites the tags and the corpus ids of a query. The router compares them with the
catalog byte by byte, and the index and the retriever in lower case, so that only tags that the
normalizer would leave as they are can be found again.
-/

/-! ## The filters -/

section
variable {R : Type}

/-- The query asks for the corpus and for tags that the chunk and its corpus carry, byte by byte. -/
structure Asks (policy : QueryNormalizePolicy) (query : KnowledgeQuery)
    (catalog : CorpusCatalogSnapshot) (descriptor : CorpusDescriptor) (chunk : ChunkRow R) :
    Prop where
  normalizable : Normalizable policy query
  registered : descriptor ∈ catalog.descriptors
  corpus : chunk.corpusId = descriptor.corpusId
  carried : ∀ tag, tag ∈ query.requiredTags ∨ tag ∈ query.domainTags →
    tag ∈ chunk.read.tags ∧ tag ∈ descriptor.tags
  allowed : query.allowedCorpora ≠ [] → descriptor.corpusId ∈ query.allowedCorpora

/-- The router keeps the corpus, and the index and the retriever keep the chunk, as far as tags and
corpora go. -/
structure PassesTagFilters (normalized : NormalizedQuery) (catalog : CorpusCatalogSnapshot)
    (descriptor : CorpusDescriptor) (chunk : ChunkRow R) : Prop where
  routerTags : descriptor ∈ catalog.filterByTags normalized.domainTags
  routerCorpora : matchesAllowedCorpora normalized descriptor = true
  index : ∀ request : SparseRetrieveRequest, request.normalizedQuery = normalized →
    descriptor.corpusId ∈ request.plan.corpusIds →
      request.searchRequest.allowedCorpusIds.contains chunk.read.corpusId = true ∧
        containsAllTags chunk.read.tags request.searchRequest.requiredTags = true
  retriever : ∀ request : SparseRetrieveRequest, request.normalizedQuery = normalized →
    descriptor.corpusId ∈ request.plan.corpusIds →
      request.plan.corpusIds.contains chunk.read.corpusId = true ∧
        containsAllTags chunk.read.tags request.normalizedQuery.requiredTags = true

/-- The query is normalised, and what comes of it excludes neither the corpus nor the chunk. -/
def KeptByTags (policy : QueryNormalizePolicy) (query : KnowledgeQuery)
    (catalog : CorpusCatalogSnapshot) (descriptor : CorpusDescriptor) (chunk : ChunkRow R) : Prop :=
  ∃ normalized, normalize policy query = .ok normalized ∧
    PassesTagFilters normalized catalog descriptor chunk

/-- What is asked for is there in the spelling of the normalizer. -/
structure SpelledAlike (policy : QueryNormalizePolicy) (query : KnowledgeQuery)
    (descriptor : CorpusDescriptor) (chunk : ChunkRow R) : Prop where
  required : ∀ tag ∈ query.requiredTags, ∃ other ∈ chunk.read.tags,
    Plain (lower other) ∧ SameIdentifier other tag
  domain : ∀ tag ∈ query.domainTags, Named tag →
    Listed policy.allowedDomainTags (aliasTarget policy.domainTagAliases tag) →
      ∃ other ∈ descriptor.tags, Plain other ∧
        SameIdentifier other (aliasTarget policy.domainTagAliases tag)
  corpora : (∀ corpus ∈ query.allowedCorpora, Named corpus → ¬ Listed policy.allowedCorpora corpus) ∨
    Plain descriptor.corpusId ∧ Listed policy.allowedCorpora descriptor.corpusId

theorem containsAllTags_iff (candidateTags requiredTags : List Bytes) :
    containsAllTags candidateTags requiredTags = true ↔
      ∀ tag ∈ requiredTags, lower tag ∈ candidateTags.map lower := by
  simp [containsAllTags]

theorem passesTagFilters_iff (normalized : NormalizedQuery) (catalog : CorpusCatalogSnapshot)
    (descriptor : CorpusDescriptor) (chunk : ChunkRow R)
    (hmem : descriptor ∈ catalog.descriptors) (hcorpus : chunk.corpusId = descriptor.corpusId) :
    PassesTagFilters normalized catalog descriptor chunk ↔
      (∀ tag ∈ normalized.domainTags, tag ∈ descriptor.tags) ∧
        (normalized.allowedCorpora = [] ∨ descriptor.corpusId ∈ normalized.allowedCorpora) ∧
        ∀ tag ∈ normalized.requiredTags, lower tag ∈ chunk.read.tags.map lower := by
  have hread : chunk.read.corpusId = descriptor.corpusId := hcorpus
  rw [← containsAllTags_iff]
  constructor
  · rintro ⟨htags, hallowed, hindex, -⟩
    let plan : RetrievalPlan :=
      { mode := .lexicalOnly, corpusIds := [descriptor.corpusId], sparseTopK := 1, denseTopK := 0
        allowPartialResults := false, allowStaleSnapshot := false, maxProjectionItems := 1
        routeReasonCodes := [] }
    rw [CorpusCatalogSnapshot.mem_filterByTags] at htags
    refine ⟨htags.2, ?_, (hindex ⟨normalized, plan, none⟩ rfl List.mem_cons_self).2⟩
    simpa [matchesAllowedCorpora] using hallowed
  · rintro ⟨htags, hallowed, hrequired⟩
    refine ⟨?_, ?_, ?_, ?_⟩
    · rw [CorpusCatalogSnapshot.mem_filterByTags]
      exact ⟨hmem, htags⟩
    · simpa [matchesAllowedCorpora] using hallowed
    · rintro request rfl hplan
      rw [hread]
      exact ⟨List.contains_iff_mem.mpr hplan, hrequired⟩
    · rintro request rfl hplan
      rw [hread]
      exact ⟨List.contains_iff_mem.mpr hplan, hrequired⟩

/-- The required tags that name nothing turn the query away, and the others are looked for in lower
case. -/
theorem required_iff (tags chunkTags : List Bytes) :
    (∃ required, normalizeRequiredTags tags = some required ∧
        ∀ tag ∈ required, lower tag ∈ chunkTags.map lower) ↔
      ∀ tag ∈ tags, ∃ other ∈ chunkTags, Plain (lower other) ∧ SameIdentifier other tag := by
  simp only [← normalized_mem_lower_iff]
  constructor
  · rintro ⟨required, hrequired, hall⟩ tag hmem
    have hnamed := (normalizeRequiredTags_eq_some tags).mp ⟨required, hrequired⟩ tag hmem
    refine ⟨(normalizeIdentifier_ne_nil tag).mpr hnamed, hall _ ?_⟩
    exact (mem_normalizeRequiredTags hrequired _).mpr ⟨tag, hmem, hnamed, rfl⟩
  · intro hall
    obtain ⟨required, hrequired⟩ := (normalizeRequiredTags_eq_some tags).mpr fun tag hmem =>
      (normalizeIdentifier_ne_nil tag).mp (hall tag hmem).1
    refine ⟨required, hrequired, fun other hother => ?_⟩
    obtain ⟨tag, hmem, -, rfl⟩ := (mem_normalizeRequiredTags hrequired other).mp hother
    exact (hall tag hmem).2

theorem domain_iff {policy : QueryNormalizePolicy} (h : policy.hasConsistentValues = true)
    (tags warnings corpusTags : List Bytes) (dropped filtered : Bytes) :
    (∀ other ∈ (normalizeTags policy tags warnings dropped filtered).1, other ∈ corpusTags) ↔
      ∀ tag ∈ tags, Named tag →
        Listed policy.allowedDomainTags (aliasTarget policy.domainTagAliases tag) →
          ∃ other ∈ corpusTags, Plain other ∧
            SameIdentifier other (aliasTarget policy.domainTagAliases tag) := by
  simp only [mem_normalizeTags h, ← normalized_mem_iff]
  constructor
  · intro hall tag hmem hnamed hlisted
    refine ⟨?_, hall _ ⟨tag, hmem, hnamed, hlisted, rfl⟩⟩
    rw [normalizeIdentifier_ne_nil]
    exact named_aliasTarget h tag hnamed
  · rintro hall _ ⟨tag, hmem, hnamed, hlisted, rfl⟩
    exact (hall tag hmem hnamed hlisted).2

theorem corpora_iff {policy : QueryNormalizePolicy} (h : policy.hasConsistentValues = true)
    (corpora warnings : List Bytes) (corpusId : Bytes) (hasked : corpora ≠ [] → corpusId ∈ corpora) :
    ((normalizeAllowedCorpora policy corpora warnings).1 = [] ∨
        corpusId ∈ (normalizeAllowedCorpora policy corpora warnings).1) ↔
      (∀ corpus ∈ corpora, Named corpus → ¬ Listed policy.allowedCorpora corpus) ∨
        Plain corpusId ∧ Listed policy.allowedCorpora corpusId := by
  have hnil : (normalizeAllowedCorpora policy corpora warnings).1 = [] ↔
      ∀ corpus ∈ corpora, Named corpus → ¬ Listed policy.allowedCorpora corpus := by
    rw [List.eq_nil_iff_forall_not_mem]
    simp only [mem_normalizeAllowedCorpora h]
    constructor
    · intro hnone corpus hmem hnamed hlisted
      exact hnone _ ⟨corpus, hmem, hnamed, hlisted, rfl⟩
    · rintro hnone _ ⟨corpus, hmem, hnamed, hlisted, rfl⟩
      exact hnone corpus hmem hnamed hlisted
  rw [hnil]
  by_cases hnone : ∀ corpus ∈ corpora, Named corpus → ¬ Listed policy.allowedCorpora corpus
  · exact iff_of_true (Or.inl hnone) (Or.inl hnone)
  rw [or_iff_right hnone, or_iff_right hnone, mem_normalizeAllowedCorpora h]
  have hne : corpora ≠ [] := by
    rintro rfl
    exact hnone (by simp)
  constructor
  · rintro ⟨corpus, -, hnamed, hlisted, rfl⟩
    have hplain := plain_normalizeIdentifier corpus ((normalizeIdentifier_ne_nil corpus).mpr hnamed)
    refine ⟨hplain, hlisted.imp_right ?_⟩
    rintro ⟨other, hmem, hsame⟩
    exact ⟨other, hmem, hsame.trans (normalizeIdentifier_plain hplain).symm⟩
  · rintro ⟨hplain, hlisted⟩
    refine ⟨corpusId, hasked hne, ?_, hlisted, normalizeIdentifier_plain hplain⟩
    rw [← normalizeIdentifier_ne_nil, normalizeIdentifier_plain hplain]
    exact plain_ne_nil hplain

/-- A query that asks for what a chunk and its corpus carry finds them just when this is spelled as
the normalizer spells it. -/
theorem keptByTags_iff (policy : QueryNormalizePolicy) (query : KnowledgeQuery)
    (catalog : CorpusCatalogSnapshot) (descriptor : CorpusDescriptor) (chunk : ChunkRow R)
    (h : Asks policy query catalog descriptor chunk) :
    KeptByTags policy query catalog descriptor chunk ↔
      SpelledAlike policy query descriptor chunk := by
  have hconsistent := h.normalizable.consistent
  unfold KeptByTags
  constructor
  · rintro ⟨normalized, hnormalized, hpasses⟩
    have hfrom := normalizedFrom_of_ok hnormalized
    obtain ⟨warnings, dropped, filtered, hdomain⟩ := hfrom.domainTags
    obtain ⟨later, hcorpora⟩ := hfrom.allowedCorpora
    rw [passesTagFilters_iff normalized catalog descriptor chunk h.registered h.corpus, hdomain,
      hcorpora] at hpasses
    obtain ⟨htags, hallowed, hcarried⟩ := hpasses
    exact ⟨(required_iff _ _).mp ⟨_, hfrom.requiredTags, hcarried⟩,
      (domain_iff hconsistent _ _ _ _ _).mp htags,
      (corpora_iff hconsistent _ _ _ h.allowed).mp hallowed⟩
  · rintro ⟨hrequired, hdomain, hcorpora⟩
    obtain ⟨required, hsome, hcarried⟩ := (required_iff _ _).mpr hrequired
    obtain ⟨normalized, hnormalized⟩ := (normalize_ok_iff h.normalizable).mpr ⟨required, hsome⟩
    have hfrom := normalizedFrom_of_ok hnormalized
    obtain ⟨warnings, dropped, filtered, htags⟩ := hfrom.domainTags
    obtain ⟨later, hallowed⟩ := hfrom.allowedCorpora
    have hsame := hfrom.requiredTags
    rw [hsome, Option.some.injEq] at hsame
    refine ⟨normalized, hnormalized, ?_⟩
    rw [passesTagFilters_iff normalized catalog descriptor chunk h.registered h.corpus, htags,
      hallowed, ← hsame]
    exact ⟨(domain_iff hconsistent _ _ _ _ _).mpr hdomain,
      (corpora_iff hconsistent _ _ _ h.allowed).mpr hcorpora, hcarried⟩

end

/-! ## A tag of two words -/

def taggedCorpus (tag : Bytes) : CorpusDescriptor :=
  { corpusId := str "corpus"
    displayName := str "Corpus"
    sourceUri := str "docs"
    includeGlobs := [str "*.md"]
    tags := [tag]
    metadata := Query.plainMetadata }

def taggedChunk (tag : Bytes) : ChunkRow Nat :=
  { corpusId := str "corpus", documentId := str "document", chunkId := str "chunk", rank := 0
    chunkText := str "text", citationRef := str "citation", updatedAt := 1
    authorityLevel := .normative, language := none, tags := tag }

def taggedQuery (tag : Bytes) : KnowledgeQuery :=
  { requestId := str "request", queryText := str "text", requiredTags := [tag] }

theorem asks_tagged (tag : Bytes) (catalog : CorpusCatalogSnapshot)
    (hmem : taggedCorpus tag ∈ catalog.descriptors) (htag : tag ∈ (taggedChunk tag).read.tags) :
    Asks {} (taggedQuery tag) catalog (taggedCorpus tag) (taggedChunk tag) where
  normalizable := by
    refine ⟨by decide +kernel, ?_, ?_, ?_, ?_, ?_⟩
    · exact (by decide : str "request" ≠ [])
    · exact (by decide : KnowledgeQueryKind.factLookup ≠ .multiHop)
    · exact (by decide +kernel : (canonicalizeText {} (str "text") []).1 ≠ [])
    · exact (by decide +kernel : (deriveLexicalTerms {} (canonicalizeText {} (str "text") []).1
        (canonicalizeText {} (str "text") []).2).1 ≠ [])
    · rintro _ ⟨⟩
  registered := hmem
  corpus := rfl
  carried other hother := by
    have hsame : other = tag := by simpa [taggedQuery] using hother
    rw [hsame]
    exact ⟨htag, List.mem_cons_self⟩
  allowed hne := absurd rfl hne

def taggedCatalog : CorpusCatalogSnapshot where
  descriptors := [taggedCorpus (str "runtime-owner")]
  consistent := by decide +kernel

def spacedCatalog : CorpusCatalogSnapshot where
  descriptors := [taggedCorpus (str "Runtime Owner")]
  consistent := by decide +kernel

theorem keptByTags_hyphen :
    KeptByTags {} (taggedQuery (str "runtime-owner")) taggedCatalog
        (taggedCorpus (str "runtime-owner")) (taggedChunk (str "runtime-owner")) ↔
      SpelledAlike {} (taggedQuery (str "runtime-owner")) (taggedCorpus (str "runtime-owner"))
        (taggedChunk (str "runtime-owner")) :=
  keptByTags_iff _ _ _ _ _ (asks_tagged (str "runtime-owner") taggedCatalog List.mem_cons_self
    (by decide +kernel))

/-- The chunk and its corpus carry the tag, and the query asks for it letter by letter. -/
theorem spaced_tag_excluded :
    ¬ ∀ (policy : QueryNormalizePolicy) (query : KnowledgeQuery) (catalog : CorpusCatalogSnapshot)
      (descriptor : CorpusDescriptor) (chunk : ChunkRow Nat),
      Asks policy query catalog descriptor chunk →
        KeptByTags policy query catalog descriptor chunk := by
  intro h
  obtain ⟨normalized, hnormalized, hpasses⟩ := h {} (taggedQuery (str "Runtime Owner"))
    spacedCatalog (taggedCorpus (str "Runtime Owner")) (taggedChunk (str "Runtime Owner"))
    (asks_tagged (str "Runtime Owner") spacedCatalog List.mem_cons_self (by decide +kernel))
  have hrequired : (normalize {} (taggedQuery (str "Runtime Owner"))).toOption.map
      (·.requiredTags) = some [str "runtime-owner"] := by
    decide +kernel
  rw [hnormalized] at hrequired
  simp only [Except.toOption, Option.map_some, Option.some.injEq] at hrequired
  rw [passesTagFilters_iff normalized spacedCatalog _ _ List.mem_cons_self rfl, hrequired] at hpasses
  have hcarried := hpasses.2.2 (str "runtime-owner") List.mem_cons_self
  revert hcarried
  decide +kernel

end Dasall.Knowledge.Retrieve
