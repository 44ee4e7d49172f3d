import Dasall.Knowledge.Ingest.ChunkText
import Dasall.Knowledge.Retrieve.SparseRetriever

/-!
# Texts that stay valid UTF-8

Sentences end at whole characters, and whitespace is ASCII, so that only the cut of a snippet at
its longest length can fall inside a character. With the spans of the chunker and the aliases of
the normalizer these are all the places where a character can be lost.
-/

open Dasall.Knowledge.Ingest Dasall.Knowledge.Query Dasall.Lib.Text Dasall.Lib.Utf8

namespace Dasall.Knowledge.Retrieve

/-! ## Sentences -/

theorem isAsciiSentenceDelimiter_low (b : Byte) (h : isAsciiSentenceDelimiter b = true) :
    b.toNat < 0x80 := by
  simp only [isAsciiSentenceDelimiter, List.contains_eq_mem, decide_eq_true_eq, List.mem_cons,
    List.not_mem_nil, or_false] at h
  rcases h with rfl | rfl | rfl | rfl | rfl <;> decide

theorem utf8SentenceDelimiters_valid (delimiter : Bytes)
    (h : delimiter ∈ utf8SentenceDelimiters) : Valid delimiter ∧ delimiter ≠ [] := by
  simp only [utf8SentenceDelimiters, List.mem_cons, List.not_mem_nil, or_false] at h
  rcases h with rfl | rfl | rfl | rfl
  all_goals exact ⟨⟨_, rfl⟩, by decide⟩

theorem startsCharacter_append {first : Bytes} (h : first ≠ []) (hvalid : Valid first)
    (second : Bytes) : StartsCharacter (first ++ second) := by
  intro b hb
  apply hvalid.starts b
  rwa [List.head?_append_of_ne_nil _ h] at hb

variable {sentence value : Bytes} (policy : SparseRetrieverPolicy) {chunkText text : Bytes}

theorem valid_around_delimiter (h : Valid (sentence ++ text))
    (hsize : 0 < delimiterSize text) :
    Valid (sentence ++ text.take (delimiterSize text)) ∧ Valid (text.drop (delimiterSize text)) := by
  unfold delimiterSize at hsize ⊢
  cases hfound : utf8SentenceDelimiters.find? fun delimiter => delimiter.isPrefixOf text with
  | some delimiter =>
    obtain ⟨hvalid, hne⟩ := utf8SentenceDelimiters_valid delimiter (List.mem_of_find?_eq_some hfound)
    have hprefix := List.find?_some hfound
    obtain ⟨rest, rfl⟩ := List.isPrefixOf_iff_prefix.mp hprefix
    have hstarts := startsCharacter_append hne hvalid rest
    have hrest := (hvalid.append_iff rest).mp (h.right hstarts)
    simp only [List.take_left, List.drop_left]
    exact ⟨(h.left hstarts).append hvalid, hrest⟩
  | none =>
    simp only [hfound] at hsize ⊢
    split at hsize
    swap
    · cases hsize
    next hascii =>
    cases text with
    | nil => cases hascii
    | cons b rest =>
      have hlow := isAsciiSentenceDelimiter_low b hascii
      obtain ⟨hsentence, hrest⟩ := h.around_ascii hlow
      rw [if_pos hascii, List.take_succ_cons, List.take_zero, List.drop_succ_cons, List.drop_zero]
      exact ⟨hsentence.append (valid_ascii [b] (by simpa using hlow)), hrest⟩

theorem sentenceLoop_valid (fuel : Nat) (h : Valid (sentence ++ text))
    (hfuel : text.length ≤ fuel) :
    ∀ piece ∈ sentenceLoop sentence text fuel, Valid piece := by
  induction fuel generalizing sentence text with
  | zero =>
    have hnil : text = [] := List.eq_nil_of_length_eq_zero (by omega)
    rw [hnil, List.append_nil] at h
    simpa [sentenceLoop] using h
  | succ fuel ih =>
    unfold sentenceLoop
    split
    next => simpa using h
    next character rest =>
      dsimp only
      rw [List.length_cons] at hfuel
      split
      next hsize =>
        obtain ⟨hsentence, hrest⟩ := valid_around_delimiter h hsize
        intro piece hpiece
        rcases List.mem_cons.mp hpiece with rfl | hlater
        · exact hsentence
        · refine @ih [] _ hrest ?_ piece hlater
          rw [List.length_drop, List.length_cons]
          omega
      next => exact ih (by simpa using h) (by omega)

theorem valid_trimCopy (h : Valid value) : Valid (trimCopy value) :=
  (h.dropWhile isSpace_ascii).rdropWhile isSpace_ascii

theorem splitSentences_valid (h : Valid chunkText) :
    ∀ sentence ∈ splitSentences chunkText, Valid sentence := by
  unfold splitSentences
  intro sentence hsentence
  dsimp only at hsentence
  split at hsentence
  · rw [List.mem_singleton.mp hsentence]
    exact valid_trimCopy h
  · obtain ⟨piece, hpiece, rfl⟩ := List.mem_map.mp (List.mem_of_mem_filter hsentence)
    exact valid_trimCopy (@sentenceLoop_valid [] _ _ h (Nat.le_refl _) piece hpiece)

/-! ## Whitespace -/

theorem collapseLoop_edit (value collapsed : Bytes) (previousWasSpace : Bool) :
    ∃ out, collapseLoop collapsed previousWasSpace value = collapsed ++ out ∧
      AsciiEdit value out := by
  induction value generalizing collapsed previousWasSpace with
  | nil => exact ⟨[], by simp [collapseLoop], .nil⟩
  | cons character rest ih =>
    unfold collapseLoop
    split
    next hspace =>
      have hlow := isSpace_ascii character hspace
      split
      · obtain ⟨out, hout, hedit⟩ := ih (collapsed ++ [32]) true
        refine ⟨[32] ++ out, ?_, .replace character [32] hlow (by decide) hedit⟩
        rw [hout, List.append_assoc]
      · obtain ⟨out, hout, hedit⟩ := ih collapsed true
        exact ⟨out, hout, .replace character [] hlow (by simp) hedit⟩
    next =>
      obtain ⟨out, hout, hedit⟩ := ih (collapsed ++ [character]) false
      refine ⟨character :: out, by rw [hout, List.append_assoc, List.singleton_append], ?_⟩
      by_cases hlow : character.toNat < 0x80
      · exact .replace character [character] hlow (by simpa using hlow) hedit
      · exact .keep character (by omega) hedit

theorem valid_collapseWhitespace (h : Valid value) :
    Valid (collapseWhitespace value) := by
  obtain ⟨out, hout, hedit⟩ := collapseLoop_edit value [] false
  have hcollapsed : Valid (collapseLoop [] false value) := by
    rw [hout, List.nil_append]
    exact h.edit hedit
  unfold collapseWhitespace
  dsimp only
  split
  next hlast => exact hcollapsed.dropLast (by decide) hlast
  next => exact hcollapsed

/-! ## Snippets -/

/-- The text that a snippet is cut from. -/
def snippetText (policy : SparseRetrieverPolicy) (chunkText : Bytes) (lexicalTerms : List Bytes) :
    Bytes :=
  let window := collapseWhitespace
    ([32].intercalate (sentenceWindow policy lexicalTerms (splitSentences chunkText)))
  if (splitSentences chunkText).isEmpty || window.isEmpty then collapseWhitespace chunkText
  else window

theorem shortenSnippet_isEmpty (snippet : Bytes) :
    (shortenSnippet policy snippet).isEmpty = snippet.isEmpty := by
  unfold shortenSnippet
  split
  next hlong =>
    rw [Bool.and_eq_true, decide_eq_true_eq] at hlong
    have hne : snippet ≠ [] := List.ne_nil_of_length_pos (by omega)
    rw [List.isEmpty_eq_false_iff.mpr hne, List.isEmpty_eq_false_iff]
    exact List.append_ne_nil_of_right_ne_nil _ (by decide)
  next => rfl

theorem makeSnippet_eq (chunkText : Bytes)
    (lexicalTerms : List Bytes) :
    makeSnippet policy chunkText lexicalTerms =
      shortenSnippet policy (snippetText policy chunkText lexicalTerms) := by
  unfold makeSnippet buildWindowSnippet snippetText
  dsimp only
  cases hsentences : (splitSentences chunkText).isEmpty with
  | true => simp
  | false =>
    simp only [Bool.false_eq_true, if_false, Bool.false_or, shortenSnippet_isEmpty]
    split <;> rfl

theorem valid_snippetText (h : Valid chunkText)
    (lexicalTerms : List Bytes) : Valid (snippetText policy chunkText lexicalTerms) := by
  unfold snippetText
  dsimp only
  split
  · exact valid_collapseWhitespace h
  · apply valid_collapseWhitespace
    apply valid_intercalate (valid_ascii _ (by decide))
    intro sentence hsentence
    exact splitSentences_valid h sentence (List.mem_of_mem_take (List.mem_of_mem_drop hsentence))

/-- Where the snippet is cut, a character starts. -/
def SnippetCutsBetweenCharacters (policy : SparseRetrieverPolicy) (lexicalTerms : List Bytes)
    (chunkText : Bytes) : Prop :=
  policy.maxSnippetCharacters.toNat < (snippetText policy chunkText lexicalTerms).length →
    3 < policy.maxSnippetCharacters →
      OnBoundary (snippetText policy chunkText lexicalTerms) (policy.maxSnippetCharacters - 3).toNat

instance (policy : SparseRetrieverPolicy) (lexicalTerms : List Bytes) (chunkText : Bytes) :
    Decidable (SnippetCutsBetweenCharacters policy lexicalTerms chunkText) :=
  inferInstanceAs (Decidable (_ → _ → _))

theorem makeSnippet_valid_iff (h : Valid chunkText) (lexicalTerms : List Bytes) :
    Valid (makeSnippet policy chunkText lexicalTerms) ↔
      SnippetCutsBetweenCharacters policy lexicalTerms chunkText := by
  have htext := valid_snippetText policy h lexicalTerms
  rw [makeSnippet_eq]
  unfold shortenSnippet SnippetCutsBetweenCharacters
  generalize snippetText policy chunkText lexicalTerms = snippet at htext ⊢
  by_cases hlong : policy.maxSnippetCharacters.toNat < snippet.length
  swap
  · rw [if_neg (by simp [hlong])]
    exact iff_of_true htext fun hlonger => absurd hlonger hlong
  by_cases hroom : 3 < policy.maxSnippetCharacters
  swap
  · rw [if_neg (by simp [hroom])]
    exact iff_of_true htext fun _ hroom' => absurd hroom' hroom
  rw [if_pos (by simp [hlong, hroom]), ← htext.take_iff]
  constructor
  · intro hsnippet _ _
    exact hsnippet.left (starts_ascii (a := 46) (by decide) _)
  · intro hcut
    exact (hcut hlong hroom).append (valid_ascii _ (by decide))

/-! ## From a document and a query -/

/-- Every chunk of the document, every snippet of its chunks and every text of the normalized query
is valid UTF-8. -/
structure TextsSurvive (chunker : Chunker) (canonicalText : Bytes) (policy : SparseRetrieverPolicy)
    (lexicalTerms : List Bytes) (normalized : NormalizedQuery) : Prop where
  chunks : ∀ chunk ∈ chunker.chunk canonicalText, Valid chunk
  snippets : ∀ chunk ∈ chunker.chunk canonicalText, Valid (makeSnippet policy chunk lexicalTerms)
  normalized : ValidNormalized normalized

/-- The texts survive just when no length in bytes falls inside a character: not the longest length
of a chunk, not an overlap and not the longest length of a snippet; and the tags that aliases write
into the query are valid. -/
theorem textsSurvive_iff (chunker : Chunker) {canonicalText : Bytes} (hcanonical : Valid canonicalText)
    (retrieverPolicy : SparseRetrieverPolicy) (lexicalTerms : List Bytes)
    {queryPolicy : QueryNormalizePolicy} {query : KnowledgeQuery} (hquery : ValidQuery query)
    {normalized : NormalizedQuery} (hnormalized : normalize queryPolicy query = .ok normalized) :
    TextsSurvive chunker canonicalText retrieverPolicy lexicalTerms normalized ↔
      (∀ start ∈ spanStarts chunker.policy canonicalText 0 canonicalText.length,
        CutsBetweenCharacters chunker.policy canonicalText start) ∧
      (∀ chunk ∈ chunker.chunk canonicalText,
        SnippetCutsBetweenCharacters retrieverPolicy lexicalTerms chunk) ∧
      AliasTargetsValid queryPolicy query := by
  rw [← chunk_valid_iff chunker hcanonical, ← validNormalized_iff hquery hnormalized]
  constructor
  · rintro ⟨hchunks, hsnippets, hvalid⟩
    refine ⟨hchunks, ?_, hvalid⟩
    intro chunk hchunk
    exact (makeSnippet_valid_iff _ (hchunks chunk hchunk) _).mp (hsnippets chunk hchunk)
  · rintro ⟨hchunks, hsnippets, hvalid⟩
    refine ⟨hchunks, ?_, hvalid⟩
    intro chunk hchunk
    exact (makeSnippet_valid_iff _ (hchunks chunk hchunk) _).mpr (hsnippets chunk hchunk)

/-! ## Whole and cut characters -/

def defaultChunker : Chunker where
  policy := {}
  consistent := by decide

def accentedQuery : KnowledgeQuery := { requestId := str "request", queryText := utf8 "naïve" }

theorem validQuery_accented : ValidQuery accentedQuery where
  queryText := ⟨"naïve".toList, rfl⟩
  domainTags := by simp [accentedQuery]
  allowedCorpora := by simp [accentedQuery]
  requiredTags := by simp [accentedQuery]
  requiredLanguage := by simp [accentedQuery]

theorem textsSurvive_accented :
    ∃ normalized, normalize {} accentedQuery = .ok normalized ∧
      TextsSurvive defaultChunker (utf8 "été.") {} [str "t"] normalized := by
  have hok : (normalize {} accentedQuery).isOk = true := by decide +kernel
  cases hnormalized : normalize {} accentedQuery with
  | error error =>
    rw [hnormalized] at hok
    cases hok
  | ok normalized =>
    refine ⟨normalized, rfl, ?_⟩
    have hcanonical : Valid (utf8 "été.") := ⟨"été.".toList, rfl⟩
    refine (textsSurvive_iff defaultChunker hcanonical {} [str "t"] validQuery_accented
      hnormalized).mpr ⟨?_, ?_, aliasTargetsValid_of_none _ _ validQuery_accented rfl⟩
    · intro start hstart
      have hstarts : spanStarts defaultChunker.policy (utf8 "été.") 0 (utf8 "été.").length = [0] := by
        decide +kernel
      have hend : spanEnd defaultChunker.policy (utf8 "été.") 0 = (utf8 "été.").length := by
        decide +kernel
      rw [hstarts, List.mem_singleton] at hstart
      subst hstart
      constructor
      · intro hcut
        exact absurd hcut.1 (by decide)
      · intro hraw
        rw [RawOverlap, hend] at hraw
        exact absurd hraw.1 (Nat.lt_irrefl _)
    · decide +kernel

/-- Chunks of two bytes. -/
def narrowChunker : Chunker where
  policy := { targetChunkChars := 2, maxChunkChars := 2, overlapChars := 0, minChunkChars := 1 }
  consistent := by decide

/-- The first chunk ends with half a character. -/
theorem narrowChunker_cut :
    ¬ ∀ (chunker : Chunker) (canonicalText : Bytes), Valid canonicalText →
      ∀ chunk ∈ chunker.chunk canonicalText, Valid chunk := by
  intro h
  have hvalid : Valid (utf8 "hé") := ⟨"hé".toList, rfl⟩
  have hcuts := (chunk_valid_iff narrowChunker hvalid).mp (h narrowChunker (utf8 "hé") hvalid)
  have hstart : 0 ∈ spanStarts narrowChunker.policy (utf8 "hé") 0 (utf8 "hé").length := by
    decide +kernel
  have hboundary := (hcuts 0 hstart).hardCut ⟨by decide +kernel, by decide +kernel⟩
  revert hboundary
  decide +kernel

end Dasall.Knowledge.Retrieve
