import Dasall.Knowledge.Types
import Dasall.Lib.KeyValue
import Dasall.Lib.Best

/-!
# Lexical search over a snapshot

The full-text query gives the rows that match an expression, the best ones first. Only so many of
them are read, and these are filtered until enough are found.
-/

open Dasall.Lib Dasall.Lib.Ascii Dasall.Lib.Text Dasall.Lib.TopK

namespace Dasall.Knowledge.Index

/-! ## Requests -/

structure SparseQueryExpression where
  matchExpression : Bytes
  lexicalTerms : List Bytes
  exactPhrasePreferred : Bool := false
deriving DecidableEq

def SparseQueryExpression.hasConsistentValues (expression : SparseQueryExpression) : Bool :=
  !expression.matchExpression.isEmpty && !expression.lexicalTerms.isEmpty &&
    hasUniqueValues expression.lexicalTerms

structure SparseIndexSearchRequest where
  expression : SparseQueryExpression
  allowedCorpusIds : List Bytes
  requiredTags : List Bytes := []
  requiredLanguage : Option Bytes := none
  minimumAuthorityLevel : AuthorityLevel := .reference
  topK : UInt64
deriving DecidableEq

def SparseIndexSearchRequest.hasConsistentValues (request : SparseIndexSearchRequest) : Bool :=
  request.expression.hasConsistentValues && !request.allowedCorpusIds.isEmpty &&
    hasUniqueValues request.allowedCorpusIds && hasUniqueValues request.requiredTags &&
    decide (0 < request.topK) && request.requiredLanguage != some []

/-! ## Rows -/

section
variable {R : Type}

/-- A row of the full-text query, with the columns as they are stored. -/
structure ChunkRow (R : Type) where
  corpusId : Bytes
  documentId : Bytes
  chunkId : Bytes
  rank : R
  chunkText : Bytes
  citationRef : Bytes
  updatedAt : Int64
  authorityLevel : AuthorityLevel
  language : Option Bytes
  tags : Bytes

/-- A row that was read. Its rank stands for the score, which follows from it. -/
structure SparseSearchRow (R : Type) where
  corpusId : Bytes
  documentId : Bytes
  chunkId : Bytes
  rank : R
  chunkText : Bytes
  citationRef : Bytes
  updatedAt : Int64
  authorityLevel : AuthorityLevel
  language : Option Bytes
  tags : List Bytes
deriving DecidableEq

def SparseSearchRow.hasConsistentValues (row : SparseSearchRow R) : Bool :=
  !row.corpusId.isEmpty && !row.documentId.isEmpty && !row.chunkId.isEmpty &&
    !row.chunkText.isEmpty && !row.citationRef.isEmpty && decide (0 ≤ row.updatedAt) &&
    row.language != some [] && hasUniqueValues row.tags

/-- The lines that are not empty. -/
def deserializeTags (serializedTags : Bytes) : List Bytes :=
  (KeyValue.getlines serializedTags).filter fun line => !line.isEmpty

def ChunkRow.read (row : ChunkRow R) : SparseSearchRow R :=
  { corpusId := row.corpusId
    documentId := row.documentId
    chunkId := row.chunkId
    rank := row.rank
    chunkText := row.chunkText
    citationRef := row.citationRef
    updatedAt := row.updatedAt
    authorityLevel := row.authorityLevel
    language := row.language
    tags := deserializeTags row.tags }

/-- The content of a snapshot, as the full-text query shows it. -/
structure LexicalDatabase (R : Type) [LE R] where
  matching : Bytes → List (ChunkRow R)
  ordered : ∀ expression, (matching expression).Pairwise fun a b => a.rank ≤ b.rank

/-! ## Filters -/

def matchesAuthorityLevel (candidate requiredMinimum : AuthorityLevel) : Bool :=
  candidate.toNat ≤ requiredMinimum.toNat

def containsAllTags (candidateTags requiredTags : List Bytes) : Bool :=
  requiredTags.all fun requiredTag => (candidateTags.map lower).contains (lower requiredTag)

def matchesLanguage (candidateLanguage requiredLanguage : Option Bytes) : Bool :=
  match requiredLanguage, candidateLanguage with
  | none, _ => true
  | some _, none => false
  | some required, some candidate => lower candidate == lower required

def SparseIndexSearchRequest.admits (request : SparseIndexSearchRequest)
    (row : SparseSearchRow R) : Bool :=
  (request.allowedCorpusIds.isEmpty || request.allowedCorpusIds.contains row.corpusId) &&
    matchesAuthorityLevel row.authorityLevel request.minimumAuthorityLevel &&
    matchesLanguage row.language request.requiredLanguage &&
    containsAllTags row.tags request.requiredTags

/-! ## The search -/

/-- What is bound to the query ends at the first NUL. -/
def cString (text : Bytes) : Bytes := text.takeWhile (· ≠ 0)

/-- The `LIMIT` that is bound: 32 bits of the product. -/
def searchLimit (topK : UInt64) : Int32 := (max (topK * 8) 32).toUInt32.toInt32

/-- A negative `LIMIT` is none. -/
def limitRows {α : Type} (limit : Int32) (rows : List α) : List α :=
  if limit < 0 then rows else rows.take limit.toInt.toNat

def searchError (code : KnowledgeErrorCode) (message stage refId : Bytes) : KnowledgeError :=
  makeKnowledgeErrorInfo code message stage refId

/-- The loop over the rows that the query gives. -/
def collectRows (request : SparseIndexSearchRequest) (found : List (SparseSearchRow R)) :
    List (ChunkRow R) → Except KnowledgeError (List (SparseSearchRow R))
  | [] => .ok found
  | chunkRow :: rest =>
    let row := chunkRow.read
    if !request.admits row then collectRows request found rest
    else if !row.hasConsistentValues then
      .error (searchError .internalError (str "snapshot search produced inconsistent row")
        (str "index_writer.snapshot_search") (str "search_row_inconsistent"))
    else if request.topK.toNat ≤ (found ++ [row]).length then .ok (found ++ [row])
    else collectRows request (found ++ [row]) rest

def performSearch [LE R] (database : LexicalDatabase R) (request : SparseIndexSearchRequest) :
    Except KnowledgeError (List (SparseSearchRow R)) := do
  if !request.hasConsistentValues then
    throw (searchError .queryValidationFailed
      (str "sparse index search request is inconsistent") (str "index_writer.snapshot_search")
      (str "search_request_invalid"))
  let rows ← collectRows request [] (limitRows (searchLimit request.topK)
    (database.matching (cString request.expression.matchExpression)))
  if !rows.all (·.hasConsistentValues) then
    throw (searchError .internalError (str "snapshot search result is inconsistent")
      (str "index_writer.snapshot_search") (str "search_result_inconsistent"))
  pure rows

/-! ## The reader -/

structure IndexManifest where
  formatVersion : UInt32 := 1
  lexicalBackend : Bytes := str "sqlite_fts5"
  tokenizerProfile : Bytes
  snapshotId : Bytes
  builtAt : Int64 := 0
  effectiveAt : Int64 := 0
  documentCount : UInt64 := 0
  chunkCount : UInt64 := 0
  vectorEnabled : Bool := false
deriving DecidableEq

def IndexManifest.hasConsistentValues (manifest : IndexManifest) : Bool :=
  decide (0 < manifest.formatVersion) && !manifest.lexicalBackend.isEmpty &&
    !manifest.tokenizerProfile.isEmpty && !manifest.snapshotId.isEmpty &&
    decide (0 < manifest.builtAt) && decide (manifest.builtAt ≤ manifest.effectiveAt) &&
    decide (manifest.documentCount ≤ manifest.chunkCount)

structure IndexSnapshot (R : Type) where
  manifest : IndexManifest
  checksum : Bytes
  search : Option (SparseIndexSearchRequest → Except KnowledgeError (List (SparseSearchRow R)))

def IndexSnapshot.hasConsistentValues (snapshot : IndexSnapshot R) : Bool :=
  snapshot.manifest.hasConsistentValues && !snapshot.checksum.isEmpty && snapshot.search.isSome

/-- `IndexReader::search_sparse` over the snapshot that is active. -/
def searchSparse (activeSnapshot : Option (IndexSnapshot R)) (request : SparseIndexSearchRequest) :
    Except KnowledgeError (List (SparseSearchRow R)) := do
  if !request.hasConsistentValues then
    throw (searchError .queryValidationFailed
      (str "sparse index search request is inconsistent") (str "index_reader.search_sparse")
      (str "search_request_invalid"))
  let some snapshot := activeSnapshot
    | throw (searchError .indexUnavailable (str "active snapshot is unavailable")
        (str "index_reader.search_sparse") (str "active_snapshot_missing"))
  let some search := snapshot.search
    | throw (searchError .indexUnavailable (str "active snapshot is inconsistent")
        (str "index_reader.search_sparse") (str "active_snapshot_inconsistent"))
  if !snapshot.hasConsistentValues then
    throw (searchError .indexUnavailable (str "active snapshot is inconsistent")
      (str "index_reader.search_sparse") (str "active_snapshot_inconsistent"))
  let rows ← search request
  if !rows.all (·.hasConsistentValues) then
    throw (searchError .internalError (str "active snapshot search result is inconsistent")
      (str "index_reader.search_sparse") (str "search_result_inconsistent"))
  pure rows

/-- `make_snapshot` over a database. -/
def makeIndexSnapshot [LE R] (database : LexicalDatabase R) (manifest : IndexManifest)
    (checksum : Bytes) : IndexSnapshot R :=
  { manifest, checksum, search := some (performSearch database) }

end

/-!
## When a search finds the best rows

Rows that do not pass the filters count against the limit of the query, so that passing rows
behind them are not read, and a row that reads back malformed ends the search.
-/

variable {R : Type}

/-- The rows of the query that pass all filters. -/
def SparseIndexSearchRequest.passing (request : SparseIndexSearchRequest)
    (rows : List (ChunkRow R)) : List (SparseSearchRow R) :=
  (rows.map ChunkRow.read).filter request.admits

/-- The rows that match the text of the request, in rank order. -/
def LexicalDatabase.matched [LE R] (database : LexicalDatabase R)
    (request : SparseIndexSearchRequest) : List (ChunkRow R) :=
  database.matching (cString request.expression.matchExpression)

/-- The answer is a selection of the best rows that match and pass, as many as are asked for. -/
def FindsBest [LE R] (database : LexicalDatabase R) (request : SparseIndexSearchRequest)
    (result : Except KnowledgeError (List (SparseSearchRow R))) : Prop :=
  ∃ rows, result = .ok rows ∧
    IsTopK (·.rank) request.topK.toNat (request.passing (database.matched request)) rows

/-- Enough passing rows lie within the limit, and the best of them are well formed. -/
structure WithinLimit [LE R] (database : LexicalDatabase R)
    (request : SparseIndexSearchRequest) : Prop where
  enough : min request.topK.toNat (request.passing (database.matched request)).length ≤
    (request.passing (limitRows (searchLimit request.topK) (database.matched request))).length
  wellFormed : ∀ row ∈ (request.passing (database.matched request)).take request.topK.toNat,
    row.hasConsistentValues = true

/-! ## The loop -/

variable (request : SparseIndexSearchRequest)

theorem passing_cons (row : ChunkRow R)
    (rows : List (ChunkRow R)) :
    request.passing (row :: rows) =
      if request.admits row.read then row.read :: request.passing rows
      else request.passing rows := by
  simp only [SparseIndexSearchRequest.passing, List.map_cons, List.filter_cons]

theorem collectRows_eq_ok (found : List (SparseSearchRow R))
    (rows : List (ChunkRow R)) (k : Nat) (hk : found.length + (k + 1) = request.topK.toNat)
    (result : List (SparseSearchRow R)) :
    collectRows request found rows = .ok result ↔
      result = found ++ (request.passing rows).take (k + 1) ∧
        ∀ row ∈ (request.passing rows).take (k + 1), row.hasConsistentValues = true := by
  induction rows generalizing found k with
  | nil =>
    simp only [collectRows, SparseIndexSearchRequest.passing, List.map_nil, List.filter_nil,
      List.take_nil, List.append_nil, Except.ok.injEq]
    exact ⟨fun h => ⟨h.symm, by simp⟩, fun h => h.1.symm⟩
  | cons row rows ih =>
    rw [collectRows, passing_cons]
    by_cases hadmits : request.admits row.read = true
    · by_cases hconsistent : row.read.hasConsistentValues = true
      · simp only [hadmits, hconsistent, Bool.not_true, Bool.false_eq_true, if_false, if_true,
          List.take_succ_cons, List.forall_mem_cons, true_and]
        cases k with
        | zero =>
          have hfull : request.topK.toNat ≤ (found ++ [row.read]).length := by simp; omega
          simp only [hfull, if_true, List.take_zero, Except.ok.injEq]
          exact ⟨fun h => ⟨h.symm, by simp⟩, fun h => h.1.symm⟩
        | succ k =>
          have hlength : (found ++ [row.read]).length + (k + 1) = request.topK.toNat := by
            simp
            omega
          have hmore : ¬ request.topK.toNat ≤ (found ++ [row.read]).length := by omega
          rw [if_neg hmore, ih (found ++ [row.read]) k hlength, List.append_assoc,
            List.singleton_append]
      · simp only [hadmits, hconsistent, Bool.not_true, Bool.not_false, Bool.false_eq_true,
          if_false, if_true, List.take_succ_cons, List.forall_mem_cons, false_and, and_false,
          reduceCtorEq]
    · simp only [hadmits, Bool.not_false, if_true, Bool.false_eq_true, if_false]
      exact ih found k hk

theorem topK_pos (h : request.hasConsistentValues = true) :
    ∃ k, k + 1 = request.topK.toNat := by
  simp only [SparseIndexSearchRequest.hasConsistentValues, Bool.and_eq_true,
    decide_eq_true_eq] at h
  have hpos : 0 < request.topK.toNat := UInt64.lt_iff_toNat_lt.mp h.1.2
  exact ⟨request.topK.toNat - 1, by omega⟩

theorem performSearch_eq_ok [LE R] (database : LexicalDatabase R)
    (request : SparseIndexSearchRequest) (h : request.hasConsistentValues = true)
    (result : List (SparseSearchRow R)) :
    performSearch database request = .ok result ↔
      result = (request.passing (limitRows (searchLimit request.topK)
        (database.matched request))).take request.topK.toNat ∧
      ∀ row ∈ result, row.hasConsistentValues = true := by
  obtain ⟨k, hk⟩ := topK_pos request h
  have hloop := collectRows_eq_ok request []
    (limitRows (searchLimit request.topK) (database.matched request)) k
    (by rw [List.length_nil]; omega)
  rw [List.nil_append, hk] at hloop
  unfold performSearch
  rw [if_neg (by simp [h])]
  constructor
  · intro hresult
    cases hfound : collectRows request [] (limitRows (searchLimit request.topK)
        (database.matched request)) with
    | error =>
      unfold LexicalDatabase.matched at hfound
      simp [hfound, bind, Except.bind] at hresult
    | ok rows =>
      obtain ⟨rfl, hall⟩ := (hloop rows).mp hfound
      unfold LexicalDatabase.matched at hfound hall ⊢
      simp only [hfound, bind, Except.bind, pure, Except.pure] at hresult
      rw [if_neg (by simpa using hall)] at hresult
      obtain rfl := Except.ok.inj hresult
      exact ⟨rfl, hall⟩
  · rintro ⟨rfl, hall⟩
    have hfound := (hloop _).mpr ⟨rfl, hall⟩
    unfold LexicalDatabase.matched at hfound hall ⊢
    simp only [hfound, bind, Except.bind, pure, Except.pure]
    rw [if_neg (by simpa using hall)]

theorem searchSparse_eq_ok [LE R] (database : LexicalDatabase R) (manifest : IndexManifest)
    (checksum : Bytes)
    (hsnapshot : (makeIndexSnapshot database manifest checksum).hasConsistentValues = true)
    (request : SparseIndexSearchRequest) (h : request.hasConsistentValues = true)
    (result : List (SparseSearchRow R)) :
    searchSparse (some (makeIndexSnapshot database manifest checksum)) request = .ok result ↔
      performSearch database request = .ok result := by
  have hsearch : (makeIndexSnapshot database manifest checksum).search =
      some (performSearch database) := rfl
  unfold searchSparse
  rw [if_neg (by simp [h])]
  simp only [hsearch, hsnapshot, Bool.not_true, Bool.false_eq_true, if_false]
  cases hfound : performSearch database request with
  | error => simp [bind, Except.bind]
  | ok rows =>
    have hall := ((performSearch_eq_ok database request h rows).mp hfound).2
    simp only [bind, Except.bind, pure, Except.pure]
    rw [if_neg (by simpa using hall)]

/-! ## The rows that are read -/

theorem passing_pairwise [LE R] (database : LexicalDatabase R)
    (request : SparseIndexSearchRequest) :
    (request.passing (database.matched request)).Pairwise fun a b => a.rank ≤ b.rank := by
  apply List.Pairwise.filter
  rw [List.pairwise_map]
  exact database.ordered _

theorem passing_take (n : Nat) (rows : List (ChunkRow R)) :
    request.passing (rows.take n) = ((rows.map ChunkRow.read).take n).filter request.admits := by
  rw [SparseIndexSearchRequest.passing, List.map_take]

/-- The best passing rows are the same ones among all rows and within the limit, when enough pass
within it. -/
theorem take_passing_limitRows (limit : Int32) (k : Nat)
    (rows : List (ChunkRow R))
    (h : min k (request.passing rows).length ≤ (request.passing (limitRows limit rows)).length) :
    (request.passing (limitRows limit rows)).take k = (request.passing rows).take k := by
  unfold limitRows at h ⊢
  split
  · rfl
  next hlimit =>
    rw [if_neg hlimit, passing_take] at h
    rw [passing_take]
    exact take_filter_take request.admits _ k _ h

/-- A search finds the best rows just when enough of them lie within the limit and those are well
formed. -/
theorem searchSparse_finds_iff [LE R] (database : LexicalDatabase R) (manifest : IndexManifest)
    (checksum : Bytes)
    (hsnapshot : (makeIndexSnapshot database manifest checksum).hasConsistentValues = true)
    (request : SparseIndexSearchRequest) (h : request.hasConsistentValues = true) :
    FindsBest database request
        (searchSparse (some (makeIndexSnapshot database manifest checksum)) request) ↔
      WithinLimit database request := by
  unfold FindsBest
  constructor
  · rintro ⟨rows, hrows, htop⟩
    rw [searchSparse_eq_ok database manifest checksum hsnapshot request h,
      performSearch_eq_ok database request h] at hrows
    obtain ⟨rfl, hall⟩ := hrows
    have henough : min request.topK.toNat (request.passing (database.matched request)).length ≤
        (request.passing (limitRows (searchLimit request.topK)
          (database.matched request))).length := by
      rw [← htop.size, List.length_take]
      exact Nat.min_le_right _ _
    rw [take_passing_limitRows request _ _ _ henough] at hall
    exact ⟨henough, hall⟩
  · rintro ⟨henough, hall⟩
    refine ⟨(request.passing (database.matched request)).take request.topK.toNat, ?_, ?_⟩
    · rw [searchSparse_eq_ok database manifest checksum hsnapshot request h,
        performSearch_eq_ok database request h, take_passing_limitRows request _ _ _ henough]
      exact ⟨rfl, hall⟩
    · exact isTopK_take _ _ _ (passing_pairwise database request)

/-! ## Rows of another corpus -/

/-- A row of a corpus, at a rank. -/
def rankedRow (corpusId : Bytes) (rank : Nat) : ChunkRow Nat :=
  { corpusId, rank, documentId := str "document", chunkId := str "chunk:" ++ decimal rank
    chunkText := str "text", citationRef := str "citation", updatedAt := 1
    authorityLevel := .normative, language := none, tags := [] }

/-- The given number of rows of another corpus, and a row of the corpus that is asked for. -/
def crowdedDatabase (others : Nat) : LexicalDatabase Nat where
  matching _ := (List.range others).map (rankedRow (str "other")) ++
    [rankedRow (str "corpus") others]
  ordered _ := by
    rw [List.pairwise_append, List.pairwise_map]
    refine ⟨List.pairwise_le_range, by simp, ?_⟩
    simp only [List.mem_map, List.mem_range, List.mem_singleton, forall_exists_index, and_imp]
    rintro _ n hn rfl _ rfl
    exact hn.le

def exampleManifest : IndexManifest :=
  { tokenizerProfile := str "unicode61", snapshotId := str "snapshot", builtAt := 1, effectiveAt := 1
    documentCount := 1, chunkCount := 33 }

def exampleRequest : SparseIndexSearchRequest :=
  { expression := { matchExpression := str "text", lexicalTerms := [str "text"] }
    allowedCorpusIds := [str "corpus"], topK := 1 }

theorem searchSparse_finds_one :
    FindsBest (crowdedDatabase 31) exampleRequest
        (searchSparse (some (makeIndexSnapshot (crowdedDatabase 31) exampleManifest (str "sum")))
          exampleRequest) ↔
      WithinLimit (crowdedDatabase 31) exampleRequest :=
  searchSparse_finds_iff (crowdedDatabase 31) exampleManifest (str "sum") (by decide +kernel)
    exampleRequest (by decide +kernel)

/-- Thirty-two rows of another corpus hide the only row of the corpus that is asked for. -/
theorem row_behind_the_limit :
    ¬ ∀ (database : LexicalDatabase Nat) (manifest : IndexManifest) (checksum : Bytes),
      (makeIndexSnapshot database manifest checksum).hasConsistentValues = true →
      ∀ request : SparseIndexSearchRequest, request.hasConsistentValues = true →
        FindsBest database request
          (searchSparse (some (makeIndexSnapshot database manifest checksum)) request) := by
  intro h
  obtain ⟨rows, hrows, htop⟩ := h (crowdedDatabase 32) exampleManifest (str "sum")
    (by decide +kernel) exampleRequest (by decide +kernel)
  have hempty : (searchSparse (some (makeIndexSnapshot (crowdedDatabase 32) exampleManifest
      (str "sum"))) exampleRequest).toOption.map List.length = some 0 := by
    decide +kernel
  have hpassing : (exampleRequest.passing
      ((crowdedDatabase 32).matched exampleRequest)).length = 1 := by
    decide +kernel
  have hsize := htop.size
  rw [hpassing] at hsize
  rw [hrows] at hempty
  simp only [Except.toOption, Option.map_some, Option.some.injEq] at hempty
  rw [hempty] at hsize
  exact absurd hsize (by decide)

end Dasall.Knowledge.Index
