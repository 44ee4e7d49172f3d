import Dasall.Infra.Policy.Types

/-!
# The sqlite-vss backend

The backend opens its driver on the first call that needs it, for the dimension of that call. A
search may be that call.
-/

open Dasall.Lib Dasall.Lib.Text
open Dasall.Infra.Policy (ResultCode)

namespace Dasall.Memory.Vector

structure StoreResult where
  ok : Bool := false
  resultCode : Option ResultCode := none
  persistedId : Option Bytes := none
  errorMessage : Option Bytes := none

namespace StoreResult

def success (persistedId : Option Bytes := none) : StoreResult := { ok := true, persistedId }

def failure (resultCode : ResultCode) (errorMessage : Bytes) : StoreResult :=
  { resultCode := some resultCode, errorMessage := some errorMessage }

end StoreResult

def storageUnavailableResult (errorMessage : Bytes) : StoreResult :=
  .failure .runtimeRetryExhausted errorMessage

def validationFailureResult (errorMessage : Bytes) : StoreResult :=
  .failure .validationFieldMissing errorMessage

structure VectorDocument where
  docId : Bytes
  docType : Bytes
  text : Bytes := []
  embedding : List Float32 := []

structure VectorHit where
  docId : Bytes
  docType : Bytes
  score : Float32
  textSnippet : Bytes

structure EmbeddingAdapter where
  embed : Bytes → List Float32
  dimension : Int32

/-- A driver over a database. What it reads it does not change. -/
structure Driver (σ : Type) where
  reportsAvailable : Bool
  initializeDb : σ → Int32 → StoreResult × σ
  upsert : σ → VectorDocument → List Float32 → StoreResult × σ
  search : σ → List Float32 → Int32 → List VectorHit
  indexedDocCount : σ → Int32
  rebuildIndex : σ → StoreResult × σ

inductive VectorBackend
  | sqliteVss
  | none
deriving DecidableEq

/-- What a backend is made of. -/
structure Setup (σ : Type) where
  enabled : Bool := true
  backendType : VectorBackend := .sqliteVss
  hasDb : Bool := true
  embeddingAdapter : Option EmbeddingAdapter := none
  driver : Driver σ

structure State (σ : Type) where
  db : σ
  initialized : Bool := false
  embeddingDimension : Option Nat := none
  available : Bool
  indexedDocCount : Int32 := 0

variable {σ α : Type} (setup : Setup σ) (state : State σ)

def create (db : σ) : State σ :=
  { db
    available := setup.enabled && setup.backendType = .sqliteVss && setup.hasDb &&
      setup.driver.reportsAvailable }

def canOperate : Bool :=
  setup.enabled && setup.backendType = .sqliteVss && setup.hasDb && state.available

def validateDocument (document : VectorDocument) : StoreResult :=
  if document.docId = [] then validationFailureResult (str "vector document doc_id is required")
  else if document.docType = [] then
    validationFailureResult (str "vector document doc_type is required")
  else if document.text = [] ∧ document.embedding.isEmpty then
    validationFailureResult (str "vector document requires text or embedding content")
  else .success

/-- What the adapter makes of a text, unless there is no adapter, no text or nothing made. -/
def embedText (text : Bytes) : Option (List Float32) :=
  match setup.embeddingAdapter with
  | none => none
  | some adapter =>
    if text = [] then none
    else if (adapter.embed text).isEmpty then none
    else some (adapter.embed text)

def resolveDocumentEmbedding (document : VectorDocument) : Option (List Float32) :=
  if !document.embedding.isEmpty then some document.embedding else embedText setup document.text

def resolveQueryEmbedding (queryText : Bytes) : Option (List Float32) := embedText setup queryText

def acceptEmbeddingDimension (embeddingDimension : Nat) : Option (State σ) :=
  if embeddingDimension = 0 then none
  else
    match state.embeddingDimension with
    | none => some { state with embeddingDimension := some embeddingDimension }
    | some known => if known = embeddingDimension then some state else none

def markUnavailable : State σ := { state with available := false, initialized := false }

def refreshIndexedDocCount : State σ :=
  { state with indexedDocCount := setup.driver.indexedDocCount state.db }

/-- The driver opened for the dimension that was accepted. -/
def initializeDriver : StoreResult × State σ :=
  let opened := setup.driver.initializeDb state.db (Int32.ofNat (state.embeddingDimension.getD 0))
  let state := { state with db := opened.2 }
  if !opened.1.ok then (opened.1, markUnavailable state)
  else (.success opened.1.persistedId, refreshIndexedDocCount setup { state with initialized := true })

def ensureInitialized (embeddingDimension : Nat) : StoreResult × State σ :=
  if !canOperate setup state then
    (storageUnavailableResult (str "sqlite-vss backend is unavailable for initialization"), state)
  else
    match acceptEmbeddingDimension state embeddingDimension with
    | none =>
      (validationFailureResult (str "sqlite-vss backend received an unexpected embedding dimension"),
        state)
    | some state => if state.initialized then (.success, state) else initializeDriver setup state

/-- Goes on once the backend is initialized, or gives up. -/
def whenInitialized (embeddingDimension : Nat) (giveUp : StoreResult → α)
    (goOn : State σ → α × State σ) : α × State σ :=
  let opened := ensureInitialized setup state embeddingDimension
  if !opened.1.ok then (giveUp opened.1, opened.2) else goOn opened.2

/-- What follows a change of the driver: a failure ends the backend. -/
def settle (changed : StoreResult × σ) (persistedId : Bytes) : StoreResult × State σ :=
  let state := { state with db := changed.2 }
  if !changed.1.ok then (changed.1, markUnavailable state)
  else
    (if changed.1.persistedId.isNone then .success (some persistedId) else changed.1,
      refreshIndexedDocCount setup state)

def upsert (doc : VectorDocument) : StoreResult × State σ :=
  if !(validateDocument doc).ok then (validateDocument doc, state)
  else if !canOperate setup state then
    (storageUnavailableResult (str "sqlite-vss backend is unavailable for upsert"), state)
  else
    match resolveDocumentEmbedding setup doc with
    | none =>
      (validationFailureResult
        (str "vector document requires a precomputed embedding or a working embedding adapter"), state)
    | some embedding =>
      whenInitialized setup state embedding.length id fun state =>
        settle setup state (setup.driver.upsert state.db doc embedding) doc.docId

/-- A search once the backend is initialized. -/
def searchInitialized (queryEmbedding : List Float32) (topK : Int32) : List VectorHit × State σ :=
  if state.embeddingDimension ≠ some queryEmbedding.length then ([], state)
  else if state.indexedDocCount ≤ 0 then
    let state := refreshIndexedDocCount setup state
    if state.indexedDocCount ≤ 0 then ([], state)
    else (setup.driver.search state.db queryEmbedding topK, state)
  else (setup.driver.search state.db queryEmbedding topK, state)

def searchEmbedding (queryEmbedding : List Float32) (topK : Int32) : List VectorHit × State σ :=
  if !canOperate setup state || topK ≤ 0 || queryEmbedding.isEmpty then ([], state)
  else if !state.initialized then
    whenInitialized setup state queryEmbedding.length (fun _ => []) fun state =>
      searchInitialized setup state queryEmbedding topK
  else searchInitialized setup state queryEmbedding topK

def search (queryText : Bytes) (topK : Int32) : List VectorHit × State σ :=
  if !canOperate setup state || topK ≤ 0 then ([], state)
  else
    match resolveQueryEmbedding setup queryText with
    | none => ([], state)
    | some queryEmbedding => searchEmbedding setup state queryEmbedding topK

/-- The dimension that the adapter gives, 0 when it gives none. -/
def adapterDimension : Nat :=
  match setup.embeddingAdapter with
  | some adapter => if 0 < adapter.dimension then adapter.dimension.toInt.toNat else 0
  | none => 0

def rebuildIndex : StoreResult × State σ :=
  if !canOperate setup state then
    (storageUnavailableResult (str "sqlite-vss backend is unavailable for rebuild"), state)
  else
    let known := state.embeddingDimension.getD 0
    let embeddingDimension := if known = 0 then adapterDimension setup else known
    if embeddingDimension = 0 then
      (validationFailureResult (str "sqlite-vss rebuild requires a known embedding dimension"), state)
    else
      whenInitialized setup state embeddingDimension id fun state =>
        settle setup state (setup.driver.rebuildIndex state.db) (str "sqlite-vss-rebuild")

/-! ## Runs -/

inductive Call
  | upsert (doc : VectorDocument)
  | search (queryText : Bytes) (topK : Int32)
  | searchEmbedding (queryEmbedding : List Float32) (topK : Int32)
  | rebuildIndex

inductive Answer
  | stored (result : StoreResult)
  | found (hits : List VectorHit)

def Call.isSearch : Call → Bool
  | .search .. | .searchEmbedding .. => true
  | .upsert _ | .rebuildIndex => false

def step : Call → Answer × State σ
  | .upsert doc => ((upsert setup state doc).map .stored id)
  | .search queryText topK => ((search setup state queryText topK).map .found id)
  | .searchEmbedding queryEmbedding topK =>
    ((searchEmbedding setup state queryEmbedding topK).map .found id)
  | .rebuildIndex => ((rebuildIndex setup state).map .stored id)

def run : State σ → List Call → List Answer
  | _, [] => []
  | state, call :: calls => (step setup state call).1 :: run (step setup state call).2 calls

/-- The answers of a run without those to the marked calls. -/
def runUnmarked : State σ → List (Call × Bool) → List Answer
  | _, [] => []
  | state, (call, marked) :: calls =>
    if marked then runUnmarked (step setup state call).2 calls
    else (step setup state call).1 :: runUnmarked (step setup state call).2 calls

def unmarked (calls : List (Call × Bool)) : List Call := (calls.filter (!·.2)).map (·.1)

/-! ## What a run should be -/

/-- The dimension that a call asks of a backend that knows none. -/
def Call.dimension : Call → Option Nat
  | .upsert doc =>
    if (validateDocument doc).ok then (resolveDocumentEmbedding setup doc).map List.length else none
  | .search queryText topK =>
    if topK ≤ 0 then none else (resolveQueryEmbedding setup queryText).map List.length
  | .searchEmbedding queryEmbedding topK =>
    if topK ≤ 0 ∨ queryEmbedding.isEmpty then none else some queryEmbedding.length
  | .rebuildIndex => if adapterDimension setup = 0 then none else some (adapterDimension setup)

/-- The call has the driver initialized, for this dimension. -/
structure Opens (call : Call) (dimension : Nat) : Prop where
  operates : canOperate setup state = true
  first : state.initialized = false
  asked : call.dimension setup = some dimension

/-- The driver rejects the dimension. -/
def Denies (dimension : Nat) : Prop :=
  (setup.driver.initializeDb state.db (Int32.ofNat dimension)).1.ok = false ∧
    (setup.driver.initializeDb state.db (Int32.ofNat dimension)).1.resultCode =
      some .validationFieldMissing

/-- The call is rejected by validation or for its dimension. -/
inductive Rejected (call : Call) : Prop
  | invalid (hcall : call ≠ .rebuildIndex ∨ state.embeddingDimension = none)
      (hasked : call.dimension setup = none)
  | mismatched (dimension known : Nat) (hcall : call ≠ .rebuildIndex)
      (hasked : call.dimension setup = some dimension)
      (hknown : state.embeddingDimension = some known) (hother : dimension ≠ known)
  | denied (dimension : Nat) (hopens : Opens setup state call dimension)
      (hdenied : Denies setup state dimension)

/-- No rejected call of the run changes what the calls after it answer. -/
def RejectsCleanly : State σ → List Call → Prop
  | _, [] => True
  | state, call :: calls =>
    (Rejected setup state call →
      ∀ later, run setup (step setup state call).2 later = run setup state later) ∧
      RejectsCleanly (step setup state call).2 calls

structure SearchesReadOnly (calls : List Call) : Prop where
  deletable : ∀ marked : List (Call × Bool), marked.map (·.1) = calls →
    (∀ entry ∈ marked, entry.2 = true → entry.1.isSearch = true) →
      runUnmarked setup state marked = run setup state (unmarked marked)
  rejects : RejectsCleanly setup state calls

/-! ## When it is -/

/-- The call keeps to a dimension that only searches have fixed. -/
def Keeps (dimension : Nat) (call : Call) : Prop :=
  call.dimension setup = some dimension ∨ call.dimension setup = none ∧ call ≠ .rebuildIndex

structure Meets (fixed : Option Nat) (call : Call) : Prop where
  opens : call.isSearch = true → ∀ dimension, Opens setup state call dimension →
    (setup.driver.initializeDb state.db (Int32.ofNat dimension)).1.ok = true
  keeps : ∀ dimension, fixed = some dimension → Keeps setup dimension call
  undenied : ∀ dimension, Opens setup state call dimension → ¬ Denies setup state dimension

/-- The dimension that only searches have fixed, after a call. -/
def fixedAfter (fixed : Option Nat) (call : Call) : Option Nat :=
  if call.isSearch then
    if canOperate setup state && !state.initialized then call.dimension setup <|> fixed else fixed
  else if (call.dimension setup).isSome then none
  else fixed

def Steady : State σ → Option Nat → List Call → Prop
  | _, _, [] => True
  | state, fixed, call :: calls =>
    Meets setup state fixed call ∧
      Steady (step setup state call).2 (fixedAfter setup state fixed call) calls

/-! ## The phases of a backend -/

/-- The backend has not been used. -/
structure Fresh : Prop where
  operates : canOperate setup state = true
  first : state.initialized = false
  unknown : state.embeddingDimension = none

/-- The backend has been opened for the dimension. -/
structure Ready (dimension : Nat) : Prop where
  operates : canOperate setup state = true
  initialized : state.initialized = true
  known : state.embeddingDimension = some dimension
  positive : dimension ≠ 0
  counted : state.indexedDocCount = setup.driver.indexedDocCount state.db

/-- Every state of a run is in one of these. -/
inductive Phase : Prop
  | closed (h : canOperate setup state = false)
  | fresh (h : Fresh setup state)
  | ready (dimension : Nat) (h : Ready setup state dimension)

/-- The state of a fresh backend once its driver is initialized. -/
def started (dimension : Nat) : State σ :=
  refreshIndexedDocCount setup
    { state with
      db := (setup.driver.initializeDb state.db (Int32.ofNat dimension)).2
      embeddingDimension := some dimension
      initialized := true }

variable {setup} {state} {dimension known : Nat} {call : Call}

theorem Fresh.started (h : Fresh setup state) (hpos : dimension ≠ 0) :
    Ready setup (started setup state dimension) dimension :=
  ⟨h.operates, rfl, rfl, hpos, rfl⟩

theorem ensureInitialized_fresh (h : Fresh setup state) (hpos : dimension ≠ 0) :
    ensureInitialized setup state dimension =
      initializeDriver setup { state with embeddingDimension := some dimension } := by
  unfold ensureInitialized acceptEmbeddingDimension
  rw [h.operates, h.unknown, if_neg hpos]
  simp [h.first]

theorem ensureInitialized_ready (h : Ready setup state known) :
    ensureInitialized setup state dimension =
      if known = dimension then (.success, state)
      else
        (validationFailureResult
          (str "sqlite-vss backend received an unexpected embedding dimension"), state) := by
  unfold ensureInitialized acceptEmbeddingDimension
  rw [h.operates, h.known]
  by_cases hsame : known = dimension
  · have hpos : dimension ≠ 0 := hsame ▸ h.positive
    simp [hsame, hpos, h.initialized]
  · by_cases hzero : dimension = 0
    · simp [hzero, h.positive]
    · simp [hsame, hzero]

theorem initializeDriver_ok
    (hok : (setup.driver.initializeDb state.db (Int32.ofNat dimension)).1.ok = true) :
    initializeDriver setup { state with embeddingDimension := some dimension } =
      (.success (setup.driver.initializeDb state.db (Int32.ofNat dimension)).1.persistedId,
        started setup state dimension) := by
  unfold initializeDriver
  simp only [Option.getD_some, hok, Bool.not_true, Bool.false_eq_true, if_false]
  rfl

theorem whenInitialized_ready (h : Ready setup state dimension) (giveUp : StoreResult → α)
    (goOn : State σ → α × State σ) : whenInitialized setup state dimension giveUp goOn = goOn state := by
  unfold whenInitialized
  rw [ensureInitialized_ready h, if_pos rfl]
  rfl

theorem whenInitialized_mismatched (h : Ready setup state known) (hother : dimension ≠ known)
    (giveUp : StoreResult → α) (goOn : State σ → α × State σ) :
    (whenInitialized setup state dimension giveUp goOn).2 = state := by
  unfold whenInitialized
  rw [ensureInitialized_ready h, if_neg hother.symm]
  rfl

theorem whenInitialized_fresh (h : Fresh setup state) (hpos : dimension ≠ 0)
    (hok : (setup.driver.initializeDb state.db (Int32.ofNat dimension)).1.ok = true)
    (giveUp : StoreResult → α) (goOn : State σ → α × State σ) :
    whenInitialized setup state dimension giveUp goOn = goOn (started setup state dimension) := by
  unfold whenInitialized
  rw [ensureInitialized_fresh h hpos, initializeDriver_ok hok]
  rfl

/-- A backend whose driver does not open is closed. -/
theorem whenInitialized_failed (h : Fresh setup state) (hpos : dimension ≠ 0)
    (hfailed : (setup.driver.initializeDb state.db (Int32.ofNat dimension)).1.ok = false)
    (giveUp : StoreResult → α) (goOn : State σ → α × State σ) :
    canOperate setup (whenInitialized setup state dimension giveUp goOn).2 = false := by
  unfold whenInitialized
  rw [ensureInitialized_fresh h hpos]
  unfold initializeDriver
  simp [hfailed, markUnavailable, canOperate]

/-! ## The dimension of a call -/

theorem embedText_ne_nil {text : Bytes} {embedding : List Float32}
    (h : embedText setup text = some embedding) : embedding ≠ [] := by
  unfold embedText at h
  split at h
  · cases h
  · split at h
    · cases h
    · split at h
      · cases h
      · next hmade =>
        cases h
        simpa using hmade

theorem resolveDocumentEmbedding_ne_nil {doc : VectorDocument} {embedding : List Float32}
    (h : resolveDocumentEmbedding setup doc = some embedding) : embedding ≠ [] := by
  unfold resolveDocumentEmbedding at h
  split at h
  · next hgiven =>
    cases h
    simpa using hgiven
  · exact embedText_ne_nil h

theorem dimension_ne_zero (h : call.dimension setup = some dimension) : dimension ≠ 0 := by
  cases call with
  | upsert doc =>
    rw [Call.dimension] at h
    split at h
    · obtain ⟨embedding, hembedding, rfl⟩ := Option.map_eq_some_iff.mp h
      exact List.length_eq_zero_iff.not.mpr (resolveDocumentEmbedding_ne_nil hembedding)
    · cases h
  | search queryText topK =>
    rw [Call.dimension] at h
    split at h
    · cases h
    · obtain ⟨embedding, hembedding, rfl⟩ := Option.map_eq_some_iff.mp h
      exact List.length_eq_zero_iff.not.mpr (embedText_ne_nil hembedding)
  | searchEmbedding queryEmbedding topK =>
    rw [Call.dimension] at h
    split at h
    · cases h
    · next hgiven =>
      cases h
      rw [not_or, List.isEmpty_iff] at hgiven
      exact List.length_eq_zero_iff.not.mpr hgiven.2
  | rebuildIndex =>
    rw [Call.dimension] at h
    split at h
    · cases h
    · next hgiven =>
      cases h
      exact hgiven

/-! ## One call -/

variable (setup) in
/-- What a call does once the backend is initialized for its dimension. -/
def perform (state : State σ) : Call → Answer × State σ
  | .upsert doc =>
    (settle setup state
      (setup.driver.upsert state.db doc ((resolveDocumentEmbedding setup doc).getD [])) doc.docId).map
      .stored id
  | .search queryText topK =>
    (searchInitialized setup state ((resolveQueryEmbedding setup queryText).getD []) topK).map
      .found id
  | .searchEmbedding queryEmbedding topK =>
    (searchInitialized setup state queryEmbedding topK).map .found id
  | .rebuildIndex =>
    (settle setup state (setup.driver.rebuildIndex state.db) (str "sqlite-vss-rebuild")).map .stored id

theorem upsert_asked {doc : VectorDocument} (hop : canOperate setup state = true)
    (hasked : (Call.upsert doc).dimension setup = some dimension) :
    upsert setup state doc = whenInitialized setup state dimension id fun state =>
      settle setup state
        (setup.driver.upsert state.db doc ((resolveDocumentEmbedding setup doc).getD [])) doc.docId := by
  rw [Call.dimension] at hasked
  split at hasked
  · next hvalid =>
    obtain ⟨embedding, hembedding, rfl⟩ := Option.map_eq_some_iff.mp hasked
    unfold upsert
    simp [hvalid, hop, hembedding]
  · cases hasked

theorem searchEmbedding_asked {queryEmbedding : List Float32} {topK : Int32}
    (hop : canOperate setup state = true) (htop : ¬ topK ≤ 0) (hgiven : queryEmbedding ≠ []) :
    searchEmbedding setup state queryEmbedding topK =
      if !state.initialized then
        whenInitialized setup state queryEmbedding.length (fun _ => []) fun state =>
          searchInitialized setup state queryEmbedding topK
      else searchInitialized setup state queryEmbedding topK := by
  unfold searchEmbedding
  simp [hop, htop, hgiven]

theorem search_asked {queryText : Bytes} {topK : Int32} (hop : canOperate setup state = true)
    (hasked : (Call.search queryText topK).dimension setup = some dimension) :
    ¬ topK ≤ 0 ∧ ∃ embedding, resolveQueryEmbedding setup queryText = some embedding ∧
      embedding ≠ [] ∧ embedding.length = dimension ∧
      search setup state queryText topK = searchEmbedding setup state embedding topK := by
  rw [Call.dimension] at hasked
  split at hasked
  · cases hasked
  · next htop =>
    obtain ⟨embedding, hembedding, rfl⟩ := Option.map_eq_some_iff.mp hasked
    refine ⟨htop, embedding, hembedding, embedText_ne_nil hembedding, rfl, ?_⟩
    unfold search
    simp [hop, htop, hembedding]

theorem searchEmbedding_given {queryEmbedding : List Float32} {topK : Int32}
    (hasked : (Call.searchEmbedding queryEmbedding topK).dimension setup = some dimension) :
    ¬ topK ≤ 0 ∧ queryEmbedding ≠ [] ∧ queryEmbedding.length = dimension := by
  rw [Call.dimension] at hasked
  split at hasked
  · cases hasked
  · next hgiven =>
    rw [not_or, List.isEmpty_iff] at hgiven
    cases hasked
    exact ⟨hgiven.1, hgiven.2, rfl⟩

theorem rebuildIndex_known (h : Ready setup state known) :
    rebuildIndex setup state = whenInitialized setup state known id fun state =>
      settle setup state (setup.driver.rebuildIndex state.db) (str "sqlite-vss-rebuild") := by
  unfold rebuildIndex
  simp [h.operates, h.known, h.positive]

theorem rebuildIndex_fresh (h : Fresh setup state)
    (hasked : Call.rebuildIndex.dimension setup = some dimension) :
    rebuildIndex setup state = whenInitialized setup state dimension id fun state =>
      settle setup state (setup.driver.rebuildIndex state.db) (str "sqlite-vss-rebuild") := by
  rw [Call.dimension] at hasked
  split at hasked
  · cases hasked
  · next hgiven =>
    cases hasked
    unfold rebuildIndex
    simp [h.operates, h.unknown, hgiven]

/-- A ready backend performs a call of its dimension. -/
theorem step_ready (h : Ready setup state dimension)
    (hasked : call = .rebuildIndex ∨ call.dimension setup = some dimension) :
    step setup state call = perform setup state call := by
  cases call with
  | upsert doc =>
    have hdimension := hasked.resolve_left Call.noConfusion
    rw [step, perform, upsert_asked h.operates hdimension, whenInitialized_ready h]
  | search queryText topK =>
    have hdimension := hasked.resolve_left Call.noConfusion
    obtain ⟨htop, embedding, hembedding, hgiven, -, hsearch⟩ := search_asked h.operates hdimension
    rw [step, perform, hsearch, searchEmbedding_asked h.operates htop hgiven, hembedding,
      h.initialized]
    rfl
  | searchEmbedding queryEmbedding topK =>
    obtain ⟨htop, hgiven, -⟩ := searchEmbedding_given (hasked.resolve_left Call.noConfusion)
    rw [step, perform, searchEmbedding_asked h.operates htop hgiven, h.initialized]
    rfl
  | rebuildIndex => rw [step, perform, rebuildIndex_known h, whenInitialized_ready h]

/-- The first use of a backend opens it, and then performs the call. -/
theorem step_fresh (h : Fresh setup state) (hasked : call.dimension setup = some dimension)
    (hok : (setup.driver.initializeDb state.db (Int32.ofNat dimension)).1.ok = true) :
    step setup state call = perform setup (started setup state dimension) call := by
  have hpos := dimension_ne_zero hasked
  cases call with
  | upsert doc =>
    rw [step, perform, upsert_asked h.operates hasked, whenInitialized_fresh h hpos hok]
  | search queryText topK =>
    obtain ⟨htop, embedding, hembedding, hgiven, rfl, hsearch⟩ := search_asked h.operates hasked
    rw [step, perform, hsearch, searchEmbedding_asked h.operates htop hgiven, hembedding, h.first,
      whenInitialized_fresh h hpos hok]
    rfl
  | searchEmbedding queryEmbedding topK =>
    obtain ⟨htop, hgiven, rfl⟩ := searchEmbedding_given hasked
    rw [step, perform, searchEmbedding_asked h.operates htop hgiven, h.first,
      whenInitialized_fresh h hpos hok]
    rfl
  | rebuildIndex =>
    rw [step, perform, rebuildIndex_fresh h hasked, whenInitialized_fresh h hpos hok]

theorem step_closed (h : canOperate setup state = false) (call : Call) :
    (step setup state call).2 = state := by
  cases call with
  | upsert doc =>
    rw [step, upsert, h]
    cases hvalid : (validateDocument doc).ok with
    | true => rfl
    | false => rfl
  | search queryText topK =>
    rw [step, search, h]
    rfl
  | searchEmbedding queryEmbedding topK =>
    rw [step, searchEmbedding, h]
    rfl
  | rebuildIndex =>
    rw [step, rebuildIndex, h]
    rfl

variable {other : State σ}

/-- A call that asks for no dimension is answered in the same way by every backend in use. -/
theorem step_unasked (hop : canOperate setup state = true)
    (hother : canOperate setup other = true) (hcall : call ≠ .rebuildIndex)
    (hasked : call.dimension setup = none) :
    ∃ answer, step setup state call = (answer, state) ∧ step setup other call = (answer, other) := by
  cases call with
  | upsert doc =>
    rw [Call.dimension] at hasked
    rw [step, step, upsert, upsert, hop, hother]
    split at hasked
    · next hvalid =>
      rw [hvalid, Option.map_eq_none_iff.mp hasked]
      exact ⟨_, rfl, rfl⟩
    · next hvalid =>
      rw [Bool.not_eq_true] at hvalid
      rw [hvalid]
      exact ⟨_, rfl, rfl⟩
  | search queryText topK =>
    rw [Call.dimension] at hasked
    rw [step, step, search, search, hop, hother]
    split at hasked
    · next htop =>
      simp only [htop]
      exact ⟨_, rfl, rfl⟩
    · next htop =>
      simp only [htop, Option.map_eq_none_iff.mp hasked]
      exact ⟨_, rfl, rfl⟩
  | searchEmbedding queryEmbedding topK =>
    rw [Call.dimension] at hasked
    rw [step, step, searchEmbedding, searchEmbedding, hop, hother]
    split at hasked
    · next hrefused =>
      rcases hrefused with htop | hempty
      · simp only [htop]
        exact ⟨_, rfl, rfl⟩
      · simp only [hempty, Bool.or_true]
        exact ⟨_, rfl, rfl⟩
    · cases hasked
  | rebuildIndex => exact absurd rfl hcall

theorem step_unknown (h : Fresh setup state) (hasked : call.dimension setup = none) :
    (step setup state call).2 = state := by
  by_cases hcall : call = .rebuildIndex
  · subst hcall
    rw [Call.dimension] at hasked
    split at hasked
    · next hgiven =>
      unfold step rebuildIndex
      simp [h.operates, h.unknown, hgiven]
    · cases hasked
  · obtain ⟨answer, hstep, -⟩ := step_unasked h.operates h.operates hcall hasked
    rw [hstep]

theorem searchInitialized_ready (h : Ready setup state known) (queryEmbedding : List Float32)
    (topK : Int32) : (searchInitialized setup state queryEmbedding topK).2 = state := by
  have hrefresh : refreshIndexedDocCount setup state = state := by
    unfold refreshIndexedDocCount
    rw [← h.counted]
  unfold searchInitialized
  rw [hrefresh]
  split
  · rfl
  · split
    · dsimp only
      split
      · rfl
      · rfl
    · rfl

/-- A ready backend is left as it is by a call for another dimension. -/
theorem step_mismatched (h : Ready setup state known) (hcall : call ≠ .rebuildIndex)
    (hasked : call.dimension setup = some dimension) (hother : dimension ≠ known) :
    (step setup state call).2 = state := by
  cases call with
  | upsert doc =>
    rw [step, upsert_asked h.operates hasked, Prod.map_snd]
    exact whenInitialized_mismatched h hother _ _
  | search queryText topK =>
    obtain ⟨htop, embedding, -, hgiven, -, hsearch⟩ := search_asked h.operates hasked
    rw [step, hsearch, searchEmbedding_asked h.operates htop hgiven, h.initialized]
    exact searchInitialized_ready h embedding topK
  | searchEmbedding queryEmbedding topK =>
    obtain ⟨htop, hgiven, -⟩ := searchEmbedding_given hasked
    rw [step, searchEmbedding_asked h.operates htop hgiven, h.initialized]
    exact searchInitialized_ready h queryEmbedding topK
  | rebuildIndex => exact absurd rfl hcall

theorem step_failed (h : Fresh setup state) (hasked : call.dimension setup = some dimension)
    (hfailed : (setup.driver.initializeDb state.db (Int32.ofNat dimension)).1.ok = false) :
    canOperate setup (step setup state call).2 = false := by
  have hpos := dimension_ne_zero hasked
  cases call with
  | upsert doc =>
    rw [step, upsert_asked h.operates hasked, Prod.map_snd]
    exact whenInitialized_failed h hpos hfailed _ _
  | search queryText topK =>
    obtain ⟨htop, embedding, hembedding, hgiven, rfl, hsearch⟩ := search_asked h.operates hasked
    rw [step, hsearch, searchEmbedding_asked h.operates htop hgiven, h.first,
      if_pos Bool.not_false, Prod.map_snd]
    exact whenInitialized_failed h hpos hfailed _ _
  | searchEmbedding queryEmbedding topK =>
    obtain ⟨htop, hgiven, rfl⟩ := searchEmbedding_given hasked
    rw [step, searchEmbedding_asked h.operates htop hgiven, h.first,
      if_pos Bool.not_false, Prod.map_snd]
    exact whenInitialized_failed h hpos hfailed _ _
  | rebuildIndex =>
    rw [step, rebuildIndex_fresh h hasked, Prod.map_snd]
    exact whenInitialized_failed h hpos hfailed _ _

theorem settle_phase (h : Ready setup state dimension) (changed : StoreResult × σ)
    (persistedId : Bytes) : Phase setup (settle setup state changed persistedId).2 := by
  unfold settle
  cases hok : changed.1.ok with
  | true => exact .ready dimension ⟨h.operates, h.initialized, h.known, h.positive, rfl⟩
  | false => exact .closed (by simp [markUnavailable, canOperate])

theorem perform_search (h : Ready setup state dimension) (hsearch : call.isSearch = true) :
    (perform setup state call).2 = state := by
  cases call with
  | upsert doc => cases hsearch
  | search queryText topK => exact searchInitialized_ready h _ topK
  | searchEmbedding queryEmbedding topK => exact searchInitialized_ready h queryEmbedding topK
  | rebuildIndex => cases hsearch

theorem perform_phase (h : Ready setup state dimension) (call : Call) :
    Phase setup (perform setup state call).2 := by
  cases call with
  | upsert doc => exact settle_phase h _ _
  | search queryText topK =>
    rw [perform_search h rfl]
    exact .ready dimension h
  | searchEmbedding queryEmbedding topK =>
    rw [perform_search h rfl]
    exact .ready dimension h
  | rebuildIndex => exact settle_phase h _ _

theorem Phase.step (h : Phase setup state) (call : Call) :
    Phase setup (step setup state call).2 := by
  cases h with
  | closed hclosed =>
    rw [step_closed hclosed]
    exact .closed hclosed
  | fresh hfresh =>
    cases hasked : call.dimension setup with
    | none =>
      rw [step_unknown hfresh hasked]
      exact .fresh hfresh
    | some dimension =>
      cases hok : (setup.driver.initializeDb state.db (Int32.ofNat dimension)).1.ok with
      | true =>
        rw [step_fresh hfresh hasked hok]
        exact perform_phase (hfresh.started (dimension_ne_zero hasked)) call
      | false => exact .closed (step_failed hfresh hasked hok)
  | ready known hready =>
    by_cases hcall : call = .rebuildIndex
    · rw [step_ready hready (.inl hcall)]
      exact perform_phase hready call
    · cases hasked : call.dimension setup with
      | none =>
        obtain ⟨answer, hstep, -⟩ := step_unasked hready.operates hready.operates hcall hasked
        rw [hstep]
        exact .ready known hready
      | some dimension =>
        by_cases hsame : dimension = known
        · rw [step_ready hready (.inr (hsame ▸ hasked))]
          exact perform_phase hready call
        · rw [step_mismatched hready hcall hasked hsame]
          exact .ready known hready

theorem create_phase (setup : Setup σ) (db : σ) : Phase setup (create setup db) := by
  cases hop : canOperate setup (create setup db) with
  | false => exact .closed hop
  | true => exact .fresh ⟨hop, rfl, rfl⟩

/-! ## Rejected calls -/

theorem rejected_unchanged (hphase : Phase setup state) (h : Rejected setup state call)
    (hundenied : ∀ dimension, Opens setup state call dimension → ¬ Denies setup state dimension) :
    (step setup state call).2 = state := by
  cases hphase with
  | closed hclosed => exact step_closed hclosed call
  | fresh hfresh =>
    cases h with
    | invalid hcall hasked => exact step_unknown hfresh hasked
    | mismatched dimension known hcall hasked hknown hother =>
      rw [hfresh.unknown] at hknown
      cases hknown
    | denied dimension hopens hdenied => exact absurd hdenied (hundenied dimension hopens)
  | ready known hready =>
    cases h with
    | invalid hcall hasked =>
      have hother : call ≠ .rebuildIndex := by
        rcases hcall with hcall | hunknown
        · exact hcall
        · rw [hready.known] at hunknown
          cases hunknown
      obtain ⟨answer, hstep, -⟩ := step_unasked hready.operates hready.operates hother hasked
      rw [hstep]
    | mismatched dimension known' hcall hasked hknown hother =>
      rw [hready.known] at hknown
      cases hknown
      exact step_mismatched hready hcall hasked hother
    | denied dimension hopens hdenied => exact absurd hdenied (hundenied dimension hopens)

variable {fixed : Option Nat}

theorem rejectsCleanly_of_steady {calls : List Call}
    (hphase : Phase setup state) (h : Steady setup state fixed calls) :
    RejectsCleanly setup state calls := by
  induction calls generalizing state fixed with
  | nil => trivial
  | cons call calls ih =>
    obtain ⟨hmeets, hcalls⟩ := h
    refine ⟨fun hrejected later => ?_, ih (hphase.step call) hcalls⟩
    rw [rejected_unchanged hphase hrejected hmeets.undenied]

/-! ## Deleted searches -/

/-- The second state is the first before a search opened it for the dimension. -/
structure Ahead (setup : Setup σ) (state other : State σ) (dimension : Nat) : Prop where
  fresh : Fresh setup other
  positive : dimension ≠ 0
  opened : (setup.driver.initializeDb other.db (Int32.ofNat dimension)).1.ok = true
  started : state = started setup other dimension

theorem Ahead.ready (h : Ahead setup state other dimension) :
    Ready setup state dimension := by
  rw [h.started]
  exact h.fresh.started h.positive

/-- The states of a run and of the run without some searches. -/
def Related (setup : Setup σ) (state other : State σ) (fixed : Option Nat) : Prop :=
  state = other ∨ ∃ dimension, fixed = some dimension ∧ Ahead setup state other dimension

theorem step_kept (h : Related setup state other fixed)
    (hmeets : Meets setup state fixed call) :
    (step setup state call).1 = (step setup other call).1 ∧
      Related setup (step setup state call).2 (step setup other call).2
        (fixedAfter setup state fixed call) := by
  rcases h with rfl | ⟨dimension, hfixed, hahead⟩
  · exact ⟨rfl, .inl rfl⟩
  · rcases hmeets.keeps dimension hfixed with hasked | ⟨hasked, hcall⟩
    · -- the other run is opened by this call
      have hsame : step setup state call = step setup other call := by
        rw [step_ready hahead.ready (.inr hasked), step_fresh hahead.fresh hasked hahead.opened,
          hahead.started]
      rw [hsame]
      exact ⟨rfl, .inl rfl⟩
    · obtain ⟨answer, hstep, hstep'⟩ :=
        step_unasked hahead.ready.operates hahead.fresh.operates hcall hasked
      have hsame : fixedAfter setup state fixed call = fixed := by
        unfold fixedAfter
        simp [hahead.ready.initialized, hasked]
      rw [hstep, hstep', hsame]
      exact ⟨rfl, .inr ⟨dimension, hfixed, hahead⟩⟩

theorem search_ready (h : Ready setup state known) (hsearch : call.isSearch = true) :
    (step setup state call).2 = state := by
  have hcall : call ≠ .rebuildIndex := by
    rintro rfl
    cases hsearch
  cases hasked : call.dimension setup with
  | none =>
    obtain ⟨answer, hstep, -⟩ := step_unasked h.operates h.operates hcall hasked
    rw [hstep]
  | some dimension =>
    by_cases hsame : dimension = known
    · rw [step_ready h (.inr (hsame ▸ hasked))]
      exact perform_search h hsearch
    · exact step_mismatched h hcall hasked hsame

theorem step_deleted (hphase : Phase setup state)
    (h : Related setup state other fixed) (hmeets : Meets setup state fixed call)
    (hsearch : call.isSearch = true) :
    Related setup (step setup state call).2 other (fixedAfter setup state fixed call) := by
  rcases h with rfl | ⟨dimension, hfixed, hahead⟩
  · cases hphase with
    | closed hclosed => exact .inl (step_closed hclosed call)
    | fresh hfresh =>
      cases hasked : call.dimension setup with
      | none => exact .inl (step_unknown hfresh hasked)
      | some dimension =>
        have hpos := dimension_ne_zero hasked
        have hopened := hmeets.opens hsearch dimension ⟨hfresh.operates, hfresh.first, hasked⟩
        refine .inr ⟨dimension, ?_, hfresh, hpos, hopened, ?_⟩
        · unfold fixedAfter
          simp [hsearch, hfresh.operates, hfresh.first, hasked]
        · rw [step_fresh hfresh hasked hopened]
          exact perform_search (hfresh.started hpos) hsearch
    | ready known hready => exact .inl (search_ready hready hsearch)
  · have hsame : fixedAfter setup state fixed call = fixed := by
      unfold fixedAfter
      simp [hsearch, hahead.ready.initialized]
    rw [search_ready hahead.ready hsearch, hsame]
    exact .inr ⟨dimension, hfixed, hahead⟩

theorem runUnmarked_eq {marked : List (Call × Bool)}
    (hphase : Phase setup state) (hrelated : Related setup state other fixed)
    (hsteady : Steady setup state fixed (marked.map (·.1)))
    (hmarks : ∀ entry ∈ marked, entry.2 = true → entry.1.isSearch = true) :
    runUnmarked setup state marked = run setup other (unmarked marked) := by
  induction marked generalizing state other fixed with
  | nil => rfl
  | cons entry marked ih =>
    obtain ⟨call, mark⟩ := entry
    obtain ⟨hmeets, hcalls⟩ := hsteady
    obtain ⟨hmark, hrest⟩ := List.forall_mem_cons.mp hmarks
    cases mark with
    | true =>
      exact ih (hphase.step call) (step_deleted hphase hrelated hmeets (hmark rfl)) hcalls hrest
    | false =>
      obtain ⟨hanswer, hnext⟩ := step_kept hrelated hmeets
      rw [runUnmarked, hanswer, ih (hphase.step call) hnext hcalls hrest]
      rfl

/-- In a run whose calls keep to the dimension that a search fixes, for as long as only searches have
fixed it, and whose driver opens for it, the searches may be deleted. -/
theorem searchesReadOnly_of_steady (setup : Setup σ) (db : σ) (calls : List Call)
    (h : Steady setup (create setup db) none calls) :
    SearchesReadOnly setup (create setup db) calls := by
  refine ⟨fun marked hcalls hmarks => ?_, rejectsCleanly_of_steady (create_phase setup db) h⟩
  subst hcalls
  exact runUnmarked_eq (create_phase setup db) (.inl rfl) h hmarks

/-- A driver that counts its documents. -/
def countingDriver : Driver Nat where
  reportsAvailable := true
  initializeDb := fun count _ => (.success, count)
  upsert := fun count _ _ => (.success, count + 1)
  search := fun _ _ _ => []
  indexedDocCount := fun count => Int32.ofNat count
  rebuildIndex := fun count => (.success, count)

def countingSetup : Setup Nat := { driver := countingDriver }

/-- A document, under its own dimension. -/
def note (embedding : List Float32) : VectorDocument :=
  { docId := str "d", docType := str "note", embedding }

theorem searchesReadOnly_counting :
    SearchesReadOnly countingSetup (create countingSetup 0)
      [.searchEmbedding [0, 0] 1, .upsert (note [0, 0])] := by
  apply searchesReadOnly_of_steady
  refine ⟨⟨fun _ _ _ => rfl, fun _ hfixed => ?_, ?_⟩, ⟨fun hsearch => ?_, fun _ hfixed => ?_, ?_⟩,
    trivial⟩
  · cases hfixed
  · rintro dimension - ⟨hfailed, -⟩
    cases hfailed
  · cases hsearch
  · cases hfixed
    exact .inl rfl
  · rintro dimension - ⟨hfailed, -⟩
    cases hfailed

def Answer.accepted : Answer → Bool
  | .stored result => result.ok
  | .found _ => true

/-- After a search with two numbers, a document with three is not stored. -/
theorem not_searchesReadOnly_counting :
    ¬ SearchesReadOnly countingSetup (create countingSetup 0)
      [.searchEmbedding [0, 0] 1, .upsert (note [0, 0, 0])] := by
  intro h
  have hsame := h.deletable
    [(.searchEmbedding [0, 0] 1, true), (.upsert (note [0, 0, 0]), false)] rfl (by simp [Call.isSearch])
  exact absurd (congrArg (List.map Answer.accepted) hsame) (by decide)

end Dasall.Memory.Vector
