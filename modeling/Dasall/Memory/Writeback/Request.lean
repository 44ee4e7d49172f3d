import Dasall.Memory.Conflict.Resolver
import Dasall.Lib.Words

/-!
# Writeback requests

What the coordinator makes of a request before it writes: missing ids, sessions, sources and times
are filled in.
-/

open Dasall.Contracts.Memory Dasall.Lib.Ascii Dasall.Lib.Guard Dasall.Lib.Text
open Dasall.Memory.Conflict (ConflictRecord FactCandidate appendWarningOnce)

namespace Dasall.Memory.Writeback

structure ProgrammaticMemoryRecord where
  assetRef : Bytes
  sessionId : Bytes
  sourceTurnId : Bytes
  contentDigest : Bytes
  leaseExpiresAt : Int64
deriving DecidableEq

structure ExperienceCandidate where
  experience : ExperienceMemory
  extractionSource : Bytes := []
deriving DecidableEq

structure ProgrammaticMemoryCandidate where
  record : ProgrammaticMemoryRecord
  extractionSource : Bytes := []
deriving DecidableEq

structure MemoryWritebackRequest where
  sessionId : Bytes
  turn : Turn
  summaryCandidate : Option SummaryMemory := none
  factCandidates : List FactCandidate := []
  experienceCandidates : List ExperienceCandidate := []
  programmaticCandidates : List ProgrammaticMemoryCandidate := []
  reflectionLesson : Option ReflectionLessonProjection := none
  sideEffectReportRef : Option Bytes := none
deriving DecidableEq

def sanitizeStep (sanitized : Bytes) (ch : Byte) : Bytes :=
  if isAlnum ch then sanitized ++ [toLower ch]
  else if !sanitized.isEmpty && sanitized.getLast? != some 45 then sanitized ++ [45]
  else sanitized

def sanitizeIdComponent (value : Bytes) : Bytes :=
  let sanitized := (value.foldl sanitizeStep []).rdropWhile (· == 45)
  if sanitized.isEmpty then str "memory" else sanitized

/-- An index below zero adds nothing. -/
def buildGeneratedId (label : String) (sessionId turnId : Bytes) (index : Int32) : Bytes :=
  let generated := str label ++ str "-" ++ sanitizeIdComponent sessionId ++ str "-" ++
    sanitizeIdComponent turnId
  if 0 ≤ index then generated ++ str "-" ++ intDecimal index.toInt else generated

/-! ## Normalization -/

/-- What the clock shows each time it is read. -/
structure Clock where
  turn : Int64
  summary : Int64
  fact : Nat → Int64
  experience : Nat → Int64

def orWhenEmpty (value : Option Bytes) (fallback : Bytes) : Option Bytes :=
  if hasNonEmptyValue value then value else some fallback

def orWhenNoItems (values : Option (List Bytes)) (fallback : List Bytes) : Option (List Bytes) :=
  if values.any fun values => !values.isEmpty then values else some fallback

def orWhenNotPositive (value : Option Int64) (fallback : Int64) : Option Int64 :=
  if value.any fun value => 0 < value then value else some fallback

def MemoryWritebackRequest.turnIdOrDefault (request : MemoryWritebackRequest) : Bytes :=
  request.turn.turnId.getD (str "turn")

def normalizeSummaryCandidate (now : Int64) (request : MemoryWritebackRequest) :
    Option SummaryMemory :=
  request.summaryCandidate.map fun summary =>
    { summary with
      summaryId := orWhenEmpty summary.summaryId
        (buildGeneratedId "summary" request.sessionId request.turnIdOrDefault (-1))
      sessionId := orWhenEmpty summary.sessionId request.sessionId
      sourceTurnIds := orWhenNoItems summary.sourceTurnIds [request.turnIdOrDefault]
      createdAt := orWhenNotPositive summary.createdAt (request.turn.createdAt.getD now) }

def normalizeFactCandidate (now : Int64) (request : MemoryWritebackRequest) (candidate : FactCandidate)
    (index : Nat) : FactCandidate :=
  { candidate with
    fact := { candidate.fact with
      factId := orWhenEmpty candidate.fact.factId
        (buildGeneratedId "fact" request.sessionId request.turnIdOrDefault (Int32.ofNat index))
      sessionId := orWhenEmpty candidate.fact.sessionId request.sessionId
      sourceTurnIds := orWhenNoItems candidate.fact.sourceTurnIds [request.turnIdOrDefault]
      createdAt := orWhenNotPositive candidate.fact.createdAt (request.turn.createdAt.getD now) } }

def normalizeExperienceCandidate (now : Int64) (request : MemoryWritebackRequest)
    (candidate : ExperienceCandidate) (index : Nat) : ExperienceCandidate :=
  { candidate with
    experience := { candidate.experience with
      experienceId := orWhenEmpty candidate.experience.experienceId
        (buildGeneratedId "experience" request.sessionId request.turnIdOrDefault
          (Int32.ofNat index))
      sessionId := orWhenEmpty candidate.experience.sessionId request.sessionId
      sourceTurnIds := orWhenNoItems candidate.experience.sourceTurnIds [request.turnIdOrDefault]
      createdAt := orWhenNotPositive candidate.experience.createdAt
        (request.turn.createdAt.getD now) } }

def appendUniqueString (values : List Bytes) (value : Bytes) : List Bytes :=
  if value.isEmpty || values.contains value then values else values ++ [value]

def makeReflectionExperienceCandidate (now : Int64) (request : MemoryWritebackRequest)
    (lesson : ReflectionLessonProjection) (index : Nat) : ExperienceCandidate :=
  let tags := [str "reflection", str "stage:reflection",
    str "experience_kind:" ++ reflectionLessonExperienceKind].foldl appendUniqueString
      (lesson.tags.getD [])
  normalizeExperienceCandidate now request
    { extractionSource := str "runtime.cognition.reflection_lesson"
      experience :=
        { lessonSummary := lesson.lessonSummary
          triggerCondition := orWhenEmpty lesson.triggerCondition
            (str "reflection follow-up required")
          recommendedAction := orWhenEmpty lesson.recommendedAction
            (str "apply the latest reflection guidance")
          effectivenessScore := lesson.effectivenessScore
          applicableDomains := lesson.applicableDomains
          tags := some tags } }
    index

/-! ## The candidates of a request -/

def normalizedFacts (clock : Clock) (request : MemoryWritebackRequest) : List FactCandidate :=
  request.factCandidates.mapIdx fun index candidate =>
    normalizeFactCandidate (clock.fact index) request candidate index

def normalizedExperiences (clock : Clock) (request : MemoryWritebackRequest) :
    List ExperienceCandidate :=
  request.experienceCandidates.mapIdx fun index candidate =>
    normalizeExperienceCandidate (clock.experience index) request candidate index

def reflectionCandidate (clock : Clock) (request : MemoryWritebackRequest) :
    Option ExperienceCandidate :=
  request.reflectionLesson.map fun lesson =>
    makeReflectionExperienceCandidate (clock.experience request.experienceCandidates.length) request
      lesson request.experienceCandidates.length

end Dasall.Memory.Writeback

/-!
## Generated ids

A generated id keeps the lowercased words of the session id and of the turn id in one row, and the
position after them. Two requests share ids as soon as these rows are the same.
-/

open Dasall.Lib.Separated Dasall.Lib.Words

namespace Dasall.Memory.Writeback

/-! ## Words -/

/-- The lowercased alphanumeric words of an id, or the word that stands for none. -/
def nameWords (value : Bytes) : List Bytes :=
  if (words isAlnum toLower value).isEmpty then [str "memory"] else words isAlnum toLower value

def indexWords (index : Int32) : List Bytes :=
  if 0 ≤ index then [intDecimal index.toInt] else []

def idWords (sessionId turnId : Bytes) (index : Int32) : List Bytes :=
  nameWords sessionId ++ nameWords turnId ++ indexWords index

theorem toLower_ne_dash (ch : Byte) (h : isAlnum ch = true) : toLower ch ≠ 45 := by
  intro heq
  have hvalue := congrArg UInt8.toNat heq
  rw [toLower_toNat] at hvalue
  simp only [isAlnum, isAlpha, isUpper, isLower, isDigit, Bool.or_eq_true, Bool.and_eq_true,
    decide_eq_true_eq] at h
  split at hvalue
  · simp at hvalue
    omega
  · simp at hvalue
    omega

variable (value : Bytes)

theorem words_free : ∀ word ∈ words isAlnum toLower value, 45 ∉ word ∧ word ≠ [] :=
  wordsFrom_free isAlnum toLower 45 toLower_ne_dash value [] (by simp)

theorem nameWords_free : ∀ word ∈ nameWords value, 45 ∉ word := by
  unfold nameWords
  split
  · decide
  · exact fun word hword => (words_free value word hword).1

theorem nameWords_ne_nil : nameWords value ≠ [] := by
  unfold nameWords
  split
  · simp
  · next h => simpa using h

theorem indexWords_free (index : Int32) : ∀ word ∈ indexWords index, 45 ∉ word := by
  unfold indexWords
  split
  · next h =>
    intro word hword hmem
    rw [Int32.le_iff_toInt_le] at h
    simp only [List.mem_singleton] at hword
    subst hword
    unfold intDecimal at hmem
    rw [if_neg (by simpa using h)] at hmem
    exact (digit_not_sign 45 (decimal_digits _ 45 hmem)).1 rfl
  · simp

theorem idWords_free (sessionId turnId : Bytes) (index : Int32) :
    ∀ word ∈ idWords sessionId turnId index, 45 ∉ word := by
  unfold idWords
  intro word hword
  rw [List.mem_append, List.mem_append] at hword
  rcases hword with (h | h) | h
  · exact nameWords_free sessionId word h
  · exact nameWords_free turnId word h
  · exact indexWords_free index word h

/-! ## What is written -/

theorem sanitizeIdComponent_eq :
    sanitizeIdComponent value = join 45 (nameWords value) := by
  have hscan := scan_eq_join isAlnum toLower 45 toLower_ne_dash value
  have hstep : scanStep isAlnum toLower 45 = sanitizeStep := rfl
  rw [hstep] at hscan
  unfold sanitizeIdComponent nameWords
  rw [hscan]
  by_cases h : words isAlnum toLower value = []
  · simp [h, join]
  · have hjoin : join 45 (words isAlnum toLower value) ≠ [] := by
      intro heq
      rcases (join_eq_nil 45 _).mp heq with hnil | hsingle
      · exact h hnil
      · exact (words_free value [] (by simp [hsingle])).2 rfl
    simp [h, hjoin]

theorem buildGeneratedId_eq (label : String) (sessionId turnId : Bytes) (index : Int32) :
    buildGeneratedId label sessionId turnId index =
      join 45 (str label :: idWords sessionId turnId index) := by
  have hsession := nameWords_ne_nil sessionId
  have hturn := nameWords_ne_nil turnId
  have hdash : str "-" = [45] := rfl
  have hnames : str label ++ str "-" ++ sanitizeIdComponent sessionId ++ str "-" ++
      sanitizeIdComponent turnId =
        join 45 (str label :: (nameWords sessionId ++ nameWords turnId)) := by
    have happend := join_append 45 [str label] (nameWords sessionId ++ nameWords turnId) (by simp)
      (by simp [hsession])
    rw [List.singleton_append] at happend
    rw [happend, join_append 45 _ _ hsession hturn, ← sanitizeIdComponent_eq,
      ← sanitizeIdComponent_eq, hdash]
    simp [join]
  unfold buildGeneratedId idWords indexWords
  simp only [hnames]
  split
  · have hsingle : join 45 [intDecimal index.toInt] = intDecimal index.toInt := by simp [join]
    have happend := join_append 45 (str label :: (nameWords sessionId ++ nameWords turnId))
      [intDecimal index.toInt] (by simp) (by simp)
    rw [List.cons_append] at happend
    rw [happend, hdash, hsingle, List.append_assoc, List.singleton_append]
  · rw [List.append_nil]

theorem buildGeneratedId_inj (label : String) (hlabel : 45 ∉ str label)
    (sessionId turnId sessionId' turnId' : Bytes) (index index' : Int32) :
    buildGeneratedId label sessionId turnId index = buildGeneratedId label sessionId' turnId' index' ↔
      idWords sessionId turnId index = idWords sessionId' turnId' index' := by
  rw [buildGeneratedId_eq, buildGeneratedId_eq]
  constructor
  · intro h
    have hlist := join_injective 45 _ _ (by simp) (by simp)
      (List.forall_mem_cons.mpr ⟨hlabel, idWords_free sessionId turnId index⟩)
      (List.forall_mem_cons.mpr ⟨hlabel, idWords_free sessionId' turnId' index'⟩) h
    exact (List.cons.inj hlist).2
  · intro h
    rw [h]

/-! ## Where ids are left to fill in -/

/-- A candidate of a request. The reflection lesson stands after the experience candidates. -/
inductive Place
  | summary
  | fact (index : Nat)
  | experience (index : Nat)
deriving DecidableEq

def Place.label : Place → String
  | .summary => "summary"
  | .fact _ => "fact"
  | .experience _ => "experience"

def Place.index : Place → Int32
  | .summary => -1
  | .fact index => Int32.ofNat index
  | .experience index => Int32.ofNat index

/-- There is a candidate, and its id is missing or empty. -/
def Place.isOpen (request : MemoryWritebackRequest) : Place → Bool
  | .summary => request.summaryCandidate.any fun summary => !hasNonEmptyValue summary.summaryId
  | .fact index => request.factCandidates[index]?.any fun candidate =>
      !hasNonEmptyValue candidate.fact.factId
  | .experience index =>
    (request.experienceCandidates[index]?.any fun candidate =>
        !hasNonEmptyValue candidate.experience.experienceId) ||
      (request.reflectionLesson.isSome && index == request.experienceCandidates.length)

/-- The id that the candidate has once the request is normalized. -/
def Place.filledId (clock : Clock) (request : MemoryWritebackRequest) : Place → Option Bytes
  | .summary => (normalizeSummaryCandidate clock.summary request).bind (·.summaryId)
  | .fact index => ((normalizedFacts clock request)[index]?).bind (·.fact.factId)
  | .experience index =>
    ((normalizedExperiences clock request ++ (reflectionCandidate clock request).toList)[index]?).bind
      (·.experience.experienceId)

def Place.words (request : MemoryWritebackRequest) (place : Place) : List Bytes :=
  idWords request.sessionId request.turnIdOrDefault place.index

theorem Place.label_free (place : Place) : 45 ∉ str place.label := by
  have hlabels : ∀ label ∈ ["summary", "fact", "experience"], 45 ∉ str label := by decide
  apply hlabels
  cases place <;> simp [Place.label]

theorem orWhenEmpty_open {value : Option Bytes} (h : hasNonEmptyValue value = false)
    (fallback : Bytes) : orWhenEmpty value fallback = some fallback := by
  simp [orWhenEmpty, h]

theorem filledId_open (clock : Clock) (request : MemoryWritebackRequest) (place : Place)
    (hopen : place.isOpen request = true) :
    place.filledId clock request =
      some (buildGeneratedId place.label request.sessionId request.turnIdOrDefault place.index) := by
  cases place with
  | summary =>
    obtain ⟨summary, hsummary, hid⟩ := Option.any_eq_true _ _ |>.mp hopen
    rw [Bool.not_eq_true'] at hid
    simp only [Place.filledId, normalizeSummaryCandidate, hsummary, Option.map_some, Option.bind_some]
    exact orWhenEmpty_open hid _
  | fact index =>
    obtain ⟨candidate, hcandidate, hid⟩ := Option.any_eq_true _ _ |>.mp hopen
    rw [Bool.not_eq_true'] at hid
    simp only [Place.filledId, normalizedFacts, List.getElem?_mapIdx, hcandidate, Option.map_some,
      Option.bind_some]
    exact orWhenEmpty_open hid _
  | experience index =>
    have hlength : (normalizedExperiences clock request).length =
        request.experienceCandidates.length := by
      simp [normalizedExperiences]
    simp only [Place.isOpen, Bool.or_eq_true, Bool.and_eq_true, beq_iff_eq] at hopen
    rcases hopen with hcandidate | ⟨hlesson, rfl⟩
    · obtain ⟨candidate, hcandidate, hid⟩ := Option.any_eq_true _ _ |>.mp hcandidate
      rw [Bool.not_eq_true'] at hid
      obtain ⟨hlt, -⟩ := List.getElem?_eq_some_iff.mp hcandidate
      simp only [Place.filledId]
      rw [List.getElem?_append_left (hlength ▸ hlt), normalizedExperiences, List.getElem?_mapIdx,
        hcandidate]
      exact orWhenEmpty_open hid _
    · obtain ⟨lesson, hlesson⟩ := Option.isSome_iff_exists.mp hlesson
      simp only [Place.filledId]
      rw [List.getElem?_append_right (by omega), hlength, Nat.sub_self, reflectionCandidate, hlesson]
      rfl

/-! ## When ids differ -/

/-- Two candidates of one kind, both left for the coordinator to fill in, get different ids. -/
def IdsDiffer (clock clock' : Clock) (request request' : MemoryWritebackRequest)
    (place place' : Place) : Prop :=
  place.isOpen request = true → place'.isOpen request' = true → place.label = place'.label →
    place.filledId clock request ≠ place'.filledId clock' request'

def WordsDiffer (request request' : MemoryWritebackRequest) (place place' : Place) : Prop :=
  place.isOpen request = true → place'.isOpen request' = true → place.label = place'.label →
    place.words request ≠ place'.words request'

theorem idsDiffer_iff_wordsDiffer (clock clock' : Clock) (request request' : MemoryWritebackRequest)
    (place place' : Place) :
    IdsDiffer clock clock' request request' place place' ↔
      WordsDiffer request request' place place' := by
  unfold IdsDiffer WordsDiffer Place.words
  refine forall_congr' fun hopen => forall_congr' fun hopen' => forall_congr' fun hlabel => ?_
  rw [filledId_open clock request place hopen, filledId_open clock' request' place' hopen', ne_eq,
    Option.some.injEq, ← hlabel, buildGeneratedId_inj place.label place.label_free]

theorem words_eq_iff_index (request : MemoryWritebackRequest) (place place' : Place) :
    place.words request = place'.words request ↔
      indexWords place.index = indexWords place'.index := by
  unfold Place.words idWords
  rw [List.append_cancel_left_eq]

/-- The ids of two requests with different session or turn ids, and of one request at different
positions, differ just when the words that they keep do. -/
theorem generated_ids_differ_iff (clock clock' : Clock)
    (request request' : MemoryWritebackRequest) :
    ((∀ place place', IdsDiffer clock clock' request request' place place') ↔
      ∀ place place', WordsDiffer request request' place place') ∧
    ((∀ place place' : Place, place ≠ place' → IdsDiffer clock clock request request place place') ↔
      ∀ place place' : Place, place ≠ place' → place.isOpen request = true →
        place'.isOpen request = true → place.label = place'.label →
          indexWords place.index ≠ indexWords place'.index) := by
  constructor
  · exact forall_congr' fun place => forall_congr' fun place' =>
      idsDiffer_iff_wordsDiffer clock clock' request request' place place'
  · refine forall_congr' fun place => forall_congr' fun place' => forall_congr' fun _ => ?_
    rw [idsDiffer_iff_wordsDiffer]
    unfold WordsDiffer
    simp only [ne_eq, words_eq_iff_index]

def zeroClock : Clock := ⟨0, 0, fun _ => 0, fun _ => 0⟩

def requestFor (sessionId : String) : MemoryWritebackRequest where
  sessionId := str sessionId
  turn := { turnId := some (str "t") }
  summaryCandidate := some {}

/-- Both summaries are called `summary-a-b-t`, and the second takes the place of the first. -/
theorem sessions_share_summaryId :
    ¬ ∀ (clock clock' : Clock) (request request' : MemoryWritebackRequest),
      request.sessionId ≠ request'.sessionId ∨ request.turn.turnId ≠ request'.turn.turnId →
        ∀ place place', IdsDiffer clock clock' request request' place place' := by
  intro h
  exact h zeroClock zeroClock (requestFor "A b") (requestFor "a-b") (.inl (by decide)) .summary
    .summary (by decide) (by decide) rfl (by decide +kernel)

end Dasall.Memory.Writeback
