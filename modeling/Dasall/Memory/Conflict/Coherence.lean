import Dasall.Memory.Conflict.Resolver

/-!
# Total and coherent conflict resolution

The test is symmetric, and every plan follows from its records. What goes wrong is the number that
is too long to read, and the text that holds both words of a polarity pair.
-/

open Dasall.Contracts.Memory Dasall.Lib.Ascii Dasall.Lib.Guard Dasall.Lib.Text

namespace Dasall.Memory.Conflict

/-! ## The test -/

variable (existingText text : Bytes) {resolution : Resolution} (environment : Environment)
  (candidateText : Bytes) (existing : MemoryFact)

theorem sharedAnchorCount_comm :
    sharedAnchorCount existingText candidateText = sharedAnchorCount candidateText existingText := by
  unfold sharedAnchorCount
  rw [Finset.inter_comm]

theorem hasPolarityConflict_comm :
    hasPolarityConflict existingText candidateText =
      hasPolarityConflict candidateText existingText := by
  unfold hasPolarityConflict
  congr 1
  funext pair
  rw [Bool.or_comm, Bool.and_comm, Bool.and_comm (containsSubstring existingText pair.1)]

variable (candidate : MemoryFact)

theorem typesDiffer_comm :
    typesDiffer existing candidate = typesDiffer candidate existing := by
  unfold typesDiffer
  rw [Bool.and_comm existing.factType.isSome, bne_comm]

theorem isSemanticallyConflicting_comm :
    isSemanticallyConflicting existing candidate =
      isSemanticallyConflicting candidate existing := by
  unfold isSemanticallyConflicting
  rw [typesDiffer_comm]
  split
  next existingText candidateText hexisting hcandidate =>
    rw [hexisting, hcandidate]
    dsimp only
    rw [sharedAnchorCount_comm, hasPolarityConflict_comm, bne_comm, numbersDiffer_comm]
  next h =>
    split
    next candidateText existingText hcandidate hexisting =>
      exact absurd hcandidate (h existingText candidateText hexisting)
    next => rfl

/-- The texts of the two facts, lowered, where both have one, the types agree and a word that says
something occurs in both. -/
def ComparedTexts (existing candidate : MemoryFact) (existingText candidateText : Bytes) : Prop :=
  (∃ text, existing.factText = some text ∧ lower text = existingText) ∧
    (∃ text, candidate.factText = some text ∧ lower text = candidateText) ∧
    typesDiffer existing candidate = false ∧ sharedAnchorCount existingText candidateText ≠ 0

/-- The part of the test that compares the texts. -/
def textsConflict (existingText candidateText : Bytes) : Except Thrown Bool :=
  if hasPolarityConflict existingText candidateText then .ok true
  else if hasNegationMarker existingText != hasNegationMarker candidateText then .ok true
  else numbersDiffer existingText candidateText

theorem isSemanticallyConflicting_compared {existing candidate : MemoryFact}
    {existingText candidateText : Bytes}
    (h : ComparedTexts existing candidate existingText candidateText) :
    isSemanticallyConflicting existing candidate = textsConflict existingText candidateText := by
  obtain ⟨⟨text, hexisting, rfl⟩, ⟨other, hcandidate, rfl⟩, htypes, hshared⟩ := h
  unfold isSemanticallyConflicting textsConflict
  simp [hexisting, hcandidate, htypes, hshared]

theorem isSemanticallyConflicting_skipped {existing candidate : MemoryFact}
    (h : ∀ existingText candidateText,
      ¬ ComparedTexts existing candidate existingText candidateText) :
    isSemanticallyConflicting existing candidate = .ok false := by
  unfold isSemanticallyConflicting
  split
  next existingText candidateText hexisting hcandidate =>
    split
    · rfl
    next htypes =>
      split
      · rfl
      next hshared =>
        refine absurd ?_ (h (lower existingText) (lower candidateText))
        exact ⟨⟨existingText, hexisting, rfl⟩, ⟨candidateText, hcandidate, rfl⟩,
          Bool.not_eq_true _ ▸ htypes, hshared⟩
  next => rfl

/-- A polarity pair with both words in the text. -/
def HoldsPolarityPair (text : Bytes) : Prop :=
  ∃ pair ∈ polarityPairs, pair.1 <:+: text ∧ pair.2 <:+: text

theorem hasPolarityConflict_self :
    hasPolarityConflict text text = true ↔ HoldsPolarityPair text := by
  unfold hasPolarityConflict HoldsPolarityPair containsSubstring
  simp only [List.any_eq_true, Bool.or_eq_true, Bool.and_eq_true, decide_eq_true_eq]
  grind

/-- The two texts are compared by their numbers. -/
def NumbersCompared (existingText candidateText : Bytes) : Prop :=
  hasPolarityConflict existingText candidateText = false ∧
    hasNegationMarker existingText = hasNegationMarker candidateText

theorem textsConflict_ok_iff :
    (∃ answer, textsConflict existingText candidateText = .ok answer) ↔
      (NumbersCompared existingText candidateText →
        FirstRunFits existingText ∧ FirstRunFits candidateText) := by
  unfold textsConflict NumbersCompared
  cases hpolarity : hasPolarityConflict existingText candidateText with
  | true => simp
  | false =>
    by_cases hnegation : hasNegationMarker existingText = hasNegationMarker candidateText
    · simp only [hnegation, bne_self_eq_false, Bool.false_eq_true, if_false]
      rw [numbersDiffer_ok_iff]
      simp
    · simp [hnegation]

theorem textsConflict_self :
    textsConflict text text = .ok true ↔ HoldsPolarityPair text := by
  unfold textsConflict
  rw [← hasPolarityConflict_self]
  split
  next h => simpa using h
  next h =>
    simp only [bne_self_eq_false, Bool.false_eq_true, if_false]
    refine iff_of_false (fun hnumbers => ?_) h
    exact absurd (numbersDiffer_self text true hnumbers) (by simp)

/-- What the comparison of two facts asks of their texts. -/
def Settled (existing candidate : MemoryFact) : Prop :=
  ∀ existingText candidateText, ComparedTexts existing candidate existingText candidateText →
    (NumbersCompared existingText candidateText →
      FirstRunFits existingText ∧ FirstRunFits candidateText) ∧
    (existingText = candidateText → ¬ HoldsPolarityPair existingText)

/-- The two facts say the same, but for upper case. -/
def SameNormalisedText (existing candidate : MemoryFact) : Prop :=
  ∃ text other, existing.factText = some text ∧ candidate.factText = some other ∧
    lower text = lower other

theorem ComparedTexts.unique {existing candidate : MemoryFact} {first second first' second' : Bytes}
    (h : ComparedTexts existing candidate first second)
    (h' : ComparedTexts existing candidate first' second') : first = first' ∧ second = second' := by
  obtain ⟨⟨text, htext, rfl⟩, ⟨other, hother, rfl⟩, -⟩ := h
  obtain ⟨⟨text', htext', rfl⟩, ⟨other', hother', rfl⟩, -⟩ := h'
  rw [htext, Option.some.injEq] at htext'
  rw [hother, Option.some.injEq] at hother'
  exact ⟨by rw [htext'], by rw [hother']⟩

/-- The test answers, and never with a conflict of a text with itself, just when the pair of facts
is settled. -/
theorem settled_iff :
    Settled existing candidate ↔
      (∃ answer, isSemanticallyConflicting existing candidate = .ok answer) ∧
        (SameNormalisedText existing candidate →
          isSemanticallyConflicting existing candidate ≠ .ok true) := by
  by_cases hcompared : ∃ existingText candidateText,
    ComparedTexts existing candidate existingText candidateText
  · obtain ⟨existingText, candidateText, h⟩ := hcompared
    rw [isSemanticallyConflicting_compared h, textsConflict_ok_iff]
    have hsame : SameNormalisedText existing candidate ↔ existingText = candidateText := by
      obtain ⟨⟨text, htext, rfl⟩, ⟨other, hother, rfl⟩, -⟩ := h
      simp [SameNormalisedText, htext, hother]
    rw [hsame]
    have hself : (existingText = candidateText →
        textsConflict existingText candidateText ≠ .ok true) ↔
          (existingText = candidateText → ¬ HoldsPolarityPair existingText) := by
      apply imp_congr_right
      rintro rfl
      rw [Ne, textsConflict_self]
    rw [hself]
    constructor
    · intro hsettled
      exact hsettled existingText candidateText h
    · intro hsettled first second hother
      obtain ⟨rfl, rfl⟩ := h.unique hother
      exact hsettled
  · have hnone := fun first second h => hcompared ⟨first, second, h⟩
    rw [isSemanticallyConflicting_skipped hnone]
    refine iff_of_true (fun first second h => absurd h (hnone first second)) ?_
    simp

/-! ## The plan -/

/-- The flags of the loop say what the records hold. -/
structure Resolution.Tracks (resolution : Resolution) : Prop where
  reject : resolution.sawReject = true ↔
    ∃ record ∈ resolution.plan.conflictRecords, record.action = .reject
  supersede : resolution.sawSupersede = true ↔
    ∃ record ∈ resolution.plan.conflictRecords, record.action = .supersede

theorem Resolution.tracks_add (h : resolution.Tracks)
    (existing : MemoryFact) (record : ConflictRecord) : (resolution.add existing record).Tracks := by
  obtain ⟨hreject, hsupersede⟩ := h
  unfold Resolution.add
  dsimp only
  split
  next haction => constructor <;> simp [or_and_right, exists_or, haction, hsupersede]
  next haction =>
    split <;> constructor <;> simp [or_and_right, exists_or, haction, hreject]
  next haction => constructor <;> simp [or_and_right, exists_or, haction, hreject, hsupersede]
  next haction => constructor <;> simp [or_and_right, exists_or, haction, hreject, hsupersede]

theorem isEmbeddingAssistCandidate_ok {existing candidate : MemoryFact}
    (h : isSemanticallyConflicting existing candidate = .ok false) :
    ∃ answer, isEmbeddingAssistCandidate existing candidate = .ok answer := by
  unfold isEmbeddingAssistCandidate
  unfold isSemanticallyConflicting at h
  split
  next existingText candidateText hexisting hcandidate =>
    rw [hexisting, hcandidate] at h
    dsimp only at h
    split
    · exact ⟨false, rfl⟩
    next htypes =>
    split
    · exact ⟨false, rfl⟩
    next hshared =>
    split
    · exact ⟨false, rfl⟩
    next hpolarity =>
    split
    · exact ⟨false, rfl⟩
    next hnegation =>
    rw [if_neg htypes, if_neg hshared, if_neg hpolarity, if_neg hnegation] at h
    rw [h]
    exact ⟨true, rfl⟩
  next => exact ⟨false, rfl⟩

theorem Resolution.assisted_ok (resolution : Resolution)
    (assist : Option (Bytes → Bytes → Except Thrown Bool)) {existing candidate : MemoryFact}
    (h : isSemanticallyConflicting existing candidate = .ok false) :
    ∃ next action, resolution.assisted assist existing candidate = .ok (next, action) ∧
      (resolution.Tracks → next.Tracks) := by
  obtain ⟨answer, hanswer⟩ := isEmbeddingAssistCandidate_ok h
  unfold Resolution.assisted
  split
  · exact ⟨resolution, .coexist, rfl, id⟩
  next similar =>
    rw [hanswer]
    cases answer with
    | false => exact ⟨resolution, .coexist, rfl, id⟩
    | true =>
      simp only [bind, Except.bind, if_true, pure, Except.pure]
      split
      · exact ⟨resolution.embeddingSkipped, .coexist, rfl, fun htracks => ⟨htracks.1, htracks.2⟩⟩
      · split
        · exact ⟨resolution, .supersede, rfl, id⟩
        · exact ⟨resolution, .coexist, rfl, id⟩

theorem resolveFact_spec
    (resolution : Resolution) (existing : MemoryFact) :
    ((∃ next, resolveFact environment candidate resolution existing = .ok next) ↔
        ∃ answer, isSemanticallyConflicting existing candidate = .ok answer) ∧
      ∀ next, resolveFact environment candidate resolution existing = .ok next →
        resolution.Tracks → next.Tracks := by
  unfold resolveFact
  cases htest : isSemanticallyConflicting existing candidate with
  | error stop => simp [bind, Except.bind]
  | ok answer =>
    cases answer with
    | true =>
      simp only [bind, Except.bind, if_true, pure, Except.pure, Except.ok.injEq]
      refine ⟨by simp, ?_⟩
      rintro next rfl htracks
      exact Resolution.tracks_add htracks _ _
    | false =>
      obtain ⟨middle, action, hmiddle, hkeeps⟩ :=
        resolution.assisted_ok environment.assist htest
      simp only [bind, Except.bind, Bool.false_eq_true, if_false, hmiddle, pure, Except.pure,
        Except.ok.injEq]
      refine ⟨by simp, ?_⟩
      rintro next rfl htracks
      exact Resolution.tracks_add (hkeeps htracks) _ _

/-- The action of a plan follows from its records. -/
def ConflictResolutionPlan.Coherent (plan : ConflictResolutionPlan) : Prop :=
  ((∃ record ∈ plan.conflictRecords, record.action = .reject) → plan.action = .reject) ∧
    ((∀ record ∈ plan.conflictRecords, record.action ≠ .reject) →
      (∃ record ∈ plan.conflictRecords, record.action = .supersede) → plan.action = .supersede)

theorem Resolution.finish_coherent (h : resolution.Tracks) :
    resolution.finish.Coherent := by
  obtain ⟨hreject, hsupersede⟩ := h
  unfold Resolution.finish ConflictResolutionPlan.Coherent
  split
  next hsaw =>
    obtain ⟨record, hmem, haction⟩ := hreject.mp hsaw
    exact ⟨fun _ => rfl, fun hnone => absurd haction (hnone record hmem)⟩
  next hsaw =>
    have hnone := fun hrecord => hsaw (hreject.mpr hrecord)
    split
    · exact ⟨fun hrecord => absurd hrecord hnone, fun _ _ => rfl⟩
    next hsaw' =>
      have hnone' := fun hrecord => hsaw' (hsupersede.mpr hrecord)
      split
      · exact ⟨fun hrecord => absurd hrecord hnone, fun _ hrecord => absurd hrecord hnone'⟩
      · exact ⟨fun hrecord => absurd hrecord hnone, fun _ hrecord => absurd hrecord hnone'⟩

theorem coherent_of_no_records {plan : ConflictResolutionPlan} (h : plan.conflictRecords = []) :
    plan.Coherent := by
  simp [ConflictResolutionPlan.Coherent, h]

/-! ## The call -/

/-- The stored facts that the call compares with the candidate. -/
def Environment.comparedFacts (environment : Environment) (candidate : FactCandidate)
    (sessionId : Bytes) : List MemoryFact :=
  match candidate.fact.factText with
  | none => []
  | some factText =>
    if sessionId.isEmpty || factText.isEmpty then []
    else
      match environment.findRelatedFacts sessionId candidate.fact.factType factText with
      | .error _ => []
      | .ok relatedFacts => relatedFacts

theorem resolve_ok_iff (candidate : FactCandidate) (sessionId : Bytes) :
    (∃ plan, resolve environment candidate sessionId = .ok plan ∧ plan.Coherent) ↔
      ∀ existing ∈ environment.comparedFacts candidate sessionId,
        ∃ answer, isSemanticallyConflicting existing candidate.fact = .ok answer := by
  have hspec := resolveFact_spec environment candidate.fact
  unfold resolve Environment.comparedFacts
  cases candidate.fact.factText with
  | none => simp [coherent_of_no_records]
  | some factText =>
  dsimp only
  by_cases hblank : (sessionId.isEmpty || factText.isEmpty) = true
  · simp [hblank, coherent_of_no_records]
  rw [if_neg hblank, if_neg hblank]
  cases environment.findRelatedFacts sessionId candidate.fact.factType factText with
  | error thrown => simp [coherent_of_no_records, conflictCheckSkipped]
  | ok relatedFacts =>
  dsimp only
  split
  next hempty =>
    rw [List.isEmpty_iff] at hempty
    simp [coherent_of_no_records, hempty]
  next =>
    rw [← foldlM_ok_iff (resolveFact environment candidate.fact) _
      (fun resolution existing => (hspec resolution existing).1) relatedFacts {}]
    constructor
    · rintro ⟨plan, hplan, -⟩
      simp only [bind_eq_ok] at hplan
      obtain ⟨resolution, hresolution, -⟩ := hplan
      exact ⟨resolution, hresolution⟩
    · rintro ⟨resolution, hresolution⟩
      have htracks : resolution.Tracks :=
        foldlM_invariant _ Resolution.Tracks
          (fun state existing next hstate hnext => (hspec state existing).2 next hnext hstate)
          relatedFacts {} resolution (by constructor <;> simp) hresolution
      exact ⟨resolution.finish, by rw [hresolution]; rfl, Resolution.finish_coherent htracks⟩

/-- The call returns a coherent plan, and the test it makes of each stored fact answers the same
with the facts exchanged and finds no conflict between equal texts. -/
def SoundResolution (environment : Environment) (candidate : FactCandidate) (sessionId : Bytes) :
    Prop :=
  (∃ plan, resolve environment candidate sessionId = .ok plan ∧ plan.Coherent) ∧
    ∀ existing ∈ environment.comparedFacts candidate sessionId,
      isSemanticallyConflicting existing candidate.fact =
          isSemanticallyConflicting candidate.fact existing ∧
        (SameNormalisedText existing candidate.fact →
          isSemanticallyConflicting existing candidate.fact ≠ .ok true)

theorem soundResolution_iff (environment : Environment) (candidate : FactCandidate)
    (sessionId : Bytes) :
    SoundResolution environment candidate sessionId ↔
      ∀ existing ∈ environment.comparedFacts candidate sessionId,
        Settled existing candidate.fact := by
  unfold SoundResolution
  rw [resolve_ok_iff, ← forall₂_and]
  simp only [settled_iff, isSemanticallyConflicting_comm _ candidate.fact, true_and]

/-- A candidate whose number is one more than the greatest `long long`, next to a stored fact with
a short one. -/
theorem long_number_throws :
    ¬ ∀ (environment : Environment) (candidate : FactCandidate) (sessionId : Bytes),
      SoundResolution environment candidate sessionId := by
  intro h
  let stored : MemoryFact := { factText := some (str "retry budget is 5") }
  let candidate : FactCandidate :=
    { fact := { factText := some (str "retry budget is 9223372036854775808") } }
  obtain ⟨⟨plan, hplan, -⟩, -⟩ := h { queryFacts := fun _ => .ok [stored] } candidate (str "session")
  have hthrown : resolve { queryFacts := fun _ => .ok [stored] } candidate (str "session") =
      .error .outOfRange := by
    decide +kernel
  rw [hthrown] at hplan
  cases hplan

end Dasall.Memory.Conflict
