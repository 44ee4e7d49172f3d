import Dasall.Memory.Context.ContextOrchestrator

/-!
# The sections that are named as dropped

Of a section of several texts only the number is compared. Where all but the last text fit, the last
is cut in place, and the section is not named. A packet that its guard rejects is replaced, and the
names stay those of the rejected one.
-/

open Dasall.Lib Dasall.Lib.Text Dasall.Lib.Guard Dasall.Lib.Checked

namespace Dasall.Memory.Context

open Section

/-- The packet has the section as it was before any cut. -/
def Section.Carried (candidates : CandidateSet) (request : MemoryContextRequest)
    (packet : ContextPacket) (part : Section) : Prop :=
  let projection := projectSlots candidates request
  match part with
  | .userTurn => packet.userTurn.getD [] = fallbackUserTurn candidates request
  | .currentGoalSummary => packet.currentGoalSummary.getD [] = projection.currentGoalSummary
  | .recentHistory => packet.recentHistory.getD [] = projection.recentHistory
  | .summaryMemory => packet.summaryMemory.getD [] = projection.summaryMemory
  | .retrievalEvidence => packet.retrievalEvidence.getD [] = projection.retrievalEvidence
  | .retrievalEvidenceRefs =>
    packet.retrievalEvidenceRefs.getD [] = projection.retrievalEvidenceRefs
  | .latestObservationDigestSummary =>
    packet.latestObservationDigestSummary.getD [] = projection.latestObservationDigestSummary
  | .activeTools => packet.activeTools.getD [] = projection.activeTools
  | .policyDigest => packet.policyDigest.getD [] = projection.policyDigest
  | .beliefStateSummary => packet.beliefStateSummary.getD [] = projection.beliefStateSummary

/-- The list names the sections that were cut, and nothing else. -/
structure HonestlyDropped (candidates : CandidateSet) (request : MemoryContextRequest)
    (result : ContextAssemblyResult) : Prop where
  sections : ∀ part : Section,
    part.name ∈ result.droppedSections ↔ ¬ part.Carried candidates request result.contextPacket
  others : ∀ name ∈ result.droppedSections, ∃ part : Section, part.name = name

/-! ## What fits -/

section Fitting

variable (estimator : TokenEstimator)

def tokensOf (texts : List Bytes) : Int := (texts.map fun text => (estimator text).toInt).sum

/-- The texts from the front that fit into the room, one after the other. -/
def fitting : Int → List Bytes → List Bytes
  | _, [] => []
  | room, text :: rest =>
    let tokens := (estimator text).toInt
    if tokens ≤ room then text :: fitting (room - tokens) rest else []

/-- The first text that does not fit, and what follows it. -/
def beyond : Int → List Bytes → List Bytes
  | _, [] => []
  | room, text :: rest =>
    let tokens := (estimator text).toInt
    if tokens ≤ room then beyond (room - tokens) rest else text :: rest

/-- The room that is left beside the texts that fit. -/
def roomLeft (room : Int) (texts : List Bytes) : Int :=
  room - tokensOf estimator (fitting estimator room texts)

/-- The text is more than the limit, and so long that the kept part is shorter. -/
def IsLong (tokenLimit : Int) (text : Bytes) : Prop :=
  tokenLimit < (estimator text).toInt ∧
    keepSize tokenLimit (estimator text).toInt text.length < text.length

def TextChanged (tokenLimit : Int) (text : Bytes) : Prop :=
  text ≠ [] ∧ (tokenLimit ≤ 0 ∨ IsLong estimator tokenLimit text)

/-- Every text fits but the last, and a part of the last is kept. -/
def CutInPlace (tokenLimit : Int) (texts : List Bytes) : Prop :=
  0 < tokenLimit ∧ ∃ last, beyond estimator tokenLimit texts = [last] ∧ last ≠ [] ∧
    0 < roomLeft estimator tokenLimit texts ∧
    IsLong estimator (roomLeft estimator tokenLimit texts) last

/-- Fewer texts are kept: there is no room for a part of the first that does not fit, or texts follow
it. -/
def Shortened (tokenLimit : Int) (texts : List Bytes) : Prop :=
  texts ≠ [] ∧ (tokenLimit ≤ 0 ∨ ∃ text rest, beyond estimator tokenLimit texts = text :: rest ∧
    (rest ≠ [] ∨ text = [] ∨ roomLeft estimator tokenLimit texts ≤ 0))

/-- The sums of the estimates stay in the range of `int`. -/
def ScanFits (tokenLimit usedTokens : Int) (texts : List Bytes) : Prop :=
  let room := tokenLimit - usedTokens
  SumsFit intLow intHigh usedTokens
      ((fitting estimator room texts ++ (beyond estimator room texts).take 1).map fun text =>
        (estimator text).toInt) ∧
    (beyond estimator room texts ≠ [] →
      intLow ≤ roomLeft estimator room texts ∧ roomLeft estimator room texts < intHigh)

variable {estimator}

theorem fitting_append_beyond (room : Int) (texts : List Bytes) :
    fitting estimator room texts ++ beyond estimator room texts = texts := by
  induction texts generalizing room with
  | nil => rfl
  | cons text rest ih =>
    rw [fitting, beyond]
    split
    · rw [List.cons_append, ih]
    · rfl

theorem roomLeft_cons {room : Int} {text : Bytes} (h : (estimator text).toInt ≤ room)
    (rest : List Bytes) :
    roomLeft estimator room (text :: rest) =
      roomLeft estimator (room - (estimator text).toInt) rest := by
  rw [roomLeft, roomLeft, fitting, if_pos h, tokensOf, List.map_cons, List.sum_cons, tokensOf]
  omega

theorem one_le_keepSize (tokenLimit estimatedTokens : Int) (size : Nat) :
    1 ≤ keepSize tokenLimit estimatedTokens size := le_max_left _ _

theorem trimText_eq_nil_iff (text : Bytes) (tokenLimit : Int) :
    trimTextToTokenLimit estimator text tokenLimit = [] ↔ text = [] ∨ tokenLimit ≤ 0 := by
  have hsize := one_le_keepSize tokenLimit (estimator text).toInt text.length
  unfold trimTextToTokenLimit
  by_cases hempty : text = []
  · simp [hempty]
  · by_cases hlimit : tokenLimit ≤ 0
    · simp [hlimit]
    · rw [if_neg hempty, if_neg hlimit]
      simp only [hempty, hlimit, or_self, iff_false]
      split
      · exact hempty
      · split
        · exact hempty
        · split
          · rw [List.take_eq_nil_iff]
            rintro (hzero | hnil)
            · omega
            · exact hempty hnil
          · exact List.append_ne_nil_of_right_ne_nil _ (by decide)

theorem trimText_eq_self_iff (text : Bytes) (tokenLimit : Int) :
    trimTextToTokenLimit estimator text tokenLimit = text ↔
      ¬ TextChanged estimator tokenLimit text := by
  unfold trimTextToTokenLimit TextChanged IsLong
  by_cases hempty : text = []
  · simp [hempty]
  · by_cases hlimit : tokenLimit ≤ 0
    · simp [hempty, hlimit, eq_comm]
    · rw [if_neg hempty, if_neg hlimit]
      simp only [ne_eq, hempty, not_false_eq_true, hlimit, false_or, true_and, not_and, not_lt]
      split
      · next hfits => simp [not_lt.mpr hfits]
      · next hmore =>
        split
        · next hwhole => simp [hwhole]
        · next hshort =>
          -- a part of fewer bytes is not the text
          rw [not_le] at hmore hshort
          simp only [hmore, forall_true_left, not_le.mpr hshort, iff_false]
          intro hsame
          have hlength := congrArg List.length hsame
          have hdots : (str "...").length = 3 := by decide
          split at hlength
          · rw [List.length_take] at hlength
            omega
          · rw [List.length_append, List.length_take, hdots] at hlength
            omega

/-- The part that is kept of the first text that does not fit. -/
def cutOf (estimator : TokenEstimator) (room : Int) : List Bytes → List Bytes
  | [] => []
  | text :: _ =>
    let truncated := trimTextToTokenLimit estimator text room
    if truncated = [] then [] else [truncated]

theorem keepWithin_iff (tokenLimit usedTokens : Int) (texts kept : List Bytes) :
    keepWithin estimator tokenLimit usedTokens texts = some kept ↔
      ScanFits estimator tokenLimit usedTokens texts ∧
        kept = fitting estimator (tokenLimit - usedTokens) texts ++
          cutOf estimator (roomLeft estimator (tokenLimit - usedTokens) texts)
            (beyond estimator (tokenLimit - usedTokens) texts) := by
  induction texts generalizing usedTokens kept with
  | nil =>
    have hnone : ScanFits estimator tokenLimit usedTokens [] := by
      refine ⟨fun part hpart hne => ?_, fun hne => absurd rfl hne⟩
      exact absurd (List.prefix_nil.mp hpart) hne
    simp [keepWithin, hnone, fitting, beyond, cutOf, eq_comm]
  | cons text rest ih =>
    have hroom : tokenLimit - (usedTokens + (estimator text).toInt) =
        tokenLimit - usedTokens - (estimator text).toInt := by omega
    unfold keepWithin addWithin ScanFits
    by_cases hfits : (estimator text).toInt ≤ tokenLimit - usedTokens
    · have htotal : usedTokens + (estimator text).toInt ≤ tokenLimit := by omega
      have hrest := ih (usedTokens + (estimator text).toInt)
      unfold ScanFits at hrest
      rw [hroom] at hrest
      simp only [fitting, beyond, if_pos hfits, roomLeft_cons hfits, List.cons_append,
        List.map_cons, sumsFit_cons]
      split
      · next hrange =>
        simp only [Option.bind_eq_bind, Option.bind_some, if_pos htotal,
          Option.bind_eq_some_iff, Option.pure_def, Option.some.injEq, hrest, hrange, true_and]
        constructor
        · rintro ⟨others, ⟨hscan, rfl⟩, rfl⟩
          exact ⟨hscan, rfl⟩
        · rintro ⟨hscan, rfl⟩
          exact ⟨_, ⟨hscan, rfl⟩, rfl⟩
      · next hrange => simp [hrange]
    · have htotal : ¬ usedTokens + (estimator text).toInt ≤ tokenLimit := by omega
      have hleft : roomLeft estimator (tokenLimit - usedTokens) (text :: rest) =
          tokenLimit - usedTokens := by
        rw [roomLeft, fitting, if_neg hfits, tokensOf, List.map_nil, List.sum_nil, Int.sub_zero]
      have hnil : SumsFit intLow intHigh (usedTokens + (estimator text).toInt) [] := by
        intro part hpart hne
        exact absurd (List.prefix_nil.mp hpart) hne
      simp only [fitting, beyond, if_neg hfits, hleft, List.nil_append, List.take_succ_cons,
        List.take_zero, List.map_cons, List.map_nil, sumsFit_cons, hnil, and_true, ne_eq,
        reduceCtorEq, not_false_eq_true, forall_true_left, cutOf]
      split
      · next hrange =>
        simp only [Option.bind_eq_bind, Option.bind_some, if_neg htotal, Option.bind_eq_some_iff,
          Option.pure_def, Option.some.injEq, inInt_iff, hrange, true_and]
        constructor
        · rintro ⟨remaining, ⟨hremaining, rfl⟩, rfl⟩
          exact ⟨hremaining, rfl⟩
        · rintro ⟨hremaining, rfl⟩
          exact ⟨_, ⟨hremaining, rfl⟩, rfl⟩
      · next hrange => simp [hrange]

end Fitting

section Kept

variable {estimator : TokenEstimator} {tokenLimit : Int} {texts : List Bytes}

/-- The values that are kept, in the order in which they are visited. -/
def keptOf (estimator : TokenEstimator) (tokenLimit : Int) (texts : List Bytes) : List Bytes :=
  if tokenLimit ≤ 0 then []
  else fitting estimator tokenLimit texts ++
    cutOf estimator (roomLeft estimator tokenLimit texts) (beyond estimator tokenLimit texts)

theorem trimVector_iff (values kept : List Bytes) (keepTail : Bool) :
    trimVectorToTokenLimit estimator values tokenLimit keepTail = some kept ↔
      (0 < tokenLimit → ScanFits estimator tokenLimit 0
        (if keepTail then values.reverse else values)) ∧
      kept = if keepTail then (keptOf estimator tokenLimit values.reverse).reverse
        else keptOf estimator tokenLimit values := by
  unfold trimVectorToTokenLimit keptOf
  by_cases hempty : values = []
  · have hnone := (@keepWithin_iff estimator tokenLimit 0 [] []).mp rfl
    subst hempty
    cases keepTail
    · simp [hnone.1, fitting, beyond, cutOf, eq_comm]
    · simp [hnone.1, fitting, beyond, cutOf, eq_comm]
  · by_cases hlimit : tokenLimit ≤ 0
    · simp [hempty, hlimit, not_lt.mpr hlimit, eq_comm]
    · rw [if_neg hempty, if_neg hlimit]
      cases keepTail
      · simp only [Bool.false_eq_true, if_false, if_neg hlimit, keepWithin_iff, Int.sub_zero,
          not_le.mp hlimit, forall_true_left]
      · simp only [if_true, if_neg hlimit, Option.map_eq_some_iff, keepWithin_iff, Int.sub_zero,
          not_le.mp hlimit, forall_true_left]
        constructor
        · rintro ⟨visited, ⟨hscan, rfl⟩, rfl⟩
          exact ⟨hscan, rfl⟩
        · rintro ⟨hscan, rfl⟩
          exact ⟨_, ⟨hscan, rfl⟩, rfl⟩

/-- Either every text fits, or one is the first that does not. -/
theorem keptOf_cases (hlimit : 0 < tokenLimit) :
    (beyond estimator tokenLimit texts = [] ∧ keptOf estimator tokenLimit texts = texts) ∨
      ∃ text rest, beyond estimator tokenLimit texts = text :: rest ∧
        texts = fitting estimator tokenLimit texts ++ text :: rest ∧
        keptOf estimator tokenLimit texts = fitting estimator tokenLimit texts ++
          cutOf estimator (roomLeft estimator tokenLimit texts) (text :: rest) := by
  have happend := @fitting_append_beyond estimator tokenLimit texts
  unfold keptOf
  rw [if_neg (not_le.mpr hlimit)]
  rcases hbeyond : beyond estimator tokenLimit texts with _ | ⟨text, rest⟩
  · rw [hbeyond, List.append_nil] at happend
    left
    rw [cutOf, List.append_nil, happend]
    exact ⟨rfl, rfl⟩
  · rw [hbeyond] at happend
    right
    exact ⟨text, rest, rfl, happend.symm, rfl⟩

theorem length_keptOf_lt_iff :
    (keptOf estimator tokenLimit texts).length < texts.length ↔
      Shortened estimator tokenLimit texts := by
  unfold Shortened
  by_cases hlimit : tokenLimit ≤ 0
  · rw [keptOf, if_pos hlimit]
    simp [hlimit, List.length_pos_iff]
  · rcases @keptOf_cases estimator tokenLimit texts (not_le.mp hlimit) with
      ⟨hbeyond, hkept⟩ | ⟨text, rest, hbeyond, htexts, hkept⟩
    · simp [hkept, hbeyond, hlimit]
    · have hlength := congrArg List.length htexts
      have hne : texts ≠ [] := by
        rw [htexts]
        exact List.append_ne_nil_of_right_ne_nil _ (List.cons_ne_nil _ _)
      rw [List.length_append, List.length_cons] at hlength
      simp only [hkept, hbeyond, hne, hlimit, ne_eq, not_false_eq_true, false_or, true_and,
        List.cons.injEq, List.length_append, cutOf, trimText_eq_nil_iff]
      constructor
      · intro hlt
        refine ⟨text, rest, ⟨rfl, rfl⟩, ?_⟩
        split at hlt
        · next hnone => exact .inr hnone
        · left
          rintro rfl
          simp only [List.length_cons, List.length_nil] at hlt hlength
          omega
      · rintro ⟨_, _, ⟨rfl, rfl⟩, hrest | hnone⟩
        · have hpos := List.length_pos_iff.mpr hrest
          split
          · rw [List.length_nil]
            omega
          · rw [List.length_singleton]
            omega
        · rw [if_pos hnone, List.length_nil]
          omega

theorem keptOf_eq_self_iff :
    keptOf estimator tokenLimit texts = texts ↔
      ¬ Shortened estimator tokenLimit texts ∧ ¬ CutInPlace estimator tokenLimit texts := by
  rw [← length_keptOf_lt_iff]
  by_cases hlimit : tokenLimit ≤ 0
  · have hnocut : ¬ CutInPlace estimator tokenLimit texts := fun h => absurd h.1 (not_lt.mpr hlimit)
    rw [keptOf, if_pos hlimit]
    simp [hnocut, eq_comm]
  · rcases @keptOf_cases estimator tokenLimit texts (not_le.mp hlimit) with
      ⟨hbeyond, hkept⟩ | ⟨text, rest, hbeyond, htexts, hkept⟩
    · simp [hkept, CutInPlace, hbeyond]
    · have hlength := congrArg List.length htexts
      rw [List.length_append, List.length_cons] at hlength
      unfold CutInPlace
      rw [hkept, hbeyond, cutOf]
      simp only [trimText_eq_nil_iff]
      constructor
      · intro hsame
        refine ⟨by rw [hsame]; exact lt_irrefl _, ?_⟩
        rintro ⟨-, last, hlast, hne, hroom, hlong⟩
        obtain ⟨rfl, rfl⟩ := List.cons.inj hlast
        rw [if_neg (not_or.mpr ⟨hne, not_le.mpr hroom⟩)] at hsame
        have htext := List.append_cancel_left (hsame.trans htexts)
        rw [List.singleton_inj, trimText_eq_self_iff] at htext
        exact htext ⟨hne, .inr hlong⟩
      · rintro ⟨hnotless, hnocut⟩
        rw [List.length_append] at hnotless
        split at hnotless
        · rw [List.length_nil] at hnotless
          omega
        · next hsome =>
          rw [not_or, not_le] at hsome
          rw [List.length_singleton] at hnotless
          have hrest : rest = [] := List.length_eq_zero_iff.mp (by omega)
          subst hrest
          rw [if_neg (not_or.mpr ⟨hsome.1, not_le.mpr hsome.2⟩)]
          conv_rhs => rw [htexts]
          congr 2
          rw [trimText_eq_self_iff]
          rintro ⟨-, hnone | hlong⟩
          · exact absurd hsome.2 (not_lt.mpr hnone)
          · exact hnocut ⟨not_le.mp hlimit, text, rfl, hsome.1, hsome.2, hlong⟩

/-- A text is cut to one that is not empty, or is left out. -/
theorem nil_mem_keptOf_iff :
    [] ∈ keptOf estimator tokenLimit texts ↔
      0 < tokenLimit ∧ [] ∈ fitting estimator tokenLimit texts := by
  unfold keptOf
  split
  · next hlimit => simp [not_lt.mpr hlimit]
  · next hlimit =>
    rw [List.mem_append, ← not_le]
    simp only [hlimit, not_false_eq_true, true_and, or_iff_left_iff_imp]
    rcases beyond estimator tokenLimit texts with _ | ⟨text, rest⟩
    · simp [cutOf]
    · rw [cutOf]
      split
      · simp
      · next hsome =>
        rw [List.mem_singleton]
        intro hnil
        exact absurd hnil.symm hsome

end Kept

section Sections

variable (estimator : TokenEstimator) (candidates : CandidateSet) (plan : BudgetPlan)
  (request : MemoryContextRequest) (currentTimeMs : Int64)

/-- The texts of a section of several, in the order in which they are visited. -/
def Section.visited (part : Section) : List Bytes :=
  let projection := projectSlots candidates request
  match part with
  | .recentHistory => projection.recentHistory.reverse
  | .retrievalEvidence => projection.retrievalEvidence
  | .activeTools => projection.activeTools
  | _ => []

/-- The text of a section of one. -/
def Section.text (part : Section) : Bytes :=
  let projection := projectSlots candidates request
  match part with
  | .summaryMemory => projection.summaryMemory
  | .latestObservationDigestSummary => projection.latestObservationDigestSummary
  | .policyDigest => projection.policyDigest
  | .beliefStateSummary => projection.beliefStateSummary
  | _ => []

/-- The cut of the section shows. -/
def Section.Reported (part : Section) : Prop :=
  Shortened estimator (effectiveSlotLimit plan part.name) (part.visited candidates request) ∨
    TextChanged estimator (effectiveSlotLimit plan part.name) (part.text candidates request)

/-- As many texts as before, and the last a part of what it was. -/
def Section.CutUnseen (part : Section) : Prop :=
  CutInPlace estimator (effectiveSlotLimit plan part.name) (part.visited candidates request)

def PlanScans : Prop := ∀ part : Section, 0 < effectiveSlotLimit plan part.name →
  ScanFits estimator (effectiveSlotLimit plan part.name) 0 (part.visited candidates request)

/-- What the guard asks of a packet that was built. -/
structure Accepted : Prop where
  time : 0 < currentTimeMs
  refs : ∀ ref ∈ request.retrievalEvidenceRefs, ref.hasConsistentValues = true
  texts : ∀ part : Section, part = .retrievalEvidence ∨ part = .activeTools →
    0 < effectiveSlotLimit plan part.name →
      [] ∉ fitting estimator (effectiveSlotLimit plan part.name) (part.visited candidates request)

/-- The packet that is built. -/
def packetOf : ContextPacket :=
  let keptTexts part :=
    keptOf estimator (effectiveSlotLimit plan part.name) (part.visited candidates request)
  let keptText part := unlessEmpty (trimTextToTokenLimit estimator (part.text candidates request)
    (effectiveSlotLimit plan part.name))
  { requestId := some (packetRequestId request)
    userTurn := some (fallbackUserTurn candidates request)
    currentGoalSummary := some (fallbackGoalSummary candidates request)
    recentHistory := some (keptTexts Section.recentHistory).reverse
    summaryMemory := keptText Section.summaryMemory
    retrievalEvidence := unlessEmpty (keptTexts Section.retrievalEvidence)
    retrievalEvidenceRefs := unlessEmpty request.retrievalEvidenceRefs
    latestObservationDigestSummary := keptText Section.latestObservationDigestSummary
    activeTools := unlessEmpty (keptTexts Section.activeTools)
    policyDigest := keptText Section.policyDigest
    beliefStateSummary := keptText Section.beliefStateSummary
    createdAt := some currentTimeMs
    tags := some packetTags }

variable {estimator candidates plan request currentTimeMs}

theorem unlessEmpty_getD {α : Type} (values : List α) : (unlessEmpty values).getD [] = values := by
  cases values <;> rfl

theorem unlessEmpty_eq_some {α : Type} {values kept : List α} (h : unlessEmpty values = some kept) :
    kept = values ∧ values ≠ [] := by
  cases values with
  | nil => cases h
  | cons value values =>
    cases h
    exact ⟨rfl, List.cons_ne_nil _ _⟩

theorem scanFits_nil (tokenLimit : Int) : ScanFits estimator tokenLimit 0 [] :=
  ((keepWithin_iff tokenLimit 0 [] []).mp rfl).1

theorem buildPacket_iff (packet : ContextPacket) :
    buildPacket estimator candidates plan request = some packet ↔
      PlanScans estimator candidates plan request ∧
        packet = { packetOf estimator candidates plan request currentTimeMs with
          createdAt := none, tags := none } := by
  have hscans : PlanScans estimator candidates plan request ↔
      ∀ part : Section, part = .recentHistory ∨ part = .retrievalEvidence ∨ part = .activeTools →
        0 < effectiveSlotLimit plan part.name → ScanFits estimator
          (effectiveSlotLimit plan part.name) 0 (part.visited candidates request) := by
    constructor
    · intro h part _
      exact h part
    · intro h part
      rcases part
      case recentHistory => exact h _ (.inl rfl)
      case retrievalEvidence => exact h _ (.inr (.inl rfl))
      case activeTools => exact h _ (.inr (.inr rfl))
      all_goals exact fun _ => scanFits_nil _
  rw [hscans]
  unfold buildPacket
  simp only [Option.bind_eq_bind, Option.bind_eq_some_iff, Option.pure_def, Option.some.injEq,
    trimVector_iff, if_true, Bool.false_eq_true, if_false]
  constructor
  · rintro ⟨history, ⟨hhistory, rfl⟩, evidence, ⟨hevidence, rfl⟩, tools, ⟨htools, rfl⟩, rfl⟩
    refine ⟨?_, rfl⟩
    rintro part (rfl | rfl | rfl)
    · exact hhistory
    · exact hevidence
    · exact htools
  · rintro ⟨hfits, rfl⟩
    exact ⟨_, ⟨hfits _ (.inl rfl), rfl⟩, _, ⟨hfits _ (.inr (.inl rfl)), rfl⟩, _,
      ⟨hfits _ (.inr (.inr rfl)), rfl⟩, rfl⟩

variable (part : Section)

/-- A section is in the packet as it was unless it was cut, seen or unseen. -/
theorem carried_packetOf_iff :
    part.Carried candidates request (packetOf estimator candidates plan request currentTimeMs) ↔
      ¬ part.Reported estimator candidates plan request ∧
        ¬ part.CutUnseen estimator candidates plan request := by
  have hnotexts : ∀ tokenLimit, ¬ Shortened estimator tokenLimit [] ∧
      ¬ CutInPlace estimator tokenLimit [] := by
    intro tokenLimit
    rw [← keptOf_eq_self_iff, keptOf]
    split <;> rfl
  have hnotext : ∀ tokenLimit, ¬ TextChanged estimator tokenLimit [] := fun _ h => h.1 rfl
  unfold Section.Carried Section.Reported Section.CutUnseen packetOf
  cases part
  case userTurn | currentGoalSummary | retrievalEvidenceRefs =>
    simp [visited, text, hnotexts, hnotext, projectSlots, unlessEmpty_getD]
  case recentHistory =>
    simp only [text, hnotext, or_false, Option.getD_some]
    rw [← keptOf_eq_self_iff, List.reverse_eq_iff]
    rfl
  case retrievalEvidence | activeTools =>
    simp only [text, hnotext, or_false, unlessEmpty_getD]
    rw [← keptOf_eq_self_iff]
    rfl
  all_goals
    simp only [visited, hnotexts, false_or, not_false_eq_true, and_true, unlessEmpty_getD]
    rw [← trimText_eq_self_iff]
    rfl

theorem dropped_packetOf_iff :
    part.dropped (projectSlots candidates request)
        (packetOf estimator candidates plan request currentTimeMs) = true ↔
      part.Reported estimator candidates plan request := by
  have hnotexts : ∀ tokenLimit, ¬ Shortened estimator tokenLimit [] := fun _ h => h.1 rfl
  have hnotext : ∀ tokenLimit, ¬ TextChanged estimator tokenLimit [] := fun _ h => h.1 rfl
  have hother : ∀ tokenLimit (text : Bytes), otherText text
      (unlessEmpty (trimTextToTokenLimit estimator text tokenLimit)) = true ↔
        TextChanged estimator tokenLimit text := by
    intro tokenLimit text
    rw [otherText, decide_eq_true_eq, unlessEmpty_getD, ne_eq (trimTextToTokenLimit _ _ _),
      trimText_eq_self_iff, not_not]
    exact ⟨fun h => h.2, fun h => ⟨h.1, h⟩⟩
  unfold Section.Reported
  cases part
  case userTurn | currentGoalSummary =>
    simp [dropped, visited, text, hnotexts, hnotext]
  case retrievalEvidenceRefs =>
    simp [dropped, visited, text, hnotexts, hnotext, shorterList, packetOf,
      unlessEmpty_getD, projectSlots]
  case recentHistory =>
    simp only [text, hnotext, or_false]
    rw [← length_keptOf_lt_iff]
    simp [dropped, shorterList, packetOf, visited]
  case retrievalEvidence | activeTools =>
    simp only [text, hnotext, or_false]
    rw [← length_keptOf_lt_iff]
    simp [dropped, shorterList, packetOf, visited, unlessEmpty_getD]
  all_goals
    simp only [visited, hnotexts, false_or]
    exact hother _ _

theorem Section.name_injective : Function.Injective name := by
  intro first second h
  cases first <;> cases second
  all_goals first
    | rfl
    | exact absurd h (by decide)

theorem mem_foldl_appendUnique (name : Bytes) (names values : List Bytes) :
    name ∈ names.foldl appendUnique values ↔ name ∈ values ∨ name ∈ names := by
  induction names generalizing values with
  | nil => simp
  | cons first names ih =>
    rw [List.foldl_cons, ih, List.mem_cons, ← or_assoc]
    apply or_congr_left
    unfold appendUnique
    split
    · next hmem =>
      rw [List.contains_iff_mem] at hmem
      exact (or_iff_left_of_imp (by rintro rfl; exact hmem)).symm
    · rw [List.mem_append, List.mem_singleton]

/-- The sections that are named are those whose comparison shows a cut. -/
theorem mem_detectDroppedSections (projection : SlotProjection) (packet : ContextPacket)
    (name : Bytes) :
    name ∈ detectDroppedSections projection packet ↔
      ∃ part : Section, part.dropped projection packet = true ∧ part.name = name := by
  have hcompared : ∀ part : Section, part.dropped projection packet = true →
      part ∈ comparedSections := by
    intro part h
    cases part
    case userTurn | currentGoalSummary => cases h
    all_goals decide
  rw [detectDroppedSections, mem_foldl_appendUnique]
  simp only [List.not_mem_nil, false_or, List.mem_map, List.mem_filter]
  constructor
  · rintro ⟨part, ⟨-, hdropped⟩, hname⟩
    exact ⟨part, hdropped, hname⟩
  · rintro ⟨part, hdropped, hname⟩
    exact ⟨part, ⟨hcompared part hdropped, hdropped⟩, hname⟩

theorem findSnapshotSlot_ne_nil {snapshot : Working.WorkingMemorySnapshot} {keys : List Bytes}
    {text : Bytes} (h : findSnapshotSlot snapshot keys = some text) : text ≠ [] := by
  obtain ⟨key, -, hkey⟩ := List.exists_of_findSome?_eq_some h
  split at hkey
  · split at hkey
    · cases hkey
    · next hsome =>
      cases hkey
      exact hsome
  · cases hkey

theorem fallbackUserTurn_ne_nil : fallbackUserTurn candidates request ≠ [] := by
  unfold fallbackUserTurn
  split
  · assumption
  · split
    · exact List.cons_ne_nil _ _
    · split
      · assumption
      · decide

theorem fallbackGoalSummary_ne_nil : fallbackGoalSummary candidates request ≠ [] := by
  unfold fallbackGoalSummary
  split
  · assumption
  · rcases hslot : findSnapshotSlot candidates.workingSnapshot
      [str "current_goal_summary", str "goal_summary"] with _ | text
    · decide
    · exact findSnapshotSlot_ne_nil hslot

theorem packetRequestId_ne_nil : packetRequestId request ≠ [] := by
  unfold packetRequestId
  split
  · decide
  · assumption

theorem validateTexts_unlessEmpty (values : List Bytes) (emptyReason itemReason : String)
    (u : Unit) : validateTexts (unlessEmpty values) emptyReason itemReason = .ok u ↔ [] ∉ values := by
  unfold validateTexts
  rw [whenPresent_eq_ok]
  constructor
  · intro h hmem
    cases values with
    | nil => cases hmem
    | cons value values =>
      have hitems := h _ rfl
      simp only [bind_eq_ok, require_eq_ok, List.all_eq_true] at hitems
      obtain ⟨-, -, hitems⟩ := hitems
      exact absurd (hitems [] hmem) (by decide)
  · intro h kept hkept
    obtain ⟨rfl, hne⟩ := unlessEmpty_eq_some hkept
    simp only [bind_eq_ok, require_eq_ok, List.all_eq_true]
    refine ⟨(), by simpa using hne, ?_⟩
    intro text hmem
    rw [Bool.not_eq_true', List.isEmpty_eq_false_iff]
    rintro rfl
    exact h hmem

theorem accepted_iff :
    validateContextPacketFieldRules
        (packetOf estimator candidates plan request currentTimeMs) = .ok () ↔
      Accepted estimator candidates plan request currentTimeMs := by
  have hvalue : ∀ text : Bytes, hasNonEmptyValue (some text) = true ↔ text ≠ [] := by
    intro text
    rw [hasNonEmptyValue, Bool.not_eq_true', List.isEmpty_eq_false_iff]
  have hpresent : ∀ text : Bytes, nonEmptyWhenPresent (unlessEmpty text) = true := by
    intro text
    rw [nonEmptyWhenPresent_iff]
    intro hempty
    obtain ⟨hnil, hne⟩ := unlessEmpty_eq_some hempty
    exact hne hnil.symm
  have hrefs : ∀ refs : List RetrievalEvidenceRef,
      (∀ kept, unlessEmpty refs = some kept → (!kept.isEmpty) = true ∧
        (kept.all (·.hasConsistentValues)) = true) ↔
      ∀ ref ∈ refs, ref.hasConsistentValues = true := by
    intro refs
    cases refs with
    | nil => simp [unlessEmpty]
    | cons ref refs => simp [unlessEmpty]
  have htags : validateTexts (some packetTags) "tags must contain at least one item when present"
      "tags must not contain empty strings" = .ok () := by decide
  unfold validateContextPacketFieldRules validateBoundary validateRequiredFields packetOf
  simp only [bind_eq_ok, require_eq_ok, whenPresent_eq_ok, exists_and_left, exists_const, hvalue,
    packetRequestId_ne_nil, fallbackUserTurn_ne_nil, fallbackGoalSummary_ne_nil, hpresent, htags,
    hrefs, validateTexts_unlessEmpty, nil_mem_keptOf_iff, Option.isSome_some, Option.some.injEq, forall_eq',
    decide_eq_true_eq, true_and, and_true, ne_eq, not_false_eq_true]
  constructor
  · rintro ⟨htime, hevidence, hconsistent, htools⟩
    refine ⟨htime, hconsistent, ?_⟩
    rintro part (rfl | rfl) hlimit hmem
    · exact hevidence ⟨hlimit, hmem⟩
    · exact htools ⟨hlimit, hmem⟩
  · rintro ⟨htime, hconsistent, htexts⟩
    exact ⟨htime, fun h => htexts _ (.inl rfl) h.1 h.2, hconsistent,
      fun h => htexts _ (.inr rfl) h.1 h.2⟩

/-- The result of `assemble`, where the sums of the estimates fit. -/
theorem assembleWith_iff (result : ContextAssemblyResult) :
    assembleWith estimator candidates plan request currentTimeMs = some result ↔
      PlanScans estimator candidates plan request ∧
        result.droppedSections = detectDroppedSections (projectSlots candidates request)
          (packetOf estimator candidates plan request currentTimeMs) ∧
        (Accepted estimator candidates plan request currentTimeMs →
          result.contextPacket = packetOf estimator candidates plan request currentTimeMs) ∧
        (¬ Accepted estimator candidates plan request currentTimeMs →
          result.contextPacket = makeMinimalPacket request currentTimeMs) := by
  have hguard := @accepted_iff estimator candidates plan request currentTimeMs
  obtain ⟨packet, droppedSections⟩ := result
  unfold assembleWith
  simp only [Option.bind_eq_bind, Option.bind_eq_some_iff,
    @buildPacket_iff estimator candidates plan request currentTimeMs]
  constructor
  · rintro ⟨built, ⟨hscans, rfl⟩, hresult⟩
    refine ⟨hscans, ?_⟩
    split at hresult
    · next hok =>
      cases hresult
      exact ⟨rfl, fun _ => rfl, fun hrejected => absurd (hguard.mp hok) hrejected⟩
    · next hstop =>
      cases hresult
      refine ⟨rfl, fun haccepted => ?_, fun _ => rfl⟩
      have hok := hguard.mpr haccepted
      cases hok.symm.trans hstop
  · rintro ⟨hscans, rfl, haccepted, hrejected⟩
    refine ⟨_, ⟨hscans, rfl⟩, ?_⟩
    split
    · next hok =>
      rw [haccepted (hguard.mp hok)]
      rfl
    · next hstop =>
      rw [hrejected]
      · rfl
      · intro h
        have hok := hguard.mpr h
        cases hok.symm.trans hstop

/-- A name of the list is that of a section whose cut shows. -/
theorem named_iff :
    part.name ∈ detectDroppedSections (projectSlots candidates request)
        (packetOf estimator candidates plan request currentTimeMs) ↔
      part.Reported estimator candidates plan request := by
  rw [mem_detectDroppedSections, ← dropped_packetOf_iff]
  constructor
  · rintro ⟨other, hdropped, hname⟩
    rw [← name_injective hname]
    exact hdropped
  · intro hdropped
    exact ⟨part, hdropped, rfl⟩

theorem assembleWith_exists (hscans : PlanScans estimator candidates plan request) :
    ∃ result, assembleWith estimator candidates plan request currentTimeMs = some result := by
  by_cases h : Accepted estimator candidates plan request currentTimeMs
  · exact ⟨⟨_, _⟩, (assembleWith_iff _).mpr ⟨hscans, rfl, fun _ => rfl, fun hnot => absurd h hnot⟩⟩
  · exact ⟨⟨_, _⟩, (assembleWith_iff _).mpr ⟨hscans, rfl, fun haccepted => absurd haccepted h,
      fun _ => rfl⟩⟩

/-- A section whose last text is cut in place keeps its size. -/
theorem cutUnseen_not_reported {part : Section}
    (h : part.CutUnseen estimator candidates plan request) :
    ¬ part.Reported estimator candidates plan request := by
  obtain ⟨hlimit, last, hlast, hne, hroom, -⟩ := h
  rintro (⟨-, hnone | ⟨text, rest, htext, hshort⟩⟩ | ⟨htext, -⟩)
  · exact absurd hlimit (not_lt.mpr hnone)
  · obtain ⟨rfl, rfl⟩ := List.cons.inj (hlast.symm.trans htext)
    rcases hshort with hrest | hnil | hfull
    · exact hrest rfl
    · exact hne hnil
    · exact absurd hroom (not_lt.mpr hfull)
  · cases part
    case recentHistory | retrievalEvidence | activeTools => exact htext rfl
    all_goals cases hlast

variable (estimator candidates plan request currentTimeMs)

/-- The sections that were cut are named, and no others, exactly when no section is cut unseen, or the
cuts that show are those of the packet that replaces a rejected one. -/
theorem honestlyDropped_iff :
    (∃ result, assembleWith estimator candidates plan request currentTimeMs = some result ∧
      HonestlyDropped candidates request result) ↔
      PlanScans estimator candidates plan request ∧
        (Accepted estimator candidates plan request currentTimeMs →
          ∀ part : Section, ¬ part.CutUnseen estimator candidates plan request) ∧
        (¬ Accepted estimator candidates plan request currentTimeMs → ∀ part : Section,
          part.Reported estimator candidates plan request ↔
            ¬ part.Carried candidates request (makeMinimalPacket request currentTimeMs)) := by
  constructor
  · rintro ⟨result, hresult, honest⟩
    obtain ⟨hscans, hdropped, haccepted, hrejected⟩ := (assembleWith_iff result).mp hresult
    have hsections := honest.sections
    simp only [hdropped, named_iff] at hsections
    refine ⟨hscans, fun h part hcut => ?_, fun h => ?_⟩
    · have hpart := hsections part
      rw [haccepted h, carried_packetOf_iff] at hpart
      exact cutUnseen_not_reported hcut (hpart.mpr fun hwhole => hwhole.2 hcut)
    · rw [hrejected h] at hsections
      exact hsections
  · rintro ⟨hscans, haccepted, hrejected⟩
    obtain ⟨result, hresult⟩ := assembleWith_exists hscans
    obtain ⟨-, hdropped, hpacket, hminimal⟩ := (assembleWith_iff result).mp hresult
    refine ⟨result, hresult, fun part => ?_, fun name hname => ?_⟩
    · rw [hdropped, named_iff]
      by_cases h : Accepted estimator candidates plan request currentTimeMs
      · rw [hpacket h, carried_packetOf_iff, not_and_not_right]
        exact ⟨fun hreported hnot => absurd hreported hnot,
          fun hcut => by_contra fun hnot => haccepted h part (hcut hnot)⟩
      · rw [hminimal h]
        exact hrejected h part
    · rw [hdropped, mem_detectDroppedSections] at hname
      obtain ⟨part, -, hpart⟩ := hname
      exact ⟨part, hpart⟩

end Sections

/-- The only tool is cut to the first half of its name, and no section is named. -/
theorem honestlyDropped_cut :
    ¬ ∃ result, assembleWith (fun text => Int32.ofNat text.length) {}
        { trimActions := [{ slotName := str "active_tools", targetTokens := 2 }] }
        { visibleTools := [str "read"] } 1 = some result ∧
      HonestlyDropped {} { visibleTools := [str "read"] } result := by
  rintro ⟨result, hresult, honest⟩
  have hrun : (assembleWith (fun text => Int32.ofNat text.length) {}
      { trimActions := [{ slotName := str "active_tools", targetTokens := 2 }] }
      { visibleTools := [str "read"] } 1).map (fun result =>
        (result.contextPacket.activeTools, result.droppedSections)) =
      some (some [str "re"], []) := by decide +kernel
  rw [hresult, Option.map_some, Option.some.injEq, Prod.mk.injEq] at hrun
  have htools := honest.sections .activeTools
  rw [hrun.2, Section.Carried, hrun.1] at htools
  exact absurd (htools.mpr (by decide)) List.not_mem_nil

end Dasall.Memory.Context
