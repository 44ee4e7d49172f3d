import Dasall.Knowledge.Ingest.Chunker
import Dasall.Lib.Utf8

/-!
# Which chunks are valid UTF-8

Breaks between lines and behind whitespace lie between characters. A span that is cut at its
longest length, and an overlap that is counted in bytes, may start or end inside a character.
-/

open Dasall.Lib.Text Dasall.Lib.Utf8

namespace Dasall.Knowledge.Ingest

variable {policy : ChunkPolicy} {text : Bytes}

/-! ## Breaks -/

theorem isSpace_low (b : Byte) (h : isSpace b = true) : b.toNat < 0x80 := by
  simp only [isSpace, Bool.or_eq_true, beq_iff_eq, Bool.and_eq_true, decide_eq_true_eq] at h
  rcases h with rfl | h
  · decide
  · omega

theorem valid_drop_behind (h : Valid text) {index : Nat} {b : Byte} (hb : text[index]? = some b)
    (hlow : b.toNat < 0x80) : Valid (text.drop (index + 1)) := by
  obtain ⟨hindex, hget⟩ := List.getElem?_eq_some_iff.mp hb
  rw [← List.take_append_drop index text, List.drop_eq_getElem_cons hindex, hget] at h
  exact (h.around_ascii hlow).2

theorem valid_drop_line (h : Valid text) : Valid (text.drop (lineLength text)) := by
  unfold lineLength firstLine
  by_cases hbreak : (text.takeWhile (· ≠ 10)).length < text.length
  · have hnext : text[(text.takeWhile (· ≠ 10)).length]? = some 10 := by
      have hrest := List.takeWhile_append_dropWhile (p := (· ≠ (10 : Byte))) (l := text)
      cases hdrop : text.dropWhile (· ≠ 10) with
      | nil =>
        rw [hdrop, List.append_nil] at hrest
        rw [hrest] at hbreak
        omega
      | cons b rest =>
        have hb : b = 10 := by
          have hne : text.dropWhile (· ≠ 10) ≠ [] := by
            rw [hdrop]
            exact List.cons_ne_nil b rest
          have hnot := List.head_dropWhile_not (· ≠ (10 : Byte)) hne
          simp only [hdrop, List.head_cons] at hnot
          simpa using hnot
        rw [hdrop] at hrest
        conv => enter [1, 1]; rw [← hrest]
        rw [List.getElem?_append_right (by simp)]
        simp [hb]
    rw [Nat.min_eq_right (by omega)]
    exact valid_drop_behind h hnext (by decide)
  · rw [Nat.min_eq_left (by omega), List.drop_length]
    exact valid_nil

theorem valid_drop_blankSequence (fuel : Nat) (h : Valid text) :
    Valid (text.drop (blankSequenceLength text fuel)) := by
  induction fuel generalizing text with
  | zero => simpa [blankSequenceLength] using h
  | succ fuel ih =>
    unfold blankSequenceLength
    split
    · simpa using h
    split
    · rw [← List.drop_drop]
      exact ih (valid_drop_line h)
    · simpa using h

theorem valid_drop_lineBreakpoints (lineStart fuel : Nat) (h : Valid text) :
    ∀ breakpoint ∈ lineBreakpoints lineStart text fuel,
      ∃ length, breakpoint = lineStart + length ∧ Valid (text.drop length) := by
  induction fuel generalizing lineStart text with
  | zero => simp [lineBreakpoints]
  | succ fuel ih =>
    unfold lineBreakpoints
    intro breakpoint hmem
    split at hmem
    next => cases hmem
    next =>
    simp only [List.mem_append] at hmem
    rcases hmem with (hheading | hblank) | hlater
    · split at hheading
      next => exact ⟨0, by simpa using hheading, h⟩
      next => cases hheading
    · split at hblank
      next => exact ⟨_, by simpa using hblank, valid_drop_blankSequence _ h⟩
      next => cases hblank
    · obtain ⟨length, hlength, hvalid⟩ := ih _ (valid_drop_line h) breakpoint hlater
      rw [List.drop_drop] at hvalid
      exact ⟨_, by rw [hlength, Nat.add_assoc], hvalid⟩

theorem onBoundary_breakpoint (h : Valid text) {breakpoint : Nat}
    (hmem : breakpoint ∈ collectBreakpoints text) : OnBoundary text breakpoint := by
  unfold collectBreakpoints at hmem
  rw [List.mem_dedup, List.mem_insertionSort, List.mem_cons] at hmem
  rcases hmem with rfl | hline
  · unfold OnBoundary
    rw [List.drop_length]
    exact valid_nil.starts
  · obtain ⟨length, hlength, hvalid⟩ := valid_drop_lineBreakpoints 0 _ h breakpoint hline
    rw [hlength, Nat.zero_add]
    exact hvalid.starts

theorem onBoundary_chosen (h : Valid text) {start chosen : Nat}
    (hchosen : chosenBreak policy text start = some chosen) : OnBoundary text chosen := by
  unfold chosenBreak at hchosen
  simp only [Option.orElse_eq_orElse, Option.orElse_eq_or, Option.or_eq_some_iff] at hchosen
  rcases hchosen with hpreferred | ⟨-, hrelaxed | ⟨-, hsoft⟩⟩
  · exact onBoundary_breakpoint h (chooseBreakpoint_range hpreferred).1
  · exact onBoundary_breakpoint h (chooseBreakpoint_range hrelaxed).1
  · unfold chooseSoftBreak at hsoft
    split at hsoft
    next => cases hsoft
    next =>
      obtain ⟨-, -, index, b, rfl, hb, hspace⟩ := softBreakFrom_range text hsoft
      exact (valid_drop_behind h hb (isSpace_low b hspace)).starts

theorem onBoundary_adjusted (h : Valid text) {candidate «end» : Nat}
    (hmoved : adjustOverlapStart text candidate «end» ≠ candidate) :
    OnBoundary text (adjustOverlapStart text candidate «end») := by
  unfold adjustOverlapStart at hmoved ⊢
  split at hmoved
  next => exact absurd rfl hmoved
  next hrange =>
  rw [if_neg hrange]
  dsimp only at hmoved ⊢
  generalize hwords : ((text.take «end»).drop candidate).dropWhile
    (fun character => !isSpace character) = words at hmoved ⊢
  split at hmoved
  next => exact absurd rfl hmoved
  next hrest =>
  rw [if_neg hrest]
  have hend : «end» ≤ text.length := by omega
  -- The text is what comes before the whitespace, the whitespace, the rest and what comes behind.
  obtain ⟨before, hbefore⟩ : ∃ before, text.take «end» = before ++ words := by
    refine ⟨(text.take «end»).take candidate ++ ((text.take «end»).drop candidate).takeWhile
      (fun character => !isSpace character), ?_⟩
    rw [← hwords, List.append_assoc, List.takeWhile_append_dropWhile, List.take_append_drop]
  have hspaces : ∃ spaces b, words = spaces ++ b :: words.dropWhile isSpace ∧ isSpace b = true := by
    have hsplit := List.takeWhile_append_dropWhile (p := isSpace) (l := words)
    have hne : words.takeWhile isSpace ≠ [] := by
      intro hnone
      cases words with
      | nil => exact hrest rfl
      | cons b words =>
        have hnot := List.head_dropWhile_not (fun character => !isSpace character)
          (l := (text.take «end»).drop candidate) (by simp [hwords])
        simp only [hwords, List.head_cons] at hnot
        simp at hnone
        simp [hnone] at hnot
    refine ⟨(words.takeWhile isSpace).dropLast, (words.takeWhile isSpace).getLast hne, ?_, ?_⟩
    · conv => lhs; rw [← hsplit, ← List.dropLast_append_getLast hne]
      simp
    · exact List.mem_takeWhile_imp (List.getLast_mem hne)
  obtain ⟨spaces, b, hwhole, hb⟩ := hspaces
  have hlength : (before ++ spaces ++ [b]).length = «end» - (words.dropWhile isSpace).length := by
    have htake : (text.take «end»).length = «end» := by
      rw [List.length_take, Nat.min_eq_left hend]
    rw [hbefore] at htake
    have hparts := congrArg List.length hwhole
    simp only [List.length_append, List.length_cons] at htake hparts ⊢
    simp only [List.length_nil]
    omega
  have htext : text = (before ++ spaces ++ [b]) ++ (words.dropWhile isSpace ++ text.drop «end») := by
    conv => lhs; rw [← List.take_append_drop «end» text, hbefore, hwhole]
    simp
  unfold OnBoundary
  rw [← hlength]
  conv => enter [1]; rw [htext]
  rw [List.drop_left]
  rw [htext] at h
  have hcut : Valid ((before ++ spaces) ++ b :: (words.dropWhile isSpace ++ text.drop «end»)) := by
    simpa using h
  exact (hcut.around_ascii (isSpace_low b hb)).2.starts

/-! ## A step of the loop -/

/-- The rest of the text is too long for a span, and there is no break to end it at. -/
def HardCut (policy : ChunkPolicy) (text : Bytes) (start : Nat) : Prop :=
  policy.maxChunkChars.toNat < text.length - start ∧ chosenBreak policy text start = none

/-- The next span starts so many bytes before the end of this one, since no word starts there. -/
def RawOverlap (policy : ChunkPolicy) (text : Bytes) (start : Nat) : Prop :=
  spanEnd policy text start < text.length ∧ 0 < policy.overlapChars.toNat ∧
    start + policy.overlapChars.toNat < spanEnd policy text start ∧
    adjustOverlapStart text (spanEnd policy text start - policy.overlapChars.toNat)
      (spanEnd policy text start) = spanEnd policy text start - policy.overlapChars.toNat

/-- Where a length in bytes decides, a character starts. -/
structure CutsBetweenCharacters (policy : ChunkPolicy) (text : Bytes) (start : Nat) : Prop where
  hardCut : HardCut policy text start → OnBoundary text (start + policy.maxChunkChars.toNat)
  overlap : RawOverlap policy text start →
    OnBoundary text (spanEnd policy text start - policy.overlapChars.toNat)

theorem onBoundary_length (text : Bytes) : OnBoundary text text.length := by
  unfold OnBoundary
  rw [List.drop_length]
  exact valid_nil.starts

theorem onBoundary_spanEnd (h : Valid text) (hpolicy : policy.hasConsistentValues = true)
    {start : Nat} :
    OnBoundary text (spanEnd policy text start) ↔
      (HardCut policy text start → OnBoundary text (start + policy.maxChunkChars.toNat)) := by
  obtain ⟨hmin, hmax⟩ := maxChunkChars_pos hpolicy
  unfold spanEnd HardCut
  split
  · exact iff_of_true (onBoundary_length text) fun hcut => by omega
  next hlong =>
    have hmaxEnd : maxEnd policy text start = start + policy.maxChunkChars.toNat := by
      unfold maxEnd
      omega
    dsimp only
    cases hchosen : chosenBreak policy text start with
    | none =>
      rw [Option.getD_none, ite_self, hmaxEnd]
      exact ⟨fun hboundary _ => hboundary, fun hcut => hcut ⟨by omega, rfl⟩⟩
    | some chosen =>
      have hbehind : ¬ chosen ≤ start := by
        have hrange := (chosenBreak_range text hpolicy hchosen).1
        unfold minEnd at hrange
        omega
      rw [Option.getD_some, if_neg hbehind]
      refine iff_of_true (onBoundary_chosen h hchosen) fun hcut => ?_
      cases hcut.2

/-- The next start is between characters when the end of the span is and the overlap is. -/
theorem onBoundary_nextStart (h : Valid text) {start : Nat}
    (hstart : start < spanEnd policy text start) (hend : spanEnd policy text start < text.length)
    (hboundary : OnBoundary text (spanEnd policy text start)) :
    OnBoundary text (nextStart policy text start (spanEnd policy text start)) ↔
      (RawOverlap policy text start →
        OnBoundary text (spanEnd policy text start - policy.overlapChars.toNat)) := by
  unfold nextStart RawOverlap
  generalize hspan : spanEnd policy text start = «end» at hstart hend hboundary ⊢
  generalize hoverlap : policy.overlapChars.toNat = overlapChars
  dsimp only
  by_cases hkept : 0 < overlapChars ∧ overlapChars < «end» ∧
      start < adjustOverlapStart text («end» - overlapChars) «end» ∧
      adjustOverlapStart text («end» - overlapChars) «end» < «end»
  · rw [if_pos hkept, if_neg (by omega)]
    by_cases hmoved : adjustOverlapStart text («end» - overlapChars) «end» = «end» - overlapChars
    · rw [hmoved] at hkept ⊢
      constructor
      · exact fun hnext _ => hnext
      · exact fun hraw => hraw ⟨hend, hkept.1, by omega, rfl⟩
    · exact iff_of_true (onBoundary_adjusted h hmoved) fun hraw => absurd hraw.2.2.2 hmoved
  · rw [if_neg hkept, if_neg (by omega)]
    refine iff_of_true hboundary ?_
    rintro ⟨-, hpos, hlow, hsame⟩
    rw [hsame] at hkept
    exact absurd ⟨hpos, by omega, by omega, by omega⟩ hkept

/-! ## The chunks -/

/-- A span that starts between characters is valid when it ends between characters. -/
theorem valid_spanText_iff (h : Valid text) {start «end» : Nat} (hstart : OnBoundary text start)
    (hlt : start < «end») :
    Valid (spanText text ⟨start, «end»⟩) ↔ OnBoundary text «end» := by
  have htail := h.drop_of_boundary hstart
  have hcut := htail.take_iff («end» - start)
  have hsame : OnBoundary (text.drop start) («end» - start) ↔ OnBoundary text «end» := by
    unfold OnBoundary
    rw [List.drop_drop, Nat.add_sub_cancel' (by omega)]
  unfold spanText
  rw [← hsame, ← hcut, List.drop_take]

theorem not_valid_spanText {start «end» : Nat} (hstart : ¬ OnBoundary text start)
    (hlt : start < «end») : ¬ Valid (spanText text ⟨start, «end»⟩) := by
  intro hvalid
  apply hstart
  have hstarts := hvalid.starts
  unfold spanText at hstarts
  rw [List.drop_take] at hstarts
  intro b hb
  apply hstarts b
  rw [List.head?_take, if_neg (by simp; omega)]
  exact hb

theorem spanStarts_valid_iff (h : Valid text) (hpolicy : policy.hasConsistentValues = true)
    (start fuel : Nat) (hstart : OnBoundary text start) (hlt : start < text.length)
    (hfuel : text.length ≤ start + fuel) :
    (∀ first ∈ spanStarts policy text start fuel,
        Valid (spanText text ⟨first, spanEnd policy text first⟩)) ↔
      ∀ first ∈ spanStarts policy text start fuel, CutsBetweenCharacters policy text first := by
  induction fuel generalizing start with
  | zero => omega
  | succ fuel ih =>
    obtain ⟨hbehind, hwithin⟩ := spanEnd_range text hpolicy hlt
    have hvalid := valid_spanText_iff h hstart hbehind
    have hcut := @onBoundary_spanEnd policy text h hpolicy start
    unfold spanStarts
    rw [if_neg (by omega)]
    split
    next hlast =>
      simp only [List.mem_singleton, forall_eq]
      rw [hvalid, hcut]
      exact ⟨fun hhard => ⟨hhard, fun hraw => absurd hraw.1 (by omega)⟩, fun hcuts => hcuts.hardCut⟩
    next hmore =>
      obtain ⟨hlow, hhigh⟩ := @nextStart_range policy text _ _ hbehind
      generalize hnext : nextStart policy text start (spanEnd policy text start) = next at hlow hhigh ⊢
      rw [List.forall_mem_cons, List.forall_mem_cons, hvalid]
      by_cases hboundary : OnBoundary text (spanEnd policy text start)
      swap
      · exact iff_of_false (fun hall => hboundary hall.1) fun hall =>
          hboundary (hcut.mpr hall.1.hardCut)
      have hoverlap := onBoundary_nextStart h hbehind (by omega) hboundary
      rw [hnext] at hoverlap
      by_cases hnextBoundary : OnBoundary text next
      · rw [ih next hnextBoundary (by omega) (by omega)]
        refine and_congr_left fun _ => ?_
        exact iff_of_true hboundary ⟨hcut.mp hboundary, hoverlap.mp hnextBoundary⟩
      · -- The next span is there, and starts inside a character.
        have hmem : next ∈ spanStarts policy text next fuel := by
          cases fuel with
          | zero => omega
          | succ fuel =>
            unfold spanStarts
            rw [if_neg (by omega)]
            split <;> exact List.mem_cons_self
        refine iff_of_false ?_ fun hall => hnextBoundary (hoverlap.mpr hall.1.overlap)
        rintro ⟨-, hrest⟩
        have hmore : next < text.length := by omega
        have hrange := spanEnd_range text hpolicy hmore
        exact not_valid_spanText hnextBoundary hrange.1 (hrest next hmem)

/-- The chunks of a valid text are valid just when no length in bytes cuts a character. -/
theorem chunk_valid_iff (chunker : Chunker) (h : Valid text) :
    (∀ chunk ∈ chunker.chunk text, Valid chunk) ↔
      ∀ start ∈ spanStarts chunker.policy text 0 text.length,
        CutsBetweenCharacters chunker.policy text start := by
  unfold Chunker.chunk splitIntoSpans
  simp only [List.map_map, List.mem_map, Function.comp_apply, forall_exists_index, and_imp,
    forall_apply_eq_imp_iff₂]
  by_cases htext : text = []
  · subst htext
    simp [spanStarts]
  · exact spanStarts_valid_iff h chunker.consistent 0 text.length h.starts
      (List.length_pos_iff.mpr htext) (by omega)

end Dasall.Knowledge.Ingest
