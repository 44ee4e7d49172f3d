import Dasall.Knowledge.Types
import Mathlib.Data.List.DropRight
import Mathlib.Data.List.Sort

/-!
# The chunker

Cuts a text into spans of bounded length, at a break between lines where there is one, else behind
whitespace, else at the longest length. A span may start before the end of the one before it.
-/

open Dasall.Lib Dasall.Lib.Text

namespace Dasall.Knowledge.Ingest

structure ChunkPolicy where
  targetChunkChars : UInt64 := 512
  maxChunkChars : UInt64 := 768
  overlapChars : UInt64 := 96
  minChunkChars : UInt64 := 128

def ChunkPolicy.hasConsistentValues (policy : ChunkPolicy) : Bool :=
  decide (0 < policy.targetChunkChars) && decide (policy.targetChunkChars ≤ policy.maxChunkChars) &&
    decide (policy.overlapChars < policy.maxChunkChars) && decide (0 < policy.minChunkChars) &&
    decide (policy.minChunkChars ≤ policy.targetChunkChars)

/-- A chunker is made of a consistent policy only. -/
structure Chunker where
  policy : ChunkPolicy
  consistent : policy.hasConsistentValues = true

structure TextSpan where
  begin : Nat
  «end» : Nat
deriving DecidableEq

/-! ## Breaks between lines -/

def isHeadingLine (value : Bytes) : Bool :=
  let hashes := (value.takeWhile (· == 35)).length
  0 < hashes && hashes ≤ 6 &&
    match (value.drop hashes).head? with
    | none => true
    | some next => next == 32 || next == 9

/-- Space, tab, line feed and carriage return. -/
def isBlank (character : Byte) : Bool := [32, 9, 10, 13].contains character

def trimCopy (value : Bytes) : Bytes := (value.dropWhile isBlank).rdropWhile isBlank

def firstLine (text : Bytes) : Bytes := text.takeWhile (· ≠ 10)

/-- The first line with its line feed. -/
def lineLength (text : Bytes) : Nat := min text.length ((firstLine text).length + 1)

/-- The length of the blank lines at the start of the text. -/
def blankSequenceLength (text : Bytes) : Nat → Nat
  | 0 => 0
  | fuel + 1 =>
    if text = [] then 0
    else if trimCopy (firstLine text) = [] then
      lineLength text + blankSequenceLength (text.drop (lineLength text)) fuel
    else 0

/-- The breakpoints of the lines from one on, which starts at `lineStart`. -/
def lineBreakpoints (lineStart : Nat) (text : Bytes) : Nat → List Nat
  | 0 => []
  | fuel + 1 =>
    if text = [] then []
    else
      let trimmed := trimCopy (firstLine text)
      (if trimmed ≠ [] ∧ isHeadingLine trimmed = true ∧ lineStart ≠ 0 then [lineStart] else []) ++
        (if trimmed = [] then [lineStart + blankSequenceLength text text.length] else []) ++
        lineBreakpoints (lineStart + lineLength text) (text.drop (lineLength text)) fuel

def collectBreakpoints (text : Bytes) : List Nat :=
  ((text.length :: lineBreakpoints 0 text text.length).insertionSort (· ≤ ·)).dedup

/-- The last breakpoint up to the limit, if it is behind the least end. -/
def chooseBreakpoint (breakpoints : List Nat) (minEnd limit : Nat) : Option Nat :=
  (breakpoints.takeWhile (· ≤ limit)).reverse.find? fun breakpoint => minEnd < breakpoint

/-- The loop of `choose_soft_break`, down from a position. -/
def softBreakFrom (text : Bytes) (minEnd : Nat) : Nat → Option Nat
  | 0 => none
  | position + 1 =>
    if position + 1 ≤ minEnd then none
    else if text[position]?.any isSpace then some (position + 1)
    else softBreakFrom text minEnd position

def chooseSoftBreak (text : Bytes) (minEnd limit : Nat) : Option Nat :=
  if limit ≤ minEnd ∨ text.length < limit then none else softBreakFrom text minEnd limit

/-- The first word that starts in the overlap, or the candidate where none does. -/
def adjustOverlapStart (text : Bytes) (candidate «end» : Nat) : Nat :=
  if candidate = 0 ∨ «end» ≤ candidate ∨ text.length < «end» then candidate
  else
    let overlap := (text.take «end»).drop candidate
    let rest := (overlap.dropWhile fun character => !isSpace character).dropWhile isSpace
    if rest = [] then candidate else «end» - rest.length

/-! ## Spans -/

section
variable (policy : ChunkPolicy) (text : Bytes)

def minEnd (start : Nat) : Nat := min text.length (start + policy.minChunkChars.toNat)

def targetEnd (start : Nat) : Nat := min text.length (start + policy.targetChunkChars.toNat)

def maxEnd (start : Nat) : Nat := min text.length (start + policy.maxChunkChars.toNat)

/-- The break that is preferred, then one up to the maximum, then one behind whitespace. -/
def chosenBreak (start : Nat) : Option Nat :=
  chooseBreakpoint (collectBreakpoints text) (minEnd policy text start)
      (targetEnd policy text start) <|>
    chooseBreakpoint (collectBreakpoints text) (minEnd policy text start)
      (maxEnd policy text start) <|>
    chooseSoftBreak text (minEnd policy text start) (maxEnd policy text start)

/-- The end of the span that starts here. -/
def spanEnd (start : Nat) : Nat :=
  if text.length - start ≤ policy.maxChunkChars.toNat then text.length
  else
    let chosen := (chosenBreak policy text start).getD (maxEnd policy text start)
    if chosen ≤ start then maxEnd policy text start else chosen

def nextStart (start «end» : Nat) : Nat :=
  let overlapStart := adjustOverlapStart text («end» - policy.overlapChars.toNat) «end»
  let next :=
    if 0 < policy.overlapChars.toNat ∧ policy.overlapChars.toNat < «end» ∧
        start < overlapStart ∧ overlapStart < «end» then overlapStart
    else «end»
  if next ≤ start then «end» else next

/-- The starts of the spans, from one on. -/
def spanStarts (start : Nat) : Nat → List Nat
  | 0 => []
  | fuel + 1 =>
    if text.length ≤ start then []
    else if text.length ≤ spanEnd policy text start then [start]
    else start :: spanStarts (nextStart policy text start (spanEnd policy text start)) fuel

/-- Every step of the loop moves the start, so that there are no more steps than bytes. -/
def splitIntoSpans : List TextSpan :=
  (spanStarts policy text 0 text.length).map fun start => ⟨start, spanEnd policy text start⟩

end

def spanText (text : Bytes) (span : TextSpan) : Bytes := (text.take span.end).drop span.begin

/-- The texts of the chunks of a document. -/
def Chunker.chunk (chunker : Chunker) (canonicalText : Bytes) : List Bytes :=
  (splitIntoSpans chunker.policy canonicalText).map (spanText canonicalText)

/-! ## The loop ends with the text -/

section
variable {policy : ChunkPolicy} (text : Bytes)

theorem maxChunkChars_pos (h : policy.hasConsistentValues = true) :
    0 < policy.minChunkChars.toNat ∧ policy.minChunkChars.toNat ≤ policy.maxChunkChars.toNat := by
  simp only [ChunkPolicy.hasConsistentValues, Bool.and_eq_true, decide_eq_true_eq] at h
  obtain ⟨⟨⟨⟨-, htarget⟩, -⟩, hmin⟩, hle⟩ := h
  rw [UInt64.le_iff_toNat_le] at htarget hle
  exact ⟨UInt64.lt_iff_toNat_lt.mp hmin, hle.trans htarget⟩

theorem chooseBreakpoint_range {breakpoints : List Nat} {minEnd limit breakpoint : Nat}
    (h : chooseBreakpoint breakpoints minEnd limit = some breakpoint) :
    breakpoint ∈ breakpoints ∧ minEnd < breakpoint ∧ breakpoint ≤ limit := by
  unfold chooseBreakpoint at h
  have hmem := List.mem_reverse.mp (List.mem_of_find?_eq_some h)
  have hmin := List.find?_some h
  have hlimit := List.mem_takeWhile_imp hmem
  exact ⟨(List.takeWhile_prefix _).subset hmem, by simpa using hmin, by simpa using hlimit⟩

theorem softBreakFrom_range {minEnd position softBreak : Nat}
    (h : softBreakFrom text minEnd position = some softBreak) :
    minEnd < softBreak ∧ softBreak ≤ position ∧
      ∃ index b, softBreak = index + 1 ∧ text[index]? = some b ∧ isSpace b = true := by
  induction position with
  | zero => cases h
  | succ position ih =>
    unfold softBreakFrom at h
    split at h
    next => cases h
    next hmin =>
    split at h
    next hspace =>
      obtain rfl := Option.some.inj h
      refine ⟨by omega, by omega, position, ?_⟩
      cases hbyte : text[position]? with
      | none => simp [hbyte] at hspace
      | some b => exact ⟨b, rfl, rfl, by simpa [hbyte] using hspace⟩
    next =>
      obtain ⟨hlow, hhigh, hbyte⟩ := ih h
      exact ⟨hlow, by omega, hbyte⟩

theorem chosenBreak_range (h : policy.hasConsistentValues = true) {start chosen : Nat}
    (hchosen : chosenBreak policy text start = some chosen) :
    minEnd policy text start < chosen ∧ chosen ≤ maxEnd policy text start := by
  have htarget : targetEnd policy text start ≤ maxEnd policy text start := by
    simp only [ChunkPolicy.hasConsistentValues, Bool.and_eq_true, decide_eq_true_eq] at h
    have hle := UInt64.le_iff_toNat_le.mp h.1.1.1.2
    unfold targetEnd maxEnd
    omega
  unfold chosenBreak at hchosen
  simp only [Option.orElse_eq_orElse, Option.orElse_eq_or, Option.or_eq_some_iff] at hchosen
  rcases hchosen with hpreferred | ⟨-, hrelaxed | ⟨-, hsoft⟩⟩
  · obtain ⟨-, hmin, hlimit⟩ := chooseBreakpoint_range hpreferred
    exact ⟨hmin, hlimit.trans htarget⟩
  · exact (chooseBreakpoint_range hrelaxed).2
  · unfold chooseSoftBreak at hsoft
    split at hsoft
    next => cases hsoft
    next =>
      obtain ⟨hmin, hlimit, -⟩ := softBreakFrom_range text hsoft
      exact ⟨hmin, hlimit⟩

theorem spanEnd_range (h : policy.hasConsistentValues = true) {start : Nat}
    (hstart : start < text.length) :
    start < spanEnd policy text start ∧ spanEnd policy text start ≤ text.length := by
  obtain ⟨hmin, hmax⟩ := maxChunkChars_pos h
  unfold spanEnd
  split
  · omega
  next hlong =>
    have hmaxEnd : maxEnd policy text start = start + policy.maxChunkChars.toNat := by
      unfold maxEnd
      omega
    dsimp only
    cases hchosen : chosenBreak policy text start with
    | none =>
      rw [Option.getD_none]
      split <;> omega
    | some chosen =>
      obtain ⟨-, hle⟩ := chosenBreak_range text h hchosen
      rw [Option.getD_some]
      split <;> omega

theorem nextStart_range {start «end» : Nat} (hend : start < «end») :
    start < nextStart policy text start «end» ∧ nextStart policy text start «end» ≤ «end» := by
  unfold nextStart
  dsimp only
  split <;> split at * <;> omega

end

end Dasall.Knowledge.Ingest
