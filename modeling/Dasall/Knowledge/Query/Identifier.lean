import Dasall.Lib.Text
import Mathlib.Data.List.DropRight

/-!
# Identifiers

Tags and corpus ids of a query are written in lower case, with a single separator for whatever
stands between their words. An identifier that is spelled in this way already stays as it is.
-/

open Dasall.Lib.Ascii Dasall.Lib.Text

namespace Dasall.Knowledge.Query

def isIdentifierSeparator (byte : Byte) : Bool := byte == 45 || byte == 95

/-- The loop of `normalize_identifier`. -/
def identifierLoop (normalized : Bytes) (previousWasSeparator : Bool) : Bytes → Bytes
  | [] => normalized
  | byte :: rest =>
    if isAlnum byte then identifierLoop (normalized ++ [toLower byte]) false rest
    else if isIdentifierSeparator byte then
      if !normalized.isEmpty && !previousWasSeparator then
        identifierLoop (normalized ++ [byte]) true rest
      else identifierLoop normalized previousWasSeparator rest
    else if isSpace byte || isPunct byte then
      if !normalized.isEmpty && !previousWasSeparator then
        identifierLoop (normalized ++ [45]) true rest
      else identifierLoop normalized previousWasSeparator rest
    else identifierLoop (normalized ++ [byte]) false rest

def normalizeIdentifier (value : Bytes) : Bytes :=
  (identifierLoop [] false value).rdropWhile isIdentifierSeparator

/-! ## Plain identifiers -/

/-- A byte of a word: neither space nor punctuation. -/
def isWordByte (byte : Byte) : Bool := !isSpace byte && !isPunct byte

/-- The rest of a plain identifier, behind a word or behind a separator. -/
def plainFrom (behindSeparator : Bool) : Bytes → Bool
  | [] => !behindSeparator
  | byte :: rest =>
    if isWordByte byte then !isUpper byte && plainFrom false rest
    else isIdentifierSeparator byte && !behindSeparator && plainFrom true rest

/-- Words without upper case, with a single hyphen or underscore between any two. -/
def Plain (value : Bytes) : Prop := plainFrom true value = true

/-- The two are spellings of one identifier. -/
def SameIdentifier (first second : Bytes) : Prop :=
  normalizeIdentifier first = normalizeIdentifier second

instance (first second : Bytes) : Decidable (SameIdentifier first second) :=
  inferInstanceAs (Decidable (normalizeIdentifier first = normalizeIdentifier second))

variable (value : Bytes) (byte : Byte) (behindSeparator : Bool) (values : List Bytes)

/-! ## Classes of bytes -/

theorem isAlnum_word (h : isAlnum byte = true) : isWordByte byte = true := by
  have hrange : 48 ≤ byte.toNat := by
    simp only [isAlnum, isAlpha, isUpper, isLower, isDigit, Bool.or_eq_true, Bool.and_eq_true,
      decide_eq_true_eq] at h
    omega
  have hspace : isSpace byte = false := by
    have hne : byte ≠ 32 := by
      rintro rfl
      revert hrange
      decide
    simp only [isSpace, beq_eq_false_iff_ne, ne_eq, hne, not_false_eq_true, Bool.or_eq_false_iff,
      Bool.and_eq_false_iff, decide_eq_false_iff_not, true_and]
    omega
  simp [isWordByte, isPunct, hspace, h]

theorem separator_not_word (h : isIdentifierSeparator byte = true) :
    isWordByte byte = false := by
  simp only [isIdentifierSeparator, Bool.or_eq_true, beq_iff_eq] at h
  rcases h with rfl | rfl <;> decide

theorem toLower_other (h : isAlnum byte = false) : toLower byte = byte := by
  simp only [isAlnum, isAlpha, Bool.or_eq_false_iff] at h
  simp [toLower, h.1.1]

theorem isWordByte_toLower : isWordByte (toLower byte) = isWordByte byte := by
  by_cases h : isUpper byte = true
  · have hword : isWordByte byte = true := isAlnum_word byte (by simp [isAlnum, isAlpha, h])
    have hlower : isAlnum (toLower byte) = true := by
      simp only [isAlnum, isAlpha, isLower, toLower_toNat, h, if_true]
      simp only [isUpper] at h
      grind
    rw [hword, isAlnum_word _ hlower]
  · simp [toLower, h]

theorem toLower_not_word (h : isWordByte byte = false) : toLower byte = byte := by
  apply toLower_other
  by_contra halnum
  rw [Bool.not_eq_false] at halnum
  rw [isAlnum_word byte halnum] at h
  cases h

/-! ## What the loop writes -/

/-- What the loop appends, where a separator would be skipped or not. -/
def identifierTail (behindSeparator : Bool) : Bytes → Bytes
  | [] => []
  | byte :: rest =>
    if isWordByte byte then toLower byte :: identifierTail false rest
    else if behindSeparator then identifierTail true rest
    else (if isIdentifierSeparator byte then byte else 45) :: identifierTail true rest

theorem identifierLoop_eq (normalized : Bytes) (previousWasSeparator : Bool)
    (h : previousWasSeparator = true → normalized ≠ []) :
    identifierLoop normalized previousWasSeparator value =
      normalized ++ identifierTail (normalized.isEmpty || previousWasSeparator) value := by
  induction value generalizing normalized previousWasSeparator with
  | nil => simp [identifierLoop, identifierTail]
  | cons byte rest ih =>
    rw [identifierLoop, identifierTail]
    have happend : ∀ written : Byte, (normalized ++ [written]).isEmpty = false := by simp
    by_cases hword : isWordByte byte = true
    · have hseparator : isIdentifierSeparator byte = false := by
        by_contra hsep
        rw [Bool.not_eq_false] at hsep
        rw [separator_not_word byte hsep] at hword
        cases hword
      have hother : (isSpace byte || isPunct byte) = false := by simpa [isWordByte] using hword
      simp only [hword, if_true, hseparator, hother, Bool.false_eq_true, if_false]
      split
      · rw [ih _ false (by simp), happend]
        simp
      next halnum =>
        rw [ih _ false (by simp), happend, toLower_other byte (by simpa using halnum)]
        simp
    · rw [Bool.not_eq_true] at hword
      have halnum : isAlnum byte = false := by
        by_contra halnum
        rw [Bool.not_eq_false] at halnum
        rw [isAlnum_word byte halnum] at hword
        cases hword
      have hother : (isSpace byte || isPunct byte) = true := by
        simp only [isWordByte, Bool.and_eq_false_iff, Bool.not_eq_false'] at hword
        simpa using hword
      simp only [hword, halnum, hother, Bool.false_eq_true, if_false, if_true]
      cases hskip : (normalized.isEmpty || previousWasSeparator) with
      | true =>
        have hguard : (!normalized.isEmpty && !previousWasSeparator) = false := by
          rw [← Bool.not_or, hskip]
          rfl
        simp only [hguard, Bool.false_eq_true, if_false, ite_self, if_true]
        rw [ih normalized previousWasSeparator h, hskip]
      | false =>
        have hguard : (!normalized.isEmpty && !previousWasSeparator) = true := by
          rw [← Bool.not_or, hskip]
          rfl
        simp only [hguard, Bool.false_eq_true, if_false, if_true]
        split
        all_goals
          rw [ih _ true (by simp), happend]
          simp

theorem normalizeIdentifier_eq :
    normalizeIdentifier value = (identifierTail true value).rdropWhile isIdentifierSeparator := by
  rw [normalizeIdentifier, identifierLoop_eq value [] false (by simp)]
  rfl

theorem identifierTail_lower :
    identifierTail behindSeparator (lower value) = identifierTail behindSeparator value := by
  induction value generalizing behindSeparator with
  | nil => rfl
  | cons byte rest ih =>
    have hcons : lower (byte :: rest) = toLower byte :: lower rest := rfl
    rw [hcons, identifierTail, identifierTail, isWordByte_toLower, toLower_toLower]
    simp only [ih]
    split
    · rfl
    next hword => rw [toLower_not_word byte (by simpa using hword)]

theorem normalizeIdentifier_lower :
    normalizeIdentifier (lower value) = normalizeIdentifier value := by
  rw [normalizeIdentifier_eq, identifierTail_lower, ← normalizeIdentifier_eq]

/-! ## Plain identifiers stay as they are -/

theorem identifierTail_plain
    (h : plainFrom behindSeparator value = true) : identifierTail behindSeparator value = value := by
  induction value generalizing behindSeparator with
  | nil => rfl
  | cons byte rest ih =>
    unfold plainFrom at h
    unfold identifierTail
    split
    next hword =>
      simp only [hword, if_true, Bool.and_eq_true, Bool.not_eq_true'] at h
      rw [ih false h.2, toLower, h.1]
      rfl
    next hword =>
      simp only [hword, Bool.false_eq_true, if_false, Bool.and_eq_true, Bool.not_eq_true'] at h
      rw [h.1.2, h.1.1, ih true h.2]
      rfl

theorem plain_last (h : plainFrom behindSeparator value = true) (hne : value ≠ []) :
    isIdentifierSeparator (value.getLast hne) = false := by
  induction value generalizing behindSeparator with
  | nil => exact absurd rfl hne
  | cons byte rest ih =>
    unfold plainFrom at h
    by_cases hrest : rest = []
    · subst hrest
      split at h
      next hword =>
        by_contra hsep
        rw [Bool.not_eq_false] at hsep
        have hbyte := separator_not_word byte hsep
        rw [hbyte] at hword
        cases hword
      next => simp [plainFrom] at h
    · rw [List.getLast_cons hrest]
      split at h
      · exact ih false (by simp only [Bool.and_eq_true] at h; exact h.2) hrest
      · exact ih true (by simp only [Bool.and_eq_true] at h; exact h.2) hrest

theorem normalizeIdentifier_plain {value : Bytes} (h : Plain value) :
    normalizeIdentifier value = value := by
  rw [normalizeIdentifier_eq, identifierTail_plain value true h, List.rdropWhile_eq_self_iff]
  intro hne
  simp [plain_last value true h hne]

theorem lower_plain (h : plainFrom behindSeparator value = true) : lower value = value := by
  induction value generalizing behindSeparator with
  | nil => rfl
  | cons byte rest ih =>
    have hcons : lower (byte :: rest) = toLower byte :: lower rest := rfl
    unfold plainFrom at h
    split at h
    next =>
      simp only [Bool.and_eq_true, Bool.not_eq_true'] at h
      rw [hcons, ih false h.2, toLower, h.1]
      rfl
    next hword =>
      simp only [Bool.and_eq_true, Bool.not_eq_true'] at h
      rw [hcons, ih true h.2, toLower_not_word byte (by simpa using hword)]

/-! ## What is written is plain -/

theorem rdropWhile_cons (p : Byte → Bool) (byte : Byte) (rest : Bytes) :
    (byte :: rest).rdropWhile p =
      if rest.rdropWhile p = [] then if p byte then [] else [byte]
      else byte :: rest.rdropWhile p := by
  induction rest using List.reverseRecOn with
  | nil => simp [List.rdropWhile_singleton]
  | append_singleton rest last ih =>
    rw [← List.cons_append, List.rdropWhile_concat, List.rdropWhile_concat]
    split
    · exact ih
    · simp

theorem plain_identifierTail :
    (identifierTail behindSeparator value).rdropWhile isIdentifierSeparator ≠ [] →
      plainFrom behindSeparator
        ((identifierTail behindSeparator value).rdropWhile isIdentifierSeparator) = true := by
  induction value generalizing behindSeparator with
  | nil => simp [identifierTail]
  | cons byte rest ih =>
    unfold identifierTail
    split
    next hword =>
      intro _
      have hkept : isIdentifierSeparator (toLower byte) = false := by
        by_contra hsep
        rw [Bool.not_eq_false] at hsep
        have hnot := separator_not_word _ hsep
        rw [isWordByte_toLower, hword] at hnot
        cases hnot
      rw [rdropWhile_cons, hkept]
      split
      · simp [plainFrom, isWordByte_toLower, hword, isUpper_toLower]
      next hrest =>
        simp [plainFrom, isWordByte_toLower, hword, isUpper_toLower, ih false hrest]
    next hword =>
      split
      next hskip =>
        subst hskip
        exact ih true
      next hskip =>
        have hwritten : isIdentifierSeparator
            (if isIdentifierSeparator byte then byte else 45) = true := by
          split
          next hsep => exact hsep
          next => rfl
        rw [rdropWhile_cons]
        split
        next => simp
        next hrest =>
          intro _
          simp [plainFrom, separator_not_word _ hwritten, hwritten, hskip, ih true hrest]

theorem plain_normalizeIdentifier (h : normalizeIdentifier value ≠ []) :
    Plain (normalizeIdentifier value) := by
  rw [normalizeIdentifier_eq] at h ⊢
  exact plain_identifierTail value true h

theorem plain_ne_nil {value : Bytes} (h : Plain value) : value ≠ [] := by
  rintro rfl
  cases h

/-! ## Matching -/

/-- The normalised spelling is among the values just when one of them is plain and names the same
identifier. -/
theorem normalized_mem_iff :
    (normalizeIdentifier value ≠ [] ∧ normalizeIdentifier value ∈ values) ↔
      ∃ other ∈ values, Plain other ∧ SameIdentifier other value := by
  unfold SameIdentifier
  constructor
  · rintro ⟨hne, hmem⟩
    have hplain := plain_normalizeIdentifier value hne
    exact ⟨_, hmem, hplain, normalizeIdentifier_plain hplain⟩
  · rintro ⟨other, hmem, hplain, hsame⟩
    rw [normalizeIdentifier_plain hplain] at hsame
    rw [← hsame]
    exact ⟨plain_ne_nil hplain, hmem⟩

theorem normalized_mem_lower_iff :
    (normalizeIdentifier value ≠ [] ∧
        lower (normalizeIdentifier value) ∈ values.map lower) ↔
      ∃ other ∈ values, Plain (lower other) ∧ SameIdentifier other value := by
  have hsame : ∀ other : Bytes, SameIdentifier (lower other) value ↔ SameIdentifier other value := by
    intro other
    rw [SameIdentifier, normalizeIdentifier_lower]
    rfl
  have hmem := normalized_mem_iff value (values.map lower)
  simp only [List.mem_map, exists_exists_and_eq_and, hsame] at hmem
  rw [← hmem]
  refine and_congr_right fun hne => ?_
  rw [lower_plain _ true (plain_normalizeIdentifier value hne), List.mem_map]

end Dasall.Knowledge.Query
