import Dasall.Knowledge.Query.NormalizedText

/-!
# Normalising twice

What the normalizer writes it leaves as it is when it reads it again, apart from the domain tags: a
tag is replaced by what it is an alias for once, and that may be an alias as well.
-/

open Dasall.Lib Dasall.Lib.Ascii Dasall.Lib.Text

namespace Dasall.Knowledge.Query

variable {policy : QueryNormalizePolicy} {query : KnowledgeQuery} {normalized : NormalizedQuery}

/-! ## The text -/

/-- What the loop appends, at the start or behind a space or not. -/
def textTail (behindSpace : Bool) : Bytes → Bytes
  | [] => []
  | byte :: rest =>
    if isSpace byte then
      if behindSpace then textTail true rest else 32 :: textTail true rest
    else toLower byte :: textTail false rest

/-- Words without upper case, and single spaces behind them. -/
def spacedFrom (behindSpace : Bool) : Bytes → Bool
  | [] => true
  | byte :: rest =>
    if byte = 32 then !behindSpace && spacedFrom true rest
    else !isSpace byte && !isUpper byte && spacedFrom false rest

theorem lowered (byte : Byte) : (if byte < 128 then toLower byte else byte) = toLower byte := by
  split
  · rfl
  · next hhigh =>
    rw [lt_128_iff] at hhigh
    exact (toLower_high byte (by omega)).symm

theorem canonicalTextLoop_eq (text canonicalText : Bytes) (previousWasSpace : Bool)
    (h : canonicalText = [] → previousWasSpace = true) :
    canonicalTextLoop canonicalText previousWasSpace text =
      canonicalText ++ textTail previousWasSpace text := by
  induction text generalizing canonicalText previousWasSpace with
  | nil => simp [canonicalTextLoop, textTail]
  | cons byte rest ih =>
    unfold canonicalTextLoop textTail
    split
    · cases previousWasSpace with
      | true =>
        simp only [Bool.not_true, Bool.and_false, Bool.false_eq_true, if_false, if_true]
        exact ih canonicalText true fun _ => rfl
      | false =>
        have hne : canonicalText ≠ [] := fun hempty => by simpa using h hempty
        simp only [List.isEmpty_eq_false_iff.mpr hne, Bool.not_false, Bool.and_self, if_true,
          Bool.false_eq_true, if_false]
        rw [ih _ true fun _ => rfl]
        simp
    · rw [lowered, ih _ false (by simp)]
      simp

theorem isSpace_toLower (byte : Byte) : isSpace (toLower byte) = isSpace byte := by
  by_cases hupper : isUpper byte = true
  · have hword : isWordByte byte = true := isAlnum_word byte (by simp [isAlnum, isAlpha, hupper])
    have hlower := isWordByte_toLower byte
    rw [hword] at hlower
    simp only [isWordByte, Bool.and_eq_true, Bool.not_eq_true'] at hword hlower
    rw [hword.1, hlower.1]
  · simp [toLower, hupper]

theorem spacedFrom_textTail (behindSpace : Bool) (text : Bytes) :
    spacedFrom behindSpace (textTail behindSpace text) = true := by
  induction text generalizing behindSpace with
  | nil => rfl
  | cons byte rest ih =>
    unfold textTail
    split
    · split
      · next hbehind =>
        subst hbehind
        exact ih true
      · next hword =>
        simp [spacedFrom, hword, ih true]
    · next hspace =>
      rw [← isSpace_toLower] at hspace
      have hne : toLower byte ≠ 32 := by
        intro hsame
        rw [hsame] at hspace
        exact hspace rfl
      simp [spacedFrom, hne, hspace, isUpper_toLower, ih false]

variable {behindSpace : Bool}

theorem textTail_spaced {text : Bytes}
    (h : spacedFrom behindSpace text = true) : textTail behindSpace text = text := by
  induction text generalizing behindSpace with
  | nil => rfl
  | cons byte rest ih =>
    unfold spacedFrom at h
    unfold textTail
    by_cases hblank : byte = 32
    · subst hblank
      simp only [if_true, Bool.and_eq_true, Bool.not_eq_true'] at h
      rw [h.1, if_pos (by decide), if_neg (by simp), ih h.2]
    · simp only [hblank, if_false, Bool.and_eq_true, Bool.not_eq_true'] at h
      rw [h.1.1, if_neg (by simp), ih h.2]
      simp [toLower, h.1.2]

theorem spacedFrom_append {front back : Bytes}
    (h : spacedFrom behindSpace (front ++ back) = true) : spacedFrom behindSpace front = true := by
  induction front generalizing behindSpace with
  | nil => rfl
  | cons byte rest ih =>
    rw [List.cons_append] at h
    unfold spacedFrom at h ⊢
    split
    · next hblank =>
      simp only [hblank, if_true, Bool.and_eq_true] at h ⊢
      exact ⟨h.1, ih h.2⟩
    · next hblank =>
      simp only [hblank, if_false, Bool.and_eq_true] at h ⊢
      exact ⟨h.1, ih h.2⟩

theorem prefix_spacedFrom {front text : Bytes} (hfront : front <+: text)
    (h : spacedFrom behindSpace text = true) : spacedFrom behindSpace front = true := by
  obtain ⟨back, rfl⟩ := hfront
  exact spacedFrom_append h

/-- What the normalizer takes for a text in its own spelling. -/
structure CanonicalText (policy : QueryNormalizePolicy) (text : Bytes) : Prop where
  spaced : spacedFrom true text = true
  trimmed : trimSpaces text = text
  length : text.length ≤ policy.maxQueryTextBytes.toNat

theorem safeLengthFrom_le (text : Bytes) (length : Nat) : safeLengthFrom text length ≤ length := by
  induction length with
  | zero => exact le_refl 0
  | succ length ih =>
    unfold safeLengthFrom
    split
    · omega
    · exact le_refl _

theorem prefix_trimSpaces (text : Bytes) : trimSpaces text <+: text := List.rdropWhile_prefix _ text

theorem canonicalText_canonicalizeText (queryText : Bytes) (warnings : List Bytes) :
    CanonicalText policy (canonicalizeText policy queryText warnings).1 := by
  have hloop : canonicalTextLoop [] true queryText = textTail true queryText := by
    simpa using canonicalTextLoop_eq queryText [] true fun _ => rfl
  have hspaced : spacedFrom true (trimSpaces (textTail true queryText)) = true :=
    prefix_spacedFrom (prefix_trimSpaces _) (spacedFrom_textTail true queryText)
  unfold canonicalizeText
  simp only [hloop]
  split
  · next hlong =>
    have hcut := List.take_prefix
      (utf8SafePrefixLength (trimSpaces (textTail true queryText)) policy.maxQueryTextBytes.toNat)
      (trimSpaces (textTail true queryText))
    have htrim := prefix_trimSpaces ((trimSpaces (textTail true queryText)).take
      (utf8SafePrefixLength (trimSpaces (textTail true queryText)) policy.maxQueryTextBytes.toNat))
    refine ⟨prefix_spacedFrom (htrim.trans hcut) hspaced, List.rdropWhile_idempotent _ _, ?_⟩
    have hle := htrim.length_le
    have hsafe := safeLengthFrom_le (trimSpaces (textTail true queryText))
      policy.maxQueryTextBytes.toNat
    rw [List.length_take] at hle
    simp only
    unfold utf8SafePrefixLength at hle ⊢
    rw [if_neg (by omega)] at hle ⊢
    omega
  · next hshort =>
    refine ⟨hspaced, List.rdropWhile_idempotent _ _, ?_⟩
    simp only
    omega

theorem canonicalizeText_fixed {text : Bytes} (h : CanonicalText policy text)
    (warnings : List Bytes) : canonicalizeText policy text warnings = (text, warnings) := by
  have hloop : canonicalTextLoop [] true text = text := by
    rw [canonicalTextLoop_eq text [] true fun _ => rfl, textTail_spaced h.spaced]
    rfl
  unfold canonicalizeText
  simp only [hloop, h.trimmed]
  rw [if_neg (by have := h.length; omega)]

/-! ## Tags and corpora -/

/-- Identifiers in the normalizer's spelling, each once. -/
structure CanonicalValues (values : List Bytes) : Prop where
  nodup : values.Nodup
  fixed : ∀ value ∈ values, value ≠ [] ∧ normalizeIdentifier value = value

variable {values : List Bytes}

theorem appendUnique_nodup (h : values.Nodup) (value : Bytes) :
    (appendUnique values value).Nodup := by
  unfold appendUnique
  split
  · exact h
  · next hnew =>
    rw [List.contains_iff_mem] at hnew
    rw [List.nodup_append]
    refine ⟨h, by simp, ?_⟩
    rintro first hfirst second hsecond rfl
    rw [List.mem_singleton] at hsecond
    exact hnew (hsecond ▸ hfirst)

theorem canonicalizeStep_nodup (values : List Bytes) (found : List Bytes × Bool)
    (h : found.1.Nodup) : (values.foldl canonicalizeStep found).1.Nodup := by
  induction values generalizing found with
  | nil => exact h
  | cons value values ih =>
    rw [List.foldl_cons]
    apply ih
    unfold canonicalizeStep
    simp only
    split
    · exact h
    · exact appendUnique_nodup h _

theorem normalizeIdentifier_fixed {value : Bytes} (h : normalizeIdentifier value ≠ []) :
    normalizeIdentifier (normalizeIdentifier value) = normalizeIdentifier value :=
  normalizeIdentifier_plain (plain_normalizeIdentifier value h)

theorem canonicalValues_canonicalizeValues (values : List Bytes) :
    CanonicalValues (canonicalizeValues values).1 := by
  refine ⟨canonicalizeStep_nodup values ([], false) List.nodup_nil, ?_⟩
  intro value hmem
  obtain ⟨hne, other, -, rfl⟩ := (mem_canonicalizeValues values value).mp hmem
  exact ⟨hne, normalizeIdentifier_fixed hne⟩

theorem canonicalizeValues_fixed (h : CanonicalValues values) :
    canonicalizeValues values = (values, false) := by
  have hloop : ∀ rest front : List Bytes, CanonicalValues (front ++ rest) →
      rest.foldl canonicalizeStep (front, false) = (front ++ rest, false) := by
    intro rest
    induction rest with
    | nil => simp
    | cons value rest ih =>
      intro front hvalues
      obtain ⟨hne, hfixed⟩ := hvalues.fixed value (by simp)
      have hnew : value ∉ front := fun hold =>
        (List.nodup_append.mp hvalues.nodup).2.2 value hold value (by simp) rfl
      have hassoc : front ++ value :: rest = front ++ [value] ++ rest := by simp
      rw [List.foldl_cons]
      have hstep : canonicalizeStep (front, false) value = (front ++ [value], false) := by
        unfold canonicalizeStep appendUnique
        simp only [hfixed, List.isEmpty_eq_false_iff.mpr hne, Bool.false_eq_true, if_false]
        rw [if_neg (mt List.contains_iff_mem.mp hnew)]
      rw [hstep, hassoc, ih _ (hassoc ▸ hvalues)]
  exact hloop values [] h

variable (allowed : List Bytes)

variable (warning : Bytes)

/-- What is allowed is kept in its order, each value once. -/
theorem foldl_filterStep_sublist (values : List Bytes)
    (found : List Bytes × List Bytes) :
    ∃ kept, kept.Sublist values ∧
      (values.foldl (filterStep allowed warning) found).1 = found.1 ++ kept ∧
      (found.1.Nodup → (found.1 ++ kept).Nodup) := by
  induction values generalizing found with
  | nil => exact ⟨[], by simp⟩
  | cons value values ih =>
    rw [List.foldl_cons]
    obtain ⟨kept, hsub, hkept, hnodup⟩ := ih (filterStep allowed warning found value)
    rw [hkept]
    unfold filterStep appendUnique at hnodup ⊢
    split at hnodup
    · next hclosed => exact ⟨kept, hsub.cons value, by rw [if_pos hclosed], hnodup⟩
    · next hopen =>
      rw [if_neg hopen]
      simp only at hnodup ⊢
      by_cases hold : value ∈ found.1
      · rw [if_pos (List.contains_iff_mem.mpr hold)] at hnodup ⊢
        exact ⟨kept, hsub.cons value, rfl, hnodup⟩
      · rw [if_neg (mt List.contains_iff_mem.mp hold)] at hnodup ⊢
        refine ⟨value :: kept, hsub.cons_cons value, by simp, fun hfound => ?_⟩
        have hsnoc : (found.1 ++ [value]).Nodup := by
          have := appendUnique_nodup hfound value
          rwa [appendUnique, if_neg (mt List.contains_iff_mem.mp hold)] at this
        simpa using hnodup hsnoc

theorem filterAllowed_sublist
    (values warnings : List Bytes) :
    (filterAllowed allowed warning values warnings).1.Sublist values ∧
      (filterAllowed allowed warning values warnings).1.Nodup := by
  obtain ⟨kept, hsub, hkept, hnodup⟩ := foldl_filterStep_sublist allowed warning values ([], warnings)
  rw [filterAllowed, hkept, List.nil_append]
  exact ⟨hsub, by simpa using hnodup List.nodup_nil⟩

/-- Nothing is filtered where everything is allowed, and no warning is given. -/
theorem filterAllowed_allowed {allowed : List Bytes} (warning : Bytes) {values : List Bytes}
    (hallowed : allowed = [] ∨ ∀ value ∈ values, value ∈ allowed) (warnings : List Bytes) :
    (filterAllowed allowed warning values warnings).2 = warnings ∧
      (values.Nodup → (filterAllowed allowed warning values warnings).1 = values) := by
  have hstep : ∀ value ∈ values, ∀ found,
      filterStep allowed warning found value = (appendUnique found.1 value, found.2) := by
    intro value hmem found
    unfold filterStep
    rw [if_neg]
    rcases hallowed with rfl | hall
    · simp
    · simp [hall value hmem]
  have hloop : ∀ rest front : List Bytes, (∀ value ∈ rest, value ∈ values) →
      (rest.foldl (filterStep allowed warning) (front, warnings)).2 = warnings ∧
        ((front ++ rest).Nodup →
          (rest.foldl (filterStep allowed warning) (front, warnings)).1 = front ++ rest) := by
    intro rest
    induction rest with
    | nil => simp
    | cons value rest ih =>
      intro front hin
      rw [List.forall_mem_cons] at hin
      rw [List.foldl_cons, hstep value hin.1]
      refine ⟨(ih _ hin.2).1, fun hnodup => ?_⟩
      have hnew : value ∉ front := fun hold =>
        (List.nodup_append.mp hnodup).2.2 value hold value (by simp) rfl
      have hassoc : front ++ value :: rest = front ++ [value] ++ rest := by simp
      have happend : appendUnique front value = front ++ [value] := by
        rw [appendUnique, if_neg (mt List.contains_iff_mem.mp hnew)]
      simp only [happend]
      rw [(ih _ hin.2).2 (hassoc ▸ hnodup), hassoc]
  exact ⟨(hloop values [] fun _ h => h).1, fun hnodup => (hloop values [] fun _ h => h).2 hnodup⟩

/-! ## What a second pass makes of them -/

/-- What a tag is replaced by. -/
def resolvedTag (policy : QueryNormalizePolicy) (tag : Bytes) : Bytes :=
  (resolveTagAlias policy.domainTagAliases tag).getD tag

theorem canonicalValues_normalizeTags (h : policy.hasConsistentValues = true)
    (tags warnings : List Bytes) (dropped filtered : Bytes) :
    CanonicalValues (normalizeTags policy tags warnings dropped filtered).1 := by
  refine ⟨(filterAllowed_sublist ..).2, ?_⟩
  intro value hmem
  obtain ⟨tag, -, hnamed, -, rfl⟩ := (mem_normalizeTags h tags warnings dropped filtered value).mp hmem
  have hne := (normalizeIdentifier_ne_nil _).mpr (named_aliasTarget h tag hnamed)
  exact ⟨hne, normalizeIdentifier_fixed hne⟩

/-- An alias stands for a tag that is allowed, so that no tag is filtered out again. -/
theorem resolvedTag_allowed (h : policy.hasConsistentValues = true) {tag : Bytes}
    (hallowed : (canonicalizeValues policy.allowedDomainTags).1 = [] ∨
      tag ∈ (canonicalizeValues policy.allowedDomainTags).1) :
    (canonicalizeValues policy.allowedDomainTags).1 = [] ∨
      resolvedTag policy tag ∈ (canonicalizeValues policy.allowedDomainTags).1 := by
  unfold resolvedTag resolveTagAlias
  cases hfound : policy.domainTagAliases.entries.find? fun entry =>
      normalizeIdentifier entry.1 == tag with
  | none => exact hallowed
  | some entry =>
    simp only [QueryNormalizePolicy.hasConsistentValues, Bool.and_eq_true, List.all_eq_true] at h
    have hentry := (h.2 entry (List.mem_of_find?_eq_some hfound)).2
    simpa using hentry

/-- Nothing is dropped or filtered. The tags are the same exactly when none is an alias. -/
theorem normalizeTags_again (h : policy.hasConsistentValues = true)
    (tags warnings : List Bytes) (dropped filtered : Bytes) (again : List Bytes) :
    let produced := (normalizeTags policy tags warnings dropped filtered).1
    (normalizeTags policy produced again dropped filtered).2 = again ∧
      ((normalizeTags policy produced again dropped filtered).1 = produced ↔
        ∀ tag ∈ produced, resolvedTag policy tag = tag) := by
  intro produced
  have hcanonical : CanonicalValues produced :=
    canonicalValues_normalizeTags h tags warnings dropped filtered
  have hproduced : ∀ tag ∈ produced, (canonicalizeValues policy.allowedDomainTags).1 = [] ∨
      tag ∈ (canonicalizeValues policy.allowedDomainTags).1 := by
    intro tag hmem
    exact ((mem_filterAllowed _ _ _ _ tag).mp hmem).2
  have hallowed : (canonicalizeValues policy.allowedDomainTags).1 = [] ∨
      ∀ tag ∈ produced.map (resolvedTag policy),
        tag ∈ (canonicalizeValues policy.allowedDomainTags).1 := by
    by_cases hnone : (canonicalizeValues policy.allowedDomainTags).1 = []
    · exact .inl hnone
    · refine .inr fun tag hmem => ?_
      obtain ⟨other, hother, rfl⟩ := List.mem_map.mp hmem
      exact (resolvedTag_allowed h (hproduced other hother)).resolve_left hnone
  have hagain : normalizeTags policy produced again dropped filtered =
      filterAllowed (canonicalizeValues policy.allowedDomainTags).1 filtered
        (produced.map (resolvedTag policy)) again := by
    unfold normalizeTags
    rw [canonicalizeValues_fixed hcanonical]
    rfl
  rw [hagain]
  obtain ⟨hwarnings, hsame⟩ := filterAllowed_allowed filtered hallowed again
  refine ⟨hwarnings, ?_, ?_⟩
  · intro heq
    have hsub := (filterAllowed_sublist (canonicalizeValues policy.allowedDomainTags).1 filtered
      (produced.map (resolvedTag policy)) again).1
    rw [heq] at hsub
    have hmap := hsub.eq_of_length (by rw [List.length_map])
    intro tag hmem
    have hfixed : produced.map (resolvedTag policy) = produced.map id := by rw [← hmap, List.map_id]
    exact List.map_inj_left.mp hfixed tag hmem
  · intro hfixed
    have hmap : produced.map (resolvedTag policy) = produced := by
      rw [List.map_congr_left hfixed, List.map_id']
    rw [hmap] at hsame ⊢
    exact hsame hcanonical.nodup

theorem normalizeAllowedCorpora_again (h : policy.hasConsistentValues = true)
    (corpora warnings again : List Bytes) :
    CanonicalValues (normalizeAllowedCorpora policy corpora warnings).1 ∧
      normalizeAllowedCorpora policy (normalizeAllowedCorpora policy corpora warnings).1 again =
        ((normalizeAllowedCorpora policy corpora warnings).1, again) := by
  have hcanonical : CanonicalValues (normalizeAllowedCorpora policy corpora warnings).1 := by
    refine ⟨(filterAllowed_sublist ..).2, ?_⟩
    intro value hmem
    obtain ⟨corpus, -, hnamed, -, rfl⟩ :=
      (mem_normalizeAllowedCorpora h corpora warnings value).mp hmem
    have hne := (normalizeIdentifier_ne_nil corpus).mpr hnamed
    exact ⟨hne, normalizeIdentifier_fixed hne⟩
  refine ⟨hcanonical, ?_⟩
  have hallowed : (canonicalizeValues policy.allowedCorpora).1 = [] ∨
      ∀ value ∈ (normalizeAllowedCorpora policy corpora warnings).1,
        value ∈ (canonicalizeValues policy.allowedCorpora).1 := by
    by_cases hnone : (canonicalizeValues policy.allowedCorpora).1 = []
    · exact .inl hnone
    · refine .inr fun value hmem => ?_
      exact ((mem_filterAllowed _ _ _ _ value).mp hmem).2.resolve_left hnone
  obtain ⟨hwarnings, hsame⟩ :=
    filterAllowed_allowed (str "allowed_corpus_filtered_allowlist") hallowed again
  generalize (normalizeAllowedCorpora policy corpora warnings).1 = produced at *
  unfold normalizeAllowedCorpora
  rw [canonicalizeValues_fixed hcanonical]
  exact Prod.ext (hsame hcanonical.nodup) hwarnings

theorem normalizeRequiredTags_again {tags required : List Bytes}
    (h : normalizeRequiredTags tags = some required) :
    CanonicalValues required ∧ normalizeRequiredTags required = some required := by
  have hrequired : required = (canonicalizeValues tags).1 := by
    unfold normalizeRequiredTags at h
    simp only at h
    split at h
    · simp at h
    · exact (Option.some.inj h).symm
  have hcanonical : CanonicalValues required := by
    rw [hrequired]
    exact canonicalValues_canonicalizeValues tags
  refine ⟨hcanonical, ?_⟩
  unfold normalizeRequiredTags
  rw [canonicalizeValues_fixed hcanonical]
  rfl

theorem normalizeRequiredLanguage_again (language : Option Bytes) :
    normalizeRequiredLanguage language ≠ some [] ∧
      normalizeRequiredLanguage (normalizeRequiredLanguage language) =
        normalizeRequiredLanguage language := by
  cases language with
  | none => simp [normalizeRequiredLanguage]
  | some value =>
    by_cases hempty : normalizeIdentifier value = []
    · simp [normalizeRequiredLanguage, hempty]
    · simp [normalizeRequiredLanguage, hempty, normalizeIdentifier_fixed hempty]

/-! ## Terms, bounds and warnings -/

theorem mem_appendUniqueIf {condition : Bool} {values : List Bytes} {value other : Bytes}
    (h : other ∈ appendUniqueIf condition values value) : other ∈ values ∨ other = value := by
  unfold appendUniqueIf at h
  split at h
  · exact (mem_appendUnique values value other).mp h
  · exact .inl h

theorem appendUniqueIf_nodup (h : values.Nodup) (condition : Bool)
    (value : Bytes) : (appendUniqueIf condition values value).Nodup := by
  unfold appendUniqueIf
  split
  · exact appendUnique_nodup h value
  · exact h

/-- What happens to the terms, and to the warnings apart from them. -/
structure TermsKept (terms warnings : List Bytes) (after after' : List Bytes × List Bytes) :
    Prop where
  same : after.1 = after'.1
  termsOnce : terms.Nodup → after.1.Nodup
  warningsOnce : warnings.Nodup → after.2.Nodup
  mem : ∀ warning ∈ after.2, warning ∈ warnings ∨ warning = str "lexical_terms_clamped"

theorem flushCurrentTerm_kept (currentTerm : Bytes) (terms warnings warnings' : List Bytes) :
    TermsKept terms warnings (flushCurrentTerm policy currentTerm terms warnings)
      (flushCurrentTerm policy currentTerm terms warnings') := by
  unfold flushCurrentTerm
  split
  · exact ⟨rfl, fun h => h, fun h => h, fun _ hmem => .inl hmem⟩
  · next hnew =>
  split
  · refine ⟨rfl, fun h => ?_, fun h => h, fun _ hmem => .inl hmem⟩
    rw [Bool.or_eq_true, not_or] at hnew
    have := appendUnique_nodup h currentTerm
    rwa [appendUnique, if_neg hnew.2] at this
  · refine ⟨rfl, fun h => h, fun h => appendUnique_nodup h _, fun warning hmem => ?_⟩
    exact (mem_appendUnique _ _ warning).mp hmem

theorem lexicalTermsLoop_kept (text currentTerm : Bytes) (terms warnings warnings' : List Bytes) :
    TermsKept terms warnings (lexicalTermsLoop policy currentTerm terms warnings text)
      (lexicalTermsLoop policy currentTerm terms warnings' text) := by
  induction text generalizing currentTerm terms warnings warnings' with
  | nil => exact flushCurrentTerm_kept currentTerm terms warnings warnings'
  | cons byte rest ih =>
    unfold lexicalTermsLoop
    split
    · exact ih _ terms warnings warnings'
    · have hflush := @flushCurrentTerm_kept policy currentTerm terms warnings warnings'
      simp only
      rw [← hflush.same]
      have hrest := ih [] (flushCurrentTerm policy currentTerm terms warnings).1
        (flushCurrentTerm policy currentTerm terms warnings).2
        (flushCurrentTerm policy currentTerm terms warnings').2
      refine ⟨hrest.same, fun h => hrest.termsOnce (hflush.termsOnce h),
        fun h => hrest.warningsOnce (hflush.warningsOnce h), fun warning hmem => ?_⟩
      rcases hrest.mem warning hmem with hold | hclamped
      · exact hflush.mem warning hold
      · exact .inr hclamped

theorem clampBound_spec {default policyMaximum : UInt64} (hdefault : 0 < default)
    (hmaximum : 0 < policyMaximum) (asked : UInt64) (defaulted clamped : Bytes)
    (warnings : List Bytes) :
    0 < (clampBound asked default policyMaximum defaulted clamped warnings).1 ∧
      (warnings.Nodup →
        (clampBound asked default policyMaximum defaulted clamped warnings).2.Nodup) ∧
      ∀ warning ∈ (clampBound asked default policyMaximum defaulted clamped warnings).2,
        warning ∈ warnings ∨ warning = defaulted ∨ warning = clamped := by
  have hvalue : 0 < if asked = 0 then default else asked := by
    split
    · exact hdefault
    · next hasked => exact UInt64.pos_iff_ne_zero.mpr hasked
  have hceiling : 0 < min policyMaximum default := by
    rw [show min policyMaximum default =
      if policyMaximum ≤ default then policyMaximum else default from rfl]
    split
    · exact hmaximum
    · exact hdefault
  unfold clampBound
  simp only
  generalize (if asked = 0 then default else asked) = value at hvalue ⊢
  split
  · refine ⟨hceiling, fun h => appendUnique_nodup (appendUniqueIf_nodup h _ _) _,
      fun warning hmem => ?_⟩
    rcases (mem_appendUnique _ _ warning).mp hmem with hold | hclamped
    · rcases mem_appendUniqueIf hold with hbefore | hdefaulted
      · exact .inl hbefore
      · exact .inr (.inl hdefaulted)
    · exact .inr (.inr hclamped)
  · refine ⟨hvalue, fun h => appendUniqueIf_nodup h _ _, fun warning hmem => ?_⟩
    rcases mem_appendUniqueIf hmem with hbefore | hdefaulted
    · exact .inl hbefore
    · exact .inr (.inl hdefaulted)

theorem filterAllowed_warnings_nodup
    (values warnings : List Bytes) (h : warnings.Nodup) :
    (filterAllowed allowed warning values warnings).2.Nodup := by
  have hloop : ∀ found : List Bytes × List Bytes, found.2.Nodup →
      (values.foldl (filterStep allowed warning) found).2.Nodup := by
    induction values with
    | nil => exact fun _ hfound => hfound
    | cons value values ih =>
      intro found hfound
      rw [List.foldl_cons]
      apply ih
      unfold filterStep
      split
      · exact appendUnique_nodup hfound warning
      · exact hfound
  exact hloop ([], warnings) h

/-! ## The whole query -/

/-- Warnings about bounds. They do not say that a text, a tag or a filter was rewritten. -/
def boundWarnings : List Bytes :=
  [str "lexical_terms_clamped", str "top_k_defaulted", str "top_k_clamped",
    str "max_context_projection_items_defaulted", str "max_context_projection_items_clamped"]

/-- A query for what has been produced, with the same hints. -/
def askedAgain (query : KnowledgeQuery) (normalized : NormalizedQuery) : KnowledgeQuery :=
  { query with
    queryText := normalized.normalizedText
    domainTags := normalized.domainTags
    allowedCorpora := normalized.allowedCorpora
    requiredTags := normalized.requiredTags
    requiredLanguage := normalized.requiredLanguage }

/-- `has_error_shape`. The other parts of an error are always there. -/
def hasErrorShape (error : KnowledgeError) : Bool :=
  !error.message.isEmpty && !error.stage.isEmpty && !error.refId.isEmpty

/-- `NormalizeResult::has_consistent_values`. -/
def resultHasConsistentValues : Except KnowledgeError NormalizedQuery → Bool
  | .ok normalized => normalized.hasConsistentValues
  | .error error => hasErrorShape error

theorem defaults_pos (kind : KnowledgeQueryKind) :
    0 < (defaultsForQueryKind kind).maxTopK ∧
      0 < (defaultsForQueryKind kind).maxContextProjectionItems := by
  cases kind <;> decide

theorem policy_bounds (h : policy.hasConsistentValues = true) :
    0 < policy.maxTopK ∧ 0 < policy.maxContextProjectionItems := by
  simp only [QueryNormalizePolicy.hasConsistentValues, Bool.and_eq_true, bne_iff_ne, ne_eq] at h
  rw [UInt64.pos_iff_ne_zero, UInt64.pos_iff_ne_zero]
  exact ⟨h.1.1.1.1.1.1.2, h.1.1.1.1.1.2⟩

theorem canonicalizeText_warnings_nodup (text : Bytes) :
    (canonicalizeText policy text []).2.Nodup := by
  unfold canonicalizeText
  simp only
  split
  · exact appendUnique_nodup List.nodup_nil _
  · exact List.nodup_nil

/-- Every query that is produced is consistent. -/
theorem normalizedWith_consistent (h : Normalizable policy query) {required : List Bytes}
    (hrequired : normalizeRequiredTags query.requiredTags = some required) :
    (normalizedWith policy query required).hasConsistentValues = true := by
  obtain ⟨hdefaultK, hdefaultItems⟩ := defaults_pos query.queryKind
  obtain ⟨hmaximumK, hmaximumItems⟩ := policy_bounds h.consistent
  have hterms := @lexicalTermsLoop_kept policy
    (canonicalizeText policy query.queryText []).1 [] []
    (canonicalizeText policy query.queryText []).2 []
  have htermsWarnings := hterms.warningsOnce (canonicalizeText_warnings_nodup query.queryText)
  simp only [NormalizedQuery.hasConsistentValues, hasUniqueValues_iff, Bool.and_eq_true,
    Bool.not_eq_true', List.isEmpty_eq_false_iff, bne_iff_ne, ne_eq, decide_eq_true_eq]
  refine ⟨⟨⟨⟨⟨⟨⟨⟨⟨⟨⟨h.requestId, h.text⟩, h.terms⟩, h.queryKind⟩, ?_⟩, ?_⟩, ?_⟩, ?_⟩, ?_⟩, ?_⟩, ?_⟩, ?_⟩
  · exact (clampBound_spec hdefaultK hmaximumK ..).1
  · exact (clampBound_spec hdefaultItems hmaximumItems ..).1
  · exact hterms.termsOnce List.nodup_nil
  · exact (canonicalValues_normalizeTags h.consistent ..).nodup
  · exact (normalizeAllowedCorpora_again h.consistent _ _ []).1.nodup
  · exact (normalizeRequiredTags_again hrequired).1.nodup
  · exact (normalizeRequiredLanguage_again _).1
  · apply (clampBound_spec hdefaultItems hmaximumItems ..).2.1
    apply (clampBound_spec hdefaultK hmaximumK ..).2.1
    apply filterAllowed_warnings_nodup
    apply appendUniqueIf_nodup
    apply filterAllowed_warnings_nodup
    apply appendUniqueIf_nodup
    exact htermsWarnings

theorem hasErrorShape_of_error {error : KnowledgeError}
    (h : normalize policy query = .error error) : hasErrorShape error = true := by
  rcases normalize_cases policy query with ⟨refused, hrefused, hshape⟩ | ⟨hnormalizable, required, hrequired⟩
  · rw [hrefused] at h
    obtain rfl := Except.error.inj h
    exact hshape
  · rw [normalize_ok hnormalizable hrequired] at h
    cases h

theorem clampBound_fst (asked default policyMaximum : UInt64) (defaulted clamped : Bytes)
    (warnings warnings' : List Bytes) :
    (clampBound asked default policyMaximum defaulted clamped warnings).1 =
      (clampBound asked default policyMaximum defaulted clamped warnings').1 := by
  unfold clampBound
  simp only
  generalize (if asked = 0 then default else asked) = value
  split
  · rfl
  · rfl

theorem normalizable_again (h : Normalizable policy query) (required : List Bytes) :
    Normalizable policy (askedAgain query (normalizedWith policy query required)) := by
  have htext : canonicalizeText policy (normalizedWith policy query required).normalizedText [] =
      ((normalizedWith policy query required).normalizedText, []) :=
    canonicalizeText_fixed (canonicalText_canonicalizeText query.queryText []) []
  refine ⟨h.consistent, h.requestId, h.queryKind, ?_, ?_, ?_⟩
  · simp only [askedAgain, htext]
    exact h.text
  · simp only [askedAgain, htext]
    have hterms := @lexicalTermsLoop_kept policy
      (normalizedWith policy query required).normalizedText [] [] []
      (canonicalizeText policy query.queryText []).2
    unfold deriveLexicalTerms
    rw [hterms.same]
    exact h.terms
  · intro language hlanguage
    have hlanguage : normalizeRequiredLanguage query.requiredLanguage = some language := hlanguage
    have hagain := (normalizeRequiredLanguage_again query.requiredLanguage).2
    rw [hlanguage] at hagain
    rw [← normalizeIdentifier_ne_nil]
    intro hnil
    simp [normalizeRequiredLanguage, hnil] at hagain

theorem normalizedWith_again (h : Normalizable policy query) (required : List Bytes) :
    let normalized := normalizedWith policy query required
    let again := normalizedWith policy (askedAgain query normalized) required
    { again with domainTags := normalized.domainTags, warnings := normalized.warnings } =
        normalized ∧
      (∀ warning ∈ again.warnings, warning ∈ boundWarnings) ∧
      (again.domainTags = normalized.domainTags ↔
        ∀ tag ∈ normalized.domainTags, resolvedTag policy tag = tag) := by
  intro normalized again
  obtain ⟨hdefaultK, hdefaultItems⟩ := defaults_pos query.queryKind
  obtain ⟨hmaximumK, hmaximumItems⟩ := policy_bounds h.consistent
  have htext : canonicalizeText policy normalized.normalizedText [] =
      (normalized.normalizedText, []) :=
    canonicalizeText_fixed (canonicalText_canonicalizeText query.queryText []) []
  -- the terms of the second pass, with the warnings of the first one or without them
  have hterms := @lexicalTermsLoop_kept policy normalized.normalizedText [] [] []
    (canonicalizeText policy query.queryText []).2
  have htags := normalizeTags_again h.consistent query.domainTags
    (deriveLexicalTerms policy normalized.normalizedText
      (canonicalizeText policy query.queryText []).2).2
    (str "domain_tag_dropped_invalid") (str "domain_tag_filtered_allowlist")
    (deriveLexicalTerms policy normalized.normalizedText []).2
  have hcorpora : normalizeAllowedCorpora policy normalized.allowedCorpora
      (deriveLexicalTerms policy normalized.normalizedText []).2 =
        (normalized.allowedCorpora, (deriveLexicalTerms policy normalized.normalizedText []).2) :=
    (normalizeAllowedCorpora_again h.consistent query.allowedCorpora _ _).2
  have htagWarnings : (normalizeTags policy normalized.domainTags
      (deriveLexicalTerms policy normalized.normalizedText []).2
      (str "domain_tag_dropped_invalid") (str "domain_tag_filtered_allowlist")).2 =
        (deriveLexicalTerms policy normalized.normalizedText []).2 := htags.1
  have hlanguage : normalizeRequiredLanguage normalized.requiredLanguage =
      normalized.requiredLanguage := (normalizeRequiredLanguage_again query.requiredLanguage).2
  have hagain : again = _ := normalizedWith.eq_1 ..
  simp only [askedAgain, htext, htagWarnings, hcorpora, hlanguage] at hagain
  rw [hagain]
  refine ⟨?_, ?_, htags.2⟩
  · refine (NormalizedQuery.mk.injEq ..).mpr
      ⟨rfl, rfl, hterms.same, rfl, rfl, rfl, rfl, rfl, rfl, ?_, ?_, rfl, rfl, rfl⟩
    · exact clampBound_fst ..
    · exact clampBound_fst ..
  · intro warning hmem
    rcases (clampBound_spec hdefaultItems hmaximumItems ..).2.2 warning hmem with
      hbefore | rfl | rfl
    · rcases (clampBound_spec hdefaultK hmaximumK ..).2.2 warning hbefore with
        hterm | rfl | rfl
      · rcases hterms.mem warning hterm with hnone | rfl
        · simp at hnone
        · decide
      · decide
      · decide
    · decide
    · decide

/-- Every result is consistent, and what is produced is produced again: the same text and the same
filters, with nothing cut, dropped or filtered on the way. An alias is followed once, so the tags
are the same exactly when none of them is itself an alias. -/
theorem normalize_again (policy : QueryNormalizePolicy) (query : KnowledgeQuery) :
    resultHasConsistentValues (normalize policy query) = true ∧
      ∀ normalized, normalize policy query = .ok normalized →
        ∃ again, normalize policy (askedAgain query normalized) = .ok again ∧
          { again with domainTags := normalized.domainTags, warnings := normalized.warnings } =
            normalized ∧
          (∀ warning ∈ again.warnings, warning ∈ boundWarnings) ∧
          (again.domainTags = normalized.domainTags ↔
            ∀ tag ∈ normalized.domainTags, resolvedTag policy tag = tag) := by
  constructor
  · cases hresult : normalize policy query with
    | error error => exact hasErrorShape_of_error hresult
    | ok normalized =>
      obtain ⟨hnormalizable, required, hrequired, rfl⟩ := normalize_eq_ok_iff.mp hresult
      exact normalizedWith_consistent hnormalizable hrequired
  · intro normalized hresult
    obtain ⟨hnormalizable, required, hrequired, rfl⟩ := normalize_eq_ok_iff.mp hresult
    refine ⟨normalizedWith policy (askedAgain query (normalizedWith policy query required)) required,
      normalize_eq_ok_iff.mpr ⟨normalizable_again hnormalizable required, required, ?_, rfl⟩,
      normalizedWith_again hnormalizable required⟩
    exact (normalizeRequiredTags_again hrequired).2

/-- The tag `a` stands for `b`, and `b` for `c`. -/
def chainedPolicy : QueryNormalizePolicy :=
  { domainTagAliases := ⟨[(str "a", str "b"), (str "b", str "c")], by decide⟩ }

def chainedQuery (tag : String) : KnowledgeQuery :=
  { requestId := str "r"
    queryText := str " Disk  full "
    domainTags := [str tag] }

theorem normalize_again_unaliased :
    (∃ normalized, normalize chainedPolicy (chainedQuery "b") = .ok normalized ∧
      ∃ again, normalize chainedPolicy (askedAgain (chainedQuery "b") normalized) = .ok again ∧
        again.domainTags = normalized.domainTags) := by
  have hresult : ∃ normalized, normalize chainedPolicy (chainedQuery "b") = .ok normalized ∧
      normalized.domainTags = [str "c"] := ⟨_, rfl, by decide⟩
  obtain ⟨normalized, hok, htags⟩ := hresult
  obtain ⟨again, hagain, -, -, hsame⟩ :=
    (normalize_again chainedPolicy (chainedQuery "b")).2 normalized hok
  refine ⟨normalized, hok, again, hagain, hsame.mpr ?_⟩
  rw [htags]
  decide

theorem normalize_again_chained :
    ¬ ∀ normalized, normalize chainedPolicy (chainedQuery "a") = .ok normalized →
      ∃ again, normalize chainedPolicy (askedAgain (chainedQuery "a") normalized) = .ok again ∧
        again.domainTags = normalized.domainTags := by
  intro h
  have hresult : ∃ normalized, normalize chainedPolicy (chainedQuery "a") = .ok normalized ∧
      (normalize chainedPolicy (askedAgain (chainedQuery "a") normalized)).toOption.map
        (·.domainTags) ≠ some normalized.domainTags := ⟨_, rfl, by decide⟩
  obtain ⟨normalized, hok, hother⟩ := hresult
  obtain ⟨again, hagain, hsame⟩ := h normalized hok
  rw [hagain] at hother
  exact hother (congrArg some hsame)

end Dasall.Knowledge.Query
