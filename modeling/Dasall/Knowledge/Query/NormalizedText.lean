import Dasall.Knowledge.Query.QueryNormalizer
import Dasall.Lib.Utf8

/-!
# What the normalizer makes of tags and corpora

The tags and the corpora of a normalised query are those of the query that name something and are
on the lists of the policy, in the spelling of the normalizer.
-/

open Dasall.Lib Dasall.Lib.Ascii Dasall.Lib.Text Dasall.Lib.Utf8

namespace Dasall.Knowledge.Query

/-! ## Identifiers that name something -/

def Named (value : Bytes) : Prop := ∃ byte ∈ value, isWordByte byte = true

instance (value : Bytes) : Decidable (Named value) :=
  inferInstanceAs (Decidable (∃ byte ∈ value, isWordByte byte = true))

variable {policy : QueryNormalizePolicy} (b : Byte) (text value : Bytes) (behindSeparator : Bool)
  {query : KnowledgeQuery} {normalized : NormalizedQuery}

theorem identifierTail_named
    (h : Named value) : ∃ byte ∈ identifierTail behindSeparator value, isWordByte byte = true := by
  induction value generalizing behindSeparator with
  | nil =>
    obtain ⟨byte, hmem, -⟩ := h
    cases hmem
  | cons first rest ih =>
    unfold identifierTail
    split
    next hword => exact ⟨_, List.mem_cons_self, by rwa [isWordByte_toLower]⟩
    next hword =>
      have hrest : Named rest := by
        obtain ⟨byte, hmem, hbyte⟩ := h
        rcases List.mem_cons.mp hmem with rfl | hmem
        · exact absurd hbyte hword
        · exact ⟨byte, hmem, hbyte⟩
      split
      · exact ih true hrest
      · obtain ⟨byte, hmem, hbyte⟩ := ih true hrest
        exact ⟨byte, List.mem_cons_of_mem _ hmem, hbyte⟩

theorem identifierTail_unnamed (h : ¬ Named value) :
    identifierTail true value = [] := by
  induction value with
  | nil => rfl
  | cons first rest ih =>
    have hfirst : isWordByte first = false := by
      by_contra hword
      rw [Bool.not_eq_false] at hword
      exact h ⟨first, List.mem_cons_self, hword⟩
    have hrest : ¬ Named rest := fun ⟨byte, hmem, hbyte⟩ =>
      h ⟨byte, List.mem_cons_of_mem _ hmem, hbyte⟩
    simp [identifierTail, hfirst, ih hrest]

theorem normalizeIdentifier_ne_nil :
    normalizeIdentifier value ≠ [] ↔ Named value := by
  rw [normalizeIdentifier_eq]
  constructor
  · intro h
    by_contra hunnamed
    rw [identifierTail_unnamed value hunnamed] at h
    exact h rfl
  · intro h hnil
    obtain ⟨byte, hmem, hbyte⟩ := identifierTail_named value true h
    have hseparator := List.rdropWhile_eq_nil_iff.mp hnil byte hmem
    rw [separator_not_word byte hseparator] at hbyte
    cases hbyte

/-! ## The lists of the policy -/

/-- The value names an identifier of the list, where there is a list. -/
def Listed (list : List Bytes) (value : Bytes) : Prop :=
  list = [] ∨ ∃ other ∈ list, SameIdentifier other value

/-- The tag that the policy has the other one stand for, or else the tag itself. -/
def aliasTarget (aliases : OrderedMap Bytes Bytes) (tag : Bytes) : Bytes :=
  match aliases.entries.find? fun entry => decide (SameIdentifier entry.1 tag) with
  | some entry => entry.2
  | none => tag

theorem resolveTagAlias_eq (aliases : OrderedMap Bytes Bytes) (tag : Bytes) :
    (resolveTagAlias aliases (normalizeIdentifier tag)).getD (normalizeIdentifier tag) =
      normalizeIdentifier (aliasTarget aliases tag) := by
  have hfound : (fun entry : Bytes × Bytes =>
      normalizeIdentifier entry.1 == normalizeIdentifier tag) =
        fun entry => decide (SameIdentifier entry.1 tag) := by
    funext entry
    rw [Bool.eq_iff_iff, beq_iff_eq, decide_eq_true_iff]
    rfl
  unfold resolveTagAlias aliasTarget
  rw [hfound]
  cases aliases.entries.find? fun entry => decide (SameIdentifier entry.1 tag) <;> rfl

/-- The lists and the aliases of a consistent policy name something throughout. -/
theorem policy_named (h : policy.hasConsistentValues = true) :
    (∀ value ∈ policy.allowedDomainTags, Named value) ∧
      (∀ value ∈ policy.allowedCorpora, Named value) ∧
      ∀ entry ∈ policy.domainTagAliases.entries, Named entry.2 := by
  have hlist : ∀ values : List Bytes, (canonicalizeValues values).2 = false →
      ∀ value ∈ values, Named value := by
    intro values hvalid value hmem
    rw [← normalizeIdentifier_ne_nil]
    intro hnil
    have hinvalid := (canonicalizeValues_invalid values).mpr ⟨value, hmem, hnil⟩
    rw [hvalid] at hinvalid
    cases hinvalid
  simp only [QueryNormalizePolicy.hasConsistentValues, Bool.and_eq_true, Bool.not_eq_true',
    List.all_eq_true] at h
  obtain ⟨⟨⟨⟨⟨-, htags⟩, -⟩, hcorpora⟩, -⟩, haliases⟩ := h
  refine ⟨hlist _ htags, hlist _ hcorpora, ?_⟩
  intro entry hmem
  have hcanonical := (haliases entry hmem).1.2
  rw [← normalizeIdentifier_ne_nil]
  simpa using hcanonical

theorem mem_allowed_iff {list : List Bytes} (hnamed : ∀ other ∈ list, Named other) (value : Bytes)
    (hvalue : Named value) :
    ((canonicalizeValues list).1 = [] ∨ normalizeIdentifier value ∈ (canonicalizeValues list).1) ↔
      Listed list value := by
  have hnil : (canonicalizeValues list).1 = [] ↔ list = [] := by
    constructor
    · intro hempty
      by_contra hne
      obtain ⟨other, hmem⟩ := List.exists_mem_of_ne_nil list hne
      have hother : normalizeIdentifier other ∈ (canonicalizeValues list).1 := by
        rw [mem_canonicalizeValues]
        exact ⟨(normalizeIdentifier_ne_nil other).mpr (hnamed other hmem), other, hmem, rfl⟩
      rw [hempty] at hother
      cases hother
    · rintro rfl
      rfl
  rw [hnil, mem_canonicalizeValues, and_iff_right ((normalizeIdentifier_ne_nil value).mpr hvalue)]
  rfl

theorem named_aliasTarget (h : policy.hasConsistentValues = true) (tag : Bytes) (htag : Named tag) :
    Named (aliasTarget policy.domainTagAliases tag) := by
  unfold aliasTarget
  split
  next entry hentry => exact (policy_named h).2.2 entry (List.mem_of_find?_eq_some hentry)
  next => exact htag

/-! ## What is normalised -/

theorem mem_normalizeTags (h : policy.hasConsistentValues = true)
    (tags warnings : List Bytes) (dropped filtered other : Bytes) :
    other ∈ (normalizeTags policy tags warnings dropped filtered).1 ↔
      ∃ tag ∈ tags, Named tag ∧
        Listed policy.allowedDomainTags (aliasTarget policy.domainTagAliases tag) ∧
        normalizeIdentifier (aliasTarget policy.domainTagAliases tag) = other := by
  unfold normalizeTags
  simp only [mem_filterAllowed, List.mem_map, mem_canonicalizeValues tags]
  constructor
  · rintro ⟨⟨_, ⟨hne, tag, hmem, rfl⟩, rfl⟩, hallowed⟩
    rw [normalizeIdentifier_ne_nil] at hne
    rw [resolveTagAlias_eq] at hallowed ⊢
    rw [mem_allowed_iff (policy_named h).1 _ (named_aliasTarget h tag hne)] at hallowed
    exact ⟨tag, hmem, hne, hallowed, rfl⟩
  · rintro ⟨tag, hmem, hnamed, hlisted, rfl⟩
    rw [mem_allowed_iff (policy_named h).1 _ (named_aliasTarget h tag hnamed)]
    refine ⟨⟨normalizeIdentifier tag, ⟨?_, tag, hmem, rfl⟩, resolveTagAlias_eq _ tag⟩, hlisted⟩
    rwa [normalizeIdentifier_ne_nil]

theorem mem_normalizeAllowedCorpora
    (h : policy.hasConsistentValues = true) (corpora warnings : List Bytes) (other : Bytes) :
    other ∈ (normalizeAllowedCorpora policy corpora warnings).1 ↔
      ∃ corpus ∈ corpora, Named corpus ∧ Listed policy.allowedCorpora corpus ∧
        normalizeIdentifier corpus = other := by
  unfold normalizeAllowedCorpora
  simp only [mem_filterAllowed, mem_canonicalizeValues corpora]
  constructor
  · rintro ⟨⟨hne, corpus, hmem, rfl⟩, hallowed⟩
    rw [normalizeIdentifier_ne_nil] at hne
    rw [mem_allowed_iff (policy_named h).2.1 _ hne] at hallowed
    exact ⟨corpus, hmem, hne, hallowed, rfl⟩
  · rintro ⟨corpus, hmem, hnamed, hlisted, rfl⟩
    rw [mem_allowed_iff (policy_named h).2.1 _ hnamed, normalizeIdentifier_ne_nil]
    exact ⟨⟨hnamed, corpus, hmem, rfl⟩, hlisted⟩

theorem normalizeRequiredTags_eq_some (tags : List Bytes) :
    (∃ required, normalizeRequiredTags tags = some required) ↔ ∀ tag ∈ tags, Named tag := by
  have hinvalid := canonicalizeValues_invalid tags
  unfold normalizeRequiredTags
  simp only [← normalizeIdentifier_ne_nil]
  split
  next h =>
    obtain ⟨tag, hmem, hnil⟩ := hinvalid.mp h
    refine iff_of_false (by simp) fun hall => hall tag hmem hnil
  next h =>
    refine iff_of_true ⟨_, rfl⟩ fun tag hmem hnil => h (hinvalid.mpr ⟨tag, hmem, hnil⟩)

theorem mem_normalizeRequiredTags {tags required : List Bytes}
    (h : normalizeRequiredTags tags = some required) (other : Bytes) :
    other ∈ required ↔ ∃ tag ∈ tags, Named tag ∧ normalizeIdentifier tag = other := by
  unfold normalizeRequiredTags at h
  simp only at h
  split at h
  next => cases h
  next =>
    obtain rfl := Option.some.inj h
    rw [mem_canonicalizeValues]
    constructor
    · rintro ⟨hne, tag, hmem, rfl⟩
      exact ⟨tag, hmem, (normalizeIdentifier_ne_nil tag).mp hne, rfl⟩
    · rintro ⟨tag, hmem, hnamed, rfl⟩
      exact ⟨(normalizeIdentifier_ne_nil tag).mpr hnamed, tag, hmem, rfl⟩

/-- The query passes every check of the normalizer that is not about its tags. -/
structure Normalizable (policy : QueryNormalizePolicy) (query : KnowledgeQuery) : Prop where
  consistent : policy.hasConsistentValues = true
  requestId : query.requestId ≠ []
  queryKind : query.queryKind ≠ .multiHop
  text : (canonicalizeText policy query.queryText []).1 ≠ []
  terms : (deriveLexicalTerms policy (canonicalizeText policy query.queryText []).1
    (canonicalizeText policy query.queryText []).2).1 ≠ []
  language : ∀ language, query.requiredLanguage = some language → Named language

theorem normalizeRequiredLanguage_isNone (language : Option Bytes)
    (h : ∀ value, language = some value → Named value) :
    (language.isSome && (normalizeRequiredLanguage language).isNone) = false := by
  cases language with
  | none => rfl
  | some value =>
    have hne := (normalizeIdentifier_ne_nil value).mpr (h value rfl)
    simp [normalizeRequiredLanguage, hne]

/-- What a query that passes every check is turned into. -/
def normalizedWith (policy : QueryNormalizePolicy) (query : KnowledgeQuery)
    (requiredTags : List Bytes) : NormalizedQuery :=
  let text := canonicalizeText policy query.queryText []
  let terms := deriveLexicalTerms policy text.1 text.2
  let defaults := defaultsForQueryKind query.queryKind
  let tags := normalizeTags policy query.domainTags terms.2 (str "domain_tag_dropped_invalid")
    (str "domain_tag_filtered_allowlist")
  let corpora := normalizeAllowedCorpora policy query.allowedCorpora tags.2
  let topK := clampBound query.topK defaults.maxTopK policy.maxTopK
    (str "top_k_defaulted") (str "top_k_clamped") corpora.2
  let items := clampBound query.maxContextProjectionItems
    defaults.maxContextProjectionItems policy.maxContextProjectionItems
    (str "max_context_projection_items_defaulted") (str "max_context_projection_items_clamped")
    topK.2
  { requestId := query.requestId
    normalizedText := text.1
    lexicalTerms := terms.1
    preferredMode := query.preferredMode
    domainTags := tags.1
    allowedCorpora := corpora.1
    requiredTags
    requiredLanguage := normalizeRequiredLanguage query.requiredLanguage
    queryKind := query.queryKind
    topK := topK.1
    maxContextProjectionItems := items.1
    preferExactMatch := defaults.preferExactMatch
    allowStale := query.allowStale
    warnings := items.2 }

theorem named_of_language (language : Option Bytes)
    (h : ¬(language.isSome && (normalizeRequiredLanguage language).isNone) = true) :
    ∀ value, language = some value → Named value := by
  rintro value rfl
  rw [← normalizeIdentifier_ne_nil]
  intro hnil
  simp [normalizeRequiredLanguage, hnil] at h

theorem normalize_ok (h : Normalizable policy query) {required : List Bytes}
    (hrequired : normalizeRequiredTags query.requiredTags = some required) :
    normalize policy query = .ok (normalizedWith policy query required) := by
  have hlanguage := normalizeRequiredLanguage_isNone query.requiredLanguage h.language
  unfold normalize
  simp only [h.consistent, h.requestId, h.queryKind, h.text, h.terms, hlanguage, hrequired,
    List.isEmpty_iff, Bool.not_true, Bool.false_eq_true, if_false]
  rfl

/-- A query that is refused gets an error with a message, a stage and a reference. -/
theorem normalize_cases (policy : QueryNormalizePolicy) (query : KnowledgeQuery) :
    (∃ error, normalize policy query = .error error ∧
      (!error.message.isEmpty && !error.stage.isEmpty && !error.refId.isEmpty) = true) ∨
    Normalizable policy query ∧
      ∃ required, normalizeRequiredTags query.requiredTags = some required := by
  unfold normalize
  by_cases hconsistent : policy.hasConsistentValues = true
  swap
  · simp only [hconsistent, Bool.not_false, if_true]
    exact Or.inl ⟨_, rfl, by decide⟩
  by_cases hid : query.requestId = []
  · simp only [hconsistent, hid, List.isEmpty_nil, Bool.not_true, Bool.false_eq_true, if_false,
      if_true]
    exact Or.inl ⟨_, rfl, by decide⟩
  by_cases hkind : query.queryKind = .multiHop
  · simp only [hconsistent, hid, hkind, List.isEmpty_iff, Bool.not_true, Bool.false_eq_true,
      if_false, if_true]
    exact Or.inl ⟨_, rfl, by decide⟩
  by_cases htext : (canonicalizeText policy query.queryText []).1 = []
  · simp only [hconsistent, hid, hkind, htext, List.isEmpty_iff, Bool.not_true,
      Bool.false_eq_true, if_false, if_true]
    exact Or.inl ⟨_, rfl, by decide⟩
  by_cases hterms : (deriveLexicalTerms policy (canonicalizeText policy query.queryText []).1
      (canonicalizeText policy query.queryText []).2).1 = []
  · simp only [hconsistent, hid, hkind, htext, hterms, List.isEmpty_iff, Bool.not_true,
      Bool.false_eq_true, if_false, if_true]
    exact Or.inl ⟨_, rfl, by decide⟩
  simp only [hconsistent, hid, hkind, htext, hterms, List.isEmpty_iff, Bool.not_true,
    Bool.false_eq_true, if_false]
  cases hrequired : normalizeRequiredTags query.requiredTags with
  | none => exact Or.inl ⟨_, rfl, by decide⟩
  | some required =>
    dsimp only
    split
    · exact Or.inl ⟨_, rfl, by decide⟩
    · next hlanguage =>
      exact Or.inr ⟨⟨hconsistent, hid, hkind, htext, hterms, named_of_language _ hlanguage⟩, required,
        rfl⟩

theorem normalize_eq_ok_iff :
    normalize policy query = .ok normalized ↔ Normalizable policy query ∧
      ∃ required, normalizeRequiredTags query.requiredTags = some required ∧
        normalized = normalizedWith policy query required := by
  constructor
  · intro h
    rcases normalize_cases policy query with ⟨error, herror, -⟩ | ⟨hnormalizable, required, hrequired⟩
    · rw [herror] at h
      cases h
    · rw [normalize_ok hnormalizable hrequired] at h
      exact ⟨hnormalizable, required, hrequired, (Except.ok.inj h).symm⟩
  · rintro ⟨h, required, hrequired, rfl⟩
    exact normalize_ok h hrequired

/-- Where the strings of a normalised query come from. -/
structure NormalizedFrom (policy : QueryNormalizePolicy) (query : KnowledgeQuery)
    (normalized : NormalizedQuery) : Prop where
  consistent : policy.hasConsistentValues = true
  text : normalized.normalizedText = (canonicalizeText policy query.queryText []).1
  terms : ∃ warnings, normalized.lexicalTerms =
    (deriveLexicalTerms policy normalized.normalizedText warnings).1
  domainTags : ∃ warnings dropped filtered, normalized.domainTags =
    (normalizeTags policy query.domainTags warnings dropped filtered).1
  allowedCorpora : ∃ warnings, normalized.allowedCorpora =
    (normalizeAllowedCorpora policy query.allowedCorpora warnings).1
  requiredTags : normalizeRequiredTags query.requiredTags = some normalized.requiredTags
  requiredLanguage : normalized.requiredLanguage = normalizeRequiredLanguage query.requiredLanguage

theorem normalizedFrom_of_ok (h : normalize policy query = .ok normalized) :
    NormalizedFrom policy query normalized := by
  obtain ⟨hnormalizable, required, hrequired, rfl⟩ := normalize_eq_ok_iff.mp h
  exact ⟨hnormalizable.consistent, rfl, ⟨_, rfl⟩, ⟨_, _, _, rfl⟩, ⟨_, rfl⟩, hrequired, rfl⟩

theorem normalize_ok_iff (h : Normalizable policy query) :
    (∃ normalized, normalize policy query = .ok normalized) ↔
      ∃ required, normalizeRequiredTags query.requiredTags = some required := by
  constructor
  · rintro ⟨normalized, hnormalized⟩
    exact ⟨_, (normalizedFrom_of_ok hnormalized).requiredTags⟩
  · rintro ⟨required, hrequired⟩
    exact ⟨_, normalize_eq_ok_iff.mpr ⟨h, required, hrequired, rfl⟩⟩

/-!
## The normalizer keeps UTF-8

It rewrites ASCII characters only, and looks for the start of a character where it cuts.
-/

/-! ## Bytes -/

theorem isSpace_ascii (h : isSpace b = true) : b.toNat < 0x80 := by
  simp only [isSpace, Bool.or_eq_true, beq_iff_eq, Bool.and_eq_true, decide_eq_true_eq] at h
  rcases h with rfl | h
  · decide
  · omega

theorem toLower_ascii (h : b.toNat < 0x80) : (toLower b).toNat < 0x80 := by
  rw [toLower_toNat]
  split
  next hupper =>
    simp only [isUpper, Bool.and_eq_true, decide_eq_true_eq] at hupper
    omega
  next => exact h

theorem toLower_high (h : 0x80 ≤ b.toNat) : toLower b = b := by
  have hupper : isUpper b = false := by
    simp only [isUpper, Bool.and_eq_false_iff, decide_eq_false_iff_not]
    omega
  simp [toLower, hupper]

theorem isSpace_high (h : 0x80 ≤ b.toNat) : isSpace b = false := by
  by_contra hspace
  rw [Bool.not_eq_false] at hspace
  have hlow := isSpace_ascii b hspace
  omega

theorem isWordByte_high (h : 0x80 ≤ b.toNat) : isWordByte b = true := by
  have hpunct : isPunct b = false := by
    simp only [isPunct, Bool.and_eq_false_iff, decide_eq_false_iff_not]
    omega
  simp [isWordByte, isSpace_high b h, hpunct]

theorem separator_ascii (h : isIdentifierSeparator b = true) : b.toNat < 0x80 := by
  simp only [isIdentifierSeparator, Bool.or_eq_true, beq_iff_eq] at h
  rcases h with rfl | rfl <;> decide

theorem lt_128_iff : b < 128 ↔ b.toNat < 0x80 := UInt8.lt_iff_toNat_lt

theorem mask_continuation (h : ¬ b &&& 0xC0 = 0x80) : isContinuation b = false := by
  have hall : ∀ n < 256, ¬ n &&& 0xC0 = 0x80 → ¬ (0x80 ≤ n ∧ n < 0xC0) := by
    decide +kernel
  have hnot : ¬ b.toNat &&& 0xC0 = 0x80 := by
    intro hmask
    apply h
    apply UInt8.toNat_inj.mp
    rw [UInt8.toNat_and]
    exact hmask
  have hrange := hall b.toNat b.toNat_lt hnot
  simp only [isContinuation, Bool.and_eq_false_iff, decide_eq_false_iff_not]
  omega

/-! ## Identifiers -/

theorem identifierTail_edit :
    AsciiEdit value (identifierTail behindSeparator value) := by
  induction value generalizing behindSeparator with
  | nil => exact .nil
  | cons byte rest ih =>
    unfold identifierTail
    by_cases hlow : byte.toNat < 0x80
    · split
      · exact .replace byte [_] hlow (by simpa using toLower_ascii byte hlow) (ih false)
      split
      · exact .replace byte [] hlow (by simp) (ih true)
      · refine .replace byte [_] hlow ?_ (ih true)
        simp only [List.mem_singleton, forall_eq]
        split
        · exact hlow
        · decide
    · rw [if_pos (isWordByte_high byte (by omega)), toLower_high byte (by omega)]
      exact .keep byte (by omega) (ih false)

theorem valid_normalizeIdentifier {value : Bytes} (h : Valid value) :
    Valid (normalizeIdentifier value) := by
  rw [normalizeIdentifier_eq]
  exact (h.edit (identifierTail_edit value true)).rdropWhile separator_ascii

/-! ## The text -/

theorem canonicalTextLoop_edit (canonicalText : Bytes) (previousWasSpace : Bool) :
    ∃ out, canonicalTextLoop canonicalText previousWasSpace text = canonicalText ++ out ∧
      AsciiEdit text out := by
  induction text generalizing canonicalText previousWasSpace with
  | nil => exact ⟨[], by simp [canonicalTextLoop], .nil⟩
  | cons byte rest ih =>
    unfold canonicalTextLoop
    split
    next hspace =>
      have hlow := isSpace_ascii byte hspace
      split
      · obtain ⟨out, hout, hedit⟩ := ih (canonicalText ++ [32]) true
        refine ⟨[32] ++ out, ?_, .replace byte [32] hlow (by decide) hedit⟩
        rw [hout, List.append_assoc]
      · obtain ⟨out, hout, hedit⟩ := ih canonicalText true
        exact ⟨out, hout, .replace byte [] hlow (by simp) hedit⟩
    next =>
      obtain ⟨out, hout, hedit⟩ := ih (canonicalText ++ [if byte < 128 then toLower byte else byte])
        false
      refine ⟨(if byte < 128 then toLower byte else byte) :: out, ?_, ?_⟩
      · rw [hout, List.append_assoc, List.singleton_append]
      · split
        next hlow =>
          rw [lt_128_iff] at hlow
          exact .replace byte [_] hlow (by simpa using toLower_ascii byte hlow) hedit
        next hhigh =>
          rw [lt_128_iff] at hhigh
          exact .keep byte (by omega) hedit

theorem valid_trimSpaces {value : Bytes} (h : Valid value) : Valid (trimSpaces value) := by
  apply h.rdropWhile
  intro b hb
  rw [beq_iff_eq] at hb
  rw [hb]
  decide

theorem safeLengthFrom_boundary (length : Nat) (hlength : length < text.length) :
    safeLengthFrom text length = 0 ∨ OnBoundary text (safeLengthFrom text length) := by
  induction length with
  | zero => exact Or.inl rfl
  | succ length ih =>
    unfold safeLengthFrom
    split
    · exact ih (by omega)
    next hstart =>
      right
      intro b hb
      rw [List.head?_drop, List.getElem?_eq_getElem hlength, Option.mem_some_iff] at hb
      rw [List.getD_eq_getElem?_getD, List.getElem?_eq_getElem hlength, Option.getD_some, hb]
        at hstart
      exact mask_continuation b hstart

theorem valid_take_safePrefix {text : Bytes} (h : Valid text) (maxBytes : Nat) :
    Valid (text.take (utf8SafePrefixLength text maxBytes)) := by
  unfold utf8SafePrefixLength
  split
  · rwa [List.take_of_length_le (Nat.le_refl _)]
  next hlong =>
    rcases safeLengthFrom_boundary text maxBytes (by omega) with hzero | hboundary
    · rw [hzero]
      exact valid_nil
    · exact (h.take_iff _).mpr hboundary

theorem valid_canonicalizeText (policy : QueryNormalizePolicy) {queryText : Bytes}
    (h : Valid queryText) (warnings : List Bytes) :
    Valid (canonicalizeText policy queryText warnings).1 := by
  obtain ⟨out, hout, hedit⟩ := canonicalTextLoop_edit queryText [] true
  have htrimmed : Valid (trimSpaces (canonicalTextLoop [] true queryText)) := by
    rw [hout, List.nil_append]
    exact valid_trimSpaces (h.edit hedit)
  unfold canonicalizeText
  dsimp only
  split
  · exact valid_trimSpaces (valid_take_safePrefix htrimmed _)
  · exact htrimmed

/-! ## Lexical terms -/

theorem flushCurrentTerm_valid (policy : QueryNormalizePolicy) (currentTerm : Bytes)
    (lexicalTerms warnings : List Bytes) (hcurrent : Valid currentTerm)
    (hterms : ∀ term ∈ lexicalTerms, Valid term) :
    ∀ term ∈ (flushCurrentTerm policy currentTerm lexicalTerms warnings).1, Valid term := by
  unfold flushCurrentTerm
  split
  · exact hterms
  split
  · intro term hterm
    rcases List.mem_append.mp hterm with hold | hnew
    · exact hterms term hold
    · rw [List.mem_singleton.mp hnew]
      exact hcurrent
  · exact hterms

theorem lexicalTermsLoop_high (policy : QueryNormalizePolicy) (bytes rest currentTerm : Bytes)
    (lexicalTerms warnings : List Bytes) (h : ∀ b ∈ bytes, 0x80 ≤ b.toNat) :
    lexicalTermsLoop policy currentTerm lexicalTerms warnings (bytes ++ rest) =
      lexicalTermsLoop policy (currentTerm ++ bytes) lexicalTerms warnings rest := by
  induction bytes generalizing currentTerm with
  | nil => simp
  | cons b bytes ih =>
    obtain ⟨hb, hbytes⟩ := List.forall_mem_cons.mp h
    have hhigh : 128 ≤ b := UInt8.le_iff_toNat_le.mpr hb
    have hnot : ¬ b < 128 := by
      rw [lt_128_iff]
      omega
    rw [List.cons_append, lexicalTermsLoop, if_pos (by simp [hhigh]), if_neg hnot, ih _ hbytes,
      List.append_assoc, List.singleton_append]

theorem lexicalTermsLoop_valid (policy : QueryNormalizePolicy) {text : Bytes} (h : Valid text)
    (currentTerm : Bytes) (lexicalTerms warnings : List Bytes) (hcurrent : Valid currentTerm)
    (hterms : ∀ term ∈ lexicalTerms, Valid term) :
    ∀ term ∈ (lexicalTermsLoop policy currentTerm lexicalTerms warnings text).1, Valid term := by
  obtain ⟨chars, rfl⟩ := h
  induction chars generalizing currentTerm lexicalTerms warnings with
  | nil => exact flushCurrentTerm_valid policy currentTerm lexicalTerms warnings hcurrent hterms
  | cons c chars ih =>
    rw [List.flatMap_cons]
    rcases encode_ascii_or c with ⟨a, ha, hencode⟩ | hhigh
    · rw [hencode, List.singleton_append, lexicalTermsLoop]
      split
      · rw [if_pos ((lt_128_iff a).mpr ha)]
        refine ih _ lexicalTerms warnings (hcurrent.append ?_) hterms
        exact valid_ascii _ (by simpa using toLower_ascii a ha)
      · exact ih [] _ _ valid_nil
          (flushCurrentTerm_valid policy currentTerm lexicalTerms warnings hcurrent hterms)
    · rw [lexicalTermsLoop_high policy _ _ _ _ _ hhigh]
      exact ih _ lexicalTerms warnings (hcurrent.append (valid_encode c)) hterms

/-! ## The whole query -/

/-- The strings of the query that are searched for. -/
structure ValidQuery (query : KnowledgeQuery) : Prop where
  queryText : Valid query.queryText
  domainTags : ∀ tag ∈ query.domainTags, Valid tag
  allowedCorpora : ∀ corpus ∈ query.allowedCorpora, Valid corpus
  requiredTags : ∀ tag ∈ query.requiredTags, Valid tag
  requiredLanguage : ∀ language ∈ query.requiredLanguage, Valid language

structure ValidNormalized (normalized : NormalizedQuery) : Prop where
  normalizedText : Valid normalized.normalizedText
  lexicalTerms : ∀ term ∈ normalized.lexicalTerms, Valid term
  domainTags : ∀ tag ∈ normalized.domainTags, Valid tag
  allowedCorpora : ∀ corpus ∈ normalized.allowedCorpora, Valid corpus
  requiredTags : ∀ tag ∈ normalized.requiredTags, Valid tag
  requiredLanguage : ∀ language ∈ normalized.requiredLanguage, Valid language

/-- The tags that stand in for the domain tags of the query are valid. -/
def AliasTargetsValid (policy : QueryNormalizePolicy) (query : KnowledgeQuery) : Prop :=
  ∀ tag ∈ query.domainTags, Named tag →
    Listed policy.allowedDomainTags (aliasTarget policy.domainTagAliases tag) →
      Valid (normalizeIdentifier (aliasTarget policy.domainTagAliases tag))

theorem aliasTargetsValid_of_none (policy : QueryNormalizePolicy) (query : KnowledgeQuery)
    (hquery : ValidQuery query) (h : policy.domainTagAliases.entries = []) :
    AliasTargetsValid policy query := by
  intro tag hmem _ _
  have htarget : aliasTarget policy.domainTagAliases tag = tag := by simp [aliasTarget, h]
  rw [htarget]
  exact valid_normalizeIdentifier (hquery.domainTags tag hmem)

theorem validNormalized_iff (hquery : ValidQuery query)
    (h : normalize policy query = .ok normalized) :
    ValidNormalized normalized ↔ AliasTargetsValid policy query := by
  have hfrom := normalizedFrom_of_ok h
  obtain ⟨warnings, dropped, filtered, hdomain⟩ := hfrom.domainTags
  have htags : (∀ tag ∈ normalized.domainTags, Valid tag) ↔ AliasTargetsValid policy query := by
    rw [hdomain]
    simp only [mem_normalizeTags hfrom.consistent]
    constructor
    · intro hall tag hmem hnamed hlisted
      exact hall _ ⟨tag, hmem, hnamed, hlisted, rfl⟩
    · rintro hall _ ⟨tag, hmem, hnamed, hlisted, rfl⟩
      exact hall tag hmem hnamed hlisted
  rw [← htags]
  refine ⟨ValidNormalized.domainTags, fun hvalid => ⟨?_, ?_, hvalid, ?_, ?_, ?_⟩⟩
  · rw [hfrom.text]
    exact valid_canonicalizeText policy hquery.queryText []
  · obtain ⟨later, hterms⟩ := hfrom.terms
    rw [hterms]
    refine lexicalTermsLoop_valid policy ?_ [] [] later valid_nil (by simp)
    rw [hfrom.text]
    exact valid_canonicalizeText policy hquery.queryText []
  · obtain ⟨later, hcorpora⟩ := hfrom.allowedCorpora
    rw [hcorpora]
    intro corpus hmem
    obtain ⟨asked, hasked, -, -, rfl⟩ := (mem_normalizeAllowedCorpora hfrom.consistent ..).mp hmem
    exact valid_normalizeIdentifier (hquery.allowedCorpora asked hasked)
  · intro tag hmem
    obtain ⟨asked, hasked, -, rfl⟩ := (mem_normalizeRequiredTags hfrom.requiredTags tag).mp hmem
    exact valid_normalizeIdentifier (hquery.requiredTags asked hasked)
  · rw [hfrom.requiredLanguage]
    intro language hlanguage
    simp only [normalizeRequiredLanguage, Option.mem_def, Option.bind_eq_some_iff] at hlanguage
    obtain ⟨asked, hasked, hsome⟩ := hlanguage
    split at hsome
    next => cases hsome
    next =>
      rw [← Option.some.inj hsome]
      exact valid_normalizeIdentifier (hquery.requiredLanguage asked hasked)

end Dasall.Knowledge.Query
