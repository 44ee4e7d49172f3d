import Dasall.Infra.Diagnostics.Types
import Dasall.Lib.Markers

/-!
# Redaction of a diagnostics snapshot

The strict profile rewrites actor, arguments and summary to fixed texts. The compatibility profile
keeps the summary with its deny-listed tokens masked and rewrites the values of arguments. Evidence
references keep their scheme and have their tokens masked under both.
-/

open Dasall.Contracts Dasall.Lib.Text Dasall.Lib.Ascii Dasall.Lib.Markers
open Dasall.Lib.Separated (prefix_takeWhile_iff)

namespace Dasall.Infra.Diagnostics

open Dasall.Infra.Policy (ResultCode classifyResultCode)

def kRedactionSourceRef : Bytes := str "RedactionEngine"

def kDenyListTokens : List Bytes :=
  [str "secret", str "password", str "token", str "authorization", str "cookie", str "apikey",
    str "credential"]

def kAllowedEvidenceSchemes : List Bytes :=
  [str "logs://", str "metrics://", str "health://", str "errors://", str "command://",
    str "snapshot://", str "export://", str "error://"]

def containsDenyToken (value : Bytes) : Bool :=
  kDenyListTokens.any fun token => (findFirst token (lower value)).isSome

/-! ## Masking -/

/-- `std::string::replace`, where `position` is in the text. -/
def replaceAt (text : Bytes) (position count : Nat) (replacement : Bytes) : Bytes :=
  text.take position ++ replacement ++ text.drop (position + count)

/-- The state of the replacement loop: the value, its lowered copy and the last find. -/
structure Replacing where
  value : Bytes
  lowered : Bytes
  position : Option Nat

/-- The loop of `replace_case_insensitive_all`. `none` is a loop that does not come to its end. -/
def replaceLoop (token replacement : Bytes) : Nat → Replacing → Option Bytes
  | 0, _ => none
  | fuel + 1, state =>
    match state.position with
    | none => some state.value
    | some position =>
      let lowered := replaceAt state.lowered position token.length (lower replacement)
      replaceLoop token replacement fuel
        { value := replaceAt state.value position token.length replacement
          lowered
          position := find lowered (lower token) (position + replacement.length) }

def replaceCaseInsensitiveAll (value token replacement : Bytes) : Option Bytes :=
  replaceLoop token replacement (value.length + 1)
    { value, lowered := lower value, position := find (lower value) (lower token) 0 }

def maskDenyTokens (value : Bytes) : Option Bytes :=
  kDenyListTokens.foldlM
    (fun value token => replaceCaseInsensitiveAll value token (str "[REDACTED]")) value

/-! ## Fields -/

def isSupportedProfile (profile : RedactionProfile) : Bool :=
  profile = .strict || profile = .compatibility

def isAllowedEvidenceRef (ref : Bytes) : Bool :=
  if (str "raw://").isPrefixOf ref || (str "inline://").isPrefixOf ref ||
      (str "data:").isPrefixOf ref then false
  else kAllowedEvidenceSchemes.any fun scheme => scheme.isPrefixOf ref

def canonicalSummary (commandName : Bytes) : Bytes :=
  if commandName = str "health.snapshot" then str "diagnostics redacted health snapshot"
  else if commandName = str "queue.stats" then str "diagnostics redacted queue stats"
  else str "diagnostics redacted thread dump"

def strictArgs (command : DiagnosticsCommand) : List Bytes :=
  if command.commandName = str "health.snapshot" then [str "--summary"]
  else if command.commandName = str "queue.stats" then [str "--queue=redacted"]
  else [str "--limit=5"]

/-- What `compat_args` makes of one argument. -/
def compatArg (argument : Bytes) : Option Bytes :=
  if !(str "--").isPrefixOf argument then none
  else if !containsDenyToken argument then some argument
  else
    match findFirst (str "=") argument with
    | none => none
    | some delimiter => some (argument.take (delimiter + 1) ++ str "redacted")

def compatArgs (args : List Bytes) : Option (List Bytes) := args.mapM compatArg

/-- The references, or `none` for a reference that may not be kept. The outer `none` is a loop that
does not come to its end. -/
def redactEvidenceRefs : List Bytes → Option (Option (List Bytes))
  | [] => some (some [])
  | evidenceRef :: evidenceRefs =>
    if !isAllowedEvidenceRef evidenceRef then some none
    else do
      let masked ← maskDenyTokens evidenceRef
      let redactedRefs ← redactEvidenceRefs evidenceRefs
      pure (redactedRefs.map (masked :: ·))

/-! ## Snapshots -/

structure RedactionOutcome where
  redacted : Bool := false
  snapshot : DiagnosticsSnapshot
  resultCode : ResultCode := .runtimeRetryExhausted
  error : Option ErrorInfo
deriving DecidableEq

def RedactionOutcome.success (snapshot : DiagnosticsSnapshot) : RedactionOutcome :=
  { redacted := true, snapshot, resultCode := .runtimeRetryExhausted, error := none }

def RedactionOutcome.failure (resultCode : ResultCode) (message stage sourceRef : Bytes) :
    RedactionOutcome :=
  { redacted := false
    snapshot := .empty
    resultCode
    error := some (makeErrorInfo resultCode message stage sourceRef) }

/-- The failures of `redact`, which differ in their message only. -/
def redactionFailure (message : Bytes) : RedactionOutcome :=
  .failure (mapDiagnosticsErrorCode .redactionFail) message (str "diagnostics.redact")
    kRedactionSourceRef

namespace RedactionEngine

def redact (snapshot : DiagnosticsSnapshot) : Option RedactionOutcome :=
  if !isSupportedProfile snapshot.redactionProfile then
    some (redactionFailure (str "diagnostics redaction requires strict or compat profile"))
  else if snapshot.exporterHint ≠ str "local_file" then
    some (redactionFailure (str "diagnostics redaction only permits local_file exporter hints"))
  else do
    let redactedEvidenceRefs ← redactEvidenceRefs snapshot.evidenceRefs
    match redactedEvidenceRefs with
    | none =>
      pure (redactionFailure (str
        "diagnostics redaction requires reference-only evidence refs with controlled schemes"))
    | some redactedEvidenceRefs =>
      let actorless := { snapshot.command with actorRef := str "actor://redacted" }
      if snapshot.redactionProfile = .strict then
        pure (.success { snapshot with
          command := { actorless with args := strictArgs actorless }
          evidenceRefs := redactedEvidenceRefs
          summary := canonicalSummary actorless.commandName })
      else
        match compatArgs actorless.args with
        | none =>
          pure (redactionFailure (str
            "diagnostics compat redaction could not stabilize command args"))
        | some compatRedactedArgs =>
          let summary ← maskDenyTokens snapshot.summary
          if summary.isEmpty || containsDenyToken summary then
            pure (redactionFailure (str
              "diagnostics compat redaction could not remove sensitive summary tokens"))
          else
            pure (.success { snapshot with
              command := { actorless with args := compatRedactedArgs }
              evidenceRefs := redactedEvidenceRefs
              summary })

end RedactionEngine

/-! ## What masking writes -/

theorem replaceAt_lower (text : Bytes) (position count : Nat) (replacement : Bytes) :
    replaceAt (lower text) position count (lower replacement) =
      lower (replaceAt text position count replacement) := by
  simp [replaceAt, lower, List.map_take, List.map_drop]

theorem replaceAt_written (written rest : Bytes) (place count : Nat) (replacement : Bytes) :
    replaceAt (written ++ rest) (written.length + place) count replacement =
      (written ++ rest.take place ++ replacement) ++ rest.drop (place + count) := by
  unfold replaceAt
  rw [Nat.add_assoc, List.take_length_add_append, List.drop_length_add_append, List.append_assoc,
    List.append_assoc]

variable (token : Bytes) (evidenceRefs : List Bytes) (separator : Byte) (argument : Bytes)
  (snapshot : DiagnosticsSnapshot) (value first : Bytes) (args : List Bytes) (second : Bytes)

theorem replaceLoop_spec (replacement : Bytes) (hempty : token ≠ [])
    (hlower : lower token = token) (fuel : Nat) (written rest : Bytes) (hfuel : rest.length < fuel) :
    replaceLoop token replacement fuel
        { value := written ++ rest
          lowered := lower (written ++ rest)
          position := find (lower (written ++ rest)) token written.length } =
      some (written ++ replaceAll toLower token replacement 0 rest) := by
  induction fuel generalizing written rest with
  | zero => omega
  | succ fuel ih =>
    have hfind : find (lower (written ++ rest)) token written.length =
        (findFirst token (rest.map toLower)).map (written.length + ·) := by
      simp [find, lower]
    rw [replaceLoop, hfind]
    rcases hfound : findFirst token (rest.map toLower) with _ | place
    · rw [replaceAll_of_findFirst_none rest hfound]
      rfl
    · obtain ⟨hlength, hreplaced⟩ :=
        replaceAll_of_findFirst_some hempty rest place hfound
      have hpos := List.length_pos_iff.mpr hempty
      have hwritten := replaceAt_written written rest place token.length replacement
      have hnext : written.length + place + replacement.length =
          (written ++ rest.take place ++ replacement).length := by
        simp [List.length_take]
        omega
      dsimp only [Option.map_some]
      rw [replaceAt_lower, hlower, hwritten, hnext, ih _ _ (by rw [List.length_drop]; omega),
        hreplaced]
      simp

set_option maxRecDepth 2000 in
theorem denyListTokens_fenced (h : token ∈ kDenyListTokens) :
    Fenced toLower (str "[REDACTED]") token ∧ lower token = token := by
  have hall : ∀ token ∈ kDenyListTokens, token ≠ [] ∧
      (∀ item ∈ (str "[REDACTED]").head?, toLower item ∉ token) ∧
      (∀ item ∈ (str "[REDACTED]").getLast?, toLower item ∉ token) ∧
      findFirst token ((str "[REDACTED]").map toLower) = none ∧ lower token = token := by decide
  obtain ⟨hempty, hopening, hclosing, hinner, hlower⟩ := hall token h
  rw [findFirst_eq_none_iff] at hinner
  exact ⟨⟨hempty, by decide, hopening, hclosing, hinner⟩, hlower⟩

/-- The text with each token of the list masked, one token after another. -/
def mask (value : Bytes) : Bytes := maskAll toLower (str "[REDACTED]") kDenyListTokens value

theorem maskDenyTokens_spec : maskDenyTokens value = some (mask value) := by
  have hall : ∀ tokens : List Bytes, (∀ token ∈ tokens, token ∈ kDenyListTokens) →
      ∀ value, tokens.foldlM (fun value token =>
        replaceCaseInsensitiveAll value token (str "[REDACTED]")) value =
          some (maskAll toLower (str "[REDACTED]") tokens value) := by
    intro tokens htokens
    induction tokens with
    | nil => intro value; rfl
    | cons token tokens ih =>
      intro value
      obtain ⟨hfenced, hlower⟩ := denyListTokens_fenced token (htokens token List.mem_cons_self)
      have hone : replaceCaseInsensitiveAll value token (str "[REDACTED]") =
          some (replaceAll toLower token (str "[REDACTED]") 0 value) := by
        have hloop := replaceLoop_spec token (str "[REDACTED]") hfenced.nonempty hlower
          (value.length + 1) [] value (by omega)
        rw [List.nil_append, List.nil_append] at hloop
        rw [replaceCaseInsensitiveAll, hlower]
        exact hloop
      rw [List.foldlM_cons, hone]
      exact ih (fun other hother => htokens other (List.mem_cons_of_mem token hother)) _
  exact hall kDenyListTokens (fun _ h => h) value

/-! ## Deny-listed tokens -/

/-- No token of the deny list stands in the text, in any letter case. -/
def Undisclosed (value : Bytes) : Prop := ∀ token ∈ kDenyListTokens, ¬ token <:+: lower value

theorem containsDenyToken_eq_false_iff :
    containsDenyToken value = false ↔ Undisclosed value := by
  simp only [containsDenyToken, Undisclosed, List.any_eq_false, Bool.not_eq_true,
    Option.isSome_eq_false_iff, Option.isNone_iff_eq_none, findFirst_eq_none_iff]

theorem mask_undisclosed : Undisclosed (mask value) := by
  intro token htoken
  apply maskAll_removes _ value token htoken
  intro other hother
  exact (denyListTokens_fenced other hother).1

@[simp] theorem mask_mask : mask (mask value) = mask value :=
  maskAll_maskAll (fun token htoken => (denyListTokens_fenced token htoken).1) value

/-- A byte that no token has. -/
def Plain (item : Byte) : Prop := ∀ token ∈ kDenyListTokens, toLower item ∉ token

instance (item : Byte) : Decidable (Plain item) :=
  inferInstanceAs (Decidable (∀ token ∈ kDenyListTokens, toLower item ∉ token))

theorem mask_append_cons (item : Byte) (hitem : Plain item) (first second : Bytes) :
    mask (first ++ item :: second) = mask first ++ item :: mask second := by
  apply maskAll_append_cons item
  intro token htoken
  exact ⟨(denyListTokens_fenced token htoken).1.nonempty, hitem token htoken⟩

/-! ## Evidence references -/

theorem isAllowedEvidenceRef_scheme (scheme : Bytes) (h : scheme ∈ kAllowedEvidenceSchemes)
    (rest : Bytes) : isAllowedEvidenceRef (scheme ++ rest) = true := by
  simp only [kAllowedEvidenceSchemes, List.mem_cons, List.not_mem_nil, or_false] at h
  rcases h with rfl | rfl | rfl | rfl | rfl | rfl | rfl | rfl <;> rfl

theorem isAllowedEvidenceRef_mask (ref : Bytes) (h : isAllowedEvidenceRef ref = true) :
    isAllowedEvidenceRef (mask ref) = true := by
  unfold isAllowedEvidenceRef at h
  split at h
  · simp at h
  · obtain ⟨scheme, hscheme, hlead⟩ := List.any_eq_true.mp h
    obtain ⟨rest, rfl⟩ := List.isPrefixOf_iff_prefix.mp hlead
    have hall : ∀ scheme ∈ kAllowedEvidenceSchemes,
        scheme = scheme.dropLast ++ [47] ∧ mask scheme.dropLast = scheme.dropLast := by
      decide
    obtain ⟨hlast, hmask⟩ := hall scheme hscheme
    have hmasked : mask (scheme ++ rest) = scheme ++ mask rest := by
      rw [hlast, List.append_assoc, List.singleton_append, mask_append_cons 47 (by decide), hmask]
      simp
    rw [hmasked]
    exact isAllowedEvidenceRef_scheme scheme hscheme _

theorem isAllowedEvidenceRef_append_cons :
    isAllowedEvidenceRef (first ++ 61 :: second) = isAllowedEvidenceRef first := by
  have hlead : ∀ scheme : Bytes, 61 ∉ scheme →
      scheme.isPrefixOf (first ++ 61 :: second) = scheme.isPrefixOf first := by
    intro scheme hscheme
    rw [Bool.eq_iff_iff, List.isPrefixOf_iff_prefix, List.isPrefixOf_iff_prefix,
      prefix_append_cons hscheme]
  unfold isAllowedEvidenceRef
  rw [hlead _ (by decide), hlead _ (by decide), hlead _ (by decide)]
  have hany : (kAllowedEvidenceSchemes.any fun scheme =>
      scheme.isPrefixOf (first ++ 61 :: second)) =
      kAllowedEvidenceSchemes.any fun scheme => scheme.isPrefixOf first := by
    have hschemes : ∀ scheme ∈ kAllowedEvidenceSchemes, 61 ∉ scheme := by decide
    rw [Bool.eq_iff_iff, List.any_eq_true, List.any_eq_true]
    apply exists_congr
    intro scheme
    apply and_congr_right
    intro hscheme
    rw [hlead scheme (hschemes scheme hscheme)]
  rw [hany]

/-- The references with their tokens masked, where each of them may be kept. -/
def keptRefs (evidenceRefs : List Bytes) : Option (List Bytes) :=
  if evidenceRefs.all isAllowedEvidenceRef then some (evidenceRefs.map mask) else none

theorem redactEvidenceRefs_spec :
    redactEvidenceRefs evidenceRefs = some (keptRefs evidenceRefs) := by
  induction evidenceRefs with
  | nil => rfl
  | cons evidenceRef evidenceRefs ih =>
    rw [redactEvidenceRefs, ih, maskDenyTokens_spec]
    by_cases hallowed : isAllowedEvidenceRef evidenceRef = true
    · by_cases hrest : evidenceRefs.all isAllowedEvidenceRef = true
      · simp [keptRefs, hallowed, hrest]
      · simp [keptRefs, hallowed, hrest]
    · simp [keptRefs, hallowed]

/-! ## Arguments -/

theorem cut_at_separator :
    ∃ rest, first ++ separator :: second = first.takeWhile (· ≠ separator) ++ separator :: rest := by
  induction first with
  | nil => exact ⟨second, rfl⟩
  | cons item first ih =>
    by_cases hitem : item = separator
    · subst hitem
      exact ⟨first ++ item :: second, by simp⟩
    · obtain ⟨rest, hrest⟩ := ih
      refine ⟨rest, ?_⟩
      rw [List.takeWhile_cons_of_pos (by simpa using hitem), List.cons_append, List.cons_append,
        hrest]

theorem findFirst_separator (hfirst : separator ∉ first) :
    findFirst [separator] (first ++ separator :: second) = some first.length := by
  induction first with
  | nil => simp [findFirst]
  | cons item first ih =>
    rw [List.mem_cons, not_or] at hfirst
    simp [findFirst, hfirst.1, ih hfirst.2]

theorem containsDenyToken_of_infix {name value : Bytes} (hwithin : name <:+: value)
    (h : containsDenyToken name = true) : containsDenyToken value = true := by
  rw [← Bool.not_eq_false, containsDenyToken_eq_false_iff] at h ⊢
  intro hvalue
  apply h
  intro token htoken hfound
  exact hvalue token htoken (hfound.trans (hwithin.map toLower))

/-- An argument with a deny-listed token keeps what stands before its first `=`, and no more. -/
theorem compatArg_named (name value : Bytes) (h : containsDenyToken (name ++ 61 :: value) = true) :
    compatArg (name ++ 61 :: value) =
      if (str "--").isPrefixOf name then some (name.takeWhile (· ≠ 61) ++ str "=redacted")
      else none := by
  have hlead : (str "--").isPrefixOf (name ++ 61 :: value) = (str "--").isPrefixOf name := by
    have hdash : (61 : Byte) ∉ str "--" := by decide
    rw [Bool.eq_iff_iff, List.isPrefixOf_iff_prefix, List.isPrefixOf_iff_prefix,
      prefix_append_cons hdash]
  obtain ⟨rest, hcut⟩ := cut_at_separator 61 name value
  have hfree : (61 : Byte) ∉ name.takeWhile (· ≠ 61) := by
    intro hmem
    simpa using List.mem_takeWhile_imp hmem
  unfold compatArg
  rw [hlead, h, hcut, show str "=" = [61] from rfl, findFirst_separator 61 _ rest hfree]
  by_cases hname : (str "--").isPrefixOf name = true
  · have htake : (name.takeWhile (· ≠ 61) ++ 61 :: rest).take ((name.takeWhile (· ≠ 61)).length + 1) =
        name.takeWhile (· ≠ 61) ++ [61] := by
      rw [List.take_length_add_append]
      rfl
    simp only [hname, Bool.not_true, Bool.false_eq_true, if_false, if_true, htake]
    rw [List.append_assoc]
    rfl
  · simp [hname]

theorem compatArg_kept (hdashed : str "--" <+: argument)
    (h : containsDenyToken argument = false) : compatArg argument = some argument := by
  rw [← List.isPrefixOf_iff_prefix] at hdashed
  simp [compatArg, hdashed, h]

theorem compatArg_twice (redacted : Bytes) (h : compatArg argument = some redacted) :
    compatArg redacted = some redacted := by
  by_cases hnamed : containsDenyToken argument = true
  · have hseparator : findFirst (str "=") argument ≠ none := by
      intro hnone
      simp [compatArg, hnamed, hnone] at h
    rw [ne_eq, findFirst_eq_none_iff, not_not] at hseparator
    obtain ⟨name, value, rfl⟩ := hseparator
    rw [List.append_assoc, show str "=" ++ value = 61 :: value from rfl] at h hnamed
    rw [compatArg_named name value hnamed] at h
    split at h
    · next hdashed =>
      obtain rfl := Option.some.inj h
      rw [List.isPrefixOf_iff_prefix, ← prefix_takeWhile_iff 61 _ name (by decide)] at hdashed
      rw [show str "=redacted" = 61 :: str "redacted" from rfl]
      by_cases hagain : containsDenyToken (name.takeWhile (· ≠ 61) ++ 61 :: str "redacted") = true
      · rw [compatArg_named _ _ hagain, if_pos (List.isPrefixOf_iff_prefix.mpr hdashed),
          List.takeWhile_takeWhile]
        simp
        rfl
      · rw [Bool.not_eq_true] at hagain
        exact compatArg_kept _ (hdashed.trans (List.prefix_append _ _)) hagain
    · simp at h
  · have hkept : redacted = argument := by
      unfold compatArg at h
      split at h
      · simp at h
      · simpa [hnamed] using h.symm
    rw [hkept] at h ⊢
    exact h

theorem compatArgs_twice (redacted : List Bytes) (h : compatArgs args = some redacted) :
    compatArgs redacted = some redacted := by
  unfold compatArgs at h ⊢
  induction args generalizing redacted with
  | nil =>
    obtain rfl : [] = redacted := by simpa using h
    rfl
  | cons argument args ih =>
    simp only [List.mapM_cons, Option.bind_eq_bind, Option.bind_eq_some_iff, Option.pure_def,
      Option.some.injEq] at h
    obtain ⟨first, hfirst, rest, hrest, rfl⟩ := h
    simp only [List.mapM_cons, compatArg_twice argument first hfirst, ih rest hrest,
      Option.bind_eq_bind, Option.bind_some, Option.pure_def]

/-! ## A snapshot -/

/-- The snapshot that strict redaction writes. -/
def strictSnapshot (snapshot : DiagnosticsSnapshot) : DiagnosticsSnapshot :=
  { snapshot with
    command := { snapshot.command with
      actorRef := str "actor://redacted", args := strictArgs snapshot.command }
    evidenceRefs := snapshot.evidenceRefs.map mask
    summary := canonicalSummary snapshot.command.commandName }

/-- The snapshot that compatible redaction writes with these arguments. -/
def compatSnapshot (snapshot : DiagnosticsSnapshot) (args : List Bytes) : DiagnosticsSnapshot :=
  { snapshot with
    command := { snapshot.command with actorRef := str "actor://redacted", args }
    evidenceRefs := snapshot.evidenceRefs.map mask
    summary := mask snapshot.summary }

/-- What `redact` answers, with the loops run to their end. After masking, the check for tokens that
are left never fails. -/
def redactedOutcome (snapshot : DiagnosticsSnapshot) : RedactionOutcome :=
  if !isSupportedProfile snapshot.redactionProfile then
    redactionFailure (str "diagnostics redaction requires strict or compat profile")
  else if snapshot.exporterHint ≠ str "local_file" then
    redactionFailure (str "diagnostics redaction only permits local_file exporter hints")
  else if !snapshot.evidenceRefs.all isAllowedEvidenceRef then
    redactionFailure (str
      "diagnostics redaction requires reference-only evidence refs with controlled schemes")
  else if snapshot.redactionProfile = .strict then .success (strictSnapshot snapshot)
  else
    match compatArgs snapshot.command.args with
    | none =>
      redactionFailure (str "diagnostics compat redaction could not stabilize command args")
    | some args =>
      if (mask snapshot.summary).isEmpty then
        redactionFailure (str
          "diagnostics compat redaction could not remove sensitive summary tokens")
      else .success (compatSnapshot snapshot args)

theorem redact_eq :
    RedactionEngine.redact snapshot = some (redactedOutcome snapshot) := by
  unfold RedactionEngine.redact redactedOutcome
  rw [redactEvidenceRefs_spec, keptRefs, maskDenyTokens_spec]
  by_cases hprofile : isSupportedProfile snapshot.redactionProfile = true
  · by_cases hhint : snapshot.exporterHint ≠ str "local_file"
    · simp [hprofile, hhint]
    · by_cases hrefs : snapshot.evidenceRefs.all isAllowedEvidenceRef = true
      · simp only [hprofile, hhint, hrefs, Bool.not_true, Bool.false_eq_true, if_false, if_true,
          Option.bind_eq_bind, Option.bind_some, Option.pure_def]
        by_cases hstrict : snapshot.redactionProfile = .strict
        · rw [if_pos hstrict, if_pos hstrict]
          rfl
        · rw [if_neg hstrict, if_neg hstrict]
          have hclean := (containsDenyToken_eq_false_iff _).mpr (mask_undisclosed snapshot.summary)
          rcases hargs : compatArgs snapshot.command.args with _ | args
          · rfl
          · simp only [hclean, Bool.or_false]
            split <;> rfl
      · simp [hprofile, hhint, hrefs]
  · simp [hprofile]

/-- What is asked of a snapshot under both profiles. -/
structure Redactable (snapshot : DiagnosticsSnapshot) : Prop where
  profile : isSupportedProfile snapshot.redactionProfile = true
  hint : snapshot.exporterHint = str "local_file"
  refs : snapshot.evidenceRefs.all isAllowedEvidenceRef = true

theorem redactionFailure_not_redacted (message : Bytes) :
    (redactionFailure message).redacted = false := rfl

theorem redactable_of_redacted
    (h : (redactedOutcome snapshot).redacted = true) : Redactable snapshot := by
  unfold redactedOutcome at h
  split at h
  · simp [redactionFailure_not_redacted] at h
  · next hprofile =>
    split at h
    · simp [redactionFailure_not_redacted] at h
    · next hhint =>
      split at h
      · simp [redactionFailure_not_redacted] at h
      · next hrefs =>
        exact ⟨by simpa using hprofile, by simpa using hhint, by simpa using hrefs⟩

theorem redactedOutcome_strict (hready : Redactable snapshot)
    (hstrict : snapshot.redactionProfile = .strict) :
    redactedOutcome snapshot = .success (strictSnapshot snapshot) := by
  simp [redactedOutcome, isSupportedProfile, hready.hint, hready.refs, hstrict]

theorem redactedOutcome_compat (hready : Redactable snapshot)
    (hcompat : snapshot.redactionProfile = .compatibility) (args : List Bytes)
    (hargs : compatArgs snapshot.command.args = some args)
    (hsummary : (mask snapshot.summary).isEmpty = false) :
    redactedOutcome snapshot = .success (compatSnapshot snapshot args) := by
  have hempty : mask snapshot.summary ≠ [] := by simpa using hsummary
  simp [redactedOutcome, isSupportedProfile, hready.hint, hready.refs, hcompat, hargs, hempty]

theorem redactedOutcome_cases (h : (redactedOutcome snapshot).redacted = true) :
    (snapshot.redactionProfile = .strict ∧
        redactedOutcome snapshot = .success (strictSnapshot snapshot)) ∨
      (snapshot.redactionProfile = .compatibility ∧ ∃ args,
        compatArgs snapshot.command.args = some args ∧ (mask snapshot.summary).isEmpty = false ∧
        redactedOutcome snapshot = .success (compatSnapshot snapshot args)) := by
  have hready := redactable_of_redacted snapshot h
  by_cases hstrict : snapshot.redactionProfile = .strict
  · exact .inl ⟨hstrict, redactedOutcome_strict snapshot hready hstrict⟩
  · have hcompat : snapshot.redactionProfile = .compatibility := by
      simpa [isSupportedProfile, hstrict] using hready.profile
    refine .inr ⟨hcompat, ?_⟩
    rcases hargs : compatArgs snapshot.command.args with _ | args
    · simp [redactedOutcome, hready.profile, hready.hint, hready.refs, hstrict, hargs,
        redactionFailure_not_redacted] at h
    · by_cases hempty : (mask snapshot.summary).isEmpty = true
      · simp [redactedOutcome, hready.profile, hready.hint, hready.refs, hstrict, hargs, hempty,
          redactionFailure_not_redacted] at h
      · rw [Bool.not_eq_true] at hempty
        exact ⟨args, rfl, hempty, redactedOutcome_compat snapshot hready hcompat args hargs hempty⟩

/-! ## What a redacted snapshot discloses -/

theorem canonicalSummary_undisclosed (commandName : Bytes) :
    Undisclosed (canonicalSummary commandName) := by
  rw [← containsDenyToken_eq_false_iff]
  unfold canonicalSummary
  split
  · decide
  · split
    · decide
    · decide

theorem redacted_undisclosed (h : (redactedOutcome snapshot).redacted = true) :
    Undisclosed (redactedOutcome snapshot).snapshot.summary ∧
      ∀ ref ∈ (redactedOutcome snapshot).snapshot.evidenceRefs, Undisclosed ref := by
  have hrefs : ∀ ref ∈ snapshot.evidenceRefs.map mask, Undisclosed ref := by
    intro ref hmem
    obtain ⟨unmasked, -, rfl⟩ := List.mem_map.mp hmem
    exact mask_undisclosed unmasked
  rcases redactedOutcome_cases snapshot h with ⟨-, hsuccess⟩ | ⟨-, args, -, -, hsuccess⟩
  · rw [hsuccess]
    exact ⟨canonicalSummary_undisclosed _, hrefs⟩
  · rw [hsuccess]
    exact ⟨mask_undisclosed _, hrefs⟩

theorem refs_allowed_masked (h : evidenceRefs.all isAllowedEvidenceRef = true) :
    (evidenceRefs.map mask).all isAllowedEvidenceRef = true := by
  rw [List.all_eq_true] at h ⊢
  intro ref hmem
  obtain ⟨unmasked, hunmasked, rfl⟩ := List.mem_map.mp hmem
  exact isAllowedEvidenceRef_mask unmasked (h unmasked hunmasked)

theorem redacted_twice (h : (redactedOutcome snapshot).redacted = true) :
    redactedOutcome (redactedOutcome snapshot).snapshot = redactedOutcome snapshot := by
  have hready := redactable_of_redacted snapshot h
  have hrefs := refs_allowed_masked snapshot.evidenceRefs hready.refs
  have hmasked : (snapshot.evidenceRefs.map mask).map mask = snapshot.evidenceRefs.map mask := by
    simp [Function.comp_def]
  rcases redactedOutcome_cases snapshot h with
    ⟨hstrict, hsuccess⟩ | ⟨hcompat, args, hargs, hsummary, hsuccess⟩
  · rw [hsuccess]
    refine (redactedOutcome_strict (strictSnapshot snapshot)
      ⟨hready.profile, hready.hint, hrefs⟩ hstrict).trans ?_
    have htwice : strictSnapshot (strictSnapshot snapshot) = strictSnapshot snapshot := by
      unfold strictSnapshot
      rw [hmasked]
      rfl
    exact congrArg _ htwice
  · rw [hsuccess]
    have hagain : mask (mask snapshot.summary) = mask snapshot.summary := mask_mask _
    rw [← hagain] at hsummary
    refine (redactedOutcome_compat (compatSnapshot snapshot args)
      ⟨hready.profile, hready.hint, hrefs⟩ hcompat args (compatArgs_twice _ args hargs)
      hsummary).trans ?_
    have htwice : compatSnapshot (compatSnapshot snapshot args) args =
        compatSnapshot snapshot args := by
      unfold compatSnapshot
      rw [hmasked, hagain]
    exact congrArg _ htwice

/-! ## Two runs -/

/-- Two arguments that differ at most in the value of a name with a deny-listed token. -/
def SameNamed (first second : Bytes) : Prop :=
  first = second ∨ ∃ name value value', containsDenyToken name = true ∧
    first = str "--" ++ name ++ 61 :: value ∧ second = str "--" ++ name ++ 61 :: value'

/-- Two texts that differ at most in a value, and there only in what is masked. -/
def SameMasked (first second : Bytes) : Prop :=
  first = second ∨ ∃ name value value', mask value = mask value' ∧
    first = name ++ 61 :: value ∧ second = name ++ 61 :: value'

/-- Two snapshots that differ at most in values of this kind. -/
structure SameButValues (snapshot other : DiagnosticsSnapshot) : Prop where
  args : List.Forall₂ SameNamed snapshot.command.args other.command.args
  summary : SameMasked snapshot.summary other.summary
  evidenceRefs : List.Forall₂ SameMasked snapshot.evidenceRefs other.evidenceRefs
  rest : other = { snapshot with
    command := { snapshot.command with args := other.command.args }
    summary := other.summary
    evidenceRefs := other.evidenceRefs }

theorem compatArg_same (h : SameNamed first second) :
    compatArg first = compatArg second := by
  rcases h with rfl | ⟨name, value, value', hname, rfl, rfl⟩
  · rfl
  · have hnamed : ∀ value : Bytes,
        containsDenyToken (str "--" ++ name ++ 61 :: value) = true := by
      intro value
      apply containsDenyToken_of_infix _ hname
      rw [List.append_assoc]
      exact List.infix_append_of_infix_right List.infix_append_left
    rw [compatArg_named _ value (hnamed value), compatArg_named _ value' (hnamed value')]

theorem compatArgs_same (args' : List Bytes) (h : List.Forall₂ SameNamed args args') :
    compatArgs args = compatArgs args' := by
  unfold compatArgs
  induction h with
  | nil => rfl
  | cons hfirst _ ih => rw [List.mapM_cons, List.mapM_cons, compatArg_same _ _ hfirst, ih]

theorem mask_same (h : SameMasked first second) :
    mask first = mask second := by
  rcases h with rfl | ⟨name, value, value', hvalue, rfl, rfl⟩
  · rfl
  · rw [mask_append_cons 61 (by decide), mask_append_cons 61 (by decide), hvalue]

theorem refs_same (refs refs' : List Bytes) (h : List.Forall₂ SameMasked refs refs') :
    refs.all isAllowedEvidenceRef = refs'.all isAllowedEvidenceRef ∧
      refs.map mask = refs'.map mask := by
  induction h with
  | nil => exact ⟨rfl, rfl⟩
  | cons hfirst _ ih =>
    obtain ⟨hallowed, hmasked⟩ := ih
    rw [List.all_cons, List.all_cons, List.map_cons, List.map_cons, hallowed, hmasked,
      mask_same _ _ hfirst]
    refine ⟨?_, rfl⟩
    rcases hfirst with rfl | ⟨name, value, value', -, rfl, rfl⟩
    · rfl
    · rw [isAllowedEvidenceRef_append_cons, isAllowedEvidenceRef_append_cons]

theorem redactedOutcome_same (other : DiagnosticsSnapshot)
    (hcompat : snapshot.redactionProfile = .compatibility) (h : SameButValues snapshot other) :
    redactedOutcome other = redactedOutcome snapshot := by
  obtain ⟨hargs, hsummary, hrefs, hrest⟩ := h
  obtain ⟨hallowed, hmasked⟩ := refs_same _ _ hrefs
  have hsnapshot : ∀ args, compatSnapshot other args = compatSnapshot snapshot args := by
    intro args
    unfold compatSnapshot
    rw [mask_same _ _ hsummary, hmasked, hrest]
  have hprofile : other.redactionProfile = .compatibility := by rw [hrest]; exact hcompat
  have hhint : other.exporterHint = snapshot.exporterHint := by rw [hrest]
  unfold redactedOutcome
  rw [hprofile, hcompat, hhint, hallowed, compatArgs_same _ _ hargs, mask_same _ _ hsummary]
  simp only [hsnapshot]
  rfl

/-- Redaction comes to its end, and what it lets through holds no deny-listed token and stays as it
is when it is redacted again. Strict output does not depend on actor, arguments and summary.
Compatible output does not depend on the value of an argument whose name holds a token. In a summary
or a reference it masks the tokens alone: of a value, what is masked makes no difference and the
rest stays. -/
theorem redact_masks_tokens (snapshot : DiagnosticsSnapshot) :
    ∃ outcome, RedactionEngine.redact snapshot = some outcome ∧
      (outcome.redacted = true →
        Undisclosed outcome.snapshot.summary ∧
        (∀ ref ∈ outcome.snapshot.evidenceRefs, Undisclosed ref) ∧
        RedactionEngine.redact outcome.snapshot = some outcome) ∧
      (snapshot.redactionProfile = .strict → ∀ actorRef args summary,
        RedactionEngine.redact { snapshot with
          command := { snapshot.command with actorRef, args }, summary } = some outcome) ∧
      (snapshot.redactionProfile = .compatibility →
        (∀ other, SameButValues snapshot other → RedactionEngine.redact other = some outcome) ∧
        (outcome.redacted = true → outcome.snapshot.summary = mask snapshot.summary ∧
          outcome.snapshot.evidenceRefs = snapshot.evidenceRefs.map mask)) ∧
      ∀ name value, mask (name ++ 61 :: value) = mask name ++ 61 :: mask value := by
  refine ⟨redactedOutcome snapshot, redact_eq snapshot, ?_, ?_, ?_, ?_⟩
  · intro h
    obtain ⟨hsummary, hrefs⟩ := redacted_undisclosed snapshot h
    refine ⟨hsummary, hrefs, ?_⟩
    rw [redact_eq, redacted_twice snapshot h]
  · intro hstrict actorRef args summary
    rw [redact_eq]
    unfold redactedOutcome strictSnapshot strictArgs
    simp only [hstrict, if_true]
  · intro hcompat
    constructor
    · intro other hother
      rw [redact_eq, redactedOutcome_same snapshot other hcompat hother]
    · intro h
      rcases redactedOutcome_cases snapshot h with ⟨hstrict, -⟩ | ⟨-, args, -, -, hsuccess⟩
      · rw [hcompat] at hstrict
        simp at hstrict
      · rw [hsuccess]
        exact ⟨rfl, rfl⟩
  · intro name value
    exact mask_append_cons 61 (by decide) name value

/-- A thread dump under the compatibility profile with this summary. -/
def dumpWithSummary (summary : Bytes) : DiagnosticsSnapshot :=
  { snapshotId := str "diag-snapshot-1"
    command :=
      { commandId := str "cmd-1", commandName := str "thread.dump", args := [str "--limit=5"]
        requestScope := str "runtime", timeoutMs := 3000, actorRef := str "actor://ops" }
    collectedAt := str "2026-04-07T21:00:00Z"
    summary
    evidenceRefs := [str "logs://diagnostics/thread.dump"]
    redactionProfile := .compatibility
    exporterHint := str "local_file" }

/-- The token in the name is masked, and the value stays. -/
theorem summaryValue_disclosed :
    (RedactionEngine.redact (dumpWithSummary (str "password=hunter2"))).map (·.snapshot.summary) =
        some (str "[REDACTED]=hunter2") ∧
      ¬ ∀ (snapshot : DiagnosticsSnapshot) (name value value' : Bytes),
        snapshot.redactionProfile = .compatibility →
        containsDenyToken name = true →
        RedactionEngine.redact { snapshot with summary := name ++ 61 :: value } =
          RedactionEngine.redact { snapshot with summary := name ++ 61 :: value' } := by
  refine ⟨by decide +kernel, ?_⟩
  intro h
  have hleak := h (dumpWithSummary []) (str "password") (str "hunter2") (str "swordfish") rfl
    (by decide)
  exact absurd hleak (by decide +kernel)

end Dasall.Infra.Diagnostics
