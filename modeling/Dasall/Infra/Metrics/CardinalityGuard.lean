import Dasall.Infra.Policy.Types
import Dasall.Lib.Run
import Dasall.Lib.Separated
import Mathlib.Data.List.Nodup
import Mathlib.Data.List.Perm.Subperm

/-!
# The cardinality guard

The guard counts the label sets of a metric by signatures, which join the label values with the
byte 0x1f.
-/

open Dasall.Lib.Text Dasall.Lib.Run Dasall.Lib.Separated
open Dasall.Infra.Policy (ResultCode)

namespace Dasall.Infra.Metrics

inductive LabelKey
  | module
  | stage
  | profile
  | outcome
  | errorCode
  | decisionKind
  | resolvedRoute
  | failureCategory
  | errorType
deriving DecidableEq

def LabelKey.name : LabelKey → Bytes
  | .module => str "module"
  | .stage => str "stage"
  | .profile => str "profile"
  | .outcome => str "outcome"
  | .errorCode => str "error_code"
  | .decisionKind => str "decision_kind"
  | .resolvedRoute => str "resolved_route"
  | .failureCategory => str "failure_category"
  | .errorType => str "error_type"

/-- The keys in the order of the fields, of the allowlist, of entries and of signatures. -/
def labelKeys : List LabelKey :=
  [.module, .stage, .profile, .outcome, .errorCode, .decisionKind, .resolvedRoute, .failureCategory,
    .errorType]

/-- One value for each field of the source's record. -/
abbrev MetricLabels := LabelKey → Bytes

structure MetricLabelEntry where
  key : Bytes
  value : Bytes

def metricLabelAllowlist : List Bytes := labelKeys.map LabelKey.name

def isAllowlisted (key : Bytes) : Bool := metricLabelAllowlist.contains key

def LabelKey.ofName (key : Bytes) : Option LabelKey := labelKeys.find? (·.name == key)

/-- The labels that `materialize_labels` asks for. -/
def LabelKey.required : LabelKey → Bool
  | .module | .stage | .profile | .outcome => true
  | _ => false

def orNone (value : Bytes) : Bytes := if value.isEmpty then str "none" else value

/-- `normalize_labels`, which leaves `decision_kind` as it is. -/
def normalizeLabels (labels : MetricLabels) : MetricLabels
  | .errorCode => orNone (labels .errorCode)
  | .resolvedRoute => orNone (labels .resolvedRoute)
  | .failureCategory => orNone (labels .failureCategory)
  | .errorType => orNone (labels .errorType)
  | key => labels key

def toEntries (labels : MetricLabels) : List MetricLabelEntry :=
  labelKeys.map fun key => ⟨key.name, labels key⟩

/-- One turn of the loop of `materialize_labels`: a label seen before, or an unknown one, ends it. -/
def collectLabel (seen : LabelKey → Option Bytes) (label : MetricLabelEntry) :
    Option (LabelKey → Option Bytes) :=
  match LabelKey.ofName label.key with
  | none => none
  | some key => if (seen key).isSome then none else some (Function.update seen key (some label.value))

/-- What is behind the loop: defaults, then the required labels. -/
def finishLabels (seen : LabelKey → Option Bytes) : Option MetricLabels :=
  let materialized : MetricLabels := fun key =>
    if key.required then (seen key).getD [] else orNone ((seen key).getD [])
  if labelKeys.all fun key => !key.required || (seen key).isSome && !(materialized key).isEmpty then
    some materialized
  else none

def materializeLabels (labels : List MetricLabelEntry) : Option MetricLabels :=
  (labels.foldl (fun seen label => seen.bind (collectLabel · label)) (some fun _ => none)).bind
    finishLabels

/-- The byte between the values of a signature. -/
def unitSeparator : Byte := 0x1F

def makeSeriesSignature (labels : MetricLabels) : Bytes := join unitSeparator (labelKeys.map labels)

/-! ## Decisions -/

structure GuardError where
  message : Bytes
  stage : Bytes
  sourceRef : Bytes
deriving DecidableEq

structure CardinalityGuardDecision where
  accepted : Bool
  labels : MetricLabels
  resultCode : ResultCode
  error : Option GuardError
  rejectionReason : Bytes

def CardinalityGuardDecision.accept (labels : MetricLabels) : CardinalityGuardDecision :=
  ⟨true, labels, .runtimeRetryExhausted, none, []⟩

def makeGuardRejection (metricName labelKey message stage : Bytes) : CardinalityGuardDecision :=
  let scopedMessage := message ++ str " [metric=" ++ metricName ++ str ", label=" ++ labelKey ++ str "]"
  { accepted := false
    labels := fun _ => []
    resultCode := .policyDenied
    error := some
      ⟨scopedMessage, stage, str "CardinalityGuard:MET_E_LABEL_CARDINALITY_EXCEEDED"⟩
    rejectionReason := scopedMessage }

structure CardinalityGuard where
  maxCardinalityPerMetric : Nat
  rejectTotal : UInt64 := 0
  /-- The signatures seen of a metric, each once. -/
  observedSeries : Bytes → List Bytes := fun _ => []

namespace CardinalityGuard

/-- The constructor: no bound becomes 200. -/
def make (maxCardinalityPerMetric : Nat) : CardinalityGuard :=
  { maxCardinalityPerMetric := if 0 < maxCardinalityPerMetric then maxCardinalityPerMetric else 200 }

def rejectWithReason (guard : CardinalityGuard) (metricName labelKey message : Bytes) :
    CardinalityGuard × CardinalityGuardDecision :=
  ({ guard with rejectTotal := guard.rejectTotal + 1 },
    makeGuardRejection metricName labelKey message (str "metrics.guard.validate"))

/-- `std::set::insert` into the signatures of the metric. -/
def observe (guard : CardinalityGuard) (metricName signature : Bytes) : CardinalityGuard :=
  if signature ∈ guard.observedSeries metricName then guard
  else
    { guard with
      observedSeries := Function.update guard.observedSeries metricName
        (signature :: guard.observedSeries metricName) }

def validateEntries (guard : CardinalityGuard) (metricName : Bytes) (labels : List MetricLabelEntry) :
    CardinalityGuard × CardinalityGuardDecision :=
  if metricName.isEmpty then
    guard.rejectWithReason metricName (str "metric_name")
      (str "cardinality guard requires a non-empty metric name")
  else
    match labels.find? fun label => !isAllowlisted label.key with
    | some label =>
      guard.rejectWithReason metricName label.key
        (str "cardinality guard rejects labels outside the frozen allowlist")
    | none =>
      match materializeLabels labels with
      | none =>
        guard.rejectWithReason metricName (str "labels")
          (str "cardinality guard requires module/stage/profile/outcome labels exactly once and only allowlisted keys")
      | some materialized =>
        let signature := makeSeriesSignature materialized
        let observed := guard.observedSeries metricName
        if signature ∉ observed ∧ guard.maxCardinalityPerMetric ≤ observed.length then
          guard.rejectWithReason metricName (str "labels")
            (str "cardinality guard rejected a new label set because the per-metric cardinality limit was exceeded")
        else (guard.observe metricName signature, .accept materialized)

def validateLabels (guard : CardinalityGuard) (metricName : Bytes) (labels : MetricLabels) :
    CardinalityGuard × CardinalityGuardDecision :=
  guard.validateEntries metricName (toEntries (normalizeLabels labels))

end CardinalityGuard

/-! ## Calls -/

/-- The two overloads of `validate_labels`. -/
inductive LabelCall
  | ofLabels (metricName : Bytes) (labels : MetricLabels)
  | ofEntries (metricName : Bytes) (entries : List MetricLabelEntry)

def LabelCall.metricName : LabelCall → Bytes
  | .ofLabels metricName _ | .ofEntries metricName _ => metricName

/-- The entries that the call comes down to. -/
def LabelCall.entryList : LabelCall → List MetricLabelEntry
  | .ofLabels _ labels => toEntries (normalizeLabels labels)
  | .ofEntries _ entries => entries

open CardinalityGuard

def CardinalityGuard.step (guard : CardinalityGuard) (call : LabelCall) :
    CardinalityGuard × CardinalityGuardDecision :=
  guard.validateEntries call.metricName call.entryList

/-! ## Entries in any order -/

theorem collectLabel_comm (seen : LabelKey → Option Bytes) (first second : MetricLabelEntry) :
    (collectLabel seen first).bind (collectLabel · second) =
      (collectLabel seen second).bind (collectLabel · first) := by
  unfold collectLabel
  cases LabelKey.ofName first.key with
  | none => cases LabelKey.ofName second.key <;> simp
  | some key =>
    cases LabelKey.ofName second.key with
    | none =>
      dsimp only
      split <;> rfl
    | some other =>
      by_cases hsame : other = key
      · subst hsame
        dsimp only
        split <;> simp
      · have hother : key ≠ other := Ne.symm hsame
        dsimp only
        by_cases hkey : (seen key).isSome = true <;> by_cases hthis : (seen other).isSome = true <;>
          simp [hkey, hthis, Function.update_of_ne hsame, Function.update_of_ne hother,
            Function.update_comm hother]

theorem materializeLabels_perm {first second : List MetricLabelEntry} (h : first.Perm second) :
    materializeLabels first = materializeLabels second := by
  unfold materializeLabels
  congr 1
  apply h.foldl_eq'
  intro label _ other _ seen
  cases seen with
  | none => rfl
  | some seen => exact collectLabel_comm seen label other

theorem collectLabel_name {seen : LabelKey → Option Bytes} {key : LabelKey} (h : seen key = none)
    (value : Bytes) :
    collectLabel seen ⟨key.name, value⟩ = some (Function.update seen key (some value)) := by
  have hname : LabelKey.ofName key.name = some key := by
    cases key <;> decide
  unfold collectLabel
  rw [hname]
  dsimp only
  rw [h]
  rfl

variable (labels : MetricLabels)

theorem collectLabels_keys (keys : List LabelKey) (hkeys : keys.Nodup)
    (seen : LabelKey → Option Bytes) (hseen : ∀ key ∈ keys, seen key = none) :
    (keys.map fun key => (⟨key.name, labels key⟩ : MetricLabelEntry)).foldl
        (fun seen label => seen.bind (collectLabel · label)) (some seen) =
      some fun key => if key ∈ keys then some (labels key) else seen key := by
  induction keys generalizing seen with
  | nil => simp
  | cons key keys ih =>
    obtain ⟨hnew, hrest⟩ := List.nodup_cons.mp hkeys
    obtain ⟨hkey, hothers⟩ := List.forall_mem_cons.mp hseen
    rw [List.map_cons, List.foldl_cons, Option.bind_some, collectLabel_name hkey, ih hrest]
    · congr 1
      funext other
      by_cases hsame : other = key
      · subst hsame
        simp [hnew]
      · simp [hsame]
    · intro other hother
      have hne : other ≠ key := by
        rintro rfl
        exact hnew hother
      rw [Function.update_of_ne hne, hothers other hother]

theorem materializeLabels_toEntries :
    materializeLabels (toEntries labels) = finishLabels fun key => some (labels key) := by
  have hall : ∀ key, key ∈ labelKeys := by
    intro key
    cases key <;> decide
  unfold materializeLabels toEntries
  rw [collectLabels_keys labels labelKeys (by decide) _ fun _ _ => rfl, Option.bind_some]
  simp only [hall, if_true]

theorem finishLabels_normalize :
    (finishLabels fun key => some (normalizeLabels labels key)) =
      finishLabels fun key => some (labels key) := by
  have htwice : ∀ value, orNone (orNone value) = orNone value := by
    intro value
    unfold orNone
    by_cases h : value.isEmpty = true
    · rw [if_pos h]
      rfl
    · rw [if_neg h, if_neg h]
  have hsame : ∀ key : LabelKey, (if key.required then normalizeLabels labels key
      else orNone (normalizeLabels labels key)) =
        if key.required then labels key else orNone (labels key) := by
    intro key
    cases key <;> simp [LabelKey.required, normalizeLabels, htwice]
  unfold finishLabels
  simp only [Option.getD_some, Option.isSome_some, hsame]

variable (guard : CardinalityGuard)

/-- The entries of a label set, in any order, are decided as the label set is. -/
theorem validateEntries_perm (metricName : Bytes) (labels : MetricLabels)
    {entries : List MetricLabelEntry} (h : entries.Perm (toEntries labels)) :
    guard.validateEntries metricName entries = guard.validateLabels metricName labels := by
  have hallowed : ∀ {list : List MetricLabelEntry} {labels : MetricLabels},
      list.Perm (toEntries labels) → list.find? (fun label => !isAllowlisted label.key) = none := by
    intro list labels hperm
    have hname : ∀ key : LabelKey, isAllowlisted key.name = true := by
      intro key
      cases key <;> decide
    rw [List.find?_eq_none]
    intro label hlabel
    obtain ⟨key, -, rfl⟩ := List.mem_map.mp (hperm.mem_iff.mp hlabel)
    rw [hname key, Bool.not_true]
    exact Bool.false_ne_true
  unfold validateLabels validateEntries
  rw [hallowed h, hallowed (List.Perm.refl (toEntries (normalizeLabels labels))),
    materializeLabels_perm h, materializeLabels_toEntries, materializeLabels_toEntries,
    finishLabels_normalize]

/-! ## What is accepted -/

/-- The label set that a call offers: none where the call is turned down whatever came before. -/
def LabelCall.offered (call : LabelCall) : Option MetricLabels :=
  if call.metricName.isEmpty || call.entryList.any fun label => !isAllowlisted label.key then none
  else materializeLabels call.entryList

variable (call : LabelCall)

/-- The call is accepted with the label set it offers, where that is known or there is room. -/
theorem step_accepted_iff (labels : MetricLabels) :
    (guard.step call).2.accepted = true ∧ (guard.step call).2.labels = labels ↔
      call.offered = some labels ∧ (makeSeriesSignature labels ∈ guard.observedSeries call.metricName ∨
        (guard.observedSeries call.metricName).length < guard.maxCardinalityPerMetric) := by
  unfold step validateEntries LabelCall.offered
  by_cases hname : call.metricName.isEmpty = true
  · simp [hname, rejectWithReason, makeGuardRejection]
  cases hfind : call.entryList.find? fun label => !isAllowlisted label.key with
  | some label =>
    have hany : (call.entryList.any fun label => !isAllowlisted label.key) = true := by
      have hfound := List.find?_some hfind
      rw [List.any_eq_true]
      exact ⟨label, List.mem_of_find?_eq_some hfind, hfound⟩
    simp [hname, hany, rejectWithReason, makeGuardRejection]
  | none =>
    have hany : (call.entryList.any fun label => !isAllowlisted label.key) = false := by
      rw [List.any_eq_false]
      exact fun label hlabel => List.find?_eq_none.mp hfind label hlabel
    simp only [hname, hany, Bool.or_false, Bool.false_eq_true, if_false]
    cases hoffered : materializeLabels call.entryList with
    | none => simp [rejectWithReason, makeGuardRejection]
    | some offered =>
      dsimp only
      split
      · next hfull =>
        refine ⟨fun h => absurd h.1 Bool.false_ne_true, ?_⟩
        rintro ⟨hsame, hroom⟩
        cases hsame
        rcases hroom with hknown | hroom
        · exact absurd hknown hfull.1
        · omega
      · next hroom =>
        rw [not_and_or, not_not, not_le] at hroom
        constructor
        · rintro ⟨-, rfl⟩
          exact ⟨rfl, hroom⟩
        · rintro ⟨hsame, -⟩
          cases hsame
          exact ⟨rfl, rfl⟩

/-- What the guard has seen after a call. -/
theorem step_observed :
    (guard.step call).1.maxCardinalityPerMetric = guard.maxCardinalityPerMetric ∧
      (((guard.step call).1.observedSeries = guard.observedSeries ∧
          ((guard.step call).2.accepted = true →
            makeSeriesSignature (guard.step call).2.labels ∈ guard.observedSeries call.metricName)) ∨
        ∃ signature, (guard.step call).2.accepted = true ∧
          signature = makeSeriesSignature (guard.step call).2.labels ∧
          signature ∉ guard.observedSeries call.metricName ∧
          (guard.observedSeries call.metricName).length < guard.maxCardinalityPerMetric ∧
          (guard.step call).1.observedSeries = Function.update guard.observedSeries call.metricName
            (signature :: guard.observedSeries call.metricName)) := by
  unfold step validateEntries
  have hrejected : ∀ labelKey message,
      ((guard.rejectWithReason call.metricName labelKey message).2.accepted = true →
        makeSeriesSignature (guard.rejectWithReason call.metricName labelKey message).2.labels ∈
          guard.observedSeries call.metricName) :=
    fun _ _ h => absurd h Bool.false_ne_true
  split
  · exact ⟨rfl, .inl ⟨rfl, hrejected _ _⟩⟩
  split
  · exact ⟨rfl, .inl ⟨rfl, hrejected _ _⟩⟩
  split
  · exact ⟨rfl, .inl ⟨rfl, hrejected _ _⟩⟩
  dsimp only
  split
  · exact ⟨rfl, .inl ⟨rfl, hrejected _ _⟩⟩
  · next materialized _ hroom =>
    unfold observe
    split
    · next hknown => exact ⟨rfl, .inl ⟨rfl, fun _ => hknown⟩⟩
    · next hnew =>
      rw [not_and_or, not_not, not_le] at hroom
      exact ⟨rfl, .inr ⟨_, rfl, rfl, hnew, hroom.resolve_left hnew, rfl⟩⟩

/-! ## Runs -/

/-- The run accepts a call for the metric with the labels. -/
def AcceptedIn (guard : CardinalityGuard) (calls : List LabelCall) (metricName : Bytes)
    (labels : MetricLabels) : Prop :=
  ∃ before call after, calls = before ++ call :: after ∧ call.metricName = metricName ∧
    ((run CardinalityGuard.step guard before).1.step call).2.accepted = true ∧
      ((run CardinalityGuard.step guard before).1.step call).2.labels = labels

/-- The signatures are those of the accepted label sets, each once and not too many. -/
structure Counted (guard : CardinalityGuard) (calls : List LabelCall) (bound : Nat) : Prop where
  limit : (run CardinalityGuard.step guard calls).1.maxCardinalityPerMetric = bound
  size : ∀ metricName,
    ((run CardinalityGuard.step guard calls).1.observedSeries metricName).length ≤ bound
  seen : ∀ metricName labels, AcceptedIn guard calls metricName labels →
    makeSeriesSignature labels ∈ (run CardinalityGuard.step guard calls).1.observedSeries metricName

theorem observed_grows (metricName : Bytes) :
    guard.observedSeries metricName ⊆ (guard.step call).1.observedSeries metricName := by
  obtain ⟨-, ⟨hsame, -⟩ | ⟨signature, -, -, -, -, hadded⟩⟩ := step_observed guard call
  · rw [hsame]
    exact fun _ => id
  · rw [hadded]
    by_cases hmetric : metricName = call.metricName
    · subst hmetric
      rw [Function.update_self]
      exact List.subset_cons_self _ _
    · rw [Function.update_of_ne hmetric]
      exact fun _ => id

theorem counted_run (hempty : guard.observedSeries = fun _ => [])
    (calls : List LabelCall) : Counted guard calls guard.maxCardinalityPerMetric := by
  induction calls using List.reverseRecOn with
  | nil =>
    refine ⟨rfl, fun metricName => ?_, ?_⟩
    · rw [run_nil, hempty]
      exact Nat.zero_le _
    · rintro metricName labels ⟨before, call, after, hsplit, -⟩
      exact absurd hsplit.symm (by simp)
  | append_singleton calls call ih =>
    obtain ⟨hbound, hcases⟩ := step_observed (run step guard calls).1 call
    have hgrows := observed_grows (run step guard calls).1 call
    refine ⟨?_, fun metricName => ?_, ?_⟩
    · rw [run_snoc, hbound, ih.limit]
    · rw [run_snoc]
      rcases hcases with ⟨hsame, -⟩ | ⟨signature, -, -, -, hroom, hadded⟩
      · rw [hsame]
        exact ih.size metricName
      · rw [hadded]
        by_cases hmetric : metricName = call.metricName
        · subst hmetric
          rw [Function.update_self, List.length_cons, ← ih.limit]
          exact hroom
        · rw [Function.update_of_ne hmetric]
          exact ih.size metricName
    · rintro metricName labels ⟨before, other, after, hsplit, rfl, haccepted, rfl⟩
      rw [run_snoc]
      rcases Dasall.Lib.Trace.snoc_split hsplit with ⟨rfl, rfl, -⟩ | ⟨rest, -, hcalls⟩
      · rcases hcases with ⟨-, hknown⟩ | ⟨signature, -, rfl, -, -, hadded⟩
        · exact hgrows _ (hknown haccepted)
        · rw [hadded, Function.update_self]
          exact List.mem_cons_self
      · exact hgrows _ (ih.seen _ _ ⟨before, other, rest, hcalls, rfl, haccepted, rfl⟩)

/-- No two different label sets that calls of one metric offer are signed alike. -/
def SignedApart (calls : List LabelCall) : Prop :=
  ∀ call ∈ calls, ∀ other ∈ calls, call.metricName = other.metricName →
    ∀ labels ∈ call.offered, ∀ others ∈ other.offered,
      makeSeriesSignature labels = makeSeriesSignature others → labels = others

/-- The bound holds of real label sets, and a label set accepted once is accepted ever after. -/
structure BoundsLabelSets (guard : CardinalityGuard) (calls : List LabelCall) : Prop where
  bounded : ∀ metricName, ∀ sets : List MetricLabels, sets.Nodup →
    (∀ labels ∈ sets, AcceptedIn guard calls metricName labels) →
      sets.length ≤ guard.maxCardinalityPerMetric
  separate : ∀ metricName first second, AcceptedIn guard calls metricName first →
    AcceptedIn guard calls metricName second →
      makeSeriesSignature first = makeSeriesSignature second → first = second
  lasting : ∀ before call after, calls = before ++ call :: after → ∀ labels ∈ call.offered,
    AcceptedIn guard before call.metricName labels →
      ((run CardinalityGuard.step guard before).1.step call).2.accepted = true
  orderless : ∀ before metricName labels entries, before <+: calls →
    entries.Perm (toEntries labels) →
      (run CardinalityGuard.step guard before).1.validateEntries metricName entries =
        (run CardinalityGuard.step guard before).1.validateLabels metricName labels

theorem acceptedIn_offered {guard : CardinalityGuard} {calls : List LabelCall} {metricName : Bytes}
    {labels : MetricLabels} (h : AcceptedIn guard calls metricName labels) :
    ∃ call ∈ calls, call.metricName = metricName ∧ labels ∈ call.offered := by
  obtain ⟨before, call, after, rfl, hmetric, haccepted, hlabels⟩ := h
  refine ⟨call, by simp, hmetric, ?_⟩
  exact ((step_accepted_iff _ call labels).mp ⟨haccepted, hlabels⟩).1

theorem bounds_labelSets (maxCardinalityPerMetric : Nat) (calls : List LabelCall)
    (happart : SignedApart calls) : BoundsLabelSets (.make maxCardinalityPerMetric) calls := by
  have hcounted := counted_run (.make maxCardinalityPerMetric) rfl
  have hseparate : ∀ metricName first second,
      AcceptedIn (.make maxCardinalityPerMetric) calls metricName first →
      AcceptedIn (.make maxCardinalityPerMetric) calls metricName second →
        makeSeriesSignature first = makeSeriesSignature second → first = second := by
    intro metricName first second hfirst hsecond hsame
    obtain ⟨call, hcall, hmetric, hoffered⟩ := acceptedIn_offered hfirst
    obtain ⟨other, hother, hmetric', hoffered'⟩ := acceptedIn_offered hsecond
    exact happart call hcall other hother (hmetric.trans hmetric'.symm) first hoffered second
      hoffered' hsame
  refine ⟨fun metricName sets hsets haccepted => ?_, hseparate, ?_, ?_⟩
  · have hsignatures : (sets.map makeSeriesSignature).Nodup :=
      List.Nodup.map_on (fun first hfirst second hsecond =>
        hseparate metricName first second (haccepted first hfirst) (haccepted second hsecond)) hsets
    have hseen : sets.map makeSeriesSignature ⊆ (run CardinalityGuard.step
        (.make maxCardinalityPerMetric) calls).1.observedSeries metricName := by
      intro signature hsignature
      obtain ⟨labels, hlabels, rfl⟩ := List.mem_map.mp hsignature
      exact (hcounted calls).seen metricName labels (haccepted labels hlabels)
    calc sets.length = (sets.map makeSeriesSignature).length := by rw [List.length_map]
      _ ≤ _ := (List.subperm_of_subset hsignatures hseen).length_le
      _ ≤ _ := (hcounted calls).size metricName
  · rintro before call after - labels hoffered haccepted
    exact ((step_accepted_iff _ call labels).mpr
      ⟨hoffered, .inl ((hcounted before).seen _ labels haccepted)⟩).1
  · rintro before metricName labels entries - hentries
    exact validateEntries_perm _ metricName labels hentries

/-! ## Values with the separator in them -/

def plainLabels : MetricLabels := fun _ => str "x"

/-- The labels `x`, but for the first two. -/
def labelsWith (module stage : Bytes) : MetricLabels
  | .module => module
  | .stage => stage
  | _ => str "x"

theorem bounds_labelSets_two :
    BoundsLabelSets (.make 1) [.ofLabels (str "m") plainLabels, .ofEntries (str "m") []] := by
  apply bounds_labelSets
  have hnone : (LabelCall.ofEntries (str "m") []).offered = none := by decide
  intro call hcall other hother _ labels hlabels others hothers _
  simp only [List.mem_cons, List.not_mem_nil, or_false] at hcall hother
  rcases hcall with rfl | rfl
  · rcases hother with rfl | rfl
    · exact Option.some.inj (hlabels.symm.trans hothers)
    · rw [hnone] at hothers
      cases hothers
  · rw [hnone] at hlabels
    cases hlabels

/-- A guard with room for one label set accepts two. -/
theorem separator_counts_once :
    (run CardinalityGuard.step (.make 1)
        [.ofLabels (str "m") (labelsWith [97, unitSeparator, 98] [99]),
          .ofLabels (str "m") (labelsWith [97] [98, unitSeparator, 99])]).2.map
      (fun decision => (decision.accepted, decision.labels .module)) =
        [(true, [97, unitSeparator, 98]), (true, [97])] := by
  decide +kernel

end Dasall.Infra.Metrics
