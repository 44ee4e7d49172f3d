import Dasall.Profiles.Settings

/-!
# The overlay of a snapshot

An override is a list of changes to settings. What the composition returns is held against the base
snapshot with these changes laid over it, the last change of a setting being the one that counts.
-/

open Dasall.Contracts Dasall.Lib Dasall.Lib.Text

namespace Dasall.Profiles

/-! ## What a patch changes -/

def backendOf (path : Bytes) : Option Backend :=
  if startsWith path (str "timeout_policy.llm.") then some .llm
  else if startsWith path (str "timeout_policy.tool.") then some .tool
  else if startsWith path (str "timeout_policy.mcp.") then some .mcp
  else if startsWith path (str "timeout_policy.workflow.") then some .workflow
  else none

def timeoutSettingOf (path : Bytes) : Option Setting :=
  if endsWith path (str ".timeout_ms") then (backendOf path).map .timeoutMs
  else if endsWith path (str ".retry_budget") then (backendOf path).map .retryBudget
  else if endsWith path (str ".circuit_breaker_threshold") then
    (backendOf path).map .circuitBreakerThreshold
  else none

/-- The setting that a path names. -/
def settingOf (path : Bytes) : Option Setting :=
  if path = str "runtime_budget.max_tokens" then some .maxTokens
  else if path = str "runtime_budget.max_turns" then some .maxTurns
  else if path = str "runtime_budget.max_tool_calls" then some .maxToolCalls
  else if path = str "runtime_budget.max_latency_ms" then some .maxLatencyMs
  else if path = str "runtime_budget.max_replan_count" then some .maxReplanCount
  else if startsWith path timeoutPolicyPrefix then timeoutSettingOf path
  else if path = str "ops_policy.log_level" then some .logLevel
  else if path = str "ops_policy.metrics_granularity" then some .metricsGranularity
  else if path = str "ops_policy.trace_sample_ratio" then some .traceSampleRatio
  else if path = str "ops_policy.remote_diagnostics_enabled" then some .remoteDiagnosticsEnabled
  else if path = str "ops_policy.upgrade_strategy" then some .upgradeStrategy
  else if path = str "capability_cache_policy.refresh_interval_ms" then some .refreshIntervalMs
  else if path = str "capability_cache_policy.expire_after_ms" then some .expireAfterMs
  else if path = str "capability_cache_policy.stale_read_allowed" then some .staleReadAllowed
  else if path = str "capability_cache_policy.failure_backoff_ms" then some .failureBackoffMs
  else if path = str "degrade_policy.fallback_chain" then some .fallbackChain
  else if path = str "degrade_policy.allow_model_failover" then some .allowModelFailover
  else if path = str "degrade_policy.allow_budget_degrade" then some .allowBudgetDegrade
  else if startsWith path (str "model_profile.") then (stageName path).map .fallbackRoute
  else none

/-- The value that the patch gives to a setting. -/
def valueOf (patch : ProfileOverridePatch) : (setting : Setting) → Option setting.Value
  | .maxTokens | .maxTurns | .maxToolCalls | .maxLatencyMs | .maxReplanCount =>
    (parseUint32 patch.value).map some
  | .timeoutMs _ | .refreshIntervalMs | .expireAfterMs | .failureBackoffMs => parseInt64 patch.value
  | .retryBudget _ | .circuitBreakerThreshold _ => parseUint32 patch.value
  | .logLevel | .metricsGranularity | .upgradeStrategy => nonEmptyText patch.value
  | .traceSampleRatio => parseDouble patch.value
  | .remoteDiagnosticsEnabled | .staleReadAllowed | .allowModelFailover | .allowBudgetDegrade =>
    parseBool patch.value
  | .fallbackChain => parseCsvList patch.value
  | .fallbackRoute _ => if patch.op = .remove then some none else (nonEmptyText patch.value).map some

/-- The change of a setting, if the snapshot has it and the value can be read. -/
def changeTo (snapshot : RuntimePolicySnapshot) (patch : ProfileOverridePatch)
    (setting : Setting) : Option (Sigma Setting.Value) :=
  if (snapshot.readSetting setting).isSome then (valueOf patch setting).map (Sigma.mk setting)
  else none

def changeOf (snapshot : RuntimePolicySnapshot) (patch : ProfileOverridePatch) :
    Option (Sigma Setting.Value) :=
  (settingOf patch.path).bind (changeTo snapshot patch)

/-! ## The code makes these changes -/

section
variable (snapshot : RuntimePolicySnapshot) (patch : ProfileOverridePatch)

/-- The copy after a change of the setting, if a setting was found. -/
def applyTo (found : Option Setting) : Option MutableRuntimePolicySnapshot :=
  (found.bind (changeTo snapshot patch)).map fun change =>
    makeMutableSnapshot (snapshot.writeSetting change.1 change.2)

theorem applyTo_some {α : Type} (setting : Setting) {parsed : Option α} {value : α → setting.Value}
    {change : α → MutableRuntimePolicySnapshot}
    (hhas : (snapshot.readSetting setting).isSome = true)
    (hvalue : valueOf patch setting = parsed.map value)
    (hchange : ∀ a, change a = makeMutableSnapshot (snapshot.writeSetting setting (value a))) :
    parsed.map change = applyTo snapshot patch (some setting) := by
  unfold applyTo changeTo
  rw [Option.bind_some, if_pos hhas, hvalue, Option.map_map, Option.map_map]
  congr 1
  funext a
  exact hchange a

theorem changeTimeoutBudget_spec (path : Bytes) (change : TimeoutBudget → TimeoutBudget) :
    changeTimeoutBudget (makeMutableSnapshot snapshot) path change =
      (backendOf path).map fun backend =>
        makeMutableSnapshot (snapshot.setBudget backend change) := by
  unfold changeTimeoutBudget backendOf
  split_ifs <;> rfl

theorem applyTo_backend {α : Type} (setting : Backend → Setting) {parsed : Option α}
    {value : ∀ backend, α → (setting backend).Value} {change : α → TimeoutBudget → TimeoutBudget}
    (hhas : ∀ backend, (snapshot.readSetting (setting backend)).isSome = true)
    (hvalue : ∀ backend, valueOf patch (setting backend) = parsed.map (value backend))
    (hchange : ∀ backend a, snapshot.setBudget backend (change a) =
      snapshot.writeSetting (setting backend) (value backend a)) :
    (parsed.bind fun a =>
        changeTimeoutBudget (makeMutableSnapshot snapshot) patch.path (change a)) =
      applyTo snapshot patch ((backendOf patch.path).map setting) := by
  simp only [changeTimeoutBudget_spec]
  cases backendOf patch.path with
  | none =>
    unfold applyTo
    cases parsed <;> rfl
  | some backend =>
    rw [Option.map_some, ← applyTo_some snapshot patch (setting backend) (hhas backend)
      (hvalue backend) fun a => congrArg makeMutableSnapshot (hchange backend a)]
    cases parsed <;> rfl

theorem applyTo_ite {p : Prop} [Decidable p] {first second : Option MutableRuntimePolicySnapshot}
    {found other : Option Setting} (hfirst : first = applyTo snapshot patch found)
    (hsecond : second = applyTo snapshot patch other) :
    (if p then first else second) = applyTo snapshot patch (if p then found else other) := by
  split
  · exact hfirst
  · exact hsecond

theorem applyTimeoutPatch_spec :
    applyTimeoutPatch patch (makeMutableSnapshot snapshot) =
      applyTo snapshot patch (timeoutSettingOf patch.path) := by
  unfold applyTimeoutPatch timeoutSettingOf
  refine applyTo_ite _ _ ?_ (applyTo_ite _ _ ?_ (applyTo_ite _ _ ?_ rfl))
  · exact applyTo_backend snapshot patch .timeoutMs (fun _ => rfl)
      (fun _ => Option.map_id'.symm) fun _ _ => rfl
  · exact applyTo_backend snapshot patch .retryBudget (fun _ => rfl)
      (fun _ => Option.map_id'.symm) fun _ _ => rfl
  · exact applyTo_backend snapshot patch .circuitBreakerThreshold
      (fun _ => rfl) (fun _ => Option.map_id'.symm) fun _ _ => rfl

theorem applyBudgetPatch_spec (setting : Setting) {value : UInt32 → setting.Value}
    {set : RuntimeBudget → UInt32 → RuntimeBudget}
    (hhas : (snapshot.readSetting setting).isSome = true)
    (hvalue : valueOf patch setting = (parseUint32 patch.value).map value)
    (hset : ∀ a, { snapshot with runtimeBudget := set snapshot.runtimeBudget a } =
      snapshot.writeSetting setting (value a)) :
    applyBudgetPatch (makeMutableSnapshot snapshot) patch.value set =
      applyTo snapshot patch (some setting) :=
  applyTo_some snapshot patch setting hhas hvalue fun a => congrArg makeMutableSnapshot (hset a)

theorem changeStageRoute_spec (path : Bytes) (route : Option Bytes) :
    changeStageRoute (makeMutableSnapshot snapshot) path ({ · with fallbackRoute := route }) =
      (stageName path).bind fun stage =>
        if (snapshot.readSetting (.fallbackRoute stage)).isSome then
          some (makeMutableSnapshot (snapshot.writeSetting (.fallbackRoute stage) route))
        else none := by
  unfold changeStageRoute
  cases stageName path with
  | none => rfl
  | some stage =>
    change (if (snapshot.modelProfile.stageRoutes.lookup stage).isSome then _ else _) =
      if ((snapshot.modelProfile.stageRoutes.lookup stage).map
        ModelRoutePolicy.fallbackRoute).isSome then _ else _
    rw [Option.isSome_map]
    rfl

theorem applyStagePatch_spec :
    (if patch.op = .remove then
      changeStageRoute (makeMutableSnapshot snapshot) patch.path ({ · with fallbackRoute := none })
    else
      (nonEmptyText patch.value).bind fun route =>
        changeStageRoute (makeMutableSnapshot snapshot) patch.path
          ({ · with fallbackRoute := some route })) =
      applyTo snapshot patch ((stageName patch.path).map .fallbackRoute) := by
  simp only [changeStageRoute_spec]
  cases stageName patch.path with
  | none =>
    unfold applyTo
    cases nonEmptyText patch.value <;> split <;> rfl
  | some stage =>
    unfold applyTo changeTo valueOf
    rw [Option.map_some, Option.bind_some]
    by_cases hhas : (snapshot.readSetting (.fallbackRoute stage)).isSome
    · simp only [Option.bind_some, if_pos hhas]
      split
      · rfl
      · cases nonEmptyText patch.value <;> rfl
    · simp only [Option.bind_some, if_neg hhas]
      cases nonEmptyText patch.value <;> split <;> rfl

/-- What the code does with a patch is the change of the setting that its path names. -/
theorem applyPatch_spec :
    applyPatch patch (makeMutableSnapshot snapshot) =
      applyTo snapshot patch (settingOf patch.path) := by
  unfold applyPatch settingOf
  -- the limits of the budget
  iterate 5 refine applyTo_ite _ _ (applyBudgetPatch_spec _ _ _ rfl rfl fun _ => rfl) ?_
  refine applyTo_ite _ _ (applyTimeoutPatch_spec _ _) ?_
  -- the settings that are set as they are parsed
  iterate 12 refine applyTo_ite _ _ (applyTo_some _ _ _ rfl Option.map_id'.symm fun _ => rfl) ?_
  exact applyTo_ite _ _ (applyStagePatch_spec _ _) rfl

end

/-! ## A list of patches -/

/-- The changes that the patches make, in the order of the patches. -/
def Changes (base : RuntimePolicySnapshot) :
    List ProfileOverridePatch → List (Sigma Setting.Value) → Prop :=
  List.Forall₂ fun patch change => changeOf base patch = some change

variable {base : RuntimePolicySnapshot} {first : List ProfileOverridePatch}
  {result : RuntimePolicySnapshot} {second : List ProfileOverridePatch}
  {deploymentOverride : Option ProfileOverrideInput} {changes : List (Sigma Setting.Value)}
  {runtimeOverride : Option ProfileOverrideInput}

theorem Changes.append {later : List (Sigma Setting.Value)} (hfirst : Changes base first changes)
    (hsecond : Changes base second later) : Changes base (first ++ second) (changes ++ later) :=
  List.rel_append hfirst hsecond

theorem Changes.split (h : Changes base (first ++ second) changes) :
    ∃ before after, Changes base first before ∧ Changes base second after ∧
      changes = before ++ after := by
  have hflip := List.Forall₂.flip h
  have hbefore := (List.forall₂_take_append _ _ _ hflip).flip
  have hafter := (List.forall₂_drop_append _ _ _ hflip).flip
  exact ⟨_, _, hbefore, hafter, (List.take_append_drop first.length changes).symm⟩

/-- A write makes no stage appear or go, so the changes are those of the base. -/
theorem changeOf_writeAll (base : RuntimePolicySnapshot) (done : List (Sigma Setting.Value))
    (patch : ProfileOverridePatch) :
    changeOf (settingCells.writeAll base done) patch = changeOf base patch := by
  unfold changeOf
  congr 1
  funext setting
  unfold changeTo
  rw [show ((settingCells.writeAll base done).readSetting setting).isSome =
    (base.readSetting setting).isSome from settingCells.isSome_writeAll base done setting]

theorem applyPatch_writeAll (base : RuntimePolicySnapshot) (done : List (Sigma Setting.Value))
    (patch : ProfileOverridePatch) :
    applyPatch patch (makeMutableSnapshot (settingCells.writeAll base done)) =
      (changeOf base patch).map fun change =>
        makeMutableSnapshot (settingCells.writeAll base (done ++ [change])) := by
  rw [applyPatch_spec, ← changeOf_writeAll base done patch]
  unfold applyTo changeOf Cells.writeAll
  simp only [List.foldl_append, List.foldl_cons, List.foldl_nil]
  rfl

theorem applyPatches_eq_ok_iff (base : RuntimePolicySnapshot)
    (patches : List ProfileOverridePatch) (done : List (Sigma Setting.Value))
    (next : MutableRuntimePolicySnapshot) :
    applyPatches (makeMutableSnapshot (settingCells.writeAll base done)) patches = .ok next ↔
      ∃ changes, Changes base patches changes ∧
        next = makeMutableSnapshot (settingCells.writeAll base (done ++ changes)) := by
  induction patches generalizing done with
  | nil =>
    simp only [applyPatches, Changes, List.forall₂_nil_left_iff, exists_eq_left, List.append_nil]
    exact ⟨fun h => (Except.ok.inj h).symm, fun h => congrArg _ h.symm⟩
  | cons patch patches ih =>
    rw [applyPatches, applyPatch_writeAll]
    unfold Changes
    cases hchange : changeOf base patch with
    | none => simp [List.forall₂_cons_left_iff, hchange]
    | some change =>
      rw [Option.map_some]
      dsimp only
      rw [ih (done ++ [change])]
      constructor
      · rintro ⟨changes, hchanges, rfl⟩
        exact ⟨change :: changes, .cons hchange hchanges, by rw [List.append_assoc]; rfl⟩
      · rintro ⟨_, _ | ⟨hfirst, hchanges⟩, rfl⟩
        obtain rfl := Option.some.inj (hchange.symm.trans hfirst)
        exact ⟨_, hchanges, by rw [List.append_assoc]; rfl⟩

/-! ## Both overrides -/

def patchesOf (override : Option ProfileOverrideInput) : List ProfileOverridePatch :=
  (override.map ProfileOverrideInput.patches).getD []

/-- How many layers an override adds. -/
def layerCount (override : Option ProfileOverrideInput) : Nat := override.toList.length

def Valid (base : RuntimePolicySnapshot) (override : Option ProfileOverrideInput) : Prop :=
  ∀ input ∈ override, validateOverride input base = none

theorem applyLayer_eq_ok_iff (base : RuntimePolicySnapshot) (done : List (Sigma Setting.Value))
    (layers : UInt64) (override : Option ProfileOverrideInput)
    (working : MutableRuntimePolicySnapshot × UInt64) :
    applyLayer base (makeMutableSnapshot (settingCells.writeAll base done), layers) override =
        .ok working ↔
      ∃ changes, Valid base override ∧ Changes base (patchesOf override) changes ∧
        working = (makeMutableSnapshot (settingCells.writeAll base (done ++ changes)),
          layers + UInt64.ofNat (layerCount override)) := by
  unfold applyLayer Valid
  cases override with
  | none =>
    simp only [patchesOf, Changes, Option.map_none, Option.getD_none, List.forall₂_nil_left_iff]
    simp [layerCount, eq_comm]
  | some input =>
    simp only [Option.mem_some_iff, forall_eq', patchesOf, Option.map_some, Option.getD_some]
    cases validateOverride input base with
    | some rejectedPaths => simp
    | none =>
      dsimp only
      have hok := applyPatches_eq_ok_iff base input.patches done
      cases happlied : applyPatches (makeMutableSnapshot (settingCells.writeAll base done))
          input.patches with
      | error path =>
        simp only [happlied, reduceCtorEq, false_iff, not_exists, not_and] at hok ⊢
        exact fun changes _ hchanges _ => hok _ changes hchanges rfl
      | ok next =>
        obtain ⟨changes, hchanges, rfl⟩ := (hok next).mp happlied
        constructor
        · intro h
          exact ⟨changes, rfl, hchanges, (Except.ok.inj h).symm⟩
        · rintro ⟨other, -, hother, rfl⟩
          have hsame := happlied.symm.trans ((hok _).mpr ⟨other, hother, rfl⟩)
          rw [Except.ok.inj hsame]
          rfl

/-- The base with the changes written into it. -/
def overlaid (base : RuntimePolicySnapshot) (changes : List (Sigma Setting.Value))
    (layers : Nat) : RuntimePolicySnapshot :=
  { settingCells.writeAll base changes with
    generation := base.generation + UInt64.ofNat layers }

/-- Base and overrides that can be composed, with the changes that the overrides make. -/
structure Composable (base : RuntimePolicySnapshot)
    (deploymentOverride runtimeOverride : Option ProfileOverrideInput)
    (changes : List (Sigma Setting.Value)) : Prop where
  base_consistent : base.hasConsistentValues = true
  deployment_valid : Valid base deploymentOverride
  runtime_valid : Valid base runtimeOverride
  changes_eq : Changes base (patchesOf deploymentOverride ++ patchesOf runtimeOverride) changes
  consistent : (overlaid base changes
    (layerCount deploymentOverride + layerCount runtimeOverride)).hasConsistentValues = true

theorem finishComposition_eq_some_iff (base : RuntimePolicySnapshot)
    (changes : List (Sigma Setting.Value)) (layers : Nat) (result : RuntimePolicySnapshot) :
    (finishComposition base (makeMutableSnapshot (settingCells.writeAll base changes),
        UInt64.ofNat layers)).snapshot = some result ↔
      (overlaid base changes layers).hasConsistentValues = true ∧
        result = { overlaid base changes layers with runtimeSinkPolicy := {} } := by
  have hfrozen : freezeSnapshot { makeMutableSnapshot (settingCells.writeAll base changes) with
        generation := base.generation + UInt64.ofNat layers } =
      { overlaid base changes layers with runtimeSinkPolicy := {} } := rfl
  -- the check of a snapshot does not look at its sink policy
  have hchecked : RuntimePolicySnapshot.hasConsistentValues
        { overlaid base changes layers with runtimeSinkPolicy := {} } =
      (overlaid base changes layers).hasConsistentValues := rfl
  unfold finishComposition
  dsimp only
  rw [hfrozen, hchecked]
  cases (overlaid base changes layers).hasConsistentValues with
  | false => simp [makeOverrideInvalidResult]
  | true => simp [eq_comm]

theorem compose_eq_some_iff (base : RuntimePolicySnapshot)
    (deploymentOverride runtimeOverride : Option ProfileOverrideInput)
    (result : RuntimePolicySnapshot) :
    (compose base deploymentOverride runtimeOverride).snapshot = some result ↔
      ∃ changes, Composable base deploymentOverride runtimeOverride changes ∧
        result = { overlaid base changes
          (layerCount deploymentOverride + layerCount runtimeOverride) with
            runtimeSinkPolicy := {} } := by
  have hdeployment := applyLayer_eq_ok_iff base [] 0 deploymentOverride
  have hruntime := fun done layers => applyLayer_eq_ok_iff base done layers runtimeOverride
  constructor
  · intro h
    unfold compose at h
    split at h
    next => simp [makeOverrideInvalidResult] at h
    next hbase =>
    split at h
    next => simp [makeOverrideInvalidResult] at h
    next working hfirst =>
    obtain ⟨before, hvalid, hbefore, rfl⟩ := (hdeployment working).mp hfirst
    split at h
    next => simp [makeOverrideInvalidResult] at h
    next working hsecond =>
    obtain ⟨after, hvalid', hafter, rfl⟩ := (hruntime _ _ working).mp hsecond
    rw [UInt64.zero_add, ← UInt64.ofNat_add, List.nil_append, finishComposition_eq_some_iff] at h
    exact ⟨before ++ after, ⟨by simpa using hbase, hvalid, hvalid', hbefore.append hafter, h.1⟩, h.2⟩
  · rintro ⟨changes, ⟨hbase, hvalid, hvalid', hchanges, hconsistent⟩, rfl⟩
    obtain ⟨before, after, hbefore, hafter, rfl⟩ := hchanges.split
    unfold compose
    rw [if_neg (by simp [hbase])]
    have hfirst := (hdeployment _).mpr ⟨before, hvalid, hbefore, rfl⟩
    have hsecond := (hruntime ([] ++ before) (0 + UInt64.ofNat (layerCount deploymentOverride))
      _).mpr ⟨after, hvalid', hafter, rfl⟩
    rw [show makeMutableSnapshot base = makeMutableSnapshot (settingCells.writeAll base []) from rfl,
      hfirst]
    dsimp only
    rw [hsecond]
    dsimp only
    rw [UInt64.zero_add, ← UInt64.ofNat_add, List.nil_append, finishComposition_eq_some_iff]
    exact ⟨hconsistent, rfl⟩

theorem compose_generation
    (h : (compose base deploymentOverride runtimeOverride).snapshot = some result) :
    result.generation = base.generation +
      UInt64.ofNat (layerCount deploymentOverride + layerCount runtimeOverride) := by
  obtain ⟨changes, -, rfl⟩ := (compose_eq_some_iff ..).mp h
  rfl

theorem compose_profile
    (h : (compose base deploymentOverride runtimeOverride).snapshot = some result) :
    result.effectiveProfileId = base.effectiveProfileId := by
  obtain ⟨changes, -, rfl⟩ := (compose_eq_some_iff ..).mp h
  exact congrArg RuntimePolicySnapshot.Rest.effectiveProfileId (settingCells.rest_writeAll base changes)

theorem compose_consistent
    (h : (compose base deploymentOverride runtimeOverride).snapshot = some result) :
    result.hasConsistentValues = true := by
  obtain ⟨changes, hcomposable, rfl⟩ := (compose_eq_some_iff ..).mp h
  exact hcomposable.consistent

/-! ## The law of the overlay -/

/-- The result is the base with the changes laid over it, the last change of a setting being the
one that counts, the layers counted on the generation, and all else as it was. -/
structure Overlay (base : RuntimePolicySnapshot) (changes : List (Sigma Setting.Value))
    (layers : Nat) (result : RuntimePolicySnapshot) : Prop where
  generation_eq : result.generation.toNat = base.generation.toNat + layers
  settings_eq : ∀ setting,
    result.readSetting setting = Cells.settled setting changes (base.readSetting setting)
  rest_eq : result.rest = base.rest
  sink_eq : result.runtimeSinkPolicy = base.runtimeSinkPolicy

/-- An override that is taken: it is valid for the base, and every patch of it stays on the paths of
its layer. -/
structure Taken (base : RuntimePolicySnapshot) (input : ProfileOverrideInput) : Prop where
  valid : validateOverride input base = none
  allowed : ∀ patch ∈ input.patches, isPathAllowed input.layer patch.path = true ∧
    isForbiddenPath patch.path = false

theorem taken_of_valid {input : ProfileOverrideInput}
    (h : validateOverride input base = none) : Taken base input := by
  refine ⟨h, fun patch hpatch => ?_⟩
  have hrejected : rejectedPatches input = [] := by
    unfold validateOverride at h
    split_ifs at h with _ _ _ _ _ hrejected
    exact not_not.mp hrejected
  unfold rejectedPatches at hrejected
  have hnone := List.filterMap_eq_nil_iff.mp hrejected patch hpatch
  split_ifs at hnone with _ hforbidden hallowed
  simp_all

/-- What the composition promises for a base and two overrides. -/
def LawfulOverlay (base : RuntimePolicySnapshot)
    (deploymentOverride runtimeOverride : Option ProfileOverrideInput) : Prop :=
  ∀ result, (compose base deploymentOverride runtimeOverride).snapshot = some result →
    (∃ changes, Changes base (patchesOf deploymentOverride ++ patchesOf runtimeOverride) changes ∧
      Overlay base changes (layerCount deploymentOverride + layerCount runtimeOverride) result) ∧
    (∀ input, input ∈ deploymentOverride ∨ input ∈ runtimeOverride → Taken base input) ∧
    result.hasConsistentValues = true

theorem overlay_of_lossless (changes : List (Sigma Setting.Value))
    {layers : Nat} (hsink : base.runtimeSinkPolicy = {})
    (hlayers : base.generation.toNat + layers < 2 ^ 64) :
    Overlay base changes layers { overlaid base changes layers with runtimeSinkPolicy := {} } where
  generation_eq := by
    change (base.generation + UInt64.ofNat layers).toNat = _
    rw [UInt64.toNat_add, UInt64.toNat_ofNat']
    omega
  settings_eq setting := settingCells.read_writeAll base changes setting
  rest_eq := settingCells.rest_writeAll base changes
  sink_eq := hsink.symm

/-- The composition keeps its promise just when the base has the default sink policy, which the
result always gets, and its generation has room for the layers. -/
theorem lawfulOverlay_iff (base : RuntimePolicySnapshot)
    (deploymentOverride runtimeOverride : Option ProfileOverrideInput) :
    LawfulOverlay base deploymentOverride runtimeOverride ↔
      ∀ changes, Composable base deploymentOverride runtimeOverride changes →
        base.runtimeSinkPolicy = {} ∧ base.generation.toNat +
          (layerCount deploymentOverride + layerCount runtimeOverride) < 2 ^ 64 := by
  unfold LawfulOverlay
  simp only [compose_eq_some_iff]
  constructor
  · intro h changes hcomposable
    obtain ⟨⟨other, -, hoverlay⟩, -, -⟩ := h _ ⟨changes, hcomposable, rfl⟩
    refine ⟨hoverlay.sink_eq.symm, ?_⟩
    rw [← hoverlay.generation_eq]
    exact UInt64.toNat_lt _
  · rintro h result ⟨changes, hcomposable, rfl⟩
    obtain ⟨hsink, hlayers⟩ := h changes hcomposable
    refine ⟨⟨changes, hcomposable.changes_eq, overlay_of_lossless changes hsink hlayers⟩, ?_,
      hcomposable.consistent⟩
    rintro input (hdeployment | hruntime)
    · exact taken_of_valid (hcomposable.deployment_valid input hdeployment)
    · exact taken_of_valid (hcomposable.runtime_valid input hruntime)

/-- An audit that fails closes the runtime. -/
def failClosedProfile : RuntimePolicySnapshot where
  generation := 1
  effectiveProfileId := str "desktop_full"
  runtimeBudget :=
    { maxTokens := some 1, maxTurns := some 1, maxToolCalls := some 1, maxLatencyMs := some 1,
      maxReplanCount := some 1 }
  modelProfile := { stageRoutes := AList.singleton (str "planning") { route := str "route" } }
  tokenBudgetPolicy :=
    { maxInputTokens := 1, maxOutputTokens := 1, maxHistoryTurns := 1, compressionThreshold := 1 }
  promptPolicy :=
    { allowedPromptReleases := [str "release"], trustedSources := [str "source"],
      toolVisibilityRules := [] }
  capabilityCachePolicy := { refreshIntervalMs := 1, expireAfterMs := 1 }
  degradePolicy := { fallbackChain := [str "chain"] }
  timeoutPolicy :=
    { llm := { timeoutMs := 1, circuitBreakerThreshold := 1 }
      tool := { timeoutMs := 1, circuitBreakerThreshold := 1 }
      mcp := { timeoutMs := 1, circuitBreakerThreshold := 1 }
      workflow := { timeoutMs := 1, circuitBreakerThreshold := 1 } }
  executionPolicy := { auditLevel := str "full", allowedToolDomains := [] }
  opsPolicy :=
    { logLevel := str "info", metricsGranularity := str "minimal", upgradeStrategy := str "manual" }
  runtimeSinkPolicy := { failClosedOnAuditFailure := true, dropOnMetricsFailure := false }

def debugLogs : ProfileOverrideInput where
  layer := .runtime
  overrideId := str "override"
  sourceKind := .runtimeCommand
  sourceId := str "console"
  issuedBy := str "operator"
  targetScope := .process
  baseVersion := 1
  expiresAtEpochMs := some 1
  reasonCode := str "incident"
  patches := [{ path := str "ops_policy.log_level", value := str "debug" }]

/-- A patch of the log level takes the sink policy away. -/
theorem patch_opens_sink :
    ¬ ∀ (base : RuntimePolicySnapshot) (deploymentOverride runtimeOverride :
      Option ProfileOverrideInput), base.hasConsistentValues = true →
        LawfulOverlay base deploymentOverride runtimeOverride := by
  intro h
  have hsink : ((compose failClosedProfile none (some debugLogs)).snapshot.map
      (·.runtimeSinkPolicy)) = some {} := by decide +kernel
  obtain ⟨result, hresult, hdefault⟩ := Option.map_eq_some_iff.mp hsink
  obtain ⟨⟨_, -, hoverlay⟩, -⟩ :=
    h failClosedProfile none (some debugLogs) (by decide +kernel) result hresult
  exact absurd (hdefault.symm.trans hoverlay.sink_eq) (by decide)

end Dasall.Profiles
