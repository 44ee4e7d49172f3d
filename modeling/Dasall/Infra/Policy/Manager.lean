import Dasall.Infra.Policy.ConflictResolver
import Dasall.Infra.Policy.SnapshotStore
import Dasall.Lib.Threads
import Mathlib.Data.List.Infix

/-!
# The policy manager

Its state under `state_mutex_`, and how it builds the snapshots that it commits.
-/

open Dasall.Lib.Text Dasall.Lib

namespace Dasall.Infra.Policy

/-! ## Snapshots -/

/-- A generation after the last is `0`, as unsigned arithmetic has it. -/
def nextGeneration (previousSnapshot : PolicySnapshot) : UInt64 :=
  if previousSnapshot.isValid then previousSnapshot.generation + 1 else 1

def snapshotModeFromRules (rules : List PolicyRuleDescriptor) (fallback : PolicyMode) :
    PolicyMode :=
  match rules with
  | [] => fallback
  | rule :: _ => rule.mode

def nextSnapshotId (generation : UInt64) : Bytes :=
  str "policy-snapshot-" ++ decimal generation.toNat

def rollbackSnapshotId (targetSnapshotId : Bytes) (generation : UInt64) : Bytes :=
  str "policy-rollback-" ++ decimal generation.toNat ++ str "-from-" ++ targetSnapshotId

def bundleGeneratedAt (bundle : PolicyBundle) (fallback : Bytes) : Bytes :=
  if bundle.generatedAt = [] then fallback else bundle.generatedAt

def mergeSourceChain (previousSnapshot : PolicySnapshot) (sourceRef : Bytes) : List Bytes :=
  previousSnapshot.sourceChain ++ [sourceRef]

/-- Takes the place of the first rule with its id, or the last place. -/
def replaceRule (rule : PolicyRuleDescriptor) : List PolicyRuleDescriptor → List PolicyRuleDescriptor
  | [] => [rule]
  | candidate :: rest =>
    if candidate.ruleId = rule.ruleId then rule :: rest else candidate :: replaceRule rule rest

/-- The rule that a `ReplaceRule` brings, under the id it replaces. -/
def PolicyPatchOperation.replacement (operation : PolicyPatchOperation)
    (rule : PolicyRuleDescriptor) : PolicyRuleDescriptor :=
  { rule with ruleId := if operation.ruleId = [] then rule.ruleId else operation.ruleId }

/-- One operation on the rules and the mode in effect. The validator has seen that an operation
that needs a rule has one. -/
def applyOperation (state : List PolicyRuleDescriptor × PolicyMode)
    (operation : PolicyPatchOperation) : List PolicyRuleDescriptor × PolicyMode :=
  match operation.operation, operation.rule with
  | .addRule, some rule => (state.1 ++ [{ rule with mode := state.2 }], state.2)
  | .replaceRule, some rule =>
    (replaceRule { operation.replacement rule with mode := state.2 } state.1, state.2)
  | .removeRule, _ => (state.1.filter fun candidate => candidate.ruleId ≠ operation.ruleId, state.2)
  | .updateMode, _ =>
    (state.1.map fun rule => { rule with mode := operation.mode }, operation.mode)
  | .addRule, none | .replaceRule, none | .unspecified, _ => state

def applyPatchToSnapshot (currentSnapshot : PolicySnapshot) (patch : PolicyPatch) : PolicyBundle where
  bundleId := str "policy-bundle-patch-" ++ patch.patchId
  schemaVersion := str "1"
  source := str "runtime_patch:" ++ patch.patchId
  checksum := str "patch-checksum:" ++ patch.patchId
  rules := (patch.operations.foldl applyOperation
    (currentSnapshot.effectiveRules, currentSnapshot.mode)).1
  generatedAt :=
    if currentSnapshot.createdAt = [] then str "runtime-patch" else currentSnapshot.createdAt

def buildSnapshot (bundle : PolicyBundle) (effectiveRules : List PolicyRuleDescriptor)
    (previousSnapshot : PolicySnapshot) (snapshotId : Bytes) : PolicySnapshot where
  snapshotId := snapshotId
  generation := nextGeneration previousSnapshot
  version := bundle.schemaVersion
  mode := snapshotModeFromRules effectiveRules
    (if previousSnapshot.isValid then previousSnapshot.mode else .enforced)
  effectiveRules := effectiveRules
  createdAt := bundleGeneratedAt bundle (str "policy-snapshot")
  sourceChain := mergeSourceChain previousSnapshot bundle.source
  lastKnownGoodRef := if previousSnapshot.isValid then previousSnapshot.snapshotId else []

/-- The snapshot that a resolved bundle makes after the previous one. -/
def bundleSnapshot (bundle : PolicyBundle) (previousSnapshot : PolicySnapshot) : PolicySnapshot :=
  buildSnapshot bundle (resolve bundle).effectiveRules previousSnapshot
    (nextSnapshotId (nextGeneration previousSnapshot))

/-- The snapshot that `apply_patch` makes of a snapshot. -/
def patchSnapshot (currentSnapshot : PolicySnapshot) (patch : PolicyPatch) : PolicySnapshot :=
  bundleSnapshot (applyPatchToSnapshot currentSnapshot patch) currentSnapshot

/-- The snapshot that `rollback` makes of its target. -/
def rollbackSnapshot (snapshotId : Bytes) (targetSnapshot currentSnapshot : PolicySnapshot) :
    PolicySnapshot :=
  let generation :=
    if currentSnapshot.isValid then currentSnapshot.generation + 1
    else targetSnapshot.generation + 1
  { snapshotId := rollbackSnapshotId snapshotId generation
    generation
    version := targetSnapshot.version
    mode := targetSnapshot.mode
    effectiveRules := targetSnapshot.effectiveRules
    createdAt := targetSnapshot.createdAt
    sourceChain := mergeSourceChain currentSnapshot (str "rollback:" ++ snapshotId)
    lastKnownGoodRef := targetSnapshot.snapshotId }

/-! ## Reports -/

def conflictReportFromResult (result : ConflictResolutionResult) : ValidationReport where
  blockingErrors := if result.resolved then [] else [result.reasonCode]
  warnings := result.warnings
  invalidRuleIds := result.conflictRuleIds
  fieldPaths := if result.resolved then [] else [str "rules"]

/-- The checks of `dry_run_patch` against the snapshot that it read: the report of the first that
blocks, or the warnings of the resolver. -/
def dryRunChecks (currentSnapshot : PolicySnapshot) (patch : PolicyPatch) :
    Except ValidationReport (List Bytes) :=
  let patchReport := validatePatch currentSnapshot patch
  if patchReport.hasBlockingErrors then .error patchReport
  else
    let candidateBundle := applyPatchToSnapshot currentSnapshot patch
    let bundleReport := validateBundle candidateBundle
    if bundleReport.hasBlockingErrors then .error bundleReport
    else if !(resolve candidateBundle).resolved then
      .error (conflictReportFromResult (resolve candidateBundle))
    else .ok (resolve candidateBundle).warnings

def lowercaseCopy (value : Bytes) : Bytes :=
  value.map fun byte => if 65 ≤ byte ∧ byte ≤ 90 then byte + 32 else byte

def mentions (report : ValidationReport) (text : Bytes) : Bool :=
  report.blockingErrors.any fun error => text <:+: lowercaseCopy error

def classifyBundleValidationError (report : ValidationReport) : PolicyErrorCode :=
  if mentions report (str "schema") then .schemaUnsupported else .bundleInvalid

def classifyPatchValidationError (report : ValidationReport) : PolicyErrorCode :=
  if mentions report (str "patch_base_mismatch") then .patchBaseMismatch else .dryRunRejected

/-! ## The state under the mutex -/

structure SecurityPolicyManagerOptions where
  dryRunRequired : Bool := true
  safeModeThreshold : UInt32 := 3
deriving DecidableEq

structure SecurityPolicyManager where
  options : SecurityPolicyManagerOptions
  consecutivePatchFailures : UInt32 := 0
  safeMode : Bool := false
  lastDryRunPatchId : Bytes := []
  lastDryRunBaseGeneration : UInt64 := 0
deriving DecidableEq

def normalizeSafeModeThreshold (threshold : UInt32) : UInt32 := if threshold = 0 then 1 else threshold

def isUnsignedInteger (value : Bytes) : Bool := value ≠ [] && value.all isDigit

def findRuleConditionValue (rules : List PolicyRuleDescriptor) (action targetSelector key : Bytes) :
    Option Bytes :=
  rules.findSome? fun rule =>
    if rule.action ≠ action ∨ rule.targetSelector ≠ targetSelector then none
    else (rule.conditions.find? fun item => (key ++ str "=").isPrefixOf item).map
      (·.drop (key.length + 1))

namespace SecurityPolicyManager

/-- The constructor. -/
def new (options : SecurityPolicyManagerOptions) : SecurityPolicyManager where
  options :=
    { options with safeModeThreshold := normalizeSafeModeThreshold options.safeModeThreshold }

def notePatchFailureLocked (manager : SecurityPolicyManager) : SecurityPolicyManager :=
  let failures := manager.consecutivePatchFailures + 1
  { manager with
    consecutivePatchFailures := failures
    safeMode := manager.safeMode || manager.options.safeModeThreshold ≤ failures }

def resetPatchFailuresLocked (manager : SecurityPolicyManager) : SecurityPolicyManager :=
  { manager with consecutivePatchFailures := 0, safeMode := false }

def dryRunMatchesLocked (manager : SecurityPolicyManager) (patch : PolicyPatch) : Bool :=
  manager.lastDryRunPatchId ≠ [] && manager.lastDryRunPatchId = patch.patchId &&
    manager.lastDryRunBaseGeneration = patch.baseGeneration

def rememberDryRunLocked (manager : SecurityPolicyManager) (patch : PolicyPatch) :
    SecurityPolicyManager :=
  { manager with
    lastDryRunPatchId := patch.patchId
    lastDryRunBaseGeneration := patch.baseGeneration }

def clearDryRunLocked (manager : SecurityPolicyManager) : SecurityPolicyManager :=
  { manager with lastDryRunPatchId := [], lastDryRunBaseGeneration := 0 }

/-- The value of a gate condition in the rules of a snapshot. -/
def gateCondition (rules : List PolicyRuleDescriptor) (key : String) : Option Bytes :=
  findRuleConditionValue rules (str "apply_patch") (str "policy:runtime_patch") (str key)

def syncDryRunRequired (manager : SecurityPolicyManager) (rules : List PolicyRuleDescriptor) :
    SecurityPolicyManager :=
  match gateCondition rules "dry_run_required" with
  | none => manager
  | some value =>
    { manager with
      options := { manager.options with dryRunRequired := lowercaseCopy value = str "true" } }

/-- `none` where `std::stoul` throws, on digits that are out of its range. -/
def syncSafeModeThreshold (manager : SecurityPolicyManager) (rules : List PolicyRuleDescriptor) :
    Option SecurityPolicyManager :=
  match gateCondition rules "safe_mode_threshold" with
  | none => some manager
  | some value =>
    if !isUnsignedInteger value then some manager
    else
      (stoull value).map fun threshold =>
        { manager with
          options := { manager.options with
            safeModeThreshold := normalizeSafeModeThreshold threshold.toUInt32 } }

/-- What follows a commit under the lock, and whether it got to its end: where
`sync_options_from_rules_locked` throws, failures and dry run stay as they are. -/
def settleCommitLocked (manager : SecurityPolicyManager) (rules : List PolicyRuleDescriptor) :
    SecurityPolicyManager × Bool :=
  let manager := manager.syncDryRunRequired rules
  match manager.syncSafeModeThreshold rules with
  | none => (manager, false)
  | some manager => (manager.resetPatchFailuresLocked.clearDryRunLocked, true)

end SecurityPolicyManager

/-! ## What the checks of a dry run establish -/

theorem dryRunChecks_base (currentSnapshot : PolicySnapshot) (patch : PolicyPatch)
    (warnings : List Bytes) (h : dryRunChecks currentSnapshot patch = .ok warnings) :
    currentSnapshot.isValid = true ∧ patch.patchId ≠ [] ∧
      patch.baseGeneration = currentSnapshot.generation := by
  unfold dryRunChecks at h
  dsimp only at h
  split at h
  · simp at h
  next hpatch =>
  exact validatePatch_clear currentSnapshot patch (by simpa using hpatch)

/-! ## What a patch does to a rule -/

/-- The operation can take the rule out of the effective rules: it names the rule's id, sets
another mode, or brings a rule of the same scope. -/
def PolicyPatchOperation.Removes (operation : PolicyPatchOperation)
    (rule : PolicyRuleDescriptor) : Prop :=
  match operation.operation, operation.rule with
  | .addRule, some added => makeScopeKey added = makeScopeKey rule
  | .replaceRule, some added =>
    (operation.replacement added).ruleId = rule.ruleId ∨ makeScopeKey added = makeScopeKey rule
  | .removeRule, _ => operation.ruleId = rule.ruleId
  | .updateMode, _ => operation.mode ≠ rule.mode
  | .addRule, none | .replaceRule, none | .unspecified, _ => False

/-- The operation can bring the rule: as it stands but for the mode in effect, or by setting its
mode. -/
def PolicyPatchOperation.Brings (operation : PolicyPatchOperation)
    (rule : PolicyRuleDescriptor) : Prop :=
  match operation.operation, operation.rule with
  | .addRule, some added => rule = { added with mode := rule.mode }
  | .replaceRule, some added => rule = { operation.replacement added with mode := rule.mode }
  | .updateMode, _ => operation.mode = rule.mode
  | .removeRule, _ | .addRule, none | .replaceRule, none | .unspecified, _ => False

/-- The rule is there, and no other of its scope. -/
def Alone (rule : PolicyRuleDescriptor) (rules : List PolicyRuleDescriptor) : Prop :=
  rule ∈ rules ∧ ∀ other ∈ rules, makeScopeKey other = makeScopeKey rule → other = rule

variable (state : List PolicyRuleDescriptor × PolicyMode) (operation : PolicyPatchOperation)
  (operations : List PolicyPatchOperation) (rule : PolicyRuleDescriptor)

theorem mem_replaceRule (other : PolicyRuleDescriptor) (rules : List PolicyRuleDescriptor)
    (h : other ∈ replaceRule rule rules) : other = rule ∨ other ∈ rules := by
  induction rules with
  | nil => simpa [replaceRule] using h
  | cons candidate rest ih =>
    unfold replaceRule at h
    split at h
    · rcases List.mem_cons.mp h with hnew | hold
      · exact Or.inl hnew
      · exact Or.inr (List.mem_cons_of_mem _ hold)
    · rcases List.mem_cons.mp h with hsame | hrest
      · exact Or.inr (hsame ▸ List.mem_cons_self)
      · rcases ih hrest with hnew | hold
        · exact Or.inl hnew
        · exact Or.inr (List.mem_cons_of_mem _ hold)

theorem mem_replaceRule_of_ne (other : PolicyRuleDescriptor)
    (rules : List PolicyRuleDescriptor) (hne : other.ruleId ≠ rule.ruleId) (h : other ∈ rules) :
    other ∈ replaceRule rule rules := by
  induction rules with
  | nil => simp at h
  | cons candidate rest ih =>
    unfold replaceRule
    rcases List.mem_cons.mp h with hsame | hrest
    · rw [if_neg (by rw [← hsame]; exact hne), hsame]
      exact List.mem_cons_self
    · split
      · exact List.mem_cons_of_mem _ hrest
      · exact List.mem_cons_of_mem _ (ih hrest)

theorem alone_applyOperation (h : Alone rule state.1)
    (hkeeps : ¬ operation.Removes rule) : Alone rule (applyOperation state operation).1 := by
  obtain ⟨hmem, halone⟩ := h
  unfold PolicyPatchOperation.Removes at hkeeps
  unfold applyOperation
  split
  · next added hadd hrule =>
    rw [hadd, hrule] at hkeeps
    refine ⟨List.mem_append_left _ hmem, fun other hother hscope => ?_⟩
    rcases List.mem_append.mp hother with hold | hnew
    · exact halone other hold hscope
    · rw [List.mem_singleton] at hnew
      rw [hnew] at hscope
      exact absurd hscope hkeeps
  · next added hreplace hrule =>
    rw [hreplace, hrule] at hkeeps
    obtain ⟨hid, hkey⟩ := not_or.mp hkeeps
    refine ⟨mem_replaceRule_of_ne _ rule _ (Ne.symm hid) hmem, fun other hother hscope => ?_⟩
    rcases mem_replaceRule _ other _ hother with hnew | hold
    · rw [hnew] at hscope
      exact absurd hscope hkey
    · exact halone other hold hscope
  · next hremove =>
    rw [hremove] at hkeeps
    refine ⟨List.mem_filter.mpr ⟨hmem, by simpa using Ne.symm hkeeps⟩, fun other hother => ?_⟩
    exact halone other (List.mem_filter.mp hother).1
  · next hmode =>
    rw [hmode] at hkeeps
    have hsame : operation.mode = rule.mode := by simpa using hkeeps
    constructor
    · exact List.mem_map.mpr ⟨rule, hmem, by rw [hsame]⟩
    · intro other hother hscope
      obtain ⟨before, hbefore, rfl⟩ := List.mem_map.mp hother
      rw [halone before hbefore hscope, hsame]
  · exact ⟨hmem, halone⟩
  · exact ⟨hmem, halone⟩
  · exact ⟨hmem, halone⟩

theorem alone_applyOperations
    (h : Alone rule state.1) (hkeeps : ∀ operation ∈ operations, ¬ operation.Removes rule) :
    Alone rule (operations.foldl applyOperation state).1 := by
  induction operations generalizing state with
  | nil => exact h
  | cons operation rest ih =>
    refine ih _ (alone_applyOperation state operation rule h ?_) fun other hother => ?_
    · exact hkeeps operation List.mem_cons_self
    · exact hkeeps other (List.mem_cons_of_mem _ hother)

/-- A rule that an operation left behind was there, or the operation brings it. -/
theorem mem_applyOperation (h : rule ∈ (applyOperation state operation).1) :
    rule ∈ state.1 ∨ operation.Brings rule := by
  unfold PolicyPatchOperation.Brings
  unfold applyOperation at h
  split at h
  · next added hadd hrule =>
    rw [hadd, hrule]
    rcases List.mem_append.mp h with hold | hnew
    · exact Or.inl hold
    · rw [List.mem_singleton] at hnew
      rw [hnew]
      exact Or.inr rfl
  · next added hreplace hrule =>
    rw [hreplace, hrule]
    rcases mem_replaceRule _ rule _ h with hnew | hold
    · rw [hnew]
      exact Or.inr rfl
    · exact Or.inl hold
  · exact Or.inl (List.mem_filter.mp h).1
  · next hmode =>
    rw [hmode]
    obtain ⟨before, -, rfl⟩ := List.mem_map.mp h
    exact Or.inr rfl
  · exact Or.inl h
  · exact Or.inl h
  · exact Or.inl h

theorem mem_applyOperations (h : rule ∈ (operations.foldl applyOperation state).1) :
    rule ∈ state.1 ∨ ∃ operation ∈ operations, operation.Brings rule := by
  induction operations generalizing state with
  | nil => exact Or.inl h
  | cons operation rest ih =>
    rcases ih _ h with hbefore | ⟨later, hlater, hbrings⟩
    · rcases mem_applyOperation state operation rule hbefore with hold | hbrings
      · exact Or.inl hold
      · exact Or.inr ⟨operation, List.mem_cons_self, hbrings⟩
    · exact Or.inr ⟨later, List.mem_cons_of_mem _ hlater, hbrings⟩

/-!
## The calls of a policy manager, interleaved

An action is one critical section of the manager or of the store, with the computation that
follows it up to the next. A trace beside them records what the calls did.
-/

inductive PolicyCall
  | loadPolicy (bundle : PolicyBundle)
  | dryRunPatch (patch : PolicyPatch)
  | applyPatch (patch : PolicyPatch)
  | rollback (snapshotId : Bytes)
  /-- The test hook of the store: its next commit fails. -/
  | injectCommitFailure (reason : Bytes)
deriving DecidableEq

/-- Whose dry run it was: an explicit one, or that of an `apply_patch`, which found
`dry_run_required` set or not when it was entered. -/
inductive DryRunCaller
  | dryRunPatch
  | applyPatch (dryRunRequired : Bool)
deriving DecidableEq

/-- An `apply_patch`, with the length of the trace when it passed its gate, and when its dry run
read the store. -/
structure PatchCall where
  patch : PolicyPatch
  dryRunRequired : Bool
  entered : Nat
  read : Nat
deriving DecidableEq

inductive PolicyOperation
  | load (bundle : PolicyBundle)
  | patch (call : PatchCall)
  | rollback (snapshotId : Bytes) (targetSnapshot : PolicySnapshot)
deriving DecidableEq

structure PolicyCommit where
  operation : PolicyOperation
  snapshot : PolicySnapshot
deriving DecidableEq

inductive PolicyEvent
  /-- A dry run had no blocking errors, and was remembered. -/
  | dryRunPassed (patch : PolicyPatch) (caller : DryRunCaller)
  | committed (commit : PolicyCommit)
deriving DecidableEq

structure PolicyState where
  manager : SecurityPolicyManager
  snapshotStore : PolicySnapshotStore
  trace : List PolicyEvent := []

/-- Where a thread stands in the call it makes. -/
inductive PolicyPhase
  | idle
  /-- The bundle of `load_policy` passed its checks. -/
  | loadResolved (bundle : PolicyBundle)
  | loadBuilt (bundle : PolicyBundle) (nextSnapshot : PolicySnapshot)
  | dryRunPassed (patch : PolicyPatch) (warnings : List Bytes)
  /-- `apply_patch` passed its gate. -/
  | applyAdmitted (patch : PolicyPatch) (dryRunRequired : Bool) (entered : Nat)
  /-- The checks of its dry run passed. -/
  | applyDryRunPassed (call : PatchCall)
  /-- The dry run of `apply_patch` returned. -/
  | applyValidated (call : PatchCall)
  | applyBuilt (call : PatchCall) (nextSnapshot : PolicySnapshot)
  /-- `apply_patch` counts the failure, and returns it. -/
  | applyFailed (result : PolicyOpResult)
  | rollbackFound (snapshotId : Bytes) (targetSnapshot : PolicySnapshot)
  | rollbackBuilt (snapshotId : Bytes) (targetSnapshot nextSnapshot : PolicySnapshot)
  /-- The commit was applied, and its rules are to be synced. -/
  | committed (rules : List PolicyRuleDescriptor) (result : PolicyOpResult)
deriving DecidableEq

inductive PolicyAnswer
  | pending
  | returned (result : PolicyOpResult)
  | reported (report : ValidationReport)
  | threw
deriving DecidableEq

abbrev PolicyStep := (PolicyState × PolicyPhase) × PolicyAnswer

def orElse (text fallback : Bytes) : Bytes := if text = [] then fallback else text

namespace PolicyState

/-- The commit of a call, as it stands in the trace when it is applied. -/
def commit (state : PolicyState) (operation : PolicyOperation) (snapshot : PolicySnapshot) :
    PolicyState × PolicyOpResult :=
  let (snapshotStore, result) := state.snapshotStore.commit snapshot
  ({ state with
    snapshotStore
    trace := if result.applied then
        state.trace ++ [.committed { operation, snapshot := snapshotStore.current }]
      else state.trace }, result)

/-! ## `load_policy` -/

def loadStart (state : PolicyState) (bundle : PolicyBundle) : PolicyStep :=
  let report := validateBundle bundle
  let sourceRef := orElse bundle.bundleId (str "policy-bundle")
  if report.hasBlockingErrors then
    ((state, .idle), .returned (makeFailure (classifyBundleValidationError report)
      (report.blockingErrors.headD []) (str "policy.load") sourceRef))
  else if !(resolve bundle).resolved then
    ((state, .idle), .returned (makeFailure .conflictUnresolved (resolve bundle).reasonCode
      (str "policy.load") sourceRef))
  else ((state, .loadResolved bundle), .pending)

def loadRead (state : PolicyState) (bundle : PolicyBundle) : PolicyStep :=
  ((state, .loadBuilt bundle (bundleSnapshot bundle state.snapshotStore.current)), .pending)

def loadCommit (state : PolicyState) (bundle : PolicyBundle) (nextSnapshot : PolicySnapshot) :
    PolicyStep :=
  let (state, result) := state.commit (.load bundle) nextSnapshot
  if result.applied then ((state, .committed nextSnapshot.effectiveRules result), .pending)
  else ((state, .idle), .returned result)

/-! ## `dry_run_patch` -/

def dryRunRead (state : PolicyState) (patch : PolicyPatch) : PolicyStep :=
  match dryRunChecks state.snapshotStore.current patch with
  | .error report => ((state, .idle), .reported report)
  | .ok warnings => ((state, .dryRunPassed patch warnings), .pending)

/-- `remember_dry_run_locked`, with its event. -/
def rememberDryRun (state : PolicyState) (patch : PolicyPatch) (caller : DryRunCaller) :
    PolicyState :=
  { state with
    manager := state.manager.rememberDryRunLocked patch
    trace := state.trace ++ [.dryRunPassed patch caller] }

def dryRunRemember (state : PolicyState) (patch : PolicyPatch) (warnings : List Bytes) :
    PolicyStep :=
  ((state.rememberDryRun patch .dryRunPatch, .idle), .reported { warnings })

/-! ## `apply_patch` -/

def applyFailure (code : PolicyErrorCode) (message : Bytes) (patch : PolicyPatch) :
    PolicyOpResult :=
  makeFailure code message (str "policy.apply_patch") (orElse patch.patchId (str "policy-patch"))

def applyGate (state : PolicyState) (patch : PolicyPatch) : PolicyStep :=
  if state.manager.safeMode then
    ((state, .idle), .returned (applyFailure .dryRunRejected (str "policy_safe_mode_active") patch))
  else if state.manager.options.dryRunRequired && !state.manager.dryRunMatchesLocked patch then
    (({ state with manager := state.manager.notePatchFailureLocked }, .idle),
      .returned (applyFailure .dryRunRejected (str "policy_patch_dry_run_required") patch))
  else
    ((state, .applyAdmitted patch state.manager.options.dryRunRequired state.trace.length), .pending)

def applyDryRunRead (state : PolicyState) (patch : PolicyPatch) (dryRunRequired : Bool)
    (entered : Nat) : PolicyStep :=
  match dryRunChecks state.snapshotStore.current patch with
  | .error report =>
    ((state, .applyFailed (applyFailure (classifyPatchValidationError report)
      (report.blockingErrors.headD []) patch)), .pending)
  | .ok _ =>
    ((state, .applyDryRunPassed { patch, dryRunRequired, entered, read := state.trace.length }),
      .pending)

def applyDryRunRemember (state : PolicyState) (call : PatchCall) : PolicyStep :=
  ((state.rememberDryRun call.patch (.applyPatch call.dryRunRequired), .applyValidated call),
    .pending)

/-- The second read of the store, from which the snapshot is built. -/
def applyReread (state : PolicyState) (call : PatchCall) : PolicyStep :=
  let currentSnapshot := state.snapshotStore.current
  let resolved := resolve (applyPatchToSnapshot currentSnapshot call.patch)
  if !resolved.resolved then
    ((state, .applyFailed (applyFailure .conflictUnresolved resolved.reasonCode call.patch)),
      .pending)
  else ((state, .applyBuilt call (patchSnapshot currentSnapshot call.patch)), .pending)

def applyCommit (state : PolicyState) (call : PatchCall) (nextSnapshot : PolicySnapshot) :
    PolicyStep :=
  let (state, result) := state.commit (.patch call) nextSnapshot
  if result.applied then ((state, .committed nextSnapshot.effectiveRules result), .pending)
  else ((state, .applyFailed result), .pending)

def applyFail (state : PolicyState) (result : PolicyOpResult) : PolicyStep :=
  (({ state with manager := state.manager.notePatchFailureLocked }, .idle), .returned result)

/-! ## `rollback` -/

def rollbackStart (state : PolicyState) (snapshotId : Bytes) : PolicyStep :=
  let targetSnapshot := state.snapshotStore.getById snapshotId
  if !targetSnapshot.isValid then
    ((state, .idle), .returned (makeFailure .snapshotNotFound (str "policy_snapshot_not_found")
      (str "policy.rollback") (orElse snapshotId (str "policy-snapshot"))))
  else ((state, .rollbackFound snapshotId targetSnapshot), .pending)

def rollbackRead (state : PolicyState) (snapshotId : Bytes) (targetSnapshot : PolicySnapshot) :
    PolicyStep :=
  ((state, .rollbackBuilt snapshotId targetSnapshot
    (rollbackSnapshot snapshotId targetSnapshot state.snapshotStore.current)), .pending)

def rollbackCommit (state : PolicyState) (snapshotId : Bytes)
    (targetSnapshot nextSnapshot : PolicySnapshot) : PolicyStep :=
  let (state, result) := state.commit (.rollback snapshotId targetSnapshot) nextSnapshot
  if result.applied then
    ((state, .committed nextSnapshot.effectiveRules
      (.success nextSnapshot.snapshotId nextSnapshot.generation true)), .pending)
  else
    ((state, .idle), .returned (makeFailure .rollbackFailed
      ((result.errorInfo.map (·.details.message)).getD (str "policy_rollback_failed"))
      (str "policy.rollback") snapshotId))

/-! ## After a commit -/

def settle (state : PolicyState) (rules : List PolicyRuleDescriptor) (result : PolicyOpResult) :
    PolicyStep :=
  (({ state with manager := (state.manager.settleCommitLocked rules).1 }, .idle),
    if (state.manager.settleCommitLocked rules).2 then .returned result else .threw)

/-- The first action of a call. -/
def start (state : PolicyState) : PolicyCall → PolicyStep
  | .loadPolicy bundle => state.loadStart bundle
  | .dryRunPatch patch => state.dryRunRead patch
  | .applyPatch patch => state.applyGate patch
  | .rollback snapshotId => state.rollbackStart snapshotId
  | .injectCommitFailure reason =>
    (({ state with snapshotStore := state.snapshotStore.injectCommitFailureForTest reason },
      .idle), .pending)

/-- The next action of a thread. One that is idle makes the call. -/
def act (call : PolicyCall) (state : PolicyState) : PolicyPhase → PolicyStep
  | .idle => state.start call
  | .loadResolved bundle => state.loadRead bundle
  | .loadBuilt bundle nextSnapshot => state.loadCommit bundle nextSnapshot
  | .dryRunPassed patch warnings => state.dryRunRemember patch warnings
  | .applyAdmitted patch dryRunRequired entered => state.applyDryRunRead patch dryRunRequired entered
  | .applyDryRunPassed call => state.applyDryRunRemember call
  | .applyValidated call => state.applyReread call
  | .applyBuilt call nextSnapshot => state.applyCommit call nextSnapshot
  | .applyFailed result => state.applyFail result
  | .rollbackFound snapshotId targetSnapshot => state.rollbackRead snapshotId targetSnapshot
  | .rollbackBuilt snapshotId targetSnapshot nextSnapshot =>
    state.rollbackCommit snapshotId targetSnapshot nextSnapshot
  | .committed rules result => state.settle rules result

end PolicyState

/-- The manager, its store, and the threads that call it. -/
abbrev PolicyThreads := Threads Nat PolicyState PolicyPhase

/-- Which thread acts, and the call it makes if it is idle. -/
abbrev PolicyAction := Nat × PolicyCall

namespace PolicyThreads

def fresh (options : SecurityPolicyManagerOptions) (maxHistorySnapshots : Nat) : PolicyThreads where
  shared :=
    { manager := .new options
      snapshotStore := .new maxHistorySnapshots }
  locals := fun _ => .idle

def step : PolicyThreads → PolicyAction → PolicyThreads × PolicyAnswer :=
  Threads.step PolicyState.act

end PolicyThreads

/-! ## The trace -/

def PolicyEvent.commit? : PolicyEvent → Option PolicyCommit
  | .committed commit => some commit
  | .dryRunPassed _ _ => none

def commits (trace : List PolicyEvent) : List PolicyCommit := trace.filterMap PolicyEvent.commit?

/-! ## A bundle, and patches of its first generation -/

def sampleRule (ruleId targetSelector : String) : PolicyRuleDescriptor where
  ruleId := str ruleId
  domain := .pluginLoad
  subject := str "ops-user"
  action := str "load"
  targetSelector := str targetSelector
  effect := .allow
  mode := .enforced
  reasonCode := str "plugin_allowed"

def sampleBundle : PolicyBundle where
  bundleId := str "policy-manager-bundle"
  schemaVersion := str "1"
  source := str "source_id=defaults"
  checksum := str "sha256:policy-manager"
  rules := [sampleRule "plugin-policy-rule" "manifest:plugin.echo"]
  generatedAt := str "2026-04-05T18:30:00Z"

def samplePatch (patchId targetSelector : String) : PolicyPatch where
  patchId := str patchId
  baseGeneration := 1
  operations := [{ operation := .addRule, rule := some (sampleRule patchId targetSelector) }]
  actor := str "ops-user"
  reason := str "policy-manager-test"

end Dasall.Infra.Policy
