import Dasall.Lib.Run
import Dasall.Tools.Registry.ToolRegistry

/-!
# The integrity of the tool registry

Both pairs of maps agree after every call. A binding is accepted only where its tool is registered, but
nothing looks at the bindings when the tools of a source go.
-/

open Dasall.Contracts.Tool Dasall.Lib Dasall.Lib.OwnedIndex Dasall.Lib.Run Dasall.Lib.Text

namespace Dasall.Tools.Registry

open ToolRegistrySnapshot

/-- Every binding names a descriptor that is registered. -/
def Resolved (snapshot : ToolRegistrySnapshot) : Prop :=
  ∀ key record, snapshot.mcpBindingRegistry.records.lookup key = some record →
    (snapshot.descriptors.records.lookup record.1.internalToolName).isSome = true

structure Integrity (snapshot : ToolRegistrySnapshot) : Prop where
  descriptors : snapshot.descriptors.Consistent
  bindings : snapshot.mcpBindingRegistry.Consistent
  resolved : Resolved snapshot

def isPluginOperation : Operation → Bool
  | .registerBuiltin _ => false
  | _ => true

/-- What is promised of one call. -/
structure StepLawful (snapshot : ToolRegistrySnapshot) (operation : Operation) : Prop where
  integrity : Integrity (step snapshot operation).1
  builtinKept : isPluginOperation operation = true → ∀ toolName descriptor,
    snapshot.descriptors.records.lookup toolName = some (descriptor, builtinSourceKey) →
      (step snapshot operation).1.descriptors.records.lookup toolName =
        some (descriptor, builtinSourceKey)
  refused : (step snapshot operation).2 = false → (step snapshot operation).1 = snapshot
  revised : (step snapshot operation).2 = true →
    (step snapshot operation).1.revision.toNat = snapshot.revision.toNat + 1

/-! ## What a call publishes -/

def namesPlugin (sourceKey : Bytes) : Bool := !(sourceKey.isEmpty || isBuiltinSource sourceKey)

/-- The descriptors without those of a source. -/
def baseOf (snapshot : ToolRegistrySnapshot) (sourceKey : Bytes) : ToolRegistrySnapshot :=
  (snapshot.revokeDescriptorsForSource sourceKey).getD snapshot

/-- The checks of a call, all passed. -/
def publishes (snapshot : ToolRegistrySnapshot) : Operation → Bool
  | .registerBuiltin descriptor => descriptor.toolName.isSome && accepts descriptor
  | .applyPluginExtensionDelta sourceKey descriptors =>
    namesPlugin sourceKey &&
      if descriptors.isEmpty then (snapshot.revokeDescriptorsForSource sourceKey).isSome
      else (baseOf snapshot sourceKey).validatePluginDescriptorBatch [] descriptors
  | .upsertMcpBindings sourceKey bindings =>
    namesPlugin sourceKey &&
      if bindings.isEmpty then (snapshot.mcpBindingRegistry.revoke sourceKey).isSome
      else snapshot.validateBindingBatch bindings && acceptsBatch bindings
  | .revokeMcpBindingsForSource sourceKey =>
    namesPlugin sourceKey && (snapshot.mcpBindingRegistry.revoke sourceKey).isSome
  | .revokeSource sourceKey =>
    namesPlugin sourceKey && ((snapshot.revokeDescriptorsForSource sourceKey).isSome ||
      (snapshot.mcpBindingRegistry.revoke sourceKey).isSome)

variable {sourceKey : Bytes}

theorem namesPlugin_iff : namesPlugin sourceKey = true ↔
    sourceKey ≠ [] ∧ sourceKey ≠ builtinSourceKey := by
  simp [namesPlugin, isBuiltinSource]

theorem baseOf_mcpBindingRegistry (snapshot : ToolRegistrySnapshot) (sourceKey : Bytes) :
    (baseOf snapshot sourceKey).mcpBindingRegistry = snapshot.mcpBindingRegistry := by
  unfold baseOf revokeDescriptorsForSource
  rcases snapshot.descriptors.revoke sourceKey with _ | descriptors <;> rfl

theorem baseOf_descriptors (snapshot : ToolRegistrySnapshot) (sourceKey : Bytes) :
    (baseOf snapshot sourceKey).descriptors =
      (snapshot.descriptors.revoke sourceKey).getD snapshot.descriptors := by
  unfold baseOf revokeDescriptorsForSource
  rcases snapshot.descriptors.revoke sourceKey with _ | descriptors <;> rfl

/-! ## Batches -/

variable {descriptor : ToolDescriptor} {descriptors : List ToolDescriptor}

theorem upsertDescriptor_some {snapshot : ToolRegistrySnapshot} {sourceKey toolName : Bytes}
    (hsource : sourceKey ≠ []) (hname : descriptor.toolName = some toolName)
    (haccepts : accepts descriptor = true) :
    snapshot.upsertDescriptor descriptor sourceKey =
      some { snapshot with
        descriptors := snapshot.descriptors.assign toolName descriptor sourceKey } := by
  unfold upsertDescriptor
  rw [if_neg (by simpa using hsource)]
  simp [hname, haccepts]

/-- What a batch of descriptors leaves: the others as they were, and the new ones registered. -/
structure Upserted (sourceKey : Bytes) (descriptors : List ToolDescriptor)
    (snapshot next : ToolRegistrySnapshot) : Prop where
  consistent : snapshot.descriptors.Consistent → next.descriptors.Consistent
  bindings : next.mcpBindingRegistry = snapshot.mcpBindingRegistry
  kept : ∀ toolName, some toolName ∉ descriptors.map ToolDescriptor.toolName →
    next.descriptors.records.lookup toolName = snapshot.descriptors.records.lookup toolName
  registered : ∀ toolName, some toolName ∈ descriptors.map ToolDescriptor.toolName →
    (next.descriptors.records.lookup toolName).isSome = true

theorem upserted_cons {snapshot next : ToolRegistrySnapshot} {toolName : Bytes}
    (hname : descriptor.toolName = some toolName)
    (hrest : Upserted sourceKey descriptors
      { snapshot with descriptors := snapshot.descriptors.assign toolName descriptor sourceKey } next) :
    Upserted sourceKey (descriptor :: descriptors) snapshot next where
  consistent h := hrest.consistent (h.assign toolName descriptor sourceKey)
  bindings := hrest.bindings
  kept other hother := by
    rw [List.map_cons, List.mem_cons, not_or, hname, Option.some.injEq] at hother
    rw [hrest.kept other hother.2, records_assign, AList.lookup_insert_ne hother.1]
  registered other hother := by
    by_cases hlater : some other ∈ descriptors.map ToolDescriptor.toolName
    · exact hrest.registered other hlater
    · rw [List.map_cons, List.mem_cons, hname, Option.some.injEq] at hother
      rw [hrest.kept other hlater, records_assign, hother.resolve_right hlater, AList.lookup_insert]
      rfl

theorem upsertAll_some (hsource : sourceKey ≠ []) (start : ToolRegistrySnapshot)
    (seen : List Bytes) (descriptors : List ToolDescriptor) (snapshot : ToolRegistrySnapshot)
    (h : start.validatePluginDescriptorBatch seen descriptors = true) :
    ∃ next, upsertAll sourceKey descriptors snapshot = some next ∧
      Upserted sourceKey descriptors snapshot next := by
  induction descriptors generalizing seen snapshot with
  | nil => exact ⟨snapshot, rfl, id, rfl, fun _ _ => rfl, nofun⟩
  | cons descriptor descriptors ih =>
    unfold validatePluginDescriptorBatch at h
    split at h
    · cases h
    next toolName hname =>
    simp only [Bool.and_eq_true] at h
    obtain ⟨⟨⟨haccepts, -⟩, -⟩, hrest⟩ := h
    unfold upsertAll
    rw [upsertDescriptor_some hsource hname haccepts, Option.bind_some]
    obtain ⟨next, hnext, hupserted⟩ := ih _ _ hrest
    exact ⟨next, hnext, upserted_cons hname hupserted⟩

theorem validated_new {snapshot : ToolRegistrySnapshot} {seen : List Bytes}
    (h : snapshot.validatePluginDescriptorBatch seen descriptors = true) :
    ∀ toolName, some toolName ∈ descriptors.map ToolDescriptor.toolName →
      snapshot.descriptors.records.lookup toolName = none := by
  induction descriptors generalizing seen with
  | nil => exact nofun
  | cons descriptor descriptors ih =>
    unfold validatePluginDescriptorBatch at h
    split at h
    · cases h
    next toolName hname =>
    simp only [Bool.and_eq_true] at h
    obtain ⟨⟨-, hnew⟩, hrest⟩ := h
    intro other hother
    rw [List.map_cons, List.mem_cons, hname, Option.some.injEq] at hother
    rcases hother with rfl | hlater
    · simpa using hnew
    · exact ih hrest other hlater

theorem putBinding_consistent (sourceKey : Bytes) (bindings : List MCPToolBinding)
    (registry : MCPBindingRegistry) (h : registry.Consistent) :
    (bindings.foldl (putBinding sourceKey) registry).Consistent := by
  induction bindings generalizing registry with
  | nil => exact h
  | cons binding bindings ih => exact ih _ (h.reassign ..)

/-- A binding that is there after a batch is one of the batch, or was there before. -/
theorem lookup_putBinding (sourceKey : Bytes) (bindings : List MCPToolBinding)
    (registry : MCPBindingRegistry) (key : BindingKey) (record : MCPToolBinding × Bytes)
    (h : (bindings.foldl (putBinding sourceKey) registry).records.lookup key = some record) :
    record.1 ∈ bindings ∨ registry.records.lookup key = some record := by
  induction bindings generalizing registry with
  | nil => exact .inr h
  | cons binding bindings ih =>
    rw [List.foldl_cons] at h
    rcases ih _ h with hmem | hbefore
    · exact .inl (List.mem_cons_of_mem _ hmem)
    · unfold putBinding at hbefore
      rw [records_reassign] at hbefore
      by_cases hkey : key = makeKey binding
      · rw [hkey, AList.lookup_insert, Option.some.injEq] at hbefore
        rw [← hbefore]
        exact .inl List.mem_cons_self
      · rw [AList.lookup_insert_ne hkey] at hbefore
        exact .inr hbefore

/-! ## Calls that publish -/

/-- No binding that stays names a descriptor that goes: neither one that a new batch of its source
leaves out, nor, where a source is revoked, one of that source. -/
def KeepsResolved (snapshot : ToolRegistrySnapshot) : Operation → Prop
  | .applyPluginExtensionDelta sourceKey descriptors => ∀ key record,
      snapshot.mcpBindingRegistry.records.lookup key = some record → ∀ descriptor,
        snapshot.descriptors.records.lookup record.1.internalToolName = some (descriptor, sourceKey) →
          some record.1.internalToolName ∈ descriptors.map ToolDescriptor.toolName
  | .revokeSource sourceKey => ∀ key record,
      snapshot.mcpBindingRegistry.records.lookup key = some record → record.2 ≠ sourceKey →
        ∀ descriptor, snapshot.descriptors.records.lookup record.1.internalToolName ≠
          some (descriptor, sourceKey)
  | _ => True

/-- A snapshot that a call publishes. -/
structure Published (snapshot : ToolRegistrySnapshot) (operation : Operation)
    (next : ToolRegistrySnapshot) : Prop where
  descriptors : next.descriptors.Consistent
  bindings : next.mcpBindingRegistry.Consistent
  builtinKept : isPluginOperation operation = true → ∀ toolName descriptor,
    snapshot.descriptors.records.lookup toolName = some (descriptor, builtinSourceKey) →
      next.descriptors.records.lookup toolName = some (descriptor, builtinSourceKey)
  resolved : Resolved next ↔ KeepsResolved snapshot operation

section
variable {snapshot : ToolRegistrySnapshot} (h : Integrity snapshot)
include h

theorem registerBuiltin_published
    (hpublishes : publishes snapshot (.registerBuiltin descriptor) = true) :
    ∃ next, step snapshot (.registerBuiltin descriptor) = snapshot.publish (some next) ∧
      Published snapshot (.registerBuiltin descriptor) next := by
  unfold publishes at hpublishes
  rw [Bool.and_eq_true] at hpublishes
  obtain ⟨toolName, hname⟩ := Option.isSome_iff_exists.mp hpublishes.1
  have hupsert := @upsertDescriptor_some descriptor snapshot builtinSourceKey toolName
    (by decide) hname hpublishes.2
  refine ⟨_, congrArg snapshot.publish hupsert, h.descriptors.assign .., h.bindings, nofun, ?_⟩
  refine iff_of_true (fun key record hrecord => ?_) trivial
  rw [records_assign]
  by_cases hsame : record.1.internalToolName = toolName
  · rw [hsame, AList.lookup_insert]
    rfl
  · rw [AList.lookup_insert_ne hsame]
    exact h.resolved key record hrecord

theorem baseOf_lookup (sourceKey toolName : Bytes) :
    (baseOf snapshot sourceKey).descriptors.records.lookup toolName =
      (snapshot.descriptors.records.lookup toolName).filter fun record => record.2 ≠ sourceKey := by
  rw [baseOf_descriptors]
  exact lookup_revoke_getD h.descriptors sourceKey toolName

theorem baseOf_keeps {sourceKey toolName owner : Bytes} (howner : owner ≠ sourceKey)
    (hlookup : snapshot.descriptors.records.lookup toolName = some (descriptor, owner)) :
    (baseOf snapshot sourceKey).descriptors.records.lookup toolName = some (descriptor, owner) := by
  rw [baseOf_lookup h, hlookup]
  exact Option.filter_some_pos (by simpa using howner)

theorem baseOf_isSome (sourceKey toolName : Bytes) :
    ((baseOf snapshot sourceKey).descriptors.records.lookup toolName).isSome = true ↔
      (snapshot.descriptors.records.lookup toolName).isSome = true ∧
        ∀ descriptor, snapshot.descriptors.records.lookup toolName ≠ some (descriptor, sourceKey) := by
  rw [baseOf_lookup h]
  rcases hlookup : snapshot.descriptors.records.lookup toolName with _ | ⟨descriptor, owner⟩
  · simp
  · by_cases howner : owner = sourceKey
    · subst howner
      simp [Option.filter_some]
    · simp [Option.filter_some, howner]

variable {sourceKey : Bytes}

theorem delta_published
    (hpublishes : publishes snapshot (.applyPluginExtensionDelta sourceKey descriptors) = true) :
    ∃ next, step snapshot (.applyPluginExtensionDelta sourceKey descriptors) =
        snapshot.publish (some next) ∧
      Published snapshot (.applyPluginExtensionDelta sourceKey descriptors) next := by
  unfold publishes at hpublishes
  rw [Bool.and_eq_true] at hpublishes
  obtain ⟨hplugin, hchecks⟩ := hpublishes
  obtain ⟨hsource, hbuiltin⟩ := namesPlugin_iff.mp hplugin
  have hstep : ∃ next, step snapshot (.applyPluginExtensionDelta sourceKey descriptors) =
      snapshot.publish (some next) ∧
        Upserted sourceKey descriptors (baseOf snapshot sourceKey) next ∧
          ∀ toolName, some toolName ∈ descriptors.map ToolDescriptor.toolName →
            (baseOf snapshot sourceKey).descriptors.records.lookup toolName = none := by
    simp only [step, applyPluginExtensionDelta]
    rw [if_neg (by simpa [namesPlugin] using hplugin)]
    split at hchecks
    · next hempty =>
      rw [List.isEmpty_iff] at hempty
      subst hempty
      have hne := Option.isSome_iff_ne_none.mp hchecks
      rw [if_neg (by simp), if_neg (by simpa using hne)]
      exact ⟨_, rfl, ⟨id, rfl, fun _ _ => rfl, nofun⟩, nofun⟩
    · next hsome =>
      have hvalid : ((snapshot.revokeDescriptorsForSource sourceKey).getD
          snapshot).validatePluginDescriptorBatch [] descriptors = true := hchecks
      rw [if_neg (by simp [hvalid]), if_neg (by simp [hsome])]
      obtain ⟨next, hnext, hupserted⟩ := upsertAll_some hsource _ [] descriptors
        (baseOf snapshot sourceKey) hvalid
      exact ⟨next, congrArg snapshot.publish hnext, hupserted, validated_new hvalid⟩
  obtain ⟨next, hnext, hupserted, hnew⟩ := hstep
  refine ⟨next, hnext, ?_, ?_, ?_, ?_⟩
  · apply hupserted.consistent
    rw [baseOf_descriptors]
    exact h.descriptors.revoke_getD sourceKey
  · rw [hupserted.bindings, baseOf_mcpBindingRegistry]
    exact h.bindings
  · intro _ toolName descriptor hlookup
    have hbase := baseOf_keeps h (Ne.symm hbuiltin) hlookup
    rw [hupserted.kept toolName, hbase]
    intro hmem
    rw [hnew toolName hmem] at hbase
    cases hbase
  · unfold Resolved KeepsResolved
    rw [hupserted.bindings, baseOf_mcpBindingRegistry]
    refine forall_congr' fun key => forall_congr' fun record => forall_congr' fun hrecord => ?_
    by_cases hmem : some record.1.internalToolName ∈ descriptors.map ToolDescriptor.toolName
    · exact iff_of_true (hupserted.registered _ hmem) fun _ _ => hmem
    · rw [hupserted.kept _ hmem, baseOf_isSome h]
      constructor
      · exact fun hkept descriptor hlookup => absurd hlookup (hkept.2 descriptor)
      · intro hkept
        exact ⟨h.resolved key record hrecord, fun descriptor hlookup =>
          hmem (hkept descriptor hlookup)⟩

theorem revokeMcp_published
    (hpublishes : publishes snapshot (.revokeMcpBindingsForSource sourceKey) = true) :
    ∃ next, step snapshot (.revokeMcpBindingsForSource sourceKey) = snapshot.publish (some next) ∧
      Published snapshot (.revokeMcpBindingsForSource sourceKey) next := by
  unfold publishes at hpublishes
  rw [Bool.and_eq_true] at hpublishes
  obtain ⟨hplugin, hsome⟩ := hpublishes
  obtain ⟨bindings, hrevoke⟩ := Option.isSome_iff_exists.mp hsome
  have hsource := (namesPlugin_iff.mp hplugin).1
  refine ⟨{ snapshot with mcpBindingRegistry := bindings }, ?_, h.descriptors, h.bindings.revoke hrevoke,
    fun _ _ _ hlookup => hlookup, iff_of_true (fun key record hrecord => ?_) trivial⟩
  · simp only [step, revokeMcpBindingsForSource, revokeBindings]
    rw [if_neg (by simpa [namesPlugin] using hplugin), if_neg (by simpa using hsource), hrevoke]
    rfl
  · rw [lookup_revoke h.bindings hrevoke, Option.filter_eq_some_iff] at hrecord
    exact h.resolved key record hrecord.1

theorem upsertMcp_published {bindings : List MCPToolBinding}
    (hpublishes : publishes snapshot (.upsertMcpBindings sourceKey bindings) = true) :
    ∃ next, step snapshot (.upsertMcpBindings sourceKey bindings) = snapshot.publish (some next) ∧
      Published snapshot (.upsertMcpBindings sourceKey bindings) next := by
  unfold publishes at hpublishes
  rw [Bool.and_eq_true] at hpublishes
  obtain ⟨hplugin, hchecks⟩ := hpublishes
  split at hchecks
  · next hempty =>
    -- An empty batch revokes the bindings of its source.
    have hrevokes : publishes snapshot (.revokeMcpBindingsForSource sourceKey) = true := by
      simp [publishes, hplugin, hchecks]
    obtain ⟨next, hnext, hpublished⟩ := revokeMcp_published h hrevokes
    refine ⟨next, ?_, hpublished.1, hpublished.2, fun _ => hpublished.3 rfl, hpublished.4⟩
    simp only [step, upsertMcpBindings]
    rw [if_pos hempty]
    exact hnext
  · next hsome =>
    rw [Bool.and_eq_true] at hchecks
    obtain ⟨hvalid, hbatch⟩ := hchecks
    have hsource := (namesPlugin_iff.mp hplugin).1
    refine ⟨{ snapshot with
      mcpBindingRegistry := bindings.foldl (putBinding sourceKey)
        ((snapshot.mcpBindingRegistry.revoke sourceKey).getD snapshot.mcpBindingRegistry) }, ?_,
      h.descriptors, putBinding_consistent _ _ _ (h.bindings.revoke_getD sourceKey),
      fun _ _ _ hlookup => hlookup, iff_of_true (fun key record hrecord => ?_) trivial⟩
    · simp only [step, upsertMcpBindings, replaceSourceBindings]
      rw [if_neg hsome, if_neg (by simpa [namesPlugin] using hplugin), if_neg (by simp [hvalid]),
        if_neg (by simpa using hsource), if_neg (by simp [hbatch])]
      rfl
    · rcases lookup_putBinding _ _ _ _ _ hrecord with hmem | hbefore
      · have hbinding := List.all_eq_true.mp hvalid record.1 hmem
        rw [Bool.and_eq_true] at hbinding
        exact hbinding.2
      · rw [lookup_revoke_getD h.bindings, Option.filter_eq_some_iff] at hbefore
        exact h.resolved key record hbefore.1

theorem revokeSource_published
    (hpublishes : publishes snapshot (.revokeSource sourceKey) = true) :
    ∃ next, step snapshot (.revokeSource sourceKey) = snapshot.publish (some next) ∧
      Published snapshot (.revokeSource sourceKey) next := by
  unfold publishes at hpublishes
  rw [Bool.and_eq_true, Bool.or_eq_true] at hpublishes
  obtain ⟨hplugin, hsome⟩ := hpublishes
  obtain ⟨hsource, hbuiltin⟩ := namesPlugin_iff.mp hplugin
  have hstep : step snapshot (.revokeSource sourceKey) = snapshot.publish (some
      { baseOf snapshot sourceKey with
        mcpBindingRegistry :=
          (snapshot.mcpBindingRegistry.revoke sourceKey).getD snapshot.mcpBindingRegistry }) := by
    have hbase := baseOf_mcpBindingRegistry snapshot sourceKey
    simp only [step, revokeSource, revokeBindings]
    rw [if_neg (by simpa [namesPlugin] using hplugin), if_neg (by simpa using hsource)]
    change (match (baseOf snapshot sourceKey).mcpBindingRegistry.revoke sourceKey with
      | some mcpBindingRegistry => snapshot.publish
          (some { baseOf snapshot sourceKey with mcpBindingRegistry })
      | none => snapshot.publish (snapshot.revokeDescriptorsForSource sourceKey)) = _
    rw [hbase]
    rcases hrevoke : snapshot.mcpBindingRegistry.revoke sourceKey with _ | bindings
    · rw [hrevoke] at hsome
      obtain ⟨next, hnext⟩ := Option.isSome_iff_exists.mp (hsome.resolve_right (by simp))
      have hsame : baseOf snapshot sourceKey = next := by simp [baseOf, hnext]
      simp only [hnext, Option.getD_none]
      rw [← hbase, hsame]
    · rfl
  refine ⟨_, hstep, ?_, h.bindings.revoke_getD sourceKey, ?_, ?_⟩
  · dsimp only
    rw [baseOf_descriptors]
    exact h.descriptors.revoke_getD sourceKey
  · exact fun _ toolName descriptor hlookup => baseOf_keeps h (Ne.symm hbuiltin) hlookup
  · unfold Resolved KeepsResolved
    dsimp only
    constructor
    · intro hresolved key record hrecord howner
      have hkept := hresolved key record (by
        rw [lookup_revoke_getD h.bindings, hrecord]
        exact Option.filter_some_pos (by simpa using howner))
      exact ((baseOf_isSome h sourceKey _).mp hkept).2
    · intro hkeeps key record hrecord
      rw [lookup_revoke_getD h.bindings, Option.filter_eq_some_iff] at hrecord
      rw [baseOf_isSome h]
      exact ⟨h.resolved key record hrecord.1, hkeeps key record hrecord.1 (by simpa using hrecord.2)⟩

theorem step_published {operation : Operation} (hpublishes : publishes snapshot operation = true) :
    ∃ next, step snapshot operation = snapshot.publish (some next) ∧
      Published snapshot operation next := by
  cases operation with
  | registerBuiltin descriptor => exact registerBuiltin_published h hpublishes
  | applyPluginExtensionDelta sourceKey descriptors => exact delta_published h hpublishes
  | upsertMcpBindings sourceKey bindings => exact upsertMcp_published h hpublishes
  | revokeMcpBindingsForSource sourceKey => exact revokeMcp_published h hpublishes
  | revokeSource sourceKey => exact revokeSource_published h hpublishes

end

/-! ## Calls that are refused -/

theorem refused_plugin {sourceKey : Bytes} (h : namesPlugin sourceKey = false) :
    (sourceKey.isEmpty || isBuiltinSource sourceKey) = true := by
  unfold namesPlugin at h
  rwa [Bool.not_eq_false'] at h

variable {snapshot : ToolRegistrySnapshot}

theorem revokeMcp_refused {sourceKey : Bytes}
    (h : publishes snapshot (.revokeMcpBindingsForSource sourceKey) = false) :
    snapshot.revokeMcpBindingsForSource sourceKey = (snapshot, false) := by
  unfold revokeMcpBindingsForSource
  rcases hplugin : namesPlugin sourceKey with _ | _
  · rw [if_pos (refused_plugin hplugin)]
  · have hnone : snapshot.mcpBindingRegistry.revoke sourceKey = none := by
      simpa [publishes, hplugin] using h
    have hsource := (namesPlugin_iff.mp hplugin).1
    rw [if_neg (by simpa [namesPlugin] using hplugin), revokeBindings,
      if_neg (by simpa using hsource), hnone]
    rfl

theorem step_refused {operation : Operation}
    (h : publishes snapshot operation = false) : step snapshot operation = (snapshot, false) := by
  cases operation with
  | registerBuiltin descriptor =>
    simp only [step, registerBuiltin, upsertDescriptor]
    rw [if_neg (by decide)]
    split
    · rfl
    · next toolName hname =>
      have haccepts : accepts descriptor = false := by simpa [publishes, hname] using h
      rw [if_pos (by simp [haccepts])]
      rfl
  | applyPluginExtensionDelta sourceKey descriptors =>
    simp only [step, applyPluginExtensionDelta]
    rcases hplugin : namesPlugin sourceKey with _ | _
    · rw [if_pos (refused_plugin hplugin)]
    · rw [if_neg (by simpa [namesPlugin] using hplugin)]
      simp only [publishes, hplugin, Bool.true_and] at h
      split at h
      · next hempty =>
        have hnone : snapshot.revokeDescriptorsForSource sourceKey = none := by simpa using h
        simp [hempty, hnone]
      · next hsome =>
        have hinvalid : ((snapshot.revokeDescriptorsForSource sourceKey).getD
            snapshot).validatePluginDescriptorBatch [] descriptors = false := h
        rw [if_pos (by simp [hsome, hinvalid])]
  | upsertMcpBindings sourceKey bindings =>
    simp only [step, upsertMcpBindings]
    by_cases hempty : bindings.isEmpty = true
    · rw [if_pos hempty]
      apply revokeMcp_refused
      simpa [publishes, hempty] using h
    · rw [if_neg hempty]
      rcases hplugin : namesPlugin sourceKey with _ | _
      · rw [if_pos (refused_plugin hplugin)]
      · rw [if_neg (by simpa [namesPlugin] using hplugin)]
        rcases hvalid : snapshot.validateBindingBatch bindings with _ | _
        · rfl
        · have hbatch : acceptsBatch bindings = false := by
            simpa [publishes, hplugin, hempty, hvalid] using h
          simp [replaceSourceBindings, hbatch, publish]
  | revokeMcpBindingsForSource sourceKey => exact revokeMcp_refused h
  | revokeSource sourceKey =>
    simp only [step, revokeSource]
    rcases hplugin : namesPlugin sourceKey with _ | _
    · rw [if_pos (refused_plugin hplugin)]
    · have hsource := (namesPlugin_iff.mp hplugin).1
      simp only [publishes, hplugin, Bool.true_and, Bool.or_eq_false_iff, Option.isSome_eq_false_iff,
        Option.isNone_iff_eq_none] at h
      rw [if_neg (by simpa [namesPlugin] using hplugin), h.1, Option.getD_none, revokeBindings,
        if_neg (by simpa using hsource), h.2]
      rfl

/-! ## Runs -/

/-- A call that publishes keeps every binding resolved, and does not wrap the revision. -/
def Harmless (snapshot : ToolRegistrySnapshot) (operation : Operation) : Prop :=
  publishes snapshot operation = true →
    snapshot.revision.toNat + 1 < 2 ^ 64 ∧ KeepsResolved snapshot operation

theorem revision_next (revision : UInt64) :
    (revision + 1).toNat = revision.toNat + 1 ↔ revision.toNat + 1 < 2 ^ 64 := by
  rw [UInt64.toNat_add]
  simp

theorem stepLawful_iff (h : Integrity snapshot)
    (operation : Operation) : StepLawful snapshot operation ↔ Harmless snapshot operation := by
  rcases hpublishes : publishes snapshot operation with _ | _
  · have hstep := step_refused hpublishes
    refine iff_of_true ⟨?_, ?_, ?_, ?_⟩ fun htrue => absurd htrue (by simp [hpublishes])
    · rw [hstep]
      exact h
    · rw [hstep]
      exact fun _ _ _ hlookup => hlookup
    · exact fun _ => congrArg Prod.fst hstep
    · intro htrue
      rw [hstep] at htrue
      cases htrue
  · obtain ⟨next, hstep, hpublished⟩ := step_published h hpublishes
    unfold publish at hstep
    constructor
    · intro hlawful _
      have hrevised := hlawful.revised (by rw [hstep])
      have hresolved := hlawful.integrity.resolved
      rw [hstep] at hrevised hresolved
      exact ⟨(revision_next _).mp hrevised, hpublished.resolved.mp hresolved⟩
    · intro hharmless
      obtain ⟨hrevision, hkeeps⟩ := hharmless hpublishes
      refine ⟨?_, ?_, ?_, ?_⟩
      · rw [hstep]
        exact ⟨hpublished.descriptors, hpublished.bindings, hpublished.resolved.mpr hkeeps⟩
      · rw [hstep]
        exact hpublished.builtinKept
      · rw [hstep]
        exact nofun
      · rw [hstep]
        exact fun _ => (revision_next _).mpr hrevision

theorem integrity_initial (builtinDescriptors : List ToolDescriptor) :
    Integrity (initialSnapshot builtinDescriptors) := by
  suffices h : Integrity (initialSnapshot builtinDescriptors) ∧
      (initialSnapshot builtinDescriptors).mcpBindingRegistry = {} from h.1
  unfold initialSnapshot
  refine List.foldlRecOn builtinDescriptors _
    (motive := fun snapshot => Integrity snapshot ∧ snapshot.mcpBindingRegistry = {})
    ⟨⟨consistent_empty, consistent_empty, nofun⟩, rfl⟩ ?_
  rintro snapshot ⟨h, hnone⟩ descriptor -
  split
  · exact ⟨h, hnone⟩
  · next next hnext =>
    unfold upsertDescriptor at hnext
    rw [if_neg (by decide)] at hnext
    split at hnext
    · cases hnext
    split at hnext
    · cases hnext
    cases hnext
    refine ⟨⟨h.descriptors.assign .., h.bindings, fun key record hrecord => ?_⟩, hnone⟩
    dsimp only at hrecord
    rw [hnone] at hrecord
    cases hrecord

/-- What is promised of a registry over a whole run. -/
structure Lawful (builtinDescriptors : List ToolDescriptor) (operations : List Operation) : Prop where
  initial : Integrity (initialSnapshot builtinDescriptors)
  steps : AllSteps step StepLawful (initialSnapshot builtinDescriptors) operations

/-- The registry keeps its promises in a run exactly when no call that publishes leaves a binding
without its descriptor, or wraps the revision. -/
theorem integrity_iff_harmless (builtinDescriptors : List ToolDescriptor) (operations : List Operation) :
    Lawful builtinDescriptors operations ↔
      AllSteps step Harmless (initialSnapshot builtinDescriptors) operations := by
  have hinitial := integrity_initial builtinDescriptors
  have hsteps := allSteps_iff step Integrity StepLawful Harmless (fun _ => True)
    (fun snapshot operation h _ => stepLawful_iff h operation)
    (fun snapshot operation _ hlawful => hlawful.integrity) _ operations hinitial fun _ _ => trivial
  constructor
  · exact fun h => hsteps.mp h.steps
  · exact fun h => ⟨hinitial, hsteps.mpr h⟩

def pluginTool : ToolDescriptor where
  toolName := some (str "plugin.echo")
  category := some .information

def pluginBinding : MCPToolBinding where
  internalToolName := str "plugin.echo"
  remoteToolName := str "echo"
  serverId := str "loopback"

/-- A tool of one plugin, a binding of another to it, and the first plugin is revoked. -/
def revokedUnderBinding : List Operation :=
  [.applyPluginExtensionDelta (str "plugin:a") [pluginTool],
    .upsertMcpBindings (str "plugin:b") [pluginBinding], .revokeSource (str "plugin:a")]

/-- The binding stays, and its descriptor is gone. -/
theorem revokedUnderBinding_dangles : ¬ Lawful [] revokedUnderBinding := by
  intro h
  have hlast := ((allSteps_iff_split step StepLawful _ _).mp h.steps (revokedUnderBinding.take 2)
    (.revokeSource (str "plugin:a")) [] rfl).integrity.resolved
  have hbinding : (run step (initialSnapshot []) revokedUnderBinding).1.mcpBindingRegistry.records.lookup
      (makeKey pluginBinding) = some (pluginBinding, str "plugin:b") := by decide +kernel
  have hgone : ((run step (initialSnapshot []) revokedUnderBinding).1.descriptors.records.lookup
      pluginBinding.internalToolName).isSome = false := by decide +kernel
  have hresolved := hlast (makeKey pluginBinding) _ hbinding
  exact absurd (hgone.symm.trans hresolved) (by simp)

end Dasall.Tools.Registry
