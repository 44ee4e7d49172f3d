import Dasall.Infra.Plugin.LifecycleManager
import Dasall.Lib.Run

/-!
# The set of managed plugins

The manager follows what the runtime accepted, over every sequence of calls and answers.
-/

open Dasall.Lib Dasall.Lib.Run Dasall.Lib.Text

namespace Dasall.Infra.Plugin
open PluginEvent


/-- The load of a plugin that the runtime accepted, or its unload. -/
def PluginEvent.acceptance : PluginEvent → Option (Bytes × Bool)
  | .runtimeLoad request result =>
    if result.isValid && result.loaded then some (request.pluginId, true) else none
  | .runtimeUnload pluginId _ result =>
    if result.isValid && result.unloaded then some (pluginId, false) else none
  | .loadAudit _ | .unloadAudit _ => none

def PluginEvent.asksLoad : PluginEvent → Bool
  | .runtimeLoad _ _ => true
  | .runtimeUnload _ _ _ | .loadAudit _ | .unloadAudit _ => false

def acceptances (events : List PluginEvent) : List (Bytes × Bool) :=
  events.filterMap PluginEvent.acceptance

/-- The plugins whose load the runtime accepted and whose unload it did not accept since. -/
def followAcceptances (held : Bytes → Bool) (output : PluginReply × List PluginEvent) :
    Bytes → Bool :=
  Rows.follow held (acceptances output.2)

def heldByRuntime (outputs : List (PluginReply × List PluginEvent)) : Bytes → Bool :=
  outputs.foldl followAcceptances fun _ => false

theorem acceptances_cons (event : PluginEvent) (events : List PluginEvent) :
    acceptances (event :: events) = event.acceptance.toList ++ acceptances events := by
  unfold acceptances
  rw [List.filterMap_cons]
  cases event.acceptance <;> rfl

namespace PluginLifecycleManager

def pluginIds (manager : PluginLifecycleManager) : List Bytes :=
  manager.managedPlugins.map (·.pluginId)

variable (manager : PluginLifecycleManager)

@[simp] theorem acceptances_loadAudit
    (actorRef pluginId : Bytes) (succeeded : Bool) (evidenceRef reasonCode : Bytes)
    (resultCode : Option Policy.ResultCode) :
    acceptances (manager.emitLoadAudit actorRef pluginId succeeded evidenceRef reasonCode
      resultCode) = [] := by
  unfold emitLoadAudit
  split <;> rfl

@[simp] theorem acceptances_unloadAudit
    (actorRef pluginId : Bytes) (succeeded : Bool) (evidenceRef reasonCode : Bytes)
    (resultCode : Option Policy.ResultCode) :
    acceptances (manager.emitUnloadAudit actorRef pluginId succeeded evidenceRef reasonCode
      resultCode) = [] := by
  unfold emitUnloadAudit
  split <;> rfl

theorem findPlugin_isSome (pluginId : Bytes) :
    (manager.findPlugin pluginId).isSome = true ↔ pluginId ∈ manager.pluginIds :=
  Rows.find_isSome ManagedPlugin.pluginId pluginId manager.managedPlugins

theorem findPlugin_pluginId {manager : PluginLifecycleManager} {pluginId : Bytes}
    {plugin : ManagedPlugin} (h : manager.findPlugin pluginId = some plugin) :
    plugin.pluginId = pluginId :=
  Rows.find_key ManagedPlugin.pluginId h

theorem managedDescriptor_pluginId (pluginId : Bytes) (status : PluginStatus)
    (h : pluginId ≠ []) : (makeManagedDescriptor pluginId status).pluginId = pluginId := by
  unfold makeManagedDescriptor PluginDescriptor.normalize
  dsimp only
  rw [pluginValueOrUnknown_of_ne h, pluginValueOrUnknown_of_ne h]

/-! ## What a call does -/

/-- What a call does to the managed plugins, whether it succeeds, and what the runtime accepted. -/
inductive Effect (manager : PluginLifecycleManager) :
    PluginCall → List ManagedPlugin → Bool → List (Bytes × Bool) → Prop
  | kept (call : PluginCall) (ok : Bool) : Effect manager call manager.managedPlugins ok []
  | loaded (plugin : ManagedPlugin) (loadOptions : PluginLoadOptions)
      (runtimeResult : PluginRuntimeLoadResult) (hstatus : plugin.descriptor.status = .loaded)
      (hfresh : plugin.pluginId ∉ manager.pluginIds)
      (hroom : manager.maxActive ≠ 0 → manager.managedPlugins.length < manager.maxActive.toNat) :
      Effect manager (.load plugin.pluginId loadOptions runtimeResult)
        (manager.managedPlugins ++ [plugin]) true [(plugin.pluginId, true)]
  | unloaded (pluginId : Bytes) (runtimeResult : PluginRuntimeUnloadResult) :
      Effect manager (.unload pluginId runtimeResult)
        (manager.managedPlugins.filter (·.pluginId ≠ pluginId)) true [(pluginId, false)]
  | enabled (plugin : ManagedPlugin) (hfind : manager.findPlugin plugin.pluginId = some plugin)
      (hfrom : plugin.descriptor.status = .loaded ∨ plugin.descriptor.status = .disabled) :
      Effect manager (.enable plugin.pluginId) (manager.setStatus plugin .active).managedPlugins
        true []
  | disabled (plugin : ManagedPlugin) (hfind : manager.findPlugin plugin.pluginId = some plugin)
      (hfrom : plugin.descriptor.status = .loaded ∨ plugin.descriptor.status = .active) :
      Effect manager (.disable plugin.pluginId)
        (manager.setStatus plugin .disabled).managedPlugins true []

/-- A call that fails keeps the plugins and accepts nothing. -/
theorem failure_effect {manager : PluginLifecycleManager} {call : PluginCall} {ok : Bool}
    (events : List PluginEvent) {audit : List PluginEvent} (hevents : acceptances events = [])
    (haudit : acceptances audit = []) :
    Effect manager call manager.managedPlugins ok (acceptances (events ++ audit)) := by
  have hnone : acceptances (events ++ audit) = [] := by
    unfold acceptances at *
    rw [List.filterMap_append, hevents, haudit, List.append_nil]
  rw [hnone]
  exact Effect.kept _ _

theorem loadAnswered_effect (pluginId : Bytes)
    (loadOptions : PluginLoadOptions) (runtimeResult : PluginRuntimeLoadResult)
    (hid : pluginId ≠ []) (hfresh : pluginId ∉ manager.pluginIds)
    (hroom : manager.maxActive ≠ 0 → manager.managedPlugins.length < manager.maxActive.toNat) :
    Effect manager (.load pluginId loadOptions runtimeResult)
      (manager.loadAnswered pluginId loadOptions runtimeResult).1.managedPlugins
      (manager.loadAnswered pluginId loadOptions runtimeResult).2.1.loaded
      (acceptances ([.runtimeLoad (makeRuntimeLoadRequest pluginId loadOptions) runtimeResult] ++
        (manager.loadAnswered pluginId loadOptions runtimeResult).2.2)) := by
  unfold loadAnswered
  split
  next hinvalid =>
    refine failure_effect _ ?_ (acceptances_loadAudit ..)
    simp_all [acceptances, acceptance]
  next hvalid =>
  split
  next hrefused =>
    refine failure_effect _ ?_ (acceptances_loadAudit ..)
    simp_all [acceptances, acceptance]
  next hloaded =>
    have haccepts : acceptances
        [.runtimeLoad (makeRuntimeLoadRequest pluginId loadOptions) runtimeResult] =
          [(pluginId, true)] := by
      have hrequest : (makeRuntimeLoadRequest pluginId loadOptions).pluginId = pluginId :=
        pluginValueOrUnknown_of_ne hid
      simp_all [acceptances, acceptance]
    rw [List.singleton_append, acceptances_cons, ← List.append_nil (Option.toList _)]
    rw [acceptances_cons] at haccepts
    dsimp only [acceptances, List.filterMap_nil] at haccepts
    rw [haccepts, acceptances_loadAudit]
    have hdescriptor := managedDescriptor_pluginId pluginId .loaded hid
    have heffect := @Effect.loaded manager
      { descriptor := makeManagedDescriptor pluginId .loaded
        handleRef := runtimeResult.handleRef
        actorRef := pluginValueOrUnknown loadOptions.actorRef }
      loadOptions runtimeResult rfl
    dsimp only [ManagedPlugin.pluginId] at heffect
    rw [hdescriptor] at heffect
    exact heffect hfresh hroom

theorem load_effect (pluginId : Bytes)
    (loadOptions : PluginLoadOptions) (runtimeResult : PluginRuntimeLoadResult) :
    Effect manager (.load pluginId loadOptions runtimeResult)
      (manager.load pluginId loadOptions runtimeResult).1.managedPlugins
      (manager.load pluginId loadOptions runtimeResult).2.1.loaded
      (acceptances (manager.load pluginId loadOptions runtimeResult).2.2) := by
  unfold load
  split
  · exact failure_effect [] rfl (acceptances_loadAudit ..)
  next hrequest =>
  split
  · exact failure_effect [] rfl (acceptances_loadAudit ..)
  split
  · exact failure_effect [] rfl (acceptances_loadAudit ..)
  next hmanaged =>
  split
  · exact failure_effect [] rfl (acceptances_loadAudit ..)
  next hcapacity =>
  split
  · rw [acceptances_loadAudit]
    exact Effect.kept _ _
  apply loadAnswered_effect
  · rintro rfl
    simp at hrequest
  · rwa [findPlugin_isSome] at hmanaged
  · simpa using hcapacity

theorem unload_effect (pluginId : Bytes)
    (runtimeResult : PluginRuntimeUnloadResult) :
    Effect manager (.unload pluginId runtimeResult)
      (manager.unload pluginId runtimeResult).1.managedPlugins
      (manager.unload pluginId runtimeResult).2.1.unloaded
      (acceptances (manager.unload pluginId runtimeResult).2.2) := by
  unfold unload
  split
  · exact failure_effect [] rfl (acceptances_unloadAudit ..)
  cases manager.findPlugin pluginId with
  | none => exact failure_effect [] rfl (acceptances_unloadAudit ..)
  | some managedPlugin =>
    dsimp only
    rw [← List.singleton_append]
    unfold unloadAnswered
    split
    next hinvalid =>
      refine failure_effect _ ?_ (acceptances_unloadAudit ..)
      simp_all [acceptances, acceptance]
    next hvalid =>
    split
    next hrefused =>
      refine failure_effect _ ?_ (acceptances_unloadAudit ..)
      simp_all [acceptances, acceptance]
    next hunloaded =>
      have haccepts : (runtimeUnload pluginId managedPlugin.handleRef
          runtimeResult).acceptance = some (pluginId, false) := by
        simp_all [acceptance]
      rw [List.singleton_append, acceptances_cons, haccepts, acceptances_unloadAudit]
      exact Effect.unloaded pluginId runtimeResult

theorem enable_effect (pluginId : Bytes) :
    Effect manager (.enable pluginId) (manager.enable pluginId).1.managedPlugins
      (manager.enable pluginId).2.transitioned [] := by
  unfold enable
  cases hfind : manager.findPlugin pluginId with
  | none => exact Effect.kept _ _
  | some plugin =>
    dsimp only
    split
    · exact Effect.kept _ _
    next hfrom =>
      obtain rfl := findPlugin_pluginId hfind
      exact Effect.enabled plugin hfind (by tauto)

theorem disable_effect (pluginId : Bytes) :
    Effect manager (.disable pluginId) (manager.disable pluginId).1.managedPlugins
      (manager.disable pluginId).2.transitioned [] := by
  unfold disable
  cases hfind : manager.findPlugin pluginId with
  | none => exact Effect.kept _ _
  | some plugin =>
    dsimp only
    split
    · exact Effect.kept _ _
    next hfrom =>
      obtain rfl := findPlugin_pluginId hfind
      exact Effect.disabled plugin hfind (by tauto)

theorem step_effect (call : PluginCall) :
    Effect manager call (manager.step call).1.managedPlugins (manager.step call).2.1.ok
      (acceptances (manager.step call).2.2) := by
  cases call with
  | load pluginId loadOptions runtimeResult => exact load_effect manager pluginId _ _
  | unload pluginId runtimeResult => exact unload_effect manager pluginId _
  | enable pluginId => exact enable_effect manager pluginId
  | disable pluginId => exact disable_effect manager pluginId

/-! ## The limit and the latch -/

/-- The limit stays as it is, and so does a safe mode once it is on. -/
theorem step_settings (call : PluginCall) :
    (manager.step call).1.maxActive = manager.maxActive ∧
      (manager.safeModeActive = true → (manager.step call).1.safeModeActive = true) := by
  cases call with
  | load pluginId loadOptions runtimeResult =>
    simp only [step, load, loadAnswered, makeLoadFailure, recordFailure, recordSuccess]
    split_ifs <;> simp +contextual
  | unload pluginId runtimeResult =>
    simp only [step, unload, unloadAnswered, makeUnloadFailure, recordFailure, recordSuccess]
    cases manager.findPlugin pluginId <;> dsimp only <;> split_ifs <;> simp +contextual
  | enable pluginId =>
    simp only [step, enable, setStatus]
    cases manager.findPlugin pluginId with
    | none => exact ⟨rfl, id⟩
    | some plugin =>
      dsimp only
      split_ifs <;> exact ⟨rfl, id⟩
  | disable pluginId =>
    simp only [step, disable, setStatus]
    cases manager.findPlugin pluginId with
    | none => exact ⟨rfl, id⟩
    | some plugin =>
      dsimp only
      split_ifs <;> exact ⟨rfl, id⟩

/-- A call that is no load does not ask the runtime to load, and a load does not in safe mode. -/
theorem step_asksLoad (call : PluginCall)
    (h : manager.safeModeActive = true) :
    ∀ event ∈ (manager.step call).2.2, event.asksLoad = false := by
  have hload : ∀ actorRef pluginId succeeded evidenceRef reasonCode resultCode,
      ∀ event ∈ manager.emitLoadAudit actorRef pluginId succeeded evidenceRef reasonCode
        resultCode, event.asksLoad = false := by
    intros
    unfold emitLoadAudit at *
    split at * <;> simp_all [asksLoad]
  have hunload : ∀ actorRef pluginId succeeded evidenceRef reasonCode resultCode,
      ∀ event ∈ manager.emitUnloadAudit actorRef pluginId succeeded evidenceRef reasonCode
        resultCode, event.asksLoad = false := by
    intros
    unfold emitUnloadAudit at *
    split at * <;> simp_all [asksLoad]
  cases call with
  | load pluginId loadOptions runtimeResult =>
    simp only [step, load, makeLoadFailure, h, if_true]
    split_ifs <;> exact hload _ _ _ _ _ _
  | unload pluginId runtimeResult =>
    simp only [step, unload, unloadAnswered, makeUnloadFailure]
    cases manager.findPlugin pluginId <;> dsimp only <;> split_ifs <;>
      first
        | exact hunload _ _ _ _ _ _
        | exact List.forall_mem_cons.mpr ⟨rfl, hunload _ _ _ _ _ _⟩
  | enable pluginId => simp [step]
  | disable pluginId => simp [step]

end PluginLifecycleManager

/-! ## Runs of the lifecycle manager -/

open PluginLifecycleManager

/-- The states in which a plugin is managed. -/
def PluginStatus.isManaged (status : PluginStatus) : Prop :=
  status = .loaded ∨ status = .active ∨ status = .disabled

/-- `held` is what the runtime holds by its own answers. -/
structure Sound (maxActive : UInt64) (manager : PluginLifecycleManager) (held : Bytes → Bool) :
    Prop where
  limit : manager.maxActive = maxActive
  distinct : manager.pluginIds.Nodup
  room : maxActive ≠ 0 → manager.managedPlugins.length ≤ maxActive.toNat
  follows : ∀ pluginId, pluginId ∈ manager.pluginIds ↔ held pluginId = true
  states : ∀ plugin ∈ manager.managedPlugins, plugin.descriptor.status.isManaged

/-! ## Changes of status -/

section
variable (manager : PluginLifecycleManager) (plugin : ManagedPlugin) (status : PluginStatus)
  (hfind : manager.findPlugin plugin.pluginId = some plugin)
include hfind

theorem setStatus_pluginIds : (manager.setStatus plugin status).pluginIds = manager.pluginIds :=
  Rows.map_put ManagedPlugin.pluginId _ _ _ _ plugin hfind rfl

theorem setStatus_length :
    (manager.setStatus plugin status).managedPlugins.length = manager.managedPlugins.length := by
  have hids := congrArg List.length (setStatus_pluginIds manager plugin status hfind)
  simpa [pluginIds] using hids

end

variable (manager : PluginLifecycleManager)

theorem setStatus_currentStatus (plugin : ManagedPlugin)
    (status : PluginStatus) (pluginId : Bytes) :
    (manager.setStatus plugin status).currentStatus pluginId =
      if pluginId = plugin.pluginId then some status else manager.currentStatus pluginId := by
  unfold currentStatus findPlugin setStatus
  dsimp only
  split
  next hsame =>
    rw [hsame, Rows.find_put_same ManagedPlugin.pluginId _ _ (plugin.withStatus_pluginId status)]
    rfl
  next hother =>
    rw [Rows.find_put_other ManagedPlugin.pluginId _ _ hother _
      (plugin.withStatus_pluginId status)]

/-! ## The invariant -/

theorem sound_create (hasAuditAdapter : Bool) (maxActive safeModeFailThreshold : UInt64) :
    Sound maxActive (create hasAuditAdapter maxActive safeModeFailThreshold) fun _ => false where
  limit := rfl
  distinct := List.nodup_nil
  room _ := Nat.zero_le _
  follows pluginId := by simp [pluginIds, create]
  states plugin h := nomatch h

variable {maxActive : UInt64} {manager} {held : Bytes → Bool}

theorem Sound.congr {next : PluginLifecycleManager} (h : Sound maxActive manager held)
    (hlimit : next.maxActive = maxActive) (hplugins : next.managedPlugins = manager.managedPlugins) :
    Sound maxActive next held where
  limit := hlimit
  distinct := by
    unfold pluginIds
    rw [hplugins]
    exact h.distinct
  room := by
    rw [hplugins]
    exact h.room
  follows := by
    unfold pluginIds
    rw [hplugins]
    exact h.follows
  states := by
    rw [hplugins]
    exact h.states

theorem Sound.setStatus (h : Sound maxActive manager held) (plugin : ManagedPlugin)
    (hfind : manager.findPlugin plugin.pluginId = some plugin) (status : PluginStatus)
    (hstatus : status.isManaged) : Sound maxActive (manager.setStatus plugin status) held where
  limit := h.limit
  distinct := by
    rw [setStatus_pluginIds manager plugin status hfind]
    exact h.distinct
  room := by
    rw [setStatus_length manager plugin status hfind]
    exact h.room
  follows := by
    rw [setStatus_pluginIds manager plugin status hfind]
    exact h.follows
  states := by
    intro other hother
    rcases Rows.mem_put ManagedPlugin.pluginId _ _ _ other hother with rfl | hother
    · exact hstatus
    · exact h.states other hother

theorem Sound.loaded (h : Sound maxActive manager held) (plugin : ManagedPlugin)
    (hstatus : plugin.descriptor.status = .loaded) (hfresh : plugin.pluginId ∉ manager.pluginIds)
    (hroom : manager.maxActive ≠ 0 → manager.managedPlugins.length < manager.maxActive.toNat) :
    Sound maxActive { manager with managedPlugins := manager.managedPlugins ++ [plugin] }
      (Rows.follow held [(plugin.pluginId, true)]) where
  limit := h.limit
  distinct := by
    unfold pluginIds at hfresh ⊢
    rw [List.map_append]
    apply h.distinct.append (List.nodup_singleton _)
    rwa [List.disjoint_singleton]
  room hlimit := by
    have hless := hroom (h.limit ▸ hlimit)
    rw [h.limit] at hless
    simp
    omega
  follows pluginId := by
    have hheld := h.follows pluginId
    unfold pluginIds at hheld ⊢
    by_cases hsame : pluginId = plugin.pluginId
    · simp [Rows.follow, hsame]
    · simpa [Rows.follow, hsame, Function.update_of_ne hsame] using hheld
  states := by
    intro other hother
    rcases List.mem_append.mp hother with hother | hother
    · exact h.states other hother
    · rw [List.mem_singleton.mp hother, hstatus]
      exact Or.inl rfl

theorem Sound.unloaded (h : Sound maxActive manager held) (pluginId : Bytes) :
    Sound maxActive
      { manager with managedPlugins := manager.managedPlugins.filter (·.pluginId ≠ pluginId) }
      (Rows.follow held [(pluginId, false)]) where
  limit := h.limit
  distinct := h.distinct.sublist (List.filter_sublist.map _)
  room hlimit := (List.length_filter_le _ _).trans (h.room hlimit)
  follows other := by
    have hheld := h.follows other
    unfold pluginIds at hheld ⊢
    by_cases hsame : other = pluginId
    · simp [Rows.follow, hsame]
    · rw [Rows.follow, List.foldl_cons, List.foldl_nil, Function.update_of_ne hsame, ← hheld]
      simp only [List.mem_map, List.mem_filter, decide_eq_true_eq]
      grind
  states other hother := h.states other (List.mem_of_mem_filter hother)

variable (manager)

theorem sound_step (maxActive : UInt64) (manager : PluginLifecycleManager) (held : Bytes → Bool)
    (call : PluginCall) (h : Sound maxActive manager held) :
    Sound maxActive (manager.step call).1 (followAcceptances held (manager.step call).2) := by
  have hlimit := (step_settings manager call).1.trans h.limit
  have heffect := step_effect manager call
  unfold followAcceptances
  generalize hnext : (manager.step call).1.managedPlugins = plugins,
    (manager.step call).2.1.ok = ok, acceptances (manager.step call).2.2 = accepted at heffect
  cases heffect with
  | kept => exact h.congr hlimit hnext
  | loaded plugin loadOptions runtimeResult hstatus hfresh hroom =>
    exact (h.loaded plugin hstatus hfresh hroom).congr hlimit hnext
  | unloaded pluginId runtimeResult => exact (h.unloaded pluginId).congr hlimit hnext
  | enabled plugin hfind hfrom =>
    exact (h.setStatus plugin hfind .active (Or.inr (Or.inl rfl))).congr hlimit hnext
  | disabled plugin hfind hfrom =>
    exact (h.setStatus plugin hfind .disabled (Or.inr (Or.inr rfl))).congr hlimit hnext

/-! ## A step -/

/-- A move of a plugin's status that a call may make. -/
def Moves (call : PluginCall) (pluginId : Bytes) (before after : PluginStatus) : Prop :=
  (call = .enable pluginId ∧ (before = .loaded ∨ before = .disabled) ∧ after = .active) ∨
    (call = .disable pluginId ∧ (before = .loaded ∨ before = .active) ∧ after = .disabled)

structure StepLawful (manager : PluginLifecycleManager) (call : PluginCall) : Prop where
  moves : ∀ pluginId before after, manager.currentStatus pluginId = some before →
    (manager.step call).1.currentStatus pluginId = some after → before ≠ after →
      Moves call pluginId before after
  failed : (manager.step call).2.1.ok = false →
    (manager.step call).1.managedPlugins = manager.managedPlugins
  latched : manager.safeModeActive = true → (manager.step call).1.safeModeActive = true ∧
    ∀ event ∈ (manager.step call).2.2, event.asksLoad = false

theorem currentStatus_congr (manager next : PluginLifecycleManager)
    (h : next.managedPlugins = manager.managedPlugins) (pluginId : Bytes) :
    next.currentStatus pluginId = manager.currentStatus pluginId := by
  unfold currentStatus findPlugin
  rw [h]

theorem currentStatus_loaded (plugin : ManagedPlugin)
    (pluginId : Bytes) (status : PluginStatus) (h : manager.currentStatus pluginId = some status) :
    currentStatus { manager with managedPlugins := manager.managedPlugins ++ [plugin] } pluginId =
      some status := by
  unfold currentStatus findPlugin Rows.find at h ⊢
  obtain ⟨found, hfound, hstatus⟩ := Option.map_eq_some_iff.mp h
  rw [List.find?_append, hfound, Option.some_or, Option.map_some, hstatus]

theorem currentStatus_unloaded (pluginId other : Bytes)
    (status : PluginStatus)
    (h : currentStatus { manager with
      managedPlugins := manager.managedPlugins.filter (·.pluginId ≠ pluginId) } other =
        some status) :
    manager.currentStatus other = some status := by
  unfold currentStatus findPlugin Rows.find at h ⊢
  rw [List.find?_filter] at h
  by_cases hsame : other = pluginId
  · subst hsame
    simp at h
    grind
  · rw [← h]
    congr 2
    funext plugin
    simp
    grind

theorem currentStatus_of_find {manager : PluginLifecycleManager} {pluginId : Bytes}
    {plugin : ManagedPlugin} (h : manager.findPlugin pluginId = some plugin) :
    manager.currentStatus pluginId = some plugin.descriptor.status := by
  unfold currentStatus
  rw [h, Option.map_some]

theorem moved_of_setStatus (plugin : ManagedPlugin)
    (hfind : manager.findPlugin plugin.pluginId = some plugin) (status : PluginStatus)
    (pluginId : Bytes) (before after : PluginStatus)
    (hbefore : manager.currentStatus pluginId = some before)
    (hafter : (manager.setStatus plugin status).currentStatus pluginId = some after)
    (hne : before ≠ after) :
    pluginId = plugin.pluginId ∧ before = plugin.descriptor.status ∧ after = status := by
  rw [setStatus_currentStatus] at hafter
  split at hafter
  next hsame =>
    rw [hsame, currentStatus_of_find hfind] at hbefore
    exact ⟨hsame, (Option.some.inj hbefore).symm, (Option.some.inj hafter).symm⟩
  next hother =>
    rw [hbefore] at hafter
    exact absurd (Option.some.inj hafter) hne

theorem step_moves (call : PluginCall) (pluginId : Bytes)
    (before after : PluginStatus) (hbefore : manager.currentStatus pluginId = some before)
    (hafter : (manager.step call).1.currentStatus pluginId = some after) (hne : before ≠ after) :
    Moves call pluginId before after := by
  have heffect := step_effect manager call
  generalize hnext : (manager.step call).1.managedPlugins = plugins,
    (manager.step call).2.1.ok = ok, acceptances (manager.step call).2.2 = accepted at heffect
  cases heffect with
  | kept =>
    rw [currentStatus_congr manager _ hnext, hbefore] at hafter
    exact absurd (Option.some.inj hafter) hne
  | loaded plugin loadOptions runtimeResult hstatus hfresh hroom =>
    have hkept := currentStatus_loaded manager plugin pluginId before hbefore
    rw [currentStatus_congr { manager with managedPlugins := manager.managedPlugins ++ [plugin] } _
      hnext, hkept] at hafter
    exact absurd (Option.some.inj hafter) hne
  | unloaded unloadedId runtimeResult =>
    rw [currentStatus_congr { manager with
      managedPlugins := manager.managedPlugins.filter (·.pluginId ≠ unloadedId) } _ hnext] at hafter
    have hkept := currentStatus_unloaded manager unloadedId pluginId after hafter
    rw [hbefore] at hkept
    exact absurd (Option.some.inj hkept) hne
  | enabled plugin hfind hfrom =>
    rw [currentStatus_congr (manager.setStatus plugin _) _ hnext] at hafter
    obtain ⟨rfl, rfl, rfl⟩ := moved_of_setStatus manager plugin hfind _ _ _ _ hbefore hafter hne
    exact Or.inl ⟨rfl, hfrom, rfl⟩
  | disabled plugin hfind hfrom =>
    rw [currentStatus_congr (manager.setStatus plugin _) _ hnext] at hafter
    obtain ⟨rfl, rfl, rfl⟩ := moved_of_setStatus manager plugin hfind _ _ _ _ hbefore hafter hne
    exact Or.inr ⟨rfl, hfrom, rfl⟩

theorem step_failed (call : PluginCall)
    (hfailed : (manager.step call).2.1.ok = false) :
    (manager.step call).1.managedPlugins = manager.managedPlugins := by
  have heffect := step_effect manager call
  rw [hfailed] at heffect
  generalize (manager.step call).1.managedPlugins = plugins,
    acceptances (manager.step call).2.2 = accepted at heffect ⊢
  cases heffect with
  | kept => rfl

theorem stepLawful (call : PluginCall) :
    StepLawful manager call where
  moves := step_moves manager call
  failed := step_failed manager call
  latched h := ⟨(step_settings manager call).2 h, step_asksLoad manager call h⟩

/-! ## A run -/

theorem sound_run (hasAuditAdapter : Bool) (maxActive safeModeFailThreshold : UInt64)
    (calls : List PluginCall) :
    Sound maxActive (run step (create hasAuditAdapter maxActive safeModeFailThreshold) calls).1
      (heldByRuntime
        (run step (create hasAuditAdapter maxActive safeModeFailThreshold) calls).2) :=
  invariant_observed step followAcceptances (Sound maxActive)
    (fun manager held call h => sound_step maxActive manager held call h) _ _ calls
    (sound_create hasAuditAdapter maxActive safeModeFailThreshold)

theorem Sound.listed {manager : PluginLifecycleManager} (h : Sound maxActive manager held)
    (descriptor : PluginDescriptor) (hlisted : descriptor ∈ manager.listActive.activePlugins) :
    manager.currentStatus descriptor.pluginId = some descriptor.status ∧
      descriptor.status.isManaged := by
  obtain ⟨plugin, hplugin, rfl⟩ := List.mem_map.mp hlisted
  have hfind := Rows.find_of_mem ManagedPlugin.pluginId _ h.distinct plugin hplugin
  exact ⟨currentStatus_of_find hfind, h.states plugin hplugin⟩

theorem plugin_lifecycle (hasAuditAdapter : Bool) (maxActive safeModeFailThreshold : UInt64)
    (calls : List PluginCall) :
    let start := create hasAuditAdapter maxActive safeModeFailThreshold
    let manager := (run step start calls).1
    manager.pluginIds.Nodup ∧
      (maxActive ≠ 0 → manager.managedPlugins.length ≤ maxActive.toNat) ∧
      (∀ pluginId, pluginId ∈ manager.pluginIds ↔
        heldByRuntime (run step start calls).2 pluginId = true) ∧
      manager.listActive.activePlugins.map (·.pluginId) = manager.pluginIds ∧
      (∀ descriptor ∈ manager.listActive.activePlugins,
        manager.currentStatus descriptor.pluginId = some descriptor.status ∧
          descriptor.status.isManaged) ∧
      AllSteps step StepLawful start calls := by
  intro start manager
  have hsound := sound_run hasAuditAdapter maxActive safeModeFailThreshold calls
  have hlisted : manager.listActive.activePlugins.map (·.pluginId) = manager.pluginIds :=
    List.map_map
  refine ⟨hsound.distinct, hsound.room, hsound.follows, hlisted, hsound.listed, ?_⟩
  rw [allSteps_iff_split]
  intro before call after hsplit
  exact stepLawful _ call

def sampleLoad : PluginCall :=
  .load (str "p") { profileId := str "edge", actorRef := str "ops" }
    { loaded := true, handleRef := str "h", evidenceRef := str "e" }

/-- A plugin that was loaded and never enabled is listed. -/
theorem lists_loaded : ¬ ∀ (hasAuditAdapter : Bool) (maxActive safeModeFailThreshold : UInt64)
    (calls : List PluginCall), ∀ descriptor ∈ (run step
      (create hasAuditAdapter maxActive safeModeFailThreshold) calls).1.listActive.activePlugins,
      descriptor.status = .active := by
  intro hall
  have hlisted := hall false 16 3 [sampleLoad] (makeManagedDescriptor (str "p") .loaded)
    (by decide)
  exact absurd hlisted (by decide)

end Dasall.Infra.Plugin
