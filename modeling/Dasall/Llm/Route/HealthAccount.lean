import Dasall.Lib.Run
import Dasall.Llm.Route.AdapterRegistry

/-!
# The account of route health

The count of a route is the number of failed and degraded events since it last succeeded. A failed
call reads off the count alone whether the route is blocked, and so it unblocks a route that a probe
has blocked before the count is there.
-/

open Dasall.Lib.Run Dasall.Lib.Sort Dasall.Lib.Text

namespace Dasall.Llm.Route

open AdapterRegistry

variable {Adapter : Type}

/-! ## Routes by their keys -/

def SortedRoutes (routes : List (AdapterRouteState Adapter)) : Prop :=
  (routes.map AdapterRouteState.routeKey).Pairwise (· < ·)

variable {routes : List (AdapterRouteState Adapter)} (registry : AdapterRegistry Adapter)
  (rawStatus : HealthStatus) {isReady : HealthStatus → Bool} {system : System Adapter}
  {operation : Operation Adapter} {routeKey : Bytes} {route : AdapterRouteState Adapter}
  {event : Event} {change : AdapterRouteState Adapter → AdapterRouteState Adapter}

theorem sorted_inj (h : SortedRoutes routes)
    {first second : AdapterRouteState Adapter} (hfirst : first ∈ routes) (hsecond : second ∈ routes)
    (hkey : first.routeKey = second.routeKey) : first = second := by
  have hnodup : (routes.map AdapterRouteState.routeKey).Nodup := by
    refine h.imp fun {a b} hlt heq => ?_
    rw [heq] at hlt
    exact List.lt_irrefl b hlt
  exact List.inj_on_of_nodup_map hnodup hfirst hsecond hkey

theorem findRoute_some (h : findRoute routes routeKey = some route) :
    route ∈ routes ∧ route.routeKey = routeKey :=
  ⟨List.mem_of_find?_eq_some h, by simpa using List.find?_some h⟩

theorem findRoute_none (h : findRoute routes routeKey = none) :
    ∀ route ∈ routes, route.routeKey ≠ routeKey := by
  simpa [findRoute] using h

theorem findRoute_of_mem (h : SortedRoutes routes) (hmem : route ∈ routes) :
    findRoute routes route.routeKey = some route := by
  rcases hfind : findRoute routes route.routeKey with _ | found
  · exact absurd rfl (findRoute_none hfind route hmem)
  · obtain ⟨hfound, hkey⟩ := findRoute_some hfind
    rw [sorted_inj h hfound hmem hkey]

theorem sortRoutes_sorted
    (hnodup : (routes.map AdapterRouteState.routeKey).Nodup) : SortedRoutes (sortRoutes routes) := by
  have hperm : (sortRoutes routes).Perm routes := List.perm_insertionSort _ routes
  have hweak := (Linear.ofLT (β := Bytes)).strictWeak (@AdapterRouteState.routeKey Adapter)
  have hnodup' := ((hperm.map AdapterRouteState.routeKey).nodup_iff.mpr hnodup)
  unfold SortedRoutes
  rw [List.pairwise_map]
  rw [List.Nodup, List.pairwise_map] at hnodup'
  refine (hnodup'.and (hweak.pairwise routes)).imp fun {first second} h => ?_
  obtain ⟨hne, hle⟩ := h
  rw [decide_eq_false_iff_not] at hle
  rcases List.le_iff_lt_or_eq.mp (List.not_lt.mp hle) with hlt | heq
  · exact hlt
  · exact absurd heq hne

theorem mem_sortRoutes : route ∈ sortRoutes routes ↔ route ∈ routes :=
  mem_sortBy _

section
variable {routeKey : Bytes} {change : AdapterRouteState Adapter → AdapterRouteState Adapter}

theorem updateRoute_keys (hkeep : ∀ route, route.routeKey = routeKey → (change route).routeKey = routeKey)
    (routes : List (AdapterRouteState Adapter)) :
    (updateRoute routeKey change routes).map AdapterRouteState.routeKey =
      routes.map AdapterRouteState.routeKey := by
  induction routes with
  | nil => rfl
  | cons route routes ih =>
    unfold updateRoute
    split
    · next hkey => rw [List.map_cons, List.map_cons, hkeep route hkey, hkey]
    · rw [List.map_cons, List.map_cons, ih]

theorem mem_updateRoute {routes : List (AdapterRouteState Adapter)} (h : SortedRoutes routes)
    {next : AdapterRouteState Adapter} (hnext : next ∈ updateRoute routeKey change routes) :
    (next ∈ routes ∧ next.routeKey ≠ routeKey) ∨
      ∃ route ∈ routes, route.routeKey = routeKey ∧ next = change route := by
  induction routes with
  | nil => cases hnext
  | cons route routes ih =>
    unfold SortedRoutes at h
    rw [List.map_cons, List.pairwise_cons] at h
    unfold updateRoute at hnext
    split at hnext
    · next hkey =>
      rcases List.mem_cons.mp hnext with rfl | hold
      · exact .inr ⟨route, List.mem_cons_self, hkey, rfl⟩
      · refine .inl ⟨List.mem_cons_of_mem _ hold, fun heq => ?_⟩
        have hlt := h.1 next.routeKey (List.mem_map_of_mem hold)
        rw [hkey, heq] at hlt
        exact List.lt_irrefl routeKey hlt
    · next hkey =>
      rcases List.mem_cons.mp hnext with rfl | hold
      · exact .inl ⟨List.mem_cons_self, hkey⟩
      · rcases ih h.2 hold with ⟨hmem, hne⟩ | ⟨found, hmem, hrest⟩
        · exact .inl ⟨List.mem_cons_of_mem _ hmem, hne⟩
        · exact .inr ⟨found, List.mem_cons_of_mem _ hmem, hrest⟩

end

/-! ## What a step does -/

/-- The operations that change the health of a route, with the event and the change. -/
inductive Updates (system : System Adapter) : Operation Adapter → Bytes → Event →
    (AdapterRouteState Adapter → AdapterRouteState Adapter) → Prop
  | success (routeKey message : Bytes) :
      Updates system (.recordCallSuccess routeKey message) routeKey (.succeeded routeKey)
        (applySuccess message)
  | failure (routeKey message : Bytes) :
      Updates system (.recordCallFailure routeKey message) routeKey (.failed routeKey)
        (applyFailure system.registry.config message)
  | probe (probe : Nat) (routeKey : Bytes) (rawStatus : HealthStatus)
      (started : system.probes[probe]? = some routeKey) :
      Updates system (.finishProbe probe rawStatus) routeKey
        (if rawStatus.isHealthy then .succeeded routeKey else .failed routeKey)
        (applyProbe system.registry.config (normalizeProbe rawStatus))

/-- What a step leaves of the routes and adds to the events. -/
inductive Effect (system : System Adapter) (operation : Operation Adapter) :
    List (AdapterRouteState Adapter) → List Event → Prop
  | same : Effect system operation system.registry.routes system.events
  | added (registration : AdapterRegistration Adapter)
      (isInitialized : system.registry.initialized = true)
      (isNew : findRoute system.registry.routes registration.routeKey = none) :
      Effect system operation
        (sortRoutes (system.registry.routes ++ [makeRouteState registration none]))
        (.added registration.routeKey :: system.events)
  | replaced (registration : AdapterRegistration Adapter) :
      Effect system operation
        (sortRoutes (updateRoute registration.routeKey
          (fun existing => makeRouteState registration (some existing)) system.registry.routes))
        system.events
  | removed (routeKey : Bytes) :
      Effect system operation
        (system.registry.routes.filter fun route => route.routeKey ≠ routeKey) system.events
  | updated (routeKey : Bytes) (event : Event)
      (change : AdapterRouteState Adapter → AdapterRouteState Adapter)
      (updates : Updates system operation routeKey event change) :
      Effect system operation (updateRoute routeKey change system.registry.routes)
        (event :: system.events)

theorem effect_update (updates : Updates system operation routeKey event change) (missing : String) :
    Effect system operation (system.registry.updateHealth routeKey change missing).1.routes
      (if (system.registry.updateHealth routeKey change missing).2 then event :: system.events
        else system.events) := by
  unfold updateHealth
  split
  · exact .same
  · exact .updated routeKey event change updates

theorem beginProbe_routes (routeKey : Bytes) :
    (registry.beginProbe routeKey).1.routes = registry.routes := by
  unfold beginProbe
  split
  · rfl
  split
  · rfl
  · split <;> rfl

theorem beginProbe_step (system : System Adapter) (routeKey : Bytes) :
    (step system (.beginProbe routeKey)).1.registry = (system.registry.beginProbe routeKey).1 ∧
      (step system (.beginProbe routeKey)).1.events = system.events := by
  simp only [step]
  split
  · next h => rw [h]; exact ⟨rfl, rfl⟩
  · next h => rw [h]; exact ⟨rfl, rfl⟩

theorem effect_step (system : System Adapter) (operation : Operation Adapter) :
    Effect system operation (step system operation).1.registry.routes
      (step system operation).1.events := by
  cases operation with
  | registerAdapter registration =>
    simp only [step, System.take, registerAdapter]
    split
    · exact .same
    next hinitialized =>
    split
    · exact .same
    split
    · next hnew =>
      rw [hnew]
      exact .added registration (by simpa using hinitialized) hnew
    · next existing hfound =>
      rw [hfound]
      exact .replaced registration
  | unregisterAdapter routeKey =>
    simp only [step, System.take, unregisterAdapter]
    split
    · exact .same
    split
    · exact .same
    · exact .removed routeKey
  | beginProbe routeKey =>
    obtain ⟨hregistry, hevents⟩ := beginProbe_step system routeKey
    rw [hregistry, hevents, beginProbe_routes]
    exact .same
  | finishProbe probe rawStatus =>
    simp only [step]
    split
    · exact .same
    · next routeKey hstarted => exact effect_update (.probe probe routeKey rawStatus hstarted) _
  | recordCallSuccess routeKey message =>
    simp only [step, System.take, recordCallSuccess]
    split
    · exact .same
    · exact effect_update (.success routeKey message) _
  | recordCallFailure routeKey message =>
    simp only [step, System.take, recordCallFailure]
    split
    · exact .same
    · exact effect_update (.failure routeKey message) _

/-- Where a route of the registry after a step comes from, and what its history is. -/
inductive Origin (system : System Adapter) (operation : Operation Adapter) (events : List Event)
    (next : AdapterRouteState Adapter) : Prop
  | kept (mem : next ∈ system.registry.routes)
      (history : failuresSince next.routeKey events = failuresSince next.routeKey system.events)
  | added (registration : AdapterRegistration Adapter)
      (isNew : findRoute system.registry.routes next.routeKey = none)
      (isMade : next = makeRouteState registration none)
      (history : failuresSince next.routeKey events = 0)
  | replaced (registration : AdapterRegistration Adapter) (existing : AdapterRouteState Adapter)
      (mem : existing ∈ system.registry.routes) (sameKey : next.routeKey = existing.routeKey)
      (isMade : next = makeRouteState registration (some existing))
      (history : failuresSince next.routeKey events = failuresSince next.routeKey system.events)
  | updated (existing : AdapterRouteState Adapter) (mem : existing ∈ system.registry.routes)
      (event : Event) (change : AdapterRouteState Adapter → AdapterRouteState Adapter)
      (updates : Updates system operation existing.routeKey event change)
      (isChanged : next = change existing) (sameKey : next.routeKey = existing.routeKey)
      (history : events = event :: system.events)

theorem makeRouteState_routeKey (registration : AdapterRegistration Adapter)
    (existing : Option (AdapterRouteState Adapter)) :
    (makeRouteState registration existing).routeKey = registration.routeKey := by
  cases existing <;> rfl

theorem applyProbe_routeKey (config : AdapterRegistryConfig) (status : HealthStatus)
    (route : AdapterRouteState Adapter) : (applyProbe config status route).routeKey = route.routeKey := by
  unfold applyProbe
  split <;> rfl

theorem Updates.sameKey (updates : Updates system operation routeKey event change)
    (route : AdapterRouteState Adapter) :
    (change route).routeKey = route.routeKey := by
  cases updates with
  | success _ message => rfl
  | failure _ message => rfl
  | probe probe _ rawStatus started => exact applyProbe_routeKey ..

theorem Updates.history_other {other : Bytes}
    (updates : Updates system operation routeKey event change) (hne : other ≠ routeKey) :
    failuresSince other (event :: system.events) = failuresSince other system.events := by
  cases updates with
  | success _ message => exact if_neg (Ne.symm hne)
  | failure _ message => exact if_neg (Ne.symm hne)
  | probe probe _ rawStatus started => split <;> exact if_neg (Ne.symm hne)

theorem origin_step (hsorted : SortedRoutes system.registry.routes)
    (operation : Operation Adapter) {next : AdapterRouteState Adapter}
    (hnext : next ∈ (step system operation).1.registry.routes) :
    Origin system operation (step system operation).1.events next := by
  have heffect := effect_step system operation
  generalize (step system operation).1.registry.routes = routes at heffect hnext
  generalize (step system operation).1.events = events at heffect
  cases heffect with
  | same => exact .kept hnext rfl
  | added registration isInitialized isNew =>
    rw [mem_sortRoutes, List.mem_append, List.mem_singleton] at hnext
    rcases hnext with hold | rfl
    · exact .kept hold (if_neg (Ne.symm (findRoute_none isNew next hold)))
    · rw [← makeRouteState_routeKey registration none] at isNew ⊢
      exact .added registration isNew rfl (if_pos rfl)
  | replaced registration =>
    rw [mem_sortRoutes] at hnext
    rcases mem_updateRoute hsorted hnext with ⟨hold, -⟩ | ⟨existing, hold, hkey, rfl⟩
    · exact .kept hold rfl
    · refine .replaced registration existing hold ?_ rfl rfl
      rw [makeRouteState_routeKey, hkey]
  | removed routeKey => exact .kept (List.mem_filter.mp hnext).1 rfl
  | updated routeKey event change updates =>
    rcases mem_updateRoute hsorted hnext with ⟨hold, hne⟩ | ⟨existing, hold, rfl, rfl⟩
    · exact .kept hold (updates.history_other hne)
    · exact .updated existing hold event change updates rfl (updates.sameKey existing) rfl

theorem sorted_step (hsorted : SortedRoutes system.registry.routes)
    (operation : Operation Adapter) :
    SortedRoutes (step system operation).1.registry.routes := by
  have hnodup : (system.registry.routes.map AdapterRouteState.routeKey).Nodup := by
    refine hsorted.imp fun {a b} hlt heq => ?_
    rw [heq] at hlt
    exact List.lt_irrefl b hlt
  have heffect := effect_step system operation
  generalize (step system operation).1.registry.routes = routes at heffect
  generalize (step system operation).1.events = events at heffect
  cases heffect with
  | same => exact hsorted
  | added registration isInitialized isNew =>
    apply sortRoutes_sorted
    rw [List.map_append, List.map_singleton, List.nodup_append]
    refine ⟨hnodup, List.nodup_singleton _, fun first hfirst second hsecond heq => ?_⟩
    obtain ⟨route, hroute, rfl⟩ := List.mem_map.mp hfirst
    rw [List.mem_singleton, makeRouteState_routeKey] at hsecond
    exact findRoute_none isNew route hroute (heq.trans hsecond)
  | replaced registration =>
    apply sortRoutes_sorted
    rw [updateRoute_keys fun existing _ => makeRouteState_routeKey registration (some existing)]
    exact hnodup
  | removed routeKey => exact hsorted.sublist (List.filter_sublist.map _)
  | updated routeKey event change updates =>
    unfold SortedRoutes
    rw [updateRoute_keys fun route hkey => (updates.sameKey route).trans hkey]
    exact hsorted

/-! ## What is promised, and when it holds -/

def threshold (system : System Adapter) : UInt32 := system.registry.config.blockedFailureThreshold

structure Accounted (system : System Adapter) : Prop where
  sorted : SortedRoutes system.registry.routes
  counted : ∀ route ∈ system.registry.routes,
    route.consecutiveFailures.toNat = failuresSince route.routeKey system.events
  blocked : ∀ route ∈ system.registry.routes,
    (threshold system).toNat ≤ failuresSince route.routeKey system.events → route.blocked = true

/-- The step makes a blocked route one that is not blocked. -/
def Unblocks (system : System Adapter) (operation : Operation Adapter) (routeKey : Bytes) : Prop :=
  ∃ route ∈ findRoute system.registry.routes routeKey, route.blocked = true ∧
    ∃ next ∈ findRoute (step system operation).1.registry.routes routeKey, next.blocked = false

/-- A successful call of the route, or a probe that has found it ready. `isReady` says which answers
count as ready. -/
def Recovers (isReady : HealthStatus → Bool) (system : System Adapter) (operation : Operation Adapter)
    (routeKey : Bytes) : Prop :=
  (∃ message, operation = .recordCallSuccess routeKey message) ∨
    ∃ probe rawStatus, operation = .finishProbe probe rawStatus ∧
      system.probes[probe]? = some routeKey ∧ isReady rawStatus = true

def isFailedCall : Operation Adapter → Bool
  | .recordCallFailure _ _ => true
  | _ => false

/-- What is promised of one step. -/
structure StepLawful (isReady : HealthStatus → Bool) (system : System Adapter)
    (operation : Operation Adapter) : Prop where
  accounted : Accounted (step system operation).1
  failedCall : isFailedCall operation = true → ∀ routeKey, ¬ Unblocks system operation routeKey
  unblocks : ∀ routeKey, Unblocks system operation routeKey →
    Recovers isReady system operation routeKey

/-- The count does not wrap, and the route is not blocked without having reached the threshold. -/
def SparesBlocked (system : System Adapter) (route : AdapterRouteState Adapter) : Prop :=
  route.blocked = true → threshold system ≤ route.consecutiveFailures + 1

def CountsOn (route : AdapterRouteState Adapter) : Prop :=
  route.consecutiveFailures.toNat + 1 < 2 ^ 32

/-- No failed call meets a route that is blocked below the threshold, nor does an answer that is ready
but not counted as such; and no count wraps. -/
def Harmless (isReady : HealthStatus → Bool) (system : System Adapter) : Operation Adapter → Prop
  | .recordCallFailure routeKey _ => ∀ route ∈ findRoute system.registry.routes routeKey,
      CountsOn route ∧ SparesBlocked system route
  | .finishProbe probe rawStatus => rawStatus.isHealthy = false →
      ∀ routeKey ∈ system.probes[probe]?, ∀ route ∈ findRoute system.registry.routes routeKey,
        CountsOn route ∧ (rawStatus.ready = true → isReady rawStatus = false →
          SparesBlocked system route)
  | _ => True

/-! ## One change -/

theorem CountsOn.next (h : CountsOn route) :
    (route.consecutiveFailures + 1).toNat = route.consecutiveFailures.toNat + 1 := by
  unfold CountsOn at h
  rw [UInt32.toNat_add]
  exact Nat.mod_eq_of_lt h

theorem not_countsOn (h : ¬ CountsOn route) :
    (route.consecutiveFailures + 1).toNat = 0 := by
  unfold CountsOn at h
  have hlt := route.consecutiveFailures.toNat_lt
  rw [UInt32.toNat_add]
  simp
  omega

theorem normalizeHealthStatus_flags (status : HealthStatus) (fallbackMessage : String) :
    (normalizeHealthStatus status fallbackMessage).ready = status.ready ∧
      (normalizeHealthStatus status fallbackMessage).degraded = status.degraded := by
  unfold normalizeHealthStatus
  split <;> exact ⟨rfl, rfl⟩

theorem normalizeProbe_ready :
    (normalizeProbe rawStatus).ready = rawStatus.ready :=
  (normalizeHealthStatus_flags _ _).1

theorem normalizeProbe_degraded :
    (normalizeProbe rawStatus).degraded = rawStatus.degraded :=
  (normalizeHealthStatus_flags _ _).2

theorem normalizeProbe_isHealthy :
    (normalizeProbe rawStatus).isHealthy = rawStatus.isHealthy := by
  unfold HealthStatus.isHealthy
  rw [normalizeProbe_ready, normalizeProbe_degraded]

section
variable (config : AdapterRegistryConfig) (route : AdapterRouteState Adapter)

theorem applyProbe_healthy {rawStatus : HealthStatus} (h : rawStatus.isHealthy = true) :
    (applyProbe config (normalizeProbe rawStatus) route).consecutiveFailures = 0 ∧
      (applyProbe config (normalizeProbe rawStatus) route).blocked = false := by
  unfold applyProbe
  rw [normalizeProbe_isHealthy, if_pos h]
  exact ⟨rfl, rfl⟩

theorem applyProbe_unhealthy {rawStatus : HealthStatus} (h : rawStatus.isHealthy = false) :
    (applyProbe config (normalizeProbe rawStatus) route).consecutiveFailures =
        route.consecutiveFailures + 1 ∧
      (applyProbe config (normalizeProbe rawStatus) route).blocked =
        (!rawStatus.ready || routeIsBlockedByFailures (route.consecutiveFailures + 1) config) := by
  unfold applyProbe
  rw [normalizeProbe_isHealthy, if_neg (by simp [h])]
  exact ⟨rfl, by rw [normalizeProbe_ready]⟩

end

theorem SparesBlocked.stays
    (h : SparesBlocked system route) (hblocked : route.blocked = true) :
    routeIsBlockedByFailures (route.consecutiveFailures + 1) system.registry.config = true := by
  simpa [routeIsBlockedByFailures, threshold] using h hblocked

theorem not_sparesBlocked
    (h : ¬ SparesBlocked system route) :
    route.blocked = true ∧
      routeIsBlockedByFailures (route.consecutiveFailures + 1) system.registry.config = false := by
  unfold SparesBlocked at h
  rw [Classical.not_imp] at h
  exact ⟨h.1, by simpa [routeIsBlockedByFailures, threshold] using h.2⟩

/-! ## One step -/

/-- The configuration is set once. -/
def SameSetup (registry next : AdapterRegistry Adapter) : Prop :=
  next.config = registry.config ∧ next.initialized = registry.initialized

theorem updateHealth_setup (routeKey : Bytes)
    (change : AdapterRouteState Adapter → AdapterRouteState Adapter) (missing : String) :
    SameSetup registry (registry.updateHealth routeKey change missing).1 := by
  unfold updateHealth
  split <;> exact ⟨rfl, rfl⟩

theorem step_setup (system : System Adapter) (operation : Operation Adapter) :
    SameSetup system.registry (step system operation).1.registry := by
  have hsame : SameSetup system.registry system.registry := ⟨rfl, rfl⟩
  cases operation with
  | registerAdapter registration =>
    simp only [step, System.take, registerAdapter]
    split
    · exact hsame
    split
    · exact hsame
    · split <;> exact hsame
  | unregisterAdapter routeKey =>
    simp only [step, System.take, unregisterAdapter]
    split
    · exact hsame
    · split <;> exact hsame
  | beginProbe routeKey =>
    rw [(beginProbe_step system routeKey).1]
    unfold beginProbe
    split
    · exact hsame
    split
    · exact hsame
    · split <;> exact hsame
  | finishProbe probe rawStatus =>
    simp only [step]
    split
    · exact hsame
    · exact updateHealth_setup ..
  | recordCallSuccess routeKey message =>
    simp only [step, System.take, recordCallSuccess]
    split
    · exact hsame
    · exact updateHealth_setup ..
  | recordCallFailure routeKey message =>
    simp only [step, System.take, recordCallFailure]
    split
    · exact hsame
    · exact updateHealth_setup ..

theorem step_threshold (system : System Adapter) (operation : Operation Adapter) :
    threshold (step system operation).1 = threshold system := by
  unfold threshold
  rw [(step_setup system operation).1]

/-- Before it is initialized a registry has no route. -/
structure Usable (system : System Adapter) : Prop where
  positive : 0 < threshold system
  routes : system.registry.initialized = true ∨ system.registry.routes = []

theorem threshold_pos (h : 0 < threshold system) :
    ¬ (threshold system).toNat ≤ 0 := by
  rw [UInt32.lt_iff_toNat_lt] at h
  exact Nat.not_le.mpr h

theorem usable_step (h : Usable system) (operation : Operation Adapter) :
    Usable (step system operation).1 where
  positive := by
    rw [step_threshold]
    exact h.positive
  routes := by
    rw [(step_setup system operation).2]
    rcases h.routes with hinitialized | hnil
    · exact .inl hinitialized
    · have heffect := effect_step system operation
      generalize (step system operation).1.registry.routes = routes at heffect
      generalize (step system operation).1.events = events at heffect
      cases heffect with
      | same => exact .inr hnil
      | added registration isInitialized isNew => exact .inl isInitialized
      | replaced registration =>
        rw [hnil]
        exact .inr rfl
      | removed routeKey =>
        rw [hnil]
        exact .inr rfl
      | updated routeKey event change updates =>
        rw [hnil]
        exact .inr rfl

/-- The count and the flag of a route after its change, with what its history says. -/
theorem updates_accounted (updates : Updates system operation route.routeKey event change)
    (hpositive : 0 < threshold system)
    (hfind : findRoute system.registry.routes route.routeKey = some route)
    (hcounted : route.consecutiveFailures.toNat = failuresSince route.routeKey system.events)
    (hharmless : Harmless isReady system operation) :
    (change route).consecutiveFailures.toNat =
        failuresSince route.routeKey (event :: system.events) ∧
      ((threshold system).toNat ≤ failuresSince route.routeKey (event :: system.events) →
        (change route).blocked = true) := by
  have hzero := threshold_pos hpositive
  have hfailed (hcounts : CountsOn route) :
      (route.consecutiveFailures + 1).toNat =
          failuresSince route.routeKey (.failed route.routeKey :: system.events) ∧
        ((threshold system).toNat ≤
            failuresSince route.routeKey (.failed route.routeKey :: system.events) →
          routeIsBlockedByFailures (route.consecutiveFailures + 1) system.registry.config = true) := by
    have hcount : (route.consecutiveFailures + 1).toNat =
        failuresSince route.routeKey (.failed route.routeKey :: system.events) := by
      rw [hcounts.next, hcounted]
      simp [failuresSince]
    refine ⟨hcount, fun hreached => ?_⟩
    rw [← hcount] at hreached
    unfold routeIsBlockedByFailures
    rw [decide_eq_true_eq, UInt32.le_iff_toNat_le]
    exact hreached
  cases updates with
  | success _ message =>
    have hhistory : failuresSince route.routeKey (.succeeded route.routeKey :: system.events) = 0 := by
      simp [failuresSince]
    rw [hhistory]
    exact ⟨rfl, fun hreached => absurd hreached hzero⟩
  | failure _ message =>
    exact hfailed (hharmless route hfind).1
  | probe probe _ rawStatus started =>
    rcases hhealthy : rawStatus.isHealthy with _ | _
    · obtain ⟨hcounts, -⟩ := hharmless hhealthy route.routeKey started route hfind
      obtain ⟨hcount, hblocked⟩ := applyProbe_unhealthy system.registry.config route hhealthy
      obtain ⟨hhistory, hreached⟩ := hfailed hcounts
      rw [hcount, hblocked]
      refine ⟨hhistory, fun h => ?_⟩
      rw [hreached h, Bool.or_true]
    · have hhistory : failuresSince route.routeKey (.succeeded route.routeKey :: system.events) = 0 := by
        simp [failuresSince]
      obtain ⟨hcount, -⟩ := applyProbe_healthy system.registry.config route hhealthy
      rw [if_pos rfl, hcount, hhistory]
      exact ⟨rfl, fun hreached => absurd hreached hzero⟩

theorem accounted_step (h : Accounted system) (husable : Usable system)
    (hharmless : Harmless isReady system operation) : Accounted (step system operation).1 := by
  have hroute : ∀ next ∈ (step system operation).1.registry.routes,
      next.consecutiveFailures.toNat =
          failuresSince next.routeKey (step system operation).1.events ∧
        ((threshold system).toNat ≤
            failuresSince next.routeKey (step system operation).1.events → next.blocked = true) := by
    intro next hnext
    cases origin_step h.sorted operation hnext with
    | kept mem history =>
      rw [history]
      exact ⟨h.counted next mem, h.blocked next mem⟩
    | added registration isNew isMade history =>
      rw [history, isMade]
      exact ⟨rfl, fun hreached => absurd hreached (threshold_pos husable.positive)⟩
    | replaced registration existing mem sameKey isMade history =>
      rw [history, sameKey, isMade]
      exact ⟨h.counted existing mem, h.blocked existing mem⟩
    | updated existing mem event change updates isChanged sameKey history =>
      rw [history, sameKey, isChanged]
      exact updates_accounted updates husable.positive (findRoute_of_mem h.sorted mem)
        (h.counted existing mem) hharmless
  constructor
  · exact sorted_step h.sorted operation
  · exact fun next hnext => (hroute next hnext).1
  · rw [step_threshold]
    exact fun next hnext => (hroute next hnext).2

theorem unblocks_updates (hsorted : SortedRoutes system.registry.routes)
    (h : Unblocks system operation routeKey) :
    ∃ route ∈ findRoute system.registry.routes routeKey, route.blocked = true ∧
      ∃ event change, Updates system operation routeKey event change ∧
        (change route).blocked = false := by
  obtain ⟨route, hroute, hblocked, next, hnext, hopen⟩ := h
  obtain ⟨hmem, hkey⟩ := findRoute_some hroute
  obtain ⟨hnextMem, hnextKey⟩ := findRoute_some hnext
  refine ⟨route, hroute, hblocked, ?_⟩
  cases origin_step hsorted operation hnextMem with
  | kept mem history =>
    rw [sorted_inj hsorted mem hmem (hnextKey.trans hkey.symm), hblocked] at hopen
    cases hopen
  | added registration isNew isMade history =>
    exact absurd (hkey.trans hnextKey.symm) (findRoute_none isNew route hmem)
  | replaced registration existing mem sameKey isMade history =>
    have hsame := sorted_inj hsorted mem hmem (sameKey.symm.trans (hnextKey.trans hkey.symm))
    rw [isMade, hsame] at hopen
    have hstill : (makeRouteState registration (some route)).blocked = route.blocked := rfl
    rw [hstill, hblocked] at hopen
    cases hopen
  | updated existing mem event change updates isChanged sameKey history =>
    have hsame := sorted_inj hsorted mem hmem (sameKey.symm.trans (hnextKey.trans hkey.symm))
    subst hsame
    rw [hkey] at updates
    exact ⟨event, change, updates, isChanged ▸ hopen⟩

theorem recovers_of_harmless
    (hhealthy : ∀ status, HealthStatus.isHealthy status = true → isReady status = true)
    (hsorted : SortedRoutes system.registry.routes) (hharmless : Harmless isReady system operation)
    (h : Unblocks system operation routeKey) : Recovers isReady system operation routeKey := by
  obtain ⟨route, hroute, hblocked, event, change, updates, hopen⟩ := unblocks_updates hsorted h
  cases updates with
  | success _ message => exact .inl ⟨_, rfl⟩
  | failure _ message =>
    have hstays := (hharmless route hroute).2.stays hblocked
    exact absurd hstays (by simpa [applyFailure] using hopen)
  | probe probe _ rawStatus started =>
    refine .inr ⟨probe, rawStatus, rfl, started, ?_⟩
    by_contra hnot
    rw [Bool.not_eq_true] at hnot
    have hunhealthy : rawStatus.isHealthy = false := by
      by_contra hhealth
      rw [Bool.not_eq_false] at hhealth
      rw [hhealthy rawStatus hhealth] at hnot
      cases hnot
    rw [(applyProbe_unhealthy system.registry.config route hunhealthy).2, Bool.or_eq_false_iff,
      Bool.not_eq_false'] at hopen
    have hspares := (hharmless hunhealthy routeKey started route hroute).2 hopen.1 hnot
    rw [hspares.stays hblocked] at hopen
    exact absurd hopen.2 (by simp)

theorem not_recovers_of_failedCall (h : isFailedCall operation = true) :
    ¬ Recovers isReady system operation routeKey := by
  rintro (⟨message, rfl⟩ | ⟨probe, rawStatus, rfl, -⟩)
  · cases h
  · cases h

theorem stepLawful_of_harmless
    (hhealthy : ∀ status, HealthStatus.isHealthy status = true → isReady status = true)
    (h : Accounted system) (husable : Usable system) (hharmless : Harmless isReady system operation) :
    StepLawful isReady system operation where
  accounted := accounted_step h husable hharmless
  failedCall hfailed _ hunblocks :=
    not_recovers_of_failedCall hfailed (recovers_of_harmless hhealthy h.sorted hharmless hunblocks)
  unblocks _ hunblocks := recovers_of_harmless hhealthy h.sorted hharmless hunblocks

end Dasall.Llm.Route

