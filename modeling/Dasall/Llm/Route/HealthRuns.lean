import Dasall.Llm.Route.HealthAccount

/-!
# Runs of the adapter registry

Registrations, probes and calls in any order: the account of health is right in a run exactly when no
failed call meets a route that is blocked below the threshold, and no count wraps.
-/

open Dasall.Lib.Run Dasall.Lib.Text

namespace Dasall.Llm.Route

variable {Adapter : Type}

/-! ## A step that does harm -/

variable {routeKey : Bytes} {route : AdapterRouteState Adapter}

theorem mem_updateRoute_changed {routes : List (AdapterRouteState Adapter)}
    (change : AdapterRouteState Adapter → AdapterRouteState Adapter)
    (h : findRoute routes routeKey = some route) :
    change route ∈ updateRoute routeKey change routes := by
  induction routes with
  | nil => cases h
  | cons first routes ih =>
    unfold findRoute at h
    unfold updateRoute
    by_cases hkey : first.routeKey = routeKey
    · rw [List.find?_cons_of_pos (by simpa using hkey), Option.some.injEq] at h
      rw [if_pos hkey, h]
      exact List.mem_cons_self
    · rw [List.find?_cons_of_neg (by simpa using hkey)] at h
      rw [if_neg hkey]
      exact List.mem_cons_of_mem _ (ih h)

theorem updateHealth_found {registry : AdapterRegistry Adapter}
    (change : AdapterRouteState Adapter → AdapterRouteState Adapter) (missing : String)
    (h : findRoute registry.routes routeKey = some route) :
    registry.updateHealth routeKey change missing =
      registry.publish (updateRoute routeKey change registry.routes) := by
  unfold AdapterRegistry.updateHealth
  rw [h]

variable {system : System Adapter} {operation : Operation Adapter} {event : Event}
  {change : AdapterRouteState Adapter → AdapterRouteState Adapter}

theorem initialized_of_route (husable : Usable system)
    (h : findRoute system.registry.routes routeKey = some route) :
    system.registry.initialized = true := by
  refine husable.routes.resolve_right fun hnil => ?_
  rw [hnil] at h
  cases h

theorem updates_step (updates : Updates system operation routeKey event change)
    (husable : Usable system) (h : findRoute system.registry.routes routeKey = some route) :
    (step system operation).1.registry.routes = updateRoute routeKey change system.registry.routes ∧
      (step system operation).1.events = event :: system.events := by
  have hinitialized := initialized_of_route husable h
  have hupdate (missing : String) := updateHealth_found change missing h
  cases updates with
  | success _ message =>
    simp only [step, System.take, AdapterRegistry.recordCallSuccess, hinitialized, hupdate]
    exact ⟨rfl, rfl⟩
  | failure _ message =>
    simp only [step, System.take, AdapterRegistry.recordCallFailure, hinitialized, hupdate]
    exact ⟨rfl, rfl⟩
  | probe probe _ rawStatus started =>
    simp only [step, started, System.take, AdapterRegistry.finishProbe, hupdate]
    exact ⟨rfl, rfl⟩

/-- An account that is right after the change says that the count has not wrapped. -/
theorem countsOn_of_accounted
    (updates : Updates system operation route.routeKey (.failed route.routeKey) change)
    (husable : Usable system) (h : findRoute system.registry.routes route.routeKey = some route)
    (hchange : (change route).consecutiveFailures = route.consecutiveFailures + 1)
    (haccounted : Accounted (step system operation).1) : CountsOn route := by
  obtain ⟨hroutes, hevents⟩ := updates_step updates husable h
  have hmem := mem_updateRoute_changed change h
  rw [← hroutes] at hmem
  have hcount := haccounted.counted _ hmem
  rw [hevents, updates.sameKey, hchange] at hcount
  by_contra hwraps
  rw [not_countsOn hwraps] at hcount
  simp [failuresSince] at hcount

theorem unblocks_of_updates (updates : Updates system operation routeKey event change)
    (husable : Usable system) (hsorted : SortedRoutes system.registry.routes)
    (h : findRoute system.registry.routes routeKey = some route) (hblocked : route.blocked = true)
    (hopen : (change route).blocked = false) : Unblocks system operation routeKey := by
  have hnext : findRoute (step system operation).1.registry.routes routeKey = some (change route) := by
    have hmem := mem_updateRoute_changed change h
    rw [← (updates_step updates husable h).1] at hmem
    have hfind := findRoute_of_mem (sorted_step hsorted operation) hmem
    rwa [updates.sameKey, (findRoute_some h).2] at hfind
  exact ⟨route, h, hblocked, change route, hnext, hopen⟩

theorem harmless_of_stepLawful {isReady : HealthStatus → Bool} (haccounted : Accounted system)
    (husable : Usable system) (h : StepLawful isReady system operation) :
    Harmless isReady system operation := by
  cases operation with
  | recordCallFailure routeKey message =>
    intro route hroute
    obtain ⟨-, rfl⟩ := findRoute_some hroute
    have updates : Updates system (.recordCallFailure route.routeKey message) route.routeKey
        (.failed route.routeKey) (applyFailure system.registry.config message) := .failure _ _
    refine ⟨countsOn_of_accounted updates husable hroute rfl h.accounted, ?_⟩
    by_contra hharm
    obtain ⟨hblocked, hopen⟩ := not_sparesBlocked hharm
    exact h.failedCall rfl _
      (unblocks_of_updates updates husable haccounted.sorted hroute hblocked hopen)
  | finishProbe probe rawStatus =>
    intro hunhealthy routeKey hstarted route hroute
    obtain ⟨-, rfl⟩ := findRoute_some hroute
    have updates := Updates.probe probe route.routeKey rawStatus hstarted
    rw [hunhealthy] at updates
    obtain ⟨hcount, hflag⟩ := applyProbe_unhealthy system.registry.config route hunhealthy
    refine ⟨countsOn_of_accounted updates husable hroute hcount h.accounted, fun hready hnot => ?_⟩
    by_contra hharm
    obtain ⟨hblocked, hopen⟩ := not_sparesBlocked hharm
    have hunblocks := unblocks_of_updates updates husable haccounted.sorted hroute hblocked
      (by rw [hflag, hready, hopen]; rfl)
    rcases h.unblocks _ hunblocks with ⟨message, hother⟩ | ⟨other, status, hsame, -, hcounts⟩
    · cases hother
    · cases hsame
      rw [hnot] at hcounts
      cases hcounts
  | registerAdapter registration => trivial
  | unregisterAdapter routeKey => trivial
  | beginProbe routeKey => trivial
  | recordCallSuccess routeKey message => trivial

/-! ## Runs -/

def after (config : AdapterRegistryConfig) (operations : List (Operation Adapter)) : System Adapter :=
  (run step (start Adapter config) operations).1

/-- What is promised of a whole run, where `isReady` says which answers to a probe count as ready. -/
structure Lawful (isReady : HealthStatus → Bool) (config : AdapterRegistryConfig)
    (operations : List (Operation Adapter)) : Prop where
  accounted : ∀ before rest, operations = before ++ rest → Accounted (after config before)
  failedCall : ∀ before operation rest, operations = before ++ operation :: rest →
    isFailedCall operation = true → ∀ routeKey, ¬ Unblocks (after config before) operation routeKey
  unblocks : ∀ before operation rest, operations = before ++ operation :: rest → ∀ routeKey,
    Unblocks (after config before) operation routeKey →
      Recovers isReady (after config before) operation routeKey

variable (config : AdapterRegistryConfig)

theorem usable_start : Usable (start Adapter config) := by
  unfold start AdapterRegistry.init
  split
  · have hdefault : (0 : UInt32) < 3 := by decide
    exact ⟨hdefault, .inr rfl⟩
  · next h =>
    rw [Bool.not_eq_true', Bool.not_eq_false] at h
    exact ⟨of_decide_eq_true h, .inl rfl⟩

theorem accounted_start : Accounted (start Adapter config) := by
  have hnil : (start Adapter config).registry.routes = [] := by
    unfold start AdapterRegistry.init
    split <;> rfl
  constructor
  · rw [hnil]
    exact List.Pairwise.nil
  · rw [hnil]
    exact List.forall_mem_nil _
  · rw [hnil]
    exact List.forall_mem_nil _

/-- A registry whose account is right. -/
def Right (system : System Adapter) : Prop := Accounted system ∧ Usable system

theorem right_start : Right (start Adapter config) :=
  ⟨accounted_start config, usable_start config⟩

theorem after_snoc (operations : List (Operation Adapter))
    (operation : Operation Adapter) :
    after config (operations ++ [operation]) = (step (after config operations) operation).1 :=
  run_snoc step (start Adapter config) operations operation

theorem lawful_iff_steps (isReady : HealthStatus → Bool) (config : AdapterRegistryConfig)
    (operations : List (Operation Adapter)) :
    Lawful isReady config operations ↔
      AllSteps step (StepLawful isReady) (start Adapter config) operations := by
  rw [allSteps_iff_split]
  constructor
  · rintro h before operation rest rfl
    have haccounted := h.accounted (before ++ [operation]) rest (by simp)
    rw [after_snoc] at haccounted
    exact ⟨haccounted, h.failedCall before operation rest rfl, h.unblocks before operation rest rfl⟩
  · intro h
    refine ⟨?_, ?_, ?_⟩
    · intro before rest hsplit
      rcases List.eq_nil_or_concat before with rfl | ⟨init, operation, rfl⟩
      · exact accounted_start config
      · rw [List.concat_eq_append] at hsplit ⊢
        rw [after_snoc]
        exact (h init operation rest (by simp [hsplit])).accounted
    · exact fun before operation rest hsplit => (h before operation rest hsplit).failedCall
    · exact fun before operation rest hsplit => (h before operation rest hsplit).unblocks

theorem lawful_iff_harmless {isReady : HealthStatus → Bool}
    (hhealthy : ∀ status, HealthStatus.isHealthy status = true → isReady status = true)
    (config : AdapterRegistryConfig) (operations : List (Operation Adapter)) :
    Lawful isReady config operations ↔
      AllSteps step (Harmless isReady) (start Adapter config) operations := by
  rw [lawful_iff_steps]
  refine allSteps_iff step Right (StepLawful isReady) (Harmless isReady) (fun _ => True) ?_ ?_
    (start Adapter config) operations (right_start config) fun _ _ => trivial
  · rintro system operation ⟨haccounted, husable⟩ -
    exact ⟨harmless_of_stepLawful haccounted husable,
      stepLawful_of_harmless hhealthy haccounted husable⟩
  · rintro system operation ⟨-, husable⟩ h
    exact ⟨h.accounted, usable_step husable operation⟩

/-- Either way of reading an answer that is ready and degraded: as one that may unblock the route, or
as one that may not. -/
theorem account_iff_harmless (config : AdapterRegistryConfig)
    (operations : List (Operation Adapter)) :
    (Lawful HealthStatus.ready config operations ↔
        AllSteps step (Harmless HealthStatus.ready) (start Adapter config) operations) ∧
      (Lawful HealthStatus.isHealthy config operations ↔
        AllSteps step (Harmless HealthStatus.isHealthy) (start Adapter config) operations) := by
  constructor
  · apply lawful_iff_harmless
    intro status h
    unfold HealthStatus.isHealthy at h
    rw [Bool.and_eq_true] at h
    exact h.1
  · exact lawful_iff_harmless (fun _ h => h) config operations

def registration : AdapterRegistration Unit where
  providerId := str "p"
  modelId := str "m"
  adapterId := str "a"
  deploymentType := str "cloud"
  adapter := some ()

/-- A probe that finds the adapter not ready, and then a failed call. -/
def failedCallAfterProbe : List (Operation Unit) :=
  [.registerAdapter registration, .beginProbe (str "p/m"), .finishProbe 0 {},
    .recordCallFailure (str "p/m") []]

/-- The failed call takes the block off the route. -/
theorem failedCallAfterProbe_unblocks : ¬ Lawful HealthStatus.ready {} failedCallAfterProbe := by
  intro h
  apply h.failedCall (failedCallAfterProbe.take 3) (.recordCallFailure (str "p/m") []) [] rfl rfl
    (str "p/m")
  have hbefore : (findRoute (after {} (failedCallAfterProbe.take 3)).registry.routes
      (str "p/m")).map (·.blocked) = some true := by decide +kernel
  have hafter : (findRoute (after {} failedCallAfterProbe).registry.routes
      (str "p/m")).map (·.blocked) = some false := by decide +kernel
  obtain ⟨route, hroute, hblocked⟩ := Option.map_eq_some_iff.mp hbefore
  obtain ⟨next, hnext, hopen⟩ := Option.map_eq_some_iff.mp hafter
  exact ⟨route, hroute, hblocked, next, hnext, hopen⟩

end Dasall.Llm.Route
