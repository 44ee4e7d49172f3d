import Dasall.Lib.Sort
import Dasall.Lib.Text

/-!
# The adapter registry

A route is a provider and a model, with the adapter that serves it and what is known of its health.
Every writer copies the snapshot, changes the copy and publishes it under a lock. A probe asks the
adapter between two such sections, so it is a call in two steps here.
-/

open Dasall.Lib.Sort Dasall.Lib.Text

namespace Dasall.Llm.Route

variable {Adapter : Type}

structure HealthStatus where
  ready : Bool := false
  degraded : Bool := false
  message : Bytes := []
deriving DecidableEq

def HealthStatus.isHealthy (status : HealthStatus) : Bool := status.ready && !status.degraded

structure AdapterRegistryConfig where
  blockedFailureThreshold : UInt32 := 3
deriving DecidableEq

def AdapterRegistryConfig.hasConsistentValues (config : AdapterRegistryConfig) : Bool :=
  0 < config.blockedFailureThreshold

/-- The adapter is a pointer, which may be null. -/
structure AdapterRegistration (Adapter : Type) where
  providerId : Bytes
  modelId : Bytes
  adapterId : Bytes
  deploymentType : Bytes
  capabilityTags : List Bytes := []
  supportsStreaming : Bool := false
  adapter : Option Adapter

/-- A registration with its health. -/
structure AdapterRouteState (Adapter : Type) extends AdapterRegistration Adapter where
  lastHealth : HealthStatus := {}
  blocked : Bool := false
  consecutiveFailures : UInt32 := 0

def makeRouteKey (providerId modelId : Bytes) : Bytes := providerId ++ str "/" ++ modelId

def AdapterRegistration.routeKey (registration : AdapterRegistration Adapter) : Bytes :=
  makeRouteKey registration.providerId registration.modelId

def AdapterRegistration.hasConsistentValues (registration : AdapterRegistration Adapter) : Bool :=
  !registration.providerId.isEmpty && !registration.modelId.isEmpty &&
    !registration.adapterId.isEmpty && !registration.deploymentType.isEmpty &&
    registration.adapter.isSome

def AdapterRouteState.routeKey (route : AdapterRouteState Adapter) : Bytes :=
  makeRouteKey route.providerId route.modelId

structure AdapterRegistry (Adapter : Type) where
  config : AdapterRegistryConfig := {}
  snapshot : Option (List (AdapterRouteState Adapter)) := none
  lastErrorMessage : Bytes := []
  initialized : Bool := false

/-! ## Routes -/

def sortRoutes (routes : List (AdapterRouteState Adapter)) : List (AdapterRouteState Adapter) :=
  sortBy (fun left right => decide (left.routeKey < right.routeKey)) routes

def normalizeHealthStatus (status : HealthStatus) (fallbackMessage : String) : HealthStatus :=
  if status.message.isEmpty then { status with message := str fallbackMessage } else status

def routeIsBlockedByFailures (consecutiveFailures : UInt32) (config : AdapterRegistryConfig) : Bool :=
  config.blockedFailureThreshold ≤ consecutiveFailures

def makeRouteState (registration : AdapterRegistration Adapter)
    (existingState : Option (AdapterRouteState Adapter)) : AdapterRouteState Adapter :=
  match existingState with
  | some existing =>
    { registration with
      lastHealth := existing.lastHealth
      blocked := existing.blocked
      consecutiveFailures := existing.consecutiveFailures }
  | none =>
    { registration with
      lastHealth := { message := str "adapter registered but not probed" } }

def findRoute (routes : List (AdapterRouteState Adapter)) (routeKey : Bytes) :
    Option (AdapterRouteState Adapter) :=
  routes.find? fun route => route.routeKey = routeKey

/-- The first route of a key is changed where it stands. -/
def updateRoute (routeKey : Bytes) (change : AdapterRouteState Adapter → AdapterRouteState Adapter) :
    List (AdapterRouteState Adapter) → List (AdapterRouteState Adapter)
  | [] => []
  | route :: routes =>
    if route.routeKey = routeKey then change route :: routes
    else route :: updateRoute routeKey change routes

/-- What a probe makes of a route. -/
def applyProbe (config : AdapterRegistryConfig) (status : HealthStatus)
    (route : AdapterRouteState Adapter) : AdapterRouteState Adapter :=
  if status.isHealthy then
    { route with lastHealth := status, blocked := false, consecutiveFailures := 0 }
  else
    { route with
      lastHealth := status
      consecutiveFailures := route.consecutiveFailures + 1
      blocked := !status.ready || routeIsBlockedByFailures (route.consecutiveFailures + 1) config }

def applySuccess (message : Bytes) (route : AdapterRouteState Adapter) : AdapterRouteState Adapter :=
  { route with
    blocked := false
    consecutiveFailures := 0
    lastHealth := normalizeHealthStatus { ready := true, degraded := false, message }
      "adapter route healthy after successful call" }

/-- Whether the route is blocked now is read off the count alone. -/
def applyFailure (config : AdapterRegistryConfig) (message : Bytes)
    (route : AdapterRouteState Adapter) : AdapterRouteState Adapter :=
  let blocked := routeIsBlockedByFailures (route.consecutiveFailures + 1) config
  { route with
    consecutiveFailures := route.consecutiveFailures + 1
    blocked
    lastHealth := normalizeHealthStatus { ready := !blocked, degraded := true, message }
      (if blocked then "adapter route blocked after consecutive call failures"
        else "adapter route degraded after call failure") }

/-- The message that a status without one is given. -/
def normalizeProbe (rawStatus : HealthStatus) : HealthStatus :=
  normalizeHealthStatus rawStatus
    (if rawStatus.ready then
      if rawStatus.degraded then "adapter health degraded" else "adapter health ready"
    else "adapter health not ready")

namespace AdapterRegistry

/-! ## Calls -/

def refuse (registry : AdapterRegistry Adapter) (message : String) : AdapterRegistry Adapter × Bool :=
  ({ registry with lastErrorMessage := str message }, false)

def publish (registry : AdapterRegistry Adapter) (routes : List (AdapterRouteState Adapter)) :
    AdapterRegistry Adapter × Bool :=
  ({ registry with snapshot := some routes, lastErrorMessage := [] }, true)

/-- The routes of the snapshot that is loaded; there is none before the registry is initialized. -/
def routes (registry : AdapterRegistry Adapter) : List (AdapterRouteState Adapter) :=
  registry.snapshot.getD []

def init (registry : AdapterRegistry Adapter) (config : AdapterRegistryConfig) :
    AdapterRegistry Adapter × Bool :=
  if !config.hasConsistentValues then
    registry.refuse "adapter registry received inconsistent config"
  else ({ config, snapshot := some [], lastErrorMessage := [], initialized := true }, true)

def registerAdapter (registry : AdapterRegistry Adapter)
    (registration : AdapterRegistration Adapter) : AdapterRegistry Adapter × Bool :=
  if !registry.initialized then
    registry.refuse "adapter registry has not been initialized"
  else if !registration.hasConsistentValues then
    registry.refuse "adapter registry received inconsistent registration"
  else
    match findRoute registry.routes registration.routeKey with
    | none => registry.publish (sortRoutes (registry.routes ++ [makeRouteState registration none]))
    | some _ =>
      registry.publish (sortRoutes (updateRoute registration.routeKey
        (fun existing => makeRouteState registration (some existing)) registry.routes))

def unregisterAdapter (registry : AdapterRegistry Adapter) (routeKey : Bytes) :
    AdapterRegistry Adapter × Bool :=
  if !registry.initialized then
    registry.refuse "adapter registry has not been initialized"
  else
    let kept := registry.routes.filter fun route => route.routeKey ≠ routeKey
    if kept.length = registry.routes.length then registry.refuse "adapter registry route not found"
    else registry.publish kept

/-- The locked section of every call that changes one route. -/
def updateHealth (registry : AdapterRegistry Adapter) (routeKey : Bytes)
    (change : AdapterRouteState Adapter → AdapterRouteState Adapter) (missing : String) :
    AdapterRegistry Adapter × Bool :=
  match findRoute registry.routes routeKey with
  | none => registry.refuse missing
  | some _ => registry.publish (updateRoute routeKey change registry.routes)

/-- A probe up to the question to the adapter, and whether it gets that far. -/
def beginProbe (registry : AdapterRegistry Adapter) (routeKey : Bytes) :
    AdapterRegistry Adapter × Bool :=
  if !registry.initialized then
    registry.refuse "adapter registry has not been initialized"
  else
    match registry.snapshot with
    | none => registry.refuse "adapter registry snapshot is not available"
    | some routes =>
      match findRoute routes routeKey with
      | none => registry.refuse "adapter registry route not found"
      | some _ => (registry, true)

/-- A probe from the answer of the adapter on. -/
def finishProbe (registry : AdapterRegistry Adapter) (routeKey : Bytes) (rawStatus : HealthStatus) :
    AdapterRegistry Adapter × Bool :=
  registry.updateHealth routeKey (applyProbe registry.config (normalizeProbe rawStatus))
    "adapter registry route disappeared before health update"

def recordCallSuccess (registry : AdapterRegistry Adapter) (routeKey message : Bytes) :
    AdapterRegistry Adapter × Bool :=
  if !registry.initialized then
    registry.refuse "adapter registry has not been initialized"
  else registry.updateHealth routeKey (applySuccess message) "adapter registry route not found"

def recordCallFailure (registry : AdapterRegistry Adapter) (routeKey message : Bytes) :
    AdapterRegistry Adapter × Bool :=
  if !registry.initialized then
    registry.refuse "adapter registry has not been initialized"
  else
    registry.updateHealth routeKey (applyFailure registry.config message)
      "adapter registry route not found"

end AdapterRegistry

/-! ## Runs -/

/-- What happens to the health of a route. A route is added without a history. -/
inductive Event
  | added (routeKey : Bytes)
  | succeeded (routeKey : Bytes)
  | failed (routeKey : Bytes)
deriving DecidableEq

/-- The failed and degraded events of a route since it last succeeded, or was added. The latest event
comes first. -/
def failuresSince (routeKey : Bytes) : List Event → Nat
  | [] => 0
  | .added key :: events => if key = routeKey then 0 else failuresSince routeKey events
  | .succeeded key :: events => if key = routeKey then 0 else failuresSince routeKey events
  | .failed key :: events =>
    if key = routeKey then failuresSince routeKey events + 1 else failuresSince routeKey events

/-- The registry, the routes whose adapters are being asked, and what has happened so far. -/
structure System (Adapter : Type) where
  registry : AdapterRegistry Adapter
  probes : List Bytes := []
  events : List Event := []

inductive Operation (Adapter : Type)
  | registerAdapter (registration : AdapterRegistration Adapter)
  | unregisterAdapter (routeKey : Bytes)
  | beginProbe (routeKey : Bytes)
  | finishProbe (probe : Nat) (rawStatus : HealthStatus)
  | recordCallSuccess (routeKey message : Bytes)
  | recordCallFailure (routeKey message : Bytes)

/-- The registry after a call, and the event if the call went through. -/
def System.take (system : System Adapter) (outcome : AdapterRegistry Adapter × Bool)
    (event : Option Event) : System Adapter :=
  { system with
    registry := outcome.1
    events := if outcome.2 then event.toList ++ system.events else system.events }

/-- There is no answer to a probe until it is finished. -/
def step (system : System Adapter) : Operation Adapter → System Adapter × Option Bool
  | .registerAdapter registration =>
    let outcome := system.registry.registerAdapter registration
    let isNew := (findRoute system.registry.routes registration.routeKey).isNone
    (system.take outcome (if isNew then some (.added registration.routeKey) else none),
      some outcome.2)
  | .unregisterAdapter routeKey =>
    let outcome := system.registry.unregisterAdapter routeKey
    (system.take outcome none, some outcome.2)
  | .beginProbe routeKey =>
    match system.registry.beginProbe routeKey with
    | (registry, false) => ({ system with registry }, some false)
    | (registry, true) => ({ system with registry, probes := system.probes ++ [routeKey] }, none)
  | .finishProbe probe rawStatus =>
    match system.probes[probe]? with
    | none => (system, none)
    | some routeKey =>
      let outcome := system.registry.finishProbe routeKey rawStatus
      let event := if rawStatus.isHealthy then Event.succeeded routeKey else .failed routeKey
      ({ system.take outcome (some event) with probes := system.probes.eraseIdx probe },
        some outcome.2)
  | .recordCallSuccess routeKey message =>
    let outcome := system.registry.recordCallSuccess routeKey message
    (system.take outcome (some (.succeeded routeKey)), some outcome.2)
  | .recordCallFailure routeKey message =>
    let outcome := system.registry.recordCallFailure routeKey message
    (system.take outcome (some (.failed routeKey)), some outcome.2)

/-- A registry that has just been initialized. -/
def start (Adapter : Type) (config : AdapterRegistryConfig) : System Adapter where
  registry := (AdapterRegistry.init {} config).1

end Dasall.Llm.Route
