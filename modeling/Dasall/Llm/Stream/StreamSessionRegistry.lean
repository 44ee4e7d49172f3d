import Dasall.Lib.Sort
import Dasall.Lib.Table
import Dasall.Lib.Text

/-!
# Stream sessions

The registry keeps a record for each stream that a model answers on. Every call holds its lock from
end to end, and the clock is an input.
-/

open Dasall.Lib Dasall.Lib.Sort Dasall.Lib.Text

namespace Dasall.Llm.Stream

inductive StreamSessionState
  | accepted
  | active
  | completing
  | completed
  | cancelRequested
  | cancelled
  | failed
  | expired
deriving DecidableEq

def StreamSessionState.isTerminal : StreamSessionState → Bool
  | .completed | .cancelled | .failed | .expired => true
  | .accepted | .active | .completing | .cancelRequested => false

structure StreamSessionRegistryConfig where
  maxActiveSessions : UInt32 := 8
  maxBufferedChars : UInt32 := 32768
  sessionTtlMs : UInt32 := 60000
deriving DecidableEq

def StreamSessionRegistryConfig.hasConsistentValues (config : StreamSessionRegistryConfig) : Bool :=
  0 < config.maxActiveSessions && 0 < config.maxBufferedChars && 0 < config.sessionTtlMs

structure StreamSessionRecord where
  routeKey : Bytes
  state : StreamSessionState := .accepted
  bufferedChars : UInt32 := 0
  expiresAtMs : Int64 := 0
deriving DecidableEq

structure StreamSessionSnapshot where
  sessionId : Bytes
  routeKey : Bytes
  state : StreamSessionState
  bufferedChars : UInt32
  expiresAtMs : Int64
deriving DecidableEq

inductive StreamSessionMutationStatus
  | ok
  | notFound
  | capacityExceeded
  | invalidState
  | overflow
deriving DecidableEq

structure StreamSessionMutationResult where
  ok : Bool
  status : StreamSessionMutationStatus
  state : StreamSessionState
deriving DecidableEq

def StreamSessionRecord.toSnapshot (record : StreamSessionRecord) (sessionId : Bytes) :
    StreamSessionSnapshot where
  sessionId
  routeKey := record.routeKey
  state := record.state
  bufferedChars := record.bufferedChars
  expiresAtMs := record.expiresAtMs

structure StreamSessionRegistry where
  config : StreamSessionRegistryConfig := {}
  sessions : Table Bytes StreamSessionRecord := ∅
  initialized : Bool := false

def makeResult (status : StreamSessionMutationStatus) (state : StreamSessionState) (ok : Bool) :
    StreamSessionMutationResult where
  ok
  status
  state

def findResult : StreamSessionMutationResult := makeResult .notFound .accepted false

/-- What a mutator does to the record it has found: the record it leaves, and its answer. -/
abbrev Change := StreamSessionRecord → StreamSessionRecord × StreamSessionMutationResult

/-- The record is moved to a state, and the answer names it. -/
def StreamSessionRecord.moveTo (record : StreamSessionRecord) (state : StreamSessionState) :
    StreamSessionRecord × StreamSessionMutationResult :=
  ({ record with state }, makeResult .ok state true)

/-- The record is left as it is. -/
def StreamSessionRecord.stay (record : StreamSessionRecord) (status : StreamSessionMutationStatus)
    (ok : Bool) : StreamSessionRecord × StreamSessionMutationResult :=
  (record, makeResult status record.state ok)

def changeMarkActive : Change := fun record =>
  match record.state with
  | .accepted | .active => record.moveTo .active
  | .cancelRequested => record.stay .ok true
  | _ => record.stay .invalidState false

/-- The first delta makes an accepted session active. -/
def StreamSessionRecord.wake (record : StreamSessionRecord) : StreamSessionRecord :=
  if record.state = .accepted then { record with state := .active } else record

def appendToActive (config : StreamSessionRegistryConfig) (deltaChars : UInt32) : Change :=
  fun record =>
    if record.state = .cancelRequested then record.stay .invalidState false
    else if record.state ≠ .active then record.stay .invalidState false
    else if config.maxBufferedChars < deltaChars ||
        config.maxBufferedChars - deltaChars < record.bufferedChars then
      ({ record with state := .failed }, makeResult .overflow .failed false)
    else
      ({ record with bufferedChars := record.bufferedChars + deltaChars },
        makeResult .ok record.state true)

def changeAppendDelta (config : StreamSessionRegistryConfig) (deltaChars : UInt32) : Change :=
  fun record => appendToActive config deltaChars record.wake

def changeRequestCancel : Change := fun record =>
  if record.state.isTerminal then record.stay .ok true else record.moveTo .cancelRequested

def changeMarkCompleting : Change := fun record =>
  match record.state with
  | .accepted | .active | .completing => record.moveTo .completing
  | .cancelRequested => record.stay .ok true
  | _ => record.stay .invalidState false

/-- A session that was asked to cancel is cancelled; another that has not ended takes the target. -/
def changeEnd (target : StreamSessionState) : Change := fun record =>
  if record.state = .cancelRequested then record.moveTo .cancelled
  else if record.state.isTerminal then record.stay .ok true
  else
    match record.state with
    | .accepted | .active | .completing => record.moveTo target
    | _ => record.stay .invalidState false

def changeMarkCompleted : Change := changeEnd .completed

def changeMarkFailed : Change := changeEnd .failed

def changeMarkExpired : Change := fun record =>
  if record.state = .cancelRequested then record.moveTo .cancelled
  else if record.state.isTerminal then record.stay .ok true
  else record.moveTo .expired

namespace StreamSessionRegistry

def init (registry : StreamSessionRegistry) (config : StreamSessionRegistryConfig) :
    StreamSessionRegistry × Bool :=
  if !config.hasConsistentValues then (registry, false)
  else ({ config, sessions := ∅, initialized := true }, true)

def activeSessionCount (registry : StreamSessionRegistry) : Nat :=
  registry.sessions.entries.countP fun entry => !entry.2.state.isTerminal

def accept (registry : StreamSessionRegistry) (sessionId routeKey : Bytes) (nowMs : Int64) :
    StreamSessionRegistry × StreamSessionMutationResult :=
  if !registry.initialized || sessionId.isEmpty || routeKey.isEmpty then
    (registry, makeResult .invalidState .accepted false)
  else
    match registry.sessions.lookup sessionId with
    | some existing => (registry, makeResult .invalidState existing.state false)
    | none =>
      if registry.config.maxActiveSessions.toNat ≤ registry.activeSessionCount then
        (registry, makeResult .capacityExceeded .accepted false)
      else
        ({ registry with
            sessions := registry.sessions.insert sessionId
              { routeKey
                expiresAtMs := nowMs + Int64.ofNat registry.config.sessionTtlMs.toNat } },
          makeResult .ok .accepted true)

def mutate (registry : StreamSessionRegistry) (sessionId : Bytes) (change : Change) :
    StreamSessionRegistry × StreamSessionMutationResult :=
  match registry.sessions.lookup sessionId with
  | none => (registry, findResult)
  | some record =>
    ({ registry with
        sessions := Table.modify sessionId (fun record => (change record).1) registry.sessions },
      (change record).2)

def markActive (registry : StreamSessionRegistry) (sessionId : Bytes) :=
  registry.mutate sessionId changeMarkActive

def appendDelta (registry : StreamSessionRegistry) (sessionId : Bytes) (deltaChars : UInt32) :=
  registry.mutate sessionId (changeAppendDelta registry.config deltaChars)

def requestCancel (registry : StreamSessionRegistry) (sessionId : Bytes) :=
  registry.mutate sessionId changeRequestCancel

def markCompleting (registry : StreamSessionRegistry) (sessionId : Bytes) :=
  registry.mutate sessionId changeMarkCompleting

def markCompleted (registry : StreamSessionRegistry) (sessionId : Bytes) :=
  registry.mutate sessionId changeMarkCompleted

def markFailed (registry : StreamSessionRegistry) (sessionId : Bytes) :=
  registry.mutate sessionId changeMarkFailed

def markExpired (registry : StreamSessionRegistry) (sessionId : Bytes) :=
  registry.mutate sessionId changeMarkExpired

def cleanup (registry : StreamSessionRegistry) (sessionId : Bytes) : StreamSessionRegistry × Bool :=
  match registry.sessions.lookup sessionId with
  | none => (registry, true)
  | some record =>
    if !record.state.isTerminal then (registry, false)
    else ({ registry with sessions := registry.sessions.erase sessionId }, true)

def find (registry : StreamSessionRegistry) (sessionId : Bytes) : Option StreamSessionSnapshot :=
  (registry.sessions.lookup sessionId).map fun record => record.toSnapshot sessionId

def snapshot (registry : StreamSessionRegistry) : List StreamSessionSnapshot :=
  sortBy (fun left right => decide (left.sessionId < right.sessionId))
    (registry.sessions.entries.map fun entry => entry.2.toSnapshot entry.1)

def isOverdue (nowMs : Int64) (record : StreamSessionRecord) : Bool :=
  !record.state.isTerminal && record.expiresAtMs ≤ nowMs

/-- Unlike `markExpired`, this does not look at whether the session was asked to cancel. -/
def reapRecord (nowMs : Int64) (record : StreamSessionRecord) : StreamSessionRecord :=
  if isOverdue nowMs record then { record with state := .expired } else record

def reapExpired (registry : StreamSessionRegistry) (nowMs : Int64) : StreamSessionRegistry × Bool :=
  ({ registry with sessions := Table.mapValues (reapRecord nowMs) registry.sessions },
    registry.sessions.entries.any fun entry => isOverdue nowMs entry.2)

end StreamSessionRegistry

/-! ## Runs -/

inductive Operation
  | init (config : StreamSessionRegistryConfig)
  | accept (sessionId routeKey : Bytes) (nowMs : Int64)
  | markActive (sessionId : Bytes)
  | appendDelta (sessionId : Bytes) (deltaChars : UInt32)
  | requestCancel (sessionId : Bytes)
  | markCompleting (sessionId : Bytes)
  | markCompleted (sessionId : Bytes)
  | markFailed (sessionId : Bytes)
  | markExpired (sessionId : Bytes)
  | cleanup (sessionId : Bytes)
  | find (sessionId : Bytes)
  | snapshot
  | activeSessionCount
  | reapExpired (nowMs : Int64)
deriving DecidableEq

inductive Answer
  | flag (value : Bool)
  | mutation (result : StreamSessionMutationResult)
  | found (session : Option StreamSessionSnapshot)
  | listed (sessions : List StreamSessionSnapshot)
  | counted (count : Nat)
deriving DecidableEq

open StreamSessionRegistry in
def step (registry : StreamSessionRegistry) : Operation → StreamSessionRegistry × Answer
  | .init config => (registry.init config).map id .flag
  | .accept sessionId routeKey nowMs => (registry.accept sessionId routeKey nowMs).map id .mutation
  | .markActive sessionId => (registry.markActive sessionId).map id .mutation
  | .appendDelta sessionId deltaChars => (registry.appendDelta sessionId deltaChars).map id .mutation
  | .requestCancel sessionId => (registry.requestCancel sessionId).map id .mutation
  | .markCompleting sessionId => (registry.markCompleting sessionId).map id .mutation
  | .markCompleted sessionId => (registry.markCompleted sessionId).map id .mutation
  | .markFailed sessionId => (registry.markFailed sessionId).map id .mutation
  | .markExpired sessionId => (registry.markExpired sessionId).map id .mutation
  | .cleanup sessionId => (registry.cleanup sessionId).map id .flag
  | .find sessionId => (registry, .found (registry.find sessionId))
  | .snapshot => (registry, .listed registry.snapshot)
  | .activeSessionCount => (registry, .counted registry.activeSessionCount)
  | .reapExpired nowMs => (registry.reapExpired nowMs).map id .flag

end Dasall.Llm.Stream
