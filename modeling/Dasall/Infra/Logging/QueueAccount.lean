import Dasall.Infra.Policy.Types
import Dasall.Lib.Threads
import Dasall.Lib.Fifo

/-!
# The asynchronous log queue

Callers and one worker share a bounded queue. Every section that holds the mutex is one action, and
the consumer runs between two actions of the worker.
-/

open Dasall.Contracts Dasall.Lib Dasall.Lib.Text Dasall.Lib.Run

namespace Dasall.Infra.Logging

open Dasall.Infra.Policy (ResultCode classifyResultCode)

/-! ## Records and results -/

inductive LogLevel
  | unspecified
  | trace
  | debug
  | info
  | warn
  | error
  | fatal
deriving DecidableEq

structure LogEvent where
  level : LogLevel := .unspecified
  module : Bytes := []
  message : Bytes := []
  attrs : List (Bytes × Bytes) := []
  ts : Option Int64 := none
deriving DecidableEq

def LogEvent.attrsAreSerializable (event : LogEvent) : Bool := event.attrs.all (·.1 ≠ [])

inductive SinkRoute
  | basicFile
  | audit
deriving DecidableEq

structure RoutedLogRecord where
  route : SinkRoute := .basicFile
  event : LogEvent
deriving DecidableEq

structure LogWriteResult where
  ok : Bool := false
  resultCode : ResultCode := .runtimeRetryExhausted
  error : Option ErrorInfo := none
deriving DecidableEq

def LogWriteResult.success : LogWriteResult := { ok := true }

def LogWriteResult.failure (resultCode : ResultCode) (message stage sourceRef : Bytes) :
    LogWriteResult :=
  { resultCode
    error := some
      { failureType := some (classifyResultCode resultCode)
        retryable := some false
        safeToReplan := some false
        details := { code := some resultCode.toRaw, message, stage }
        sourceRef := { refType := str "infra.logging", refId := sourceRef } } }

@[simp] theorem LogWriteResult.success_ok : LogWriteResult.success.ok = true := rfl

@[simp] theorem LogWriteResult.failure_ok (resultCode : ResultCode)
    (message stage sourceRef : Bytes) :
    (LogWriteResult.failure resultCode message stage sourceRef).ok = false := rfl

structure LogFlushDeadline where
  timeoutMs : UInt32 := 0
deriving DecidableEq

def LogFlushDeadline.isValid (deadline : LogFlushDeadline) : Bool := 0 < deadline.timeoutMs

/-! ## The controller -/

inductive AsyncQueueOverflowPolicy
  | unspecified
  | block
  | overrunOldest
deriving DecidableEq

structure AsyncQueueOptions where
  capacity : Nat := 8192
  overflowPolicy : AsyncQueueOverflowPolicy := .block
deriving DecidableEq

def AsyncQueueOptions.hasConsistentValues (options : AsyncQueueOptions) : Bool :=
  0 < options.capacity && options.overflowPolicy ≠ .unspecified

structure QueueEnqueueResult where
  accepted : Bool := false
  wouldBlock : Bool := false
  droppedOldest : Bool := false
  queueDepth : UInt32 := 0
  droppedTotal : UInt64 := 0
deriving DecidableEq

/-- Where the worker thread is, while it is joinable. -/
inductive WorkerThread
  | waiting
  | consuming (record : RoutedLogRecord) (hasConsumer : Bool)
  | finished
deriving DecidableEq

structure AsyncQueueController where
  options : AsyncQueueOptions
  /-- Whether `consumer_` is set. -/
  hasConsumer : Bool := false
  queue : List RoutedLogRecord := []
  lastEnqueueResult : QueueEnqueueResult := {}
  droppedTotal : UInt64 := 0
  blockedWriteAttemptTotal : UInt64 := 0
  lastFlushTimeoutMs : UInt32 := 0
  processedTotal : UInt64 := 0
  flushTimeoutTotal : UInt64 := 0
  workerFailureTotal : UInt64 := 0
  inFlightCount : Nat := 0
  lastWorkerFailure : Option LogWriteResult := none
  workerThread : Option WorkerThread := none
  workerStarted : Bool := false
  stopRequested : Bool := false
deriving DecidableEq

inductive QueueCall
  | start (hasConsumer : Bool)
  | stop
  | enqueue (record : RoutedLogRecord)
  | flush (deadline : LogFlushDeadline)
deriving DecidableEq

/-- Where a caller is: in no call, at the join or at the last section of `stop`, or in the wait of
`flush`. -/
inductive CallerLocal
  | returned
  | stopJoining
  | stopClearing
  | flushWaiting
deriving DecidableEq

/-- What an action does that its caller, or the consumer, can see. -/
inductive QueueEvent
  | none
  | started (result : LogWriteResult)
  /-- A joinable `std::thread` was assigned to. -/
  | terminated
  | stopped
  | enqueued (record : RoutedLogRecord) (overrun : Option RoutedLogRecord)
    (result : LogWriteResult)
  | flushed (result : LogWriteResult)
  | taken (record : RoutedLogRecord)
  | consumed (record : RoutedLogRecord) (result : LogWriteResult)
deriving DecidableEq

namespace AsyncQueueController

def sourceRef : Bytes := str "AsyncQueueController"

def inconsistentOptions : LogWriteResult :=
  .failure .validationFieldMissing
    (str "async queue options must define a positive capacity and a concrete overflow policy")
    (str "logging.queue") sourceRef

def makeQueueFailure (message stage : String) : LogWriteResult :=
  .failure .runtimeRetryExhausted (str message) (str stage) sourceRef

def refuseStart (message : String) : LogWriteResult :=
  .failure .validationFieldMissing (str message) (str "logging.queue.start") sourceRef

def start (controller : AsyncQueueController) (hasConsumer : Bool) :
    AsyncQueueController × QueueEvent :=
  if !controller.options.hasConsistentValues then (controller, .started inconsistentOptions)
  else if !hasConsumer then
    (controller, .started (refuseStart "async queue worker requires a concrete record consumer"))
  else if controller.workerStarted then
    (controller, .started (refuseStart "async queue worker has already been started"))
  else if controller.workerThread.isSome then (controller, .terminated)
  else
    ({ controller with
        hasConsumer
        stopRequested := false
        lastWorkerFailure := none
        workerStarted := true
        workerThread := some .waiting },
      .started .success)

/-- The first section of `stop`. -/
def requestStop (controller : AsyncQueueController) :
    (AsyncQueueController × CallerLocal) × QueueEvent :=
  if !controller.workerStarted then ((controller, .returned), .stopped)
  else (({ controller with stopRequested := true }, .stopJoining), .none)

def joinWorker (controller : AsyncQueueController) :
    (AsyncQueueController × CallerLocal) × QueueEvent :=
  match controller.workerThread with
  | none => ((controller, .stopClearing), .none)
  | some .finished => (({ controller with workerThread := none }, .stopClearing), .none)
  | some _ => ((controller, .stopJoining), .none)

/-- The last section of `stop`. -/
def clearWorker (controller : AsyncQueueController) :
    (AsyncQueueController × CallerLocal) × QueueEvent :=
  (({ controller with workerStarted := false, hasConsumer := false }, .returned), .stopped)

def occupancy (controller : AsyncQueueController) : Nat :=
  controller.queue.length + controller.inFlightCount

def enqueue (controller : AsyncQueueController) (record : RoutedLogRecord) :
    AsyncQueueController × QueueEvent :=
  if !controller.options.hasConsistentValues then
    (controller, .enqueued record none inconsistentOptions)
  else if !record.event.attrsAreSerializable then
    (controller, .enqueued record none (.failure .validationFieldMissing
      (str "async queue accepts only serializable routed records") (str "logging.queue") sourceRef))
  else if controller.occupancy < controller.options.capacity then
    ({ controller with
        queue := controller.queue ++ [record]
        lastEnqueueResult :=
          { accepted := true
            queueDepth := UInt32.ofNat (controller.occupancy + 1)
            droppedTotal := controller.droppedTotal } },
      .enqueued record none .success)
  else
    match controller.options.overflowPolicy, controller.queue with
    | .block, _ | _, [] =>
      ({ controller with
          blockedWriteAttemptTotal := controller.blockedWriteAttemptTotal + 1
          lastEnqueueResult :=
            { wouldBlock := true
              queueDepth := UInt32.ofNat controller.occupancy
              droppedTotal := controller.droppedTotal } },
        .enqueued record none (makeQueueFailure
          "async queue is full under the current overflow policy" "logging.queue"))
    | _, oldest :: rest =>
      ({ controller with
          queue := rest ++ [record]
          droppedTotal := controller.droppedTotal + 1
          lastEnqueueResult :=
            { accepted := true
              droppedOldest := true
              queueDepth := UInt32.ofNat controller.occupancy
              droppedTotal := controller.droppedTotal + 1 } },
        .enqueued record (some oldest) .success)

def queueIsDrained (controller : AsyncQueueController) : Bool :=
  controller.queue = [] && controller.inFlightCount = 0

/-- `flush` up to its wait. -/
def flush (controller : AsyncQueueController) (deadline : LogFlushDeadline) :
    (AsyncQueueController × CallerLocal) × QueueEvent :=
  if !deadline.isValid then
    ((controller, .returned), .flushed (.failure .validationFieldMissing
      (str "async queue flush deadline must be greater than zero") (str "logging.flush") sourceRef))
  else
    let controller := { controller with lastFlushTimeoutMs := deadline.timeoutMs }
    if !controller.workerStarted then ((controller, .returned), .flushed .success)
    else ((controller, .flushWaiting), .none)

/-- The wait of `flush` evaluates its condition, perhaps after its deadline. -/
def flushWake (controller : AsyncQueueController) (timedOut : Bool) :
    (AsyncQueueController × CallerLocal) × QueueEvent :=
  if controller.queueIsDrained || controller.lastWorkerFailure.isSome then
    match controller.lastWorkerFailure with
    | some failure => ((controller, .returned), .flushed failure)
    | none => ((controller, .returned), .flushed .success)
  else if timedOut then
    (({ controller with flushTimeoutTotal := controller.flushTimeoutTotal + 1 }, .returned),
      .flushed (makeQueueFailure
        "async queue flush timed out before the worker drained all pending records"
        "logging.flush"))
  else ((controller, .flushWaiting), .none)

/-- The next section of `worker_loop`. The consumer answers with the result, where one was set. -/
def work (controller : AsyncQueueController) (result : LogWriteResult) :
    AsyncQueueController × QueueEvent :=
  match controller.workerThread with
  | none | some .finished => (controller, .none)
  | some .waiting =>
    match controller.queue with
    | [] =>
      if controller.stopRequested then
        ({ controller with workerThread := some .finished }, .none)
      else (controller, .none)
    | record :: rest =>
      ({ controller with
          queue := rest
          inFlightCount := controller.inFlightCount + 1
          workerThread := some (.consuming record controller.hasConsumer) },
        .taken record)
  | some (.consuming record hasConsumer) =>
    let result := if hasConsumer then result else .success
    let controller :=
      { controller with
        inFlightCount := controller.inFlightCount - 1
        workerThread := some .waiting }
    if result.ok then
      ({ controller with processedTotal := controller.processedTotal + 1 },
        .consumed record result)
    else
      ({ controller with
          workerFailureTotal := controller.workerFailureTotal + 1
          lastWorkerFailure := some result },
        .consumed record result)

end AsyncQueueController

/-! ## The callers and the worker together -/

/-- What is scheduled next: a caller that begins a call or goes on with it, or the worker. -/
inductive QueueAction (τ : Type)
  | call (thread : τ) (call : QueueCall)
  | resume (thread : τ) (timedOut : Bool)
  | work (result : LogWriteResult)
deriving DecidableEq

structure QueueSystem (τ : Type) where
  controller : AsyncQueueController
  callers : τ → CallerLocal := fun _ => .returned
  terminated : Bool := false

namespace QueueSystem

variable {τ : Type} [DecidableEq τ]

def new (options : AsyncQueueOptions) : QueueSystem τ := { controller := { options } }

/-- The section was one of a caller. -/
def settle (system : QueueSystem τ) (thread : τ)
    (outcome : (AsyncQueueController × CallerLocal) × QueueEvent) : QueueSystem τ × QueueEvent :=
  ({ system with
      controller := outcome.1.1
      callers := Function.update system.callers thread outcome.1.2
      terminated := outcome.2 = .terminated },
    outcome.2)

def begin (controller : AsyncQueueController) :
    QueueCall → (AsyncQueueController × CallerLocal) × QueueEvent
  | .start hasConsumer =>
    (((controller.start hasConsumer).1, .returned), (controller.start hasConsumer).2)
  | .stop => controller.requestStop
  | .enqueue record => (((controller.enqueue record).1, .returned), (controller.enqueue record).2)
  | .flush deadline => controller.flush deadline

def goOn (controller : AsyncQueueController) (timedOut : Bool) :
    CallerLocal → (AsyncQueueController × CallerLocal) × QueueEvent
  | .returned => ((controller, .returned), .none)
  | .stopJoining => controller.joinWorker
  | .stopClearing => controller.clearWorker
  | .flushWaiting => controller.flushWake timedOut

def step (system : QueueSystem τ) (action : QueueAction τ) : QueueSystem τ × QueueEvent :=
  if system.terminated then (system, .none)
  else
    match action with
    | .call thread call =>
      if system.callers thread = .returned then
        system.settle thread (begin system.controller call)
      else (system, .none)
    | .resume thread timedOut =>
      system.settle thread (goOn system.controller timedOut (system.callers thread))
    | .work result =>
      ({ system with controller := (system.controller.work result).1 },
        (system.controller.work result).2)

end QueueSystem

/-!
## What becomes of a log record

The events of a run tell which records were accepted, which left the queue and which the consumer
has seen. The controller is held to that account in every interleaving.
-/

inductive Departure
  | taken
  | dropped
deriving DecidableEq

structure QueueAccount where
  accepted : List RoutedLogRecord := []
  left : List (RoutedLogRecord × Departure) := []
  consumed : List (RoutedLogRecord × LogWriteResult) := []

def QueueAccount.observe (account : QueueAccount) : QueueEvent → QueueAccount
  | .enqueued record overrun result =>
    if result.ok then
      { account with
        accepted := account.accepted ++ [record]
        left := account.left ++ overrun.toList.map fun oldest => (oldest, Departure.dropped) }
    else account
  | .taken record => { account with left := account.left ++ [(record, .taken)] }
  | .consumed record result =>
    { account with consumed := account.consumed ++ [(record, result)] }
  | _ => account

def accountOf (events : List QueueEvent) : QueueAccount := events.foldl .observe {}

open AsyncQueueController

/-- The record that the consumer has. -/
def AsyncQueueController.consuming (controller : AsyncQueueController) : Option RoutedLogRecord :=
  match controller.workerThread with
  | some (.consuming record _) => some record
  | _ => none

structure Accounted (options : AsyncQueueOptions) (controller : AsyncQueueController)
    (account : QueueAccount) : Prop where
  configured : controller.options = options
  line : Line.Sound account.accepted account.left controller.queue
  taken : Line.fated .taken account.left =
    account.consumed.map Prod.fst ++ controller.consuming.toList
  inFlight : controller.inFlightCount = controller.consuming.toList.length
  dropped : controller.droppedTotal = UInt64.ofNat (Line.fated .dropped account.left).length
  processed : controller.processedTotal =
    UInt64.ofNat (account.consumed.filter (·.2.ok)).length
  failed : controller.workerFailureTotal =
    UInt64.ofNat (account.consumed.filter (!·.2.ok)).length
  failure : ∀ failure, controller.lastWorkerFailure = some failure → failure.ok = false
  bounded : controller.occupancy ≤ options.capacity

/-! ## One section of the code -/

namespace AsyncQueueController

variable {options : AsyncQueueOptions} {controller : AsyncQueueController} {account : QueueAccount}
  (h : Accounted options controller account)

include h

theorem start_accounted (hasConsumer : Bool) :
    Accounted options (controller.start hasConsumer).1
      (account.observe (controller.start hasConsumer).2) := by
  unfold start
  split
  · exact h
  split
  · exact h
  split
  · exact h
  split
  · exact h
  next hjoinable =>
    have hthread : controller.workerThread = none := by simpa using hjoinable
    have hidle : controller.consuming = none := by simp [consuming, hthread]
    have htaken := h.taken
    have hinFlight := h.inFlight
    rw [hidle] at htaken hinFlight
    exact { h with taken := htaken, inFlight := hinFlight, failure := nofun }

theorem requestStop_accounted :
    Accounted options controller.requestStop.1.1 (account.observe controller.requestStop.2) := by
  unfold requestStop
  split
  · exact h
  · exact { h with }

theorem joinWorker_accounted :
    Accounted options controller.joinWorker.1.1 (account.observe controller.joinWorker.2) := by
  unfold joinWorker
  split
  · exact h
  · next hthread =>
    have hidle : controller.consuming = none := by simp [consuming, hthread]
    have htaken := h.taken
    have hinFlight := h.inFlight
    rw [hidle] at htaken hinFlight
    exact { h with taken := htaken, inFlight := hinFlight }
  · exact h

theorem clearWorker_accounted :
    Accounted options controller.clearWorker.1.1 (account.observe controller.clearWorker.2) :=
  { h with }

theorem enqueue_accounted (record : RoutedLogRecord) :
    Accounted options (controller.enqueue record).1
      (account.observe (controller.enqueue record).2) := by
  have hbounded := h.bounded
  unfold enqueue
  split
  · exact h
  split
  · exact h
  split
  · next hroom =>
    have hkept : account.observe (.enqueued record none .success) =
        { account with accepted := account.accepted ++ [record] } := by
      simp [QueueAccount.observe]
    rw [h.configured] at hroom
    rw [hkept]
    have hlength : (controller.queue ++ [record]).length + controller.inFlightCount ≤
        options.capacity := by
      unfold occupancy at hroom
      rw [List.length_append, List.length_singleton]
      omega
    exact { h with line := h.line.join record, bounded := hlength }
  split
  · exact { h with }
  · exact { h with }
  · next _ _ oldest rest hqueue _ =>
    have hjoined := h.line.join record
    rw [hqueue] at hjoined
    have hleaves : Line.Sound _ _ ([oldest] ++ (rest ++ [record])) := hjoined
    have hkept : rest.length + 1 + controller.inFlightCount ≤ options.capacity := by
      unfold occupancy at hbounded
      rw [hqueue, List.length_cons] at hbounded
      exact hbounded
    refine ⟨h.configured, hleaves.leave Departure.dropped,
      (Line.fated_leave_other (by decide) _ [oldest]).trans h.taken, h.inFlight,
      (congrArg (· + 1) h.dropped).trans (Line.count_leave rfl [oldest]), h.processed, h.failed, h.failure, ?_⟩
    unfold occupancy
    rw [List.length_append, List.length_singleton]
    exact hkept

theorem flush_accounted (deadline : LogFlushDeadline) :
    Accounted options (controller.flush deadline).1.1
      (account.observe (controller.flush deadline).2) := by
  unfold flush
  split
  · exact h
  dsimp only
  split
  · exact { h with }
  · exact { h with }

theorem flushWake_accounted (timedOut : Bool) :
    Accounted options (controller.flushWake timedOut).1.1
      (account.observe (controller.flushWake timedOut).2) := by
  unfold flushWake
  split
  · split
    · exact h
    · exact h
  split
  · exact { h with }
  · exact h

theorem work_accounted (result : LogWriteResult) :
    Accounted options (controller.work result).1 (account.observe (controller.work result).2) := by
  have hbounded := h.bounded
  have htaken := h.taken
  have hinFlight := h.inFlight
  unfold work
  split
  · exact h
  · exact h
  · next hthread =>
    have hidle : controller.consuming = none := by simp [consuming, hthread]
    rw [hidle] at htaken hinFlight
    split
    · split
      · exact { h with taken := htaken, inFlight := hinFlight, bounded := hbounded }
      · exact h
    · next record rest hqueue =>
      have hline := h.line
      rw [hqueue] at hline
      have hleaves : Line.Sound _ _ ([record] ++ rest) := hline
      have hnone : controller.inFlightCount = 0 := hinFlight
      have hsent : Line.fated .taken (account.left ++ [record].map fun item => (item, Departure.taken)) =
          account.consumed.map Prod.fst ++ [record] := by
        rw [Line.fated_append, htaken, Line.fated_same]
        simp
      have hkept : rest.length + (controller.inFlightCount + 1) ≤ options.capacity := by
        unfold occupancy at hbounded
        rw [hqueue, List.length_cons] at hbounded
        omega
      exact ⟨h.configured, hleaves.leave Departure.taken, hsent, congrArg (· + 1) hnone,
        Line.count_leave_other (by decide) h.dropped [record], h.processed, h.failed, h.failure, hkept⟩
  · next record hasConsumer hthread =>
    have hbusy : controller.consuming = some record := by simp [consuming, hthread]
    rw [hbusy] at htaken hinFlight
    have hone : controller.inFlightCount = 1 := hinFlight
    have hlist (answer : LogWriteResult) : Line.fated .taken account.left =
        (account.consumed ++ [(record, answer)]).map Prod.fst ++ [] := by
      rw [htaken, List.map_append, List.append_nil]
      rfl
    have hless : controller.queue.length + (controller.inFlightCount - 1) ≤ options.capacity := by
      unfold occupancy at hbounded
      omega
    dsimp only
    generalize (if hasConsumer = true then result else LogWriteResult.success) = answer
    split
    · next hok =>
      refine ⟨h.configured, h.line, hlist answer, congrArg (· - 1) hone, h.dropped, ?_, ?_, h.failure,
        hless⟩
      · simp [QueueAccount.observe, hok, h.processed, UInt64.ofNat_add]
      · simp [QueueAccount.observe, hok, h.failed]
    · next hfailed =>
      have hanswer : ∀ failure, some answer = some failure → failure.ok = false := by
        rintro failure ⟨⟩
        simpa using hfailed
      refine ⟨h.configured, h.line, hlist answer, congrArg (· - 1) hone, h.dropped, ?_, ?_, hanswer,
        hless⟩
      · simp [QueueAccount.observe, hfailed, h.processed]
      · simp [QueueAccount.observe, hfailed, h.failed, UInt64.ofNat_add]

end AsyncQueueController

/-! ## Whole runs -/

section
variable {τ : Type} [DecidableEq τ]

theorem step_accounted (options : AsyncQueueOptions) (system : QueueSystem τ)
    (account : QueueAccount) (action : QueueAction τ)
    (h : Accounted options system.controller account) :
    Accounted options (system.step action).1.controller
      (account.observe (system.step action).2) := by
  unfold QueueSystem.step
  split
  · exact h
  split
  · next thread call =>
    split
    · rcases call with hasConsumer | _ | record | deadline
      · exact start_accounted h hasConsumer
      · exact requestStop_accounted h
      · exact enqueue_accounted h record
      · exact flush_accounted h deadline
    · exact h
  · next thread timedOut =>
    unfold QueueSystem.settle QueueSystem.goOn
    split
    · exact h
    · exact joinWorker_accounted h
    · exact clearWorker_accounted h
    · exact flushWake_accounted h timedOut
  · next result => exact work_accounted h result

/-- The system and the events of a run. -/
def ran (options : AsyncQueueOptions) (actions : List (QueueAction τ)) :
    QueueSystem τ × List QueueEvent :=
  run QueueSystem.step (.new options) actions

theorem ran_accounted (options : AsyncQueueOptions) (actions : List (QueueAction τ)) :
    Accounted options (ran options actions).1.controller (accountOf (ran options actions).2) := by
  have hnew : Accounted options (QueueSystem.new options : QueueSystem τ).controller {} :=
    ⟨rfl, rfl, rfl, rfl, rfl, rfl, rfl, nofun, Nat.zero_le _⟩
  exact invariant_observed QueueSystem.step QueueAccount.observe
    (fun system account => Accounted options system.controller account)
    (fun system account action h => step_accounted options system account action h) _ _ actions hnew

/-! ## The flushes that succeed -/

/-- The action begins a flush while records are pending and no worker was started. -/
def FindsNoWorker (system : QueueSystem τ) : QueueAction τ → Prop
  | .call _ (.flush _) =>
    system.controller.workerStarted = false ∧ system.controller.queueIsDrained = false
  | _ => False

namespace AsyncQueueController

variable (controller : AsyncQueueController)

theorem start_event (hasConsumer : Bool)
    (result : LogWriteResult) : (controller.start hasConsumer).2 ≠ .flushed result := by
  unfold start
  repeat' split
  all_goals simp

theorem enqueue_event (record : RoutedLogRecord)
    (result : LogWriteResult) : (controller.enqueue record).2 ≠ .flushed result := by
  unfold enqueue
  repeat' split
  all_goals simp

theorem requestStop_event (result : LogWriteResult) :
    controller.requestStop.2 ≠ .flushed result := by
  unfold requestStop
  split
  · simp
  · simp

theorem joinWorker_event (result : LogWriteResult) :
    controller.joinWorker.2 ≠ .flushed result := by
  unfold joinWorker
  repeat' split
  all_goals simp

theorem work_event (outcome result : LogWriteResult) :
    (controller.work outcome).2 ≠ .flushed result := by
  unfold work
  dsimp only
  repeat' split
  all_goals simp

theorem flush_found (deadline : LogFlushDeadline)
    (result : LogWriteResult) (hevent : (controller.flush deadline).2 = .flushed result)
    (hok : result.ok = true) : controller.workerStarted = false := by
  unfold flush at hevent
  split at hevent
  · obtain rfl := (QueueEvent.flushed.inj hevent).symm
    exact absurd hok (by simp)
  dsimp only at hevent
  split at hevent
  · next hidle => simpa using hidle
  · exact nomatch hevent

theorem flush_kept (deadline : LogFlushDeadline) :
    (controller.flush deadline).1.1.queueIsDrained = controller.queueIsDrained := by
  unfold flush
  split
  · rfl
  dsimp only
  split
  · rfl
  · rfl

theorem flushWake_drained (timedOut : Bool)
    (result : LogWriteResult)
    (hfailure : ∀ failure, controller.lastWorkerFailure = some failure → failure.ok = false)
    (hevent : (controller.flushWake timedOut).2 = .flushed result) (hok : result.ok = true) :
    (controller.flushWake timedOut).1.1.queueIsDrained = true := by
  unfold flushWake at hevent ⊢
  split at hevent
  · next hready =>
    rw [if_pos hready]
    split at hevent
    · next failure hsome =>
      obtain rfl := QueueEvent.flushed.inj hevent
      rw [hfailure failure hsome] at hok
      exact nomatch hok
    · next hnone =>
      rw [hnone] at hready
      simpa using hready
  split at hevent
  · obtain rfl := (QueueEvent.flushed.inj hevent).symm
    exact absurd hok (by simp [makeQueueFailure])
  · exact nomatch hevent

end AsyncQueueController

variable (options : AsyncQueueOptions)

variable (account : QueueAccount)

theorem flushed_drained
    (system : QueueSystem τ) (h : Accounted options system.controller account)
    (action : QueueAction τ) (result : LogWriteResult)
    (hevent : (system.step action).2 = .flushed result) (hok : result.ok = true)
    (hworker : ¬ FindsNoWorker system action) :
    (system.step action).1.controller.queueIsDrained = true := by
  unfold QueueSystem.step at hevent ⊢
  split at hevent
  · exact nomatch hevent
  next hrunning =>
    rw [if_neg hrunning]
    rcases action with ⟨thread, call⟩ | ⟨thread, timedOut⟩ | outcome
    · dsimp only at hevent
      split at hevent
      · rcases call with hasConsumer | _ | record | deadline
        · exact absurd hevent (system.controller.start_event hasConsumer result)
        · exact absurd hevent (system.controller.requestStop_event result)
        · exact absurd hevent (system.controller.enqueue_event record result)
        · next hcaller =>
          have hidle := system.controller.flush_found deadline result hevent hok
          dsimp only
          rw [if_pos hcaller]
          refine (system.controller.flush_kept deadline).trans ?_
          by_contra hpending
          exact hworker ⟨hidle, by simpa using hpending⟩
      · exact nomatch hevent
    · dsimp only [QueueSystem.settle] at hevent ⊢
      rcases hcaller : system.callers thread with _ | _ | _ | _
      · rw [hcaller] at hevent
        exact nomatch hevent
      · rw [hcaller] at hevent
        exact absurd hevent (system.controller.joinWorker_event result)
      · rw [hcaller] at hevent
        exact nomatch hevent
      · rw [hcaller] at hevent
        exact system.controller.flushWake_drained timedOut result h.failure hevent hok
    · exact absurd hevent (system.controller.work_event outcome result)

/-! ## The books of a run -/

theorem ran_snoc (actions : List (QueueAction τ))
    (action : QueueAction τ) :
    (ran options (actions ++ [action])).1 = ((ran options actions).1.step action).1 :=
  run_snoc QueueSystem.step _ actions action

theorem observe_extends (event : QueueEvent) :
    account.accepted <+: (account.observe event).accepted := by
  unfold QueueAccount.observe
  split
  · split
    · exact List.prefix_append _ _
    · exact List.prefix_rfl
  · exact List.prefix_rfl
  · exact List.prefix_rfl
  · exact List.prefix_rfl

theorem foldl_extends (events : List QueueEvent) :
    account.accepted <+: (events.foldl QueueAccount.observe account).accepted := by
  induction events generalizing account with
  | nil => exact List.prefix_rfl
  | cons event events ih => exact (observe_extends account event).trans (ih _)

theorem accepted_extends (asked actions : List (QueueAction τ))
    (h : asked <+: actions) :
    (accountOf (ran options asked).2).accepted <+: (accountOf (ran options actions).2).accepted := by
  obtain ⟨rest, rfl⟩ := h
  unfold ran accountOf
  rw [run_append, List.foldl_append]
  exact foldl_extends _ _

theorem left_length (left : List (RoutedLogRecord × Departure)) :
    left.length = (Line.fated .taken left).length + (Line.fated .dropped left).length := by
  induction left with
  | nil => rfl
  | cons item left ih =>
    rw [List.length_cons, ih, Line.fated_cons, Line.fated_cons]
    rcases item with ⟨record, _ | _⟩
    · simp
      omega
    · simp
      omega

variable {options : AsyncQueueOptions} {controller : AsyncQueueController} {account : QueueAccount}

theorem Accounted.balance (h : Accounted options controller account) :
    UInt64.ofNat account.accepted.length = controller.processedTotal +
      controller.workerFailureTotal + controller.droppedTotal +
      UInt64.ofNat controller.queue.length + UInt64.ofNat controller.inFlightCount := by
  have hline := congrArg List.length h.line
  have htaken := congrArg List.length h.taken
  have hconsumed := List.length_eq_length_filter_add (l := account.consumed) (·.2.ok)
  rw [List.length_append, List.length_map] at hline htaken
  rw [left_length, htaken, ← h.inFlight, hconsumed] at hline
  rw [hline, h.processed, h.failed, h.dropped]
  simp only [UInt64.ofNat_add]
  ac_rfl

/-- What the consumer has seen, has now, and what waits, in the order of acceptance. -/
theorem Accounted.order (h : Accounted options controller account) :
    (account.consumed.map Prod.fst ++ controller.consuming.toList ++ controller.queue).Sublist
      account.accepted := by
  have hline := h.line
  unfold Line.Sound at hline
  rw [hline, ← h.taken]
  exact (List.filter_sublist.map _).append (List.Sublist.refl _)

/-- In every interleaving the accepted records are those processed, failed, dropped, queued and in
flight; the queue stays within its capacity and is consumed in order; and a flush that succeeds,
unless it found records pending and no worker, leaves no accepted record unconsumed. -/
theorem queue_accounted (options : AsyncQueueOptions) (actions : List (QueueAction τ)) :
    UInt64.ofNat (accountOf (ran options actions).2).accepted.length =
      (ran options actions).1.controller.processedTotal +
        (ran options actions).1.controller.workerFailureTotal +
        (ran options actions).1.controller.droppedTotal +
        UInt64.ofNat (ran options actions).1.controller.queue.length +
        UInt64.ofNat (ran options actions).1.controller.inFlightCount ∧
    (ran options actions).1.controller.queue.length +
        (ran options actions).1.controller.inFlightCount ≤ options.capacity ∧
    ((accountOf (ran options actions).2).consumed.map Prod.fst ++
        (ran options actions).1.controller.consuming.toList ++
        (ran options actions).1.controller.queue).Sublist
      (accountOf (ran options actions).2).accepted ∧
    ∀ before action after asked result, actions = before ++ action :: after → asked <+: before →
      ((ran options before).1.step action).2 = .flushed result → result.ok = true →
      ¬ FindsNoWorker (ran options before).1 action →
      (ran options (before ++ [action])).1.controller.queue = [] ∧
      (ran options (before ++ [action])).1.controller.inFlightCount = 0 ∧
      (accountOf (ran options asked).2).accepted <+:
        (accountOf (ran options (before ++ [action])).2).left.map Prod.fst ∧
      Line.fated .taken (accountOf (ran options (before ++ [action])).2).left =
        (accountOf (ran options (before ++ [action])).2).consumed.map Prod.fst := by
  have h := ran_accounted options actions
  refine ⟨h.balance, h.bounded, h.order, ?_⟩
  intro before action after asked result hsplit hasked hevent hok hworker
  have hdrained := flushed_drained options _ _ (ran_accounted options before) action result hevent
    hok hworker
  have hnow := ran_accounted options (before ++ [action])
  rw [ran_snoc] at hnow ⊢
  unfold AsyncQueueController.queueIsDrained at hdrained
  simp only [Bool.and_eq_true, decide_eq_true_eq] at hdrained
  obtain ⟨hqueue, hinFlight⟩ := hdrained
  have hidle := hnow.inFlight
  rw [hinFlight] at hidle
  have htaken := hnow.taken
  rw [List.length_eq_zero_iff.mp hidle.symm, List.append_nil] at htaken
  have hline := hnow.line
  unfold Line.Sound at hline
  rw [hqueue, List.append_nil] at hline
  refine ⟨hqueue, hinFlight, ?_, htaken⟩
  rw [← hline]
  exact accepted_extends options asked _ (hasked.trans (List.prefix_append _ _))

end

def sampleRecord : RoutedLogRecord :=
  { event := { level := .info, module := str "runtime", message := str "first" } }

def flushWithoutWorker : List (QueueAction Unit) :=
  [.call () (.enqueue sampleRecord), .call () (.flush { timeoutMs := 400 })]

/-- A flush without a worker succeeds at once and leaves the record in the queue. -/
theorem flush_leaves_queued :
    (ran { capacity := 1 } flushWithoutWorker).2 =
      [.enqueued sampleRecord none .success, .flushed .success] ∧
    (ran { capacity := 1 } flushWithoutWorker).1.controller.queue = [sampleRecord] ∧
    (accountOf (ran { capacity := 1 } flushWithoutWorker).2).accepted = [sampleRecord] ∧
    (accountOf (ran { capacity := 1 } flushWithoutWorker).2).consumed = [] ∧
    (accountOf (ran { capacity := 1 } flushWithoutWorker).2).left = [] := by
  decide +kernel

end Dasall.Infra.Logging
