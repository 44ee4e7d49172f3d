import Dasall.Lib.Text

/-!
# The scheduler

Three queues with three overflow policies, and a count of busy workers that every
`acquire_worker` overwrites with the one in its request.
-/

open Dasall.Lib.Text

namespace Dasall.Runtime

/-- `enum class SchedulerPriorityClass : std::uint8_t`. -/
inductive SchedulerPriorityClass
  | foregroundInteractive
  | recovery
  | maintenance
  | unlisted (raw : {raw : UInt8 // 2 < raw})
deriving DecidableEq

inductive SchedulerOverflowDisposition
  | rejectNew
  | enterFailedSafe
  | dropOldest
deriving DecidableEq, Repr

inductive SchedulerTicketState
  | queued
  | workerAssigned
  | released
  | rejected
deriving DecidableEq, Repr

inductive SchedulerBackpressureSignal
  | none
  | foregroundBusy
  | recoveryFailedSafe
  | maintenanceDropOldest
  | workerPoolSaturated
deriving DecidableEq, Repr

structure WorkerLeaseBudget where
  maxWorkers : UInt32 := 1
  busyWorkers : UInt32 := 0
deriving DecidableEq

def WorkerLeaseBudget.hasCapacity (budget : WorkerLeaseBudget) : Bool :=
  budget.busyWorkers < budget.maxWorkers

structure SchedulerTicketRequest where
  ticketId : Bytes
  requestId : Bytes
  sessionId : Option Bytes := none
  priorityClass : SchedulerPriorityClass
  checkpointRef : Option Bytes := none
  queueKey : Option Bytes := none
deriving DecidableEq

def SchedulerTicketRequest.hasMinimumRequirements (request : SchedulerTicketRequest) : Bool :=
  !request.ticketId.isEmpty && !request.requestId.isEmpty

structure SchedulerTicket where
  ticketId : Bytes
  requestId : Bytes
  sessionId : Option Bytes
  priorityClass : SchedulerPriorityClass
  checkpointRef : Option Bytes
  queueKey : Option Bytes
  assignedWorkerId : Option Bytes
  enqueueSequence : UInt64
  state : SchedulerTicketState
deriving DecidableEq

def SchedulerTicket.hasWorkerAssignment (ticket : SchedulerTicket) : Bool :=
  ticket.assignedWorkerId.any fun id => !id.isEmpty

def makeSchedulerTicket (request : SchedulerTicketRequest) (enqueueSequence : UInt64) :
    SchedulerTicket where
  ticketId := request.ticketId
  requestId := request.requestId
  sessionId := request.sessionId
  priorityClass := request.priorityClass
  checkpointRef := request.checkpointRef
  queueKey := request.queueKey
  assignedWorkerId := none
  enqueueSequence := enqueueSequence
  state := .queued

structure SchedulerBackpressureState where
  foregroundQueueDepth : UInt32 := 0
  foregroundQueueLimit : UInt32 := 1
  recoveryQueueDepth : UInt32 := 0
  recoveryQueueLimit : UInt32 := 0
  maintenanceQueueDepth : UInt32 := 0
  maintenanceQueueLimit : UInt32 := 16
  workerBudget : WorkerLeaseBudget := {}
  dominantSignal : SchedulerBackpressureSignal := .none
  rejectingForeground : Bool := false
  failedSafeRecommended : Bool := false
  droppingOldestMaintenance : Bool := false
deriving DecidableEq

structure AcquireWorkerRequest where
  workerBudget : WorkerLeaseBudget
  preferredPriorityClass : Option SchedulerPriorityClass := none
  preferredTicketId : Option Bytes := none
deriving DecidableEq

structure ReleaseWorkerRequest where
  ticket : SchedulerTicket
  workerCompleted : Bool := true
deriving DecidableEq

structure SchedulerEnqueueResult where
  accepted : Bool := false
  ticket : Option SchedulerTicket := none
  appliedOverflowDisposition : Option SchedulerOverflowDisposition := none
  backpressureState : SchedulerBackpressureState := {}
  detail : Bytes := []
deriving DecidableEq

structure AcquireWorkerResult where
  acquired : Bool
  ticket : Option SchedulerTicket
  backpressureState : SchedulerBackpressureState
  detail : Bytes
deriving DecidableEq

structure ReleaseWorkerResult where
  released : Bool
  backpressureState : SchedulerBackpressureState
  detail : Bytes
deriving DecidableEq

def makeSchedulerEnqueueResult (ticket : SchedulerTicket)
    (backpressureState : SchedulerBackpressureState) (detail : Bytes)
    (appliedOverflowDisposition : Option SchedulerOverflowDisposition) : SchedulerEnqueueResult :=
  ⟨true, some ticket, appliedOverflowDisposition, backpressureState, detail⟩

/-! ## Queues -/

/-- What a pop gives: the ticket, and what it leaves behind. -/
abbrev Popped (σ : Type) := Option (SchedulerTicket × σ)

def popFrontTicketLocked : List SchedulerTicket → Popped (List SchedulerTicket)
  | [] => none
  | ticket :: queue => some (ticket, queue)

def popTicketByIdLocked (ticketId : Bytes) : List SchedulerTicket → Popped (List SchedulerTicket)
  | [] => none
  | ticket :: queue =>
    if ticket.ticketId == ticketId then some (ticket, queue)
    else (popTicketByIdLocked ticketId queue).map fun (found, rest) => (found, ticket :: rest)

structure Scheduler where
  foregroundQueue : List SchedulerTicket := []
  recoveryQueue : List SchedulerTicket := []
  maintenanceQueue : List SchedulerTicket := []
  workerBudget : WorkerLeaseBudget := {}
  nextSequence : UInt64 := 1
  recoveryQueueLimit : UInt32
  maintenanceQueueLimit : UInt32
deriving DecidableEq

namespace Scheduler

/-- `Scheduler(recovery_queue_limit, maintenance_queue_limit)`. -/
def withLimits (recoveryQueueLimit maintenanceQueueLimit : UInt32) : Scheduler where
  recoveryQueueLimit := recoveryQueueLimit
  maintenanceQueueLimit := maintenanceQueueLimit

def queueOf (scheduler : Scheduler) : SchedulerPriorityClass → List SchedulerTicket
  | .foregroundInteractive => scheduler.foregroundQueue
  | .recovery => scheduler.recoveryQueue
  | .maintenance => scheduler.maintenanceQueue
  | .unlisted _ => []

def setQueue (scheduler : Scheduler) (priorityClass : SchedulerPriorityClass)
    (queue : List SchedulerTicket) : Scheduler :=
  match priorityClass with
  | .foregroundInteractive => { scheduler with foregroundQueue := queue }
  | .recovery => { scheduler with recoveryQueue := queue }
  | .maintenance => { scheduler with maintenanceQueue := queue }
  | .unlisted _ => scheduler

def computeBackpressureStateLocked (scheduler : Scheduler)
    (dominantSignal : SchedulerBackpressureSignal) : SchedulerBackpressureState where
  foregroundQueueDepth := UInt32.ofNat scheduler.foregroundQueue.length
  foregroundQueueLimit := 1
  recoveryQueueDepth := UInt32.ofNat scheduler.recoveryQueue.length
  recoveryQueueLimit := scheduler.recoveryQueueLimit
  maintenanceQueueDepth := UInt32.ofNat scheduler.maintenanceQueue.length
  maintenanceQueueLimit := scheduler.maintenanceQueueLimit
  workerBudget := scheduler.workerBudget
  dominantSignal := dominantSignal
  rejectingForeground := dominantSignal == .foregroundBusy
  failedSafeRecommended := dominantSignal == .recoveryFailedSafe
  droppingOldestMaintenance := dominantSignal == .maintenanceDropOldest

def rejectTicket (scheduler : Scheduler) (signal : SchedulerBackpressureSignal)
    (disposition : SchedulerOverflowDisposition) (detail : String) : SchedulerEnqueueResult where
  accepted := false
  ticket := none
  appliedOverflowDisposition := some disposition
  backpressureState := scheduler.computeBackpressureStateLocked signal
  detail := str detail

def acceptTicket (scheduler : Scheduler) (ticket : SchedulerTicket) : SchedulerEnqueueResult :=
  makeSchedulerEnqueueResult ticket (scheduler.computeBackpressureStateLocked .none)
    (str "ticket accepted into scheduler queue") none

/-- A sequence number is used up for every ticket that is made, also for a rejected one. The
front of an empty deque is never popped where the limit of the queue is not zero. -/
def enqueue (scheduler : Scheduler) (request : SchedulerTicketRequest) :
    Scheduler × SchedulerEnqueueResult :=
  if !request.hasMinimumRequirements then
    (scheduler,
      { accepted := false
        backpressureState := scheduler.computeBackpressureStateLocked .none
        detail := str "ticket_id and request_id are required" })
  else
    let nextTicket := makeSchedulerTicket request scheduler.nextSequence
    let scheduler := { scheduler with nextSequence := scheduler.nextSequence + 1 }
    match request.priorityClass with
    | .foregroundInteractive =>
      if !scheduler.foregroundQueue.isEmpty then
        (scheduler, scheduler.rejectTicket .foregroundBusy .rejectNew
          "foreground queue already has an active request")
      else
        let scheduler :=
          { scheduler with foregroundQueue := scheduler.foregroundQueue ++ [nextTicket] }
        (scheduler, scheduler.acceptTicket nextTicket)
    | .recovery =>
      if scheduler.recoveryQueueLimit.toNat ≤ scheduler.recoveryQueue.length then
        (scheduler, scheduler.rejectTicket .recoveryFailedSafe .enterFailedSafe
          "recovery queue saturated; escalate to FailedSafe")
      else
        let scheduler := { scheduler with recoveryQueue := scheduler.recoveryQueue ++ [nextTicket] }
        (scheduler, scheduler.acceptTicket nextTicket)
    | .maintenance =>
      if scheduler.maintenanceQueueLimit.toNat ≤ scheduler.maintenanceQueue.length then
        let scheduler :=
          { scheduler with
            maintenanceQueue := scheduler.maintenanceQueue.drop 1 ++ [nextTicket] }
        (scheduler, makeSchedulerEnqueueResult nextTicket
          (scheduler.computeBackpressureStateLocked .maintenanceDropOldest)
          (str "maintenance queue dropped oldest ticket before accepting new work")
          (some .dropOldest))
      else
        let scheduler :=
          { scheduler with maintenanceQueue := scheduler.maintenanceQueue ++ [nextTicket] }
        (scheduler, scheduler.acceptTicket nextTicket)
    | .unlisted _ => (scheduler, {})

def popFrom (scheduler : Scheduler) (priorityClass : SchedulerPriorityClass)
    (pop : List SchedulerTicket → Popped (List SchedulerTicket)) : Popped Scheduler :=
  (pop (scheduler.queueOf priorityClass)).map fun (ticket, queue) =>
    (ticket, scheduler.setQueue priorityClass queue)

/-- The three queues in turn, up to the first that gives a ticket. -/
def popFromFirst (scheduler : Scheduler)
    (pop : List SchedulerTicket → Popped (List SchedulerTicket)) : Popped Scheduler :=
  scheduler.popFrom .foregroundInteractive pop <|> scheduler.popFrom .recovery pop <|>
    scheduler.popFrom .maintenance pop

def popTicketByClass (scheduler : Scheduler)
    (preferredPriorityClass : Option SchedulerPriorityClass) : Popped Scheduler :=
  match preferredPriorityClass with
  | some .foregroundInteractive =>
    scheduler.popFrom .foregroundInteractive popFrontTicketLocked
  | some .recovery => scheduler.popFrom .recovery popFrontTicketLocked
  | some .maintenance => scheduler.popFrom .maintenance popFrontTicketLocked
  | some (.unlisted _) | none => scheduler.popFromFirst popFrontTicketLocked

/-- An id that is not found leaves the choice to the class. -/
def popNextTicketLocked (scheduler : Scheduler)
    (preferredPriorityClass : Option SchedulerPriorityClass) (preferredTicketId : Option Bytes) :
    Popped Scheduler :=
  (preferredTicketId.bind fun ticketId => scheduler.popFromFirst (popTicketByIdLocked ticketId)) <|>
    scheduler.popTicketByClass preferredPriorityClass

def workerId (busyWorkers : UInt32) : Bytes := str "worker-" ++ decimal (busyWorkers + 1).toNat

def acquireWorker (scheduler : Scheduler) (request : AcquireWorkerRequest) :
    Scheduler × AcquireWorkerResult :=
  let scheduler := { scheduler with workerBudget := request.workerBudget }
  if !scheduler.workerBudget.hasCapacity then
    (scheduler, ⟨false, none, scheduler.computeBackpressureStateLocked .workerPoolSaturated,
      str "worker pool saturated"⟩)
  else
    match scheduler.popNextTicketLocked request.preferredPriorityClass
        request.preferredTicketId with
    | none =>
      (scheduler, ⟨false, none, scheduler.computeBackpressureStateLocked .none,
        str "no ticket available for acquisition"⟩)
    | some (ticket, scheduler) =>
      let ticket :=
        { ticket with
          assignedWorkerId := some (workerId scheduler.workerBudget.busyWorkers)
          state := .workerAssigned }
      let scheduler :=
        { scheduler with
          workerBudget :=
            { scheduler.workerBudget with
              busyWorkers := scheduler.workerBudget.busyWorkers + 1 } }
      (scheduler, ⟨true, some ticket, scheduler.computeBackpressureStateLocked .none,
        str "worker acquired from scheduler queue"⟩)

/-- The ticket is taken at its word. -/
def releaseWorker (scheduler : Scheduler) (request : ReleaseWorkerRequest) :
    Scheduler × ReleaseWorkerResult :=
  if !request.ticket.hasWorkerAssignment then
    (scheduler, ⟨false, scheduler.computeBackpressureStateLocked .none,
      str "release_worker requires an assigned worker ticket"⟩)
  else
    let busyWorkers := scheduler.workerBudget.busyWorkers
    let scheduler :=
      { scheduler with
        workerBudget :=
          { scheduler.workerBudget with
            busyWorkers := if 0 < busyWorkers then busyWorkers - 1 else busyWorkers } }
    (scheduler, ⟨true, scheduler.computeBackpressureStateLocked .none,
      if request.workerCompleted then str "worker released after completion"
      else str "worker released without completion"⟩)

end Scheduler

/-! ## Calls -/

inductive SchedulerCall
  | enqueue (request : SchedulerTicketRequest)
  | acquireWorker (request : AcquireWorkerRequest)
  | releaseWorker (request : ReleaseWorkerRequest)
deriving DecidableEq

inductive SchedulerAnswer
  | enqueued (result : SchedulerEnqueueResult)
  | acquired (result : AcquireWorkerResult)
  | released (result : ReleaseWorkerResult)
deriving DecidableEq

/-- Every call holds the mutex from its first read to its last write. -/
def Scheduler.step (scheduler : Scheduler) : SchedulerCall → Scheduler × SchedulerAnswer
  | .enqueue request =>
    ((scheduler.enqueue request).1, .enqueued (scheduler.enqueue request).2)
  | .acquireWorker request =>
    ((scheduler.acquireWorker request).1, .acquired (scheduler.acquireWorker request).2)
  | .releaseWorker request =>
    ((scheduler.releaseWorker request).1, .released (scheduler.releaseWorker request).2)

/-! ## Samples -/

def foregroundTicket (ticketId : String) : SchedulerTicketRequest where
  ticketId := str ticketId
  requestId := str "request"
  priorityClass := .foregroundInteractive

def maintenanceTicket (ticketId : String) : SchedulerTicketRequest where
  ticketId := str ticketId
  requestId := str "request"
  priorityClass := .maintenance

def acquireNext : AcquireWorkerRequest where
  workerBudget := { maxWorkers := 1, busyWorkers := 0 }

def acquireMaintenance : AcquireWorkerRequest :=
  { acquireNext with preferredPriorityClass := some .maintenance }

end Dasall.Runtime
