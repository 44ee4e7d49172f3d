import Dasall.Runtime.Scheduling.Scheduler
import Dasall.Lib.Run

/-!
# What one scheduler call does

Each operation is inverted once: which ticket it moves, from which queue, and what it leaves
as it was.
-/

open Dasall.Lib.Text Dasall.Lib.Run

namespace Dasall.Runtime

def SchedulerPriorityClass.Listed : SchedulerPriorityClass → Prop
  | .unlisted _ => False
  | _ => True

/-- The ticket as it waits in its queue. -/
def SchedulerTicket.unassigned (ticket : SchedulerTicket) : SchedulerTicket :=
  { ticket with assignedWorkerId := none, state := .queued }

/-- The ticket as `acquire_worker` hands it out. -/
def SchedulerTicket.assigned (ticket : SchedulerTicket) (busyWorkers : UInt32) : SchedulerTicket :=
  { ticket with
    assignedWorkerId := some (Scheduler.workerId busyWorkers)
    state := .workerAssigned }

@[simp] theorem unassigned_assigned (ticket : SchedulerTicket) (busyWorkers : UInt32) :
    (ticket.assigned busyWorkers).unassigned = ticket.unassigned := rfl

@[simp] theorem unassigned_makeSchedulerTicket (request : SchedulerTicketRequest)
    (enqueueSequence : UInt64) :
    (makeSchedulerTicket request enqueueSequence).unassigned =
      makeSchedulerTicket request enqueueSequence := rfl

namespace Scheduler

def limitOf (scheduler : Scheduler) : SchedulerPriorityClass → Nat
  | .foregroundInteractive => 1
  | .recovery => scheduler.recoveryQueueLimit.toNat
  | .maintenance => scheduler.maintenanceQueueLimit.toNat
  | .unlisted _ => 0

def numbered (scheduler : Scheduler) : Scheduler :=
  { scheduler with nextSequence := scheduler.nextSequence + 1 }

variable (scheduler : Scheduler) (budget : WorkerLeaseBudget) (ticketId : Bytes) (after : Scheduler)
  (queue : List SchedulerTicket) (priorityClass : SchedulerPriorityClass)
  (rest : List SchedulerTicket) (preferredPriorityClass : Option SchedulerPriorityClass)
  (request : AcquireWorkerRequest) (pop : List SchedulerTicket → Popped (List SchedulerTicket))
  (ticket : SchedulerTicket)

@[simp] theorem numbered_queueOf :
    scheduler.numbered.queueOf = scheduler.queueOf := by
  funext priorityClass
  cases priorityClass <;> rfl

@[simp] theorem workerBudget_queueOf :
    ({ scheduler with workerBudget := budget } : Scheduler).queueOf = scheduler.queueOf := by
  funext priorityClass
  cases priorityClass <;> rfl

variable (queue : List SchedulerTicket)

theorem queueOf_setQueue (h : priorityClass.Listed) :
    (scheduler.setQueue priorityClass queue).queueOf =
      Function.update scheduler.queueOf priorityClass queue := by
  funext other
  by_cases hother : other = priorityClass
  · subst hother
    rw [Function.update_self]
    cases other <;> first | rfl | exact h.elim
  · rw [Function.update_of_ne hother]
    cases priorityClass <;> cases other <;> first | rfl | exact (hother rfl).elim

@[simp] theorem setQueue_limitOf :
    (scheduler.setQueue priorityClass queue).limitOf = scheduler.limitOf := by
  funext other
  cases priorityClass <;> cases other <;> rfl

@[simp] theorem numbered_limitOf :
    scheduler.numbered.limitOf = scheduler.limitOf := by
  funext priorityClass
  cases priorityClass <;> rfl

@[simp] theorem workerBudget_limitOf :
    ({ scheduler with workerBudget := budget } : Scheduler).limitOf = scheduler.limitOf := by
  funext priorityClass
  cases priorityClass <;> rfl

@[simp] theorem setQueue_nextSequence :
    (scheduler.setQueue priorityClass queue).nextSequence = scheduler.nextSequence := by
  cases priorityClass <;> rfl

/-! ## Enqueue -/

/-- The four ways an `enqueue` can end. -/
inductive Enqueued (scheduler : Scheduler) (request : SchedulerTicketRequest) (after : Scheduler)
    (result : SchedulerEnqueueResult) : Prop
  | malformed (hrequest : request.hasMinimumRequirements = false)
      (haccepted : result.accepted = false)
      (hdisposition : result.appliedOverflowDisposition ≠ some .dropOldest)
      (hafter : after = scheduler)
  | rejected (hrequest : request.hasMinimumRequirements = true)
      (haccepted : result.accepted = false)
      (hdisposition : result.appliedOverflowDisposition ≠ some .dropOldest)
      (hafter : after = scheduler.numbered)
  | accepted (hrequest : request.hasMinimumRequirements = true)
      (haccepted : result.accepted = true)
      (hticket : result.ticket = some (makeSchedulerTicket request scheduler.nextSequence))
      (hdisposition : result.appliedOverflowDisposition ≠ some .dropOldest)
      (hlisted : request.priorityClass.Listed)
      (hroom : (scheduler.queueOf request.priorityClass).length <
        scheduler.limitOf request.priorityClass)
      (hafter : after = scheduler.numbered.setQueue request.priorityClass
        (scheduler.queueOf request.priorityClass ++
          [makeSchedulerTicket request scheduler.nextSequence]))
  | displacing (hrequest : request.hasMinimumRequirements = true)
      (haccepted : result.accepted = true)
      (hticket : result.ticket = some (makeSchedulerTicket request scheduler.nextSequence))
      (hdisposition : result.appliedOverflowDisposition = some .dropOldest)
      (hclass : request.priorityClass = .maintenance)
      (hfull : scheduler.limitOf .maintenance ≤ (scheduler.queueOf .maintenance).length)
      (hafter : after = scheduler.numbered.setQueue .maintenance
        ((scheduler.queueOf .maintenance).drop 1 ++
          [makeSchedulerTicket request scheduler.nextSequence]))

theorem enqueue_spec (request : SchedulerTicketRequest) :
    Enqueued scheduler request (scheduler.enqueue request).1 (scheduler.enqueue request).2 := by
  unfold enqueue
  by_cases hrequest : request.hasMinimumRequirements = true
  swap
  · rw [if_pos (by simpa using hrequest)]
    exact .malformed (by simpa using hrequest) rfl (by rintro ⟨⟩) rfl
  rw [if_neg (by simpa using hrequest)]
  cases hclass : request.priorityClass with
  | foregroundInteractive =>
    dsimp only
    split
    · exact .rejected hrequest rfl (by rintro ⟨⟩) rfl
    · rename_i hempty
      have hqueue : scheduler.foregroundQueue = [] := by simpa using hempty
      refine .accepted hrequest rfl rfl (by rintro ⟨⟩) ?_ ?_ ?_
      all_goals rw [hclass]
      · trivial
      · simp [queueOf, limitOf, hqueue]
      · rfl
  | recovery =>
    dsimp only
    split
    · exact .rejected hrequest rfl (by rintro ⟨⟩) rfl
    · rename_i hroom
      refine .accepted hrequest rfl rfl (by rintro ⟨⟩) ?_ ?_ ?_
      all_goals rw [hclass]
      · trivial
      · exact Nat.lt_of_not_le hroom
      · rfl
  | maintenance =>
    dsimp only
    split
    · rename_i hfull
      exact .displacing hrequest rfl rfl rfl hclass hfull rfl
    · rename_i hroom
      refine .accepted hrequest rfl rfl (by rintro ⟨⟩) ?_ ?_ ?_
      all_goals rw [hclass]
      · trivial
      · exact Nat.lt_of_not_le hroom
      · rfl
  | unlisted raw => exact .rejected hrequest rfl (by rintro ⟨⟩) rfl

/-! ## Pops -/

theorem popFrontTicketLocked_choice :
    (popFrontTicketLocked queue).map Prod.fst = queue.head? := by
  cases queue <;> rfl

theorem popTicketByIdLocked_choice :
    (popTicketByIdLocked ticketId queue).map Prod.fst =
      queue.find? fun ticket => ticket.ticketId == ticketId := by
  induction queue with
  | nil => rfl
  | cons ticket queue ih =>
    unfold popTicketByIdLocked
    rw [List.find?_cons]
    split
    · rename_i hsame
      simp [hsame]
    · rename_i hother
      simp only [hother, ← ih, Option.map_map]
      rfl

theorem popFrontTicketLocked_split
    (h : popFrontTicketLocked queue = some (ticket, rest)) : queue = ticket :: rest := by
  cases queue with
  | nil => cases h
  | cons => obtain ⟨rfl, rfl⟩ := Prod.mk.inj (Option.some.inj h); rfl

theorem popTicketByIdLocked_split (h : popTicketByIdLocked ticketId queue = some (ticket, rest)) :
    ∃ front back, queue = front ++ ticket :: back ∧ rest = front ++ back := by
  induction queue generalizing rest with
  | nil => cases h
  | cons head queue ih =>
    unfold popTicketByIdLocked at h
    split at h
    · obtain ⟨rfl, rfl⟩ := Prod.mk.inj (Option.some.inj h)
      exact ⟨[], queue, rfl, rfl⟩
    · obtain ⟨⟨found, rest'⟩, hpop, heq⟩ := Option.map_eq_some_iff.mp h
      obtain ⟨rfl, rfl⟩ := Prod.mk.inj heq
      obtain ⟨front, back, rfl, rfl⟩ := ih rest' hpop
      exact ⟨head :: front, back, rfl, rfl⟩

/-- Every queued ticket, in the order in which the queues are looked through. -/
def waiting (scheduler : Scheduler) : List SchedulerTicket :=
  scheduler.foregroundQueue ++ scheduler.recoveryQueue ++ scheduler.maintenanceQueue

/-- The tickets that a request without a ticket id chooses from, the first of them. -/
def candidates (scheduler : Scheduler) :
    Option SchedulerPriorityClass → List SchedulerTicket
  | some .foregroundInteractive => scheduler.foregroundQueue
  | some .recovery => scheduler.recoveryQueue
  | some .maintenance => scheduler.maintenanceQueue
  | some (.unlisted _) | none => scheduler.waiting

/-- The ticket with the id where one is waiting, else the first candidate. -/
def choice (scheduler : Scheduler) (request : AcquireWorkerRequest) : Option SchedulerTicket :=
  (request.preferredTicketId.bind fun ticketId =>
    scheduler.waiting.find? fun ticket => ticket.ticketId == ticketId).or
  (scheduler.candidates request.preferredPriorityClass).head?

theorem popFrom_choice :
    (scheduler.popFrom priorityClass pop).map Prod.fst =
      (pop (scheduler.queueOf priorityClass)).map Prod.fst := by
  unfold popFrom
  rw [Option.map_map]
  rfl

theorem popFromFirst_front :
    (scheduler.popFromFirst popFrontTicketLocked).map Prod.fst = scheduler.waiting.head? := by
  unfold popFromFirst waiting
  simp only [Option.orElse_eq_orElse, Option.orElse_eq_or, Option.map_or, popFrom_choice,
    popFrontTicketLocked_choice, List.head?_append, Option.or_assoc, queueOf]

theorem popFromFirst_byId :
    (scheduler.popFromFirst (popTicketByIdLocked ticketId)).map Prod.fst =
      scheduler.waiting.find? fun ticket => ticket.ticketId == ticketId := by
  unfold popFromFirst waiting
  simp only [Option.orElse_eq_orElse, Option.orElse_eq_or, Option.map_or, popFrom_choice,
    popTicketByIdLocked_choice, List.find?_append, Option.or_assoc, queueOf]

theorem popTicketByClass_choice :
    (scheduler.popTicketByClass preferredPriorityClass).map Prod.fst =
      (scheduler.candidates preferredPriorityClass).head? := by
  unfold popTicketByClass candidates
  rcases preferredPriorityClass with - | priorityClass
  · exact popFromFirst_front scheduler
  · cases priorityClass with
    | unlisted raw => exact popFromFirst_front scheduler
    | _ => exact (popFrom_choice ..).trans (popFrontTicketLocked_choice _)

theorem popNextTicketLocked_choice :
    (scheduler.popNextTicketLocked request.preferredPriorityClass request.preferredTicketId).map
      Prod.fst = scheduler.choice request := by
  unfold popNextTicketLocked choice
  rw [Option.orElse_eq_orElse, Option.orElse_eq_or, Option.map_or, popTicketByClass_choice]
  cases request.preferredTicketId with
  | none => rfl
  | some ticketId => simp only [Option.bind_some, popFromFirst_byId]

/-- The ticket leaves one queue, and its front where it is taken in turn. -/
def Takes (scheduler : Scheduler) (inTurn : Prop) (ticket : SchedulerTicket)
    (after : Scheduler) : Prop :=
  ∃ priorityClass front back, priorityClass.Listed ∧
    scheduler.queueOf priorityClass = front ++ ticket :: back ∧ (inTurn → front = []) ∧
    after = scheduler.setQueue priorityClass (front ++ back)

variable (inTurn : Prop)

theorem popFrom_front (ticket : SchedulerTicket) (hlisted : priorityClass.Listed)
    (h : scheduler.popFrom priorityClass popFrontTicketLocked = some (ticket, after)) :
    scheduler.Takes inTurn ticket after := by
  obtain ⟨⟨found, rest⟩, hpop, heq⟩ := Option.map_eq_some_iff.mp h
  obtain ⟨rfl, rfl⟩ := Prod.mk.inj heq
  exact ⟨priorityClass, [], rest, hlisted, popFrontTicketLocked_split _ _ _ hpop, fun _ => rfl, rfl⟩

theorem popFrom_byId (ticketId : Bytes) (ticket : SchedulerTicket) (hlisted : priorityClass.Listed)
    (h : scheduler.popFrom priorityClass (popTicketByIdLocked ticketId) = some (ticket, after)) :
    scheduler.Takes False ticket after := by
  obtain ⟨⟨found, rest⟩, hpop, heq⟩ := Option.map_eq_some_iff.mp h
  obtain ⟨rfl, rfl⟩ := Prod.mk.inj heq
  obtain ⟨front, back, hqueue, rfl⟩ := popTicketByIdLocked_split _ _ _ _ hpop
  exact ⟨priorityClass, front, back, hlisted, hqueue, False.elim, rfl⟩

theorem popFromFirst_takes
    (ticket : SchedulerTicket)
    (hpop : ∀ priorityClass : SchedulerPriorityClass, priorityClass.Listed →
      scheduler.popFrom priorityClass pop = some (ticket, after) →
        scheduler.Takes inTurn ticket after)
    (h : scheduler.popFromFirst pop = some (ticket, after)) :
    scheduler.Takes inTurn ticket after := by
  unfold popFromFirst at h
  simp only [Option.orElse_eq_orElse, Option.orElse_eq_or, Option.or_eq_some_iff] at h
  rcases h with h | ⟨-, h | ⟨-, h⟩⟩
  · exact hpop .foregroundInteractive trivial h
  · exact hpop .recovery trivial h
  · exact hpop .maintenance trivial h

theorem popTicketByClass_takes
    (ticket : SchedulerTicket)
    (h : scheduler.popTicketByClass preferredPriorityClass = some (ticket, after)) :
    scheduler.Takes inTurn ticket after := by
  have hfront := fun priorityClass hlisted =>
    popFrom_front scheduler after priorityClass inTurn ticket hlisted
  unfold popTicketByClass at h
  rcases preferredPriorityClass with - | priorityClass
  · exact popFromFirst_takes scheduler after _ inTurn ticket hfront h
  · cases priorityClass with
    | unlisted raw => exact popFromFirst_takes scheduler after _ inTurn ticket hfront h
    | _ => exact hfront _ (by trivial) h

theorem popNextTicketLocked_takes (h : scheduler.popNextTicketLocked request.preferredPriorityClass
      request.preferredTicketId = some (ticket, after)) :
    scheduler.Takes (request.preferredTicketId = none) ticket after := by
  unfold popNextTicketLocked at h
  rw [Option.orElse_eq_orElse, Option.orElse_eq_or, Option.or_eq_some_iff] at h
  rcases h with h | ⟨-, h⟩
  · obtain ⟨ticketId, hid, h⟩ := Option.bind_eq_some_iff.mp h
    obtain ⟨priorityClass, front, back, hlisted, hqueue, -, hafter⟩ :=
      popFromFirst_takes scheduler after _ False ticket
        (fun priorityClass hlisted =>
          popFrom_byId scheduler after priorityClass ticketId ticket hlisted) h
    exact ⟨priorityClass, front, back, hlisted, hqueue, fun hnone => by simp [hid] at hnone, hafter⟩
  · exact popTicketByClass_takes scheduler after _ _ ticket h

/-! ## Acquire and release -/

/-- The two ways an `acquire_worker` can end. -/
inductive Acquired (scheduler : Scheduler) (request : AcquireWorkerRequest) (after : Scheduler)
    (result : AcquireWorkerResult) : Prop
  | nothing (hnone : request.workerBudget.hasCapacity = false ∨ scheduler.choice request = none)
      (hacquired : result.acquired = false) (hticket : result.ticket = none)
      (hafter : after = { scheduler with workerBudget := request.workerBudget })
  | ticket (ticket : SchedulerTicket) (taken : Scheduler)
      (hcapacity : request.workerBudget.hasCapacity = true)
      (hchoice : scheduler.choice request = some ticket)
      (hacquired : result.acquired = true)
      (hticket : result.ticket = some (ticket.assigned request.workerBudget.busyWorkers))
      (htakes : scheduler.Takes (request.preferredTicketId = none) ticket taken)
      (hafter : after = { taken with
        workerBudget := { request.workerBudget with
          busyWorkers := request.workerBudget.busyWorkers + 1 } })

theorem choice_workerBudget :
    ({ scheduler with workerBudget := budget } : Scheduler).choice request =
      scheduler.choice request := rfl

theorem setQueue_withWorkerBudget :
    ({ scheduler with workerBudget := budget } : Scheduler).setQueue priorityClass queue =
      { scheduler.setQueue priorityClass queue with workerBudget := budget } := by
  cases priorityClass <;> rfl

theorem acquireWorker_spec :
    Acquired scheduler request (scheduler.acquireWorker request).1
      (scheduler.acquireWorker request).2 := by
  unfold acquireWorker
  dsimp only
  split
  · rename_i hcapacity
    exact .nothing (.inl (by simpa using hcapacity)) rfl rfl rfl
  rename_i hcapacity
  have hchoice := popNextTicketLocked_choice
    { scheduler with workerBudget := request.workerBudget } request
  rw [choice_workerBudget] at hchoice
  split
  · rename_i hpop
    rw [hpop] at hchoice
    exact .nothing (.inr hchoice.symm) rfl rfl rfl
  · rename_i ticket taken hpop
    rw [hpop] at hchoice
    obtain ⟨priorityClass, front, back, hlisted, hqueue, hturn, rfl⟩ :=
      popNextTicketLocked_takes _ _ _ _ hpop
    rw [workerBudget_queueOf] at hqueue
    rw [setQueue_withWorkerBudget]
    exact .ticket ticket (scheduler.setQueue priorityClass (front ++ back))
      (by simpa using hcapacity) hchoice.symm rfl rfl
      ⟨priorityClass, front, back, hlisted, hqueue, hturn, rfl⟩ rfl

theorem releaseWorker_spec (request : ReleaseWorkerRequest) :
    (scheduler.releaseWorker request).1 =
      { scheduler with
        workerBudget := { scheduler.workerBudget with
          busyWorkers :=
            if request.ticket.hasWorkerAssignment ∧ 0 < scheduler.workerBudget.busyWorkers then
              scheduler.workerBudget.busyWorkers - 1
            else scheduler.workerBudget.busyWorkers } } ∧
    (scheduler.releaseWorker request).2.released = request.ticket.hasWorkerAssignment := by
  unfold releaseWorker
  by_cases h : request.ticket.hasWorkerAssignment = true <;> simp [h]

end Scheduler

/-!
## Worker leases

`acquire_worker` counts from the busy workers that its request reports, and `release_worker`
counts down for any ticket with a worker id. A ledger beside the scheduler keeps the tickets
that are out, and says which calls keep them within the bound.
-/

structure LeaseLedger where
  scheduler : Scheduler
  outstanding : List SchedulerTicket := []
  released : List SchedulerTicket := []

namespace LeaseLedger

def start (scheduler : Scheduler) : LeaseLedger where
  scheduler := scheduler

/-- An acquired ticket is out until it is released. -/
def step (ledger : LeaseLedger) : SchedulerCall → LeaseLedger × SchedulerAnswer
  | .enqueue request =>
    let (scheduler, result) := ledger.scheduler.enqueue request
    ({ ledger with scheduler }, .enqueued result)
  | .acquireWorker request =>
    let (scheduler, result) := ledger.scheduler.acquireWorker request
    ({ ledger with
      scheduler
      outstanding := ledger.outstanding ++ result.ticket.toList }, .acquired result)
  | .releaseWorker request =>
    let (scheduler, result) := ledger.scheduler.releaseWorker request
    (if result.released && ledger.outstanding.contains request.ticket then
      { scheduler
        outstanding := ledger.outstanding.erase request.ticket
        released := ledger.released ++ [request.ticket] }
    else { ledger with scheduler }, .released result)

variable (maxWorkers : UInt32) (ledger : LeaseLedger) (scheduler : Scheduler) (call : SchedulerCall)
  (request : ReleaseWorkerRequest)

theorem run_scheduler (calls : List SchedulerCall) :
    (run step (start scheduler) calls).1.scheduler = (run Scheduler.step scheduler calls).1 := by
  refine (simulation step Scheduler.step (fun ledger scheduler => ledger.scheduler = scheduler)
    (fun _ _ => True) ?_ (start scheduler) scheduler calls rfl (allSteps_true ..)).2
  rintro ledger - call rfl -
  cases call with
  | enqueue request => exact ⟨rfl, rfl⟩
  | acquireWorker request => exact ⟨rfl, rfl⟩
  | releaseWorker request =>
    refine ⟨rfl, ?_⟩
    unfold step
    dsimp only
    split <;> rfl

/-! ## The bound -/

/-- At most `maxWorkers` tickets are out, each with a worker of its own. -/
structure Bounded (maxWorkers : UInt32) (ledger : LeaseLedger) : Prop where
  bound : ledger.outstanding.length ≤ maxWorkers.toNat
  distinct : (ledger.outstanding.map (·.assignedWorkerId)).Nodup

/-- The ticket was released, and is not out again. -/
def GivenBack (ledger : LeaseLedger) (ticket : SchedulerTicket) : Prop :=
  ticket ∈ ledger.released ∧ ticket ∉ ledger.outstanding

/-- The bound holds after the call, and no lease is freed for a ticket that was given back. -/
def Kept (maxWorkers : UInt32) (ledger : LeaseLedger) (call : SchedulerCall) : Prop :=
  Bounded maxWorkers (ledger.step call).1 ∧
  ∀ request, call = .releaseWorker request → ledger.GivenBack request.ticket →
    (ledger.step call).1.scheduler.workerBudget.busyWorkers =
      ledger.scheduler.workerBudget.busyWorkers

/-- An acquisition that is served finds a lease free, and reports a busy count whose worker no
outstanding ticket has; a ticket that was given back is released again only at a busy count
of zero. -/
def Honest (maxWorkers : UInt32) (ledger : LeaseLedger) : SchedulerCall → Prop
  | .enqueue _ => True
  | .acquireWorker request =>
    request.workerBudget.busyWorkers < maxWorkers → (ledger.scheduler.choice request).isSome →
      ledger.outstanding.length < maxWorkers.toNat ∧
      ∀ ticket ∈ ledger.outstanding,
        ticket.assignedWorkerId ≠ some (Scheduler.workerId request.workerBudget.busyWorkers)
  | .releaseWorker request =>
    ledger.GivenBack request.ticket → ledger.scheduler.workerBudget.busyWorkers = 0

instance (ledger : LeaseLedger) (ticket : SchedulerTicket) : Decidable (ledger.GivenBack ticket) :=
  inferInstanceAs (Decidable (_ ∧ _))

instance (maxWorkers : UInt32) (ledger : LeaseLedger) :
    (call : SchedulerCall) → Decidable (Honest maxWorkers ledger call)
  | .enqueue _ => isTrue trivial
  | .acquireWorker _ => inferInstanceAs (Decidable (_ → _ → _ ∧ _))
  | .releaseWorker _ => inferInstanceAs (Decidable (_ → _))

/-- Whatever was released had a worker. -/
structure Invariant (maxWorkers : UInt32) (ledger : LeaseLedger) : Prop where
  bounded : Bounded maxWorkers ledger
  released : ∀ ticket ∈ ledger.released, ticket.hasWorkerAssignment = true

def Carries (maxWorkers : UInt32) : SchedulerCall → Prop
  | .acquireWorker request => request.workerBudget.maxWorkers = maxWorkers
  | _ => True

theorem bounded_snoc (ticket : SchedulerTicket) (h : Bounded maxWorkers ledger) :
    Bounded maxWorkers { ledger with
        scheduler
        outstanding := ledger.outstanding ++ [ticket] } ↔
      ledger.outstanding.length < maxWorkers.toNat ∧
        ∀ other ∈ ledger.outstanding, other.assignedWorkerId ≠ ticket.assignedWorkerId := by
  have hnodup : ((ledger.outstanding ++ [ticket]).map (·.assignedWorkerId)).Nodup ↔
      ∀ other ∈ ledger.outstanding, other.assignedWorkerId ≠ ticket.assignedWorkerId := by
    simp [List.nodup_append, h.distinct]
  have hlength : (ledger.outstanding ++ [ticket]).length = ledger.outstanding.length + 1 := by simp
  constructor
  · rintro ⟨hbound, hdistinct⟩
    exact ⟨by rw [hlength] at hbound; exact hbound, hnodup.mp hdistinct⟩
  · rintro ⟨hbound, hdistinct⟩
    exact ⟨by rw [hlength]; exact hbound, hnodup.mpr hdistinct⟩

theorem acquireWorker_kept (request : AcquireWorkerRequest) (h : Bounded maxWorkers ledger)
    (hcarries : request.workerBudget.maxWorkers = maxWorkers) :
    Kept maxWorkers ledger (.acquireWorker request) ↔
      Honest maxWorkers ledger (.acquireWorker request) := by
  have hcapacity : request.workerBudget.hasCapacity = true ↔
      request.workerBudget.busyWorkers < maxWorkers := by
    unfold WorkerLeaseBudget.hasCapacity
    rw [hcarries, decide_eq_true_iff]
  unfold Kept Honest step
  dsimp only
  rcases ledger.scheduler.acquireWorker_spec request with ⟨hnone, -, hticket, -⟩ |
    ⟨ticket, taken, hfree, hchoice, -, hticket, -, -⟩
  · rw [hticket, Option.toList_none, List.append_nil]
    refine iff_of_true ⟨⟨h.bound, h.distinct⟩, nofun⟩ fun hfree hsome => ?_
    rcases hnone with hfull | hnone
    · rw [hcapacity.mpr hfree] at hfull
      cases hfull
    · rw [hnone] at hsome
      cases hsome
  · rw [hticket, Option.toList_some, bounded_snoc maxWorkers ledger _ _ h]
    constructor
    · rintro ⟨hkept, -⟩ - -
      exact hkept
    · intro hhonest
      exact ⟨hhonest (hcapacity.mp hfree) (by rw [hchoice]; rfl), nofun⟩

theorem releaseWorker_bounded (h : Bounded maxWorkers ledger) :
    Bounded maxWorkers (ledger.step (.releaseWorker request)).1 := by
  unfold step
  dsimp only
  split
  · have hsublist : (ledger.outstanding.erase request.ticket).Sublist ledger.outstanding :=
      List.erase_sublist
    exact ⟨hsublist.length_le.trans h.bound, h.distinct.sublist (hsublist.map _)⟩
  · exact ⟨h.bound, h.distinct⟩

theorem sub_one_ne (count : UInt32) (h : 0 < count) : count - 1 ≠ count := by
  intro hsame
  have hpos := UInt32.lt_iff_toNat_lt.mp h
  have hone : (1 : UInt32) ≤ count := UInt32.le_iff_toNat_le.mpr hpos
  have htoNat := UInt32.toNat_sub_of_le count 1 hone
  rw [hsame, UInt32.toNat_one] at htoNat
  rw [UInt32.toNat_zero] at hpos
  omega

theorem releaseWorker_kept (h : Invariant maxWorkers ledger) :
    Kept maxWorkers ledger (.releaseWorker request) ↔
      Honest maxWorkers ledger (.releaseWorker request) := by
  have hbudget : ((ledger.step (.releaseWorker request)).1.scheduler).workerBudget.busyWorkers =
      if request.ticket.hasWorkerAssignment ∧ 0 < ledger.scheduler.workerBudget.busyWorkers then
        ledger.scheduler.workerBudget.busyWorkers - 1
      else ledger.scheduler.workerBudget.busyWorkers := by
    unfold step
    dsimp only
    split <;> rw [(ledger.scheduler.releaseWorker_spec request).1]
  unfold Kept Honest
  rw [hbudget]
  constructor
  · rintro ⟨-, hsame⟩ hback
    have hsame := hsame request rfl hback
    rw [h.released request.ticket hback.1] at hsame
    by_contra hbusy
    have hpos : 0 < ledger.scheduler.workerBudget.busyWorkers := UInt32.pos_iff_ne_zero.mpr hbusy
    rw [if_pos ⟨rfl, hpos⟩] at hsame
    exact sub_one_ne _ hpos hsame
  · intro hhonest
    refine ⟨releaseWorker_bounded maxWorkers ledger request h.bounded, ?_⟩
    intro other hcall hback
    cases hcall
    rw [hhonest hback, if_neg fun hpos => absurd hpos.2 (by decide)]

theorem step_kept (h : Invariant maxWorkers ledger) (hcarries : Carries maxWorkers call) :
    Kept maxWorkers ledger call ↔ Honest maxWorkers ledger call := by
  cases call with
  | enqueue request => exact iff_of_true ⟨⟨h.bounded.bound, h.bounded.distinct⟩, nofun⟩ trivial
  | acquireWorker request => exact acquireWorker_kept maxWorkers ledger request h.bounded hcarries
  | releaseWorker request => exact releaseWorker_kept maxWorkers ledger request h

theorem step_released (h : ∀ ticket ∈ ledger.released, ticket.hasWorkerAssignment = true) :
    ∀ ticket ∈ (ledger.step call).1.released, ticket.hasWorkerAssignment = true := by
  cases call with
  | enqueue request => exact h
  | acquireWorker request => exact h
  | releaseWorker request =>
    unfold step
    dsimp only
    split
    · rename_i hreleased
      intro ticket hticket
      rcases List.mem_append.mp hticket with hticket | hticket
      · exact h ticket hticket
      · rw [List.mem_singleton.mp hticket, ← (ledger.scheduler.releaseWorker_spec request).2]
        exact (Bool.and_eq_true_iff.mp hreleased).1
    · exact h

end LeaseLedger

/-- The bound holds all along a run exactly when every call is honest: the scheduler checks
nothing of this itself. -/
theorem lease_bound_iff (scheduler : Scheduler) (maxWorkers : UInt32) (calls : List SchedulerCall)
    (hcarries : ∀ call ∈ calls, LeaseLedger.Carries maxWorkers call) :
    (run LeaseLedger.step (.start scheduler) calls).1.scheduler =
      (run Scheduler.step scheduler calls).1 ∧
    (AllSteps LeaseLedger.step (LeaseLedger.Kept maxWorkers) (.start scheduler) calls ↔
      AllSteps LeaseLedger.step (LeaseLedger.Honest maxWorkers) (.start scheduler) calls) := by
  refine ⟨LeaseLedger.run_scheduler scheduler calls, ?_⟩
  apply allSteps_iff LeaseLedger.step (LeaseLedger.Invariant maxWorkers) _ _
    (LeaseLedger.Carries maxWorkers) (LeaseLedger.step_kept maxWorkers) ?_ _ _ ?_ hcarries
  · intro ledger call hinvariant hkept
    exact ⟨hkept.1, LeaseLedger.step_released ledger call hinvariant.released⟩
  · exact ⟨⟨Nat.zero_le _, .nil⟩, nofun⟩

/-- Two workers, each acquired with the busy count that is true, the second released first. -/
def honestCalls : List SchedulerCall :=
  let second : AcquireWorkerRequest := { workerBudget := { maxWorkers := 2, busyWorkers := 1 } }
  let release := (makeSchedulerTicket (maintenanceTicket "maintenance-2") 2).assigned 1
  [.enqueue (maintenanceTicket "maintenance-1"), .enqueue (maintenanceTicket "maintenance-2"),
    .acquireWorker { workerBudget := { maxWorkers := 2 } }, .acquireWorker second,
    .releaseWorker { ticket := release }]

theorem lease_bound_sample :
    (run LeaseLedger.step (.start (.withLimits 2 4)) honestCalls).1.outstanding.length = 1 ∧
      AllSteps LeaseLedger.step (LeaseLedger.Kept 2) (.start (.withLimits 2 4)) honestCalls :=
  ⟨by decide +kernel, (lease_bound_iff (.withLimits 2 4) 2 honestCalls (by
    simp [honestCalls, LeaseLedger.Carries])).2.mpr (by decide +kernel)⟩

/-- Two callers with a pool of one worker that both report no busy worker are both served. -/
theorem lease_bound_broken :
    ∃ calls, (∀ call ∈ calls, LeaseLedger.Carries 1 call) ∧
      ¬ AllSteps LeaseLedger.step (LeaseLedger.Kept 1) (.start (.withLimits 2 4)) calls := by
  refine ⟨[.enqueue (maintenanceTicket "maintenance-1"),
    .enqueue (maintenanceTicket "maintenance-2"), .acquireWorker acquireNext,
    .acquireWorker acquireNext], by simp [LeaseLedger.Carries, acquireNext], fun hkept => ?_⟩
  have hbound := hkept.2.2.2.1.1.bound
  exact absurd hbound (by decide +kernel)

end Dasall.Runtime
