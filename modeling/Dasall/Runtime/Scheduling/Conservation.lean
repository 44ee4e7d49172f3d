import Dasall.Lib.Fifo
import Dasall.Runtime.Scheduling.Effect

/-!
# What becomes of a ticket

A ledger beside the scheduler writes down, from the answers, the tickets that were accepted,
handed out, dropped and rejected. Each call moves tickets in the ledger as the queues of
`Lib.Fifo` do.
-/

open Dasall.Lib Dasall.Lib.Run Dasall.Lib.Text

namespace Dasall.Runtime

/-! ## The ledger -/

structure Ledger where
  scheduler : Scheduler
  accepted : List SchedulerTicket := []
  handedOut : List SchedulerTicket := []
  inTurn : List SchedulerTicket := []
  dropped : List SchedulerTicket := []
  rejected : List SchedulerTicket := []
deriving DecidableEq

def acceptedBy : SchedulerAnswer → List SchedulerTicket
  | .enqueued result => if result.accepted then result.ticket.toList else []
  | _ => []

/-- The tickets that an answer hands out, as they waited. -/
def handedOutBy : SchedulerAnswer → List SchedulerTicket
  | .acquired result => result.ticket.toList.map SchedulerTicket.unassigned
  | _ => []

/-- Those of an acquisition without a ticket id. -/
def inTurnBy : SchedulerCall → SchedulerAnswer → List SchedulerTicket
  | .acquireWorker request, answer =>
    if request.preferredTicketId.isNone then handedOutBy answer else []
  | _, _ => []

/-- The oldest queued maintenance ticket, where the answer says that it was dropped. -/
def droppedBy (before : Scheduler) : SchedulerAnswer → List SchedulerTicket
  | .enqueued result =>
    if result.appliedOverflowDisposition = some .dropOldest then before.maintenanceQueue.take 1
    else []
  | _ => []

/-- The ticket that was made and numbered for a request, and then rejected. -/
def rejectedBy (before : Scheduler) : SchedulerCall → SchedulerAnswer → List SchedulerTicket
  | .enqueue request, .enqueued result =>
    if request.hasMinimumRequirements && !result.accepted then
      [makeSchedulerTicket request before.nextSequence]
    else []
  | _, _ => []

namespace Ledger

def step (ledger : Ledger) (call : SchedulerCall) : Ledger × SchedulerAnswer :=
  let (scheduler, answer) := ledger.scheduler.step call
  ({ scheduler
     accepted := ledger.accepted ++ acceptedBy answer
     handedOut := ledger.handedOut ++ handedOutBy answer
     inTurn := ledger.inTurn ++ inTurnBy call answer
     dropped := ledger.dropped ++ droppedBy ledger.scheduler answer
     rejected := ledger.rejected ++ rejectedBy ledger.scheduler call answer }, answer)

def book (ledger : Ledger) : Fifo.Book SchedulerPriorityClass SchedulerTicket where
  queue := ledger.scheduler.queueOf
  accepted := ledger.accepted
  taken := ledger.handedOut
  inTurn := ledger.inTurn
  dropped := ledger.dropped

variable (ledger : Ledger) (recoveryQueueLimit : UInt32) (after : Ledger)
  (maintenanceQueueLimit : UInt32) (priorityClass : SchedulerPriorityClass)
  (request : SchedulerTicketRequest) (dropped queue : List SchedulerTicket)

theorem run_scheduler (calls : List SchedulerCall) :
    (run step ledger calls).2 = (run Scheduler.step ledger.scheduler calls).2 ∧
      (run step ledger calls).1.scheduler = (run Scheduler.step ledger.scheduler calls).1 := by
  apply simulation step Scheduler.step (fun ledger scheduler => ledger.scheduler = scheduler)
    (fun _ _ => True) ?_ ledger ledger.scheduler calls rfl (allSteps_true _ _ _)
  rintro ledger - call rfl -
  exact ⟨rfl, rfl⟩

/-! ## One call -/

def rejecting (ledger : Ledger) (request : SchedulerTicketRequest) : Ledger :=
  { ledger with
    scheduler := ledger.scheduler.numbered
    rejected := ledger.rejected ++ [makeSchedulerTicket request ledger.scheduler.nextSequence] }

/-- The new ticket goes behind what the drop leaves of the queue. -/
def accepting (ledger : Ledger) (request : SchedulerTicketRequest)
    (dropped queue : List SchedulerTicket) : Ledger :=
  { ledger with
    scheduler := ledger.scheduler.numbered.setQueue request.priorityClass
      (queue ++ [makeSchedulerTicket request ledger.scheduler.nextSequence])
    accepted := ledger.accepted ++ [makeSchedulerTicket request ledger.scheduler.nextSequence]
    dropped := ledger.dropped ++ dropped }

def handingOut (ledger : Ledger) (priorityClass : SchedulerPriorityClass)
    (rest : List SchedulerTicket) (ticket : SchedulerTicket) (inTurn : Bool)
    (budget : WorkerLeaseBudget) : Ledger :=
  { ledger with
    scheduler := { ledger.scheduler.setQueue priorityClass rest with workerBudget := budget }
    handedOut := ledger.handedOut ++ [ticket]
    inTurn := ledger.inTurn ++ if inTurn then [ticket] else [] }

/-- The four ways in which a call changes the ledger. -/
inductive Change (ledger : Ledger) (after : Ledger) : Prop
  | idle (scheduler : Scheduler) (hqueues : scheduler.queueOf = ledger.scheduler.queueOf)
      (hlimits : scheduler.limitOf = ledger.scheduler.limitOf)
      (hsequence : scheduler.nextSequence = ledger.scheduler.nextSequence)
      (hafter : after = { ledger with scheduler })
  | reject (request : SchedulerTicketRequest)
      (hafter : after = ledger.rejecting request)
  | accept (request : SchedulerTicketRequest) (dropped queue : List SchedulerTicket)
      (hlisted : request.priorityClass.Listed)
      (hdropped : ledger.scheduler.queueOf request.priorityClass = dropped ++ queue)
      (hroom : dropped = [] ∧ queue.length < ledger.scheduler.limitOf request.priorityClass ∨
        request.priorityClass = .maintenance ∧
          dropped = (ledger.scheduler.queueOf .maintenance).take 1)
      (hafter : after = ledger.accepting request dropped queue)
  | handOut (priorityClass : SchedulerPriorityClass) (front back : List SchedulerTicket)
      (ticket : SchedulerTicket) (inTurn : Bool) (budget : WorkerLeaseBudget)
      (hlisted : priorityClass.Listed)
      (hqueue : ledger.scheduler.queueOf priorityClass = front ++ ticket :: back)
      (hturn : inTurn → front = [])
      (hafter : after =
        ledger.handingOut priorityClass (front ++ back) ticket.unassigned inTurn budget)

theorem enqueue_change :
    Change ledger (ledger.step (.enqueue request)).1 := by
  have hspec := ledger.scheduler.enqueue_spec request
  unfold step Scheduler.step
  dsimp only [acceptedBy, handedOutBy, inTurnBy, droppedBy, rejectedBy]
  rcases hspec with ⟨hrequest, haccepted, hdisposition, hafter⟩ |
    ⟨hrequest, haccepted, hdisposition, hafter⟩ |
    ⟨hrequest, haccepted, hticket, hdisposition, hlisted, hroom, hafter⟩ |
    ⟨hrequest, haccepted, hticket, hdisposition, hclass, hfull, hafter⟩
  · apply Change.idle ledger.scheduler rfl rfl rfl
    simp [hrequest, haccepted, hdisposition, hafter]
  · apply Change.reject request
    unfold rejecting
    simp [hrequest, haccepted, hdisposition, hafter]
  · apply Change.accept request [] (ledger.scheduler.queueOf request.priorityClass) hlisted rfl
      (.inl ⟨rfl, hroom⟩)
    unfold accepting
    simp [haccepted, hticket, hdisposition, hafter]
  · apply Change.accept request (ledger.scheduler.maintenanceQueue.take 1)
      (ledger.scheduler.maintenanceQueue.drop 1) (by rw [hclass]; trivial)
      (by rw [hclass, List.take_append_drop]; rfl) (.inr ⟨hclass, rfl⟩)
    unfold accepting
    simp [haccepted, hticket, hdisposition, hclass, hafter, Scheduler.queueOf]

theorem acquireWorker_change (request : AcquireWorkerRequest) :
    Change ledger (ledger.step (.acquireWorker request)).1 := by
  have hspec := ledger.scheduler.acquireWorker_spec request
  unfold step Scheduler.step
  dsimp only [acceptedBy, handedOutBy, inTurnBy, droppedBy, rejectedBy]
  rcases hspec with ⟨-, -, hticket, hafter⟩ |
    ⟨ticket, taken, -, -, -, hticket, ⟨priorityClass, front, back, hlisted, hqueue, hturn, rfl⟩,
      hafter⟩
  · apply Change.idle { ledger.scheduler with workerBudget := request.workerBudget }
      (by simp) (by simp) rfl
    simp [hticket, hafter]
  · apply Change.handOut priorityClass front back ticket request.preferredTicketId.isNone _ hlisted
      hqueue (fun h => hturn (by simpa using h))
    unfold handingOut
    simp [hticket, hafter]
    rfl

theorem releaseWorker_change (request : ReleaseWorkerRequest) :
    Change ledger (ledger.step (.releaseWorker request)).1 := by
  have hafter := (ledger.scheduler.releaseWorker_spec request).1
  apply Change.idle (ledger.scheduler.releaseWorker request).1
  · simp only [hafter, Scheduler.workerBudget_queueOf]
  · simp only [hafter, Scheduler.workerBudget_limitOf]
  · simp only [hafter]
  · simp [step, Scheduler.step, acceptedBy, handedOutBy, inTurnBy, droppedBy, rejectedBy]

theorem step_change (call : SchedulerCall) :
    Change ledger (ledger.step call).1 := by
  cases call with
  | enqueue request => exact enqueue_change ledger request
  | acquireWorker request => exact acquireWorker_change ledger request
  | releaseWorker request => exact releaseWorker_change ledger request

/-! ## Conservation -/

def start (scheduler : Scheduler) : Ledger where
  scheduler := scheduler

/-- Of every class, what is queued, handed out and dropped is what was accepted, and every
queue is within its limit. Only maintenance tickets are dropped. -/
structure Conserved (ledger : Ledger) : Prop where
  sound : Fifo.Sound SchedulerTicket.priorityClass ledger.book
  unassigned : ∀ ticket ∈ ledger.accepted, ticket.unassigned = ticket
  dropped : ∀ ticket ∈ ledger.dropped, ticket.priorityClass = .maintenance
  depth : ∀ priorityClass, (ledger.scheduler.queueOf priorityClass).length ≤
    ledger.scheduler.limitOf priorityClass

theorem Conserved.queued {ledger : Ledger} (h : Conserved ledger)
    (priorityClass : SchedulerPriorityClass) (ticket : SchedulerTicket)
    (hticket : ticket ∈ ledger.scheduler.queueOf priorityClass) :
    ticket.unassigned = ticket ∧ ticket.priorityClass = priorityClass := by
  have haccepted := (h.sound priorityClass).conserved.subset
    (List.mem_append_left _ (List.mem_append_left _ hticket))
  exact ⟨h.unassigned ticket ((Fifo.mem_ofClass _ _ _ _).mp haccepted).1,
    (h.sound priorityClass).classes ticket hticket⟩

theorem accept_moves (hlisted : request.priorityClass.Listed)
    (hdropped : ledger.scheduler.queueOf request.priorityClass = dropped ++ queue)
    (hone : dropped.length ≤ 1) :
    Relation.ReflTransGen (Fifo.Move SchedulerTicket.priorityClass) ledger.book
      (ledger.accepting request dropped queue).book := by
  let emptied : Fifo.Book SchedulerPriorityClass SchedulerTicket :=
    { ledger.book with
      queue := Function.update ledger.book.queue request.priorityClass queue
      dropped := ledger.dropped ++ dropped }
  have haccept : Fifo.Move SchedulerTicket.priorityClass emptied _ :=
    .accept emptied (makeSchedulerTicket request ledger.scheduler.nextSequence)
  have hclass : (makeSchedulerTicket request ledger.scheduler.nextSequence).priorityClass =
      request.priorityClass := rfl
  simp only [emptied, hclass, Function.update_self, Function.update_idem] at haccept
  unfold accepting
  unfold book at haccept ⊢
  simp only [Scheduler.queueOf_setQueue _ _ _ hlisted, Scheduler.numbered_queueOf]
  rcases dropped with - | ⟨oldest, rest⟩
  · rw [List.nil_append] at hdropped
    rw [← hdropped] at haccept
    simp only [Function.update_eq_self, List.append_nil] at haccept
    simp only [List.append_nil, ← hdropped]
    exact .single haccept
  · have hrest : rest = [] := List.length_eq_zero_iff.mp (by simpa using hone)
    subst hrest
    exact .tail (.single (Fifo.Move.drop _ _ oldest queue hdropped)) haccept

theorem handOut_moves (front back : List SchedulerTicket) (ticket : SchedulerTicket) (inTurn : Bool)
    (budget : WorkerLeaseBudget) (hlisted : priorityClass.Listed)
    (hqueue : ledger.scheduler.queueOf priorityClass = front ++ ticket :: back)
    (hturn : inTurn → front = []) :
    Fifo.Move SchedulerTicket.priorityClass ledger.book
      (ledger.handingOut priorityClass (front ++ back) ticket inTurn budget).book := by
  unfold handingOut book
  simp only [Scheduler.workerBudget_queueOf, Scheduler.queueOf_setQueue _ _ _ hlisted]
  cases inTurn with
  | true =>
    have hfront := hturn rfl
    subst hfront
    exact Fifo.Move.turn _ _ ticket back hqueue
  | false =>
    simp only [Bool.false_eq_true, if_false, List.append_nil]
    exact Fifo.Move.take _ _ front ticket back hqueue

theorem accept_depth (limit : Nat) (dropped queue : List SchedulerTicket)
    (ticket : SchedulerTicket) (h : (dropped ++ queue).length ≤ limit)
    (hroom : dropped = [] ∧ queue.length < limit ∨
      1 ≤ limit ∧ dropped = (dropped ++ queue).take 1) :
    (queue ++ [ticket]).length ≤ limit := by
  rw [List.length_append] at h ⊢
  rcases hroom with ⟨-, hroom⟩ | ⟨hlimit, hroom⟩
  · exact hroom
  · have hlength := congrArg List.length hroom
    simp only [List.length_take, List.length_append] at hlength
    simp only [List.length_singleton]
    omega

theorem update_depth (scheduler : Scheduler) (priorityClass : SchedulerPriorityClass)
    (queue : List SchedulerTicket) (hlisted : priorityClass.Listed)
    (h : ∀ other, (scheduler.queueOf other).length ≤ scheduler.limitOf other)
    (hqueue : queue.length ≤ scheduler.limitOf priorityClass) (other : SchedulerPriorityClass) :
    ((scheduler.setQueue priorityClass queue).queueOf other).length ≤ scheduler.limitOf other := by
  rw [Scheduler.queueOf_setQueue _ _ _ hlisted]
  by_cases hother : other = priorityClass
  · subst hother
    rwa [Function.update_self]
  · rw [Function.update_of_ne hother]
    exact h other

theorem change_limitOf (hchange : Change ledger after) :
    after.scheduler.limitOf = ledger.scheduler.limitOf := by
  rcases hchange with ⟨scheduler, -, hlimits, -, rfl⟩ | ⟨request, rfl⟩ |
    ⟨request, dropped, queue, -, -, -, rfl⟩ | ⟨priorityClass, front, back, ticket, inTurn, budget,
      -, -, -, rfl⟩
  · exact hlimits
  · exact Scheduler.numbered_limitOf _
  · exact (Scheduler.setQueue_limitOf _ _ _).trans (Scheduler.numbered_limitOf _)
  · exact (Scheduler.workerBudget_limitOf _ _).trans (Scheduler.setQueue_limitOf _ _ _)

theorem rejecting_conserved (h : Conserved ledger)
    (request : SchedulerTicketRequest) : Conserved (ledger.rejecting request) := by
  unfold rejecting
  refine ⟨?_, h.unassigned, h.dropped, ?_⟩
  · unfold book
    rw [Scheduler.numbered_queueOf]
    exact h.sound
  · rw [Scheduler.numbered_queueOf, Scheduler.numbered_limitOf]
    exact h.depth

theorem accepting_conserved (h : Conserved ledger)
    (hlimit : 1 ≤ ledger.scheduler.limitOf .maintenance) (request : SchedulerTicketRequest)
    (dropped queue : List SchedulerTicket) (hlisted : request.priorityClass.Listed)
    (hdropped : ledger.scheduler.queueOf request.priorityClass = dropped ++ queue)
    (hroom : dropped = [] ∧ queue.length < ledger.scheduler.limitOf request.priorityClass ∨
      request.priorityClass = .maintenance ∧
        dropped = (ledger.scheduler.queueOf .maintenance).take 1) :
    Conserved (ledger.accepting request dropped queue) := by
  have hone : dropped.length ≤ 1 := by
    rcases hroom with ⟨rfl, -⟩ | ⟨-, rfl⟩
    · exact Nat.zero_le 1
    · exact List.length_take_le 1 _
  have hclass : ∀ ticket ∈ dropped, ticket.priorityClass = .maintenance := by
    intro ticket hticket
    rcases hroom with ⟨rfl, -⟩ | ⟨-, rfl⟩
    · cases hticket
    · exact (h.queued .maintenance ticket (List.mem_of_mem_take hticket)).2
  refine ⟨?_, ?_, ?_, ?_⟩
  · exact Fifo.moves_sound _ _ _
      (accept_moves ledger request dropped queue hlisted hdropped hone) h.sound
  · intro ticket hticket
    rcases List.mem_append.mp hticket with hticket | hticket
    · exact h.unassigned ticket hticket
    · rw [List.mem_singleton.mp hticket, unassigned_makeSchedulerTicket]
  · intro ticket hticket
    rcases List.mem_append.mp hticket with hticket | hticket
    · exact h.dropped ticket hticket
    · exact hclass ticket hticket
  · unfold accepting
    rw [Scheduler.setQueue_limitOf]
    refine update_depth ledger.scheduler.numbered _ _ hlisted ?_ ?_
    · rw [Scheduler.numbered_queueOf, Scheduler.numbered_limitOf]
      exact h.depth
    · rw [Scheduler.numbered_limitOf]
      apply accept_depth _ dropped _ _ (hdropped ▸ h.depth request.priorityClass)
      rcases hroom with hroom | ⟨hmaintenance, htake⟩
      · exact .inl hroom
      · exact .inr ⟨by rwa [hmaintenance], by rw [← hdropped, hmaintenance]; exact htake⟩

theorem handingOut_conserved (h : Conserved ledger)
    (priorityClass : SchedulerPriorityClass) (front back : List SchedulerTicket)
    (ticket : SchedulerTicket) (inTurn : Bool) (budget : WorkerLeaseBudget)
    (hlisted : priorityClass.Listed)
    (hqueue : ledger.scheduler.queueOf priorityClass = front ++ ticket :: back)
    (hturn : inTurn → front = []) :
    Conserved (ledger.handingOut priorityClass (front ++ back) ticket inTurn budget) := by
  refine ⟨?_, h.unassigned, h.dropped, ?_⟩
  · exact Fifo.move_sound _ _ _
      (handOut_moves ledger priorityClass front back ticket inTurn budget hlisted hqueue hturn)
      h.sound
  · unfold handingOut
    rw [Scheduler.workerBudget_queueOf, Scheduler.workerBudget_limitOf, Scheduler.setQueue_limitOf]
    refine update_depth ledger.scheduler _ _ hlisted h.depth ?_
    have hdepth := h.depth priorityClass
    rw [hqueue] at hdepth
    simp only [List.length_append, List.length_cons] at hdepth ⊢
    omega

theorem change_conserved (h : Conserved ledger)
    (hlimit : 1 ≤ ledger.scheduler.limitOf .maintenance) (hchange : Change ledger after) :
    Conserved after := by
  rcases hchange with ⟨scheduler, hqueues, hlimits, -, rfl⟩ | ⟨request, rfl⟩ |
    ⟨request, dropped, queue, hlisted, hdropped, hroom, rfl⟩ |
    ⟨priorityClass, front, back, ticket, inTurn, budget, hlisted, hqueue, hturn, rfl⟩
  · have hbook : book { ledger with scheduler } = ledger.book := by simp only [book, hqueues]
    exact ⟨hbook ▸ h.sound, h.unassigned, h.dropped, by simpa only [hqueues, hlimits] using h.depth⟩
  · exact rejecting_conserved ledger h request
  · exact accepting_conserved ledger h hlimit request dropped queue hlisted hdropped hroom
  · rw [(h.queued priorityClass ticket (by simp [hqueue])).1]
    exact handingOut_conserved ledger h priorityClass front back ticket inTurn budget hlisted
      hqueue hturn

theorem withLimits_queueOf :
    (Scheduler.withLimits recoveryQueueLimit maintenanceQueueLimit).queueOf priorityClass = [] := by
  cases priorityClass <;> rfl

theorem start_conserved :
    Conserved (start (.withLimits recoveryQueueLimit maintenanceQueueLimit)) := by
  have hqueue := withLimits_queueOf recoveryQueueLimit maintenanceQueueLimit
  have hnone : ∀ (motive : SchedulerTicket → Prop) (ticket : SchedulerTicket), ticket ∈ [] →
      motive ticket := fun _ ticket h => absurd h List.not_mem_nil
  refine ⟨fun priorityClass => ?_, hnone _, hnone _, fun priorityClass => ?_⟩
  · unfold start book
    constructor
    · dsimp only
      rw [hqueue]
      exact hnone _
    · dsimp only
      rw [hqueue]
      exact .refl _
    · dsimp only
      rw [hqueue]
      exact List.Sublist.refl _
  · unfold start
    dsimp only
    rw [hqueue]
    exact Nat.zero_le _

/-! ## Numbers -/

/-- How many tickets were made. -/
def made (ledger : Ledger) : Nat := ledger.accepted.length + ledger.rejected.length

/-- No number was given twice, and a later ticket has a larger one. -/
structure Fresh (ledger : Ledger) : Prop where
  increasing : ledger.accepted.Pairwise fun earlier later =>
    earlier.enqueueSequence < later.enqueueSequence
  bound : ∀ ticket ∈ ledger.accepted ++ ledger.rejected,
    ticket.enqueueSequence.toNat ≤ ledger.made
  apart : ∀ ticket ∈ ledger.rejected, ∀ other ∈ ledger.accepted,
    ticket.enqueueSequence ≠ other.enqueueSequence

/-- The numbers start at 1, and are fresh until the counter wraps. -/
structure Numbered (ledger : Ledger) : Prop where
  next : ledger.scheduler.nextSequence = UInt64.ofNat (1 + ledger.made)
  fresh : ledger.made < 2 ^ 64 → Fresh ledger

theorem next_lt (h : Numbered ledger) (hmade : ledger.made + 1 < 2 ^ 64) :
    ledger.scheduler.nextSequence.toNat = ledger.made + 1 := by
  have hsmall : 1 + ledger.made < UInt64.size := by unfold UInt64.size; omega
  rw [h.next, UInt64.toNat_ofNat_of_lt' hsmall, Nat.add_comm]

theorem next_above (h : Numbered ledger) (hmade : ledger.made + 1 < 2 ^ 64)
    (ticket : SchedulerTicket) (hticket : ticket ∈ ledger.accepted ++ ledger.rejected) :
    ticket.enqueueSequence < ledger.scheduler.nextSequence := by
  have hbound := (h.fresh (by omega)).bound ticket hticket
  rw [UInt64.lt_iff_toNat_lt, next_lt ledger h hmade]
  omega

theorem rejecting_made :
    (ledger.rejecting request).made = ledger.made + 1 := by
  simp [made, rejecting, Nat.add_assoc]

theorem accepting_made :
    (ledger.accepting request dropped queue).made = ledger.made + 1 := by
  unfold made accepting
  simp only [List.length_append, List.length_singleton]
  omega

theorem rejecting_fresh (h : Numbered ledger)
    (hmade : ledger.made + 1 < 2 ^ 64) (request : SchedulerTicketRequest) :
    Fresh (ledger.rejecting request) := by
  have hfresh := h.fresh (by omega)
  refine ⟨hfresh.increasing, ?_, ?_⟩
  · rw [rejecting_made]
    unfold rejecting
    intro ticket hticket
    rw [← List.append_assoc, List.mem_append, List.mem_singleton] at hticket
    rcases hticket with hticket | rfl
    · exact (hfresh.bound ticket hticket).trans (Nat.le_succ _)
    · exact (next_lt ledger h hmade).le
  · intro ticket hticket other hother
    rcases List.mem_append.mp hticket with hticket | hticket
    · exact hfresh.apart ticket hticket other hother
    · rw [List.mem_singleton.mp hticket]
      exact (UInt64.ne_of_lt (next_above ledger h hmade other (List.mem_append_left _ hother))).symm

theorem accepting_fresh (h : Numbered ledger)
    (hmade : ledger.made + 1 < 2 ^ 64) (request : SchedulerTicketRequest)
    (dropped queue : List SchedulerTicket) :
    Fresh (ledger.accepting request dropped queue) := by
  have hfresh := h.fresh (by omega)
  refine ⟨?_, ?_, ?_⟩
  · unfold accepting
    rw [List.pairwise_append]
    refine ⟨hfresh.increasing, List.pairwise_singleton _ _, fun ticket hticket other hother => ?_⟩
    rw [List.mem_singleton.mp hother]
    exact next_above ledger h hmade ticket (List.mem_append_left _ hticket)
  · rw [accepting_made]
    unfold accepting
    intro ticket hticket
    simp only [List.mem_append, List.mem_singleton] at hticket
    rcases hticket with (hticket | rfl) | hticket
    · exact (hfresh.bound ticket (List.mem_append_left _ hticket)).trans (Nat.le_succ _)
    · exact (next_lt ledger h hmade).le
    · exact (hfresh.bound ticket (List.mem_append_right _ hticket)).trans (Nat.le_succ _)
  · intro ticket hticket other hother
    rcases List.mem_append.mp hother with hother | hother
    · exact hfresh.apart ticket hticket other hother
    · rw [List.mem_singleton.mp hother]
      exact UInt64.ne_of_lt (next_above ledger h hmade ticket (List.mem_append_right _ hticket))

theorem start_numbered :
    Numbered (start (.withLimits recoveryQueueLimit maintenanceQueueLimit)) := by
  have hnone : ∀ (motive : SchedulerTicket → Prop) (ticket : SchedulerTicket), ticket ∈ [] →
      motive ticket := fun _ ticket h => absurd h List.not_mem_nil
  exact ⟨rfl, fun _ => ⟨.nil, hnone _, hnone _⟩⟩

theorem change_numbered (h : Numbered ledger)
    (hchange : Change ledger after) : Numbered after := by
  have hnext : ledger.scheduler.nextSequence + 1 = UInt64.ofNat (1 + (ledger.made + 1)) := by
    rw [h.next, ← Nat.add_assoc, UInt64.ofNat_add (1 + ledger.made) 1]
    rfl
  rcases hchange with ⟨scheduler, -, -, hsequence, rfl⟩ | ⟨request, rfl⟩ |
    ⟨request, dropped, queue, -, -, -, rfl⟩ |
    ⟨priorityClass, front, back, ticket, inTurn, budget, -, -, -, rfl⟩
  · exact ⟨hsequence.trans h.next, fun hmade => ⟨(h.fresh hmade).increasing, (h.fresh hmade).bound,
      (h.fresh hmade).apart⟩⟩
  · refine ⟨?_, ?_⟩ <;> rw [rejecting_made]
    · exact hnext
    · exact fun hmade => rejecting_fresh ledger h hmade request
  · refine ⟨?_, ?_⟩ <;> rw [accepting_made]
    · exact (Scheduler.setQueue_nextSequence _ _ _).trans hnext
    · exact fun hmade => accepting_fresh ledger h hmade request dropped queue
  · exact ⟨(Scheduler.setQueue_nextSequence _ _ _).trans h.next, fun hmade =>
      ⟨(h.fresh hmade).increasing, (h.fresh hmade).bound, (h.fresh hmade).apart⟩⟩

/-- The tickets of each class that leave in turn leave in the order of their numbers, no ticket
is in two places, and none that was rejected is handed out. -/
structure Ordered (ledger : Ledger) : Prop where
  inTurn : ∀ priorityClass,
    (Fifo.ofClass SchedulerTicket.priorityClass priorityClass ledger.inTurn).Pairwise
      fun earlier later => earlier.enqueueSequence < later.enqueueSequence
  once : ∀ priorityClass, (ledger.scheduler.queueOf priorityClass ++
    Fifo.ofClass SchedulerTicket.priorityClass priorityClass ledger.handedOut ++
    Fifo.ofClass SchedulerTicket.priorityClass priorityClass ledger.dropped).Nodup
  rejected : ∀ ticket ∈ ledger.rejected, ticket ∉ ledger.handedOut

theorem ordered_of_fresh (h : Conserved ledger) (hfresh : Fresh ledger) :
    Ordered ledger := by
  have hincreasing := fun priorityClass : SchedulerPriorityClass =>
    hfresh.increasing.filter fun ticket => ticket.priorityClass = priorityClass
  refine ⟨fun priorityClass => ?_, fun priorityClass => ?_, fun ticket hticket hout => ?_⟩
  · exact (hincreasing priorityClass).sublist
      ((List.sublist_append_left _ _).trans (h.sound priorityClass).order)
  · refine (h.sound priorityClass).conserved.nodup_iff.mpr ?_
    apply List.Pairwise.imp _ (hincreasing priorityClass)
    rintro earlier later hlt rfl
    exact UInt64.lt_irrefl _ hlt
  · exact hfresh.apart ticket hticket ticket (Fifo.taken_accepted _ _ h.sound hout) rfl

/-! ## Runs -/

theorem run_conserved (hmaintenance : 1 ≤ maintenanceQueueLimit) (calls : List SchedulerCall) :
    let initial := Scheduler.withLimits recoveryQueueLimit maintenanceQueueLimit
    Conserved (run step (start initial) calls).1 ∧
      Numbered (run step (start initial) calls).1 ∧
      (run step (start initial) calls).1.scheduler.limitOf = initial.limitOf := by
  intro initial
  have hlimit : 1 ≤ initial.limitOf .maintenance := UInt32.le_iff_toNat_le.mp hmaintenance
  apply invariant_run step (fun ledger => Conserved ledger ∧ Numbered ledger ∧
    ledger.scheduler.limitOf = initial.limitOf)
  · rintro ledger call ⟨hconserved, hnumbered, hlimits⟩
    have hchange := step_change ledger call
    exact ⟨change_conserved _ _ hconserved (hlimits ▸ hlimit) hchange,
      change_numbered _ _ hnumbered hchange, (change_limitOf _ _ hchange).trans hlimits⟩
  · exact ⟨start_conserved _ _, start_numbered _ _, rfl⟩

theorem acquire_in_turn (h : Conserved ledger) (request : AcquireWorkerRequest)
    (hid : request.preferredTicketId = none) (hcapacity : request.workerBudget.hasCapacity = true) :
    (ledger.scheduler.acquireWorker request).2.ticket.map SchedulerTicket.unassigned =
      (ledger.scheduler.candidates request.preferredPriorityClass).head? := by
  have hfirst : ledger.scheduler.choice request =
      (ledger.scheduler.candidates request.preferredPriorityClass).head? := by
    simp [Scheduler.choice, hid]
  rcases ledger.scheduler.acquireWorker_spec request with ⟨hnone, -, hticket, -⟩ |
    ⟨ticket, taken, -, hchoice, -, hticket, ⟨priorityClass, front, back, -, hqueue, -, -⟩, -⟩
  · rcases hnone with hfull | hnone
    · rw [hcapacity] at hfull
      cases hfull
    · rw [hticket, ← hfirst, hnone]
      rfl
  · rw [hticket, ← hfirst, hchoice, Option.map_some, unassigned_assigned,
      (h.queued priorityClass ticket (by simp [hqueue])).1]

theorem drop_at_limit (h : Conserved ledger) (request : SchedulerTicketRequest)
    (hdrop : (ledger.scheduler.enqueue request).2.appliedOverflowDisposition =
      some .dropOldest) :
    ledger.scheduler.maintenanceQueue.length = ledger.scheduler.limitOf .maintenance := by
  rcases ledger.scheduler.enqueue_spec request with ⟨-, -, hdisposition, -⟩ |
    ⟨-, -, hdisposition, -⟩ | ⟨-, -, -, hdisposition, -⟩ | ⟨-, -, -, -, -, hfull, -⟩
  · exact absurd hdrop hdisposition
  · exact absurd hdrop hdisposition
  · exact absurd hdrop hdisposition
  · exact Nat.le_antisymm (h.depth .maintenance) hfull

end Ledger

/-- Whatever is accepted is queued, handed out or dropped, once; the queues keep to their
limits; the first candidate is served; and while the numbers do not wrap the tickets of a class
are served in the order of their numbers. -/
theorem scheduler_conservation (recoveryQueueLimit maintenanceQueueLimit : UInt32)
    (hmaintenance : 1 ≤ maintenanceQueueLimit) (calls : List SchedulerCall) :
    let initial := Scheduler.withLimits recoveryQueueLimit maintenanceQueueLimit
    let ledger := (run Ledger.step (.start initial) calls).1
    ledger.scheduler = (run Scheduler.step initial calls).1 ∧
    Ledger.Conserved ledger ∧
    ledger.handedOut ⊆ ledger.accepted ∧
    ledger.scheduler.foregroundQueue.length ≤ 1 ∧
    ledger.scheduler.recoveryQueue.length ≤ recoveryQueueLimit.toNat ∧
    ledger.scheduler.maintenanceQueue.length ≤ maintenanceQueueLimit.toNat ∧
    (∀ request : AcquireWorkerRequest, request.preferredTicketId = none →
      request.workerBudget.hasCapacity = true →
      (ledger.scheduler.acquireWorker request).2.ticket.map SchedulerTicket.unassigned =
        (ledger.scheduler.candidates request.preferredPriorityClass).head?) ∧
    (∀ request : SchedulerTicketRequest,
      (ledger.scheduler.enqueue request).2.appliedOverflowDisposition = some .dropOldest →
        ledger.scheduler.maintenanceQueue.length = maintenanceQueueLimit.toNat) ∧
    (ledger.made < 2 ^ 64 → Ledger.Ordered ledger) := by
  intro initial ledger
  obtain ⟨hconserved, hnumbered, hlimits⟩ :=
    Ledger.run_conserved recoveryQueueLimit maintenanceQueueLimit hmaintenance calls
  have hdepth := fun priorityClass => hlimits ▸ hconserved.depth priorityClass
  refine ⟨(Ledger.run_scheduler (.start initial) calls).2, hconserved,
    Fifo.taken_accepted _ _ hconserved.sound, hdepth .foregroundInteractive, hdepth .recovery,
    hdepth .maintenance, fun request hid hcapacity => ?_, fun request hdrop => ?_, fun hmade => ?_⟩
  · exact Ledger.acquire_in_turn ledger hconserved request hid hcapacity
  · rw [Ledger.drop_at_limit ledger hconserved request hdrop, hlimits]
    rfl
  · exact Ledger.ordered_of_fresh ledger hconserved (hnumbered.fresh hmade)

/-! ## Samples -/

def sampleCalls : List SchedulerCall :=
  [.enqueue (maintenanceTicket "maintenance-1"), .enqueue (maintenanceTicket "maintenance-2"),
    .enqueue (foregroundTicket "foreground-1"), .enqueue (foregroundTicket "foreground-2"),
    .acquireWorker acquireNext, .acquireWorker acquireNext]

theorem scheduler_conservation_sample :
    let ledger := (run Ledger.step (.start (.withLimits 2 4)) sampleCalls).1
    ledger.handedOut.map (·.enqueueSequence) = [3, 1] ∧
      ledger.rejected.map (·.enqueueSequence) = [4] ∧ Ledger.Ordered ledger :=
  ⟨by decide +kernel, by decide +kernel,
    (scheduler_conservation 2 4 (by decide) sampleCalls).2.2.2.2.2.2.2.2 (by decide +kernel)⟩

/-! ## The counter wraps -/

namespace Ledger

variable (ledger : Ledger) (request : SchedulerTicketRequest) (first : SchedulerTicket)

theorem reject_foreground (hrequest : request.hasMinimumRequirements = true)
    (hclass : request.priorityClass = .foregroundInteractive)
    (hqueue : ledger.scheduler.foregroundQueue ≠ []) :
    (ledger.step (.enqueue request)).1 = ledger.rejecting request := by
  have hempty : ledger.scheduler.foregroundQueue.isEmpty = false := by simpa using hqueue
  simp [step, Scheduler.step, Scheduler.enqueue, hrequest, hclass, hempty, acceptedBy, handedOutBy,
    inTurnBy, droppedBy, rejectedBy, Scheduler.rejectTicket, Scheduler.numbered, rejecting]

theorem reject_foreground_run (hrequest : request.hasMinimumRequirements = true)
    (hclass : request.priorityClass = .foregroundInteractive)
    (hqueue : ledger.scheduler.foregroundQueue ≠ []) (count : Nat) :
    ∃ rejected, (run step ledger (List.replicate count (.enqueue request))).1 =
      { ledger with
        scheduler := { ledger.scheduler with
          nextSequence := ledger.scheduler.nextSequence + UInt64.ofNat count }
        rejected } := by
  induction count generalizing ledger with
  | zero => exact ⟨ledger.rejected, by simp⟩
  | succ count ih =>
    rw [List.replicate_succ, run_cons, reject_foreground ledger request hrequest hclass hqueue]
    obtain ⟨rejected, hrun⟩ := ih (ledger.rejecting request) hqueue
    refine ⟨rejected, hrun.trans ?_⟩
    have hsum : ledger.scheduler.nextSequence + 1 + UInt64.ofNat count =
        ledger.scheduler.nextSequence + UInt64.ofNat (count + 1) := by
      rw [Nat.add_comm count 1, UInt64.ofNat_add, UInt64.add_assoc]
      rfl
    simp only [rejecting, Scheduler.numbered, hsum]

theorem acquire_maintenance
    (rest : List SchedulerTicket) (hqueue : ledger.scheduler.maintenanceQueue = first :: rest) :
    (ledger.step (.acquireWorker acquireMaintenance)).1.inTurn =
        ledger.inTurn ++ [first.unassigned] ∧
      (ledger.step (.acquireWorker acquireMaintenance)).1.scheduler.maintenanceQueue = rest := by
  obtain ⟨⟨foreground, recovery, queue, budget, next, recoveryLimit, maintenanceLimit⟩, accepted,
    handedOut, inTurn, dropped, rejected⟩ := ledger
  cases hqueue
  exact ⟨rfl, rfl⟩

theorem enqueue_maintenance (hrequest : request.hasMinimumRequirements = true)
    (hclass : request.priorityClass = .maintenance)
    (hroom : ledger.scheduler.maintenanceQueue.length <
      ledger.scheduler.maintenanceQueueLimit.toNat) :
    (ledger.step (.enqueue request)).1.inTurn = ledger.inTurn ∧
      (ledger.step (.enqueue request)).1.scheduler.maintenanceQueue =
        ledger.scheduler.maintenanceQueue ++
          [makeSchedulerTicket request ledger.scheduler.nextSequence] := by
  have hlimit := Nat.not_le_of_lt hroom
  simp [step, Scheduler.step, Scheduler.enqueue, hrequest, hclass, hlimit, inTurnBy]

/-- A queued maintenance ticket and the one that is enqueued after it leave in turn. -/
theorem two_in_turn (hrequest : request.hasMinimumRequirements = true)
    (hclass : request.priorityClass = .maintenance)
    (hqueue : ledger.scheduler.maintenanceQueue = [first])
    (hlimit : 1 < ledger.scheduler.maintenanceQueueLimit.toNat) :
    (run step ledger [.enqueue request, .acquireWorker acquireMaintenance,
        .acquireWorker acquireMaintenance]).1.inTurn =
      ledger.inTurn ++
        [first.unassigned, makeSchedulerTicket request ledger.scheduler.nextSequence] := by
  obtain ⟨hturn₁, hqueue₁⟩ :=
    enqueue_maintenance ledger request hrequest hclass (by rw [hqueue]; exact hlimit)
  rw [hqueue] at hqueue₁
  obtain ⟨hturn₂, hqueue₂⟩ := acquire_maintenance _ first _ hqueue₁
  obtain ⟨hturn₃, -⟩ := acquire_maintenance _ _ _ hqueue₂
  simp only [run_cons, run_nil]
  rw [hturn₃, hturn₂, hturn₁, unassigned_makeSchedulerTicket, List.append_assoc]
  rfl

end Ledger

/-- A foreground ticket with number 1 and a maintenance ticket with number 2 are queued. -/
def twoQueued : Ledger where
  scheduler := { Scheduler.withLimits 2 4 with
    foregroundQueue := [makeSchedulerTicket (foregroundTicket "foreground-1") 1]
    maintenanceQueue := [makeSchedulerTicket (maintenanceTicket "maintenance-1") 2]
    nextSequence := 3 }
  accepted := [makeSchedulerTicket (foregroundTicket "foreground-1") 1,
    makeSchedulerTicket (maintenanceTicket "maintenance-1") 2]

theorem run_twoQueued : (run Ledger.step (.start (.withLimits 2 4))
    [.enqueue (foregroundTicket "foreground-1"),
      .enqueue (maintenanceTicket "maintenance-1")]).1 = twoQueued := by
  decide +kernel

/-- The number after `2 ^ 64 - 1` is 0, so a maintenance ticket leaves with 2 and the one
after it with 0. -/
theorem scheduler_order_wraps :
    ∃ calls, let ledger := (run Ledger.step (.start (.withLimits 2 4)) calls).1
      ¬ (Fifo.ofClass SchedulerTicket.priorityClass .maintenance ledger.inTurn).Pairwise
        fun earlier later => earlier.enqueueSequence < later.enqueueSequence := by
  obtain ⟨rejected, hrejected⟩ := Ledger.reject_foreground_run twoQueued
    (foregroundTicket "foreground-2") rfl rfl nofun (2 ^ 64 - 3)
  refine ⟨[.enqueue (foregroundTicket "foreground-1"),
      .enqueue (maintenanceTicket "maintenance-1")] ++
    (List.replicate (2 ^ 64 - 3) (.enqueue (foregroundTicket "foreground-2")) ++
      [.enqueue (maintenanceTicket "maintenance-2"), .acquireWorker acquireMaintenance,
        .acquireWorker acquireMaintenance]), ?_⟩
  intro ledger
  have hnext : (3 : UInt64) + UInt64.ofNat (2 ^ 64 - 3) = 0 := by decide
  have hturn : ledger.inTurn = [makeSchedulerTicket (maintenanceTicket "maintenance-1") 2,
      makeSchedulerTicket (maintenanceTicket "maintenance-2") 0] := by
    simp only [ledger, run_append, run_twoQueued, hrejected]
    refine (Ledger.two_in_turn _ (maintenanceTicket "maintenance-2")
      (makeSchedulerTicket (maintenanceTicket "maintenance-1") 2) rfl rfl rfl ?_).trans ?_
    · exact (by decide : 1 < (4 : UInt32).toNat)
    · simp only [twoQueued, hnext]
      rfl
  rw [hturn]
  decide +kernel

end Dasall.Runtime
