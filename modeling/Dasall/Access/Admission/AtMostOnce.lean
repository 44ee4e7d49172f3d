import Dasall.Access.Types
import Dasall.Lib.Run

/-!
# The admission controller

Two maps: the tickets in flight, and one record for each signature. A request is turned away at
the limit, answered from the record of its signature, or given a new ticket.
-/

open Dasall.Lib Dasall.Lib.Text Dasall.Lib.Run

namespace Dasall.Access

structure InflightTicket where
  ticketRef : Bytes
  signature : Bytes
  issuedAt : TimePoint
deriving DecidableEq

structure IdempotencyRecord where
  signature : Bytes
  inflightTicketRef : Option Bytes
  completed : Bool
  replayReceiptRef : Option Bytes
  expiresAt : TimePoint
deriving DecidableEq

structure AdmissionController where
  config : AccessAdmissionView
  /-- A `std::size_t`, which wraps. -/
  ticketCounter : UInt64 := 0
  inflightTickets : Table Bytes InflightTicket := ∅
  idempotencyRecords : Table Bytes IdempotencyRecord := ∅

/-! ## Answers -/

def concurrencyLimitExceeded : AccessAdmissionResult :=
  { rejectReason := some (str "concurrency_limit_exceeded") }

def admissionRejected : AccessAdmissionResult :=
  { rejectReason := some (str "admission_rejected") }

def replayResult (replayReceiptRef : Option Bytes) : AccessAdmissionResult :=
  { replayHit := true, replayReceiptRef, rejectReason := some (str "idempotency_replay_hit") }

def conflictResult (inflightTicketRef : Bytes) : AccessAdmissionResult :=
  { conflictHit := true, ticketRef := some inflightTicketRef,
    rejectReason := some (str "idempotency_conflict") }

def admittedResult (ticketRef : Bytes) : AccessAdmissionResult :=
  { admitted := true, ticketRef := some ticketRef }

def makeReceiptRef (ticketRef : Bytes) : Bytes := str "receipt-for-" ++ ticketRef

/-! ## Signatures -/

/-- The explicit key of a request, where it carries one that is not empty. -/
def explicitKey (request : RuntimeDispatchRequest) : Option Bytes :=
  (request.requestContext.lookup (str "idempotency_key")).filter fun key => !key.isEmpty

def buildIdempotencySignature (request : RuntimeDispatchRequest) : Bytes :=
  match explicitKey request with
  | some key =>
    request.packet.entryType ++ str "|" ++ request.packet.protocolKind ++ str "|" ++
      request.subjectIdentity.actorRef ++ str "|" ++ key
  | none =>
    if request.packet.packetId.isEmpty || request.subjectIdentity.actorRef.isEmpty then []
    else
      request.packet.entryType ++ str "|" ++ request.packet.protocolKind ++ str "|" ++
        request.subjectIdentity.actorRef ++ str "|" ++ request.packet.packetId

namespace AdmissionController

def pruneExpiredRecords (controller : AdmissionController) (now : TimePoint) :
    AdmissionController :=
  { controller with
    idempotencyRecords := controller.idempotencyRecords.keep fun _ record =>
      !(record.expiresAt < now && record.inflightTicketRef.isNone) }

def checkIdempotency (controller : AdmissionController) (signature : Bytes) (now : TimePoint) :
    Option AccessAdmissionResult :=
  match controller.idempotencyRecords.lookup signature with
  | none => none
  | some record =>
    if record.expiresAt < now then none
    else if record.completed then some (replayResult record.replayReceiptRef)
    else record.inflightTicketRef.map conflictResult

def acquireInflightTicket (controller : AdmissionController) (signature : Bytes)
    (now : TimePoint) : AdmissionController × InflightTicket :=
  let ticketCounter := controller.ticketCounter + 1
  let ticket : InflightTicket :=
    { ticketRef := str "ticket-" ++ decimal ticketCounter.toNat, signature, issuedAt := now }
  ({ controller with
      ticketCounter
      inflightTickets := controller.inflightTickets.insert ticket.ticketRef ticket },
    ticket)

/-- `max_inflight_requests <= 0 || size() >= max_inflight_requests`. -/
def limitReached (controller : AdmissionController) : Bool :=
  controller.config.maxInflightRequests.toInt ≤ 0 ||
    controller.config.maxInflightRequests.toInt ≤ controller.inflightTickets.entries.length

/-- `admit`, which reads the clock before it takes the lock. -/
def admitRequest (controller : AdmissionController) (request : RuntimeDispatchRequest)
    (now : TimePoint) : AdmissionController × AccessAdmissionResult :=
  let controller := controller.pruneExpiredRecords now
  if controller.limitReached then (controller, concurrencyLimitExceeded)
  else
    let signature := buildIdempotencySignature request
    if signature.isEmpty then (controller, admissionRejected)
    else
      match controller.checkIdempotency signature now with
      | some existing => (controller, existing)
      | none =>
        let (controller, ticket) := controller.acquireInflightTicket signature now
        let record : IdempotencyRecord :=
          { signature
            inflightTicketRef := some ticket.ticketRef
            completed := false
            replayReceiptRef := none
            expiresAt := now + milliseconds controller.config.idempotencyWindowMs.toInt }
        ({ controller with
            idempotencyRecords := controller.idempotencyRecords.insert signature record },
          admittedResult ticket.ticketRef)

/-- `release_ticket`, through `release_inflight_ticket`. -/
def releaseTicket (controller : AdmissionController) (ticketRef : Bytes) : AdmissionController :=
  match controller.inflightTickets.lookup ticketRef with
  | none => controller
  | some ticket =>
    let controller :=
      { controller with inflightTickets := controller.inflightTickets.erase ticketRef }
    match controller.idempotencyRecords.lookup ticket.signature with
    | none => controller
    | some record =>
      if record.completed then controller
      else
        { controller with
          idempotencyRecords := controller.idempotencyRecords.erase ticket.signature }

def recordCompletion (controller : AdmissionController) (ticketRef : Bytes)
    (result : RuntimeDispatchResult) : AdmissionController :=
  match controller.inflightTickets.lookup ticketRef with
  | none => controller
  | some ticket =>
    let idempotencyRecords :=
      match controller.idempotencyRecords.lookup ticket.signature with
      | none => controller.idempotencyRecords
      | some record =>
        controller.idempotencyRecords.insert ticket.signature
          { record with
            completed := true
            inflightTicketRef := none
            replayReceiptRef := some (result.receiptRef.getD (makeReceiptRef ticketRef)) }
    { controller with
      idempotencyRecords
      inflightTickets := controller.inflightTickets.erase ticketRef }

end AdmissionController

/-! ## Calls -/

inductive AdmissionCall
  | admitRequest (request : RuntimeDispatchRequest) (now : TimePoint)
  | releaseTicket (ticketRef : Bytes)
  | recordCompletion (ticketRef : Bytes) (result : RuntimeDispatchResult)

open AdmissionController

def AdmissionController.step (controller : AdmissionController) :
    AdmissionCall → AdmissionController × Option AccessAdmissionResult
  | .admitRequest request now =>
    ((controller.admitRequest request now).1, some (controller.admitRequest request now).2)
  | .releaseTicket ticketRef => (controller.releaseTicket ticketRef, none)
  | .recordCompletion ticketRef result => (controller.recordCompletion ticketRef result, none)

/-!
## One ticket for a signature

The record of a signature names its ticket in flight, as long as no ticket is issued for the
signature while an earlier one is in flight past its window. Then a request of the signature
is answered from that record until the window has passed or the ticket is released.
-/

/-! ## What a call does -/

namespace AdmissionController

/-- The state after a new ticket. -/
def issued (controller : AdmissionController) (signature : Bytes) (now : TimePoint) :
    AdmissionController :=
  let ticketRef := (controller.acquireInflightTicket signature now).2.ticketRef
  { (controller.acquireInflightTicket signature now).1 with
    idempotencyRecords := controller.idempotencyRecords.insert signature
      { signature
        inflightTicketRef := some ticketRef
        completed := false
        replayReceiptRef := none
        expiresAt := now + milliseconds controller.config.idempotencyWindowMs.toInt } }

variable (controller : AdmissionController)

/-- A request is refused or answered, and nothing but the pruning happens, or it gets a ticket
because there is room and the record of its signature does not answer it. -/
theorem admitRequest_cases (request : RuntimeDispatchRequest)
    (now : TimePoint) :
    let pruned := controller.pruneExpiredRecords now
    let signature := buildIdempotencySignature request
    (pruned.limitReached = true ∧
        controller.admitRequest request now = (pruned, concurrencyLimitExceeded)) ∨
      (signature = [] ∧ controller.admitRequest request now = (pruned, admissionRejected)) ∨
      (∃ existing, signature ≠ [] ∧ pruned.checkIdempotency signature now = some existing ∧
        controller.admitRequest request now = (pruned, existing)) ∨
      (pruned.limitReached = false ∧ signature ≠ [] ∧
        pruned.checkIdempotency signature now = none ∧
        controller.admitRequest request now = (pruned.issued signature now,
          admittedResult (pruned.acquireInflightTicket signature now).2.ticketRef)) := by
  intro pruned signature
  unfold admitRequest
  dsimp only
  split
  · rename_i hlimit
    exact Or.inl ⟨hlimit, rfl⟩
  rename_i hlimit
  rw [Bool.not_eq_true] at hlimit
  split
  · rename_i hempty
    exact Or.inr (Or.inl ⟨List.isEmpty_iff.mp hempty, rfl⟩)
  rename_i hempty
  have hsignature : signature ≠ [] := fun h => hempty (List.isEmpty_iff.mpr h)
  split
  · rename_i existing hexisting
    exact Or.inr (Or.inr (Or.inl ⟨existing, hsignature, hexisting, rfl⟩))
  · rename_i hnone
    exact Or.inr (Or.inr (Or.inr ⟨hlimit, hsignature, hnone, rfl⟩))

/-- The ticket is out of flight, and no record changed but the one of its signature. -/
structure Ended (ticketRef : Bytes) (before after : AdmissionController) : Prop where
  inflight : ∀ other, after.inflightTickets.lookup other =
    if other = ticketRef then none else before.inflightTickets.lookup other
  records : ∀ signature,
    (∀ ticket, before.inflightTickets.lookup ticketRef = some ticket →
      ticket.signature ≠ signature) →
    after.idempotencyRecords.lookup signature = before.idempotencyRecords.lookup signature

theorem lookup_erase_eq (table : Table Bytes InflightTicket) (ticketRef other : Bytes) :
    (table.erase ticketRef).lookup other =
      if other = ticketRef then none else table.lookup other := by
  split
  · rename_i heq
    rw [heq, AList.lookup_erase]
  · rename_i hne
    rw [AList.lookup_erase_ne hne]

theorem ended_of_absent (ticketRef : Bytes)
    (h : controller.inflightTickets.lookup ticketRef = none) :
    Ended ticketRef controller controller where
  inflight other := by
    split
    · rename_i heq
      rw [heq, h]
    · rfl
  records _ _ := rfl

theorem releaseTicket_ended (ticketRef : Bytes) :
    Ended ticketRef controller (controller.releaseTicket ticketRef) := by
  unfold releaseTicket
  split
  · rename_i hnone
    exact ended_of_absent controller ticketRef hnone
  rename_i ticket hticket
  dsimp only
  split
  · exact ⟨lookup_erase_eq _ _, fun _ _ => rfl⟩
  split
  · exact ⟨lookup_erase_eq _ _, fun _ _ => rfl⟩
  · refine ⟨lookup_erase_eq _ _, fun signature hother => ?_⟩
    rw [AList.lookup_erase_ne (Ne.symm (hother ticket hticket))]

theorem recordCompletion_ended (ticketRef : Bytes)
    (result : RuntimeDispatchResult) :
    Ended ticketRef controller (controller.recordCompletion ticketRef result) := by
  unfold recordCompletion
  split
  · rename_i hnone
    exact ended_of_absent controller ticketRef hnone
  rename_i ticket hticket
  refine ⟨lookup_erase_eq _ _, fun signature hother => ?_⟩
  dsimp only
  split
  · rfl
  · rw [AList.lookup_insert_ne (Ne.symm (hother ticket hticket))]

theorem recordCompletion_record (ticketRef : Bytes)
    (result : RuntimeDispatchResult) (ticket : InflightTicket) (record : IdempotencyRecord)
    (hticket : controller.inflightTickets.lookup ticketRef = some ticket)
    (hrecord : controller.idempotencyRecords.lookup ticket.signature = some record) :
    (controller.recordCompletion ticketRef result).idempotencyRecords.lookup ticket.signature =
      some { record with
        completed := true
        inflightTicketRef := none
        replayReceiptRef := some (result.receiptRef.getD (makeReceiptRef ticketRef)) } := by
  unfold recordCompletion
  simp only [hticket, hrecord, AList.lookup_insert]

end AdmissionController

/-! ## The record of a ticket in flight -/

section
variable (signature : Bytes)

/-- The record of the signature names each ticket that is in flight for it. -/
def Accounted (controller : AdmissionController) : Prop :=
  ∀ ticketRef ticket, controller.inflightTickets.lookup ticketRef = some ticket →
    ticket.signature = signature →
    ∃ record, controller.idempotencyRecords.lookup signature = some record ∧
      record.inflightTicketRef = some ticketRef ∧ record.completed = false

/-- There is room, and the request is of the signature of a ticket in flight whose window has
passed. -/
def ReissuesExpired (controller : AdmissionController) : AdmissionCall → Prop
  | .admitRequest request now =>
    buildIdempotencySignature request = signature ∧ controller.limitReached = false ∧
      (∃ entry ∈ controller.inflightTickets.entries, entry.2.signature = signature) ∧
      (controller.idempotencyRecords.lookup signature).any (fun record => record.expiresAt < now)
  | .releaseTicket _ | .recordCompletion _ _ => False

instance instDecidableReissuesExpired (controller : AdmissionController) :
    (call : AdmissionCall) → Decidable (ReissuesExpired signature controller call)
  | .admitRequest _ _ => inferInstanceAs (Decidable (_ ∧ _ ∧ _ ∧ _))
  | .releaseTicket _ | .recordCompletion _ _ => inferInstanceAs (Decidable False)

variable {before : AdmissionController} (controller : AdmissionController)
  {after : AdmissionController} (now : TimePoint)

theorem accounted_ended {ticketRef : Bytes}
    (hended : AdmissionController.Ended ticketRef before after) (h : Accounted signature before) :
    Accounted signature after := by
  intro other ticket hticket hsignature
  rw [hended.inflight] at hticket
  split at hticket
  · cases hticket
  rename_i hne
  obtain ⟨record, hrecord, hinflight, hcompleted⟩ := h other ticket hticket hsignature
  refine ⟨record, ?_, hinflight, hcompleted⟩
  rw [hended.records signature, hrecord]
  intro ended hlookup hsame
  obtain ⟨record', hrecord', hinflight', -⟩ := h ticketRef ended hlookup hsame
  rw [hrecord] at hrecord'
  cases hrecord'
  rw [hinflight] at hinflight'
  exact hne (Option.some.inj hinflight')

theorem accounted_pruned (h : Accounted signature controller) :
    Accounted signature (controller.pruneExpiredRecords now) := by
  intro ticketRef ticket hticket hsignature
  obtain ⟨record, hrecord, hinflight, hcompleted⟩ := h ticketRef ticket hticket hsignature
  refine ⟨record, ?_, hinflight, hcompleted⟩
  exact Table.lookup_keep_of_passes _ _ _ _ hrecord (by simp [hinflight])

theorem accounted_issued (issuedFor : Bytes) (now : TimePoint)
    (h : Accounted signature controller)
    (hfirst : issuedFor = signature →
      ∀ ticketRef ticket, controller.inflightTickets.lookup ticketRef = some ticket →
        ticket.signature ≠ signature) :
    Accounted signature (controller.issued issuedFor now) := by
  intro ticketRef ticket hticket hsignature
  unfold issued at hticket ⊢
  unfold acquireInflightTicket at hticket ⊢
  dsimp only at hticket ⊢
  by_cases hnew : ticketRef = str "ticket-" ++ decimal (controller.ticketCounter + 1).toNat
  · rw [hnew, AList.lookup_insert, Option.some.injEq] at hticket
    subst hticket
    dsimp only at hsignature
    rw [hsignature, AList.lookup_insert]
    exact ⟨_, rfl, by rw [hnew], rfl⟩
  · rw [AList.lookup_insert_ne hnew] at hticket
    have hne : issuedFor ≠ signature := fun heq => hfirst heq ticketRef ticket hticket hsignature
    rw [AList.lookup_insert_ne (Ne.symm hne)]
    exact h ticketRef ticket hticket hsignature

/-- A record that does not answer has no ticket in flight, or its window has passed. -/
theorem expired_of_unanswered
    (h : Accounted signature controller) (ticketRef : Bytes) (ticket : InflightTicket)
    (hticket : controller.inflightTickets.lookup ticketRef = some ticket)
    (hsignature : ticket.signature = signature)
    (hnone : controller.checkIdempotency signature now = none) :
    ∃ record, controller.idempotencyRecords.lookup signature = some record ∧
      record.inflightTicketRef = some ticketRef ∧ record.expiresAt < now := by
  obtain ⟨record, hrecord, hinflight, hcompleted⟩ := h ticketRef ticket hticket hsignature
  refine ⟨record, hrecord, hinflight, ?_⟩
  unfold checkIdempotency at hnone
  by_contra hopen
  simp [hrecord, hopen, hcompleted, hinflight] at hnone

theorem accounted_step (call : AdmissionCall)
    (h : Accounted signature controller) (hcall : ¬ ReissuesExpired signature controller call) :
    Accounted signature (controller.step call).1 := by
  cases call with
  | releaseTicket ticketRef =>
    exact accounted_ended signature (controller.releaseTicket_ended ticketRef) h
  | recordCompletion ticketRef result =>
    exact accounted_ended signature (controller.recordCompletion_ended ticketRef result) h
  | admitRequest request now =>
    have hpruned := accounted_pruned signature controller now h
    unfold step
    dsimp only
    rcases controller.admitRequest_cases request now with
      ⟨-, heq⟩ | ⟨-, heq⟩ | ⟨existing, -, -, heq⟩ | ⟨hroom, -, hnone, heq⟩
    · rw [heq]; exact hpruned
    · rw [heq]; exact hpruned
    · rw [heq]; exact hpruned
    · rw [heq]
      refine accounted_issued signature _ _ now hpruned fun hsame ticketRef ticket hticket hsig => ?_
      rw [hsame] at hnone
      obtain ⟨record, hrecord, -, hexpired⟩ :=
        expired_of_unanswered signature _ now hpruned ticketRef ticket hticket hsig hnone
      have hbefore := Table.lookup_of_lookup_keep _ _ _ _ hrecord
      exact hcall ⟨hsame, hroom, ⟨_, (Table.lookup_eq_some_iff ..).mp hticket, hsig⟩,
        by simp [hbefore, hexpired]⟩

/-! ## The record of a ticket within its window -/

variable (ticketRef : Bytes) (expiresAt : TimePoint) (receipts : Bytes → Prop)

/-- The record names the ticket, or answers with a receipt that the ticket was completed with. -/
def Remembers (controller : AdmissionController) : Prop :=
  ∃ record, controller.idempotencyRecords.lookup signature = some record ∧
    record.expiresAt = expiresAt ∧
    ((record.completed = false ∧ record.inflightTicketRef = some ticketRef) ∨
      (record.completed = true ∧
        ∃ receipt, receipts receipt ∧ record.replayReceiptRef = some receipt))

/-- The ticket is not released, the window is open at every reading of the clock, and the
ticket completes with one of the receipts. -/
def WithinWindow : AdmissionCall → Prop
  | .admitRequest _ now => now ≤ expiresAt
  | .releaseTicket released => released ≠ ticketRef
  | .recordCompletion completed result =>
    completed = ticketRef → receipts (result.receiptRef.getD (makeReceiptRef ticketRef))

variable {signature ticketRef expiresAt receipts controller now}

theorem remembers_pruned (h : Remembers signature ticketRef expiresAt receipts controller)
    (hopen : now ≤ expiresAt) :
    Remembers signature ticketRef expiresAt receipts (controller.pruneExpiredRecords now) := by
  obtain ⟨record, hrecord, hexpires, hstate⟩ := h
  refine ⟨record, ?_, hexpires, hstate⟩
  refine Table.lookup_keep_of_passes _ _ _ _ hrecord ?_
  have hnot : ¬ record.expiresAt < now := not_lt.mpr (hexpires ▸ hopen)
  simp [hnot]

theorem checkIdempotency_remembers (h : Remembers signature ticketRef expiresAt receipts controller)
    (hopen : now ≤ expiresAt) :
    controller.checkIdempotency signature now = some (conflictResult ticketRef) ∨
      ∃ receipt, receipts receipt ∧
        controller.checkIdempotency signature now = some (replayResult (some receipt)) := by
  obtain ⟨record, hrecord, hexpires, hstate⟩ := h
  have hnot : ¬ record.expiresAt < now := not_lt.mpr (hexpires ▸ hopen)
  unfold checkIdempotency
  simp only [hrecord, if_neg hnot]
  rcases hstate with ⟨hcompleted, hinflight⟩ | ⟨hcompleted, receipt, hreceipt, hreplay⟩
  · left
    simp [hcompleted, hinflight]
  · right
    exact ⟨receipt, hreceipt, by simp [hcompleted, hreplay]⟩

/-- A request within the window is answered from the record, or turned away at the limit. -/
theorem admitRequest_remembers (request : RuntimeDispatchRequest)
    (h : Remembers signature ticketRef expiresAt receipts controller) (hopen : now ≤ expiresAt)
    (hsignature : buildIdempotencySignature request = signature) (hne : signature ≠ []) :
    (controller.admitRequest request now).1 = controller.pruneExpiredRecords now ∧
      ((controller.admitRequest request now).2 = concurrencyLimitExceeded ∨
        (controller.admitRequest request now).2 = conflictResult ticketRef ∨
        ∃ receipt, receipts receipt ∧
          (controller.admitRequest request now).2 = replayResult (some receipt)) := by
  have hanswer := checkIdempotency_remembers (remembers_pruned h hopen) hopen
  rcases controller.admitRequest_cases request now with
    ⟨-, heq⟩ | ⟨hempty, -⟩ | ⟨existing, -, hexisting, heq⟩ | ⟨-, -, hnone, -⟩
  · rw [heq]
    exact ⟨rfl, Or.inl rfl⟩
  · exact absurd (hsignature.symm.trans hempty) hne
  · rw [hsignature] at hexisting
    rw [heq]
    refine ⟨rfl, Or.inr ?_⟩
    simpa only [hexisting, Option.some.injEq] using hanswer
  · rw [hsignature] at hnone
    simp [hnone] at hanswer

theorem remembers_ended {ended : Bytes}
    (hended : AdmissionController.Ended ended before after) (hne : ended ≠ ticketRef)
    (haccounted : Accounted signature before)
    (h : Remembers signature ticketRef expiresAt receipts before) :
    Remembers signature ticketRef expiresAt receipts after := by
  obtain ⟨record, hrecord, hexpires, hstate⟩ := h
  refine ⟨record, ?_, hexpires, hstate⟩
  rw [hended.records signature, hrecord]
  intro ticket hticket hsignature
  obtain ⟨record', hrecord', hinflight, hcompleted⟩ := haccounted ended ticket hticket hsignature
  rw [hrecord] at hrecord'
  cases hrecord'
  rcases hstate with ⟨-, hnamed⟩ | ⟨hdone, -⟩
  · rw [hinflight] at hnamed
    exact hne (Option.some.inj hnamed)
  · rw [hcompleted] at hdone
    cases hdone

theorem remembers_completed (result : RuntimeDispatchResult)
    (hreceipt : receipts (result.receiptRef.getD (makeReceiptRef ticketRef)))
    (h : Remembers signature ticketRef expiresAt receipts controller) :
    Remembers signature ticketRef expiresAt receipts
      (controller.recordCompletion ticketRef result) := by
  obtain ⟨record, hrecord, hexpires, hstate⟩ := h
  by_cases hsame : ∃ ticket, controller.inflightTickets.lookup ticketRef = some ticket ∧
      ticket.signature = signature
  · obtain ⟨ticket, hticket, rfl⟩ := hsame
    exact ⟨_, controller.recordCompletion_record ticketRef result ticket record hticket hrecord,
      hexpires, Or.inr ⟨rfl, _, hreceipt, rfl⟩⟩
  · refine ⟨record, ?_, hexpires, hstate⟩
    rw [(controller.recordCompletion_ended ticketRef result).records signature, hrecord]
    exact fun ticket hticket hsignature => hsame ⟨ticket, hticket, hsignature⟩

theorem remembers_step {call : AdmissionCall} (haccounted : Accounted signature controller)
    (hne : signature ≠ []) (h : Remembers signature ticketRef expiresAt receipts controller)
    (hcall : WithinWindow ticketRef expiresAt receipts call) :
    Remembers signature ticketRef expiresAt receipts (controller.step call).1 := by
  cases call with
  | releaseTicket released =>
    exact remembers_ended (controller.releaseTicket_ended released) hcall haccounted h
  | recordCompletion completed result =>
    by_cases hsame : completed = ticketRef
    · subst hsame
      exact remembers_completed result (hcall rfl) h
    · exact remembers_ended (controller.recordCompletion_ended completed result) hsame haccounted h
  | admitRequest request now =>
    have hpruned := remembers_pruned h hcall
    unfold step
    dsimp only
    by_cases hsame : buildIdempotencySignature request = signature
    · rw [(admitRequest_remembers request h hcall hsame hne).1]
      exact hpruned
    rcases controller.admitRequest_cases request now with
      ⟨-, heq⟩ | ⟨-, heq⟩ | ⟨existing, -, -, heq⟩ | ⟨-, -, -, heq⟩
    · rw [heq]; exact hpruned
    · rw [heq]; exact hpruned
    · rw [heq]; exact hpruned
    · rw [heq]
      obtain ⟨record, hrecord, hexpires, hstate⟩ := hpruned
      refine ⟨record, ?_, hexpires, hstate⟩
      unfold issued
      dsimp only
      rw [AList.lookup_insert_ne (Ne.symm hsame), hrecord]

theorem remembers_issued :
    Remembers signature (controller.acquireInflightTicket signature now).2.ticketRef
      (now + milliseconds controller.config.idempotencyWindowMs.toInt) receipts
      (controller.issued signature now) := by
  unfold issued
  exact ⟨_, AList.lookup_insert _, rfl, Or.inl ⟨rfl, rfl⟩⟩

end

/-! ## Runs -/

/-- No two tickets in flight have the signature. -/
def AtMostOneInFlight (signature : Bytes) (controller : AdmissionController) : Prop :=
  ∀ first second ticket ticket', controller.inflightTickets.lookup first = some ticket →
    controller.inflightTickets.lookup second = some ticket' → ticket.signature = signature →
    ticket'.signature = signature → first = second

/-- A conflict on the ticket, or its replay receipt after its completion. -/
def AnsweredFrom (ticketRef : Bytes) (since : List AdmissionCall) (result : AccessAdmissionResult) :
    Prop :=
  result = conflictResult ticketRef ∨
    ∃ completion, .recordCompletion ticketRef completion ∈ since ∧
      result = replayResult (some (completion.receiptRef.getD (makeReceiptRef ticketRef)))

/-- The call does not release the ticket and does not read a clock past its window. -/
def Holds (ticketRef : Bytes) (expiresAt : TimePoint) : AdmissionCall → Prop
  | .admitRequest _ now => now ≤ expiresAt
  | .releaseTicket released => released ≠ ticketRef
  | .recordCompletion _ _ => True

/-- At no time are two tickets of the signature in flight, and after each ticket issued for it
every request of it is answered in the ways allowed, until the ticket is released or the clock
has passed its window. -/
def AtMostOnce (allowed : Bytes → List AdmissionCall → AccessAdmissionResult → Prop)
    (config : AccessAdmissionView) (signature : Bytes) (calls : List AdmissionCall) : Prop :=
  (∀ before after, calls = before ++ after →
    AtMostOneInFlight signature (run AdmissionController.step { config } before).1) ∧
  ∀ before request now since again later after ticketRef,
    calls = before ++ .admitRequest request now :: since ++ .admitRequest again later :: after →
    buildIdempotencySignature request = signature →
    buildIdempotencySignature again = signature →
    ((run AdmissionController.step { config } before).1.admitRequest request now).2 =
      admittedResult ticketRef →
    (∀ call ∈ since ++ [.admitRequest again later],
      Holds ticketRef (now + milliseconds config.idempotencyWindowMs.toInt) call) →
    allowed ticketRef since
      ((run AdmissionController.step { config }
        (before ++ .admitRequest request now :: since)).1.admitRequest again later).2

theorem step_config (controller : AdmissionController) (call : AdmissionCall) :
    (controller.step call).1.config = controller.config := by
  cases call with
  | releaseTicket ticketRef =>
    unfold step releaseTicket
    dsimp only
    split
    · rfl
    split
    · rfl
    split <;> rfl
  | recordCompletion ticketRef result =>
    unfold step recordCompletion
    dsimp only
    split <;> rfl
  | admitRequest request now =>
    unfold step
    dsimp only
    rcases controller.admitRequest_cases request now with
      ⟨-, heq⟩ | ⟨-, heq⟩ | ⟨existing, -, -, heq⟩ | ⟨-, -, -, heq⟩ <;> rw [heq] <;> rfl

theorem run_config (config : AccessAdmissionView) (calls : List AdmissionCall) :
    (run step { config } calls).1.config = config :=
  invariant_run step (fun controller => controller.config = config)
    (fun controller call h => (step_config controller call).trans h) { config } calls rfl

theorem accounted_run (config : AccessAdmissionView) (signature : Bytes)
    (calls : List AdmissionCall)
    (h : AllSteps step
      (fun controller call => ¬ ReissuesExpired signature controller call) { config } calls) :
    Accounted signature (run step { config } calls).1 := by
  refine invariant_of_allSteps step _ (Accounted signature)
    (accounted_step signature) { config } calls ?_ h
  intro ticketRef ticket hticket
  simp at hticket

theorem atMostOneInFlight_of_accounted {signature : Bytes} {controller : AdmissionController}
    (h : Accounted signature controller) : AtMostOneInFlight signature controller := by
  intro first second ticket ticket' hfirst hsecond hsignature hsignature'
  obtain ⟨record, hrecord, hinflight, -⟩ := h first ticket hfirst hsignature
  obtain ⟨record', hrecord', hinflight', -⟩ := h second ticket' hsecond hsignature'
  rw [hrecord] at hrecord'
  cases hrecord'
  rw [hinflight] at hinflight'
  exact Option.some.inj hinflight'

theorem checkIdempotency_not_admitted (controller : AdmissionController) (signature : Bytes)
    (now : TimePoint) (result : AccessAdmissionResult)
    (h : controller.checkIdempotency signature now = some result) : result.admitted = false := by
  unfold checkIdempotency at h
  split at h
  · cases h
  split at h
  · cases h
  split at h
  · cases h
    rfl
  · obtain ⟨ticketRef, -, rfl⟩ := Option.map_eq_some_iff.mp h
    rfl

/-- A request that gets a ticket finds no answer, and leaves the record of its ticket. -/
theorem admitRequest_issued {controller : AdmissionController} {request : RuntimeDispatchRequest}
    {now : TimePoint} {ticketRef : Bytes}
    (h : (controller.admitRequest request now).2 = admittedResult ticketRef)
    (receipts : Bytes → Prop) :
    buildIdempotencySignature request ≠ [] ∧
      Remembers (buildIdempotencySignature request) ticketRef
        (now + milliseconds controller.config.idempotencyWindowMs.toInt) receipts
        (controller.admitRequest request now).1 := by
  rcases controller.admitRequest_cases request now with
    ⟨-, heq⟩ | ⟨-, heq⟩ | ⟨existing, -, hexisting, heq⟩ | ⟨-, hne, -, heq⟩
  · rw [heq] at h
    cases h
  · rw [heq] at h
    cases h
  · have hnot := checkIdempotency_not_admitted _ _ _ _ hexisting
    rw [heq] at h
    rw [show existing = admittedResult ticketRef from h] at hnot
    cases hnot
  · rw [heq] at h ⊢
    have hticket : _ = ticketRef := Option.some.inj (congrArg AccessAdmissionResult.ticketRef h)
    rw [← hticket]
    exact ⟨hne, remembers_issued⟩

/-- A ticket is remembered as long as the calls leave it alone and its window is open. -/
theorem remembers_run {signature ticketRef : Bytes} {expiresAt : TimePoint}
    {receipts : Bytes → Prop} {controller : AdmissionController} {calls : List AdmissionCall}
    (hne : signature ≠ []) (haccounted : Accounted signature controller)
    (hremembers : Remembers signature ticketRef expiresAt receipts controller)
    (hissues : AllSteps step
      (fun controller call => ¬ ReissuesExpired signature controller call) controller calls)
    (hwithin : ∀ call ∈ calls, WithinWindow ticketRef expiresAt receipts call) :
    Accounted signature (run step controller calls).1 ∧
      Remembers signature ticketRef expiresAt receipts
        (run step controller calls).1 := by
  refine invariant_of_allSteps step
    (fun controller call => ¬ ReissuesExpired signature controller call ∧
      WithinWindow ticketRef expiresAt receipts call)
    (fun controller => Accounted signature controller ∧
      Remembers signature ticketRef expiresAt receipts controller) ?_ controller calls
    ⟨haccounted, hremembers⟩ ?_
  · intro controller call hkept hcall
    exact ⟨accounted_step signature controller call hkept.1 hcall.1,
      remembers_step hkept.1 hne hkept.2 hcall.2⟩
  · exact (allSteps_and step ..).mpr
      ⟨hissues, allSteps_of_forall step _ _ _ hwithin⟩

/-- As long as no ticket is issued for the signature while an earlier one is in flight past its
window, at most one is in flight, and it answers every request of the signature that is not
turned away at the limit. -/
theorem at_most_once (config : AccessAdmissionView) (signature : Bytes)
    (calls : List AdmissionCall)
    (h : AllSteps AdmissionController.step
      (fun controller call => ¬ ReissuesExpired signature controller call) { config } calls) :
    AtMostOnce (fun ticketRef since result =>
      result = concurrencyLimitExceeded ∨ AnsweredFrom ticketRef since result)
      config signature calls := by
  constructor
  · rintro before after rfl
    rw [allSteps_append] at h
    exact atMostOneInFlight_of_accounted (accounted_run config signature before h.1)
  rintro before request now since again later after ticketRef rfl hrequest hagain hticket hholds
  rw [List.append_assoc, List.cons_append, allSteps_append] at h
  obtain ⟨hbefore, hadmit, hrest⟩ := h
  have haccounted := accounted_run config signature before hbefore
  set first := (run AdmissionController.step { config } before).1 with hfirst
  set issued := (first.admitRequest request now).1 with hissued
  let receipts receipt := ∃ completion, .recordCompletion ticketRef completion ∈ since ∧
    receipt = completion.receiptRef.getD (makeReceiptRef ticketRef)
  let expiresAt := now + milliseconds config.idempotencyWindowMs.toInt
  obtain ⟨hne, hremembers⟩ := admitRequest_issued hticket receipts
  rw [hrequest, hfirst, run_config] at hremembers
  rw [hrequest] at hne
  rw [allSteps_append] at hrest
  have hwithin : ∀ call ∈ since, WithinWindow ticketRef expiresAt receipts call := by
    intro call hcall
    have hcallHolds := hholds call (List.mem_append_left _ hcall)
    cases call with
    | admitRequest _ _ => exact hcallHolds
    | releaseTicket _ => exact hcallHolds
    | recordCompletion _ completion => exact fun heq => ⟨completion, heq ▸ hcall, rfl⟩
  have hlast := remembers_run hne (accounted_step signature first _ haccounted hadmit) hremembers
    hrest.1 hwithin
  have hopen := hholds _ (List.mem_append_right since List.mem_cons_self)
  rw [run_append, run_cons]
  rcases (admitRequest_remembers again hlast.2 hopen hagain hne).2 with
    hlimit | hconflict | ⟨receipt, ⟨completion, hmem, rfl⟩, hreplay⟩
  · exact Or.inl hlimit
  · exact Or.inr (Or.inl hconflict)
  · exact Or.inr (Or.inr ⟨completion, hmem, hreplay⟩)

/-- A request of the actor and packet that the next two theorems send. -/
def sampleRequest : RuntimeDispatchRequest :=
  { packet := { packetId := str "p" }, subjectIdentity := { actorRef := str "a" } }

theorem at_most_once_completed :
    AtMostOnce (fun ticketRef since result =>
      result = concurrencyLimitExceeded ∨ AnsweredFrom ticketRef since result) {}
      (buildIdempotencySignature sampleRequest)
      [.admitRequest sampleRequest 0, .admitRequest sampleRequest 1,
        .recordCompletion (str "ticket-1") {}, .admitRequest sampleRequest 2] :=
  at_most_once {} (buildIdempotencySignature sampleRequest) _ (by decide +kernel)

/-- At the limit the same request again is turned away, not answered from its ticket. -/
theorem limit_before_record : ¬ ∀ config signature calls,
    AtMostOnce AnsweredFrom config signature calls := by
  intro h
  have hanswer := (h { maxInflightRequests := 1 } (buildIdempotencySignature sampleRequest)
    [.admitRequest sampleRequest 0, .admitRequest sampleRequest 1]).2 [] sampleRequest 0 []
    sampleRequest 1 [] (str "ticket-1") rfl rfl rfl (by decide +kernel)
    (by simp [Holds]; decide)
  rcases hanswer with hconflict | ⟨completion, hmem, -⟩
  · exact absurd hconflict (by decide +kernel)
  · cases hmem

end Dasall.Access
