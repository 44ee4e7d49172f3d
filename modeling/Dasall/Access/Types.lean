import Dasall.Lib.Table
import Dasall.Lib.Text

/-!
# The types of the access layer

What the admission of a request and the receipts of accepted work read of them.
-/

open Dasall.Lib Dasall.Lib.Text

namespace Dasall.Access

/-- A reading of the steady clock, in nanoseconds. -/
abbrev TimePoint := Int

/-- `std::chrono::milliseconds`, in nanoseconds. -/
def milliseconds (count : Int) : TimePoint := count * 1000000

inductive AccessDisposition
  | rejected
  | completed
  | acceptedAsync
  | streamAttached
deriving DecidableEq, Repr

structure InboundPacket where
  packetId : Bytes := []
  entryType : Bytes := []
  protocolKind : Bytes := []
deriving DecidableEq

structure SubjectIdentity where
  actorRef : Bytes := []
deriving DecidableEq

structure RuntimeDispatchRequest where
  packet : InboundPacket := {}
  subjectIdentity : SubjectIdentity := {}
  requestContext : Table Bytes Bytes := ∅

structure RuntimeDispatchResult where
  disposition : AccessDisposition := .rejected
  receiptRef : Option Bytes := none
deriving DecidableEq

structure AccessAdmissionResult where
  admitted : Bool := false
  replayHit : Bool := false
  conflictHit : Bool := false
  ticketRef : Option Bytes := none
  replayReceiptRef : Option Bytes := none
  rejectReason : Option Bytes := none
  challengeHint : Option Bytes := none
deriving DecidableEq

/-- The part of an `AccessAdmissionView` that admission reads. -/
structure AccessAdmissionView where
  idempotencyWindowMs : Int32 := 300000
  maxInflightRequests : Int32 := 256
deriving DecidableEq

end Dasall.Access
