import Dasall.Access.Async.Token
import Dasall.Access.Types

/-!
# The registry of accepted work

A receipt is stored under an id that the request or the runtime supplies, over whatever was
there. Receipts expire by the steady clock, tokens by the system clock.
-/

open Dasall.Lib Dasall.Lib.Text

namespace Dasall.Access

structure AsyncTaskReceipt where
  receiptId : Bytes
  requestId : Bytes
  sessionId : Bytes
  actorRef : Bytes
  taskRef : Bytes
  expiresAt : TimePoint
  ownershipToken : Bytes
  initialStatus : Option Bytes
deriving DecidableEq

structure StoredReceipt where
  receipt : AsyncTaskReceipt
  taskStatus : Bytes
deriving DecidableEq

inductive QueryStatus
  | found
  | notFound
  | expired
deriving DecidableEq, Repr

structure QueryResult where
  status : QueryStatus
  receipt : Option AsyncTaskReceipt
deriving DecidableEq

/-- What one call reads of the two clocks. A call that prunes reads the steady clock again. -/
structure ClockReadings where
  steady : TimePoint
  steadyAgain : TimePoint
  /-- Milliseconds of the system clock since the epoch. -/
  unixMs : Int64
deriving DecidableEq

structure AsyncTaskRegistry where
  /-- Milliseconds. -/
  receiptTtl : Int64
  receiptTtlPositive : 0 < receiptTtl.toInt
  receipts : Table Bytes StoredReceipt := ∅
  currentKey : OwnershipTokenKey
  previousKey : Option OwnershipTokenKey

def contextOrDefault (request : RuntimeDispatchRequest) (key fallback : Bytes) : Bytes :=
  match request.requestContext.lookup key with
  | none => fallback
  | some value => if value.isEmpty then fallback else value

def buildReceiptId (request : RuntimeDispatchRequest) (result : RuntimeDispatchResult) : Bytes :=
  match result.receiptRef with
  | some receiptRef =>
    if receiptRef.isEmpty then
      str "receipt:" ++ contextOrDefault request (str "request_id") request.packet.packetId
    else receiptRef
  | none => str "receipt:" ++ contextOrDefault request (str "request_id") request.packet.packetId

def constantTimeEquals (lhs rhs : Bytes) : Bool :=
  (List.range (max lhs.length rhs.length)).foldl
      (fun diff index => diff ||| (lhs.getD index 0 ^^^ rhs.getD index 0))
      (UInt8.ofNat (lhs.length ^^^ rhs.length)) = 0

/-- An invalid current key is the empty one, an invalid previous key is none. -/
def normalizedKeys (currentKey : OwnershipTokenKey) (previousKey : Option OwnershipTokenKey) :
    OwnershipTokenKey × Option OwnershipTokenKey :=
  (if currentKey.isValid then currentKey else {}, previousKey.filter (·.isValid))

namespace AsyncTaskRegistry

/-- The constructor: a lifetime that is not positive becomes ten minutes. -/
def make (currentKey : OwnershipTokenKey) (previousKey : Option OwnershipTokenKey)
    (receiptTtl : Int64) : AsyncTaskRegistry :=
  if h : 0 < receiptTtl.toInt then
    { receiptTtl, receiptTtlPositive := h, currentKey := (normalizedKeys currentKey previousKey).1
      previousKey := (normalizedKeys currentKey previousKey).2 }
  else
    { receiptTtl := 600000, receiptTtlPositive := by decide
      currentKey := (normalizedKeys currentKey previousKey).1
      previousKey := (normalizedKeys currentKey previousKey).2 }

def pruneExpiredLocked (registry : AsyncTaskRegistry) (now : TimePoint) :
    AsyncTaskRegistry × Nat :=
  let receipts := registry.receipts.keep fun _ stored => !(stored.receipt.expiresAt ≤ now)
  ({ registry with receipts }, registry.receipts.entries.length - receipts.entries.length)

def eraseExpiredLocked (registry : AsyncTaskRegistry) (receiptId : Bytes) : AsyncTaskRegistry :=
  { registry with receipts := registry.receipts.erase receiptId }

/-- The receipt that `register_async_accept` stores and returns. -/
def issuedReceipt (registry : AsyncTaskRegistry) (request : RuntimeDispatchRequest)
    (result : RuntimeDispatchResult) (clock : ClockReadings) : AsyncTaskReceipt :=
  let receiptId := buildReceiptId request result
  let requestId := contextOrDefault request (str "request_id") request.packet.packetId
  { receiptId
    requestId
    sessionId := contextOrDefault request (str "session_id") (str "session:" ++ requestId)
    actorRef := request.subjectIdentity.actorRef
    taskRef := result.receiptRef.getD (str "task:" ++ requestId)
    expiresAt := clock.steady + milliseconds registry.receiptTtl.toInt
    ownershipToken :=
      buildOwnershipToken registry.currentKey receiptId request.subjectIdentity.actorRef requestId
        clock.unixMs (clock.unixMs + registry.receiptTtl)
    initialStatus := some (str "pending") }

def registerAsyncAccept (registry : AsyncTaskRegistry) (request : RuntimeDispatchRequest)
    (result : RuntimeDispatchResult) (clock : ClockReadings) :
    AsyncTaskRegistry × Option AsyncTaskReceipt :=
  if result.disposition ≠ .acceptedAsync then (registry, none)
  else if !registry.currentKey.isValid then (registry, none)
  else
    let receipt := registry.issuedReceipt request result clock
    ({ registry with
        receipts := registry.receipts.insert receipt.receiptId
          { receipt, taskStatus := str "pending" } },
      some receipt)

def queryReceipt (registry : AsyncTaskRegistry) (receiptId : Bytes) (clock : ClockReadings) :
    AsyncTaskRegistry × QueryResult :=
  match registry.receipts.lookup receiptId with
  | none => (registry, ⟨.notFound, none⟩)
  | some stored =>
    if stored.receipt.expiresAt ≤ clock.steady then
      (registry.eraseExpiredLocked receiptId, ⟨.expired, none⟩)
    else (registry, ⟨.found, some stored.receipt⟩)

/-- The current key, or else the previous one, by the id in the token. -/
def signingKey (registry : AsyncTaskRegistry) (keyId : Bytes) : Option OwnershipTokenKey :=
  if keyId = registry.currentKey.keyId then some registry.currentKey
  else registry.previousKey.filter fun previousKey => keyId = previousKey.keyId

/-- The checks of `validate_ownership` on the token itself. -/
def tokenMatches (registry : AsyncTaskRegistry) (receipt : AsyncTaskReceipt)
    (ownershipToken : Bytes) (unixMs : Int64) : Bool :=
  match parseOwnershipToken ownershipToken with
  | none => false
  | some parsed =>
    if parsed.version ≠ str "v1" ∨ parsed.receiptId ≠ receipt.receiptId ∨
        parsed.actorRef ≠ receipt.actorRef ∨ parsed.requestId ≠ receipt.requestId ∨
        parsed.issuedAtUnixMs ≤ 0 ∨ parsed.expiresAtUnixMs < parsed.issuedAtUnixMs ∨
        parsed.expiresAtUnixMs < unixMs then false
    else
      match registry.signingKey parsed.keyId with
      | none => false
      | some key =>
        if !key.isValid then false
        else
          constantTimeEquals (hmacSha256Base64url key.secret parsed.signedPayload)
              parsed.signature &&
            constantTimeEquals receipt.ownershipToken ownershipToken

def validateOwnership (registry : AsyncTaskRegistry) (receiptId actorRef ownershipToken : Bytes)
    (clock : ClockReadings) : AsyncTaskRegistry × Bool :=
  if !registry.currentKey.isValid then (registry, false)
  else
    let registry := (registry.pruneExpiredLocked clock.steady).1
    match registry.receipts.lookup receiptId with
    | none => (registry, false)
    | some stored =>
      if stored.receipt.expiresAt ≤ clock.steadyAgain then
        (registry.eraseExpiredLocked receiptId, false)
      else if stored.receipt.actorRef ≠ actorRef then (registry, false)
      else (registry, registry.tokenMatches stored.receipt ownershipToken clock.unixMs)

def markCompleted (registry : AsyncTaskRegistry) (receiptId taskStatus : Bytes)
    (clock : ClockReadings) : AsyncTaskRegistry × Bool :=
  let registry := (registry.pruneExpiredLocked clock.steady).1
  match registry.receipts.lookup receiptId with
  | none => (registry, false)
  | some stored =>
    if stored.receipt.expiresAt ≤ clock.steadyAgain then
      (registry.eraseExpiredLocked receiptId, false)
    else
      ({ registry with
          receipts := registry.receipts.insert receiptId
            { receipt := { stored.receipt with initialStatus := some taskStatus }, taskStatus } },
        true)

def rotateOwnershipKeys (registry : AsyncTaskRegistry) (currentKey : OwnershipTokenKey)
    (previousKey : Option OwnershipTokenKey) : AsyncTaskRegistry :=
  { registry with
    currentKey := (normalizedKeys currentKey previousKey).1
    previousKey := (normalizedKeys currentKey previousKey).2 }

end AsyncTaskRegistry

/-! ## Calls -/

inductive RegistryCall
  | registerAsyncAccept (request : RuntimeDispatchRequest) (result : RuntimeDispatchResult)
      (clock : ClockReadings)
  | queryReceipt (receiptId : Bytes) (clock : ClockReadings)
  | validateOwnership (receiptId actorRef ownershipToken : Bytes) (clock : ClockReadings)
  | markCompleted (receiptId taskStatus : Bytes) (clock : ClockReadings)
  | pruneExpired (clock : ClockReadings)
  | rotateOwnershipKeys (currentKey : OwnershipTokenKey) (previousKey : Option OwnershipTokenKey)

inductive RegistryAnswer
  | registered (receipt : Option AsyncTaskReceipt)
  | queried (result : QueryResult)
  | done (yes : Bool)
  | pruned (removed : Nat)
  | rotated
deriving DecidableEq

def AsyncTaskRegistry.step (registry : AsyncTaskRegistry) :
    RegistryCall → AsyncTaskRegistry × RegistryAnswer
  | .registerAsyncAccept request result clock =>
    ((registry.registerAsyncAccept request result clock).1,
      .registered (registry.registerAsyncAccept request result clock).2)
  | .queryReceipt receiptId clock =>
    ((registry.queryReceipt receiptId clock).1, .queried (registry.queryReceipt receiptId clock).2)
  | .validateOwnership receiptId actorRef ownershipToken clock =>
    ((registry.validateOwnership receiptId actorRef ownershipToken clock).1,
      .done (registry.validateOwnership receiptId actorRef ownershipToken clock).2)
  | .markCompleted receiptId taskStatus clock =>
    ((registry.markCompleted receiptId taskStatus clock).1,
      .done (registry.markCompleted receiptId taskStatus clock).2)
  | .pruneExpired clock =>
    ((registry.pruneExpiredLocked clock.steady).1,
      .pruned (registry.pruneExpiredLocked clock.steady).2)
  | .rotateOwnershipKeys currentKey previousKey =>
    (registry.rotateOwnershipKeys currentKey previousKey, .rotated)

end Dasall.Access
