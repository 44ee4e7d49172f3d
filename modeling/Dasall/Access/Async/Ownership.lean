import Dasall.Access.Async.Registry
import Dasall.Lib.Run

/-!
# Receipts belong to their owner

A receipt is found, and its token validates, until it expires, as long as no later registration
builds its id over it, the system clock keeps up with the token, and no two keys share an id.
-/

open Dasall.Lib Dasall.Lib.Text Dasall.Lib.Run

namespace Dasall.Access

open AsyncTaskRegistry

/-- The steady clock has not reached the time at any reading of the call. -/
def ReadsBefore (expiresAt : TimePoint) : RegistryCall → Prop
  | .registerAsyncAccept _ _ clock | .queryReceipt _ clock | .validateOwnership _ _ _ clock
  | .markCompleted _ _ clock | .pruneExpired clock =>
    clock.steady < expiresAt ∧ clock.steadyAgain < expiresAt
  | .rotateOwnershipKeys _ _ => True

/-- The current key is valid, and the previous key has another id or is the same. -/
def KeysApart (registry : AsyncTaskRegistry) : Prop :=
  registry.currentKey.isValid = true ∧
    ∀ previousKey, registry.previousKey = some previousKey →
      previousKey.keyId = registry.currentKey.keyId → previousKey = registry.currentKey

/-- A registration does not build the id of a receipt that has not expired, and reads a system
clock after the epoch and before its end. The owner's validation reads one that has not passed
the expiry in the token, and finds the keys apart. -/
def Undisturbed (registry : AsyncTaskRegistry) : RegistryCall → Prop
  | .registerAsyncAccept request result clock =>
    result.disposition = .acceptedAsync → registry.currentKey.isValid = true →
      (∀ stored, registry.receipts.lookup (buildReceiptId request result) = some stored →
        stored.receipt.expiresAt ≤ clock.steady) ∧
      0 < clock.unixMs.toInt ∧ clock.unixMs.toInt + registry.receiptTtl.toInt < 2 ^ 63
  | .validateOwnership receiptId actorRef ownershipToken clock =>
    ∀ stored, registry.receipts.lookup receiptId = some stored →
      stored.receipt.actorRef = actorRef → stored.receipt.ownershipToken = ownershipToken →
      KeysApart registry ∧
        ∀ parsed, parseOwnershipToken ownershipToken = some parsed →
          clock.unixMs ≤ parsed.expiresAtUnixMs
  | .queryReceipt _ _ | .markCompleted _ _ _ | .pruneExpired _ | .rotateOwnershipKeys _ _ => True

/-- The registry holds the receipt, with whatever status. -/
def Holding (receipt : AsyncTaskReceipt) (registry : AsyncTaskRegistry) : Prop :=
  ∃ initialStatus taskStatus, registry.receipts.lookup receipt.receiptId =
    some { receipt := { receipt with initialStatus }, taskStatus }

/-! ## What a call keeps -/

section
variable {receipt : AsyncTaskReceipt} {registry : AsyncTaskRegistry}
  (h : Holding receipt registry)

include h

theorem holding_pruned (now : TimePoint) (hopen : now < receipt.expiresAt) :
    Holding receipt (registry.pruneExpiredLocked now).1 := by
  obtain ⟨initialStatus, taskStatus, hstored⟩ := h
  exact ⟨initialStatus, taskStatus,
    Table.lookup_keep_of_passes _ _ _ _ hstored (by simpa using hopen)⟩

theorem not_held_of_expired (receiptId : Bytes) (stored : StoredReceipt) (now : TimePoint)
    (hstored : registry.receipts.lookup receiptId = some stored)
    (hexpired : stored.receipt.expiresAt ≤ now) (hopen : now < receipt.expiresAt) :
    receipt.receiptId ≠ receiptId := by
  rintro rfl
  obtain ⟨initialStatus, taskStatus, hheld⟩ := h
  rw [hstored, Option.some.injEq] at hheld
  subst hheld
  exact absurd hopen (not_lt.mpr hexpired)

theorem holding_erased (receiptId : Bytes) (hne : receipt.receiptId ≠ receiptId) :
    Holding receipt (registry.eraseExpiredLocked receiptId) := by
  obtain ⟨initialStatus, taskStatus, hheld⟩ := h
  refine ⟨initialStatus, taskStatus, ?_⟩
  unfold eraseExpiredLocked
  dsimp only
  rw [AList.lookup_erase_ne hne, hheld]

theorem holding_registered (request : RuntimeDispatchRequest) (result : RuntimeDispatchResult)
    (clock : ClockReadings) (hopen : clock.steady < receipt.expiresAt)
    (hcall : Undisturbed registry (.registerAsyncAccept request result clock)) :
    Holding receipt (registry.registerAsyncAccept request result clock).1 := by
  unfold registerAsyncAccept
  split
  · exact h
  rename_i haccepted
  split
  · exact h
  rename_i hvalid
  obtain ⟨hfree, -⟩ := hcall (not_not.mp haccepted) (by simpa using hvalid)
  have hne : receipt.receiptId ≠ buildReceiptId request result := by
    obtain ⟨initialStatus, taskStatus, hheld⟩ := h
    intro hid
    rw [hid] at hheld
    exact absurd hopen (not_lt.mpr (hfree _ hheld))
  obtain ⟨initialStatus, taskStatus, hheld⟩ := h
  refine ⟨initialStatus, taskStatus, ?_⟩
  dsimp only
  exact (AList.lookup_insert_ne hne).trans hheld

theorem holding_queried (receiptId : Bytes) (clock : ClockReadings)
    (hopen : clock.steady < receipt.expiresAt) :
    Holding receipt (registry.queryReceipt receiptId clock).1 := by
  unfold queryReceipt
  split
  · exact h
  rename_i stored hstored
  split
  · rename_i hexpired
    exact holding_erased h receiptId (not_held_of_expired h _ _ _ hstored hexpired hopen)
  · exact h

theorem holding_validated (receiptId actorRef ownershipToken : Bytes) (clock : ClockReadings)
    (hopen : clock.steady < receipt.expiresAt) (hagain : clock.steadyAgain < receipt.expiresAt) :
    Holding receipt (registry.validateOwnership receiptId actorRef ownershipToken clock).1 := by
  unfold validateOwnership
  split
  · exact h
  have hpruned := holding_pruned h clock.steady hopen
  dsimp only
  split
  · exact hpruned
  rename_i stored hstored
  split
  · rename_i hexpired
    exact holding_erased hpruned receiptId
      (not_held_of_expired hpruned _ _ _ hstored hexpired hagain)
  split
  · exact hpruned
  · exact hpruned

theorem holding_marked (receiptId taskStatus : Bytes) (clock : ClockReadings)
    (hopen : clock.steady < receipt.expiresAt) (hagain : clock.steadyAgain < receipt.expiresAt) :
    Holding receipt (registry.markCompleted receiptId taskStatus clock).1 := by
  unfold markCompleted
  have hpruned := holding_pruned h clock.steady hopen
  dsimp only
  split
  · exact hpruned
  rename_i stored hstored
  split
  · rename_i hexpired
    exact holding_erased hpruned receiptId
      (not_held_of_expired hpruned _ _ _ hstored hexpired hagain)
  · obtain ⟨initialStatus, heldStatus, hheld⟩ := hpruned
    by_cases hid : receipt.receiptId = receiptId
    · subst hid
      rw [hstored, Option.some.injEq] at hheld
      subst hheld
      exact ⟨some taskStatus, taskStatus, AList.lookup_insert _⟩
    · exact ⟨initialStatus, heldStatus, (AList.lookup_insert_ne hid).trans hheld⟩

theorem holding_step (call : RegistryCall) (hopen : ReadsBefore receipt.expiresAt call)
    (hcall : Undisturbed registry call) :
    Holding receipt (registry.step call).1 := by
  cases call with
  | registerAsyncAccept request result clock =>
    exact holding_registered h request result clock hopen.1 hcall
  | queryReceipt receiptId clock => exact holding_queried h receiptId clock hopen.1
  | validateOwnership receiptId actorRef ownershipToken clock =>
    exact holding_validated h receiptId actorRef ownershipToken clock hopen.1 hopen.2
  | markCompleted receiptId taskStatus clock =>
    exact holding_marked h receiptId taskStatus clock hopen.1 hopen.2
  | pruneExpired clock => exact holding_pruned h clock.steady hopen.1
  | rotateOwnershipKeys currentKey previousKey => exact h

end

/-! ## The token of a receipt -/

theorem constantTimeEquals_self (text : Bytes) : constantTimeEquals text text = true := by
  have hfold : ∀ indices : List Nat, indices.foldl
      (fun diff index => diff ||| (text.getD index 0 ^^^ text.getD index 0)) (0 : UInt8) = 0 := by
    intro indices
    induction indices with
    | nil => rfl
    | cons index indices ih => rwa [List.foldl_cons, UInt8.xor_self, UInt8.or_self]
  unfold constantTimeEquals
  rw [Nat.xor_self]
  exact decide_eq_true (hfold _)

/-- The receipt carries the token that the key signed for it, with times in order. -/
structure SignedBy (key : OwnershipTokenKey) (receipt : AsyncTaskReceipt)
    (issuedAtUnixMs expiresAtUnixMs : Int64) : Prop where
  valid : key.isValid = true
  token : receipt.ownershipToken = buildOwnershipToken key receipt.receiptId receipt.actorRef
    receipt.requestId issuedAtUnixMs expiresAtUnixMs
  issued : ¬ issuedAtUnixMs ≤ 0
  expires : ¬ expiresAtUnixMs < issuedAtUnixMs

/-- The key is one of the two that the registry validates with. -/
def HasKey (registry : AsyncTaskRegistry) (key : OwnershipTokenKey) : Prop :=
  registry.currentKey = key ∨ registry.previousKey = some key

variable {registry : AsyncTaskRegistry}

theorem signingKey_of_apart {key : OwnershipTokenKey}
    (hapart : KeysApart registry) (hkey : HasKey registry key) :
    registry.signingKey key.keyId = some key := by
  unfold signingKey
  rcases hkey with rfl | hprevious
  · rw [if_pos rfl]
  · split
    · rename_i hid
      rw [hapart.2 key hprevious hid]
    · rw [hprevious]
      simp

theorem tokenMatches_signed {key : OwnershipTokenKey}
    {receipt : AsyncTaskReceipt} {issuedAtUnixMs expiresAtUnixMs unixMs : Int64}
    (hsigned : SignedBy key receipt issuedAtUnixMs expiresAtUnixMs)
    (hkey : registry.signingKey key.keyId = some key) (hopen : ¬ expiresAtUnixMs < unixMs)
    (initialStatus : Option Bytes) :
    registry.tokenMatches { receipt with initialStatus } receipt.ownershipToken unixMs = true := by
  have hparsed := parseOwnershipToken_build key hsigned.valid receipt.receiptId receipt.actorRef
    receipt.requestId issuedAtUnixMs expiresAtUnixMs
  rw [← hsigned.token] at hparsed
  unfold tokenMatches
  rw [hparsed]
  dsimp only
  rw [if_neg (by simp [hsigned.issued, hsigned.expires, hopen]), hkey]
  dsimp only
  rw [hsigned.valid, Bool.not_true, if_neg Bool.false_ne_true, constantTimeEquals_self,
    constantTimeEquals_self]
  rfl

theorem registered_receipt {request : RuntimeDispatchRequest}
    {result : RuntimeDispatchResult} {clock : ClockReadings} {receipt : AsyncTaskReceipt}
    (h : (registry.registerAsyncAccept request result clock).2 = some receipt) :
    result.disposition = .acceptedAsync ∧ registry.currentKey.isValid = true ∧
      receipt = registry.issuedReceipt request result clock ∧
      Holding receipt (registry.registerAsyncAccept request result clock).1 := by
  unfold registerAsyncAccept at h ⊢
  split at h
  · cases h
  rename_i haccepted
  split at h
  · cases h
  rename_i hvalid
  rw [if_neg haccepted, if_neg hvalid]
  obtain rfl := Option.some.inj h
  refine ⟨not_not.mp haccepted, by simpa using hvalid, rfl, _, _, AList.lookup_insert _⟩

/-- Where neither clock reading is out of range, the receipt's token has its times in order. -/
theorem issuedReceipt_signed (request : RuntimeDispatchRequest)
    (result : RuntimeDispatchResult) (clock : ClockReadings)
    (hvalid : registry.currentKey.isValid = true) (hpositive : 0 < clock.unixMs.toInt)
    (hrange : clock.unixMs.toInt + registry.receiptTtl.toInt < 2 ^ 63) :
    SignedBy registry.currentKey (registry.issuedReceipt request result clock) clock.unixMs
      (clock.unixMs + registry.receiptTtl) := by
  have httl := registry.receiptTtlPositive
  have hsum : (clock.unixMs + registry.receiptTtl).toInt =
      clock.unixMs.toInt + registry.receiptTtl.toInt := by
    rw [Int64.toInt_add, Int.bmod_eq_of_le] <;> omega
  refine ⟨hvalid, rfl, ?_, ?_⟩
  · rw [Int64.le_iff_toInt_le]
    exact not_le.mpr hpositive
  · rw [Int64.lt_iff_toInt_lt, hsum]
    omega

/-! ## Runs -/

/-- The owner finds the receipt, and its token validates while its key is current or
previous. -/
def AnswersOwner (receipt : AsyncTaskReceipt) (key : OwnershipTokenKey)
    (registry : AsyncTaskRegistry) : RegistryCall → Prop
  | .queryReceipt receiptId clock => receiptId = receipt.receiptId →
    ∃ found, (registry.queryReceipt receiptId clock).2 = ⟨.found, some found⟩ ∧
      found.receiptId = receipt.receiptId ∧ found.actorRef = receipt.actorRef
  | .validateOwnership receiptId actorRef ownershipToken clock =>
    receiptId = receipt.receiptId → actorRef = receipt.actorRef →
    ownershipToken = receipt.ownershipToken → HasKey registry key →
    (registry.validateOwnership receiptId actorRef ownershipToken clock).2 = true
  | .registerAsyncAccept _ _ _ | .markCompleted _ _ _ | .pruneExpired _
  | .rotateOwnershipKeys _ _ => True

/-- Every receipt that the run returns answers to its owner until it expires. -/
def OwnedUntilExpiry (registry : AsyncTaskRegistry) (calls : List RegistryCall) : Prop :=
  ∀ before request result clock since call after receipt,
    calls = before ++ .registerAsyncAccept request result clock :: (since ++ call :: after) →
    ((run AsyncTaskRegistry.step registry before).1.registerAsyncAccept request result clock).2 =
      some receipt →
    (∀ other ∈ since ++ [call], ReadsBefore receipt.expiresAt other) →
    receipt.actorRef = request.subjectIdentity.actorRef ∧
    AnswersOwner receipt (run AsyncTaskRegistry.step registry before).1.currentKey
      (run AsyncTaskRegistry.step registry
        (before ++ .registerAsyncAccept request result clock :: since)).1 call

theorem answersOwner_of_holding {receipt : AsyncTaskReceipt} {key : OwnershipTokenKey}
    {registry : AsyncTaskRegistry} {issuedAtUnixMs expiresAtUnixMs : Int64} {call : RegistryCall}
    (h : Holding receipt registry) (hsigned : SignedBy key receipt issuedAtUnixMs expiresAtUnixMs)
    (hopen : ReadsBefore receipt.expiresAt call) (hcall : Undisturbed registry call) :
    AnswersOwner receipt key registry call := by
  cases call with
  | queryReceipt receiptId clock =>
    rintro rfl
    obtain ⟨initialStatus, taskStatus, hheld⟩ := h
    refine ⟨{ receipt with initialStatus }, ?_, rfl, rfl⟩
    unfold queryReceipt
    rw [hheld]
    dsimp only
    rw [if_neg (not_le.mpr hopen.1)]
  | validateOwnership receiptId actorRef ownershipToken clock =>
    rintro rfl rfl rfl hkey
    have hpruned := holding_pruned h clock.steady hopen.1
    obtain ⟨initialStatus, taskStatus, hheld⟩ := h
    obtain ⟨hapart, htime⟩ := hcall _ hheld rfl rfl
    obtain ⟨prunedStatus, prunedTask, hprunedHeld⟩ := hpruned
    have hparsed := parseOwnershipToken_build key hsigned.valid receipt.receiptId receipt.actorRef
      receipt.requestId issuedAtUnixMs expiresAtUnixMs
    rw [← hsigned.token] at hparsed
    have hclock : ¬ expiresAtUnixMs < clock.unixMs := Int64.not_lt.mpr (htime _ hparsed)
    unfold validateOwnership
    rw [hapart.1, Bool.not_true, if_neg Bool.false_ne_true]
    dsimp only
    rw [hprunedHeld]
    dsimp only
    rw [if_neg (not_le.mpr hopen.2), if_neg (not_not.mpr rfl)]
    exact tokenMatches_signed hsigned (signingKey_of_apart hapart hkey) hclock prunedStatus
  | _ => trivial

def sampleRegistry : AsyncTaskRegistry :=
  AsyncTaskRegistry.make { keyId := str "k", secret := str "s" } none 1000

def requestOf (actorRef : Bytes) : RuntimeDispatchRequest := { subjectIdentity := { actorRef } }

/-- The runtime took the work under the reference `r`. -/
def acceptedAsR : RuntimeDispatchResult :=
  { disposition := .acceptedAsync, receiptRef := some (str "r") }

def sampleClock : ClockReadings := { steady := 0, steadyAgain := 0, unixMs := 1 }

end Dasall.Access
