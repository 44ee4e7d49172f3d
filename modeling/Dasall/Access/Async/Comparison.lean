import Dasall.Access.Async.Ownership
import Mathlib.Data.Nat.Bitwise

/-!
# Comparing tokens

The comparison folds the two lengths into one byte and reads NULs past the end of the shorter
text, so a text also passes for itself with 256 NULs after it.
-/

open Dasall.Lib Dasall.Lib.Text Dasall.Lib.Run

namespace Dasall.Access

open AsyncTaskRegistry

/-- The longer text is the shorter one with 256 NULs after it, or a multiple of that. -/
def Padded (longer shorter : Bytes) : Prop :=
  ∃ blocks, 0 < blocks ∧ longer = shorter ++ List.replicate (256 * blocks) 0

/-! ## The fold -/

theorem foldl_or_eq_zero (f : Nat → UInt8) (indices : List Nat) (start : UInt8) :
    indices.foldl (fun diff index => diff ||| f index) start = 0 ↔
      start = 0 ∧ ∀ index ∈ indices, f index = 0 := by
  induction indices generalizing start with
  | nil => simp
  | cons index indices ih =>
    have hor : start ||| f index = 0 ↔ start = 0 ∧ f index = 0 := by
      simp only [← UInt8.toBitVec_inj, UInt8.toBitVec_or, UInt8.toBitVec_ofNat]
      exact BitVec.or_eq_zero_iff
    rw [List.foldl_cons, ih, hor, List.forall_mem_cons, and_assoc]

theorem constantTimeEquals_comm (lhs rhs : Bytes) :
    constantTimeEquals lhs rhs = constantTimeEquals rhs lhs := by
  unfold constantTimeEquals
  simp only [max_comm lhs.length, Nat.xor_comm lhs.length, UInt8.xor_comm (lhs.getD _ 0)]

/-- The lengths agree up to a multiple of 256. -/
theorem ofNat_xor_eq_zero (m n : Nat) : UInt8.ofNat (m ^^^ n) = 0 ↔ m % 256 = n % 256 := by
  rw [← UInt8.toNat_inj, UInt8.toNat_ofNat', UInt8.toNat_zero, Nat.xor_mod_two_pow,
    Nat.xor_eq_zero_iff]

/-- Every position reads alike where the longer text goes on with NULs. -/
theorem forall_getD_iff (lhs rhs : Bytes) (h : rhs.length ≤ lhs.length) :
    (∀ index < lhs.length, lhs.getD index 0 = rhs.getD index 0) ↔
      lhs = rhs ++ List.replicate (lhs.length - rhs.length) 0 := by
  constructor
  · intro hall
    apply List.ext_getElem
    · simp
      omega
    · intro index hindex _
      have hread := hall index hindex
      rw [List.getD_eq_getElem _ _ hindex] at hread
      rw [hread, List.getElem_append]
      split
      · next hlt => rw [List.getD_eq_getElem _ _ hlt]
      · next hge => rw [List.getElem_replicate, List.getD_eq_default _ _ (by omega)]
  · intro heq index _
    rw [heq, List.getD_eq_getElem?_getD, List.getD_eq_getElem?_getD, List.getElem?_append]
    split
    · rfl
    · next hge =>
      rw [List.getElem?_eq_none (by omega : rhs.length ≤ index), List.getElem?_replicate]
      split <;> rfl

theorem constantTimeEquals_of_le (lhs rhs : Bytes) (h : rhs.length ≤ lhs.length) :
    constantTimeEquals lhs rhs = true ↔ lhs = rhs ∨ Padded lhs rhs := by
  unfold constantTimeEquals
  rw [decide_eq_true_iff, foldl_or_eq_zero, ofNat_xor_eq_zero, max_eq_left h]
  simp only [List.mem_range, UInt8.xor_eq_zero_iff]
  rw [forall_getD_iff lhs rhs h]
  constructor
  · rintro ⟨hlength, heq⟩
    by_cases hsame : lhs.length = rhs.length
    · left
      simpa [hsame] using heq
    · right
      refine ⟨(lhs.length - rhs.length) / 256, by omega, ?_⟩
      rwa [show 256 * ((lhs.length - rhs.length) / 256) = lhs.length - rhs.length from by omega]
  · rintro (rfl | ⟨blocks, -, rfl⟩)
    · simp
    · simp only [List.length_append, List.length_replicate]
      refine ⟨by omega, ?_⟩
      rw [Nat.add_sub_cancel_left]

theorem constantTimeEquals_iff (lhs rhs : Bytes) :
    constantTimeEquals lhs rhs = true ↔ lhs = rhs ∨ Padded lhs rhs ∨ Padded rhs lhs := by
  have hlonger : ∀ {a b : Bytes}, Padded a b → b.length < a.length := by
    rintro a b ⟨blocks, hblocks, rfl⟩
    simp only [List.length_append, List.length_replicate]
    omega
  rcases Nat.le_total rhs.length lhs.length with h | h
  · rw [constantTimeEquals_of_le lhs rhs h]
    refine or_congr_right (or_iff_left fun hpad => ?_).symm
    have := hlonger hpad
    omega
  · rw [constantTimeEquals_comm, constantTimeEquals_of_le rhs lhs h]
    refine or_congr eq_comm (or_iff_right fun hpad => ?_).symm
    have := hlonger hpad
    omega

/-! ## Texts without NULs -/

theorem takeWhile_padded {text : Bytes} (h : 0 ∉ text) (count : Nat) :
    (text ++ List.replicate count 0).takeWhile (· ≠ 0) = text := by
  rw [List.takeWhile_append_of_pos]
  · cases count <;> simp [List.replicate_succ]
  · intro byte hbyte
    simp only [decide_eq_true_eq]
    rintro rfl
    exact h hbyte

/-- Two texts without NULs that compare equal, one of them with NULs after it, are the same. -/
theorem eq_of_compares {lhs rhs : Bytes} (hlhs : 0 ∉ lhs) (hrhs : 0 ∉ rhs) (count : Nat)
    (h : constantTimeEquals lhs (rhs ++ List.replicate count 0) = true) : lhs = rhs := by
  have hfirst := takeWhile_padded hlhs
  have hsecond := takeWhile_padded hrhs
  rcases (constantTimeEquals_iff _ _).mp h with heq | ⟨blocks, -, heq⟩ | ⟨blocks, -, heq⟩
  · rw [← hfirst 0, ← hsecond count, ← heq]
    simp
  · rw [← hfirst 0, ← hsecond (count + 256 * blocks), List.replicate_add, ← List.append_assoc, ← heq]
    simp
  · rw [← hfirst (256 * blocks), ← hsecond count, ← heq]

theorem nul_not_mem_hmac (key message : Bytes) : 0 ∉ hmacSha256Base64url key message := by
  intro hnul
  have halphabet : 0 ∉ Base64Url.alphabet := by decide +kernel
  exact halphabet (Base64Url.encode_alphabet _ 0 hnul)

/-! ## Tokens that a receipt issued -/

/-- The key signed the receipt's token with these times. -/
structure Issued (receipt : AsyncTaskReceipt) (key : OwnershipTokenKey)
    (issuedAtUnixMs expiresAtUnixMs : Int64) : Prop where
  valid : key.isValid = true
  token : receipt.ownershipToken = buildOwnershipToken key receipt.receiptId receipt.actorRef
    receipt.requestId issuedAtUnixMs expiresAtUnixMs

def AllIssued (registry : AsyncTaskRegistry) : Prop :=
  ∀ receiptId stored, registry.receipts.lookup receiptId = some stored →
    ∃ key issuedAtUnixMs expiresAtUnixMs,
      Issued stored.receipt key issuedAtUnixMs expiresAtUnixMs

variable {registry : AsyncTaskRegistry}

theorem allIssued_pruned (h : AllIssued registry) (now : TimePoint) :
    AllIssued (registry.pruneExpiredLocked now).1 := by
  intro receiptId stored hstored
  exact h receiptId stored (Table.lookup_of_lookup_keep _ _ _ _ hstored)

theorem allIssued_erased (h : AllIssued registry)
    (receiptId : Bytes) : AllIssued (registry.eraseExpiredLocked receiptId) := by
  intro other stored hstored
  unfold eraseExpiredLocked at hstored
  by_cases hother : other = receiptId
  · subst hother
    rw [AList.lookup_erase] at hstored
    cases hstored
  · rw [AList.lookup_erase_ne hother] at hstored
    exact h other stored hstored

theorem allIssued_inserted (h : AllIssued registry)
    (receiptId : Bytes) (stored : StoredReceipt)
    (hissued : ∃ key issuedAtUnixMs expiresAtUnixMs,
      Issued stored.receipt key issuedAtUnixMs expiresAtUnixMs) :
    AllIssued { registry with receipts := registry.receipts.insert receiptId stored } := by
  intro other found hfound
  by_cases hother : other = receiptId
  · subst hother
    rw [AList.lookup_insert, Option.some.injEq] at hfound
    exact hfound ▸ hissued
  · rw [AList.lookup_insert_ne hother] at hfound
    exact h other found hfound

theorem allIssued_step (registry : AsyncTaskRegistry) (call : RegistryCall)
    (h : AllIssued registry) : AllIssued (registry.step call).1 := by
  cases call with
  | registerAsyncAccept request result clock =>
    simp only [step, registerAsyncAccept]
    split
    · exact h
    split
    · exact h
    · next hvalid => exact allIssued_inserted h _ _ ⟨registry.currentKey, _, _, by simpa using hvalid, rfl⟩
  | queryReceipt receiptId clock =>
    simp only [step, queryReceipt]
    split
    · exact h
    split
    · exact allIssued_erased h receiptId
    · exact h
  | validateOwnership receiptId actorRef ownershipToken clock =>
    have hpruned := allIssued_pruned h clock.steady
    simp only [step, validateOwnership]
    split
    · exact h
    split
    · exact hpruned
    split
    · exact allIssued_erased hpruned receiptId
    · split <;> exact hpruned
  | markCompleted receiptId taskStatus clock =>
    have hpruned := allIssued_pruned h clock.steady
    simp only [step, markCompleted]
    split
    · exact hpruned
    · next stored hstored =>
      split
      · exact allIssued_erased hpruned receiptId
      · obtain ⟨key, issuedAt, expiresAt, hvalid, htoken⟩ := hpruned receiptId stored hstored
        exact allIssued_inserted hpruned _ _ ⟨key, issuedAt, expiresAt, hvalid, htoken⟩
  | pruneExpired clock => exact allIssued_pruned h clock.steady
  | rotateOwnershipKeys currentKey previousKey => exact h

/-- Every receipt of a registry carries a token that was built for it. -/
theorem allIssued_run (currentKey : OwnershipTokenKey) (previousKey : Option OwnershipTokenKey)
    (receiptTtl : Int64) (calls : List RegistryCall) :
    AllIssued (run step (.make currentKey previousKey receiptTtl) calls).1 := by
  refine invariant_of_allSteps step (fun _ _ => True) AllIssued
    (fun registry call h _ => allIssued_step registry call h) _ calls ?_ (allSteps_true ..)
  intro receiptId stored hstored
  unfold make at hstored
  split at hstored <;> cases hstored

/-! ## Validating -/

/-- What `validate_ownership` asks of the receipt before it looks at the token. -/
structure LiveFor (registry : AsyncTaskRegistry) (receiptId actorRef : Bytes)
    (clock : ClockReadings) (receipt : AsyncTaskReceipt) : Prop where
  held : ∃ taskStatus, registry.receipts.lookup receiptId = some ⟨receipt, taskStatus⟩
  notPruned : clock.steady < receipt.expiresAt
  notExpired : clock.steadyAgain < receipt.expiresAt
  actor : receipt.actorRef = actorRef

theorem validateOwnership_iff (registry : AsyncTaskRegistry)
    (receiptId actorRef ownershipToken : Bytes) (clock : ClockReadings) :
    (registry.validateOwnership receiptId actorRef ownershipToken clock).2 = true ↔
      registry.currentKey.isValid = true ∧ ∃ receipt,
        LiveFor registry receiptId actorRef clock receipt ∧
          registry.tokenMatches receipt ownershipToken clock.unixMs = true := by
  have hpruned : ∀ stored,
      (registry.pruneExpiredLocked clock.steady).1.receipts.lookup receiptId = some stored ↔
        registry.receipts.lookup receiptId = some stored ∧
          clock.steady < stored.receipt.expiresAt := by
    intro stored
    unfold pruneExpiredLocked
    rw [Table.lookup_keep, Option.filter_eq_some_iff]
    simp
  unfold validateOwnership
  cases hvalid : registry.currentKey.isValid
  · simp
  · simp only [Bool.not_true, Bool.false_eq_true, if_false, true_and]
    constructor
    · intro h
      split at h
      · cases h
      next stored hstored =>
      obtain ⟨hheld, hsteady⟩ := (hpruned stored).mp hstored
      split at h
      · cases h
      next hopen =>
      split at h
      · cases h
      next hactor =>
      exact ⟨stored.receipt, ⟨⟨stored.taskStatus, hheld⟩, hsteady, not_le.mp hopen,
        not_not.mp hactor⟩, h⟩
    · rintro ⟨receipt, ⟨⟨taskStatus, hheld⟩, hsteady, hopen, hactor⟩, hmatches⟩
      rw [(hpruned _).mpr ⟨hheld, hsteady⟩]
      dsimp only
      rw [if_neg (not_le.mpr hopen), if_neg (not_not.mpr hactor)]
      exact hmatches

/-- A key that the registry knows under the signer's id gives the issued payload the same
signature, and the times are in order and not over. -/
structure InForce (registry : AsyncTaskRegistry) (receipt : AsyncTaskReceipt) (unixMs : Int64)
    (key : OwnershipTokenKey) (issuedAtUnixMs expiresAtUnixMs : Int64) : Prop where
  issued : Issued receipt key issuedAtUnixMs expiresAtUnixMs
  positive : ¬ issuedAtUnixMs ≤ 0
  ordered : ¬ expiresAtUnixMs < issuedAtUnixMs
  notOver : ¬ expiresAtUnixMs < unixMs
  signs : ∃ signer, registry.signingKey key.keyId = some signer ∧ signer.isValid = true ∧
    hmacSha256Base64url signer.secret (buildTokenPayload key.keyId issuedAtUnixMs expiresAtUnixMs
        receipt.receiptId receipt.actorRef receipt.requestId) =
      hmacSha256Base64url key.secret (buildTokenPayload key.keyId issuedAtUnixMs expiresAtUnixMs
        receipt.receiptId receipt.actorRef receipt.requestId)

/-- The issued token with NULs after it passes exactly while the issued token is in force. -/
theorem tokenMatches_padded {receipt : AsyncTaskReceipt}
    {key : OwnershipTokenKey} {issuedAtUnixMs expiresAtUnixMs : Int64} (unixMs : Int64)
    (hissued : Issued receipt key issuedAtUnixMs expiresAtUnixMs) {token : Bytes}
    (hpad : Padded token receipt.ownershipToken) :
    registry.tokenMatches receipt token unixMs = true ↔
      InForce registry receipt unixMs key issuedAtUnixMs expiresAtUnixMs := by
  have hcompares : constantTimeEquals receipt.ownershipToken token = true :=
    (constantTimeEquals_iff _ _).mpr (.inr (.inr hpad))
  obtain ⟨blocks, hblocks, htoken⟩ := hpad
  set payload := buildTokenPayload key.keyId issuedAtUnixMs expiresAtUnixMs receipt.receiptId
    receipt.actorRef receipt.requestId with hpayload
  have hdot : dot ∉ hmacSha256Base64url key.secret payload ++ List.replicate (256 * blocks) 0 := by
    rw [List.mem_append, not_or]
    exact ⟨dot_not_mem_hmac _ _, fun h => absurd (List.eq_of_mem_replicate h) (by decide)⟩
  have hparsed := parseOwnershipToken_payload key.keyId receipt.receiptId receipt.actorRef
    receipt.requestId _ issuedAtUnixMs expiresAtUnixMs hdot
  have hsplit : payload ++ dot :: (hmacSha256Base64url key.secret payload ++
      List.replicate (256 * blocks) 0) = token := by
    rw [htoken, hissued.token, buildOwnershipToken_eq key hissued.valid, List.append_assoc,
      List.cons_append]
  dsimp only at hparsed
  rw [← hpayload, hsplit] at hparsed
  have hsigns : ∀ signer : OwnershipTokenKey,
      constantTimeEquals (hmacSha256Base64url signer.secret payload)
          (hmacSha256Base64url key.secret payload ++ List.replicate (256 * blocks) 0) = true ↔
        hmacSha256Base64url signer.secret payload = hmacSha256Base64url key.secret payload := by
    intro signer
    refine ⟨eq_of_compares (nul_not_mem_hmac _ _) (nul_not_mem_hmac _ _) _, fun heq => ?_⟩
    exact (constantTimeEquals_iff _ _).mpr (.inr (.inr ⟨blocks, hblocks, by rw [heq]⟩))
  unfold tokenMatches
  rw [hparsed]
  simp only [ne_eq, not_true_eq_false, false_or, hcompares, Bool.and_true]
  constructor
  · intro h
    split at h
    · cases h
    next htimes =>
    simp only [not_or] at htimes
    split at h
    · cases h
    next signer hsigner =>
    split at h
    · cases h
    next hvalid =>
    exact ⟨hissued, htimes.1, htimes.2.1, htimes.2.2, signer, hsigner, by simpa using hvalid,
      (hsigns signer).mp h⟩
  · rintro ⟨-, hpositive, hordered, hnotOver, signer, hsigner, hvalid, hsame⟩
    rw [if_neg (by simp [hpositive, hordered, hnotOver]), hsigner]
    simp only [hvalid, Bool.not_true, Bool.false_eq_true, if_false]
    exact (hsigns signer).mpr hsame

/-- A built token does not end in a NUL. -/
theorem not_padded_issued {receipt : AsyncTaskReceipt} {key : OwnershipTokenKey}
    {issuedAtUnixMs expiresAtUnixMs : Int64}
    (hissued : Issued receipt key issuedAtUnixMs expiresAtUnixMs) (token : Bytes) :
    ¬ Padded receipt.ownershipToken token := by
  rintro ⟨blocks, hblocks, heq⟩
  rw [hissued.token, buildOwnershipToken_eq key hissued.valid] at heq
  have hlast := congrArg List.getLast? heq
  rw [List.getLast?_append_cons, List.getLast?_append, List.getLast?_replicate,
    if_neg (by omega : ¬ 256 * blocks = 0), Option.some_or] at hlast
  rcases List.mem_cons.mp (List.mem_of_getLast? hlast) with h | h
  · exact absurd h (by decide)
  · exact nul_not_mem_hmac _ _ h

/-- Whoever validates holds the very token that the live receipt issued. -/
def ValidatesOnlyIssued (registry : AsyncTaskRegistry) (receiptId actorRef token : Bytes)
    (clock : ClockReadings) : Prop :=
  (registry.validateOwnership receiptId actorRef token clock).2 = true →
    ∃ receipt, LiveFor registry receiptId actorRef clock receipt ∧ token = receipt.ownershipToken

/-- The token of a live receipt, in force, with NULs after it. -/
def PadsLive (registry : AsyncTaskRegistry) (receiptId actorRef token : Bytes)
    (clock : ClockReadings) : Prop :=
  registry.currentKey.isValid = true ∧ ∃ receipt key issuedAtUnixMs expiresAtUnixMs,
    LiveFor registry receiptId actorRef clock receipt ∧
      InForce registry receipt clock.unixMs key issuedAtUnixMs expiresAtUnixMs ∧
        Padded token receipt.ownershipToken

theorem LiveFor.unique {receiptId actorRef : Bytes}
    {clock : ClockReadings} {receipt other : AsyncTaskReceipt}
    (h : LiveFor registry receiptId actorRef clock receipt)
    (hother : LiveFor registry receiptId actorRef clock other) : receipt = other := by
  obtain ⟨taskStatus, hheld⟩ := h.held
  obtain ⟨otherStatus, hotherHeld⟩ := hother.held
  rw [hheld, Option.some.injEq, StoredReceipt.mk.injEq] at hotherHeld
  exact hotherHeld.1

theorem validatesOnlyIssued_iff (hissued : AllIssued registry)
    (receiptId actorRef token : Bytes) (clock : ClockReadings) :
    ValidatesOnlyIssued registry receiptId actorRef token clock ↔
      ¬ PadsLive registry receiptId actorRef token clock := by
  unfold ValidatesOnlyIssued
  rw [validateOwnership_iff]
  constructor
  · rintro h ⟨hvalid, receipt, key, issuedAt, expiresAt, hlive, hforce, hpad⟩
    obtain ⟨other, hother, rfl⟩ :=
      h ⟨hvalid, receipt, hlive, (tokenMatches_padded _ hforce.issued hpad).mpr hforce⟩
    obtain rfl := hlive.unique hother
    exact not_padded_issued hforce.issued _ hpad
  · rintro h ⟨hvalid, receipt, hlive, hmatches⟩
    refine ⟨receipt, hlive, ?_⟩
    obtain ⟨taskStatus, hheld⟩ := hlive.held
    obtain ⟨key, issuedAt, expiresAt, hreceipt⟩ := hissued _ _ hheld
    have hcompares : constantTimeEquals receipt.ownershipToken token = true := by
      unfold tokenMatches at hmatches
      grind
    rcases (constantTimeEquals_iff _ _).mp hcompares with heq | hpad | hpad
    · exact heq.symm
    · exact absurd hpad (not_padded_issued hreceipt _)
    · exact absurd ⟨hvalid, receipt, key, issuedAt, expiresAt, hlive,
        (tokenMatches_padded _ hreceipt hpad).mp hmatches, hpad⟩ h

/-- Comparing is equality, and validating is holding the issued token, exactly apart from the
NULs; and a built token parses back. -/
theorem ownership_tokens_sound (lhs rhs : Bytes) (currentKey : OwnershipTokenKey)
    (previousKey : Option OwnershipTokenKey) (receiptTtl : Int64) (calls : List RegistryCall)
    (receiptId actorRef token : Bytes) (clock : ClockReadings) :
    ((constantTimeEquals lhs rhs = true ↔ lhs = rhs) ↔ ¬ (Padded lhs rhs ∨ Padded rhs lhs)) ∧
    (ValidatesOnlyIssued (run AsyncTaskRegistry.step
        (.make currentKey previousKey receiptTtl) calls).1 receiptId actorRef token clock ↔
      ¬ PadsLive (run AsyncTaskRegistry.step
        (.make currentKey previousKey receiptTtl) calls).1 receiptId actorRef token clock) ∧
    ∀ (keyId receiptId actorRef requestId secret : Bytes) (issuedAtUnixMs expiresAtUnixMs : Int64),
      let payload :=
        buildTokenPayload keyId issuedAtUnixMs expiresAtUnixMs receiptId actorRef requestId
      let signature := hmacSha256Base64url secret payload
      parseOwnershipToken (payload ++ dot :: signature) =
        some
          { version := str "v1", keyId, issuedAtUnixMs, expiresAtUnixMs, receiptId, actorRef,
            requestId, signature, signedPayload := payload } := by
  refine ⟨?_, validatesOnlyIssued_iff (allIssued_run _ _ _ calls) _ _ _ _,
    fun keyId receiptId actorRef requestId secret issuedAt expiresAt =>
      parseOwnershipToken_payload _ _ _ _ _ _ _ (dot_not_mem_hmac _ _)⟩
  have hirrefl : ∀ text, ¬ Padded text text := by
    rintro text ⟨blocks, hblocks, heq⟩
    have hlength := congrArg List.length heq
    simp only [List.length_append, List.length_replicate] at hlength
    omega
  rw [constantTimeEquals_iff]
  constructor
  · intro h hpad
    obtain rfl := h.mp (.inr hpad)
    exact hirrefl _ (or_self_iff.mp hpad)
  · exact fun hpad => or_iff_left hpad

/-- The empty text compares equal to 256 NULs. -/
theorem nuls_compare_equal :
    constantTimeEquals [] (List.replicate (256 * 1) 0) = true ∧
      ([] : Bytes) ≠ List.replicate (256 * 1) 0 := by
  refine ⟨(constantTimeEquals_iff _ _).mpr (.inr (.inr ⟨1, by decide, rfl⟩)), fun heq => ?_⟩
  have hlength := congrArg List.length heq
  rw [List.length_replicate] at hlength
  exact absurd hlength (by decide)

end Dasall.Access
