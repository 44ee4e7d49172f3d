import Dasall.Infra.Secret.Rotations
import Dasall.Lib.Run

/-!
# The account of rotations

A rotation that defers the revocation of the previous version owes it until the backend confirms it.
The account of a run says what is owed and which epochs the backend was offered. The coordinator keeps
one record a secret, which holds what is owed as long as no rotation overwrites it.
-/

open Dasall.Lib Dasall.Lib.Run Dasall.Lib.Text

namespace Dasall.Infra.Secret

open SecretRotationCoordinator

/-! ## The account -/

open BackendCall

def BackendCall.offered : BackendCall → Option (Bytes × UInt64)
  | .promote request _ => some (request.secretName, request.rotationEpoch)
  | .revoke .. => none

def BackendCall.confirmed : BackendCall → Option (Bytes × Bytes)
  | .revoke secretName version true => some (secretName, version)
  | _ => none

def BackendCall.isRefused : BackendCall → Bool
  | .promote _ rotated => !rotated
  | .revoke .. => false

/-- The revocation that a rotation defers: its promotion was accepted, and the result is a success
that can be rolled back. -/
def RotationOutcome.deferral (outcome : RotationOutcome) : Option (Bytes × Bytes) :=
  match outcome.result with
  | none => none
  | some result =>
    if result.rotated && result.rollbackReady && outcome.calls ≠ [] then
      some (result.secretName, result.previousVersion)
    else none

structure RotationAccount where
  /-- The versions whose revocation was deferred, and not confirmed since. -/
  owed : List (Bytes × Bytes) := []
  /-- The epochs that the backend was offered promotions at. -/
  offered : List (Bytes × UInt64) := []
  /-- The secrets whose last promotion the backend refused, and no candidate of which the validator
  rejected since. -/
  behind : List Bytes := []

open RotationAccount

def RotationAccount.observe (account : RotationAccount) (coordinator : SecretRotationCoordinator)
    (call : RotationCall) (outcome : RotationOutcome) : RotationAccount :=
  let confirmed := outcome.calls.filterMap (·.confirmed)
  let kept := account.owed.filter fun pair => pair ∉ confirmed
  { owed := match outcome.deferral with
      | some pair => kept.insert pair
      | none => kept
    offered := account.offered ++ outcome.calls.filterMap (·.offered)
    behind :=
      if outcome.calls.any (·.isRefused) then call.request.secretName :: account.behind
      else if outcome.calls ≠ [] || coordinator.rejects call then
        account.behind.filter (· ≠ call.request.secretName)
      else account.behind }

/-- The coordinator, with the account beside it. -/
def rotationStep (s : SecretRotationCoordinator × RotationAccount) (call : RotationCall) :
    (SecretRotationCoordinator × RotationAccount) × RotationOutcome :=
  let outcome := s.1.rotate call.request call.answers
  ((outcome.coordinator, s.2.observe s.1 call outcome), outcome)

/-! ## The condition -/

/-- The backend reports no numeric version that is out of the range of `unsigned long long`. -/
def readsVersion (coordinator : SecretRotationCoordinator) (call : RotationCall) : Bool :=
  !coordinator.reachesVersion call.request call.answers ||
    !isNumericVersion call.answers.fetched.record.version ||
    digitsValue call.answers.fetched.record.version.tail < 2 ^ 64

/-- Where a revocation of the secret is pending, no candidate is rejected, and none is promoted
but over the pending version itself, whose revocation is then confirmed or deferred again. -/
def settlesPending (coordinator : SecretRotationCoordinator) (call : RotationCall) : Bool :=
  (coordinator.rotationStates.lookup call.request.secretName).all fun state =>
    !state.revokePending ||
      !coordinator.rejects call &&
        (!(coordinator.promotes call && call.answers.promoted.rotated) ||
          call.answers.fetched.record.version = state.previousVersion &&
            (coordinator.defersRevoke call.request || call.answers.revoked.ok))

/-- No promotion is offered right after one that the backend refused, and none is rolled back at the
last epoch there is. -/
def advancesEpoch (coordinator : SecretRotationCoordinator) (account : RotationAccount)
    (call : RotationCall) : Bool :=
  !coordinator.promotes call ||
    !account.behind.contains call.request.secretName &&
      (!call.answers.promoted.rotated || coordinator.defersRevoke call.request ||
        call.answers.revoked.ok ||
        coordinator.nextRotationEpochFor call.request.secretName ≠ 18446744073709551615)

def Undisturbed (s : SecretRotationCoordinator × RotationAccount) (call : RotationCall) : Prop :=
  readsVersion s.1 call = true ∧ settlesPending s.1 call = true ∧ advancesEpoch s.1 s.2 call = true

instance (s : SecretRotationCoordinator × RotationAccount) (call : RotationCall) :
    Decidable (Undisturbed s call) :=
  inferInstanceAs (Decidable (_ ∧ _))

/-! ## The obligations -/

/-- What is owed is recorded as pending, each version once. -/
structure Remembered (coordinator : SecretRotationCoordinator) (account : RotationAccount) : Prop where
  recorded : ∀ secretName version, (secretName, version) ∈ account.owed →
    ∃ state, coordinator.rotationStates.lookup secretName = some state ∧
      state.revokePending = true ∧ state.previousVersion = version
  nodup : account.owed.Nodup

variable (account : RotationAccount)

theorem observe_idle (coordinator next : SecretRotationCoordinator)
    (call : RotationCall) (result : Option RotationResult)
    (hrejects : coordinator.rejects call = false) :
    account.observe coordinator call { coordinator := next, result } = account := by
  rcases result with _ | result
  · simp [observe, RotationOutcome.deferral, hrejects]
  · simp [observe, RotationOutcome.deferral, hrejects]

theorem mem_observe_owed (coordinator : SecretRotationCoordinator)
    (call : RotationCall) (outcome : RotationOutcome) (pair : Bytes × Bytes) :
    pair ∈ (account.observe coordinator call outcome).owed ↔
      (pair ∈ account.owed ∧ pair ∉ outcome.calls.filterMap (·.confirmed)) ∨
        outcome.deferral = some pair := by
  unfold observe
  rcases hdeferral : outcome.deferral with _ | deferred
  · simp
  · simp [or_comm, eq_comm]

theorem nodup_observe_owed (coordinator : SecretRotationCoordinator)
    (call : RotationCall) (outcome : RotationOutcome) (h : account.owed.Nodup) :
    (account.observe coordinator call outcome).owed.Nodup := by
  have hkept := h.filter fun pair => decide (pair ∉ outcome.calls.filterMap (·.confirmed))
  unfold observe
  rcases outcome.deferral with _ | deferred
  · exact hkept
  · exact hkept.insert

section
variable {coordinator : SecretRotationCoordinator} {account : RotationAccount}

theorem Remembered.settled (h : Remembered coordinator account) (call : RotationCall)
    (hsettles : settlesPending coordinator call = true) (version : Bytes)
    (howed : (call.request.secretName, version) ∈ account.owed) :
    coordinator.rejects call = false ∧
      (coordinator.promotes call = true → call.answers.promoted.rotated = true →
        call.answers.fetched.record.version = version ∧
          (coordinator.defersRevoke call.request = true ∨ call.answers.revoked.ok = true)) := by
  obtain ⟨state, hlookup, hpending, hversion⟩ := h.recorded _ _ howed
  unfold settlesPending at hsettles
  rw [hlookup] at hsettles
  simp only [Option.all_some, hpending, Bool.not_true, Bool.false_or, Bool.and_eq_true,
    Bool.not_eq_true', Bool.or_eq_true, Bool.and_eq_false_iff, decide_eq_true_eq] at hsettles
  obtain ⟨hrejects, hkept⟩ := hsettles
  refine ⟨hrejects, fun hpromotes hrotated => ?_⟩
  rcases hkept with hno | ⟨hsame, hanswer⟩
  · simp [hpromotes, hrotated] at hno
  · exact ⟨hsame.trans hversion, hanswer⟩

theorem Remembered.recordState (h : Remembered coordinator account)
    (next : SecretRotationCoordinator) (secretName : Bytes) (state : RotationState)
    (hstates : next.rotationStates = coordinator.rotationStates.insert secretName state)
    (account' : RotationAccount) (hnodup : account'.owed.Nodup)
    (howed : ∀ pair ∈ account'.owed, pair.1 ≠ secretName ∧ pair ∈ account.owed ∨
      pair.1 = secretName ∧ state.revokePending = true ∧ state.previousVersion = pair.2) :
    Remembered next account' := by
  refine ⟨fun name version hpair => ?_, hnodup⟩
  rw [hstates]
  rcases howed _ hpair with ⟨hother, hold⟩ | ⟨rfl, hpending, hversion⟩
  · obtain ⟨old, hlookup, hold⟩ := h.recorded _ _ hold
    exact ⟨old, (AList.lookup_insert_ne hother).trans hlookup, hold⟩
  · exact ⟨state, AList.lookup_insert _, hpending, hversion⟩

theorem remembered_step (h : Remembered coordinator account) (call : RotationCall)
    (hsettles : settlesPending coordinator call = true) (outcome : RotationOutcome)
    (hrotation : coordinator.Rotation call outcome) :
    Remembered outcome.coordinator (account.observe coordinator call outcome) := by
  have hsettled := h.settled call hsettles
  have hnodup := nodup_observe_owed account coordinator call outcome h.nodup
  have howed := mem_observe_owed account coordinator call outcome
  rcases hrotation with ⟨next, result, hrejects, hpromotes, hstates, -, -⟩ | ⟨-, hderive⟩ |
    ⟨next, result, state, hrejects, hstates, -, -, -⟩ |
    ⟨next, candidateVersion, hpromotes, hrotated, hstates, -⟩ |
    ⟨next, candidateVersion, result, state, hpromotes, hrotated, hdefers, hstates, -, -, hresult,
      hstate⟩ |
    ⟨next, candidateVersion, result, state, hpromotes, hrotated, hdefers, hrevoked, hstates, -, -,
      hresult, -⟩ |
    ⟨next, candidateVersion, result, state, back, hback, hpromotes, hrotated, hdefers, hrevoked,
      hstates, -, -, hresult, -⟩
  · rw [observe_idle account coordinator next call _ hrejects]
    exact ⟨hstates ▸ h.recorded, h.nodup⟩
  · rw [observe_idle account coordinator _ call _ (by
      simp [rejects, decides, hderive])]
    exact h
  · refine h.recordState next _ state hstates _ hnodup fun pair hpair => ?_
    have hold : pair ∈ account.owed := by simpa [RotationOutcome.deferral] using (howed pair).mp hpair
    refine Or.inl ⟨?_, hold⟩
    rintro hsecret
    have hno := (hsettled pair.2 (hsecret ▸ hold)).1
    rw [hrejects] at hno
    cases hno
  · refine ⟨fun secretName version hpair => ?_, hnodup⟩
    have hold : (secretName, version) ∈ account.owed := by
      simpa [RotationOutcome.deferral, hrotated, confirmed] using (howed _).mp hpair
    rw [hstates]
    exact h.recorded _ _ hold
  · obtain ⟨hsuccess, hready, hname, hprevious⟩ := hresult
    refine h.recordState next _ state hstates _ hnodup fun pair hpair => ?_
    have hcases : pair ∈ account.owed ∨
        (call.request.secretName, call.answers.fetched.record.version) = pair := by
      simpa [RotationOutcome.deferral, hsuccess, hready, hname, hprevious, confirmed]
        using (howed pair).mp hpair
    rcases hcases with hold | rfl
    · by_cases hsecret : pair.1 = call.request.secretName
      · have hsame := (hsettled pair.2 (hsecret ▸ hold)).2 hpromotes hrotated
        exact Or.inr ⟨hsecret, hstate.1, hstate.2.1.trans hsame.1⟩
      · exact Or.inl ⟨hsecret, hold⟩
    · exact Or.inr ⟨rfl, hstate.1, hstate.2.1⟩
  · refine h.recordState next _ state hstates _ hnodup fun pair hpair => ?_
    have hcases : pair ∈ account.owed ∧
        pair ≠ (call.request.secretName, call.answers.fetched.record.version) := by
      simpa [RotationOutcome.deferral, hresult, confirmed] using (howed pair).mp hpair
    obtain ⟨hold, hother⟩ := hcases
    refine Or.inl ⟨?_, hold⟩
    rintro hsecret
    have hsame := (hsettled pair.2 (hsecret ▸ hold)).2 hpromotes hrotated
    exact hother (Prod.ext hsecret hsame.1.symm)
  · refine h.recordState next _ state hstates _ hnodup fun pair hpair => ?_
    have hold : pair ∈ account.owed := by
      simpa [RotationOutcome.deferral, hresult, confirmed] using (howed pair).mp hpair
    refine Or.inl ⟨?_, hold⟩
    rintro hsecret
    have hsame := (hsettled pair.2 (hsecret ▸ hold)).2 hpromotes hrotated
    rw [hdefers, hrevoked] at hsame
    simp at hsame

end

/-!
## The epochs of promotions

An epoch is used up when a rotation records it. A promotion that the backend refuses records none,
and neither does a rollback that it refuses.
-/

/-! ## Epochs and levels -/

/-- The epochs that promotions of a secret were offered at, in order. -/
def epochsOf (secretName : Bytes) (offered : List (Bytes × UInt64)) : List UInt64 :=
  (offered.filter (·.1 = secretName)).map (·.2)

theorem mem_epochsOf (secretName : Bytes) (offered : List (Bytes × UInt64)) (epoch : UInt64) :
    epoch ∈ epochsOf secretName offered ↔ (secretName, epoch) ∈ offered := by
  unfold epochsOf
  simp

/-- The last epoch that the record of a secret uses up. -/
def level (coordinator : SecretRotationCoordinator) (secretName : Bytes) : Nat :=
  match coordinator.rotationStates.lookup secretName with
  | none => coordinator.options.initialRotationEpoch.toNat
  | some state => max coordinator.options.initialRotationEpoch.toNat state.rotationEpoch.toNat

variable (coordinator : SecretRotationCoordinator)

theorem nextRotationEpoch_toNat (secretName : Bytes) :
    (coordinator.nextRotationEpochFor secretName).toNat =
      (level coordinator secretName + 1) % 2 ^ 64 := by
  unfold nextRotationEpochFor level
  rcases coordinator.rotationStates.lookup secretName with _ | state
  · exact UInt64.toNat_add _ _
  · dsimp only
    split
    · next hless =>
      rw [UInt64.lt_iff_toNat_lt] at hless
      rw [UInt64.toNat_add, max_eq_left hless.le]
      rfl
    · next hnot =>
      rw [UInt64.lt_iff_toNat_lt] at hnot
      rw [UInt64.toNat_add, max_eq_right (by omega)]
      rfl

variable (call : RotationCall)

theorem promotes_next
    (hdecides : coordinator.decides call = true) :
    (coordinator.nextRotationEpochFor call.request.secretName).toNat =
      level coordinator call.request.secretName + 1 := by
  unfold decides at hdecides
  simp only [Bool.and_eq_true, Option.any_eq_true] at hdecides
  obtain ⟨⟨-, candidateVersion, -, hcontext⟩, -⟩ := hdecides
  unfold SecretRotationValidationContext.isValid at hcontext
  simp only [Bool.and_eq_true, decide_eq_true_eq] at hcontext
  have hpositive : 0 < coordinator.nextRotationEpochFor call.request.secretName := hcontext.1.2
  rw [UInt64.lt_iff_toNat_lt, nextRotationEpoch_toNat] at hpositive
  rw [nextRotationEpoch_toNat]
  have hlevel : level coordinator call.request.secretName < 2 ^ 64 := by
    unfold level
    split
    · exact UInt64.toNat_lt _
    · exact max_lt (UInt64.toNat_lt _) (UInt64.toNat_lt _)
  have hzero : UInt64.toNat 0 = 0 := rfl
  omega

theorem level_recordState_self (coordinator next : SecretRotationCoordinator) (secretName : Bytes)
    (state : RotationState) (hoptions : next.options = coordinator.options)
    (hstates : next.rotationStates = coordinator.rotationStates.insert secretName state) :
    level next secretName =
      max coordinator.options.initialRotationEpoch.toNat state.rotationEpoch.toNat := by
  unfold level
  rw [hstates, AList.lookup_insert, hoptions]

theorem level_recordState_other (coordinator next : SecretRotationCoordinator)
    (secretName other : Bytes) (state : RotationState) (hne : other ≠ secretName)
    (hoptions : next.options = coordinator.options)
    (hstates : next.rotationStates = coordinator.rotationStates.insert secretName state) :
    level next other = level coordinator other := by
  unfold level
  rw [hstates, AList.lookup_insert_ne hne, hoptions]

structure EpochsAdvance (coordinator : SecretRotationCoordinator) (account : RotationAccount) :
    Prop where
  bounded : ∀ secretName epoch, (secretName, epoch) ∈ account.offered →
    epoch.toNat ≤ level coordinator secretName + 1
  caughtUp : ∀ secretName epoch, (secretName, epoch) ∈ account.offered →
    secretName ∉ account.behind → epoch.toNat ≤ level coordinator secretName
  increasing : ∀ secretName, (epochsOf secretName account.offered).Pairwise (· < ·)

theorem EpochsAdvance.extend {coordinator next : SecretRotationCoordinator}
    {account account' : RotationAccount} (h : EpochsAdvance coordinator account)
    (secretName : Bytes) (epochs : List UInt64)
    (hother : ∀ other, other ≠ secretName → level next other = level coordinator other)
    (hbehind : ∀ other, other ≠ secretName → (other ∈ account'.behind ↔ other ∈ account.behind))
    (hoffered : account'.offered = account.offered ++ epochs.map fun epoch => (secretName, epoch))
    (hpairwise : epochs.Pairwise (· < ·))
    (habove : ∀ epoch ∈ epochs, ∀ old, (secretName, old) ∈ account.offered → old < epoch)
    (hbounded : ∀ epoch, (secretName, epoch) ∈ account.offered ∨ epoch ∈ epochs →
      epoch.toNat ≤ level next secretName + 1)
    (hcaughtUp : secretName ∉ account'.behind →
      ∀ epoch, (secretName, epoch) ∈ account.offered ∨ epoch ∈ epochs →
        epoch.toNat ≤ level next secretName) : EpochsAdvance next account' := by
  have hmem : ∀ other epoch, (other, epoch) ∈ account'.offered ↔
      (other, epoch) ∈ account.offered ∨ other = secretName ∧ epoch ∈ epochs := by
    intro other epoch
    rw [hoffered, List.mem_append, List.mem_map]
    simp [eq_comm, and_comm]
  refine ⟨fun other epoch hmember => ?_, fun other epoch hmember hnot => ?_, fun other => ?_⟩
  · by_cases hsame : other = secretName
    · subst hsame
      exact hbounded epoch (((hmem _ _).mp hmember).imp_right And.right)
    · rw [hother other hsame]
      rcases (hmem _ _).mp hmember with hold | ⟨hself, -⟩
      · exact h.bounded other epoch hold
      · exact absurd hself hsame
  · by_cases hsame : other = secretName
    · subst hsame
      exact hcaughtUp hnot epoch (((hmem _ _).mp hmember).imp_right And.right)
    · rw [hother other hsame]
      rcases (hmem _ _).mp hmember with hold | ⟨hself, -⟩
      · exact h.caughtUp other epoch hold ((hbehind other hsame).not.mp hnot)
      · exact absurd hself hsame
  · unfold epochsOf
    rw [hoffered, List.filter_append, List.map_append]
    by_cases hsame : other = secretName
    · subst hsame
      have hnew : ((epochs.map fun epoch => (other, epoch)).filter (·.1 = other)).map (·.2) =
          epochs := by
        rw [List.filter_eq_self.mpr (by simp), List.map_map]
        exact List.map_id epochs
      rw [hnew]
      refine List.pairwise_append.mpr ⟨h.increasing other, hpairwise, fun old hold epoch hepoch => ?_⟩
      exact habove epoch hepoch old ((mem_epochsOf ..).mp hold)
    · have hnone : (epochs.map fun epoch => (secretName, epoch)).filter (·.1 = other) = [] := by
        rw [List.filter_eq_nil_iff]
        simp [Ne.symm hsame]
      rw [hnone, List.map_nil, List.append_nil]
      exact h.increasing other

theorem initial_le_level (secretName : Bytes) :
    coordinator.options.initialRotationEpoch.toNat ≤ level coordinator secretName := by
  unfold level
  split
  · exact le_rfl
  · exact le_max_left _ _

/-- The promotion back is offered at the epoch after the one that is rolled back. -/
theorem rollbackPromotion_toNat
    (candidateVersion : Bytes) (hdecides : coordinator.decides call = true)
    (hroom : coordinator.nextRotationEpochFor call.request.secretName ≠ 18446744073709551615) :
    (coordinator.rollbackPromotion call candidateVersion).rotationEpoch.toNat =
      level coordinator call.request.secretName + 2 := by
  have hnext := promotes_next coordinator call hdecides
  have hinitial := initial_le_level coordinator call.request.secretName
  have hlast : (coordinator.nextRotationEpochFor call.request.secretName).toNat ≠
      18446744073709551615 := fun h => hroom (UInt64.toNat_inj.mp h)
  have hrange := (coordinator.nextRotationEpochFor call.request.secretName).toNat_lt
  have hone : UInt64.toNat 1 = 1 := rfl
  have hsucc : (coordinator.nextRotationEpochFor call.request.secretName + 1).toNat =
      level coordinator call.request.secretName + 2 := by
    rw [UInt64.toNat_add, hone]
    omega
  have hstart : (coordinator.options.initialRotationEpoch + 1).toNat ≤
      level coordinator call.request.secretName + 2 := by
    rw [UInt64.toNat_add, hone]
    omega
  have hle : coordinator.options.initialRotationEpoch + 1 ≤
      coordinator.nextRotationEpochFor call.request.secretName + 1 := by
    rw [UInt64.le_iff_toNat_le, hsucc]
    exact hstart
  have hmax : max (coordinator.options.initialRotationEpoch + 1)
      (coordinator.nextRotationEpochFor call.request.secretName + 1) =
      coordinator.nextRotationEpochFor call.request.secretName + 1 := if_pos hle
  unfold rollbackPromotion
  dsimp only
  rw [hmax]
  exact hsucc

theorem decides_of_promotes
    (hpromotes : coordinator.promotes call = true) : coordinator.decides call = true := by
  unfold promotes at hpromotes
  simp only [Bool.and_eq_true] at hpromotes
  exact hpromotes.1.1

theorem advancesEpoch_spec (account : RotationAccount)
    (call : RotationCall) (h : advancesEpoch coordinator account call = true)
    (hpromotes : coordinator.promotes call = true) :
    call.request.secretName ∉ account.behind ∧
      (call.answers.promoted.rotated = true → coordinator.defersRevoke call.request = false →
        call.answers.revoked.ok = false →
        coordinator.nextRotationEpochFor call.request.secretName ≠ 18446744073709551615) := by
  unfold advancesEpoch at h
  rw [hpromotes] at h
  simp only [Bool.not_true, Bool.false_or, Bool.and_eq_true, Bool.or_eq_true, Bool.not_eq_true',
    decide_eq_true_eq] at h
  obtain ⟨hbehind, hroom⟩ := h
  refine ⟨by simpa using hbehind, fun hrotated hdefers hrevoked => ?_⟩
  simpa [hrotated, hdefers, hrevoked] using hroom

section
variable {coordinator : SecretRotationCoordinator} {account : RotationAccount}

theorem mem_behind_filter (behind : List Bytes) (secretName other : Bytes) (hne : other ≠ secretName) :
    other ∈ behind.filter (· ≠ secretName) ↔ other ∈ behind := by
  simp [hne]

theorem EpochsAdvance.accept (h : EpochsAdvance coordinator account) (call : RotationCall)
    (hpromotes : coordinator.promotes call = true)
    (hnot : call.request.secretName ∉ account.behind) (next : SecretRotationCoordinator)
    (state : RotationState) (account' : RotationAccount)
    (hstates : next.rotationStates =
      coordinator.rotationStates.insert call.request.secretName state)
    (hoptions : next.options = coordinator.options)
    (hepoch : state.rotationEpoch = coordinator.nextRotationEpochFor call.request.secretName)
    (hoffered : account'.offered = account.offered ++
      [(call.request.secretName, coordinator.nextRotationEpochFor call.request.secretName)])
    (hbehind : account'.behind = account.behind.filter (· ≠ call.request.secretName)) :
    EpochsAdvance next account' := by
  have hnext := promotes_next coordinator call (decides_of_promotes coordinator call hpromotes)
  have hinitial := initial_le_level coordinator call.request.secretName
  have hcaught := h.caughtUp call.request.secretName
  have hlevel := level_recordState_self coordinator next _ state hoptions hstates
  rw [hepoch, hnext, max_eq_right (by omega)] at hlevel
  have hreached : ∀ epoch, (call.request.secretName, epoch) ∈ account.offered ∨
      epoch ∈ [coordinator.nextRotationEpochFor call.request.secretName] →
      epoch.toNat ≤ level next call.request.secretName := by
    rintro epoch (hmember | hnew)
    · have hbound := hcaught epoch hmember hnot
      omega
    · rw [List.mem_singleton.mp hnew]
      omega
  refine h.extend call.request.secretName [coordinator.nextRotationEpochFor call.request.secretName]
    (fun other hne => level_recordState_other coordinator next _ other state hne hoptions hstates)
    (fun other hne => hbehind ▸ mem_behind_filter _ _ _ hne) hoffered (List.pairwise_singleton _ _)
    ?_ (fun epoch hepoch => le_trans (hreached epoch hepoch) (Nat.le_succ _))
    (fun _ epoch hepoch => hreached epoch hepoch)
  intro epoch hepoch old hmember
  have hbound := hcaught old hmember hnot
  rw [List.mem_singleton.mp hepoch, UInt64.lt_iff_toNat_lt]
  omega

theorem epochs_step (h : EpochsAdvance coordinator account) (call : RotationCall)
    (hadvances : advancesEpoch coordinator account call = true) (outcome : RotationOutcome)
    (hrotation : coordinator.Rotation call outcome) :
    EpochsAdvance outcome.coordinator (account.observe coordinator call outcome) := by
  have hspec := advancesEpoch_spec coordinator account call hadvances
  have hinitial := initial_le_level coordinator call.request.secretName
  have hold := h.bounded call.request.secretName
  have hcaught := h.caughtUp call.request.secretName
  have hkept : ∀ other, other ≠ call.request.secretName →
      (other ∈ account.behind.filter (· ≠ call.request.secretName) ↔ other ∈ account.behind) :=
    fun other => mem_behind_filter _ _ other
  have hadded : ∀ other, other ≠ call.request.secretName →
      (other ∈ call.request.secretName :: account.behind ↔ other ∈ account.behind) := by
    intro other hother
    simp [hother]
  rcases hrotation with ⟨next, result, hrejects, hpromotes, hstates, hoptions, -⟩ | ⟨-, hderive⟩ |
    ⟨next, result, state, hrejects, hstates, hoptions, -, hepoch⟩ |
    ⟨next, candidateVersion, hpromotes, hrotated, hstates, hoptions⟩ |
    ⟨next, candidateVersion, result, state, hpromotes, hrotated, hdefers, hstates, hoptions, -,
      hresult, hstate⟩ |
    ⟨next, candidateVersion, result, state, hpromotes, hrotated, hdefers, hrevoked, hstates,
      hoptions, -, hresult, hepoch⟩ |
    ⟨next, candidateVersion, result, state, back, hback, hpromotes, hrotated, hdefers, hrevoked,
      hstates, hoptions, -, hresult, hepoch⟩
  · rw [observe_idle account coordinator next call _ hrejects]
    have hlevel : level next = level coordinator := by
      funext secretName
      unfold level
      rw [hstates, hoptions]
    exact ⟨hlevel ▸ h.bounded, hlevel ▸ h.caughtUp, h.increasing⟩
  · rw [observe_idle account coordinator _ call _ (by
      simp [rejects, decides, hderive])]
    exact h
  · have hdecides : coordinator.decides call = true := by
      unfold rejects at hrejects
      exact (Bool.and_eq_true _ _ ▸ hrejects).1
    have hnext := promotes_next coordinator call hdecides
    have hlevel := level_recordState_self coordinator next _ state hoptions hstates
    rw [hepoch, hnext] at hlevel
    have hbehind : (account.observe coordinator call
        { coordinator := next, result := some result }).behind =
          account.behind.filter (· ≠ call.request.secretName) := by
      simp [observe, hrejects]
    have hreached : ∀ epoch, (call.request.secretName, epoch) ∈ account.offered ∨ epoch ∈ [] →
        epoch.toNat ≤ level next call.request.secretName := by
      rintro epoch (hmember | hnone)
      · have hbound := hold epoch hmember
        omega
      · cases hnone
    exact h.extend call.request.secretName []
      (fun other hne => level_recordState_other coordinator next _ other state hne hoptions hstates)
      (hbehind ▸ hkept) (by simp [observe]) .nil (fun _ hnone => absurd hnone List.not_mem_nil)
      (fun epoch hepoch => le_trans (hreached epoch hepoch) (Nat.le_succ _)) fun _ => hreached
  · have hnext := promotes_next coordinator call (decides_of_promotes coordinator call hpromotes)
    obtain ⟨hnot, -⟩ := hspec hpromotes
    have hlevel : level next = level coordinator := by
      funext secretName
      unfold level
      rw [hstates, hoptions]
    refine h.extend call.request.secretName [coordinator.nextRotationEpochFor call.request.secretName]
      (fun other _ => congrFun hlevel other) ?_ rfl (List.pairwise_singleton _ _) ?_ ?_ ?_
    · simpa [observe, isRefused] using hadded
    · intro epoch hepoch old hmember
      have hbound := hcaught old hmember hnot
      rw [List.mem_singleton.mp hepoch, UInt64.lt_iff_toNat_lt]
      omega
    · rintro epoch (hmember | hepoch)
      · rw [hlevel]
        exact hold epoch hmember
      · rw [List.mem_singleton.mp hepoch, hlevel]
        omega
    · intro hbehind
      simp [observe, isRefused] at hbehind
  · obtain ⟨hnot, -⟩ := hspec hpromotes
    exact h.accept call hpromotes hnot next state _ hstates hoptions hstate.2.2 rfl
      (by simp [observe, isRefused])
  · obtain ⟨hnot, -⟩ := hspec hpromotes
    exact h.accept call hpromotes hnot next state _ hstates hoptions hepoch rfl
      (by simp [observe, isRefused])
  · have hdecides := decides_of_promotes coordinator call hpromotes
    have hnext := promotes_next coordinator call hdecides
    obtain ⟨hnot, hroom⟩ := hspec hpromotes
    have hsecond := rollbackPromotion_toNat coordinator call candidateVersion hdecides
      (hroom hrotated hdefers hrevoked)
    have hlevel := level_recordState_self coordinator next _ state hoptions hstates
    have hreached : ∀ epoch, (call.request.secretName, epoch) ∈ account.offered ∨
        epoch ∈ [coordinator.nextRotationEpochFor call.request.secretName,
          (coordinator.rollbackPromotion call candidateVersion).rotationEpoch] →
        epoch.toNat ≤ level coordinator call.request.secretName + 2 := by
      rintro epoch (hmember | hnew)
      · have hbound := hcaught epoch hmember hnot
        omega
      · rcases List.mem_pair.mp hnew with rfl | rfl
        · omega
        · omega
    refine h.extend call.request.secretName
      [coordinator.nextRotationEpochFor call.request.secretName,
        (coordinator.rollbackPromotion call candidateVersion).rotationEpoch]
      (fun other hne => level_recordState_other coordinator next _ other state hne hoptions hstates)
      ?_ rfl ?_ ?_ ?_ ?_
    · rcases back with _ | _
      · simpa [observe, isRefused] using hadded
      · simpa [observe, isRefused] using hkept
    · rw [List.pairwise_pair, UInt64.lt_iff_toNat_lt]
      omega
    · intro epoch hepoch old hmember
      have hbound := hcaught old hmember hnot
      rw [UInt64.lt_iff_toNat_lt]
      rcases List.mem_pair.mp hepoch with rfl | rfl
      · omega
      · omega
    · intro epoch hmember
      have hbound := hreached epoch hmember
      rw [hepoch] at hlevel
      rcases back with _ | _
      · simp only [Bool.false_eq_true, if_false] at hlevel
        dsimp only
        omega
      · simp only [if_true] at hlevel
        dsimp only
        omega
    · intro hbehind epoch hmember
      have hbound := hreached epoch hmember
      rw [hepoch] at hlevel
      rcases back with _ | _
      · simp [observe, isRefused] at hbehind
      · simp only [if_true] at hlevel
        dsimp only
        omega

end

/-!
## The revocations that are owed

In every run whose steps leave pending revocations alone, the coordinator remembers each of them.
-/

/-! ## The answers of a rotation -/

/-- `rotate` returns, and names a candidate other than the version that the backend reported,
unless it hands on the backend's own refusal. -/
def Answers (coordinator : SecretRotationCoordinator) (call : RotationCall)
    (outcome : RotationOutcome) : Prop :=
  ∃ result, outcome.result = some result ∧
    (coordinator.reachesVersion call.request call.answers = true →
      ∃ candidateVersion,
        deriveCandidateVersion call.answers.fetched.record.version = some candidateVersion ∧
        candidateVersion ≠ call.answers.fetched.record.version ∧
        (result.previousVersion = call.answers.fetched.record.version ∧
            result.currentVersion = candidateVersion ∨
          call.answers.promoted.rotated = false ∧ result = call.answers.promoted))

theorem names_answers (coordinator next : SecretRotationCoordinator) (call : RotationCall)
    (calls : List BackendCall) (result : RotationResult) (hnames : coordinator.Names call result) :
    Answers coordinator call { coordinator := next, calls, result := some result } := by
  refine ⟨result, rfl, fun hreaches => ?_⟩
  obtain ⟨hprevious, hderive⟩ := hnames hreaches
  exact ⟨_, hderive, derive_ne _ _ hderive, Or.inl ⟨hprevious, rfl⟩⟩

theorem answers_step (coordinator : SecretRotationCoordinator) (call : RotationCall)
    (hreads : readsVersion coordinator call = true) (outcome : RotationOutcome)
    (hrotation : coordinator.Rotation call outcome) : Answers coordinator call outcome := by
  have hderived : coordinator.reachesVersion call.request call.answers = true →
      ∃ candidateVersion,
        deriveCandidateVersion call.answers.fetched.record.version = some candidateVersion := by
    intro hreaches
    rw [← Option.isSome_iff_exists, Option.isSome_iff_ne_none]
    intro hnone
    obtain ⟨hnumeric, hlarge⟩ := (derive_none_iff _).mp hnone
    simp [readsVersion, hreaches, hnumeric] at hreads
    omega
  rcases hrotation with ⟨next, result, -, -, -, -, hnames⟩ | ⟨hreaches, hderive⟩ |
    ⟨next, result, state, -, -, -, hnames, -⟩ | ⟨next, candidateVersion, -, hrotated, -, -⟩ |
    ⟨next, candidateVersion, result, state, -, -, -, -, -, hnames, -, -⟩ |
    ⟨next, candidateVersion, result, state, -, -, -, -, -, -, hnames, -, -⟩ |
    ⟨next, candidateVersion, result, state, back, -, -, -, -, -, -, -, hnames, -, -⟩
  · exact names_answers coordinator next call _ result hnames
  · obtain ⟨candidateVersion, hsome⟩ := hderived hreaches
    rw [hderive] at hsome
    exact nomatch hsome
  · exact names_answers coordinator next call _ result hnames
  · refine ⟨call.answers.promoted, rfl, fun hreaches => ?_⟩
    obtain ⟨candidateVersion, hderive⟩ := hderived hreaches
    exact ⟨candidateVersion, hderive, derive_ne _ _ hderive, Or.inr ⟨hrotated, rfl⟩⟩
  · exact names_answers coordinator next call _ result hnames
  · exact names_answers coordinator next call _ result hnames
  · exact names_answers coordinator next call _ result hnames

/-! ## Whole runs -/

/-- The coordinator and the account after some calls. -/
def rotated (options : SecretRotationCoordinatorOptions) (calls : List RotationCall) :
    SecretRotationCoordinator × RotationAccount :=
  (run rotationStep (SecretRotationCoordinator.new options, {}) calls).1

theorem rotated_kept (options : SecretRotationCoordinatorOptions) (calls : List RotationCall)
    (h : AllSteps rotationStep Undisturbed (new options, {}) calls) :
    Remembered (rotated options calls).1 (rotated options calls).2 ∧
      EpochsAdvance (rotated options calls).1 (rotated options calls).2 := by
  refine invariant_of_allSteps rotationStep Undisturbed
    (fun s => Remembered s.1 s.2 ∧ EpochsAdvance s.1 s.2) ?_ _ calls ?_ h
  · rintro s call ⟨hremembered, hepochs⟩ ⟨-, hsettles, hadvances⟩
    have hrotation := s.1.rotate_cases call
    exact ⟨remembered_step hremembered call hsettles _ hrotation,
      epochs_step hepochs call hadvances _ hrotation⟩
  · have hnone : ∀ (secretName : Bytes) (epoch : UInt64), (secretName, epoch) ∉ ([] : List _) :=
      fun _ _ => List.not_mem_nil
    exact ⟨⟨fun _ _ hpair => absurd hpair List.not_mem_nil, .nil⟩,
      ⟨fun _ _ hpair => absurd hpair (hnone _ _), fun _ _ hpair => absurd hpair (hnone _ _),
        fun _ => .nil⟩⟩

theorem Remembered.counted {coordinator : SecretRotationCoordinator} {account : RotationAccount}
    (h : Remembered coordinator account) :
    account.owed.length ≤ coordinator.pendingRevocations.length := by
  have hsubset : account.owed ⊆
      coordinator.pendingRevocations.map fun entry => (entry.1, entry.2.previousVersion) := by
    rintro ⟨secretName, version⟩ hpair
    obtain ⟨state, hlookup, hpending, rfl⟩ := h.recorded _ _ hpair
    have hentry := (Table.lookup_eq_some_iff ..).mp hlookup
    refine List.mem_map.mpr ⟨(secretName, state), ?_, rfl⟩
    exact List.mem_map.mpr ⟨⟨secretName, state⟩, List.mem_filter.mpr ⟨hentry, hpending⟩, rfl⟩
  have hlength := (List.subperm_of_subset h.nodup hsubset).length_le
  rwa [List.length_map] at hlength

/-- In every run whose steps leave the pending revocations alone, each deferred revocation stays
recorded and counted until it is confirmed, the epochs of a secret go up, and `rotate` returns. -/
theorem revocations_remembered (options : SecretRotationCoordinatorOptions)
    (calls : List RotationCall)
    (h : AllSteps rotationStep Undisturbed (SecretRotationCoordinator.new options, {}) calls) :
    Remembered (rotated options calls).1 (rotated options calls).2 ∧
    (rotated options calls).2.owed.length ≤ (rotated options calls).1.pendingRevocations.length ∧
    (rotated options calls).1.getStatus.rotationBacklog =
      UInt64.ofNat (rotated options calls).1.pendingRevocations.length ∧
    (∀ secretName, (epochsOf secretName (rotated options calls).2.offered).Pairwise (· < ·)) ∧
    ∀ before call after, calls = before ++ call :: after →
      Answers (rotated options before).1 call
        ((rotated options before).1.rotate call.request call.answers) := by
  obtain ⟨hremembered, hepochs⟩ := rotated_kept options calls h
  refine ⟨hremembered, hremembered.counted, rfl, hepochs.increasing, ?_⟩
  intro before call after hsplit
  have hundisturbed := (allSteps_iff_split rotationStep Undisturbed _ calls).mp h before call after
    hsplit
  exact answers_step _ call hundisturbed.1 _ (SecretRotationCoordinator.rotate_cases _ call)

/-! ## Runs that keep and runs that forget -/

/-- A rotation of a secret at a version, with answers that confirm all but the promotion perhaps. -/
def sampleRotation (strategy : RotationStrategy) (secretName version : String) (rotated : Bool) :
    RotationCall :=
  { request :=
      { secretName := str secretName
        requestedBy := str "ops"
        reasonCode := str "scheduled"
        strategy }
    answers :=
      { fetched := { ok := true, record := { version := str version } }
        validation :=
          .success (str "validation_passed") (str "audit://secret/rotation/validation/db") false
        promoted :=
          if rotated then .success (str secretName) [] [] (str "audit://secret/promote") false
          else .failure (str secretName) [] [] (str "audit://secret/promote") .providerTimeout
            (str "timeout") (str "secret.promote") (str "backend") false
        revoked := .success (str secretName) none
        rolledBack := .success (str secretName) [] [] (str "audit://secret/promote") false
        nowMs := 1000 } }

def deferredThenOther : List RotationCall :=
  [sampleRotation .dualSlot "db" "v3" true, sampleRotation .inPlace "api" "v1" true]

theorem revocations_remembered_deferred :
    (rotated {} deferredThenOther).2.owed = [(str "db", str "v3")] ∧
    Remembered (rotated {} deferredThenOther).1 (rotated {} deferredThenOther).2 :=
  ⟨by decide +kernel, (revocations_remembered {} deferredThenOther (by decide +kernel)).1⟩

def deferredTwice : List RotationCall :=
  [sampleRotation .dualSlot "db" "v3" true, sampleRotation .dualSlot "db" "v4" true]

def refusedThenPromoted : List RotationCall :=
  [sampleRotation .inPlace "db" "v3" false, sampleRotation .inPlace "db" "v3" true]

/-- A second deferral overwrites the first; a refused promotion's epoch is offered again; and a
version of twenty digits leaves `rotate` by an exception. -/
theorem revocation_forgotten :
    (rotated {} deferredTwice).2.owed = [(str "db", str "v4"), (str "db", str "v3")] ∧
    ((rotated {} deferredTwice).1.rotationStates.lookup (str "db")).map (·.previousVersion) =
      some (str "v4") ∧
    (rotated {} deferredTwice).1.getStatus.rotationBacklog = 1 ∧
    epochsOf (str "db") (rotated {} refusedThenPromoted).2.offered = [2, 2] ∧
    ((SecretRotationCoordinator.new {}).rotate
      (sampleRotation .inPlace "db" "v18446744073709551616" true).request
      (sampleRotation .inPlace "db" "v18446744073709551616" true).answers).result = none := by
  decide +kernel

end Dasall.Infra.Secret
