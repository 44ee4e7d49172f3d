import Dasall.Infra.Secret.ManagerFacade
import Dasall.Infra.Secret.RotationEpochs

/-!
# Leases on revoked versions

A lease that is no longer active stays so, unless its id is given out again. A version that `revoke`
revokes has no active lease left; a version that `rotate` revokes keeps those it had.
-/

open Dasall.Lib Dasall.Lib.Run Dasall.Lib.Text

namespace Dasall.Infra.Secret

/-! ## Leases of the registry -/

namespace SecretLeaseRegistry

/-- A lease of the version is active. -/
def isLive (registry : SecretLeaseRegistry) (secretName version : Bytes) : Bool :=
  registry.leases.entries.any fun entry =>
    entry.2.handle.secretName = secretName && entry.2.handle.version = version &&
      entry.2.lease.state = .active

/-- The lease is registered, and no longer active. -/
def hasLeft (registry : SecretLeaseRegistry) (leaseId : Bytes) : Bool :=
  (registry.leases.lookup leaseId).any (·.lease.state ≠ .active)

variable (registry : SecretLeaseRegistry) (secretName : Bytes) (lease : SecretLease)
  (version : Bytes) (handle : SecretHandle) (targetState : SecretLeaseState)
  (currentRotationEpoch : UInt64) (other : Bytes) (leaseNowMs : Int64)

theorem isLive_iff :
    registry.isLive secretName version = true ↔
      ∃ leaseId entry, registry.leases.lookup leaseId = some entry ∧
        entry.handle.secretName = secretName ∧ entry.handle.version = version ∧
        entry.lease.state = .active := by
  unfold isLive
  simp only [List.any_eq_true, Bool.and_eq_true, decide_eq_true_eq, Table.lookup_eq_some_iff]
  constructor
  · rintro ⟨⟨leaseId, entry⟩, hmem, ⟨hname, hversion⟩, hactive⟩
    exact ⟨leaseId, entry, hmem, hname, hversion, hactive⟩
  · rintro ⟨leaseId, entry, hmem, hname, hversion, hactive⟩
    exact ⟨⟨leaseId, entry⟩, hmem, ⟨hname, hversion⟩, hactive⟩

theorem hasLeft_iff (leaseId : Bytes) :
    registry.hasLeft leaseId = true ↔
      ∃ entry, registry.leases.lookup leaseId = some entry ∧ entry.lease.state ≠ .active := by
  unfold hasLeft
  simp [Option.any_eq_true]

theorem hasLeft_setState (entry : LeaseEntry) (leaseId : Bytes)
    (state : SecretLeaseState) (hstate : state ≠ .active) (other : Bytes)
    (h : registry.hasLeft other = true) :
    (registry.setState entry leaseId state).hasLeft other = true := by
  unfold hasLeft setState
  dsimp only
  by_cases hsame : other = leaseId
  · rw [hsame, AList.lookup_insert]
    simpa using hstate
  · rw [AList.lookup_insert_ne hsame]
    exact h

theorem validateLease_left (handleNowMs : Int64)
    (other : Bytes) (h : registry.hasLeft other = true) :
    (registry.validateLease lease handle currentRotationEpoch leaseNowMs handleNowMs).1.hasLeft
      other = true := by
  unfold validateLease
  dsimp only
  split
  · exact h
  split
  · exact h
  split
  · exact hasLeft_setState registry _ _ _ (by decide) other h
  split
  · exact hasLeft_setState registry _ _ _ (by decide) other h
  split
  · exact h
  split
  · exact h
  · exact h

/-- A lease that is no longer active is not valid, whatever it is compared with. -/
theorem validateLease_fails (handleNowMs : Int64)
    (h : registry.hasLeft lease.leaseId = true) :
    (registry.validateLease lease handle currentRotationEpoch leaseNowMs handleNowMs).2.ok =
      false := by
  obtain ⟨entry, hlookup, hleft⟩ := (hasLeft_iff _ _).mp h
  unfold validateLease
  dsimp only
  rw [hlookup]
  split
  · rfl
  dsimp only
  split
  · rfl
  split
  · rfl
  split
  · rfl
  · rfl

theorem expireLease_left (h : registry.hasLeft other = true) :
    (registry.expireLease lease targetState).1.hasLeft other = true := by
  unfold expireLease
  dsimp only
  split
  · exact h
  split
  · exact h
  · exact hasLeft_setState registry _ _ _ (by cases targetState <;> decide) other h

theorem releaseLease_left (nowMs : Int64)
    (other : Bytes) (h : registry.hasLeft other = true) :
    (registry.releaseLease lease nowMs).1.hasLeft other = true := by
  unfold releaseLease
  dsimp only
  split
  · exact h
  split
  · exact h
  split
  · exact hasLeft_setState registry _ _ _ (by decide) other h
  split
  · exact h
  split
  · exact h
  · exact hasLeft_setState registry _ _ _ (by decide) other h

theorem expireSecretLeases_left (h : registry.hasLeft other = true) :
    (registry.expireSecretLeases secretName targetState).hasLeft other = true := by
  obtain ⟨entry, hlookup, hleft⟩ := (hasLeft_iff _ _).mp h
  refine (hasLeft_iff _ _).mpr ⟨entry, ?_, hleft⟩
  unfold expireSecretLeases
  dsimp only
  rw [Table.lookup_mapValues, hlookup, Option.map_some, if_neg (by simp [hleft])]

theorem expireSecretLeases_dead :
    (registry.expireSecretLeases secretName targetState).isLive secretName version = false := by
  rw [Bool.eq_false_iff]
  intro hlive
  obtain ⟨leaseId, entry, hlookup, hname, -, hactive⟩ := (isLive_iff ..).mp hlive
  unfold expireSecretLeases at hlookup
  dsimp only at hlookup
  rw [Table.lookup_mapValues, Option.map_eq_some_iff] at hlookup
  obtain ⟨old, -, rfl⟩ := hlookup
  split at hname
  · next hexpires =>
    rw [if_pos hexpires] at hactive
    cases targetState <;> exact nomatch hactive
  · next hkept =>
    rw [if_neg hkept] at hactive
    simp [hname, hactive] at hkept

end SecretLeaseRegistry

/-! ## Calls on the facade -/

/-- What the backend confirmed to be revoked. -/
def confirmedIn (calls : List BackendCall) : List (Bytes × Bytes) := calls.filterMap (·.confirmed)

namespace SecretManagerFacade

/-- A materialization that creates a lease. -/
def createsLease (backendReady : Bool) (handle : SecretHandle) (context : SecretAccessContext)
    (answers : MaterializeAnswers) : Bool :=
  handle.isValid && context.isValid && backendReady &&
    !(handle.expiresAtMs < answers.handleNowMs) && answers.fetched.ok &&
    answers.fetched.record.version = handle.version && answers.materialized.ok &&
    !(SecretLeaseRegistry.resolveDeadlineMs handle
        (some (min handle.expiresAtMs answers.materialized.lease.expiresAtMs)) <
      answers.leaseNowMs)

/-- A rotation that revokes the previous version before it returns. -/
def revokesAtOnce (facade : SecretManagerFacade) (backendReady : Bool) (rotation : RotationCall) :
    Bool :=
  backendReady && facade.rotationCoordinator.promotes rotation &&
    rotation.answers.promoted.rotated &&
    !facade.rotationCoordinator.defersRevoke rotation.request && rotation.answers.revoked.ok

variable (facade : SecretManagerFacade) (backendReady : Bool) (handle : SecretHandle)
  (rotation : RotationCall) (secretName : Bytes) (context : SecretAccessContext)
  (reasonCode : Bytes) (answers : MaterializeAnswers) (fetched : SecretBackendFetchResult)
  (revoked : SecretLifecycleResult)

theorem materialize_creates (h : createsLease backendReady handle context answers = true) :
    ∃ lease : SecretLease, lease.state = .active ∧
      (facade.materialize backendReady handle context answers).1.leaseRegistry.leases =
        facade.leaseRegistry.leases.insert (facade.leaseRegistry.nextLeaseId handle)
          { handle, lease } := by
  unfold createsLease at h
  simp only [Bool.and_eq_true, Bool.not_eq_true', decide_eq_true_eq, decide_eq_false_iff_not] at h
  obtain ⟨⟨⟨⟨⟨⟨⟨hhandle, hcontext⟩, hready⟩, hfresh⟩, hfetched⟩, hversion⟩, hmaterialized⟩, hdeadline⟩ := h
  have hconsumer : context.consumerModule ≠ [] := by
    unfold SecretAccessContext.isValid at hcontext
    simp only [Bool.and_eq_true, decide_eq_true_eq] at hcontext
    exact hcontext.1.1.1.1.2
  unfold materialize SecretLeaseRegistry.createLease
  simp only [hhandle, hcontext, hready, hfetched, hversion, hmaterialized, hfresh, hdeadline,
    hconsumer, Bool.not_true, Bool.or_self, decide_false, if_false, ne_eq,
    not_true_eq_false, Bool.false_eq_true]
  exact ⟨_, rfl, rfl⟩

theorem materialize_refuses (h : createsLease backendReady handle context answers = false) :
    (facade.materialize backendReady handle context answers).1.leaseRegistry.leases =
      facade.leaseRegistry.leases := by
  unfold materialize
  dsimp only
  split
  · rfl
  split
  · rfl
  split
  · rfl
  split
  · rfl
  split
  · rfl
  split
  · rfl
  next hvalid hready hfresh hfetched hversion hmaterialized =>
    have hrefused : (facade.leaseRegistry.createLease handle context.consumerModule
        answers.materialized.lease.rotationEpoch
        (some (min handle.expiresAtMs answers.materialized.lease.expiresAtMs))
        answers.leaseNowMs).1.leases = facade.leaseRegistry.leases := by
      unfold SecretLeaseRegistry.createLease
      split
      · rfl
      split
      · rfl
      next hconsumer hdeadline =>
        have hcreates : createsLease backendReady handle context answers = true := by
          unfold createsLease
          simp at hvalid hready hfresh hfetched hversion hmaterialized hdeadline
          simp [hvalid, hready, hfresh, hfetched, hversion, hmaterialized, hdeadline]
        rw [hcreates] at h
        exact nomatch h
    split
    · exact hrefused
    · exact hrefused

theorem materialize_left :
    (∀ leaseId, facade.leaseRegistry.hasLeft leaseId = true →
        (facade.materialize backendReady handle context answers).1.leaseRegistry.hasLeft leaseId =
          true) ↔
      (createsLease backendReady handle context answers = true →
        facade.leaseRegistry.hasLeft (facade.leaseRegistry.nextLeaseId handle) = false) := by
  cases hcreates : createsLease backendReady handle context answers with
  | false =>
    have hleases := facade.materialize_refuses backendReady handle context answers hcreates
    refine iff_of_true (fun leaseId hleft => ?_) fun h => nomatch h
    unfold SecretLeaseRegistry.hasLeft
    rw [hleases]
    exact hleft
  | true =>
    obtain ⟨lease, hactive, hleases⟩ :=
      facade.materialize_creates backendReady handle context answers hcreates
    constructor
    · intro hkept _
      rw [Bool.eq_false_iff]
      intro hleft
      have hstill := hkept _ hleft
      unfold SecretLeaseRegistry.hasLeft at hstill
      rw [hleases, AList.lookup_insert] at hstill
      simp [hactive] at hstill
    · intro hfresh leaseId hleft
      have hother : leaseId ≠ facade.leaseRegistry.nextLeaseId handle := by
        rintro rfl
        rw [hfresh rfl] at hleft
        exact nomatch hleft
      unfold SecretLeaseRegistry.hasLeft
      rw [hleases, AList.lookup_insert_ne hother]
      exact hleft

theorem rotate_leaseRegistry :
    (facade.rotate backendReady rotation).1.leaseRegistry = facade.leaseRegistry := by
  unfold rotate
  dsimp only
  split
  · rfl
  split
  · rfl
  · rfl

theorem rotate_confirmed :
    confirmedIn (facade.rotate backendReady rotation).2.2 =
      if facade.revokesAtOnce backendReady rotation then
        [(rotation.request.secretName, rotation.answers.fetched.record.version)]
      else [] := by
  unfold rotate
  dsimp only
  split
  · next hinvalid =>
    have hno : facade.rotationCoordinator.promotes rotation = false := by
      have hreaches : facade.rotationCoordinator.reachesVersion rotation.request rotation.answers =
          false := by
        unfold SecretRotationCoordinator.reachesVersion
        simp only [Bool.not_eq_true'] at hinvalid
        simp [hinvalid]
      simp [SecretRotationCoordinator.promotes, SecretRotationCoordinator.decides, hreaches]
    simp [confirmedIn, revokesAtOnce, hno]
  split
  · next hvalid hready =>
    simp only [Bool.not_eq_true'] at hready
    simp [confirmedIn, revokesAtOnce, hready]
  next hvalid hready =>
    have hready : backendReady = true := by simpa using hready
    have hrotation := facade.rotationCoordinator.rotate_cases rotation
    generalize facade.rotationCoordinator.rotate rotation.request rotation.answers = outcome
      at hrotation ⊢
    rcases hrotation with
      ⟨next, result, hrejects, hpromotes, -, -, -⟩ | ⟨hreaches, hderive⟩ |
      ⟨next, result, state, hrejects, -, -, -, -⟩ | ⟨next, candidateVersion, hpromotes, hrotated, -, -⟩ |
      ⟨next, candidateVersion, result, state, hpromotes, hrotated, hdefers, -, -, -, -, -⟩ |
      ⟨next, candidateVersion, result, state, hpromotes, hrotated, hdefers, hrevoked, -, -, -, -, -⟩ |
      ⟨next, candidateVersion, result, state, back, -, hpromotes, hrotated, hdefers, hrevoked, -, -,
        -, -, -⟩
    · simp [confirmedIn, revokesAtOnce, hpromotes]
    · simp [confirmedIn, revokesAtOnce, SecretRotationCoordinator.promotes,
        SecretRotationCoordinator.decides, hderive]
    · have hno : facade.rotationCoordinator.promotes rotation = false := by
        unfold SecretRotationCoordinator.rejects at hrejects
        simp only [Bool.and_eq_true, Bool.not_eq_true'] at hrejects
        simp [SecretRotationCoordinator.promotes, hrejects.2]
      simp [confirmedIn, revokesAtOnce, hno]
    · simp [confirmedIn, revokesAtOnce, BackendCall.confirmed, hrotated]
    · simp [confirmedIn, revokesAtOnce, BackendCall.confirmed, hdefers]
    · simp [confirmedIn, revokesAtOnce, BackendCall.confirmed, hready, hpromotes, hrotated, hdefers,
        hrevoked]
    · simp [confirmedIn, revokesAtOnce, BackendCall.confirmed, hrevoked]

theorem revoke_cases :
    ((facade.revoke backendReady secretName reasonCode fetched revoked).1 = facade ∧
      confirmedIn (facade.revoke backendReady secretName reasonCode fetched revoked).2.2 = []) ∨
    (facade.revoke backendReady secretName reasonCode fetched revoked).1.leaseRegistry =
        facade.leaseRegistry.expireSecretLeases secretName .revoked ∧
      confirmedIn (facade.revoke backendReady secretName reasonCode fetched revoked).2.2 =
        [(secretName, fetched.record.version)] := by
  unfold revoke
  dsimp only
  split
  · exact .inl ⟨rfl, rfl⟩
  split
  · exact .inl ⟨rfl, rfl⟩
  split
  · exact .inl ⟨rfl, rfl⟩
  split
  · exact .inl ⟨rfl, rfl⟩
  · exact .inr ⟨rfl, rfl⟩

theorem revoke_confirmed_dead (pair : Bytes × Bytes)
    (h : pair ∈ confirmedIn
      (facade.revoke backendReady secretName reasonCode fetched revoked).2.2) :
    (facade.revoke backendReady secretName reasonCode fetched revoked).1.leaseRegistry.isLive pair.1
      pair.2 = false := by
  rcases revoke_cases facade backendReady secretName reasonCode fetched revoked with
    ⟨-, hnone⟩ | ⟨hleases, hconfirmed⟩
  · rw [hnone] at h
    cases h
  · rw [hconfirmed] at h
    rw [List.mem_singleton.mp h, hleases]
    exact SecretLeaseRegistry.expireSecretLeases_dead ..

theorem revoke_left (leaseId : Bytes)
    (h : facade.leaseRegistry.hasLeft leaseId = true) :
    (facade.revoke backendReady secretName reasonCode fetched revoked).1.leaseRegistry.hasLeft
      leaseId = true := by
  rcases revoke_cases facade backendReady secretName reasonCode fetched revoked with
    ⟨hsame, -⟩ | ⟨hleases, -⟩
  · rw [hsame]
    exact h
  · rw [hleases]
    exact SecretLeaseRegistry.expireSecretLeases_left _ _ _ _ h

/-! ## Runs -/

/-- A call of a run, with whether the backend is ready. -/
def secretStep (facade : SecretManagerFacade) (input : Bool × SecretCall) :
    SecretManagerFacade × SecretAnswer × List BackendCall :=
  facade.call input.1 input.2

/-- A rotation revokes no version at once that an active lease is on, and a materialization gives
out no id of a lease that is no longer active. -/
def LeaseSafe (facade : SecretManagerFacade) (input : Bool × SecretCall) : Prop :=
  match input.2 with
  | .rotate rotation =>
    facade.revokesAtOnce input.1 rotation = true →
      facade.leaseRegistry.isLive rotation.request.secretName
        rotation.answers.fetched.record.version = false
  | .materialize handle context answers =>
    createsLease input.1 handle context answers = true →
      facade.leaseRegistry.hasLeft (facade.leaseRegistry.nextLeaseId handle) = false
  | _ => True

/-- No active lease is left on what the call revoked. -/
def RevokedIsDead (facade : SecretManagerFacade) (input : Bool × SecretCall) : Prop :=
  ∀ pair ∈ confirmedIn (secretStep facade input).2.2,
    (secretStep facade input).1.leaseRegistry.isLive pair.1 pair.2 = false

/-- No lease becomes active again. -/
def LeftStaysLeft (facade : SecretManagerFacade) (input : Bool × SecretCall) : Prop :=
  ∀ leaseId, facade.leaseRegistry.hasLeft leaseId = true →
    (secretStep facade input).1.leaseRegistry.hasLeft leaseId = true

theorem leaseSafe_iff (input : Bool × SecretCall) :
    RevokedIsDead facade input ∧ LeftStaysLeft facade input ↔ LeaseSafe facade input := by
  obtain ⟨backendReady, call⟩ := input
  have hnothing : ∀ {P : Bytes × Bytes → Prop}, ∀ pair ∈ confirmedIn [], P pair :=
    fun pair h => nomatch h
  cases call with
  | getSecret query context fetched nowMs =>
    exact iff_of_true ⟨hnothing, fun _ h => h⟩ trivial
  | materialize handle context answers =>
    exact (and_iff_right hnothing).trans
      (facade.materialize_left backendReady handle context answers)
  | release lease nowMs =>
    exact iff_of_true ⟨hnothing, facade.leaseRegistry.releaseLease_left lease nowMs⟩ trivial
  | rotate rotation =>
    have hregistry := facade.rotate_leaseRegistry backendReady rotation
    have hconfirmed := facade.rotate_confirmed backendReady rotation
    have hleft : LeftStaysLeft facade (backendReady, .rotate rotation) := by
      intro leaseId h
      show (facade.rotate backendReady rotation).1.leaseRegistry.hasLeft leaseId = true
      rw [hregistry]
      exact h
    refine (and_iff_left hleft).trans ?_
    unfold RevokedIsDead LeaseSafe
    show (∀ pair ∈ confirmedIn (facade.rotate backendReady rotation).2.2,
      (facade.rotate backendReady rotation).1.leaseRegistry.isLive pair.1 pair.2 = false) ↔ _
    rw [hregistry, hconfirmed]
    cases hrevokes : facade.revokesAtOnce backendReady rotation with
    | true => simp [hrevokes]
    | false => simp [hrevokes]
  | revoke secretName reasonCode fetched revoked =>
    exact iff_of_true
      ⟨facade.revoke_confirmed_dead backendReady secretName reasonCode fetched revoked,
        facade.revoke_left backendReady secretName reasonCode fetched revoked⟩ trivial
  | validateLease lease handle currentRotationEpoch leaseNowMs handleNowMs =>
    exact iff_of_true
      ⟨hnothing, facade.leaseRegistry.validateLease_left lease handle currentRotationEpoch leaseNowMs
        handleNowMs⟩ trivial
  | expireLease lease targetState =>
    exact iff_of_true ⟨hnothing, facade.leaseRegistry.expireLease_left lease targetState⟩ trivial

/-- The manager after some calls. -/
def managed (options : SecretManagerFacadeOptions) (inputs : List (Bool × SecretCall)) :
    SecretManagerFacade :=
  (run secretStep (new options) inputs).1

/-- No active lease is on a version that was just revoked, and a lease that is no longer active
stays so and is refused, exactly in the runs whose rotations revoke no leased version at once and
whose materializations give out no id twice. -/
theorem no_lease_on_revoked (options : SecretManagerFacadeOptions)
    (inputs : List (Bool × SecretCall)) :
    ((∀ before input after, inputs = before ++ input :: after →
        ∀ pair ∈ confirmedIn ((managed options before).call input.1 input.2).2.2,
          (managed options (before ++ [input])).leaseRegistry.isLive pair.1 pair.2 = false) ∧
      ∀ before middle after leaseId, inputs = before ++ middle ++ after →
        (managed options before).leaseRegistry.hasLeft leaseId = true →
        (managed options (before ++ middle)).leaseRegistry.hasLeft leaseId = true ∧
          ∀ (lease : SecretLease) handle currentRotationEpoch leaseNowMs handleNowMs,
            lease.leaseId = leaseId →
            ((managed options (before ++ middle)).leaseRegistry.validateLease lease handle
              currentRotationEpoch leaseNowMs handleNowMs).2.ok = false) ↔
      AllSteps secretStep LeaseSafe (new options) inputs := by
  have hsteps := allSteps_iff secretStep (fun _ => True)
    (fun facade input => RevokedIsDead facade input ∧ LeftStaysLeft facade input) LeaseSafe
    (fun _ => True) (fun facade input _ _ => leaseSafe_iff facade input) (fun _ _ _ _ => trivial)
    (new options) inputs trivial (fun _ _ => trivial)
  rw [← hsteps, allSteps_and]
  refine and_congr ?_ ?_
  · rw [allSteps_iff_split]
    constructor
    · intro h before input after hsplit pair hpair
      have hdead := h before input after hsplit pair hpair
      unfold managed at hdead
      rwa [run_snoc] at hdead
    · intro h before input after hsplit pair hpair
      unfold managed
      rw [run_snoc]
      exact h before input after hsplit pair hpair
  · constructor
    · intro h
      rw [allSteps_iff_split]
      intro before input after hsplit leaseId hleft
      rw [← run_snoc]
      exact (h before [input] after leaseId (by simp [hsplit]) hleft).1
    · rintro h before middle after leaseId rfl hleft
      rw [allSteps_append, allSteps_append] at h
      have hstill : (managed options (before ++ middle)).leaseRegistry.hasLeft leaseId = true := by
        unfold managed
        rw [run_append]
        exact invariant_of_allSteps secretStep LeftStaysLeft
          (fun facade => facade.leaseRegistry.hasLeft leaseId = true)
          (fun facade input hs hinput => hinput leaseId hs) _ middle hleft h.1.2
      refine ⟨hstill, fun lease handle epoch leaseNowMs handleNowMs hid => ?_⟩
      exact SecretLeaseRegistry.validateLease_fails _ lease handle epoch leaseNowMs handleNowMs
        (hid ▸ hstill)

/-! ## A lease that outlives its version -/

def leasedHandle : SecretHandle :=
  { handleId := str "secret-handle://db/v3"
    secretName := str "db"
    version := str "v3"
    backendRef := str "vault/db"
    issuedAtMs := 1000
    expiresAtMs := 61000
    redactionHint := str "redacted://secret/db" }

def leaseThenRotate : List (Bool × SecretCall) :=
  [(true, .materialize leasedHandle
      { requestId := some (str "req-1")
        actor := str "ops"
        consumerModule := str "llm"
        permissionDomain := str "prod" }
      { fetched := { ok := true, record := { version := str "v3" } }
        materialized := { ok := true, lease := { expiresAtMs := 61000, rotationEpoch := 1 } }
        handleNowMs := 2000
        leaseNowMs := 2000 }),
    (true, .rotate
      { request :=
          { secretName := str "db"
            requestedBy := str "ops"
            reasonCode := str "compromised"
            strategy := .inPlace }
        answers :=
          { fetched := { ok := true, record := { version := str "v3" } }
            validation :=
              .success (str "validation_passed") (str "audit://secret/rotation/validation/db") false
            promoted := .success (str "db") [] [] (str "audit://secret/promote") false
            revoked := .success (str "db") none
            rolledBack := .success (str "db") [] [] (str "audit://secret/promote") false
            nowMs := 3000 } })]

/-- An in-place rotation revokes the version of an active lease, which stays active. -/
theorem lease_outlives_version :
    (run secretStep (new {}) leaseThenRotate).2.flatMap (fun answer => confirmedIn answer.2) =
      [(str "db", str "v3")] ∧
    (managed {} leaseThenRotate).leaseRegistry.isLive (str "db") (str "v3") = true ∧
    (managed {} leaseThenRotate).leaseRegistry.activeLeaseCount = 1 := by
  decide +kernel

end SecretManagerFacade

end Dasall.Infra.Secret
