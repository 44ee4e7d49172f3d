import Dasall.Infra.Secret.Types

/-!
# The rotation coordinator

A rotation fetches the current version, derives a candidate, has it validated and promoted, and then
revokes the previous version, at once or not at all. What the backend and the validator answer is
given to a rotation; what it asks of the backend comes out of it.
-/

open Dasall.Lib Dasall.Lib.Text

namespace Dasall.Infra.Secret

open Dasall.Infra.Policy (ResultCode)

structure SecretRotationCoordinatorOptions where
  dualSlotEnabled : Bool := true
  validationRequired : Bool := true
  gracePeriodSec : Int64 := 600
  initialRotationEpoch : UInt64 := 1
  detailRefPrefix : Bytes := str "status://secret/rotation/"
  evidenceRefPrefix : Bytes := str "audit://secret/rotation/"

structure RotationState where
  previousVersion : Bytes
  currentVersion : Bytes
  rotationEpoch : UInt64 := 0
  validationState : RotationValidationState := .unspecified
  revokePending : Bool := false
  rollbackReady : Bool := false
  graceDeadlineMs : Int64 := 0
deriving DecidableEq

structure SecretRotationCoordinatorStatus where
  rotationBacklog : UInt64 := 0
  rollbackFailures : UInt64 := 0
  degraded : Bool := false
  lastErrorCode : Option ResultCode := none
  detailRef : Bytes
deriving DecidableEq

structure SecretRotationCoordinator where
  options : SecretRotationCoordinatorOptions
  rotationStates : Table Bytes RotationState := ∅
  rollbackFailures : UInt64 := 0
  lastErrorCode : Option ResultCode := none
  lastDetailRef : Bytes

/-- What the backend and the validator answer during a rotation, as far as they are asked, and the
time at which a grace period begins. -/
structure RotationAnswers where
  fetched : SecretBackendFetchResult
  validation : SecretRotationValidationDecision
  promoted : RotationResult
  revoked : SecretLifecycleResult
  rolledBack : RotationResult
  nowMs : Int64
deriving DecidableEq

/-- A change that the backend was asked for, and whether it confirmed it. -/
inductive BackendCall
  | promote (request : SecretVersionPromotionRequest) (rotated : Bool)
  | revoke (secretName version : Bytes) (ok : Bool)
deriving DecidableEq

/-- A result of `none` stands for the `std::out_of_range` of `std::stoull`. -/
structure RotationOutcome where
  coordinator : SecretRotationCoordinator
  calls : List BackendCall := []
  result : Option RotationResult

/-! ## The candidate version -/

def isNumericVersion : Bytes → Bool
  | 118 :: digits => digits ≠ [] && digits.all isDigit
  | _ => false

def deriveCandidateVersion (currentVersion : Bytes) : Option Bytes :=
  if isNumericVersion currentVersion then
    (stoull currentVersion.tail).map fun number => str "v" ++ decimal (number + 1).toNat
  else some (currentVersion ++ str ".candidate")

/-! ## The coordinator -/

def makeRotationFailure (secretName previousVersion candidateVersion : Bytes)
    (errorCode : SecretErrorCode) (message stage evidenceRef : Bytes)
    (validationState : RotationValidationState) (rollbackReady : Bool) : RotationResult :=
  { RotationResult.failure secretName previousVersion candidateVersion evidenceRef
      (mapSecretErrorCode errorCode) (secretErrorCodeName errorCode ++ str ": " ++ message) stage
      (str "SecretRotationCoordinator") rollbackReady with validationState }

namespace SecretRotationCoordinator

def new (options : SecretRotationCoordinatorOptions) : SecretRotationCoordinator :=
  { options, lastDetailRef := options.detailRefPrefix ++ str "idle" }

def recordSuccess (coordinator : SecretRotationCoordinator) (detailSuffix : String) :
    SecretRotationCoordinator :=
  { coordinator with
    lastErrorCode := none
    lastDetailRef := coordinator.options.detailRefPrefix ++ str detailSuffix }

def recordFailure (coordinator : SecretRotationCoordinator) (resultCode : ResultCode)
    (detailSuffix : String) : SecretRotationCoordinator :=
  { coordinator with
    lastErrorCode := some resultCode
    lastDetailRef := coordinator.options.detailRefPrefix ++ str detailSuffix }

def recordState (coordinator : SecretRotationCoordinator) (secretName : Bytes)
    (state : RotationState) : SecretRotationCoordinator :=
  { coordinator with rotationStates := coordinator.rotationStates.insert secretName state }

/-- The entries that `get_status` counts. -/
def pendingRevocations (coordinator : SecretRotationCoordinator) : List (Bytes × RotationState) :=
  (coordinator.rotationStates.entries.filter (·.2.revokePending)).map fun entry => (entry.1, entry.2)

def getStatus (coordinator : SecretRotationCoordinator) : SecretRotationCoordinatorStatus :=
  let backlog := UInt64.ofNat coordinator.pendingRevocations.length
  { rotationBacklog := backlog
    rollbackFailures := coordinator.rollbackFailures
    degraded := 0 < backlog || 0 < coordinator.rollbackFailures || coordinator.lastErrorCode.isSome
    lastErrorCode := coordinator.lastErrorCode
    detailRef :=
      if coordinator.lastDetailRef = [] then coordinator.options.detailRefPrefix ++ str "idle"
      else coordinator.lastDetailRef }

def nextRotationEpochFor (coordinator : SecretRotationCoordinator) (secretName : Bytes) : UInt64 :=
  match coordinator.rotationStates.lookup secretName with
  | none => coordinator.options.initialRotationEpoch + 1
  | some state =>
    if state.rotationEpoch < coordinator.options.initialRotationEpoch then
      coordinator.options.initialRotationEpoch + 1
    else state.rotationEpoch + 1

def makeValidationContext (coordinator : SecretRotationCoordinator) (request : RotationRequest)
    (previousVersion candidateVersion : Bytes) : SecretRotationValidationContext :=
  { secretName := request.secretName
    previousVersion
    candidateVersion
    strategy := request.strategy
    requestedBy := request.requestedBy
    reasonCode := request.reasonCode
    validationRequired := coordinator.options.validationRequired
    dualSlotEnabled := coordinator.options.dualSlotEnabled
    nextRotationEpoch := coordinator.nextRotationEpochFor request.secretName
    gracePeriodSec := coordinator.options.gracePeriodSec }

/-- `rollback`, whose promotion comes after the calls of the rotation. -/
def rollback (coordinator : SecretRotationCoordinator) (answers : RotationAnswers)
    (secretName previousVersion candidateVersion : Bytes) (rotationEpoch : UInt64)
    (triggerMessage : Bytes) (calls : List BackendCall) : RotationOutcome :=
  let request : SecretVersionPromotionRequest :=
    { secretName
      previousVersion := candidateVersion
      candidateVersion := previousVersion
      rotationEpoch := max (coordinator.options.initialRotationEpoch + 1) (rotationEpoch + 1) }
  let evidenceRefPrefix := coordinator.options.evidenceRefPrefix
  if !answers.rolledBack.rotated then
    let coordinator : SecretRotationCoordinator :=
      { coordinator with rollbackFailures := coordinator.rollbackFailures + 1 }
    { coordinator :=
        (coordinator.recordState secretName
          { previousVersion
            currentVersion := candidateVersion
            rotationEpoch
            validationState := .failed }).recordFailure
          (mapSecretErrorCode .rotationRollbackFailed) "rollback_failed"
      calls := calls ++ [.promote request false]
      result := some (makeRotationFailure secretName previousVersion candidateVersion
        .rotationRollbackFailed triggerMessage (str "secret.rotate.rollback")
        (evidenceRefPrefix ++ str "rollback_failed/" ++ secretName) .failed false) }
  else
    { coordinator :=
        (coordinator.recordState secretName
          { previousVersion := candidateVersion
            currentVersion := previousVersion
            rotationEpoch := request.rotationEpoch
            validationState := .rolledBack }).recordFailure
          (mapSecretErrorCode .rotationValidationFailed) "rolled_back"
      calls := calls ++ [.promote request true]
      result := some (makeRotationFailure secretName previousVersion candidateVersion
        .rotationValidationFailed triggerMessage (str "secret.rotate.rollback")
        (evidenceRefPrefix ++ str "rolled_back/" ++ secretName) .rolledBack false) }

def defersRevoke (coordinator : SecretRotationCoordinator) (request : RotationRequest) : Bool :=
  request.strategy = .dualSlot && 0 < coordinator.options.gracePeriodSec

/-- `rotate` once the candidate was accepted. -/
def promoteCandidate (coordinator : SecretRotationCoordinator) (request : RotationRequest)
    (answers : RotationAnswers) (previousVersion candidateVersion : Bytes) : RotationOutcome :=
  let rotationEpoch := coordinator.nextRotationEpochFor request.secretName
  let promote (rotated : Bool) : BackendCall := .promote
    { secretName := request.secretName, previousVersion, candidateVersion, rotationEpoch } rotated
  if !answers.promoted.rotated then
    { coordinator :=
        coordinator.recordFailure (answers.promoted.resultCode.getD .toolExecutionFailed)
          "promote_failed"
      calls := [promote false]
      result := some answers.promoted }
  else if coordinator.defersRevoke request then
    { coordinator :=
        (coordinator.recordState request.secretName
          { previousVersion
            currentVersion := candidateVersion
            rotationEpoch
            validationState := .succeeded
            revokePending := true
            rollbackReady := true
            graceDeadlineMs := answers.nowMs + coordinator.options.gracePeriodSec * 1000 }).recordSuccess
          "grace_backlog"
      calls := [promote true]
      result := some (.success request.secretName previousVersion candidateVersion
        answers.promoted.evidenceRef true) }
  else if !answers.revoked.ok then
    coordinator.rollback answers request.secretName previousVersion candidateVersion rotationEpoch
      (extractErrorMessage answers.revoked.errorInfo
        (str "secret backend revoke failed after promote"))
      [promote true, .revoke request.secretName previousVersion false]
  else
    { coordinator :=
        (coordinator.recordState request.secretName
          { previousVersion
            currentVersion := candidateVersion
            rotationEpoch
            validationState := .succeeded }).recordSuccess "ready"
      calls := [promote true, .revoke request.secretName previousVersion true]
      result := some (.success request.secretName previousVersion candidateVersion
        answers.promoted.evidenceRef false) }

/-- The validator's decision, or the one that stands in where none is required. -/
def validationDecision (coordinator : SecretRotationCoordinator) (request : RotationRequest)
    (answers : RotationAnswers) : SecretRotationValidationDecision :=
  if coordinator.options.validationRequired then answers.validation
  else .success (str "validation_skipped")
    (coordinator.options.evidenceRefPrefix ++ str "validation/skipped/" ++ request.secretName)
    (request.strategy = .dualSlot)

/-- `rotate` once the candidate was derived. -/
def validateCandidate (coordinator : SecretRotationCoordinator) (request : RotationRequest)
    (answers : RotationAnswers) (previousVersion candidateVersion : Bytes) : RotationOutcome :=
  let sourceRef := str "SecretRotationCoordinator"
  let evidenceRefPrefix := coordinator.options.evidenceRefPrefix
  let context := coordinator.makeValidationContext request previousVersion candidateVersion
  let validation := coordinator.validationDecision request answers
  if !context.isValid then
    { coordinator := coordinator.recordFailure .validationFieldMissing "invalid_validation_context"
      result := some (.failure request.secretName previousVersion candidateVersion
        (evidenceRefPrefix ++ str "validation/invalid_context/" ++ request.secretName)
        .validationFieldMissing (str "secret rotation validation context is incomplete")
        (str "secret.rotate.validate") sourceRef false) }
  else if !validation.isValid then
    { coordinator :=
        coordinator.recordFailure (mapSecretErrorCode .rotationValidationFailed)
          "validator_contract_invalid"
      result := some (makeRotationFailure request.secretName previousVersion candidateVersion
        .rotationValidationFailed
        (str "rotation validator returned an invalid decision payload")
        (str "secret.rotate.validate")
        (evidenceRefPrefix ++ str "validation/invalid_payload/" ++ request.secretName)
        .failed false) }
  else if !validation.accepted then
    { coordinator :=
        (coordinator.recordState request.secretName
          { previousVersion
            currentVersion := previousVersion
            rotationEpoch := coordinator.nextRotationEpochFor request.secretName
            validationState := .failed
            rollbackReady := validation.rollbackReady }).recordFailure
          (mapSecretErrorCode .rotationValidationFailed) "validation_failed"
      result := some (makeRotationFailure request.secretName previousVersion candidateVersion
        .rotationValidationFailed
        (validation.reasonCode ++ str ": " ++ extractErrorMessage validation.errorInfo
          (str "rotation validator rejected the candidate version"))
        (str "secret.rotate.validate") validation.evidenceRef .failed validation.rollbackReady) }
  else if request.validateOnly then
    { coordinator := coordinator.recordSuccess "validate_only"
      result := some (.success request.secretName previousVersion candidateVersion
        validation.evidenceRef validation.rollbackReady) }
  else coordinator.promoteCandidate request answers previousVersion candidateVersion

/-- Whether `rotate` goes on to derive a candidate from the version that the backend reports. -/
def reachesVersion (coordinator : SecretRotationCoordinator) (request : RotationRequest)
    (answers : RotationAnswers) : Bool :=
  request.isValid && !(request.strategy = .dualSlot && !coordinator.options.dualSlotEnabled) &&
    answers.fetched.ok

def rotate (coordinator : SecretRotationCoordinator) (request : RotationRequest)
    (answers : RotationAnswers) : RotationOutcome :=
  let sourceRef := str "SecretRotationCoordinator"
  let evidenceRefPrefix := coordinator.options.evidenceRefPrefix
  if !request.isValid then
    { coordinator := coordinator.recordFailure .validationFieldMissing "invalid_request"
      result := some (.failure request.secretName [] [] (evidenceRefPrefix ++ str "invalid_request")
        .validationFieldMissing
        (str "secret rotation coordinator requires a valid rotation request")
        (str "secret.rotate") sourceRef false) }
  else if request.strategy = .dualSlot && !coordinator.options.dualSlotEnabled then
    { coordinator :=
        coordinator.recordFailure (mapSecretErrorCode .rotationValidationFailed)
          "dual_slot_disabled"
      result := some (makeRotationFailure request.secretName [] [] .rotationValidationFailed
        (str "dual-slot rotation is disabled by the current secret rotation options")
        (str "secret.rotate.validate")
        (evidenceRefPrefix ++ str "validation/dual_slot_disabled") .failed false) }
  else if !answers.fetched.ok then
    let resultCode := answers.fetched.resultCode.getD .providerTimeout
    { coordinator := coordinator.recordFailure resultCode "fetch_failed"
      result := some (.failure request.secretName [] []
        (evidenceRefPrefix ++ str "fetch_failed/" ++ request.secretName) resultCode
        (extractErrorMessage answers.fetched.errorInfo
          (str "secret backend fetch failed during rotate"))
        (str "secret.rotate.fetch") sourceRef false) }
  else
    match deriveCandidateVersion answers.fetched.record.version with
    | none => { coordinator, result := none }
    | some candidateVersion =>
      coordinator.validateCandidate request answers answers.fetched.record.version candidateVersion

end SecretRotationCoordinator

/-!
## What a rotation comes to

The outcomes of `rotate` by what they record and what they ask of the backend, and the candidate
version, which never is the current one.
-/

structure RotationCall where
  request : RotationRequest
  answers : RotationAnswers
deriving DecidableEq

/-! ## The outcomes -/

namespace SecretRotationCoordinator

/-- The validator is asked, and its decision can be used. -/
def decides (coordinator : SecretRotationCoordinator) (call : RotationCall) : Bool :=
  coordinator.reachesVersion call.request call.answers &&
    (deriveCandidateVersion call.answers.fetched.record.version).any (fun candidateVersion =>
      (coordinator.makeValidationContext call.request call.answers.fetched.record.version
        candidateVersion).isValid) &&
    (coordinator.validationDecision call.request call.answers).isValid

def rejects (coordinator : SecretRotationCoordinator) (call : RotationCall) : Bool :=
  coordinator.decides call && !(coordinator.validationDecision call.request call.answers).accepted

/-- The backend is offered a promotion. -/
def promotes (coordinator : SecretRotationCoordinator) (call : RotationCall) : Bool :=
  coordinator.decides call && (coordinator.validationDecision call.request call.answers).accepted &&
    !call.request.validateOnly

/-- The promotion that the backend is offered. -/
def promotion (coordinator : SecretRotationCoordinator) (call : RotationCall)
    (candidateVersion : Bytes) : SecretVersionPromotionRequest :=
  { secretName := call.request.secretName
    previousVersion := call.answers.fetched.record.version
    candidateVersion
    rotationEpoch := coordinator.nextRotationEpochFor call.request.secretName }

/-- The promotion back, after a revocation that failed. -/
def rollbackPromotion (coordinator : SecretRotationCoordinator) (call : RotationCall)
    (candidateVersion : Bytes) : SecretVersionPromotionRequest :=
  { secretName := call.request.secretName
    previousVersion := candidateVersion
    candidateVersion := call.answers.fetched.record.version
    rotationEpoch := max (coordinator.options.initialRotationEpoch + 1)
      (coordinator.nextRotationEpochFor call.request.secretName + 1) }

/-- The result names the version that the backend reported, and the candidate. -/
def Names (coordinator : SecretRotationCoordinator) (call : RotationCall)
    (result : RotationResult) : Prop :=
  coordinator.reachesVersion call.request call.answers = true →
    result.previousVersion = call.answers.fetched.record.version ∧
      deriveCandidateVersion call.answers.fetched.record.version = some result.currentVersion

/-- The outcomes of `rotate`, by what they record and what they ask of the backend. -/
inductive Rotation (coordinator : SecretRotationCoordinator) (call : RotationCall) :
    RotationOutcome → Prop
  | stopped (next : SecretRotationCoordinator) (result : RotationResult)
    (hrejects : coordinator.rejects call = false) (hpromotes : coordinator.promotes call = false)
    (hstates : next.rotationStates = coordinator.rotationStates)
    (hoptions : next.options = coordinator.options) (hnames : coordinator.Names call result) :
    Rotation coordinator call { coordinator := next, result := some result }
  | thrown (hreaches : coordinator.reachesVersion call.request call.answers = true)
    (hderive : deriveCandidateVersion call.answers.fetched.record.version = none) :
    Rotation coordinator call { coordinator, result := none }
  | rejected (next : SecretRotationCoordinator) (result : RotationResult) (state : RotationState)
    (hrejects : coordinator.rejects call = true)
    (hstates : next.rotationStates =
      coordinator.rotationStates.insert call.request.secretName state)
    (hoptions : next.options = coordinator.options) (hnames : coordinator.Names call result)
    (hepoch : state.rotationEpoch = coordinator.nextRotationEpochFor call.request.secretName) :
    Rotation coordinator call { coordinator := next, result := some result }
  | refused (next : SecretRotationCoordinator) (candidateVersion : Bytes)
    (hpromotes : coordinator.promotes call = true)
    (hrotated : call.answers.promoted.rotated = false)
    (hstates : next.rotationStates = coordinator.rotationStates)
    (hoptions : next.options = coordinator.options) :
    Rotation coordinator call
      { coordinator := next
        calls := [.promote (coordinator.promotion call candidateVersion) false]
        result := some call.answers.promoted }
  | deferred (next : SecretRotationCoordinator) (candidateVersion : Bytes) (result : RotationResult)
    (state : RotationState) (hpromotes : coordinator.promotes call = true)
    (hrotated : call.answers.promoted.rotated = true)
    (hdefers : coordinator.defersRevoke call.request = true)
    (hstates : next.rotationStates =
      coordinator.rotationStates.insert call.request.secretName state)
    (hoptions : next.options = coordinator.options) (hnames : coordinator.Names call result)
    (hresult : result.rotated = true ∧ result.rollbackReady = true ∧
      result.secretName = call.request.secretName ∧
      result.previousVersion = call.answers.fetched.record.version)
    (hstate : state.revokePending = true ∧
      state.previousVersion = call.answers.fetched.record.version ∧
      state.rotationEpoch = coordinator.nextRotationEpochFor call.request.secretName) :
    Rotation coordinator call
      { coordinator := next
        calls := [.promote (coordinator.promotion call candidateVersion) true]
        result := some result }
  | ready (next : SecretRotationCoordinator) (candidateVersion : Bytes) (result : RotationResult)
    (state : RotationState) (hpromotes : coordinator.promotes call = true)
    (hrotated : call.answers.promoted.rotated = true)
    (hdefers : coordinator.defersRevoke call.request = false)
    (hrevoked : call.answers.revoked.ok = true)
    (hstates : next.rotationStates =
      coordinator.rotationStates.insert call.request.secretName state)
    (hoptions : next.options = coordinator.options) (hnames : coordinator.Names call result)
    (hresult : result.rollbackReady = false)
    (hepoch : state.rotationEpoch = coordinator.nextRotationEpochFor call.request.secretName) :
    Rotation coordinator call
      { coordinator := next
        calls := [.promote (coordinator.promotion call candidateVersion) true,
          .revoke call.request.secretName call.answers.fetched.record.version true]
        result := some result }
  | rolledBack (next : SecretRotationCoordinator) (candidateVersion : Bytes)
    (result : RotationResult) (state : RotationState) (back : Bool)
    (hback : call.answers.rolledBack.rotated = back)
    (hpromotes : coordinator.promotes call = true)
    (hrotated : call.answers.promoted.rotated = true)
    (hdefers : coordinator.defersRevoke call.request = false)
    (hrevoked : call.answers.revoked.ok = false)
    (hstates : next.rotationStates =
      coordinator.rotationStates.insert call.request.secretName state)
    (hoptions : next.options = coordinator.options) (hnames : coordinator.Names call result)
    (hresult : result.rotated = false)
    (hepoch : state.rotationEpoch =
      if back then
        (coordinator.rollbackPromotion call candidateVersion).rotationEpoch
      else coordinator.nextRotationEpochFor call.request.secretName) :
    Rotation coordinator call
      { coordinator := next
        calls := [.promote (coordinator.promotion call candidateVersion) true,
          .revoke call.request.secretName call.answers.fetched.record.version false,
          .promote (coordinator.rollbackPromotion call candidateVersion) back]
        result := some result }

variable (coordinator : SecretRotationCoordinator) (call : RotationCall) (candidateVersion : Bytes)

theorem promoteCandidate_cases (hpromotes : coordinator.promotes call = true)
    (hderive : deriveCandidateVersion call.answers.fetched.record.version = some candidateVersion) :
    coordinator.Rotation call (coordinator.promoteCandidate call.request call.answers
      call.answers.fetched.record.version candidateVersion) := by
  unfold promoteCandidate
  dsimp only
  split
  · next hrotated =>
    exact .refused _ candidateVersion hpromotes (by simpa using hrotated) rfl rfl
  next hrotated =>
    have hrotated : call.answers.promoted.rotated = true := by simpa using hrotated
    split
    · next hdefers =>
      exact .deferred _ candidateVersion _ _ hpromotes hrotated hdefers rfl rfl
        (fun _ => ⟨rfl, hderive⟩) ⟨rfl, rfl, rfl, rfl⟩ ⟨rfl, rfl, rfl⟩
    next hdefers =>
      have hdefers : coordinator.defersRevoke call.request = false := by simpa using hdefers
      split
      · next hrevoked =>
        have hrevoked : call.answers.revoked.ok = false := by simpa using hrevoked
        unfold rollback
        dsimp only
        split
        · next hback =>
          exact .rolledBack _ candidateVersion _ _ false (by simpa using hback) hpromotes hrotated
            hdefers hrevoked rfl rfl (fun _ => ⟨rfl, hderive⟩) rfl rfl
        · next hback =>
          exact .rolledBack _ candidateVersion _ _ true (by simpa using hback) hpromotes hrotated
            hdefers hrevoked rfl rfl (fun _ => ⟨rfl, hderive⟩) rfl rfl
      · next hrevoked =>
        exact .ready _ candidateVersion _ _ hpromotes hrotated hdefers (by simpa using hrevoked) rfl
          rfl (fun _ => ⟨rfl, hderive⟩) rfl rfl

theorem validateCandidate_cases
    (hreaches : coordinator.reachesVersion call.request call.answers = true)
    (hderive : deriveCandidateVersion call.answers.fetched.record.version = some candidateVersion) :
    coordinator.Rotation call (coordinator.validateCandidate call.request call.answers
      call.answers.fetched.record.version candidateVersion) := by
  have hdecides : coordinator.decides call =
      ((coordinator.makeValidationContext call.request call.answers.fetched.record.version
          candidateVersion).isValid &&
        (coordinator.validationDecision call.request call.answers).isValid) := by
    simp [decides, hreaches, hderive]
  unfold validateCandidate
  dsimp only
  split
  · next hcontext =>
    have hno : coordinator.decides call = false := by
      rw [hdecides, Bool.and_eq_false_iff]
      exact Or.inl (by simpa using hcontext)
    exact .stopped _ _ (by simp [rejects, hno]) (by simp [promotes, hno]) rfl rfl
      fun _ => ⟨rfl, hderive⟩
  split
  · next hcontext hdecision =>
    have hno : coordinator.decides call = false := by
      rw [hdecides, Bool.and_eq_false_iff]
      exact Or.inr (by simpa using hdecision)
    exact .stopped _ _ (by simp [rejects, hno]) (by simp [promotes, hno]) rfl rfl
      fun _ => ⟨rfl, hderive⟩
  next hcontext hdecision =>
    have hyes : coordinator.decides call = true := by
      rw [hdecides, Bool.and_eq_true]
      exact ⟨by simpa using hcontext, by simpa using hdecision⟩
    split
    · next haccepted =>
      exact .rejected _ _ _ (by simpa [rejects, hyes] using haccepted) rfl rfl
        (fun _ => ⟨rfl, hderive⟩) rfl
    next haccepted =>
      split
      · next honly =>
        exact .stopped _ _ (by simpa [rejects, hyes] using haccepted) (by simp [promotes, honly]) rfl
          rfl fun _ => ⟨rfl, hderive⟩
      · next hgoes =>
        have hpromotes : coordinator.promotes call = true := by
          simp only [promotes, hyes, Bool.true_and, Bool.and_eq_true]
          exact ⟨by simpa using haccepted, by simpa using hgoes⟩
        exact promoteCandidate_cases coordinator call candidateVersion hpromotes hderive

theorem rotate_cases :
    coordinator.Rotation call (coordinator.rotate call.request call.answers) := by
  have hidle (h : coordinator.decides call = false) :
      coordinator.rejects call = false ∧ coordinator.promotes call = false := by
    simp [rejects, promotes, h]
  have hunreached (h : coordinator.reachesVersion call.request call.answers = false) :
      coordinator.decides call = false := by
    simp [decides, h]
  unfold rotate
  dsimp only
  split
  · next hinvalid =>
    have hreaches : coordinator.reachesVersion call.request call.answers = false := by
      simp only [reachesVersion, Bool.and_eq_false_iff]
      exact Or.inl (Or.inl (by simpa using hinvalid))
    obtain ⟨hrejects, hpromotes⟩ := hidle (hunreached hreaches)
    exact .stopped _ _ hrejects hpromotes rfl rfl fun h => absurd h (by simp [hreaches])
  split
  · next hvalid hslot =>
    have hreaches : coordinator.reachesVersion call.request call.answers = false := by
      simp only [reachesVersion, Bool.and_eq_false_iff]
      exact Or.inl (Or.inr (by rw [hslot]; rfl))
    obtain ⟨hrejects, hpromotes⟩ := hidle (hunreached hreaches)
    exact .stopped _ _ hrejects hpromotes rfl rfl fun h => absurd h (by simp [hreaches])
  split
  · next hvalid hslot hfetched =>
    have hreaches : coordinator.reachesVersion call.request call.answers = false := by
      simp only [reachesVersion, Bool.and_eq_false_iff]
      exact Or.inr (by simpa using hfetched)
    obtain ⟨hrejects, hpromotes⟩ := hidle (hunreached hreaches)
    exact .stopped _ _ hrejects hpromotes rfl rfl fun h => absurd h (by simp [hreaches])
  next hvalid hslot hfetched =>
    have hreaches : coordinator.reachesVersion call.request call.answers = true := by
      simp only [reachesVersion, Bool.and_eq_true]
      exact ⟨⟨by simpa using hvalid, by rw [eq_false_of_ne_true hslot]; rfl⟩, by simpa using hfetched⟩
    split
    · next hderive => exact .thrown hreaches hderive
    · next candidateVersion hderive =>
      exact validateCandidate_cases coordinator call candidateVersion hreaches hderive

end SecretRotationCoordinator

/-! ## The candidate version -/

theorem isNumericVersion_spec (version : Bytes) (h : isNumericVersion version = true) :
    version = 118 :: version.tail ∧ version.tail ≠ [] ∧ ∀ b ∈ version.tail, isDigit b = true := by
  unfold isNumericVersion at h
  split at h
  · next digits =>
    simp only [Bool.and_eq_true, decide_eq_true_eq, List.all_eq_true] at h
    exact ⟨rfl, h.1, h.2⟩
  · exact nomatch h

theorem derive_none_iff (version : Bytes) :
    deriveCandidateVersion version = none ↔
      isNumericVersion version = true ∧ 2 ^ 64 ≤ digitsValue version.tail := by
  unfold deriveCandidateVersion
  split
  · next hnumeric =>
    obtain ⟨-, hne, hdigits⟩ := isNumericVersion_spec version hnumeric
    rw [stoull_digits _ hne hdigits]
    split
    · next hlarge => exact iff_of_true rfl ⟨hnumeric, hlarge⟩
    · next hsmall => exact iff_of_false (by simp) fun h => hsmall h.2
  · next hnamed => simp [hnamed]

theorem derive_ne (version candidateVersion : Bytes)
    (h : deriveCandidateVersion version = some candidateVersion) : candidateVersion ≠ version := by
  unfold deriveCandidateVersion at h
  split at h
  · next hnumeric =>
    obtain ⟨hversion, hne, hdigits⟩ := isNumericVersion_spec version hnumeric
    rw [stoull_digits _ hne hdigits] at h
    split at h
    · exact nomatch h
    next hsmall =>
      have hcandidate := Option.some.inj h
      rintro rfl
      have htail : decimal (UInt64.ofNat (digitsValue candidateVersion.tail) + 1).toNat =
          candidateVersion.tail := by
        rw [hversion] at hcandidate
        exact (List.cons.inj hcandidate).2
      -- the value of the digits would be its own successor modulo 2^64
      have hvalue := congrArg digitsValue htail
      rw [digitsValue_decimal, UInt64.toNat_add] at hvalue
      simp at hvalue hsmall
      omega
  · obtain rfl := (Option.some.inj h).symm
    intro hsame
    have hlength := congrArg List.length hsame
    rw [List.length_append] at hlength
    have hsuffix : (str ".candidate").length = 10 := by decide +kernel
    omega

end Dasall.Infra.Secret
