import Dasall.Lib.Best
import Dasall.Lib.Text

/-!
# The adapter router

The kinds of route are tried in an order, and on the first that can be used and has a candidate the
most available candidate is selected. Without a licence to degrade only the first place of the order
is tried, whether or not its kind can be used.
-/

open Dasall.Lib Dasall.Lib.Text

namespace Dasall.Services.Adapters

inductive AdapterRouteKind
  | localPlatform
  | localService
  | remoteService
deriving DecidableEq

inductive AdapterTrustClass
  | untrusted
  | callerVerified
  | trustedLocal
deriving DecidableEq

inductive AdapterAvailabilityState
  | available
  | degraded
  | unavailable
  | unknown
deriving DecidableEq

inductive AdapterRouteRequestKind
  | action
  | query
deriving DecidableEq

inductive AdapterRouteFailure
  | invalidRequest
  | capabilityUnsupported
  | routeUnavailable
  | fallbackBlocked
  | routeNotPermitted
deriving DecidableEq

structure ServicePolicyView where
  localPlatformRouteEnabled : Bool := false
  adapterPreferenceOrder : List AdapterRouteKind := []

structure CapabilitySnapshotView where
  capabilityId : Bytes
  supportedActions : List Bytes := []
  supportedQueries : List Bytes := []
  routeClasses : List AdapterRouteKind := []
  preferredLocality : Option AdapterRouteKind := none

structure FallbackEnvelope where
  orderedCandidates : List AdapterRouteKind := []
  routeEquivalenceClass : Bytes := []
  allowDegrade : Bool := false
  denyReasonOnExhaustion : Bytes := []

structure AdapterCandidateView where
  adapterId : Bytes
  routeKind : AdapterRouteKind := .localService
  routeEquivalenceClass : Bytes := []
  trustClass : AdapterTrustClass := .untrusted
  availabilityState : AdapterAvailabilityState := .unknown
  supportedCapabilities : List Bytes := []

structure AdapterSelection where
  routeKind : AdapterRouteKind
  adapterId : Bytes
  targetId : Bytes
  routeEquivalenceClass : Bytes
  fallbackHop : UInt32
  selectedReason : Bytes
  trustClass : AdapterTrustClass
  availabilityState : AdapterAvailabilityState

structure AdapterRouteRequest where
  capabilityId : Bytes
  targetId : Bytes
  requestKind : AdapterRouteRequestKind := .action
  requestedOperation : Bytes
  highRisk : Bool := false
  minimumTrust : AdapterTrustClass := .untrusted
  policyView : ServicePolicyView := {}
  capabilitySnapshot : CapabilitySnapshotView
  fallbackEnvelope : FallbackEnvelope := {}
  registeredCandidates : List AdapterCandidateView := []

structure AdapterRouteDecision where
  selection : Option AdapterSelection
  failure : AdapterRouteFailure := .routeUnavailable
  reason : Bytes

def trustRank : AdapterTrustClass → Nat
  | .trustedLocal => 3
  | .callerVerified => 2
  | .untrusted => 1

def availabilityRank : AdapterAvailabilityState → Nat
  | .available => 3
  | .degraded => 2
  | .unavailable | .unknown => 0

def operationSupported (request : AdapterRouteRequest) : Bool :=
  if request.requestKind = .action then
    request.capabilitySnapshot.supportedActions.contains request.requestedOperation
  else request.capabilitySnapshot.supportedQueries.contains request.requestedOperation

def appendUnique (values : List AdapterRouteKind) (target : AdapterRouteKind) :
    List AdapterRouteKind :=
  if values.contains target then values else values ++ [target]

def buildRouteOrder (request : AdapterRouteRequest) : List AdapterRouteKind :=
  if request.fallbackEnvelope.orderedCandidates ≠ [] then request.fallbackEnvelope.orderedCandidates
  else
    (request.capabilitySnapshot.preferredLocality.toList ++
      request.policyView.adapterPreferenceOrder ++
      request.capabilitySnapshot.routeClasses).foldl appendUnique []

def makeFailure (failure : AdapterRouteFailure) (reason : Bytes) : AdapterRouteDecision :=
  { selection := none, failure, reason }

/-- What was seen on the routes that were tried. -/
structure Seen where
  supportedRoute : Bool := false
  candidateForSupportedRoute : Bool := false
  trustRejection : Bool := false
  equivalenceRejection : Bool := false
  availabilityRejection : Bool := false
  noDegradeBlock : Bool := false

/-- The best candidate so far, and what was seen. -/
structure Scan where
  seen : Seen
  bestCandidate : Option AdapterCandidateView

/-- The body of the loop over the candidates, on one kind of route. -/
def scanCandidate (request : AdapterRouteRequest) (routeKind : AdapterRouteKind) (scan : Scan)
    (candidate : AdapterCandidateView) : Scan :=
  if candidate.routeKind ≠ routeKind then scan
  else if !candidate.supportedCapabilities.contains request.capabilityId then scan
  else
    let scan := { scan with seen := { scan.seen with candidateForSupportedRoute := true } }
    if request.fallbackEnvelope.routeEquivalenceClass ≠ [] ∧
        candidate.routeEquivalenceClass ≠ request.fallbackEnvelope.routeEquivalenceClass then
      { scan with seen := { scan.seen with equivalenceRejection := true } }
    else if trustRank candidate.trustClass < trustRank request.minimumTrust then
      { scan with seen := { scan.seen with trustRejection := true } }
    else if availabilityRank candidate.availabilityState = 0 then
      { scan with seen := { scan.seen with availabilityRejection := true } }
    else
      match scan.bestCandidate with
      | none => { scan with bestCandidate := some candidate }
      | some best =>
        if availabilityRank best.availabilityState < availabilityRank candidate.availabilityState then
          { scan with bestCandidate := some candidate }
        else scan

def isLocalPlatformDisabled (request : AdapterRouteRequest) (routeKind : AdapterRouteKind) : Bool :=
  routeKind = .localPlatform && !request.policyView.localPlatformRouteEnabled

/-- The loop over the order: the selected candidate with its place, or what was seen. -/
def routeLoop (request : AdapterRouteRequest) :
    Nat → Seen → List AdapterRouteKind → Except Seen (AdapterCandidateView × Nat)
  | _, seen, [] => .error seen
  | routeIndex, seen, routeKind :: rest =>
    if !request.capabilitySnapshot.routeClasses.contains routeKind then
      routeLoop request (routeIndex + 1) seen rest
    else
      let seen := { seen with supportedRoute := true }
      if isLocalPlatformDisabled request routeKind then
        routeLoop request (routeIndex + 1) seen rest
      else if 0 < routeIndex ∧ request.fallbackEnvelope.allowDegrade = false then
        .error { seen with noDegradeBlock := true }
      else
        let scan := request.registeredCandidates.foldl (scanCandidate request routeKind)
          { seen, bestCandidate := none }
        match scan.bestCandidate with
        | none => routeLoop request (routeIndex + 1) scan.seen rest
        | some candidate => .ok (candidate, routeIndex)

def makeSelection (request : AdapterRouteRequest) (candidate : AdapterCandidateView)
    (routeIndex : Nat) : AdapterRouteDecision :=
  let selectionReason :=
    if routeIndex = 0 then str "preferred_route_selected" else str "fallback_route_selected"
  { selection := some
      { routeKind := candidate.routeKind
        adapterId := candidate.adapterId
        targetId := request.targetId
        routeEquivalenceClass := candidate.routeEquivalenceClass
        fallbackHop := UInt32.ofNat routeIndex
        selectedReason := selectionReason
        trustClass := candidate.trustClass
        availabilityState := candidate.availabilityState }
    reason := selectionReason }

def makeRouteFailure (request : AdapterRouteRequest) (seen : Seen) : AdapterRouteDecision :=
  if seen.noDegradeBlock || seen.equivalenceRejection then
    makeFailure .fallbackBlocked
      (if request.fallbackEnvelope.denyReasonOnExhaustion = [] then
        str "fallback is blocked outside the runtime envelope"
      else request.fallbackEnvelope.denyReasonOnExhaustion)
  else if seen.trustRejection then
    makeFailure .routeNotPermitted (str "candidate trust_class is below the required route trust")
  else if seen.supportedRoute &&
      (seen.candidateForSupportedRoute || seen.availabilityRejection || request.highRisk) then
    makeFailure .routeUnavailable
      (str "supported routes exist but no candidate is currently selectable")
  else
    makeFailure .capabilityUnsupported
      (str "CapabilitySnapshotView does not advertise any eligible route_kind")

def selectAdapter (request : AdapterRouteRequest) : AdapterRouteDecision :=
  if request.capabilityId = [] ∨ request.targetId = [] ∨ request.requestedOperation = [] then
    makeFailure .invalidRequest
      (str "capability_id, target_id, and requested_operation are required")
  else if request.capabilitySnapshot.capabilityId ≠ request.capabilityId then
    makeFailure .capabilityUnsupported
      (str "capability snapshot does not match the requested capability_id")
  else if !operationSupported request then
    makeFailure .capabilityUnsupported
      (str "requested operation is not declared in CapabilitySnapshotView")
  else if buildRouteOrder request = [] then
    makeFailure .routeUnavailable
      (str "no route candidates are available in policy or fallback envelope")
  else
    match routeLoop request 0 {} (buildRouteOrder request) with
    | .ok (candidate, routeIndex) => makeSelection request candidate routeIndex
    | .error seen => makeRouteFailure request seen

/-! ## What may be selected -/

variable (request : AdapterRouteRequest)

/-- The kind is advertised, and is not a local platform that is disabled. -/
def Usable (routeKind : AdapterRouteKind) : Prop :=
  routeKind ∈ request.capabilitySnapshot.routeClasses ∧
    (routeKind = .localPlatform → request.policyView.localPlatformRouteEnabled = true)

structure Serves (candidate : AdapterCandidateView) : Prop where
  registered : candidate ∈ request.registeredCandidates
  capability : request.capabilityId ∈ candidate.supportedCapabilities
  equivalence : request.fallbackEnvelope.routeEquivalenceClass ≠ [] →
    candidate.routeEquivalenceClass = request.fallbackEnvelope.routeEquivalenceClass
  trust : trustRank request.minimumTrust ≤ trustRank candidate.trustClass
  available : candidate.availabilityState = .available ∨ candidate.availabilityState = .degraded

/-- A place of the order whose kind can be used, with the places before it. -/
def PlaceOf (before : List AdapterRouteKind) (routeKind : AdapterRouteKind) : Prop :=
  Usable request routeKind ∧ ∃ after, buildRouteOrder request = before ++ routeKind :: after

/-- The first place that can be used, where the selection may not degrade. -/
def Permitted (before : List AdapterRouteKind) : Prop :=
  request.fallbackEnvelope.allowDegrade = true ∨ ∀ earlier ∈ before, ¬ Usable request earlier

/-- A candidate that the router may select. -/
def Eligible (candidate : AdapterCandidateView) : Prop :=
  Serves request candidate ∧ ∃ before, PlaceOf request before candidate.routeKind ∧
    Permitted request before

/-- The candidate is the one to select. -/
structure Chosen (candidate : AdapterCandidateView) : Prop where
  serves : Serves request candidate
  place : ∃ before, PlaceOf request before candidate.routeKind ∧ Permitted request before ∧
    ∀ earlier ∈ before, Usable request earlier → ∀ other, Serves request other →
      other.routeKind ≠ earlier
  best : ∀ other, Serves request other → other.routeKind = candidate.routeKind →
    availabilityRank other.availabilityState ≤ availabilityRank candidate.availabilityState

/-- The selection describes the candidate. -/
def Describes (selection : AdapterSelection) (candidate : AdapterCandidateView) : Prop :=
  selection.routeKind = candidate.routeKind ∧ selection.adapterId = candidate.adapterId ∧
    selection.targetId = request.targetId ∧
    selection.routeEquivalenceClass = candidate.routeEquivalenceClass ∧
    selection.trustClass = candidate.trustClass ∧
    selection.availabilityState = candidate.availabilityState

structure RoutesWell (decision : AdapterRouteDecision) : Prop where
  sound : ∀ selection, decision.selection = some selection →
    ∃ candidate, Describes request selection candidate ∧ Chosen request candidate
  complete : decision.selection = none → ∀ candidate, ¬ Eligible request candidate

/-- The request has its fields, and the snapshot declares what it asks for. -/
structure WellFormed : Prop where
  fields : request.capabilityId ≠ [] ∧ request.targetId ≠ [] ∧ request.requestedOperation ≠ []
  snapshot : request.capabilitySnapshot.capabilityId = request.capabilityId
  operation : operationSupported request = true

/-! ## One kind of route -/

/-- The candidate passes the checks on a kind of route. -/
def passes (routeKind : AdapterRouteKind) (candidate : AdapterCandidateView) : Bool :=
  candidate.routeKind = routeKind && candidate.supportedCapabilities.contains request.capabilityId &&
    !(request.fallbackEnvelope.routeEquivalenceClass ≠ [] &&
      candidate.routeEquivalenceClass ≠ request.fallbackEnvelope.routeEquivalenceClass) &&
    !(trustRank candidate.trustClass < trustRank request.minimumTrust) &&
    availabilityRank candidate.availabilityState ≠ 0

def moreAvailable (first second : AdapterCandidateView) : Bool :=
  availabilityRank second.availabilityState < availabilityRank first.availabilityState

def bestOn (routeKind : AdapterRouteKind) : Option AdapterCandidateView :=
  Best.best moreAvailable (request.registeredCandidates.filter (passes request routeKind))

variable {request} {routeKind : AdapterRouteKind}

theorem scanCandidate_best (scan : Scan) (candidate : AdapterCandidateView) :
    (scanCandidate request routeKind scan candidate).bestCandidate =
      if passes request routeKind candidate then
        Best.keepBetter moreAvailable scan.bestCandidate candidate
      else scan.bestCandidate := by
  unfold scanCandidate passes Best.keepBetter moreAvailable
  by_cases hkind : candidate.routeKind = routeKind
  · by_cases hcapability : candidate.supportedCapabilities.contains request.capabilityId = true
    · simp only [hkind, hcapability, ne_eq, not_true_eq_false, if_false, Bool.not_true,
        Bool.false_eq_true]
      split
      · next hother => simp [hother]
      · next hsame =>
        split
        · next htrust => simp [htrust]
        · next htrusted =>
          split
          · next hnone => simp [hnone]
          · next havailable =>
            have hchecks : (!(decide ¬request.fallbackEnvelope.routeEquivalenceClass = [] &&
                decide ¬candidate.routeEquivalenceClass =
                  request.fallbackEnvelope.routeEquivalenceClass)) = true := by
              rw [Bool.not_eq_true', Bool.and_eq_false_iff, decide_eq_false_iff_not,
                decide_eq_false_iff_not]
              exact not_and_or.mp hsame
            rw [hchecks]
            simp only [htrusted, havailable, decide_true, decide_false, Bool.and_self, Bool.not_false,
              not_false_eq_true, if_true]
            cases scan.bestCandidate with
            | none => rfl
            | some best =>
              simp only [decide_eq_true_eq]
              split <;> rfl
    · rw [Bool.not_eq_true] at hcapability
      simp only [hkind, hcapability, ne_eq, not_true_eq_false, if_false, Bool.not_false, if_true,
        Bool.and_false, Bool.false_and, Bool.false_eq_true]
  · simp [hkind]

theorem foldl_scanCandidate (candidates : List AdapterCandidateView) (scan : Scan) :
    (candidates.foldl (scanCandidate request routeKind) scan).bestCandidate =
      (candidates.filter (passes request routeKind)).foldl (Best.keepBetter moreAvailable)
        scan.bestCandidate := by
  induction candidates generalizing scan with
  | nil => rfl
  | cons candidate candidates ih =>
    rw [List.foldl_cons, ih, scanCandidate_best, List.filter_cons]
    split
    · rw [List.foldl_cons]
    · rfl

variable {candidate : AdapterCandidateView}

theorem passes_iff
    (hregistered : candidate ∈ request.registeredCandidates) :
    passes request routeKind candidate = true ↔
      Serves request candidate ∧ candidate.routeKind = routeKind := by
  have havailable : ∀ state, availabilityRank state ≠ 0 ↔ state = .available ∨ state = .degraded := by
    intro state
    cases state <;> decide
  unfold passes
  simp only [Bool.and_eq_true, decide_eq_true_eq, List.contains_iff_mem, Bool.not_eq_true',
    Bool.and_eq_false_iff, decide_eq_false_iff_not, not_lt, not_not, havailable]
  constructor
  · rintro ⟨⟨⟨⟨hkind, hcapability⟩, hequivalence⟩, htrust⟩, hstate⟩
    refine ⟨⟨hregistered, hcapability, fun hclass => ?_, htrust, hstate⟩, hkind⟩
    rcases hequivalence with hnone | hsame
    · exact absurd hnone hclass
    · exact hsame
  · rintro ⟨hserves, hkind⟩
    refine ⟨⟨⟨⟨hkind, hserves.capability⟩, ?_⟩, hserves.trust⟩, hserves.available⟩
    by_cases hclass : request.fallbackEnvelope.routeEquivalenceClass = []
    · exact .inl hclass
    · exact .inr (hserves.equivalence hclass)

theorem bestOn_spec
    (h : bestOn request routeKind = some candidate) :
    (Serves request candidate ∧ candidate.routeKind = routeKind) ∧
      ∀ other, Serves request other → other.routeKind = routeKind →
        availabilityRank other.availabilityState ≤ availabilityRank candidate.availabilityState := by
  obtain ⟨hregistered, hpasses⟩ := List.mem_filter.mp (Best.best_mem moreAvailable h)
  refine ⟨(passes_iff hregistered).mp hpasses, fun other hserves hkind => ?_⟩
  have hother : other ∈ request.registeredCandidates.filter (passes request routeKind) :=
    List.mem_filter.mpr ⟨hserves.registered, (passes_iff hserves.registered).mpr ⟨hserves, hkind⟩⟩
  refine Best.best_rank moreAvailable (fun candidate => availabilityRank candidate.availabilityState)
    ?_ ?_ _ candidate h other hother
  · intro first second hmore
    exact le_of_lt (of_decide_eq_true hmore)
  · intro first second hnot
    exact not_lt.mp (of_decide_eq_false hnot)

theorem bestOn_eq_none_iff :
    bestOn request routeKind = none ↔
      ∀ candidate, Serves request candidate → candidate.routeKind ≠ routeKind := by
  constructor
  · intro h candidate hserves hkind
    have hnone := List.filter_eq_nil_iff.mp (Best.best_eq_none moreAvailable h) candidate
      hserves.registered
    exact hnone ((passes_iff hserves.registered).mpr ⟨hserves, hkind⟩)
  · intro h
    by_contra hsome
    obtain ⟨candidate, hcandidate⟩ := Option.ne_none_iff_exists'.mp hsome
    obtain ⟨⟨hserves, hkind⟩, -⟩ := bestOn_spec hcandidate
    exact h candidate hserves hkind

/-! ## The order -/

theorem usable_iff : Usable request routeKind ↔
    request.capabilitySnapshot.routeClasses.contains routeKind = true ∧
      isLocalPlatformDisabled request routeKind = false := by
  unfold Usable isLocalPlatformDisabled
  rw [List.contains_iff_mem]
  apply and_congr_right
  intro _
  cases routeKind <;> simp

/-- The body of the loop over the order, on a kind that can be used. -/
theorem routeLoop_usable (husable : Usable request routeKind) (routeIndex : Nat) (seen : Seen)
    (rest : List AdapterRouteKind) :
    ∃ later, routeLoop request routeIndex seen (routeKind :: rest) =
      if 0 < routeIndex ∧ request.fallbackEnvelope.allowDegrade = false then .error later
      else
        match bestOn request routeKind with
        | none => routeLoop request (routeIndex + 1) later rest
        | some candidate => .ok (candidate, routeIndex) := by
  obtain ⟨hadvertised, henabled⟩ := usable_iff.mp husable
  rw [routeLoop]
  simp only [hadvertised, henabled, Bool.not_true, Bool.false_eq_true, if_false,
    foldl_scanCandidate]
  split
  · exact ⟨_, rfl⟩
  · exact ⟨_, rfl⟩

theorem routeLoop_unusable (husable : ¬ Usable request routeKind) (routeIndex : Nat) (seen : Seen)
    (rest : List AdapterRouteKind) :
    ∃ later, routeLoop request routeIndex seen (routeKind :: rest) =
      routeLoop request (routeIndex + 1) later rest := by
  rw [usable_iff, not_and, Bool.not_eq_false] at husable
  rw [routeLoop]
  split
  · exact ⟨_, rfl⟩
  · next hadvertised =>
    rw [Bool.not_eq_true', Bool.not_eq_false] at hadvertised
    simp only [husable hadvertised, if_true]
    exact ⟨_, rfl⟩

theorem routeLoop_ok {routeIndex place : Nat} {seen : Seen} {order : List AdapterRouteKind}
    {candidate : AdapterCandidateView}
    (h : routeLoop request routeIndex seen order = .ok (candidate, place)) :
    ∃ before routeKind after, order = before ++ routeKind :: after ∧ Usable request routeKind ∧
      bestOn request routeKind = some candidate ∧
      (∀ earlier ∈ before, Usable request earlier → bestOn request earlier = none) ∧
      (request.fallbackEnvelope.allowDegrade = true ∨ routeIndex + before.length = 0) := by
  induction order generalizing routeIndex seen with
  | nil => cases h
  | cons first rest ih =>
    have hlater : ∀ later, routeLoop request (routeIndex + 1) later rest = .ok (candidate, place) →
        (Usable request first → bestOn request first = none) →
          ∃ before routeKind after, first :: rest = before ++ routeKind :: after ∧
            Usable request routeKind ∧ bestOn request routeKind = some candidate ∧
            (∀ earlier ∈ before, Usable request earlier → bestOn request earlier = none) ∧
            (request.fallbackEnvelope.allowDegrade = true ∨ routeIndex + before.length = 0) := by
      intro later hloop hfirst
      obtain ⟨before, routeKind, after, rfl, husable, hbest, hnone, hplace⟩ := ih hloop
      refine ⟨first :: before, routeKind, after, rfl, husable, hbest, ?_, ?_⟩
      · exact List.forall_mem_cons.mpr ⟨hfirst, hnone⟩
      · rcases hplace with hdegrade | hzero
        · exact .inl hdegrade
        · omega
    by_cases husable : Usable request first
    · obtain ⟨later, hstep⟩ := routeLoop_usable husable routeIndex seen rest
      rw [hstep] at h
      split at h
      · cases h
      · next hopen =>
        split at h
        · next hbest => exact hlater later h fun _ => hbest
        · next found hbest =>
          cases h
          refine ⟨[], first, rest, rfl, husable, hbest, by simp, ?_⟩
          rw [List.length_nil, ← Bool.not_eq_false]
          by_cases hdegrade : request.fallbackEnvelope.allowDegrade = false
          · have hzero : ¬ 0 < place := fun hpos => hopen ⟨hpos, hdegrade⟩
            exact .inr (by omega)
          · exact .inl hdegrade
    · obtain ⟨later, hstep⟩ := routeLoop_unusable husable routeIndex seen rest
      rw [hstep] at h
      exact hlater later h fun husable' => absurd husable' husable

theorem routeLoop_error {routeIndex : Nat} {seen last : Seen} {order : List AdapterRouteKind}
    (h : routeLoop request routeIndex seen order = .error last)
    {before after : List AdapterRouteKind} (horder : order = before ++ routeKind :: after)
    (husable : Usable request routeKind)
    (hplace : request.fallbackEnvelope.allowDegrade = true ∨ routeIndex + before.length = 0) :
    bestOn request routeKind = none := by
  induction order generalizing routeIndex seen before with
  | nil => simp at horder
  | cons first rest ih =>
    have hopen : ¬ (0 < routeIndex ∧ request.fallbackEnvelope.allowDegrade = false) := by
      rintro ⟨hpos, hdegrade⟩
      rcases hplace with hallowed | hzero
      · rw [hdegrade] at hallowed
        cases hallowed
      · omega
    cases before with
    | nil =>
      obtain ⟨rfl, rfl⟩ := List.cons.inj horder
      obtain ⟨later, hstep⟩ := routeLoop_usable husable routeIndex seen rest
      rw [hstep, if_neg hopen] at h
      split at h
      · next hbest => exact hbest
      · cases h
    | cons earlier before =>
      obtain ⟨rfl, hrest⟩ := List.cons.inj horder
      have hplace' : request.fallbackEnvelope.allowDegrade = true := by
        rcases hplace with hallowed | hzero
        · exact hallowed
        · rw [List.length_cons] at hzero
          omega
      by_cases hfirst : Usable request first
      · obtain ⟨later, hstep⟩ := routeLoop_usable hfirst routeIndex seen rest
        rw [hstep, if_neg hopen] at h
        split at h
        · exact ih h hrest (.inl hplace')
        · cases h
      · obtain ⟨later, hstep⟩ := routeLoop_unusable hfirst routeIndex seen rest
        rw [hstep] at h
        exact ih h hrest (.inl hplace')

/-! ## The decision -/

theorem selectAdapter_wellFormed (h : WellFormed request) (horder : buildRouteOrder request ≠ []) :
    selectAdapter request =
      match routeLoop request 0 {} (buildRouteOrder request) with
      | .ok (candidate, routeIndex) => makeSelection request candidate routeIndex
      | .error seen => makeRouteFailure request seen := by
  obtain ⟨hcapability, htarget, hoperation⟩ := h.fields
  unfold selectAdapter
  rw [if_neg (by simp [hcapability, htarget, hoperation]), if_neg (not_not.mpr h.snapshot),
    if_neg (by simp [h.operation]), if_neg horder]

theorem makeRouteFailure_selection (seen : Seen) :
    (makeRouteFailure request seen).selection = none := by
  unfold makeRouteFailure
  split
  · rfl
  · split
    · rfl
    · split <;> rfl

theorem wellFormed_of_selection {selection : AdapterSelection}
    (h : (selectAdapter request).selection = some selection) :
    WellFormed request ∧ buildRouteOrder request ≠ [] := by
  unfold selectAdapter at h
  split at h
  · cases h
  · next hfields =>
    rw [not_or, not_or] at hfields
    split at h
    · cases h
    · next hsnapshot =>
      split at h
      · cases h
      · next hoperation =>
        split at h
        · cases h
        · next horder =>
          exact ⟨⟨hfields, not_not.mp hsnapshot, by simpa using hoperation⟩, horder⟩

/-- A selection is of the candidate that the loop found. -/
theorem selection_found {selection : AdapterSelection}
    (h : (selectAdapter request).selection = some selection) :
    WellFormed request ∧ ∃ candidate place, Describes request selection candidate ∧
      routeLoop request 0 {} (buildRouteOrder request) = .ok (candidate, place) := by
  obtain ⟨hwell, horder⟩ := wellFormed_of_selection h
  refine ⟨hwell, ?_⟩
  rw [selectAdapter_wellFormed hwell horder] at h
  split at h
  · next candidate place hloop =>
    cases h
    exact ⟨candidate, place, ⟨rfl, rfl, rfl, rfl, rfl, rfl⟩, hloop⟩
  · rw [makeRouteFailure_selection] at h
    cases h

theorem chosen_of_loop {place : Nat}
    (h : routeLoop request 0 {} (buildRouteOrder request) = .ok (candidate, place)) :
    Chosen request candidate := by
  obtain ⟨before, routeKind, after, horder, husable, hbest, hnone, hplace⟩ := routeLoop_ok h
  obtain ⟨⟨hserves, rfl⟩, hmost⟩ := bestOn_spec hbest
  refine ⟨hserves, ⟨before, ⟨husable, after, horder⟩, ?_, ?_⟩, hmost⟩
  · rcases hplace with hdegrade | hzero
    · exact .inl hdegrade
    · right
      rw [Nat.zero_add, List.length_eq_zero_iff] at hzero
      rw [hzero]
      simp
  · intro earlier hearlier husable' other hother
    exact bestOn_eq_none_iff.mp (hnone earlier hearlier husable') other hother

variable (request) in
/-- Nothing keeps the selection from a candidate: the request is well formed, and where it may not
degrade the kind in the first place can be used. -/
def Reachable : Prop :=
  WellFormed request ∧ (request.fallbackEnvelope.allowDegrade = true ∨
    ∃ routeKind, (buildRouteOrder request).head? = some routeKind ∧ Usable request routeKind)

theorem reachable_of_selection {selection : AdapterSelection}
    (h : (selectAdapter request).selection = some selection) : Reachable request := by
  obtain ⟨hwell, candidate, place, -, hloop⟩ := selection_found h
  obtain ⟨before, routeKind, after, horder, husable, -, -, hplace⟩ := routeLoop_ok hloop
  refine ⟨hwell, hplace.imp id fun hzero => ⟨routeKind, ?_, husable⟩⟩
  rw [Nat.zero_add, List.length_eq_zero_iff] at hzero
  rw [horder, hzero]
  rfl

theorem selection_of_eligible (hreachable : Reachable request) {candidate : AdapterCandidateView}
    (heligible : Eligible request candidate) : (selectAdapter request).selection ≠ none := by
  obtain ⟨hserves, before, ⟨husable, after, horder⟩, hpermitted⟩ := heligible
  have hsome : buildRouteOrder request ≠ [] := by
    rw [horder]
    exact List.append_ne_nil_of_right_ne_nil _ (List.cons_ne_nil _ _)
  -- without a licence to degrade the place of the candidate is the first
  have hplace : request.fallbackEnvelope.allowDegrade = true ∨ 0 + before.length = 0 := by
    rcases hreachable.2 with hdegrade | ⟨first, hfirst, hfirstUsable⟩
    · exact .inl hdegrade
    · refine hpermitted.imp id fun hunusable => ?_
      cases before with
      | nil => rfl
      | cons earlier before =>
        rw [horder] at hfirst
        cases hfirst
        exact absurd hfirstUsable (hunusable first List.mem_cons_self)
  rw [selectAdapter_wellFormed hreachable.1 hsome]
  split
  · intro hnone
    cases hnone
  · next seen hloop =>
    have hbest := routeLoop_error hloop horder husable hplace
    exact absurd rfl (bestOn_eq_none_iff.mp hbest candidate hserves)

/-- The routing is sound, ordered and complete exactly when nothing keeps it from the candidates that
it may select. -/
theorem routesWell_iff (request : AdapterRouteRequest) :
    RoutesWell request (selectAdapter request) ↔
      ((∃ candidate, Eligible request candidate) → Reachable request) := by
  constructor
  · rintro h ⟨candidate, heligible⟩
    cases hselection : (selectAdapter request).selection with
    | none => exact absurd heligible (h.complete hselection candidate)
    | some selection => exact reachable_of_selection hselection
  · intro h
    refine ⟨fun selection hselection => ?_, fun hnone candidate heligible => ?_⟩
    · obtain ⟨-, candidate, place, hdescribes, hloop⟩ := selection_found hselection
      exact ⟨candidate, hdescribes, chosen_of_loop hloop⟩
    · exact selection_of_eligible (h ⟨candidate, heligible⟩) heligible hnone

/-- A disabled local platform comes first, and the service behind it is not tried. -/
def localFirst : AdapterRouteRequest where
  capabilityId := str "lights"
  targetId := str "kitchen"
  requestedOperation := str "on"
  capabilitySnapshot :=
    { capabilityId := str "lights", supportedActions := [str "on"],
      routeClasses := [.localPlatform, .localService], preferredLocality := some .localPlatform }
  registeredCandidates :=
    [{ adapterId := str "service", availabilityState := .available,
       supportedCapabilities := [str "lights"] }]

theorem routesWell_blocked : ¬ RoutesWell localFirst (selectAdapter localFirst) := by
  intro h
  have hnone : (selectAdapter localFirst).selection = none := by rfl
  apply h.complete hnone
    { adapterId := str "service", availabilityState := .available,
      supportedCapabilities := [str "lights"] }
  refine ⟨⟨List.mem_cons_self, List.mem_cons_self, fun hclass => absurd rfl hclass, le_refl _,
    .inl rfl⟩, [.localPlatform], ⟨⟨by decide, by decide⟩, [], rfl⟩, .inr ?_⟩
  intro earlier hearlier husable
  rw [List.mem_singleton.mp hearlier] at husable
  exact absurd (husable.2 rfl) (by decide)

end Dasall.Services.Adapters
