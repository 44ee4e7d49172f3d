import Dasall.Contracts.Tool

/-!
# The tool validator

A request that fits its descriptor becomes a call, with a hint of the route that it asks for.
-/

open Dasall.Contracts.Tool Dasall.Lib.Guard Dasall.Lib.Text

namespace Dasall.Tools.Validation

structure ValidationDiagnostics where
  errorCode : Bytes
  message : Bytes
deriving DecidableEq

def kDryRunTag : Bytes := str "tool.mode.dry_run"
def kValidateOnlyTag : Bytes := str "tool.mode.validate_only"
def kPreferMcpRouteTag : Bytes := str "tool.route.mcp"

def hasTag (tags : Option (List Bytes)) (targetTag : Bytes) : Bool :=
  (tags.getD []).contains targetTag

def trimAscii (value : Bytes) : Bytes := (value.dropWhile isSpace).rdropWhile isSpace

def deriveOperation (request : ToolRequest) : Option ToolIROperation :=
  let dryRun := hasTag request.tags kDryRunTag
  let validateOnly := hasTag request.tags kValidateOnlyTag
  if dryRun && validateOnly then none
  else if dryRun then some .dryRun
  else if validateOnly then some .validateOnly
  else some .invoke

/-- What does not look like JSON becomes empty. -/
def normalizeArguments (argumentsPayload : Bytes) : Bytes :=
  let trimmed := trimAscii argumentsPayload
  match trimmed.head? with
  | none => trimmed
  | some first =>
    if (str "\x7b[\"tfn-").contains first || isDigit first then trimmed else []

def invocationMatchesCategory : ToolInvocationKind → ToolCategory → Bool
  | .informationQuery, category => category = .information
  | .action, category => category = .action
  | .workflow, category => category = .workflow
  | .agentDelegation, category => category = .agentDelegation
  | .diagnostic, category => category = .diagnostic
  | .unspecified, _ => false

/-- The route of the category. The source reads the category of a descriptor that has one. -/
def routeOfCategory (category : Option ToolCategory) : ToolIRRoute :=
  match category with
  | some .workflow | some .agentDelegation => .workflowEngine
  | _ => .localTool

def buildRouteHint (descriptor : ToolDescriptor) (request : ToolRequest) : ToolIRRoute :=
  if hasTag request.tags kPreferMcpRouteTag then .mcpRemote else routeOfCategory descriptor.category

def injectDefaults (request : ToolRequest) (descriptor : ToolDescriptor)
    (operation : ToolIROperation) (normalizedArguments : Bytes) : ToolIR where
  requestId := request.requestId
  toolCallId := request.toolCallId
  toolName := request.toolName
  operation := some operation
  normalizedArguments := some normalizedArguments
  route := some (buildRouteHint descriptor request)
  timeoutMs := request.timeoutMs <|> descriptor.defaultTimeoutMs
  idempotencyKey := request.idempotencyKey
  goalId := request.goalId
  workerTaskId := request.workerTaskId

def stopReason : Stop → Bytes
  | .reject reason => reason
  | .disengaged => []

/-- A guard whose rejection becomes a diagnostic. -/
def accepted (errorCode : String) (guard : Check Bytes) : Except ValidationDiagnostics Unit :=
  match guard with
  | .ok _ => .ok ()
  | .error stop => .error { errorCode := str errorCode, message := stopReason stop }

def invalid (errorCode message : String) : ValidationDiagnostics where
  errorCode := str errorCode
  message := str message

/-- Whether the kind of the request is the one of the category. Both are there. -/
def kindMatches (request : ToolRequest) (descriptor : ToolDescriptor) : Bool :=
  match request.invocationKind, descriptor.category with
  | some kind, some category => invocationMatchesCategory kind category
  | _, _ => false

def validate (request : ToolRequest) (descriptor : ToolDescriptor) :
    Except ValidationDiagnostics ToolIR := do
  accepted "InvalidRequest" (validateToolRequestFieldRules request)
  accepted "InvalidDescriptor" (validateToolDescriptorFieldRules descriptor)
  ensure (decide (request.toolName = descriptor.toolName))
    (invalid "DescriptorMismatch" "descriptor tool_name must match request.tool_name")
  ensure (kindMatches request descriptor)
    (invalid "DescriptorMismatch" "request invocation_kind must match descriptor category")
  match deriveOperation request with
  | none =>
    .error (invalid "InvalidValidationMode"
      "request tags contain conflicting validation operation markers")
  | some operation =>
    let normalizedArguments := normalizeArguments (request.argumentsPayload.getD [])
    ensure (!normalizedArguments.isEmpty)
      (invalid "InvalidRequest" "normalized_arguments must not be empty")
    let toolIr := injectDefaults request descriptor operation normalizedArguments
    accepted "InvalidToolIR" (validateToolIrFieldRules toolIr)
    return toolIr

/-! ## What a valid call is -/

@[simp] theorem accepted_eq_ok (errorCode : String) (guard : Check Bytes) (u : Unit) :
    accepted errorCode guard = .ok u ↔ ∃ reason, guard = .ok reason := by
  unfold accepted
  split <;> simp

theorem buildRouteHint_ne_unspecified (descriptor : ToolDescriptor) (request : ToolRequest) :
    buildRouteHint descriptor request ≠ .unspecified := by
  unfold buildRouteHint routeOfCategory
  split
  · simp
  · split <;> simp

/-- A valid call has the name and the ids of its request, and asks for the route of the hint. -/
structure Valid (request : ToolRequest) (descriptor : ToolDescriptor) (toolIr : ToolIR) : Prop where
  request_accepted : ∃ reason, validateToolRequestFieldRules request = .ok reason
  descriptor_accepted : ∃ reason, validateToolDescriptorFieldRules descriptor = .ok reason
  toolName : request.toolName = descriptor.toolName
  kind : kindMatches request descriptor = true
  call : ∃ operation normalizedArguments, deriveOperation request = some operation ∧
    toolIr = injectDefaults request descriptor operation normalizedArguments

theorem valid_of_validate {request : ToolRequest} {descriptor : ToolDescriptor} {toolIr : ToolIR}
    (h : validate request descriptor = .ok toolIr) : Valid request descriptor toolIr := by
  unfold validate at h
  simp only [bind_eq_ok, accepted_eq_ok, ensure_eq_ok, decide_eq_true_eq] at h
  obtain ⟨_, hrequest, _, hdescriptor, _, hname, _, hkind, h⟩ := h
  cases hoperation : deriveOperation request with
  | none => simp [hoperation] at h
  | some operation =>
    rw [hoperation] at h
    simp only [bind_eq_ok, ensure_eq_ok, accepted_eq_ok] at h
    obtain ⟨_, -, _, -, hcall⟩ := h
    exact
      { request_accepted := hrequest
        descriptor_accepted := hdescriptor
        toolName := hname
        kind := hkind
        call := ⟨operation, _, hoperation, (Except.ok.inj hcall).symm⟩ }

end Dasall.Tools.Validation

/-!
## The policy gate

A call is admitted when its domain is allowed, a rule of that domain shows the tool, and what must
be confirmed is confirmed.
-/

namespace Dasall.Tools

inductive ToolAdmissionEffect
  | deny
  | allow
deriving DecidableEq

structure ToolPolicyView where
  effectiveProfileId : Bytes
  safeModeEnabled : Bool := true
  highRiskConfirmationRequired : Bool := true
  auditLevel : Bytes
  allowedToolDomains : List Bytes
  toolVisibilityRules : List Bytes
deriving DecidableEq

structure ToolAdmissionRequest where
  toolName : Bytes
  requiredScopes : List Bytes
  callerDomain : Option Bytes
  highRisk : Bool := false
  confirmationPresent : Bool := false
  routeProven : Bool := false
deriving DecidableEq

structure ToolAdmissionDecision where
  effect : ToolAdmissionEffect := .deny
  reasonCode : Bytes
  confirmationRequired : Bool := false
  retryable : Bool := false
deriving DecidableEq

def ToolAdmissionDecision.allowed (decision : ToolAdmissionDecision) : Bool :=
  decision.effect = .allow

namespace Policy

def deny (reasonCode : Bytes) (confirmationRequired : Bool := false) (retryable : Bool := false) :
    ToolAdmissionDecision :=
  { effect := .deny, reasonCode, confirmationRequired, retryable }

def allow : ToolAdmissionDecision := { effect := .allow, reasonCode := str "policy.allowed" }

def checkPolicyView (policyView : ToolPolicyView) : Option ToolAdmissionDecision :=
  if policyView.effectiveProfileId.isEmpty || policyView.auditLevel.isEmpty ||
      policyView.allowedToolDomains.isEmpty || policyView.toolVisibilityRules.isEmpty then
    some (deny (str "policy.profile_missing"))
  else none

def checkAllowedDomain (request : ToolAdmissionRequest) (policyView : ToolPolicyView) :
    Option ToolAdmissionDecision :=
  match request.callerDomain with
  | none => some (deny (str "policy.domain_missing"))
  | some callerDomain =>
    if callerDomain.isEmpty then some (deny (str "policy.domain_missing"))
    else if !policyView.allowedToolDomains.contains callerDomain then
      some (deny (str "policy.domain_denied"))
    else none

/-- The selector of a rule: everything, what has a proven route, a name, the start of a name, or a scope. -/
def matchesSelector (request : ToolAdmissionRequest) (selector : Bytes) : Bool :=
  if selector = str "all" then true
  else if selector = str "trusted" then request.routeProven
  else if selector = request.toolName then true
  else if selector.getLast? = some 42 && selector.dropLast.isPrefixOf request.toolName then true
  else request.requiredScopes.contains selector

/-- A rule is a domain and a selector, with a colon between them. -/
def matchesVisibilityRule (request : ToolAdmissionRequest) (rule : Bytes) : Bool :=
  if !rule.contains 58 then false
  else
    match request.callerDomain with
    | none => false
    | some callerDomain =>
      if rule.takeWhile (· ≠ 58) ≠ callerDomain then false
      else matchesSelector request ((rule.dropWhile (· ≠ 58)).drop 1)

def checkVisibility (request : ToolAdmissionRequest) (policyView : ToolPolicyView) :
    Option ToolAdmissionDecision :=
  if !policyView.toolVisibilityRules.any (matchesVisibilityRule request) then
    some (deny (str "policy.visibility_denied"))
  else none

def checkConfirmation (request : ToolAdmissionRequest) (policyView : ToolPolicyView) :
    Option ToolAdmissionDecision :=
  if request.highRisk && policyView.highRiskConfirmationRequired && !request.confirmationPresent then
    some (deny (str "policy.confirmation_required") true true)
  else none

def checkSafeMode (request : ToolAdmissionRequest) (policyView : ToolPolicyView) :
    Option ToolAdmissionDecision :=
  if policyView.safeModeEnabled && !request.routeProven then
    some (deny (str "policy.safe_mode_route_unproven") false true)
  else none

/-- What the first check says that has something against the call. -/
def firstDenial (request : ToolAdmissionRequest) (policyView : ToolPolicyView) :
    Option ToolAdmissionDecision :=
  (checkPolicyView policyView).or <| (checkSafeMode request policyView).or <|
    (checkAllowedDomain request policyView).or <| (checkVisibility request policyView).or <|
    checkConfirmation request policyView

def evaluate (request : ToolAdmissionRequest) (policyView : ToolPolicyView) :
    ToolAdmissionDecision :=
  (firstDenial request policyView).getD allow

/-! ## What is admitted -/

/-- A call is shown on its domain when the domain is allowed and one of its rules matches. -/
structure ShownOn (request : ToolAdmissionRequest) (policyView : ToolPolicyView) (domain : Bytes) :
    Prop where
  allowed : domain ∈ policyView.allowedToolDomains
  visible : ∃ rule ∈ policyView.toolVisibilityRules,
    matchesVisibilityRule { request with callerDomain := some domain } rule = true

/-- A high risk is confirmed where the policy asks for it. -/
def ConfirmedIn (request : ToolAdmissionRequest) (policyView : ToolPolicyView) : Prop :=
  request.highRisk = true → policyView.highRiskConfirmationRequired = true →
    request.confirmationPresent = true

variable (request : ToolAdmissionRequest) (policyView : ToolPolicyView)

theorem checkAllowedDomain_eq_none :
    checkAllowedDomain request policyView = none ↔
      ∃ domain, request.callerDomain = some domain ∧ domain ≠ [] ∧
        domain ∈ policyView.allowedToolDomains := by
  unfold checkAllowedDomain
  cases hdomain : request.callerDomain with
  | none => simp
  | some callerDomain =>
    by_cases hempty : callerDomain = []
    · simp [hempty]
    · simp [hempty]

theorem checkVisibility_eq_none :
    checkVisibility request policyView = none ↔
      ∃ rule ∈ policyView.toolVisibilityRules, matchesVisibilityRule request rule = true := by
  simp [checkVisibility]

theorem checkConfirmation_eq_none :
    checkConfirmation request policyView = none ↔ ConfirmedIn request policyView := by
  unfold checkConfirmation ConfirmedIn
  cases request.highRisk <;> cases policyView.highRiskConfirmationRequired <;>
    cases request.confirmationPresent <;> simp

/-- A check that has something to say denies. -/
def Denies (check : Option ToolAdmissionDecision) : Prop :=
  ∀ decision, check = some decision → decision.allowed = false

theorem denies_none : Denies none := by simp [Denies]

theorem denies_deny (reasonCode : Bytes) (confirmationRequired retryable : Bool) :
    Denies (some (deny reasonCode confirmationRequired retryable)) := by
  rintro decision ⟨rfl⟩
  rfl

theorem denies_ite (condition : Prop) [Decidable condition]
    {first second : Option ToolAdmissionDecision} (hfirst : Denies first) (hsecond : Denies second) :
    Denies (if condition then first else second) := by
  split
  · exact hfirst
  · exact hsecond

theorem denies_checkPolicyView : Denies (checkPolicyView policyView) :=
  denies_ite _ (denies_deny _ _ _) denies_none

theorem denies_checkSafeMode :
    Denies (checkSafeMode request policyView) :=
  denies_ite _ (denies_deny _ _ _) denies_none

theorem denies_checkAllowedDomain :
    Denies (checkAllowedDomain request policyView) := by
  unfold checkAllowedDomain
  split
  · exact denies_deny _ _ _
  · exact denies_ite _ (denies_deny _ _ _) (denies_ite _ (denies_deny _ _ _) denies_none)

theorem denies_checkVisibility :
    Denies (checkVisibility request policyView) :=
  denies_ite _ (denies_deny _ _ _) denies_none

theorem denies_checkConfirmation :
    Denies (checkConfirmation request policyView) :=
  denies_ite _ (denies_deny _ _ _) denies_none

@[simp] theorem allowed_allow : allow.allowed = true := rfl

theorem allowed_or {check : Option ToolAdmissionDecision} (hdenies : Denies check)
    (rest : Option ToolAdmissionDecision) :
    ((check.or rest).getD allow).allowed = true ↔
      check = none ∧ (rest.getD allow).allowed = true := by
  cases check with
  | none => simp
  | some decision => simp [hdenies decision rfl]

theorem evaluate_allowed_iff :
    (evaluate request policyView).allowed = true ↔
      checkPolicyView policyView = none ∧ checkSafeMode request policyView = none ∧
        checkAllowedDomain request policyView = none ∧ checkVisibility request policyView = none ∧
        checkConfirmation request policyView = none := by
  unfold evaluate firstDenial
  rw [allowed_or (denies_checkPolicyView policyView),
    allowed_or (denies_checkSafeMode request policyView),
    allowed_or (denies_checkAllowedDomain request policyView),
    allowed_or (denies_checkVisibility request policyView)]
  have hlast := allowed_or (denies_checkConfirmation request policyView) none
  rw [Option.or_none] at hlast
  rw [hlast, Option.getD_none]
  simp

theorem shownOn_of_allowed {request : ToolAdmissionRequest} {policyView : ToolPolicyView}
    (hallowed : (evaluate request policyView).allowed = true) :
    ∃ domain, request.callerDomain = some domain ∧ ShownOn request policyView domain ∧
      ConfirmedIn request policyView := by
  obtain ⟨-, -, hdomain, hvisible, hconfirmed⟩ := (evaluate_allowed_iff request policyView).mp hallowed
  obtain ⟨domain, hcaller, -, hmem⟩ := (checkAllowedDomain_eq_none request policyView).mp hdomain
  have hsame : { request with callerDomain := some domain } = request := by
    rw [← hcaller]
  refine ⟨domain, hcaller, ⟨hmem, ?_⟩, (checkConfirmation_eq_none request policyView).mp hconfirmed⟩
  rw [hsame]
  exact (checkVisibility_eq_none request policyView).mp hvisible

/-! ## The reasons of the gate -/

def policyReasons : List Bytes :=
  [str "policy.profile_missing", str "policy.safe_mode_route_unproven", str "policy.domain_missing",
    str "policy.domain_denied", str "policy.visibility_denied", str "policy.confirmation_required",
    str "policy.allowed"]

/-- What a check says is one of the reasons. -/
def Listed (check : Option ToolAdmissionDecision) : Prop :=
  ∀ decision, check = some decision → decision.reasonCode ∈ policyReasons

theorem listed_none : Listed none := by simp [Listed]

theorem listed_deny {reasonCode : Bytes} {confirmationRequired retryable : Bool}
    (h : reasonCode ∈ policyReasons) : Listed (some (deny reasonCode confirmationRequired retryable)) := by
  rintro decision ⟨rfl⟩
  exact h

theorem listed_ite (condition : Prop) [Decidable condition]
    {first second : Option ToolAdmissionDecision} (hfirst : Listed first) (hsecond : Listed second) :
    Listed (if condition then first else second) := by
  split
  · exact hfirst
  · exact hsecond

theorem listed_or {first second : Option ToolAdmissionDecision} (hfirst : Listed first)
    (hsecond : Listed second) : Listed (first.or second) := by
  cases first with
  | none => exact hsecond
  | some decision => exact hfirst

theorem listed_checkAllowedDomain :
    Listed (checkAllowedDomain request policyView) := by
  unfold checkAllowedDomain
  split
  · exact listed_deny (by decide)
  · exact listed_ite _ (listed_deny (by decide)) (listed_ite _ (listed_deny (by decide)) listed_none)

theorem listed_firstDenial :
    Listed (firstDenial request policyView) := by
  unfold firstDenial
  apply listed_or (listed_ite _ (listed_deny (by decide)) listed_none)
  apply listed_or (listed_ite _ (listed_deny (by decide)) listed_none)
  apply listed_or (listed_checkAllowedDomain request policyView)
  apply listed_or (listed_ite _ (listed_deny (by decide)) listed_none)
  exact listed_ite _ (listed_deny (by decide)) listed_none

theorem evaluate_reason :
    (evaluate request policyView).reasonCode ∈ policyReasons := by
  unfold evaluate
  cases hdenial : firstDenial request policyView with
  | none =>
    rw [Option.getD_none]
    decide
  | some decision => exact listed_firstDenial request policyView decision hdenial

end Policy

end Dasall.Tools
