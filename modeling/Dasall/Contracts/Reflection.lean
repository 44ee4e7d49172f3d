import Dasall.Contracts.Observation

/-! # Reflection decisions and their guards -/

open Dasall.Lib.Text Dasall.Lib.Guard

namespace Dasall.Contracts

/-- `enum class ReflectionDecisionKind : int`. -/
inductive ReflectionDecisionKind
  | unspecified
  | continue_
  | retryStep
  | replan
  | abortSafe
  | unlisted (raw : {raw : Int32 // raw < 0 ∨ 4 < raw})
deriving DecidableEq

def ReflectionDecisionKind.toRaw : ReflectionDecisionKind → Int32
  | .unspecified => 0
  | .continue_ => 1
  | .retryStep => 2
  | .replan => 3
  | .abortSafe => 4
  | .unlisted raw => raw.val

/-- A `float`. The guards compare it with 0 and 1, and a NaN compares false with both. -/
inductive FloatValue
  | finite (value : Rat)
  | infinite (negative : Bool)
  | nan
deriving DecidableEq

def FloatValue.lt : FloatValue → Rat → Bool
  | .finite value, bound => value < bound
  | .infinite negative, _ => negative
  | .nan, _ => false

def FloatValue.gt : FloatValue → Rat → Bool
  | .finite value, bound => bound < value
  | .infinite negative, _ => !negative
  | .nan, _ => false

def FloatValue.isFinite : FloatValue → Bool
  | .finite _ => true
  | .infinite _ | .nan => false

/-- The value of a `float` or a `double`, where a zero has no sign. -/
def floatValueOf : Float.Model.UnpackedFloat → FloatValue
  | .infinity .negative => .infinite true
  | .infinity .positive => .infinite false
  | .notANumber => .nan
  | .zero _ => .finite 0
  | .finite .negative mantissa exponent _ => .finite (-(mantissa * (2 : Rat) ^ exponent))
  | .finite .positive mantissa exponent _ => .finite (mantissa * (2 : Rat) ^ exponent)

structure ReflectionDecision where
  requestId : Option Bytes
  decisionKind : Option ReflectionDecisionKind
  rationale : Option Bytes
  goalId : Option Bytes
  confidence : Option FloatValue
  relevantObservationRefs : Option (List Bytes)
  hintRef : Option Bytes
  createdAt : Option Int64
  tags : Option (List Bytes)
deriving DecidableEq

/-! ## Guards -/

def validateReflectionDecisionRequiredFields (decision : ReflectionDecision) : Check Bytes := do
  require (hasNonEmptyValue decision.requestId) "request_id is required and must be non-empty"
  require (decision.decisionKind.isSome && decision.decisionKind != some .unspecified)
    "decision_kind is required and must not be Unspecified"
  require (hasNonEmptyValue decision.rationale) "rationale is required and must be non-empty"
  pass "all required fields present"

def validateReflectionDecisionBoundary (decision : ReflectionDecision) : Check Bytes := do
  let _ ← validateReflectionDecisionRequiredFields decision
  let kind ← deref decision.decisionKind
  require (1 ≤ kind.toRaw && kind.toRaw ≤ 4)
    "decision_kind value is outside the known ReflectionDecisionKind range"
  require (nonEmptyWhenPresent decision.goalId) "goal_id must be non-empty when present"
  require (decision.confidence.all fun confidence => !(confidence.lt 0 || confidence.gt 1))
    "confidence must be within [0.0, 1.0] when present"
  require (nonEmptyWhenPresent decision.hintRef) "hint_ref must be non-empty when present"
  require (decision.createdAt.all fun createdAt => 0 < createdAt)
    "created_at must be a positive timestamp when present"
  pass "reflection decision boundary validation passed"

def validateReflectionDecisionFieldRules (decision : ReflectionDecision) : Check Bytes := do
  let _ ← validateReflectionDecisionBoundary decision
  require (decision.confidence.all FloatValue.isFinite)
    "confidence must be a finite value when present"
  require (decision.relevantObservationRefs != some [])
    "relevant_observation_refs must contain at least one item when present"
  require (decision.relevantObservationRefs.all fun refs => refs.all fun ref => !ref.isEmpty)
    "relevant_observation_refs must not contain empty-string elements"
  require (decision.relevantObservationRefs.all fun refs => decide refs.Nodup)
    "relevant_observation_refs must not contain duplicate observation identifiers"
  require (decision.tags != some []) "tags must contain at least one item when present"
  require (decision.tags.all fun tags => tags.all fun tag => !tag.isEmpty)
    "tags must not contain empty-string elements"
  pass "reflection decision field rules validation passed"

/-! ## What the guards guarantee -/

/-- The kind of an accepted decision is one of the four concrete ones. -/
def ReflectionDecisionKind.Concrete (kind : ReflectionDecisionKind) : Prop :=
  kind = .continue_ ∨ kind = .retryStep ∨ kind = .replan ∨ kind = .abortSafe

theorem concrete_of_range (kind : ReflectionDecisionKind)
    (h : (1 ≤ kind.toRaw && kind.toRaw ≤ 4) = true) : kind.Concrete := by
  unfold ReflectionDecisionKind.Concrete
  cases kind with
  | unlisted raw =>
    obtain ⟨hlow, hhigh⟩ := (Bool.and_eq_true _ _).mp h
    have hpos : (1 : Int32) ≤ raw.val := of_decide_eq_true hlow
    rcases raw.property with hneg | hbig
    · exact absurd (Int32.lt_of_le_of_lt hpos hneg) (by decide)
    · exact absurd (of_decide_eq_true hhigh) (Int32.not_le.mpr hbig)
  | unspecified => exact absurd h (by decide)
  | continue_ | retryStep | replan | abortSafe => simp

variable (decision : ReflectionDecision) (reason : Bytes)

theorem reflectionRequiredFields_kind
    (h : validateReflectionDecisionRequiredFields decision = .ok reason) :
    ∃ kind, decision.decisionKind = some kind ∧ kind ≠ .unspecified := by
  simp only [validateReflectionDecisionRequiredFields, bind_eq_ok, require_eq_ok,
    isSome_and_ne] at h
  obtain ⟨_, _, _, hkind, _⟩ := h
  exact hkind

theorem reflectionRequiredFields_engaged :
    Engaged (validateReflectionDecisionRequiredFields decision) := by
  unfold validateReflectionDecisionRequiredFields
  iterate 3 refine engaged_bind _ _ (engaged_require _ _) fun _ _ => ?_
  exact engaged_pass _

theorem reflectionFieldRules_spec (h : validateReflectionDecisionFieldRules decision = .ok reason) :
    ∃ kind, decision.decisionKind = some kind ∧ kind.Concrete := by
  simp only [validateReflectionDecisionFieldRules, validateReflectionDecisionBoundary, bind_eq_ok,
    require_eq_ok, deref_eq_ok] at h
  obtain ⟨_, ⟨_, _, kind, hkind, _, hrange, _⟩, _⟩ := h
  exact ⟨kind, hkind, concrete_of_range kind hrange⟩

theorem reflectionFieldRules_engaged :
    Engaged (validateReflectionDecisionFieldRules decision) := by
  unfold validateReflectionDecisionFieldRules validateReflectionDecisionBoundary
  refine engaged_bind _ _ ?_ fun _ _ => ?_
  · refine engaged_bind _ _ (reflectionRequiredFields_engaged decision) fun reason hreason => ?_
    obtain ⟨kind, hkind, -⟩ := reflectionRequiredFields_kind decision reason hreason
    refine engaged_deref_bind _ _ _ hkind ?_
    iterate 5 refine engaged_bind _ _ (engaged_require _ _) fun _ _ => ?_
    exact engaged_pass _
  · iterate 6 refine engaged_bind _ _ (engaged_require _ _) fun _ _ => ?_
    exact engaged_pass _

end Dasall.Contracts
