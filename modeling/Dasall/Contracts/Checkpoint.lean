import Dasall.Lib.Guard
import Dasall.Lib.Checked

/-! # Budgets, budget snapshots and their guards -/

open Dasall.Lib.Text Dasall.Lib.Guard Dasall.Lib.Machine

namespace Dasall.Contracts

inductive BudgetType
  | token
  | turn
  | toolCall
  | latency
  | replan
deriving DecidableEq, Repr

/-- One budget dimension. `remaining` is `max - current`, negative when over budget. -/
structure BudgetSnapshotEntry where
  budgetType : BudgetType
  current : UInt64
  max : UInt64
  remaining : Int64
  rejectReason : Option Bytes
deriving DecidableEq

structure BudgetSnapshot where
  snapshotAtMs : Option UInt64
  entries : List BudgetSnapshotEntry
  overallRejectReason : Option Bytes
deriving DecidableEq

structure RuntimeBudget where
  maxTokens : Option UInt32
  maxTurns : Option UInt32
  maxToolCalls : Option UInt32
  maxLatencyMs : Option UInt32
  maxReplanCount : Option UInt32
deriving DecidableEq

/-! ## Guards -/

/-- `max - current` as an `int64_t`, unless the difference is too large for one. -/
def tryComputeRemaining (max current : UInt64) : Option Int64 :=
  if current ≤ max then
    if 2 ^ 63 ≤ (max - current).toNat then none else some (max - current).toInt64
  else
    if 2 ^ 63 ≤ (current - max).toNat then none else some (-(current - max).toInt64)

/-- The loop over the entries. `seen` holds the types of the entries before. -/
def validateBudgetEntries (seen : List BudgetType) : List BudgetSnapshotEntry → Check Unit
  | [] => .ok ()
  | entry :: entries => do
    require (!seen.contains entry.budgetType) "budget_type must be unique in snapshot"
    match tryComputeRemaining entry.max entry.current with
    | none => reject "remaining computation overflow"
    | some computedRemaining =>
      require (entry.remaining == computedRemaining) "remaining must equal max-current"
      let isOverBudget : Bool := entry.remaining < 0
      let hasRejectReason := hasNonEmptyValue entry.rejectReason
      require (!(isOverBudget && !hasRejectReason)) "reject_reason is required when over budget"
      require (!(!isOverBudget && hasRejectReason))
        "reject_reason must be empty when not over budget"
      validateBudgetEntries (entry.budgetType :: seen) entries

def validateBudgetSnapshot (snapshot : BudgetSnapshot) : Check Bytes := do
  require snapshot.snapshotAtMs.isSome "snapshot_at_ms is required"
  require (!snapshot.entries.isEmpty) "at least one budget entry is required"
  validateBudgetEntries [] snapshot.entries
  pass "budget snapshot is valid"

/-- The two checks that each field of a runtime budget gets. -/
def validateLimit (limit : Option UInt32) (missing zero : String) : Check Unit := do
  require limit.isSome missing
  require (limit != some 0) zero

def validateRuntimeBudget (budget : RuntimeBudget) : Check Bytes := do
  validateLimit budget.maxTokens "max_tokens is required" "max_tokens must be greater than zero"
  validateLimit budget.maxTurns "max_turns is required" "max_turns must be greater than zero"
  validateLimit budget.maxToolCalls "max_tool_calls is required"
    "max_tool_calls must be greater than zero"
  validateLimit budget.maxLatencyMs "max_latency_ms is required"
    "max_latency_ms must be greater than zero"
  validateLimit budget.maxReplanCount "max_replan_count is required"
    "max_replan_count must be greater than zero"
  pass "runtime budget is valid"

/-! ## What the guards guarantee -/

/-- `remaining` is the exact difference, in the range that the computation covers, and a
reject reason is there exactly when the dimension is over budget. -/
structure BudgetSnapshotEntry.Valid (entry : BudgetSnapshotEntry) : Prop where
  remaining : entry.remaining.toInt = entry.max.toNat - entry.current.toNat
  representable : -2 ^ 63 < entry.remaining.toInt
  rejectReason : hasNonEmptyValue entry.rejectReason = true ↔ entry.remaining < 0

structure BudgetSnapshot.Valid (snapshot : BudgetSnapshot) : Prop where
  snapshotAtMs : snapshot.snapshotAtMs.isSome
  entries : snapshot.entries ≠ []
  unique : (snapshot.entries.map (·.budgetType)).Nodup
  valid : ∀ entry ∈ snapshot.entries, entry.Valid

theorem tryComputeRemaining_eq_some (max current : UInt64) (r : Int64) :
    tryComputeRemaining max current = some r ↔
      r.toInt = max.toNat - current.toNat ∧ -2 ^ 63 < r.toInt := by
  have hlow := r.le_toInt
  have hhigh := r.toInt_lt
  unfold tryComputeRemaining
  simp only [UInt64.le_iff_toNat_le]
  by_cases hle : current.toNat ≤ max.toNat
  · have hdiff := UInt64.toNat_sub_of_le _ _ (UInt64.le_iff_toNat_le.mpr hle)
    rw [if_pos hle, hdiff]
    split
    · constructor
      · intro h; cases h
      · rintro ⟨h, -⟩; omega
    · rw [Option.some.injEq, ← Int64.toInt_inj, toInt_toInt64, hdiff,
        bmod_of_range _ (by omega) (by omega)]
      omega
  · have hover := UInt64.toNat_sub_of_le current max (UInt64.le_iff_toNat_le.mpr (by omega))
    rw [if_neg hle, hover]
    split
    · constructor
      · intro h; cases h
      · rintro ⟨h, h'⟩; omega
    · have hcast : (current - max).toInt64.toInt = ((current.toNat - max.toNat : Nat) : Int) := by
        rw [toInt_toInt64, hover, bmod_of_range _ (by omega) (by omega)]
      rw [Option.some.injEq, ← Int64.toInt_inj, Int64.toInt_neg, hcast,
        bmod_of_range _ (by omega) (by omega)]
      omega

theorem validateBudgetEntries_cons (seen : List BudgetType) (entry : BudgetSnapshotEntry)
    (entries : List BudgetSnapshotEntry) :
    validateBudgetEntries seen (entry :: entries) = .ok () ↔
      entry.budgetType ∉ seen ∧ entry.Valid ∧
        validateBudgetEntries (entry.budgetType :: seen) entries = .ok () := by
  have hrem := tryComputeRemaining_eq_some entry.max entry.current entry.remaining
  have hreject : (!(decide (entry.remaining < 0) && !hasNonEmptyValue entry.rejectReason)) = true ∧
      (!(!decide (entry.remaining < 0) && hasNonEmptyValue entry.rejectReason)) = true ↔
      (hasNonEmptyValue entry.rejectReason = true ↔ entry.remaining < 0) := by
    by_cases h : entry.remaining < 0 <;> simp [h]
  cases hcomputed : tryComputeRemaining entry.max entry.current with
  | none =>
    simp only [validateBudgetEntries, hcomputed, bind_eq_ok, reject_ne_ok]
    rw [hcomputed] at hrem
    have hno : ¬ entry.Valid := by
      intro h
      cases hrem.mpr ⟨h.remaining, h.representable⟩
    simp [hno]
  | some computed =>
    rw [hcomputed, Option.some.injEq] at hrem
    simp only [validateBudgetEntries, hcomputed, bind_eq_ok, require_eq_ok, exists_const]
    constructor
    · rintro ⟨hseen, hcomp, hover, hunder, hrest⟩
      obtain ⟨hexact, hrange⟩ := hrem.mp (by simpa using (beq_iff_eq.mp hcomp).symm)
      exact ⟨by simpa using hseen, ⟨hexact, hrange, hreject.mp ⟨hover, hunder⟩⟩, hrest⟩
    · rintro ⟨hseen, hvalid, hrest⟩
      have hcomp := hrem.mpr ⟨hvalid.remaining, hvalid.representable⟩
      obtain ⟨hover, hunder⟩ := hreject.mpr hvalid.rejectReason
      exact ⟨by simpa using hseen, by simpa using hcomp.symm, hover, hunder, hrest⟩

variable (snapshot : BudgetSnapshot) (cp : Checkpoint) (entries : List BudgetSnapshotEntry)
  (reason : Bytes)

theorem validateBudgetEntries_eq_ok (seen : List BudgetType) :
    validateBudgetEntries seen entries = .ok () ↔
      (∀ entry ∈ entries, entry.Valid) ∧ (entries.map (·.budgetType)).Nodup ∧
        ∀ entry ∈ entries, entry.budgetType ∉ seen := by
  induction entries generalizing seen with
  | nil => simp [validateBudgetEntries]
  | cons entry entries ih =>
    rw [validateBudgetEntries_cons, ih]
    simp only [List.map_cons, List.nodup_cons, List.forall_mem_cons]
    simp only [List.mem_cons, not_or, List.mem_map, not_exists, not_and]
    constructor
    · rintro ⟨hseen, hvalid, hrest, hnodup, hfresh⟩
      exact ⟨⟨hvalid, hrest⟩, ⟨fun e he => (hfresh e he).1, hnodup⟩, hseen,
        fun e he => (hfresh e he).2⟩
    · rintro ⟨⟨hvalid, hrest⟩, ⟨hfresh, hnodup⟩, hseen, hseens⟩
      exact ⟨hseen, hvalid, hrest, hnodup, fun e he => ⟨hfresh e he, hseens e he⟩⟩

theorem validateBudgetSnapshot_spec :
    (∃ reason, validateBudgetSnapshot snapshot = .ok reason) ↔ snapshot.Valid := by
  simp only [validateBudgetSnapshot, bind_eq_ok, require_eq_ok, pass_eq_ok]
  constructor
  · rintro ⟨_, _, hat, _, hentries, _, hloop, _⟩
    obtain ⟨hvalid, hunique, -⟩ := (validateBudgetEntries_eq_ok _ _).mp hloop
    exact ⟨hat, by simpa using hentries, hunique, hvalid⟩
  · rintro ⟨hat, hentries, hunique, hvalid⟩
    have hloop := (validateBudgetEntries_eq_ok snapshot.entries []).mpr ⟨hvalid, hunique, by simp⟩
    exact ⟨_, (), hat, (), by simpa using hentries, (), hloop, rfl⟩

theorem validateBudgetEntries_engaged (seen : List BudgetType) :
    Engaged (validateBudgetEntries seen entries) := by
  induction entries generalizing seen with
  | nil => exact stops_ok _ _
  | cons entry entries ih =>
    refine engaged_bind _ _ (engaged_require _ _) fun _ _ => ?_
    split
    · exact engaged_reject _
    · iterate 3 refine engaged_bind _ _ (engaged_require _ _) fun _ _ => ?_
      exact ih _

theorem validateBudgetSnapshot_engaged :
    Engaged (validateBudgetSnapshot snapshot) := by
  iterate 2 refine engaged_bind _ _ (engaged_require _ _) fun _ _ => ?_
  refine engaged_bind _ _ (validateBudgetEntries_engaged _ _) fun _ _ => ?_
  exact engaged_pass _

/-! ## Checkpoints and their guards -/

/-- `enum class CheckpointState : int`. A cast can give it a value no enumerator names. -/
inductive CheckpointState
  | unspecified
  | running
  | paused
  | waitingConfirm
  | waitingTool
  | failed
  | succeeded
  | unlisted (raw : {raw : Int32 // raw < 0 ∨ 6 < raw})
deriving DecidableEq

def CheckpointState.toRaw : CheckpointState → Int32
  | .unspecified => 0
  | .running => 1
  | .paused => 2
  | .waitingConfirm => 3
  | .waitingTool => 4
  | .failed => 5
  | .succeeded => 6
  | .unlisted raw => raw.val

def CheckpointState.ofRaw (raw : Int32) : CheckpointState :=
  if h : raw < 0 ∨ 6 < raw then .unlisted ⟨raw, h⟩
  else if raw = 1 then .running
  else if raw = 2 then .paused
  else if raw = 3 then .waitingConfirm
  else if raw = 4 then .waitingTool
  else if raw = 5 then .failed
  else if raw = 6 then .succeeded
  else .unspecified

theorem CheckpointState.ofRaw_toRaw (state : CheckpointState) : ofRaw state.toRaw = state := by
  cases state with
  | unlisted raw => simp [toRaw, ofRaw, raw.property]
  | unspecified | running | paused | waitingConfirm | waitingTool | failed | succeeded => rfl

structure Checkpoint where
  checkpointId : Option Bytes
  state : Option CheckpointState
  stepId : Option Bytes
  workingMemorySnapshot : Option Bytes
  pendingAction : Option Bytes
  requestId : Option Bytes
  goalId : Option Bytes
  beliefStateRef : Option Bytes
  retryCount : Option UInt32
  createdAt : Option Int64
  tags : Option (List Bytes)
deriving DecidableEq

/-- The states in which the agent waits for something named by `pending_action`. -/
def isWaitingCheckpointState (state : CheckpointState) : Bool :=
  state == .paused || state == .waitingConfirm || state == .waitingTool

/-! ## Guards -/

def validateCheckpointRequiredFields (cp : Checkpoint) : Check Bytes := do
  require (hasNonEmptyValue cp.checkpointId) "checkpoint_id is required and must be non-empty"
  require (cp.state.isSome && cp.state != some .unspecified)
    "state is required and must not be Unspecified"
  require (hasNonEmptyValue cp.stepId) "step_id is required and must be non-empty"
  require (hasNonEmptyValue cp.workingMemorySnapshot)
    "working_memory_snapshot is required and must be non-empty"
  require cp.pendingAction.isSome "pending_action is required (use empty string for none)"
  pass "all required fields present"

def validateCheckpointBoundary (cp : Checkpoint) : Check Bytes := do
  let _ ← validateCheckpointRequiredFields cp
  let state ← deref cp.state
  require (0 ≤ state.toRaw && state.toRaw ≤ 6)
    "state value is outside the known CheckpointState range"
  require (nonEmptyWhenPresent cp.requestId) "request_id must be non-empty when present"
  require (nonEmptyWhenPresent cp.goalId) "goal_id must be non-empty when present"
  require (nonEmptyWhenPresent cp.beliefStateRef)
    "belief_state_ref must be non-empty when present"
  require (cp.createdAt.all fun createdAt => 0 < createdAt)
    "created_at must be a positive timestamp when present"
  pass "checkpoint boundary validation passed"

def validateCheckpointFieldRules (cp : Checkpoint) : Check Bytes := do
  let _ ← validateCheckpointBoundary cp
  require (cp.tags != some []) "tags must contain at least one item when present"
  require (cp.tags.all fun tags => tags.all fun tag => !tag.isEmpty)
    "tags must not contain empty strings"
  require (!(cp.state.any isWaitingCheckpointState && cp.pendingAction == some []))
    "pending_action must be non-empty for waiting states (Paused/WaitingConfirm/WaitingTool)"
  pass "checkpoint field rules validation passed"

/-! ## What the guards guarantee -/

theorem requiredFields_state (h : validateCheckpointRequiredFields cp = .ok reason) :
    ∃ state, cp.state = some state ∧ state ≠ .unspecified := by
  simp only [validateCheckpointRequiredFields, bind_eq_ok, require_eq_ok] at h
  obtain ⟨_, _, _, hstate, _⟩ := h
  cases hcp : cp.state with
  | none => simp [hcp] at hstate
  | some state => exact ⟨state, rfl, by simpa [hcp] using hstate⟩

theorem requiredFields_engaged : Engaged (validateCheckpointRequiredFields cp) := by
  unfold validateCheckpointRequiredFields
  iterate 5 refine engaged_bind _ _ (engaged_require _ _) fun _ _ => ?_
  exact engaged_pass _

theorem boundary_engaged : Engaged (validateCheckpointBoundary cp) := by
  refine engaged_bind _ _ (requiredFields_engaged cp) fun reason hreason => ?_
  obtain ⟨state, hstate, -⟩ := requiredFields_state cp reason hreason
  refine engaged_deref_bind _ _ _ hstate ?_
  iterate 5 refine engaged_bind _ _ (engaged_require _ _) fun _ _ => ?_
  exact engaged_pass _

theorem fieldRules_engaged : Engaged (validateCheckpointFieldRules cp) := by
  refine engaged_bind _ _ (boundary_engaged cp) fun _ _ => ?_
  iterate 3 refine engaged_bind _ _ (engaged_require _ _) fun _ _ => ?_
  exact engaged_pass _

/-- An accepted checkpoint is in an enumerated state, has an id and a pending action, and
its pending action is not empty where the state waits for one. -/
theorem fieldRules_spec (h : validateCheckpointFieldRules cp = .ok reason) :
    (∃ id, cp.checkpointId = some id ∧ id ≠ []) ∧
    (∃ state action, cp.state = some state ∧ cp.pendingAction = some action ∧
      state ≠ .unspecified ∧ (∀ raw, state ≠ .unlisted raw) ∧
      (isWaitingCheckpointState state = true → action ≠ [])) := by
  simp only [validateCheckpointFieldRules, validateCheckpointBoundary, bind_eq_ok, require_eq_ok,
    deref_eq_ok] at h
  obtain ⟨_, ⟨_, hrequired, state, hstate, _, hrange, _⟩, _, _, _, _, _, hwaiting, _⟩ := h
  obtain ⟨state', hstate', hspecified⟩ := requiredFields_state cp _ hrequired
  rw [hstate, Option.some.injEq] at hstate'
  subst hstate'
  simp only [validateCheckpointRequiredFields, bind_eq_ok, require_eq_ok] at hrequired
  obtain ⟨_, hid, _, _, _, _, _, _, _, haction, _⟩ := hrequired
  obtain ⟨action, haction⟩ := Option.isSome_iff_exists.mp haction
  refine ⟨(hasNonEmptyValue_iff _).mp hid, state, action, hstate, haction, hspecified, ?_, ?_⟩
  · rintro ⟨raw, hraw⟩ rfl
    obtain ⟨hlow, hhigh⟩ := (Bool.and_eq_true _ _).mp hrange
    rcases hraw with h | h
    · exact Int32.not_le.mpr h (of_decide_eq_true hlow)
    · exact Int32.not_le.mpr h (of_decide_eq_true hhigh)
  · rintro hwait rfl
    simp [hstate, haction, hwait] at hwaiting

end Dasall.Contracts
