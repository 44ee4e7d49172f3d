import Dasall.Lib.Run
import Dasall.Runtime.Budget.Controller

/-!
# What the budget controller accounts for

The count is a wrapping sum and `remaining` a difference of two casts. As long as a count
stays on the side of `2 ^ 63` where its maximum is, and one over the maximum stays over it,
the snapshot is valid and an exhausted dimension stays exhausted.
-/

open Dasall.Lib.Text Dasall.Lib.Guard Dasall.Lib.Run Dasall.Lib.Machine Dasall.Contracts

namespace Dasall.Runtime

open BudgetController

/-! ## Entries -/

variable (controller started : BudgetController) (startedAtMs : UInt64) (budgetType : BudgetType)
  (requests : List BudgetConsumeRequest) (written : BudgetSnapshotEntry)
  (request : BudgetConsumeRequest) (entry : BudgetSnapshotEntry)
  (entries : List BudgetSnapshotEntry)

theorem replaceEntry_types (h : written.budgetType = budgetType) :
    (replaceEntry budgetType written entries).map (·.budgetType) =
      entries.map (·.budgetType) := by
  induction entries with
  | nil => rfl
  | cons entry entries ih =>
    unfold replaceEntry
    split
    · rename_i hsame
      simp [h, (beq_iff_eq.mp hsame)]
    · simp [ih]

theorem mem_replaceEntry (h : entry ∈ replaceEntry budgetType written entries) :
    entry = written ∨ entry ∈ entries := by
  induction entries with
  | nil => cases h
  | cons head entries ih =>
    unfold replaceEntry at h
    split at h
    · rcases List.mem_cons.mp h with h | h
      · exact .inl h
      · exact .inr (List.mem_cons_of_mem _ h)
    · rcases List.mem_cons.mp h with rfl | h
      · exact .inr List.mem_cons_self
      · rcases ih h with h | h
        · exact .inl h
        · exact .inr (List.mem_cons_of_mem _ h)

theorem find_replaceEntry (other : BudgetType) (written : BudgetSnapshotEntry)
    (entries : List BudgetSnapshotEntry) (h : written.budgetType = budgetType)
    (hfound : (entries.find? fun entry => entry.budgetType == budgetType).isSome) :
    ((replaceEntry budgetType written entries).find? fun entry => entry.budgetType == other) =
      if other = budgetType then some written
      else entries.find? fun entry => entry.budgetType == other := by
  induction entries with
  | nil => cases hfound
  | cons entry entries ih =>
    unfold replaceEntry
    by_cases hsame : entry.budgetType = budgetType
    · by_cases hother : other = budgetType
      · simp [hsame, h, hother]
      · simp [hsame, h, hother, Ne.symm hother]
    · rw [List.find?_cons_of_neg (by simpa using hsame)] at hfound
      by_cases hhead : entry.budgetType = other
      · simp [hsame, ← hhead]
      · simp [hsame, hhead, ih hfound]

/-! ## One consume -/

/-- The count that the request leads to stays on the side of `2 ^ 63` of the maximum, and,
latency apart, over a maximum that it was over. -/
def Sound (controller : BudgetController) (request : BudgetConsumeRequest) : Prop :=
  ∀ entry, findEntryLocked controller.snapshot request.budgetType = some entry →
    ((request.countFrom controller.startedAtMs entry.current).toNat < 2 ^ 63 ↔
      entry.max.toNat < 2 ^ 63) ∧
    (request.budgetType ≠ .latency → entry.max < entry.current →
      entry.max < request.countFrom controller.startedAtMs entry.current)

theorem remaining_exact (max current : UInt64)
    (hside : current.toNat < 2 ^ 63 ↔ max.toNat < 2 ^ 63) :
    (max.toInt64 - current.toInt64).toInt = max.toNat - current.toNat ∧
      -2 ^ 63 < (max.toInt64 - current.toInt64).toInt := by
  have hmax := max.toNat_lt
  have hcurrent := current.toNat_lt
  have hrange : -2 ^ 63 < (max.toNat : Int) - current.toNat ∧
      (max.toNat : Int) - current.toNat < 2 ^ 63 := by omega
  rw [toInt_sub_toInt64, bmod_of_range _ (by omega) hrange.2]
  exact ⟨rfl, hrange.1⟩

theorem consumedEntry_valid (request : BudgetConsumeRequest)
    (hside : (request.countFrom startedAtMs entry.current).toNat < 2 ^ 63 ↔
      entry.max.toNat < 2 ^ 63) : (consumedEntry startedAtMs entry request).Valid := by
  obtain ⟨hexact, hlow⟩ := remaining_exact entry.max _ hside
  refine ⟨hexact, hlow, ?_⟩
  have hover : (consumedEntry startedAtMs entry request).remaining < 0 ↔
      entry.max < request.countFrom startedAtMs entry.current := by
    rw [int64_lt_zero_iff, UInt64.lt_iff_toNat_lt]
    unfold consumedEntry
    simp only [hexact]
    omega
  rw [hover]
  unfold consumedEntry
  by_cases h : entry.max < request.countFrom startedAtMs entry.current
  · cases hdetail : request.detail <;> simp [h, hasNonEmptyValue, str]
  · simp [h, hasNonEmptyValue]

/-- What every consume keeps. -/
structure Accounted (controller : BudgetController) : Prop where
  initialized : controller.initialized = true
  valid : controller.snapshot.Valid

theorem consume_found (h : controller.initialized = true)
    (hentry : findEntryLocked controller.snapshot request.budgetType = some entry) :
    (controller.consume request).1.initialized = true ∧
    (controller.consume request).1.startedAtMs = controller.startedAtMs ∧
    (controller.consume request).1.snapshot.snapshotAtMs.isSome ∧
    (controller.consume request).1.snapshot.entries = replaceEntry request.budgetType
      (consumedEntry controller.startedAtMs entry request) controller.snapshot.entries ∧
    ((controller.consume request).2.allowed = false ↔
      entry.max < request.countFrom controller.startedAtMs entry.current) := by
  unfold consume
  rw [if_neg (by simp [h]), hentry]
  refine ⟨h, rfl, rfl, rfl, ?_⟩
  unfold consumedEntry
  by_cases hover : entry.max < request.countFrom controller.startedAtMs entry.current
  · simp [hover, makeBudgetRejectedDecision]
  · simp [hover, makeBudgetAllowedDecision]

theorem consume_missing (h : controller.initialized = true)
    (hentry : findEntryLocked controller.snapshot request.budgetType = none) :
    controller.consume request = (controller, makeBudgetRejectedDecision .snapshotUnavailable
      (str "budget snapshot entry is missing") (some request.budgetType)) := by
  unfold consume
  simp [h, hentry]

theorem consumedEntry_type
    (hentry : findEntryLocked controller.snapshot request.budgetType = some entry) :
    (consumedEntry controller.startedAtMs entry request).budgetType = request.budgetType := by
  unfold findEntryLocked at hentry
  have htype := List.find?_some hentry
  simpa [consumedEntry] using htype

theorem consume_accounted (h : Accounted controller) (hsound : Sound controller request) :
    Accounted (controller.consume request).1 := by
  cases hentry : findEntryLocked controller.snapshot request.budgetType with
  | none =>
    rw [consume_missing controller request h.initialized hentry]
    exact h
  | some entry =>
    obtain ⟨hinit, -, hat, hentries, -⟩ := consume_found controller request entry h.initialized hentry
    have htype := consumedEntry_type controller request entry hentry
    have htypes := replaceEntry_types request.budgetType _ controller.snapshot.entries htype
    refine ⟨hinit, hat, ?_, ?_, ?_⟩
    · rw [hentries]
      intro hnil
      rw [hnil] at htypes
      exact h.valid.entries (List.map_eq_nil_iff.mp htypes.symm)
    · rw [hentries, htypes]
      exact h.valid.unique
    · rw [hentries]
      intro written hwritten
      rcases mem_replaceEntry _ _ _ _ hwritten with rfl | hkept
      · exact consumedEntry_valid _ _ _ (hsound entry hentry).1
      · exact h.valid.valid written hkept

/-! ## Exhausted dimensions -/

def Over (controller : BudgetController) (budgetType : BudgetType) : Prop :=
  ∃ entry, findEntryLocked controller.snapshot budgetType = some entry ∧ entry.max < entry.current

/-- A consume is rejected as exhausted exactly when it leaves its dimension over budget. -/
theorem consume_over (h : controller.initialized = true)
    (hentry : findEntryLocked controller.snapshot request.budgetType = some entry) :
    (controller.consume request).2.allowed = false ↔
      Over (controller.consume request).1 request.budgetType := by
  obtain ⟨-, -, -, hentries, hallowed⟩ := consume_found controller request entry h hentry
  have htype := consumedEntry_type controller request entry hentry
  have hfind := find_replaceEntry request.budgetType request.budgetType _
    controller.snapshot.entries htype (by rw [← findEntryLocked, hentry]; rfl)
  rw [if_pos rfl] at hfind
  rw [hallowed]
  unfold Over findEntryLocked
  rw [hentries, hfind]
  constructor
  · intro hover
    exact ⟨_, rfl, hover⟩
  · rintro ⟨_, ⟨⟩, hover⟩
    exact hover

theorem over_of_rejected (h : controller.initialized = true)
    (hviolation : (controller.consume request).2.violation =
      exhaustedViolationFor request.budgetType) :
    Over (controller.consume request).1 request.budgetType := by
  cases hentry : findEntryLocked controller.snapshot request.budgetType with
  | none =>
    rw [consume_missing controller request h hentry] at hviolation
    cases htype : request.budgetType <;> rw [htype] at hviolation <;> cases hviolation
  | some entry =>
    rw [← consume_over controller request entry h hentry]
    unfold consume at hviolation ⊢
    simp only [h, hentry, Bool.not_true, Bool.false_eq_true, if_false] at hviolation ⊢
    split
    · rfl
    · rename_i hreason
      rw [hreason] at hviolation
      cases htype : request.budgetType <;> rw [htype] at hviolation <;> cases hviolation

theorem consume_keeps_over (budgetType : BudgetType) (h : controller.initialized = true)
    (hsound : Sound controller request) (hlatency : budgetType ≠ .latency)
    (hover : Over controller budgetType) : Over (controller.consume request).1 budgetType := by
  cases hentry : findEntryLocked controller.snapshot request.budgetType with
  | none =>
    rw [consume_missing controller request h hentry]
    exact hover
  | some entry =>
    obtain ⟨-, -, -, hentries, hallowed⟩ := consume_found controller request entry h hentry
    obtain ⟨spent, hfound, hcount⟩ := hover
    by_cases hsame : budgetType = request.budgetType
    · subst hsame
      rw [hentry, Option.some.injEq] at hfound
      subst hfound
      rw [← consume_over controller request entry h hentry, hallowed]
      exact (hsound entry hentry).2 hlatency hcount
    · have htype := consumedEntry_type controller request entry hentry
      have hfind := find_replaceEntry request.budgetType budgetType _ controller.snapshot.entries
        htype (by rw [← findEntryLocked, hentry]; rfl)
      rw [if_neg hsame] at hfind
      refine ⟨spent, ?_, hcount⟩
      unfold findEntryLocked at hfound ⊢
      rw [hentries, hfind, hfound]

theorem rejectionFor_rejects
    (decision : BudgetDecision) (h : controller.rejectionFor budgetType = some decision) :
    decision.allowed = false := by
  unfold rejectionFor at h
  split at h
  · cases h; rfl
  · split at h
    · cases h; rfl
    · cases h

theorem decisionForLocked_over
    (dimensions : List BudgetType) (allowedBudgetType : Option BudgetType) (detail : Bytes)
    (hover : Over controller budgetType) (hmem : budgetType ∈ dimensions) :
    (controller.decisionForLocked dimensions allowedBudgetType detail).allowed = false := by
  unfold decisionForLocked
  split
  · rfl
  · split
    · rename_i decision hdecision
      obtain ⟨rejected, -, hrejection⟩ := List.exists_of_findSome?_eq_some hdecision
      exact rejectionFor_rejects controller rejected decision hrejection
    · rename_i hnone
      obtain ⟨entry, hentry, hcount⟩ := hover
      have hrejection := List.findSome?_eq_none_iff.mp hnone budgetType hmem
      unfold rejectionFor at hrejection
      simp [hentry, hcount] at hrejection

/-! ## Starts -/

/-- The two calls that set a budget. Both replace everything the controller holds. -/
inductive BudgetStart
  | initialized (request : BudgetInitializeRequest)
  | restored (snapshot : BudgetSnapshot) (startedAtMs : UInt64)

def BudgetStart.start : BudgetStart → Check (BudgetController × BudgetDecision)
  | .initialized request => BudgetController.initializeBudget request
  | .restored snapshot startedAtMs => BudgetController.restore snapshot startedAtMs

theorem initialEntry_valid (max : UInt32) :
    (initialEntry budgetType max).Valid := by
  have hmax := max.toNat_lt
  have hremaining : max.toUInt64.toInt64.toInt = max.toNat := by
    rw [toInt_toInt64, UInt32.toNat_toUInt64, bmod_of_range _ (by omega) (by omega)]
  refine ⟨?_, ?_, ?_⟩
  · unfold initialEntry
    simp [hremaining]
  · unfold initialEntry
    rw [hremaining]
    omega
  · rw [int64_lt_zero_iff]
    unfold initialEntry
    simp [hremaining, hasNonEmptyValue]

theorem buildInitialSnapshot_valid (budget : RuntimeBudget) (startedAtMs : UInt64)
    (snapshot : BudgetSnapshot) (h : buildInitialSnapshot budget startedAtMs = .ok snapshot) :
    snapshot.Valid := by
  simp only [buildInitialSnapshot, bind_eq_ok, deref_eq_ok] at h
  obtain ⟨tokens, -, turns, -, toolCalls, -, latency, -, replans, -, h⟩ := h
  cases h
  refine ⟨rfl, by simp, by simp [initialEntry], ?_⟩
  simp only [List.forall_mem_cons]
  exact ⟨initialEntry_valid _ _, initialEntry_valid _ _, initialEntry_valid _ _,
    initialEntry_valid _ _, initialEntry_valid _ _, by simp⟩

theorem start_accounted (call : BudgetStart) (started : BudgetController)
    (decision : BudgetDecision) (h : call.start = .ok (started, decision))
    (hallowed : decision.allowed = true) : Accounted started := by
  cases call with
  | initialized request =>
    simp only [BudgetStart.start, initializeBudget] at h
    split at h
    · cases h
    · cases h; cases hallowed
    · rw [bind_eq_ok] at h
      obtain ⟨snapshot, hsnapshot, h⟩ := h
      cases h
      exact ⟨rfl, buildInitialSnapshot_valid _ _ snapshot hsnapshot⟩
  | restored snapshot startedAtMs =>
    simp only [BudgetStart.start, restore] at h
    split at h
    · cases h
    · cases h; cases hallowed
    · rename_i reason hguard
      have hvalid := (validateBudgetSnapshot_spec snapshot).mp ⟨reason, hguard⟩
      split at h
      · cases h; cases hallowed
      · split at h
        · cases h
        · cases h; cases hallowed
        · cases h
          exact ⟨rfl, rfl, hvalid.entries, hvalid.unique, hvalid.valid⟩

/-! ## Runs -/

/-- What holds after these consumes: the snapshot passes its guard, and once a consume other
than of latency was rejected as exhausted, so was every later one of its dimension, and so is
every query that needs it. -/
structure BudgetAccounted (started : BudgetController) (requests : List BudgetConsumeRequest) :
    Prop where
  valid : ∃ reason,
    validateBudgetSnapshot (run BudgetController.consume started requests).1.snapshot = .ok reason
  consumes : ∀ before request between later after,
    requests = before ++ request :: (between ++ later :: after) →
    request.budgetType ≠ .latency →
    ((run BudgetController.consume started before).1.consume request).2.violation =
      exhaustedViolationFor request.budgetType →
    later.budgetType = request.budgetType →
    ((run BudgetController.consume started (before ++ request :: between)).1.consume
      later).2.allowed = false
  queries : ∀ before request after, requests = before ++ request :: after →
    request.budgetType ≠ .latency →
    ((run BudgetController.consume started before).1.consume request).2.violation =
      exhaustedViolationFor request.budgetType →
    let last := (run BudgetController.consume started requests).1
    (request.budgetType ∈ BudgetController.continueDimensions →
      last.canContinue.allowed = false) ∧
    (request.budgetType ∈ BudgetController.replanDimensions →
      last.canReplan.allowed = false) ∧
    (request.budgetType ∈ BudgetController.toolCallDimensions →
      last.canCallTool.allowed = false)

theorem run_accounted
    (h : Accounted started) (hsound : AllSteps consume Sound started requests) :
    Accounted (run consume started requests).1 :=
  invariant_of_allSteps consume Sound Accounted consume_accounted started requests
    h hsound

theorem run_over
    (budgetType : BudgetType) (hlatency : budgetType ≠ .latency) (h : Accounted started)
    (hover : Over started budgetType)
    (hsound : AllSteps consume Sound started requests) :
    Over (run consume started requests).1 budgetType := by
  have hboth := invariant_of_allSteps consume Sound
    (fun controller => Accounted controller ∧ Over controller budgetType) ?_ started requests
    ⟨h, hover⟩ hsound
  · exact hboth.2
  · rintro controller request ⟨haccounted, hover⟩ hstep
    exact ⟨consume_accounted controller request haccounted hstep,
      consume_keeps_over controller request budgetType haccounted.initialized hstep hlatency hover⟩

/-- The dimension of an exhausted consume is over budget after any sound continuation. -/
theorem over_after (before after : List BudgetConsumeRequest)
    (request : BudgetConsumeRequest) (h : Accounted started)
    (hsound : AllSteps consume Sound started (before ++ request :: after))
    (hlatency : request.budgetType ≠ .latency)
    (hviolation : ((run consume started before).1.consume request).2.violation =
      exhaustedViolationFor request.budgetType) :
    Accounted (run consume started (before ++ request :: after)).1 ∧
      Over (run consume started (before ++ request :: after)).1
        request.budgetType := by
  obtain ⟨hbefore, hrequest, hafter⟩ := (allSteps_append ..).mp hsound
  have haccounted := run_accounted started before h hbefore
  have hover := over_of_rejected _ request haccounted.initialized hviolation
  refine ⟨run_accounted started _ h hsound, ?_⟩
  rw [run_append, run_cons]
  exact run_over _ after _ hlatency (consume_accounted _ request haccounted hrequest) hover hafter

/-- A sound run after a start that was allowed is accounted for. -/
theorem budget_accounting (call : BudgetStart) (started : BudgetController)
    (decision : BudgetDecision) (requests : List BudgetConsumeRequest)
    (hstart : call.start = .ok (started, decision)) (hallowed : decision.allowed = true)
    (hsound : AllSteps BudgetController.consume Sound started requests) :
    BudgetAccounted started requests := by
  have h := start_accounted call started decision hstart hallowed
  refine ⟨?_, ?_, ?_⟩
  · exact (validateBudgetSnapshot_spec _).mpr (run_accounted started requests h hsound).valid
  · rintro before request between later after rfl hlatency hviolation hsame
    rw [← List.cons_append, ← List.append_assoc, allSteps_append] at hsound
    obtain ⟨hearlier, hlater, -⟩ := hsound
    obtain ⟨haccounted, hover⟩ := over_after started before between request h hearlier hlatency
      hviolation
    rw [← hsame] at hover hlatency
    have hkept := consume_keeps_over _ later _ haccounted.initialized hlater hlatency hover
    obtain ⟨entry, hentry, -⟩ := hover
    exact (consume_over _ later entry haccounted.initialized hentry).mpr hkept
  · rintro before request after rfl hlatency hviolation
    obtain ⟨-, hover⟩ := over_after started before after request h hsound hlatency hviolation
    exact ⟨decisionForLocked_over _ _ _ _ _ hover, decisionForLocked_over _ _ _ _ _ hover,
      decisionForLocked_over _ _ _ _ _ hover⟩

def sampleStart : BudgetStart := .initialized ⟨⟨some 5, some 4, some 1, some 1500, some 2⟩, 42⟩

def sampleStarted : BudgetController where
  initialized := true
  startedAtMs := 42
  runtimeBudget := ⟨some 5, some 4, some 1, some 1500, some 2⟩
  snapshot :=
    { snapshotAtMs := some 42
      entries := [initialEntry .token 5, initialEntry .turn 4, initialEntry .toolCall 1,
        initialEntry .latency 1500, initialEntry .replan 2]
      overallRejectReason := none }

/-- Two turns more than there are. -/
theorem budget_accounting_sample :
    BudgetAccounted sampleStarted [⟨.turn, 5, 50, []⟩, ⟨.turn, 1, 60, []⟩] := by
  refine budget_accounting sampleStart sampleStarted
    (makeBudgetAllowedDecision none (str "budget initialized")) _ rfl rfl ⟨?_, ?_, trivial⟩
  · rintro entry ⟨⟩
    decide
  · rintro entry ⟨⟩
    decide

/-- One consume that takes the count past `2 ^ 63`. -/
theorem budget_not_accounted :
    ¬ ∀ (call : BudgetStart) started decision requests, call.start = .ok (started, decision) →
      decision.allowed = true → BudgetAccounted started requests := by
  intro h
  obtain ⟨reason, hvalid⟩ := (h sampleStart sampleStarted _ [⟨.token, 2 ^ 64 - 1, 50, []⟩] rfl
    rfl).valid
  have hinvalid : (validateBudgetSnapshot (run BudgetController.consume sampleStarted
      [⟨.token, 2 ^ 64 - 1, 50, []⟩]).1.snapshot).isOk = false := by decide +kernel
  rw [hvalid] at hinvalid
  cases hinvalid

end Dasall.Runtime
