import Dasall.Infra.Watchdog.Service
import Mathlib

/-!
# Timeout levels

The engine turns one missed deadline into a decision. Its only memory is the window of the earlier
decisions that it is given.
-/

open Dasall.Lib.Text

namespace Dasall.Infra.Watchdog

open WatchdogServiceConfig

open Dasall.Infra.Policy (ResultCode classifyResultCode)

inductive WatchdogTimeoutLevel
  | unspecified
  | warning
  | critical
  | fatal
deriving DecidableEq

def WatchdogTimeoutLevel.toRaw : WatchdogTimeoutLevel → Nat
  | .unspecified => 0
  | .warning => 1
  | .critical => 2
  | .fatal => 3

def watchdogTimeoutLevelName : WatchdogTimeoutLevel → Bytes
  | .unspecified => str "unspecified"
  | .warning => str "warning"
  | .critical => str "critical"
  | .fatal => str "fatal"

structure TimeoutDecision where
  entityId : Bytes := []
  timeoutLevel : WatchdogTimeoutLevel := .unspecified
  consecutiveMiss : UInt32 := 0
  reasonCode : ResultCode := .runtimeRetryExhausted
  evidenceRef : Bytes := []
deriving DecidableEq

def TimeoutDecision.referencesContractReasonCode (decision : TimeoutDecision) : Bool :=
  classifyResultCode decision.reasonCode ≠ .unknown

def TimeoutDecision.hasRequiredFields (decision : TimeoutDecision) : Bool :=
  decision.entityId ≠ [] && decision.timeoutLevel ≠ .unspecified && 0 < decision.consecutiveMiss &&
    decision.referencesContractReasonCode && decision.evidenceRef ≠ []

/-- The window holds shared pointers, which may be null. -/
structure TimeoutHistoryWindow where
  recentSamples : List (Option HeartbeatSample) := []
  priorDecisions : List (Option TimeoutDecision) := []

def TimeoutHistoryWindow.hasBindableInputs (history : TimeoutHistoryWindow) : Bool :=
  history.recentSamples ≠ [] || history.priorDecisions ≠ []

/-! ## The engine -/

def timeoutPolicyFailure (message : String) : WatchdogFailure :=
  makeFailure none .validationFieldMissing (str message) (str "watchdog.timeout_policy.evaluate")
    (str "TimeoutPolicyEngine")

/-- The decisions that the loops over the window do not skip. -/
def TimeoutHistoryWindow.decisionsOf (history : TimeoutHistoryWindow) (entityId : Bytes) :
    List TimeoutDecision :=
  (history.priorDecisions.filterMap id).filter fun decision =>
    decision.hasRequiredFields && decision.entityId = entityId

def nextConsecutiveMiss (entityId : Bytes) (history : TimeoutHistoryWindow) : UInt32 :=
  (history.decisionsOf entityId).foldl
    (fun previousMax decision => max previousMax decision.consecutiveMiss) 0 + 1

def raiseLevel (previousLevel : Option WatchdogTimeoutLevel) (decision : TimeoutDecision) :
    Option WatchdogTimeoutLevel :=
  match previousLevel with
  | none => some decision.timeoutLevel
  | some level =>
    if level.toRaw < decision.timeoutLevel.toRaw then some decision.timeoutLevel else some level

def highestPriorLevel (entityId : Bytes) (history : TimeoutHistoryWindow) :
    Option WatchdogTimeoutLevel :=
  (history.decisionsOf entityId).foldl raiseLevel none

namespace WatchdogServiceConfig

variable (config : WatchdogServiceConfig)

def graceScanBudget : UInt32 :=
  if config.graceMs = 0 then 0
  else
    let numerator := config.graceMs.toUInt64 + config.scanIntervalMs.toUInt64 - 1
    (numerator / config.scanIntervalMs.toUInt64).toUInt32

def determineLevel (consecutiveMiss : UInt32) (previousLevel : Option WatchdogTimeoutLevel) :
    WatchdogTimeoutLevel :=
  let inGraceWindow : Bool :=
    0 < config.graceScanBudget && consecutiveMiss ≤ config.graceScanBudget
  let priorCriticalOrHigher : Bool :=
    previousLevel = some .critical || previousLevel = some .fatal
  if config.timeoutLevelPolicy = .warnThenCritical then
    if inGraceWindow || consecutiveMiss < config.consecutiveMissThreshold then .warning
    else if priorCriticalOrHigher || config.consecutiveMissThreshold < consecutiveMiss then .fatal
    else .critical
  else if inGraceWindow then .warning
  else if priorCriticalOrHigher || config.consecutiveMissThreshold < consecutiveMiss then .fatal
  else .critical

def buildEvidenceRef (candidate : HeartbeatSample) (level : WatchdogTimeoutLevel)
    (consecutiveMiss : UInt32) : Bytes :=
  str "watchdog://timeout-policy/" ++ candidate.entityId ++
    str "?level=" ++ watchdogTimeoutLevelName level ++
    str "&miss=" ++ decimal consecutiveMiss.toNat ++
    str "&seq=" ++ decimal candidate.seqNo.toNat ++
    str "&deadline_ts=" ++ intDecimal candidate.deadlineTs.toInt ++
    str "&policy=" ++
      (if config.timeoutLevelPolicy = .warnThenCritical then str "warn_then_critical"
       else str "critical_only") ++
    str "&threshold=" ++ decimal config.consecutiveMissThreshold.toNat ++
    str "&grace_ms=" ++ decimal config.graceMs.toNat

/-- `TimeoutPolicyEngine::evaluate`. The engine is its config. -/
def evaluate (candidate : Option HeartbeatSample) (history : TimeoutHistoryWindow) :
    Except WatchdogFailure TimeoutDecision :=
  match candidate.filter (·.hasRequiredFields) with
  | none =>
    .error (timeoutPolicyFailure ("timeout policy requires a non-null candidate with entity_id, " ++
      "timestamps, deadline_ts, and seq_no"))
  | some candidate =>
    if !history.hasBindableInputs then
      .error (timeoutPolicyFailure ("timeout policy requires at least one recent sample or prior " ++
        "decision in the history window"))
    else if !config.isValid then
      .error (timeoutPolicyFailure ("timeout policy engine requires a valid watchdog service " ++
        "config before evaluation"))
    else
      let consecutiveMiss := nextConsecutiveMiss candidate.entityId history
      let previousLevel := highestPriorLevel candidate.entityId history
      let timeoutLevel := config.determineLevel consecutiveMiss previousLevel
      .ok
        { entityId := candidate.entityId
          timeoutLevel
          consecutiveMiss
          reasonCode := mapWatchdogErrorCode .timeoutCritical
          evidenceRef := config.buildEvidenceRef candidate timeoutLevel consecutiveMiss }

theorem evaluate_eq_ok {candidate : Option HeartbeatSample} {history : TimeoutHistoryWindow}
    {decision : TimeoutDecision} (h : config.evaluate candidate history = .ok decision) :
    ∃ sample, candidate = some sample ∧ sample.hasRequiredFields = true ∧
      history.hasBindableInputs = true ∧ config.isValid = true ∧
      decision.entityId = sample.entityId ∧
      decision.consecutiveMiss = nextConsecutiveMiss sample.entityId history ∧
      decision.timeoutLevel = config.determineLevel (nextConsecutiveMiss sample.entityId history)
        (highestPriorLevel sample.entityId history) ∧
      decision.reasonCode = .providerTimeout ∧ decision.evidenceRef ≠ [] := by
  unfold evaluate at h
  split at h
  · cases h
  · rename_i sample hsample
    obtain ⟨rfl, hfields⟩ := Option.filter_eq_some_iff.mp hsample
    split at h
    · cases h
    · rename_i hbindable
      split at h
      · cases h
      · rename_i hvalid
        simp only [Except.ok.injEq] at h
        subst h
        refine ⟨sample, rfl, hfields, by simpa using hbindable, by simpa using hvalid, rfl, rfl,
          rfl, rfl, ?_⟩
        simp [buildEvidenceRef, str]

theorem evaluate_valid {sample : HeartbeatSample} {history : TimeoutHistoryWindow}
    (hfields : sample.hasRequiredFields = true) (hbindable : history.hasBindableInputs = true)
    (hvalid : config.isValid = true) :
    ∃ decision, config.evaluate (some sample) history = .ok decision := by
  unfold evaluate
  simp [Option.filter, hfields, hbindable, hvalid]

end WatchdogServiceConfig

/-! ## Runs over one entity -/

/-- The decisions about the entity in the window, with those that the loops skip. -/
def TimeoutHistoryWindow.own (history : TimeoutHistoryWindow) (entityId : Bytes) :
    List TimeoutDecision :=
  (history.priorDecisions.filterMap id).filter (·.entityId = entityId)

/-- The decisions about one entity, in the order in which they are made. Each window holds those
made before it, in any order and among any decisions about other entities. -/
inductive Escalated (config : WatchdogServiceConfig) (entityId : Bytes) :
    List TimeoutDecision → Prop
  | start : Escalated config entityId []
  | decided {decisions : List TimeoutDecision} {candidate : HeartbeatSample}
      {history : TimeoutHistoryWindow} {decision : TimeoutDecision} :
      Escalated config entityId decisions → (history.own entityId).Perm decisions →
      candidate.entityId = entityId → config.evaluate (some candidate) history = .ok decision →
      Escalated config entityId (decisions ++ [decision])

/-- What the ladder promises of the decisions about one entity. -/
structure Ladder (decisions : List TimeoutDecision) : Prop where
  levels : ∃ warnings criticals fatals, criticals ≤ 1 ∧ (0 < fatals → criticals = 1) ∧
    decisions.map (·.timeoutLevel) = List.replicate warnings .warning ++
      List.replicate criticals .critical ++ List.replicate fatals .fatal
  rising : decisions.Pairwise fun earlier later =>
    earlier.timeoutLevel.toRaw ≤ later.timeoutLevel.toRaw
  announced : ∀ before decision after, decisions = before ++ decision :: after →
    decision.timeoutLevel = .fatal → ∃ earlier ∈ before, earlier.timeoutLevel = .critical
  counted : ∀ i earlier later, decisions[i]? = some earlier → decisions[i + 1]? = some later →
    later.consecutiveMiss.toNat = earlier.consecutiveMiss.toNat + 1

section Runs

variable {config : WatchdogServiceConfig} {entityId : Bytes} {decisions : List TimeoutDecision}

/-- The grace in whole scans, rounded up. It always fits its 32 bits. -/
theorem graceScanBudget_eq (hvalid : config.isValid = true) :
    config.graceScanBudget.toNat =
      (config.graceMs.toNat + config.scanIntervalMs.toNat - 1) / config.scanIntervalMs.toNat := by
  have hscan : 0 < config.scanIntervalMs.toNat := by
    simp only [isValid, Bool.and_eq_true, decide_eq_true_eq] at hvalid
    exact hvalid.1.1.1.1.1.1.1.1
  have hgraceBound := config.graceMs.toNat_lt
  have hscanBound := config.scanIntervalMs.toNat_lt
  unfold graceScanBudget
  split
  · rename_i hzero
    rw [hzero, UInt32.toNat_zero, Nat.div_eq_of_lt (by omega)]
  · rename_i hgrace
    rw [← UInt32.toNat_inj, UInt32.toNat_zero] at hgrace
    have hsum : (config.graceMs.toUInt64 + config.scanIntervalMs.toUInt64 - 1).toNat =
        config.graceMs.toNat + config.scanIntervalMs.toNat - 1 := by
      rw [UInt64.toNat_sub, UInt64.toNat_add, UInt32.toNat_toUInt64, UInt32.toNat_toUInt64,
        UInt64.toNat_one]
      omega
    have hbudget : (config.graceMs.toNat + config.scanIntervalMs.toNat - 1) /
        config.scanIntervalMs.toNat ≤ config.graceMs.toNat := by
      rw [Nat.div_le_iff_le_mul_add_pred hscan]
      have := Nat.le_mul_of_pos_left config.graceMs.toNat hscan
      omega
    simp only [UInt64.toNat_toUInt32, UInt64.toNat_div, hsum, UInt32.toNat_toUInt64]
    exact Nat.mod_eq_of_lt (by omega)

/-- The level of the miss that has this number, as long as no number is reused. -/
def WatchdogServiceConfig.levelAt (config : WatchdogServiceConfig) (miss : Nat) :
    WatchdogTimeoutLevel :=
  if miss ≤ config.graceScanBudget.toNat ∨ miss < config.consecutiveMissThreshold.toNat then .warning
  else if miss = config.consecutiveMissThreshold.toNat then .critical
  else .fatal

/-- The decisions made so far are numbered from one on, and their levels follow the numbers. -/
structure Numbered (config : WatchdogServiceConfig) (entityId : Bytes)
    (decisions : List TimeoutDecision) : Prop where
  own : ∀ decision ∈ decisions, decision.hasRequiredFields = true ∧ decision.entityId = entityId
  latest : decisions.foldl (fun previousMax decision => max previousMax decision.consecutiveMiss) 0 =
    UInt32.ofNat decisions.length
  miss : ∀ i decision, decisions[i]? = some decision → decision.consecutiveMiss.toNat = i + 1
  level : ∀ i decision, decisions[i]? = some decision → decision.timeoutLevel = config.levelAt (i + 1)

theorem getElem?_snoc {α : Type} {l : List α} {last a : α} {i : Nat}
    (h : (l ++ [last])[i]? = some a) : l[i]? = some a ∨ i = l.length ∧ last = a := by
  rcases Nat.lt_or_ge i l.length with hlt | hge
  · rw [List.getElem?_append_left hlt] at h
    exact Or.inl h
  · rw [List.getElem?_append_right hge, List.getElem?_singleton] at h
    split at h
    · exact Or.inr ⟨by omega, Option.some.inj h⟩
    · cases h

variable {history : TimeoutHistoryWindow}

/-- A window never shows more than the run has decided. -/
theorem perm_decisionsOf
    (hown : ∀ decision ∈ decisions, decision.hasRequiredFields = true ∧ decision.entityId = entityId)
    (hperm : (history.own entityId).Perm decisions) :
    (history.decisionsOf entityId).Perm decisions := by
  have hsame : history.decisionsOf entityId =
      (history.own entityId).filter (·.hasRequiredFields) := by
    simp [TimeoutHistoryWindow.decisionsOf, TimeoutHistoryWindow.own, List.filter_filter]
  rw [hsame, List.filter_eq_self.mpr fun decision hmem => (hown decision (hperm.mem_iff.mp hmem)).1]
  exact hperm

theorem toNat_max (a b : UInt32) : (max a b).toNat = max a.toNat b.toNat := by
  change (if a ≤ b then b else a).toNat = _
  split
  · rename_i h
    rw [UInt32.le_iff_toNat_le] at h
    omega
  · rename_i h
    rw [UInt32.le_iff_toNat_le] at h
    omega

theorem nextConsecutiveMiss_perm
    (hperm : (history.decisionsOf entityId).Perm decisions) :
    nextConsecutiveMiss entityId history = decisions.foldl
      (fun previousMax decision => max previousMax decision.consecutiveMiss) 0 + 1 := by
  unfold nextConsecutiveMiss
  rw [hperm.foldl_eq' fun first _ second _ level => ?_]
  simp only [← UInt32.toNat_inj, toNat_max]
  omega

theorem foldl_raiseLevel_mem (level : WatchdogTimeoutLevel) :
    ∀ previous, decisions.foldl raiseLevel previous = some level →
      previous = some level ∨ ∃ decision ∈ decisions, decision.timeoutLevel = level := by
  induction decisions with
  | nil => exact fun previous h => Or.inl h
  | cons decision decisions ih =>
    intro previous h
    rcases ih _ h with hraised | ⟨later, hmem, hlevel⟩
    · unfold raiseLevel at hraised
      split at hraised
      · exact Or.inr ⟨decision, List.mem_cons_self, Option.some.inj hraised⟩
      · split at hraised
        · exact Or.inr ⟨decision, List.mem_cons_self, Option.some.inj hraised⟩
        · exact Or.inl hraised
    · exact Or.inr ⟨later, List.mem_cons_of_mem _ hmem, hlevel⟩

/-- A prior level is the level of a decision already made. -/
theorem highestPriorLevel_mem {level : WatchdogTimeoutLevel}
    (hperm : (history.decisionsOf entityId).Perm decisions)
    (h : highestPriorLevel entityId history = some level) :
    ∃ decision ∈ decisions, decision.timeoutLevel = level := by
  rcases foldl_raiseLevel_mem level none h with hnone | ⟨decision, hmem, hlevel⟩
  · cases hnone
  · exact ⟨decision, hperm.mem_iff.mp hmem, hlevel⟩

/-- A new decision has the next number, and its level follows from the number: an earlier critical
decision has an earlier number, so that the number of the new one is above the threshold. -/
theorem Numbered.step (hpolicy : config.timeoutLevelPolicy = .warnThenCritical)
    (h : Numbered config entityId decisions) (hroom : decisions.length + 1 < 2 ^ 32)
    {candidate : HeartbeatSample} {history : TimeoutHistoryWindow} {decision : TimeoutDecision}
    (hperm : (history.own entityId).Perm decisions) (hid : candidate.entityId = entityId)
    (hdecision : config.evaluate (some candidate) history = .ok decision) :
    Numbered config entityId (decisions ++ [decision]) := by
  obtain ⟨sample, hsample, hfields, -, -, howner, hcount, hlevel, hreason, hevidence⟩ :=
    config.evaluate_eq_ok hdecision
  obtain rfl := Option.some.inj hsample
  rw [hid] at howner hcount hlevel
  have hshown := perm_decisionsOf h.own hperm
  have hnext : nextConsecutiveMiss entityId history = UInt32.ofNat decisions.length + 1 := by
    rw [nextConsecutiveMiss_perm hshown, h.latest]
  have hmiss : (nextConsecutiveMiss entityId history).toNat = decisions.length + 1 := by
    rw [hnext, UInt32.toNat_add, UInt32.toNat_ofNat', UInt32.toNat_one]
    omega
  have hprior : decisions.length + 1 ≤ config.consecutiveMissThreshold.toNat →
      ∀ level, highestPriorLevel entityId history = some level → level = .warning := by
    intro hearly level hhighest
    obtain ⟨earlier, hmem, rfl⟩ := highestPriorLevel_mem hshown hhighest
    obtain ⟨i, hi⟩ := List.mem_iff_getElem?.mp hmem
    have hlength := (List.getElem?_eq_some_iff.mp hi).1
    rw [h.level i earlier hi, levelAt, if_pos (Or.inr (by omega))]
  have hnewLevel : decision.timeoutLevel = config.levelAt (decisions.length + 1) := by
    rw [hlevel]
    unfold determineLevel levelAt
    simp only [hpolicy, if_true, UInt32.lt_iff_toNat_lt, UInt32.le_iff_toNat_le, hmiss,
      UInt32.toNat_zero, Bool.or_eq_true, Bool.and_eq_true, decide_eq_true_eq]
    have hgrace : (0 < config.graceScanBudget.toNat ∧
        decisions.length + 1 ≤ config.graceScanBudget.toNat) ↔
          decisions.length + 1 ≤ config.graceScanBudget.toNat := by
      omega
    simp only [hgrace]
    by_cases hwarning : decisions.length + 1 ≤ config.graceScanBudget.toNat ∨
        decisions.length + 1 < config.consecutiveMissThreshold.toNat
    · rw [if_pos hwarning, if_pos hwarning]
    · rw [if_neg hwarning, if_neg hwarning]
      rw [not_or] at hwarning
      by_cases hcritical : decisions.length + 1 = config.consecutiveMissThreshold.toNat
      · rw [if_pos hcritical, if_neg]
        rintro ((hcritical | hfatal) | habove)
        · cases hprior (by omega) _ hcritical
        · cases hprior (by omega) _ hfatal
        · omega
      · rw [if_neg hcritical, if_pos (Or.inr (by omega))]
  have hnewFields : decision.hasRequiredFields = true := by
    have hnamed : decision.entityId ≠ [] := by
      rw [howner, ← hid]
      simp only [HeartbeatSample.hasRequiredFields, Bool.and_eq_true, decide_eq_true_eq] at hfields
      exact hfields.1.1.1
    have hset : decision.timeoutLevel ≠ .unspecified := by
      rw [hnewLevel]
      unfold levelAt
      split
      · simp
      · split <;> simp
    have hpositive : 0 < decision.consecutiveMiss := by
      rw [UInt32.lt_iff_toNat_lt, hcount, hmiss]
      exact Nat.succ_pos _
    have hcoded : decision.referencesContractReasonCode = true := by
      unfold TimeoutDecision.referencesContractReasonCode
      rw [hreason]
      decide
    simp [TimeoutDecision.hasRequiredFields, hnamed, hset, hpositive, hcoded, hevidence]
  constructor
  · intro other hmem
    rcases List.mem_append.mp hmem with hold | hnew
    · exact h.own other hold
    · obtain rfl := List.mem_singleton.mp hnew
      exact ⟨hnewFields, howner⟩
  · rw [List.foldl_append, h.latest, ← UInt32.toNat_inj]
    simp only [List.foldl_cons, List.foldl_nil, toNat_max, hcount, hmiss, UInt32.toNat_ofNat',
      List.length_append, List.length_singleton]
    omega
  · intro i other hother
    rcases getElem?_snoc hother with hold | ⟨rfl, rfl⟩
    · exact h.miss i other hold
    · rw [hcount, hmiss]
  · intro i other hother
    rcases getElem?_snoc hother with hold | ⟨rfl, rfl⟩
    · exact h.level i other hold
    · exact hnewLevel

theorem Escalated.numbered (hpolicy : config.timeoutLevelPolicy = .warnThenCritical)
    (h : Escalated config entityId decisions) (hroom : decisions.length < 2 ^ 32) :
    Numbered config entityId decisions := by
  induction h with
  | start => exact ⟨by simp, rfl, by simp, by simp⟩
  | decided _ hperm hid hdecision ih =>
    rw [List.length_append, List.length_singleton] at hroom
    exact (ih (by omega)).step hpolicy hroom hperm hid hdecision

theorem Escalated.first (h : Escalated config entityId decisions) :
    ∀ decision, decisions[0]? = some decision → decision.consecutiveMiss = 1 := by
  induction h with
  | start => simp
  | @decided decisions candidate history decision _ hperm hid hdecision ih =>
    intro other hother
    rcases getElem?_snoc hother with hold | ⟨hempty, rfl⟩
    · exact ih other hold
    · obtain ⟨sample, hsample, -, -, -, -, hcount, -⟩ := config.evaluate_eq_ok hdecision
      obtain rfl := Option.some.inj hsample
      have hnone : history.own entityId = [] :=
        List.perm_nil.mp (List.length_eq_zero_iff.mp hempty.symm ▸ hperm)
      have hshown : (history.decisionsOf entityId).Perm [] :=
        perm_decisionsOf (by simp) (by rw [hnone])
      rw [hcount, hid, nextConsecutiveMiss_perm hshown]
      rfl

/-- A window with one sample and all that the run has decided. -/
def TimeoutHistoryWindow.whole (sample : HeartbeatSample) (decisions : List TimeoutDecision) :
    TimeoutHistoryWindow where
  recentSamples := [some sample]
  priorDecisions := decisions.map some

/-- Runs of every length exist. -/
theorem exists_escalated (hvalid : config.isValid = true) (sample : HeartbeatSample)
    (hfields : sample.hasRequiredFields = true) :
    ∀ n, ∃ decisions, decisions.length = n ∧ Escalated config sample.entityId decisions ∧
      ∀ decision ∈ decisions, decision.entityId = sample.entityId := by
  intro n
  induction n with
  | zero => exact ⟨[], rfl, .start, by simp⟩
  | succ n ih =>
    obtain ⟨decisions, hlength, hrun, hown⟩ := ih
    let history := TimeoutHistoryWindow.whole sample decisions
    have hbindable : history.hasBindableInputs = true := rfl
    obtain ⟨decision, hdecision⟩ := config.evaluate_valid hfields hbindable hvalid
    obtain ⟨_, hsample, -, -, -, howner, -⟩ := config.evaluate_eq_ok hdecision
    obtain rfl := Option.some.inj hsample
    have hperm : (history.own sample.entityId).Perm decisions := by
      simp only [history, TimeoutHistoryWindow.own, TimeoutHistoryWindow.whole,
        List.filterMap_map, Function.id_comp, List.filterMap_some]
      rw [List.filter_eq_self.mpr fun decision hmem => by simp [hown decision hmem]]
    refine ⟨decisions ++ [decision], by simp [hlength], hrun.decided hperm rfl hdecision, ?_⟩
    intro other hmem
    rcases List.mem_append.mp hmem with hold | hnew
    · exact hown other hold
    · rw [List.mem_singleton.mp hnew, howner]

/-! ## When the ladder is kept -/

theorem levelAt_mono {first second : Nat} (h : first ≤ second) :
    (config.levelAt first).toRaw ≤ (config.levelAt second).toRaw := by
  unfold levelAt
  split_ifs <;> simp only [WatchdogTimeoutLevel.toRaw] <;> omega

/-- The numbers rise one at a time from one and are all below `2 ^ 32`. -/
theorem Ladder.length_lt (h : Ladder decisions) (hrun : Escalated config entityId decisions) :
    decisions.length < 2 ^ 32 := by
  have hmiss : ∀ i decision, decisions[i]? = some decision →
      decision.consecutiveMiss.toNat = i + 1 := by
    intro i
    induction i with
    | zero => exact fun decision hfirst => by rw [hrun.first decision hfirst]; rfl
    | succ i ih =>
      intro decision hdecision
      have hlength := (List.getElem?_eq_some_iff.mp hdecision).1
      have hbefore := List.getElem?_eq_getElem (show i < decisions.length by omega)
      rw [h.counted i _ decision hbefore hdecision, ih _ hbefore]
  by_contra hlong
  have hlast := List.getElem?_eq_getElem (show 2 ^ 32 - 1 < decisions.length by omega)
  have hcount := hmiss _ _ hlast
  have hbound := (decisions[2 ^ 32 - 1]).consecutiveMiss.toNat_lt
  omega

theorem Numbered.ladder (h : Numbered config entityId decisions)
    (hmet : config.graceScanBudget.toNat < config.consecutiveMissThreshold.toNat ∨
      decisions.length ≤ config.graceScanBudget.toNat)
    (hthreshold : 0 < config.consecutiveMissThreshold.toNat) : Ladder decisions := by
  constructor
  · let warnings := min decisions.length
      (max config.graceScanBudget.toNat (config.consecutiveMissThreshold.toNat - 1))
    let criticals := min (decisions.length - warnings) 1
    refine ⟨warnings, criticals, decisions.length - warnings - criticals, by omega, by omega, ?_⟩
    apply List.ext_getElem
    · simp only [List.length_map, List.length_append, List.length_replicate]
      omega
    · intro i hleft hright
      rw [List.length_map] at hleft
      have hlevel := h.level i _ (List.getElem?_eq_getElem hleft)
      rw [List.getElem_map, hlevel, levelAt]
      simp only [List.getElem_append, List.getElem_replicate, List.length_append,
        List.length_replicate]
      split_ifs <;> first | rfl | omega
  · rw [List.pairwise_iff_getElem]
    intro i j hi hj hlt
    rw [h.level i _ (List.getElem?_eq_getElem hi), h.level j _ (List.getElem?_eq_getElem hj)]
    exact levelAt_mono (by omega)
  · rintro before decision after rfl hfatal
    rw [List.length_append, List.length_cons] at hmet
    have hlevel := h.level before.length decision (by simp)
    rw [hfatal, levelAt] at hlevel
    split_ifs at hlevel with hwarning hcritical
    rw [not_or] at hwarning
    have hearlier : config.consecutiveMissThreshold.toNat - 1 < before.length := by omega
    refine ⟨before[config.consecutiveMissThreshold.toNat - 1], List.getElem_mem hearlier, ?_⟩
    rw [h.level (config.consecutiveMissThreshold.toNat - 1) _ (by
      rw [List.getElem?_append_left hearlier]; exact List.getElem?_eq_getElem hearlier),
      levelAt, if_neg (by omega), if_pos (by omega)]
  · intro i earlier later hearlier hlater
    rw [h.miss _ _ hearlier, h.miss _ _ hlater]

/-- When the grace lasts as long as the threshold or longer, the first decision after it is
fatal. -/
theorem Numbered.skips (h : Numbered config entityId decisions)
    (hgrace : config.consecutiveMissThreshold.toNat ≤ config.graceScanBudget.toNat)
    (hlong : config.graceScanBudget.toNat < decisions.length) : ¬ Ladder decisions := by
  intro hladder
  have hlast := h.level _ _ (List.getElem?_eq_getElem hlong)
  rw [levelAt, if_neg (by omega), if_neg (by omega)] at hlast
  have hsplit := (List.take_append_drop config.graceScanBudget.toNat decisions).symm
  rw [List.drop_eq_getElem_cons hlong] at hsplit
  obtain ⟨earlier, hmem, hcritical⟩ := hladder.announced _ _ _ hsplit hlast
  obtain ⟨i, hi⟩ := List.mem_iff_getElem?.mp hmem
  rw [List.getElem?_take] at hi
  split_ifs at hi with hbefore
  have hlevel := h.level i earlier hi
  rw [hcritical, levelAt, if_pos (Or.inl (by omega))] at hlevel
  cases hlevel

/-- A run of a valid engine keeps the ladder exactly when its grace in scans is below the threshold
or still lasts, and the miss numbers fit their 32 bits. -/
theorem escalation_ladder_iff (hvalid : config.isValid = true)
    (hpolicy : config.timeoutLevelPolicy = .warnThenCritical)
    (hrun : Escalated config entityId decisions) :
    Ladder decisions ↔ decisions.length < 2 ^ 32 ∧
      ((config.graceMs.toNat + config.scanIntervalMs.toNat - 1) / config.scanIntervalMs.toNat <
          config.consecutiveMissThreshold.toNat ∨
        decisions.length ≤
          (config.graceMs.toNat + config.scanIntervalMs.toNat - 1) / config.scanIntervalMs.toNat) := by
  rw [← graceScanBudget_eq hvalid]
  constructor
  · intro hladder
    have hroom := hladder.length_lt hrun
    refine ⟨hroom, ?_⟩
    by_contra hskip
    rw [not_or, not_le, not_lt] at hskip
    exact (hrun.numbered hpolicy hroom).skips hskip.1 hskip.2 hladder
  · rintro ⟨hroom, hmet⟩
    have hthreshold : 0 < config.consecutiveMissThreshold.toNat := by
      simp only [WatchdogServiceConfig.isValid, Bool.and_eq_true, decide_eq_true_eq] at hvalid
      exact hvalid.1.1.1.1.1.2
    exact (hrun.numbered hpolicy hroom).ladder hmet hthreshold

end Runs

def mainLoopSample : HeartbeatSample where
  entityId := str "runtime.main_loop"
  heartbeatTs := 1711958400000
  deadlineTs := 1711958415000
  seqNo := 1

/-- With a grace of two scans and a threshold of three, five decisions keep the ladder. -/
theorem escalation_ladder_short_grace :
    ∃ decisions, decisions.length = 5 ∧
      Escalated { graceMs := 1000 } mainLoopSample.entityId decisions ∧ Ladder decisions := by
  obtain ⟨decisions, hlength, hrun, -⟩ :=
    @exists_escalated { graceMs := 1000 } (by decide) mainLoopSample (by decide) 5
  refine ⟨decisions, hlength, hrun, (escalation_ladder_iff (by decide) rfl hrun).mpr ?_⟩
  rw [hlength]
  decide

/-- The defaults allow a grace of four scans and set a threshold of three, so that the fifth
decision is fatal and none is critical. -/
theorem defaults_skip_critical :
    ¬ ∀ (config : WatchdogServiceConfig) (entityId : Bytes) (decisions : List TimeoutDecision),
      config.isValid = true → config.timeoutLevelPolicy = .warnThenCritical →
      Escalated config entityId decisions → Ladder decisions := by
  intro hclaim
  obtain ⟨decisions, hlength, hrun, -⟩ :=
    @exists_escalated {} (by decide) mainLoopSample (by decide) 5
  have hnumbered := hrun.numbered rfl (by omega)
  refine hnumbered.skips (by decide) ?_ (hclaim {} _ decisions (by decide) rfl hrun)
  rw [hlength]
  decide

end Dasall.Infra.Watchdog
