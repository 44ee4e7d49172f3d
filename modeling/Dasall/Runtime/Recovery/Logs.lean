import Dasall.Lib.Markers
import Dasall.Runtime.Recovery.Plan

/-!
# What recovery logs

Each log line carries a sanitized detail. Sanitizing cuts a token at its first delimiter, so it
hides a token whole only where the token has none.
-/

open Dasall.Lib.Text Dasall.Lib.Guard Dasall.Lib.Markers Dasall.Contracts

namespace Dasall.Runtime

def isDetailDelimiter (ch : Byte) : Bool :=
  (str " \t\n\r,;)(][").contains ch || ch == 125 || ch == 123

def recoveryTokenMarker : Bytes := str "retry_idempotency_token="

def redactedValue : Bytes := str "<redacted>"

/-- The loop of `sanitize_recovery_detail`, while there is fuel. -/
def sanitizeLoop : Nat → Bytes → Nat → Option Bytes
  | 0, _, _ => none
  | fuel + 1, detail, searchPos =>
    if searchPos < detail.length then
      match find detail recoveryTokenMarker searchPos with
      | none => some detail
      | some markerPos =>
        let valueStart := markerPos + recoveryTokenMarker.length
        let valueEnd :=
          valueStart + ((detail.drop valueStart).takeWhile (!isDetailDelimiter ·)).length
        sanitizeLoop fuel (detail.take valueStart ++ redactedValue ++ detail.drop valueEnd)
          (valueStart + redactedValue.length)
    else some detail

def sanitizeRecoveryDetail (detail : Bytes) : Option Bytes :=
  sanitizeLoop (detail.length + 1) detail 0

/-! ## The loop is one scan -/

def tokenRule : Rule Byte := ⟨recoveryTokenMarker, recoveryTokenMarker ++ redactedValue⟩

/-- What sanitizing leaves of a text. -/
def sanitized (detail : Bytes) : Bytes := scan isDetailDelimiter tokenRule false detail

theorem marker_free : Free isDetailDelimiter recoveryTokenMarker := by decide

theorem mask_free : Free isDetailDelimiter tokenRule.mask := by decide

theorem marker_ne_nil : recoveryTokenMarker ≠ [] := by decide

theorem dropWhile_free {word : Bytes} (hword : Free isDetailDelimiter word) (text : Bytes) :
    (word ++ text).dropWhile (!isDetailDelimiter ·) = text.dropWhile (!isDetailDelimiter ·) := by
  apply List.dropWhile_append_of_pos
  intro item hitem
  rw [hword item hitem, Bool.not_false]

/-- The first marker is found, and the scan goes on behind its value. -/
theorem sanitized_at {text : Bytes} {place : Nat}
    (h : findFirst recoveryTokenMarker text = some place) :
    ∃ front after, text = front ++ (recoveryTokenMarker ++ after) ∧ front.length = place ∧
      sanitized text = front ++ (recoveryTokenMarker ++ redactedValue) ++
        sanitized (after.dropWhile (!isDetailDelimiter ·)) := by
  obtain ⟨hmarked, hlt, hscan⟩ :=
    scan_of_findFirst_some isDetailDelimiter tokenRule marker_ne_nil text place h
  obtain ⟨after, hafter⟩ := List.isPrefixOf_iff_prefix.mp hmarked
  obtain ⟨first, rest, hmarker⟩ := List.exists_cons_of_ne_nil marker_ne_nil
  have htail : text.drop (place + 1) = rest ++ after := by
    rw [← List.drop_drop, ← hafter]
    simp only [tokenRule, hmarker, List.cons_append, List.drop_one, List.tail_cons]
  have hrest : Free isDetailDelimiter rest := by
    have hfree := marker_free
    rw [hmarker, free_cons] at hfree
    exact hfree.2
  refine ⟨text.take place, after, ?_, List.length_take_of_le hlt.le, ?_⟩
  · rw [show recoveryTokenMarker ++ after = text.drop place from hafter, List.take_append_drop]
  · unfold sanitized
    rw [hscan, scan_masked, htail, dropWhile_free hrest]
    rfl

theorem sanitizeLoop_spec (fuel : Nat) (written rest : Bytes) (hfuel : rest.length < fuel) :
    sanitizeLoop fuel (written ++ rest) written.length = some (written ++ sanitized rest) := by
  induction fuel generalizing written rest with
  | zero => omega
  | succ fuel ih =>
    have hfind : find (written ++ rest) recoveryTokenMarker written.length =
        (findFirst recoveryTokenMarker rest).map (written.length + ·) := by
      simp [find]
    unfold sanitizeLoop
    rw [hfind]
    split
    · cases hfound : findFirst recoveryTokenMarker rest with
      | none =>
        have hsame := scan_of_findFirst_none isDetailDelimiter tokenRule rest hfound
        simp only [Option.map_none, sanitized, hsame]
      | some place =>
        obtain ⟨front, after, rfl, rfl, hsanitized⟩ := sanitized_at hfound
        set before := written ++ front ++ recoveryTokenMarker with hbefore
        have htext : written ++ (front ++ (recoveryTokenMarker ++ after)) = before ++ after := by
          simp [hbefore]
        have hstart : written.length + front.length + recoveryTokenMarker.length =
            before.length := by
          simp [hbefore, Nat.add_assoc]
        have hdrop : after.drop (after.takeWhile (!isDetailDelimiter ·)).length =
            after.dropWhile (!isDetailDelimiter ·) := by
          have hsplit := List.takeWhile_append_dropWhile (p := (!isDetailDelimiter ·)) (l := after)
          generalize after.takeWhile (!isDetailDelimiter ·) = value at hsplit ⊢
          generalize after.dropWhile (!isDetailDelimiter ·) = later at hsplit ⊢
          rw [← hsplit, List.drop_left]
        have hlength : (after.dropWhile (!isDetailDelimiter ·)).length < fuel := by
          have hmarker := List.length_pos_of_ne_nil marker_ne_nil
          have hle := (List.dropWhile_sublist (!isDetailDelimiter ·) (l := after)).length_le
          simp only [List.length_append] at hfuel
          omega
        simp only [Option.map_some, htext, hstart, List.take_left, List.drop_left]
        rw [← List.drop_drop, List.drop_left, hdrop, ← List.length_append, ih _ _ hlength,
          hsanitized]
        simp [hbefore]
    · next hend =>
      obtain rfl : rest = [] := by
        rw [← List.length_eq_zero_iff]
        simp only [List.length_append] at hend
        omega
      rfl

theorem sanitizeRecoveryDetail_eq (detail : Bytes) :
    sanitizeRecoveryDetail detail = some (sanitized detail) :=
  sanitizeLoop_spec (detail.length + 1) [] detail (by omega)

theorem sanitized_wordwise : Wordwise isDetailDelimiter sanitized (cutFirst [tokenRule]) :=
  scan_wordwise isDetailDelimiter tokenRule marker_ne_nil marker_free mask_free

theorem sanitized_sanitized (detail : Bytes) : sanitized (sanitized detail) = sanitized detail := by
  have htwice := sanitized_wordwise.comp isDetailDelimiter sanitized_wordwise
  have hcut : ∀ word, cutFirst [tokenRule] (cutFirst [tokenRule] word) = cutFirst [tokenRule] word :=
    cutFirst_cutFirst [tokenRule] ⟨by decide, by decide, by decide⟩ (by decide)
  induction detail using words_induction isDetailDelimiter with
  | nil => rfl
  | delim item text hitem ih =>
    rw [sanitized_wordwise.delim item text hitem, sanitized_wordwise.delim item _ hitem, ih]
  | word word text _ hword htext ih =>
    have hboth := htwice.word word text hword htext
    simp only [Function.comp_apply, hcut, ih] at hboth
    rw [hboth, sanitized_wordwise.word word text hword htext]

/-! ## What the three calls log -/

/-- The detail that `execute` logs, if any. -/
def outcomeDetail (outcome : RecoveryOutcome) : Option Bytes :=
  match outcome.rejectionReason with
  | some reason => sanitizeRecoveryDetail reason
  | none => outcome.escalationReason.bind sanitizeRecoveryDetail

structure RecoveryDetails where
  evaluated : Option Bytes
  executed : Option Bytes
  applied : Check (Option Bytes)

/-- The details logged while a request is evaluated, its plan executed and the outcome applied. -/
def RecoveryManager.details (manager : RecoveryManager) (request : RecoveryRequest) :
    Check RecoveryDetails := do
  let (manager, plan) ← manager.evaluate request
  let outcome := manager.execute plan
  .ok
    { evaluated := sanitizeRecoveryDetail plan.detail
      executed := outcomeDetail outcome
      applied := (manager.apply outcome).map fun applied => sanitizeRecoveryDetail applied.2.detail }

def withKey (request : RecoveryRequest) (key : Bytes) : RecoveryRequest :=
  { request with
    idempotencyAndSideEffectReport := request.idempotencyAndSideEffectReport.map fun report =>
      { report with idempotencyKey := some key } }

/-- What sanitizing leaves of a token: from its first delimiter on. -/
def afterToken (key : Bytes) : Bytes := sanitized (key.dropWhile (!isDetailDelimiter ·))

/-- The two actions that a replay goes on with. -/
def ReplayAction (action : Bytes) : Prop := action = str "continue" ∨ action = str "retry_step"

def admittedDetail (action key : Bytes) : Bytes :=
  action ++ str " admitted; reuse retry_idempotency_token=" ++ key

/-- The text before the token has no marker, and the token is hidden up to its first delimiter. -/
theorem sanitized_admitted {action : Bytes} (haction : ReplayAction action) (key : Bytes) :
    sanitized (admittedDetail action key) =
      action ++ str " admitted; reuse retry_idempotency_token=<redacted>" ++ afterToken key := by
  have hfirst : ∀ text : Bytes, findFirst recoveryTokenMarker
      (action ++ str " admitted; reuse retry_idempotency_token=" ++ text) =
        some (action.length + 17) := by
    intro text
    rcases haction with rfl | rfl <;> rfl
  obtain ⟨front, after, htext, hlength, hsanitized⟩ := sanitized_at (hfirst key)
  have hsame : front = action ++ str " admitted; reuse " ∧ after = key := by
    have hsplit : action ++ str " admitted; reuse retry_idempotency_token=" ++ key =
        action ++ str " admitted; reuse " ++ (recoveryTokenMarker ++ key) := by
      rw [List.append_assoc, List.append_assoc, ← List.append_assoc _ recoveryTokenMarker]
      rfl
    rw [hsplit] at htext
    obtain ⟨hfront, hafter⟩ := List.append_inj htext.symm (by simp [hlength]; rfl)
    exact ⟨hfront, List.append_cancel_left hafter⟩
  obtain ⟨rfl, rfl⟩ := hsame
  unfold admittedDetail afterToken
  have hmasked : str " admitted; reuse retry_idempotency_token=<redacted>" =
      str " admitted; reuse " ++ (recoveryTokenMarker ++ redactedValue) := by decide
  rw [hsanitized, hmasked]
  simp only [List.append_assoc]

/-! ## Only a replay shows the key -/

variable (request : RecoveryRequest) {key other : Bytes}

theorem reportRules_withKey (report : IdempotencyAndSideEffectReport) (hkey : key ≠ [])
    (hother : other ≠ []) :
    validateIdempotencyAndSideEffectReportRequiredFields { report with idempotencyKey := some key } =
        validateIdempotencyAndSideEffectReportRequiredFields
          { report with idempotencyKey := some other } ∧
      validateIdempotencyAndSideEffectReportFieldRules { report with idempotencyKey := some key } =
        validateIdempotencyAndSideEffectReportFieldRules
          { report with idempotencyKey := some other } := by
  have hpresent : ∀ text : Bytes, text ≠ [] →
      nonEmptyWhenPresent (some text) = true ∧ hasNonEmptyValue (some text) = true := by
    intro text htext
    cases text with
    | nil => exact absurd rfl htext
    | cons item text => exact ⟨rfl, rfl⟩
  have hrequired : validateIdempotencyAndSideEffectReportRequiredFields
      { report with idempotencyKey := some key } =
        validateIdempotencyAndSideEffectReportRequiredFields
          { report with idempotencyKey := some other } := by
    unfold validateIdempotencyAndSideEffectReportRequiredFields
    simp only [hpresent key hkey, hpresent other hother]
  refine ⟨hrequired, ?_⟩
  unfold validateIdempotencyAndSideEffectReportFieldRules
  simp only [hrequired, hpresent key hkey, hpresent other hother]

theorem fieldRules_withKey (hkey : key ≠ []) (hother : other ≠ []) :
    validateRecoveryRequestFieldRules (withKey request key) =
      validateRecoveryRequestFieldRules (withKey request other) := by
  cases hreport : request.idempotencyAndSideEffectReport with
  | none => simp only [withKey, hreport, Option.map_none]
  | some report =>
    obtain ⟨hrequired, hrules⟩ := reportRules_withKey report hkey hother
    have hboundary : validateRecoveryRequestBoundary (withKey request key) =
        validateRecoveryRequestBoundary (withKey request other) := by
      unfold validateRecoveryRequestBoundary validateRecoveryRequestRequiredFields
      simp only [withKey, hreport, Option.map_some, present, hrequired, bind, Except.bind]
    unfold validateRecoveryRequestFieldRules
    rw [hboundary]
    simp only [withKey, hreport, Option.map_some, deref, hrules, bind, Except.bind]

/-- The plan of a replay, but for its detail, or one plan for every key. -/
inductive KeyUse (answer : Bytes → Check (RecoveryManager × RecoveryExecutionPlan)) : Prop
  | unused (same : Check (RecoveryManager × RecoveryExecutionPlan))
      (hsame : ∀ key ≠ [], answer key = same)
      (hother : ∀ manager plan, same = .ok (manager, plan) → ¬ ReplayAction plan.plannedAction)
  | shown (manager : RecoveryManager) (action : Bytes) (resumePlan : Option ResumePlan)
      (haction : ReplayAction action)
      (hshown : ∀ key ≠ [], answer key = .ok (manager,
        makeRecoveryExecutionPlan action (admittedDetail action key) resumePlan))

theorem KeyUse.failed (violation : Stop) : KeyUse fun _ => .error violation := by
  refine .unused _ (fun _ _ => rfl) fun manager plan h => ?_
  cases h

variable (manager : RecoveryManager)

theorem KeyUse.plain (plan : RecoveryExecutionPlan)
    (hplan : ¬ ReplayAction plan.plannedAction) : KeyUse fun _ => .ok (manager, plan) := by
  refine .unused _ (fun _ _ => rfl) fun other found h => ?_
  cases h
  exact hplan

/-- Only what it answers to keys matters. -/
theorem KeyUse.congr {first second : Bytes → Check (RecoveryManager × RecoveryExecutionPlan)}
    (h : KeyUse first) (hsame : ∀ key ≠ [], second key = first key) : KeyUse second := by
  cases h with
  | unused same hfirst hother =>
    exact .unused same (fun key hkey => (hsame key hkey).trans (hfirst key hkey)) hother
  | shown manager action resumePlan haction hshown =>
    exact .shown manager action resumePlan haction fun key hkey =>
      (hsame key hkey).trans (hshown key hkey)

theorem rejection_plain (code : RuntimeErrorCode) (detail : Bytes) :
    ¬ ReplayAction (rejectionPlan code detail).plannedAction := by
  rintro (h | h) <;> cases h

theorem replayPlan_withKey (checkpoint : Checkpoint)
    (kind : ReflectionDecisionKind) :
    KeyUse fun key => (replayPlan (withKey request key) checkpoint kind).map (manager, ·) := by
  unfold replayPlan
  cases hreport : request.idempotencyAndSideEffectReport with
  | none =>
    simp only [withKey, hreport, Option.map_none, deref, bind, Except.bind, Except.map]
    exact .failed _
  | some report =>
    simp only [withKey, hreport, Option.map_some]
    cases hsafe : report.replaySafe with
    | none =>
      simp only [deref, bind, Except.bind, Except.map]
      exact .failed _
    | some replaySafe =>
      cases replaySafe with
      | false =>
        simp only [deref, bind, Except.bind, Except.map, Bool.not_false, if_true]
        exact .plain manager _ (rejection_plain _ _)
      | true =>
        cases hresume : synthesizeResumePlan checkpoint with
        | error violation =>
          refine (KeyUse.failed violation).congr fun key hkey => ?_
          obtain ⟨item, rest, rfl⟩ := List.exists_cons_of_ne_nil hkey
          rfl
        | ok decision =>
          cases hresumable : decision.resumable with
          | false =>
            refine (KeyUse.plain manager _ (rejection_plain
              (decision.errorCode.getD .rtE412ResumeRejected) decision.detail)).congr
                fun key hkey => ?_
            obtain ⟨item, rest, rfl⟩ := List.exists_cons_of_ne_nil hkey
            simp [deref, bind, Except.bind, Except.map, hresumable]
          | true =>
            refine .shown manager (if kind == .continue_ then str "continue" else str "retry_step")
              decision.plan ?_ (fun key hkey => ?_)
            · split
              · exact .inl rfl
              · exact .inr rfl
            · obtain ⟨item, rest, rfl⟩ := List.exists_cons_of_ne_nil hkey
              simp [deref, bind, Except.bind, Except.map, hresumable, admittedDetail]

theorem planDecision_withKey (checkpoint : Checkpoint)
    (kind : ReflectionDecisionKind) :
    KeyUse fun key => (planDecision (withKey request key) checkpoint kind).map (manager, ·) := by
  have hplain := KeyUse.plain manager
  cases kind with
  | continue_ => exact replayPlan_withKey request manager checkpoint .continue_
  | retryStep => exact replayPlan_withKey request manager checkpoint .retryStep
  | abortSafe => exact hplain abortSafePlan (by rintro (h | h) <;> cases h)
  | replan =>
    refine hplain (replanPlan request checkpoint) ?_
    unfold replanPlan
    split
    · rintro (h | h) <;> cases h
    · exact rejection_plain _ _
  | unspecified => exact hplain (rejectionPlan _ _) (rejection_plain _ _)
  | unlisted value => exact hplain {} (by rintro (h | h) <;> cases h)

theorem evaluateRequest_withKey :
    KeyUse fun key => manager.evaluateRequest (withKey request key) := by
  have hguard : ∀ key ≠ [], validateRecoveryRequestFieldRules (withKey request key) =
      validateRecoveryRequestFieldRules (withKey request [0]) := fun key hkey =>
    fieldRules_withKey request hkey (by decide)
  unfold RecoveryManager.evaluateRequest
  cases hrules : validateRecoveryRequestFieldRules (withKey request [0]) with
  | error stop =>
    cases stop with
    | disengaged =>
      exact (KeyUse.failed .disengaged).congr fun key hkey => by rw [hguard key hkey, hrules]
    | reject reason =>
      exact (KeyUse.plain manager _ (rejection_plain .rtE500RecoveryRejected reason)).congr
        fun key hkey => by rw [hguard key hkey, hrules]
  | ok reason =>
    cases hbudget : request.runtimeBudgetSnapshot.filter snapshotIsExhausted with
    | some snapshot =>
      refine (KeyUse.plain manager (makeDegradePlan (snapshot.overallRejectReason.getD
        (str "runtime budget exhausted during recovery admission"))) ?_).congr fun key hkey => ?_
      · rintro (h | h) <;> cases h
      · rw [hguard key hkey, hrules]
        simp only [withKey, hbudget]
    | none =>
      have hread : ∀ key ≠ [], manager.evaluateRequest (withKey request key) = (do
          let checkpoint ← deref request.checkpoint
          let decision ← deref request.reflectionDecision
          let kind ← deref decision.decisionKind
          Except.map
            (Prod.mk { manager with
              lastEvaluatedRetryCount := some (retryCountOf request checkpoint + 1) })
            (planDecision (withKey request key) checkpoint kind)) := by
        intro key hkey
        unfold RecoveryManager.evaluateRequest
        rw [hguard key hkey, hrules]
        simp only [withKey, hbudget]
        rfl
      refine KeyUse.congr ?_ hread
      cases request.checkpoint with
      | none => exact .failed .disengaged
      | some checkpoint =>
        cases request.reflectionDecision with
        | none => exact .failed .disengaged
        | some decision =>
          cases hkind : decision.decisionKind with
          | none =>
            simp only [deref, hkind, bind, Except.bind]
            exact .failed .disengaged
          | some kind =>
            simp only [deref, hkind, bind, Except.bind]
            exact planDecision_withKey request _ checkpoint kind

/-- `evaluate` answers every key alike, or shows it in the detail of an admitted replay. -/
theorem evaluate_withKey :
    KeyUse fun key => manager.evaluate (withKey request key) := by
  unfold RecoveryManager.evaluate
  cases evaluateRequest_withKey request manager with
  | unused same hsame hother =>
    refine KeyUse.congr (?_ : KeyUse fun _ => do
      let (manager, result) ← same
      if result.plannedAction.isEmpty then
        .ok (manager, rejectionPlan .rtE500RecoveryRejected
          (str "recovery decision is not supported"))
      else .ok (manager, result)) fun key hkey => by rw [hsame key hkey]
    cases same with
    | error violation => exact .failed violation
    | ok answer =>
      simp only [bind, Except.bind]
      split
      · exact .plain _ _ (rejection_plain _ _)
      · exact .plain _ _ (hother _ _ rfl)
  | shown other action resumePlan haction hshown =>
    refine .shown other action resumePlan haction fun key hkey => ?_
    rw [hshown key hkey]
    rcases haction with rfl | rfl <;> rfl

/-! ## When the logs agree -/

/-- The condition under which a request is admitted as a replay. -/
def AdmitsReplay (request : RecoveryRequest) : Prop := Counted request = true ∧ Replayable request

theorem admitsReplay_iff (hkey : key ≠ []) :
    AdmitsReplay (withKey request key) ↔ ∃ other action resumePlan, ReplayAction action ∧
      manager.evaluate (withKey request key) =
        .ok (other, makeRecoveryExecutionPlan action (admittedDetail action key) resumePlan) := by
  obtain ⟨plan, hplan, hplanned⟩ := evaluate_spec manager (withKey request key)
  constructor
  · rintro ⟨hcounted, hreplay⟩
    have haction : ReplayAction plan.plannedAction := by
      cases hplanned with
      | replayed action detail resumePlan checkpoint hcounted hreplay haction => exact haction
      | refused code detail haccepted => simp [Counted, haccepted] at hcounted
      | degraded snapshot haccepted hsnapshot hexhausted =>
        have hflag := (exhausted_iff _).mpr ⟨snapshot, hsnapshot, hexhausted⟩
        simp [Counted, hflag] at hcounted
      | rejected code detail _ hno => exact absurd hreplay hno
      | aborted _ hno => exact absurd hreplay hno
      | replanned detail _ hno => exact absurd hreplay hno
    cases evaluate_withKey request manager with
    | unused same hsame hother =>
      exact absurd haction (hother _ _ ((hsame key hkey).symm.trans hplan))
    | shown other action resumePlan haction hshown =>
      exact ⟨other, action, resumePlan, haction, hshown key hkey⟩
  · rintro ⟨other, action, resumePlan, haction, hanswer⟩
    rw [hplan, Except.ok.injEq, Prod.mk.injEq] at hanswer
    obtain ⟨-, rfl⟩ := hanswer
    generalize hsame : makeRecoveryExecutionPlan action (admittedDetail action key) resumePlan =
      plan at hplanned
    have hadmitted : plan.admission = .admitted ∧ plan.plannedAction = action := by
      subst hsame
      exact ⟨rfl, rfl⟩
    cases hplanned with
    | replayed action detail resumePlan checkpoint hcounted hreplay => exact ⟨hcounted, hreplay⟩
    | replanned detail _ _ =>
      obtain ⟨-, rfl⟩ := hadmitted
      rcases haction with h | h <;> cases h
    | refused | degraded | rejected | aborted => cases hadmitted.1

theorem details_shown (manager other : RecoveryManager) {action : Bytes}
    {resumePlan : Option ResumePlan} (haction : ReplayAction action)
    (h : manager.evaluate (withKey request key) =
      .ok (other, makeRecoveryExecutionPlan action (admittedDetail action key) resumePlan)) :
    manager.details (withKey request key) = .ok
      { evaluated := some (action ++
          str " admitted; reuse retry_idempotency_token=<redacted>" ++ afterToken key)
        executed := none
        applied := (other.apply (other.execute
          (makeRecoveryExecutionPlan action [] resumePlan))).map
            fun applied => sanitizeRecoveryDetail applied.2.detail } := by
  unfold RecoveryManager.details
  rw [h]
  simp only [bind, Except.bind]
  rw [← sanitized_admitted haction, ← sanitizeRecoveryDetail_eq]
  rfl

theorem details_agree_iff (hkey : key ≠ []) (hother : other ≠ []) :
    manager.details (withKey request key) = manager.details (withKey request other) ↔
      (AdmitsReplay (withKey request key) → afterToken key = afterToken other) := by
  rw [admitsReplay_iff request manager hkey]
  cases evaluate_withKey request manager with
  | unused same hsame hno =>
    have hequal : manager.details (withKey request key) =
        manager.details (withKey request other) := by
      unfold RecoveryManager.details
      rw [hsame key hkey, hsame other hother]
    refine ⟨fun _ => ?_, fun _ => hequal⟩
    rintro ⟨found, action, resumePlan, haction, hanswer⟩
    exact absurd haction (hno _ _ ((hsame key hkey).symm.trans hanswer))
  | shown found action resumePlan haction hshown =>
    rw [details_shown request manager found haction (hshown key hkey),
      details_shown request manager found haction (hshown other hother)]
    simp only [Except.ok.injEq, RecoveryDetails.mk.injEq, Option.some.injEq, and_true,
      List.append_cancel_left_eq]
    exact ⟨fun h _ => h, fun h => h ⟨found, action, resumePlan, haction, hshown key hkey⟩⟩

end Dasall.Runtime
