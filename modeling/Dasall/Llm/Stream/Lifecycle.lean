import Dasall.Lib.Run
import Dasall.Llm.Stream.StreamSessionRegistry

/-!
# The life of a stream session

A session that has ended stays as it is until it is cleaned up, and one that was asked to cancel ends
in no other way, except that the reaper makes it an expired one.
-/

open Dasall.Lib Dasall.Lib.Run Dasall.Lib.Text

namespace Dasall.Llm.Stream

open StreamSessionRecord StreamSessionRegistry

/-! ## One record -/

/-- What every mutator respects. -/
structure Change.Lawful (config : StreamSessionRegistryConfig) (change : Change) : Prop where
  terminal : ∀ record, record.state.isTerminal = true → (change record).1 = record
  cancel : ∀ record, record.state = .cancelRequested →
    (change record).1.state = .cancelRequested ∨ (change record).1.state = .cancelled
  buffered : ∀ record, record.bufferedChars ≤ config.maxBufferedChars →
    (change record).1.bufferedChars ≤ config.maxBufferedChars

/-- A mutator that does not ask for the cancellation itself. -/
def Change.AsksNothing (change : Change) : Prop :=
  ∀ record, (change record).1.state = .cancelRequested → record.state = .cancelRequested

section
variable (config : StreamSessionRegistryConfig)

theorem markActive_lawful : changeMarkActive.Lawful config where
  terminal record h := by
    unfold changeMarkActive
    split <;> simp_all [StreamSessionState.isTerminal, stay]
  cancel record h := by simp [changeMarkActive, h, stay]
  buffered record h := by
    unfold changeMarkActive
    split <;> exact h

theorem markCompleting_lawful : changeMarkCompleting.Lawful config where
  terminal record h := by
    unfold changeMarkCompleting
    split <;> simp_all [StreamSessionState.isTerminal, stay]
  cancel record h := by simp [changeMarkCompleting, h, stay]
  buffered record h := by
    unfold changeMarkCompleting
    split <;> exact h

theorem requestCancel_lawful : changeRequestCancel.Lawful config where
  terminal record h := by simp [changeRequestCancel, h, stay]
  cancel record h := by
    simp [changeRequestCancel, h, StreamSessionState.isTerminal, moveTo]
  buffered record h := by
    unfold changeRequestCancel
    split <;> exact h

theorem end_lawful (target : StreamSessionState) : (changeEnd target).Lawful config where
  terminal record h := by
    have hcancel : record.state ≠ .cancelRequested := by
      intro heq
      simp [heq, StreamSessionState.isTerminal] at h
    simp [changeEnd, hcancel, h, stay]
  cancel record h := by simp [changeEnd, h, moveTo]
  buffered record h := by
    unfold changeEnd
    split
    · exact h
    split
    · exact h
    split <;> exact h

theorem markExpired_lawful : changeMarkExpired.Lawful config where
  terminal record h := by
    have hcancel : record.state ≠ .cancelRequested := by
      intro heq
      simp [heq, StreamSessionState.isTerminal] at h
    simp [changeMarkExpired, hcancel, h, stay]
  cancel record h := by simp [changeMarkExpired, h, moveTo]
  buffered record h := by
    unfold changeMarkExpired
    split
    · exact h
    split <;> exact h

theorem append_within {max buffered delta : UInt32} (hdelta : delta ≤ max)
    (hbuffered : buffered ≤ max - delta) : buffered + delta ≤ max := by
  rw [UInt32.le_iff_toNat_le] at *
  rw [UInt32.toNat_sub_of_le _ _ (UInt32.le_iff_toNat_le.mpr hdelta)] at hbuffered
  have hmax := max.toNat_lt
  rw [UInt32.toNat_add, Nat.mod_eq_of_lt (by omega)]
  omega

theorem wake_of_ne (record : StreamSessionRecord) (h : record.state ≠ .accepted) :
    record.wake = record := by
  simp [wake, h]

theorem appendToActive_lawful (deltaChars : UInt32) :
    (appendToActive config deltaChars).Lawful config where
  terminal record h := by
    have hactive : record.state ≠ .active := by
      intro heq
      simp [heq, StreamSessionState.isTerminal] at h
    unfold appendToActive
    simp [hactive, stay]
  cancel record h := by simp [appendToActive, h, stay]
  buffered record h := by
    unfold appendToActive
    split
    · exact h
    split
    · exact h
    split
    · exact h
    next hroom =>
      simp only [Bool.or_eq_true, decide_eq_true_eq, not_or, UInt32.not_lt] at hroom
      exact append_within hroom.1 hroom.2

theorem appendDelta_lawful (deltaChars : UInt32) :
    (changeAppendDelta config deltaChars).Lawful config where
  terminal record h := by
    have haccepted : record.state ≠ .accepted := by
      intro heq
      simp [heq, StreamSessionState.isTerminal] at h
    unfold changeAppendDelta
    rw [wake_of_ne record haccepted]
    exact (appendToActive_lawful config deltaChars).terminal record h
  cancel record h := by
    unfold changeAppendDelta
    rw [wake_of_ne record (by simp [h])]
    exact (appendToActive_lawful config deltaChars).cancel record h
  buffered record h := by
    apply (appendToActive_lawful config deltaChars).buffered
    unfold wake
    split <;> exact h

end

theorem markActive_asks : changeMarkActive.AsksNothing := by
  intro record h
  unfold changeMarkActive at h
  split at h <;> simp_all [moveTo, stay]

theorem markCompleting_asks : changeMarkCompleting.AsksNothing := by
  intro record h
  unfold changeMarkCompleting at h
  split at h <;> simp_all [moveTo, stay]

theorem end_asks (target : StreamSessionState) (htarget : target ≠ .cancelRequested) :
    (changeEnd target).AsksNothing := by
  intro record h
  by_contra hcancel
  unfold changeEnd at h
  rw [if_neg hcancel] at h
  split at h
  · exact hcancel h
  split at h
  · exact htarget h
  · exact htarget h
  · exact htarget h
  · exact hcancel h

theorem markExpired_asks : changeMarkExpired.AsksNothing := by
  intro record h
  by_contra hcancel
  unfold changeMarkExpired at h
  rw [if_neg hcancel] at h
  split at h
  · exact hcancel h
  · cases h

theorem appendDelta_asks (config : StreamSessionRegistryConfig) (deltaChars : UInt32) :
    (changeAppendDelta config deltaChars).AsksNothing := by
  intro record h
  have hwake : record.wake.state = .cancelRequested := by
    by_contra hcancel
    unfold changeAppendDelta appendToActive at h
    rw [if_neg hcancel] at h
    split at h
    · exact hcancel h
    split at h
    · cases h
    · exact hcancel h
  unfold wake at hwake
  split at hwake
  · cases hwake
  · exact hwake

/-! ## One step -/

def stateOf (registry : StreamSessionRegistry) (sessionId : Bytes) : Option StreamSessionState :=
  (registry.sessions.lookup sessionId).map (·.state)

/-- What a step can make of a session. -/
inductive Fate (registry : StreamSessionRegistry) (operation : Operation) (sessionId : Bytes)
    (record : StreamSessionRecord) : Option StreamSessionRecord → Prop
  | kept : Fate registry operation sessionId record (some record)
  | changed (change : Change) (lawful : change.Lawful registry.config)
      (asks : change.AsksNothing ∨
        (operation = .requestCancel sessionId ∧ change = changeRequestCancel)) :
      Fate registry operation sessionId record (some (change record).1)
  | reaped (nowMs : Int64) (isReap : operation = .reapExpired nowMs) :
      Fate registry operation sessionId record
        (some (StreamSessionRegistry.reapRecord nowMs record))
  | cleaned (isCleanup : operation = .cleanup sessionId)
      (terminal : record.state.isTerminal = true) : Fate registry operation sessionId record none
  | restarted (config : StreamSessionRegistryConfig) (isInit : operation = .init config) :
      Fate registry operation sessionId record none

theorem lookup_mutate (registry : StreamSessionRegistry) (sessionId other : Bytes) (change : Change) :
    (registry.mutate sessionId change).1.sessions.lookup other =
      if other = sessionId then (registry.sessions.lookup other).map fun record => (change record).1
      else registry.sessions.lookup other := by
  unfold mutate
  split
  · next h =>
    split
    · next heq => rw [heq, h, Option.map_none]
    · rfl
  · exact Table.lookup_modify ..

theorem fate_mutate (registry : StreamSessionRegistry) (operation : Operation)
    (target sessionId : Bytes) (record : StreamSessionRecord) (change : Change)
    (h : registry.sessions.lookup sessionId = some record) (lawful : change.Lawful registry.config)
    (asks : change.AsksNothing ∨ (operation = .requestCancel target ∧ change = changeRequestCancel)) :
    Fate registry operation sessionId record
      ((registry.mutate target change).1.sessions.lookup sessionId) := by
  rw [lookup_mutate]
  split
  · next heq =>
    subst heq
    rw [h]
    exact .changed change lawful asks
  · rw [h]
    exact .kept

theorem fate_step (registry : StreamSessionRegistry) (operation : Operation) (sessionId : Bytes)
    (record : StreamSessionRecord) (h : registry.sessions.lookup sessionId = some record) :
    Fate registry operation sessionId record
      ((step registry operation).1.sessions.lookup sessionId) := by
  cases operation with
  | init config =>
    simp only [step, init]
    split
    · rw [Prod.map_fst, id_eq, h]
      exact .kept
    · exact .restarted config rfl
  | accept target routeKey nowMs =>
    simp only [step, accept]
    split
    · rw [Prod.map_fst, id_eq, h]
      exact .kept
    split
    · rw [Prod.map_fst, id_eq, h]
      exact .kept
    · next hnone =>
      split
      · rw [Prod.map_fst, id_eq, h]
        exact .kept
      · have hne : sessionId ≠ target := by
          rintro rfl
          rw [h] at hnone
          cases hnone
        rw [Prod.map_fst, id_eq, AList.lookup_insert_ne hne, h]
        exact .kept
  | markActive target =>
    exact fate_mutate _ _ _ _ _ _ h (markActive_lawful _) (.inl markActive_asks)
  | appendDelta target deltaChars =>
    exact fate_mutate _ _ _ _ _ _ h (appendDelta_lawful _ _) (.inl (appendDelta_asks _ _))
  | requestCancel target =>
    exact fate_mutate _ _ _ _ _ _ h (requestCancel_lawful _) (.inr ⟨rfl, rfl⟩)
  | markCompleting target =>
    exact fate_mutate _ _ _ _ _ _ h (markCompleting_lawful _) (.inl markCompleting_asks)
  | markCompleted target =>
    exact fate_mutate _ _ _ _ _ _ h (end_lawful _ _) (.inl (end_asks _ (by decide)))
  | markFailed target =>
    exact fate_mutate _ _ _ _ _ _ h (end_lawful _ _) (.inl (end_asks _ (by decide)))
  | markExpired target =>
    exact fate_mutate _ _ _ _ _ _ h (markExpired_lawful _) (.inl markExpired_asks)
  | cleanup target =>
    simp only [step, cleanup]
    split
    · rw [Prod.map_fst, id_eq, h]
      exact .kept
    · next found hfound =>
      split
      · rw [Prod.map_fst, id_eq, h]
        exact .kept
      · next hterminal =>
        rw [Prod.map_fst, id_eq]
        dsimp only
        by_cases heq : sessionId = target
        · subst heq
          rw [h, Option.some.injEq] at hfound
          subst hfound
          rw [AList.lookup_erase]
          exact .cleaned rfl (by simpa using hterminal)
        · rw [AList.lookup_erase_ne heq, h]
          exact .kept
  | find target =>
    rw [show (step registry (.find target)).1 = registry from rfl, h]
    exact .kept
  | snapshot =>
    rw [show (step registry .snapshot).1 = registry from rfl, h]
    exact .kept
  | activeSessionCount =>
    rw [show (step registry .activeSessionCount).1 = registry from rfl, h]
    exact .kept
  | reapExpired nowMs =>
    simp only [step, reapExpired, Prod.map_fst, id_eq]
    rw [Table.lookup_mapValues, h]
    exact .reaped nowMs rfl

theorem absent_mutate (registry : StreamSessionRegistry) (target sessionId : Bytes) (change : Change)
    (h : registry.sessions.lookup sessionId = none) :
    (registry.mutate target change).1.sessions.lookup sessionId = none := by
  rw [lookup_mutate, h, Option.map_none, ite_self]

theorem absent_step (registry : StreamSessionRegistry) (operation : Operation) (sessionId : Bytes)
    (h : registry.sessions.lookup sessionId = none) :
    ∀ record ∈ (step registry operation).1.sessions.lookup sessionId, record.state = .accepted := by
  have hsame : ∀ next : Option StreamSessionRecord, next = none →
      ∀ record ∈ next, record.state = .accepted := by
    rintro next rfl record hrecord
    cases hrecord
  cases operation with
  | init config =>
    simp only [step, init]
    split
    · exact hsame _ h
    · exact hsame _ rfl
  | accept target routeKey nowMs =>
    simp only [step, accept]
    split
    · exact hsame _ h
    split
    · exact hsame _ h
    split
    · exact hsame _ h
    rw [Prod.map_fst, id_eq]
    dsimp only
    by_cases heq : sessionId = target
    · rw [heq, AList.lookup_insert]
      rintro record ⟨⟩
      rfl
    · rw [AList.lookup_insert_ne heq]
      exact hsame _ h
  | markActive target => exact hsame _ (absent_mutate _ _ _ _ h)
  | appendDelta target deltaChars => exact hsame _ (absent_mutate _ _ _ _ h)
  | requestCancel target => exact hsame _ (absent_mutate _ _ _ _ h)
  | markCompleting target => exact hsame _ (absent_mutate _ _ _ _ h)
  | markCompleted target => exact hsame _ (absent_mutate _ _ _ _ h)
  | markFailed target => exact hsame _ (absent_mutate _ _ _ _ h)
  | markExpired target => exact hsame _ (absent_mutate _ _ _ _ h)
  | cleanup target =>
    simp only [step, cleanup]
    split
    · exact hsame _ h
    split
    · exact hsame _ h
    rw [Prod.map_fst, id_eq]
    apply hsame
    by_cases heq : sessionId = target
    · rw [heq, AList.lookup_erase]
    · rw [AList.lookup_erase_ne heq, h]
  | find target => exact hsame _ h
  | snapshot => exact hsame _ h
  | activeSessionCount => exact hsame _ h
  | reapExpired nowMs =>
    apply hsame
    exact (Table.lookup_mapValues _ _ _).trans (by rw [h, Option.map_none])

/-! ## Bounds -/

structure Bounded (registry : StreamSessionRegistry) : Prop where
  buffered : ∀ entry ∈ registry.sessions.entries,
    entry.2.bufferedChars ≤ registry.config.maxBufferedChars
  counted : registry.activeSessionCount ≤ registry.config.maxActiveSessions.toNat

theorem bounded_empty (config : StreamSessionRegistryConfig) (initialized : Bool) :
    Bounded { config, sessions := ∅, initialized } where
  buffered entry h := by cases h
  counted := Nat.zero_le _

variable {registry : StreamSessionRegistry} (operations : List Operation) (sessionId : Bytes)

theorem bounded_mutate (h : Bounded registry) (sessionId : Bytes)
    (change : Change) (lawful : change.Lawful registry.config) :
    Bounded (registry.mutate sessionId change).1 := by
  unfold mutate
  split
  · exact h
  constructor
  · intro entry hentry
    rcases Table.mem_modify hentry with hold | ⟨old, hold, hchanged⟩
    · exact h.buffered entry hold
    · rw [hchanged]
      exact lawful.buffered old (h.buffered _ hold)
  · refine Nat.le_trans (Table.countP_modify_le (fun record : StreamSessionRecord => !record.state.isTerminal) _ _ _ ?_)
      h.counted
    intro record hopen
    by_contra hterminal
    rw [Bool.not_eq_true, Bool.not_eq_false'] at hterminal
    rw [lawful.terminal record hterminal, hterminal] at hopen
    cases hopen

theorem bounded_accept (h : Bounded registry)
    (sessionId routeKey : Bytes) (nowMs : Int64) :
    Bounded (registry.accept sessionId routeKey nowMs).1 := by
  unfold accept
  split
  · exact h
  split
  · exact h
  next hnone =>
  split
  · exact h
  next hroom =>
  have hnew : sessionId ∉ registry.sessions := AList.lookup_eq_none.mp hnone
  constructor
  · intro entry hentry
    rw [AList.entries_insert_of_notMem hnew] at hentry
    rcases List.mem_cons.mp hentry with rfl | hold
    · exact UInt32.zero_le
    · exact h.buffered entry hold
  · unfold activeSessionCount at *
    dsimp only
    rw [AList.entries_insert_of_notMem hnew, List.countP_cons,
      if_pos (by simp [StreamSessionState.isTerminal])]
    omega

theorem bounded_cleanup (h : Bounded registry)
    (sessionId : Bytes) : Bounded (registry.cleanup sessionId).1 := by
  unfold cleanup
  split
  · exact h
  split
  · exact h
  have hsublist := List.kerase_sublist sessionId registry.sessions.entries
  constructor
  · intro entry hentry
    exact h.buffered entry (hsublist.subset hentry)
  · exact Nat.le_trans hsublist.countP_le h.counted

theorem bounded_reap (h : Bounded registry) (nowMs : Int64) :
    Bounded (registry.reapExpired nowMs).1 := by
  constructor
  · intro entry hentry
    obtain ⟨old, hold, rfl⟩ := List.mem_map.mp hentry
    simp only [reapRecord]
    split
    · exact h.buffered old hold
    · exact h.buffered old hold
  · refine Nat.le_trans (Table.countP_mapValues_le (fun record : StreamSessionRecord => !record.state.isTerminal) _ _ ?_)
      h.counted
    intro record hopen
    unfold reapRecord at hopen
    split at hopen
    · cases hopen
    · exact hopen

theorem bounded_step (h : Bounded registry)
    (operation : Operation) : Bounded (step registry operation).1 := by
  cases operation with
  | init config =>
    simp only [step, init]
    split
    · exact h
    · exact bounded_empty config true
  | accept target routeKey nowMs => exact bounded_accept h target routeKey nowMs
  | markActive target => exact bounded_mutate h target _ (markActive_lawful _)
  | appendDelta target deltaChars => exact bounded_mutate h target _ (appendDelta_lawful _ _)
  | requestCancel target => exact bounded_mutate h target _ (requestCancel_lawful _)
  | markCompleting target => exact bounded_mutate h target _ (markCompleting_lawful _)
  | markCompleted target => exact bounded_mutate h target _ (end_lawful _ _)
  | markFailed target => exact bounded_mutate h target _ (end_lawful _ _)
  | markExpired target => exact bounded_mutate h target _ (markExpired_lawful _)
  | cleanup target => exact bounded_cleanup h target
  | find target => exact h
  | snapshot => exact h
  | activeSessionCount => exact h
  | reapExpired nowMs => exact bounded_reap h nowMs

/-!
## Runs of the session registry

The reaper alone breaks the promise of a cancellation: `markExpired` makes a session that was asked to
cancel a cancelled one, and `reapExpired` an expired one.
-/

/-- The registry after some operations. -/
def after (operations : List Operation) : StreamSessionRegistry := (run step {} operations).1

/-- The session is in the registry after each of the operations, from a registry that has it on. -/
def Stays (registry : StreamSessionRegistry) (sessionId : Bytes) (operations : List Operation) :
    Prop :=
  ∀ count, stateOf (run step registry (operations.take count)).1 sessionId ≠ none

/-- What the registry promises about its sessions over a whole run. -/
structure Lawful (operations : List Operation) : Prop where
  terminal : ∀ before middle rest, operations = before ++ middle ++ rest → ∀ sessionId state,
    stateOf (after before) sessionId = some state → state.isTerminal = true →
      Stays (after before) sessionId middle → stateOf (after (before ++ middle)) sessionId = some state
  removed : ∀ before operation rest, operations = before ++ operation :: rest → ∀ sessionId state,
    stateOf (after before) sessionId = some state →
      stateOf (after (before ++ [operation])) sessionId = none →
        (operation = .cleanup sessionId ∧ state.isTerminal = true) ∨
          ∃ config, operation = .init config
  cancelled : ∀ before sessionId middle rest,
    operations = before ++ .requestCancel sessionId :: (middle ++ rest) → ∀ state,
      stateOf (after before) sessionId = some state → state.isTerminal = false →
        Stays (after (before ++ [.requestCancel sessionId])) sessionId middle →
          stateOf (after (before ++ .requestCancel sessionId :: middle)) sessionId =
              some .cancelRequested ∨
            stateOf (after (before ++ .requestCancel sessionId :: middle)) sessionId = some .cancelled
  bounded : ∀ before rest, operations = before ++ rest → Bounded (after before)

/-- The reaper meets an overdue session that was asked to cancel. -/
def reapsCancelled (registry : StreamSessionRegistry) : Operation → Bool
  | .reapExpired nowMs => registry.sessions.entries.any fun entry =>
      entry.2.state = .cancelRequested && StreamSessionRegistry.isOverdue nowMs entry.2
  | _ => false

/-! ## Steps -/

section
variable {sessionId} {state : StreamSessionState}

theorem stateOf_eq_some :
    stateOf registry sessionId = some state ↔
      ∃ record, registry.sessions.lookup sessionId = some record ∧ record.state = state := by
  simp [stateOf]

theorem terminal_step (operation : Operation) (h : stateOf registry sessionId = some state)
    (hterminal : state.isTerminal = true)
    (hstays : stateOf (step registry operation).1 sessionId ≠ none) :
    stateOf (step registry operation).1 sessionId = some state := by
  obtain ⟨record, hrecord, rfl⟩ := stateOf_eq_some.mp h
  have hfate := fate_step registry operation sessionId record hrecord
  unfold stateOf at hstays ⊢
  generalize (step registry operation).1.sessions.lookup sessionId = next at hfate hstays
  cases hfate with
  | kept => rfl
  | changed change lawful asks => rw [lawful.terminal record hterminal, Option.map_some]
  | reaped nowMs isReap =>
    simp [reapRecord, isOverdue, hterminal]
  | cleaned isCleanup terminal => exact absurd rfl hstays
  | restarted config isInit => exact absurd rfl hstays

theorem removed_step (operation : Operation) (h : stateOf registry sessionId = some state)
    (hgone : stateOf (step registry operation).1 sessionId = none) :
    (operation = .cleanup sessionId ∧ state.isTerminal = true) ∨
      ∃ config, operation = .init config := by
  obtain ⟨record, hrecord, rfl⟩ := stateOf_eq_some.mp h
  have hfate := fate_step registry operation sessionId record hrecord
  unfold stateOf at hgone
  generalize (step registry operation).1.sessions.lookup sessionId = next at hfate hgone
  cases hfate with
  | kept => cases hgone
  | changed change lawful asks => cases hgone
  | reaped nowMs isReap => cases hgone
  | cleaned isCleanup terminal => exact .inl ⟨isCleanup, terminal⟩
  | restarted config isInit => exact .inr ⟨config, isInit⟩

/-- The session was asked to cancel, and has not ended in another way. -/
def Cancelling (sessionId : Bytes) (registry : StreamSessionRegistry) : Prop :=
  stateOf registry sessionId = some .cancelRequested ∨ stateOf registry sessionId = some .cancelled

theorem cancelling_step (operation : Operation) (h : Cancelling sessionId registry)
    (hreap : reapsCancelled registry operation = false)
    (hstays : stateOf (step registry operation).1 sessionId ≠ none) :
    Cancelling sessionId (step registry operation).1 := by
  rcases h with hasked | hcancelled
  · obtain ⟨record, hrecord, hstate⟩ := stateOf_eq_some.mp hasked
    have hfate := fate_step registry operation sessionId record hrecord
    unfold Cancelling
    unfold stateOf at hstays ⊢
    generalize (step registry operation).1.sessions.lookup sessionId = next at hfate hstays
    cases hfate with
    | kept => exact .inl (congrArg some hstate)
    | changed change lawful asks =>
      exact (lawful.cancel record hstate).imp (congrArg some) (congrArg some)
    | reaped nowMs isReap =>
      subst isReap
      have hmem := (Table.lookup_eq_some_iff ..).mp hrecord
      have hnot := List.any_eq_false.mp hreap _ hmem
      simp only [hstate, decide_true, Bool.true_and, Bool.not_eq_true] at hnot
      left
      simp [reapRecord, hnot, hstate]
    | cleaned isCleanup terminal => exact absurd rfl hstays
    | restarted config isInit => exact absurd rfl hstays
  · exact .inr (terminal_step operation hcancelled rfl hstays)

theorem requestCancel_step (h : stateOf registry sessionId = some state)
    (hopen : state.isTerminal = false) :
    stateOf (step registry (.requestCancel sessionId)).1 sessionId = some .cancelRequested := by
  obtain ⟨record, hrecord, rfl⟩ := stateOf_eq_some.mp h
  change ((registry.mutate sessionId changeRequestCancel).1.sessions.lookup sessionId).map _ = _
  rw [lookup_mutate, if_pos rfl, hrecord]
  simp [changeRequestCancel, hopen, moveTo]

theorem asked_step (operation : Operation)
    (h : stateOf (step registry operation).1 sessionId = some .cancelRequested) :
    stateOf registry sessionId = some .cancelRequested ∨
      (operation = .requestCancel sessionId ∧
        ∃ state, stateOf registry sessionId = some state ∧ state.isTerminal = false) := by
  rcases hlookup : registry.sessions.lookup sessionId with _ | record
  · obtain ⟨record, hrecord, hstate⟩ := stateOf_eq_some.mp h
    rw [absent_step registry operation sessionId hlookup record hrecord] at hstate
    cases hstate
  · have hfate := fate_step registry operation sessionId record hlookup
    have hstate : stateOf registry sessionId = some record.state := by simp [stateOf, hlookup]
    rw [hstate]
    unfold stateOf at h
    generalize (step registry operation).1.sessions.lookup sessionId = next at hfate h
    cases hfate with
    | kept => exact .inl h
    | changed change lawful asks =>
      rw [Option.map_some, Option.some.injEq] at h
      rcases asks with asks | ⟨rfl, rfl⟩
      · exact .inl (congrArg some (asks record h))
      · rcases hterminal : record.state.isTerminal with _ | _
        · exact .inr ⟨rfl, _, rfl, hterminal⟩
        · rw [lawful.terminal record hterminal] at h
          exact .inl (congrArg some h)
    | reaped nowMs isReap =>
      left
      unfold reapRecord at h
      split at h
      · cases h
      · exact h
    | cleaned isCleanup terminal => cases h
    | restarted config isInit => cases h

end

/-! ## Runs -/

theorem after_snoc (operation : Operation) :
    after (operations ++ [operation]) = (step (after operations) operation).1 :=
  run_snoc step {} operations operation

theorem after_append (before middle : List Operation) :
    after (before ++ middle) = (run step (after before) middle).1 := by
  unfold after
  rw [run_append]

theorem bounded_after : Bounded (after operations) :=
  invariant_run step Bounded (fun _ operation h => bounded_step h operation) {} operations
    (bounded_empty {} false)

theorem kept_while_stays (holds : StreamSessionRegistry → Prop)
    (condition : StreamSessionRegistry → Operation → Prop)
    (hstep : ∀ registry operation, holds registry → condition registry operation →
      stateOf (step registry operation).1 sessionId ≠ none → holds (step registry operation).1)
    (registry : StreamSessionRegistry) (operations : List Operation) (h : holds registry)
    (hcondition : AllSteps step condition registry operations)
    (hstays : Stays registry sessionId operations) : holds (run step registry operations).1 := by
  have hpresent := ((forall_take_iff step (fun registry => stateOf registry sessionId ≠ none) registry
    operations).mp hstays).2
  refine invariant_of_allSteps step (fun registry operation => condition registry operation ∧
    stateOf (step registry operation).1 sessionId ≠ none) holds ?_ registry operations h
      ((allSteps_and step ..).mpr ⟨hcondition, hpresent⟩)
  rintro registry operation h ⟨hcondition, hpresent⟩
  exact hstep registry operation h hcondition hpresent

theorem stays_snoc {sessionId : Bytes}
    {operations : List Operation} (operation : Operation) (h : Stays registry sessionId operations)
    (hlast : stateOf (run step registry (operations ++ [operation])).1 sessionId ≠ none) :
    Stays registry sessionId (operations ++ [operation]) := by
  intro count
  by_cases hcount : count ≤ operations.length
  · rw [List.take_append_of_le_length hcount]
    exact h count
  · rw [List.take_of_length_le (by simp; omega)]
    exact hlast

/-- A session that was asked to cancel goes back to a request, from which on it has stayed. -/
theorem asked_origin (operations : List Operation)
    (h : stateOf (after operations) sessionId = some .cancelRequested) :
    ∃ before middle, operations = before ++ .requestCancel sessionId :: middle ∧
      (∃ state, stateOf (after before) sessionId = some state ∧ state.isTerminal = false) ∧
      Stays (after (before ++ [.requestCancel sessionId])) sessionId middle := by
  induction operations using List.reverseRecOn with
  | nil => cases h
  | append_singleton operations operation ih =>
    have hlast := h
    rw [after_snoc] at h
    rcases asked_step operation h with hbefore | ⟨rfl, state, hstate, hopen⟩
    · obtain ⟨before, middle, rfl, hrequest, hstays⟩ := ih hbefore
      refine ⟨before, middle ++ [operation], by simp, hrequest, stays_snoc operation hstays ?_⟩
      rw [← after_append]
      have hsplit : before ++ [.requestCancel sessionId] ++ (middle ++ [operation]) =
          before ++ .requestCancel sessionId :: middle ++ [operation] := by simp
      rw [hsplit, hlast]
      simp
    · refine ⟨operations, [], rfl, ⟨state, hstate, hopen⟩, fun count => ?_⟩
      rw [List.take_nil, run_nil, hlast]
      simp

theorem cancelled_of_spared {operations : List Operation}
    (hspared : AllSteps step (fun registry operation => reapsCancelled registry operation = false) {}
      operations)
    (before : List Operation) (sessionId : Bytes) (middle rest : List Operation)
    (hsplit : operations = before ++ .requestCancel sessionId :: (middle ++ rest))
    (state : StreamSessionState) (hstate : stateOf (after before) sessionId = some state)
    (hopen : state.isTerminal = false)
    (hstays : Stays (after (before ++ [.requestCancel sessionId])) sessionId middle) :
    Cancelling sessionId (after (before ++ .requestCancel sessionId :: middle)) := by
  have hsame : before ++ .requestCancel sessionId :: middle =
      before ++ [.requestCancel sessionId] ++ middle := by simp
  have hrest : operations = before ++ [.requestCancel sessionId] ++ (middle ++ rest) := by
    simp [hsplit]
  rw [hrest, allSteps_append] at hspared
  have hmiddle := ((allSteps_append step _ _ middle rest).mp hspared.2).1
  rw [hsame, after_append]
  refine kept_while_stays sessionId (Cancelling sessionId)
    (fun registry operation => reapsCancelled registry operation = false)
    (fun registry operation h hreap hstays => cancelling_step operation h hreap hstays) _ middle ?_
    hmiddle hstays
  rw [after_snoc]
  exact .inl (requestCancel_step hstate hopen)

theorem spared_of_lawful {operations : List Operation} (h : Lawful operations) :
    AllSteps step (fun registry operation => reapsCancelled registry operation = false) {}
      operations := by
  rw [allSteps_iff_split]
  intro before operation rest hsplit
  by_contra hreap
  rw [Bool.not_eq_false] at hreap
  unfold reapsCancelled at hreap
  split at hreap
  · next nowMs =>
    obtain ⟨⟨sessionId, record⟩, hmem, hrecord⟩ := List.any_eq_true.mp hreap
    simp only [Bool.and_eq_true, decide_eq_true_eq] at hrecord
    have hlookup := (Table.lookup_eq_some_iff ..).mpr hmem
    obtain ⟨start, middle, rfl, ⟨state, hstate, hopen⟩, hstays⟩ :=
      asked_origin sessionId before (stateOf_eq_some.mpr ⟨record, hlookup, hrecord.1⟩)
    have hexpired : stateOf (after (start ++ .requestCancel sessionId ::
        (middle ++ [.reapExpired nowMs]))) sessionId = some .expired := by
      have hsame : start ++ .requestCancel sessionId :: (middle ++ [.reapExpired nowMs]) =
          start ++ .requestCancel sessionId :: middle ++ [.reapExpired nowMs] := by simp
      rw [hsame, after_snoc]
      refine (congrArg (Option.map _) (Table.lookup_mapValues ..)).trans ?_
      unfold after
      rw [hlookup]
      simp [reapRecord, hrecord.2]
    have hpromise := h.cancelled start sessionId (middle ++ [.reapExpired nowMs]) rest
      (by simp [hsplit]) state hstate hopen (stays_snoc _ hstays ?_)
    · rw [hexpired] at hpromise
      simp at hpromise
    · rw [← after_append]
      have hsame : start ++ [.requestCancel sessionId] ++ (middle ++ [.reapExpired nowMs]) =
          start ++ .requestCancel sessionId :: (middle ++ [.reapExpired nowMs]) := by simp
      rw [hsame, hexpired]
      simp
  · cases hreap

/-- The promises hold in a run exactly when the reaper meets no overdue session that was asked to
cancel. -/
theorem lawful_iff_spared (operations : List Operation) :
    Lawful operations ↔
      AllSteps step (fun registry operation => reapsCancelled registry operation = false) {}
        operations := by
  constructor
  · exact spared_of_lawful
  · intro hspared
    refine ⟨?_, ?_, ?_, ?_⟩
    · rintro before middle rest rfl sessionId state hstate hterminal hstays
      rw [after_append]
      exact kept_while_stays sessionId (fun registry => stateOf registry sessionId = some state)
        (fun _ _ => True)
        (fun registry operation h _ hstays => terminal_step operation h hterminal hstays) _ middle
        hstate (allSteps_true step _ _) hstays
    · rintro before operation rest rfl sessionId state hstate hgone
      rw [after_snoc] at hgone
      exact removed_step operation hstate hgone
    · intro before sessionId middle rest hsplit state hstate hopen hstays
      exact cancelled_of_spared hspared before sessionId middle rest hsplit state hstate hopen hstays
    · rintro before rest rfl
      exact bounded_after before

def sessionA : Bytes := str "a"

/-- A session that was asked to cancel is reaped after its minute is over. -/
def reapedCancellation : List Operation :=
  [.init {}, .accept sessionA (str "route") 0, .requestCancel sessionA, .reapExpired 60000]

/-- The session ends as an expired one. -/
theorem reapedCancellation_expires :
    ¬ Lawful reapedCancellation ∧
      stateOf (after reapedCancellation) sessionA = some .expired := by
  have hexpired : stateOf (after reapedCancellation) sessionA = some .expired := by decide +kernel
  refine ⟨fun h => ?_, hexpired⟩
  have hpromise := h.cancelled [.init {}, .accept sessionA (str "route") 0] sessionA
    [.reapExpired 60000] [] rfl .accepted (by decide +kernel) rfl ?_
  · change stateOf (after reapedCancellation) sessionA = _ ∨
      stateOf (after reapedCancellation) sessionA = _ at hpromise
    rw [hexpired] at hpromise
    simp at hpromise
  · intro count
    match count with
    | 0 => decide +kernel
    | count + 1 =>
      rw [List.take_of_length_le (by simp)]
      decide +kernel

end Dasall.Llm.Stream
