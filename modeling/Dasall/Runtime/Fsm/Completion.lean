import Dasall.Lib.Run
import Dasall.Runtime.Fsm.AgentFsm

/-!
# What the machine accepts, and how it completes

A request is accepted when the table has its edge and the facts satisfy the rule, except on the
edge out of `SafeMode`, which the table has and the machine refuses. `Completed` has one edge in,
and so have the two states before it.
-/

open Dasall.Lib.Text Dasall.Lib.Run Dasall.Contracts

namespace Dasall.Runtime.Fsm

/-- The table has the edge of the request, and the facts satisfy its rule. -/
def AllowedByTable (request : StateTransitionRequest) : Prop :=
  ∃ rule ∈ transitionRules, rule.fromState = request.fromState ∧
    rule.toState = request.requestedTo ∧ rule.guard.Satisfied request.guardFacts

/-- The machine does what its table says, and stays where it is when it refuses. -/
def ImplementsTable (fsm : AgentFsm) (request : StateTransitionRequest) : Prop :=
  ((fsm.transition request).2.accepted = true ↔
      request.fromState = fsm.currentState ∧ AllowedByTable request) ∧
    ((fsm.transition request).2.accepted = false →
      (fsm.transition request).1.currentState = fsm.currentState)

/-- The edge that the table has and the machine refuses. -/
def LeavesSafeMode (fsm : AgentFsm) (request : StateTransitionRequest) : Prop :=
  fsm.currentState = .safeMode ∧ request.fromState = .safeMode ∧ request.requestedTo = .responding

/-! ## The table -/

theorem edges_distinct : transitionRules.Pairwise fun first second =>
    ¬ (first.fromState = second.fromState ∧ first.toState = second.toState) := by
  decide

theorem findRule_eq_some_iff (fromState toState : RuntimeState) (rule : TransitionRule) :
    findRule fromState toState = some rule ↔
      rule ∈ transitionRules ∧ rule.fromState = fromState ∧ rule.toState = toState := by
  unfold findRule
  constructor
  · intro h
    exact ⟨List.mem_of_find?_eq_some h, by simpa using List.find?_some h⟩
  · rintro ⟨hmem, hfrom, hto⟩
    obtain ⟨before, after, hsplit⟩ := List.append_of_mem hmem
    have hdistinct := edges_distinct
    rw [hsplit, List.pairwise_append] at hdistinct
    rw [List.find?_eq_some_iff_append]
    refine ⟨by simp [hfrom, hto], before, after, hsplit, fun other hother => ?_⟩
    have hne := hdistinct.2.2 other hother rule List.mem_cons_self
    rw [hfrom, hto] at hne
    simpa [or_iff_not_imp_left] using hne

theorem allowedByTable_iff (request : StateTransitionRequest) :
    AllowedByTable request ↔ ∃ rule, findRule request.fromState request.requestedTo = some rule ∧
      rule.guard.Satisfied request.guardFacts := by
  simp only [AllowedByTable, findRule_eq_some_iff, and_assoc]

theorem rules_into_completed : ∀ rule ∈ transitionRules, rule.toState = .completed →
    rule.fromState = .persisting ∧ rule.guard = requireAll [.persistenceConfirmed] := by
  decide

theorem rules_into_persisting : ∀ rule ∈ transitionRules, rule.toState = .persisting →
    rule.fromState = .auditing ∧ rule.guard = requireAll [.auditCommitted] := by
  decide

theorem rules_into_auditing : ∀ rule ∈ transitionRules, rule.toState = .auditing →
    rule.fromState = .responding ∧ rule.guard = requireAll [.responseMaterialized] := by
  decide

theorem rules_out_of_safeMode : ∀ rule ∈ transitionRules, rule.fromState = .safeMode →
    rule.toState = .responding ∧ rule.guard = noGuards := by
  decide

theorem safeMode_to_responding : ∃ rule ∈ transitionRules, rule.fromState = .safeMode ∧
    rule.toState = .responding ∧ rule.guard = noGuards := by
  decide

theorem satisfied_noGuards (guardFacts : List TransitionGuardFact) :
    noGuards.Satisfied guardFacts := by
  simp [noGuards, TransitionGuardRule.Satisfied]

theorem satisfied_requireAll (required guardFacts : List TransitionGuardFact) :
    (requireAll required).Satisfied guardFacts ↔ ∀ fact ∈ required, fact ∈ guardFacts := by
  simp [requireAll, TransitionGuardRule.Satisfied]

/-! ## One request -/

namespace AgentFsm

variable (fsm : AgentFsm) (request : StateTransitionRequest)

theorem evaluate_accepted_iff :
    (fsm.evaluateRequestLocked request).accepted = true ↔
      request.fromState = fsm.currentState ∧ AllowedByTable request ∧
        ¬ (fsm.currentState = .safeMode ∧ request.requestedTo ≠ .safeMode) := by
  rw [allowedByTable_iff]
  unfold evaluateRequestLocked isLegal getGuard getCheckpointStrategy isTerminal
  split
  · rename_i hfrom
    simp [hfrom]
  rename_i hfrom
  rw [not_not] at hfrom
  split
  · rename_i hterminal
    have hleaves : fsm.currentState = .safeMode ∧ request.requestedTo ≠ .safeMode := by
      simp only [Bool.and_eq_true, decide_eq_true_eq] at hterminal
      exact ⟨hterminal.1, hterminal.1 ▸ hterminal.2⟩
    simp [hleaves]
  rename_i hterminal
  have hstays : ¬ (fsm.currentState = .safeMode ∧ request.requestedTo ≠ .safeMode) := by
    rintro ⟨hstate, hto⟩
    exact hterminal (by simp [hstate, hto])
  cases hrule : findRule request.fromState request.requestedTo with
  | none => simp
  | some rule =>
    simp only [Option.isSome_some, Bool.not_true, Bool.false_eq_true, if_false, Option.map_some,
      Option.some.injEq, exists_eq_left', hfrom, hstays, not_false_eq_true, and_true, true_and]
    rw [← firstUnsatisfiedGuard_spec]
    cases rule.guard.firstUnsatisfiedGuard request <;> simp

theorem transition_accepted :
    (fsm.transition request).2.accepted = (fsm.evaluateRequestLocked request).accepted := by
  unfold transition
  cases h : (fsm.evaluateRequestLocked request).accepted with
  | true => simp [h, makeTransitionOutcome]
  | false => simp [h, makeRejectedOutcome]

theorem transition_refused
    (h : (fsm.transition request).2.accepted = false) : (fsm.transition request).1 = fsm := by
  rw [transition_accepted] at h
  unfold transition
  simp [h]

theorem transition_moves (h : (fsm.transition request).2.accepted = true) :
    (fsm.transition request).1.currentState = request.requestedTo := by
  rw [transition_accepted] at h
  unfold transition
  simp [h]

end AgentFsm

theorem implementsTable_iff (fsm : AgentFsm) (request : StateTransitionRequest) :
    ImplementsTable fsm request ↔ ¬ LeavesSafeMode fsm request := by
  have hrefused : (fsm.transition request).2.accepted = false →
      (fsm.transition request).1.currentState = fsm.currentState := by
    intro h
    rw [fsm.transition_refused request h]
  unfold ImplementsTable LeavesSafeMode
  rw [and_iff_left hrefused, fsm.transition_accepted, fsm.evaluate_accepted_iff, ← and_assoc,
    and_iff_left_iff_imp]
  constructor
  · rintro hallowed ⟨hstate, hfrom, hto⟩
    obtain ⟨rule, hmem, hrule, hruleTo, hguard⟩ := safeMode_to_responding
    refine hallowed ⟨hfrom.trans hstate.symm, rule, hmem, hrule.trans hfrom.symm,
      hruleTo.trans hto.symm, ?_⟩ ⟨hstate, by rw [hto]; decide⟩
    rw [hguard]
    exact satisfied_noGuards _
  · rintro hnot ⟨hfrom, rule, hmem, hruleFrom, hruleTo, -⟩ ⟨hstate, -⟩
    have hsafe := hfrom.trans hstate
    have hresponding := (rules_out_of_safeMode rule hmem (hruleFrom.trans hsafe)).1
    exact hnot ⟨hstate, hsafe, hruleTo.symm.trans hresponding⟩

/-! ## Runs from `Idle` -/

/-- The requests of the run that were accepted, in order. -/
def acceptedRequests (requests : List StateTransitionRequest) : List StateTransitionRequest :=
  acceptedInputs AgentFsm.transition StateTransitionOutcome.accepted {} requests

/-- The request takes this edge and brings this fact. -/
def Supplies (fromState toState : RuntimeState) (fact : TransitionGuardFact)
    (request : StateTransitionRequest) : Prop :=
  request.fromState = fromState ∧ request.requestedTo = toState ∧ fact ∈ request.guardFacts

/-- The last three accepted requests materialize the response, commit the audit and confirm
that it is persisted. -/
def ArrivedThroughPersisting (accepted : List StateTransitionRequest) : Prop :=
  ∃ earlier responded audited persisted, accepted = earlier ++ [responded, audited, persisted] ∧
    Supplies .responding .auditing .responseMaterialized responded ∧
    Supplies .auditing .persisting .auditCommitted audited ∧
    Supplies .persisting .completed .persistenceConfirmed persisted

/-- A run that ends in a state with one edge in came over that edge, with its fact. -/
theorem arrived_over {fromState toState : RuntimeState} {fact : TransitionGuardFact}
    (hrules : ∀ rule ∈ transitionRules, rule.toState = toState →
      rule.fromState = fromState ∧ rule.guard = requireAll [fact]) (hidle : toState ≠ .idle)
    (requests : List StateTransitionRequest)
    (h : (run AgentFsm.transition {} requests).1.currentState = toState) :
    ∃ before request, Supplies fromState toState fact request ∧
      (run AgentFsm.transition {} before).1.currentState = fromState ∧
      acceptedRequests requests = acceptedRequests before ++ [request] := by
  have hleft : (run AgentFsm.transition {} requests).1 ≠ {} := by
    intro hidleState
    rw [hidleState] at h
    exact hidle h.symm
  obtain ⟨before, request, haccepted, hmoved, hrequests⟩ :=
    last_accepted AgentFsm.transition StateTransitionOutcome.accepted AgentFsm.transition_refused
      {} requests hleft
  have hto : request.requestedTo = toState := by
    rw [← AgentFsm.transition_moves _ _ haccepted, ← hmoved, h]
  rw [AgentFsm.transition_accepted, AgentFsm.evaluate_accepted_iff] at haccepted
  obtain ⟨hfrom, ⟨rule, hmem, hruleFrom, hruleTo, hguard⟩, -⟩ := haccepted
  obtain ⟨hfromState, hrule⟩ := hrules rule hmem (hruleTo.trans hto)
  rw [hrule, satisfied_requireAll] at hguard
  have hsource := hruleFrom.symm.trans hfromState
  exact ⟨before, request, ⟨hsource, hto, hguard fact List.mem_cons_self⟩, hfrom.symm.trans hsource,
    hrequests⟩

theorem arrived_through_persisting (requests : List StateTransitionRequest)
    (h : (run AgentFsm.transition {} requests).1.currentState = .completed) :
    ArrivedThroughPersisting (acceptedRequests requests) := by
  obtain ⟨toPersisting, persisted, hpersisted, hpersisting, hlast⟩ :=
    arrived_over rules_into_completed (by decide) requests h
  obtain ⟨toAuditing, audited, haudited, hauditing, hsecond⟩ :=
    arrived_over rules_into_persisting (by decide) toPersisting hpersisting
  obtain ⟨toResponding, responded, hresponded, -, hfirst⟩ :=
    arrived_over rules_into_auditing (by decide) toAuditing hauditing
  refine ⟨acceptedRequests toResponding, responded, audited, persisted, ?_, hresponded, haudited,
    hpersisted⟩
  rw [hlast, hsecond, hfirst]
  simp only [List.append_assoc, List.cons_append, List.nil_append]

/-- One request does what the table says exactly when it does not take the edge out of
`SafeMode`; no run reaches `Completed` but through the audit and the persistence. -/
theorem transition_table_iff (fsm : AgentFsm) (request : StateTransitionRequest)
    (requests : List StateTransitionRequest) :
    (ImplementsTable fsm request ↔ ¬ LeavesSafeMode fsm request) ∧
      ((run AgentFsm.transition {} requests).1.currentState = .completed →
        ArrivedThroughPersisting (acceptedRequests requests)) :=
  ⟨implementsTable_iff fsm request, arrived_through_persisting requests⟩

/-- The table has the edge from `SafeMode` to `Responding`; the machine refuses it. -/
theorem safeMode_edge_refused : ¬ ∀ fsm request, ImplementsTable fsm request := by
  intro h
  have hrequest := (h ⟨.safeMode⟩ { fromState := .safeMode, requestedTo := .responding }).1
  have hallowed : AllowedByTable { fromState := .safeMode, requestedTo := .responding } :=
    ⟨_, List.getElem_mem (show 16 < transitionRules.length by decide), rfl, rfl,
      satisfied_noGuards _⟩
  exact absurd (hrequest.mpr ⟨rfl, hallowed⟩) (by decide)

end Dasall.Runtime.Fsm
