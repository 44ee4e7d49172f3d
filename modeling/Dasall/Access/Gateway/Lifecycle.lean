import Dasall.Lib.Threads

/-!
# The gateway and its threads

One thread initializes the gateway, any number submit to it and any number shut it down. An
action is one access of the atomic state, one critical section of `inflight_mutex_`, or the
pipeline itself.
-/

open Dasall.Lib Dasall.Lib.Run

namespace Dasall.Access

inductive AccessGatewayState
  | uninitialized
  | initializing
  | ready
  | draining
  | shutDown
deriving DecidableEq, Repr

structure AccessGateway where
  /-- Whether there is a `submit_pipeline_`. -/
  submitPipeline : Bool
  state : AccessGatewayState := .uninitialized
  inflightRequests : Nat := 0
deriving DecidableEq

inductive GatewayThread
  | init
  | submit (id : Nat)
  | shutdown (id : Nat)
deriving DecidableEq

/-- Where a thread stands in the call it makes. -/
inductive GatewayLocal
  | initStart
  /-- The compare-exchange took the state from `Uninitialized` to `Initializing`. -/
  | initClaimed
  | submitStart
  /-- `submit` found the gateway ready. -/
  | submitChecked
  /-- The `InflightGuard` is constructed. -/
  | submitRegistered
  | submitRan
  | shutdownStart
  /-- `shutdown` found a state other than `ShutDown`. -/
  | shutdownChecked
  | shutdownDraining
  /-- The wait is over: whether it drained, and how many requests were in flight then. -/
  | shutdownWaited (drained : Bool) (abandonedRequests : Nat)
  | returned
deriving DecidableEq

def GatewayThread.start : GatewayThread → GatewayLocal
  | .init => .initStart
  | .submit _ => .submitStart
  | .shutdown _ => .shutdownStart

/-- What an action shows. -/
inductive GatewayEvent
  | none
  | initReturned (ready : Bool)
  | submitRejected
  | pipelineRun
  | abandoned (count : Nat)
deriving DecidableEq

namespace AccessGateway

/-- The compare-exchange of `init`. -/
def initClaim (gateway : AccessGateway) : (AccessGateway × GatewayLocal) × GatewayEvent :=
  if gateway.state = .uninitialized then
    (({ gateway with state := .initializing }, .initClaimed), .none)
  else ((gateway, .returned), .initReturned (gateway.state = .ready))

def initFinish (gateway : AccessGateway) : (AccessGateway × GatewayLocal) × GatewayEvent :=
  if gateway.submitPipeline then
    (({ gateway with state := .ready }, .returned), .initReturned true)
  else (({ gateway with state := .uninitialized }, .returned), .initReturned false)

def submitCheck (gateway : AccessGateway) : (AccessGateway × GatewayLocal) × GatewayEvent :=
  if gateway.state ≠ .ready then ((gateway, .returned), .submitRejected)
  else ((gateway, .submitChecked), .none)

/-- `~InflightGuard`. -/
def submitLeave (gateway : AccessGateway) : (AccessGateway × GatewayLocal) × GatewayEvent :=
  (({ gateway with inflightRequests := gateway.inflightRequests - 1 }, .returned), .none)

def shutdownCheck (gateway : AccessGateway) : (AccessGateway × GatewayLocal) × GatewayEvent :=
  if gateway.state = .shutDown then ((gateway, .returned), .none)
  else ((gateway, .shutdownChecked), .none)

/-- `wait_for` and the read of `inflight_requests_` under one lock. Without a request in flight
the wait ends; with one it ends when the time is up, and goes on before. -/
def shutdownWait (gateway : AccessGateway) (timeUp : Bool) :
    (AccessGateway × GatewayLocal) × GatewayEvent :=
  if gateway.inflightRequests = 0 then
    ((gateway, .shutdownWaited true gateway.inflightRequests), .none)
  else if timeUp then ((gateway, .shutdownWaited false gateway.inflightRequests), .none)
  else ((gateway, .shutdownDraining), .none)

/-- The observer hears of abandoned requests, then the state is stored. -/
def shutdownFinish (gateway : AccessGateway) (drained : Bool) (abandonedRequests : Nat) :
    (AccessGateway × GatewayLocal) × GatewayEvent :=
  (({ gateway with state := .shutDown }, .returned),
    if !drained && 0 < abandonedRequests then .abandoned abandonedRequests else .none)

/-- The next action of a thread. -/
def act (timeUp : Bool) (gateway : AccessGateway) :
    GatewayLocal → (AccessGateway × GatewayLocal) × GatewayEvent
  | .initStart => gateway.initClaim
  | .initClaimed => gateway.initFinish
  | .submitStart => gateway.submitCheck
  | .submitChecked =>
    (({ gateway with inflightRequests := gateway.inflightRequests + 1 }, .submitRegistered), .none)
  | .submitRegistered => ((gateway, .submitRan), .pipelineRun)
  | .submitRan => gateway.submitLeave
  | .shutdownStart => gateway.shutdownCheck
  | .shutdownChecked => (({ gateway with state := .draining }, .shutdownDraining), .none)
  | .shutdownDraining => gateway.shutdownWait timeUp
  | .shutdownWaited drained abandonedRequests => gateway.shutdownFinish drained abandonedRequests
  | .returned => ((gateway, .returned), .none)

end AccessGateway

/-- The gateway and all its threads. -/
abbrev GatewayThreads := Threads GatewayThread AccessGateway GatewayLocal

/-- Which thread acts, and whether a wait that it is in has run out. -/
abbrev GatewayAction := GatewayThread × Bool

def GatewayThreads.fresh (submitPipeline : Bool) : GatewayThreads :=
  { shared := { submitPipeline }, locals := GatewayThread.start }

open AccessGateway

def GatewayThreads.step : GatewayThreads → GatewayAction → GatewayThreads × GatewayEvent :=
  Threads.step AccessGateway.act

/-!
## What a clean shutdown leaves behind

The check of `submit` and its `InflightGuard` are two actions, and so are the claim and the store
of `init`. A drained shutdown is final exactly when it stores `ShutDown` while no thread stands
between such a pair.
-/

namespace GatewayThreads

/-- The thread is in a shutdown that drained, and stores `ShutDown` next. -/
def Drained (s : GatewayThreads) (thread : GatewayThread) : Prop :=
  ∃ abandonedRequests, s.locals thread = .shutdownWaited true abandonedRequests

/-- The local state lets no pipeline run and no gateway become ready. -/
def Passive (submitPipeline : Bool) : GatewayLocal → Prop
  | .submitChecked | .submitRegistered => False
  | .initClaimed => submitPipeline = false
  | _ => True

/-- No submit stands between its check and its pipeline, and no `init` that has a pipeline
between its claim and its store. -/
def Quiet (s : GatewayThreads) : Prop :=
  ∀ thread, Passive s.shared.submitPipeline (s.locals thread)

/-- If the action is the store of a drained shutdown, it happens in a quiet state. -/
def StoresQuietly (s : GatewayThreads) (action : GatewayAction) : Prop :=
  s.Drained action.1 → s.Quiet

/-- No pipeline runs after the store of a shutdown that drained. -/
def CleanShutdown (submitPipeline : Bool) (schedule : List GatewayAction) : Prop :=
  ∀ before action after, schedule = before ++ action :: after →
    (run step (fresh submitPipeline) before).1.Drained action.1 →
    GatewayEvent.pipelineRun ∉
      (run step (run step (fresh submitPipeline) (before ++ [action])).1 after).2

/-! ## From a quiet store on -/

/-- The gateway is not ready, and with a pipeline no `init` can make it so. -/
def Settled (gateway : AccessGateway) : GatewayLocal → Prop
  | .initStart =>
    gateway.submitPipeline = true → gateway.state = .draining ∨ gateway.state = .shutDown
  | p => Passive gateway.submitPipeline p

def Closed : GatewayThreads → Prop :=
  Threads.Holds (fun gateway => gateway.state ≠ .ready) Settled

variable {gateway : AccessGateway} {s : GatewayThreads} (submitPipeline : Bool)
  (schedule : List GatewayAction) {thread : GatewayThread}

theorem settled_other {gateway' : AccessGateway}
    (hpipeline : gateway'.submitPipeline = gateway.submitPipeline)
    (hstate : gateway.submitPipeline = true →
      gateway.state = .draining ∨ gateway.state = .shutDown →
      gateway'.state = .draining ∨ gateway'.state = .shutDown) (p : GatewayLocal)
    (h : Settled gateway p) : Settled gateway' p := by
  cases p with
  | initStart =>
    intro hwith
    rw [hpipeline] at hwith
    exact hstate hwith (h hwith)
  | initClaimed => exact hpipeline.trans h
  | _ => exact h

/-- An action of a settled thread on a gateway that is not ready. -/
structure ActsSettled (gateway : AccessGateway)
    (result : (AccessGateway × GatewayLocal) × GatewayEvent) : Prop where
  notReady : result.1.1.state ≠ .ready
  own : Settled result.1.1 result.1.2
  other : ∀ p, Settled gateway p → Settled result.1.1 p
  noPipeline : result.2 ≠ .pipelineRun

theorem actsSettled_local (hnotReady : gateway.state ≠ .ready)
    {p : GatewayLocal} {event : GatewayEvent} (hown : Settled gateway p)
    (hevent : event ≠ .pipelineRun) : ActsSettled gateway ((gateway, p), event) :=
  ⟨hnotReady, hown, fun _ h => h, hevent⟩

theorem act_settled (timeUp : Bool) (gateway : AccessGateway) (p : GatewayLocal)
    (hnotReady : gateway.state ≠ .ready) (h : Settled gateway p) :
    ActsSettled gateway (act timeUp gateway p) := by
  cases p with
  | initStart =>
    change ActsSettled gateway gateway.initClaim
    unfold initClaim
    split
    · rename_i huninitialized
      have hwithout : gateway.submitPipeline = false := by
        by_contra hwith
        rw [Bool.not_eq_false] at hwith
        have hstate := h hwith
        rw [huninitialized] at hstate
        simp at hstate
      refine ⟨nofun, hwithout, settled_other rfl fun hwith => ?_, nofun⟩
      rw [hwithout] at hwith
      cases hwith
    · exact actsSettled_local hnotReady trivial nofun
  | initClaimed =>
    have hwithout : gateway.submitPipeline = false := h
    change ActsSettled gateway gateway.initFinish
    unfold initFinish
    rw [hwithout, if_neg (by decide)]
    refine ⟨nofun, trivial, settled_other hwithout.symm fun hwith => ?_, nofun⟩
    rw [hwithout] at hwith
    cases hwith
  | submitStart =>
    change ActsSettled gateway gateway.submitCheck
    unfold submitCheck
    rw [if_pos hnotReady]
    exact actsSettled_local hnotReady trivial nofun
  | submitChecked => cases h
  | submitRegistered => cases h
  | submitRan => exact ⟨hnotReady, trivial, settled_other rfl fun _ hstate => hstate, nofun⟩
  | shutdownStart =>
    change ActsSettled gateway gateway.shutdownCheck
    unfold shutdownCheck
    split <;> exact actsSettled_local hnotReady trivial nofun
  | shutdownChecked => exact ⟨nofun, trivial, settled_other rfl fun _ _ => Or.inl rfl, nofun⟩
  | shutdownDraining =>
    change ActsSettled gateway (gateway.shutdownWait timeUp)
    unfold shutdownWait
    split
    · exact actsSettled_local hnotReady trivial nofun
    · split <;> exact actsSettled_local hnotReady trivial nofun
  | shutdownWaited drained abandonedRequests =>
    refine ⟨nofun, trivial, settled_other rfl fun _ _ => Or.inr rfl, ?_⟩
    change (gateway.shutdownFinish drained abandonedRequests).2 ≠ .pipelineRun
    unfold shutdownFinish
    dsimp only
    split <;> exact nofun
  | returned => exact actsSettled_local hnotReady trivial nofun

theorem closed_step (s : GatewayThreads) (action : GatewayAction) (h : s.Closed) :
    (s.step action).1.Closed ∧ (s.step action).2 ≠ .pipelineRun := by
  have hact := act_settled action.2 s.shared (s.locals action.1) h.shared (h.locals action.1)
  exact ⟨Threads.holds_step _ _ _ s action h ⟨hact.notReady, hact.own⟩ hact.other,
    hact.noPipeline⟩

theorem closed_of_quiet (s : GatewayThreads) (action : GatewayAction)
    (hdrained : s.Drained action.1) (hquiet : s.Quiet) : (s.step action).1.Closed := by
  obtain ⟨abandonedRequests, hlocal⟩ := hdrained
  have hshared : (s.step action).1.shared = { s.shared with state := .shutDown } := by
    unfold step
    rw [Threads.step_shared, hlocal]
    rfl
  refine ⟨by rw [hshared]; nofun, fun thread => ?_⟩
  rw [hshared]
  by_cases hself : thread = action.1
  · unfold step
    rw [hself, Threads.step_locals_self, hlocal]
    trivial
  · unfold step
    rw [Threads.step_locals_other _ _ _ _ hself]
    have hpassive := hquiet thread
    cases hthread : s.locals thread with
    | initStart => exact fun _ => Or.inr rfl
    | _ => rw [hthread] at hpassive; exact hpassive

theorem clean_of_quiet (h : AllSteps step StoresQuietly (fresh submitPipeline) schedule) :
    CleanShutdown submitPipeline schedule := by
  rintro before action after rfl hdrained hrun
  obtain ⟨-, hstores, -⟩ := (allSteps_append ..).mp h
  have hclosed := closed_of_quiet _ action hdrained (hstores hdrained)
  rw [run_snoc] at hrun
  exact outputs_of_invariant step Closed (fun event => event ≠ .pipelineRun) closed_step _ after
    hclosed _ hrun rfl

/-! ## From any other store on -/

theorem step_self (s : GatewayThreads) (thread : GatewayThread) (timeUp : Bool)
    {p : GatewayLocal} (h : s.locals thread = p) :
    (s.step (thread, timeUp)).1.shared = (act timeUp s.shared p).1.1 ∧
      (s.step (thread, timeUp)).1.locals thread = (act timeUp s.shared p).1.2 ∧
      (s.step (thread, timeUp)).2 = (act timeUp s.shared p).2 := by
  subst h
  exact ⟨rfl, Threads.step_locals_self .., rfl⟩

/-- Where a thread that acts goes on to a pipeline, so does the schedule that starts with it. -/
theorem pipeline_cons {action : GatewayAction} {rest : List GatewayAction}
    (h : GatewayEvent.pipelineRun ∈ (run step (s.step action).1 rest).2) :
    GatewayEvent.pipelineRun ∈ (run step s (action :: rest)).2 :=
  List.mem_cons_of_mem _ h

theorem pipeline_of_registered (h : s.locals thread = .submitRegistered) :
    GatewayEvent.pipelineRun ∈ (run step s [(thread, false)]).2 := by
  have hevent := (step_self s thread false h).2.2
  rw [run_cons, hevent]
  exact List.mem_cons_self

theorem pipeline_of_checked (h : s.locals thread = .submitChecked) :
    GatewayEvent.pipelineRun ∈ (run step s [(thread, false), (thread, false)]).2 :=
  pipeline_cons (pipeline_of_registered (step_self s thread false h).2.1)

theorem pipeline_of_ready (hready : s.shared.state = .ready) (h : s.locals thread = .submitStart) :
    GatewayEvent.pipelineRun ∈
      (run step s [(thread, false), (thread, false), (thread, false)]).2 := by
  refine pipeline_cons (pipeline_of_checked ?_)
  rw [(step_self s thread false h).2.1]
  change s.shared.submitCheck.1.2 = _
  unfold submitCheck
  rw [if_neg (not_not.mpr hready)]

theorem unstarted_submit :
    ∃ id, (run step (fresh submitPipeline) schedule).1.locals (.submit id) = .submitStart := by
  have hbound : ∃ bound, ∀ action ∈ schedule, ∀ id, action.1 = .submit id → id < bound := by
    induction schedule with
    | nil => exact ⟨0, fun action haction => absurd haction List.not_mem_nil⟩
    | cons action schedule ih =>
      obtain ⟨bound, hbound⟩ := ih
      obtain ⟨own, hown⟩ : ∃ own, ∀ id, action.1 = .submit id → id < own := by
        cases action.1 with
        | submit id => exact ⟨id + 1, by rintro _ ⟨⟩; omega⟩
        | init => exact ⟨0, nofun⟩
        | shutdown id => exact ⟨0, nofun⟩
      refine ⟨max bound own, fun other hother id hid => ?_⟩
      rcases List.mem_cons.mp hother with rfl | hother
      · have hlt := hown id hid
        omega
      · have hlt := hbound other hother id hid
        omega
  obtain ⟨bound, hbound⟩ := hbound
  refine ⟨bound, ?_⟩
  have hidle : ∀ action ∈ schedule, action.1 ≠ .submit bound :=
    fun action haction hname => absurd (hbound action haction bound hname) (Nat.lt_irrefl bound)
  exact Threads.locals_of_idle act (fresh submitPipeline) schedule _ hidle

theorem shared_after_store {action : GatewayAction}
    (hdrained : s.Drained action.1) :
    (s.step action).1.shared = { s.shared with state := .shutDown } := by
  obtain ⟨abandonedRequests, hlocal⟩ := hdrained
  rw [(step_self s action.1 action.2 hlocal).1]
  rfl

theorem pipeline_of_not_quiet (before : List GatewayAction)
    (action : GatewayAction)
    (hdrained : (run step (fresh submitPipeline) before).1.Drained action.1)
    (hnot : ¬ (run step (fresh submitPipeline) before).1.Quiet) :
    ∃ after, GatewayEvent.pipelineRun ∈
      (run step (run step (fresh submitPipeline) (before ++ [action])).1 after).2 := by
  obtain ⟨thread, hactive⟩ := not_forall.mp hnot
  obtain ⟨id, hid⟩ := unstarted_submit submitPipeline (before ++ [action])
  rw [run_snoc] at hid ⊢
  set s := (run step (fresh submitPipeline) before).1
  have hkept : thread ≠ action.1 := by
    rintro rfl
    obtain ⟨abandonedRequests, hlocal⟩ := hdrained
    rw [hlocal] at hactive
    exact hactive trivial
  have hlocal := Threads.step_locals_other act s action thread hkept
  cases hthread : s.locals thread with
  | submitChecked => exact ⟨_, pipeline_of_checked (hlocal.trans hthread)⟩
  | submitRegistered => exact ⟨_, pipeline_of_registered (hlocal.trans hthread)⟩
  | initClaimed =>
    rw [hthread] at hactive
    have hwith : s.shared.submitPipeline = true := Bool.not_eq_false _ ▸ hactive
    have hinit := step_self (s.step action).1 thread false (hlocal.trans hthread)
    have hne : GatewayThread.submit id ≠ thread := by
      rintro rfl
      cases (hlocal.trans hthread).symm.trans hid
    refine ⟨(thread, false) :: _, pipeline_cons (@pipeline_of_ready _ (.submit id) ?_ ?_)⟩
    · rw [hinit.1, shared_after_store hdrained]
      change (initFinish _).1.1.state = _
      unfold initFinish
      rw [if_pos hwith]
    · rw [← hid]
      exact Threads.step_locals_other act _ _ _ hne
  | _ => rw [hthread] at hactive; exact absurd trivial hactive

end GatewayThreads

open GatewayThreads

/-- A schedule whose drained shutdowns store quietly is clean; any other such store has a
schedule that goes on to a pipeline. -/
theorem clean_shutdown_iff (submitPipeline : Bool) :
    (∀ schedule, AllSteps step StoresQuietly (fresh submitPipeline) schedule →
      CleanShutdown submitPipeline schedule) ∧
    ∀ before action, ¬ StoresQuietly (run step (fresh submitPipeline) before).1 action →
      ∃ after, ¬ CleanShutdown submitPipeline (before ++ action :: after) := by
  refine ⟨clean_of_quiet submitPipeline, fun before action hnot => ?_⟩
  unfold StoresQuietly at hnot
  rw [Classical.not_imp] at hnot
  obtain ⟨after, hrun⟩ := pipeline_of_not_quiet submitPipeline before action hnot.1 hnot.2
  exact ⟨after, fun hclean => hclean before action after rfl hnot.1 hrun⟩

/-- A submit that passed its check before the shutdown runs after it. -/
theorem submit_after_shutdown : ¬ ∀ submitPipeline schedule,
    CleanShutdown submitPipeline schedule := by
  intro h
  have hclean := h true
    [(.init, false), (.init, false), (.submit 0, false), (.shutdown 0, false),
      (.shutdown 0, false), (.shutdown 0, false), (.shutdown 0, false), (.submit 0, false),
      (.submit 0, false)]
    [(.init, false), (.init, false), (.submit 0, false), (.shutdown 0, false),
      (.shutdown 0, false), (.shutdown 0, false)]
    (.shutdown 0, false) [(.submit 0, false), (.submit 0, false)] rfl
    ⟨0, by decide +kernel⟩
  exact hclean (by decide +kernel)

end Dasall.Access
