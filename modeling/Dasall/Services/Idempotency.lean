import Dasall.Services.ExecutionCommandLane

/-!
# Idempotent execution

What the calls of a lane share: the keys they hold, the cache, and the invocations so far. One tuple
is in one phase at a time, from its invocation to its cached result.
-/

open Dasall.Contracts Dasall.Infra.Policy Dasall.Lib Dasall.Lib.Text

namespace Dasall.Services

variable {job : LaneJob}

/-! ## What a call is doing -/

namespace LaneState

def job? : LaneState → Option LaneJob
  | .called _ | .rejected _ => none
  | .probing job | .acquiring job | .routing job | .invoking job | .storing job _
  | .releasing job _ | .finished job _ => some job

/-- The call has the serialization key of its job, if the job has one. -/
def holder : LaneState → Option LaneJob
  | .routing job | .invoking job | .storing job _ | .releasing job _ => some job
  | .called _ | .probing _ | .acquiring _ | .finished _ _ | .rejected _ => none

def heldKey (state : LaneState) : Option Bytes := state.holder.bind LaneJob.serializationKey

/-- The adapter has been called, and the result is not in the cache yet. -/
def inFlight : LaneState → Option LaneJob
  | .invoking job | .storing job _ => some job
  | .called _ | .probing _ | .acquiring _ | .routing _ | .releasing _ _ | .finished _ _
  | .rejected _ => none

def flightTuple (state : LaneState) : Option LaneTuple := state.inFlight.bind LaneJob.tuple

def served? : LaneState → Option (LaneJob × ExecutionCommandResult)
  | .releasing job (.served result) | .finished job (.served result) => some (job, result)
  | _ => none

theorem holder_of_inFlight {state : LaneState} (h : state.inFlight = some job) :
    state.holder = some job := by
  cases state <;> first | exact h | cases h

theorem job_of_served {state : LaneState} {result : ExecutionCommandResult}
    (h : state.served? = some (job, result)) : state.job? = some job := by
  unfold served? at h
  split at h
  · exact congrArg some (Prod.mk.inj (Option.some.inj h)).1
  · exact congrArg some (Prod.mk.inj (Option.some.inj h)).1
  · cases h

end LaneState

def LaneEvent.invokes (tuple : LaneTuple) : LaneEvent → Bool
  | .invoked job => job.tuple = some tuple
  | .quiet | .completed _ _ => false

def invocations (tuple : LaneTuple) (events : List LaneEvent) : Nat :=
  events.countP (LaneEvent.invokes tuple)

/-! ## The moves of a call -/

section
variable (dependencies : ExecutionCommandLaneDependencies) (answer : LaneAnswer)
  (lane : ExecutionCommandLane)

inductive LaneMove :
    LaneState → ExecutionCommandLane → LaneState → LaneEvent → Prop
  | pass {before after : LaneState} (hbefore : before.holder = none) (hafter : after.holder = none)
      (hjob : ∀ job, after.job? = some job → before.job? = some job ∨
        ∃ call, before = .called call ∧ call.prepare dependencies = .ok job)
      (hcalled : ∀ call, after ≠ .called call)
      (hserved : after.served? = none ∨ after = before) : LaneMove before lane after .quiet
  | hit (job : LaneJob) (result : ExecutionCommandResult)
      (hcached : tryGetCachedResult lane job = some result) :
      LaneMove (.probing job) lane (.finished job (.served result)) .quiet
  | route (job : LaneJob) (hcritical : job.criticalAction = false) :
      LaneMove (.probing job) lane (.routing job) .quiet
  | acquire (job : LaneJob)
      (hfree : makeSerializationKey job.target job.action ∉ lane.inFlightSerializationKeys) :
      LaneMove (.acquiring job)
        { lane with
          inFlightSerializationKeys :=
            insert (makeSerializationKey job.target job.action) lane.inFlightSerializationKeys }
        (.routing job) .quiet
  | refuse (job : LaneJob) (result : ExecutionCommandResult) :
      LaneMove (.routing job) lane (.releasing job (.refused result)) .quiet
  | invoke (job : LaneJob) (hrouted : answer.routeFailure = none) :
      LaneMove (.routing job) lane (.invoking job) (.invoked job)
  | complete (job : LaneJob) (result : ExecutionCommandResult) :
      LaneMove (.invoking job) lane (.storing job result) (.completed job result)
  | store (job : LaneJob) (result : ExecutionCommandResult) :
      LaneMove (.storing job result) (cacheResult lane job result)
        (.releasing job (.served result)) .quiet
  | release (job : LaneJob) (outcome : LaneOutcome) :
      LaneMove (.releasing job outcome) (releaseKey lane job) (.finished job outcome) .quiet

theorem afterProbe_move (job : LaneJob) :
    LaneMove dependencies answer lane (.probing job) lane (afterProbe dependencies lane job)
      .quiet := by
  have hpass : ∀ after : LaneState, after.holder = none → after.job? = some job →
      (∀ call, after ≠ .called call) → after.served? = none →
        LaneMove dependencies answer lane (.probing job) lane after .quiet :=
    fun after hafter hjob hcalled hserved =>
      .pass rfl hafter (fun other hother => Or.inl (hjob.symm.trans hother)) hcalled (Or.inl hserved)
  unfold afterProbe
  split
  · exact hpass _ rfl rfl (fun _ h => LaneState.noConfusion h) rfl
  · split
    next result hcached => exact .hit job result hcached
    next =>
    split
    · exact hpass _ rfl rfl (fun _ h => LaneState.noConfusion h) rfl
    · split
      next => exact hpass _ rfl rfl (fun _ h => LaneState.noConfusion h) rfl
      next hcritical => exact .route job (by simpa using hcritical)

theorem actLane_move (state : LaneState) :
    LaneMove dependencies answer lane state (actLane dependencies answer lane state).1.1
      (actLane dependencies answer lane state).1.2 (actLane dependencies answer lane state).2 := by
  cases state with
  | called call =>
    unfold actLane
    cases hprepare : call.prepare dependencies with
    | error result =>
      simp only [hprepare]
      refine .pass rfl rfl ?_ ?_ ?_
      · intro job hjob
        cases hjob
      · intro other hother
        cases hother
      · exact Or.inl rfl
    | ok job =>
      simp only [hprepare]
      refine .pass rfl rfl ?_ ?_ ?_
      · intro other hother
        obtain rfl := Option.some.inj hother
        exact Or.inr ⟨call, rfl, hprepare⟩
      · intro other hother
        cases hother
      · exact Or.inl rfl
  | probing job => exact afterProbe_move dependencies answer lane job
  | acquiring job =>
    unfold actLane acquireKey
    dsimp only
    split
    · refine .pass rfl rfl (fun _ h => Or.inl h) ?_ (Or.inl rfl)
      intro other hother
      cases hother
    next hfree => exact .acquire job hfree
  | routing job =>
    unfold actLane
    cases hrouted : answer.routeFailure with
    | some failure => exact .refuse job _
    | none => exact .invoke job hrouted
  | invoking job => exact .complete job _
  | storing job result => exact .store job result
  | releasing job outcome => exact .release job outcome
  | finished job outcome =>
    refine .pass rfl rfl (fun _ h => Or.inl h) ?_ (Or.inr rfl)
    intro other hother
    cases hother
  | rejected result =>
    refine .pass rfl rfl (fun _ h => Or.inl h) ?_ (Or.inr rfl)
    intro other hother
    cases hother

end

/-! ## Serialization keys -/

section
variable {ι : Type} [DecidableEq ι] {dependencies : ExecutionCommandLaneDependencies}
  {answer : LaneAnswer} {lane next : ExecutionCommandLane} {locals : ι → LaneState} {mover : ι}
  {after : LaneState} {event : LaneEvent}

/-- A key is held by one call at most, and the lane has every key that is held. -/
structure KeysHeld (lane : ExecutionCommandLane) (locals : ι → LaneState) : Prop where
  held : ∀ thread key, (locals thread).heldKey = some key → key ∈ lane.inFlightSerializationKeys
  exclusive : ∀ first second key, (locals first).heldKey = some key →
    (locals second).heldKey = some key → first = second

theorem KeysHeld.keep (h : KeysHeld lane locals)
    (hafter : ∀ key, after.heldKey = some key → (locals mover).heldKey = some key)
    (hkeys : ∀ thread key, thread ≠ mover ∨ after.heldKey = some key →
      (locals thread).heldKey = some key → key ∈ next.inFlightSerializationKeys) :
    KeysHeld next (Function.update locals mover after) := by
  have hbefore : ∀ thread key, (Function.update locals mover after thread).heldKey = some key →
      (locals thread).heldKey = some key := by
    intro thread key hthread
    by_cases hmover : thread = mover
    · rw [hmover, Function.update_self] at hthread
      rw [hmover]
      exact hafter key hthread
    · rwa [Function.update_of_ne hmover] at hthread
  refine ⟨fun thread key hthread => ?_, fun first second key hfirst hsecond => ?_⟩
  · refine hkeys thread key ?_ (hbefore thread key hthread)
    by_cases hmover : thread = mover
    · rw [hmover, Function.update_self] at hthread
      exact Or.inr hthread
    · exact Or.inl hmover
  · exact h.exclusive first second key (hbefore first key hfirst) (hbefore second key hsecond)

theorem KeysHeld.acquire (h : KeysHeld lane locals) {key : Bytes}
    (hfree : key ∉ lane.inFlightSerializationKeys)
    (hafter : ∀ other, after.heldKey = some other → other = key) :
    KeysHeld { lane with inFlightSerializationKeys := insert key lane.inFlightSerializationKeys }
      (Function.update locals mover after) := by
  have hcases : ∀ thread other, (Function.update locals mover after thread).heldKey = some other →
      (thread = mover ∧ other = key) ∨ (thread ≠ mover ∧ (locals thread).heldKey = some other) := by
    intro thread other hthread
    by_cases hmover : thread = mover
    · rw [hmover, Function.update_self] at hthread
      exact Or.inl ⟨hmover, hafter other hthread⟩
    · rw [Function.update_of_ne hmover] at hthread
      exact Or.inr ⟨hmover, hthread⟩
  refine ⟨fun thread other hthread => ?_, fun first second other hfirst hsecond => ?_⟩
  · rcases hcases thread other hthread with ⟨-, rfl⟩ | ⟨-, hheld⟩
    · exact Finset.mem_insert_self ..
    · exact Finset.mem_insert_of_mem (h.held thread other hheld)
  · rcases hcases first other hfirst with ⟨rfl, rfl⟩ | ⟨-, hheld⟩ <;>
      rcases hcases second other hsecond with ⟨rfl, hkey⟩ | ⟨-, hheld'⟩
    · rfl
    · exact absurd (h.held second other hheld') hfree
    · exact absurd (hkey ▸ h.held first other hheld) hfree
    · exact h.exclusive first second other hheld hheld'

theorem KeysHeld.move (h : KeysHeld lane locals)
    (hmove : LaneMove dependencies answer lane (locals mover) next after event) :
    KeysHeld next (Function.update locals mover after) := by
  have hheld := h.held
  generalize hbefore : locals mover = before at hmove
  have hkeep : (∀ key, after.heldKey = some key → before.heldKey = some key) →
      next.inFlightSerializationKeys = lane.inFlightSerializationKeys →
        KeysHeld next (Function.update locals mover after) := by
    intro hafter hsame
    refine h.keep (by rw [hbefore]; exact hafter) fun thread key _ hthread => ?_
    rw [hsame]
    exact hheld thread key hthread
  have hnone : after.heldKey = none →
      next.inFlightSerializationKeys = lane.inFlightSerializationKeys →
        KeysHeld next (Function.update locals mover after) := by
    intro hafter
    refine hkeep fun key hkey => ?_
    rw [hafter] at hkey
    cases hkey
  cases hmove with
  | pass _ hafter => exact hnone (by rw [LaneState.heldKey, hafter]; rfl) rfl
  | hit job result => exact hnone rfl rfl
  | route job hcritical =>
    refine hnone ?_ rfl
    unfold LaneState.heldKey LaneState.holder LaneJob.serializationKey
    rw [Option.bind_some, hcritical]
    rfl
  | acquire job hfree =>
    refine h.acquire hfree fun other hother => ?_
    unfold LaneState.heldKey LaneState.holder LaneJob.serializationKey at hother
    rw [Option.bind_some] at hother
    split at hother
    · exact (Option.some.inj hother).symm
    · cases hother
  | refuse job result => exact hkeep (fun _ hkey => hkey) rfl
  | invoke job => exact hkeep (fun _ hkey => hkey) rfl
  | complete job result => exact hkeep (fun _ hkey => hkey) rfl
  | store job result =>
    refine hkeep (fun _ hkey => hkey) ?_
    unfold cacheResult
    split <;> rfl
  | release job outcome =>
    refine h.keep nofun fun thread key hthread hkey => ?_
    rcases hthread with hother | hkey'
    · unfold releaseKey
      cases hserialization : job.serializationKey with
      | none => exact hheld thread key hkey
      | some released =>
        refine Finset.mem_erase.mpr ⟨?_, hheld thread key hkey⟩
        rintro rfl
        refine hother (h.exclusive thread mover key hkey ?_)
        rw [hbefore]
        exact hserialization
    · cases hkey'

/-! ## Where results come from -/

/-- The job of a call, once its checks have passed. -/
def Prepared (dependencies : ExecutionCommandLaneDependencies) (calls : ι → LaneCall)
    (job : LaneJob) : Prop := ∃ thread, (calls thread).prepare dependencies = .ok job

/-- Jobs, results in the cache and results of calls, each with the event that it comes from. -/
structure Tracked (dependencies : ExecutionCommandLaneDependencies) (calls : ι → LaneCall)
    (lane : ExecutionCommandLane) (locals : ι → LaneState) (events : List LaneEvent) : Prop where
  called : ∀ thread call, locals thread = .called call → call = calls thread
  prepared : ∀ thread job, (locals thread).job? = some job → Prepared dependencies calls job
  flown : ∀ thread job, (locals thread).inFlight = some job → .invoked job ∈ events
  completed : ∀ job result, .completed job result ∈ events →
    Prepared dependencies calls job ∧ .invoked job ∈ events
  stored : ∀ thread job result, locals thread = .storing job result →
    .completed job result ∈ events
  cached : ∀ key result, lane.idempotencyCache.lookup key = some result →
    ∃ job, .completed job result ∈ events ∧ job.idempotencyCacheKey = some key
  served : ∀ thread job result, (locals thread).served? = some (job, result) →
    ∃ other, .completed other result ∈ events ∧
      other.idempotencyCacheKey = job.idempotencyCacheKey

variable {calls : ι → LaneCall} {events : List LaneEvent}

theorem Tracked.keep (h : Tracked dependencies calls lane locals events)
    (hcalled : ∀ call, after = .called call → locals mover = .called call)
    (hprepared : ∀ job, after.job? = some job → Prepared dependencies calls job)
    (hflown : ∀ job, after.inFlight = some job → .invoked job ∈ events ++ [event])
    (hcompleted : ∀ job result, event = .completed job result →
      Prepared dependencies calls job ∧ .invoked job ∈ events)
    (hstored : ∀ job result, after = .storing job result →
      .completed job result ∈ events ++ [event])
    (hcached : ∀ key result, next.idempotencyCache.lookup key = some result →
      lane.idempotencyCache.lookup key = some result ∨
        ∃ job, .completed job result ∈ events ∧ job.idempotencyCacheKey = some key)
    (hserved : ∀ job result, after.served? = some (job, result) →
      ∃ other, .completed other result ∈ events ∧
        other.idempotencyCacheKey = job.idempotencyCacheKey) :
    Tracked dependencies calls next (Function.update locals mover after) (events ++ [event]) := by
  refine ⟨?_, ?_, ?_, ?_, ?_, ?_, ?_⟩
  · intro thread call hthread
    by_cases hmover : thread = mover
    · rw [hmover, Function.update_self] at hthread
      rw [hmover]
      exact h.called mover call (hcalled call hthread)
    · rw [Function.update_of_ne hmover] at hthread
      exact h.called thread call hthread
  · exact Threads.forall_update (fun state : LaneState => ∀ job, state.job? = some job →
      Prepared dependencies calls job) h.prepared hprepared
  · exact Threads.forall_update (fun state : LaneState => ∀ job, state.inFlight = some job →
      .invoked job ∈ events ++ [event])
      (fun thread job hjob => List.mem_append_left _ (h.flown thread job hjob)) hflown
  · intro job result hmem
    rcases List.mem_append.mp hmem with hbefore | hlast
    · obtain ⟨hprepared', hinvoked⟩ := h.completed job result hbefore
      exact ⟨hprepared', List.mem_append_left _ hinvoked⟩
    · obtain ⟨hprepared', hinvoked⟩ := hcompleted job result (List.mem_singleton.mp hlast).symm
      exact ⟨hprepared', List.mem_append_left _ hinvoked⟩
  · exact Threads.forall_update (fun state : LaneState => ∀ job result,
      state = .storing job result → .completed job result ∈ events ++ [event])
      (fun thread job result hjob => List.mem_append_left _ (h.stored thread job result hjob))
      hstored
  · intro key result hlookup
    obtain ⟨job, hjob, hkey⟩ := (hcached key result hlookup).elim (h.cached key result) id
    exact ⟨job, List.mem_append_left _ hjob, hkey⟩
  · intro thread
    have hlonger : ∀ job result, (∃ other, .completed other result ∈ events ∧
          other.idempotencyCacheKey = job.idempotencyCacheKey) →
        ∃ other, .completed other result ∈ events ++ [event] ∧
          other.idempotencyCacheKey = LaneJob.idempotencyCacheKey job := by
      rintro job result ⟨other, hother, hkey⟩
      exact ⟨other, List.mem_append_left _ hother, hkey⟩
    by_cases hmover : thread = mover
    · rw [hmover, Function.update_self]
      exact fun job result hjob => hlonger job result (hserved job result hjob)
    · rw [Function.update_of_ne hmover]
      exact fun job result hjob => hlonger job result (h.served thread job result hjob)

theorem Tracked.quiet (h : Tracked dependencies calls lane locals events)
    (hcalled : ∀ call, after ≠ .called call) (hflight : after.inFlight = none)
    (hprepared : ∀ job, after.job? = some job → Prepared dependencies calls job)
    (hcached : ∀ key result, next.idempotencyCache.lookup key = some result →
      lane.idempotencyCache.lookup key = some result ∨
        ∃ job, .completed job result ∈ events ∧ job.idempotencyCacheKey = some key)
    (hserved : ∀ job result, after.served? = some (job, result) →
      ∃ other, .completed other result ∈ events ∧
        other.idempotencyCacheKey = job.idempotencyCacheKey) :
    Tracked dependencies calls next (Function.update locals mover after)
      (events ++ [.quiet]) := by
  refine h.keep (fun call hcall => absurd hcall (hcalled call)) hprepared ?_ ?_ ?_ hcached hserved
  · intro job hjob
    rw [hflight] at hjob
    cases hjob
  · intro job result hevent
    cases hevent
  · rintro job result rfl
    cases hflight

theorem Tracked.silent (h : Tracked dependencies calls lane locals events)
    (hcalled : ∀ call, after ≠ .called call) (hflight : after.inFlight = none)
    (hprepared : ∀ job, after.job? = some job → Prepared dependencies calls job)
    (hcache : next.idempotencyCache = lane.idempotencyCache) (hserved : after.served? = none) :
    Tracked dependencies calls next (Function.update locals mover after)
      (events ++ [.quiet]) := by
  refine h.quiet hcalled hflight hprepared (fun key result hlookup => Or.inl (hcache ▸ hlookup)) ?_
  intro job result hresult
  rw [hserved] at hresult
  cases hresult

theorem Tracked.move (h : Tracked dependencies calls lane locals events)
    (hmove : LaneMove dependencies answer lane (locals mover) next after event) :
    Tracked dependencies calls next (Function.update locals mover after) (events ++ [event]) := by
  have hcalled := h.called mover
  have hprepared := h.prepared mover
  have hflown := h.flown mover
  have hstored := h.stored mover
  have hserved := h.served mover
  generalize hbefore : locals mover = before at *
  cases hmove with
  | pass hholder hafter hjob hnew hresult =>
    refine h.quiet hnew ?_ ?_ (fun _ _ hlookup => Or.inl hlookup) ?_
    · cases hflight : after.inFlight with
      | none => rfl
      | some job => rw [LaneState.holder_of_inFlight hflight] at hafter; cases hafter
    · intro job hafterJob
      rcases hjob job hafterJob with hsame | ⟨call, hcall, hprepare⟩
      · exact hprepared job hsame
      · exact ⟨mover, by rw [← hcalled call hcall]; exact hprepare⟩
    · intro job result hafterServed
      rcases hresult with hnone | hsame
      · rw [hnone] at hafterServed
        cases hafterServed
      · exact hserved job result (hsame ▸ hafterServed)
  | hit job result hcached =>
    refine h.quiet (fun _ => LaneState.noConfusion) rfl hprepared
      (fun _ _ hlookup => Or.inl hlookup) ?_
    intro other found hother
    obtain ⟨rfl, rfl⟩ := Prod.mk.inj (Option.some.inj hother)
    obtain ⟨key, hkey, hlookup⟩ := Option.bind_eq_some_iff.mp hcached
    obtain ⟨source, hsource, hsame⟩ := h.cached key result hlookup
    exact ⟨source, hsource, hsame.trans hkey.symm⟩
  | route job hcritical => exact h.silent (fun _ => LaneState.noConfusion) rfl hprepared rfl rfl
  | acquire job hfree => exact h.silent (fun _ => LaneState.noConfusion) rfl hprepared rfl rfl
  | refuse job result => exact h.silent (fun _ => LaneState.noConfusion) rfl hprepared rfl rfl
  | invoke job hrouted =>
    refine h.keep (fun _ => LaneState.noConfusion) hprepared ?_ ?_ (fun _ _ => LaneState.noConfusion)
      (fun _ _ hlookup => Or.inl hlookup) ?_
    · intro other hother
      rw [← Option.some.inj hother]
      exact List.mem_append_right _ List.mem_cons_self
    · intro other found hevent
      cases hevent
    · intro other found hother
      cases hother
  | complete job result =>
    refine h.keep (fun _ => LaneState.noConfusion) hprepared ?_ ?_ ?_
      (fun _ _ hlookup => Or.inl hlookup) ?_
    · exact fun other hother => List.mem_append_left _ (hflown other hother)
    · intro other found hother
      obtain ⟨rfl, rfl⟩ := LaneEvent.completed.inj hother
      exact ⟨hprepared job rfl, hflown job rfl⟩
    · intro other found hother
      obtain ⟨rfl, rfl⟩ := LaneState.storing.inj hother
      exact List.mem_append_right _ List.mem_cons_self
    · intro other found hother
      cases hother
  | store job result =>
    have hcompleted := hstored job result rfl
    refine h.quiet (fun _ => LaneState.noConfusion) rfl hprepared ?_ ?_
    · intro key found hlookup
      unfold cacheResult at hlookup
      split at hlookup
      · exact Or.inl hlookup
      next stored hstoredKey =>
        by_cases hkey : key = stored
        · rw [hkey, AList.lookup_insert] at hlookup
          obtain rfl := Option.some.inj hlookup
          exact Or.inr ⟨job, hcompleted, by rw [hstoredKey, hkey]⟩
        · rw [AList.lookup_insert_ne hkey] at hlookup
          exact Or.inl hlookup
    · intro other found hother
      obtain ⟨rfl, rfl⟩ := Prod.mk.inj (Option.some.inj hother)
      exact ⟨job, hcompleted, rfl⟩
  | release job outcome =>
    refine h.quiet (fun _ => LaneState.noConfusion) rfl hprepared ?_ ?_
    · intro key found hlookup
      unfold releaseKey at hlookup
      split at hlookup <;> exact Or.inl hlookup
    · intro other found hother
      refine hserved other found ?_
      cases outcome with
      | refused result => cases hother
      | served result => exact hother

/-! ## The phases of a tuple -/

/-- From an invocation to its cached result, one call at a time. -/
inductive Phase (tuple : LaneTuple) (lane : ExecutionCommandLane) (locals : ι → LaneState)
    (events : List LaneEvent) : Prop
  | unseen (hnone : invocations tuple events = 0)
      (hquiet : ∀ thread, (locals thread).flightTuple ≠ some tuple)
      (hempty : ∀ job result, .completed job result ∈ events → job.tuple ≠ some tuple)
  | invoking (thread : ι) (job : LaneJob) (hstate : locals thread = .invoking job)
      (htuple : job.tuple = some tuple) (honce : invocations tuple events = 1)
      (hquiet : ∀ other, (locals other).flightTuple = some tuple → other = thread)
      (hempty : ∀ job result, .completed job result ∈ events → job.tuple ≠ some tuple)
  | storing (thread : ι) (job : LaneJob) (result : ExecutionCommandResult)
      (hstate : locals thread = .storing job result) (htuple : job.tuple = some tuple)
      (honce : invocations tuple events = 1)
      (hquiet : ∀ other, (locals other).flightTuple = some tuple → other = thread)
      (hsame : ∀ job found, .completed job found ∈ events → job.tuple = some tuple →
        found = result)
  | cached (job : LaneJob) (result : ExecutionCommandResult)
      (hcompleted : .completed job result ∈ events) (htuple : job.tuple = some tuple)
      (honce : invocations tuple events = 1)
      (hquiet : ∀ thread, (locals thread).flightTuple ≠ some tuple)
      (hsame : ∀ job found, .completed job found ∈ events → job.tuple = some tuple →
        found = result)
      (hcached : (lane.idempotencyCache.lookup tuple.cacheKey).isSome = true)

variable {tuple : LaneTuple}

omit [DecidableEq ι] in
theorem Phase.invocations_le_one (h : Phase tuple lane locals events) :
    invocations tuple events ≤ 1 := by
  cases h <;> omega

omit [DecidableEq ι] in
theorem Phase.same_result (h : Phase tuple lane locals events) {other : LaneJob}
    {result found : ExecutionCommandResult} (hjob : .completed job result ∈ events)
    (htuple : job.tuple = some tuple) (hother : .completed other found ∈ events)
    (htuple' : other.tuple = some tuple) : result = found := by
  cases h with
  | unseen hnone hquiet hempty | invoking thread _ hstate _ honce hquiet hempty =>
    exact absurd htuple (hempty job result hjob)
  | storing thread _ stored hstate _ honce hquiet hsame
  | cached _ stored _ _ honce hquiet hsame hcached =>
    rw [hsame job result hjob htuple, hsame other found hother htuple']

theorem invocations_snoc (event : LaneEvent) :
    invocations tuple (events ++ [event]) =
      invocations tuple events + if event.invokes tuple = true then 1 else 0 := by
  unfold invocations
  rw [List.countP_append, List.countP_singleton]

/-- The event is not about the tuple. -/
def LaneEvent.Elsewhere (tuple : LaneTuple) : LaneEvent → Prop
  | .quiet => True
  | .invoked job | .completed job _ => job.tuple ≠ some tuple

/-- A move of a call that is not in flight with the tuple leaves the tuple in its phase. -/
theorem Phase.elsewhere (h : Phase tuple lane locals events)
    (hbefore : (locals mover).flightTuple ≠ some tuple) (hafter : after.flightTuple ≠ some tuple)
    (hevent : event.Elsewhere tuple)
    (hcache : (lane.idempotencyCache.lookup tuple.cacheKey).isSome = true →
      (next.idempotencyCache.lookup tuple.cacheKey).isSome = true) :
    Phase tuple next (Function.update locals mover after) (events ++ [event]) := by
  have hcount : invocations tuple (events ++ [event]) = invocations tuple events := by
    rw [invocations_snoc, if_neg, Nat.add_zero]
    cases event with
    | quiet | completed job result => exact Bool.false_ne_true
    | invoked job => exact fun hinvokes => hevent (of_decide_eq_true hinvokes)
  have hold : ∀ job result, .completed job result ∈ events ++ [event] →
      job.tuple = some tuple → .completed job result ∈ events := by
    intro job result hmem htuple
    rcases List.mem_append.mp hmem with hearlier | hlast
    · exact hearlier
    · rw [← List.mem_singleton.mp hlast] at hevent
      exact absurd htuple hevent
  have hquiet : ∀ other, (Function.update locals mover after other).flightTuple = some tuple →
      (locals other).flightTuple = some tuple := by
    intro other hother
    by_cases hmover : other = mover
    · rw [hmover, Function.update_self] at hother
      exact absurd hother hafter
    · rwa [Function.update_of_ne hmover] at hother
  have hstays : ∀ thread, (locals thread).flightTuple = some tuple →
      Function.update locals mover after thread = locals thread := by
    intro thread hthread
    refine Function.update_of_ne ?_ ..
    rintro rfl
    exact hbefore hthread
  cases h with
  | unseen hnone hidle hempty =>
    exact .unseen (hcount.trans hnone) (fun thread hthread => hidle thread (hquiet thread hthread))
      fun job result hmem htuple => hempty job result (hold job result hmem htuple) htuple
  | invoking thread job hstate htuple honce honly hempty =>
    refine .invoking thread job ?_ htuple (hcount.trans honce)
      (fun other hother => honly other (hquiet other hother))
      fun job result hmem htuple => hempty job result (hold job result hmem htuple) htuple
    rw [hstays thread (by rw [hstate]; exact htuple), hstate]
  | storing thread job result hstate htuple honce honly hsame =>
    refine .storing thread job result ?_ htuple (hcount.trans honce)
      (fun other hother => honly other (hquiet other hother))
      fun job found hmem htuple => hsame job found (hold job found hmem htuple) htuple
    rw [hstays thread (by rw [hstate]; exact htuple), hstate]
  | cached job result hcompleted htuple honce hidle hsame hcached =>
    exact .cached job result (List.mem_append_left _ hcompleted) htuple (hcount.trans honce)
      (fun thread hthread => hidle thread (hquiet thread hthread))
      (fun job found hmem htuple => hsame job found (hold job found hmem htuple) htuple)
      (hcache hcached)

theorem cacheResult_isSome (job : LaneJob) (result : ExecutionCommandResult) {key : Bytes}
    (h : (lane.idempotencyCache.lookup key).isSome = true ∨ job.idempotencyCacheKey = some key) :
    ((cacheResult lane job result).idempotencyCache.lookup key).isSome = true := by
  unfold cacheResult
  split
  next hnone =>
    rw [hnone] at h
    exact h.resolve_right nofun
  next stored hstored =>
    by_cases hkey : key = stored
    · rw [hkey, AList.lookup_insert]
      rfl
    · rw [AList.lookup_insert_ne hkey]
      refine h.resolve_right fun hsame => ?_
      rw [hstored] at hsame
      exact hkey (Option.some.inj hsame).symm

theorem Phase.invoke (h : Phase tuple lane locals events) (htuple : job.tuple = some tuple)
    (hfresh : lane.idempotencyCache.lookup tuple.cacheKey = none ∧ ∀ other, (locals
      other).flightTuple ≠ some tuple) :
    Phase tuple lane (Function.update locals mover (.invoking job)) (events ++ [.invoked job]) := by
  cases h with
  | unseen hnone hidle hempty =>
    refine .invoking mover job (Function.update_self ..) htuple ?_ ?_ ?_
    · have hinvokes : LaneEvent.invokes tuple (.invoked job) = true := decide_eq_true htuple
      rw [invocations_snoc, hnone, if_pos hinvokes]
    · intro other hother
      by_contra hne
      rw [Function.update_of_ne hne] at hother
      exact hfresh.2 other hother
    · intro other result hmem
      rcases List.mem_append.mp hmem with hearlier | hlast
      · exact hempty other result hearlier
      · cases List.mem_singleton.mp hlast
  | invoking thread other hstate htuple' =>
    exact absurd (by rw [hstate]; exact htuple') (hfresh.2 thread)
  | storing thread other result hstate htuple' =>
    exact absurd (by rw [hstate]; exact htuple') (hfresh.2 thread)
  | cached other result hcompleted htuple' honce hidle hsame hcached =>
    rw [hfresh.1] at hcached
    cases hcached

theorem Phase.complete (h : Phase tuple lane locals events) (hbefore : locals mover = .invoking job)
    (htuple : job.tuple = some tuple) (result : ExecutionCommandResult) :
    Phase tuple lane (Function.update locals mover (.storing job result))
      (events ++ [.completed job result]) := by
  have hflight : (locals mover).flightTuple = some tuple := by
    rw [hbefore]
    exact htuple
  cases h with
  | unseen hnone hidle hempty => exact absurd hflight (hidle mover)
  | invoking thread other hstate htuple' honce honly hempty =>
    obtain rfl := honly mover hflight
    refine .storing mover job result (Function.update_self ..) htuple ?_ ?_ ?_
    · rw [invocations_snoc, honce]
      rfl
    · intro other' hother
      by_contra hne
      rw [Function.update_of_ne hne] at hother
      exact hne (honly other' hother)
    · intro other' found hmem htuple''
      rcases List.mem_append.mp hmem with hearlier | hlast
      · exact absurd htuple'' (hempty other' found hearlier)
      · exact (LaneEvent.completed.inj (List.mem_singleton.mp hlast)).2
  | storing thread other found hstate htuple' honce honly =>
    rw [← honly mover hflight, hbefore] at hstate
    cases hstate
  | cached other found hcompleted htuple' honce hidle => exact absurd hflight (hidle mover)

theorem Phase.store (h : Phase tuple lane locals events) {result : ExecutionCommandResult}
    (hbefore : locals mover = .storing job result) (htuple : job.tuple = some tuple)
    (hcompleted : .completed job result ∈ events) :
    Phase tuple (cacheResult lane job result)
      (Function.update locals mover (.releasing job (.served result))) (events ++ [.quiet]) := by
  have hflight : (locals mover).flightTuple = some tuple := by
    rw [hbefore]
    exact htuple
  cases h with
  | unseen hnone hidle hempty => exact absurd hflight (hidle mover)
  | invoking thread other hstate htuple' honce honly =>
    rw [← honly mover hflight, hbefore] at hstate
    cases hstate
  | storing thread other found hstate htuple' honce honly hsame =>
    obtain rfl := honly mover hflight
    refine .cached job result (List.mem_append_left _ hcompleted) htuple ?_ ?_ ?_ ?_
    · rw [invocations_snoc, honce]
      rfl
    · intro other' hother
      by_cases hne : other' = mover
      · rw [hne, Function.update_self] at hother
        cases hother
      · rw [Function.update_of_ne hne] at hother
        exact hne (honly other' hother)
    · intro other' found' hmem htuple''
      rcases List.mem_append.mp hmem with hearlier | hlast
      · rw [hsame other' found' hearlier htuple'', hsame job result hcompleted htuple]
      · cases List.mem_singleton.mp hlast
    · refine cacheResult_isSome job result (Or.inr ?_)
      unfold LaneJob.idempotencyCacheKey
      rw [htuple]
      rfl
  | cached other found hcompleted htuple' honce hidle => exact absurd hflight (hidle mover)

/-- An invocation finds no result of its tuple in the cache and no other in flight. -/
def FreshFor (tuple : LaneTuple) (lane : ExecutionCommandLane) (locals : ι → LaneState)
    (mover : ι) (answer : LaneAnswer) : Prop :=
  ∀ job, locals mover = .routing job → answer.routeFailure = none → job.tuple = some tuple →
    lane.idempotencyCache.lookup tuple.cacheKey = none ∧
      ∀ other, (locals other).flightTuple ≠ some tuple

theorem Phase.move (h : Phase tuple lane locals events)
    (htracked : Tracked dependencies calls lane locals events)
    (hmove : LaneMove dependencies answer lane (locals mover) next after event)
    (hfresh : FreshFor tuple lane locals mover answer) :
    Phase tuple next (Function.update locals mover after) (events ++ [event]) := by
  have hstored := htracked.stored mover
  unfold FreshFor at hfresh
  generalize hbefore : locals mover = before at hmove hstored hfresh
  have hidle : before.flightTuple = none → after.flightTuple = none → event = .quiet →
      (lane.idempotencyCache.lookup tuple.cacheKey = next.idempotencyCache.lookup tuple.cacheKey) →
        Phase tuple next (Function.update locals mover after) (events ++ [event]) := by
    rintro hnone hnone' rfl hcache
    refine h.elsewhere ?_ ?_ trivial (by rw [hcache]; exact id)
    · rw [hbefore, hnone]
      nofun
    · rw [hnone']
      nofun
  cases hmove with
  | pass hholder hafter =>
    have hflight : ∀ state : LaneState, state.holder = none → state.flightTuple = none := by
      intro state hstate
      cases state <;> first | rfl | cases hstate
    exact hidle (hflight before hholder) (hflight after hafter) rfl rfl
  | hit job result => exact hidle rfl rfl rfl rfl
  | route job => exact hidle rfl rfl rfl rfl
  | acquire job => exact hidle rfl rfl rfl rfl
  | refuse job result => exact hidle rfl rfl rfl rfl
  | invoke job hrouted =>
    by_cases htuple : job.tuple = some tuple
    · exact h.invoke htuple (hfresh job rfl hrouted htuple)
    · exact h.elsewhere (by rw [hbefore]; nofun) htuple htuple id
  | complete job result =>
    by_cases htuple : job.tuple = some tuple
    · exact h.complete hbefore htuple result
    · exact h.elsewhere (by rw [hbefore]; exact htuple) htuple htuple id
  | store job result =>
    by_cases htuple : job.tuple = some tuple
    · exact h.store hbefore htuple (hstored job result rfl)
    · exact h.elsewhere (by rw [hbefore]; exact htuple) nofun trivial
        fun hsome => cacheResult_isSome job result (Or.inl hsome)
  | release job outcome =>
    refine hidle rfl rfl rfl ?_
    unfold releaseKey
    split <;> rfl

end

/-! ## Runs -/

section
variable {ι : Type} [DecidableEq ι] (dependencies : ExecutionCommandLaneDependencies)
  (calls : ι → LaneCall)

/-- Two calls of the run with the same cache key are for the same tuple. -/
def KeysDistinct : Prop :=
  ∀ job other, Prepared dependencies calls job → Prepared dependencies calls other →
    job.idempotencyCacheKey = other.idempotencyCacheKey → job.tuple = other.tuple

/-- What the lane promises of a run. -/
structure Idempotent (events : List LaneEvent) (s : Threads ι ExecutionCommandLane LaneState) :
    Prop where
  invoked_once : ∀ tuple : LaneTuple, tuple.idempotencyKey ≠ [] → invocations tuple events ≤ 1
  /-- A call gets the result of the one invocation of its tuple. -/
  same_result : ∀ thread job result tuple, (s.locals thread).served? = some (job, result) →
    job.tuple = some tuple → tuple.idempotencyKey ≠ [] →
      ∀ other found, .completed other found ∈ events → other.tuple = some tuple → found = result
  own_result : ∀ thread job result, (s.locals thread).served? = some (job, result) →
    ∃ other, .completed other result ∈ events ∧ other.tuple = job.tuple
  exclusive : ∀ first second job other key, (s.locals first).inFlight = some job →
    (s.locals second).inFlight = some other → job.serializationKey = some key →
      other.serializationKey = some key → first = second

/-- The lookup that sent a keyed call to the adapter still says the truth: the cache has no result
for it, and no other call is in flight with its tuple. -/
def Fresh (s : Threads ι ExecutionCommandLane LaneState) (input : ι × LaneAnswer) : Prop :=
  ∀ tuple : LaneTuple, tuple.idempotencyKey ≠ [] →
    FreshFor tuple s.shared s.locals input.1 input.2

variable {dependencies calls}

theorem keysHeld_run (schedule : List (ι × LaneAnswer)) :
    KeysHeld (Run.run (stepLane dependencies) (startLane calls) schedule).1.shared
      (Run.run (stepLane dependencies) (startLane calls) schedule).1.locals := by
  refine Run.invariant_run (stepLane dependencies) (fun s => KeysHeld s.shared s.locals) ?_ _ _ ?_
  · exact fun s input h => h.move (actLane_move dependencies input.2 s.shared (s.locals input.1))
  · exact ⟨fun _ _ h => (Option.some_ne_none _ h.symm).elim,
      fun _ _ _ h => (Option.some_ne_none _ h.symm).elim⟩

omit [DecidableEq ι] in
theorem tracked_start : Tracked dependencies calls (startLane calls).shared
    (startLane calls).locals [] where
  called _ _ h := (LaneState.called.inj h).symm
  prepared _ _ h := by cases h
  flown _ _ h := by cases h
  completed _ _ h := absurd h List.not_mem_nil
  stored _ _ _ h := by cases h
  cached _ _ h := by cases h
  served _ _ _ h := by cases h

theorem tracked_run (schedule : List (ι × LaneAnswer)) :
    Tracked dependencies calls
      (Run.run (stepLane dependencies) (startLane calls) schedule).1.shared
      (Run.run (stepLane dependencies) (startLane calls) schedule).1.locals
      (Run.run (stepLane dependencies) (startLane calls) schedule).2 :=
  Run.invariant_trace (stepLane dependencies) (fun _ _ => True)
    (fun s events => Tracked dependencies calls s.shared s.locals events)
    (fun s _ input h _ => h.move (actLane_move dependencies input.2 s.shared (s.locals input.1)))
    (startLane calls) schedule [] tracked_start (Run.allSteps_true _ _ _)

theorem phase_run (schedule : List (ι × LaneAnswer))
    (hfresh : Run.AllSteps (stepLane dependencies) Fresh (startLane calls) schedule)
    {tuple : LaneTuple} (htuple : tuple.idempotencyKey ≠ []) :
    Phase tuple (Run.run (stepLane dependencies) (startLane calls) schedule).1.shared
      (Run.run (stepLane dependencies) (startLane calls) schedule).1.locals
      (Run.run (stepLane dependencies) (startLane calls) schedule).2 := by
  refine (Run.invariant_trace (stepLane dependencies) Fresh (fun s events =>
    Tracked dependencies calls s.shared s.locals events ∧ Phase tuple s.shared s.locals events)
    ?_ (startLane calls) schedule [] ⟨tracked_start, ?_⟩ hfresh).2
  · rintro s events input ⟨htracked, hphase⟩ hinput
    have hmove := actLane_move dependencies input.2 s.shared (s.locals input.1)
    exact ⟨htracked.move hmove, hphase.move htracked hmove (hinput tuple htuple)⟩
  · exact .unseen rfl (fun _ h => by cases h) fun _ _ h => absurd h List.not_mem_nil

theorem stepLane_routing {s : Threads ι ExecutionCommandLane LaneState} {mover : ι}
    {answer : LaneAnswer} (hstate : s.locals mover = .routing job)
    (hrouted : answer.routeFailure = none) :
    (stepLane dependencies s (mover, answer)).2 = .invoked job := by
  change (actLane dependencies answer s.shared (s.locals mover)).2 = _
  rw [hstate]
  simp only [actLane, hrouted]

theorem invocations_pos {tuple : LaneTuple} {events : List LaneEvent} (hmem : .invoked job ∈ events)
    (htuple : job.tuple = some tuple) :
    0 < invocations tuple events :=
  List.countP_pos_iff.mpr ⟨.invoked job, hmem, decide_eq_true htuple⟩

theorem fresh_of_invoked_once (hkeys : KeysDistinct dependencies calls)
    (schedule : List (ι × LaneAnswer))
    (h : ∀ tuple : LaneTuple, tuple.idempotencyKey ≠ [] → invocations tuple
      (Run.run (stepLane dependencies) (startLane calls) schedule).2 ≤ 1) :
    Run.AllSteps (stepLane dependencies) Fresh (startLane calls) schedule := by
  rw [Run.allSteps_iff_split]
  rintro before ⟨mover, answer⟩ after rfl tuple hkey job hstate hrouted htuple
  have htracked : Tracked dependencies calls _ _ _ := tracked_run before
  have honce := h tuple hkey
  rw [Run.run_append, Run.run_cons, stepLane_routing hstate hrouted] at honce
  dsimp only at hstate honce ⊢
  generalize Run.run (stepLane dependencies) (startLane calls) before = middle at *
  have hcount : 0 < invocations tuple middle.2 → False := by
    intro hpos
    have hlast : 0 < invocations tuple (.invoked job :: (Run.run (stepLane dependencies)
        (stepLane dependencies middle.1 (mover, answer)).1 after).2) :=
      invocations_pos List.mem_cons_self htuple
    unfold invocations at honce hpos hlast
    rw [List.countP_append] at honce
    omega
  constructor
  · cases hlookup : middle.1.shared.idempotencyCache.lookup tuple.cacheKey with
    | none => rfl
    | some result =>
      obtain ⟨other, hother, hotherKey⟩ := htracked.cached _ result hlookup
      obtain ⟨hprepared, hinvoked⟩ := htracked.completed other result hother
      have hjob := htracked.prepared mover job (by rw [hstate]; rfl)
      have hsame := hkeys other job hprepared hjob (by
        rw [hotherKey]
        unfold LaneJob.idempotencyCacheKey
        rw [htuple]
        rfl)
      exact (hcount (invocations_pos hinvoked (hsame.trans htuple))).elim
  · intro other hother
    obtain ⟨flown, hflown, hflownTuple⟩ := Option.bind_eq_some_iff.mp hother
    exact hcount (invocations_pos (htracked.flown other flown hflown) hflownTuple)

/-- Where different tuples have different cache keys, the lane keeps its promise in a run just when
every invocation of a keyed call is fresh. -/
theorem idempotent_iff (hkeys : KeysDistinct dependencies calls)
    (schedule : List (ι × LaneAnswer)) :
    Idempotent (Run.run (stepLane dependencies) (startLane calls) schedule).2
        (Run.run (stepLane dependencies) (startLane calls) schedule).1 ↔
      Run.AllSteps (stepLane dependencies) Fresh (startLane calls) schedule := by
  constructor
  · exact fun h => fresh_of_invoked_once hkeys schedule h.invoked_once
  · intro hfresh
    have htracked : Tracked dependencies calls _ _ _ := tracked_run schedule
    have hheld := @keysHeld_run _ _ dependencies calls schedule
    have hphase := @phase_run _ _ dependencies calls schedule hfresh
    generalize Run.run (stepLane dependencies) (startLane calls) schedule = last at *
    have hown : ∀ thread job result, (last.1.locals thread).served? = some (job, result) →
        ∃ other, .completed other result ∈ last.2 ∧ other.tuple = job.tuple := by
      intro thread job result hserved
      obtain ⟨other, hother, hkey⟩ := htracked.served thread job result hserved
      have hjob := htracked.prepared thread job (LaneState.job_of_served hserved)
      exact ⟨other, hother, hkeys other job (htracked.completed other result hother).1 hjob hkey⟩
    refine ⟨fun _ htuple => (hphase htuple).invocations_le_one, ?_, hown, ?_⟩
    · intro thread job result tuple hserved htuple hkey other found hfound hother
      obtain ⟨source, hsource, hsame⟩ := hown thread job result hserved
      exact (hphase hkey).same_result hfound hother hsource (hsame.trans htuple)
    · intro first second job other key hfirst hsecond hjob hother
      refine hheld.exclusive first second key ?_ ?_
      · rw [LaneState.heldKey, LaneState.holder_of_inFlight hfirst]
        exact hjob
      · rw [LaneState.heldKey, LaneState.holder_of_inFlight hsecond]
        exact hother

end

/-! ## Cache keys -/

/-- Only the key itself may hold the separator. -/
def LaneTuple.Plain (tuple : LaneTuple) : Prop :=
  (58 ∉ tuple.target.capabilityId ∧ 58 ∉ tuple.target.targetId) ∧ 58 ∉ tuple.action

theorem LaneTuple.cacheKey_eq (tuple : LaneTuple) :
    tuple.cacheKey = tuple.target.capabilityId ++ 58 :: (tuple.target.targetId ++ 58 ::
      (tuple.action ++ 58 :: tuple.idempotencyKey)) := by
  unfold cacheKey makeIdempotencyCacheKey
  simp only [show str ":" = [58] from rfl, List.append_assoc, List.cons_append,
    List.nil_append]

theorem cacheKey_injective {first second : LaneTuple} (hfirst : first.Plain)
    (hsecond : second.Plain) (h : first.cacheKey = second.cacheKey) : first = second := by
  rw [first.cacheKey_eq, second.cacheKey_eq] at h
  obtain ⟨hcapability, htarget⟩ := Separated.piece_unique 58 hfirst.1.1 hsecond.1.1 h
  obtain ⟨htarget, haction⟩ := Separated.piece_unique 58 hfirst.1.2 hsecond.1.2 htarget
  obtain ⟨haction, hkey⟩ := Separated.piece_unique 58 hfirst.2 hsecond.2 haction
  obtain ⟨⟨capabilityId, targetId⟩, action, idempotencyKey⟩ := first
  obtain ⟨⟨capabilityId', targetId'⟩, action', idempotencyKey'⟩ := second
  simp only at hcapability htarget haction hkey
  rw [hcapability, htarget, haction, hkey]

theorem keysDistinct_of_plain {ι : Type} {dependencies : ExecutionCommandLaneDependencies}
    {calls : ι → LaneCall} (h : ∀ job tuple, Prepared dependencies calls job →
      job.tuple = some tuple → tuple.Plain) : KeysDistinct dependencies calls := by
  intro job other hjob hother hkey
  unfold LaneJob.idempotencyCacheKey at hkey
  cases htuple : job.tuple with
  | none =>
    rw [htuple, Option.map_none] at hkey
    exact (Option.map_eq_none_iff.mp hkey.symm).symm
  | some tuple =>
    rw [htuple, Option.map_some] at hkey
    obtain ⟨tuple', htuple', hsame⟩ := Option.map_eq_some_iff.mp hkey.symm
    rw [htuple', cacheKey_injective (h other tuple' hother htuple') (h job tuple hjob htuple) hsame]

/-! ## Two calls with one key -/

def toggleDependencies : ExecutionCommandLaneDependencies where
  criticalActions := [str "toggle"]

def toggleCall : LaneCall :=
  .execute { requestId := str "request" }
    { context := { requestId := str "request" }
      target := { capabilityId := str "cap.exec", targetId := str "switch" }
      action := str "toggle"
      argumentsJson := str "\x7b\x7d"
      idempotencyKey := some (str "idem-1") }

def acknowledged : LaneAnswer where
  receipt :=
    { receiptRef := str "receipt"
      targetId := str "switch"
      transportOutcome := .acknowledged
      providerStatusCode := str "ok"
      payloadJson := str "\x7b\x7d" }

/-- One call after the other. -/
def inTurn : List (Bool × LaneAnswer) :=
  (List.replicate 7 false ++ List.replicate 2 true).map fun thread => (thread, acknowledged)

/-- Both calls miss the cache before the first goes to the adapter. -/
def bothMiss : List (Bool × LaneAnswer) :=
  ([false, false, true, true] ++ List.replicate 5 false ++ List.replicate 2 true).map
    fun thread => (thread, acknowledged)

def toggleTuple : LaneTuple where
  target := { capabilityId := str "cap.exec", targetId := str "switch" }
  action := str "toggle"
  idempotencyKey := str "idem-1"

theorem toggle_keysDistinct :
    KeysDistinct toggleDependencies (fun _ : Bool => toggleCall) := by
  refine keysDistinct_of_plain ?_
  rintro job tuple ⟨thread, hprepare⟩ htuple
  change toggleCall.prepare toggleDependencies = .ok job at hprepare
  have htoggle : (toggleCall.prepare toggleDependencies).toOption.bind LaneJob.tuple =
      some toggleTuple := by decide +kernel
  rw [hprepare] at htoggle
  obtain rfl := Option.some.inj (htuple.symm.trans htoggle)
  unfold LaneTuple.Plain
  decide +kernel

theorem invoked_twice :
    ¬ ∀ (dependencies : ExecutionCommandLaneDependencies) (calls : Bool → LaneCall)
      (schedule : List (Bool × LaneAnswer)),
      Idempotent (Run.run (stepLane dependencies) (startLane calls) schedule).2
        (Run.run (stepLane dependencies) (startLane calls) schedule).1 := by
  intro h
  have honce := (h toggleDependencies (fun _ => toggleCall) bothMiss).invoked_once toggleTuple
    (by decide)
  exact absurd honce (by decide +kernel)

def LaneEvent.isInvocation : LaneEvent → Bool
  | .invoked _ => true
  | .quiet | .completed _ _ => false

/-- The second call gets the result of the first. -/
theorem inTurn_idempotent :
    Idempotent
      (Run.run (stepLane toggleDependencies) (startLane fun _ : Bool => toggleCall) inTurn).2
      (Run.run (stepLane toggleDependencies) (startLane fun _ : Bool => toggleCall) inTurn).1 := by
  refine (idempotent_iff toggle_keysDistinct inTurn).mpr
    (fresh_of_invoked_once toggle_keysDistinct inTurn fun tuple _ => ?_)
  have hfew : (Run.run (stepLane toggleDependencies) (startLane fun _ : Bool => toggleCall)
      inTurn).2.countP LaneEvent.isInvocation ≤ 1 := by decide +kernel
  refine Nat.le_trans (List.countP_mono_left fun event _ hevent => ?_) hfew
  cases event with
  | invoked job => rfl
  | quiet | completed job result => cases hevent

end Dasall.Services
