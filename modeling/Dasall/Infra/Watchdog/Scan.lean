import Dasall.Infra.Watchdog.Service
import Dasall.Lib.Run

/-!
# What a scan finds

The calls and their answers tell which entities are watched and which samples were accepted since.
The service is held to that account over every run.
-/

open Dasall.Lib Dasall.Lib.Run Dasall.Lib.Text

namespace Dasall.Infra.Watchdog

open DeadlineWheel

inductive WatchdogCall
  | init (config : WatchdogServiceConfig)
  | start
  | stop (timeoutMs : UInt32)
  | registerEntity (descriptor : WatchedEntityDescriptor)
  | unregisterEntity (entityId : Bytes)
  | heartbeat (sample : HeartbeatSample)
  | tickCollectDue (nowTs : Int64)
deriving DecidableEq

inductive WatchdogAnswer
  | done
  | failed (failure : WatchdogFailure)
  | scanned (result : DeadlineScanResult)
deriving DecidableEq

/-- The facade, and a wheel that is bound to its registry and its ingestor. -/
structure WatchdogSystem where
  facade : WatchdogServiceFacade := {}
  wheel : DeadlineWheel := {}

open WatchdogSystem

def WatchdogSystem.settle (watchdog : WatchdogSystem) :
    Except WatchdogFailure WatchdogServiceFacade → WatchdogSystem × WatchdogAnswer
  | .error failure => (watchdog, .failed failure)
  | .ok facade => ({ watchdog with facade }, .done)

def WatchdogSystem.call (watchdog : WatchdogSystem) : WatchdogCall → WatchdogSystem × WatchdogAnswer
  | .init config => watchdog.settle (watchdog.facade.init config)
  | .start => watchdog.settle watchdog.facade.start
  | .stop timeoutMs => watchdog.settle (watchdog.facade.stop timeoutMs)
  | .registerEntity descriptor => watchdog.settle (watchdog.facade.registerEntity descriptor)
  | .unregisterEntity entityId => watchdog.settle (watchdog.facade.unregisterEntity entityId)
  | .heartbeat sample => watchdog.settle (watchdog.facade.heartbeat sample)
  | .tickCollectDue nowTs =>
    let (result, wheel) :=
      watchdog.wheel.tickCollectDue watchdog.facade.registry watchdog.facade.ingestor nowTs
    ({ watchdog with wheel }, .scanned result)

/-! ## The account of the calls -/

/-- An entity since its registration, with the samples accepted since, the latest first. -/
structure Watched where
  descriptor : WatchedEntityDescriptor
  since : Int64
  accepted : List HeartbeatSample

abbrev Watch := Bytes → Option Watched

def Watched.accept (sample : HeartbeatSample) (watched : Watched) : Watched :=
  { watched with accepted := sample :: watched.accepted }

/-- What a call at a time, and its answer, say of the entities. -/
def observe (watch : Watch) (time : Int64) : WatchdogCall → WatchdogAnswer → Watch
  | .init _, .done => fun _ => none
  | .registerEntity descriptor, .done =>
    Function.update watch descriptor.entityId (some { descriptor, since := time, accepted := [] })
  | .unregisterEntity entityId, .done => Function.update watch entityId none
  | .heartbeat sample, .done =>
    Function.update watch sample.entityId ((watch sample.entityId).map (·.accept sample))
  | _, _ => watch

/-- The service, with the account beside it. -/
def watchedStep (s : WatchdogSystem × Watch) (call : Int64 × WatchdogCall) :
    (WatchdogSystem × Watch) × WatchdogAnswer :=
  (((s.1.call call.2).1, observe s.2 call.1 call.2 (s.1.call call.2).2), (s.1.call call.2).2)

def newWatchdog (config : WatchdogServiceConfig) (bound : Bool) : WatchdogSystem × Watch :=
  ({ wheel := { config, bound } }, fun _ => none)

/-! ## The account and the maps -/

/-- What the calls tell of one entity. -/
structure Accounted (entityId : Bytes) (watched : Watched) : Prop where
  named : watched.descriptor.entityId = entityId
  nonempty : entityId ≠ []
  samples : ∀ sample ∈ watched.accepted, sample.entityId = entityId
  increasing : watched.accepted.Pairwise fun newer older => newer.isStaleAgainst older = false

/-- The maps hold what the account tells. -/
structure Joined (s : WatchdogSystem × Watch) : Prop where
  registry : ∀ id, s.1.facade.registry.entries.lookup id = (s.2 id).map (·.descriptor)
  samples : ∀ id, s.1.facade.ingestor.latestSamples.lookup id = (s.2 id).bind (·.accepted.head?)
  accounted : ∀ id watched, s.2 id = some watched → Accounted id watched

variable (facade : WatchdogServiceFacade) {s : WatchdogSystem × Watch}
  (registry : HeartbeatRegistry) (config : WatchdogServiceConfig) (bound : Bool)
  (sample : HeartbeatSample) (next : WatchdogServiceFacade) (descriptor : WatchedEntityDescriptor)

theorem joined_new :
    Joined (newWatchdog config bound) where
  registry _ := rfl
  samples _ := rfl
  accounted id watched h := by
    unfold newWatchdog at h
    simp at h

/-! ## Stale samples -/

theorem isOlderThan_iff (other : HeartbeatSample) : sample.isOlderThan other = true ↔
    sample.seqNo.toNat < other.seqNo.toNat ∨ sample.seqNo.toNat = other.seqNo.toNat ∧
      (sample.heartbeatTs.toInt < other.heartbeatTs.toInt ∨
        sample.heartbeatTs.toInt = other.heartbeatTs.toInt ∧
          sample.deadlineTs.toInt < other.deadlineTs.toInt) := by
  unfold HeartbeatSample.isOlderThan
  split
  · next hseq =>
    rw [ne_eq, ← UInt64.toNat_inj] at hseq
    rw [decide_eq_true_eq, UInt64.lt_iff_toNat_lt]
    omega
  next hseq =>
  rw [not_not, ← UInt64.toNat_inj] at hseq
  split
  · next hbeat =>
    rw [ne_eq, ← Int64.toInt_inj] at hbeat
    rw [decide_eq_true_eq, Int64.lt_iff_toInt_lt]
    omega
  · next hbeat =>
    rw [not_not, ← Int64.toInt_inj] at hbeat
    rw [decide_eq_true_eq, Int64.lt_iff_toInt_lt]
    omega

theorem isStaleAgainst_false_iff (other : HeartbeatSample)
    (hid : sample.entityId = other.entityId) :
    sample.isStaleAgainst other = false ↔ other.isOlderThan sample = true := by
  have holder := isOlderThan_iff sample other
  rw [← Bool.not_eq_true, isOlderThan_iff]
  unfold HeartbeatSample.isStaleAgainst
  simp only [hid, decide_true, Bool.true_and, Bool.or_eq_true, Bool.and_eq_true, decide_eq_true_eq,
    holder, ← UInt64.toNat_inj, ← Int64.toInt_inj]
  omega

theorem isStaleAgainst_trans (newest newer older : HeartbeatSample)
    (hnewer : newest.entityId = newer.entityId) (holder : newer.entityId = older.entityId)
    (hfirst : newest.isStaleAgainst newer = false)
    (hsecond : newer.isStaleAgainst older = false) : newest.isStaleAgainst older = false := by
  rw [isStaleAgainst_false_iff _ _ hnewer, isOlderThan_iff] at hfirst
  rw [isStaleAgainst_false_iff _ _ holder, isOlderThan_iff] at hsecond
  rw [isStaleAgainst_false_iff _ _ (hnewer.trans holder), isOlderThan_iff]
  omega

theorem Accounted.accept {entityId : Bytes} {watched : Watched} (h : Accounted entityId watched)
    (sample : HeartbeatSample) (hid : sample.entityId = entityId)
    (hfresh : watched.accepted.head?.any sample.isStaleAgainst = false) :
    Accounted entityId (watched.accept sample) where
  named := h.named
  nonempty := h.nonempty
  samples := by
    unfold Watched.accept
    exact List.forall_mem_cons.mpr ⟨hid, h.samples⟩
  increasing := by
    unfold Watched.accept
    have hincreasing := h.increasing
    have hsamples := h.samples
    rcases haccepted : watched.accepted with _ | ⟨latest, older⟩
    · exact List.pairwise_singleton _ _
    rw [haccepted] at hfresh hincreasing hsamples
    rw [List.head?_cons, Option.any_some] at hfresh
    rw [List.pairwise_cons] at hincreasing
    have hlatest := hsamples latest List.mem_cons_self
    refine List.pairwise_cons.mpr ⟨?_, List.pairwise_cons.mpr hincreasing⟩
    refine List.forall_mem_cons.mpr ⟨hfresh, fun old hold => ?_⟩
    have holdId := hsamples old (List.mem_cons_of_mem _ hold)
    exact isStaleAgainst_trans sample latest old (hid.trans hlatest.symm)
      (hlatest.trans holdId.symm) hfresh (hincreasing.1 old hold)

/-! ## What one call does -/

theorem registerEntity_ok (h : facade.registerEntity descriptor = .ok next) :
    next.registry.entries = facade.registry.entries.insert descriptor.entityId descriptor ∧
      next.ingestor = facade.ingestor ∧ descriptor.entityId ≠ [] ∧
      facade.registry.entries.lookup descriptor.entityId = none := by
  unfold WatchdogServiceFacade.registerEntity at h
  split at h
  · simp at h
  split at h
  · simp at h
  next hfields =>
  unfold HeartbeatRegistry.registerEntity at h
  split at h
  · simp at h
  next registry hregistry =>
  rw [Except.ok.injEq] at h
  split at hregistry
  · simp at hregistry
  split at hregistry
  · simp at hregistry
  split at hregistry
  · simp at hregistry
  next hnew =>
  rw [Except.ok.injEq] at hregistry
  rw [← h, ← hregistry]
  refine ⟨rfl, rfl, ?_, by simpa using hnew⟩
  unfold WatchedEntityDescriptor.hasRequiredFields at hfields
  intro hempty
  simp [hempty] at hfields

theorem unregisterEntity_ok (entityId : Bytes)
    (h : facade.unregisterEntity entityId = .ok next) :
    next.registry.entries = facade.registry.entries.erase entityId ∧
      next.ingestor.latestSamples = facade.ingestor.latestSamples.erase entityId := by
  unfold WatchdogServiceFacade.unregisterEntity at h
  split at h
  · simp at h
  split at h
  · simp at h
  next hid =>
  split at h
  · simp at h
  next registry hregistry =>
  rw [Except.ok.injEq] at h
  unfold HeartbeatRegistry.unregisterEntity at hregistry
  dsimp only at hregistry
  rw [if_neg hid] at hregistry
  split at hregistry
  · simp at hregistry
  rw [Except.ok.injEq] at hregistry
  rw [← h, ← hregistry]
  refine ⟨rfl, ?_⟩
  unfold HeartbeatIngestor.forgetEntity
  dsimp only
  rw [if_neg hid]

theorem heartbeat_ok (sample : HeartbeatSample)
    (h : facade.heartbeat sample = .ok next) :
    next.registry = facade.registry ∧
      next.ingestor.latestSamples =
        facade.ingestor.latestSamples.insert sample.entityId sample ∧
      (facade.registry.entries.lookup sample.entityId).isSome = true ∧
      (facade.ingestor.latestSamples.lookup sample.entityId).any sample.isStaleAgainst = false := by
  unfold WatchdogServiceFacade.heartbeat at h
  split at h
  · simp at h
  split at h
  · simp at h
  split at h
  · simp at h
  next ingestor hingest =>
  rw [Except.ok.injEq] at h
  unfold HeartbeatIngestor.ingest at hingest
  dsimp only at hingest
  split at hingest
  · simp at hingest
  split at hingest
  · simp at hingest
  next registry hbound =>
  have hregistry : registry = facade.registry := by
    split at hbound
    · rw [Option.some.injEq] at hbound
      exact hbound.symm
    · simp at hbound
  split at hingest
  · simp at hingest
  next hquery =>
  split at hingest
  · simp at hingest
  next hfresh =>
  split at hingest
  · simp at hingest
  rw [Except.ok.injEq] at hingest
  rw [← h, ← hingest]
  refine ⟨rfl, rfl, ?_, by simpa using hfresh⟩
  unfold HeartbeatRegistry.queryEntity at hquery
  rw [hregistry] at hquery
  dsimp only at hquery
  split at hquery
  · simp at hquery
  split at hquery
  · simp at hquery
  · next hfound =>
    rw [hfound]
    rfl

theorem init_ok (config : WatchdogServiceConfig)
    (h : facade.init config = .ok next) :
    next.registry.entries = ∅ ∧ next.ingestor.latestSamples = ∅ := by
  unfold WatchdogServiceFacade.init at h
  split at h
  · simp at h
  split at h
  · simp at h
  rw [Except.ok.injEq] at h
  rw [← h]
  exact ⟨rfl, rfl⟩

theorem start_ok (h : facade.start = .ok next) :
    next.registry = facade.registry ∧ next.ingestor = facade.ingestor := by
  unfold WatchdogServiceFacade.start at h
  split at h
  · simp at h
  rw [Except.ok.injEq] at h
  rw [← h]
  exact ⟨rfl, rfl⟩

theorem stop_ok (timeoutMs : UInt32)
    (h : facade.stop timeoutMs = .ok next) :
    next.registry = facade.registry ∧ next.ingestor = facade.ingestor := by
  unfold WatchdogServiceFacade.stop at h
  split at h
  · simp at h
  split at h
  · simp at h
  rw [Except.ok.injEq] at h
  rw [← h]
  exact ⟨rfl, rfl⟩

theorem Joined.same (h : Joined s) (next : WatchdogSystem)
    (hregistry : next.facade.registry = s.1.facade.registry)
    (hingestor : next.facade.ingestor = s.1.facade.ingestor) : Joined (next, s.2) where
  registry id := by rw [hregistry]; exact h.registry id
  samples id := by rw [hingestor]; exact h.samples id
  accounted := h.accounted

/-- The facade changed one entity alone. -/
theorem Joined.update (h : Joined s) {entityId : Bytes} {watched : Option Watched}
    {next : WatchdogServiceFacade}
    (hentry : next.registry.entries.lookup entityId = watched.map (·.descriptor))
    (hentries : ∀ id ≠ entityId,
      next.registry.entries.lookup id = s.1.facade.registry.entries.lookup id)
    (hsample : next.ingestor.latestSamples.lookup entityId = watched.bind (·.accepted.head?))
    (hsamples : ∀ id ≠ entityId,
      next.ingestor.latestSamples.lookup id = s.1.facade.ingestor.latestSamples.lookup id)
    (haccounted : ∀ found, watched = some found → Accounted entityId found) :
    Joined ({ s.1 with facade := next }, Function.update s.2 entityId watched) := by
  constructor <;> intro id <;> dsimp only <;> rcases Classical.em (id = entityId) with rfl | hid
  · rw [Function.update_self, hentry]
  · rw [Function.update_of_ne hid, hentries id hid, h.registry]
  · rw [Function.update_self, hsample]
  · rw [Function.update_of_ne hid, hsamples id hid, h.samples]
  · rw [Function.update_self]
    exact haccounted
  · rw [Function.update_of_ne hid]
    exact h.accounted id

theorem Joined.register (h : Joined s) (time : Int64)
    (descriptor : WatchedEntityDescriptor) (next : WatchdogServiceFacade)
    (hok : s.1.facade.registerEntity descriptor = .ok next) :
    Joined ({ s.1 with facade := next },
      Function.update s.2 descriptor.entityId
        (some { descriptor, since := time, accepted := [] })) := by
  obtain ⟨hentries, hingestor, hnonempty, hnew⟩ := registerEntity_ok _ _ _ hok
  rw [h.registry, Option.map_eq_none_iff] at hnew
  apply h.update
  · rw [hentries, AList.lookup_insert]
    rfl
  · intro id hid
    rw [hentries, AList.lookup_insert_ne hid]
  · rw [hingestor, h.samples, hnew]
    rfl
  · intro id _
    rw [hingestor]
  · rintro _ ⟨⟩
    exact ⟨rfl, hnonempty, by simp, List.Pairwise.nil⟩

theorem Joined.unregister (h : Joined s) (entityId : Bytes)
    (next : WatchdogServiceFacade) (hok : s.1.facade.unregisterEntity entityId = .ok next) :
    Joined ({ s.1 with facade := next }, Function.update s.2 entityId none) := by
  obtain ⟨hentries, hsamples⟩ := unregisterEntity_ok _ _ _ hok
  apply h.update
  · rw [hentries, AList.lookup_erase]
    rfl
  · intro id hid
    rw [hentries, AList.lookup_erase_ne hid]
  · rw [hsamples, AList.lookup_erase]
    rfl
  · intro id hid
    rw [hsamples, AList.lookup_erase_ne hid]
  · simp

theorem Joined.beat (h : Joined s) (sample : HeartbeatSample)
    (next : WatchdogServiceFacade) (hok : s.1.facade.heartbeat sample = .ok next) :
    Joined ({ s.1 with facade := next },
      Function.update s.2 sample.entityId ((s.2 sample.entityId).map (·.accept sample))) := by
  obtain ⟨hregistry, hsamples, hknown, hfresh⟩ := heartbeat_ok _ _ _ hok
  rw [h.registry, Option.isSome_map, Option.isSome_iff_exists] at hknown
  obtain ⟨watched, hwatched⟩ := hknown
  rw [h.samples, hwatched, Option.bind_some] at hfresh
  apply h.update
  · rw [hregistry, h.registry, hwatched]
    rfl
  · intro id _
    rw [hregistry]
  · rw [hsamples, AList.lookup_insert, hwatched]
    rfl
  · intro id hid
    rw [hsamples, AList.lookup_insert_ne hid]
  · rw [hwatched]
    rintro _ ⟨⟩
    exact (h.accounted _ watched hwatched).accept sample rfl hfresh

theorem joined_step (s : WatchdogSystem × Watch) (call : Int64 × WatchdogCall) (h : Joined s) :
    Joined (watchedStep s call).1 := by
  obtain ⟨time, call⟩ := call
  unfold watchedStep
  rcases call with config | _ | timeoutMs | descriptor | entityId | sample | nowTs
  · simp only [call]
    rcases hinit : s.1.facade.init config with failure | next
    · exact h
    · obtain ⟨hentries, hsamples⟩ := init_ok _ _ _ hinit
      refine ⟨fun id => ?_, fun id => ?_, fun id watched hwatched => ?_⟩
      · simp [settle, observe, hentries]
      · simp [settle, observe, hsamples]
      · simp [settle, observe] at hwatched
  · simp only [call]
    rcases hstart : s.1.facade.start with failure | next
    · exact h
    · obtain ⟨hregistry, hingestor⟩ := start_ok _ _ hstart
      exact h.same _ hregistry hingestor
  · simp only [call]
    rcases hstop : s.1.facade.stop timeoutMs with failure | next
    · exact h
    · obtain ⟨hregistry, hingestor⟩ := stop_ok _ _ _ hstop
      exact h.same _ hregistry hingestor
  · simp only [call]
    rcases hregister : s.1.facade.registerEntity descriptor with failure | next
    · exact h
    · exact h.register time descriptor next hregister
  · simp only [call]
    rcases hunregister : s.1.facade.unregisterEntity entityId with failure | next
    · exact h
    · exact h.unregister entityId next hunregister
  · simp only [call]
    rcases hbeat : s.1.facade.heartbeat sample with failure | next
    · exact h
    · exact h.beat sample next hbeat
  · exact h.same _ rfl rfl

theorem joined_run (calls : List (Int64 × WatchdogCall)) :
    Joined (run watchedStep (newWatchdog config bound) calls).1 :=
  invariant_run watchedStep Joined joined_step _ calls (joined_new config bound)

/-! ## The scan -/

theorem mem_listEntities :
    descriptor ∈ registry.listEntities ↔
      ∃ id, registry.entries.lookup id = some descriptor := by
  unfold HeartbeatRegistry.listEntities
  simp only [List.mem_map, List.mem_insertionSort]
  constructor
  · rintro ⟨⟨id, found⟩, hmem, rfl⟩
    exact ⟨id, (Table.lookup_eq_some_iff ..).mpr hmem⟩
  · rintro ⟨id, hlookup⟩
    exact ⟨⟨id, descriptor⟩, (Table.lookup_eq_some_iff ..).mp hlookup, rfl⟩

theorem nodup_listEntities (hnamed : ∀ id descriptor, registry.entries.lookup id = some descriptor →
      descriptor.entityId = id) : (registry.listEntities.map (·.entityId)).Nodup := by
  unfold HeartbeatRegistry.listEntities
  have hkeys : (registry.entries.entries.map Sigma.fst).Nodup := registry.entries.nodupKeys
  rw [List.map_map, ((List.perm_insertionSort _ _).map _).nodup_iff]
  rw [List.map_congr_left (g := Sigma.fst)]
  · exact hkeys
  · rintro ⟨id, descriptor⟩ hmem
    exact hnamed id descriptor ((Table.lookup_eq_some_iff ..).mpr hmem)

theorem tickCollectDue_ok (wheel : DeadlineWheel) (registry : HeartbeatRegistry)
    (ingestor : HeartbeatIngestor) (nowTs : Int64)
    (hok : (wheel.tickCollectDue registry ingestor nowTs).1.ok = true) :
    (wheel.tickCollectDue registry ingestor nowTs).1.dueCandidates =
      registry.listEntities.filterMap (collectDue ingestor nowTs) := by
  unfold tickCollectDue at hok ⊢
  split at hok
  · simp [invalidRequest] at hok
  rw [if_neg ‹_›]
  split at hok
  · simp [invalidRequest] at hok
  rw [if_neg ‹_›]
  split at hok
  · simp [invalidRequest] at hok
  rw [if_neg ‹_›]
  split at hok
  · simp [scanOverdue] at hok
  rw [if_neg ‹_›]
  split at hok
  · simp [scanOverdue] at hok
  rw [if_neg ‹_›]

theorem collectDue_eq_some (ingestor : HeartbeatIngestor) (nowTs : Int64)
    (descriptor : WatchedEntityDescriptor) (hnonempty : descriptor.entityId ≠ [])
    (candidate : DeadlineCandidate) :
    collectDue ingestor nowTs descriptor = some candidate ↔
      candidate.descriptor = descriptor ∧
        ingestor.latestSamples.lookup descriptor.entityId = some candidate.latestSample ∧
        candidate.latestSample.deadlineTs ≤ nowTs ∧
        candidate.overdueByMs = nowTs - candidate.latestSample.deadlineTs := by
  obtain ⟨found, sample, overdueByMs⟩ := candidate
  unfold collectDue HeartbeatIngestor.latestSample
  rw [if_neg hnonempty]
  rcases hlookup : ingestor.latestSamples.lookup descriptor.entityId with _ | latest
  · simp
  dsimp only
  split
  · next hearly =>
    simp only [Option.some.injEq, false_iff, reduceCtorEq]
    rintro ⟨-, rfl, hdue, -⟩
    exact Int64.not_le.mpr hearly hdue
  · next hdue =>
    rw [Int64.not_lt] at hdue
    simp only [Option.some.injEq, DeadlineCandidate.mk.injEq]
    constructor
    · rintro ⟨rfl, rfl, rfl⟩
      exact ⟨rfl, rfl, hdue, rfl⟩
    · rintro ⟨rfl, rfl, -, rfl⟩
      exact ⟨rfl, rfl, rfl⟩

/-- A candidate is a watched entity whose latest sample is due, with the sample. -/
def Due (watch : Watch) (nowTs : Int64) (candidate : DeadlineCandidate) : Prop :=
  ∃ id watched, watch id = some watched ∧ candidate.descriptor = watched.descriptor ∧
    watched.accepted.head? = some candidate.latestSample ∧
    candidate.latestSample.deadlineTs ≤ nowTs ∧
    candidate.overdueByMs = nowTs - candidate.latestSample.deadlineTs

theorem Joined.due (h : Joined s) (nowTs : Int64)
    (candidate : DeadlineCandidate) :
    candidate ∈ s.1.facade.registry.listEntities.filterMap
        (collectDue s.1.facade.ingestor nowTs) ↔ Due s.2 nowTs candidate := by
  -- what one watched entity contributes
  have hone (id : Bytes) (watched : Watched) (hwatched : s.2 id = some watched) :
      collectDue s.1.facade.ingestor nowTs watched.descriptor = some candidate ↔
        candidate.descriptor = watched.descriptor ∧
          watched.accepted.head? = some candidate.latestSample ∧
          candidate.latestSample.deadlineTs ≤ nowTs ∧
          candidate.overdueByMs = nowTs - candidate.latestSample.deadlineTs := by
    have hentity := h.accounted id watched hwatched
    rw [collectDue_eq_some _ _ _ (by rw [hentity.named]; exact hentity.nonempty), hentity.named,
      h.samples, hwatched, Option.bind_some]
  rw [List.mem_filterMap]
  constructor
  · rintro ⟨descriptor, hmem, hcollect⟩
    obtain ⟨id, hlookup⟩ := (mem_listEntities _ _).mp hmem
    rw [h.registry, Option.map_eq_some_iff] at hlookup
    obtain ⟨watched, hwatched, hdescriptor⟩ := hlookup
    rw [← hdescriptor, hone id watched hwatched] at hcollect
    exact ⟨id, watched, hwatched, hcollect⟩
  · rintro ⟨id, watched, hwatched, hcandidate⟩
    refine ⟨watched.descriptor, (mem_listEntities _ _).mpr ⟨id, ?_⟩, ?_⟩
    · rw [h.registry, hwatched, Option.map_some]
    · exact (hone id watched hwatched).mpr hcandidate

theorem Joined.due_nodup (h : Joined s) (nowTs : Int64) :
    ((s.1.facade.registry.listEntities.filterMap
      (collectDue s.1.facade.ingestor nowTs)).map (·.descriptor.entityId)).Nodup := by
  have hnodup := nodup_listEntities s.1.facade.registry fun id descriptor hlookup => by
    rw [h.registry, Option.map_eq_some_iff] at hlookup
    obtain ⟨watched, hwatched, hdescriptor⟩ := hlookup
    rw [← hdescriptor]
    exact (h.accounted id watched hwatched).named
  refine hnodup.sublist ?_
  generalize s.1.facade.registry.listEntities = entities
  induction entities with
  | nil => exact List.Sublist.refl _
  | cons descriptor rest ih =>
    rw [List.filterMap_cons]
    split
    · exact ih.trans (List.sublist_cons_self _ _)
    · next candidate hcollect =>
      have hsame : candidate.descriptor = descriptor := by
        unfold collectDue at hcollect
        split at hcollect
        · simp at hcollect
        split at hcollect
        · simp at hcollect
        · rw [Option.some.injEq] at hcollect
          rw [← hcollect]
      rw [List.map_cons, List.map_cons, hsame]
      exact ih.cons_cons _

/-- Over every run: samples are tracked of watched entities only, the stored sample is the newest of
those accepted since the registration, and a scan finds exactly the entities whose stored sample is
due. -/
theorem scan_exact (config : WatchdogServiceConfig) (bound : Bool)
    (calls : List (Int64 × WatchdogCall)) :
    (∀ id, ((run watchedStep (newWatchdog config bound) calls).1.1.facade.ingestor.latestSamples.lookup
        id).isSome = true →
      ((run watchedStep (newWatchdog config bound) calls).1.1.facade.registry.entries.lookup
        id).isSome = true) ∧
    (∀ id watched, (run watchedStep (newWatchdog config bound) calls).1.2 id = some watched →
      (run watchedStep (newWatchdog config bound) calls).1.1.facade.ingestor.latestSamples.lookup id =
          watched.accepted.head? ∧
        watched.accepted.Pairwise fun newer older => newer.isStaleAgainst older = false) ∧
    ∀ time nowTs result,
      (watchedStep (run watchedStep (newWatchdog config bound) calls).1
        (time, .tickCollectDue nowTs)).2 = .scanned result → result.ok = true →
      (∀ candidate, candidate ∈ result.dueCandidates ↔
        Due (run watchedStep (newWatchdog config bound) calls).1.2 nowTs candidate) ∧
      (result.dueCandidates.map (·.descriptor.entityId)).Nodup := by
  have hjoined := joined_run config bound calls
  generalize (run watchedStep (newWatchdog config bound) calls).1 = s at hjoined ⊢
  refine ⟨fun id htracked => ?_, fun id watched hwatched => ?_, fun time nowTs result hresult hok => ?_⟩
  · rw [hjoined.samples] at htracked
    rw [hjoined.registry, Option.isSome_map]
    rcases hwatched : s.2 id with _ | watched
    · simp [hwatched] at htracked
    · rfl
  · rw [hjoined.samples, hwatched]
    exact ⟨rfl, (hjoined.accounted id watched hwatched).increasing⟩
  · simp only [watchedStep, WatchdogSystem.call, WatchdogAnswer.scanned.injEq] at hresult
    rw [← hresult] at hok ⊢
    rw [tickCollectDue_ok _ _ _ _ hok]
    exact ⟨hjoined.due nowTs, hjoined.due_nodup nowTs⟩

/-! ## Entities that never beat -/

/-- The times of the calls do not decrease, and a scan is told the time at which it is made. -/
def Timely (calls : List (Int64 × WatchdogCall)) : Prop :=
  calls.Pairwise (fun first second => first.1 ≤ second.1) ∧
    ∀ call ∈ calls, ∀ nowTs, call.2 = .tickCollectDue nowTs → call.1 = nowTs

/-- The entity's last deadline is reached, or it has been without a heartbeat for longer than its
timeout. -/
def Overdue (nowTs : Int64) (watched : Watched) : Prop :=
  match watched.accepted.head? with
  | some sample => sample.deadlineTs ≤ nowTs
  | none => watched.descriptor.timeoutMs.toUInt64.toInt64 < nowTs - watched.since

def silentEntity : WatchedEntityDescriptor where
  entityId := str "runtime.main_loop"
  entityType := str "thread"
  ownerModule := str "runtime"
  criticality := .critical
  timeoutMs := 1500
  graceMs := 250

/-- The entity is registered at 1000 and never beats; the scans keep to the interval. -/
def silentRun : List (Int64 × WatchdogCall) :=
  [(1000, .init {}), (1000, .start), (1000, .registerEntity silentEntity),
    (1500, .tickCollectDue 1500)]

theorem silent_never_due :
    ¬ ∀ (config : WatchdogServiceConfig) (bound : Bool) (calls : List (Int64 × WatchdogCall))
      (nowTs : Int64) (result : DeadlineScanResult),
      Timely (calls ++ [(nowTs, .tickCollectDue nowTs)]) →
      (watchedStep (run watchedStep (newWatchdog config bound) calls).1
        (nowTs, .tickCollectDue nowTs)).2 = .scanned result → result.ok = true →
      ∀ id watched, (run watchedStep (newWatchdog config bound) calls).1.2 id = some watched →
        (watched.descriptor ∈ result.dueCandidates.map (·.descriptor) ↔ Overdue nowTs watched) := by
  intro hclaim
  have htimely : Timely (silentRun ++ [(3000, .tickCollectDue 3000)]) := by
    refine ⟨by decide, ?_⟩
    unfold silentRun
    simp
  have hsilent := hclaim {} true silentRun 3000
    { ok := true, scanTs := 3000, scanLagMs := 1000 } htimely (by decide +kernel) rfl
    (str "runtime.main_loop") { descriptor := silentEntity, since := 1000, accepted := [] } rfl
  have hoverdue : Overdue 3000 { descriptor := silentEntity, since := 1000, accepted := [] } := by
    change silentEntity.timeoutMs.toUInt64.toInt64 < (3000 : Int64) - 1000
    decide
  have hfound := hsilent.mpr hoverdue
  simp at hfound

end Dasall.Infra.Watchdog
