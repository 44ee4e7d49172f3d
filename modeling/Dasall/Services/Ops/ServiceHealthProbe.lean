import Dasall.Infra.Ota.BootConfirmationMonitor
import Dasall.Services.Adapters.AdapterRouter

/-!
# The health probe of the services

A probe takes a sample of the signals, answers with a status and keeps the snapshot it took. A probe
that fails is dated by the clock. Without an injected clock the clock function calls itself.
-/

open Dasall.Lib Dasall.Lib.Text
open Dasall.Infra.Ota (HealthSnapshot hasUniqueNonEmptyValues)
open Dasall.Infra.Policy (ResultCode)
open Dasall.Services.Adapters (AdapterAvailabilityState)

namespace Dasall.Services.Ops

/-- The source's `open` is a keyword here. -/
inductive ServiceCircuitState
  | closed
  | opened
  | halfOpen
  | unknown
deriving DecidableEq

structure ServiceQueueSnapshot where
  depth : UInt32 := 0
  highWatermark : UInt32 := 1
  overflowTotal : UInt64 := 0
  resyncRequired : Bool := false

def ServiceQueueSnapshot.hasConsistentValues (queue : ServiceQueueSnapshot) : Bool :=
  0 < queue.highWatermark

def ServiceQueueSnapshot.blocksReadiness (queue : ServiceQueueSnapshot) : Bool :=
  queue.highWatermark ≤ queue.depth || 0 < queue.overflowTotal || queue.resyncRequired

def serviceHealthDetailNamespace : Bytes := str "status://services/health"

structure ServiceHealthSample where
  circuitState : ServiceCircuitState := .closed
  adapterReadiness : AdapterAvailabilityState := .available
  commandQueue : ServiceQueueSnapshot := {}
  subscriptionQueue : ServiceQueueSnapshot := {}
  systemSnapshotReady : Bool := true
  systemSnapshotDegraded : Bool := false
  auditBridgeDegraded : Bool := false
  metricsBridgeDegraded : Bool := false
  traceBridgeDegraded : Bool := false
  latencyMs : Int64 := 0
  sampledAtUnixMs : Int64 := 0
  detailRef : Bytes := serviceHealthDetailNamespace ++ str "/sample"

def ServiceHealthSample.hasConsistentValues (sample : ServiceHealthSample) : Bool :=
  0 ≤ sample.latencyMs && 0 < sample.sampledAtUnixMs && sample.commandQueue.hasConsistentValues &&
    sample.subscriptionQueue.hasConsistentValues

inductive ProbeStatus
  | unknown
  | healthy
  | degraded
  | unhealthy
deriving DecidableEq

structure ProbeResult where
  probeName : Bytes
  status : ProbeStatus := .unknown
  latencyMs : Int64 := 0
  errorCode : Option ResultCode := none
  detailRef : Bytes
  timestamp : Int64 := 0

/-! ## The snapshot of a sample -/

def appendComponent (components : List Bytes) (component : Bytes) : List Bytes :=
  if component = [] then components
  else if components.contains component then components
  else components ++ [component]

/-- A component with what its part of the sample says about it. -/
structure Signal where
  component : Bytes
  blocked : Bool := false
  degraded : Bool

def signals (sample : ServiceHealthSample) : List Signal :=
  [{ component := str "services.circuit"
     blocked := sample.circuitState = .opened || sample.circuitState = .unknown
     degraded := sample.circuitState ≠ .closed },
   { component := str "services.adapter"
     blocked := sample.adapterReadiness = .unavailable || sample.adapterReadiness = .unknown
     degraded := sample.adapterReadiness ≠ .available },
   { component := str "services.command_queue"
     blocked := sample.commandQueue.blocksReadiness
     degraded := sample.commandQueue.blocksReadiness },
   { component := str "services.subscription_queue"
     blocked := sample.subscriptionQueue.blocksReadiness
     degraded := sample.subscriptionQueue.blocksReadiness },
   { component := str "services.system_snapshot", degraded := sample.systemSnapshotDegraded },
   { component := str "services.audit_bridge", degraded := sample.auditBridgeDegraded },
   { component := str "services.metrics_bridge", degraded := sample.metricsBridgeDegraded },
   { component := str "services.trace_bridge", degraded := sample.traceBridgeDegraded }]

structure Noted where
  readinessBlocked : Bool := false
  degraded : Bool := false
  failedComponents : List Bytes := []

def note (noted : Noted) (signal : Signal) : Noted :=
  if signal.degraded then
    { readinessBlocked := noted.readinessBlocked || signal.blocked
      degraded := true
      failedComponents := appendComponent noted.failedComponents signal.component }
  else noted

def buildSnapshot (sample : ServiceHealthSample) (version : UInt64) : HealthSnapshot :=
  if !sample.systemSnapshotReady then
    { failedComponents := appendComponent [] (str "services.system_snapshot")
      version
      timestamp := sample.sampledAtUnixMs }
  else
    let noted := (signals sample).foldl note {}
    { liveness := sample.systemSnapshotReady
      readiness := sample.systemSnapshotReady && !noted.readinessBlocked
      degraded := sample.systemSnapshotReady && noted.degraded
      failedComponents := noted.failedComponents
      version
      timestamp := sample.sampledAtUnixMs }

def probeStatusFor (snapshot : HealthSnapshot) : ProbeStatus :=
  if !snapshot.hasConsistentState then .unknown
  else if !snapshot.liveness then .unhealthy
  else if !snapshot.readiness || snapshot.degraded then .degraded
  else .healthy

/-! ## The probe -/

structure ServiceHealthProbe where
  hasSignalProvider : Bool
  detailNamespace : Bytes
  hasNowMs : Bool
  latestSnapshot : Option HealthSnapshot := none
  nextSnapshotVersion : UInt64 := 1

/-- What a probe finds: the sample of the provider and the reading of the injected clock. -/
structure Call where
  sample : ServiceHealthSample := {}
  nowMs : Int64 := 0

namespace ServiceHealthProbe

def create (hasSignalProvider hasNowMs : Bool) (detailNamespace : Bytes) : ServiceHealthProbe where
  hasSignalProvider := hasSignalProvider
  detailNamespace := if detailNamespace = [] then serviceHealthDetailNamespace else detailNamespace
  hasNowMs := hasNowMs

variable (self : ServiceHealthProbe)

def snapshot : HealthSnapshot :=
  self.latestSnapshot.getD { failedComponents := [str "services.health_probe"] }

/-- The member function hides the free one of its name, so that the last call is to itself. -/
def currentTimeUnixMs (nowMs : Int64) : Nat → Option Int64
  | 0 => none
  | fuel + 1 => if self.hasNowMs then some nowMs else currentTimeUnixMs nowMs fuel

def makeDetailRef (suffix : Bytes) : Bytes := self.detailNamespace ++ str "/" ++ suffix

def circuitDetail : ServiceCircuitState → Option Bytes
  | .opened => some (str "degraded/circuit_open")
  | .halfOpen => some (str "degraded/circuit_half_open")
  | .unknown => some (str "degraded/circuit_unknown")
  | .closed => none

def adapterDetail : AdapterAvailabilityState → Option Bytes
  | .unavailable => some (str "degraded/adapter_unavailable")
  | .unknown => some (str "degraded/adapter_unknown")
  | .degraded => some (str "degraded/adapter_degraded")
  | .available => none

/-- The components that are looked for after the circuit and the adapter, in their order. -/
def componentDetails : List (Bytes × Bytes) :=
  [(str "services.command_queue", str "degraded/command_queue"),
   (str "services.subscription_queue", str "degraded/subscription_queue"),
   (str "services.metrics_bridge", str "degraded/metrics_bridge"),
   (str "services.trace_bridge", str "degraded/trace_bridge"),
   (str "services.audit_bridge", str "degraded/audit_bridge"),
   (str "services.system_snapshot", str "degraded/system_snapshot")]

def detailRefFor (sample : ServiceHealthSample) (snapshot : HealthSnapshot) : Bytes :=
  let hasComponent := fun component => snapshot.failedComponents.contains component
  let circuit :=
    if hasComponent (str "services.circuit") then circuitDetail sample.circuitState else none
  let adapter :=
    if hasComponent (str "services.adapter") then adapterDetail sample.adapterReadiness else none
  let component := (componentDetails.find? fun detail => hasComponent detail.1).map (·.2)
  if !snapshot.liveness then self.makeDetailRef (str "unhealthy/system_snapshot")
  else
    match circuit <|> adapter <|> component with
    | some suffix => self.makeDetailRef suffix
    | none =>
      if sample.detailRef ≠ [] then sample.detailRef else self.makeDetailRef (str "healthy")

def makeFailureResult (errorCode : ResultCode) (status : ProbeStatus) (latencyMs timestampMs : Int64)
    (detailRef : Bytes) (failedComponents : List Bytes) : ProbeResult × ServiceHealthProbe :=
  ({ probeName := str "services.capability"
     status
     latencyMs := max 0 latencyMs
     errorCode := some errorCode
     detailRef := if detailRef = [] then self.makeDetailRef (str "failure") else detailRef
     timestamp := timestampMs },
   { self with
     latestSnapshot := some
       { failedComponents :=
           if failedComponents = [] then [str "services.health_probe"] else failedComponents
         version := self.nextSnapshotVersion
         timestamp := timestampMs }
     nextSnapshotVersion := self.nextSnapshotVersion + 1 })

/-- The end of a probe whose sample is consistent. -/
def makeResult (sample : ServiceHealthSample) : ProbeResult × ServiceHealthProbe :=
  let snapshot := buildSnapshot sample self.nextSnapshotVersion
  ({ probeName := str "services.capability"
     status := probeStatusFor snapshot
     latencyMs := sample.latencyMs
     detailRef := self.detailRefFor sample snapshot
     timestamp := sample.sampledAtUnixMs },
   { self with
     latestSnapshot := some snapshot
     nextSnapshotVersion := self.nextSnapshotVersion + 1 })

/-- The time of a sample that is not consistent. -/
def failedSampleTime (call : Call) (fuel : Nat) : Option Int64 :=
  if 0 < call.sample.sampledAtUnixMs then some call.sample.sampledAtUnixMs
  else self.currentTimeUnixMs call.nowMs fuel

/-- One probe, with as many calls of the clock function as the fuel allows. -/
def probe (call : Call) (fuel : Nat) : Option (ProbeResult × ServiceHealthProbe) :=
  if !self.hasSignalProvider then do
    let timestampMs ← self.currentTimeUnixMs call.nowMs fuel
    return self.makeFailureResult .validationFieldMissing .unknown 0 timestampMs
      (self.makeDetailRef (str "config/provider_missing")) [str "services.health_probe"]
  else if !call.sample.hasConsistentValues then do
    let timestampMs ← self.failedSampleTime call fuel
    return self.makeFailureResult .validationFieldMissing .unknown call.sample.latencyMs timestampMs
      (if call.sample.detailRef = [] then self.makeDetailRef (str "invalid/sample")
        else call.sample.detailRef)
      [str "services.health_probe"]
  else some (self.makeResult call.sample)

end ServiceHealthProbe

/-! ## What a probe answers -/

/-- Some signal of the sample blocks the readiness or is degraded. -/
def Impaired (sample : ServiceHealthSample) : Prop :=
  sample.circuitState ≠ .closed ∨ sample.adapterReadiness ≠ .available ∨
    sample.commandQueue.blocksReadiness = true ∨ sample.subscriptionQueue.blocksReadiness = true ∨
    sample.systemSnapshotDegraded = true ∨ sample.auditBridgeDegraded = true ∨
    sample.metricsBridgeDegraded = true ∨ sample.traceBridgeDegraded = true

structure StatusFits (snapshot : HealthSnapshot) (status : ProbeStatus) : Prop where
  dead : snapshot.liveness = false → status = .unhealthy ∨ status = .unknown
  degraded : snapshot.liveness = true → snapshot.readiness = false ∨ snapshot.degraded = true →
    status = .degraded
  healthy : status = .healthy → snapshot.failedComponents = []

namespace ServiceHealthProbe

/-- The probe gets a consistent sample. -/
def Sampled (self : ServiceHealthProbe) (call : Call) : Prop :=
  self.hasSignalProvider = true ∧ call.sample.hasConsistentValues = true

/-- The probe needs no clock, or has one. -/
def Dated (self : ServiceHealthProbe) (call : Call) : Prop :=
  self.hasNowMs = true ∨ (self.hasSignalProvider = true ∧ 0 < call.sample.sampledAtUnixMs)

def Returns (self : ServiceHealthProbe) (call : Call) (result : ProbeResult)
    (next : ServiceHealthProbe) : Prop :=
  ∃ fuel, self.probe call fuel = some (result, next)

/-- What the probe kept and answered is right. -/
structure Answered (before : ServiceHealthProbe) (call : Call) (result : ProbeResult)
    (next : ServiceHealthProbe) : Prop where
  version : next.snapshot.version.toNat = before.snapshot.version.toNat + 1
  taken : before.Sampled call →
    next.snapshot = buildSnapshot call.sample (before.snapshot.version + 1)
  failed : ¬ before.Sampled call →
    next.snapshot =
      { failedComponents := [str "services.health_probe"]
        version := before.snapshot.version + 1
        timestamp := result.timestamp }
  status : StatusFits next.snapshot result.status
  impaired : before.Sampled call → call.sample.systemSnapshotReady = true → Impaired call.sample →
    result.status = .degraded

/-- Every probe of the run returns, with the right answer. -/
def ProbesWell : ServiceHealthProbe → List Call → Prop
  | _, [] => True
  | self, call :: calls =>
    ∃ result next, self.Returns call result next ∧ self.Answered call result next ∧
      ProbesWell next calls

end ServiceHealthProbe

/-! ## The snapshot -/

def componentNames : List Bytes :=
  [str "services.circuit", str "services.adapter", str "services.command_queue",
   str "services.subscription_queue", str "services.system_snapshot", str "services.audit_bridge",
   str "services.metrics_bridge", str "services.trace_bridge"]

/-- The components are named once each, and there are none while nothing is degraded. -/
structure Noted.WellNamed (noted : Noted) : Prop where
  nodup : noted.failedComponents.Nodup
  named : ∀ component ∈ noted.failedComponents, component ∈ componentNames
  clear : noted.degraded = false → noted.failedComponents = []

theorem appendComponent_nodup {components : List Bytes} (h : components.Nodup) (component : Bytes) :
    (appendComponent components component).Nodup := by
  unfold appendComponent
  split
  · exact h
  · split
    · exact h
    · next hnew =>
      rw [List.contains_eq_mem, decide_eq_true_eq] at hnew
      exact List.nodup_append.mpr ⟨h, List.nodup_singleton component, by
        rintro other hother last hlast rfl
        exact hnew (List.mem_singleton.mp hlast ▸ hother)⟩

theorem mem_appendComponent {components : List Bytes} {component other : Bytes}
    (h : other ∈ appendComponent components component) : other ∈ components ∨ other = component := by
  unfold appendComponent at h
  split at h
  · exact .inl h
  · split at h
    · exact .inl h
    · simpa using h

theorem Noted.WellNamed.note {noted : Noted} (h : noted.WellNamed) {signal : Signal}
    (hname : signal.component ∈ componentNames) : (note noted signal).WellNamed := by
  unfold Ops.note
  split
  · refine ⟨appendComponent_nodup h.nodup _, fun component hcomponent => ?_, fun hclear => ?_⟩
    · rcases mem_appendComponent hcomponent with hold | rfl
      · exact h.named component hold
      · exact hname
    · cases hclear
  · exact h

theorem Noted.WellNamed.foldl {noted : Noted} (h : noted.WellNamed) {found : List Signal}
    (hnames : ∀ signal ∈ found, signal.component ∈ componentNames) :
    (found.foldl Ops.note noted).WellNamed := by
  induction found generalizing noted with
  | nil => exact h
  | cons signal found ih =>
    exact ih (h.note (hnames signal List.mem_cons_self))
      fun other hother => hnames other (List.mem_cons_of_mem _ hother)

theorem note_degraded (noted : Noted) (found : List Signal) :
    (found.foldl note noted).degraded = (noted.degraded || found.any (·.degraded)) := by
  induction found generalizing noted with
  | nil => simp
  | cons signal found ih =>
    rw [List.foldl_cons, ih, List.any_cons, note]
    split
    · next hsignal => simp [hsignal]
    · next hsignal => simp [hsignal]

variable (sample : ServiceHealthSample)

theorem noted_wellNamed :
    ((signals sample).foldl note {}).WellNamed := by
  refine Noted.WellNamed.foldl ⟨List.nodup_nil, ?_, fun _ => rfl⟩ ?_
  · intro component hcomponent
    cases hcomponent
  · have hnames : (signals sample).map (·.component) = componentNames := rfl
    intro signal hsignal
    rw [← hnames]
    exact List.mem_map_of_mem hsignal

theorem any_degraded_iff :
    (signals sample).any (·.degraded) = true ↔ Impaired sample := by
  simp [signals, Impaired]

theorem componentNames_valid : ∀ component ∈ componentNames,
    component ≠ [] ∧ component ∉ HealthSnapshot.reservedRuntimeStateNames := by
  decide +kernel

/-- The names of the components are valid in every snapshot with them. -/
theorem failedComponentsAreValid_of_named {snapshot : HealthSnapshot}
    (hnodup : snapshot.failedComponents.Nodup)
    (hnamed : ∀ component ∈ snapshot.failedComponents, component ∈ componentNames) :
    snapshot.failedComponentsAreValid = true := by
  unfold HealthSnapshot.failedComponentsAreValid hasUniqueNonEmptyValues
  simp only [Bool.and_eq_true, decide_eq_true_eq, List.all_eq_true]
  exact ⟨⟨hnodup, fun component hcomponent =>
      (componentNames_valid component (hnamed component hcomponent)).1⟩,
    fun component hcomponent => (componentNames_valid component (hnamed component hcomponent)).2⟩

theorem buildSnapshot_hasConsistentState (version : UInt64) :
    (buildSnapshot sample version).hasConsistentState = true := by
  have hvalid : (buildSnapshot sample version).failedComponentsAreValid = true := by
    unfold buildSnapshot
    split
    · apply failedComponentsAreValid_of_named
      · exact appendComponent_nodup List.nodup_nil (str "services.system_snapshot")
      · intro component (hcomponent : component ∈ appendComponent [] (str "services.system_snapshot"))
        rcases mem_appendComponent hcomponent with hnone | rfl
        · cases hnone
        · decide +kernel
    · exact failedComponentsAreValid_of_named (noted_wellNamed sample).nodup
        (noted_wellNamed sample).named
  unfold HealthSnapshot.hasConsistentState
  rw [hvalid]
  unfold buildSnapshot
  cases hready : sample.systemSnapshotReady with
  | false => simp
  | true => simp

theorem probeStatusFor_fits (version : UInt64) :
    StatusFits (buildSnapshot sample version) (probeStatusFor (buildSnapshot sample version)) := by
  unfold probeStatusFor
  rw [buildSnapshot_hasConsistentState]
  refine ⟨fun hdead => ?_, fun halive hlow => ?_, fun hhealthy => ?_⟩
  · simp [hdead]
  · rw [halive]
    rcases hlow with hready | hdegraded
    · simp [hready]
    · simp [hdegraded]
  · cases hready : sample.systemSnapshotReady with
    | false => simp [buildSnapshot, hready] at hhealthy
    | true =>
      have hclear : ((signals sample).foldl note {}).degraded = false := by
        by_contra hdegraded
        rw [Bool.not_eq_false] at hdegraded
        simp [buildSnapshot, hready, hdegraded] at hhealthy
      have hnone := (noted_wellNamed sample).clear hclear
      simpa [buildSnapshot, hready] using hnone

theorem probeStatusFor_impaired {sample : ServiceHealthSample}
    (hready : sample.systemSnapshotReady = true) (h : Impaired sample) (version : UInt64) :
    probeStatusFor (buildSnapshot sample version) = .degraded := by
  have hdegraded : ((signals sample).foldl note {}).degraded = true := by
    rw [note_degraded, (any_degraded_iff sample).mpr h]
    simp
  apply (probeStatusFor_fits sample version).degraded
  · simp [buildSnapshot, hready]
  · exact .inr (by simp [buildSnapshot, hready, hdegraded])

/-! ## One probe -/

namespace ServiceHealthProbe

variable {self next : ServiceHealthProbe} {call : Call} {result : ProbeResult}

theorem currentTimeUnixMs_eq_some {nowMs timestampMs : Int64} {fuel : Nat}
    (h : self.currentTimeUnixMs nowMs fuel = some timestampMs) : self.hasNowMs = true := by
  induction fuel with
  | zero => cases h
  | succ fuel ih =>
    rw [currentTimeUnixMs] at h
    split at h
    · next hclock => exact hclock
    · exact ih h

theorem currentTimeUnixMs_one (h : self.hasNowMs = true) (nowMs : Int64) :
    self.currentTimeUnixMs nowMs 1 = some nowMs := by
  rw [currentTimeUnixMs, if_pos h]

theorem dated_of_sampled (h : self.Sampled call) : self.Dated call := by
  obtain ⟨hprovider, hsample⟩ := h
  simp only [ServiceHealthSample.hasConsistentValues, Bool.and_eq_true, decide_eq_true_eq] at hsample
  exact .inr ⟨hprovider, hsample.1.1.2⟩

theorem probe_sampled (h : self.Sampled call) (fuel : Nat) :
    self.probe call fuel = some (self.makeResult call.sample) := by
  unfold probe
  rw [h.1, h.2]
  rfl

/-- A probe that gets no consistent sample fails with the version that is next. -/
structure Failed (before : ServiceHealthProbe) (result : ProbeResult)
    (next : ServiceHealthProbe) : Prop where
  status : result.status = .unknown
  next : next =
    { before with
      latestSnapshot := some
        { failedComponents := [str "services.health_probe"]
          version := before.nextSnapshotVersion
          timestamp := result.timestamp }
      nextSnapshotVersion := before.nextSnapshotVersion + 1 }

theorem probe_failed {fuel : Nat} (h : ¬ self.Sampled call)
    (hprobe : self.probe call fuel = some (result, next)) :
    self.Dated call ∧ self.Failed result next := by
  unfold probe at hprobe
  split at hprobe
  · rw [Option.bind_eq_bind, Option.bind_eq_some_iff] at hprobe
    obtain ⟨timestampMs, hclock, hresult⟩ := hprobe
    cases hresult
    exact ⟨.inl (currentTimeUnixMs_eq_some hclock), rfl, rfl⟩
  · next hprovider =>
    rw [Bool.not_eq_true', Bool.not_eq_false] at hprovider
    split at hprobe
    · rw [Option.bind_eq_bind, Option.bind_eq_some_iff] at hprobe
      obtain ⟨timestampMs, htimestamp, hresult⟩ := hprobe
      cases hresult
      refine ⟨?_, rfl, rfl⟩
      unfold failedSampleTime at htimestamp
      split at htimestamp
      · next hsampled => exact .inr ⟨hprovider, hsampled⟩
      · exact .inl (currentTimeUnixMs_eq_some htimestamp)
    · next hsample =>
      rw [Bool.not_eq_true', Bool.not_eq_false] at hsample
      exact absurd ⟨hprovider, hsample⟩ h

theorem probe_returns (h : self.Dated call) : ∃ result next, self.Returns call result next := by
  suffices hsome : ∃ answer, self.probe call 1 = some answer by
    obtain ⟨⟨result, next⟩, hprobe⟩ := hsome
    exact ⟨result, next, 1, hprobe⟩
  unfold probe
  split
  · next hprovider =>
    rw [Bool.not_eq_true'] at hprovider
    have hclock : self.hasNowMs = true := by simpa [Dated, hprovider] using h
    rw [currentTimeUnixMs_one hclock]
    exact ⟨_, rfl⟩
  · split
    · unfold failedSampleTime
      split
      · exact ⟨_, rfl⟩
      · next hsampled =>
        have hclock : self.hasNowMs = true := by simpa [Dated, hsampled] using h
        rw [currentTimeUnixMs_one hclock]
        exact ⟨_, rfl⟩
    · exact ⟨_, rfl⟩

/-- The version to come follows the one of the latest snapshot. -/
def Linked (self : ServiceHealthProbe) : Prop :=
  self.nextSnapshotVersion = self.snapshot.version + 1

/-- What a probe that returns leaves behind. -/
theorem returns_cases (h : self.Returns call result next) :
    (self.Sampled call ∧ (result, next) = self.makeResult call.sample) ∨
      (¬ self.Sampled call ∧ self.Dated call ∧ self.Failed result next) := by
  obtain ⟨fuel, hprobe⟩ := h
  by_cases hsampled : self.Sampled call
  · rw [probe_sampled hsampled] at hprobe
    exact .inl ⟨hsampled, (Option.some.inj hprobe).symm⟩
  · exact .inr ⟨hsampled, probe_failed hsampled hprobe⟩

theorem dated_of_returns (h : self.Returns call result next) : self.Dated call := by
  rcases returns_cases h with ⟨hsampled, -⟩ | ⟨-, hdated, -⟩
  · exact dated_of_sampled hsampled
  · exact hdated

theorem buildSnapshot_version (sample : ServiceHealthSample) (version : UInt64) :
    (buildSnapshot sample version).version = version := by
  unfold buildSnapshot
  split
  · rfl
  · rfl

theorem returns_keeps (h : self.Returns call result next) :
    next.hasSignalProvider = self.hasSignalProvider ∧ next.hasNowMs = self.hasNowMs ∧
      next.snapshot.version = self.nextSnapshotVersion ∧ next.Linked := by
  rcases returns_cases h with ⟨-, hnext⟩ | ⟨-, -, hfailed⟩
  · cases hnext
    have hversion := buildSnapshot_version call.sample self.nextSnapshotVersion
    refine ⟨rfl, rfl, hversion, ?_⟩
    unfold Linked
    exact congrArg (· + 1) hversion.symm
  · rw [hfailed.next]
    exact ⟨rfl, rfl, rfl, rfl⟩

theorem answered_iff (h : self.Returns call result next) (hlinked : self.Linked) :
    self.Answered call result next ↔ self.snapshot.version.toNat + 1 < 2 ^ 64 := by
  have hversion : next.snapshot.version = self.snapshot.version + 1 := by
    rw [(returns_keeps h).2.2.1, hlinked]
  constructor
  · intro hanswered
    rw [← hanswered.version]
    exact next.snapshot.version.toNat_lt
  · intro hroom
    have hnext : next.snapshot.version.toNat = self.snapshot.version.toNat + 1 := by
      rw [hversion, UInt64.toNat_add, UInt64.toNat_one, Nat.mod_eq_of_lt hroom]
    rcases returns_cases h with ⟨hsampled, heq⟩ | ⟨hsampled, -, hfailed⟩
    · cases heq
      refine ⟨hnext, fun _ => ?_, fun hnot => absurd hsampled hnot, ?_, fun _ hready himpaired => ?_⟩
      · rw [← hlinked]
        rfl
      · exact probeStatusFor_fits call.sample self.nextSnapshotVersion
      · exact probeStatusFor_impaired hready himpaired self.nextSnapshotVersion
    · refine ⟨hnext, fun hyes => absurd hyes hsampled, fun _ => ?_, ?_,
        fun hyes => absurd hyes hsampled⟩
      · rw [hfailed.next, ← hlinked]
        rfl
      · rw [hfailed.status, hfailed.next]
        refine ⟨fun _ => .inr rfl, fun halive => ?_, fun hhealthy => ?_⟩
        · cases halive
        · cases hhealthy

/-! ## Runs of probes -/

theorem dated_of_returns_iff (h : self.Returns call result next) (later : Call) :
    next.Dated later ↔ self.Dated later := by
  obtain ⟨hprovider, hclock, -, -⟩ := returns_keeps h
  unfold Dated
  rw [hprovider, hclock]

theorem probesWell_from {calls : List Call} (hlinked : self.Linked) :
    self.ProbesWell calls ↔
      (∀ call ∈ calls, self.Dated call) ∧
        (calls = [] ∨ self.snapshot.version.toNat + calls.length < 2 ^ 64) := by
  induction calls generalizing self with
  | nil => simp [ProbesWell]
  | cons call calls ih =>
    rw [ProbesWell, List.forall_mem_cons, List.length_cons]
    constructor
    · rintro ⟨result, next, hreturns, hanswered, hcalls⟩
      have hdated := dated_of_returns hreturns
      have hroom := (answered_iff hreturns hlinked).mp hanswered
      obtain ⟨hall, hlength⟩ := (ih (returns_keeps hreturns).2.2.2).mp hcalls
      refine ⟨⟨hdated, fun later hlater => ?_⟩, .inr ?_⟩
      · exact (dated_of_returns_iff hreturns later).mp (hall later hlater)
      · rcases hlength with rfl | hlength
        · exact hroom
        · have hversion := hanswered.version
          omega
    · rintro ⟨⟨hdated, hall⟩, hlength⟩
      have hroom : self.snapshot.version.toNat + (calls.length + 1) < 2 ^ 64 :=
        hlength.resolve_left (List.cons_ne_nil _ _)
      obtain ⟨result, next, hreturns⟩ := probe_returns hdated
      have hanswered := (answered_iff hreturns hlinked).mpr (by omega)
      refine ⟨result, next, hreturns, hanswered, ?_⟩
      refine (ih (returns_keeps hreturns).2.2.2).mpr ⟨fun later hlater => ?_, .inr ?_⟩
      · exact (dated_of_returns_iff hreturns later).mpr (hall later hlater)
      · have hversion := hanswered.version
        omega

/-- A probe answers every call of a run exactly when it has a clock, or a provider whose samples are
all dated. The count of versions ends at `2 ^ 64`. -/
theorem probesWell_iff (hasSignalProvider hasNowMs : Bool) (detailNamespace : Bytes)
    (calls : List Call) :
    (create hasSignalProvider hasNowMs detailNamespace).ProbesWell calls ↔
      (∀ call ∈ calls, hasNowMs = true ∨
        (hasSignalProvider = true ∧ 0 < call.sample.sampledAtUnixMs)) ∧
        calls.length < 2 ^ 64 := by
  have hlinked : (create hasSignalProvider hasNowMs detailNamespace).Linked := rfl
  have hfirst : (create hasSignalProvider hasNowMs detailNamespace).snapshot.version.toNat = 0 := rfl
  rw [probesWell_from hlinked, hfirst, Nat.zero_add]
  refine and_congr Iff.rfl ⟨fun hlength => ?_, fun hlength => .inr hlength⟩
  rcases hlength with rfl | hlength
  · decide
  · exact hlength

/-- Without a provider and without a clock, no probe returns. -/
theorem not_probesWell_bare : ¬ (create false false []).ProbesWell [{}] := by
  rintro ⟨result, next, hreturns, -, -⟩
  rcases dated_of_returns hreturns with hclock | ⟨hprovider, -⟩
  · cases hclock
  · cases hprovider

end ServiceHealthProbe

end Dasall.Services.Ops
