import Dasall.Infra.Policy.Types
import Dasall.Lib.Fifo

/-!
# The span processor pipeline

Ended spans wait in a bounded buffer and leave it in batches for the exporter. The pipeline keeps a
ledger of them, which none of its decisions reads.
-/

open Dasall.Contracts Dasall.Lib Dasall.Lib.Text

namespace Dasall.Infra.Tracing

open Dasall.Infra.Policy (ResultCode classifyResultCode)

/-! ## The configuration -/

structure TraceSamplerConfig where
  type : Bytes := str "parent_based_always_on"
  /-- Whether `ratio` is finite and between 0 and 1. -/
  ratioInRange : Bool := true
deriving DecidableEq

def TraceSamplerConfig.isValid (sampler : TraceSamplerConfig) : Bool :=
  [str "always_on", str "always_off", str "ratio", str "parent_based",
    str "parent_based_always_on"].contains sampler.type && sampler.ratioInRange

structure TraceBatchConfig where
  enabled : Bool := true
  maxQueueSize : UInt32 := 2048
  maxExportBatchSize : UInt32 := 512
  scheduleDelayMs : UInt32 := 5000
deriving DecidableEq

def TraceBatchConfig.isValid (batch : TraceBatchConfig) : Bool :=
  0 < batch.maxQueueSize && 0 < batch.maxExportBatchSize &&
    batch.maxExportBatchSize ≤ batch.maxQueueSize && 0 < batch.scheduleDelayMs

structure TraceExporterConfig where
  type : Bytes := str "noop"
  otlpEndpoint : Bytes := []
deriving DecidableEq

def TraceExporterConfig.isValid (exporter : TraceExporterConfig) : Bool :=
  [str "noop", str "file", str "otlp"].contains exporter.type &&
    (exporter.type ≠ str "otlp" || exporter.otlpEndpoint ≠ [])

structure TraceConfig where
  providerType : Bytes := str "internal"
  sampler : TraceSamplerConfig := {}
  batch : TraceBatchConfig := {}
  exportTimeoutMs : UInt32 := 30000
  exporter : TraceExporterConfig := {}
  overflowPolicy : Bytes := str "drop_oldest"
deriving DecidableEq

def TraceConfig.isValid (config : TraceConfig) : Bool :=
  [str "internal", str "otel_sdk"].contains config.providerType && config.sampler.isValid &&
    config.batch.isValid && 0 < config.exportTimeoutMs && config.exporter.isValid &&
    [str "block", str "drop_oldest"].contains config.overflowPolicy

/-! ## Spans and statuses -/

inductive SpanStatusCode
  | unset
  | ok
  | error
deriving DecidableEq

structure SpanImpl where
  traceId : Bytes
  spanId : Bytes
  name : Bytes
  recording : Bool := true
  ended : Bool := true
  statusCode : SpanStatusCode := .unset
  endTsUnixMs : Option Int64 := none
  attributeCount : Nat := 0
deriving DecidableEq

inductive TraceErrorCode
  | queueFull
  | exportTimeout
  | exportFailure
  | shutdownTimeout
  | configInvalid
deriving DecidableEq

def traceErrorCodeName : TraceErrorCode → Bytes
  | .queueFull => str "TRC_E_QUEUE_FULL"
  | .exportTimeout => str "TRC_E_EXPORT_TIMEOUT"
  | .exportFailure => str "TRC_E_EXPORT_FAILURE"
  | .shutdownTimeout => str "TRC_E_SHUTDOWN_TIMEOUT"
  | .configInvalid => str "TRC_E_CONFIG_INVALID"

/-- The result code of `map_trace_error_code`. -/
def mapTraceErrorCode : TraceErrorCode → ResultCode
  | .queueFull | .shutdownTimeout => .runtimeRetryExhausted
  | .exportTimeout | .exportFailure => .providerTimeout
  | .configInvalid => .validationFieldMissing

structure TraceOperationStatus where
  ok : Bool := false
  resultCode : ResultCode := .runtimeRetryExhausted
  error : Option ErrorInfo := none
  stateRef : Bytes := []
deriving DecidableEq

def TraceOperationStatus.success (stateRef : Bytes) : TraceOperationStatus :=
  { ok := true, stateRef }

def TraceOperationStatus.failure (resultCode : ResultCode) (message stage sourceRef : Bytes) :
    TraceOperationStatus :=
  { resultCode
    error := some
      { failureType := some (classifyResultCode resultCode)
        retryable := some false
        safeToReplan := some false
        details := { code := some resultCode.toRaw, message, stage }
        sourceRef := { refType := str "infra.tracing", refId := sourceRef } } }

/-- `make_failure` of the three classes. -/
def makeFailure (source : String) (code : TraceErrorCode) (message stage : Bytes) :
    TraceOperationStatus :=
  .failure (mapTraceErrorCode code) message stage (str source ++ str ":" ++ traceErrorCodeName code)

@[simp] theorem success_ok (stateRef : Bytes) : (TraceOperationStatus.success stateRef).ok = true :=
  rfl

@[simp] theorem makeFailure_ok (source : String) (code : TraceErrorCode) (message stage : Bytes) :
    (makeFailure source code message stage).ok = false := rfl

/-! ## The buffer -/

structure BatchSpanBuffer where
  config : TraceConfig
  queue : List SpanImpl := []
  droppedTotal : UInt64 := 0
  blockedEnqueueTotal : UInt64 := 0
  oldestPendingEndTs : Option Int64 := none
  lastExportCompletedTs : Option Int64 := none

structure BatchSpanEnqueueResult where
  status : TraceOperationStatus
  accepted : Bool := false
  wouldBlock : Bool := false
  exportRequested : Bool := false
deriving DecidableEq

namespace BatchSpanBuffer

def queueDepth (buffer : BatchSpanBuffer) : Nat := buffer.queue.length

def refreshOldestPendingEndTs (buffer : BatchSpanBuffer) : BatchSpanBuffer :=
  { buffer with oldestPendingEndTs := buffer.queue.head?.bind (·.endTsUnixMs) }

/-- The end of `enqueue`, once there is room. -/
def append (buffer : BatchSpanBuffer) (span : SpanImpl) :
    BatchSpanBuffer × BatchSpanEnqueueResult :=
  ({ buffer with queue := buffer.queue ++ [span] }.refreshOldestPendingEndTs,
    { status := .success (str "trace-buffer://enqueued")
      accepted := true
      exportRequested :=
        buffer.config.batch.maxExportBatchSize.toNat ≤ (buffer.queue ++ [span]).length })

def enqueue (buffer : BatchSpanBuffer) (span : Option SpanImpl) :
    BatchSpanBuffer × BatchSpanEnqueueResult :=
  let stage := str "tracing.batch.enqueue"
  let unfit : TraceOperationStatus := .failure .validationFieldMissing
    (str "trace batch buffer accepts only ended recording spans") stage
    (str "BatchSpanBuffer:ValidationFieldMissing")
  if !buffer.config.isValid || !buffer.config.batch.isValid then
    let status := makeFailure "BatchSpanBuffer" .configInvalid
      (str "trace batch buffer requires a valid TraceConfig batch section") stage
    (buffer, { status })
  else
    match span with
    | none => (buffer, { status := unfit })
    | some span =>
      if !span.ended || !span.recording then (buffer, { status := unfit })
      else if buffer.config.batch.maxQueueSize.toNat ≤ buffer.queueDepth then
        if buffer.config.overflowPolicy = str "block" then
          ({ buffer with blockedEnqueueTotal := buffer.blockedEnqueueTotal + 1 },
            { status := makeFailure "BatchSpanBuffer" .queueFull
                  (str "trace batch queue is full under block policy") stage
              wouldBlock := true })
        else
          { buffer with
            queue := buffer.queue.tail
            droppedTotal := buffer.droppedTotal + 1 }.append span
      else buffer.append span

def defaultBatchLimit (buffer : BatchSpanBuffer) : Nat :=
  if buffer.config.batch.enabled then buffer.config.batch.maxExportBatchSize.toNat
  else buffer.queueDepth

/-- `dequeue_batch` without a limit of its own. -/
def dequeueBatch (buffer : BatchSpanBuffer) : List SpanImpl × BatchSpanBuffer :=
  (buffer.queue.take buffer.defaultBatchLimit,
    { buffer with queue := buffer.queue.drop buffer.defaultBatchLimit }.refreshOldestPendingEndTs)

inductive Trigger
  | none
  | queueThreshold
  | scheduleDelay
deriving DecidableEq

def exportTrigger (buffer : BatchSpanBuffer) (nowUnixMs : Int64) : Trigger :=
  if buffer.queue = [] then .none
  else if !buffer.config.batch.enabled then .queueThreshold
  else if buffer.config.batch.maxExportBatchSize.toNat ≤ buffer.queueDepth then .queueThreshold
  else if buffer.oldestPendingEndTs.any fun oldest =>
      buffer.config.batch.scheduleDelayMs.toUInt64.toInt64 ≤ nowUnixMs - oldest then .scheduleDelay
  else .none

def shouldExportNow (buffer : BatchSpanBuffer) (nowUnixMs : Int64) : Bool :=
  buffer.exportTrigger nowUnixMs ≠ .none

def markExportCycleComplete (buffer : BatchSpanBuffer) (completedAtUnixMs : Int64) :
    BatchSpanBuffer :=
  { buffer with lastExportCompletedTs := some completedAtUnixMs }

end BatchSpanBuffer

/-! ## The exporter -/

structure ExportBatchReport where
  batchSize : UInt32 := 0
  successCount : UInt32 := 0
  failureCount : UInt32 := 0
  latencyMs : UInt32 := 0
deriving DecidableEq

structure TraceModuleSnapshot where
  queueDepth : UInt32 := 0
  droppedTotal : UInt64 := 0
  exporterState : Bytes := str "unknown"
  degraded : Bool := false
deriving DecidableEq

structure SpanExporterAdapter where
  config : TraceConfig
  lastReport : ExportBatchReport := {}
  moduleSnapshot : TraceModuleSnapshot := {}
  exportSuccessTotal : UInt64 := 0
  exportFailureTotal : UInt64 := 0
  lastRenderedOutput : Bytes := []

namespace SpanExporterAdapter

def new (config : TraceConfig) : SpanExporterAdapter :=
  let config := if config.isValid then config else {}
  { config, moduleSnapshot := { exporterState := config.exporter.type } }

def spanStatusName : SpanStatusCode → Bytes
  | .unset => str "unset"
  | .ok => str "ok"
  | .error => str "error"

def renderSpanLine (span : SpanImpl) : Bytes :=
  str "trace_id=" ++ span.traceId ++ str " span_id=" ++ span.spanId ++ str " name=" ++ span.name ++
    str " status=" ++ spanStatusName span.statusCode ++ str " end_ts=" ++
    intDecimal (span.endTsUnixMs.getD (-1)).toInt ++ str " attrs=" ++ decimal span.attributeCount

def batchIsExportable (batch : List SpanImpl) : Bool := batch ≠ [] && batch.all (·.ended)

/-- `simulated_latency_ms`, and the batch sizes of a report. -/
def batchSize (batch : List SpanImpl) : UInt32 := UInt32.ofNat batch.length

def fallbackToNoop (exporter : SpanExporterAdapter) : SpanExporterAdapter :=
  { exporter with
    config := { exporter.config with exporter := { exporter.config.exporter with type := str "noop" } }
    moduleSnapshot := { exporter.moduleSnapshot with exporterState := str "noop", degraded := true }
    lastRenderedOutput := [] }

def exportNoop (exporter : SpanExporterAdapter) (batch : List SpanImpl) :
    SpanExporterAdapter × TraceOperationStatus :=
  ({ exporter with
      exportSuccessTotal := exporter.exportSuccessTotal + UInt64.ofNat batch.length
      lastReport := { batchSize := batchSize batch, successCount := batchSize batch }
      moduleSnapshot :=
        { exporter.moduleSnapshot with exporterState := str "noop", degraded := false }
      lastRenderedOutput := [] },
    .success (str "trace-exporter://noop"))

def exportFile (exporter : SpanExporterAdapter) (batch : List SpanImpl) :
    SpanExporterAdapter × TraceOperationStatus :=
  if exporter.config.exportTimeoutMs < batchSize batch then
    ({ exporter with
        exportFailureTotal := exporter.exportFailureTotal + UInt64.ofNat batch.length
        lastReport :=
          { batchSize := batchSize batch
            failureCount := batchSize batch
            latencyMs := batchSize batch } }.fallbackToNoop,
      makeFailure "SpanExporterAdapter" .exportTimeout
        (str "trace exporter adapter timed out before file export completed")
        (str "tracing.exporter.export_batch"))
  else
    ({ exporter with
        exportSuccessTotal := exporter.exportSuccessTotal + UInt64.ofNat batch.length
        lastReport :=
          { batchSize := batchSize batch
            successCount := batchSize batch
            latencyMs := batchSize batch }
        moduleSnapshot :=
          { exporter.moduleSnapshot with exporterState := str "file", degraded := false }
        lastRenderedOutput := batch.flatMap fun span => renderSpanLine span ++ [10] },
      .success (str "trace-exporter://file"))

def exportUnsupported (exporter : SpanExporterAdapter) (batch : List SpanImpl) :
    SpanExporterAdapter × TraceOperationStatus :=
  ({ exporter with
      exportFailureTotal := exporter.exportFailureTotal + UInt64.ofNat batch.length
      lastReport := { batchSize := batchSize batch, failureCount := batchSize batch }
      moduleSnapshot := { exporter.moduleSnapshot with degraded := true }
      lastRenderedOutput := [] },
    makeFailure "SpanExporterAdapter" .exportFailure
      (str "trace exporter backend '" ++ exporter.moduleSnapshot.exporterState ++
        str "' is unavailable in the current profile-gated build")
      (str "tracing.exporter.export_batch"))

def exportBatch (exporter : SpanExporterAdapter) (batch : List SpanImpl) :
    SpanExporterAdapter × TraceOperationStatus :=
  if !batchIsExportable batch then
    (exporter, makeFailure "SpanExporterAdapter" .configInvalid
      (str "trace exporter adapter requires a non-empty batch of ended spans")
      (str "tracing.exporter.export_batch"))
  else
    let exporter :=
      { exporter with
        moduleSnapshot :=
          { exporter.moduleSnapshot with exporterState := exporter.config.exporter.type } }
    if exporter.config.exporter.type = str "noop" then exporter.exportNoop batch
    else if exporter.config.exporter.type = str "file" then exporter.exportFile batch
    else exporter.exportUnsupported batch

def forceFlush (_exporter : SpanExporterAdapter) (timeoutMs : UInt32) : TraceOperationStatus :=
  if timeoutMs = 0 then
    makeFailure "SpanExporterAdapter" .configInvalid
      (str "trace exporter adapter requires a positive flush deadline")
      (str "tracing.exporter.force_flush")
  else .success (str "trace-exporter://flushed")

def shutdown (exporter : SpanExporterAdapter) (timeoutMs : UInt32) :
    SpanExporterAdapter × TraceOperationStatus :=
  if timeoutMs = 0 then
    (exporter, makeFailure "SpanExporterAdapter" .configInvalid
      (str "trace exporter adapter requires a positive shutdown deadline")
      (str "tracing.exporter.shutdown"))
  else
    ({ exporter with
        moduleSnapshot := { exporter.moduleSnapshot with exporterState := str "stopped" } },
      .success (str "trace-exporter://stopped"))

end SpanExporterAdapter

/-! ## The pipeline -/

inductive Fate
  | exported
  | failed
  | dropped
deriving DecidableEq

/-- The spans that were counted as processed, each with whether the buffer took it, and those that
left the buffer. -/
structure Ledger where
  entered : List (SpanImpl × Bool) := []
  left : List (SpanImpl × Fate) := []

structure SpanProcessorPipeline where
  buffer : BatchSpanBuffer
  exporter : SpanExporterAdapter
  moduleSnapshot : TraceModuleSnapshot
  processedSpanTotal : UInt64 := 0
  ignoredSpanTotal : UInt64 := 0
  ledger : Ledger := {}

namespace SpanProcessorPipeline

def refreshSnapshot (pipeline : SpanProcessorPipeline) : SpanProcessorPipeline :=
  { pipeline with
    moduleSnapshot :=
      { queueDepth := UInt32.ofNat pipeline.buffer.queueDepth
        droppedTotal := pipeline.buffer.droppedTotal
        exporterState := pipeline.exporter.moduleSnapshot.exporterState
        degraded := pipeline.exporter.moduleSnapshot.degraded } }

def new (config : TraceConfig) : SpanProcessorPipeline :=
  let config := if config.isValid then config else {}
  { buffer := { config }
    exporter := .new config
    moduleSnapshot := { exporterState := str "uninitialized" } : SpanProcessorPipeline }.refreshSnapshot

def fail (code : TraceErrorCode) (message stage : String) : TraceOperationStatus :=
  makeFailure "SpanProcessorPipeline" code (str message) (str stage)

/-- `export_batch` of the next batch that the buffer hands out. -/
def exportNext (pipeline : SpanProcessorPipeline) : SpanProcessorPipeline × TraceOperationStatus :=
  let (batch, buffer) := pipeline.buffer.dequeueBatch
  match batch.getLast? with
  | none =>
    ({ pipeline with buffer }.refreshSnapshot, .success (str "trace-pipeline://idle"))
  | some last =>
    let (exporter, status) := pipeline.exporter.exportBatch batch
    let buffer :=
      if status.ok then buffer.markExportCycleComplete (last.endTsUnixMs.getD 0) else buffer
    let fate := if status.ok then Fate.exported else Fate.failed
    ({ pipeline with
        buffer
        exporter
        ledger.left := pipeline.ledger.left ++ batch.map fun span => (span, fate) }.refreshSnapshot,
      status)

/-- The loop of `flush_pending_buffer`; every turn takes a span out of the buffer. -/
def flushPendingBuffer : Nat → SpanProcessorPipeline → SpanProcessorPipeline × TraceOperationStatus
  | 0, pipeline => (pipeline.refreshSnapshot, .success (str "trace-pipeline://drained"))
  | fuel + 1, pipeline =>
    if pipeline.buffer.queueDepth = 0 then
      (pipeline.refreshSnapshot, .success (str "trace-pipeline://drained"))
    else
      let (pipeline, status) := pipeline.exportNext
      if !status.ok then (pipeline, status) else flushPendingBuffer fuel pipeline

def onEnd (pipeline : SpanProcessorPipeline) (span : Option SpanImpl) :
    SpanProcessorPipeline × TraceOperationStatus :=
  let refused := fail .configInvalid "span processor pipeline requires an ended span"
    "tracing.pipeline.on_end"
  match span with
  | none => (pipeline.refreshSnapshot, refused)
  | some span =>
    if !span.ended then (pipeline.refreshSnapshot, refused)
    else if !span.recording then
      ({ pipeline with ignoredSpanTotal := pipeline.ignoredSpanTotal + 1 }.refreshSnapshot,
        .success (str "trace-pipeline://ignored-non-recording"))
    else
      let (buffer, result) := pipeline.buffer.enqueue (some span)
      let dropped :=
        pipeline.buffer.queue.take (buffer.droppedTotal - pipeline.buffer.droppedTotal).toNat
      let pipeline :=
        { pipeline with
          processedSpanTotal := pipeline.processedSpanTotal + 1
          buffer
          ledger :=
            { entered := pipeline.ledger.entered ++ [(span, result.accepted)]
              left := pipeline.ledger.left ++ dropped.map fun span => (span, Fate.dropped) } }.refreshSnapshot
      if !result.status.ok then (pipeline, result.status)
      else if result.exportRequested || buffer.shouldExportNow (span.endTsUnixMs.getD 0) then
        pipeline.exportNext
      else (pipeline, .success (str "trace-pipeline://buffered"))

def forceFlush (pipeline : SpanProcessorPipeline) (timeoutMs : UInt32) :
    SpanProcessorPipeline × TraceOperationStatus :=
  if timeoutMs = 0 then
    (pipeline.refreshSnapshot, fail .exportTimeout
      "span processor pipeline force_flush() timed out before export completed"
      "tracing.pipeline.force_flush")
  else
    let (pipeline, status) := pipeline.flushPendingBuffer pipeline.buffer.queueDepth
    if !status.ok then (pipeline, status)
    else (pipeline.refreshSnapshot, pipeline.exporter.forceFlush timeoutMs)

def stopExporter (pipeline : SpanProcessorPipeline) (timeoutMs : UInt32) :
    SpanProcessorPipeline × TraceOperationStatus :=
  let (exporter, status) := pipeline.exporter.shutdown timeoutMs
  ({ pipeline with exporter }.refreshSnapshot, status)

def shutdown (pipeline : SpanProcessorPipeline) (timeoutMs : UInt32) (forceFlushOnStop : Bool) :
    SpanProcessorPipeline × TraceOperationStatus :=
  if timeoutMs = 0 then
    (pipeline.refreshSnapshot, fail .shutdownTimeout
      "span processor pipeline shutdown() timed out before exporter stopped"
      "tracing.pipeline.shutdown")
  else if forceFlushOnStop then
    let (pipeline, flushStatus) := pipeline.forceFlush timeoutMs
    if !flushStatus.ok then ((pipeline.stopExporter timeoutMs).1, flushStatus)
    else pipeline.stopExporter timeoutMs
  else pipeline.stopExporter timeoutMs

end SpanProcessorPipeline

end Dasall.Infra.Tracing
