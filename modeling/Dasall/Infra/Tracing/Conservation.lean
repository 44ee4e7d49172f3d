import Dasall.Infra.Tracing.Pipeline

/-!
# What becomes of a span

Every span that is processed is exported, lost in a failed export, dropped, refused, or still in the
buffer, and the counters say how many of each there are.
-/

open Dasall.Lib Dasall.Lib.Run Dasall.Lib.Text

namespace Dasall.Infra.Tracing
open Ledger


/-- The spans that the buffer took, in order. -/
def Ledger.accepted (ledger : Ledger) : List SpanImpl := (ledger.entered.filter (·.2)).map (·.1)

def Ledger.blocked (ledger : Ledger) : List (SpanImpl × Bool) := ledger.entered.filter (!·.2)

def Ledger.fated (ledger : Ledger) (fate : Fate) : List SpanImpl := Line.fated fate ledger.left

/-! ## One step of the buffer -/

namespace BatchSpanBuffer

/-- What `enqueue` does with a span that a valid buffer is given. -/
inductive Enqueued (buffer : BatchSpanBuffer) (span : SpanImpl) :
    BatchSpanBuffer × BatchSpanEnqueueResult → Prop
  | room (next : BatchSpanBuffer) (result : BatchSpanEnqueueResult)
    (hqueue : next.queue = buffer.queue ++ [span]) (hconfig : next.config = buffer.config)
    (hdropped : next.droppedTotal = buffer.droppedTotal)
    (hblocked : next.blockedEnqueueTotal = buffer.blockedEnqueueTotal)
    (haccepted : result.accepted = true) (hok : result.status.ok = true) :
    Enqueued buffer span (next, result)
  | blocked (next : BatchSpanBuffer) (result : BatchSpanEnqueueResult)
    (hqueue : next.queue = buffer.queue) (hconfig : next.config = buffer.config)
    (hdropped : next.droppedTotal = buffer.droppedTotal)
    (hblocked : next.blockedEnqueueTotal = buffer.blockedEnqueueTotal + 1)
    (haccepted : result.accepted = false) (hok : result.status.ok = false) :
    Enqueued buffer span (next, result)
  | overrun (oldest : SpanImpl) (rest : List SpanImpl) (next : BatchSpanBuffer)
    (result : BatchSpanEnqueueResult) (hfull : buffer.queue = oldest :: rest)
    (hqueue : next.queue = rest ++ [span]) (hconfig : next.config = buffer.config)
    (hdropped : next.droppedTotal = buffer.droppedTotal + 1)
    (hblocked : next.blockedEnqueueTotal = buffer.blockedEnqueueTotal)
    (haccepted : result.accepted = true) (hok : result.status.ok = true) :
    Enqueued buffer span (next, result)

theorem batch_isValid (config : TraceConfig) (h : config.isValid = true) :
    config.batch.isValid = true := by
  unfold TraceConfig.isValid at h
  simp only [Bool.and_eq_true] at h
  exact h.1.1.1.2

variable (buffer : BatchSpanBuffer)

theorem enqueue_spec (hconfig : buffer.config.isValid = true)
    (span : SpanImpl) (hended : span.ended = true) (hrecording : span.recording = true) :
    Enqueued buffer span (buffer.enqueue (some span)) := by
  have hbatch := batch_isValid _ hconfig
  have hcapacity : 0 < buffer.config.batch.maxQueueSize.toNat := by
    unfold TraceBatchConfig.isValid at hbatch
    simp only [Bool.and_eq_true, decide_eq_true_eq] at hbatch
    exact UInt32.lt_iff_toNat_lt.mp hbatch.1.1.1
  unfold enqueue
  dsimp only
  rw [if_neg (by simp [hconfig, hbatch]), if_neg (by simp [hended, hrecording])]
  split
  · next hfull =>
    split
    · exact .blocked _ _ rfl rfl rfl rfl rfl rfl
    · rcases hqueue : buffer.queue with _ | ⟨oldest, rest⟩
      · simp [queueDepth, hqueue] at hfull
        omega
      · exact .overrun oldest rest _ _ hqueue rfl rfl rfl rfl rfl rfl
  · exact .room _ _ rfl rfl rfl rfl rfl rfl

theorem dequeueBatch_append :
    buffer.queue = buffer.dequeueBatch.1 ++ buffer.dequeueBatch.2.queue :=
  (List.take_append_drop _ _).symm

theorem dequeueBatch_ne_nil (hconfig : buffer.config.isValid = true)
    (h : buffer.queue ≠ []) : buffer.dequeueBatch.1 ≠ [] := by
  have hbatch := batch_isValid _ hconfig
  have hlimit : buffer.defaultBatchLimit ≠ 0 := by
    unfold defaultBatchLimit
    split
    · unfold TraceBatchConfig.isValid at hbatch
      simp only [Bool.and_eq_true, decide_eq_true_eq, UInt32.lt_iff_toNat_lt] at hbatch
      have hsize := hbatch.1.1.2
      simp at hsize
      omega
    · unfold queueDepth
      rw [ne_eq, List.length_eq_zero_iff]
      exact h
  unfold dequeueBatch
  simp [hlimit, h]

end BatchSpanBuffer

theorem exportBatch_spec (exporter : SpanExporterAdapter) (batch : List SpanImpl)
    (hbatch : batch ≠ []) (hended : ∀ span ∈ batch, span.ended = true) :
    ((exporter.exportBatch batch).2.ok = true ∧
      (exporter.exportBatch batch).1.exportSuccessTotal =
        exporter.exportSuccessTotal + UInt64.ofNat batch.length ∧
      (exporter.exportBatch batch).1.exportFailureTotal = exporter.exportFailureTotal) ∨
    ((exporter.exportBatch batch).2.ok = false ∧
      (exporter.exportBatch batch).1.exportSuccessTotal = exporter.exportSuccessTotal ∧
      (exporter.exportBatch batch).1.exportFailureTotal =
        exporter.exportFailureTotal + UInt64.ofNat batch.length) := by
  have hexportable : SpanExporterAdapter.batchIsExportable batch = true := by
    unfold SpanExporterAdapter.batchIsExportable
    rw [Bool.and_eq_true, List.all_eq_true]
    exact ⟨by simpa using hbatch, hended⟩
  unfold SpanExporterAdapter.exportBatch
  rw [if_neg (by simp [hexportable])]
  dsimp only
  split
  · exact Or.inl ⟨rfl, rfl, rfl⟩
  split
  · unfold SpanExporterAdapter.exportFile
    split
    · exact Or.inr ⟨rfl, rfl, rfl⟩
    · exact Or.inl ⟨rfl, rfl, rfl⟩
  · exact Or.inr ⟨rfl, rfl, rfl⟩

/-! ## The books of a pipeline -/

structure Conserved (pipeline : SpanProcessorPipeline) : Prop where
  config : pipeline.buffer.config.isValid = true
  ended : ∀ span ∈ pipeline.buffer.queue, span.ended = true
  line : Line.Sound pipeline.ledger.accepted pipeline.ledger.left pipeline.buffer.queue
  processed : pipeline.processedSpanTotal = UInt64.ofNat pipeline.ledger.entered.length
  blocked : pipeline.buffer.blockedEnqueueTotal = UInt64.ofNat pipeline.ledger.blocked.length
  dropped : pipeline.buffer.droppedTotal = UInt64.ofNat (pipeline.ledger.fated .dropped).length
  exported : pipeline.exporter.exportSuccessTotal =
    UInt64.ofNat (pipeline.ledger.fated .exported).length
  failed : pipeline.exporter.exportFailureTotal =
    UInt64.ofNat (pipeline.ledger.fated .failed).length
  reported : pipeline.moduleSnapshot.droppedTotal = pipeline.buffer.droppedTotal

variable {pipeline : SpanProcessorPipeline} (config : TraceConfig) (calls : List TraceCall)

theorem Conserved.refresh (h : Conserved pipeline) :
    Conserved pipeline.refreshSnapshot :=
  { h with reported := rfl }

theorem defaultConfig_isValid : ({} : TraceConfig).isValid = true := by decide +kernel

theorem conserved_new : Conserved (.new config) := by
  have hvalid : (if config.isValid then config else {}).isValid = true := by
    split
    · assumption
    · exact defaultConfig_isValid
  exact ⟨hvalid, by simp [SpanProcessorPipeline.new, SpanProcessorPipeline.refreshSnapshot], rfl, rfl,
    rfl, rfl, rfl, rfl, rfl⟩

namespace SpanProcessorPipeline

variable (fuel : Nat) (pipeline : SpanProcessorPipeline) (timeoutMs : UInt32) (span : SpanImpl)
  (offered : BatchSpanBuffer × BatchSpanEnqueueResult)

theorem exportNext_conserved (h : Conserved pipeline) :
    Conserved pipeline.exportNext.1 := by
  have happend := pipeline.buffer.dequeueBatch_append
  have hended : ∀ span ∈ pipeline.buffer.dequeueBatch.1 ++ pipeline.buffer.dequeueBatch.2.queue,
      span.ended = true := by
    rw [← happend]
    exact h.ended
  have hbatch := fun span hspan => hended span (List.mem_append_left _ hspan)
  have hrest := fun span hspan => hended span (List.mem_append_right _ hspan)
  have hline := h.line
  rw [happend] at hline
  unfold exportNext
  dsimp only
  split
  · next hnone =>
    rw [List.getLast?_eq_none_iff] at hnone
    rw [hnone, List.nil_append] at hline
    exact { h with ended := hrest, line := hline, reported := rfl }
  · next last hlast =>
    have hne : pipeline.buffer.dequeueBatch.1 ≠ [] := by
      rintro hnil
      rw [hnil] at hlast
      simp at hlast
    rcases exportBatch_spec pipeline.exporter _ hne hbatch with
      ⟨hok, hsuccess, hfailure⟩ | ⟨hok, hsuccess, hfailure⟩
    · rw [if_pos hok, if_pos hok]
      have hexported := Line.count_leave h.exported pipeline.buffer.dequeueBatch.1
      exact ⟨h.config, hrest, hline.leave _, h.processed, h.blocked,
        Line.count_leave_other (by decide) h.dropped _, hsuccess.trans hexported,
        hfailure.trans (Line.count_leave_other (by decide) h.failed _), rfl⟩
    · rw [if_neg (by simp [hok]), if_neg (by simp [hok])]
      have hfailed := Line.count_leave h.failed pipeline.buffer.dequeueBatch.1
      exact ⟨h.config, hrest, hline.leave _, h.processed, h.blocked,
        Line.count_leave_other (by decide) h.dropped _,
        hsuccess.trans (Line.count_leave_other (by decide) h.exported _),
        hfailure.trans hfailed, rfl⟩

theorem exportNext_ok (h : Conserved pipeline)
    (hqueue : pipeline.buffer.queue ≠ []) (hok : pipeline.exportNext.2.ok = true) :
    ∃ batch, batch ≠ [] ∧ pipeline.buffer.queue = batch ++ pipeline.exportNext.1.buffer.queue ∧
      pipeline.exportNext.1.ledger.entered = pipeline.ledger.entered ∧
      pipeline.exportNext.1.ledger.left =
        pipeline.ledger.left ++ batch.map fun span => (span, Fate.exported) := by
  have hne := pipeline.buffer.dequeueBatch_ne_nil h.config hqueue
  have happend := pipeline.buffer.dequeueBatch_append
  unfold exportNext at hok ⊢
  dsimp only at hok ⊢
  split at hok
  · next hnone => exact absurd (List.getLast?_eq_none_iff.mp hnone) hne
  · next last hlast =>
    dsimp only at hok
    rw [if_pos hok, if_pos hok]
    exact ⟨pipeline.buffer.dequeueBatch.1, hne, happend, rfl, rfl⟩

theorem flushPendingBuffer_ok (h : Conserved pipeline) (hfuel : pipeline.buffer.queue.length ≤ fuel)
    (hok : (flushPendingBuffer fuel pipeline).2.ok = true) :
    (flushPendingBuffer fuel pipeline).1.buffer.queue = [] ∧
      (flushPendingBuffer fuel pipeline).1.ledger.entered = pipeline.ledger.entered ∧
      (flushPendingBuffer fuel pipeline).1.ledger.left =
        pipeline.ledger.left ++ pipeline.buffer.queue.map fun span => (span, Fate.exported) := by
  induction fuel generalizing pipeline with
  | zero =>
    have hempty : pipeline.buffer.queue = [] := List.length_eq_zero_iff.mp (by omega)
    exact ⟨hempty, rfl, by simp [flushPendingBuffer, refreshSnapshot, hempty]⟩
  | succ fuel ih =>
    unfold flushPendingBuffer at hok ⊢
    by_cases hempty : pipeline.buffer.queueDepth = 0
    · rw [if_pos hempty]
      have hnil : pipeline.buffer.queue = [] := List.length_eq_zero_iff.mp hempty
      exact ⟨hnil, rfl, by simp [refreshSnapshot, hnil]⟩
    · rw [if_neg hempty] at hok ⊢
      have hqueue : pipeline.buffer.queue ≠ [] := fun hnil => hempty (List.length_eq_zero_iff.mpr hnil)
      dsimp only at hok ⊢
      by_cases hnext : pipeline.exportNext.2.ok = true
      · obtain ⟨batch, hbatch, hsplit, hentered, hleft⟩ := exportNext_ok pipeline h hqueue hnext
        have hlength := congrArg List.length hsplit
        have hpositive := List.length_pos_of_ne_nil hbatch
        rw [List.length_append] at hlength
        rw [if_neg (by simp [hnext])] at hok ⊢
        obtain ⟨hnil, hkept, hexported⟩ :=
          ih _ (exportNext_conserved pipeline h) (by omega) hok
        refine ⟨hnil, hkept.trans hentered, ?_⟩
        rw [hexported, hleft, hsplit, List.map_append, List.append_assoc]
      · rw [if_pos (by simpa using hnext)] at hok
        exact absurd hok hnext

theorem flushPendingBuffer_conserved
    (h : Conserved pipeline) : Conserved (flushPendingBuffer fuel pipeline).1 := by
  induction fuel generalizing pipeline with
  | zero => exact h.refresh
  | succ fuel ih =>
    unfold flushPendingBuffer
    have hnext := exportNext_conserved pipeline h
    split
    · exact h.refresh
    dsimp only
    split
    · exact hnext
    · exact ih _ hnext

/-- The pipeline right after a span was offered to the buffer. -/
def entered (pipeline : SpanProcessorPipeline) (span : SpanImpl)
    (offered : BatchSpanBuffer × BatchSpanEnqueueResult) : SpanProcessorPipeline :=
  let dropped :=
    pipeline.buffer.queue.take (offered.1.droppedTotal - pipeline.buffer.droppedTotal).toNat
  { pipeline with
    processedSpanTotal := pipeline.processedSpanTotal + 1
    buffer := offered.1
    ledger :=
      { entered := pipeline.ledger.entered ++ [(span, offered.2.accepted)]
        left := pipeline.ledger.left ++ dropped.map fun span => (span, Fate.dropped) } }.refreshSnapshot

theorem entered_kept (hdropped : offered.1.droppedTotal = pipeline.buffer.droppedTotal) :
    (pipeline.entered span offered).ledger.left = pipeline.ledger.left := by
  simp [entered, refreshSnapshot, hdropped]

theorem entered_overrun (oldest : SpanImpl)
    (rest : List SpanImpl) (offered : BatchSpanBuffer × BatchSpanEnqueueResult)
    (hfull : pipeline.buffer.queue = oldest :: rest)
    (hdropped : offered.1.droppedTotal = pipeline.buffer.droppedTotal + 1) :
    (pipeline.entered span offered).ledger.left =
      pipeline.ledger.left ++ [oldest].map fun span => (span, Fate.dropped) := by
  have hone : offered.1.droppedTotal - pipeline.buffer.droppedTotal = 1 := by
    rw [hdropped]
    grind
  simp [entered, refreshSnapshot, hone, hfull]

theorem entered_accepted (haccepted : offered.2.accepted = true) :
    (pipeline.entered span offered).ledger.accepted = pipeline.ledger.accepted ++ [span] ∧
      (pipeline.entered span offered).ledger.blocked = pipeline.ledger.blocked := by
  simp [entered, refreshSnapshot, accepted, blocked, haccepted]

theorem entered_refused (haccepted : offered.2.accepted = false) :
    (pipeline.entered span offered).ledger.accepted = pipeline.ledger.accepted ∧
      (pipeline.entered span offered).ledger.blocked.length = pipeline.ledger.blocked.length + 1 := by
  simp [entered, refreshSnapshot, accepted, blocked, haccepted]

theorem entered_conserved (h : Conserved pipeline)
    (span : SpanImpl) (hended : span.ended = true)
    (offered : BatchSpanBuffer × BatchSpanEnqueueResult)
    (henqueued : pipeline.buffer.Enqueued span offered) : Conserved (pipeline.entered span offered) := by
  have hprocessed (accepted : Bool) : pipeline.processedSpanTotal + 1 =
      UInt64.ofNat (pipeline.ledger.entered ++ [(span, accepted)]).length := by
    rw [h.processed, List.length_append, UInt64.ofNat_add]
    rfl
  have hjoined := h.line.join span
  have hqueue : ∀ waiting ∈ pipeline.buffer.queue ++ [span], waiting.ended = true := by
    intro waiting hwaiting
    rcases List.mem_append.mp hwaiting with hold | hnew
    · exact h.ended waiting hold
    · rw [List.mem_singleton.mp hnew]
      exact hended
  rcases henqueued with ⟨next, result, hnext, hconfig, hdropped, hblocked, haccepted, hok⟩ |
    ⟨next, result, hnext, hconfig, hdropped, hblocked, haccepted, hok⟩ |
    ⟨oldest, rest, next, result, hfull, hnext, hconfig, hdropped, hblocked, haccepted, hok⟩
  · obtain ⟨hjoins, hblocks⟩ := pipeline.entered_accepted span (next, result) haccepted
    have hleft := pipeline.entered_kept span (next, result) hdropped
    refine ⟨hconfig ▸ h.config, hnext ▸ hqueue, ?_, hprocessed _, ?_, ?_, ?_, ?_, rfl⟩
    · rw [hjoins, hleft]
      exact hnext ▸ hjoined
    · rw [hblocks]
      exact hblocked.trans h.blocked
    · rw [fated, hleft]
      exact hdropped.trans h.dropped
    · rw [fated, hleft]
      exact h.exported
    · rw [fated, hleft]
      exact h.failed
  · obtain ⟨hjoins, hblocks⟩ := pipeline.entered_refused span (next, result) haccepted
    have hleft := pipeline.entered_kept span (next, result) hdropped
    refine ⟨hconfig ▸ h.config, hnext ▸ h.ended, ?_, hprocessed _, ?_, ?_, ?_, ?_, rfl⟩
    · rw [hjoins, hleft]
      exact hnext ▸ h.line
    · rw [hblocks, UInt64.ofNat_add, ← h.blocked]
      exact hblocked
    · rw [fated, hleft]
      exact hdropped.trans h.dropped
    · rw [fated, hleft]
      exact h.exported
    · rw [fated, hleft]
      exact h.failed
  · obtain ⟨hjoins, hblocks⟩ := pipeline.entered_accepted span (next, result) haccepted
    have hleft := pipeline.entered_overrun span oldest rest (next, result) hfull hdropped
    rw [hfull] at hjoined hqueue
    refine ⟨hconfig ▸ h.config, hnext ▸ fun waiting hwaiting => hqueue waiting (.tail _ hwaiting), ?_,
      hprocessed _, ?_, ?_, ?_, ?_, rfl⟩
    · rw [hjoins, hleft]
      have hleaves : Line.Sound _ _ ([oldest] ++ (rest ++ [span])) := hjoined
      exact hnext ▸ hleaves.leave _
    · rw [hblocks]
      exact hblocked.trans h.blocked
    · rw [fated, hleft]
      exact hdropped.trans (Line.count_leave h.dropped [oldest])
    · rw [fated, hleft]
      exact Line.count_leave_other (by decide) h.exported _
    · rw [fated, hleft]
      exact Line.count_leave_other (by decide) h.failed _

theorem onEnd_conserved (span : Option SpanImpl)
    (h : Conserved pipeline) : Conserved (pipeline.onEnd span).1 := by
  unfold onEnd
  dsimp only
  rcases span with _ | span
  · exact h.refresh
  dsimp only
  split
  · exact h.refresh
  · next hended =>
    split
    · exact { h with reported := rfl }
    · next hrecording =>
      have hentered := entered_conserved pipeline h span (by simpa using hended) _
        (BatchSpanBuffer.enqueue_spec _ h.config span (by simpa using hended)
          (by simpa using hrecording))
      split
      · exact hentered
      split
      · exact exportNext_conserved _ hentered
      · exact hentered

theorem forceFlush_conserved
    (h : Conserved pipeline) : Conserved (pipeline.forceFlush timeoutMs).1 := by
  unfold forceFlush
  split
  · exact h.refresh
  have hflushed := flushPendingBuffer_conserved pipeline.buffer.queueDepth pipeline h
  dsimp only
  split
  · exact hflushed
  · exact hflushed.refresh

theorem forceFlush_ok (h : Conserved pipeline) (hok : (pipeline.forceFlush timeoutMs).2.ok = true) :
    (pipeline.forceFlush timeoutMs).1.buffer.queue = [] ∧
      (pipeline.forceFlush timeoutMs).1.ledger.entered = pipeline.ledger.entered ∧
      (pipeline.forceFlush timeoutMs).1.ledger.left =
        pipeline.ledger.left ++ pipeline.buffer.queue.map fun span => (span, Fate.exported) := by
  unfold forceFlush at hok ⊢
  split at hok
  · exact absurd hok (by simp [fail])
  next htimeout =>
    rw [if_neg htimeout]
    dsimp only at hok ⊢
    split at hok
    · next hfailed => exact absurd hok (by simpa using hfailed)
    · next hflushed =>
      rw [if_neg hflushed]
      exact flushPendingBuffer_ok _ pipeline h le_rfl (by simpa using hflushed)

theorem stopExporter_conserved
    (h : Conserved pipeline) : Conserved (pipeline.stopExporter timeoutMs).1 := by
  have htotals : (pipeline.exporter.shutdown timeoutMs).1.exportSuccessTotal =
        pipeline.exporter.exportSuccessTotal ∧
      (pipeline.exporter.shutdown timeoutMs).1.exportFailureTotal =
        pipeline.exporter.exportFailureTotal := by
    unfold SpanExporterAdapter.shutdown
    split
    · exact ⟨rfl, rfl⟩
    · exact ⟨rfl, rfl⟩
  exact { h with
    exported := htotals.1.trans h.exported
    failed := htotals.2.trans h.failed
    reported := rfl }

theorem shutdown_conserved (forceFlushOnStop : Bool) (h : Conserved pipeline) :
    Conserved (pipeline.shutdown timeoutMs forceFlushOnStop).1 := by
  unfold shutdown
  split
  · exact h.refresh
  split
  · have hflushed := forceFlush_conserved pipeline timeoutMs h
    dsimp only
    split
    · exact stopExporter_conserved _ timeoutMs hflushed
    · exact stopExporter_conserved _ timeoutMs hflushed
  · exact stopExporter_conserved _ timeoutMs h

end SpanProcessorPipeline

/-! ## Whole runs -/

inductive TraceCall
  | onEnd (span : Option SpanImpl)
  | forceFlush (timeoutMs : UInt32)
  | shutdown (timeoutMs : UInt32) (forceFlushOnStop : Bool)
deriving DecidableEq

def SpanProcessorPipeline.call (pipeline : SpanProcessorPipeline) :
    TraceCall → SpanProcessorPipeline × TraceOperationStatus
  | .onEnd span => pipeline.onEnd span
  | .forceFlush timeoutMs => pipeline.forceFlush timeoutMs
  | .shutdown timeoutMs forceFlushOnStop => pipeline.shutdown timeoutMs forceFlushOnStop

/-- The span that a call counts as processed. -/
def TraceCall.span? : TraceCall → Option SpanImpl
  | .onEnd (some span) => if span.ended && span.recording then some span else none
  | _ => none

theorem call_conserved (pipeline : SpanProcessorPipeline) (call : TraceCall)
    (h : Conserved pipeline) : Conserved (pipeline.call call).1 := by
  rcases call with span | timeoutMs | ⟨timeoutMs, forceFlushOnStop⟩
  · exact pipeline.onEnd_conserved span h
  · exact pipeline.forceFlush_conserved timeoutMs h
  · exact pipeline.shutdown_conserved timeoutMs forceFlushOnStop h

namespace SpanProcessorPipeline

variable (pipeline : SpanProcessorPipeline) (timeoutMs : UInt32)

theorem exportNext_entered :
    pipeline.exportNext.1.ledger.entered = pipeline.ledger.entered := by
  unfold exportNext
  dsimp only
  split
  · rfl
  · rfl

theorem flushPendingBuffer_entered (fuel : Nat) (pipeline : SpanProcessorPipeline) :
    (flushPendingBuffer fuel pipeline).1.ledger.entered = pipeline.ledger.entered := by
  induction fuel generalizing pipeline with
  | zero => rfl
  | succ fuel ih =>
    unfold flushPendingBuffer
    split
    · rfl
    dsimp only
    split
    · exact pipeline.exportNext_entered
    · exact (ih _).trans pipeline.exportNext_entered

theorem forceFlush_entered :
    (pipeline.forceFlush timeoutMs).1.ledger.entered = pipeline.ledger.entered := by
  unfold forceFlush
  split
  · rfl
  dsimp only
  split
  · exact flushPendingBuffer_entered _ pipeline
  · exact flushPendingBuffer_entered _ pipeline

theorem shutdown_entered (forceFlushOnStop : Bool) :
    (pipeline.shutdown timeoutMs forceFlushOnStop).1.ledger.entered = pipeline.ledger.entered := by
  unfold shutdown
  split
  · rfl
  split
  · dsimp only
    split
    · exact forceFlush_entered pipeline timeoutMs
    · exact forceFlush_entered pipeline timeoutMs
  · rfl

theorem onEnd_entered (span : Option SpanImpl) :
    (pipeline.onEnd span).1.ledger.entered.map Prod.fst =
      pipeline.ledger.entered.map Prod.fst ++ (TraceCall.span? (.onEnd span)).toList := by
  unfold onEnd TraceCall.span?
  dsimp only
  rcases span with _ | span
  · exact (List.append_nil _).symm
  dsimp only
  by_cases hended : span.ended = true
  · by_cases hrecording : span.recording = true
    · have hcounted : (if span.ended && span.recording then some span else none) = some span :=
        if_pos (by simp [hended, hrecording])
      rw [if_neg (by simp [hended]), if_neg (by simp [hrecording]), hcounted]
      split
      · exact List.map_append
      split
      · rw [exportNext_entered]
        exact List.map_append
      · exact List.map_append
    · rw [if_neg (by simp [hended]), if_pos (by simpa using hrecording), if_neg (by simp [hrecording])]
      exact (List.append_nil _).symm
  · rw [if_pos (by simpa using hended), if_neg (by simp [hended])]
    exact (List.append_nil _).symm

end SpanProcessorPipeline

theorem call_entered (pipeline : SpanProcessorPipeline) (call : TraceCall) :
    (pipeline.call call).1.ledger.entered.map Prod.fst =
      pipeline.ledger.entered.map Prod.fst ++ call.span?.toList := by
  rcases call with span | timeoutMs | ⟨timeoutMs, forceFlushOnStop⟩
  · exact pipeline.onEnd_entered span
  · exact (congrArg _ (pipeline.forceFlush_entered timeoutMs)).trans (List.append_nil _).symm
  · exact (congrArg _ (pipeline.shutdown_entered timeoutMs forceFlushOnStop)).trans
      (List.append_nil _).symm

/-- The pipeline after some calls. -/
def after (config : TraceConfig) (calls : List TraceCall) : SpanProcessorPipeline :=
  (run SpanProcessorPipeline.call (.new config) calls).1

theorem after_conserved :
    Conserved (after config calls) :=
  invariant_run _ Conserved (fun pipeline call h => call_conserved pipeline call h) _ calls
    (conserved_new config)

theorem after_entered :
    (after config calls).ledger.entered.map Prod.fst = calls.filterMap (·.span?) := by
  unfold after
  induction calls using List.reverseRecOn with
  | nil => rfl
  | append_singleton calls call ih =>
    rw [run_snoc, call_entered, ih, List.filterMap_append]
    rcases hspan : call.span? with _ | span
    · simp [hspan]
    · simp [hspan]

/-! ## The counters add up -/

theorem left_length (left : List (SpanImpl × Fate)) :
    left.length = (Line.fated .exported left).length + (Line.fated .dropped left).length +
      (Line.fated .failed left).length := by
  induction left with
  | nil => rfl
  | cons item left ih =>
    rw [List.length_cons, ih, Line.fated_cons, Line.fated_cons, Line.fated_cons]
    rcases item with ⟨span, _ | _ | _⟩
    · simp
      omega
    · simp
      omega
    · simp
      omega

theorem entered_length (ledger : Ledger) :
    ledger.entered.length = ledger.accepted.length + ledger.blocked.length := by
  unfold accepted blocked
  rw [List.length_map]
  exact List.length_eq_length_filter_add _

theorem Conserved.balance (h : Conserved pipeline) :
    pipeline.processedSpanTotal = pipeline.exporter.exportSuccessTotal +
      UInt64.ofNat pipeline.buffer.queue.length + pipeline.moduleSnapshot.droppedTotal +
      pipeline.buffer.blockedEnqueueTotal + pipeline.exporter.exportFailureTotal := by
  have haccepted : pipeline.ledger.accepted.length =
      pipeline.ledger.left.length + pipeline.buffer.queue.length := by
    have hline := congrArg List.length h.line
    rwa [List.length_append, List.length_map] at hline
  have hentered : pipeline.ledger.entered.length = (pipeline.ledger.fated .exported).length +
      pipeline.buffer.queue.length + (pipeline.ledger.fated .dropped).length +
      pipeline.ledger.blocked.length + (pipeline.ledger.fated .failed).length := by
    have hleft := left_length pipeline.ledger.left
    rw [entered_length, haccepted, hleft]
    unfold fated
    omega
  rw [h.processed, hentered, h.exported, h.reported, h.dropped, h.blocked, h.failed]
  simp only [UInt64.ofNat_add]

/-- In every run the processed spans are those exported, queued, dropped, refused under the block
policy, or counted as failed exports; the exported ones are some of the ended recording spans, in
`on_end` order; and a flush that succeeds exports all that was queued. -/
theorem spans_conserved (config : TraceConfig) (calls : List TraceCall) :
    (after config calls).processedSpanTotal =
      (after config calls).exporter.exportSuccessTotal +
        UInt64.ofNat (after config calls).buffer.queue.length +
        (after config calls).moduleSnapshot.droppedTotal +
        (after config calls).buffer.blockedEnqueueTotal +
        (after config calls).exporter.exportFailureTotal ∧
    (after config calls).processedSpanTotal =
      UInt64.ofNat (calls.filterMap (·.span?)).length ∧
    (after config calls).exporter.exportSuccessTotal =
      UInt64.ofNat ((after config calls).ledger.fated .exported).length ∧
    ((after config calls).ledger.fated .exported).Sublist (calls.filterMap (·.span?)) ∧
    ∀ timeoutMs, ((after config calls).forceFlush timeoutMs).2.ok = true →
      ((after config calls).forceFlush timeoutMs).1.buffer.queue = [] ∧
      ((after config calls).forceFlush timeoutMs).1.ledger.left = (after config calls).ledger.left ++
        (after config calls).buffer.queue.map (fun span => (span, Fate.exported)) ∧
      ((after config calls).forceFlush timeoutMs).1.ledger.left.map Prod.fst =
        (after config calls).ledger.accepted := by
  have h := after_conserved config calls
  have hentered := after_entered config calls
  have hsublist : ((after config calls).ledger.fated .exported).Sublist
      (calls.filterMap (·.span?)) := by
    have haccepted : (after config calls).ledger.accepted.Sublist
        ((after config calls).ledger.entered.map Prod.fst) := List.filter_sublist.map _
    rw [← hentered]
    exact (Line.fated_sublist h.line .exported).trans haccepted
  refine ⟨h.balance, ?_, h.exported, hsublist, fun timeoutMs hok => ?_⟩
  · rw [← hentered, List.length_map]
    exact h.processed
  · obtain ⟨hempty, hkept, hleft⟩ := (after config calls).forceFlush_ok timeoutMs h hok
    have hline := ((after config calls).forceFlush_conserved timeoutMs h).line
    unfold Line.Sound at hline
    rw [hempty, List.append_nil] at hline
    refine ⟨hempty, hleft, hline.symm.trans ?_⟩
    unfold Ledger.accepted
    rw [hkept]

def slowFileConfig : TraceConfig :=
  { batch := { maxQueueSize := 2, maxExportBatchSize := 2 }
    exportTimeoutMs := 1
    exporter := { type := str "file" } }

def sampleSpan (spanId : String) : SpanImpl :=
  { traceId := str "4bf92f3577b34da6a3ce929d0e0e4736"
    spanId := str spanId
    name := str "runtime.turn"
    endTsUnixMs := some 1000 }

def twoSpans : List TraceCall := [.onEnd (some (sampleSpan "00f067aa0ba902b7")), .onEnd (some (sampleSpan "00f067aa0ba902b8"))]

/-- A batch whose export times out is in none of the four counts, and the next flush succeeds. -/
theorem failed_batch_uncounted :
    (after slowFileConfig twoSpans).processedSpanTotal ≠
      (after slowFileConfig twoSpans).exporter.exportSuccessTotal +
        UInt64.ofNat (after slowFileConfig twoSpans).buffer.queue.length +
        (after slowFileConfig twoSpans).moduleSnapshot.droppedTotal +
        (after slowFileConfig twoSpans).buffer.blockedEnqueueTotal ∧
    ((after slowFileConfig twoSpans).forceFlush 1000).2.ok = true ∧
    (((after slowFileConfig twoSpans).forceFlush 1000).1.ledger.fated .exported) = [] ∧
    (((after slowFileConfig twoSpans).forceFlush 1000).1.ledger.fated .dropped) = [] ∧
    ((after slowFileConfig twoSpans).forceFlush 1000).1.ledger.accepted.length = 2 := by
  decide +kernel

end Dasall.Infra.Tracing
