import Dasall.Runtime.Checkpoint.Store

/-!
# Strict reading

A record file may hold anything. The reader reserves memory for counts that it has not checked, and
reads numbers that are not written as the writer writes them.
-/

open Dasall.Lib.Text Dasall.Lib.KeyValue Dasall.Lib.Disk Dasall.Lib.Guard Dasall.Contracts

namespace Dasall.Runtime

/-! ## Reservations -/

/-- Whether `reserve` gets the memory for so many elements. -/
structure Allocator where
  tags : UInt32 → Bool
  entries : UInt32 → Bool

/-- The count of tags to reserve, where all fields that are read before it decode. -/
def reachedTagCount (fields : Fields) : Except Bytes UInt32 := do
  let string := decodeRequiredStringField .checkpoint fields
  let optional := decodeOptionalStringField .checkpoint fields
  let _ ← string (str "checkpoint_id")
  let _ ← string (str "step_id")
  let _ ← string (str "working_memory_snapshot")
  let _ ← string (str "pending_action")
  let _ ← optional (str "request_id")
  let _ ← optional (str "goal_id")
  let _ ← optional (str "belief_state_ref")
  let _ ← decodeOptionalIntegerField .checkpoint fields (str "retry_count") stoul32
  let _ ← decodeOptionalIntegerField .checkpoint fields (str "created_at") stoll
  let _ ← decodeRequiredIntegerField .checkpoint fields (str "state") stoul32
  decodeRequiredIntegerField .checkpoint fields (str "tag_count") stoul32

/-- The count of budget entries to reserve, zero where the record has no budget snapshot. -/
def reachedEntryCount (fields : Fields) : Except Bytes UInt32 := do
  let _ ← reachedTagCount fields
  let _ ← readTags fields
  let present ←
    decodeRequiredIntegerField .checkpoint fields (str "budget_snapshot_present") stoul32
  if present = 1 then
    let _ ← decodeOptionalIntegerField .checkpoint fields (str "budget_snapshot.snapshot_at_ms")
      stoull
    let _ ← decodeOptionalStringField .checkpoint fields
      (str "budget_snapshot.overall_reject_reason")
    decodeRequiredIntegerField .checkpoint fields (str "budget_snapshot.entry_count") stoul32
  else .ok 0

/-- A reservation of nothing asks for no memory. -/
def refuses (reserve : UInt32 → Bool) : Except Bytes UInt32 → Bool
  | .ok count => count ≠ 0 && !reserve count
  | .error _ => false

def throwsBadAlloc (allocator : Allocator) (fields : Fields) : Bool :=
  refuses allocator.tags (reachedTagCount fields) ||
    refuses allocator.entries (reachedEntryCount fields)

/-- The fields of the record file, where it can be read as lines of keys and values. -/
def durableFields (files : FileSystem) (opens : Bool) (root : StateRoot) (checkpointRef : Bytes) :
    Option Fields :=
  match files.files (checkpointRecordPath root checkpointRef) with
  | none => none
  | some text => if opens then parseKeyValueFile text else none

/-- `load`, which has no result where a reservation throws. -/
def CheckpointManager.loadWithin (manager : CheckpointManager) (allocator : Allocator)
    (files : FileSystem) (opens : Bool) (checkpointRef : Bytes) :
    Option (CheckpointManager × CheckpointLoadResult) :=
  let read :=
    match manager.storedCheckpoints checkpointRef with
    | some _ => none
    | none => manager.durableStateRoot.bind (durableFields files opens · checkpointRef)
  if read.any (throwsBadAlloc allocator) then none
  else some (manager.load files opens checkpointRef)

/-! ## Integer fields -/

inductive IntegerWidth
  | uint32
  | uint64
  | int64

/-- What `decode_optional_integer_field` makes of the text. -/
def IntegerWidth.decode : IntegerWidth → Bytes → Option Int
  | .uint32, text => (stoul32 text).map fun value => (value.toNat : Int)
  | .uint64, text => (stoull text).map fun value => (value.toNat : Int)
  | .int64, text => (stoll text).map Int64.toInt

def IntegerWidth.Holds : IntegerWidth → Int → Prop
  | .uint32, value => 0 ≤ value ∧ value < 2 ^ 32
  | .uint64, value => 0 ≤ value ∧ value < 2 ^ 64
  | .int64, value => -2 ^ 63 ≤ value ∧ value < 2 ^ 63

def entryIntegerFields (index : Nat) : List (Bytes × IntegerWidth) :=
  let pre := budgetEntryPrefix index
  [(pre ++ str "type", .uint32), (pre ++ str "current", .uint64), (pre ++ str "max", .uint64),
    (pre ++ str "remaining", .int64)]

/-- The integer fields that the reader decodes. -/
def integerFields (fields : Fields) : List (Bytes × IntegerWidth) :=
  let count (key : String) : Option UInt32 := (find fields (str key)).bind stoul32
  [(str "state", .uint32), (str "retry_count", .uint32), (str "created_at", .int64),
    (str "tag_count", .uint32), (str "budget_snapshot_present", .uint32)] ++
  if count "budget_snapshot_present" = some 1 then
    [(str "budget_snapshot.snapshot_at_ms", .uint64),
      (str "budget_snapshot.entry_count", .uint32)] ++
    (List.range ((count "budget_snapshot.entry_count").getD 0).toNat).flatMap entryIntegerFields
  else []

/-- The text is the numeral of the value decoded from it. -/
def Canonical (width : IntegerWidth) (text : Bytes) : Prop :=
  ∃ value, width.decode text = some value ∧ text = intDecimal value

/-- A decimal numeral with no sign but a minus, no leading zero and nothing around it, in range. -/
def Numeral (width : IntegerWidth) (text : Bytes) : Prop :=
  ∃ value, width.Holds value ∧ text = intDecimal value

variable {width : IntegerWidth} {text : Bytes}

theorem decode_numeral {value : Int} (h : width.Holds value) :
    width.decode (intDecimal value) = some value := by
  cases width with
  | uint32 =>
    obtain ⟨hlow, hhigh⟩ := h
    have hsize : value.toNat < 2 ^ 32 := by omega
    have hvalue : ((UInt32.ofNat value.toNat).toNat : Int) = value := by
      rw [UInt32.toNat_ofNat_of_lt' hsize, Int.toNat_of_nonneg hlow]
    have hread := stoul32_nat (UInt32.ofNat value.toNat)
    rw [hvalue] at hread
    simp only [IntegerWidth.decode, hread, Option.map_some, hvalue]
  | uint64 =>
    obtain ⟨hlow, hhigh⟩ := h
    have hsize : value.toNat < 2 ^ 64 := by omega
    have hvalue : ((UInt64.ofNat value.toNat).toNat : Int) = value := by
      rw [UInt64.toNat_ofNat_of_lt' hsize, Int.toNat_of_nonneg hlow]
    have hread := stoull_nat (UInt64.ofNat value.toNat)
    rw [hvalue] at hread
    simp only [IntegerWidth.decode, hread, Option.map_some, hvalue]
  | int64 =>
    have hvalue : (Int64.ofInt value).toInt = value := Int64.toInt_ofInt_of_le h.1 h.2
    have hread := stoll_intDecimal (Int64.ofInt value)
    rw [hvalue] at hread
    simp only [IntegerWidth.decode, hread, Option.map_some, hvalue]

theorem holds_of_decode {value : Int} (h : width.decode text = some value) : width.Holds value := by
  cases width with
  | uint32 =>
    obtain ⟨read, -, rfl⟩ := Option.map_eq_some_iff.mp h
    have := read.toNat_lt
    exact ⟨by omega, by omega⟩
  | uint64 =>
    obtain ⟨read, -, rfl⟩ := Option.map_eq_some_iff.mp h
    have := read.toNat_lt
    exact ⟨by omega, by omega⟩
  | int64 =>
    obtain ⟨read, -, rfl⟩ := Option.map_eq_some_iff.mp h
    exact ⟨read.le_toInt, read.toInt_lt⟩

theorem canonical_iff : Canonical width text ↔ Numeral width text := by
  constructor
  · rintro ⟨value, hdecode, htext⟩
    exact ⟨value, holds_of_decode hdecode, htext⟩
  · rintro ⟨value, hholds, rfl⟩
    exact ⟨value, decode_numeral hholds, rfl⟩

/-! ## The state -/

theorem ofRaw_listed (raw : UInt32) :
    (∀ other, CheckpointState.ofRaw raw.toInt32 ≠ .unlisted other) ↔ raw.toNat ≤ 6 := by
  have hsigned : raw.toInt32.toInt = (raw.toNat : Int).bmod (2 ^ 32) :=
    BitVec.toInt_eq_toNat_bmod _
  have hbound := raw.toNat_lt
  have hrange : raw.toInt32 < 0 ∨ 6 < raw.toInt32 ↔ 6 < raw.toNat := by
    rw [Int32.lt_iff_toInt_lt, Int32.lt_iff_toInt_lt, hsigned, Int.bmod_def]
    simp only [Int32.toInt_zero]
    have hsix : (6 : Int32).toInt = 6 := rfl
    rw [hsix]
    omega
  unfold CheckpointState.ofRaw
  split
  · rename_i hout
    refine iff_of_false (fun h => h _ rfl) ?_
    have := hrange.mp hout
    omega
  · rename_i hin
    rw [hrange] at hin
    refine iff_of_true (fun other => ?_) (by omega)
    split_ifs <;> simp

/-- The contract guard asks more of a consistent checkpoint only in that its state has a name. -/
theorem fieldRules_of_consistent {checkpoint : Checkpoint} {state : CheckpointState}
    (h : Consistent checkpoint) (hstate : checkpoint.state = some state) :
    (∃ reason, validateCheckpointFieldRules checkpoint = .ok reason) ↔
      ∀ other, state ≠ .unlisted other := by
  constructor
  · rintro ⟨reason, hrules⟩
    obtain ⟨-, state', -, hstate', -, -, hlisted, -⟩ := fieldRules_spec _ _ hrules
    rw [hstate, Option.some.injEq] at hstate'
    exact hstate' ▸ hlisted
  · intro hlisted
    have hchecks := (checkpointConsistency_eq_ok checkpoint).mpr h
    simp only [checkpointConsistency, bind_eq_ok, ensure_eq_ok, exists_const] at hchecks
    obtain ⟨hid, hstep, hmemory, hconcrete, haction, hrequest, hgoal, hbelief, hcreated, htags, htag,
      hwaiting, -⟩ := hchecks
    have hrange : (0 ≤ state.toRaw && state.toRaw ≤ 6) = true := by
      cases state with
      | unlisted raw => exact absurd rfl (hlisted raw)
      | unspecified | running | paused | waitingConfirm | waitingTool | failed | succeeded => rfl
    simp only [validateCheckpointFieldRules, validateCheckpointBoundary,
      validateCheckpointRequiredFields, bind_eq_ok, require_eq_ok, deref_eq_ok, pass_eq_ok,
      exists_const]
    exact ⟨_, _, ⟨_, ⟨hid, hconcrete, hstep, hmemory, haction, rfl⟩, state, hstate, hrange, hrequest,
      hgoal, hbelief, hcreated, rfl⟩, htags, htag, hwaiting, rfl⟩

/-- The state is the cast of what its field decodes to. -/
theorem readCheckpointFields_state {fields : Fields} {ref : Bytes}
    {record : ParsedCheckpointRecord} (h : readCheckpointFields fields ref = .ok record) :
    ∃ text raw, find fields (str "state") = some text ∧ stoul32 text = some raw ∧
      record.checkpoint.state = some (.ofRaw raw.toInt32) := by
  simp only [readCheckpointFields, bind_eq_ok] at h
  obtain ⟨_, -, _, -, _, -, _, -, _, -, _, -, _, -, _, -, _, -, raw, hraw, _, -, _, -, hrecord⟩ := h
  split at hrecord
  · rw [Except.ok.injEq] at hrecord
    simp only [decodeRequiredIntegerField, decodeOptionalIntegerField] at hraw
    split at hraw
    · cases hraw
    · rename_i text htext
      split at hraw
      · cases hraw
      · rename_i value hvalue
        simp only [required, Except.ok.injEq] at hraw
        subst hraw
        exact ⟨text, value, htext, hvalue, by rw [← hrecord]⟩
  · cases hrecord

/-! ## Loading from the durable store -/

section Loading

variable {manager : CheckpointManager} {root : StateRoot} {ref : Bytes} (allocator : Allocator)
  (files : FileSystem) (opens : Bool)

/-- What is asked of loading a checkpoint: an error, or a checkpoint that the contract guard accepts
and whose integers are written as they were decoded. It does not throw. -/
def StrictlyLoaded (manager : CheckpointManager) (root : StateRoot) (ref : Bytes) : Prop :=
  ∃ next result, manager.loadWithin allocator files opens ref = some (next, result) ∧
    (result.errorCode.isSome = true ∨
      ∃ checkpoint fields reason, result.checkpoint = some checkpoint ∧
        validateCheckpointFieldRules checkpoint = .ok reason ∧
        durableFields files opens root ref = some fields ∧
        ∀ field ∈ integerFields fields, ∀ text, find fields field.1 = some text →
          Canonical field.2 text)

/-- The record is one that the reader and its own consistency check accept. -/
def Readable (fields : Fields) (ref : Bytes) : Prop :=
  ∃ record, readCheckpointFields fields ref = .ok record ∧ Consistent record.checkpoint

/-- The integers of the record are numerals in range, and that of the state names a state. -/
structure WellWritten (fields : Fields) : Prop where
  state : ∃ value : Int, 1 ≤ value ∧ value ≤ 6 ∧
    find fields (str "state") = some (intDecimal value)
  numeral : ∀ field ∈ integerFields fields, ∀ text, find fields field.1 = some text →
    Numeral field.2 text

theorem load_unreadable (huncached : manager.storedCheckpoints ref = none)
    (hroot : manager.durableStateRoot = some root)
    (h : durableFields files opens root ref = none) :
    ∃ issue detail, manager.load files opens ref = (manager, notLoaded issue detail) := by
  unfold durableFields at h
  unfold CheckpointManager.load readDurableCheckpointRecord
  simp only [huncached, hroot]
  cases hfile : files.files (checkpointRecordPath root ref) with
  | none => exact ⟨_, _, rfl⟩
  | some text =>
    rw [hfile] at h
    cases opens with
    | false => exact ⟨_, _, rfl⟩
    | true =>
      simp only [if_true] at h
      simp only [h]
      exact ⟨_, _, rfl⟩

theorem load_durable (huncached : manager.storedCheckpoints ref = none)
    (hroot : manager.durableStateRoot = some root) {fields : Fields}
    (h : durableFields files opens root ref = some fields) :
    (manager.load files opens ref).2 =
      match readCheckpointFields fields ref with
      | .error detail => notLoaded .invalidCheckpointState detail
      | .ok record => loadedRecord record (str "checkpoint loaded from durable store") := by
  unfold durableFields at h
  unfold CheckpointManager.load readDurableCheckpointRecord
  simp only [huncached, hroot]
  cases hfile : files.files (checkpointRecordPath root ref) with
  | none =>
    rw [hfile] at h
    cases h
  | some text =>
    rw [hfile] at h
    cases opens with
    | false => cases h
    | true =>
      simp only [if_true] at h
      simp only [h]
      cases readCheckpointFields fields ref with
      | error detail => rfl
      | ok record => rfl

theorem loadedRecord_rejected {record : StoredCheckpointRecord} (detail : Bytes)
    (h : ¬ Consistent record.checkpoint) :
    (loadedRecord record detail).errorCode.isSome = true := by
  obtain ⟨hconsistent, hrejection⟩ := evaluateCheckpointConsistency_spec record.checkpoint
  have hreport := Bool.eq_false_iff.mpr (mt hconsistent.mp h)
  unfold loadedRecord
  simp [hreport, (hrejection hreport).2.2]

/-- On a record that is read and consistent, the guard accepts the checkpoint and the integers are
canonical exactly when the record is well written. -/
theorem wellWritten_iff {fields : Fields} {record : ParsedCheckpointRecord}
    (hread : readCheckpointFields fields ref = .ok record)
    (hconsistent : Consistent record.checkpoint) :
    ((∃ reason, validateCheckpointFieldRules record.checkpoint = .ok reason) ∧
      ∀ field ∈ integerFields fields, ∀ text, find fields field.1 = some text →
        Canonical field.2 text) ↔ WellWritten fields := by
  obtain ⟨text, raw, htext, hraw, hstate⟩ := readCheckpointFields_state hread
  rw [fieldRules_of_consistent hconsistent hstate, ofRaw_listed]
  have hmem : (str "state", IntegerWidth.uint32) ∈ integerFields fields :=
    List.mem_append_left _ List.mem_cons_self
  have hdecode : IntegerWidth.uint32.decode text = some (raw.toNat : Int) := by
    simp [IntegerWidth.decode, hraw]
  constructor
  · rintro ⟨hlisted, hcanonical⟩
    obtain ⟨value, hvalue, hnumeral⟩ := hcanonical _ hmem text htext
    rw [hdecode, Option.some.injEq] at hvalue
    have hconcrete : raw.toNat ≠ 0 := by
      intro hzero
      obtain ⟨state, hsome, hne⟩ := hconsistent.state
      rw [hstate, Option.some.injEq] at hsome
      have hrawZero : raw = 0 := UInt32.toNat_inj.mp hzero
      exact hne (by rw [← hsome, hrawZero]; rfl)
    refine ⟨⟨value, by omega, by omega, by rw [htext, hnumeral]⟩, fun field hfield text htext => ?_⟩
    exact canonical_iff.mp (hcanonical field hfield text htext)
  · rintro ⟨⟨value, hlow, hhigh, hfound⟩, hnumeral⟩
    rw [htext, Option.some.injEq] at hfound
    have hholds : IntegerWidth.uint32.Holds value := ⟨by omega, by omega⟩
    have hread := decode_numeral hholds
    rw [← hfound, hdecode, Option.some.injEq] at hread
    refine ⟨by omega, fun field hfield text htext => ?_⟩
    exact canonical_iff.mpr (hnumeral field hfield text htext)

end Loading

/-! ## A state that has no name -/

/-- The record of a checkpoint `c` whose state is written so. -/
def recordWithState (state : Bytes) : Bytes :=
  writeEntries
    ([encodedField (str "checkpoint_id") (str "c"), (str "state", some state),
      encodedField (str "step_id") (str "s"),
      encodedField (str "working_memory_snapshot") (str "m"),
      encodedField (str "pending_action") [], integerField (str "tag_count") 3] ++
    tagFields (withRuntimeCheckpointVersionTags []) ++
    [integerField (str "budget_snapshot_present") 0])

def filesWithState (state : Bytes) : FileSystem :=
  FileSystem.empty.write (checkpointRecordPath sampleRoot (str "c")) (recordWithState state)

def unlimited : Allocator := ⟨fun _ => true, fun _ => true⟩

end Dasall.Runtime
