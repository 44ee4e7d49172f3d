import Dasall.Knowledge.Index.ScalarJson
import Dasall.Lib.Best
import Dasall.Lib.KeyValue
import Dasall.Lib.Disk
import Dasall.Lib.Rows

/-!
# The version ledger

The snapshots that were built, in the order of their recording, and which of them is active. Every
change is written to the ledger file, and undone where the write fails.
-/

open Dasall.Lib Dasall.Lib.Best Dasall.Lib.Replacement Dasall.Lib.Text Dasall.Lib.Separated

namespace Dasall.Knowledge.Index

inductive SnapshotState
  | pending
  | active
  | superseded
deriving DecidableEq, Repr

structure VersionLedgerEntry where
  snapshotId : Bytes
  parentSnapshotId : Bytes := []
  batchId : Bytes
  builtAt : Int64 := 0
  activatedAt : Int64 := 0
  state : SnapshotState := .pending
  documentCount : UInt64 := 0
  chunkCount : UInt64 := 0
  checksum : Bytes
  rollbackEligible : Bool := false
deriving DecidableEq

def VersionLedgerEntry.hasConsistentValues (entry : VersionLedgerEntry) : Bool :=
  if entry.snapshotId.isEmpty || entry.batchId.isEmpty || decide (entry.builtAt ≤ 0) ||
      entry.checksum.isEmpty then false
  else if !entry.parentSnapshotId.isEmpty && entry.parentSnapshotId == entry.snapshotId then false
  else if entry.documentCount == 0 && entry.chunkCount != 0 then false
  else
    match entry.state with
    | .pending => entry.activatedAt == 0 && !entry.rollbackEligible
    | .active => decide (entry.builtAt ≤ entry.activatedAt) && entry.rollbackEligible
    | .superseded => decide (entry.builtAt ≤ entry.activatedAt)

/-! ## The file -/

def snapshotStateName : SnapshotState → Bytes
  | .pending => str "pending"
  | .active => str "active"
  | .superseded => str "superseded"

def parseSnapshotState (rawState : Bytes) : Option SnapshotState :=
  if rawState = str "pending" then some .pending
  else if rawState = str "active" then some .active
  else if rawState = str "superseded" then some .superseded
  else none

def serializeHeaderLine : Bytes := renderObject [(str "ledger_format_version", .bare (decimal 1))]

def serializeChecksumLine (checksum : Bytes) : Bytes :=
  renderObject [(str "ledger_checksum", .text checksum)]

/-- The members of an entry line. -/
def entryMembers (entry : VersionLedgerEntry) : List (Bytes × Scalar) :=
  [(str "snapshot_id", .text entry.snapshotId),
    (str "parent_snapshot_id", .text entry.parentSnapshotId),
    (str "batch_id", .text entry.batchId),
    (str "built_at", .bare (intDecimal entry.builtAt.toInt)),
    (str "activated_at", .bare (intDecimal entry.activatedAt.toInt)),
    (str "state", .text (snapshotStateName entry.state)),
    (str "document_count", .bare (decimal entry.documentCount.toNat)),
    (str "chunk_count", .bare (decimal entry.chunkCount.toNat)),
    (str "checksum", .text entry.checksum),
    (str "rollback_eligible", .bare (boolText entry.rollbackEligible))]

def serializeEntryLine (entry : VersionLedgerEntry) : Bytes := renderObject (entryMembers entry)

def parseEntryLine (line : Bytes) : Option VersionLedgerEntry := do
  let fields ← parseScalarJsonObject line
  let snapshotId ← fields.find (str "snapshot_id")
  let batchId ← fields.find (str "batch_id")
  let checksum ← fields.find (str "checksum")
  let rawState ← fields.find (str "state")
  let builtAt ← parseInt64Field fields (str "built_at")
  let activatedAt ← parseInt64Field fields (str "activated_at")
  let documentCount ← parseSizeField fields (str "document_count")
  let chunkCount ← parseSizeField fields (str "chunk_count")
  let rollbackEligible ← parseBoolField fields (str "rollback_eligible")
  let state ← parseSnapshotState rawState
  let entry : VersionLedgerEntry :=
    { snapshotId
      parentSnapshotId := (fields.find (str "parent_snapshot_id")).getD []
      batchId, builtAt, activatedAt, state, documentCount, chunkCount, checksum, rollbackEligible }
  if entry.hasConsistentValues then some entry else none

def ledgerContent (entries : List VersionLedgerEntry) : Bytes :=
  let payload := linesOf (serializeHeaderLine :: entries.map serializeEntryLine)
  payload ++ linesOf [serializeChecksumLine (fnv1aHex payload)]

def dropCarriageReturn (line : Bytes) : Bytes :=
  if line.getLast? = some 13 then line.dropLast else line

/-- The lines of the file that are not empty. -/
def readLedgerLines (content : Bytes) : List Bytes :=
  ((KeyValue.getlines content).map dropCarriageReturn).filter fun line => !line.isEmpty

/-- The entries between the header and the footer, where both are in order. -/
def parseLedgerLines (lines : List Bytes) : Option (List VersionLedgerEntry) := do
  guard (2 ≤ lines.length)
  let header ← parseScalarJsonObject (← lines.head?)
  let footer ← parseScalarJsonObject (← lines.getLast?)
  let formatVersion ← parseInt64Field header (str "ledger_format_version")
  let checksum ← footer.find (str "ledger_checksum")
  guard (formatVersion = 1)
  guard (fnv1aHex (linesOf lines.dropLast) = checksum)
  lines.dropLast.tail.mapM parseEntryLine

/-- `none` is a file that is not there, or cannot be opened. -/
def loadEntriesFromDisk (file : Option Bytes) : List VersionLedgerEntry :=
  match file with
  | none => []
  | some content => (parseLedgerLines (readLedgerLines content)).getD []

/-! ## The calls -/

/-- A ledger over a file. -/
structure VersionLedger where
  entries : List VersionLedgerEntry
  file : Slot
deriving DecidableEq

def VersionLedger.open (file : Slot) : VersionLedger := ⟨loadEntriesFromDisk file.target, file⟩

def findEntry (entries : List VersionLedgerEntry) (snapshotId : Bytes) :
    Option VersionLedgerEntry :=
  Rows.find VersionLedgerEntry.snapshotId snapshotId entries

/-- Takes on the entries if they can be written. -/
def VersionLedger.commit (ledger : VersionLedger) (entries : List VersionLedgerEntry)
    (fault : Option Fault) : VersionLedger × Bool :=
  let (file, persisted) := ledger.file.replace fault (ledgerContent entries)
  (⟨if persisted then entries else ledger.entries, file⟩, persisted)

def VersionLedger.recordCandidate (ledger : VersionLedger) (entry : VersionLedgerEntry)
    (fault : Option Fault) : VersionLedger × Bool :=
  if !entry.hasConsistentValues || entry.state != .pending || entry.activatedAt != 0 ||
      entry.rollbackEligible then (ledger, false)
  else if (findEntry ledger.entries entry.snapshotId).isSome then (ledger, false)
  else if !entry.parentSnapshotId.isEmpty &&
      (findEntry ledger.entries entry.parentSnapshotId).isNone then (ledger, false)
  else ledger.commit (ledger.entries ++ [entry]) fault

def supersede (entry : VersionLedgerEntry) : VersionLedgerEntry :=
  { entry with state := .superseded, rollbackEligible := true }

def supersedeActive (entry : VersionLedgerEntry) : VersionLedgerEntry :=
  if entry.state = .active then supersede entry else entry

def activate (activatedAt : Int64) (entry : VersionLedgerEntry) : VersionLedgerEntry :=
  { entry with state := .active, activatedAt, rollbackEligible := true }

def VersionLedger.markActive (ledger : VersionLedger) (snapshotId : Bytes) (activatedAt : Int64)
    (fault : Option Fault) : VersionLedger × Bool :=
  if snapshotId.isEmpty || decide (activatedAt ≤ 0) then (ledger, false)
  else
    match findEntry ledger.entries snapshotId with
    | none => (ledger, false)
    | some target =>
      if target.state != .pending || decide (activatedAt < target.builtAt) then (ledger, false)
      else if !(activate activatedAt target).hasConsistentValues then (ledger, false)
      else
        ledger.commit (Rows.put VersionLedgerEntry.snapshotId snapshotId
          (activate activatedAt target) (ledger.entries.map supersedeActive)) fault

def VersionLedger.markSuperseded (ledger : VersionLedger) (snapshotId : Bytes)
    (fault : Option Fault) : VersionLedger × Bool :=
  if snapshotId.isEmpty then (ledger, false)
  else
    match findEntry ledger.entries snapshotId with
    | none => (ledger, false)
    | some target =>
      match target.state with
      | .pending => (ledger, false)
      | .superseded =>
        if !target.hasConsistentValues then (ledger, false)
        else ledger.commit ledger.entries fault
      | .active =>
        if !(supersede target).hasConsistentValues then (ledger, false)
        else
          ledger.commit (Rows.put VersionLedgerEntry.snapshotId snapshotId (supersede target)
            ledger.entries) fault

/-! ## The snapshots to serve -/

/-- How the checksum of a stored snapshot is read. A ledger may be built without a reader; a read
that throws gives no checksum. -/
abbrev ChecksumReader := Option (Bytes → Option Bytes)

def checksumMatches (reader : ChecksumReader) (entry : VersionLedgerEntry) : Bool :=
  if entry.checksum.isEmpty then false
  else
    match reader with
    | none => true
    | some read => read entry.snapshotId == some entry.checksum

def participatesInLastKnownGood (entry : VersionLedgerEntry) : Bool :=
  entry.state == .active || (entry.state == .superseded && entry.rollbackEligible)

def isBetterLastKnownGoodCandidate (candidate incumbent : VersionLedgerEntry) : Bool :=
  if candidate.activatedAt != incumbent.activatedAt then
    decide (incumbent.activatedAt < candidate.activatedAt)
  else if candidate.state != incumbent.state then candidate.state == .active
  else if candidate.builtAt != incumbent.builtAt then
    decide (incumbent.builtAt < candidate.builtAt)
  else decide (incumbent.snapshotId < candidate.snapshotId)

def isBetterActiveCandidate (candidate incumbent : VersionLedgerEntry) : Bool :=
  if candidate.activatedAt != incumbent.activatedAt then
    decide (incumbent.activatedAt < candidate.activatedAt)
  else if candidate.builtAt != incumbent.builtAt then
    decide (incumbent.builtAt < candidate.builtAt)
  else decide (incumbent.snapshotId < candidate.snapshotId)

def VersionLedger.active (ledger : VersionLedger) (reader : ChecksumReader) :
    Option VersionLedgerEntry :=
  best isBetterActiveCandidate
    (ledger.entries.filter fun entry => entry.state == .active && checksumMatches reader entry)

def VersionLedger.lastKnownGood (ledger : VersionLedger) (reader : ChecksumReader) :
    Option VersionLedgerEntry :=
  best isBetterLastKnownGoodCandidate
    (ledger.entries.filter fun entry =>
      participatesInLastKnownGood entry && checksumMatches reader entry)

/-!
## What the ledger writes reads back

Whatever bytes the ids, the batch ids and the checksums hold.
-/

theorem parseSnapshotState_name (state : SnapshotState) :
    parseSnapshotState (snapshotStateName state) = some state := by
  cases state <;> decide

variable (entry : VersionLedgerEntry) (lines : List Bytes) (entries : List VersionLedgerEntry)

theorem entryMembers_clean :
    ∀ member ∈ entryMembers entry, CleanMember member := by
  unfold entryMembers
  simp only [List.forall_mem_cons]
  refine ⟨?_, ?_, ?_, ?_, ?_, ?_, ?_, ?_, ?_, ?_, by simp⟩
  · exact cleanMember_text _ _ (by decide)
  · exact cleanMember_text _ _ (by decide)
  · exact cleanMember_text _ _ (by decide)
  · exact cleanMember_bare _ _ (by decide) (bareLiteral_intDecimal _)
  · exact cleanMember_bare _ _ (by decide) (bareLiteral_intDecimal _)
  · exact cleanMember_text _ _ (by decide)
  · exact cleanMember_bare _ _ (by decide) (bareLiteral_decimal _)
  · exact cleanMember_bare _ _ (by decide) (bareLiteral_decimal _)
  · exact cleanMember_text _ _ (by decide)
  · exact cleanMember_bare _ _ (by decide) (bareLiteral_boolText _)

theorem parseEntryLine_serialize
    (h : entry.hasConsistentValues = true) : parseEntryLine (serializeEntryLine entry) = some entry := by
  have hparse : parseScalarJsonObject (serializeEntryLine entry) =
      some ((entryMembers entry).map fun other => (other.1, other.2.value)) := by
    have hread := parse_renderObject _ _ [] (entryMembers_clean entry) rfl
    rw [List.append_nil] at hread
    exact hread
  unfold parseEntryLine
  rw [hparse]
  generalize hfields : (entryMembers entry).map (fun other => (other.1, other.2.value)) = fields
  have hsnapshot : ScalarFields.find fields (str "snapshot_id") = some entry.snapshotId := by
    rw [← hfields]; rfl
  have hparent : ScalarFields.find fields (str "parent_snapshot_id") =
      some entry.parentSnapshotId := by
    rw [← hfields]; rfl
  have hbatch : ScalarFields.find fields (str "batch_id") = some entry.batchId := by
    rw [← hfields]; rfl
  have hbuilt := parseInt64_intDecimal fields (str "built_at") entry.builtAt (by rw [← hfields]; rfl)
  have hactivated := parseInt64_intDecimal fields (str "activated_at") entry.activatedAt
    (by rw [← hfields]; rfl)
  have hstate : ScalarFields.find fields (str "state") = some (snapshotStateName entry.state) := by
    rw [← hfields]; rfl
  have hdocuments := parseSize_decimal fields (str "document_count") entry.documentCount
    (by rw [← hfields]; rfl)
  have hchunks := parseSize_decimal fields (str "chunk_count") entry.chunkCount
    (by rw [← hfields]; rfl)
  have hchecksum : ScalarFields.find fields (str "checksum") = some entry.checksum := by
    rw [← hfields]; rfl
  have hrollback := parseBool_boolText fields (str "rollback_eligible") entry.rollbackEligible
    (by rw [← hfields]; rfl)
  refine bind_found rfl ?_
  refine bind_found hsnapshot ?_
  refine bind_found hbatch ?_
  refine bind_found hchecksum ?_
  refine bind_found hstate ?_
  refine bind_found hbuilt ?_
  refine bind_found hactivated ?_
  refine bind_found hdocuments ?_
  refine bind_found hchunks ?_
  refine bind_found hrollback ?_
  refine bind_found (parseSnapshotState_name _) ?_
  rw [hparent, Option.getD_some]
  exact if_pos h

/-! ## The lines -/

/-- A line that `std::getline` gives back as it was written. -/
def CleanLine (line : Bytes) : Prop := 10 ∉ line ∧ line.getLast? = some 125

theorem cleanLine_renderObject (members : List (Bytes × Scalar))
    (h : ∀ member ∈ members, CleanMember member) : CleanLine (renderObject members) :=
  ⟨renderObject_no_break members h, renderObject_getLast members⟩

theorem getlines_linesOf (h : ∀ line ∈ lines, 10 ∉ line) :
    KeyValue.getlines (linesOf lines) = lines := by
  unfold linesOf
  induction lines with
  | nil => rfl
  | cons line lines ih =>
    obtain ⟨hline, hlines⟩ := List.forall_mem_cons.mp h
    have hfree : ∀ b ∈ line, b ≠ 10 := fun b hb hbreak => hline (hbreak ▸ hb)
    rw [List.flatMap_cons, List.append_assoc, List.singleton_append,
      KeyValue.getlines_append line _ hfree, ih hlines]

theorem dropCarriageReturn_clean (line : Bytes) (h : CleanLine line) :
    dropCarriageReturn line = line := by
  unfold dropCarriageReturn
  simp [h.2]

theorem readLedgerLines_linesOf (h : ∀ line ∈ lines, CleanLine line) :
    readLedgerLines (linesOf lines) = lines := by
  unfold readLedgerLines
  have hkept : lines.map dropCarriageReturn = lines.map id :=
    List.map_congr_left fun line hline => dropCarriageReturn_clean line (h line hline)
  rw [getlines_linesOf lines fun line hline => (h line hline).1, hkept, List.map_id,
    List.filter_eq_self]
  intro line hline
  have hlast := (h line hline).2
  cases line with
  | nil => simp at hlast
  | cons => rfl

theorem serializeEntryLine_clean :
    CleanLine (serializeEntryLine entry) :=
  cleanLine_renderObject _ (entryMembers_clean entry)

theorem headerMember_clean : ∀ member ∈ [(str "ledger_format_version", Scalar.bare (decimal 1))],
    CleanMember member := by
  simp only [List.forall_mem_cons]
  exact ⟨cleanMember_bare _ _ (by decide) (bareLiteral_decimal 1), by simp⟩

theorem checksumMember_clean (checksum : Bytes) :
    ∀ member ∈ [(str "ledger_checksum", Scalar.text checksum)], CleanMember member := by
  simp only [List.forall_mem_cons]
  exact ⟨cleanMember_text _ _ (by decide), by simp⟩

/-! ## The file -/

theorem linesOf_append (first second : List Bytes) :
    linesOf (first ++ second) = linesOf first ++ linesOf second := by
  simp [linesOf]

/-- The lines of the file, the header first and the footer last. -/
def ledgerLines (entries : List VersionLedgerEntry) : List Bytes :=
  (serializeHeaderLine :: entries.map serializeEntryLine) ++
    [serializeChecksumLine (fnv1aHex (linesOf
      (serializeHeaderLine :: entries.map serializeEntryLine)))]

theorem ledgerContent_eq :
    ledgerContent entries = linesOf (ledgerLines entries) := by
  unfold ledgerContent ledgerLines
  rw [linesOf_append]

theorem ledgerLines_clean :
    ∀ line ∈ ledgerLines entries, CleanLine line := by
  intro line hline
  simp only [ledgerLines, List.mem_append, List.mem_cons, List.mem_map, List.not_mem_nil,
    or_false] at hline
  rcases hline with (rfl | ⟨entry, -, rfl⟩) | rfl
  · exact cleanLine_renderObject _ headerMember_clean
  · exact serializeEntryLine_clean entry
  · exact cleanLine_renderObject _ (checksumMember_clean _)

theorem parseLedgerLines_ledgerLines (h : ∀ entry ∈ entries, entry.hasConsistentValues = true) :
    parseLedgerLines (ledgerLines entries) = some entries := by
  have hheader : parseScalarJsonObject serializeHeaderLine =
      some [(str "ledger_format_version", decimal 1)] := by
    have hread := parse_renderObject _ _ [] headerMember_clean rfl
    rw [List.append_nil] at hread
    exact hread
  have hfooter : ∀ checksum, parseScalarJsonObject (serializeChecksumLine checksum) =
      some [(str "ledger_checksum", checksum)] := by
    intro checksum
    have hread := parse_renderObject _ _ [] (checksumMember_clean checksum) rfl
    rw [List.append_nil] at hread
    exact hread
  have hversion := parseInt64_intDecimal [(str "ledger_format_version", decimal 1)]
    (str "ledger_format_version") 1 rfl
  have hchecksum : ∀ checksum,
      ScalarFields.find [(str "ledger_checksum", checksum)] (str "ledger_checksum") =
        some checksum := fun _ => rfl
  unfold parseLedgerLines ledgerLines
  rw [List.dropLast_concat, List.getLast?_concat, List.tail_cons,
    mapM_written _ _ entries fun entry hentry => parseEntryLine_serialize entry (h entry hentry)]
  simp [hheader, hfooter, hversion, hchecksum, guard]

/-- The content that is written for consistent entries gives these entries back. -/
theorem loadEntries_ledgerContent (h : ∀ entry ∈ entries, entry.hasConsistentValues = true) :
    loadEntriesFromDisk (some (ledgerContent entries)) = entries := by
  unfold loadEntriesFromDisk
  simp only
  rw [ledgerContent_eq, readLedgerLines_linesOf _ (ledgerLines_clean entries),
    parseLedgerLines_ledgerLines entries h, Option.getD_some]

end Dasall.Knowledge.Index
