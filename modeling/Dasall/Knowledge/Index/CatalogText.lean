import Dasall.Knowledge.Index.CatalogFile
import Dasall.Lib.Run

/-!
# Which descriptors read back

A descriptor comes back from its line just when its lists and its metadata hold none of the
separators that they are joined with. Whatever is read from a file is of this kind.
-/

open Dasall.Lib Dasall.Lib.Separated Dasall.Lib.Text Dasall.Lib.Replacement Dasall.Lib.Run

namespace Dasall.Knowledge.Index

open ScalarFields

/-- A list that a text joined with line breaks gives back. -/
def CleanList (values : List Bytes) : Prop := values ≠ [[]] ∧ ∀ value ∈ values, 10 ∉ value

/-- No key holds a tab, and neither keys nor values hold a line break. -/
def CleanMetadata (metadata : OrderedMap Bytes Bytes) : Prop :=
  ∀ entry ∈ metadata.entries, 9 ∉ entry.1 ∧ 10 ∉ entry.1 ∧ 10 ∉ entry.2

structure Clean (descriptor : CorpusDescriptor) : Prop where
  includeGlobs : CleanList descriptor.includeGlobs
  excludeGlobs : CleanList descriptor.excludeGlobs
  tags : CleanList descriptor.tags
  metadata : CleanMetadata descriptor.metadata

/-! ## Lists of names -/

/-- Names without a line break, none of them empty, are joined and split again. -/
theorem split_join_names {α : Type} (name : α → Bytes) (hname : ∀ a, name a ≠ [] ∧ 10 ∉ name a)
    (items : List α) : splitStringList (joinStringList (items.map name)) = items.map name := by
  unfold splitStringList joinStringList
  rw [split_join_iff]
  constructor
  · intro h
    obtain ⟨a, ha⟩ : ∃ a, name a = [] := by
      match items with
      | [] => simp at h
      | [a] => exact ⟨a, by simpa using h⟩
      | a :: _ :: _ => simp at h
    exact (hname a).1 ha
  · intro value hvalue
    obtain ⟨a, -, rfl⟩ := List.mem_map.mp hvalue
    exact (hname a).2

theorem deserialize_sourceFormats (sourceFormats : List SourceFormat) :
    deserializeSourceFormats (serializeSourceFormats sourceFormats) = some sourceFormats := by
  unfold deserializeSourceFormats serializeSourceFormats
  rw [split_join_names sourceFormatName (by intro format; cases format <;> decide)]
  exact mapM_written _ _ sourceFormats (by intro format _; cases format <;> decide)

theorem deserialize_retrievalModes (retrievalModes : List RetrievalMode) :
    deserializeRetrievalModes (serializeRetrievalModes retrievalModes) = some retrievalModes := by
  unfold deserializeRetrievalModes serializeRetrievalModes
  rw [split_join_names retrievalModeName (by intro mode; cases mode <;> decide)]
  exact mapM_written _ _ retrievalModes (by intro mode _; cases mode <;> decide)

theorem cleanList_split (rawValues : Bytes) : CleanList (splitStringList rawValues) :=
  ⟨split_ne_single_nil 10 rawValues, not_mem_of_mem_split 10 rawValues⟩

theorem split_join_cleanList {values : List Bytes} (h : CleanList values) :
    splitStringList (joinStringList values) = values :=
  (split_join_iff 10 values).mpr h

/-! ## Metadata -/

theorem parseMetadataLine_write (entry : Bytes × Bytes) (h : 9 ∉ entry.1) :
    parseMetadataLine (metadataLine entry) = some entry := by
  have hkey : ∀ b ∈ entry.1, decide (b ≠ 9) = true := by
    intro b hb
    simpa using fun htab : b = 9 => h (htab ▸ hb)
  unfold parseMetadataLine metadataLine
  rw [if_pos (by simp), List.takeWhile_append_of_pos hkey, List.dropWhile_append_of_pos hkey]
  simp

variable {line : Bytes} (descriptor : CorpusDescriptor) (lines : List Bytes)
  (descriptors : List CorpusDescriptor) (catalog : CorpusCatalog) (snapshot : CorpusCatalogSnapshot)
  (call : CatalogCall)

theorem parseMetadataLine_clean {entry : Bytes × Bytes}
    (h : parseMetadataLine line = some entry) (hline : 10 ∉ line) :
    9 ∉ entry.1 ∧ 10 ∉ entry.1 ∧ 10 ∉ entry.2 := by
  unfold parseMetadataLine at h
  split at h
  next =>
    obtain rfl := Option.some.inj h
    refine ⟨?_, ?_, ?_⟩
    · intro htab
      simpa using List.mem_takeWhile_imp htab
    · exact fun hbreak => hline ((List.takeWhile_prefix _).subset hbreak)
    · exact fun hbreak => hline ((List.dropWhile_suffix _).subset (List.mem_of_mem_tail hbreak))
  next => cases h

theorem foldl_emplace_mem (entries : List (Bytes × Bytes)) (map : OrderedMap Bytes Bytes)
    (entry : Bytes × Bytes) (h : entry ∈ (entries.foldl OrderedMap.emplace map).entries) :
    entry ∈ map.entries ∨ entry ∈ entries := by
  induction entries generalizing map with
  | nil => exact Or.inl h
  | cons first entries ih =>
    rw [List.foldl_cons] at h
    rcases ih _ h with hmap | hlater
    · rcases OrderedMap.mem_insertEntry _ _ _ _ hmap with rfl | hold
      · exact Or.inr List.mem_cons_self
      · exact Or.inl hold
    · exact Or.inr (List.mem_cons_of_mem _ hlater)

theorem deserializeMetadata_serialize {metadata : OrderedMap Bytes Bytes}
    (h : CleanMetadata metadata) :
    deserializeMetadata (serializeMetadata metadata) = some metadata := by
  have hlines : splitStringList (serializeMetadata metadata) =
      metadata.entries.map metadataLine := by
    unfold splitStringList serializeMetadata
    rw [split_join_iff]
    constructor
    · intro hsingle
      have hmem : ([] : Bytes) ∈ metadata.entries.map metadataLine := by simp [hsingle]
      obtain ⟨entry, -, hentry⟩ := List.mem_map.mp hmem
      simp [metadataLine] at hentry
    · intro line hline
      obtain ⟨entry, hentry, rfl⟩ := List.mem_map.mp hline
      obtain ⟨-, hkey, hvalue⟩ := h entry hentry
      simp [metadataLine, hkey, hvalue]
  have hkept : (metadata.entries.map metadataLine).filter (fun line => !line.isEmpty) =
      metadata.entries.map metadataLine := by
    rw [List.filter_eq_self]
    intro line hline
    obtain ⟨entry, -, rfl⟩ := List.mem_map.mp hline
    simp [metadataLine]
  have hparse : (metadata.entries.map metadataLine).mapM parseMetadataLine =
      some metadata.entries :=
    mapM_written _ _ _ fun entry hentry => parseMetadataLine_write entry (h entry hentry).1
  unfold deserializeMetadata
  rw [hlines, hkept]
  simp only [hparse, Option.bind_eq_bind, Option.bind_some, Option.pure_def,
    OrderedMap.foldl_emplace_entries metadata metadata.entries (List.Perm.refl _)]

theorem cleanMetadata_deserialize {rawValue : Bytes} {metadata : OrderedMap Bytes Bytes}
    (h : deserializeMetadata rawValue = some metadata) : CleanMetadata metadata := by
  unfold deserializeMetadata at h
  simp only [Option.bind_eq_bind, Option.bind_eq_some_iff, Option.pure_def] at h
  obtain ⟨entries, hentries, hmetadata⟩ := h
  obtain rfl := Option.some.inj hmetadata
  intro entry hentry
  rcases foldl_emplace_mem _ _ entry hentry with hnone | hmem
  · simp [OrderedMap.empty] at hnone
  · obtain ⟨line, hline, hread⟩ := mem_of_mapM _ _ _ hentries entry hmem
    exact parseMetadataLine_clean hread
      (not_mem_of_mem_split 10 rawValue line (List.mem_of_mem_filter hline))

/-! ## Descriptors -/

theorem descriptorMembers_clean :
    ∀ member ∈ descriptorMembers descriptor, CleanMember member := by
  unfold descriptorMembers
  simp only [List.forall_mem_cons]
  refine ⟨?_, ?_, ?_, ?_, ?_, ?_, ?_, ?_, ?_, ?_, ?_, ?_, ?_, ?_, by simp⟩
  all_goals first
    | exact cleanMember_text _ _ (by decide)
    | exact cleanMember_bare _ _ (by decide) (bareLiteral_intDecimal _)

theorem parseTrustLevel_name (trustLevel : TrustLevel) :
    parseTrustLevel (trustLevelName trustLevel) = some trustLevel := by
  cases trustLevel <;> decide

theorem parseAuthorityLevel_name (authorityLevel : AuthorityLevel) :
    parseAuthorityLevel (authorityLevelName authorityLevel) = some authorityLevel := by
  cases authorityLevel <;> decide

theorem parseSourceKind_name (sourceKind : SourceKind) :
    parseSourceKind (sourceKindName sourceKind) = some sourceKind := by
  cases sourceKind <;> decide

theorem deserializeDescriptor_serialize {descriptor : CorpusDescriptor}
    (h : descriptor.hasConsistentValues = true) (hclean : Clean descriptor) :
    deserializeDescriptorLine (serializeDescriptorLine descriptor) = some descriptor := by
  have hparse : parseScalarJsonObject (serializeDescriptorLine descriptor) =
      some ((descriptorMembers descriptor).map fun other => (other.1, other.2.value)) := by
    have hread := parse_renderObject _ _ [] (descriptorMembers_clean descriptor) rfl
    rw [List.append_nil] at hread
    exact hread
  unfold deserializeDescriptorLine
  rw [hparse, Option.bind_eq_bind, Option.bind_some]
  generalize hfields :
    (descriptorMembers descriptor).map (fun other => (other.1, other.2.value)) = fields
  have hcorpus : find fields (str "corpus_id") = some descriptor.corpusId := by
    rw [← hfields]; rfl
  have hdisplay : find fields (str "display_name") = some descriptor.displayName := by
    rw [← hfields]; rfl
  have hsource : find fields (str "source_uri") = some descriptor.sourceUri := by
    rw [← hfields]; rfl
  have htrust : find fields (str "trust_level") =
      some (trustLevelName descriptor.trustLevel) := by
    rw [← hfields]; rfl
  have hauthority : find fields (str "authority_level") =
      some (authorityLevelName descriptor.authorityLevel) := by
    rw [← hfields]; rfl
  have hkind : find fields (str "source_kind") =
      some (sourceKindName descriptor.sourceKind) := by
    rw [← hfields]; rfl
  have hformats : find fields (str "allowed_formats") =
      some (serializeSourceFormats descriptor.allowedFormats) := by
    rw [← hfields]; rfl
  have hinclude : find fields (str "include_globs") =
      some (joinStringList descriptor.includeGlobs) := by
    rw [← hfields]; rfl
  have hexclude : find fields (str "exclude_globs") =
      some (joinStringList descriptor.excludeGlobs) := by
    rw [← hfields]; rfl
  have hmodes : find fields (str "supported_modes") =
      some (serializeRetrievalModes descriptor.supportedModes) := by
    rw [← hfields]; rfl
  have hactive : find fields (str "active_snapshot_id") =
      some descriptor.activeSnapshotId := by
    rw [← hfields]; rfl
  have hupdated := parseInt64_intDecimal fields (str "last_updated_ms") descriptor.lastUpdatedMs
    (by rw [← hfields]; rfl)
  have htags : find fields (str "tags") = some (joinStringList descriptor.tags) := by
    rw [← hfields]; rfl
  have hmetadata : find fields (str "metadata") =
      some (serializeMetadata descriptor.metadata) := by
    rw [← hfields]; rfl
  unfold descriptorOfFields
  -- Field after field, in the order in which they are looked up.
  refine bind_found hcorpus ?_
  refine bind_found hdisplay ?_
  refine bind_found hsource ?_
  refine bind_found (bind_found htrust (parseTrustLevel_name _)) ?_
  refine bind_found (bind_found hauthority (parseAuthorityLevel_name _)) ?_
  refine bind_found (bind_found hkind (parseSourceKind_name _)) ?_
  refine bind_found (bind_found hformats (deserialize_sourceFormats _)) ?_
  refine bind_found hinclude ?_
  refine bind_found hexclude ?_
  refine bind_found (bind_found hmodes (deserialize_retrievalModes _)) ?_
  refine bind_found hactive ?_
  refine bind_found hupdated ?_
  refine bind_found htags ?_
  refine bind_found (bind_found hmetadata (deserializeMetadata_serialize hclean.metadata)) ?_
  rw [split_join_cleanList hclean.includeGlobs, split_join_cleanList hclean.excludeGlobs,
    split_join_cleanList hclean.tags]
  exact if_pos h

theorem clean_deserialize {descriptor : CorpusDescriptor}
    (h : deserializeDescriptorLine line = some descriptor) : Clean descriptor := by
  unfold deserializeDescriptorLine descriptorOfFields at h
  obtain ⟨fields, -, h⟩ := Option.bind_eq_some_iff.mp h
  obtain ⟨corpusId, -, h⟩ := Option.bind_eq_some_iff.mp h
  obtain ⟨displayName, -, h⟩ := Option.bind_eq_some_iff.mp h
  obtain ⟨sourceUri, -, h⟩ := Option.bind_eq_some_iff.mp h
  obtain ⟨trustLevel, -, h⟩ := Option.bind_eq_some_iff.mp h
  obtain ⟨authorityLevel, -, h⟩ := Option.bind_eq_some_iff.mp h
  obtain ⟨sourceKind, -, h⟩ := Option.bind_eq_some_iff.mp h
  obtain ⟨allowedFormats, -, h⟩ := Option.bind_eq_some_iff.mp h
  obtain ⟨includeGlobs, -, h⟩ := Option.bind_eq_some_iff.mp h
  obtain ⟨excludeGlobs, -, h⟩ := Option.bind_eq_some_iff.mp h
  obtain ⟨supportedModes, -, h⟩ := Option.bind_eq_some_iff.mp h
  obtain ⟨activeSnapshotId, -, h⟩ := Option.bind_eq_some_iff.mp h
  obtain ⟨lastUpdatedMs, -, h⟩ := Option.bind_eq_some_iff.mp h
  obtain ⟨tags, -, h⟩ := Option.bind_eq_some_iff.mp h
  obtain ⟨metadata, hmetadata, h⟩ := Option.bind_eq_some_iff.mp h
  obtain ⟨rawMetadata, -, hmetadata⟩ := Option.bind_eq_some_iff.mp hmetadata
  simp only at h
  split at h
  next =>
    obtain rfl := Option.some.inj h
    exact ⟨cleanList_split _, cleanList_split _, cleanList_split _,
      cleanMetadata_deserialize hmetadata⟩
  next => cases h

/-!
## Runs of a catalog

A catalog that is opened on the file of another holds what that other holds in memory, as long as
only descriptors that read back are stored. A call that is refused changes nothing.
-/

/-! ## The content of the file -/

theorem splitOn_linesOf (h : ∀ line ∈ lines, 10 ∉ line) :
    (linesOf lines).splitOn 10 = lines ++ [[]] := by
  unfold linesOf
  induction lines with
  | nil => rfl
  | cons line lines ih =>
    obtain ⟨hline, hlines⟩ := List.forall_mem_cons.mp h
    rw [List.flatMap_cons, List.append_assoc, List.singleton_append,
      List.splitOn_append_cons_self_of_not_mem hline, ih hlines, List.cons_append]

theorem kept_linesOf (h : ∀ line ∈ lines, line ≠ [] ∧ 10 ∉ line) :
    (splitStringList (linesOf lines)).filter (fun line => !line.isEmpty) = lines := by
  have hkept : lines.filter (fun line => !line.isEmpty) = lines := by
    rw [List.filter_eq_self]
    intro line hline
    simpa using (h line hline).1
  unfold splitStringList split
  split
  next hempty =>
    cases lines with
    | nil => rfl
    | cons => simp [linesOf] at hempty
  next =>
    rw [splitOn_linesOf lines fun line hline => (h line hline).2, List.filter_append, hkept]
    simp

theorem serializeDescriptorLine_kept :
    serializeDescriptorLine descriptor ≠ [] ∧ 10 ∉ serializeDescriptorLine descriptor := by
  refine ⟨?_, renderObject_no_break _ (descriptorMembers_clean descriptor)⟩
  intro hnil
  have hlast := renderObject_getLast (descriptorMembers descriptor)
  unfold serializeDescriptorLine at hnil
  simp [hnil] at hlast

theorem catalogMembers_clean (descriptorsJsonl : Bytes) :
    ∀ member ∈ catalogMembers descriptorsJsonl, CleanMember member := by
  unfold catalogMembers
  simp only [List.forall_mem_cons]
  exact ⟨cleanMember_bare _ _ (by decide) (bareLiteral_decimal 1), cleanMember_text _ _ (by decide),
    cleanMember_text _ _ (by decide), by simp⟩

/-- The lines that are read from the written content are the lines of the descriptors. -/
theorem parseCatalog_content :
    parseCatalog (catalogContent descriptors) =
      ((descriptors.map serializeDescriptorLine).mapM deserializeDescriptorLine).bind makeSnapshot := by
  have hlines : (splitStringList (descriptorsJsonl descriptors)).filter
      (fun line => !line.isEmpty) = descriptors.map serializeDescriptorLine := by
    apply kept_linesOf
    intro line hline
    obtain ⟨descriptor, -, rfl⟩ := List.mem_map.mp hline
    exact serializeDescriptorLine_kept descriptor
  have hparse : parseScalarJsonObject (catalogContent descriptors) =
      some ((catalogMembers (descriptorsJsonl descriptors)).map
        fun other => (other.1, other.2.value)) :=
    parse_renderObject _ _ [10] (catalogMembers_clean _) rfl
  have hversion := parseInt64_intDecimal
    ((catalogMembers (descriptorsJsonl descriptors)).map fun other => (other.1, other.2.value))
    (str "catalog_format_version") 1 rfl
  have hjsonl : find
      ((catalogMembers (descriptorsJsonl descriptors)).map fun other => (other.1, other.2.value))
      (str "descriptors_jsonl") = some (descriptorsJsonl descriptors) := rfl
  have hchecksum : find
      ((catalogMembers (descriptorsJsonl descriptors)).map fun other => (other.1, other.2.value))
      (str "catalog_checksum") = some (catalogChecksum (descriptorsJsonl descriptors)) := rfl
  unfold parseCatalog
  simp only [hparse, hversion, hjsonl, hchecksum, hlines, guard, if_true, Option.bind_eq_bind,
    Option.bind_some, Option.pure_def]

theorem makeSnapshot_eq_some :
    makeSnapshot descriptors = some snapshot ↔ snapshot.descriptors = descriptors := by
  unfold makeSnapshot
  split
  next h =>
    rw [Option.some.injEq, CorpusCatalogSnapshot.ext_iff]
    exact eq_comm
  next h =>
    constructor
    · exact nofun
    · rintro rfl
      exact absurd snapshot.consistent h

theorem CorpusCatalogSnapshot.consistent_of_mem :
    ∀ descriptor ∈ snapshot.descriptors, descriptor.hasConsistentValues = true := by
  have h := snapshot.consistent
  simp only [descriptorListIsConsistent, Bool.and_eq_true, List.all_eq_true] at h
  exact h.1.1

/-- A snapshot comes back from the content written for it just when all its descriptors read
back. -/
theorem loadSnapshot_content_iff :
    loadSnapshotFromDisk (some (catalogContent snapshot.descriptors)) = snapshot ↔
      ∀ descriptor ∈ snapshot.descriptors, Clean descriptor := by
  unfold loadSnapshotFromDisk
  rw [Option.bind_eq_bind, Option.bind_some, parseCatalog_content]
  constructor
  · intro h descriptor hmem
    rw [← h] at hmem
    cases hread : (snapshot.descriptors.map serializeDescriptorLine).mapM
        deserializeDescriptorLine with
    | none => simp [hread, CorpusCatalogSnapshot.empty] at hmem
    | some read =>
      rw [hread, Option.bind_some] at hmem
      cases hmade : makeSnapshot read with
      | none => simp [hmade, CorpusCatalogSnapshot.empty] at hmem
      | some made =>
        rw [hmade, Option.getD_some, (makeSnapshot_eq_some read made).mp hmade] at hmem
        obtain ⟨line, -, hline⟩ := mem_of_mapM _ _ _ hread descriptor hmem
        exact clean_deserialize hline
  · intro hclean
    have hread := mapM_written serializeDescriptorLine deserializeDescriptorLine
      snapshot.descriptors fun descriptor hmem =>
        deserializeDescriptor_serialize (snapshot.consistent_of_mem descriptor hmem)
          (hclean descriptor hmem)
    rw [hread, Option.bind_some, (makeSnapshot_eq_some _ snapshot).mpr rfl, Option.getD_some]

/-! ## Steps -/

inductive CatalogCall
  | replaceAll (descriptors : List CorpusDescriptor) (fault : Option Fault)
  | applyDelta (delta : CorpusCatalogDelta) (fault : Option Fault)

def catalogStep (catalog : CorpusCatalog) : CatalogCall → CorpusCatalog × Bool
  | .replaceAll descriptors fault => catalog.replaceAll descriptors fault
  | .applyDelta delta fault => catalog.applyDelta delta fault

/-- A catalog that is opened on the file now has the snapshot of this one. -/
def Restored (catalog : CorpusCatalog) : Prop :=
  (CorpusCatalog.open catalog.file).activeSnapshot = catalog.activeSnapshot

def RefusedUnchanged (catalog : CorpusCatalog) (call : CatalogCall) : Prop :=
  (catalogStep catalog call).2 = false →
    (catalogStep catalog call).1.activeSnapshot = catalog.activeSnapshot ∧
      (catalogStep catalog call).1.file.target = catalog.file.target

/-- The descriptors that the call asks to store, where it is well formed. -/
def CatalogCall.nextDescriptors (catalog : CorpusCatalog) :
    CatalogCall → Option (List CorpusDescriptor)
  | .replaceAll descriptors _ => some descriptors
  | .applyDelta delta _ =>
    if delta.hasConsistentValues then
      some (delta.nextDescriptors catalog.activeSnapshot.listAll)
    else none

def CatalogCall.fault : CatalogCall → Option Fault
  | .replaceAll _ fault | .applyDelta _ fault => fault

/-- A consistent list that can be persisted has only descriptors that read back. -/
def StoresClean (catalog : CorpusCatalog) (call : CatalogCall) : Prop :=
  call.fault = none → ∀ descriptors, call.nextDescriptors catalog = some descriptors →
    descriptorListIsConsistent descriptors = true → ∀ descriptor ∈ descriptors, Clean descriptor

/-- What a call does: it replaces the list it asks for, and else it changes nothing. -/
theorem catalogStep_cases :
    (∃ snapshot : CorpusCatalogSnapshot, call.nextDescriptors catalog = some snapshot.descriptors ∧
      catalogStep catalog call =
        catalog.replaceAll snapshot.descriptors call.fault) ∨
    ((∀ descriptors, call.nextDescriptors catalog = some descriptors →
        descriptorListIsConsistent descriptors ≠ true) ∧
      catalogStep catalog call = (catalog, false)) := by
  have hasked : ∀ descriptors fault, descriptorListIsConsistent descriptors ≠ true →
      catalog.replaceAll descriptors fault = (catalog, false) := by
    intro descriptors fault h
    unfold CorpusCatalog.replaceAll makeSnapshot
    rw [dif_neg h]
  cases call with
  | replaceAll descriptors fault =>
    by_cases h : descriptorListIsConsistent descriptors = true
    · exact Or.inl ⟨⟨descriptors, h⟩, rfl, rfl⟩
    · refine Or.inr ⟨?_, hasked descriptors fault h⟩
      rintro _ ⟨⟩
      exact h
  | applyDelta delta fault =>
    simp only [CatalogCall.nextDescriptors, catalogStep, CorpusCatalog.applyDelta]
    by_cases hdelta : delta.hasConsistentValues = true
    · simp only [hdelta, if_true, Bool.not_true, Bool.false_eq_true, if_false]
      by_cases h : descriptorListIsConsistent
          (delta.nextDescriptors catalog.activeSnapshot.listAll) = true
      · exact Or.inl ⟨⟨_, h⟩, rfl, rfl⟩
      · refine Or.inr ⟨?_, hasked _ fault h⟩
        rintro _ ⟨⟩
        exact h
    · simp [hdelta]

theorem refusedUnchanged_step :
    RefusedUnchanged catalog call := by
  intro hrefused
  rcases catalogStep_cases catalog call with ⟨snapshot, -, hstep⟩ | ⟨-, hstep⟩
  · rw [hstep] at hrefused ⊢
    unfold CorpusCatalog.replaceAll at hrefused ⊢
    rw [(makeSnapshot_eq_some _ snapshot).mpr rfl] at hrefused ⊢
    simp only at hrefused ⊢
    rw [hrefused]
    exact ⟨rfl, target_kept _ _ _ hrefused⟩
  · rw [hstep]
    exact ⟨rfl, rfl⟩

/-- A call leaves a restored catalog restored just when it stores only what reads back. -/
theorem restored_step_iff (h : Restored catalog) :
    Restored (catalogStep catalog call).1 ↔ StoresClean catalog call := by
  unfold StoresClean
  rcases catalogStep_cases catalog call with ⟨snapshot, hnext, hstep⟩ | ⟨hnone, hstep⟩
  · rw [hstep, hnext]
    unfold CorpusCatalog.replaceAll Restored CorpusCatalog.open
    rw [(makeSnapshot_eq_some _ snapshot).mpr rfl]
    cases hfault : call.fault with
    | none =>
      have hcontent := loadSnapshot_content_iff snapshot
      simpa [Slot.replace, snapshot.consistent] using hcontent
    | some fault =>
      have hrefused : (catalog.file.replace (some fault)
          (catalogContent snapshot.descriptors)).2 = false := by
        rw [← Bool.not_eq_true, replace_ok]
        exact nofun
      have hkept := target_kept _ _ _ hrefused
      simp only [hrefused, hkept, Bool.false_eq_true, if_false, reduceCtorEq, false_implies,
        iff_true]
      exact h
  · rw [hstep]
    refine iff_of_true h fun _ descriptors hasked hconsistent => ?_
    exact absurd hconsistent (hnone descriptors hasked)

/-! ## Runs -/

theorem restored_open (file : Slot) : Restored (CorpusCatalog.open file) := rfl

/-- In every run over any file, a catalog opened on that file equals the one in memory at all times,
and refused calls change nothing, just when no list is stored that does not read back. -/
theorem catalog_runs_iff (file : Slot) (calls : List CatalogCall) :
    ((∀ k, Restored (run catalogStep (CorpusCatalog.open file) (calls.take k)).1) ∧
        AllSteps catalogStep RefusedUnchanged (CorpusCatalog.open file) calls) ↔
      AllSteps catalogStep StoresClean (CorpusCatalog.open file) calls := by
  have hrefused : AllSteps catalogStep RefusedUnchanged (CorpusCatalog.open file) calls := by
    rw [allSteps_iff_split]
    intro before call _ _
    exact refusedUnchanged_step _ call
  rw [and_iff_left hrefused, forall_take_iff, and_iff_right (restored_open file)]
  exact allSteps_iff catalogStep Restored _ StoresClean (fun _ => True)
    (fun catalog call h _ => restored_step_iff catalog call h)
    (fun _ _ _ hnext => hnext) _ calls (restored_open file) fun _ _ => trivial

/-- A descriptor with all the metadata that is required. -/
def taggedDescriptor (tags : List Bytes) : CorpusDescriptor :=
  { corpusId := str "corpus", displayName := str "Corpus", sourceUri := str "docs"
    includeGlobs := [str "*.md"], tags
    metadata := [str "baseline_class", str "owner_module", str "refresh_strategy",
      str "default_language"].foldl (fun metadata key => metadata.emplace (key, str "value"))
        OrderedMap.empty }

/-- A tag with a line break comes back as two tags. -/
theorem tag_with_line_break :
    ¬ ∀ (file : Slot) (calls : List CatalogCall),
      (∀ k, Restored (run catalogStep (CorpusCatalog.open file) (calls.take k)).1) ∧
        AllSteps catalogStep RefusedUnchanged (CorpusCatalog.open file) calls := by
  intro h
  let descriptors := [taggedDescriptor [str "first\nsecond"]]
  have hrestored := (h {} [.replaceAll descriptors none]).1 1
  have hstored := (restored_step_iff _ _ (restored_open {})).mp hrestored
  have hclean := hstored rfl descriptors rfl (by decide +kernel)
    (taggedDescriptor [str "first\nsecond"]) List.mem_cons_self
  exact hclean.tags.2 (str "first\nsecond") (by decide) (by decide)

end Dasall.Knowledge.Index
