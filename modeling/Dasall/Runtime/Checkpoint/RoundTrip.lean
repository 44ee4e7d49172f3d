import Dasall.Runtime.Checkpoint.Consistency
import Dasall.Runtime.Checkpoint.Record

/-!
# A checkpoint record reads back as it was written

The keys of a record are distinct, so each field reads back on its own; the reader then
puts the fields together again.
-/

open Dasall.Lib.Text Dasall.Lib.Hex Dasall.Lib.KeyValue Dasall.Lib.Disk Dasall.Contracts

namespace Dasall.Runtime

/-- The counts fit the `std::uint32_t` that the reader loops over. -/
structure CountsFit (checkpoint : Checkpoint) (runtimeBudgetSnapshot : Option BudgetSnapshot) :
    Prop where
  tags : ∀ tags, checkpoint.tags = some tags → tags.length < 2 ^ 32
  entries : ∀ snapshot, runtimeBudgetSnapshot = some snapshot → snapshot.entries.length < 2 ^ 32

/-! ## The keys -/

def checkpointKeys : List Bytes :=
  ["checkpoint_id", "state", "step_id", "working_memory_snapshot", "pending_action", "request_id",
    "goal_id", "belief_state_ref", "retry_count", "created_at", "tag_count"].map str

def budgetKeys : List Bytes :=
  ["budget_snapshot.snapshot_at_ms", "budget_snapshot.overall_reject_reason",
    "budget_snapshot.entry_count"].map str

def budgetEntryKeys (index : Nat) : List Bytes :=
  (["type", "current", "max", "remaining", "reject_reason"].map str).map
    (budgetEntryPrefix index ++ ·)

/-- All keys of a record with `tagCount` tags and `entryCount` budget entries. -/
def recordKeys (tagCount entryCount : Nat) : List Bytes :=
  checkpointKeys ++ ((List.range tagCount).map tagKey ++
    str "budget_snapshot_present" :: (budgetKeys ++ (List.range entryCount).flatMap budgetEntryKeys))

theorem map_mapIdx {α β : Type} (values : List α) (f : Nat → α → β) (g : Nat → β)
    (h : ∀ index value, f index value = g index) :
    values.mapIdx f = (List.range values.length).map g := by
  rw [List.mapIdx_eq_zipIdx_map, List.range_eq_range', ← List.zipIdx_map_snd 0 values, List.map_map]
  exact List.map_congr_left fun x _ => h x.2 x.1

theorem tagFields_keys (tags : List Bytes) :
    (tagFields tags).map Prod.fst = (List.range tags.length).map tagKey := by
  unfold tagFields
  rw [← map_mapIdx tags (fun index _ => tagKey index) tagKey fun _ _ => rfl]
  simp [List.mapIdx_eq_zipIdx_map, encodedField, Function.comp_def]

theorem budgetEntryFields_keys (entries : List BudgetSnapshotEntry) :
    (entries.mapIdx budgetEntryFields).flatten.map Prod.fst =
      (List.range entries.length).flatMap budgetEntryKeys := by
  rw [List.map_flatten, List.flatMap_def,
    ← map_mapIdx entries (fun index _ => budgetEntryKeys index) budgetEntryKeys fun _ _ => rfl]
  simp [List.mapIdx_eq_zipIdx_map, Function.comp_def, budgetEntryFields, budgetEntryKeys,
    integerField, optionalEncodedField]

variable (i : Nat) (fields : Fields) (index : Nat) (checkpoint : Checkpoint) (j : Nat)
  (entry : BudgetSnapshotEntry) (checkpointId : Bytes)
  (runtimeBudgetSnapshot : Option BudgetSnapshot)

theorem checkpointRecord_keys (snapshot : BudgetSnapshot) :
    (checkpointRecord checkpoint checkpointId (some snapshot)).map Prod.fst =
      recordKeys (checkpoint.tags.getD []).length snapshot.entries.length := by
  have hfixed : (checkpointFields checkpoint checkpointId).map Prod.fst = checkpointKeys := rfl
  simp only [checkpointRecord, budgetSnapshotFields, List.map_append, List.map_cons, hfixed,
    tagFields_keys, budgetEntryFields_keys, recordKeys]
  rfl

/-! The keys fall into the literal ones, the tags and the budget entries. -/

def keySection (key : Bytes) : Nat :=
  if (str "tag.").isPrefixOf key then 1 else if (str "budget_entry.").isPrefixOf key then 2 else 0

theorem keySection_literal : ∀ key ∈ checkpointKeys ++ str "budget_snapshot_present" :: budgetKeys,
    keySection key = 0 := by
  decide

theorem keySection_tag : keySection (tagKey index) = 1 := by
  simp [keySection, tagKey]

theorem keySection_budgetEntry :
    ∀ key ∈ budgetEntryKeys index, keySection key = 2 := by
  intro key hkey
  obtain ⟨field, -, rfl⟩ := List.mem_map.mp hkey
  have htag : ¬ str "tag." <+: budgetEntryPrefix index ++ field := by
    rintro ⟨rest, hrest⟩
    have hhead : some (116 : Byte) = some 98 := congrArg List.head? hrest
    exact absurd hhead (by decide)
  simp [keySection, htag]
  simp [budgetEntryPrefix, List.append_assoc]

theorem tagKey_injective (h : tagKey i = tagKey j) : i = j :=
  decimal_injective i j (List.append_cancel_left h)

theorem budgetEntryKeys_disjoint (hij : i ≠ j) :
    List.Disjoint (budgetEntryKeys i) (budgetEntryKeys j) := by
  intro key hi hj
  obtain ⟨f, -, rfl⟩ := List.mem_map.mp hi
  obtain ⟨g, -, hfg⟩ := List.mem_map.mp hj
  simp only [budgetEntryPrefix, List.append_assoc] at hfg
  have hdot : ∀ rest : Bytes, ∀ c ∈ (str "." ++ rest).head?, isDigit c = false := by
    rintro rest c ⟨⟩
    decide
  exact hij (decimal_append_inj j i _ _ (hdot g) (hdot f) (List.append_cancel_left hfg)).1.symm

theorem recordKeys_nodup (tagCount entryCount : Nat) : (recordKeys tagCount entryCount).Nodup := by
  have hliteral := keySection_literal
  have htag : ∀ key ∈ (List.range tagCount).map tagKey, keySection key = 1 := by
    intro key hkey
    obtain ⟨i, -, rfl⟩ := List.mem_map.mp hkey
    exact keySection_tag i
  have hentry : ∀ key ∈ (List.range entryCount).flatMap budgetEntryKeys, keySection key = 2 := by
    intro key hkey
    obtain ⟨i, -, hkey⟩ := List.mem_flatMap.mp hkey
    exact keySection_budgetEntry i key hkey
  have htags : ((List.range tagCount).map tagKey).Nodup :=
    List.nodup_range.map fun i j h => tagKey_injective i j h
  have hentries : ((List.range entryCount).flatMap budgetEntryKeys).Nodup := by
    refine List.nodup_flatMap.mpr ⟨fun i _ => ?_, ?_⟩
    · exact List.Nodup.map (fun a b h => List.append_cancel_left h) (by decide)
    · exact List.nodup_range.imp fun hij => budgetEntryKeys_disjoint _ _ hij
  have hliterals : (checkpointKeys ++ str "budget_snapshot_present" :: budgetKeys).Nodup := by decide
  -- The literals come first here; the record has the tags in between.
  have hperm : (recordKeys tagCount entryCount).Perm
      ((checkpointKeys ++ str "budget_snapshot_present" :: budgetKeys) ++
        ((List.range tagCount).map tagKey ++ (List.range entryCount).flatMap budgetEntryKeys)) := by
    simp only [recordKeys, List.append_assoc, List.cons_append]
    refine List.Perm.append_left _ ?_
    exact List.perm_append_comm_assoc _ (_ :: budgetKeys) _
  refine hperm.nodup_iff.mpr (List.nodup_append.mpr ⟨hliterals, ?_, ?_⟩)
  · refine List.nodup_append.mpr ⟨htags, hentries, ?_⟩
    rintro a ha b hb rfl
    exact absurd ((htag a ha).symm.trans (hentry a hb)) (by decide)
  · rintro a ha b hb rfl
    rcases List.mem_append.mp hb with hb | hb
    · exact absurd ((hliteral a ha).symm.trans (htag a hb)) (by decide)
    · exact absurd ((hliteral a ha).symm.trans (hentry a hb)) (by decide)

/-! ## Clean entries -/

theorem budgetEntryPrefix_clean : CleanKey (budgetEntryPrefix index) :=
  cleanKey_append _ _
    (cleanKey_append _ _ (by decide) (decimal_cleanKey index))
    (by decide)

theorem budgetEntryFields_clean :
    ∀ field ∈ budgetEntryFields index entry, CleanEntry field := by
  have hkey : ∀ name : String, CleanKey (str name) → CleanKey (budgetEntryPrefix index ++ str name) :=
    fun name h => cleanKey_append _ _ (budgetEntryPrefix_clean index) h
  simp only [budgetEntryFields, List.forall_mem_cons]
  refine ⟨?_, ?_, ?_, ?_, ?_, by simp⟩
  · exact integerField_clean _ _ (hkey _ (by decide))
  · exact integerField_clean _ _ (hkey _ (by decide))
  · exact integerField_clean _ _ (hkey _ (by decide))
  · exact integerField_clean _ _ (hkey _ (by decide))
  · exact optionalEncodedField_clean _ _ (hkey _ (by decide))

theorem checkpointRecord_clean :
    ∀ field ∈ checkpointRecord checkpoint checkpointId runtimeBudgetSnapshot, CleanEntry field := by
  have htags : ∀ field ∈ tagFields (checkpoint.tags.getD []), CleanEntry field := by
    intro field hfield
    obtain ⟨index, hindex, rfl⟩ := List.mem_mapIdx.mp hfield
    exact encodedField_clean _ _ (cleanKey_append _ _ (by decide) (decimal_cleanKey index))
  have hbudget : ∀ snapshot, ∀ field ∈ budgetSnapshotFields snapshot, CleanEntry field := by
    intro snapshot field hfield
    rcases List.mem_append.mp hfield with hfield | hfield
    · simp only [List.mem_cons, List.not_mem_nil, or_false] at hfield
      rcases hfield with rfl | rfl | rfl
      · exact optionalIntegerField_clean _ _ (by decide)
      · exact optionalEncodedField_clean _ _ (by decide)
      · exact integerField_clean _ _ (by decide)
    · obtain ⟨fields, hfields, hfield⟩ := List.mem_flatten.mp hfield
      obtain ⟨index, hindex, rfl⟩ := List.mem_mapIdx.mp hfields
      exact budgetEntryFields_clean _ _ field hfield
  have hfixed : ∀ field ∈ checkpointFields checkpoint checkpointId, CleanEntry field := by
    simp only [checkpointFields, List.forall_mem_cons]
    refine ⟨?_, ?_, ?_, ?_, ?_, ?_, ?_, ?_, ?_, ?_, ?_, by simp⟩
    case refine_2 | refine_11 => exact integerField_clean _ _ (by decide)
    case refine_9 | refine_10 => exact optionalIntegerField_clean _ _ (by decide)
    case refine_6 | refine_7 | refine_8 => exact optionalEncodedField_clean _ _ (by decide)
    all_goals exact encodedField_clean _ _ (by decide)
  intro field hfield
  rcases List.mem_append.mp hfield with hfield | hfield
  · exact hfixed field hfield
  rcases List.mem_append.mp hfield with hfield | hfield
  · exact htags field hfield
  rcases List.mem_cons.mp hfield with rfl | hfield
  · exact integerField_clean _ _ (by decide)
  · cases runtimeBudgetSnapshot with
    | none => exact absurd hfield (by simp)
    | some snapshot => exact hbudget snapshot field hfield

theorem checkpointRecord_nodup :
    ((checkpointRecord checkpoint checkpointId runtimeBudgetSnapshot).map Prod.fst).Nodup := by
  cases runtimeBudgetSnapshot with
  | some snapshot =>
    rw [checkpointRecord_keys]
    exact recordKeys_nodup _ _
  | none =>
    -- A record without a snapshot has the keys of one with an empty snapshot, less the last three.
    refine (recordKeys_nodup (checkpoint.tags.getD []).length 0).sublist ?_
    have hfixed : (checkpointFields checkpoint checkpointId).map Prod.fst = checkpointKeys := rfl
    simp only [checkpointRecord, List.map_append, List.map_cons, hfixed, tagFields_keys, recordKeys]
    exact (((List.nil_sublist _).cons_cons _).append_left _).append_left _

/-! ## Reading the sections -/

theorem budgetType_read (budgetType : BudgetType) :
    ∃ raw, stoul32 (intDecimal (budgetTypeCode budgetType)) = some raw ∧
      parseBudgetType raw = some budgetType := by
  cases budgetType with
  | token => exact ⟨0, by decide, rfl⟩
  | turn => exact ⟨1, by decide, rfl⟩
  | toolCall => exact ⟨2, by decide, rfl⟩
  | latency => exact ⟨3, by decide, rfl⟩
  | replan => exact ⟨4, by decide, rfl⟩

theorem readBudgetEntry_spec (h : Reads fields (budgetEntryFields index entry)) :
    readBudgetEntry fields index = .ok entry := by
  simp only [Reads, budgetEntryFields, integerField, optionalEncodedField,
    List.forall_mem_cons] at h
  obtain ⟨htype, hcurrent, hmax, hremaining, hreject, -⟩ := h
  obtain ⟨raw, hraw, hparse⟩ := budgetType_read entry.budgetType
  simp only [readBudgetEntry, decodeRequiredIntegerField_spec _ _ _ _ _ _ hraw htype,
    decodeRequiredIntegerField_spec _ _ _ _ _ _ (stoull_nat entry.current) hcurrent,
    decodeRequiredIntegerField_spec _ _ _ _ _ _ (stoull_nat entry.max) hmax,
    decodeRequiredIntegerField_spec _ _ _ _ _ _ (stoll_intDecimal entry.remaining) hremaining,
    decodeOptionalStringField_spec _ _ _ _ hreject, hparse, bind, Except.bind]

theorem readTags_spec (tags : Option (List Bytes)) (hne : tags ≠ some [])
    (hlength : (tags.getD []).length < 2 ^ 32)
    (hcount : find fields (str "tag_count") = some (intDecimal (tags.getD []).length))
    (h : Reads fields (tagFields (tags.getD []))) : readTags fields = .ok tags := by
  have hread := decodeRequiredIntegerField_spec .checkpoint _ _ _ _ _ (stoul32_count _ hlength) hcount
  have hnat := UInt32.toNat_ofNat_of_lt' hlength
  simp only [readTags, hread, bind, Except.bind]
  cases tags with
  | none => rfl
  | some tags =>
    rw [Option.getD_some] at hlength h hnat ⊢
    have hpos : UInt32.ofNat tags.length ≠ 0 := by
      intro hzero
      rw [hzero] at hnat
      exact hne (by rw [List.eq_nil_of_length_eq_zero hnat.symm])
    rw [if_neg hpos, hnat, readIndexed_spec _ tags 0]
    intro j hj
    rw [Nat.zero_add]
    exact decodeRequiredStringField_spec _ _ _ _ (h _ (List.mem_mapIdx.mpr ⟨j, hj, rfl⟩))

theorem readBudgetSnapshot_spec (hentries : ∀ snapshot, runtimeBudgetSnapshot = some snapshot →
      snapshot.entries.length < 2 ^ 32)
    (hpresent : find fields (str "budget_snapshot_present") =
      some (intDecimal (if runtimeBudgetSnapshot.isSome then 1 else 0)))
    (h : ∀ snapshot, runtimeBudgetSnapshot = some snapshot →
      Reads fields (budgetSnapshotFields snapshot)) :
    readBudgetSnapshot fields = .ok runtimeBudgetSnapshot := by
  cases runtimeBudgetSnapshot with
  | none =>
    have hread := decodeRequiredIntegerField_spec .checkpoint _ _ stoul32 _ 0 (by decide) hpresent
    simp only [readBudgetSnapshot, hread, bind, Except.bind]
    rfl
  | some snapshot =>
    have hone : stoul32 (intDecimal 1) = some 1 := by decide
    have hread := decodeRequiredIntegerField_spec .checkpoint _ _ stoul32 _ 1 hone hpresent
    have hlength := hentries snapshot rfl
    have h := h snapshot rfl
    simp only [Reads, budgetSnapshotFields, optionalIntegerField, optionalEncodedField,
      integerField, List.forall_mem_append, List.forall_mem_cons] at h
    obtain ⟨⟨hat, hoverall, hcount, -⟩, hfields⟩ := h
    have hat := decodeOptionalIntegerField_spec .checkpoint fields _ stoull
      (fun u : UInt64 => (u.toNat : Int)) stoull_nat snapshot.snapshotAtMs hat
    have hcount := decodeRequiredIntegerField_spec .checkpoint _ _ _ _ _
      (stoul32_count _ hlength) hcount
    simp only [readBudgetSnapshot, hread, hat, hcount, bind, Except.bind, if_true,
      decodeOptionalStringField_spec _ _ _ _ hoverall]
    rw [UInt32.toNat_ofNat_of_lt' hlength, readIndexed_spec _ snapshot.entries 0]
    intro j hj
    rw [Nat.zero_add]
    refine readBudgetEntry_spec fields j _ fun field hfield => hfields field ?_
    exact List.mem_flatten.mpr ⟨_, List.mem_mapIdx.mpr ⟨j, hj, rfl⟩, hfield⟩

/-- A consistent checkpoint and its budget snapshot come back from the fields of their
record, whatever the state holds. -/
theorem readCheckpointFields_spec (hconsistent : Consistent checkpoint)
    (hid : checkpoint.checkpointId = some checkpointId)
    (hfit : CountsFit checkpoint runtimeBudgetSnapshot)
    (h : Reads fields (checkpointRecord checkpoint checkpointId runtimeBudgetSnapshot)) :
    readCheckpointFields fields checkpointId = .ok ⟨checkpoint, runtimeBudgetSnapshot⟩ := by
  simp only [Reads, checkpointRecord, checkpointFields, encodedField, optionalEncodedField,
    integerField, optionalIntegerField, List.forall_mem_append, List.forall_mem_cons] at h
  obtain ⟨⟨hcheckpointId, hstate, hstepId, hmemory, haction, hrequestId, hgoalId, hbelief, hretry,
    hcreated, htagCount, -⟩, htags, hpresent, hbudget⟩ := h
  obtain ⟨state, hsomeState, -⟩ := hconsistent.state
  obtain ⟨stepId, hsomeStepId, -⟩ := hconsistent.stepId
  obtain ⟨memory, hsomeMemory, -⟩ := hconsistent.workingMemorySnapshot
  obtain ⟨action, hsomeAction⟩ := hconsistent.pendingAction
  rw [hsomeState] at hstate
  rw [hsomeStepId] at hstepId
  rw [hsomeMemory] at hmemory
  rw [hsomeAction] at haction
  have hlength : (checkpoint.tags.getD []).length < 2 ^ 32 := by
    cases htags : checkpoint.tags with
    | none => simp
    | some tags => exact hfit.tags tags htags
  have htags := readTags_spec fields checkpoint.tags hconsistent.tags hlength htagCount htags
  have hbudget := readBudgetSnapshot_spec fields runtimeBudgetSnapshot hfit.entries hpresent
    fun snapshot hsnapshot => by rw [hsnapshot] at hbudget; exact hbudget
  have hretry := decodeOptionalIntegerField_spec .checkpoint fields (str "retry_count") stoul32
    (fun u : UInt32 => (u.toNat : Int)) stoul32_nat checkpoint.retryCount hretry
  have hcreated := decodeOptionalIntegerField_spec .checkpoint fields (str "created_at") stoll
    Int64.toInt stoll_intDecimal checkpoint.createdAt hcreated
  have hstate := decodeRequiredIntegerField_spec .checkpoint fields (str "state") stoul32 _ _
    (stoul32_int state.toRaw) hstate
  simp only [readCheckpointFields, bind, Except.bind, hretry, hcreated, hstate, htags, hbudget,
    decodeRequiredStringField_spec .checkpoint fields _ _ hcheckpointId,
    decodeRequiredStringField_spec .checkpoint fields _ _ hstepId,
    decodeRequiredStringField_spec .checkpoint fields _ _ hmemory,
    decodeRequiredStringField_spec .checkpoint fields _ _ haction,
    decodeOptionalStringField_spec .checkpoint fields _ _ hrequestId,
    decodeOptionalStringField_spec .checkpoint fields _ _ hgoalId,
    decodeOptionalStringField_spec .checkpoint fields _ _ hbelief, if_true,
    Option.getD_some, Int32.toInt32_toUInt32, CheckpointState.ofRaw_toRaw]
  rw [← hid, ← hsomeState, ← hsomeStepId, ← hsomeMemory, ← hsomeAction]

theorem read_write_durable (files : FileSystem) (fault : Option PublishFault) (root : StateRoot)
    (checkpoint : Checkpoint) (checkpointId : Bytes)
    (runtimeBudgetSnapshot : Option BudgetSnapshot) (hconsistent : Consistent checkpoint)
    (hid : checkpoint.checkpointId = some checkpointId)
    (hfit : CountsFit checkpoint runtimeBudgetSnapshot)
    (hwritten : (writeDurableCheckpointRecord files fault root checkpoint
      runtimeBudgetSnapshot).2.1 = true) :
    readDurableCheckpointRecord
        (writeDurableCheckpointRecord files fault root checkpoint runtimeBudgetSnapshot).1 true root
        checkpointId =
      ⟨.loaded, some ⟨checkpoint, runtimeBudgetSnapshot⟩,
        str "checkpoint loaded from durable store"⟩ := by
  obtain ⟨fields, hparse, hreads⟩ := parse_reads
    (checkpointRecord checkpoint checkpointId runtimeBudgetSnapshot)
    (checkpointRecord_clean _ _ _) (checkpointRecord_nodup _ _ _)
  have hread := readCheckpointFields_spec fields checkpoint checkpointId runtimeBudgetSnapshot
    hconsistent hid hfit hreads
  obtain ⟨id, hsomeId, hne⟩ := hconsistent.checkpointId
  rw [hid, Option.some.injEq] at hsomeId
  subst hsomeId
  unfold writeDurableCheckpointRecord at hwritten ⊢
  rw [hid] at hwritten ⊢
  split at hwritten
  · contradiction
  · cases ‹some checkpointId = some []›; exact absurd rfl hne
  · cases ‹some checkpointId = some _›
    cases fault with
    | some fault =>
      simp only [publish_outcome] at hwritten
      cases hwritten
    | none => simp only [readDurableCheckpointRecord, publish_read, hparse, hread, Bool.not_true,
        Bool.false_eq_true, if_false]

end Dasall.Runtime
