import Dasall.Knowledge.Index.VersionLedger
import Dasall.Lib.Run

/-!
# Runs of the version ledger

Over every sequence of calls and restarts, with any writes failing, the entries stay in order and
the file holds them. Which snapshot is the last known good one hangs on the clock: an entry that
was activated at a later reading comes before the one that has just been activated.
-/

open Dasall.Lib Dasall.Lib.Best Dasall.Lib.Replacement Dasall.Lib.Run Dasall.Lib.Text

namespace Dasall.Knowledge.Index

inductive LedgerCall
  | recordCandidate (entry : VersionLedgerEntry) (fault : Option Fault)
  | markActive (snapshotId : Bytes) (activatedAt : Int64) (fault : Option Fault)
  | markSuperseded (snapshotId : Bytes) (fault : Option Fault)
  | restart

def ledgerStep (ledger : VersionLedger) : LedgerCall → VersionLedger × Bool
  | .recordCandidate entry fault => ledger.recordCandidate entry fault
  | .markActive snapshotId activatedAt fault => ledger.markActive snapshotId activatedAt fault
  | .markSuperseded snapshotId fault => ledger.markSuperseded snapshotId fault
  | .restart => (.open ledger.file, true)

/-- A ledger over a file that does not exist yet. -/
def newLedger : VersionLedger := .open {}

/-! ## What every state holds -/

def isActive (entry : VersionLedgerEntry) : Bool := entry.state == .active

def link (entry : VersionLedgerEntry) : Bytes × Bytes := (entry.snapshotId, entry.parentSnapshotId)

/-- Every parent that is named is the id of an earlier entry. -/
def EarlierParents (links : List (Bytes × Bytes)) : Prop :=
  ∀ before entry after, links = before ++ entry :: after → entry.2 ≠ [] →
    entry.2 ∈ before.map Prod.fst

structure Ordered (entries : List VersionLedgerEntry) : Prop where
  oneActive : entries.countP isActive ≤ 1
  uniqueIds : (entries.map VersionLedgerEntry.snapshotId).Nodup
  earlierParents : EarlierParents (entries.map link)

structure LedgerInvariant (ledger : VersionLedger) : Prop where
  ordered : Ordered ledger.entries
  consistent : ∀ entry ∈ ledger.entries, entry.hasConsistentValues = true
  restored : loadEntriesFromDisk ledger.file.target = ledger.entries

theorem earlierParents_append (links : List (Bytes × Bytes)) (entry : Bytes × Bytes)
    (h : EarlierParents links) (hentry : entry.2 ≠ [] → entry.2 ∈ links.map Prod.fst) :
    EarlierParents (links ++ [entry]) := by
  intro before other after hsplit hother
  rcases List.eq_nil_or_concat' after with rfl | ⟨rest, last, rfl⟩
  · obtain ⟨rfl, hlast⟩ := List.append_inj' hsplit (by simp)
    obtain rfl : entry = other := by simpa using hlast
    exact hentry hother
  · rw [← List.cons_append, ← List.append_assoc] at hsplit
    exact h before other rest (List.append_inj' hsplit (by simp)).1 hother

/-! ## What a call does to the entries -/

theorem commit_cases (ledger : VersionLedger) (entries : List VersionLedgerEntry)
    (fault : Option Fault) :
    (fault = none ∧ (ledger.commit entries fault).2 = true ∧
        (ledger.commit entries fault).1.entries = entries ∧
        (ledger.commit entries fault).1.file.target = some (ledgerContent entries)) ∨
      (fault ≠ none ∧ (ledger.commit entries fault).2 = false ∧
        (ledger.commit entries fault).1.entries = ledger.entries ∧
        (ledger.commit entries fault).1.file.target = ledger.file.target) := by
  unfold VersionLedger.commit
  cases fault with
  | none =>
    left
    simp [Slot.replace]
  | some fault =>
    right
    have hrefused : (ledger.file.replace (some fault) (ledgerContent entries)).2 = false := by
      rw [← Bool.not_eq_true, replace_ok]
      simp
    have hkept := target_kept ledger.file (some fault) (ledgerContent entries) hrefused
    simp [hrefused, hkept]

/-- The call refuses, or its write fails: entries and file stay. -/
def Unchanged (ledger : VersionLedger) (result : VersionLedger × Bool) : Prop :=
  result.2 = false ∧ result.1.entries = ledger.entries ∧
    result.1.file.target = ledger.file.target

/-- The call takes on the entries and writes them. -/
def Takes (entries : List VersionLedgerEntry) (result : VersionLedger × Bool) : Prop :=
  result.2 = true ∧ result.1.entries = entries ∧
    result.1.file.target = some (ledgerContent entries)

theorem recordCandidate_cases (ledger : VersionLedger) (entry : VersionLedgerEntry)
    (fault : Option Fault) :
    Unchanged ledger (ledger.recordCandidate entry fault) ∨
      (entry.hasConsistentValues = true ∧ entry.state = .pending ∧
        entry.snapshotId ∉ ledger.entries.map VersionLedgerEntry.snapshotId ∧
        (entry.parentSnapshotId ≠ [] →
          entry.parentSnapshotId ∈ ledger.entries.map VersionLedgerEntry.snapshotId) ∧
        Takes (ledger.entries ++ [entry]) (ledger.recordCandidate entry fault)) := by
  unfold VersionLedger.recordCandidate
  split
  next => exact Or.inl ⟨rfl, rfl, rfl⟩
  next hentry =>
  split
  next => exact Or.inl ⟨rfl, rfl, rfl⟩
  next hid =>
  split
  next => exact Or.inl ⟨rfl, rfl, rfl⟩
  next hparent =>
  rcases commit_cases ledger (ledger.entries ++ [entry]) fault with htaken | hkept
  · right
    simp only [Bool.or_eq_true, Bool.not_eq_true', bne_iff_ne, ne_eq, not_or, Bool.not_eq_false,
      Decidable.not_not] at hentry
    refine ⟨hentry.1.1.1, hentry.1.1.2, ?_, ?_, htaken.2⟩
    · rwa [← Rows.find_isSome]
    · intro hnamed
      rw [← Rows.find_isSome]
      unfold findEntry at hparent
      simpa [hnamed, Option.isSome_iff_ne_none] using hparent
  · exact Or.inl hkept.2

/-- The entry that a `mark_active` goes for, and that it may go for it. -/
structure Activates (ledger : VersionLedger) (snapshotId : Bytes) (activatedAt : Int64)
    (target : VersionLedgerEntry) : Prop where
  found : findEntry ledger.entries snapshotId = some target
  pending : target.state = .pending
  built : target.builtAt ≤ activatedAt

def activated (ledger : VersionLedger) (snapshotId : Bytes) (activatedAt : Int64)
    (target : VersionLedgerEntry) : List VersionLedgerEntry :=
  Rows.put VersionLedgerEntry.snapshotId snapshotId (activate activatedAt target)
    (ledger.entries.map supersedeActive)

variable {ledger : VersionLedger} {entries : List VersionLedgerEntry} (entry : VersionLedgerEntry)
  {snapshotId : Bytes} {activatedAt : Int64} {target : VersionLedgerEntry}
  {result : VersionLedger × Bool} {reader : ChecksumReader}

theorem hasConsistentValues_iff :
    entry.hasConsistentValues = true ↔
      (entry.snapshotId ≠ [] ∧ entry.batchId ≠ [] ∧ 0 < entry.builtAt ∧ entry.checksum ≠ [] ∧
        (entry.parentSnapshotId ≠ [] → entry.parentSnapshotId ≠ entry.snapshotId) ∧
        (entry.documentCount = 0 → entry.chunkCount = 0)) ∧
      match entry.state with
      | .pending => entry.activatedAt = 0 ∧ entry.rollbackEligible = false
      | .active => entry.builtAt ≤ entry.activatedAt ∧ entry.rollbackEligible = true
      | .superseded => entry.builtAt ≤ entry.activatedAt := by
  unfold VersionLedgerEntry.hasConsistentValues
  cases entry.state <;> grind

theorem activate_consistent {entry : VersionLedgerEntry} {activatedAt : Int64}
    (h : entry.hasConsistentValues = true) (hbuilt : entry.builtAt ≤ activatedAt) :
    (activate activatedAt entry).hasConsistentValues = true := by
  rw [hasConsistentValues_iff] at h ⊢
  exact ⟨h.1, hbuilt, rfl⟩

theorem supersede_consistent {entry : VersionLedgerEntry} (h : entry.hasConsistentValues = true)
    (hactive : entry.state = .active) : (supersede entry).hasConsistentValues = true := by
  rw [hasConsistentValues_iff, hactive] at h
  rw [hasConsistentValues_iff]
  exact ⟨h.1, h.2.1⟩

theorem supersedeActive_consistent {entry : VersionLedgerEntry}
    (h : entry.hasConsistentValues = true) : (supersedeActive entry).hasConsistentValues = true := by
  unfold supersedeActive
  split
  next hactive => exact supersede_consistent h hactive
  next => exact h

/-- From consistent entries the call succeeds for every target it may go for, unless the write
fails. -/
theorem markActive_cases (ledger : VersionLedger) (snapshotId : Bytes) (activatedAt : Int64)
    (fault : Option Fault) (h : ∀ entry ∈ ledger.entries, entry.hasConsistentValues = true) :
    (Unchanged ledger (ledger.markActive snapshotId activatedAt fault) ∧
        ¬ (fault = none ∧ ∃ target, Activates ledger snapshotId activatedAt target)) ∨
      ∃ target, fault = none ∧ Activates ledger snapshotId activatedAt target ∧
        Takes (activated ledger snapshotId activatedAt target)
          (ledger.markActive snapshotId activatedAt fault) := by
  have hfound : ∀ target, findEntry ledger.entries snapshotId = some target →
      target.hasConsistentValues = true ∧ target.snapshotId = snapshotId := by
    intro target hfind
    exact ⟨h target (Rows.find_mem _ hfind), Rows.find_key _ hfind⟩
  unfold VersionLedger.markActive
  split
  next hinput =>
    refine Or.inl ⟨⟨rfl, rfl, rfl⟩, ?_⟩
    rintro ⟨-, target, hfind, -, hbuilt⟩
    obtain ⟨hconsistent, rfl⟩ := hfound target hfind
    rw [hasConsistentValues_iff] at hconsistent
    have hpositive := Int64.lt_of_lt_of_le hconsistent.1.2.2.1 hbuilt
    simp only [Bool.or_eq_true, List.isEmpty_iff, decide_eq_true_eq] at hinput
    rcases hinput with hempty | hnegative
    · exact hconsistent.1.1 hempty
    · exact absurd hpositive (Int64.not_lt.mpr hnegative)
  next =>
  split
  next hnone =>
    refine Or.inl ⟨⟨rfl, rfl, rfl⟩, ?_⟩
    rintro ⟨-, target, hfind, -⟩
    simp [hnone] at hfind
  next target hfind =>
  split
  next hrefused =>
    refine Or.inl ⟨⟨rfl, rfl, rfl⟩, ?_⟩
    rintro ⟨-, other, hother, hpending, hbuilt⟩
    obtain rfl : target = other := by simpa [hfind] using hother
    simp [hpending, Int64.not_lt.mpr hbuilt] at hrefused
  next haccepted =>
  simp only [Bool.or_eq_true, bne_iff_ne, ne_eq, decide_eq_true_eq, not_or, Decidable.not_not,
    Int64.not_lt] at haccepted
  have hactivates : Activates ledger snapshotId activatedAt target :=
    ⟨hfind, haccepted.1, haccepted.2⟩
  rw [activate_consistent (hfound target hfind).1 haccepted.2]
  rcases commit_cases ledger (activated ledger snapshotId activatedAt target) fault with
    ⟨hfault, htaken⟩ | ⟨hfault, hkept⟩
  · exact Or.inr ⟨target, hfault, hactivates, htaken⟩
  · exact Or.inl ⟨hkept, fun hnone => hfault hnone.1⟩

theorem markSuperseded_cases (ledger : VersionLedger) (snapshotId : Bytes) (fault : Option Fault) :
    Unchanged ledger (ledger.markSuperseded snapshotId fault) ∨
      Takes ledger.entries (ledger.markSuperseded snapshotId fault) ∨
      ∃ target, findEntry ledger.entries snapshotId = some target ∧ target.state = .active ∧
        Takes (Rows.put VersionLedgerEntry.snapshotId snapshotId (supersede target) ledger.entries)
          (ledger.markSuperseded snapshotId fault) := by
  unfold VersionLedger.markSuperseded
  split
  next => exact Or.inl ⟨rfl, rfl, rfl⟩
  split
  next => exact Or.inl ⟨rfl, rfl, rfl⟩
  next target hfind =>
  split
  next => exact Or.inl ⟨rfl, rfl, rfl⟩
  next =>
    split
    · exact Or.inl ⟨rfl, rfl, rfl⟩
    rcases commit_cases ledger ledger.entries fault with htaken | hkept
    · exact Or.inr (Or.inl htaken.2)
    · exact Or.inl hkept.2
  next hactive =>
    split
    · exact Or.inl ⟨rfl, rfl, rfl⟩
    rcases commit_cases ledger (Rows.put VersionLedgerEntry.snapshotId snapshotId
      (supersede target) ledger.entries) fault with htaken | hkept
    · exact Or.inr (Or.inr ⟨target, hfind, hactive, htaken.2⟩)
    · exact Or.inl hkept.2

/-! ## The invariant -/

theorem invariant_unchanged
    (h : LedgerInvariant ledger) (hresult : Unchanged ledger result) : LedgerInvariant result.1 := by
  obtain ⟨hordered, hconsistent, hrestored⟩ := h
  obtain ⟨-, hentries, htarget⟩ := hresult
  exact ⟨hentries ▸ hordered, hentries ▸ hconsistent, by rw [hentries, htarget, hrestored]⟩

theorem invariant_takes (hordered : Ordered entries)
    (hconsistent : ∀ entry ∈ entries, entry.hasConsistentValues = true)
    (hresult : Takes entries result) : LedgerInvariant result.1 := by
  obtain ⟨-, hentries, htarget⟩ := hresult
  exact ⟨hentries ▸ hordered, hentries ▸ hconsistent,
    by rw [hentries, htarget, loadEntries_ledgerContent entries hconsistent]⟩

theorem ordered_append (h : Ordered entries)
    (entry : VersionLedgerEntry) (hpending : entry.state = .pending)
    (hid : entry.snapshotId ∉ entries.map VersionLedgerEntry.snapshotId)
    (hparent : entry.parentSnapshotId ≠ [] →
      entry.parentSnapshotId ∈ entries.map VersionLedgerEntry.snapshotId) :
    Ordered (entries ++ [entry]) := by
  obtain ⟨hactive, hunique, hparents⟩ := h
  refine ⟨?_, ?_, ?_⟩
  · simpa [List.countP_append, isActive, hpending] using hactive
  · rw [List.map_append, List.nodup_append]
    refine ⟨hunique, by simp, ?_⟩
    intro first hfirst second hsecond
    obtain rfl : second = entry.snapshotId := by simpa using hsecond
    rintro rfl
    exact hid hfirst
  · rw [List.map_append]
    apply earlierParents_append _ _ hparents
    simpa [link, Function.comp_def] using hparent

theorem ordered_of_links {before after : List VersionLedgerEntry} (h : Ordered before)
    (hlinks : after.map link = before.map link) (hactive : after.countP isActive ≤ 1) :
    Ordered after := by
  have hids : ∀ entries : List VersionLedgerEntry,
      entries.map VersionLedgerEntry.snapshotId = (entries.map link).map Prod.fst := by
    intro entries
    simp [link, Function.comp_def]
  refine ⟨hactive, ?_, ?_⟩
  · rw [hids, hlinks, ← hids]
    exact h.uniqueIds
  · rw [hlinks]
    exact h.earlierParents

@[simp] theorem link_supersedeActive :
    link (supersedeActive entry) = link entry := by
  unfold supersedeActive
  split <;> rfl

@[simp] theorem snapshotId_supersedeActive :
    (supersedeActive entry).snapshotId = entry.snapshotId := by
  unfold supersedeActive
  split <;> rfl

@[simp] theorem isActive_supersedeActive :
    isActive (supersedeActive entry) = false := by
  unfold supersedeActive isActive
  split
  · rfl
  next h => simpa using h

theorem countP_supersedeActive (entries : List VersionLedgerEntry) :
    (entries.map supersedeActive).countP isActive = 0 := by
  rw [List.countP_map]
  simp [Function.comp_def]

theorem Activates.found_superseded (h : Activates ledger snapshotId activatedAt target) :
    Rows.find VersionLedgerEntry.snapshotId snapshotId (ledger.entries.map supersedeActive) =
      some target := by
  have hfound := h.found
  unfold findEntry at hfound
  rw [Rows.find_map _ _ _ supersedeActive snapshotId_supersedeActive, hfound]
  simp [supersedeActive, h.pending]

theorem ordered_activated (h : Ordered ledger.entries)
    (hactivates : Activates ledger snapshotId activatedAt target) :
    Ordered (activated ledger snapshotId activatedAt target) := by
  apply ordered_of_links h
  · unfold activated
    have hlink : link (activate activatedAt target) = link target := rfl
    rw [Rows.map_put _ _ _ _ link target hactivates.found_superseded hlink, List.map_map]
    simp [Function.comp_def]
  · have hput := Rows.countP_put_le VersionLedgerEntry.snapshotId snapshotId
      (activate activatedAt target) (ledger.entries.map supersedeActive) isActive
    rw [countP_supersedeActive] at hput
    unfold activated
    have hone : (if isActive (activate activatedAt target) = true then 1 else 0) ≤ 1 := by
      split <;> omega
    omega

theorem ordered_supersede (h : Ordered entries)
    (hfind : findEntry entries snapshotId = some target) :
    Ordered (Rows.put VersionLedgerEntry.snapshotId snapshotId (supersede target) entries) := by
  apply ordered_of_links h
  · exact Rows.map_put _ _ _ _ link target hfind rfl
  · have hput := Rows.countP_put_le VersionLedgerEntry.snapshotId snapshotId (supersede target)
      entries isActive
    have hold := h.oneActive
    have hzero : isActive (supersede target) = false := rfl
    rw [hzero] at hput
    simp only [Bool.false_eq_true, if_false] at hput
    omega

theorem consistent_put (snapshotId : Bytes)
    {row : VersionLedgerEntry} (hrow : row.hasConsistentValues = true)
    (h : ∀ entry ∈ entries, entry.hasConsistentValues = true) :
    ∀ entry ∈ Rows.put VersionLedgerEntry.snapshotId snapshotId row entries,
      entry.hasConsistentValues = true := by
  intro entry hentry
  rcases Rows.mem_put _ _ _ _ entry hentry with rfl | hold
  · exact hrow
  · exact h entry hold

theorem invariant_step (ledger : VersionLedger) (call : LedgerCall) (h : LedgerInvariant ledger) :
    LedgerInvariant (ledgerStep ledger call).1 := by
  have hconsistent := h.consistent
  unfold ledgerStep
  split
  next entry fault =>
    rcases recordCandidate_cases ledger entry fault with hkept | ⟨hentry, hpending, hid, hparent,
      htaken⟩
    · exact invariant_unchanged h hkept
    · apply invariant_takes (ordered_append h.ordered entry hpending hid hparent) _ htaken
      intro other hother
      rcases List.mem_append.mp hother with hold | hnew
      · exact hconsistent other hold
      · obtain rfl : other = entry := by simpa using hnew
        exact hentry
  next snapshotId activatedAt fault =>
    rcases markActive_cases ledger snapshotId activatedAt fault hconsistent with
      ⟨hkept, -⟩ | ⟨target, -, hactivates, htaken⟩
    · exact invariant_unchanged h hkept
    · have htarget := hconsistent target (Rows.find_mem _ hactivates.found)
      apply invariant_takes (ordered_activated h.ordered hactivates) _ htaken
      apply consistent_put snapshotId (activate_consistent htarget hactivates.built)
      intro entry hentry
      obtain ⟨old, hold, rfl⟩ := List.mem_map.mp hentry
      exact supersedeActive_consistent (hconsistent old hold)
  next snapshotId fault =>
    rcases markSuperseded_cases ledger snapshotId fault with
      hkept | htaken | ⟨target, hfind, hactive, htaken⟩
    · exact invariant_unchanged h hkept
    · exact invariant_takes h.ordered hconsistent htaken
    · have htarget := hconsistent target (Rows.find_mem _ hfind)
      exact invariant_takes (ordered_supersede h.ordered hfind)
        (consistent_put snapshotId (supersede_consistent htarget hactive) hconsistent) htaken
  next =>
    have hentries : (VersionLedger.open ledger.file).entries = ledger.entries := h.restored
    exact ⟨hentries ▸ h.ordered, hentries ▸ hconsistent, hentries ▸ h.restored⟩

theorem invariant_newLedger : LedgerInvariant newLedger := by
  refine ⟨⟨?_, ?_, ?_⟩, ?_, rfl⟩
  · simp [newLedger, VersionLedger.open, loadEntriesFromDisk]
  · simp [newLedger, VersionLedger.open, loadEntriesFromDisk]
  · intro before entry after hsplit
    simp [newLedger, VersionLedger.open, loadEntriesFromDisk] at hsplit
  · simp [newLedger, VersionLedger.open, loadEntriesFromDisk]

/-! ## The snapshot just activated -/

/-- Every stored snapshot has the checksum that the ledger recorded for it. -/
def Intact (reader : ChecksumReader) (entries : List VersionLedgerEntry) : Prop :=
  ∀ entry ∈ entries, checksumMatches reader entry = true

/-- With all checksums intact, the snapshot is the active and the last known good one. -/
def Serves (ledger : VersionLedger) (snapshotId : Bytes) : Prop :=
  ∀ reader, Intact reader ledger.entries →
    (∃ entry, ledger.active reader = some entry ∧ entry.snapshotId = snapshotId) ∧
      ∃ entry, ledger.lastKnownGood reader = some entry ∧ entry.snapshotId = snapshotId

theorem intact_without_reader
    (h : ∀ entry ∈ entries, entry.hasConsistentValues = true) : Intact none entries := by
  intro entry hentry
  have hchecksum := ((hasConsistentValues_iff entry).mp (h entry hentry)).1.2.2.2.1
  unfold checksumMatches
  simp [hchecksum]

/-- The entries after an activation: the activated one, and the earlier ones, none of them active. -/
theorem mem_activated {entry : VersionLedgerEntry}
    (h : entry ∈ activated ledger snapshotId activatedAt target) :
    entry = activate activatedAt target ∨ ∃ old ∈ ledger.entries, supersedeActive old = entry := by
  rcases Rows.mem_put _ _ _ _ entry h with hnew | hold
  · exact Or.inl hnew
  · exact Or.inr (List.mem_map.mp hold)

theorem participates_supersedeActive :
    participatesInLastKnownGood (supersedeActive entry) = participatesInLastKnownGood entry ∧
      (supersedeActive entry).activatedAt = entry.activatedAt := by
  unfold supersedeActive
  split
  next h => simp [participatesInLastKnownGood, supersede, h]
  next => exact ⟨rfl, rfl⟩

theorem Takes.mem_activated
    (hresult : Takes (activated ledger snapshotId activatedAt target) result) :
    activate activatedAt target ∈ result.1.entries := by
  rw [hresult.2.1]
  exact Rows.mem_put_self ..

theorem active_activated (hresult : Takes (activated ledger snapshotId activatedAt target) result)
    (hmatches : checksumMatches reader (activate activatedAt target) = true) :
    result.1.active reader = some (activate activatedAt target) := by
  apply best_of_beats
  · rw [List.mem_filter, Bool.and_eq_true]
    exact ⟨hresult.mem_activated, rfl, hmatches⟩
  · intro other hother hne
    rw [List.mem_filter, hresult.2.1] at hother
    rcases mem_activated hother.1 with hsame | ⟨old, -, rfl⟩
    · exact absurd hsame hne
    · have hidle := isActive_supersedeActive old
      unfold isActive at hidle
      simp [hidle] at hother

theorem lastKnownGood_rank (ledger : VersionLedger) (reader : ChecksumReader)
    (winner : VersionLedgerEntry) (h : ledger.lastKnownGood reader = some winner) :
    ∀ entry ∈ ledger.entries, participatesInLastKnownGood entry = true →
      checksumMatches reader entry = true → entry.activatedAt.toInt ≤ winner.activatedAt.toInt := by
  intro entry hentry hparticipates hmatches
  refine best_rank isBetterLastKnownGoodCandidate (fun entry => entry.activatedAt.toInt) ?_ ?_ _
    winner h entry (by simp [List.mem_filter, hentry, hparticipates, hmatches])
  · intro first second hbetter
    unfold isBetterLastKnownGoodCandidate at hbetter
    by_cases hsame : first.activatedAt = second.activatedAt
    · simp [hsame]
    · simp only [bne_iff_ne, ne_eq, hsame, not_false_eq_true, if_true, decide_eq_true_eq,
        Int64.lt_iff_toInt_lt] at hbetter
      omega
  · intro first second hother
    unfold isBetterLastKnownGoodCandidate at hother
    by_cases hsame : first.activatedAt = second.activatedAt
    · simp [hsame]
    · simp only [bne_iff_ne, ne_eq, hsame, not_false_eq_true, if_true, decide_eq_false_iff_not,
        Int64.lt_iff_toInt_lt] at hother
      omega

/-- The clock reading of the activation is no earlier than those of the entries that take part in
the choice of the last known good snapshot. -/
def ClockKeepsUp (ledger : VersionLedger) (activatedAt : Int64) : Prop :=
  ∀ entry ∈ ledger.entries, participatesInLastKnownGood entry = true →
    entry.activatedAt ≤ activatedAt

theorem lastKnownGood_activated
    (hresult : Takes (activated ledger snapshotId activatedAt target) result)
    (hintact : Intact reader result.1.entries) (hclock : ClockKeepsUp ledger activatedAt) :
    result.1.lastKnownGood reader = some (activate activatedAt target) := by
  apply best_of_beats
  · rw [List.mem_filter, Bool.and_eq_true]
    exact ⟨hresult.mem_activated, rfl, hintact _ hresult.mem_activated⟩
  · intro other hother hne
    rw [List.mem_filter, hresult.2.1] at hother
    rcases mem_activated hother.1 with hsame | ⟨old, hold, rfl⟩
    · exact absurd hsame hne
    · obtain ⟨hparticipates, hreading⟩ := participates_supersedeActive old
      have hidle := isActive_supersedeActive old
      have hpart : participatesInLastKnownGood old = true := by
        rw [← hparticipates]
        simpa using (Bool.and_eq_true _ _ ▸ hother.2).1
      have hle := hclock old hold hpart
      unfold isActive at hidle
      unfold isBetterLastKnownGoodCandidate
      rw [hreading]
      by_cases hsame : old.activatedAt = activatedAt
      · have hstate : (supersedeActive old).state ≠ .active := by simpa using hidle
        have hstate' : SnapshotState.active ≠ (supersedeActive old).state := fun h => hstate h.symm
        simp [activate, hsame, hidle, hstate, hstate']
      · have hsame' : ¬ activatedAt = old.activatedAt := fun h => hsame h.symm
        have hlt : old.activatedAt < activatedAt := by
          rw [Int64.le_iff_toInt_le] at hle
          rw [Int64.lt_iff_toInt_lt]
          have hne : old.activatedAt.toInt ≠ activatedAt.toInt := fun h => hsame (Int64.toInt_inj.mp h)
          omega
        simp [activate, hsame, hsame', hlt, Int64.not_lt.mpr hle]

theorem serves_activated_iff (h : LedgerInvariant ledger)
    (hactivates : Activates ledger snapshotId activatedAt target)
    (hresult : Takes (activated ledger snapshotId activatedAt target) result)
    (hnext : LedgerInvariant result.1) :
    Serves result.1 snapshotId ↔ ClockKeepsUp ledger activatedAt := by
  have hid : target.snapshotId = snapshotId :=
    Rows.find_key VersionLedgerEntry.snapshotId hactivates.found
  change (activate activatedAt target).snapshotId = snapshotId at hid
  constructor
  · intro hserves old hold hparticipates
    have hintact := intact_without_reader hnext.consistent
    obtain ⟨-, winner, hwinner, hsame⟩ := hserves none hintact
    -- The pending target takes no part yet, so the entry is another one, and stays in the list.
    have hother : (supersedeActive old).snapshotId ≠ snapshotId := by
      intro heq
      have hfound := Rows.find_of_mem VersionLedgerEntry.snapshotId ledger.entries
        h.ordered.uniqueIds old hold
      rw [snapshotId_supersedeActive] at heq
      rw [heq] at hfound
      obtain rfl : target = old := Option.some.inj (hactivates.found.symm.trans hfound)
      simp [participatesInLastKnownGood, hactivates.pending] at hparticipates
    have hstays : supersedeActive old ∈ result.1.entries := by
      rw [hresult.2.1]
      exact Rows.mem_put_of_ne _ _ _ _ _ (List.mem_map_of_mem hold) hother
    have hrank := lastKnownGood_rank result.1 none winner hwinner _ hstays
      ((participates_supersedeActive old).1.trans hparticipates) (hintact _ hstays)
    have hwinner' : winner = activate activatedAt target := by
      have hmember : winner ∈ result.1.entries := (List.mem_filter.mp (best_mem _ hwinner)).1
      exact List.inj_on_of_nodup_map hnext.ordered.uniqueIds hmember hresult.mem_activated
        (hsame.trans hid.symm)
    rw [hwinner', (participates_supersedeActive old).2] at hrank
    exact Int64.le_iff_toInt_le.mpr hrank
  · intro hclock reader hintact
    exact ⟨⟨_, active_activated hresult (hintact _ hresult.mem_activated), hid⟩,
      ⟨_, lastKnownGood_activated hresult hintact hclock, hid⟩⟩

/-! ## Runs -/

/-- At most one entry is active, ids are unique, parents come earlier, and the file holds the
entries. -/
structure StateHolds (ledger : VersionLedger) : Prop where
  ordered : Ordered ledger.entries
  restored : (VersionLedger.open ledger.file).entries = ledger.entries

/-- A call that is refused changes no entry, and an activation that succeeds is served. -/
def StepHolds (ledger : VersionLedger) (call : LedgerCall) : Prop :=
  ((ledgerStep ledger call).2 = false → (ledgerStep ledger call).1.entries = ledger.entries) ∧
    ∀ snapshotId activatedAt fault, call = .markActive snapshotId activatedAt fault →
      (ledgerStep ledger call).2 = true → Serves (ledgerStep ledger call).1 snapshotId

/-- An activation that goes ahead reads a clock that has kept up. -/
def ActivatesInTime (ledger : VersionLedger) : LedgerCall → Prop
  | .markActive snapshotId activatedAt none =>
    (∃ target, Activates ledger snapshotId activatedAt target) → ClockKeepsUp ledger activatedAt
  | _ => True

theorem stepHolds_iff (ledger : VersionLedger) (call : LedgerCall) (h : LedgerInvariant ledger) :
    StepHolds ledger call ↔ ActivatesInTime ledger call := by
  have hnext := invariant_step ledger call h
  unfold StepHolds
  cases call with
  | recordCandidate entry fault =>
    refine iff_of_true ⟨fun hrefused => ?_, by simp⟩ trivial
    rcases recordCandidate_cases ledger entry fault with hkept | ⟨-, -, -, -, htaken⟩
    · exact hkept.2.1
    · exact absurd (htaken.1.symm.trans hrefused) (by simp)
  | markSuperseded snapshotId fault =>
    refine iff_of_true ⟨fun hrefused => ?_, by simp⟩ trivial
    rcases markSuperseded_cases ledger snapshotId fault with
      hkept | htaken | ⟨target, -, -, htaken⟩
    · exact hkept.2.1
    · exact absurd (htaken.1.symm.trans hrefused) (by simp)
    · exact absurd (htaken.1.symm.trans hrefused) (by simp)
  | restart =>
    refine iff_of_true ⟨fun hrefused => ?_, by simp⟩ trivial
    cases hrefused
  | markActive snapshotId activatedAt fault =>
    rcases markActive_cases ledger snapshotId activatedAt fault h.consistent with
      ⟨hkept, hnone⟩ | ⟨target, rfl, hactivates, htaken⟩
    · refine iff_of_true ⟨fun _ => hkept.2.1, fun id at' fault' _ hok => ?_⟩ ?_
      · exact absurd (hkept.1.symm.trans hok) (by simp)
      · cases fault with
        | some fault => trivial
        | none => exact fun htarget => absurd ⟨rfl, htarget⟩ hnone
    · have hserves := serves_activated_iff h hactivates htaken hnext
      constructor
      · intro hstep _
        exact hserves.mp (hstep.2 snapshotId activatedAt none rfl htaken.1)
      · intro htime
        refine ⟨fun hrefused => absurd (htaken.1.symm.trans hrefused) (by simp), ?_⟩
        rintro id at' fault' hcall -
        obtain ⟨rfl, rfl, rfl⟩ := LedgerCall.markActive.inj hcall
        exact hserves.mpr (htime ⟨target, hactivates⟩)

theorem ledger_runs_iff (calls : List LedgerCall) :
    ((∀ k, StateHolds (run ledgerStep newLedger (calls.take k)).1) ∧
        AllSteps ledgerStep StepHolds newLedger calls) ↔
      AllSteps ledgerStep ActivatesInTime newLedger calls := by
  have hstates : ∀ k, StateHolds (run ledgerStep newLedger (calls.take k)).1 := by
    intro k
    have h := invariant_run ledgerStep LedgerInvariant invariant_step newLedger (calls.take k)
      invariant_newLedger
    exact ⟨h.ordered, h.restored⟩
  rw [allSteps_iff ledgerStep LedgerInvariant StepHolds ActivatesInTime (fun _ => True)
    (fun ledger call h _ => stepHolds_iff ledger call h)
    (fun ledger call h _ => invariant_step ledger call h) newLedger calls invariant_newLedger
    (fun _ _ => trivial)]
  exact and_iff_right hstates

/-- A candidate that was built at the first millisecond. -/
def candidateEntry (snapshotId : Bytes) : VersionLedgerEntry :=
  { snapshotId, batchId := str "batch", builtAt := 1, checksum := str "checksum" }

/-- The clock steps back between two activations: the first snapshot stays the last known good. -/
theorem clock_steps_back :
    ¬ ∀ calls : List LedgerCall,
      (∀ k, StateHolds (run ledgerStep newLedger (calls.take k)).1) ∧
        AllSteps ledgerStep StepHolds newLedger calls := by
  intro h
  let calls : List LedgerCall :=
    [.recordCandidate (candidateEntry (str "first")) none, .markActive (str "first") 10 none,
      .recordCandidate (candidateEntry (str "second")) none, .markActive (str "second") 5 none]
  obtain ⟨-, -, -, -, hlast, -⟩ := h calls
  have hserves := hlast.2 (str "second") 5 none rfl (by decide +kernel)
  have hintact : Intact none (run ledgerStep newLedger calls).1.entries := by
    unfold Intact
    decide +kernel
  obtain ⟨-, entry, hentry, hid⟩ := hserves none hintact
  have hgood : ((run ledgerStep newLedger calls).1.lastKnownGood none).map (·.snapshotId) =
      some (str "first") := by
    decide +kernel
  have hgood' : ((run ledgerStep newLedger calls).1.lastKnownGood none).map (·.snapshotId) =
      some entry.snapshotId := congrArg (Option.map (·.snapshotId)) hentry
  rw [hgood', hid] at hgood
  exact absurd (Option.some.inj hgood) (by decide)

end Dasall.Knowledge.Index
