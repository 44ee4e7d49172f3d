import Dasall.Lib.Text

/-!
# A file that is replaced as a whole

The new content is written to a temporary file, which is then renamed over the target. A step
that fails is reported, and the target stays as it was.
-/

open Dasall.Lib.Text

namespace Dasall.Lib.Replacement

/-- A target and the temporary file beside it. -/
structure Slot where
  target : Option Bytes := none
  temporary : Option Bytes := none
deriving DecidableEq

/-- The step that fails. What a failed write leaves of the temporary is removed, where that works. -/
inductive Fault
  | createDirectories
  | openTemporary
  | write (leftover : Option Bytes)
  | rename
deriving DecidableEq

def Slot.replace (slot : Slot) (fault : Option Fault) (content : Bytes) : Slot × Bool :=
  match fault with
  | some .createDirectories | some .openTemporary => (slot, false)
  | some (.write leftover) => ({ slot with temporary := leftover }, false)
  | some .rename => ({ slot with temporary := some content }, false)
  | none => ({ target := some content, temporary := none }, true)

theorem replace_ok (slot : Slot) (fault : Option Fault) (content : Bytes) :
    (slot.replace fault content).2 = true ↔ fault = none := by
  unfold Slot.replace
  split <;> simp

theorem target_kept (slot : Slot) (fault : Option Fault) (content : Bytes)
    (h : (slot.replace fault content).2 = false) :
    (slot.replace fault content).1.target = slot.target := by
  unfold Slot.replace at h ⊢
  split <;> simp_all

end Dasall.Lib.Replacement

/-!
## A file system with atomic publication

Files are published by writing a temporary file next to the target and renaming it
into place. Each of the steps before the rename, and the rename itself, can fail.
-/

namespace Dasall.Lib.Disk

/-- The bytes of each regular file, by path. -/
structure FileSystem where
  files : Bytes → Option Bytes

def FileSystem.empty : FileSystem := ⟨fun _ => none⟩

def FileSystem.write (disk : FileSystem) (path content : Bytes) : FileSystem :=
  ⟨Function.update disk.files path (some content)⟩

def FileSystem.remove (disk : FileSystem) (path : Bytes) : FileSystem :=
  ⟨Function.update disk.files path none⟩

/-- The step of a publication that fails. -/
inductive PublishFault
  | createDirectories
  | openTemporary
  | rename
deriving DecidableEq, Repr

def temporaryPath (path : Bytes) : Bytes := path ++ str ".tmp"

/-- Writes `path.tmp` and renames it to `path`. A rename that fails removes the temporary. -/
def FileSystem.publish (disk : FileSystem) (fault : Option PublishFault) (path content : Bytes) :
    FileSystem × Option PublishFault :=
  match fault with
  | some .createDirectories => (disk, some .createDirectories)
  | some .openTemporary => (disk, some .openTemporary)
  | some .rename =>
    ((disk.write (temporaryPath path) content).remove (temporaryPath path), some .rename)
  | none => ((disk.remove (temporaryPath path)).write path content, none)

/-- The final component of `directory / name`. A separator is added where there is none. -/
def joinPath (directory name : Bytes) : Bytes :=
  if directory.getLast? = some 47 then directory ++ name else directory ++ 47 :: name

/-! ## Paths -/

/-- A path that no publication uses as its temporary. -/
def IsRecord (path : Bytes) : Prop := ∃ stem, path = stem ++ str ".kv"

variable (directory : Bytes) {a : FileSystem} (disk : FileSystem) {b : FileSystem}
  (path content : Bytes)

theorem temporaryPath_ne_record (record : Bytes) (h : IsRecord record) :
    temporaryPath path ≠ record := by
  obtain ⟨stem, rfl⟩ := h
  intro heq
  have hlast := congrArg List.getLast? heq
  simp [temporaryPath, str] at hlast

theorem joinPath_injective (a b : Bytes) (h : joinPath directory a = joinPath directory b) :
    a = b := by
  unfold joinPath at h
  split at h <;> simpa using h

theorem joinPath_isRecord (stem : Bytes) : IsRecord (joinPath directory (stem ++ str ".kv")) := by
  unfold joinPath
  split
  · exact ⟨directory ++ stem, by simp⟩
  · exact ⟨directory ++ 47 :: stem, by simp⟩

/-! ## What a publication changes -/

/-- The two file systems hold the same records. They may differ in temporaries. -/
def SameRecords (a b : FileSystem) : Prop := ∀ path, IsRecord path → a.files path = b.files path

theorem SameRecords.refl (a : FileSystem) : SameRecords a a := fun _ _ => rfl

theorem SameRecords.symm (h : SameRecords a b) : SameRecords b a :=
  fun path hp => (h path hp).symm

theorem SameRecords.trans {c : FileSystem} (hab : SameRecords a b) (hbc : SameRecords b c) :
    SameRecords a c :=
  fun path hp => (hab path hp).trans (hbc path hp)

theorem publish_read :
    (disk.publish none path content).1.files path = some content := by
  simp [FileSystem.publish, FileSystem.write]

theorem publish_other (other : Bytes) (hrecord : IsRecord other)
    (hne : other ≠ path) : (disk.publish none path content).1.files other = disk.files other := by
  have htmp := temporaryPath_ne_record path other hrecord
  simp [FileSystem.publish, FileSystem.write, FileSystem.remove, Function.update_of_ne hne,
    Function.update_of_ne htmp.symm]

/-- A publication that fails leaves every record as it was. -/
theorem publish_fault (fault : PublishFault) (path content : Bytes) :
    SameRecords (disk.publish (some fault) path content).1 disk := by
  intro other hrecord
  have htmp := temporaryPath_ne_record path other hrecord
  cases fault with
  | createDirectories | openTemporary => rfl
  | rename => simp [FileSystem.publish, FileSystem.write, FileSystem.remove, Function.update_of_ne htmp.symm]

theorem publish_outcome (fault : Option PublishFault) (path content : Bytes) :
    (disk.publish fault path content).2 = fault := by
  cases fault with
  | none => rfl
  | some fault => cases fault <;> rfl

/-- The same publication on the same records leaves the same records. -/
theorem publish_sameRecords (h : SameRecords a b) (fault : Option PublishFault)
    (path content : Bytes) :
    SameRecords (a.publish fault path content).1 (b.publish fault path content).1 := by
  cases fault with
  | some fault =>
    exact ((publish_fault a fault path content).trans h).trans (publish_fault b fault path content).symm
  | none =>
    intro other hrecord
    by_cases hpath : other = path
    · subst hpath; rw [publish_read, publish_read]
    · rw [publish_other _ _ _ _ hrecord hpath, publish_other _ _ _ _ hrecord hpath, h other hrecord]

end Dasall.Lib.Disk
