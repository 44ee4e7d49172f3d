import Dasall.Lib.Disk

/-!
# The operator's configuration files

Two files are written one after the other, each through a temporary file that is renamed over it. A
backup of the old content is taken before, and a write that fails puts back the files written so far.
Every step of every phase may fail.
-/

open Dasall.Lib.Disk Dasall.Lib.Text

namespace Dasall.Apps.Cli

/-! ## Files and paths -/

structure ConfigFile where
  content : Bytes
  permissions : UInt32
deriving DecidableEq

/-- The regular files, by path. -/
abbrev ConfigFiles := Bytes → Option ConfigFile

structure ConfigPath where
  parent : Bytes
  filename : Bytes
deriving DecidableEq

namespace ConfigPath

def path (target : ConfigPath) : Bytes := joinPath target.parent target.filename

end ConfigPath

def backupPathFor (target : ConfigPath) : Bytes :=
  joinPath target.parent (target.filename ++ str ".last-known-good")

def tempPathFor (target : ConfigPath) : Bytes :=
  joinPath target.parent (target.filename ++ str ".tmp")

/-- `rw-r--r--`. -/
def defaultConfigFilePerms : UInt32 := 0o644

def permissionsForPath (files : ConfigFiles) (path : Bytes) : UInt32 :=
  match files path with
  | some file => file.permissions
  | none => defaultConfigFilePerms

inductive ConfigTarget
  | defaultsFile
  | daemonConfigFile
deriving DecidableEq

structure DaemonConfigFileStorePaths where
  defaultsFile : ConfigPath :=
    { parent := str "/etc/default", filename := str "dasall-daemon" }
  daemonConfigFile : ConfigPath :=
    { parent := str "/etc/dasall", filename := str "daemon.json" }

def DaemonConfigFileStorePaths.of (paths : DaemonConfigFileStorePaths) : ConfigTarget → ConfigPath
  | .defaultsFile => paths.defaultsFile
  | .daemonConfigFile => paths.daemonConfigFile

/-! ## The desired configuration -/

structure DesiredDaemonSettings where
  socketPath : Bytes := str "/run/dasall/daemon.sock"
  logFormat : Bytes := str "json"
  diagEnabled : Bool := false
  overrideEnabled : Bool := false
  watchdogEnabled : Bool := false

structure DesiredSecretRefInput where
  ref : Bytes
  source : Bytes

structure DesiredConfigSnapshot where
  schemaVersion : Bytes
  profileId : Bytes
  daemon : DesiredDaemonSettings := {}
  addUsers : List Bytes := []
  refs : List DesiredSecretRefInput := []

def desiredConfigSchemaVersion : Bytes := str "dasall.config.apply.v1"

def DesiredConfigSnapshot.isWellFormed (desired : DesiredConfigSnapshot) : Bool :=
  desired.schemaVersion == desiredConfigSchemaVersion && !desired.profileId.isEmpty &&
    (!desired.daemon.socketPath.isEmpty && !desired.daemon.logFormat.isEmpty) &&
    desired.refs.all (fun ref => !ref.ref.isEmpty && !ref.source.isEmpty) &&
    desired.addUsers.all fun user => !user.isEmpty

def daemonProfileSelectionKey : Bytes := str "DASALL_DAEMON_PROFILE_ID"

def renderDefaultsFile (desired : DesiredConfigSnapshot) : Bytes :=
  str "# v1 ownership: profile selection only; daemon.* stays in /etc/dasall/daemon.json\n" ++
    str "# P0 operator path stays root/sudo-only; use sudo dasall config or edit the canonical files explicitly.\n" ++
    daemonProfileSelectionKey ++ str "=" ++ desired.profileId ++ str "\n"

def boolToJson (value : Bool) : Bytes := if value then str "true" else str "false"

def renderDaemonJson (desired : DesiredConfigSnapshot) : Bytes :=
  str "\x7b\n" ++ str "  \"daemon\": \x7b\n" ++
    str "    \"socket_path\": \"" ++ desired.daemon.socketPath ++ str "\",\n" ++
    str "    \"startup_mode\": \"direct_bind\",\n" ++
    str "    \"diag_enabled\": " ++ boolToJson desired.daemon.diagEnabled ++ str ",\n" ++
    str "    \"override_enabled\": " ++ boolToJson desired.daemon.overrideEnabled ++ str ",\n" ++
    str "    \"watchdog_enabled\": " ++ boolToJson desired.daemon.watchdogEnabled ++ str ",\n" ++
    str "    \"log_format\": \"" ++ desired.daemon.logFormat ++ str "\"\n" ++ str "  \x7d\n" ++
    str "\x7d\n"

def renderTarget (desired : DesiredConfigSnapshot) : ConfigTarget → Bytes
  | .defaultsFile => renderDefaultsFile desired
  | .daemonConfigFile => renderDaemonJson desired

/-! ## Steps that may fail -/

inductive ConfigPhase
  | load
  | apply
  | rollback
deriving DecidableEq

inductive FileStep
  | read
  | copyBackup
  | backupPermissions
  | createDirectories
  | openTemporary
  | flush
  | permissions
  | fsyncFile
  | fsyncDirectory
  | rename
  | fsyncRenamed
  | remove
  | fsyncRemoved
deriving DecidableEq

/-- No phase takes a step on a file twice, so the step says what fails. -/
structure ConfigEnvironment where
  fails : ConfigPhase → ConfigTarget → FileStep → Bool
  /-- Whether it is the `open` before an `fsync` that fails. -/
  openFails : ConfigPhase → ConfigTarget → FileStep → Bool := fun _ _ _ => false
  /-- What a write that cannot be flushed leaves in the file. -/
  leftover : ConfigPhase → ConfigTarget → Bytes := fun _ _ => []
  freshPermissions : UInt32 := 0o600

section
variable (env : ConfigEnvironment) (phase : ConfigPhase) (target : ConfigTarget)

/-- The permissions of a file once it is opened for writing. -/
def openedPermissions (files : ConfigFiles) (path : Bytes) : UInt32 :=
  match files path with
  | some file => file.permissions
  | none => env.freshPermissions

def writeTextFile (files : ConfigFiles) (path content : Bytes) (permissions : UInt32) :
    ConfigFiles × Option Bytes :=
  if env.fails phase target .openTemporary then (files, some (str "unable to write file: " ++ path))
  else if env.fails phase target .flush then
    (Function.update files path (some
        { content := env.leftover phase target
          permissions := openedPermissions env files path }),
      some (str "unable to flush file: " ++ path))
  else if env.fails phase target .permissions then
    (Function.update files path (some
        { content, permissions := openedPermissions env files path }),
      some (str "unable to set permissions on file: " ++ path))
  else (Function.update files path (some { content, permissions }), none)

def fsyncPath (step : FileStep) (path : Bytes) : Option Bytes :=
  if !env.fails phase target step then none
  else if env.openFails phase target step then some (str "open failed during fsync: " ++ path)
  else some (str "fsync failed for path: " ++ path)

def renameFile (files : ConfigFiles) (source destination : Bytes) : ConfigFiles :=
  Function.update (Function.update files destination (files source)) source none

/-- The last `fsync` comes when the file is already renamed. -/
def writeTargetAtomically (files : ConfigFiles) (targetPath : ConfigPath) (content : Bytes)
    (permissions : UInt32) : ConfigFiles × Option Bytes :=
  if env.fails phase target .createDirectories then
    (files, some (str "unable to create parent directory: " ++ targetPath.parent))
  else
    match writeTextFile env phase target files (tempPathFor targetPath) content permissions with
    | (files, some error) => (files, some error)
    | (files, none) =>
      match fsyncPath env phase target .fsyncFile (tempPathFor targetPath) with
      | some error => (files, some error)
      | none =>
        match fsyncPath env phase target .fsyncDirectory targetPath.parent with
        | some error => (files, some error)
        | none =>
          if env.fails phase target .rename then
            (files, some (str "rename failed for file: " ++ targetPath.path))
          else
            (renameFile files (tempPathFor targetPath) targetPath.path,
              fsyncPath env phase target .fsyncRenamed targetPath.parent)

end

/-! ## The transaction -/

structure ConfigFileWriteOperation where
  target : ConfigTarget
  targetPath : ConfigPath
  existedBefore : Bool
  targetPermissions : UInt32
deriving DecidableEq

structure ConfigFileWriteTransaction where
  operations : List ConfigFileWriteOperation := []
  applyFailedRolledBack : Bool := false

/-- `rollbackError` is what the message says of a rollback that failed. -/
structure ConfigFileWriteResult where
  success : Bool := false
  rolledBack : Bool := false
  errorMessage : Bytes := []
  rollbackError : Option Bytes := none
  transaction : ConfigFileWriteTransaction := {}

section
variable (env : ConfigEnvironment)

def rollbackOperation (files : ConfigFiles) (operation : ConfigFileWriteOperation) :
    ConfigFiles × Option Bytes :=
  if operation.existedBefore then
    match (files (backupPathFor operation.targetPath)).filter
        fun _ => !env.fails .rollback operation.target .read with
    | none => (files, some (str "unable to open file: " ++ backupPathFor operation.targetPath))
    | some backup => writeTargetAtomically env .rollback operation.target files operation.targetPath
        backup.content operation.targetPermissions
  else if env.fails .rollback operation.target .remove then
    (files, some (str "unable to remove newly created file during rollback: " ++
      operation.targetPath.path))
  else
    (Function.update files operation.targetPath.path none,
      fsyncPath env .rollback operation.target .fsyncRemoved operation.targetPath.parent)

/-- The operations come last first. -/
def rollbackLastWrite (files : ConfigFiles) : List ConfigFileWriteOperation →
    ConfigFiles × Option Bytes
  | [] => (files, none)
  | operation :: rest =>
    match rollbackOperation env files operation with
    | (files, some error) => (files, some error)
    | (files, none) => rollbackLastWrite files rest

/-- The backup of a file that is there. -/
def prepareOperation (files : ConfigFiles) (target : ConfigTarget) (targetPath : ConfigPath) :
    ConfigFiles × Except Bytes ConfigFileWriteOperation :=
  let permissions := permissionsForPath files targetPath.path
  let operation (existedBefore : Bool) : ConfigFileWriteOperation :=
    { target, targetPath, existedBefore, targetPermissions := permissions }
  match files targetPath.path with
  | none => (files, .ok (operation false))
  | some file =>
    if env.fails .apply target .copyBackup then
      (files, .error (str "unable to create backup for file: " ++ targetPath.path))
    else if env.fails .apply target .backupPermissions then
      (Function.update files (backupPathFor targetPath) (some file),
        .error (str "unable to preserve backup permissions for file: " ++ targetPath.path))
    else
      (Function.update files (backupPathFor targetPath) (some { file with permissions }),
        .ok (operation true))

/-- A write failed, with the files before it on record. -/
def writeFailed (transaction : ConfigFileWriteTransaction) (files : ConfigFiles) (error : Bytes) :
    ConfigFiles × ConfigFileWriteResult :=
  match rollbackLastWrite env files transaction.operations.reverse with
  | (files, none) =>
    (files,
      { rolledBack := true
        errorMessage := error
        transaction := { transaction with applyFailedRolledBack := true } })
  | (files, some rollbackError) =>
    (files,
      { errorMessage := error ++ str "; rollback failed: " ++ rollbackError
        rollbackError := some rollbackError
        transaction })

def applyWrites (files : ConfigFiles) (transaction : ConfigFileWriteTransaction) :
    List (ConfigTarget × ConfigPath × Bytes) → ConfigFiles × ConfigFileWriteResult
  | [] => (files, { success := true, transaction })
  | (target, targetPath, content) :: rest =>
    match prepareOperation env files target targetPath with
    | (files, .error error) => (files, { errorMessage := error, transaction })
    | (files, .ok operation) =>
      match writeTargetAtomically env .apply target files targetPath content
          operation.targetPermissions with
      | (files, none) =>
        applyWrites files
          { transaction with operations := transaction.operations ++ [operation] } rest
      | (files, some error) => writeFailed env transaction files error

/-- Reading the files that are there. What they hold is not looked at before a write. -/
def loadCurrent (paths : DaemonConfigFileStorePaths) (files : ConfigFiles) : Option Bytes :=
  [ConfigTarget.defaultsFile, ConfigTarget.daemonConfigFile].findSome? fun target =>
    if (files (paths.of target).path).isSome && env.fails .load target .read then
      some (str "unable to open file: " ++ (paths.of target).path)
    else none

def writeDesired (paths : DaemonConfigFileStorePaths) (desired : DesiredConfigSnapshot)
    (files : ConfigFiles) : ConfigFiles × ConfigFileWriteResult :=
  if !desired.isWellFormed then
    (files, { errorMessage := str "desired config snapshot is not well formed" })
  else
    match loadCurrent env paths files with
    | some error => (files, { errorMessage := error })
    | none =>
      applyWrites env files {}
        [(.defaultsFile, paths.defaultsFile, renderDefaultsFile desired),
          (.daemonConfigFile, paths.daemonConfigFile, renderDaemonJson desired)]

end

/-! ## One file -/

/-- The steps of a write up to the one that puts the file in its place. -/
def replaceSteps : List FileStep :=
  [.createDirectories, .openTemporary, .flush, .permissions, .fsyncFile, .fsyncDirectory, .rename]

def writeSteps : List FileStep := replaceSteps ++ [.fsyncRenamed]

section
variable (env : ConfigEnvironment) (phase : ConfigPhase) (target : ConfigTarget)

/-- The first of the steps that fails. -/
def firstFailing (steps : List FileStep) : Option FileStep := steps.find? (env.fails phase target)

theorem firstFailing_cons (step : FileStep) (rest : List FileStep) :
    firstFailing env phase target (step :: rest) =
      if env.fails phase target step then some step else firstFailing env phase target rest := by
  unfold firstFailing
  rw [List.find?_cons]
  cases env.fails phase target step <;> rfl

/-- What a write did, with the file at the target and the error it reports. -/
inductive WriteOutcome (before : Option ConfigFile) (written : ConfigFile) :
    Option ConfigFile × Option Bytes → Prop
  | done (h : firstFailing env phase target writeSteps = none) :
    WriteOutcome before written (some written, none)
  | renamed (h : firstFailing env phase target writeSteps = some .fsyncRenamed) (error : Bytes) :
    WriteOutcome before written (some written, some error)
  | untouched (step : FileStep) (hstep : step ≠ .fsyncRenamed)
      (h : firstFailing env phase target writeSteps = some step) (error : Bytes) :
    WriteOutcome before written (before, some error)

theorem fsyncPath_eq_none (step : FileStep) (path : Bytes) :
    fsyncPath env phase target step path = none ↔ env.fails phase target step = false := by
  unfold fsyncPath
  cases env.fails phase target step with
  | false => simp
  | true =>
    simp only [Bool.not_true, Bool.false_eq_true, if_false]
    split <;> simp

theorem fsyncPath_of_fails {step : FileStep} (path : Bytes)
    (h : env.fails phase target step = true) :
    ∃ error, fsyncPath env phase target step path = some error := by
  apply Option.ne_none_iff_exists'.mp
  rw [Ne, fsyncPath_eq_none, h]
  decide

variable (files : ConfigFiles)

theorem writeTextFile_other (path content : Bytes) (permissions : UInt32)
    {other : Bytes} (h : other ≠ path) :
    (writeTextFile env phase target files path content permissions).1 other = files other := by
  unfold writeTextFile
  split
  · rfl
  · split
    · exact Function.update_of_ne h _ _
    · split <;> exact Function.update_of_ne h _ _

theorem writeTextFile_ok (path content : Bytes) (permissions : UInt32)
    (hopen : env.fails phase target .openTemporary = false)
    (hflush : env.fails phase target .flush = false)
    (hpermissions : env.fails phase target .permissions = false) :
    writeTextFile env phase target files path content permissions =
      (Function.update files path (some { content, permissions }), none) := by
  simp only [writeTextFile, hopen, hflush, hpermissions, Bool.false_eq_true, if_false]

theorem writeTextFile_error (path content : Bytes) (permissions : UInt32)
    (h : ∃ step ∈ [FileStep.openTemporary, .flush, .permissions],
      env.fails phase target step = true) :
    ∃ error, (writeTextFile env phase target files path content permissions).2 = some error := by
  unfold writeTextFile
  cases hopen : env.fails phase target .openTemporary with
  | true => exact ⟨_, rfl⟩
  | false =>
    cases hflush : env.fails phase target .flush with
    | true => exact ⟨_, rfl⟩
    | false =>
      cases hpermissions : env.fails phase target .permissions with
      | true => exact ⟨_, rfl⟩
      | false => simp [hopen, hflush, hpermissions] at h

theorem writeTargetAtomically_other (targetPath : ConfigPath)
    (content : Bytes) (permissions : UInt32) {other : Bytes} (htarget : other ≠ targetPath.path)
    (htemp : other ≠ tempPathFor targetPath) :
    (writeTargetAtomically env phase target files targetPath content permissions).1 other =
      files other := by
  have htext := writeTextFile_other env phase target files (tempPathFor targetPath) content
    permissions htemp
  unfold writeTargetAtomically
  split
  · rfl
  generalize writeTextFile env phase target files (tempPathFor targetPath) content permissions =
    written at htext
  obtain ⟨after, error⟩ := written
  cases error with
  | some error => exact htext
  | none =>
    simp only at htext ⊢
    split
    · exact htext
    · split
      · exact htext
      · split
        · exact htext
        · change renameFile after (tempPathFor targetPath) targetPath.path other = files other
          rw [renameFile, Function.update_of_ne htemp, Function.update_of_ne htarget]
          exact htext

variable (targetPath : ConfigPath)

theorem tempPath_ne : targetPath.path ≠ tempPathFor targetPath := by
  unfold ConfigPath.path tempPathFor
  intro h
  have hname := joinPath_injective _ _ _ h
  have hlength := congrArg List.length hname
  simp [str] at hlength

theorem backupPath_ne : backupPathFor targetPath ≠ targetPath.path := by
  unfold ConfigPath.path backupPathFor
  intro h
  have hname := joinPath_injective _ _ _ h
  have hlength := congrArg List.length hname
  simp [str] at hlength

theorem backupPath_ne_temp :
    backupPathFor targetPath ≠ tempPathFor targetPath := by
  unfold backupPathFor tempPathFor
  intro h
  have hname := joinPath_injective _ _ _ h
  have hlength := congrArg List.length hname
  simp [str] at hlength

section
variable (files : ConfigFiles) (targetPath : ConfigPath) (content : Bytes) (permissions : UInt32)

/-- A temporary file that cannot be written ends the write, and the target stays. -/
theorem writeTargetAtomically_untouched (step : FileStep)
    (hstep : step ∈ [FileStep.openTemporary, .flush, .permissions])
    (hfails : env.fails phase target step = true)
    (hcreate : env.fails phase target .createDirectories = false)
    (hfirst : firstFailing env phase target writeSteps = some step) :
    WriteOutcome env phase target (files targetPath.path) { content, permissions }
      ((writeTargetAtomically env phase target files targetPath content permissions).1
          targetPath.path,
        (writeTargetAtomically env phase target files targetPath content permissions).2) := by
  have htext := writeTextFile_other env phase target files (tempPathFor targetPath) content
    permissions (tempPath_ne targetPath)
  obtain ⟨error, herror⟩ := writeTextFile_error env phase target files (tempPathFor targetPath)
    content permissions ⟨step, hstep, hfails⟩
  have hlate : step ≠ .fsyncRenamed := by
    rintro rfl
    simp at hstep
  unfold writeTargetAtomically
  rw [if_neg (by simp [hcreate])]
  generalize writeTextFile env phase target files (tempPathFor targetPath) content permissions =
    written at htext herror
  obtain ⟨after, reported⟩ := written
  simp only at htext herror
  subst herror
  simp only [htext]
  exact .untouched step hlate hfirst error

/-- A write fails just where a step of it does, and changes its target only when it renames. -/
theorem writeTargetAtomically_outcome :
    WriteOutcome env phase target (files targetPath.path) { content, permissions }
      ((writeTargetAtomically env phase target files targetPath content permissions).1
          targetPath.path,
        (writeTargetAtomically env phase target files targetPath content permissions).2) := by
  have hstep := firstFailing_cons env phase target
  have huntouched :=
    writeTargetAtomically_untouched env phase target files targetPath content permissions
  have hempty : firstFailing env phase target [] = none := rfl
  have hsteps : writeSteps = [.createDirectories, .openTemporary, .flush, .permissions, .fsyncFile,
    .fsyncDirectory, .rename, .fsyncRenamed] := rfl
  cases hcreate : env.fails phase target .createDirectories with
  | true =>
    rw [writeTargetAtomically, if_pos hcreate]
    exact .untouched .createDirectories (by decide) (by rw [hsteps, hstep, if_pos hcreate]) _
  | false =>
  cases hopen : env.fails phase target .openTemporary with
  | true =>
    exact huntouched _ (by simp) hopen hcreate
      (by simp [hsteps, hstep, hcreate, hopen])
  | false =>
  cases hflush : env.fails phase target .flush with
  | true =>
    exact huntouched _ (by simp) hflush hcreate
      (by simp [hsteps, hstep, hcreate, hopen, hflush])
  | false =>
  cases hpermissions : env.fails phase target .permissions with
  | true =>
    exact huntouched _ (by simp) hpermissions hcreate
      (by simp [hsteps, hstep, hcreate, hopen, hflush, hpermissions])
  | false =>
  have hwritten : writeTargetAtomically env phase target files targetPath content permissions =
      match fsyncPath env phase target .fsyncFile (tempPathFor targetPath) with
      | some error => (Function.update files (tempPathFor targetPath)
          (some { content, permissions }), some error)
      | none =>
        match fsyncPath env phase target .fsyncDirectory targetPath.parent with
        | some error => (Function.update files (tempPathFor targetPath)
            (some { content, permissions }), some error)
        | none =>
          if env.fails phase target .rename then
            (Function.update files (tempPathFor targetPath) (some { content, permissions }),
              some (str "rename failed for file: " ++ targetPath.path))
          else
            (renameFile (Function.update files (tempPathFor targetPath)
                (some { content, permissions })) (tempPathFor targetPath) targetPath.path,
              fsyncPath env phase target .fsyncRenamed targetPath.parent) := by
    rw [writeTargetAtomically, if_neg (by simp [hcreate]),
      writeTextFile_ok env phase target files _ content permissions hopen hflush hpermissions]
  have hkept : Function.update files (tempPathFor targetPath) (some { content, permissions })
      targetPath.path = files targetPath.path := Function.update_of_ne (tempPath_ne targetPath) _ _
  have hrenamed : renameFile (Function.update files (tempPathFor targetPath)
      (some { content, permissions })) (tempPathFor targetPath) targetPath.path targetPath.path =
        some { content, permissions } := by
    rw [renameFile, Function.update_of_ne (tempPath_ne targetPath), Function.update_self,
      Function.update_self]
  rw [hwritten]
  cases hfile : env.fails phase target .fsyncFile with
  | true =>
    obtain ⟨error, herror⟩ := fsyncPath_of_fails env phase target (tempPathFor targetPath) hfile
    simp only [herror, hkept]
    exact .untouched .fsyncFile (by decide)
      (by simp [hsteps, hstep, hcreate, hopen, hflush, hpermissions, hfile]) error
  | false =>
  rw [(fsyncPath_eq_none env phase target _ _).mpr hfile]
  cases hdirectory : env.fails phase target .fsyncDirectory with
  | true =>
    obtain ⟨error, herror⟩ := fsyncPath_of_fails env phase target targetPath.parent hdirectory
    simp only [herror, hkept]
    exact .untouched .fsyncDirectory (by decide)
      (by simp [hsteps, hstep, hcreate, hopen, hflush, hpermissions, hfile, hdirectory]) error
  | false =>
  rw [(fsyncPath_eq_none env phase target _ _).mpr hdirectory]
  cases hrename : env.fails phase target .rename with
  | true =>
    simp only [if_true, hkept]
    exact .untouched .rename (by decide)
      (by simp [hsteps, hstep, hcreate, hopen, hflush, hpermissions, hfile, hdirectory, hrename]) _
  | false =>
  simp only [Bool.false_eq_true, if_false, hrenamed]
  cases hlast : env.fails phase target .fsyncRenamed with
  | true =>
    obtain ⟨error, herror⟩ := fsyncPath_of_fails env phase target targetPath.parent hlast
    rw [herror]
    exact .renamed (by simp [hsteps, hstep, hcreate, hopen, hflush, hpermissions, hfile,
      hdirectory, hrename, hlast]) error
  | false =>
    rw [(fsyncPath_eq_none env phase target _ _).mpr hlast]
    exact .done (by simp [hsteps, hstep, hempty, hcreate, hopen, hflush, hpermissions, hfile,
      hdirectory, hrename, hlast])

end

end

/-! ## The backup and the way back -/

def backupSteps : List FileStep := [.copyBackup, .backupPermissions]

/-- The steps of one file, which has a backup where it was there before. -/
def targetSteps (existedBefore : Bool) : List FileStep :=
  (if existedBefore then backupSteps else []) ++ writeSteps

def rollbackSteps (existedBefore : Bool) : List FileStep :=
  if existedBefore then .read :: writeSteps else [.remove, .fsyncRemoved]

variable {operation : ConfigFileWriteOperation}

section
variable (env : ConfigEnvironment)

theorem firstFailing_append_none (phase : ConfigPhase) (target : ConfigTarget)
    {first : List FileStep} (second : List FileStep)
    (h : firstFailing env phase target first = none) :
    firstFailing env phase target (first ++ second) = firstFailing env phase target second := by
  unfold firstFailing at h ⊢
  rw [List.find?_append, h, Option.none_or]

/-- The operation is on record, and the old content is in the backup. -/
structure Prepared (files after : ConfigFiles) (target : ConfigTarget) (targetPath : ConfigPath)
    (operation : ConfigFileWriteOperation) : Prop where
  operation_eq : operation =
    { target
      targetPath
      existedBefore := (files targetPath.path).isSome
      targetPermissions := permissionsForPath files targetPath.path }
  other : ∀ path, path ≠ backupPathFor targetPath → after path = files path
  backup : (files targetPath.path).isSome = true →
    after (backupPathFor targetPath) = files targetPath.path
  steps : firstFailing env .apply target
    (if (files targetPath.path).isSome then backupSteps else []) = none

variable (files : ConfigFiles)

theorem prepareOperation_cases (target : ConfigTarget)
    (targetPath : ConfigPath) :
    (∃ after operation, prepareOperation env files target targetPath = (after, .ok operation) ∧
      Prepared env files after target targetPath operation) ∨
    ∃ after error step, prepareOperation env files target targetPath = (after, .error error) ∧
      (step = .copyBackup ∨ step = .backupPermissions) ∧
      firstFailing env .apply target (targetSteps (files targetPath.path).isSome) = some step ∧
      ∀ path, path ≠ backupPathFor targetPath → after path = files path := by
  unfold prepareOperation
  cases hfile : files targetPath.path with
  | none =>
    left
    exact ⟨_, _, rfl, by rw [hfile]; rfl, fun _ _ => rfl, by simp [hfile], by rw [hfile]; rfl⟩
  | some file =>
    simp only [Option.isSome_some]
    have hcases : targetSteps true = .copyBackup :: .backupPermissions :: writeSteps := rfl
    rw [hcases]
    simp only [firstFailing_cons]
    cases hcopy : env.fails .apply target .copyBackup with
    | true => exact Or.inr ⟨_, _, .copyBackup, rfl, Or.inl rfl, rfl, fun _ _ => rfl⟩
    | false =>
      cases hpermissions : env.fails .apply target .backupPermissions with
      | true =>
        exact Or.inr ⟨_, _, .backupPermissions, rfl, Or.inr rfl, rfl,
          fun path hne => Function.update_of_ne hne _ _⟩
      | false =>
        left
        refine ⟨_, _, rfl, by rw [hfile]; rfl, fun path hne => Function.update_of_ne hne _ _, ?_, ?_⟩
        · intro _
          rw [Function.update_self, permissionsForPath, hfile]
        · rw [hfile]
          simp [backupSteps, hcopy, hpermissions, firstFailing]

/-- Where all its steps work, the way back puts the old file in its place, or none where none was. -/
theorem rollbackOperation_ok (before : Option ConfigFile)
    (hexisted : operation.existedBefore = before.isSome)
    (hbackup : before.isSome = true → files (backupPathFor operation.targetPath) = before)
    (hpermissions : ∀ file, before = some file → operation.targetPermissions = file.permissions)
    (h : firstFailing env .rollback operation.target (rollbackSteps before.isSome) = none) :
    (rollbackOperation env files operation).2 = none ∧
      (rollbackOperation env files operation).1 operation.targetPath.path = before := by
  cases before with
  | none =>
    rw [rollbackOperation, if_neg (by simp [hexisted])]
    simp only [rollbackSteps, Option.isSome_none, Bool.false_eq_true, if_false,
      firstFailing_cons] at h
    split at h
    · cases h
    · next hremove =>
      split at h
      · cases h
      · next hfsync =>
        rw [if_neg hremove]
        exact ⟨(fsyncPath_eq_none ..).mpr (by simpa using hfsync), Function.update_self ..⟩
  | some file =>
    simp only [rollbackSteps, Option.isSome_some, if_true, firstFailing_cons] at h
    split at h
    · cases h
    · next hread =>
      have hcontent : (files (backupPathFor operation.targetPath)).filter
          (fun _ => !env.fails .rollback operation.target .read) = some file := by
        rw [hbackup rfl]
        simp [hread]
      rw [rollbackOperation, if_pos (by simp [hexisted]), hcontent]
      have hwrite := writeTargetAtomically_outcome env .rollback operation.target files
        operation.targetPath file.content operation.targetPermissions
      rw [hpermissions file rfl] at hwrite ⊢
      simp only
      generalize writeTargetAtomically env .rollback operation.target files operation.targetPath
        file.content file.permissions = written at hwrite ⊢
      obtain ⟨after, error⟩ := written
      simp only at hwrite ⊢
      generalize after operation.targetPath.path = found at hwrite ⊢
      cases hwrite with
      | done => exact ⟨rfl, rfl⟩
      | renamed hfirst =>
        rw [h] at hfirst
        cases hfirst
      | untouched step hstep hfirst =>
        rw [h] at hfirst
        cases hfirst

theorem rollbackOperation_error
    (h : firstFailing env .rollback operation.target (rollbackSteps operation.existedBefore) ≠
      none) :
    ∃ error, (rollbackOperation env files operation).2 = some error := by
  unfold rollbackOperation
  cases hexisted : operation.existedBefore with
  | false =>
    rw [hexisted] at h
    simp only [rollbackSteps, Bool.false_eq_true, if_false, firstFailing_cons] at h ⊢
    cases hremove : env.fails .rollback operation.target .remove with
    | true => exact ⟨_, rfl⟩
    | false =>
      cases hfsync : env.fails .rollback operation.target .fsyncRemoved with
      | true => exact fsyncPath_of_fails env .rollback operation.target _ hfsync
      | false => simp [hremove, hfsync, firstFailing] at h
  | true =>
    rw [hexisted] at h
    simp only [rollbackSteps, if_true, firstFailing_cons] at h ⊢
    cases hbackup : (files (backupPathFor operation.targetPath)).filter
        fun _ => !env.fails .rollback operation.target .read with
    | none => exact ⟨_, rfl⟩
    | some backup =>
      have hread : env.fails .rollback operation.target .read = false := by
        rw [Option.filter_eq_some_iff] at hbackup
        simpa using hbackup.2
      rw [hread] at h
      have hwrite := writeTargetAtomically_outcome env .rollback operation.target files
        operation.targetPath backup.content operation.targetPermissions
      simp only
      generalize writeTargetAtomically env .rollback operation.target files operation.targetPath
        backup.content operation.targetPermissions = written at hwrite ⊢
      obtain ⟨after, error⟩ := written
      simp only at hwrite ⊢
      generalize after operation.targetPath.path = found at hwrite
      cases hwrite with
      | done hfirst => exact absurd hfirst (by simpa using h)
      | renamed hfirst error => exact ⟨error, rfl⟩
      | untouched step hstep hfirst error => exact ⟨error, rfl⟩

theorem rollbackOperation_other (operation : ConfigFileWriteOperation)
    {other : Bytes} (htarget : other ≠ operation.targetPath.path)
    (htemp : other ≠ tempPathFor operation.targetPath) :
    (rollbackOperation env files operation).1 other = files other := by
  unfold rollbackOperation
  split
  · split
    · rfl
    · exact writeTargetAtomically_other env .rollback operation.target files operation.targetPath _ _
        htarget htemp
  · split
    · rfl
    · exact Function.update_of_ne htarget _ _

end

/-! ## One file of the transaction -/

section
variable (env : ConfigEnvironment) (files : ConfigFiles) (target : ConfigTarget)
  (targetPath : ConfigPath) (content : Bytes)

/-- The new file, with the permissions of the old one. -/
def renderedFile : ConfigFile := { content, permissions := permissionsForPath files targetPath.path }

/-- The operation is on record, and nothing but the target and the two files beside it changed. -/
structure Recorded (after : ConfigFiles) (operation : ConfigFileWriteOperation) : Prop where
  operation_eq : operation =
    { target
      targetPath
      existedBefore := (files targetPath.path).isSome
      targetPermissions := permissionsForPath files targetPath.path }
  other : ∀ path, path ≠ targetPath.path → path ≠ tempPathFor targetPath →
    path ≠ backupPathFor targetPath → after path = files path
  backup : (files targetPath.path).isSome = true →
    after (backupPathFor targetPath) = files targetPath.path

/-- What the loop does with the next file. -/
inductive FileTaken (transaction : ConfigFileWriteTransaction)
    (rest : List (ConfigTarget × ConfigPath × Bytes)) : ConfigFiles × ConfigFileWriteResult → Prop
  | refused (after : ConfigFiles) (error : Bytes) (step : FileStep) (hstep : step ∈ backupSteps)
    (h : firstFailing env .apply target (targetSteps (files targetPath.path).isSome) = some step)
    (hother : ∀ path, path ≠ backupPathFor targetPath → after path = files path) :
    FileTaken transaction rest (after, { errorMessage := error, transaction })
  | taken (after : ConfigFiles) (operation : ConfigFileWriteOperation)
    (h : firstFailing env .apply target (targetSteps (files targetPath.path).isSome) = none)
    (hrecorded : Recorded files target targetPath after operation)
    (hwritten : after targetPath.path = some (renderedFile files targetPath content)) :
    FileTaken transaction rest
      (applyWrites env after
        { transaction with operations := transaction.operations ++ [operation] } rest)
  | failed (after : ConfigFiles) (error : Bytes) (step : FileStep) (hstep : step ∉ backupSteps)
    (h : firstFailing env .apply target (targetSteps (files targetPath.path).isSome) = some step)
    (hother : ∀ path, path ≠ targetPath.path → path ≠ tempPathFor targetPath →
      path ≠ backupPathFor targetPath → after path = files path)
    (hwritten : after targetPath.path = if step = .fsyncRenamed then
      some (renderedFile files targetPath content) else files targetPath.path) :
    FileTaken transaction rest (writeFailed env transaction after error)

theorem not_mem_backupSteps {step : FileStep} (h : firstFailing env .apply target writeSteps =
    some step) : step ∉ backupSteps := by
  have hmem := List.mem_of_find?_eq_some h
  revert hmem
  cases step <;> decide

theorem applyWrites_cons (transaction : ConfigFileWriteTransaction)
    (rest : List (ConfigTarget × ConfigPath × Bytes)) :
    FileTaken env files target targetPath content transaction rest
      (applyWrites env files transaction ((target, targetPath, content) :: rest)) := by
  rw [applyWrites]
  obtain ⟨prepared, operation, hprepare, hprepared⟩ | ⟨after, error, step, hprepare, hstep, h, hother⟩ :=
    prepareOperation_cases env files target targetPath
  · rw [hprepare]
    simp only
    have hsteps : firstFailing env .apply target (targetSteps (files targetPath.path).isSome) =
        firstFailing env .apply target writeSteps :=
      firstFailing_append_none env _ _ _ hprepared.steps
    have hkept := hprepared.other targetPath.path (backupPath_ne targetPath).symm
    have hpermissions : operation.targetPermissions = permissionsForPath files targetPath.path := by
      rw [hprepared.operation_eq]
    rw [hpermissions]
    have hother := fun path => @writeTargetAtomically_other env .apply target prepared targetPath
      content (permissionsForPath files targetPath.path) path
    have hwrite := writeTargetAtomically_outcome env .apply target prepared targetPath content
      (permissionsForPath files targetPath.path)
    generalize writeTargetAtomically env .apply target prepared targetPath content
      (permissionsForPath files targetPath.path) = written at hwrite hother ⊢
    obtain ⟨after, reported⟩ := written
    simp only at hwrite hother ⊢
    have hframe : ∀ path, path ≠ targetPath.path → path ≠ tempPathFor targetPath →
        path ≠ backupPathFor targetPath → after path = files path := by
      intro path htarget htemp hbackup
      rw [hother path htarget htemp, hprepared.other path hbackup]
    rw [hkept] at hwrite
    generalize hfound : after targetPath.path = found at hwrite
    cases hwrite with
    | done h =>
      apply FileTaken.taken after operation (hsteps.trans h) _ hfound
      refine ⟨hprepared.operation_eq, hframe, ?_⟩
      intro hexisted
      rw [hother _ (backupPath_ne targetPath) (backupPath_ne_temp targetPath)]
      exact hprepared.backup hexisted
    | renamed h error =>
      apply FileTaken.failed after error .fsyncRenamed (by decide) (hsteps.trans h) hframe
      rw [if_pos rfl, hfound]
      rfl
    | untouched step hstep h error =>
      apply FileTaken.failed after error step (not_mem_backupSteps env target h) (hsteps.trans h)
        hframe
      rw [if_neg hstep, hfound]
  · rw [hprepare]
    apply FileTaken.refused after error step _ h hother
    obtain rfl | rfl := hstep <;> decide

theorem rollbackLastWrite_single (operation : ConfigFileWriteOperation) :
    rollbackLastWrite env files [operation] = rollbackOperation env files operation := by
  rw [rollbackLastWrite]
  generalize rollbackOperation env files operation = rolledBack
  obtain ⟨after, error⟩ := rolledBack
  cases error <;> rfl

/-- The way back of one file, as long as its backup is as it was taken. -/
theorem Recorded.rollback {taken after : ConfigFiles}
    (h : Recorded files target targetPath taken operation)
    (hbackup : after (backupPathFor targetPath) = taken (backupPathFor targetPath)) :
    ((rollbackOperation env after operation).2 = none ↔
      firstFailing env .rollback target (rollbackSteps (files targetPath.path).isSome) = none) ∧
    ((rollbackOperation env after operation).2 = none →
      (rollbackOperation env after operation).1 targetPath.path = files targetPath.path) := by
  obtain ⟨hoperation, -, hsaved⟩ := h
  have hok := @rollbackOperation_ok operation env after (files targetPath.path)
  have hfailed := @rollbackOperation_error operation env after
  subst hoperation
  by_cases hsteps : firstFailing env .rollback target
      (rollbackSteps (files targetPath.path).isSome) = none
  · obtain ⟨hnone, hback⟩ := hok rfl (fun hexisted => hbackup.trans (hsaved hexisted))
      (fun file hfile => by simp only [permissionsForPath, hfile]) hsteps
    exact ⟨iff_of_true hnone hsteps, fun _ => hback⟩
  · obtain ⟨error, herror⟩ := hfailed hsteps
    rw [herror]
    exact ⟨iff_of_false (by simp) hsteps, nofun⟩

theorem rendered_eq_iff : some (renderedFile files targetPath content) = files targetPath.path ↔
    (files targetPath.path).map ConfigFile.content = some content := by
  unfold renderedFile permissionsForPath
  cases files targetPath.path with
  | none => simp
  | some file =>
    obtain ⟨before, permissions⟩ := file
    simp [eq_comm]

end

/-! ## All or nothing -/

/-- The two targets, and the temporary and backup files beside them, are six files. -/
def PathsApart (paths : DaemonConfigFileStorePaths) : Prop :=
  [paths.defaultsFile.path, tempPathFor paths.defaultsFile, backupPathFor paths.defaultsFile,
    paths.daemonConfigFile.path, tempPathFor paths.daemonConfigFile,
    backupPathFor paths.daemonConfigFile].Nodup

instance (paths : DaemonConfigFileStorePaths) : Decidable (PathsApart paths) :=
  inferInstanceAs (Decidable (List.Nodup _))

section
variable (env : ConfigEnvironment) (paths : DaemonConfigFileStorePaths)
  (desired : DesiredConfigSnapshot) (files : ConfigFiles)

/-- The target holds what is to be written. -/
def Holds (target : ConfigTarget) : Prop :=
  (files (paths.of target).path).map ConfigFile.content = some (renderTarget desired target)

def Unchanged (after : ConfigFiles) : Prop :=
  ∀ target, after (paths.of target).path = files (paths.of target).path

structure AllOrNothing (out : ConfigFiles × ConfigFileWriteResult) : Prop where
  written : out.2.success = true → ∀ target, Holds paths desired out.1 target
  kept : out.2.success = false → out.2.rollbackError = none → Unchanged paths files out.1
  restored : out.2.rolledBack = true → Unchanged paths files out.1

def existedBefore (target : ConfigTarget) : Bool := (files (paths.of target).path).isSome

/-- The first step on a file that fails. -/
def applyFailure (target : ConfigTarget) : Option FileStep :=
  firstFailing env .apply target (targetSteps (existedBefore paths files target))

/-- Putting the first file back fails, and the message says so. -/
def RollbackFails : Prop :=
  firstFailing env .rollback .defaultsFile
    (rollbackSteps (existedBefore paths files .defaultsFile)) ≠ none

/--
The step that fails is one the code recovers from. It is not the `fsync` after a rename, nor the
backup of the second file, unless the file that was renamed already held what was written.
-/
def Recoverable : Prop :=
  match applyFailure env paths files .defaultsFile with
  | some .fsyncRenamed => Holds paths desired files .defaultsFile
  | some _ => True
  | none =>
    match applyFailure env paths files .daemonConfigFile with
    | some .copyBackup | some .backupPermissions => Holds paths desired files .defaultsFile
    | some .fsyncRenamed =>
      Holds paths desired files .daemonConfigFile ∨ RollbackFails env paths files
    | _ => True

variable (after : ConfigFiles)

theorem unchanged_iff : Unchanged paths files after ↔
    after paths.defaultsFile.path = files paths.defaultsFile.path ∧
      after paths.daemonConfigFile.path = files paths.daemonConfigFile.path := by
  constructor
  · intro h
    exact ⟨h .defaultsFile, h .daemonConfigFile⟩
  · rintro ⟨hdefaults, hdaemon⟩ (_ | _)
    · exact hdefaults
    · exact hdaemon

/-- A write that is refused, or takes the way back, promises that nothing changed. -/
theorem allOrNothing_failed {result : ConfigFileWriteResult}
    (hsuccess : result.success = false) (herror : result.rollbackError = none) :
    AllOrNothing paths desired files (after, result) ↔ Unchanged paths files after := by
  constructor
  · intro h
    exact h.kept hsuccess herror
  · intro h
    refine ⟨?_, fun _ _ => h, fun _ => h⟩
    rw [hsuccess]
    simp

theorem allOrNothing_reported {result : ConfigFileWriteResult}
    (hsuccess : result.success = false) {error : Bytes} (herror : result.rollbackError = some error)
    (hrolledBack : result.rolledBack = false) :
    AllOrNothing paths desired files (after, result) := by
  constructor
  · simp [hsuccess]
  · simp [herror]
  · simp [hrolledBack]

theorem writeFailed_first (error : Bytes) :
    AllOrNothing paths desired files (writeFailed env {} after error) ↔
      Unchanged paths files after := by
  apply allOrNothing_failed <;> rfl

theorem defaultsFile_apart (h : PathsApart paths) :
    paths.daemonConfigFile.path ≠ paths.defaultsFile.path ∧
      paths.daemonConfigFile.path ≠ tempPathFor paths.defaultsFile ∧
      paths.daemonConfigFile.path ≠ backupPathFor paths.defaultsFile := by
  unfold PathsApart at h
  simp only [List.nodup_cons, List.mem_cons, not_or] at h
  exact ⟨Ne.symm h.1.2.2.1, Ne.symm h.2.1.2.1, Ne.symm h.2.2.1.1⟩

theorem daemonConfigFile_apart (h : PathsApart paths) {path : Bytes}
    (hpath : path = paths.defaultsFile.path ∨ path = backupPathFor paths.defaultsFile) :
    path ≠ paths.daemonConfigFile.path ∧ path ≠ tempPathFor paths.daemonConfigFile ∧
      path ≠ backupPathFor paths.daemonConfigFile := by
  unfold PathsApart at h
  simp only [List.nodup_cons, List.mem_cons, not_or] at h
  obtain rfl | rfl := hpath
  · exact ⟨h.1.2.2.1, h.1.2.2.2.1, h.1.2.2.2.2.1⟩
  · exact ⟨h.2.2.1.1, h.2.2.1.2.1, h.2.2.1.2.2.1⟩

/-- With the first file on record, the second decides, unless the first cannot be put back. -/
theorem writeFailed_second (hapart : PathsApart paths) (after : ConfigFiles) (error : Bytes)
    {taken : ConfigFiles}
    (hrecorded : Recorded files .defaultsFile paths.defaultsFile taken operation)
    (hbackup : after (backupPathFor paths.defaultsFile) = taken (backupPathFor
      paths.defaultsFile)) :
    AllOrNothing paths desired files (writeFailed env { operations := [operation] } after error) ↔
      RollbackFails env paths files ∨
        after paths.daemonConfigFile.path = files paths.daemonConfigFile.path := by
  obtain ⟨hother, htemp, -⟩ := defaultsFile_apart paths hapart
  have hoperation := hrecorded.operation_eq
  have hframe := @rollbackOperation_other env after operation paths.daemonConfigFile.path
    (by rw [hoperation]; exact hother) (by rw [hoperation]; exact htemp)
  obtain ⟨hnone, hback⟩ := hrecorded.rollback env _ _ _ hbackup
  unfold writeFailed
  simp only [List.reverse_singleton, rollbackLastWrite_single]
  generalize rollbackOperation env after operation = rolledBack at hframe hnone hback ⊢
  obtain ⟨restored, rollbackError⟩ := rolledBack
  have hfails : RollbackFails env paths files ↔ rollbackError ≠ none := not_congr hnone.symm
  cases rollbackError with
  | some reported =>
    exact iff_of_true (allOrNothing_reported paths desired files restored rfl rfl rfl)
      (Or.inl (hfails.mpr (by simp)))
  | none =>
    simp only at hframe
    rw [allOrNothing_failed paths desired files restored rfl rfl, unchanged_iff, hframe]
    exact ⟨fun h => Or.inr h.2, fun h => ⟨hback rfl, h.resolve_left fun h => hfails.mp h rfl⟩⟩

theorem daemonConfigFile_written (hapart : PathsApart paths) {taken : ConfigFiles}
    (hrecorded : Recorded files .defaultsFile paths.defaultsFile taken operation)
    (hwritten : taken paths.defaultsFile.path = some (renderedFile files paths.defaultsFile
      (renderDefaultsFile desired))) :
    AllOrNothing paths desired files
        (applyWrites env taken { operations := [operation] }
          [(.daemonConfigFile, paths.daemonConfigFile, renderDaemonJson desired)]) ↔
      match applyFailure env paths files .daemonConfigFile with
      | some .copyBackup | some .backupPermissions => Holds paths desired files .defaultsFile
      | some .fsyncRenamed =>
        Holds paths desired files .daemonConfigFile ∨ RollbackFails env paths files
      | _ => True := by
  obtain ⟨htarget, htemp, hbackup⟩ := defaultsFile_apart paths hapart
  have hsecond : taken paths.daemonConfigFile.path = files paths.daemonConfigFile.path :=
    hrecorded.other _ htarget htemp hbackup
  have hfailure : applyFailure env paths files .daemonConfigFile =
      firstFailing env .apply .daemonConfigFile
        (targetSteps (taken paths.daemonConfigFile.path).isSome) := by
    rw [hsecond]
    rfl
  have hrendered : renderedFile taken paths.daemonConfigFile (renderDaemonJson desired) =
      renderedFile files paths.daemonConfigFile (renderDaemonJson desired) := by
    unfold renderedFile permissionsForPath
    rw [hsecond]
  have hholds := rendered_eq_iff files paths.daemonConfigFile (renderDaemonJson desired)
  have hfirst := rendered_eq_iff files paths.defaultsFile (renderDefaultsFile desired)
  have htaken := applyWrites_cons env taken .daemonConfigFile paths.daemonConfigFile
    (renderDaemonJson desired) { operations := [operation] } []
  rw [hfailure]
  generalize applyWrites env taken { operations := [operation] }
    [(.daemonConfigFile, paths.daemonConfigFile, renderDaemonJson desired)] = out at htaken ⊢
  cases htaken with
  | refused after error step hstep h hother =>
    rw [h, allOrNothing_failed paths desired files after rfl rfl, unchanged_iff,
      hother _ (daemonConfigFile_apart paths hapart (Or.inl rfl)).2.2,
      hother _ (backupPath_ne _).symm, hsecond, hwritten, hfirst]
    simp only [backupSteps, List.mem_cons, List.not_mem_nil, or_false] at hstep
    obtain rfl | rfl := hstep <;> exact and_iff_left rfl
  | taken after second h hrecorded' hwritten' =>
    rw [h]
    simp only [iff_true]
    have hkept := hrecorded'.other _ (daemonConfigFile_apart paths hapart (Or.inl rfl)).1
      (daemonConfigFile_apart paths hapart (Or.inl rfl)).2.1
      (daemonConfigFile_apart paths hapart (Or.inl rfl)).2.2
    refine ⟨?_, by simp [applyWrites], by simp [applyWrites]⟩
    rintro - (_ | _)
    · change (after paths.defaultsFile.path).map ConfigFile.content = _
      rw [hkept, hwritten]
      rfl
    · change (after paths.daemonConfigFile.path).map ConfigFile.content = _
      rw [hwritten']
      rfl
  | failed after error step hstep h hother hafter =>
    have hapart' := daemonConfigFile_apart paths hapart (Or.inr rfl)
    rw [h, writeFailed_second env paths desired files hapart after error hrecorded
      (hother _ hapart'.1 hapart'.2.1 hapart'.2.2), hafter, hsecond, hrendered]
    by_cases hrenamed : step = .fsyncRenamed
    · subst hrenamed
      rw [if_pos rfl, hholds, or_comm]
      rfl
    · rw [if_neg hrenamed]
      simp only [or_true, true_iff]
      cases step <;> simp_all [backupSteps]

/--
A write is all or nothing just where it is refused before it starts, or the step that fails first is
one the code recovers from.
-/
theorem allOrNothing_iff (hapart : PathsApart paths) :
    AllOrNothing paths desired files (writeDesired env paths desired files) ↔
      (desired.isWellFormed = true → loadCurrent env paths files = none →
        Recoverable env paths desired files) := by
  unfold writeDesired
  cases hwell : desired.isWellFormed with
  | false =>
    simp only [Bool.not_false, if_true, Bool.false_eq_true, false_implies, iff_true]
    exact (allOrNothing_failed paths desired files files rfl rfl).mpr fun _ => rfl
  | true =>
  simp only [Bool.not_true, Bool.false_eq_true, if_false, forall_const]
  cases hload : loadCurrent env paths files with
  | some error =>
    simp only [reduceCtorEq, false_implies, iff_true]
    exact (allOrNothing_failed paths desired files files rfl rfl).mpr fun _ => rfl
  | none =>
  simp only [forall_const]
  obtain ⟨htarget, htemp, hbackup⟩ := defaultsFile_apart paths hapart
  have hfirst := rendered_eq_iff files paths.defaultsFile (renderDefaultsFile desired)
  have htaken := applyWrites_cons env files .defaultsFile paths.defaultsFile
    (renderDefaultsFile desired) {}
    [(.daemonConfigFile, paths.daemonConfigFile, renderDaemonJson desired)]
  unfold Recoverable
  rw [show applyFailure env paths files .defaultsFile = firstFailing env .apply .defaultsFile
    (targetSteps (files paths.defaultsFile.path).isSome) from rfl]
  generalize applyWrites env files {}
    [(.defaultsFile, paths.defaultsFile, renderDefaultsFile desired),
      (.daemonConfigFile, paths.daemonConfigFile, renderDaemonJson desired)] = out at htaken ⊢
  cases htaken with
  | refused after error step hstep h hother =>
    rw [h, allOrNothing_failed paths desired files after rfl rfl, unchanged_iff,
      hother _ (backupPath_ne _).symm, hother _ hbackup]
    simp only [backupSteps, List.mem_cons, List.not_mem_nil, or_false] at hstep
    obtain rfl | rfl := hstep <;> simp
  | taken after operation h hrecorded hwritten =>
    rw [h]
    exact daemonConfigFile_written env paths desired files hapart hrecorded hwritten
  | failed after error step hstep h hother hafter =>
    rw [h, writeFailed_first, unchanged_iff, hother _ htarget htemp hbackup, hafter]
    by_cases hrenamed : step = .fsyncRenamed
    · subst hrenamed
      rw [if_pos rfl, hfirst]
      exact and_iff_left rfl
    · rw [if_neg hrenamed]
      cases step <;> simp_all

end

/-- One step fails. -/
def failingAt (phase : ConfigPhase) (target : ConfigTarget) (step : FileStep) : ConfigEnvironment where
  fails := fun phase' target' step' => decide (phase' = phase ∧ target' = target ∧ step' = step)

def factoryDesired : DesiredConfigSnapshot where
  schemaVersion := desiredConfigSchemaVersion
  profileId := str "factory_test"

/-- There is a defaults file, and no other. -/
def defaultsInstalled : ConfigFiles :=
  Function.update (fun _ => none) (DaemonConfigFileStorePaths.defaultsFile {}).path
    (some { content := str "DASALL_DAEMON_PROFILE_ID=edge_balanced\n", permissions := 0o640 })

theorem secondRename_restored :
    PathsApart {} ∧
      AllOrNothing {} factoryDesired defaultsInstalled
        (writeDesired (failingAt .apply .daemonConfigFile .rename) {} factoryDesired
          defaultsInstalled) := by
  have hapart : PathsApart {} := by decide +kernel
  refine ⟨hapart, (allOrNothing_iff _ _ _ _ hapart).mpr ?_⟩
  intro _ _
  have hfirst : applyFailure (failingAt .apply .daemonConfigFile .rename) {} defaultsInstalled
      .defaultsFile = none := by decide +kernel
  have hsecond : applyFailure (failingAt .apply .daemonConfigFile .rename) {} defaultsInstalled
      .daemonConfigFile = some .rename := by decide +kernel
  simp only [Recoverable, hfirst, hsecond]

/-- Neither file is there, and the `fsync` after the first rename fails: the new file stays. -/
theorem firstRename_notRestored :
    let out := writeDesired (failingAt .apply .defaultsFile .fsyncRenamed) {} factoryDesired
      fun _ => none
    factoryDesired.isWellFormed = true ∧ out.2.rolledBack = true ∧
      out.1 (DaemonConfigFileStorePaths.defaultsFile {}).path =
        some { content := renderDefaultsFile factoryDesired, permissions := 0o644 } ∧
      ¬ AllOrNothing {} factoryDesired (fun _ => none) out := by
  intro out
  have hrolledBack : out.2.rolledBack = true := by decide +kernel
  have hfile : out.1 (DaemonConfigFileStorePaths.defaultsFile {}).path =
      some { content := renderDefaultsFile factoryDesired, permissions := 0o644 } := by decide +kernel
  refine ⟨by decide +kernel, hrolledBack, hfile, ?_⟩
  intro h
  have hkept := h.restored hrolledBack .defaultsFile
  change out.1 (DaemonConfigFileStorePaths.defaultsFile {}).path = none at hkept
  rw [hfile] at hkept
  cases hkept

end Dasall.Apps.Cli
