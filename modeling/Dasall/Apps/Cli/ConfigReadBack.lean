import Dasall.Apps.Cli.DaemonConfigFileStore
import Dasall.Apps.Cli.JsonValidator
import Dasall.Lib.Separated

/-!
# Configuration read back

What is written from a desired configuration, and what is found in the files afterwards. The strings
go into both files as they are, so they come back where neither format means anything else by them.
-/

open Dasall.Lib.Text Dasall.Lib.Json Dasall.Lib.Separated

namespace Dasall.Apps.Cli

/-! ## The defaults file -/

def trimCopy (text : Bytes) : Bytes := (text.dropWhile isSpace).rdropWhile isSpace

/-- The profile that a line selects. -/
def profileOfLine (line : Bytes) : Option Bytes :=
  let trimmed := trimCopy line
  if trimmed = [] ∨ trimmed.head? = some 35 then none
  else if 61 ∉ trimmed then none
  else
    let key := trimCopy (trimmed.takeWhile (· ≠ 61))
    let value := trimCopy ((trimmed.dropWhile (· ≠ 61)).drop 1)
    if key = daemonProfileSelectionKey ∧ value ≠ [] then some value else none

/-- `std::getline` gives no line behind the last line break, where the empty line here selects
nothing. -/
def parseProfileIdFromDefaults (defaultsFileText : Bytes) : Option Bytes :=
  (defaultsFileText.splitOn 10).findSome? profileOfLine

/-- No white space at either end. -/
def Trimmed (text : Bytes) : Prop :=
  (∀ byte ∈ text.head?, isSpace byte = false) ∧ ∀ byte ∈ text.getLast?, isSpace byte = false

variable {text : Bytes} {desired : DesiredConfigSnapshot}

theorem Trimmed.trimCopy (h : Trimmed text) : trimCopy text = text := by
  have hfront : text.dropWhile isSpace = text := by
    cases text with
    | nil => rfl
    | cons byte text => exact List.dropWhile_cons_of_neg (by simp [h.1 byte rfl])
  unfold Cli.trimCopy
  rw [hfront, List.rdropWhile_eq_self_iff]
  intro hne
  rw [Bool.not_eq_true]
  exact h.2 _ (List.getLast?_eq_some_getLast hne)

theorem profileOfLine_selection (profileId : Bytes) (hne : profileId ≠ []) (h : Trimmed profileId) :
    profileOfLine (daemonProfileSelectionKey ++ 61 :: profileId) = some profileId := by
  have hline : Trimmed (daemonProfileSelectionKey ++ 61 :: profileId) := by
    constructor
    · rintro _ ⟨⟩
      rfl
    · intro byte hbyte
      refine h.2 byte ?_
      rw [List.getLast?_append_of_ne_nil _ (List.cons_ne_nil _ _),
        List.getLast?_cons_of_ne_nil hne] at hbyte
      exact hbyte
  have hkey : ∀ byte ∈ daemonProfileSelectionKey, decide (byte ≠ 61) = true := by decide
  have htrimmedKey : trimCopy daemonProfileSelectionKey = daemonProfileSelectionKey := by decide
  unfold profileOfLine
  dsimp only
  rw [hline.trimCopy, if_neg, if_neg, List.takeWhile_append_of_pos hkey,
    List.dropWhile_append_of_pos hkey, List.takeWhile_cons_of_neg (by simp),
    List.dropWhile_cons_of_neg (by simp), List.append_nil, List.drop_one, List.tail_cons, h.trimCopy,
    htrimmedKey, if_pos ⟨rfl, hne⟩]
  · simp
  · rintro (hempty | hcomment)
    · simp at hempty
    · have hhead : (daemonProfileSelectionKey ++ 61 :: profileId).head? = some 68 := rfl
      rw [hhead] at hcomment
      simp at hcomment

def firstComment : Bytes :=
  str "# v1 ownership: profile selection only; daemon.* stays in /etc/dasall/daemon.json"

def secondComment : Bytes :=
  str "# P0 operator path stays root/sudo-only; use sudo dasall config or edit the canonical files explicitly."

theorem profileOfLine_comments :
    profileOfLine firstComment = none ∧ profileOfLine secondComment = none := by decide +kernel

theorem comments_oneLine : (10 : Byte) ∉ firstComment ∧ (10 : Byte) ∉ secondComment := by
  decide +kernel

theorem renderDefaultsFile_eq (desired : DesiredConfigSnapshot) : renderDefaultsFile desired =
    join 10 [firstComment, secondComment, daemonProfileSelectionKey ++ 61 :: desired.profileId, []] := by
  have hfirst : str "# v1 ownership: profile selection only; daemon.* stays in /etc/dasall/daemon.json\n" =
      firstComment ++ [10] := by decide +kernel
  have hsecond : str "# P0 operator path stays root/sudo-only; use sudo dasall config or edit the canonical files explicitly.\n" =
      secondComment ++ [10] := by decide +kernel
  have hequals : str "=" = [61] := by decide +kernel
  have hbreak : str "\n" = [10] := by decide +kernel
  unfold renderDefaultsFile
  rw [hfirst, hsecond, hequals, hbreak]
  simp only [join_cons_cons, List.append_assoc, List.cons_append, List.nil_append]
  rfl

theorem defaults_readBack (hne : desired.profileId ≠ []) (hline : (10 : Byte) ∉ desired.profileId)
    (h : Trimmed desired.profileId) :
    parseProfileIdFromDefaults (renderDefaultsFile desired) = some desired.profileId := by
  have hkey : (10 : Byte) ∉ daemonProfileSelectionKey := by decide
  have hlines : ∀ line ∈
      [firstComment, secondComment, daemonProfileSelectionKey ++ 61 :: desired.profileId, []],
      (10 : Byte) ∉ line := by
    simp [hkey, comments_oneLine, hline]
  unfold parseProfileIdFromDefaults
  rw [renderDefaultsFile_eq, join, List.splitOn_intercalate 10 hlines (by simp)]
  simp only [List.findSome?_cons, profileOfLine_comments, profileOfLine_selection _ hne h]

/-! ## The daemon file -/

/-- The bytes that stand for themselves between quotation marks. -/
def PlainText (text : Bytes) : Prop := ∀ byte ∈ text, 0x20 ≤ byte.toNat ∧ byte ≠ 34 ∧ byte ≠ 92

instance (text : Bytes) : Decidable (PlainText text) := decidableForallMemByte _ text

theorem unescapes_plain (h : PlainText text) : Unescapes text text := by
  induction text with
  | nil => exact .nil
  | cons byte text ih =>
    obtain ⟨⟨hcontrol, hquote, hescape⟩, hrest⟩ := List.forall_mem_cons.mp h
    exact .plain byte hcontrol hquote hescape (ih hrest)

def daemonTree (desired : DesiredConfigSnapshot) : Value :=
  .object [(str "daemon", .object
    [(str "socket_path", .string desired.daemon.socketPath),
      (str "startup_mode", .string (str "direct_bind")),
      (str "diag_enabled", .bool desired.daemon.diagEnabled),
      (str "override_enabled", .bool desired.daemon.overrideEnabled),
      (str "watchdog_enabled", .bool desired.daemon.watchdogEnabled),
      (str "log_format", .string desired.daemon.logFormat)])]

/-- A member on a line of its own. -/
def memberLine (key value rest : Bytes) : Bytes :=
  10 :: 32 :: 32 :: 32 :: 32 :: 34 :: (key ++ 34 :: 58 :: 32 :: (value ++ rest))

set_option maxRecDepth 4000 in
theorem renderDaemonJson_eq (desired : DesiredConfigSnapshot) : renderDaemonJson desired =
    123 :: 10 :: 32 :: 32 :: 34 :: (str "daemon" ++ 34 :: 58 :: 32 :: 123 ::
      memberLine (str "socket_path") (34 :: (desired.daemon.socketPath ++ [34]))
        (44 :: memberLine (str "startup_mode") (34 :: (str "direct_bind" ++ [34]))
          (44 :: memberLine (str "diag_enabled") (boolToJson desired.daemon.diagEnabled)
            (44 :: memberLine (str "override_enabled") (boolToJson desired.daemon.overrideEnabled)
              (44 :: memberLine (str "watchdog_enabled") (boolToJson desired.daemon.watchdogEnabled)
                (44 :: memberLine (str "log_format") (34 :: (desired.daemon.logFormat ++ [34]))
                  [10, 32, 32, 125, 10, 125, 10])))))) := by
  unfold renderDaemonJson memberLine
  simp only [List.append_assoc, List.cons_append]
  rfl

theorem blanks_gap (gap rest : Bytes) (h : gap.all isBlank = true) :
    withoutExponents.Blanks (gap ++ rest) rest :=
  ⟨gap, rfl, List.all_eq_true.mp h⟩

variable {key valueText more rest : Bytes} {value : Value} {members : List (Bytes × Value)}

theorem reads_member (hkey : PlainText key)
    (h : ∀ rest, Reads withoutExponents .value (valueText ++ rest) value rest)
    (hmore : Reads withoutExponents .members more (.object members) rest) :
    Reads withoutExponents .members (memberLine key valueText (44 :: more))
      (.object ((key, value) :: members)) rest :=
  .member _ key key _ _ _ value _ more members rest (blanks_gap [10, 32, 32, 32, 32] _ rfl)
    (unescapes_plain hkey) (Tokens.blanks_self _) (blanks_gap [32] _ rfl) (h _) (Tokens.blanks_self _)
    hmore

theorem reads_lastMember (hkey : PlainText key)
    (h : ∀ rest, Reads withoutExponents .value (valueText ++ rest) value rest) (rest : Bytes) :
    Reads withoutExponents .members (memberLine key valueText (10 :: 32 :: 32 :: 125 :: rest))
      (.object [(key, value)]) rest :=
  .lastMember _ key key _ _ _ value _ rest (blanks_gap [10, 32, 32, 32, 32] _ rfl)
    (unescapes_plain hkey) (Tokens.blanks_self _) (blanks_gap [32] _ rfl) (h _)
    (blanks_gap [10, 32, 32] _ rfl)

theorem reads_plainString (h : PlainText text) (rest : Bytes) :
    Reads withoutExponents .value (34 :: (text ++ [34]) ++ rest) (.string text) rest := by
  rw [List.cons_append, List.append_assoc]
  exact .string text text rest (unescapes_plain h)

theorem reads_bool (value : Bool) (rest : Bytes) :
    Reads withoutExponents .value (boolToJson value ++ rest) (.bool value) rest := by
  cases value with
  | true => exact .true rest
  | false => exact .false rest

theorem daemon_document (hsocket : PlainText desired.daemon.socketPath)
    (hlog : PlainText desired.daemon.logFormat) :
    IsDocument withoutExponents (renderDaemonJson desired) (daemonTree desired) := by
  have hdaemon := reads_member (by decide : PlainText (str "socket_path")) (reads_plainString hsocket)
    (reads_member (by decide : PlainText (str "startup_mode"))
      (reads_plainString (by decide : PlainText (str "direct_bind")))
      (reads_member (by decide : PlainText (str "diag_enabled")) (reads_bool desired.daemon.diagEnabled)
        (reads_member (by decide : PlainText (str "override_enabled"))
          (reads_bool desired.daemon.overrideEnabled)
          (reads_member (by decide : PlainText (str "watchdog_enabled"))
            (reads_bool desired.daemon.watchdogEnabled)
            (reads_lastMember (by decide : PlainText (str "log_format")) (reads_plainString hlog)
              [10, 125, 10])))))
  rw [renderDaemonJson_eq]
  refine ⟨_, [10], Tokens.blanks_self _, .object _ _ _ (.lastMember _ (str "daemon") (str "daemon") _ _ _ _ _ _
    (blanks_gap [10, 32, 32] _ rfl) (unescapes_plain (by decide)) (Tokens.blanks_self _)
    (blanks_gap [32] _ rfl) (.object _ _ _ hdaemon) (blanks_gap [10] _ rfl)), blanks_gap [10] _ rfl⟩

theorem QuotedBody.plain_append {body : Bytes} (h : ∀ byte ∈ text, byte ≠ 34 ∧ byte ≠ 92)
    (hbody : QuotedBody body) : QuotedBody (text ++ body) := by
  induction text with
  | nil => exact hbody
  | cons byte text ih =>
    obtain ⟨⟨hquote, hescape⟩, hrest⟩ := List.forall_mem_cons.mp h
    exact .plain byte hquote hescape (ih hrest)

theorem codeUnit_plain {digits : Bytes} {unit : Nat} (h : codeUnit digits unit) :
    ∀ byte ∈ digits, byte ≠ 34 ∧ byte ≠ 92 := by
  obtain ⟨a, b, c, d, hdigits, -⟩ := h
  intro byte hbyte
  have hmem : Lib.Hex.hexValue byte ∈ [some a, some b, some c, some d] := by
    rw [← hdigits]
    exact List.mem_map_of_mem hbyte
  have hsome : Lib.Hex.hexValue byte ≠ none := by
    intro hnone
    rw [hnone] at hmem
    simp at hmem
  constructor
  all_goals
    rintro rfl
    exact hsome (by decide)

/-- What RFC 8259 reads without exponents, the validator accepts. -/
theorem withoutExponents_lenient : withoutExponents.Within lenient where
  blank byte h := by
    change isBlank byte = true at h
    simp only [isBlank, Bool.or_eq_true, decide_eq_true_eq] at h
    rcases h with ((rfl | rfl) | rfl) | rfl
    all_goals rfl
  string body value h := by
    change QuotedBody body
    induction h with
    | nil => exact .nil
    | plain byte hcontrol hquote hescape _ ih => exact .plain byte hquote hescape ih
    | short letter byte hletter _ ih => exact .escape letter ih
    | unicode digits c hunit _ ih => exact .escape 117 (ih.plain_append (codeUnit_plain hunit))
    | pair high low upper lower c hhigh hlow _ _ _ ih =>
      have hsecond := QuotedBody.escape 117 (ih.plain_append (codeUnit_plain hlow))
      exact .escape 117 (hsecond.plain_append (codeUnit_plain hhigh))
  number text := by
    rintro ⟨sign, whole, fraction, exponent, rfl, hsign, hwhole, -, hfraction, rfl⟩
    refine ⟨sign, whole, fraction, List.append_nil _, hsign.imp_right Or.inl, hwhole.2, ?_⟩
    rcases hfraction with rfl | ⟨digits, rfl, hdigits⟩
    · exact Or.inl ⟨rfl, hwhole.1⟩
    · exact Or.inr ⟨digits, rfl, hdigits.2, Or.inl hwhole.1⟩

/-! ## Loading after a write -/

structure DaemonConfigStoreSnapshot where
  defaultsFileExists : Bool := false
  daemonConfigFileExists : Bool := false
  daemonConfigValid : Bool := false
  profileId : Option Bytes := none
  defaultsFileText : Bytes := []
  daemonConfigJson : Bytes := []

section
variable (env : ConfigEnvironment) (paths : DaemonConfigFileStorePaths) (files : ConfigFiles)

/-- The text of a file that is there. -/
def readTextFile (path : ConfigPath) : Bytes :=
  match files path.path with
  | some file => file.content
  | none => []

/-- A missing daemon file is valid. -/
def loadCurrentSnapshot : Option DaemonConfigStoreSnapshot :=
  match loadCurrent env paths files with
  | some _ => none
  | none => some
    { defaultsFileExists := (files paths.defaultsFile.path).isSome
      daemonConfigFileExists := (files paths.daemonConfigFile.path).isSome
      daemonConfigValid := (files paths.daemonConfigFile.path).isNone ||
        validateJsonString (readTextFile files paths.daemonConfigFile)
      profileId := parseProfileIdFromDefaults (readTextFile files paths.defaultsFile)
      defaultsFileText := readTextFile files paths.defaultsFile
      daemonConfigJson := readTextFile files paths.daemonConfigFile }

variable {env paths files}

theorem Holds.readTextFile {target : ConfigTarget} (h : Holds paths desired files target) :
    readTextFile files (paths.of target) = renderTarget desired target := by
  unfold Holds at h
  unfold Cli.readTextFile
  cases hfile : files (paths.of target).path with
  | none => simp [hfile] at h
  | some file =>
    rw [hfile] at h
    exact Option.some.inj h

theorem writeFailed_success (transaction : ConfigFileWriteTransaction) (error : Bytes) :
    (writeFailed env transaction files error).2.success = false := by
  unfold writeFailed
  split <;> rfl

/-- A success means that the next file was written, and those behind it. -/
theorem taken_of_success {target : ConfigTarget} {targetPath : ConfigPath} {content : Bytes}
    {transaction : ConfigFileWriteTransaction} {rest : List (ConfigTarget × ConfigPath × Bytes)}
    (hsuccess : (applyWrites env files transaction
      ((target, targetPath, content) :: rest)).2.success = true) :
    ∃ after operation, Recorded files target targetPath after operation ∧
      after targetPath.path = some (renderedFile files targetPath content) ∧
      applyWrites env files transaction ((target, targetPath, content) :: rest) =
        applyWrites env after
          { transaction with operations := transaction.operations ++ [operation] } rest := by
  have htaken := applyWrites_cons env files target targetPath content transaction rest
  generalize applyWrites env files transaction ((target, targetPath, content) :: rest) = out
    at htaken hsuccess ⊢
  cases htaken with
  | refused after error step hstep h hother => cases hsuccess
  | failed after error step hstep h hother hafter =>
    rw [writeFailed_success] at hsuccess
    cases hsuccess
  | taken after operation h hrecorded hwritten => exact ⟨after, operation, hrecorded, hwritten, rfl⟩

/-- What a success leaves behind: both files, each with its operation on record. -/
theorem recorded_of_success (hsuccess : (writeDesired env paths desired files).2.success = true) :
    ∃ first operation second operation',
      Recorded files .defaultsFile paths.defaultsFile first operation ∧
      first paths.defaultsFile.path =
        some (renderedFile files paths.defaultsFile (renderDefaultsFile desired)) ∧
      Recorded first .daemonConfigFile paths.daemonConfigFile second operation' ∧
      second paths.daemonConfigFile.path =
        some (renderedFile first paths.daemonConfigFile (renderDaemonJson desired)) ∧
      writeDesired env paths desired files =
        (second, { success := true, transaction := { operations := [operation, operation'] } }) := by
  unfold writeDesired at hsuccess ⊢
  cases hwell : desired.isWellFormed with
  | false =>
    rw [hwell] at hsuccess
    cases hsuccess
  | true =>
  cases hload : loadCurrent env paths files with
  | some error =>
    rw [hwell, hload] at hsuccess
    cases hsuccess
  | none =>
  rw [hwell, hload] at hsuccess
  simp only [Bool.not_true, Bool.false_eq_true, if_false] at hsuccess ⊢
  obtain ⟨first, operation, hrecorded, hwritten, hrest⟩ := taken_of_success hsuccess
  rw [hrest] at hsuccess ⊢
  obtain ⟨second, operation', hrecorded', hwritten', hdone⟩ := taken_of_success hsuccess
  exact ⟨first, operation, second, operation', hrecorded, hwritten, hrecorded', hwritten', hdone⟩

theorem written_of_success (hapart : PathsApart paths)
    (hsuccess : (writeDesired env paths desired files).2.success = true) :
    ∀ target, Holds paths desired (writeDesired env paths desired files).1 target := by
  obtain ⟨first, operation, second, operation', -, hwritten, hrecorded, hwritten', hdone⟩ :=
    recorded_of_success hsuccess
  obtain ⟨htarget, htemp, hbackup⟩ := daemonConfigFile_apart paths hapart (Or.inl rfl)
  rw [hdone]
  rintro (_ | _)
  · change (second paths.defaultsFile.path).map ConfigFile.content = _
    rw [hrecorded.other _ htarget htemp hbackup, hwritten]
    rfl
  · change (second paths.daemonConfigFile.path).map ConfigFile.content = _
    rw [hwritten']
    rfl

/-! ## Undoing a write -/

def neverFailing : ConfigEnvironment where
  fails := fun _ _ _ => false

/--
A write that is undone later on: it reports success just where no step of it fails, and then both
files are what they were, or missing as they were.
-/
theorem rollback_undoes (env later : ConfigEnvironment) (paths : DaemonConfigFileStorePaths)
    (desired : DesiredConfigSnapshot) (files : ConfigFiles) (hapart : PathsApart paths)
    (hsuccess : (writeDesired env paths desired files).2.success = true) :
    let written := writeDesired env paths desired files
    let undone := rollbackLastWrite later written.1 written.2.transaction.operations.reverse
    (undone.2 = none ↔ ∀ target, firstFailing later .rollback target
      (rollbackSteps (existedBefore paths files target)) = none) ∧
    (undone.2 = none → Unchanged paths files undone.1) := by
  obtain ⟨first, operation, second, operation', hrecorded, -, hrecorded', -, hdone⟩ :=
    recorded_of_success hsuccess
  obtain ⟨htarget, htemp, hbackup⟩ := defaultsFile_apart paths hapart
  obtain ⟨htarget', htemp', hbackup'⟩ := daemonConfigFile_apart paths hapart (Or.inr rfl)
  intro written undone
  have hundone : undone = rollbackLastWrite later second [operation', operation] := by
    simp only [undone, written, hdone]
    rfl
  have hdaemon := hrecorded'.rollback later _ _ _ (Eq.refl (second _))
  rw [hrecorded.other _ htarget htemp hbackup] at hdaemon
  have hkept := @rollbackOperation_other later second operation'
    (backupPathFor paths.defaultsFile) (by rw [hrecorded'.operation_eq]; exact htarget')
    (by rw [hrecorded'.operation_eq]; exact htemp')
  rw [hundone, rollbackLastWrite, unchanged_iff]
  generalize rollbackOperation later second operation' = outcome at hdaemon hkept ⊢
  obtain ⟨restored, error⟩ := outcome
  cases error with
  | some error =>
    refine ⟨iff_of_false (by simp) fun h => ?_, fun h => by cases h⟩
    cases hdaemon.1.mpr (h .daemonConfigFile)
  | none =>
    have hdefaults := hrecorded.rollback later _ _ _
      (hkept.trans (hrecorded'.other _ htarget' htemp' hbackup'))
    have hframe := @rollbackOperation_other later restored operation paths.daemonConfigFile.path
      (by rw [hrecorded.operation_eq]; exact htarget) (by rw [hrecorded.operation_eq]; exact htemp)
    simp only [rollbackLastWrite_single]
    constructor
    · refine hdefaults.1.trans ⟨fun h => ?_, fun h => h .defaultsFile⟩
      rintro (_ | _)
      · exact h
      · exact hdaemon.1.mp rfl
    · intro h
      exact ⟨hdefaults.2 h, hframe.trans (hdaemon.2 rfl)⟩

theorem rollback_undoes_factory :
    let written := writeDesired neverFailing {} factoryDesired defaultsInstalled
    Unchanged {} defaultsInstalled
      (rollbackLastWrite neverFailing written.1 written.2.transaction.operations.reverse).1 :=
  (rollback_undoes neverFailing neverFailing {} factoryDesired defaultsInstalled (by decide +kernel)
    (by decide +kernel)).2 (by decide +kernel)

end

/-! ## What reads back -/

structure ReadsBack (desired : DesiredConfigSnapshot) : Prop where
  daemon : IsDocument rfc8259 (renderDaemonJson desired) (daemonTree desired)
  defaults : parseProfileIdFromDefaults (renderDefaultsFile desired) = some desired.profileId
  loaded : ∀ env later paths files, PathsApart paths →
    (writeDesired env paths desired files).2.success = true →
      ∀ snapshot ∈ loadCurrentSnapshot later paths (writeDesired env paths desired files).1,
        snapshot.daemonConfigValid = true ∧ snapshot.profileId = some desired.profileId

end Dasall.Apps.Cli
