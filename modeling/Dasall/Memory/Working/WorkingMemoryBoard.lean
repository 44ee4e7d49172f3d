import Dasall.Lib.Best
import Dasall.Lib.Sort
import Dasall.Lib.Text

/-!
# The working memory board

A session has slots, one for each key and no more than the board allows. A slot expires when its
time is over. Where a session has too many slots, the ones with a time to live go first, and the
ones that were updated longest ago: a slot that was just written may be the one that goes.
-/

open Dasall.Lib Dasall.Lib.Text

namespace Dasall.Memory.Working

structure WorkingMemorySlot where
  key : Bytes
  value : Bytes
  updatedAt : Int64 := 0
  ttlMs : Int64 := 0
  source : Bytes := []
deriving DecidableEq

structure WorkingMemorySnapshot where
  sessionId : Bytes
  slots : List WorkingMemorySlot := []
  openQuestions : List Bytes := []
  ephemeralFacts : List Bytes := []
  snapshotAt : Int64 := 0
deriving DecidableEq

def isExpired (slot : WorkingMemorySlot) (nowMs : Int64) : Bool :=
  if slot.ttlMs ≤ 0 ∨ slot.updatedAt ≤ 0 then false
  else decide (slot.ttlMs ≤ nowMs - slot.updatedAt)

structure SessionWorkingMemoryState where
  slots : List WorkingMemorySlot := []
  openQuestions : List Bytes := []
  ephemeralFacts : List Bytes := []
deriving DecidableEq

structure WorkingMemoryBoard where
  maxSlotsPerSession : Nat
  sessions : Bytes → Option SessionWorkingMemoryState

def createWorkingMemoryBoard (maxSlotsPerSession : UInt64 := 128) : WorkingMemoryBoard where
  maxSlotsPerSession := max 1 maxSlotsPerSession.toNat
  sessions _ := none

/-- Replaces the slot with the key, or adds the slot behind the others. -/
def putSlot (slot : WorkingMemorySlot) : List WorkingMemorySlot → List WorkingMemorySlot
  | [] => [slot]
  | candidate :: rest =>
    if candidate.key = slot.key then slot :: rest else candidate :: putSlot slot rest

def evictExpiredLocked (nowMs : Int64) (slots : List WorkingMemorySlot) : List WorkingMemorySlot :=
  slots.filter fun slot => !isExpired slot nowMs

/-- The order in which `trim_slots_locked` erases the slots. -/
def goesFirst (left right : WorkingMemorySlot) : Bool :=
  let leftHasTtl := decide (0 < left.ttlMs)
  let rightHasTtl := decide (0 < right.ttlMs)
  if leftHasTtl ≠ rightHasTtl then leftHasTtl
  else if left.updatedAt ≠ right.updatedAt then decide (left.updatedAt < right.updatedAt)
  else decide (left.key < right.key)

/-- The loop of `trim_slots_locked`. Each turn erases a slot, so their number is fuel enough. -/
def trimLoop (maxSlots : Nat) : Nat → List WorkingMemorySlot → List WorkingMemorySlot
  | 0, slots => slots
  | fuel + 1, slots =>
    if maxSlots < slots.length then
      match Best.best goesFirst slots with
      | some candidate => trimLoop maxSlots fuel (slots.erase candidate)
      | none => slots
    else slots

def trimSlotsLocked (maxSlots : Nat) (slots : List WorkingMemorySlot) : List WorkingMemorySlot :=
  trimLoop maxSlots slots.length slots

/-- A slot without a time is updated now. -/
def normalizeSlot (slot : WorkingMemorySlot) (nowMs : Int64) : WorkingMemorySlot :=
  if slot.updatedAt ≤ 0 then { slot with updatedAt := nowMs } else slot

namespace WorkingMemoryBoard

def store (board : WorkingMemoryBoard) (sessionId : Bytes)
    (state : Option SessionWorkingMemoryState) : WorkingMemoryBoard :=
  { board with sessions := Function.update board.sessions sessionId state }

/-- The state, or nothing where `erase_session_if_empty_locked` erases it. -/
def unlessEmpty (state : SessionWorkingMemoryState) : Option SessionWorkingMemoryState :=
  if state.slots.isEmpty && state.openQuestions.isEmpty && state.ephemeralFacts.isEmpty then none
  else some state

/-- The clock is read for the slot, where it has no time, and again to find what has expired. -/
def setSlot (board : WorkingMemoryBoard) (sessionId : Bytes) (slot : WorkingMemorySlot)
    (writtenAt nowMs : Int64) : WorkingMemoryBoard :=
  if sessionId.isEmpty || slot.key.isEmpty then board
  else
    let state := (board.sessions sessionId).getD {}
    let slots := putSlot (normalizeSlot slot writtenAt) state.slots
    board.store sessionId (some { state with
      slots := trimSlotsLocked board.maxSlotsPerSession (evictExpiredLocked nowMs slots) })

def getSlot (board : WorkingMemoryBoard) (sessionId key : Bytes) (nowMs : Int64) :
    Option WorkingMemorySlot := do
  let state ← board.sessions sessionId
  let slot ← state.slots.find? fun candidate => candidate.key == key
  if isExpired slot nowMs then none else some slot

def removeSlot (board : WorkingMemoryBoard) (sessionId key : Bytes) : WorkingMemoryBoard :=
  match board.sessions sessionId with
  | none => board
  | some state =>
    board.store sessionId
      (unlessEmpty { state with slots := state.slots.filter fun slot => slot.key != key })

def clearSession (board : WorkingMemoryBoard) (sessionId : Bytes) : WorkingMemoryBoard :=
  board.store sessionId none

def exportSnapshot (board : WorkingMemoryBoard) (sessionId : Bytes) (nowMs : Int64) :
    WorkingMemoryBoard × WorkingMemorySnapshot :=
  match board.sessions sessionId with
  | none => (board, { sessionId, snapshotAt := nowMs })
  | some state =>
    let slots := evictExpiredLocked nowMs state.slots
    (board.store sessionId (some { state with slots }),
      { sessionId, slots, openQuestions := state.openQuestions,
        ephemeralFacts := state.ephemeralFacts, snapshotAt := nowMs })

/-- What the loop of `restore_snapshot` does with a slot. -/
def restoreSlot (nowMs : Int64) (slots : List WorkingMemorySlot) (slot : WorkingMemorySlot) :
    List WorkingMemorySlot :=
  if slot.key.isEmpty then slots else putSlot (normalizeSlot slot nowMs) slots

def restoreSnapshot (board : WorkingMemoryBoard) (snapshot : WorkingMemorySnapshot)
    (nowMs : Int64) : WorkingMemoryBoard :=
  if snapshot.sessionId.isEmpty then board
  else
    let slots := snapshot.slots.foldl (restoreSlot nowMs) []
    board.store snapshot.sessionId (unlessEmpty
      { slots := trimSlotsLocked board.maxSlotsPerSession (evictExpiredLocked nowMs slots)
        openQuestions := snapshot.openQuestions
        ephemeralFacts := snapshot.ephemeralFacts })

def evictExpired (board : WorkingMemoryBoard) (sessionId : Bytes) (nowMs : Int64) :
    WorkingMemoryBoard :=
  match board.sessions sessionId with
  | none => board
  | some state =>
    board.store sessionId
      (unlessEmpty { state with slots := evictExpiredLocked nowMs state.slots })

/-- The slots of a session. -/
def slots (board : WorkingMemoryBoard) (sessionId : Bytes) : List WorkingMemorySlot :=
  ((board.sessions sessionId).map (·.slots)).getD []

end WorkingMemoryBoard

/-! ## Runs -/

open WorkingMemoryBoard

/-- A call, with what it reads of the clock. -/
inductive Call where
  | setSlot (sessionId : Bytes) (slot : WorkingMemorySlot) (writtenAt nowMs : Int64)
  | removeSlot (sessionId key : Bytes)
  | clearSession (sessionId : Bytes)
  | exportSnapshot (sessionId : Bytes) (nowMs : Int64)
  | restoreSnapshot (snapshot : WorkingMemorySnapshot) (nowMs : Int64)
  | evictExpired (sessionId : Bytes) (nowMs : Int64)

def Call.apply (board : WorkingMemoryBoard) : Call → WorkingMemoryBoard
  | .setSlot sessionId slot writtenAt nowMs => board.setSlot sessionId slot writtenAt nowMs
  | .removeSlot sessionId key => board.removeSlot sessionId key
  | .clearSession sessionId => board.clearSession sessionId
  | .exportSnapshot sessionId nowMs => (board.exportSnapshot sessionId nowMs).1
  | .restoreSnapshot snapshot nowMs => board.restoreSnapshot snapshot nowMs
  | .evictExpired sessionId nowMs => board.evictExpired sessionId nowMs

def run (maxSlotsPerSession : UInt64) (calls : List Call) : WorkingMemoryBoard :=
  calls.foldl Call.apply (createWorkingMemoryBoard maxSlotsPerSession)

/-- The clock is past its start whenever the call reads it. -/
def Call.clockStarted : Call → Prop
  | .setSlot _ _ writtenAt nowMs => 0 < writtenAt ∧ 0 < nowMs
  | .exportSnapshot _ nowMs | .restoreSnapshot _ nowMs | .evictExpired _ nowMs => 0 < nowMs
  | .removeSlot _ _ | .clearSession _ => True

/-! ## Slots -/

/-- A flag that is set comes before one that is not. -/
def setFirst (x y : Bool) : Bool := x && !y

theorem setFirst_linear : Sort.Linear setFirst := ⟨by decide, by decide, by decide⟩

theorem goesFirst_eq : goesFirst = Sort.thenBy (fun slot => decide (0 < slot.ttlMs))
    setFirst (Sort.thenBy (·.updatedAt) (fun x y => decide (x < y))
      (fun left right => decide (left.key < right.key))) := by
  funext left right
  unfold goesFirst Sort.thenBy
  simp only
  split
  · next hne =>
    revert hne
    generalize decide (0 < left.ttlMs) = x
    generalize decide (0 < right.ttlMs) = y
    revert x y
    decide
  · rfl

theorem int64_linear : Sort.Linear fun x y : Int64 => decide (x < y) where
  asymm x y h := by
    rw [decide_eq_true_eq, Int64.lt_iff_toInt_lt] at h
    rw [decide_eq_false_iff_not, Int64.lt_iff_toInt_lt]
    omega
  trans x y z hxy hyz := by
    rw [decide_eq_true_eq, Int64.lt_iff_toInt_lt] at hxy hyz ⊢
    omega
  total x y hne := by
    have hvalues : x.toInt ≠ y.toInt := fun h => hne (Int64.toInt_inj.mp h)
    rw [decide_eq_true_eq, decide_eq_true_eq, Int64.lt_iff_toInt_lt, Int64.lt_iff_toInt_lt]
    omega

theorem goesFirst_strictWeak : Sort.StrictWeak goesFirst := by
  have hkeys : Sort.Linear fun x y : Bytes => decide (x < y) := Sort.Linear.ofLT
  rw [goesFirst_eq]
  exact ((hkeys.strictWeak WorkingMemorySlot.key).thenBy int64_linear _).thenBy setFirst_linear _

/-- Of two slots with different keys one goes first. -/
theorem goesFirst_total {left right : WorkingMemorySlot} (h : left.key ≠ right.key)
    (hright : goesFirst right left = false) : goesFirst left right = true := by
  have hkeys : Sort.Linear fun x y : Bytes => decide (x < y) := Sort.Linear.ofLT
  by_contra hleft
  rw [Bool.not_eq_true] at hleft
  rw [goesFirst_eq] at hleft hright
  have hflag := setFirst_linear.eq_of_tied (Sort.thenBy_key setFirst_linear hleft)
    (Sort.thenBy_key setFirst_linear hright)
  have hleft := Sort.thenBy_rest hleft hflag
  have hright := Sort.thenBy_rest hright hflag.symm
  have htime := int64_linear.eq_of_tied (Sort.thenBy_key int64_linear hleft)
    (Sort.thenBy_key int64_linear hright)
  exact h (hkeys.eq_of_tied (Sort.thenBy_rest hleft htime) (Sort.thenBy_rest hright htime.symm))

variable {slots : List WorkingMemorySlot}

theorem mem_putSlot {slot other : WorkingMemorySlot} (h : other ∈ putSlot slot slots) :
    other = slot ∨ other ∈ slots := by
  induction slots with
  | nil => exact .inl (List.mem_singleton.mp h)
  | cons candidate rest ih =>
    rw [putSlot] at h
    split at h
    · rcases List.mem_cons.mp h with rfl | hmem
      · exact .inl rfl
      · exact .inr (List.mem_cons_of_mem _ hmem)
    · rcases List.mem_cons.mp h with rfl | hmem
      · exact .inr List.mem_cons_self
      · rcases ih hmem with rfl | hrest
        · exact .inl rfl
        · exact .inr (List.mem_cons_of_mem _ hrest)

variable (slot : WorkingMemorySlot)

theorem self_mem_putSlot (slots : List WorkingMemorySlot) :
    slot ∈ putSlot slot slots := by
  induction slots with
  | nil => exact List.mem_singleton_self slot
  | cons candidate rest ih =>
    rw [putSlot]
    split
    · exact List.mem_cons_self
    · exact List.mem_cons_of_mem _ ih

theorem length_putSlot_le (slots : List WorkingMemorySlot) :
    (putSlot slot slots).length ≤ slots.length + 1 := by
  induction slots with
  | nil => exact le_refl _
  | cons candidate rest ih =>
    rw [putSlot]
    split
    · simp
    · simp only [List.length_cons]
      omega

/-- The slots have distinct keys. -/
def KeysDistinct (slots : List WorkingMemorySlot) : Prop := (slots.map (·.key)).Nodup

theorem keysDistinct_sublist {slots' : List WorkingMemorySlot} (h : KeysDistinct slots)
    (hsub : slots'.Sublist slots) : KeysDistinct slots' :=
  h.sublist (hsub.map _)

theorem keysDistinct_putSlot (h : KeysDistinct slots) (slot : WorkingMemorySlot) :
    KeysDistinct (putSlot slot slots) := by
  induction slots with
  | nil => exact List.nodup_singleton _
  | cons candidate rest ih =>
    obtain ⟨hnew, hrest⟩ := List.nodup_cons.mp h
    simp only at hnew
    rw [putSlot]
    split
    · next hsame =>
      rw [hsame] at hnew
      exact List.nodup_cons.mpr ⟨hnew, hrest⟩
    · next hother =>
      refine List.nodup_cons.mpr ⟨fun hmem => ?_, ih hrest⟩
      obtain ⟨other, hput, hkey⟩ := List.mem_map.mp hmem
      rcases mem_putSlot hput with rfl | hold
      · exact hother hkey.symm
      · exact hnew (List.mem_map.mpr ⟨other, hold, hkey⟩)

theorem KeysDistinct.eq (h : KeysDistinct slots) {left right : WorkingMemorySlot}
    (hleft : left ∈ slots) (hright : right ∈ slots) (hkey : left.key = right.key) : left = right :=
  List.inj_on_of_nodup_map h hleft hright hkey

theorem trimLoop_spec (maxSlots fuel : Nat) (slots : List WorkingMemorySlot)
    (hfuel : slots.length ≤ fuel) :
    (trimLoop maxSlots fuel slots).Sublist slots ∧
      (trimLoop maxSlots fuel slots).length ≤ maxSlots := by
  induction fuel generalizing slots with
  | zero =>
    refine ⟨List.Sublist.refl _, ?_⟩
    rw [trimLoop]
    omega
  | succ fuel ih =>
    rw [trimLoop]
    split
    · next hlong =>
      cases hbest : Best.best goesFirst slots with
      | none =>
        rw [Best.best_eq_none goesFirst hbest] at hlong
        simp at hlong
      | some candidate =>
        have hmem := Best.best_mem goesFirst hbest
        have hlength := List.length_erase_of_mem hmem
        obtain ⟨hsub, hshort⟩ := ih (slots.erase candidate) (by omega)
        exact ⟨hsub.trans List.erase_sublist, hshort⟩
    · next hshort => exact ⟨List.Sublist.refl _, by omega⟩

variable {maxSlots : Nat}

theorem trimSlots_short (h : slots.length ≤ maxSlots) : trimSlotsLocked maxSlots slots = slots := by
  unfold trimSlotsLocked
  cases slots with
  | nil => rfl
  | cons slot slots => rw [List.length_cons, trimLoop, if_neg (by simpa using h)]

/-- One slot too many: the one that goes first is erased. -/
theorem mem_trimSlots (hkeys : KeysDistinct slots) (hlength : slots.length = maxSlots + 1)
    {slot : WorkingMemorySlot} (hmem : slot ∈ slots) :
    slot ∈ trimSlotsLocked maxSlots slots ↔ ∃ other ∈ slots, goesFirst other slot = true := by
  unfold trimSlotsLocked
  rw [hlength, trimLoop, if_pos (by omega)]
  cases hbest : Best.best goesFirst slots with
  | none =>
    rw [Best.best_eq_none goesFirst hbest] at hmem
    cases hmem
  | some candidate =>
    have hcandidate := Best.best_mem goesFirst hbest
    have hleast := Best.best_least goesFirst goesFirst_strictWeak.asymm goesFirst_strictWeak.trans
      hbest
    have hrest : trimLoop maxSlots maxSlots (slots.erase candidate) = slots.erase candidate := by
      have hshorter := List.length_erase_of_mem hcandidate
      have htrim := @trimSlots_short (slots.erase candidate) maxSlots (by omega)
      unfold trimSlotsLocked at htrim
      rwa [hshorter, hlength] at htrim
    simp only
    rw [hrest, (List.Nodup.of_map _ hkeys).mem_erase_iff, and_iff_left hmem]
    constructor
    · intro hother
      refine ⟨candidate, hcandidate, goesFirst_total (fun hkey => ?_) (hleast slot hmem)⟩
      exact hother (hkeys.eq hmem hcandidate hkey.symm)
    · rintro ⟨other, hother, hfirst⟩ rfl
      rw [hleast other hother] at hfirst
      cases hfirst

/-! ## The invariant -/

/-- The slots of a session: no key twice, none empty, and no more of them than the board allows. -/
structure SlotsSound (maxSlots : Nat) (slots : List WorkingMemorySlot) : Prop where
  distinct : KeysDistinct slots
  short : slots.length ≤ maxSlots
  named : ∀ slot ∈ slots, slot.key ≠ []

def timed (slots : List WorkingMemorySlot) : Prop := ∀ slot ∈ slots, 0 < slot.updatedAt

theorem slotsSound_sublist {slots' : List WorkingMemorySlot} (h : SlotsSound maxSlots slots)
    (hsub : slots'.Sublist slots) : SlotsSound maxSlots slots' :=
  ⟨keysDistinct_sublist h.distinct hsub, le_trans hsub.length_le h.short,
    fun slot hmem => h.named slot (hsub.subset hmem)⟩

variable (nowMs : Int64)

theorem slotsSound_trim (hdistinct : KeysDistinct slots) (hnamed : ∀ slot ∈ slots, slot.key ≠ []) :
    SlotsSound maxSlots (trimSlotsLocked maxSlots (evictExpiredLocked nowMs slots)) ∧
      (trimSlotsLocked maxSlots (evictExpiredLocked nowMs slots)).Sublist slots := by
  obtain ⟨hsub, hshort⟩ := trimLoop_spec maxSlots _ (evictExpiredLocked nowMs slots) (le_refl _)
  have hall := hsub.trans List.filter_sublist
  exact ⟨⟨keysDistinct_sublist hdistinct hall, hshort,
    fun slot hmem => hnamed slot (hall.subset hmem)⟩, hall⟩

theorem normalizeSlot_spec :
    (normalizeSlot slot nowMs).key = slot.key ∧ (normalizeSlot slot nowMs).value = slot.value ∧
      (0 < nowMs → 0 < (normalizeSlot slot nowMs).updatedAt) ∧
      (0 < slot.updatedAt → normalizeSlot slot nowMs = slot) := by
  unfold normalizeSlot
  split
  · next hnone =>
    refine ⟨rfl, rfl, fun h => h, fun h => ?_⟩
    rw [Int64.le_iff_toInt_le] at hnone
    rw [Int64.lt_iff_toInt_lt] at h
    omega
  · next hsome =>
    refine ⟨rfl, rfl, fun _ => ?_, fun _ => rfl⟩
    rw [Int64.le_iff_toInt_le] at hsome
    rw [Int64.lt_iff_toInt_lt]
    omega

theorem restoreSlots_spec (news slots : List WorkingMemorySlot)
    (hdistinct : KeysDistinct slots) (hnamed : ∀ slot ∈ slots, slot.key ≠ []) :
    KeysDistinct (news.foldl (restoreSlot nowMs) slots) ∧
      (∀ slot ∈ news.foldl (restoreSlot nowMs) slots, slot.key ≠ []) ∧
      (0 < nowMs → timed slots → timed (news.foldl (restoreSlot nowMs) slots)) := by
  induction news generalizing slots with
  | nil => exact ⟨hdistinct, hnamed, fun _ h => h⟩
  | cons slot news ih =>
    obtain ⟨hkey, -, htime, -⟩ := normalizeSlot_spec slot nowMs
    rw [List.foldl_cons]
    unfold restoreSlot
    split
    · exact ih slots hdistinct hnamed
    · next hslot =>
      rw [List.isEmpty_iff, ← hkey] at hslot
      obtain ⟨hd, hn, ht⟩ := ih (putSlot (normalizeSlot slot nowMs) slots)
        (keysDistinct_putSlot hdistinct _) (fun other hother => by
          rcases mem_putSlot hother with rfl | hold
          · exact hslot
          · exact hnamed other hold)
      refine ⟨hd, hn, fun hnow hold => ht hnow fun other hother => ?_⟩
      rcases mem_putSlot hother with rfl | hmem
      · exact htime hnow
      · exact hold other hmem

/-- What holds of every session that the board stores. -/
def Everywhere (property : Bytes → SessionWorkingMemoryState → Prop) (board : WorkingMemoryBoard) :
    Prop :=
  ∀ sessionId state, board.sessions sessionId = some state → property sessionId state

theorem everywhere_store {property : Bytes → SessionWorkingMemoryState → Prop}
    {board : WorkingMemoryBoard} (h : Everywhere property board) (sessionId : Bytes)
    {state : Option SessionWorkingMemoryState} (hstate : ∀ s, state = some s → property sessionId s) :
    Everywhere property (board.store sessionId state) := by
  intro other found hfound
  simp only [store, Function.update_apply] at hfound
  split at hfound
  · next hsame =>
    rw [hsame]
    exact hstate found hfound
  · exact h other found hfound

theorem unlessEmpty_some {state found : SessionWorkingMemoryState}
    (h : unlessEmpty state = some found) : found = state := by
  unfold unlessEmpty at h
  split at h
  · cases h
  · exact (Option.some.inj h).symm

/-- A property of the slots that survives when slots are left out, put in and restored. -/
structure Kept (property : List WorkingMemorySlot → Prop) (maxSlots : Nat) (call : Call) : Prop where
  none : property []
  fewer : ∀ slots slots', property slots → slots'.Sublist slots → property slots'
  put : ∀ sessionId slot writtenAt nowMs, call = .setSlot sessionId slot writtenAt nowMs →
    slot.key ≠ [] → ∀ slots, property slots → property (trimSlotsLocked maxSlots
      (evictExpiredLocked nowMs (putSlot (normalizeSlot slot writtenAt) slots)))
  restored : ∀ snapshot nowMs, call = .restoreSnapshot snapshot nowMs →
    property (trimSlotsLocked maxSlots (evictExpiredLocked nowMs
      (snapshot.slots.foldl (WorkingMemoryBoard.restoreSlot nowMs) [])))

/-- A session has a name, and its slots have the property. -/
def Holds (property : List WorkingMemorySlot → Prop) : WorkingMemoryBoard → Prop :=
  Everywhere fun sessionId state => sessionId ≠ [] ∧ property state.slots

theorem apply_holds {property : List WorkingMemorySlot → Prop} {board : WorkingMemoryBoard}
    (h : Holds property board) {call : Call} (hkept : Kept property board.maxSlotsPerSession call) :
    Holds property (call.apply board) ∧
      (call.apply board).maxSlotsPerSession = board.maxSlotsPerSession := by
  have hfewer : ∀ {sessionId state slots}, board.sessions sessionId = some state →
      slots.Sublist state.slots → sessionId ≠ [] ∧ property slots := fun hold hslots =>
    ⟨(h _ _ hold).1, hkept.fewer _ _ (h _ _ hold).2 hslots⟩
  cases call with
  | setSlot sessionId slot writtenAt nowMs =>
    unfold Call.apply setSlot
    simp only
    split
    · exact ⟨h, rfl⟩
    · next hnames =>
      rw [Bool.or_eq_true, List.isEmpty_iff, List.isEmpty_iff, not_or] at hnames
      refine ⟨everywhere_store h sessionId fun state hstate => ?_, rfl⟩
      obtain rfl := Option.some.inj hstate
      refine ⟨hnames.1, hkept.put sessionId slot writtenAt nowMs rfl hnames.2 _ ?_⟩
      cases hold : board.sessions sessionId with
      | none => exact hkept.none
      | some state => exact (h sessionId state hold).2
  | removeSlot sessionId key =>
    unfold Call.apply removeSlot
    simp only
    split
    · exact ⟨h, rfl⟩
    · next state hold =>
      refine ⟨everywhere_store h sessionId fun found hfound => ?_, rfl⟩
      rw [unlessEmpty_some hfound]
      exact hfewer hold List.filter_sublist
  | clearSession sessionId =>
    exact ⟨everywhere_store h sessionId (by simp), rfl⟩
  | exportSnapshot sessionId nowMs =>
    unfold Call.apply exportSnapshot
    simp only
    split
    · exact ⟨h, rfl⟩
    · next state hold =>
      refine ⟨everywhere_store h sessionId fun found hfound => ?_, rfl⟩
      obtain rfl := Option.some.inj hfound
      exact hfewer hold List.filter_sublist
  | restoreSnapshot snapshot nowMs =>
    unfold Call.apply restoreSnapshot
    simp only
    split
    · exact ⟨h, rfl⟩
    · next hname =>
      rw [List.isEmpty_iff] at hname
      refine ⟨everywhere_store h _ fun found hfound => ?_, rfl⟩
      rw [unlessEmpty_some hfound]
      exact ⟨hname, hkept.restored snapshot nowMs rfl⟩
  | evictExpired sessionId nowMs =>
    unfold Call.apply evictExpired
    simp only
    split
    · exact ⟨h, rfl⟩
    · next state hold =>
      refine ⟨everywhere_store h sessionId fun found hfound => ?_, rfl⟩
      rw [unlessEmpty_some hfound]
      exact hfewer hold List.filter_sublist

theorem run_holds {property : List WorkingMemorySlot → Prop} (maxSlots : UInt64)
    (calls : List Call) (hkept : ∀ call ∈ calls, Kept property (max 1 maxSlots.toNat) call) :
    Holds property (run maxSlots calls) ∧
      (run maxSlots calls).maxSlotsPerSession = max 1 maxSlots.toNat := by
  have hloop : ∀ (calls : List Call) (board : WorkingMemoryBoard), Holds property board →
      board.maxSlotsPerSession = max 1 maxSlots.toNat →
      (∀ call ∈ calls, Kept property (max 1 maxSlots.toNat) call) →
        Holds property (calls.foldl Call.apply board) ∧
          (calls.foldl Call.apply board).maxSlotsPerSession = max 1 maxSlots.toNat := by
    intro calls
    induction calls with
    | nil => exact fun board hboard hmax _ => ⟨hboard, hmax⟩
    | cons call calls ih =>
      intro board hboard hmax hcalls
      rw [List.forall_mem_cons] at hcalls
      obtain ⟨hnext, hsame⟩ := apply_holds hboard (hmax ▸ hcalls.1)
      exact ih _ hnext (hsame.trans hmax) hcalls.2
  exact hloop calls _ nofun rfl hkept

theorem slotsSound_kept (maxSlots : Nat) (call : Call) :
    Kept (SlotsSound maxSlots) maxSlots call where
  none := ⟨List.nodup_nil, Nat.zero_le _, by simp⟩
  fewer _ _ h hsub := slotsSound_sublist h hsub
  put _ slot writtenAt nowMs _ hkey slots h := by
    refine (slotsSound_trim nowMs (keysDistinct_putSlot h.distinct _) ?_).1
    intro other hother
    rcases mem_putSlot hother with rfl | hold
    · rw [(normalizeSlot_spec slot writtenAt).1]
      exact hkey
    · exact h.named other hold
  restored snapshot nowMs _ := by
    obtain ⟨hdistinct, hnamed, -⟩ :=
      restoreSlots_spec nowMs snapshot.slots [] List.nodup_nil (by simp)
    exact (slotsSound_trim nowMs hdistinct hnamed).1

theorem timed_kept (maxSlots : Nat) {call : Call} (hstarted : call.clockStarted) :
    Kept timed maxSlots call where
  none := by simp [timed]
  fewer _ _ h hsub slot hmem := h slot (hsub.subset hmem)
  put _ slot writtenAt nowMs hcall _ slots h := by
    subst hcall
    intro other hother
    have hsub := (trimLoop_spec maxSlots _ (evictExpiredLocked nowMs
      (putSlot (normalizeSlot slot writtenAt) slots)) (le_refl _)).1.trans List.filter_sublist
    rcases mem_putSlot (hsub.subset hother) with rfl | hold
    · exact (normalizeSlot_spec slot writtenAt).2.2.1 hstarted.1
    · exact h other hold
  restored snapshot nowMs hcall := by
    subst hcall
    intro other hother
    have hsub := (trimLoop_spec maxSlots _ (evictExpiredLocked nowMs
      (snapshot.slots.foldl (restoreSlot nowMs) [])) (le_refl _)).1.trans
        List.filter_sublist
    obtain ⟨-, -, htimed⟩ := restoreSlots_spec nowMs snapshot.slots [] List.nodup_nil (by simp)
    exact htimed hstarted (by simp [timed]) other (hsub.subset hother)

/-! ## The laws of the board -/

namespace WorkingMemoryBoard

theorem slots_store (board : WorkingMemoryBoard) (sessionId : Bytes)
    (state : Option SessionWorkingMemoryState) :
    (board.store sessionId state).slots sessionId = (state.map (·.slots)).getD [] := by
  unfold slots store
  simp only [Function.update_self]

theorem slots_unlessEmpty (state : SessionWorkingMemoryState) :
    ((unlessEmpty state).map (·.slots)).getD [] = state.slots := by
  unfold unlessEmpty
  split
  · next hempty =>
    rw [Bool.and_eq_true, Bool.and_eq_true, List.isEmpty_iff] at hempty
    exact hempty.1.1.symm
  · rfl

theorem slots_holds {property : List WorkingMemorySlot → Prop} {board : WorkingMemoryBoard}
    (h : Holds property board) (hnone : property []) (sessionId : Bytes) :
    property (board.slots sessionId) := by
  unfold slots
  cases hstate : board.sessions sessionId with
  | none => exact hnone
  | some state => exact (h sessionId state hstate).2

theorem exported_slots (board : WorkingMemoryBoard) (sessionId : Bytes) (nowMs : Int64) :
    (board.exportSnapshot sessionId nowMs).2.sessionId = sessionId ∧
      (board.exportSnapshot sessionId nowMs).2.slots =
        evictExpiredLocked nowMs (board.slots sessionId) := by
  unfold exportSnapshot slots
  cases board.sessions sessionId with
  | none => exact ⟨rfl, rfl⟩
  | some state => exact ⟨rfl, rfl⟩

/-- What was exported is put back as it was. -/
theorem restoreSlots_eq (nowMs : Int64) (rest front : List WorkingMemorySlot)
    (hdistinct : KeysDistinct (front ++ rest)) (hnamed : ∀ slot ∈ rest, slot.key ≠ [])
    (htimed : timed rest) : rest.foldl (restoreSlot nowMs) front = front ++ rest := by
  induction rest generalizing front with
  | nil => simp
  | cons slot rest ih =>
    have hnew : ∀ other ∈ front, other.key ≠ slot.key := by
      intro other hother hkey
      unfold KeysDistinct at hdistinct
      rw [List.map_append, List.nodup_append] at hdistinct
      exact hdistinct.2.2 _ (List.mem_map_of_mem hother) _ List.mem_cons_self hkey
    have hput : putSlot slot front = front ++ [slot] := by
      clear ih hdistinct
      induction front with
      | nil => rfl
      | cons first front ihFront =>
        rw [List.forall_mem_cons] at hnew
        rw [putSlot, if_neg hnew.1, ihFront hnew.2]
        rfl
    have hslot : restoreSlot nowMs front slot = front ++ [slot] := by
      unfold restoreSlot
      rw [if_neg (by simpa using hnamed slot List.mem_cons_self),
        (normalizeSlot_spec slot nowMs).2.2.2 (htimed slot List.mem_cons_self), hput]
    rw [List.foldl_cons, hslot, ih (front ++ [slot]) (by simpa using hdistinct)
      (fun other hother => hnamed other (List.mem_cons_of_mem _ hother))
      (fun other hother => htimed other (List.mem_cons_of_mem _ hother))]
    simp

end WorkingMemoryBoard

/-- The unexpired slots once the slot is put in, before any of them is trimmed. -/
def unexpiredWith (slots : List WorkingMemorySlot) (slot : WorkingMemorySlot) (nowMs : Int64) :
    List WorkingMemorySlot :=
  evictExpiredLocked nowMs (putSlot slot slots)

/-- After any calls a session has distinct keys, and no more slots than it may. What it exports it
restores, once the clock has started. A slot that is written is there unless it has expired, or
there is one slot too many and none goes before it. -/
theorem board_laws (maxSlots : UInt64) (calls : List Call) (sessionId : Bytes) :
    let board := run maxSlots calls
    KeysDistinct (board.slots sessionId) ∧
    (board.slots sessionId).length ≤ max 1 maxSlots.toNat ∧
    ((∀ call ∈ calls, call.clockStarted) → ∀ nowMs,
      ((createWorkingMemoryBoard maxSlots).restoreSnapshot
        (board.exportSnapshot sessionId nowMs).2 nowMs).slots sessionId =
          (board.exportSnapshot sessionId nowMs).2.slots) ∧
    (sessionId ≠ [] → ∀ slot writtenAt nowMs, slot.key ≠ [] →
      let written := normalizeSlot slot writtenAt
      let unexpired := unexpiredWith (board.slots sessionId) written nowMs
      let after := (board.setSlot sessionId slot writtenAt nowMs).slots sessionId
      (∀ other ∈ after, other.key = slot.key → other = written) ∧
      (written ∈ after ↔ isExpired written nowMs = false ∧
        (unexpired.length ≤ max 1 maxSlots.toNat ∨
          ∃ other ∈ unexpired, goesFirst other written = true))) := by
  intro board
  obtain ⟨hholds, hmax⟩ := run_holds maxSlots calls fun call _ => slotsSound_kept _ call
  have hsound := WorkingMemoryBoard.slots_holds hholds (slotsSound_kept _ (.clearSession [])).none
    sessionId
  refine ⟨hsound.distinct, hsound.short, ?_, ?_⟩
  · intro hstarted nowMs
    have htimed : timed (board.slots sessionId) :=
      WorkingMemoryBoard.slots_holds
        (run_holds maxSlots calls fun call hcall => timed_kept _ (hstarted call hcall)).1
        (by simp [timed]) sessionId
    obtain ⟨hid, hslots⟩ := board.exported_slots sessionId nowMs
    have hexported : SlotsSound (max 1 maxSlots.toNat) (evictExpiredLocked nowMs
        (board.slots sessionId)) := slotsSound_sublist hsound List.filter_sublist
    have hclocked : timed (evictExpiredLocked nowMs (board.slots sessionId)) :=
      fun slot hmem => htimed slot (List.filter_sublist.subset hmem)
    unfold WorkingMemoryBoard.restoreSnapshot
    rw [hid, hslots]
    split
    · next hname =>
      -- no slot is ever written for a session without a name
      have hnone : board.slots sessionId = [] := by
        unfold WorkingMemoryBoard.slots
        cases hstate : board.sessions sessionId with
        | none => rfl
        | some state => exact absurd (List.isEmpty_iff.mp hname) (hholds sessionId state hstate).1
      rw [hnone]
      rfl
    · rw [WorkingMemoryBoard.slots_store, WorkingMemoryBoard.slots_unlessEmpty,
        WorkingMemoryBoard.restoreSlots_eq nowMs (evictExpiredLocked nowMs (board.slots sessionId)) []
          hexported.distinct hexported.named hclocked, List.nil_append]
      have htwice : evictExpiredLocked nowMs (evictExpiredLocked nowMs (board.slots sessionId)) =
          evictExpiredLocked nowMs (board.slots sessionId) := by
        unfold evictExpiredLocked
        rw [List.filter_filter]
        simp
      simp only [htwice]
      exact trimSlots_short hexported.short
  · intro hname slot writtenAt nowMs hkey written unexpired after
    have hwritten : written.key = slot.key := (normalizeSlot_spec slot writtenAt).1
    have hput : KeysDistinct (putSlot written (board.slots sessionId)) :=
      keysDistinct_putSlot hsound.distinct written
    have hunexpired : KeysDistinct unexpired := keysDistinct_sublist hput List.filter_sublist
    have hafter : after = trimSlotsLocked (max 1 maxSlots.toNat) unexpired := by
      have hstate : ((board.sessions sessionId).getD {}).slots = board.slots sessionId := by
        unfold WorkingMemoryBoard.slots
        cases board.sessions sessionId with
        | none => rfl
        | some state => rfl
      change (board.setSlot sessionId slot writtenAt nowMs).slots sessionId = _
      unfold WorkingMemoryBoard.setSlot
      rw [if_neg (by simp [hname, hkey]), WorkingMemoryBoard.slots_store, hmax, hstate]
      rfl
    have hmem : written ∈ unexpired ↔ isExpired written nowMs = false := by
      change written ∈ (putSlot written (board.slots sessionId)).filter _ ↔ _
      rw [List.mem_filter, and_iff_right (self_mem_putSlot _ _), Bool.not_eq_true']
    have hsub : after.Sublist unexpired := by
      rw [hafter]
      exact (trimLoop_spec _ _ unexpired (le_refl _)).1
    constructor
    · intro other hother hsame
      have hin := (List.filter_sublist.subset (hsub.subset hother))
      exact hput.eq hin (self_mem_putSlot _ _) (hsame.trans hwritten.symm)
    · by_cases hexpired : isExpired written nowMs = false
      swap
      · refine iff_of_false (fun h => hexpired (hmem.mp (hsub.subset h))) fun h => hexpired h.1
      rw [and_iff_right hexpired, hafter]
      rcases Nat.lt_or_ge (max 1 maxSlots.toNat) unexpired.length with hlong | hshort
      · have hbound : unexpired.length ≤ (board.slots sessionId).length + 1 :=
          le_trans (List.length_filter_le _ _) (length_putSlot_le _ _)
        have hbefore : (board.slots sessionId).length ≤ max 1 maxSlots.toNat := hsound.short
        have hone : unexpired.length = max 1 maxSlots.toNat + 1 := by omega
        rw [mem_trimSlots hunexpired hone (hmem.mpr hexpired)]
        refine ⟨.inr, fun h => h.resolve_left (by omega)⟩
      · rw [trimSlots_short hshort]
        exact ⟨fun _ => .inl hshort, fun _ => hmem.mpr hexpired⟩

/-- One slot is kept, and it was updated later than the one that is written. -/
def laterSlot : WorkingMemorySlot := { key := str "a", value := str "1", updatedAt := 10 }

def earlierSlot : WorkingMemorySlot := { key := str "b", value := str "2", updatedAt := 5 }

theorem board_laws_kept :
    (run 1 [.setSlot (str "s") earlierSlot 20 20]).slots (str "s") = [earlierSlot] ∧
      laterSlot ∈ ((run 1 [.setSlot (str "s") earlierSlot 20 20]).setSlot (str "s") laterSlot 20
        20).slots (str "s") := by
  obtain ⟨-, -, -, hwritten⟩ := board_laws 1 [.setSlot (str "s") earlierSlot 20 20] (str "s")
  obtain ⟨-, hthere⟩ := hwritten (by decide) laterSlot 20 20 (by decide)
  refine ⟨by decide, hthere.mpr ?_⟩
  decide

/-- The slot that is written has not expired, and goes at once. -/
theorem board_laws_trimmed :
    ¬ ∀ slot : WorkingMemorySlot, slot.key ≠ [] → isExpired slot 20 = false →
      slot ∈ ((run 1 [.setSlot (str "s") laterSlot 20 20]).setSlot (str "s") slot 20 20).slots
        (str "s") := by
  intro h
  have hgone := h earlierSlot (by decide) (by decide)
  revert hgone
  decide

/-! ## Sessions -/

def Call.sessionId : Call → Bytes
  | .setSlot sessionId .. | .removeSlot sessionId _ | .clearSession sessionId
  | .exportSnapshot sessionId _ | .evictExpired sessionId _ => sessionId
  | .restoreSnapshot snapshot _ => snapshot.sessionId

/-- The next state of a call's session comes from that session's state alone, and the others stay. -/
theorem apply_local (maxSlots : Nat) (call : Call) :
    ∃ next : Option SessionWorkingMemoryState → Option SessionWorkingMemoryState,
      ∀ board : WorkingMemoryBoard, board.maxSlotsPerSession = maxSlots → call.apply board =
        board.store call.sessionId (next (board.sessions call.sessionId)) := by
  refine ⟨fun state => (call.apply ⟨maxSlots, fun _ => state⟩).sessions call.sessionId, ?_⟩
  rintro board rfl
  have hkept {sessionId state} (h : board.sessions sessionId = state) :
      board = board.store sessionId state := by
    rw [← h]
    exact congrArg (mk _) (Function.update_eq_self _ _).symm
  cases call <;>
    simp only [Call.apply, Call.sessionId, setSlot, removeSlot, clearSession, exportSnapshot,
      restoreSnapshot, evictExpired] <;>
    first
    | (simp [store]; done)
    | split <;> first | (simp_all [store]; done) | exact hkept (by simp_all)

/-- Two boards with the same state of a session still have it after the calls, where one of them
does without the calls of the other sessions. -/
theorem sessions_run {board alone : WorkingMemoryBoard} {sessionId : Bytes}
    (hmax : board.maxSlotsPerSession = alone.maxSlotsPerSession)
    (h : board.sessions sessionId = alone.sessions sessionId) (calls : List Call) :
    (calls.foldl Call.apply board).sessions sessionId =
      ((calls.filter (·.sessionId = sessionId)).foldl Call.apply alone).sessions sessionId := by
  induction calls generalizing board alone with
  | nil => exact h
  | cons call calls ih =>
    obtain ⟨next, hnext⟩ := apply_local alone.maxSlotsPerSession call
    rw [List.foldl_cons, hnext board hmax, List.filter_cons]
    split
    · next hown =>
      obtain rfl := of_decide_eq_true hown
      rw [List.foldl_cons, hnext alone rfl, h]
      exact ih hmax (by simp [store])
    · next hother =>
      exact ih hmax ((Function.update_of_ne (by simpa [eq_comm] using hother) _ _).trans h)

/-- Whatever the other sessions do in between, a session reads and exports what its own calls alone
would have left. -/
theorem session_isolated (maxSlots : UInt64) (calls : List Call) (sessionId : Bytes) :
    let board := run maxSlots calls
    let alone := run maxSlots (calls.filter (·.sessionId = sessionId))
    (∀ key nowMs, board.getSlot sessionId key nowMs = alone.getSlot sessionId key nowMs) ∧
    ∀ nowMs, (board.exportSnapshot sessionId nowMs).2 =
      (alone.exportSnapshot sessionId nowMs).2 := by
  intro board alone
  have hsame : board.sessions sessionId = alone.sessions sessionId := sessions_run rfl rfl calls
  constructor
  · intro key nowMs
    unfold getSlot
    rw [hsame]
  · intro nowMs
    unfold exportSnapshot
    rw [hsame]
    cases alone.sessions sessionId with
    | none => rfl
    | some state => rfl

end Dasall.Memory.Working
