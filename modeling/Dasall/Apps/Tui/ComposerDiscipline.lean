import Dasall.Apps.Tui.CodePoints
import Dasall.Apps.Tui.TuiComposer
import Dasall.Lib.Run

/-!
# Composer discipline

What every key may do is said once. The invariants of the composer, the wait after a submission and
the open editor are kept step by step, unless the busy flag is set under an open editor.
-/

open Dasall.Lib.Text Dasall.Lib.Utf8 Dasall.Lib.Run

namespace Dasall.Apps.Tui.TuiComposer

variable {composer after : TuiComposer} {event : TuiComposerKeyEvent}

/-! ## What a key does -/

def insertedByKey (event : TuiComposerKeyEvent) : List Bytes :=
  match event.key with
  | .textChanged | .insertText => [event.text]
  | _ => []

/-- The texts that a call puts into the draft. -/
def inserted : TuiComposerCall → List Bytes
  | .handleKey event => insertedByKey event
  | .applyExternalEditorResult editedText => editedText.toList
  | _ => []

/-- The cursor is on a code point boundary of the draft. -/
def WellPlaced (state : TuiComposerState) : Prop := OnCodePointBoundary state.text state.cursorOffset

/-- The draft is the entry that is recalled. -/
def Recalling (composer : TuiComposer) : Prop :=
  ∀ index, composer.historyIndex = some index →
    index < composer.history.entries.length ∧ composer.state.text = composer.history.entry index

theorem recalling_none (h : composer.historyIndex = none) : Recalling composer := by
  intro index hindex
  rw [h] at hindex
  cases hindex

/-- The composer without its search. -/
def unsearched (composer : TuiComposer) : TuiComposer :=
  { composer with
    reverseSearchIndex := none
    state := { composer.state with historyQuery := none } }

inductive Recall (composer : TuiComposer) : TuiComposer → Prop
  | same : Recall composer composer
  | unsearched : Recall composer composer.unsearched
  | entry (index : Nat) (hindex : index < composer.history.entries.length) (recallSeed : Option Bytes)
      (hseed : recallSeed = composer.recallSeed ∨ recallSeed = some composer.state.text) :
      Recall composer ({ composer.unsearched with recallSeed }.recalled index)
  | seed (text : Bytes) (htext : text = composer.recallSeed.getD []) :
      Recall composer (applyIdleMode
        { composer.unsearched with
          historyIndex := none
          recallSeed := none
          state :=
            { composer.unsearched.state with text, cursorOffset := text.length, dirty := text ≠ [] } })

/-- What a key other than Enter and Down may do. -/
inductive Effect (composer : TuiComposer) (event : TuiComposerKeyEvent) : TuiComposer → Prop
  | edit (text : Bytes) (cursor : Nat)
      (hplaced : WellPlaced composer.state → (∀ text ∈ insertedByKey event, Valid text) →
        OnCodePointBoundary text cursor) :
      Effect composer event (composer.clearNavigationState.edited text cursor)
  | move (cursor : Nat)
      (hplaced : WellPlaced composer.state → OnCodePointBoundary composer.state.text cursor) :
      Effect composer event (composer.moveCursor cursor)
  | recalls {after : TuiComposer} (hrecall : Recall composer after) : Effect composer event after
  | search : Effect composer event composer.enterReverseSearch

inductive KeyStep (composer : TuiComposer) (event : TuiComposerKeyEvent) :
    TuiComposer × TuiComposerAction → Prop
  | ignored : KeyStep composer event (composer, {})
  | submit (hmode : composer.state.mode ≠ str "external-editor")
      (hcan : composer.state.canSubmit = true)
      (hvisible : hasVisibleContent composer.state.text = true) :
      KeyStep composer event
        (composer.submitted, { type := .submitRequested, text := composer.state.text })
  | effect {after : TuiComposer} (heditor : composer.state.mode ≠ str "external-editor")
      (hsubmitting : composer.state.mode ≠ str "submitting")
      (heffect : Effect composer event after) : KeyStep composer event (after, {})

theorem applyInsertText_eq (composer : TuiComposer) (insertedText : Bytes) :
    ∃ text cursor, composer.applyInsertText insertedText = composer.edited text cursor ∧
      (WellPlaced composer.state → Valid insertedText → OnCodePointBoundary text cursor) := by
  unfold applyInsertText
  dsimp only
  split
  · refine ⟨_, _, rfl, fun hplaced hinserted => ?_⟩
    rw [hplaced.token.clamp]
    obtain ⟨before, after, htext, hbefore, hafter, hcursor⟩ := hplaced
    rw [htext, hcursor, List.take_left, List.drop_left, ← List.length_append]
    exact ⟨_, _, rfl, hbefore.append hinserted, hafter, rfl⟩
  · exact ⟨_, _, rfl, fun hplaced _ => hplaced⟩

theorem applyBackspace_eq (composer : TuiComposer) :
    ∃ text cursor, composer.applyBackspace = composer.edited text cursor ∧
      (WellPlaced composer.state → OnCodePointBoundary text cursor) := by
  unfold applyBackspace
  dsimp only
  split
  · next hinside =>
    refine ⟨_, _, rfl, fun hplaced => ?_⟩
    rw [hplaced.token.clamp] at hinside ⊢
    obtain ⟨before, character, after, htext, hbefore, -, hafter, hcursor, hprevious⟩ :=
      hplaced.previous hinside
    rw [hprevious, hcursor, htext, List.drop_left, List.append_assoc, List.take_left]
    exact ⟨_, _, rfl, hbefore, hafter, rfl⟩
  · refine ⟨_, _, rfl, fun hplaced => ?_⟩
    rw [hplaced.token.clamp]
    exact hplaced

theorem applyDelete_eq (composer : TuiComposer) :
    ∃ text cursor, composer.applyDelete = composer.edited text cursor ∧
      (WellPlaced composer.state → OnCodePointBoundary text cursor) := by
  unfold applyDelete
  dsimp only
  split
  · next hinside =>
    refine ⟨_, _, rfl, fun hplaced => ?_⟩
    rw [hplaced.token.clamp] at hinside ⊢
    obtain ⟨before, character, after, htext, hbefore, -, hafter, hcursor, hnext⟩ :=
      hplaced.next hinside
    rw [hnext, hcursor, htext, List.drop_left, List.append_assoc, List.take_left]
    exact ⟨_, _, rfl, hbefore, hafter, rfl⟩
  · refine ⟨_, _, rfl, fun hplaced => ?_⟩
    rw [hplaced.token.clamp]
    exact hplaced

theorem applyTextChange_eq (composer : TuiComposer) (text : Bytes) (cursorOffset : Option Nat) :
    ∃ cursor, composer.applyTextChange text cursorOffset = composer.edited text cursor ∧
      (Valid text → OnCodePointBoundary text cursor) := by
  unfold applyTextChange
  cases cursorOffset with
  | none => exact ⟨_, rfl, onCodePointBoundary_length⟩
  | some offset => exact ⟨_, rfl, fun hvalid => onCodePointBoundary_clamp hvalid offset⟩

theorem moveCursorLeft_placed (h : WellPlaced composer.state) :
    OnCodePointBoundary composer.state.text
      (previousTerminalTextOffset composer.state.text composer.state.cursorOffset) := by
  by_cases hinside : 0 < composer.state.cursorOffset
  · obtain ⟨before, character, after, htext, hbefore, hcharacter, hafter, -, hprevious⟩ :=
      h.previous hinside
    rw [hprevious]
    exact ⟨before, character ++ after, by rw [htext, List.append_assoc], hbefore,
      hcharacter.append hafter, rfl⟩
  · have hclamp := h.token.clamp
    unfold previousTerminalTextOffset
    dsimp only
    rw [hclamp, if_pos (by omega)]
    exact onCodePointBoundary_zero h.valid

theorem moveCursorRight_placed (h : WellPlaced composer.state) :
    OnCodePointBoundary composer.state.text
      (nextTerminalTextOffset composer.state.text composer.state.cursorOffset) := by
  by_cases hinside : composer.state.cursorOffset < composer.state.text.length
  · obtain ⟨before, character, after, htext, hbefore, hcharacter, hafter, -, hnext⟩ :=
      h.next hinside
    rw [hnext]
    exact ⟨before ++ character, after, htext, hbefore.append hcharacter, hafter, rfl⟩
  · have hclamp := h.token.clamp
    unfold nextTerminalTextOffset
    dsimp only
    rw [hclamp, if_pos (by omega)]
    exact onCodePointBoundary_length h.valid

theorem recallHistory_recall (hrecalling : Recalling composer) (direction : Int) :
    Recall composer (composer.recallHistory direction) := by
  unfold recallHistory
  split
  · exact .same
  · next hentries =>
    have hlength := List.length_pos_iff.mpr hentries
    dsimp only
    split
    · unfold recallOlder
      cases hindex : composer.historyIndex with
      | none =>
        simp only [TuiInputHistory.older, if_neg hentries, if_true]
        exact .entry _ (by omega) (some composer.state.text) (Or.inr rfl)
      | some index =>
        have hbelow := (hrecalling index hindex).1
        simp only [TuiInputHistory.older, if_neg hentries, reduceCtorEq, if_false]
        by_cases hzero : index = 0
        · simp only [if_pos hzero]
          exact .entry index hbelow composer.recallSeed (Or.inl rfl)
        · simp only [if_neg hzero]
          exact .entry (index - 1) (by omega) composer.recallSeed (Or.inl rfl)
    · unfold recallNewer
      split
      · exact .unsearched
      · next index hindex =>
        dsimp only [TuiInputHistory.newer]
        by_cases hlast : composer.history.entries.length ≤ index + 1
        · simp only [if_pos hlast]
          exact .seed _ rfl
        · simp only [if_neg hlast]
          exact .entry (index + 1) (by omega) composer.recallSeed (Or.inl rfl)

theorem pressed_effect (hrecalling : Recalling composer) (event : TuiComposerKeyEvent) :
    Effect composer event (composer.pressed event) := by
  have hsame : Effect composer event composer := .recalls .same
  have hinsert : ∀ text, (∀ other, other = text → (other = [10] ∨ other ∈ insertedByKey event)) →
      Effect composer event (composer.clearNavigationState.applyInsertText text) := by
    intro text htext
    obtain ⟨draft, cursor, heq, hplaced⟩ := applyInsertText_eq composer.clearNavigationState text
    rw [heq]
    refine .edit draft cursor fun hbefore hvalid => hplaced hbefore ?_
    rcases htext text rfl with rfl | hmem
    · exact valid_of_all [10] rfl
    · exact hvalid text hmem
  unfold pressed
  cases hkey : event.key with
  | textChanged =>
    obtain ⟨cursor, heq, hplaced⟩ :=
      applyTextChange_eq composer.clearNavigationState event.text event.cursorOffset
    dsimp only
    rw [heq]
    exact .edit _ cursor fun _ hvalid => hplaced (hvalid event.text (by simp [insertedByKey, hkey]))
  | insertText =>
    refine hinsert event.text ?_
    rintro other rfl
    exact Or.inr (by simp [insertedByKey, hkey])
  | backspace =>
    obtain ⟨draft, cursor, heq, hplaced⟩ := applyBackspace_eq composer.clearNavigationState
    dsimp only
    rw [heq]
    exact .edit draft cursor fun hbefore _ => hplaced hbefore
  | delete =>
    obtain ⟨draft, cursor, heq, hplaced⟩ := applyDelete_eq composer.clearNavigationState
    dsimp only
    rw [heq]
    exact .edit draft cursor fun hbefore _ => hplaced hbefore
  | left => exact .move _ moveCursorLeft_placed
  | right => exact .move _ moveCursorRight_placed
  | home => exact .move _ fun hbefore => onCodePointBoundary_zero hbefore.valid
  | endKey => exact .move _ fun hbefore => onCodePointBoundary_length hbefore.valid
  | altEnter => exact hinsert [10] fun _ hother => Or.inl hother
  | ctrlJ => exact hinsert [10] fun _ hother => Or.inl hother
  | up =>
    dsimp only
    split
    · exact .recalls (recallHistory_recall hrecalling (-1))
    · exact hsame
  | ctrlR => exact .search
  | enter => exact hsame
  | down => exact hsame

theorem handleKey_step (hrecalling : Recalling composer) (event : TuiComposerKeyEvent) :
    KeyStep composer event (composer.handleKey event) := by
  have hpressed := pressed_effect hrecalling event
  have hdown := recallHistory_recall hrecalling 1
  unfold handleKey
  split
  · exact .ignored
  · next heditor =>
    have hother : KeyStep composer event
        (if composer.state.mode = str "submitting" then composer else composer.pressed event, {}) := by
      split
      · exact .ignored
      · next hsubmitting => exact .effect heditor hsubmitting hpressed
    cases event.key with
    | enter =>
      dsimp only
      split
      · exact .ignored
      · next hopen =>
        rw [not_or, not_or, Bool.not_eq_false, Bool.not_eq_false] at hopen
        exact .submit heditor hopen.2.1 hopen.2.2
    | down =>
      dsimp only
      split
      · next hmode =>
        refine .effect heditor (fun hsubmitting => ?_) (.recalls hdown)
        rw [hmode] at hsubmitting
        exact absurd hsubmitting (by decide)
      · exact .ignored
    | _ => exact hother

/-! ## What a key leaves as it was -/

structure Kept (before after : TuiComposer) : Prop where
  busy : after.busy = before.busy
  checkpoint : after.externalEditorCheckpoint = before.externalEditorCheckpoint
  history : after.history = before.history
  submit : after.state.canSubmit = before.state.canSubmit ∨ after.state.canSubmit = !before.busy

theorem Recall.kept (h : Recall composer after) : Kept composer after := by
  cases h with
  | same => exact ⟨rfl, rfl, rfl, Or.inl rfl⟩
  | unsearched => exact ⟨rfl, rfl, rfl, Or.inl rfl⟩
  | entry index hindex recallSeed hseed => exact ⟨rfl, rfl, rfl, Or.inr rfl⟩
  | seed text htext => exact ⟨rfl, rfl, rfl, Or.inl rfl⟩

theorem Effect.kept (h : Effect composer event after) : Kept composer after := by
  cases h with
  | edit text cursor hplaced => exact ⟨rfl, rfl, rfl, Or.inr rfl⟩
  | move cursor hplaced => exact ⟨rfl, rfl, rfl, Or.inl rfl⟩
  | recalls hrecall => exact hrecall.kept
  | search =>
    unfold enterReverseSearch
    split
    · exact ⟨rfl, rfl, rfl, Or.inl rfl⟩
    · dsimp only
      split
      · exact ⟨rfl, rfl, rfl, Or.inr rfl⟩
      · exact ⟨rfl, rfl, rfl, Or.inr rfl⟩

/-- An open editor holds the keys off. -/
structure Ordered (composer : TuiComposer) : Prop where
  recalling : Recalling composer
  sealed : ∀ checkpoint, composer.externalEditorCheckpoint = some checkpoint →
    composer.state.mode = str "external-editor" ∧ composer.historyIndex = none

theorem Recall.recalling (h : Recall composer after) (hbefore : Recalling composer) : Recalling after := by
  cases h with
  | same => exact hbefore
  | unsearched => exact hbefore
  | entry index hindex recallSeed hseed =>
    rintro _ ⟨⟩
    exact ⟨hindex, rfl⟩
  | seed text htext => exact recalling_none rfl

theorem Effect.recalling (h : Effect composer event after) (hbefore : Recalling composer) : Recalling after := by
  cases h with
  | edit text cursor hplaced => exact recalling_none rfl
  | move cursor hplaced => exact hbefore
  | recalls hrecall => exact hrecall.recalling hbefore
  | search =>
    unfold enterReverseSearch
    split
    · exact hbefore
    · dsimp only
      split
      · exact recalling_none rfl
      · exact recalling_none rfl

/-! ## Steps -/

/-- No busy flag is set under an open editor. -/
def Undisturbed (composer : TuiComposer) (call : TuiComposerCall) : Prop :=
  composer.externalEditorCheckpoint.isNone = true ∨ ∀ busy, call ≠ .setBusy busy

instance (composer : TuiComposer) (call : TuiComposerCall) : Decidable (Undisturbed composer call) :=
  inferInstanceAs (Decidable (_ ∨ _))

/-- A prompt was submitted, and the composer has not become free since. -/
def Awaiting (composer : TuiComposer) : Prop :=
  composer.state.canSubmit = false ∧
    (composer.state.mode = str "submitting" ∨ composer.busy = true)

structure EditorOpen (draft : Bytes) (composer : TuiComposer) : Prop where
  checkpoint : composer.externalEditorCheckpoint.isNone = false
  mode : composer.state.mode = str "external-editor"
  text : composer.state.text = draft

variable {call : TuiComposerCall} {draft : Bytes}

theorem Ordered.perform (h : Ordered composer) (hcall : Undisturbed composer call) :
    Ordered (composer.perform call).1 := by
  cases call with
  | handleKey event =>
    have hstep := handleKey_step h.recalling event
    rw [perform]
    generalize composer.handleKey event = result at hstep
    cases hstep with
    | ignored => exact h
    | submit hmode hcan hvisible =>
      exact ⟨recalling_none rfl,
        fun checkpoint hopen => absurd (h.sealed checkpoint hopen).1 hmode⟩
    | effect heditor hsubmitting heffect =>
      refine ⟨heffect.recalling h.recalling, fun checkpoint hopen => ?_⟩
      rw [heffect.kept.checkpoint] at hopen
      exact absurd (h.sealed checkpoint hopen).1 heditor
  | setBusy busy =>
    rcases hcall with hclosed | hother
    · rw [Option.isNone_iff_eq_none] at hclosed
      have hnone : (composer.setBusy busy).externalEditorCheckpoint = none := by
        cases busy with
        | true => exact hclosed
        | false => exact hclosed
      refine ⟨?_, fun checkpoint hopen => ?_⟩
      · cases busy with
        | true => exact recalling_none rfl
        | false => exact h.recalling
      · rw [perform, hnone] at hopen
        cases hopen
    · exact absurd rfl (hother busy)
  | openExternalEditor =>
    rw [perform, openExternalEditor]
    split
    · exact h
    · exact ⟨recalling_none rfl, fun _ _ => ⟨rfl, rfl⟩⟩
  | applyExternalEditorResult editedText =>
    rw [perform, applyExternalEditorResult]
    split
    · exact h
    · next checkpoint hopen =>
      have hindex := (h.sealed checkpoint hopen).2
      cases editedText with
      | none => exact ⟨recalling_none hindex, nofun⟩
      | some text => exact ⟨recalling_none rfl, nofun⟩

/-- The action of a call that asks for nothing. -/
theorem no_submit : ({} : TuiComposerAction).type ≠ .submitRequested := by
  decide

theorem Awaiting.perform (h : Awaiting composer) (hordered : Ordered composer)
    (hcall : call ≠ .setBusy false) :
    Awaiting (composer.perform call).1 ∧ (composer.perform call).2.type ≠ .submitRequested := by
  obtain ⟨hcan, hwait⟩ := h
  cases call with
  | handleKey event =>
    have hstep := handleKey_step hordered.recalling event
    rw [perform]
    generalize composer.handleKey event = result at hstep
    cases hstep with
    | ignored => exact ⟨⟨hcan, hwait⟩, no_submit⟩
    | submit hmode hcan' hvisible =>
      rw [hcan] at hcan'
      cases hcan'
    | effect heditor hsubmitting heffect =>
      have hbusy := hwait.resolve_left hsubmitting
      refine ⟨⟨?_, Or.inr (heffect.kept.busy.trans hbusy)⟩, no_submit⟩
      rcases heffect.kept.submit with hsame | hfree
      · exact hsame.trans hcan
      · rw [hfree, hbusy]
        rfl
  | setBusy busy =>
    cases busy with
    | true => exact ⟨⟨rfl, Or.inr rfl⟩, no_submit⟩
    | false => exact absurd rfl hcall
  | openExternalEditor =>
    rw [perform, openExternalEditor]
    split
    · exact ⟨⟨hcan, hwait⟩, no_submit⟩
    · next hopen =>
      rw [not_or] at hopen
      exact ⟨⟨rfl, Or.inr (hwait.resolve_left hopen.1)⟩, nofun⟩
  | applyExternalEditorResult editedText =>
    rw [perform, applyExternalEditorResult]
    split
    · exact ⟨⟨hcan, hwait⟩, no_submit⟩
    · next checkpoint hopen =>
      have hmode := (hordered.sealed checkpoint hopen).1
      have hbusy : composer.busy = true := by
        refine hwait.resolve_left fun hsubmitting => ?_
        rw [hmode] at hsubmitting
        exact absurd hsubmitting (by decide)
      have hfree : (!composer.busy) = false := by
        rw [hbusy]
        rfl
      cases editedText with
      | none => exact ⟨⟨hfree, Or.inr hbusy⟩, no_submit⟩
      | some text => exact ⟨⟨hfree, Or.inr hbusy⟩, no_submit⟩

/-- Only the result of the editor ends what an open editor holds off. -/
theorem EditorOpen.perform (h : EditorOpen draft composer) (hcall : Undisturbed composer call)
    (hresult : ∀ editedText, call ≠ .applyExternalEditorResult editedText) :
    composer.perform call = (composer, {}) := by
  cases call with
  | handleKey event => exact if_pos h.mode
  | setBusy busy =>
    rcases hcall with hclosed | hother
    · rw [h.checkpoint] at hclosed
      cases hclosed
    · exact absurd rfl (hother busy)
  | openExternalEditor => exact if_pos (Or.inr h.mode)
  | applyExternalEditorResult editedText => exact absurd rfl (hresult editedText)

/-- A submission starts the wait. -/
theorem submit_spec (hsubmit : (composer.perform call).2.type = .submitRequested)
    (hordered : Ordered composer) :
    Awaiting (composer.perform call).1 ∧ (composer.perform call).2.text = composer.state.text ∧
      hasVisibleContent composer.state.text = true := by
  cases call with
  | handleKey event =>
    have hstep := handleKey_step hordered.recalling event
    rw [perform] at hsubmit ⊢
    generalize composer.handleKey event = result at hstep hsubmit
    cases hstep with
    | ignored => cases hsubmit
    | submit hmode hcan hvisible => exact ⟨⟨rfl, Or.inl rfl⟩, rfl, hvisible⟩
    | effect heditor hsubmitting heffect => cases hsubmit
  | setBusy busy => cases hsubmit
  | openExternalEditor =>
    rw [perform, openExternalEditor] at hsubmit
    split at hsubmit
    · cases hsubmit
    · cases hsubmit
  | applyExternalEditorResult editedText => cases hsubmit

theorem open_spec
    (hopen : (composer.perform .openExternalEditor).2.type = .openExternalEditorRequested) :
    EditorOpen composer.state.text (composer.perform .openExternalEditor).1 ∧
      (composer.perform .openExternalEditor).2.text = composer.state.text := by
  rw [perform, openExternalEditor] at hopen ⊢
  split at hopen
  · cases hopen
  · next hidle =>
    rw [if_neg hidle]
    exact ⟨⟨rfl, rfl, rfl⟩, rfl⟩

/-! ## UTF-8 -/

structure Utf8 (composer : TuiComposer) : Prop where
  draft : WellPlaced composer.state
  entries : ∀ entry ∈ composer.history.entries, Valid entry
  seed : ∀ seed, composer.recallSeed = some seed → Valid seed
  checkpoint : ∀ checkpoint, composer.externalEditorCheckpoint = some checkpoint →
    WellPlaced checkpoint

theorem Utf8.entry (h : Utf8 composer) (index : Nat) : Valid (composer.history.entry index) := by
  unfold TuiInputHistory.entry
  cases hentry : composer.history.entries[index]? with
  | none => exact valid_nil
  | some entry => exact h.entries entry (List.mem_of_getElem? hentry)

theorem Recall.utf8 (hrecall : Recall composer after) (h : Utf8 composer) : Utf8 after := by
  cases hrecall with
  | same => exact h
  | unsearched => exact ⟨h.draft, h.entries, h.seed, h.checkpoint⟩
  | entry index hindex recallSeed hseed =>
    refine ⟨onCodePointBoundary_length (h.entry index), h.entries, fun seed hsome => ?_, h.checkpoint⟩
    rcases hseed with rfl | rfl
    · exact h.seed seed hsome
    · rw [← Option.some.inj hsome]
      exact h.draft.valid
  | seed text htext =>
    refine ⟨onCodePointBoundary_length ?_, h.entries, nofun, h.checkpoint⟩
    rw [htext]
    cases hseed : composer.recallSeed with
    | none => exact valid_nil
    | some seed => exact h.seed seed hseed

theorem Effect.utf8 (heffect : Effect composer event after) (h : Utf8 composer)
    (hvalid : ∀ text ∈ insertedByKey event, Valid text) : Utf8 after := by
  cases heffect with
  | edit text cursor hplaced =>
    exact ⟨hplaced h.draft hvalid, h.entries, nofun, h.checkpoint⟩
  | move cursor hplaced => exact ⟨hplaced h.draft, h.entries, h.seed, h.checkpoint⟩
  | recalls hrecall => exact hrecall.utf8 h
  | search =>
    unfold enterReverseSearch
    split
    · exact h
    · dsimp only
      split
      · exact ⟨h.draft, h.entries, nofun, h.checkpoint⟩
      · next index hindex =>
        exact ⟨onCodePointBoundary_length (h.entry index), h.entries, nofun, h.checkpoint⟩

theorem Utf8.perform (h : Utf8 composer) (hordered : Ordered composer)
    (hvalid : ∀ text ∈ inserted call, Valid text) : Utf8 (composer.perform call).1 := by
  cases call with
  | handleKey event =>
    have hstep := handleKey_step hordered.recalling event
    rw [perform]
    generalize composer.handleKey event = result at hstep
    cases hstep with
    | ignored => exact h
    | submit hmode hcan hvisible =>
      refine ⟨onCodePointBoundary_zero valid_nil, fun entry hentry => ?_,
        nofun, h.checkpoint⟩
      change entry ∈ (composer.history.record composer.state.text).entries at hentry
      rw [TuiInputHistory.record] at hentry
      split at hentry
      · exact h.entries entry hentry
      · rcases List.mem_append.mp hentry with hold | hnew
        · exact h.entries entry hold
        · rw [List.mem_singleton.mp hnew]
          exact h.draft.valid
    | effect heditor hsubmitting heffect => exact heffect.utf8 h hvalid
  | setBusy busy =>
    cases busy with
    | true => exact ⟨h.draft, h.entries, nofun, h.checkpoint⟩
    | false => exact ⟨h.draft, h.entries, h.seed, h.checkpoint⟩
  | openExternalEditor =>
    rw [perform, openExternalEditor]
    split
    · exact h
    · refine ⟨h.draft, h.entries, nofun, fun checkpoint hopen => ?_⟩
      rw [← Option.some.inj hopen]
      exact h.draft
  | applyExternalEditorResult editedText =>
    rw [perform, applyExternalEditorResult]
    split
    · exact h
    · next checkpoint hopen =>
      cases editedText with
      | none =>
        exact ⟨h.checkpoint checkpoint hopen, h.entries, h.seed, nofun⟩
      | some text =>
        refine ⟨onCodePointBoundary_length (hvalid text ?_), h.entries,
          nofun, nofun⟩
        exact List.mem_singleton_self text

/-! ## Recalling and coming back -/

/-- How many older entries there are. -/
def position (composer : TuiComposer) : Nat :=
  composer.historyIndex.getD composer.history.entries.length

structure Holding (history : TuiInputHistory) (seed : Option Bytes) (index : Nat)
    (composer : TuiComposer) : Prop where
  past : composer.history = history
  held : composer.historyIndex = some index
  remembered : composer.recallSeed = seed
  mode : composer.state.mode = str "history-recall"
  text : composer.state.text = history.entry index

variable {history : TuiInputHistory} {seed : Option Bytes} {index : Nat}

theorem recallHistory_first (hindex : composer.historyIndex = none)
    (hentries : composer.history.entries ≠ []) :
    Holding composer.history (some composer.state.text) (composer.history.entries.length - 1)
      (composer.recallHistory (-1)) := by
  have hrecall : composer.recallHistory (-1) =
      ({ composer.unsearched with recallSeed := some composer.state.text }.recalled
        (composer.history.entries.length - 1)) := by
    simp [recallHistory, recallOlder, hentries, hindex, TuiInputHistory.older, recalled, unsearched]
  rw [hrecall]
  exact ⟨rfl, rfl, rfl, rfl, rfl⟩

theorem recallHistory_older (hindex : composer.historyIndex = some (index + 1))
    (hentries : composer.history.entries ≠ []) :
    Holding composer.history composer.recallSeed index (composer.recallHistory (-1)) := by
  have hrecall : composer.recallHistory (-1) = composer.unsearched.recalled index := by
    simp [recallHistory, recallOlder, hentries, hindex, TuiInputHistory.older, recalled, unsearched]
  rw [hrecall]
  exact ⟨rfl, rfl, rfl, rfl, rfl⟩

theorem Holding.newer (h : Holding history seed index composer)
    (hbelow : index + 1 < history.entries.length) :
    Holding history seed (index + 1) (composer.recallHistory 1) := by
  obtain ⟨rfl, hindex, rfl, -, -⟩ := h
  have hentries : composer.history.entries ≠ [] := List.ne_nil_of_length_pos (by omega)
  have hrecall : composer.recallHistory 1 = composer.unsearched.recalled (index + 1) := by
    simp [recallHistory, recallNewer, hentries, hindex, TuiInputHistory.newer, unsearched,
      Nat.not_le.mpr hbelow]
  rw [hrecall]
  exact ⟨rfl, rfl, rfl, rfl, rfl⟩

theorem Holding.back (h : Holding history (some draft) index composer)
    (hlast : index + 1 = history.entries.length) : (composer.recallHistory 1).state.text = draft := by
  obtain ⟨rfl, hindex, hseed, -, -⟩ := h
  have hentries : composer.history.entries ≠ [] := List.ne_nil_of_length_pos (by omega)
  simp [recallHistory, recallNewer, hentries, hindex, TuiInputHistory.newer, hlast, hseed,
    applyIdleMode]

/-- Keys that recall wherever an entry is held. -/
structure Recalls (older newer : TuiComposer → TuiComposer) : Prop where
  older : ∀ composer, composer.state.mode = str "history-recall" →
    older composer = composer.recallHistory (-1)
  newer : ∀ composer, composer.state.mode = str "history-recall" →
    newer composer = composer.recallHistory 1

variable {older newer : TuiComposer → TuiComposer}

theorem Recalls.olderEntries (hkeys : Recalls older newer) (n : Nat)
    (h : Holding history seed (index + n) composer) (hentries : history.entries ≠ []) :
    Holding history seed index (older^[n] composer) := by
  induction n generalizing composer with
  | zero => exact h
  | succ n ih =>
    rw [Function.iterate_succ_apply]
    refine ih ?_
    obtain ⟨rfl, hindex, rfl, hmode, -⟩ := h
    rw [hkeys.older composer hmode]
    exact recallHistory_older hindex hentries

theorem Recalls.newerEntries (hkeys : Recalls older newer) (n : Nat)
    (h : Holding history seed index composer) (hbelow : index + n < history.entries.length) :
    Holding history seed (index + n) (newer^[n] composer) := by
  induction n with
  | zero => exact h
  | succ n ih =>
    have hbefore := ih (by omega)
    rw [Function.iterate_succ_apply', hkeys.newer _ hbefore.mode]
    exact hbefore.newer hbelow

/-- As many newer entries as there were older ones bring the draft back. -/
theorem Recalls.restores (hkeys : Recalls older newer) (hrecalling : Recalling composer)
    (hfirst : older composer = composer.recallHistory (-1)) {n : Nat} (hn : n ≤ composer.position) :
    (newer^[n] (older^[n] composer)).state.text = composer.state.text := by
  cases n with
  | zero => rfl
  | succ n =>
    rw [Function.iterate_succ_apply older, hfirst]
    unfold position at hn
    cases hindex : composer.historyIndex with
    | none =>
      rw [hindex, Option.getD_none] at hn
      have hentries : composer.history.entries ≠ [] := List.ne_nil_of_length_pos (by omega)
      have hheld := recallHistory_first hindex hentries
      have hsplit : composer.history.entries.length - 1 =
          composer.history.entries.length - 1 - n + n := by omega
      rw [hsplit] at hheld
      have hback := hkeys.newerEntries n (hkeys.olderEntries n hheld hentries) (by omega)
      rw [Function.iterate_succ_apply', hkeys.newer _ hback.mode]
      exact hback.back (by omega)
    | some current =>
      rw [hindex, Option.getD_some] at hn
      obtain ⟨hbelow, htext⟩ := hrecalling current hindex
      have hentries : composer.history.entries ≠ [] := List.ne_nil_of_length_pos (by omega)
      have hsplit : current = current - (n + 1) + n + 1 := by omega
      rw [hsplit] at hindex
      have hheld := recallHistory_older hindex hentries
      have hback := hkeys.newerEntries (n + 1) (hkeys.olderEntries n hheld hentries) (by omega)
      rw [hback.text, htext, show current - (n + 1) + (n + 1) = current by omega]

theorem recalls_recallHistory :
    Recalls (fun composer => composer.recallHistory (-1)) fun composer => composer.recallHistory 1 :=
  ⟨fun _ _ => rfl, fun _ _ => rfl⟩

theorem recalls_keys {up down : TuiComposerKeyEvent} (hup : up.key = .up) (hdown : down.key = .down) :
    Recalls (fun composer => (composer.handleKey up).1) fun composer => (composer.handleKey down).1 := by
  have hother : str "history-recall" ≠ str "external-editor" ∧
      str "history-recall" ≠ str "submitting" := by decide
  constructor
  · intro composer hmode
    simp [handleKey, pressed, canRecallFromKey, hother, hup, hmode]
  · intro composer hmode
    simp [handleKey, hother, hdown, hmode]

/-- The keys bring the draft back too, also where the mode holds them off. -/
theorem keys_restore (hrecalling : Recalling composer) {up down : TuiComposerKeyEvent}
    (hup : up.key = .up) (hdown : down.key = .down) (hcan : composer.canRecallFromKey up = true)
    {n : Nat} (hn : n ≤ composer.position) :
    ((fun composer => (composer.handleKey down).1)^[n]
      ((fun composer => (composer.handleKey up).1)^[n] composer)).state.text = composer.state.text := by
  by_cases hheld : composer.state.mode = str "external-editor" ∨ composer.state.mode = str "submitting"
  · have hsame : ∀ event : TuiComposerKeyEvent, (event.key = .up ∨ event.key = .down) →
        (composer.handleKey event).1 = composer := by
      intro event hkey
      rcases hheld with heditor | hsubmitting
      · simp [handleKey, heditor]
      · have hmode : str "submitting" ≠ str "external-editor" ∧
            str "submitting" ≠ str "history-recall" := by decide
        rcases hkey with hkey | hkey
        · simp [handleKey, hkey, hsubmitting]
        · simp [handleKey, hkey, hsubmitting, hmode]
    have hfixed : ∀ event : TuiComposerKeyEvent, (event.key = .up ∨ event.key = .down) →
        (fun composer => (composer.handleKey event).1)^[n] composer = composer :=
      fun event hkey => Function.iterate_fixed (hsame event hkey) n
    rw [hfixed up (Or.inl hup), hfixed down (Or.inr hdown)]
  · rw [not_or] at hheld
    refine (recalls_keys hup hdown).restores hrecalling ?_ hn
    simp [handleKey, pressed, hheld.1, hheld.2, hup, hcan]

/-! ## Runs -/

/-- The composer behind the calls. -/
def reached (start : TuiComposer) (calls : List TuiComposerCall) : TuiComposer :=
  (run perform start calls).1

variable (start : TuiComposer) (calls : List TuiComposerCall)

/-- What is promised of every sequence of calls. -/
structure Disciplined : Prop where
  once : ∀ before submit middle rest, calls = before ++ submit :: middle ++ rest →
    ((reached start before).perform submit).2.type = .submitRequested →
    (∀ call ∈ middle, call ≠ .setBusy false) → ∀ call,
      ((reached start (before ++ submit :: middle)).perform call).2.type ≠ .submitRequested
  submitted : ∀ before rest, calls = before ++ rest → ∀ call,
    ((reached start before).perform call).2.type = .submitRequested →
      ((reached start before).perform call).2.text = (reached start before).state.text ∧
        hasVisibleContent (reached start before).state.text = true
  sealed : ∀ before middle rest, calls = before ++ .openExternalEditor :: middle ++ rest →
    ((reached start before).perform .openExternalEditor).2.type = .openExternalEditorRequested →
    (∀ call ∈ middle, ∀ editedText, call ≠ .applyExternalEditorResult editedText) →
      (reached start (before ++ .openExternalEditor :: middle)).state.text =
        ((reached start before).perform .openExternalEditor).2.text ∧
      ∀ event, ((reached start (before ++ .openExternalEditor :: middle)).handleKey event).1.state.text =
          (reached start (before ++ .openExternalEditor :: middle)).state.text ∧
        ((reached start (before ++ .openExternalEditor :: middle)).handleKey event).2.type ≠
          .submitRequested
  restored : ∀ before rest, calls = before ++ rest → ∀ n ≤ (reached start before).position,
    ((fun composer => composer.recallHistory 1)^[n]
        ((fun composer => composer.recallHistory (-1))^[n] (reached start before))).state.text =
      (reached start before).state.text ∧
    ∀ up down : TuiComposerKeyEvent, up.key = .up → down.key = .down →
      (reached start before).canRecallFromKey up = true →
      ((fun composer => (composer.handleKey down).1)^[n]
          ((fun composer => (composer.handleKey up).1)^[n] (reached start before))).state.text =
        (reached start before).state.text
  utf8 : Valid start.state.text → ∀ before rest, calls = before ++ rest →
    (∀ call ∈ before, ∀ text ∈ inserted call, Valid text) →
      OnCodePointBoundary (reached start before).state.text (reached start before).state.cursorOffset

theorem reached_append (before after : List TuiComposerCall) :
    reached start (before ++ after) = reached (reached start before) after := by
  unfold reached
  rw [run_append]

theorem ordered_make (state : TuiComposerState) : Ordered (make state) :=
  ⟨recalling_none rfl, nofun⟩

variable {start calls}

theorem ordered_reached (h : Ordered start) (hsteps : AllSteps perform Undisturbed start calls) :
    Ordered (reached start calls) :=
  invariant_of_allSteps perform Undisturbed Ordered (fun _ _ hbefore hcall => hbefore.perform hcall)
    start calls h hsteps

theorem awaiting_reached (h : Awaiting start) (hordered : Ordered start)
    (hsteps : AllSteps perform Undisturbed start calls) (hcalls : ∀ call ∈ calls, call ≠ .setBusy false) :
    Awaiting (reached start calls) := by
  have hboth := invariant_of_allSteps perform
    (fun composer call => Undisturbed composer call ∧ call ≠ .setBusy false)
    (fun composer => Ordered composer ∧ Awaiting composer)
    (fun composer call hbefore hcall => ⟨hbefore.1.perform hcall.1,
      (hbefore.2.perform hbefore.1 hcall.2).1⟩)
    start calls ⟨hordered, h⟩
    ((allSteps_and perform ..).mpr ⟨hsteps, allSteps_of_forall perform _ _ _ hcalls⟩)
  exact hboth.2

theorem editorOpen_reached (h : EditorOpen draft start)
    (hsteps : AllSteps perform Undisturbed start calls)
    (hcalls : ∀ call ∈ calls, ∀ editedText, call ≠ .applyExternalEditorResult editedText) :
    EditorOpen draft (reached start calls) :=
  invariant_of_allSteps perform
    (fun composer call => Undisturbed composer call ∧
      ∀ editedText, call ≠ .applyExternalEditorResult editedText)
    (EditorOpen draft)
    (fun composer call hbefore hcall => by rwa [hbefore.perform hcall.1 hcall.2])
    start calls h
    ((allSteps_and perform _ _ _ _).mpr ⟨hsteps, allSteps_of_forall perform _ _ _ hcalls⟩)

theorem utf8_reached (h : Utf8 start) (hordered : Ordered start)
    (hsteps : AllSteps perform Undisturbed start calls)
    (hvalid : ∀ call ∈ calls, ∀ text ∈ inserted call, Valid text) : Utf8 (reached start calls) := by
  have hboth := invariant_of_allSteps perform
    (fun composer call => Undisturbed composer call ∧ ∀ text ∈ inserted call, Valid text)
    (fun composer => Ordered composer ∧ Utf8 composer)
    (fun composer call hbefore hcall => ⟨hbefore.1.perform hcall.1,
      hbefore.2.perform hbefore.1 hcall.2⟩)
    start calls ⟨hordered, h⟩
    ((allSteps_and perform ..).mpr ⟨hsteps, allSteps_of_forall perform _ _ _ hvalid⟩)
  exact hboth.2

/-- A run in which no busy flag is set under an open editor is disciplined. -/
theorem disciplined_of_undisturbed (state : TuiComposerState) (calls : List TuiComposerCall)
    (h : AllSteps perform Undisturbed (make state) calls) : Disciplined (make state) calls := by
  have hbefore : ∀ before rest, calls = before ++ rest →
      AllSteps perform Undisturbed (make state) before ∧
        AllSteps perform Undisturbed (reached (make state) before) rest := by
    rintro before rest rfl
    exact (allSteps_append perform Undisturbed _ _ _).mp h
  have hordered : ∀ before rest, calls = before ++ rest → Ordered (reached (make state) before) :=
    fun before rest hsplit => ordered_reached (ordered_make state) (hbefore before rest hsplit).1
  constructor
  · intro before submit middle rest hsplit hsubmit hmiddle call
    have hcalls := (hbefore _ _ hsplit).1
    rw [allSteps_append] at hcalls
    have hfirst := hordered before (submit :: (middle ++ rest)) (by simp [hsplit])
    have hwait := (submit_spec hsubmit hfirst).1
    have hnext := hfirst.perform hcalls.2.1
    have hawaiting := awaiting_reached hwait hnext hcalls.2.2 hmiddle
    have hreached : reached (make state) (before ++ submit :: middle) =
        reached ((reached (make state) before).perform submit).1 middle := reached_append _ _ _
    rw [hreached]
    by_cases hfree : call = .setBusy false
    · rw [hfree]
      exact no_submit
    · exact (hawaiting.perform (ordered_reached hnext hcalls.2.2) hfree).2
  · intro before rest hsplit call hsubmit
    exact (submit_spec hsubmit (hordered before rest hsplit)).2
  · intro before middle rest hsplit hopened hmiddle
    have hcalls := (hbefore _ _ hsplit).1
    rw [allSteps_append] at hcalls
    obtain ⟨hopen, htext⟩ := open_spec hopened
    have hstill := editorOpen_reached hopen hcalls.2.2 hmiddle
    have hreached : reached (make state) (before ++ .openExternalEditor :: middle) =
        reached ((reached (make state) before).perform .openExternalEditor).1 middle :=
      reached_append _ _ _
    rw [hreached, htext]
    refine ⟨hstill.text, fun event => ?_⟩
    have hignored : (reached ((reached (make state) before).perform .openExternalEditor).1 middle).handleKey
        event = (_, {}) := if_pos hstill.mode
    rw [hignored]
    exact ⟨rfl, no_submit⟩
  · intro before rest hsplit n hn
    have hrecalling := (hordered before rest hsplit).recalling
    exact ⟨recalls_recallHistory.restores hrecalling rfl hn,
      fun up down hup hdown hcan => keys_restore hrecalling hup hdown hcan hn⟩
  · intro hvalid before rest hsplit hinserted
    have hstart : Utf8 (make state) :=
      ⟨onCodePointBoundary_clamp hvalid _, (fun _ hentry => by cases hentry),
        (fun _ hseed => by cases hseed), (fun _ hopen => by cases hopen)⟩
    exact (utf8_reached hstart (ordered_make state) (hbefore before rest hsplit).1 hinserted).draft

def insertKey (text : Bytes) : TuiComposerCall := .handleKey { key := .insertText, text }

def enterKey : TuiComposerCall := .handleKey { key := .enter }

theorem disciplined_editing : Disciplined (make {})
    [insertKey (str "a"), .openExternalEditor, .applyExternalEditorResult (some (str "ab")), enterKey,
      .setBusy true, insertKey (str "c"), .setBusy false] :=
  disciplined_of_undisturbed {} _ (by decide)

/-- What is typed after the flag was set under the open editor goes into the draft. -/
theorem not_disciplined_busy : ¬ Disciplined (make {})
    [insertKey (str "a"), .openExternalEditor, .setBusy false, insertKey (str "b")] := by
  intro h
  have hsealed := h.sealed [insertKey (str "a")] [.setBusy false, insertKey (str "b")] [] rfl
    (by decide) (by simp [insertKey])
  exact absurd hsealed.1 (by decide)

end Dasall.Apps.Tui.TuiComposer
