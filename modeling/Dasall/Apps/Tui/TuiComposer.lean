import Dasall.Apps.Tui.TextWidth

/-!
# The composer

The line that a prompt is written in, with the history of the prompts that were submitted. A key
gives the composer behind it and an action; the update of the source has the state beside the action.
-/

open Dasall.Lib.Text

namespace Dasall.Apps.Tui

/-! ## History -/

structure TuiInputHistory where
  entries : List Bytes := []

namespace TuiInputHistory

def containsOnlyWhitespace (text : Bytes) : Bool :=
  text.all fun character => character = 32 || character = 9 || character = 10 || character = 13

def record (history : TuiInputHistory) (entry : Bytes) : TuiInputHistory :=
  if containsOnlyWhitespace entry then history else { entries := history.entries ++ [entry] }

def entry (history : TuiInputHistory) (index : Nat) : Bytes := history.entries[index]?.getD []

def older (history : TuiInputHistory) (current : Option Nat) : Option Nat :=
  if history.entries = [] then none
  else
    match current with
    | none => some (history.entries.length - 1)
    | some current => if current = 0 then some current else some (current - 1)

def newer (history : TuiInputHistory) (current : Option Nat) : Option Nat :=
  match current with
  | none => none
  | some current => if history.entries.length ≤ current + 1 then none else some (current + 1)

/-- The last entry below the bound that has the query in it. -/
def matchBelow (history : TuiInputHistory) (query : Bytes) : Nat → Option Nat
  | 0 => none
  | index + 1 =>
    if query = [] ∨ query <:+: history.entry index then some index else matchBelow history query index

def latestMatch (history : TuiInputHistory) (query : Bytes) (before : Option Nat) : Option Nat :=
  history.matchBelow query (before.getD history.entries.length)

end TuiInputHistory

/-! ## The state -/

structure TuiComposerState where
  text : Bytes := []
  cursorOffset : Nat := 0
  mode : Bytes := str "ready"
  historyQuery : Option Bytes := none
  canSubmit : Bool := true
  dirty : Bool := false

inductive TuiComposerKey
  | textChanged | insertText | backspace | delete | left | right | home | endKey
  | enter | altEnter | ctrlJ | up | down | ctrlR
deriving DecidableEq

structure TuiComposerKeyEvent where
  key : TuiComposerKey := .textChanged
  text : Bytes := []
  cursorOffset : Option Nat := none
  cursorAtBoundary : Bool := false
  draftUnmodified : Bool := true
deriving DecidableEq

inductive TuiComposerActionType
  | none | submitRequested | openExternalEditorRequested
deriving DecidableEq

structure TuiComposerAction where
  type : TuiComposerActionType := .none
  text : Bytes := []

structure TuiComposer where
  state : TuiComposerState
  history : TuiInputHistory := {}
  busy : Bool := false
  historyIndex : Option Nat := none
  recallSeed : Option Bytes := none
  reverseSearchIndex : Option Nat := none
  externalEditorCheckpoint : Option TuiComposerState := none

def hasVisibleContent (text : Bytes) : Bool :=
  text.any fun character => character ≠ 32 && character ≠ 9 && character ≠ 10 && character ≠ 13

namespace TuiComposer

/-- The constructor. -/
def make (state : TuiComposerState) : TuiComposer where
  state := { state with cursorOffset := clampToTerminalTextOffset state.text state.cursorOffset }
  busy := state.mode = str "pending-interaction"

variable (composer : TuiComposer)

def clearNavigationState : TuiComposer :=
  { composer with
    state := { composer.state with historyQuery := none }
    historyIndex := none
    recallSeed := none
    reverseSearchIndex := none }

/-- The mode that `apply_idle_mode` sets. -/
def idleMode (busy : Bool) (text : Bytes) : Bytes :=
  if busy then str "pending-interaction" else if text = [] then str "ready" else str "editing"

def applyIdleMode : TuiComposer :=
  { composer with
    state := { composer.state with mode := idleMode composer.busy composer.state.text } }

/-- The end of every edit. -/
def edited (text : Bytes) (cursorOffset : Nat) : TuiComposer :=
  applyIdleMode
    { composer with
      state :=
        { composer.state with
          text
          cursorOffset
          dirty := text ≠ []
          canSubmit := !composer.busy } }

def applyTextChange (text : Bytes) (cursorOffset : Option Nat) : TuiComposer :=
  composer.edited text
    (match cursorOffset with
      | some offset => clampToTerminalTextOffset text offset
      | none => text.length)

def applyInsertText (inserted : Bytes) : TuiComposer :=
  let text := composer.state.text
  if inserted ≠ [] then
    let cursor := clampToTerminalTextOffset text composer.state.cursorOffset
    composer.edited (text.take cursor ++ inserted ++ text.drop cursor) (cursor + inserted.length)
  else composer.edited text composer.state.cursorOffset

def applyBackspace : TuiComposer :=
  let text := composer.state.text
  let cursor := clampToTerminalTextOffset text composer.state.cursorOffset
  if 0 < cursor then
    let previous := previousTerminalTextOffset text cursor
    composer.edited (text.take previous ++ text.drop cursor) previous
  else composer.edited text cursor

def applyDelete : TuiComposer :=
  let text := composer.state.text
  let cursor := clampToTerminalTextOffset text composer.state.cursorOffset
  if cursor < text.length then
    composer.edited (text.take cursor ++ text.drop (nextTerminalTextOffset text cursor)) cursor
  else composer.edited text cursor

def moveCursor (cursorOffset : Nat) : TuiComposer :=
  { composer with state := { composer.state with cursorOffset } }

def moveCursorLeft : TuiComposer :=
  composer.moveCursor (previousTerminalTextOffset composer.state.text composer.state.cursorOffset)

def moveCursorRight : TuiComposer :=
  composer.moveCursor (nextTerminalTextOffset composer.state.text composer.state.cursorOffset)

def moveCursorHome : TuiComposer := composer.moveCursor 0

def moveCursorEnd : TuiComposer := composer.moveCursor composer.state.text.length

/-! ## Recalling -/

/-- The entry takes the place of the draft. -/
def recalled (index : Nat) : TuiComposer :=
  { composer with
    historyIndex := some index
    state :=
      { composer.state with
        text := composer.history.entry index
        cursorOffset := (composer.history.entry index).length
        mode := str "history-recall"
        canSubmit := !composer.busy
        dirty := false } }

def recallOlder : TuiComposer :=
  let composer :=
    if composer.historyIndex = none then { composer with recallSeed := some composer.state.text }
    else composer
  match composer.history.older composer.historyIndex with
  | none => { composer with historyIndex := none }
  | some index => composer.recalled index

def recallNewer : TuiComposer :=
  match composer.historyIndex with
  | none => composer
  | some current =>
    match composer.history.newer (some current) with
    | none =>
      let text := composer.recallSeed.getD []
      applyIdleMode
        { composer with
          historyIndex := none
          recallSeed := none
          state := { composer.state with text, cursorOffset := text.length, dirty := text ≠ [] } }
    | some index => composer.recalled index

def recallHistory (direction : Int) : TuiComposer :=
  if composer.history.entries = [] then composer
  else
    let composer :=
      { composer with
        reverseSearchIndex := none
        state := { composer.state with historyQuery := none } }
    if direction < 0 then composer.recallOlder else composer.recallNewer

def canRecallFromKey (event : TuiComposerKeyEvent) : Bool :=
  composer.state.mode = str "history-recall" || composer.state.text = [] ||
    (event.cursorAtBoundary && event.draftUnmodified)

def enterReverseSearch : TuiComposer :=
  if composer.history.entries = [] then composer
  else
    let query := composer.state.historyQuery.getD composer.state.text
    let before :=
      if composer.state.mode = str "reverse-search" then composer.reverseSearchIndex else none
    let found := composer.history.latestMatch query before
    let composer :=
      { composer with
        historyIndex := none
        recallSeed := none
        reverseSearchIndex := found
        state :=
          { composer.state with
            historyQuery := some query
            mode := str "reverse-search"
            canSubmit := !composer.busy } }
    match found with
    | none => { composer with state := { composer.state with dirty := composer.state.text ≠ [] } }
    | some index =>
      let text := composer.history.entry index
      { composer with
        state := { composer.state with text, cursorOffset := text.length, dirty := false } }

/-! ## Keys -/

/-- What a key other than Enter and Down does, where the composer is not submitting. -/
def pressed (event : TuiComposerKeyEvent) : TuiComposer :=
  match event.key with
  | .textChanged => composer.clearNavigationState.applyTextChange event.text event.cursorOffset
  | .insertText => composer.clearNavigationState.applyInsertText event.text
  | .backspace => composer.clearNavigationState.applyBackspace
  | .delete => composer.clearNavigationState.applyDelete
  | .left => composer.moveCursorLeft
  | .right => composer.moveCursorRight
  | .home => composer.moveCursorHome
  | .endKey => composer.moveCursorEnd
  | .altEnter | .ctrlJ => composer.clearNavigationState.applyInsertText [10]
  | .up => if composer.canRecallFromKey event then composer.recallHistory (-1) else composer
  | .ctrlR => composer.enterReverseSearch
  | .enter | .down => composer

def submitted : TuiComposer :=
  let composer := { composer with history := composer.history.record composer.state.text }
  let composer := composer.clearNavigationState
  { composer with
    state :=
      { composer.state with
        text := []
        cursorOffset := 0
        mode := str "submitting"
        canSubmit := false
        dirty := false } }

def handleKey (event : TuiComposerKeyEvent) : TuiComposer × TuiComposerAction :=
  if composer.state.mode = str "external-editor" then (composer, {})
  else
    match event.key with
    | .enter =>
      if composer.state.mode = str "submitting" ∨ composer.state.canSubmit = false ∨
          hasVisibleContent composer.state.text = false then (composer, {})
      else (composer.submitted, { type := .submitRequested, text := composer.state.text })
    | .down =>
      (if composer.state.mode = str "history-recall" then composer.recallHistory 1 else composer, {})
    | _ => (if composer.state.mode = str "submitting" then composer else composer.pressed event, {})

def setBusy (busy : Bool) : TuiComposer :=
  let composer := { composer with busy, state := { composer.state with canSubmit := !busy } }
  if busy then
    let composer := composer.clearNavigationState
    { composer with
      state :=
        { composer.state with
          mode := str "pending-interaction"
          dirty := composer.state.text ≠ [] } }
  else composer.applyIdleMode

/-! ## The external editor -/

def openExternalEditor : TuiComposer × TuiComposerAction :=
  if composer.state.mode = str "submitting" ∨ composer.state.mode = str "external-editor" then
    (composer, {})
  else
    let opened :=
      { composer with externalEditorCheckpoint := some composer.state }.clearNavigationState
    ({ opened with
       state := { opened.state with mode := str "external-editor", canSubmit := false } },
      { type := .openExternalEditorRequested, text := composer.state.text })

def applyExternalEditorResult (editedText : Option Bytes) : TuiComposer :=
  match composer.externalEditorCheckpoint with
  | none => composer
  | some checkpoint =>
    let composer := { composer with state := checkpoint, externalEditorCheckpoint := none }
    match editedText with
    | none =>
      { composer with
        state :=
          { checkpoint with
            canSubmit := !composer.busy
            mode := if composer.busy then str "pending-interaction" else checkpoint.mode } }
    | some text => composer.clearNavigationState.applyTextChange text none

end TuiComposer

/-! ## Calls -/

inductive TuiComposerCall
  | handleKey (event : TuiComposerKeyEvent)
  | setBusy (busy : Bool)
  | openExternalEditor
  | applyExternalEditorResult (editedText : Option Bytes)
deriving DecidableEq

def TuiComposer.perform (composer : TuiComposer) :
    TuiComposerCall → TuiComposer × TuiComposerAction
  | .handleKey event => composer.handleKey event
  | .setBusy busy => (composer.setBusy busy, {})
  | .openExternalEditor => composer.openExternalEditor
  | .applyExternalEditorResult editedText => (composer.applyExternalEditorResult editedText, {})

end Dasall.Apps.Tui
