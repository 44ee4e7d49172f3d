import Dasall.Apps.Tui.ComposerDiscipline
import Dasall.Apps.Tui.WrapText

/-!
# The lines of the composer

The draft is drawn behind a prompt, with the cursor at its offset, and a status line follows where
there is room.
-/

open Dasall.Lib.Ascii Dasall.Lib.Text Dasall.Lib.Utf8 Dasall.Lib.Run

namespace Dasall.Apps.Tui

variable (composer : TuiComposerState) (cursorVisible : Bool) (activityIndicator : Bytes)
  (width height : Nat)

def trimCopy (text : Bytes) : Bytes := (text.dropWhile isSpace).rdropWhile isSpace

def promptLine : Bytes :=
  let cursor := if cursorVisible then str "|" else str " "
  let cursorOffset := clampToTerminalTextOffset composer.text composer.cursorOffset
  str "> " ++ composer.text.take cursorOffset ++ cursor ++ composer.text.drop cursorOffset

def inputLine : Bytes :=
  let activity := trimCopy activityIndicator
  if activity = [] then promptLine composer cursorVisible
  else if composer.text = [] then activity
  else activity ++ str "  " ++ promptLine composer cursorVisible

def statusLine : Bytes :=
  str "mode=" ++ trimCopy composer.mode ++
    str " submit=" ++ (if composer.canSubmit then str "enabled" else str "disabled") ++
    str " dirty=" ++ (if composer.dirty then str "yes" else str "no")

def buildComposerLines : Option (List Bytes) :=
  if width = 0 ∨ height = 0 then some []
  else
    (wrapToTerminalWidth (inputLine composer cursorVisible activityIndicator) width
      (some height)).map fun lines =>
        (if lines.length < height then lines ++ [statusLine composer] else lines).take height

theorem tokens_promptLine (h : OnCodePointBoundary composer.text composer.cursorOffset) :
    ∃ before after, composer.text = (before ++ after).flatMap encode ∧
      tokens (promptLine composer cursorVisible) =
        ('>' :: ' ' :: before ++ (if cursorVisible then '|' else ' ') :: after).map charToken := by
  have hclamp := h.token.clamp
  obtain ⟨_, _, htext, ⟨before, rfl⟩, ⟨after, rfl⟩, hoffset⟩ := h
  refine ⟨before, after, htext.trans List.flatMap_append.symm, ?_⟩
  unfold promptLine
  rw [hoffset] at hclamp
  simp only [hoffset, hclamp]
  rw [htext, List.take_left, List.drop_left, ← tokens_chars]
  cases cursorVisible <;> simp only [List.cons_append, List.flatMap_cons, List.flatMap_append,
    List.append_assoc] <;> rfl

end Dasall.Apps.Tui
