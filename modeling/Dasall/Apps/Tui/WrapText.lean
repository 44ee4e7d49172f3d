import Dasall.Apps.Tui.TextWidth
import Dasall.Lib.Separated

/-!
# Wrapping text

A line is broken at its last space, or before the token that does not fit. A turn of the loop may
leave the cursor where it is, so that the token is tried again on what is left of the line.
-/

open Dasall.Lib Dasall.Lib.Text

namespace Dasall.Apps.Tui

/-! ## The loop -/

def trimTrailingAsciiSpaces (text : Bytes) : Bytes := text.rdropWhile (· = 32)

/-- `std::string::find_last_of` for one character. -/
def findLastOf (byte : Byte) (text : Bytes) : Option Nat :=
  (text.reverse.findIdx? (· = byte)).map fun fromEnd => text.length - 1 - fromEnd

structure WrapState where
  lines : List Bytes
  current : Bytes := []
  currentWidth : Nat := 0
  lastSpaceByte : Option Nat := none

/-- Without a limit there is always room, since no list has `SIZE_MAX` lines. -/
def hasRoom (maxLines : Option Nat) (lines : List Bytes) : Bool :=
  match maxLines with
  | some maxLines => lines.length < maxLines
  | none => true

def pushLine (lines : List Bytes) (line : Bytes) : List Bytes :=
  if line ≠ [] then lines ++ [line] else lines

variable (safeWidth : Nat) (maxLines : Option Nat)

/-- One turn of the loop, and whether the cursor goes on. -/
def wrapToken (state : WrapState) (token : TuiTerminalTextToken) : WrapState × Bool :=
  let asciiSpace := token.valid && token.bytes = [32]
  if asciiSpace ∧ state.current = [] then (state, true)
  else if safeWidth < token.columns then
    let current := trimTrailingAsciiSpaces state.current
    let state : WrapState :=
      if current ≠ [] then { lines := state.lines ++ [current] } else { state with current }
    (if hasRoom maxLines state.lines then { state with lines := state.lines ++ [[63]] } else state,
      true)
  else if 0 < token.columns ∧ safeWidth < state.currentWidth + token.columns then
    match state.lastSpaceByte with
    | some lastSpace =>
      let current := state.current.drop (lastSpace + 1)
      ({ lines := pushLine state.lines (trimTrailingAsciiSpaces (state.current.take lastSpace))
         current
         currentWidth := terminalDisplayWidth current
         lastSpaceByte := findLastOf 32 current },
        asciiSpace && current = [])
    | none =>
      ({ lines := pushLine state.lines (trimTrailingAsciiSpaces state.current) }, asciiSpace)
  else
    ({ state with
       current := state.current ++ rendered token
       currentWidth := state.currentWidth + token.columns
       lastSpaceByte := if asciiSpace then some state.current.length else state.lastSpaceByte },
      true)

/-- The loop over a paragraph. `none` is a loop that has not ended. -/
def wrapLoop : Nat → WrapState → List TuiTerminalTextToken → Option WrapState
  | 0, _, _ => none
  | _ + 1, state, [] => some state
  | fuel + 1, state, token :: rest =>
    if !hasRoom maxLines state.lines then some state
    else
      let turn := wrapToken safeWidth maxLines state token
      wrapLoop fuel turn.1 (if turn.2 then rest else token :: rest)

/-- Three turns are enough for a token. -/
def wrapParagraphs : List Bytes → List Bytes → Option (List Bytes)
  | lines, [] => some lines
  | lines, paragraph :: rest =>
    if !hasRoom maxLines lines then some lines
    else
      match wrapLoop safeWidth maxLines (3 * (tokens paragraph).length + 1) { lines }
          (tokens paragraph) with
      | none => none
      | some state =>
        wrapParagraphs
          (if hasRoom maxLines state.lines then
            state.lines ++ [trimTrailingAsciiSpaces state.current]
          else state.lines)
          rest

def wrapToTerminalWidth (text : Bytes) (width : Nat) (maxLines : Option Nat) :
    Option (List Bytes) :=
  if maxLines = some 0 then some []
  else
    (wrapParagraphs (if width = 0 then 1 else width) maxLines [] (text.splitOn 10)).map fun lines =>
      if lines = [] then [[]] else lines

/-! ## Lines of glyphs -/

/-- The token that stands for a token in a line. -/
def laid (token : TuiTerminalTextToken) : TuiTerminalTextToken :=
  if token.valid = true ∧ token.columns ≤ safeWidth then token else questionMark

/-- The tokens that are seen. -/
def ink (found : List TuiTerminalTextToken) : List TuiTerminalTextToken :=
  found.filter (· ≠ spaceToken)

structure IsLine (line : Bytes) (glyphs : List TuiTerminalTextToken) : Prop where
  glyph : ∀ glyph ∈ glyphs, IsGlyph glyph
  bytes : line = bytesOf glyphs
  fits : widthOf glyphs ≤ safeWidth

/-- The line that is being filled. -/
structure Filling (state : WrapState) (glyphs : List TuiTerminalTextToken) : Prop where
  line : IsLine safeWidth state.current glyphs
  width : state.currentWidth = widthOf glyphs
  head : glyphs.head? ≠ some spaceToken
  space : ∀ lastSpace, state.lastSpaceByte = some lastSpace → ∃ before after,
    glyphs = before ++ spaceToken :: after ∧ lastSpace = (bytesOf before).length ∧
      spaceToken ∉ after
  noSpace : state.lastSpaceByte = none → spaceToken ∉ glyphs

/-- All lines fit, and there are not too many of them. -/
structure AllFit (lines : List Bytes) : Prop where
  fits : ∀ line ∈ lines, ∃ glyphs, IsLine safeWidth line glyphs
  count : ∀ limit, maxLines = some limit → lines.length ≤ limit

def inkOf (lines : List Bytes) : List TuiTerminalTextToken := lines.flatMap fun line => ink (tokens line)

/-- What a turn that does not move the cursor makes less of. -/
def left (state : WrapState) : Nat :=
  (if state.lastSpaceByte.isSome then 1 else 0) + if state.current = [] then 0 else 1

variable {safeWidth maxLines} {glyphs : List TuiTerminalTextToken} {lines : List Bytes}
  {state : WrapState} {token : TuiTerminalTextToken} {line : Bytes}

theorem widthOf_append (first second : List TuiTerminalTextToken) :
    widthOf (first ++ second) = widthOf first + widthOf second := by
  simp [widthOf]

theorem ink_append (first second : List TuiTerminalTextToken) :
    ink (first ++ second) = ink first ++ ink second :=
  List.filter_append _ _

theorem inkOf_append (first second : List Bytes) : inkOf (first ++ second) = inkOf first ++ inkOf second :=
  List.flatMap_append

/-- A space stands in the bytes of a glyph only if the glyph is the space. -/
theorem IsGlyph.eq_space (h : IsGlyph token) (hspace : (32 : Byte) ∈ token.bytes) :
    token = spaceToken := by
  obtain ⟨lead, rest, hbytes⟩ := List.exists_cons_of_ne_nil h.ne_nil
  have hfirst := h.first
  rw [hbytes, firstToken] at hfirst
  split at hfirst
  · rw [← hfirst, List.mem_singleton] at hspace
    rw [← hfirst, ← hspace]
    rfl
  · next hlead =>
    split at hfirst
    · next tail htail =>
      have hall := (sequenceTail_spec htail).2.2.1
      rw [← hfirst, List.mem_cons] at hspace
      rcases hspace with hsame | hmem
      · rw [← hsame] at hlead
        exact absurd (by decide) hlead
      · have hcontinues := List.all_eq_true.mp hall 32 hmem
        cases hcontinues
    · rw [← hfirst] at h
      cases h.valid

theorem space_mem_bytesOf (h : ∀ glyph ∈ glyphs, IsGlyph glyph) (hspace : (32 : Byte) ∈ bytesOf glyphs) :
    spaceToken ∈ glyphs := by
  obtain ⟨glyph, hglyph, hmem⟩ := List.mem_flatMap.mp hspace
  rwa [← (h glyph hglyph).eq_space hmem]

/-- A line is trimmed by whole tokens. -/
theorem trim_bytesOf (h : ∀ glyph ∈ glyphs, IsGlyph glyph) :
    trimTrailingAsciiSpaces (bytesOf glyphs) = bytesOf (glyphs.rdropWhile (· = spaceToken)) := by
  unfold trimTrailingAsciiSpaces
  induction glyphs using List.reverseRecOn with
  | nil => rfl
  | append_singleton glyphs last ih =>
    have hlast := h last (List.mem_append_right _ List.mem_cons_self)
    have hglyphs := fun glyph hglyph => h glyph (List.mem_append_left _ hglyph)
    by_cases hspace : last = spaceToken
    · have hbytes : bytesOf (glyphs ++ [last]) = bytesOf glyphs ++ [32] := by
        rw [bytesOf_append, hspace]
        rfl
      rw [hbytes, List.rdropWhile_concat_pos _ _ 32 rfl, ih hglyphs,
        List.rdropWhile_concat_pos (· = spaceToken) glyphs last (by simpa using hspace)]
    · obtain ⟨front, final, hlastBytes⟩ :=
        (List.eq_nil_or_concat last.bytes).resolve_left hlast.ne_nil
      have hfinal : final ≠ 32 := by
        rintro rfl
        exact hspace (hlast.eq_space (by simp [hlastBytes]))
      have hbytes : bytesOf (glyphs ++ [last]) = (bytesOf glyphs ++ front) ++ [final] := by
        simp [bytesOf, hlastBytes]
      rw [List.rdropWhile_concat_neg (· = spaceToken) glyphs last (by simpa using hspace), hbytes,
        List.rdropWhile_concat_neg (· = 32) _ final (by simpa using hfinal)]

theorem IsLine.trim (h : IsLine safeWidth line glyphs) :
    IsLine safeWidth (trimTrailingAsciiSpaces line) (glyphs.rdropWhile (· = spaceToken)) := by
  have hkept : glyphs.rdropWhile (· = spaceToken) <+: glyphs := List.rdropWhile_prefix _ _
  refine ⟨fun glyph hglyph => h.glyph glyph (hkept.subset hglyph), ?_, ?_⟩
  · rw [h.bytes, trim_bytesOf h.glyph]
  · obtain ⟨dropped, hsplit⟩ := hkept
    have hfits := h.fits
    rw [← hsplit, widthOf_append] at hfits
    omega

theorem ink_trim (glyphs : List TuiTerminalTextToken) :
    ink (glyphs.rdropWhile (· = spaceToken)) = ink glyphs := by
  have hdropped : ink (glyphs.rtakeWhile (· = spaceToken)) = [] := by
    refine List.filter_eq_nil_iff.mpr fun glyph hglyph => ?_
    simpa using List.mem_rtakeWhile_imp hglyph
  have hsplit : glyphs.rdropWhile (· = spaceToken) ++ glyphs.rtakeWhile (· = spaceToken) = glyphs :=
    List.rdropWhile_append_rtakeWhile
  have hink := congrArg ink hsplit
  rwa [ink_append, hdropped, List.append_nil] at hink

theorem IsLine.ink (h : IsLine safeWidth line glyphs) : ink (tokens line) = ink glyphs := by
  rw [h.bytes, tokens_bytesOf h.glyph]

theorem isLine_nil : IsLine safeWidth [] [] := ⟨by simp, rfl, Nat.zero_le _⟩

theorem inkOf_pushLine (lines : List Bytes) (line : Bytes) :
    inkOf (pushLine lines line) = inkOf lines ++ ink (tokens line) := by
  unfold pushLine
  split
  · rw [inkOf_append]
    exact congrArg (inkOf lines ++ ·) (List.flatMap_singleton _ line)
  · next hempty =>
    rw [not_not.mp hempty]
    exact (List.append_nil _).symm

theorem AllFit.push (h : AllFit safeWidth maxLines lines) (hroom : hasRoom maxLines lines = true)
    (hline : IsLine safeWidth line glyphs) : AllFit safeWidth maxLines (lines ++ [line]) := by
  refine ⟨fun other hother => ?_, fun limit hlimit => ?_⟩
  · rcases List.mem_append.mp hother with hold | hnew
    · exact h.fits other hold
    · rw [List.mem_singleton.mp hnew]
      exact ⟨glyphs, hline⟩
  · subst hlimit
    rw [hasRoom, decide_eq_true_eq] at hroom
    rw [List.length_append, List.length_singleton]
    omega

theorem AllFit.pushLine (h : AllFit safeWidth maxLines lines) (hroom : hasRoom maxLines lines = true)
    (hline : IsLine safeWidth line glyphs) : AllFit safeWidth maxLines (pushLine lines line) := by
  unfold Tui.pushLine
  split
  · exact h.push hroom hline
  · exact h

theorem filling_nil (lines : List Bytes) : Filling safeWidth { lines } [] :=
  ⟨isLine_nil, rfl, by simp, by simp, by simp⟩

/-- A line that is filled does not begin with a space, so something is left of it when trimmed. -/
theorem Filling.trim_eq_nil (h : Filling safeWidth state glyphs)
    (hempty : trimTrailingAsciiSpaces state.current = []) : glyphs = [] := by
  have htrim := h.line.trim
  rw [hempty] at htrim
  have hnone : glyphs.rdropWhile (· = spaceToken) = [] := by
    cases hkept : glyphs.rdropWhile (· = spaceToken) with
    | nil => rfl
    | cons glyph kept =>
      rw [hkept] at htrim
      have hbytes := htrim.bytes
      rw [bytesOf_cons] at hbytes
      exact absurd (List.append_eq_nil_iff.mp hbytes.symm).1
        (htrim.glyph glyph List.mem_cons_self).ne_nil
  cases glyphs with
  | nil => rfl
  | cons glyph glyphs =>
    have hspace := List.rdropWhile_eq_nil_iff.mp hnone glyph List.mem_cons_self
    rw [decide_eq_true_eq] at hspace
    exact absurd (congrArg some hspace) h.head

theorem findLastOf_eq_none {text : Bytes} (h : (32 : Byte) ∉ text) : findLastOf 32 text = none := by
  unfold findLastOf
  rw [Option.map_eq_none_iff, List.findIdx?_eq_none_iff]
  intro byte hbyte
  rw [decide_eq_false_iff_not]
  rintro rfl
  exact h (List.mem_reverse.mp hbyte)

/-! ## One turn -/

/-- What the loop knows of a token of the text. -/
structure IsToken (token : TuiTerminalTextToken) : Prop where
  glyph : IsGlyph (shown token)
  columns : (shown token).columns = token.columns

theorem IsToken.space_iff (h : IsToken token) :
    (token.valid && token.bytes = [32]) = true ↔ token = spaceToken := by
  constructor
  · intro hspace
    rw [Bool.and_eq_true, decide_eq_true_eq] at hspace
    have hglyph := h.glyph
    unfold shown at hglyph
    rw [if_pos hspace.1] at hglyph
    exact hglyph.eq_space (by simp [hspace.2])
  · rintro rfl
    rfl

theorem ink_space (hpos : 1 ≤ safeWidth) : ink [laid safeWidth spaceToken] = [] := by
  have hspace : laid safeWidth spaceToken = spaceToken := if_pos ⟨rfl, hpos⟩
  rw [hspace]
  rfl

theorem IsToken.shown_eq_space (h : IsToken token) :
    shown token = spaceToken ↔ (token.valid && token.bytes = [32]) = true := by
  rw [h.space_iff]
  constructor
  · intro hshown
    unfold shown at hshown
    split at hshown
    · exact hshown
    · exact absurd hshown (by decide)
  · rintro rfl
    rfl

theorem laid_of_le (hcolumns : token.columns ≤ safeWidth) : laid safeWidth token = shown token := by
  unfold laid shown
  simp only [hcolumns, and_true]

/-- A space at which the line is broken is not laid. -/
theorem ink_skipped (hpos : 1 ≤ safeWidth) (htoken : IsToken token) {skipped : Bool}
    (hskipped : skipped = true → (token.valid && token.bytes = [32]) = true) :
    ink (if skipped then [laid safeWidth token] else []) = [] := by
  cases skipped with
  | false => rfl
  | true =>
    rw [if_pos rfl, htoken.space_iff.mp (hskipped rfl)]
    exact ink_space hpos

/-- What a turn does for the lines, the line that is being filled and the cursor. -/
structure Turned (safeWidth : Nat) (maxLines : Option Nat) (state : WrapState)
    (glyphs : List TuiTerminalTextToken) (token : TuiTerminalTextToken) (turn : WrapState × Bool) :
    Prop where
  filling : ∃ glyphs', Filling safeWidth turn.1 glyphs' ∧
    (maxLines = none → inkOf turn.1.lines ++ ink glyphs' =
      inkOf state.lines ++ ink glyphs ++ ink (if turn.2 then [laid safeWidth token] else []))
  fit : AllFit safeWidth maxLines turn.1.lines
  left : turn.2 = false → left turn.1 < left state

section

variable (h : Filling safeWidth state glyphs) (hpos : 1 ≤ safeWidth) (htoken : IsToken token)
  (hfit : AllFit safeWidth maxLines state.lines) (hroom : hasRoom maxLines state.lines = true)
include h hfit hroom

theorem turned_wide (hpos : 1 ≤ safeWidth) (hwide : safeWidth < token.columns) :
    Turned safeWidth maxLines state glyphs token
      (let current := trimTrailingAsciiSpaces state.current
       let state : WrapState :=
        if current ≠ [] then { lines := state.lines ++ [current] } else { state with current }
       (if hasRoom maxLines state.lines then { state with lines := state.lines ++ [[63]] } else state,
         true)) := by
  have hbegun : ∃ begun : WrapState, Filling safeWidth begun [] ∧
      begun.lines = pushLine state.lines (trimTrailingAsciiSpaces state.current) ∧
      (if trimTrailingAsciiSpaces state.current ≠ [] then
        ({ lines := state.lines ++ [trimTrailingAsciiSpaces state.current] } : WrapState)
      else { state with current := trimTrailingAsciiSpaces state.current }) = begun := by
    unfold pushLine
    split
    · exact ⟨_, filling_nil _, rfl, rfl⟩
    · next hempty =>
      rw [not_not] at hempty
      have hnone := h.trim_eq_nil hempty
      rw [hnone] at h
      refine ⟨{ state with current := trimTrailingAsciiSpaces state.current },
        ⟨?_, h.width, h.head, h.space, h.noSpace⟩, rfl, rfl⟩
      rw [hempty]
      exact isLine_nil
  obtain ⟨begun, hbegun, hlines, heq⟩ := hbegun
  dsimp only
  rw [heq]
  have hquestion : laid safeWidth token = questionMark := if_neg fun hlaid => by omega
  have hbegunFit : AllFit safeWidth maxLines begun.lines := by
    rw [hlines]
    exact hfit.pushLine hroom h.line.trim
  have hink : inkOf begun.lines = inkOf state.lines ++ ink glyphs := by
    rw [hlines, inkOf_pushLine, h.line.trim.ink, ink_trim]
  split
  · next hmore =>
    have hmark : IsLine safeWidth [63] [questionMark] :=
      ⟨by simpa using isGlyph_questionMark, rfl, hpos⟩
    have hmarkInk : inkOf [[63]] = ink [questionMark] := by
      rw [inkOf, List.flatMap_singleton, hmark.ink]
    refine ⟨⟨[], ⟨hbegun.line, hbegun.width, hbegun.head, hbegun.space, hbegun.noSpace⟩, fun _ => ?_⟩,
      hbegunFit.push hmore hmark, fun hstay => by cases hstay⟩
    rw [inkOf_append, hink, hquestion, hmarkInk]
    exact List.append_nil _
  · next hfull =>
    refine ⟨⟨[], hbegun, fun hlimit => ?_⟩, hbegunFit, fun hstay => by cases hstay⟩
    rw [hlimit] at hfull
    exact absurd rfl hfull

theorem turned_atSpace {lastSpace : Nat} (hspace : state.lastSpaceByte = some lastSpace)
    (hpos : 1 ≤ safeWidth) (htoken : IsToken token) :
    Turned safeWidth maxLines state glyphs token
      ({ lines := pushLine state.lines (trimTrailingAsciiSpaces (state.current.take lastSpace))
         current := state.current.drop (lastSpace + 1)
         currentWidth := terminalDisplayWidth (state.current.drop (lastSpace + 1))
         lastSpaceByte := findLastOf 32 (state.current.drop (lastSpace + 1)) },
        token.valid && token.bytes = [32] && state.current.drop (lastSpace + 1) = []) := by
  obtain ⟨before, after, rfl, rfl, hafter⟩ := h.space lastSpace hspace
  have hglyph := h.line.glyph
  have hbefore : ∀ glyph ∈ before, IsGlyph glyph := fun glyph hmem =>
    hglyph glyph (List.mem_append_left _ hmem)
  have hrest : ∀ glyph ∈ after, IsGlyph glyph := fun glyph hmem =>
    hglyph glyph (List.mem_append_right _ (List.mem_cons_of_mem _ hmem))
  have hfits := h.line.fits
  rw [widthOf_append, ← List.singleton_append, widthOf_append] at hfits
  have hcurrent : state.current = (bytesOf before ++ [32]) ++ bytesOf after := by
    rw [h.line.bytes, bytesOf_append, bytesOf_cons, List.append_assoc]
    rfl
  have htake : state.current.take (bytesOf before).length = bytesOf before := by
    rw [hcurrent, List.append_assoc, List.take_left]
  have hdrop : state.current.drop ((bytesOf before).length + 1) = bytesOf after := by
    rw [hcurrent]
    exact List.drop_left' (by simp)
  have hfind : findLastOf 32 (bytesOf after) = none :=
    findLastOf_eq_none fun hmem => hafter (space_mem_bytesOf hrest hmem)
  have hline : IsLine safeWidth (bytesOf before) before := ⟨hbefore, rfl, by omega⟩
  rw [htake, hdrop, hfind]
  refine ⟨⟨after, ⟨⟨hrest, rfl, by omega⟩, ?_, ?_, by simp, fun _ => hafter⟩, fun _ => ?_⟩,
    hfit.pushLine hroom hline.trim, fun _ => ?_⟩
  · unfold terminalDisplayWidth
    rw [tokens_bytesOf hrest]
  · intro hhead
    exact hafter (List.mem_of_mem_head? hhead)
  · have hgap : ink (spaceToken :: after) = ink after := List.filter_cons_of_neg (by simp)
    rw [inkOf_pushLine, hline.trim.ink, ink_trim, ink_append, hgap,
      ink_skipped hpos htoken fun hskip => (Bool.and_eq_true _ _ ▸ hskip).1,
      List.append_nil, List.append_assoc]
  · have hfilled : state.current ≠ [] := by
      rw [hcurrent]
      simp
    have hnew : (if bytesOf after = [] then 0 else 1) ≤ 1 := by
      split
      · exact Nat.zero_le _
      · exact le_rfl
    simp only [Tui.left, hspace, if_neg hfilled, Option.isSome_none, Option.isSome_some, if_true,
      Bool.false_eq_true, if_false]
    omega

/-- Without a space the whole line is put down. -/
theorem turned_full (hspace : state.lastSpaceByte = none) (hpos : 1 ≤ safeWidth)
    (htoken : IsToken token) (hlong : safeWidth < state.currentWidth + token.columns)
    (hcolumns : token.columns ≤ safeWidth) :
    Turned safeWidth maxLines state glyphs token
      ({ lines := pushLine state.lines (trimTrailingAsciiSpaces state.current) },
        token.valid && token.bytes = [32]) := by
  refine ⟨⟨[], filling_nil _, fun _ => ?_⟩, hfit.pushLine hroom h.line.trim, fun _ => ?_⟩
  · rw [inkOf_pushLine, h.line.trim.ink, ink_trim, ink_skipped hpos htoken id]
    rfl
  · have hfilled : state.current ≠ [] := by
      intro hempty
      have hnone := h.trim_eq_nil (by rw [hempty]; rfl)
      have hwidth := h.width
      rw [hnone] at hwidth
      simp only [widthOf, List.map_nil, List.sum_nil] at hwidth
      omega
    simp [Tui.left, hspace, hfilled]

omit hroom in
theorem turned_append (htoken : IsToken token)
    (hbegin : ¬((token.valid && token.bytes = [32]) = true ∧ state.current = []))
    (hcolumns : token.columns ≤ safeWidth)
    (hroomy : ¬(0 < token.columns ∧ safeWidth < state.currentWidth + token.columns)) :
    Turned safeWidth maxLines state glyphs token
      ({ state with
         current := state.current ++ rendered token
         currentWidth := state.currentWidth + token.columns
         lastSpaceByte :=
          if (token.valid && token.bytes = [32]) = true then some state.current.length
          else state.lastSpaceByte },
        true) := by
  have hlaid := laid_of_le hcolumns
  have hspaceIff := htoken.shown_eq_space
  have hbytes : state.current ++ rendered token = bytesOf (glyphs ++ [shown token]) := by
    rw [bytesOf_append, h.line.bytes, rendered_eq]
    simp [bytesOf]
  have hwidth : widthOf (glyphs ++ [shown token]) = state.currentWidth + token.columns := by
    rw [widthOf_append, h.width, ← htoken.columns]
    simp [widthOf]
  have hglyph : ∀ glyph ∈ glyphs ++ [shown token], IsGlyph glyph := by
    intro glyph hmem
    rcases List.mem_append.mp hmem with hold | hnew
    · exact h.line.glyph glyph hold
    · rw [List.mem_singleton.mp hnew]
      exact htoken.glyph
  have hfits : state.currentWidth + token.columns ≤ safeWidth := by
    have hbefore := h.line.fits
    rw [← h.width] at hbefore
    omega
  refine ⟨⟨glyphs ++ [shown token], ⟨⟨hglyph, hbytes, hwidth ▸ hfits⟩, hwidth.symm, ?_, ?_, ?_⟩,
    fun _ => ?_⟩, hfit, fun hstay => by cases hstay⟩
  · cases glyphs with
    | nil =>
      intro hhead
      exact hbegin ⟨hspaceIff.mp (Option.some.inj hhead), h.line.bytes⟩
    | cons glyph glyphs => exact h.head
  · intro lastSpace hlast
    dsimp only at hlast
    split at hlast
    · next hascii =>
      refine ⟨glyphs, [], ?_, ?_, List.not_mem_nil⟩
      · rw [hspaceIff.mpr hascii]
      · rw [← Option.some.inj hlast, h.line.bytes]
    · next hascii =>
      obtain ⟨before, after, hglyphs, hposition, hafter⟩ := h.space lastSpace hlast
      refine ⟨before, after ++ [shown token], ?_, hposition, ?_⟩
      · rw [hglyphs, List.append_assoc]
        rfl
      · rw [List.mem_append, List.mem_singleton, not_or]
        exact ⟨hafter, fun heq => hascii (hspaceIff.mp heq.symm)⟩
  · intro hlast
    dsimp only at hlast
    split at hlast
    · cases hlast
    · next hascii =>
      rw [List.mem_append, List.mem_singleton, not_or]
      exact ⟨h.noSpace hlast, fun heq => hascii (hspaceIff.mp heq.symm)⟩
  · rw [if_pos rfl, hlaid, ink_append, List.append_assoc]

/-- One turn of the loop. -/
theorem wrapToken_spec (hpos : 1 ≤ safeWidth) (htoken : IsToken token) :
    Turned safeWidth maxLines state glyphs token (wrapToken safeWidth maxLines state token) := by
  unfold wrapToken
  dsimp only
  split
  · next hbegin =>
    refine ⟨⟨glyphs, h, fun _ => ?_⟩, hfit, fun hstay => by cases hstay⟩
    rw [ink_skipped hpos htoken fun _ => hbegin.1, List.append_nil]
  · next hbegin =>
    split
    · next hwide => exact turned_wide h hfit hroom hpos hwide
    · next hcolumns =>
      split
      · next hlong =>
        split
        · next lastSpace hspace => exact turned_atSpace h hfit hroom hspace hpos htoken
        · next hspace => exact turned_full h hfit hroom hspace hpos htoken hlong.2 (by omega)
      · next hroomy => exact turned_append h hfit htoken hbegin (by omega) hroomy

omit hroom

/-! ## All turns -/

/-- The loop ends, and what is seen of the tokens is seen on the lines. -/
theorem wrapLoop_spec (hpos : 1 ≤ safeWidth) (fuel : Nat) (found : List TuiTerminalTextToken)
    (htokens : ∀ token ∈ found, IsToken token) (hfuel : 3 * found.length + left state < fuel) :
    ∃ ended glyphs', wrapLoop safeWidth maxLines fuel state found = some ended ∧
      Filling safeWidth ended glyphs' ∧ AllFit safeWidth maxLines ended.lines ∧
      (maxLines = none → inkOf ended.lines ++ ink glyphs' =
        inkOf state.lines ++ ink glyphs ++ ink (found.map (laid safeWidth))) := by
  induction fuel generalizing state glyphs found with
  | zero => omega
  | succ fuel ih =>
    cases found with
    | nil => exact ⟨state, glyphs, rfl, h, hfit, fun _ => (List.append_nil _).symm⟩
    | cons token rest =>
      obtain ⟨htoken, hrest⟩ := List.forall_mem_cons.mp htokens
      rw [wrapLoop]
      split
      · next hfull =>
        refine ⟨state, glyphs, rfl, h, hfit, fun hlimit => ?_⟩
        rw [hlimit] at hfull
        cases hfull
      · next hmore =>
        have hroom : hasRoom maxLines state.lines = true := by simpa using hmore
        obtain ⟨⟨glyphs₁, hfilling, hink⟩, hfit₁, hleft⟩ := wrapToken_spec h hfit hroom hpos htoken
        have hsmall : ∀ turned : WrapState, left turned ≤ 2 := by
          intro turned
          unfold left
          split <;> split <;> omega
        generalize wrapToken safeWidth maxLines state token = turn at hfilling hink hfit₁ hleft
        obtain ⟨turned, moved⟩ := turn
        dsimp only at hfilling hink hfit₁ hleft ⊢
        cases moved with
        | true =>
          have hbound := hsmall turned
          rw [List.length_cons] at hfuel
          obtain ⟨ended, glyphs₂, hloop, hended, hall, hseen⟩ :=
            ih hfilling hfit₁ rest hrest (by omega)
          refine ⟨ended, glyphs₂, hloop, hended, hall, fun hlimit => ?_⟩
          rw [hseen hlimit, hink hlimit, if_pos rfl, List.append_assoc, ← ink_append]
          rfl
        | false =>
          have hless := hleft rfl
          obtain ⟨ended, glyphs₂, hloop, hended, hall, hseen⟩ :=
            ih hfilling hfit₁ (token :: rest) htokens (by omega)
          refine ⟨ended, glyphs₂, hloop, hended, hall, fun hlimit => ?_⟩
          rw [hseen hlimit, hink hlimit]
          simp [ink]

end

/-- The paragraphs are wrapped one after another. -/
theorem wrapParagraphs_spec (hpos : 1 ≤ safeWidth) (hfit : AllFit safeWidth maxLines lines)
    (paragraphs : List Bytes) :
    ∃ wrapped, wrapParagraphs safeWidth maxLines lines paragraphs = some wrapped ∧
      AllFit safeWidth maxLines wrapped ∧ (maxLines = none → inkOf wrapped = inkOf lines ++
        paragraphs.flatMap fun paragraph => ink ((tokens paragraph).map (laid safeWidth))) := by
  induction paragraphs generalizing lines with
  | nil => exact ⟨lines, rfl, hfit, fun _ => (List.append_nil _).symm⟩
  | cons paragraph rest ih =>
    rw [wrapParagraphs]
    split
    · next hfull =>
      refine ⟨lines, rfl, hfit, fun hlimit => ?_⟩
      rw [hlimit] at hfull
      cases hfull
    · have htokens : ∀ token ∈ tokens paragraph, IsToken token := fun token hmem =>
        ⟨(shown_spec paragraph token hmem).1, (shown_spec paragraph token hmem).2⟩
      obtain ⟨ended, glyphs, hloop, hended, hall, hseen⟩ :=
        wrapLoop_spec (filling_nil lines) hfit hpos (3 * (tokens paragraph).length + 1)
          (tokens paragraph) htokens (Nat.lt_succ_self _)
      rw [hloop]
      dsimp only
      have hline := hended.line.trim
      split
      · next hroom =>
        obtain ⟨wrapped, hwrapped, hfits, hink⟩ := ih (hall.push hroom hline)
        refine ⟨wrapped, hwrapped, hfits, fun hlimit => ?_⟩
        have hlast : inkOf [trimTrailingAsciiSpaces ended.current] = ink glyphs := by
          rw [inkOf, List.flatMap_singleton, hline.ink, ink_trim]
        rw [hink hlimit, inkOf_append, hlast, hseen hlimit, List.flatMap_cons, List.append_assoc]
        simp [ink]
      · next hfull =>
        obtain ⟨wrapped, hwrapped, hfits, hink⟩ := ih hall
        refine ⟨wrapped, hwrapped, hfits, fun hlimit => ?_⟩
        rw [hlimit] at hfull
        exact absurd rfl hfull

/-! ## The tokens of a paragraph -/

def newlineToken : TuiTerminalTextToken := { bytes := [10], valid := true }

/-- A sequence does not reach over the end of a line. -/
theorem firstToken_newline {text : Bytes} (hne : text ≠ []) (rest : Bytes) :
    firstToken (text ++ 10 :: rest) = firstToken text := by
  obtain ⟨lead, tail, rfl⟩ := List.exists_cons_of_ne_nil hne
  have hsame : sequenceTail lead (tail ++ 10 :: rest) = sequenceTail lead tail := by
    unfold sequenceTail
    cases hlength : sequenceLength lead with
    | none => rfl
    | some length =>
      simp only [Option.bind_eq_bind, Option.bind_some]
      by_cases hlong : length - 1 ≤ tail.length
      · rw [List.take_append_of_le_length hlong]
      · have hshort : (tail.take (length - 1)).length ≠ length - 1 := by
          rw [List.length_take]
          omega
        have hnewline : (10 : Byte) ∈ (tail ++ 10 :: rest).take (length - 1) := by
          obtain ⟨more, hmore⟩ := Nat.exists_eq_add_of_lt (Nat.lt_of_not_le hlong)
          rw [hmore, Nat.add_assoc, List.take_length_add_append]
          simp
        have hstops : ¬((tail ++ 10 :: rest).take (length - 1)).all Utf8.isContinuation = true :=
          fun hall => absurd (List.all_eq_true.mp hall 10 hnewline) (by decide)
        rw [if_neg fun hguard => hstops hguard.2.1, if_neg fun hguard => hshort hguard.1]
  rw [List.cons_append, firstToken, firstToken, hsame]

theorem tokens_newline (text rest : Bytes) :
    tokens (text ++ 10 :: rest) = tokens text ++ newlineToken :: tokens rest := by
  induction text using tokens_induction with
  | hnil =>
    have hnewline : IsGlyph newlineToken := ⟨rfl, by decide⟩
    exact tokens_cons hnewline rest
  | hcons text hne ih =>
    rw [tokens_of_ne_nil (List.append_ne_nil_of_left_ne_nil hne _), tokens_of_ne_nil hne,
      firstToken_newline hne, List.drop_append_of_le_length (prefix_firstToken text).length_le, ih]
    rfl

theorem newline_not_mem {text : Bytes} (h : (10 : Byte) ∉ text) : newlineToken ∉ tokens text := by
  intro hmem
  refine h ?_
  rw [← bytesOf_tokens text]
  exact List.mem_flatMap.mpr ⟨newlineToken, hmem, List.mem_cons_self⟩

/-- The tokens that are seen of a text of several lines. -/
def inkOfText (text : Bytes) : List TuiTerminalTextToken :=
  (tokens text).filter fun token => token ≠ spaceToken ∧ token ≠ newlineToken

theorem laid_eq_space (hpos : 1 ≤ safeWidth) : laid safeWidth token = spaceToken ↔ token = spaceToken := by
  constructor
  · intro hlaid
    unfold laid at hlaid
    split at hlaid
    · exact hlaid
    · exact absurd hlaid (by decide)
  · rintro rfl
    exact if_pos ⟨rfl, hpos⟩

theorem ink_paragraph (hpos : 1 ≤ safeWidth) {paragraph : Bytes} (h : (10 : Byte) ∉ paragraph) :
    ink ((tokens paragraph).map (laid safeWidth)) = (inkOfText paragraph).map (laid safeWidth) := by
  unfold ink inkOfText
  rw [List.filter_map]
  refine congrArg (List.map _) (List.filter_congr fun token htoken => ?_)
  have hother : token ≠ newlineToken := fun heq => newline_not_mem h (heq ▸ htoken)
  simp [laid_eq_space hpos, hother]

/-- What is seen of a text is seen in its paragraphs. -/
theorem ink_join (hpos : 1 ≤ safeWidth) (paragraphs : List Bytes)
    (h : ∀ paragraph ∈ paragraphs, (10 : Byte) ∉ paragraph) :
    (paragraphs.flatMap fun paragraph => ink ((tokens paragraph).map (laid safeWidth))) =
      (inkOfText (Separated.join 10 paragraphs)).map (laid safeWidth) := by
  induction paragraphs with
  | nil => rfl
  | cons paragraph rest ih =>
    obtain ⟨hfirst, hrest⟩ := List.forall_mem_cons.mp h
    rw [List.flatMap_cons, ink_paragraph hpos hfirst, ih hrest]
    cases rest with
    | nil => simp [Separated.join, inkOfText]
    | cons second rest =>
      rw [Separated.join_cons_cons]
      unfold inkOfText
      rw [tokens_newline, List.filter_append, List.filter_cons_of_neg (by simp), List.map_append]

/-! ## The layout -/

/-- What is promised of the layout of a text. -/
structure LaysOut (text : Bytes) (width : Nat) (maxLines : Option Nat) : Prop where
  wrapped : ∃ lines, wrapToTerminalWidth text width maxLines = some lines ∧
    (∀ limit, maxLines = some limit → lines.length ≤ limit) ∧
    (∀ line ∈ lines, terminalDisplayWidth line ≤ max 1 width) ∧
    (maxLines = none → inkOf lines = (inkOfText text).map (laid (max 1 width)))
  again : truncateToTerminalWidth (truncateToTerminalWidth text width) width =
    truncateToTerminalWidth text width
  truncated : terminalDisplayWidth (truncateToTerminalWidth text width) ≤ width
  kept : ∃ found, found <+: tokens text ∧
    tokens (truncateToTerminalWidth text width) = found.map shown
  padded : terminalDisplayWidth (padToTerminalWidth text width) = width
  forth : ∀ offset, OnTokenBoundary text offset → offset < text.length →
    offset < nextTerminalTextOffset text offset ∧
      previousTerminalTextOffset text (nextTerminalTextOffset text offset) = offset
  back : ∀ offset, OnTokenBoundary text offset → 0 < offset →
    previousTerminalTextOffset text offset < offset ∧
      nextTerminalTextOffset text (previousTerminalTextOffset text offset) = offset
  clamped : ∀ offset, clampToTerminalTextOffset text offset ≤ offset ∧
    clampToTerminalTextOffset text (clampToTerminalTextOffset text offset) =
      clampToTerminalTextOffset text offset

theorem wrap_spec (text : Bytes) (width : Nat) (maxLines : Option Nat) :
    ∃ lines, wrapToTerminalWidth text width maxLines = some lines ∧
      (∀ limit, maxLines = some limit → lines.length ≤ limit) ∧
      (∀ line ∈ lines, terminalDisplayWidth line ≤ max 1 width) ∧
      (maxLines = none → inkOf lines = (inkOfText text).map (laid (max 1 width))) := by
  have hsafe : (if width = 0 then 1 else width) = max 1 width := by
    split
    · omega
    · omega
  have hpos : 1 ≤ max 1 width := Nat.le_max_left 1 width
  unfold wrapToTerminalWidth
  rw [hsafe]
  split
  · next hzero =>
    refine ⟨[], rfl, fun limit _ => Nat.zero_le limit, by simp, fun hlimit => ?_⟩
    rw [hlimit] at hzero
    cases hzero
  · next hsome =>
    have hnone : AllFit (max 1 width) maxLines [] := ⟨by simp, fun _ _ => Nat.zero_le _⟩
    obtain ⟨wrapped, hwrapped, hfit, hink⟩ := wrapParagraphs_spec hpos hnone (text.splitOn 10)
    have hseen : maxLines = none → inkOf wrapped = (inkOfText text).map (laid (max 1 width)) := by
      intro hlimit
      have hjoin : Separated.join 10 (text.splitOn 10) = text := List.intercalate_splitOn 10
      rw [hink hlimit, ink_join hpos _ (Separated.not_mem_of_mem_splitOn 10 text), hjoin]
      rfl
    rw [hwrapped, Option.map_some]
    refine ⟨_, rfl, ?_⟩
    split
    · next hempty =>
      refine ⟨fun limit hlimit => ?_, by simp [terminalDisplayWidth, widthOf], fun hlimit => ?_⟩
      · rw [hlimit] at hsome
        rw [List.length_singleton]
        exact Nat.one_le_iff_ne_zero.mpr fun hzero => hsome (congrArg some hzero)
      · rw [← hseen hlimit, hempty]
        rfl
    · refine ⟨hfit.count, fun line hline => ?_, hseen⟩
      obtain ⟨glyphs, hglyphs⟩ := hfit.fits line hline
      unfold terminalDisplayWidth
      rw [hglyphs.bytes, tokens_bytesOf hglyphs.glyph]
      exact hglyphs.fits

theorem laysOut (text : Bytes) (width : Nat) (maxLines : Option Nat) : LaysOut text width maxLines where
  wrapped := wrap_spec text width maxLines
  again := truncate_truncate text width
  truncated := terminalDisplayWidth_truncate text width
  kept := ⟨_, prefix_fitting width 0 (tokens text), tokens_truncate text width⟩
  padded := terminalDisplayWidth_pad text width
  forth := by
    rintro offset ⟨before, after, htokens, rfl⟩ hinside
    cases after with
    | nil =>
      rw [List.append_nil] at htokens
      rw [← htokens, bytesOf_tokens] at hinside
      exact absurd hinside (Nat.lt_irrefl _)
    | cons token after =>
      have htoken : token ∈ tokens text := by
        rw [htokens]
        exact List.mem_append_right _ List.mem_cons_self
      have hpos := tokens_pos token htoken
      rw [next_boundary htokens]
      refine ⟨?_, previous_boundary htokens⟩
      rw [bytesOf_append, List.length_append, bytesOf_cons, List.length_append]
      omega
  back := by
    rintro offset ⟨before, after, htokens, rfl⟩ hinside
    rcases List.eq_nil_or_concat before with rfl | ⟨front, token, rfl⟩
    · exact absurd hinside (Nat.lt_irrefl _)
    · rw [List.concat_eq_append, List.append_assoc, List.singleton_append] at htokens
      have htoken : token ∈ tokens text := by
        rw [htokens]
        exact List.mem_append_right _ List.mem_cons_self
      have hpos := tokens_pos token htoken
      rw [List.concat_eq_append, previous_boundary htokens]
      refine ⟨?_, next_boundary htokens⟩
      rw [bytesOf_append, List.length_append, bytesOf_cons, List.length_append]
      omega
  clamped := fun offset => ⟨(clamp_spec text offset).1, (clamp_spec text offset).2.clamp⟩

/-- An invalid byte is not kept. -/
theorem truncate_not_prefix : ¬ truncateToTerminalWidth [0xFF] 1 <+: [0xFF] := by
  decide

end Dasall.Apps.Tui
