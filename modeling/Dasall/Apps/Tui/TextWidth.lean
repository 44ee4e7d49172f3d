import Dasall.Lib.Utf8

/-!
# The width of text on a terminal

A text is read one token at a time, a UTF-8 sequence or a byte that starts none. The loops of the
source over a text are loops over its tokens here.
-/

open Dasall.Lib.Text
open Dasall.Lib.Utf8 (Encodes encode encodes_encode isContinuation Valid)

namespace Dasall.Apps.Tui

/-! ## Tokens -/

structure TuiTerminalTextToken where
  bytes : Bytes := []
  columns : Nat := 0
  valid : Bool := false
deriving DecidableEq

def isZeroWidthCodePoint (codePoint : Nat) : Bool :=
  (0x0300 ≤ codePoint && codePoint ≤ 0x036F) || (0x1AB0 ≤ codePoint && codePoint ≤ 0x1AFF) ||
    (0x1DC0 ≤ codePoint && codePoint ≤ 0x1DFF) || codePoint = 0x200D ||
    (0x20D0 ≤ codePoint && codePoint ≤ 0x20FF) || (0xFE00 ≤ codePoint && codePoint ≤ 0xFE0F) ||
    (0xFE20 ≤ codePoint && codePoint ≤ 0xFE2F)

def isWideCodePoint (codePoint : Nat) : Bool :=
  (0x1100 ≤ codePoint && codePoint ≤ 0x115F) || codePoint = 0x2329 || codePoint = 0x232A ||
    (0x2E80 ≤ codePoint && codePoint ≤ 0xA4CF && codePoint ≠ 0x303F) ||
    (0xAC00 ≤ codePoint && codePoint ≤ 0xD7A3) || (0xF900 ≤ codePoint && codePoint ≤ 0xFAFF) ||
    (0xFE10 ≤ codePoint && codePoint ≤ 0xFE19) || (0xFE30 ≤ codePoint && codePoint ≤ 0xFE6F) ||
    (0xFF00 ≤ codePoint && codePoint ≤ 0xFF60) || (0xFFE0 ≤ codePoint && codePoint ≤ 0xFFE6) ||
    (0x1F300 ≤ codePoint && codePoint ≤ 0x1FAFF) || (0x20000 ≤ codePoint && codePoint ≤ 0x3FFFD)

def codePointColumns (codePoint : Nat) : Nat :=
  if codePoint = 9 then 1
  else if codePoint < 0x20 ∨ (0x7F ≤ codePoint ∧ codePoint < 0xA0) then 0
  else if isZeroWidthCodePoint codePoint then 0
  else if isWideCodePoint codePoint then 2
  else 1

def isValidCodePoint (codePoint : Nat) : Bool :=
  codePoint ≤ 0x10FFFF && !(0xD800 ≤ codePoint && codePoint ≤ 0xDFFF)

/-- The length that a lead byte announces, by its mask. -/
def sequenceLength (lead : Byte) : Option Nat :=
  if 0xC0 ≤ lead.toNat ∧ lead.toNat < 0xE0 then some 2
  else if 0xE0 ≤ lead.toNat ∧ lead.toNat < 0xF0 then some 3
  else if 0xF0 ≤ lead.toNat ∧ lead.toNat < 0xF8 then some 4
  else none

/-- The low bits of the lead byte, and six bits of every byte after it. -/
def codePointOf (lead : Byte) (tail : Bytes) : Nat :=
  tail.foldl (fun codePoint byte => codePoint * 64 + byte.toNat % 64)
    (lead.toNat % 2 ^ (6 - tail.length))

def isOverlong (length codePoint : Nat) : Bool :=
  (length = 2 && codePoint < 0x80) || (length = 3 && codePoint < 0x800) ||
    (length = 4 && codePoint < 0x10000)

/-- The bytes after the lead byte, where they make a sequence with it. -/
def sequenceTail (lead : Byte) (rest : Bytes) : Option Bytes := do
  let length ← sequenceLength lead
  let tail := rest.take (length - 1)
  if tail.length = length - 1 ∧ tail.all isContinuation = true ∧
      isOverlong length (codePointOf lead tail) = false ∧
      isValidCodePoint (codePointOf lead tail) = true then
    some tail
  else none

/-- The first token of a text. -/
def firstToken : Bytes → TuiTerminalTextToken
  | [] => {}
  | lead :: rest =>
    if lead.toNat < 0x80 then
      { bytes := [lead], columns := codePointColumns lead.toNat, valid := true }
    else
      match sequenceTail lead rest with
      | some tail =>
        { bytes := lead :: tail, columns := codePointColumns (codePointOf lead tail), valid := true }
      | none => { bytes := [lead], columns := 1 }

def nextTerminalTextToken (text : Bytes) (offset : Nat) : TuiTerminalTextToken :=
  firstToken (text.drop offset)

/-- The tokens of a text, no more than the fuel. -/
def tokensWithin : Nat → Bytes → List TuiTerminalTextToken
  | 0, _ => []
  | fuel + 1, text =>
    if text = [] then []
    else firstToken text :: tokensWithin fuel (text.drop (firstToken text).bytes.length)

def tokens (text : Bytes) : List TuiTerminalTextToken := tokensWithin text.length text

def bytesOf (tokens : List TuiTerminalTextToken) : Bytes := tokens.flatMap (·.bytes)

/-! ## Offsets -/

/-- The walk from a cursor to the last token that starts no later than the offset. -/
def clampFrom (offset : Nat) : Nat → List TuiTerminalTextToken → Nat
  | cursor, [] => cursor
  | cursor, token :: rest =>
    if offset < cursor + token.bytes.length then cursor
    else clampFrom offset (cursor + token.bytes.length) rest

def clampToTerminalTextOffset (text : Bytes) (offset : Nat) : Nat :=
  if text.length ≤ offset then text.length else clampFrom offset 0 (tokens text)

def nextTerminalTextOffset (text : Bytes) (offset : Nat) : Nat :=
  let cursor := clampToTerminalTextOffset text offset
  if text.length ≤ cursor then text.length
  else cursor + (nextTerminalTextToken text cursor).bytes.length

/-- The walk to the target, with the token it came over last. -/
def previousFrom (target : Nat) : Nat → Nat → List TuiTerminalTextToken → Nat
  | previous, _, [] => previous
  | previous, cursor, token :: rest =>
    if cursor < target then previousFrom target cursor (cursor + token.bytes.length) rest
    else previous

def previousTerminalTextOffset (text : Bytes) (offset : Nat) : Nat :=
  let target := clampToTerminalTextOffset text offset
  if target = 0 then 0 else previousFrom target 0 0 (tokens text)

/-! ## Widths -/

def widthOf (tokens : List TuiTerminalTextToken) : Nat := (tokens.map (·.columns)).sum

def terminalDisplayWidth (text : Bytes) : Nat := widthOf (tokens text)

/-- The bytes that stand for a token in what is shown. -/
def rendered (token : TuiTerminalTextToken) : Bytes := if token.valid then token.bytes else [63]

def truncateLoop (width : Nat) : Nat → List TuiTerminalTextToken → Bytes
  | _, [] => []
  | used, token :: rest =>
    if 0 < token.columns ∧ width < used + token.columns then []
    else rendered token ++ truncateLoop width (used + token.columns) rest

def truncateToTerminalWidth (text : Bytes) (width : Nat) : Bytes :=
  truncateLoop width 0 (tokens text)

def padToTerminalWidth (text : Bytes) (width : Nat) : Bytes :=
  let truncated := truncateToTerminalWidth text width
  truncated ++ List.replicate (width - terminalDisplayWidth truncated) 32

/-! ## The tokens of a text -/

theorem sequenceTail_spec {lead : Byte} {rest tail : Bytes} (h : sequenceTail lead rest = some tail) :
    (∃ length, sequenceLength lead = some length ∧ tail.length = length - 1 ∧
      isOverlong length (codePointOf lead tail) = false) ∧ tail <+: rest ∧
      tail.all isContinuation = true ∧ isValidCodePoint (codePointOf lead tail) = true := by
  unfold sequenceTail at h
  obtain ⟨length, hlength, hguard⟩ := Option.bind_eq_some_iff.mp h
  dsimp only at hguard
  split at hguard
  · next hok =>
    obtain ⟨hfull, hall, hlong, hvalid⟩ := hok
    cases hguard
    exact ⟨⟨length, hlength, hfull, hlong⟩, List.take_prefix _ _, hall, hvalid⟩
  · cases hguard

/-- What stands behind a sequence does not matter. -/
theorem sequenceTail_append {lead : Byte} {rest tail : Bytes} (h : sequenceTail lead rest = some tail)
    (other : Bytes) : sequenceTail lead (tail ++ other) = some tail := by
  obtain ⟨⟨length, hlength, hfull, hlong⟩, -, hall, hvalid⟩ := sequenceTail_spec h
  unfold sequenceTail
  have htake : (tail ++ other).take (length - 1) = tail := by
    rw [← hfull, List.take_left]
  rw [hlength, Option.bind_eq_bind, Option.bind_some]
  simp only [htake, hfull, hall, hlong, hvalid, and_self, if_true]

variable {text : Bytes} {token : TuiTerminalTextToken} {before after : List TuiTerminalTextToken}

theorem prefix_firstToken (text : Bytes) : (firstToken text).bytes <+: text := by
  cases text with
  | nil => exact List.prefix_refl _
  | cons lead rest =>
    rw [firstToken]
    split
    · exact ⟨rest, rfl⟩
    · split
      · next tail htail => exact (List.prefix_cons_inj lead).mpr (sequenceTail_spec htail).2.1
      · exact ⟨rest, rfl⟩

theorem firstToken_pos (h : text ≠ []) : 0 < (firstToken text).bytes.length := by
  cases text with
  | nil => exact absurd rfl h
  | cons lead rest =>
    rw [firstToken]
    split
    · exact Nat.one_pos
    · split
      · exact Nat.succ_pos _
      · exact Nat.one_pos

/-- A valid token is found again in front of any text. -/
theorem firstToken_append (h : (firstToken text).valid = true) (other : Bytes) :
    firstToken ((firstToken text).bytes ++ other) = firstToken text := by
  cases text with
  | nil => cases h
  | cons lead rest =>
    rw [firstToken] at h ⊢
    by_cases hlead : lead.toNat < 0x80
    · rw [if_pos hlead]
      simp [firstToken, hlead]
    · rw [if_neg hlead] at h ⊢
      cases htail : sequenceTail lead rest with
      | none =>
        rw [htail] at h
        cases h
      | some tail =>
        dsimp only [List.cons_append]
        rw [firstToken, if_neg hlead, sequenceTail_append htail]

theorem invalid_columns (h : text ≠ []) (hvalid : (firstToken text).valid = false) :
    (firstToken text).columns = 1 := by
  cases text with
  | nil => exact absurd rfl h
  | cons lead rest =>
    rw [firstToken] at hvalid ⊢
    split at hvalid
    · cases hvalid
    · next hlead =>
      rw [if_neg hlead]
      cases htail : sequenceTail lead rest with
      | none => rfl
      | some tail =>
        rw [htail] at hvalid
        cases hvalid

theorem tokensWithin_of_le (first second : Nat) (text : Bytes) (hfirst : text.length ≤ first)
    (hsecond : text.length ≤ second) : tokensWithin first text = tokensWithin second text := by
  induction first generalizing second text with
  | zero =>
    rw [List.eq_nil_of_length_eq_zero (Nat.le_zero.mp hfirst)]
    cases second with
    | zero => rfl
    | succ second => simp [tokensWithin]
  | succ first ih =>
    by_cases hempty : text = []
    · rw [hempty]
      cases second with
      | zero => simp [tokensWithin]
      | succ second => simp [tokensWithin]
    · have hpos := firstToken_pos hempty
      cases second with
      | zero => exact absurd (List.eq_nil_of_length_eq_zero (Nat.le_zero.mp hsecond)) hempty
      | succ second =>
        rw [tokensWithin, tokensWithin, if_neg hempty, if_neg hempty]
        refine congrArg (firstToken text :: ·) (ih second _ ?_ ?_)
        · rw [List.length_drop]
          omega
        · rw [List.length_drop]
          omega

@[simp] theorem tokens_nil : tokens [] = [] := rfl

theorem tokens_of_ne_nil (h : text ≠ []) :
    tokens text = firstToken text :: tokens (text.drop (firstToken text).bytes.length) := by
  obtain ⟨lead, rest, rfl⟩ := List.exists_cons_of_ne_nil h
  have hpos := firstToken_pos h
  unfold tokens
  rw [List.length_cons, tokensWithin, if_neg h]
  refine congrArg (firstToken (lead :: rest) :: ·) (tokensWithin_of_le _ _ _ ?_ le_rfl)
  rw [List.length_drop, List.length_cons]
  omega

/-- A text is read token by token. -/
theorem tokens_induction {motive : Bytes → Prop} (hnil : motive [])
    (hcons : ∀ text, text ≠ [] → motive (text.drop (firstToken text).bytes.length) → motive text)
    (text : Bytes) : motive text := by
  induction hlength : text.length using Nat.strong_induction_on generalizing text with
  | _ n ih =>
    by_cases hempty : text = []
    · rw [hempty]
      exact hnil
    · have hpos := firstToken_pos hempty
      have hlong := List.length_pos_iff.mpr hempty
      refine hcons text hempty (ih _ ?_ _ rfl)
      rw [List.length_drop]
      omega

theorem bytes_append_drop (text : Bytes) :
    (firstToken text).bytes ++ text.drop (firstToken text).bytes.length = text :=
  List.prefix_iff_eq_append.mp (prefix_firstToken text)

theorem bytesOf_tokens (text : Bytes) : bytesOf (tokens text) = text := by
  induction text using tokens_induction with
  | hnil => rfl
  | hcons text hne ih =>
    rw [tokens_of_ne_nil hne, bytesOf, List.flatMap_cons]
    exact (congrArg _ ih).trans (bytes_append_drop text)

theorem tokens_pos : ∀ token ∈ tokens text, 0 < token.bytes.length := by
  induction text using tokens_induction with
  | hnil => simp
  | hcons text hne ih =>
    rw [tokens_of_ne_nil hne, List.forall_mem_cons]
    exact ⟨firstToken_pos hne, ih⟩

/-- The tokens behind some of the tokens are those of the text behind them. -/
theorem tokens_drop (h : tokens text = before ++ after) :
    tokens (text.drop (bytesOf before).length) = after := by
  induction before generalizing text with
  | nil => simpa [bytesOf] using h
  | cons token before ih =>
    have hne : text ≠ [] := by
      rintro rfl
      simp at h
    rw [tokens_of_ne_nil hne, List.cons_append] at h
    obtain ⟨rfl, hrest⟩ := List.cons.inj h
    have hsplit : bytesOf (firstToken text :: before) = (firstToken text).bytes ++ bytesOf before :=
      List.flatMap_cons
    rw [hsplit, List.length_append, ← List.drop_drop]
    exact ih hrest

/-! ## Glyphs -/

/-- A valid token, which its own bytes give back. -/
structure IsGlyph (token : TuiTerminalTextToken) : Prop where
  valid : token.valid = true
  first : firstToken token.bytes = token

theorem IsGlyph.append (h : IsGlyph token) (other : Bytes) :
    firstToken (token.bytes ++ other) = token := by
  have hvalid : (firstToken token.bytes).valid = true := by
    rw [h.first]
    exact h.valid
  have hfirst := firstToken_append hvalid other
  rwa [h.first] at hfirst

theorem IsGlyph.ne_nil (h : IsGlyph token) : token.bytes ≠ [] := by
  intro hempty
  have hfirst := h.first
  rw [hempty] at hfirst
  have hvalid := h.valid
  rw [← hfirst] at hvalid
  cases hvalid

theorem tokens_cons (h : IsGlyph token) (other : Bytes) :
    tokens (token.bytes ++ other) = token :: tokens other := by
  rw [tokens_of_ne_nil (List.append_ne_nil_of_left_ne_nil h.ne_nil _), h.append, List.drop_left]

variable (token : TuiTerminalTextToken)

@[simp] theorem bytesOf_cons (rest : List TuiTerminalTextToken) :
    bytesOf (token :: rest) = token.bytes ++ bytesOf rest :=
  List.flatMap_cons

@[simp] theorem bytesOf_append (first second : List TuiTerminalTextToken) :
    bytesOf (first ++ second) = bytesOf first ++ bytesOf second :=
  List.flatMap_append

theorem tokens_bytesOf_append {glyphs : List TuiTerminalTextToken} (h : ∀ glyph ∈ glyphs, IsGlyph glyph)
    (other : Bytes) : tokens (bytesOf glyphs ++ other) = glyphs ++ tokens other := by
  induction glyphs with
  | nil => rfl
  | cons glyph glyphs ih =>
    obtain ⟨hglyph, hglyphs⟩ := List.forall_mem_cons.mp h
    rw [bytesOf_cons, List.append_assoc, tokens_cons hglyph, ih hglyphs, List.cons_append]

theorem tokens_bytesOf {glyphs : List TuiTerminalTextToken} (h : ∀ glyph ∈ glyphs, IsGlyph glyph) :
    tokens (bytesOf glyphs) = glyphs := by
  simpa using tokens_bytesOf_append h []

def questionMark : TuiTerminalTextToken := { bytes := [63], columns := 1, valid := true }

def spaceToken : TuiTerminalTextToken := { bytes := [32], columns := 1, valid := true }

theorem isGlyph_questionMark : IsGlyph questionMark := ⟨rfl, by decide⟩

theorem isGlyph_space : IsGlyph spaceToken := ⟨rfl, by decide⟩

/-- The token that is shown for a token. -/
def shown (token : TuiTerminalTextToken) : TuiTerminalTextToken :=
  if token.valid then token else questionMark

theorem rendered_eq : rendered token = (shown token).bytes := by
  unfold rendered shown
  split
  · rfl
  · rfl

theorem shown_shown : shown (shown token) = shown token := by
  by_cases hvalid : token.valid = true
  · simp [shown, hvalid]
  · simp [shown, hvalid, questionMark]

theorem shown_spec (text : Bytes) :
    ∀ token ∈ tokens text, IsGlyph (shown token) ∧ (shown token).columns = token.columns := by
  induction text using tokens_induction with
  | hnil => simp
  | hcons text hne ih =>
    rw [tokens_of_ne_nil hne, List.forall_mem_cons]
    refine ⟨?_, ih⟩
    unfold shown
    split
    · next hvalid =>
      have hself := firstToken_append hvalid []
      rw [List.append_nil] at hself
      exact ⟨⟨hvalid, hself⟩, rfl⟩
    · next hvalid =>
      rw [Bool.not_eq_true] at hvalid
      exact ⟨isGlyph_questionMark, (invalid_columns hne hvalid).symm⟩

/-! ## Truncating and padding -/

/-- The tokens that fit into the width. -/
def fitting (width : Nat) : Nat → List TuiTerminalTextToken → List TuiTerminalTextToken
  | _, [] => []
  | used, token :: rest =>
    if 0 < token.columns ∧ width < used + token.columns then []
    else token :: fitting width (used + token.columns) rest

theorem truncateLoop_eq (width used : Nat) (found : List TuiTerminalTextToken) :
    truncateLoop width used found = bytesOf ((fitting width used found).map shown) := by
  induction found generalizing used with
  | nil => rfl
  | cons token rest ih =>
    unfold truncateLoop fitting
    split
    · rfl
    · rw [ih, List.map_cons, bytesOf_cons, rendered_eq]

theorem prefix_fitting (width used : Nat) (found : List TuiTerminalTextToken) :
    fitting width used found <+: found := by
  induction found generalizing used with
  | nil => exact List.prefix_refl _
  | cons token rest ih =>
    unfold fitting
    split
    · exact List.nil_prefix
    · exact (List.prefix_cons_inj token).mpr (ih _)

theorem fitting_width (width used : Nat) (found : List TuiTerminalTextToken) (h : used ≤ width) :
    used + widthOf (fitting width used found) ≤ width := by
  induction found generalizing used with
  | nil => exact h
  | cons token rest ih =>
    unfold fitting
    split
    · exact h
    · next hfits =>
      have hstep := ih (used + token.columns) (by omega)
      simp only [widthOf, List.map_cons, List.sum_cons] at hstep ⊢
      omega

/-- What fits, fits again, as it is shown. -/
theorem fitting_again (width used : Nat) (found : List TuiTerminalTextToken)
    (h : ∀ token ∈ found, (shown token).columns = token.columns) :
    fitting width used ((fitting width used found).map shown) =
      (fitting width used found).map shown := by
  induction found generalizing used with
  | nil => rfl
  | cons token rest ih =>
    obtain ⟨hcolumns, hrest⟩ := List.forall_mem_cons.mp h
    rw [fitting]
    split
    · rfl
    · next hfits => rw [List.map_cons, fitting, hcolumns, if_neg hfits, ih _ hrest]

variable (text) (width : Nat)

/-- The tokens of a truncated text. -/
theorem tokens_truncate : tokens (truncateToTerminalWidth text width) =
    (fitting width 0 (tokens text)).map shown := by
  unfold truncateToTerminalWidth
  rw [truncateLoop_eq]
  apply tokens_bytesOf
  intro glyph hglyph
  obtain ⟨token, htoken, rfl⟩ := List.mem_map.mp hglyph
  exact (shown_spec text token ((prefix_fitting width 0 (tokens text)).subset htoken)).1

theorem width_shown {found : List TuiTerminalTextToken}
    (h : ∀ token ∈ found, (shown token).columns = token.columns) :
    widthOf (found.map shown) = widthOf found := by
  unfold widthOf
  rw [List.map_map]
  exact congrArg List.sum (List.map_congr_left h)

theorem terminalDisplayWidth_truncate :
    terminalDisplayWidth (truncateToTerminalWidth text width) ≤ width := by
  unfold terminalDisplayWidth
  rw [tokens_truncate, width_shown]
  · simpa using fitting_width width 0 (tokens text) (Nat.zero_le _)
  · intro token htoken
    exact (shown_spec text token ((prefix_fitting width 0 (tokens text)).subset htoken)).2

theorem truncate_truncate :
    truncateToTerminalWidth (truncateToTerminalWidth text width) width =
      truncateToTerminalWidth text width := by
  have hagain := fitting_again width 0 (tokens text) fun token htoken => (shown_spec text token htoken).2
  have htokens := tokens_truncate text width
  rw [← bytesOf_tokens (truncateToTerminalWidth (truncateToTerminalWidth text width) width),
    tokens_truncate, htokens, hagain, List.map_map]
  rw [← bytesOf_tokens (truncateToTerminalWidth text width), htokens]
  exact congrArg bytesOf (List.map_congr_left fun token _ => shown_shown token)

theorem terminalDisplayWidth_pad : terminalDisplayWidth (padToTerminalWidth text width) = width := by
  have htruncated := terminalDisplayWidth_truncate text width
  have hglyphs : ∀ glyph ∈ tokens (truncateToTerminalWidth text width), IsGlyph glyph := by
    rw [tokens_truncate]
    intro glyph hglyph
    obtain ⟨token, htoken, rfl⟩ := List.mem_map.mp hglyph
    exact (shown_spec text token ((prefix_fitting width 0 (tokens text)).subset htoken)).1
  have hspaces : ∀ n, tokens (List.replicate n 32) = List.replicate n spaceToken := by
    intro n
    induction n with
    | zero => rfl
    | succ n ih =>
      rw [List.replicate_succ, List.replicate_succ, ← ih]
      exact tokens_cons isGlyph_space _
  unfold padToTerminalWidth
  dsimp only
  generalize hmissing : width - terminalDisplayWidth (truncateToTerminalWidth text width) = missing
  have hsplit := tokens_bytesOf_append hglyphs (List.replicate missing 32)
  rw [bytesOf_tokens] at hsplit
  unfold terminalDisplayWidth at hmissing htruncated ⊢
  rw [hsplit, hspaces, widthOf, List.map_append, List.sum_append, List.map_replicate,
    List.sum_replicate_nat]
  change widthOf _ + missing * 1 = width
  omega

/-! ## Walking over the tokens -/

/-- The offset lies between two tokens, or at an end. -/
def OnTokenBoundary (offset : Nat) : Prop :=
  ∃ before after, tokens text = before ++ after ∧ offset = (bytesOf before).length

variable {text} {offset : Nat}

theorem OnTokenBoundary.le (h : OnTokenBoundary text offset) : offset ≤ text.length := by
  obtain ⟨before, after, htokens, rfl⟩ := h
  rw [← bytesOf_tokens text, htokens, bytesOf_append, List.length_append]
  exact Nat.le_add_right _ _

theorem boundary_length : OnTokenBoundary text text.length :=
  ⟨tokens text, [], (List.append_nil _).symm, by rw [bytesOf_tokens]⟩

theorem clampFrom_spec (offset cursor : Nat) (found : List TuiTerminalTextToken)
    (h : cursor ≤ offset) :
    clampFrom offset cursor found ≤ offset ∧ ∃ before after, found = before ++ after ∧
      clampFrom offset cursor found = cursor + (bytesOf before).length := by
  induction found generalizing cursor with
  | nil => exact ⟨h, [], [], rfl, rfl⟩
  | cons token rest ih =>
    unfold clampFrom
    split
    · exact ⟨h, [], token :: rest, rfl, rfl⟩
    · next hbehind =>
      obtain ⟨hle, before, after, hfound, hclamp⟩ := ih (cursor + token.bytes.length) (by omega)
      refine ⟨hle, token :: before, after, by rw [hfound]; rfl, ?_⟩
      rw [hclamp, bytesOf_cons, List.length_append, Nat.add_assoc]

theorem clamp_spec (text : Bytes) (offset : Nat) :
    clampToTerminalTextOffset text offset ≤ offset ∧
      OnTokenBoundary text (clampToTerminalTextOffset text offset) := by
  unfold clampToTerminalTextOffset
  split
  · next hend => exact ⟨hend, boundary_length⟩
  · obtain ⟨hle, before, after, htokens, hclamp⟩ :=
      clampFrom_spec offset 0 (tokens text) (Nat.zero_le _)
    exact ⟨hle, before, after, htokens, hclamp.trans (Nat.zero_add _)⟩

theorem clampFrom_boundary (cursor : Nat) (before after : List TuiTerminalTextToken)
    (hpos : ∀ token ∈ after, 0 < token.bytes.length) :
    clampFrom (cursor + (bytesOf before).length) cursor (before ++ after) =
      cursor + (bytesOf before).length := by
  induction before generalizing cursor with
  | nil =>
    cases after with
    | nil => rfl
    | cons token after =>
      have hfirst := hpos token List.mem_cons_self
      rw [List.nil_append, clampFrom, if_pos (by simpa [bytesOf] using hfirst)]
      rfl
  | cons token before ih =>
    rw [List.cons_append, clampFrom, bytesOf_cons, List.length_append, ← Nat.add_assoc,
      if_neg (by omega)]
    exact ih _

/-- An offset on a boundary stays where it is. -/
theorem OnTokenBoundary.clamp (h : OnTokenBoundary text offset) :
    clampToTerminalTextOffset text offset = offset := by
  unfold clampToTerminalTextOffset
  split
  · next hend => exact Nat.le_antisymm hend h.le
  · obtain ⟨before, after, htokens, rfl⟩ := h
    have hpos : ∀ token ∈ after, 0 < token.bytes.length := by
      intro token htoken
      exact tokens_pos token (by rw [htokens]; exact List.mem_append_right _ htoken)
    have hwalk := clampFrom_boundary 0 before after hpos
    rwa [Nat.zero_add, ← htokens] at hwalk

theorem next_boundary {token : TuiTerminalTextToken} (h : tokens text = before ++ token :: after) :
    nextTerminalTextOffset text (bytesOf before).length = (bytesOf (before ++ [token])).length := by
  have hclamp := OnTokenBoundary.clamp ⟨before, token :: after, h, rfl⟩
  have hdrop := tokens_drop h
  have hlength : (bytesOf before).length < text.length := by
    have hpos := @tokens_pos text token (by rw [h]; exact List.mem_append_right _ List.mem_cons_self)
    rw [← bytesOf_tokens text, h, bytesOf_append, bytesOf_cons, List.length_append,
      List.length_append]
    omega
  unfold nextTerminalTextOffset nextTerminalTextToken
  dsimp only
  rw [hclamp, if_neg (by omega)]
  have hne : text.drop (bytesOf before).length ≠ [] := by
    rw [Ne, List.drop_eq_nil_iff]
    omega
  rw [tokens_of_ne_nil hne] at hdrop
  rw [(List.cons.inj hdrop).1, bytesOf_append, List.length_append, bytesOf_cons]
  simp [bytesOf]

theorem previousFrom_boundary (previous cursor : Nat) (before after : List TuiTerminalTextToken)
    (token : TuiTerminalTextToken)
    (hpos : ∀ other ∈ before ++ token :: after, 0 < other.bytes.length) :
    previousFrom (cursor + (bytesOf (before ++ [token])).length) previous cursor
        (before ++ token :: after) = cursor + (bytesOf before).length := by
  have htoken := hpos token (List.mem_append_right _ List.mem_cons_self)
  induction before generalizing previous cursor with
  | nil =>
    rw [List.nil_append, List.nil_append, previousFrom, if_pos (by simp [bytesOf]; omega)]
    cases after with
    | nil => rfl
    | cons next after => rw [previousFrom, if_neg (by simp [bytesOf])]; rfl
  | cons first before ih =>
    obtain ⟨hfirst, hrest⟩ := List.forall_mem_cons.mp hpos
    rw [List.cons_append, List.cons_append, bytesOf_cons, List.length_append, previousFrom,
      if_pos (by omega), bytesOf_cons, List.length_append, ← Nat.add_assoc, ← Nat.add_assoc]
    exact ih _ _ hrest

theorem previous_boundary {token : TuiTerminalTextToken}
    (h : tokens text = before ++ token :: after) :
    previousTerminalTextOffset text (bytesOf (before ++ [token])).length = (bytesOf before).length := by
  have hboundary : OnTokenBoundary text (bytesOf (before ++ [token])).length :=
    ⟨before ++ [token], after, by rw [h, List.append_assoc]; rfl, rfl⟩
  have hpos : ∀ other ∈ before ++ token :: after, 0 < other.bytes.length := by
    rw [← h]
    exact tokens_pos
  have htoken := hpos token (List.mem_append_right _ List.mem_cons_self)
  have hne : (bytesOf (before ++ [token])).length ≠ 0 := by
    rw [bytesOf_append, bytesOf_cons, List.length_append, List.length_append]
    omega
  unfold previousTerminalTextOffset
  dsimp only
  rw [hboundary.clamp, if_neg hne, h]
  simpa using previousFrom_boundary 0 0 before after token hpos

end Dasall.Apps.Tui
