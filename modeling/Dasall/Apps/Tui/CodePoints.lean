import Dasall.Apps.Tui.TextWidth

/-!
# Code points and tokens

The tokens of valid UTF-8 are its characters, so that a token boundary is a boundary of characters.
-/

open Dasall.Lib.Text Dasall.Lib.Utf8

namespace Dasall.Apps.Tui

theorem sequenceTail_char (length : Nat) (c : Char) {lead : Byte} {tail : Bytes}
    (hlength : sequenceLength lead = some length) (hfull : tail.length = length - 1)
    (hall : tail.all isContinuation = true) (hcode : codePointOf lead tail = c.toNat)
    (hleast : isOverlong length c.toNat = false) : sequenceTail lead tail = some tail := by
  have hrange := char_range c
  have hvalid : isValidCodePoint c.toNat = true := by
    simp only [isValidCodePoint, Bool.and_eq_true, Bool.not_eq_true', Bool.and_eq_false_iff,
      decide_eq_true_eq, decide_eq_false_iff_not]
    omega
  have htake : tail.take (length - 1) = tail := by
    rw [← hfull, List.take_length]
  unfold sequenceTail
  rw [hlength, Option.bind_eq_bind, Option.bind_some]
  simp only [htake, hfull, hall, hcode, hleast, hvalid, and_self, if_true]

/-- The token of a character. -/
def charToken (c : Char) : TuiTerminalTextToken := firstToken (encode c)

theorem charToken_spec (c : Char) : (charToken c).bytes = encode c ∧ (charToken c).valid = true := by
  have hencodes := encodes_encode c
  unfold charToken
  generalize encode c = text at hencodes
  have hsequence : ∀ (lead : Byte) (tail : Bytes), text = lead :: tail → 0x80 ≤ lead.toNat →
      sequenceTail lead tail = some tail →
      (firstToken text).bytes = text ∧ (firstToken text).valid = true := by
    rintro lead tail rfl hlead htail
    rw [firstToken, if_neg (by omega), htail]
    exact ⟨rfl, rfl⟩
  cases hencodes with
  | one a ha hc =>
    rw [firstToken, if_pos ha]
    exact ⟨rfl, rfl⟩
  | two a b ha hb hc hleast =>
    refine hsequence a [b] rfl (by omega) (sequenceTail_char 2 c ?_ rfl ?_ ?_ ?_)
    · rw [sequenceLength, if_pos ha]
    · simpa [isContinuation] using hb
    · simp only [codePointOf, List.foldl_cons, List.foldl_nil, List.length_cons, List.length_nil]
      omega
    · simpa [isOverlong] using hleast
  | three a b d ha hb hd hc hleast =>
    refine hsequence a [b, d] rfl (by omega) (sequenceTail_char 3 c ?_ rfl ?_ ?_ ?_)
    · rw [sequenceLength, if_neg (by omega), if_pos ha]
    · simpa [isContinuation] using ⟨hb, hd⟩
    · simp only [codePointOf, List.foldl_cons, List.foldl_nil, List.length_cons, List.length_nil]
      omega
    · simpa [isOverlong] using hleast
  | four a b d e ha hb hd he hc hleast =>
    refine hsequence a [b, d, e] rfl (by omega)
      (sequenceTail_char 4 c ?_ rfl ?_ ?_ ?_)
    · rw [sequenceLength, if_neg (by omega), if_neg (by omega), if_pos ha]
    · simpa [isContinuation] using ⟨hb, hd, he⟩
    · simp only [codePointOf, List.foldl_cons, List.foldl_nil, List.length_cons, List.length_nil]
      omega
    · simpa [isOverlong] using hleast

theorem isGlyph_charToken (c : Char) : IsGlyph (charToken c) where
  valid := (charToken_spec c).2
  first := congrArg firstToken (charToken_spec c).1

theorem bytesOf_charTokens (chars : List Char) : bytesOf (chars.map charToken) = chars.flatMap encode := by
  rw [bytesOf, List.flatMap_map]
  exact congrArg (chars.flatMap ·) (funext fun c => (charToken_spec c).1)

theorem tokens_chars (chars : List Char) : tokens (chars.flatMap encode) = chars.map charToken := by
  rw [← bytesOf_charTokens]
  apply tokens_bytesOf
  intro glyph hglyph
  obtain ⟨c, -, rfl⟩ := List.mem_map.mp hglyph
  exact isGlyph_charToken c

/-! ## Boundaries -/

/-- The offset is inside the text or at an end, and valid UTF-8 stands on both sides of it. -/
def OnCodePointBoundary (text : Bytes) (offset : Nat) : Prop :=
  ∃ before after, text = before ++ after ∧ Valid before ∧ Valid after ∧ offset = before.length

variable {text : Bytes} {offset : Nat}

theorem OnCodePointBoundary.valid (h : OnCodePointBoundary text offset) : Valid text := by
  obtain ⟨before, after, rfl, hbefore, hafter, -⟩ := h
  exact hbefore.append hafter

/-- A text that is valid is valid on both sides of a token boundary. -/
theorem valid_around {before after : List TuiTerminalTextToken} (h : Valid text)
    (htokens : tokens text = before ++ after) :
    text = bytesOf before ++ bytesOf after ∧ Valid (bytesOf before) ∧ Valid (bytesOf after) := by
  have htext := bytesOf_tokens text
  rw [htokens, bytesOf_append] at htext
  obtain ⟨chars, rfl⟩ := h
  rw [tokens_chars] at htokens
  obtain ⟨first, second, -, rfl, rfl⟩ := List.map_eq_append_iff.mp htokens
  exact ⟨htext.symm, ⟨first, bytesOf_charTokens first⟩, ⟨second, bytesOf_charTokens second⟩⟩

theorem onCodePointBoundary_iff (h : Valid text) :
    OnCodePointBoundary text offset ↔ OnTokenBoundary text offset := by
  constructor
  · rintro ⟨before, after, rfl, ⟨first, rfl⟩, ⟨second, rfl⟩, rfl⟩
    refine ⟨first.map charToken, second.map charToken, ?_, by rw [bytesOf_charTokens]⟩
    rw [← List.flatMap_append, tokens_chars, List.map_append]
  · rintro ⟨before, after, htokens, rfl⟩
    obtain ⟨htext, hbefore, hafter⟩ := valid_around h htokens
    exact ⟨_, _, htext, hbefore, hafter, rfl⟩

theorem OnCodePointBoundary.token (h : OnCodePointBoundary text offset) : OnTokenBoundary text offset :=
  (onCodePointBoundary_iff h.valid).mp h

theorem onCodePointBoundary_clamp (h : Valid text) (offset : Nat) :
    OnCodePointBoundary text (clampToTerminalTextOffset text offset) :=
  (onCodePointBoundary_iff h).mpr (clamp_spec text offset).2

theorem onCodePointBoundary_zero (h : Valid text) : OnCodePointBoundary text 0 :=
  ⟨[], text, rfl, valid_nil, h, rfl⟩

theorem onCodePointBoundary_length (h : Valid text) : OnCodePointBoundary text text.length :=
  ⟨text, [], (List.append_nil _).symm, h, valid_nil, rfl⟩

/-- The character behind the offset, over which the next offset is. -/
theorem OnCodePointBoundary.next (h : OnCodePointBoundary text offset) (hinside : offset < text.length) :
    ∃ before character after, text = before ++ character ++ after ∧ Valid before ∧ Valid character ∧
      Valid after ∧ offset = before.length ∧
      nextTerminalTextOffset text offset = (before ++ character).length := by
  obtain ⟨before, after, htokens, rfl⟩ := h.token
  obtain ⟨htext, hbefore, hafter⟩ := valid_around h.valid htokens
  cases after with
  | nil =>
    rw [htext, List.length_append] at hinside
    exact absurd hinside (Nat.lt_irrefl _)
  | cons token after =>
    rw [← List.singleton_append, ← List.append_assoc] at htokens
    obtain ⟨htext', hthrough, hrest⟩ := valid_around h.valid htokens
    rw [bytesOf_append] at htext' hthrough
    have hnext := next_boundary ((List.append_assoc before [token] after) ▸ htokens)
    rw [bytesOf_append] at hnext
    exact ⟨_, _, _, htext', hbefore, (hbefore.append_iff _).mp hthrough, hrest, rfl, hnext⟩

/-- The character before the offset. -/
theorem OnCodePointBoundary.previous (h : OnCodePointBoundary text offset) (hinside : 0 < offset) :
    ∃ before character after, text = before ++ character ++ after ∧ Valid before ∧ Valid character ∧
      Valid after ∧ offset = (before ++ character).length ∧
      previousTerminalTextOffset text offset = before.length := by
  obtain ⟨front, after, htokens, rfl⟩ := h.token
  rcases List.eq_nil_or_concat front with rfl | ⟨before, token, rfl⟩
  · exact absurd hinside (Nat.lt_irrefl _)
  · rw [List.concat_eq_append] at htokens ⊢
    obtain ⟨htext, hthrough, hrest⟩ := valid_around h.valid htokens
    rw [List.append_assoc, List.singleton_append] at htokens
    obtain ⟨-, hbefore, -⟩ := valid_around h.valid htokens
    rw [bytesOf_append] at htext hthrough
    refine ⟨_, _, _, htext, hbefore, (hbefore.append_iff _).mp hthrough, hrest, ?_,
      previous_boundary htokens⟩
    rw [bytesOf_append]

end Dasall.Apps.Tui
