import Dasall.Lib.Doubled
import Dasall.Lib.Utf8

/-!
# The text of a variable

A value is written into a template with its delimiters escaped and cut at a number of code points.
The decoder reads any bytes: what is no sequence it reads one byte at a time. It reads the escaped
text, and what is left of it after the cut, just as it reads the value.
-/

open Dasall.Lib Dasall.Lib.Text

namespace Dasall.Llm.Prompt

def isContinuationByte (byte : Byte) : Bool := byte &&& 0xC0 == 0x80

/-- The text begins with so many continuation bytes. -/
def followedBy (count : Nat) (text : Bytes) : Bool :=
  decide (count ≤ text.length) && (text.take count).all isContinuationByte

/-- How far `decode_next_utf8` moves the index, and whether it read a sequence. -/
def decodeNextUtf8 : Bytes → Nat × Bool
  | [] => (0, false)
  | first :: rest =>
    if first &&& 0x80 == 0 then (1, true)
    else if first &&& 0xE0 == 0xC0 && followedBy 1 rest then (2, true)
    else if first &&& 0xF0 == 0xE0 && followedBy 2 rest then (3, true)
    else if first &&& 0xF8 == 0xF0 && followedBy 3 rest then (4, true)
    else (1, false)

def openDelimiter : Bytes := [123, 123]

def closeDelimiter : Bytes := [125, 125]

def escapeTemplateDelimiters : Bytes → Bytes
  | first :: second :: rest =>
    if first = 123 ∧ second = 123 then [92, 123, 92, 123] ++ escapeTemplateDelimiters rest
    else if first = 125 ∧ second = 125 then [92, 125, 92, 125] ++ escapeTemplateDelimiters rest
    else first :: escapeTemplateDelimiters (second :: rest)
  | rest => rest

/-- The loop of `count_utf8_code_points`. The length of the text is the fuel. -/
def countLoop : Nat → Bytes → Nat
  | fuel + 1, first :: rest =>
    1 + countLoop fuel ((first :: rest).drop (decodeNextUtf8 (first :: rest)).1)
  | _, _ => 0

def countUtf8CodePoints (text : Bytes) : Nat := countLoop text.length text

/-- The index at which the loop of `truncate_utf8` stops. -/
def truncateLoop : Nat → Bytes → Nat
  | maxCodePoints + 1, first :: rest =>
    let width := (decodeNextUtf8 (first :: rest)).1
    width + truncateLoop maxCodePoints ((first :: rest).drop width)
  | _, _ => 0

def truncateUtf8 (text : Bytes) (maxCodePoints : Nat) : Bytes :=
  if maxCodePoints = 0 then [] else text.take (truncateLoop maxCodePoints text)

/-! ## The decoder -/

/-- How many continuation bytes the first byte of a sequence asks for. -/
def asked (first : Byte) : Nat :=
  if first.toNat < 0xC0 then 0
  else if first.toNat < 0xE0 then 1
  else if first.toNat < 0xF0 then 2
  else if first.toNat < 0xF8 then 3
  else 0

/-- How many continuation bytes the text begins with. -/
def continued (text : Bytes) : Nat := (text.takeWhile isContinuationByte).length

theorem isContinuationByte_iff (byte : Byte) :
    isContinuationByte byte = true ↔ 0x80 ≤ byte.toNat ∧ byte.toNat < 0xC0 := by
  revert byte
  apply Utf8.byte_cases
  decide +kernel

theorem followedBy_iff (count : Nat) (text : Bytes) :
    followedBy count text = true ↔ count ≤ continued text := by
  unfold followedBy continued
  induction text generalizing count with
  | nil => cases count <;> simp
  | cons byte text ih =>
    cases count with
    | zero => simp
    | succ count =>
      have hrest := ih count
      by_cases hbyte : isContinuationByte byte = true
      · simpa [hbyte] using hrest
      · simp [hbyte]

variable (first : Byte)

/-- The first byte is of one kind, and the kind says what is asked for. -/
theorem lead_cases :
    (asked first = 0 ∧ (first &&& 0xE0 == 0xC0) = false ∧ (first &&& 0xF0 == 0xE0) = false ∧
        (first &&& 0xF8 == 0xF0) = false) ∨
      ((first &&& 0x80 == 0) = false ∧
        ((asked first = 1 ∧ (first &&& 0xE0 == 0xC0) = true ∧ (first &&& 0xF0 == 0xE0) = false ∧
            (first &&& 0xF8 == 0xF0) = false) ∨
          (asked first = 2 ∧ (first &&& 0xE0 == 0xC0) = false ∧ (first &&& 0xF0 == 0xE0) = true ∧
            (first &&& 0xF8 == 0xF0) = false) ∨
          (asked first = 3 ∧ (first &&& 0xE0 == 0xC0) = false ∧ (first &&& 0xF0 == 0xE0) = false ∧
            (first &&& 0xF8 == 0xF0) = true))) := by
  revert first
  apply Utf8.byte_cases
  decide +kernel

theorem decodeNextUtf8_width (rest : Bytes) :
    (decodeNextUtf8 (first :: rest)).1 =
      if asked first ≤ continued rest then asked first + 1 else 1 := by
  have hfollowed := fun count => followedBy_iff count rest
  unfold decodeNextUtf8
  rcases lead_cases first with ⟨hasked, htwo, hthree, hfour⟩ |
    ⟨hhigh, ⟨hasked, htwo, hthree, hfour⟩ | ⟨hasked, htwo, hthree, hfour⟩ |
      ⟨hasked, htwo, hthree, hfour⟩⟩
  · simp only [hasked, htwo, hthree, hfour, Bool.false_and, Bool.false_eq_true, if_false]
    split <;> rfl
  all_goals
    simp only [hhigh, hasked, htwo, hthree, hfour, Bool.false_and, Bool.true_and,
      Bool.false_eq_true, if_false, hfollowed]
    split <;> rfl

/-! ## The characters of a text -/

/-- The pieces that the decoder reads, one after another. -/
def Decoded : List Bytes → Prop
  | [] => True
  | piece :: pieces => piece ≠ [] ∧
      (decodeNextUtf8 (piece ++ pieces.flatten)).1 = piece.length ∧ Decoded pieces

theorem continued_cons (byte : Byte) (text : Bytes) :
    continued (byte :: text) = if isContinuationByte byte then continued text + 1 else 0 := by
  unfold continued
  rw [List.takeWhile_cons]
  split <;> rfl

theorem continued_take (count : Nat) (text : Bytes) :
    continued (text.take count) = min count (continued text) := by
  induction text generalizing count with
  | nil => simp [continued]
  | cons byte text ih =>
    cases count with
    | zero => simp [continued]
    | succ count =>
      rw [List.take_succ_cons, continued_cons, continued_cons, ih]
      split
      · omega
      · omega

theorem decodeNextUtf8_pos (rest : Bytes) :
    0 < (decodeNextUtf8 (first :: rest)).1 ∧
      (decodeNextUtf8 (first :: rest)).1 ≤ (first :: rest).length := by
  have hcontinued : continued rest ≤ rest.length := by
    unfold continued
    exact (List.takeWhile_prefix _).length_le
  rw [decodeNextUtf8_width, List.length_cons]
  split
  · omega
  · omega

/-- A piece is read again where no more continuation bytes stand behind it than before. -/
theorem decodeNextUtf8_shorter {piece text text' : Bytes} (hne : piece ≠ [])
    (h : (decodeNextUtf8 (piece ++ text)).1 = piece.length)
    (hless : continued text' ≤ continued text) :
    (decodeNextUtf8 (piece ++ text')).1 = piece.length := by
  cases piece with
  | nil => exact absurd rfl hne
  | cons first middle =>
    have hcontinued : ∀ text, continued (middle ++ text) =
        if continued middle = middle.length then middle.length + continued text
        else continued middle := by
      intro text
      unfold continued
      rw [List.takeWhile_append]
      split
      · simp
      · rfl
    rw [List.cons_append, decodeNextUtf8_width, hcontinued, List.length_cons] at h ⊢
    by_cases hall : continued middle = middle.length
    · simp only [hall, if_true] at h ⊢
      split at h
      · rw [if_pos (by omega)]
        omega
      · rw [if_neg (by omega)]
        omega
    · simp only [hall, if_false] at h ⊢
      exact h

theorem exists_decoded (text : Bytes) : ∃ pieces, Decoded pieces ∧ pieces.flatten = text := by
  induction hlength : text.length using Nat.strong_induction_on generalizing text with
  | _ length ih =>
    cases text with
    | nil => exact ⟨[], trivial, rfl⟩
    | cons first rest =>
      obtain ⟨hpos, hle⟩ := decodeNextUtf8_pos first rest
      obtain ⟨pieces, hpieces, hflatten⟩ := ih ((first :: rest).drop
        (decodeNextUtf8 (first :: rest)).1).length (by rw [List.length_drop]; omega) _ rfl
      refine ⟨(first :: rest).take (decodeNextUtf8 (first :: rest)).1 :: pieces, ⟨?_, ?_, hpieces⟩,
        ?_⟩
      · rw [← List.length_pos_iff, List.length_take]
        omega
      · rw [hflatten, List.take_append_drop, List.length_take]
        omega
      · rw [List.flatten_cons, hflatten, List.take_append_drop]

def charactersLoop : Nat → Bytes → List Bytes
  | fuel + 1, first :: rest =>
    (first :: rest).take (decodeNextUtf8 (first :: rest)).1 ::
      charactersLoop fuel ((first :: rest).drop (decodeNextUtf8 (first :: rest)).1)
  | _, _ => []

/-- The pieces of a text: what the decoder counts as its code points. -/
def characters (text : Bytes) : List Bytes := charactersLoop text.length text

variable {pieces : List Bytes}

theorem charactersLoop_decoded (h : Decoded pieces) (fuel : Nat)
    (hfuel : pieces.flatten.length ≤ fuel) : charactersLoop fuel pieces.flatten = pieces := by
  induction pieces generalizing fuel with
  | nil => cases fuel <;> rfl
  | cons piece pieces ih =>
    obtain ⟨hne, hwidth, hrest⟩ := h
    cases piece with
    | nil => exact absurd rfl hne
    | cons first middle =>
      rw [List.flatten_cons, List.length_append, List.length_cons] at hfuel
      cases fuel with
      | zero => omega
      | succ fuel =>
        rw [List.flatten_cons, List.cons_append, charactersLoop, ← List.cons_append, hwidth,
          List.take_left, List.drop_left, ih hrest fuel (by omega)]

theorem Decoded.characters_eq (h : Decoded pieces) :
    characters pieces.flatten = pieces := charactersLoop_decoded h _ (le_refl _)

theorem characters_decoded (text : Bytes) :
    Decoded (characters text) ∧ (characters text).flatten = text := by
  obtain ⟨pieces, hpieces, rfl⟩ := exists_decoded text
  rw [hpieces.characters_eq]
  exact ⟨hpieces, rfl⟩

theorem countLoop_eq (fuel : Nat) (text : Bytes) :
    countLoop fuel text = (charactersLoop fuel text).length := by
  induction fuel generalizing text with
  | zero => rfl
  | succ fuel ih =>
    cases text with
    | nil => rfl
    | cons first rest => rw [countLoop, charactersLoop, List.length_cons, ih, Nat.add_comm]

theorem Decoded.count_eq (h : Decoded pieces) :
    countUtf8CodePoints pieces.flatten = pieces.length :=
  (countLoop_eq _ _).trans (congrArg List.length h.characters_eq)

theorem Decoded.truncateLoop_eq (h : Decoded pieces) (limit : Nat) :
    truncateLoop limit pieces.flatten = (pieces.take limit).flatten.length := by
  induction pieces generalizing limit with
  | nil => cases limit <;> rfl
  | cons piece pieces ih =>
    obtain ⟨hne, hwidth, hrest⟩ := h
    cases piece with
    | nil => exact absurd rfl hne
    | cons first middle =>
      cases limit with
      | zero => rfl
      | succ limit =>
        rw [List.flatten_cons, List.cons_append, truncateLoop, ← List.cons_append, hwidth,
          List.drop_left, ih hrest, List.take_succ_cons, List.flatten_cons, List.length_append]

theorem flatten_take (pieces : List Bytes) (limit : Nat) :
    (pieces.take limit).flatten = pieces.flatten.take (pieces.take limit).flatten.length := by
  apply List.prefix_iff_eq_take.mp
  refine ⟨(pieces.drop limit).flatten, ?_⟩
  rw [← List.flatten_append, List.take_append_drop]

theorem Decoded.truncate_eq (h : Decoded pieces) (limit : Nat) :
    truncateUtf8 pieces.flatten limit = (pieces.take limit).flatten := by
  unfold truncateUtf8
  split
  · next hzero =>
    rw [hzero]
    rfl
  · rw [h.truncateLoop_eq, ← flatten_take]

/-- The cut leaves the pieces before it as they are. -/
theorem Decoded.take (h : Decoded pieces) (limit : Nat) :
    Decoded (pieces.take limit) := by
  induction pieces generalizing limit with
  | nil =>
    rw [List.take_nil]
    exact h
  | cons piece pieces ih =>
    cases limit with
    | zero => exact trivial
    | succ limit =>
      refine ⟨h.1, decodeNextUtf8_shorter h.1 h.2.1 ?_, ih h.2.2 limit⟩
      rw [flatten_take, continued_take]
      omega

/-! ## Braces -/

variable {piece : Bytes}

/-- A byte that is no part of a sequence is a piece of its own. -/
theorem Decoded.ascii {pieces : List Bytes} (h : Decoded (piece :: pieces))
    {byte : Byte} (hmem : byte ∈ piece) (hlow : byte.toNat < 0x80) : piece = [byte] := by
  obtain ⟨hne, hwidth, -⟩ := h
  cases piece with
  | nil => exact absurd rfl hne
  | cons first middle =>
    rw [List.cons_append, decodeNextUtf8_width, List.length_cons] at hwidth
    have hmiddle : ∀ other ∈ middle, isContinuationByte other = true := by
      intro other hother
      split at hwidth
      · next hasked =>
        have hlength : middle.length ≤ continued (middle ++ pieces.flatten) := by omega
        have hfollowed := (followedBy_iff _ _).mpr hlength
        unfold followedBy at hfollowed
        rw [List.take_left, Bool.and_eq_true, List.all_eq_true] at hfollowed
        exact hfollowed.2 other hother
      · have hnone : middle = [] := List.length_eq_zero_iff.mp (by omega)
        rw [hnone] at hother
        cases hother
    rcases List.mem_cons.mp hmem with rfl | hmem
    · have hasked : asked byte = 0 := by
        unfold asked
        rw [if_pos (by omega)]
      rw [hasked, if_pos (by omega)] at hwidth
      rw [List.length_eq_zero_iff.mp (by omega : middle.length = 0)]
    · have := (isContinuationByte_iff byte).mp (hmiddle byte hmem)
      omega

theorem decoded_ascii {byte : Byte} (hlow : byte.toNat < 0x80) {pieces : List Bytes} :
    Decoded ([byte] :: pieces) ↔ Decoded pieces := by
  refine ⟨fun h => h.2.2, fun h => ⟨by simp, ?_, h⟩⟩
  have hasked : asked byte = 0 := by
    unfold asked
    rw [if_pos (by omega)]
  rw [List.singleton_append, decodeNextUtf8_width, hasked, if_pos (by omega)]
  rfl

/-- The braces of the delimiters. -/
def isBrace (piece : Bytes) : Bool := piece == [123] || piece == [125]

theorem isBrace_iff (piece : Bytes) : isBrace piece = true ↔ piece = [123] ∨ piece = [125] := by
  simp [isBrace]

theorem escape_free (hfree : ∀ byte ∈ piece, byte ≠ 123 ∧ byte ≠ 125)
    (text : Bytes) :
    escapeTemplateDelimiters (piece ++ text) = piece ++ escapeTemplateDelimiters text := by
  induction piece with
  | nil => rfl
  | cons byte piece ih =>
    rw [List.forall_mem_cons] at hfree
    rw [List.cons_append]
    rcases hbehind : piece ++ text with _ | ⟨second, behind⟩
    · rw [List.append_eq_nil_iff] at hbehind
      rw [hbehind.1, hbehind.2]
      rfl
    · rw [escapeTemplateDelimiters, if_neg (by simp [hfree.1.1]), if_neg (by simp [hfree.1.2]),
        ← hbehind, ih hfree.2]
      rfl

theorem not_brace_of_piece {pieces : List Bytes} (h : Decoded (piece :: pieces))
    (hbrace : isBrace piece = false) : ∀ byte ∈ piece, byte ≠ 123 ∧ byte ≠ 125 := by
  intro byte hmem
  constructor
  · rintro rfl
    rw [h.ascii hmem (by decide)] at hbrace
    exact absurd hbrace (by decide)
  · rintro rfl
    rw [h.ascii hmem (by decide)] at hbrace
    exact absurd hbrace (by decide)

/-- The escape works on the pieces as it does on the bytes. -/
theorem escapeTemplateDelimiters_flatten (h : Decoded pieces) :
    escapeTemplateDelimiters pieces.flatten = (Doubled.escape isBrace [92] pieces).flatten := by
  fun_induction Doubled.escape isBrace [92] pieces with
  | case1 first second rest hpair ih =>
    obtain ⟨rfl, hbrace⟩ := hpair
    have hrest := ih h.2.2.2.2
    rcases (isBrace_iff first).mp hbrace with rfl | rfl
    · simp only [List.flatten_cons, List.singleton_append, escapeTemplateDelimiters, hrest]
      rfl
    · simp only [List.flatten_cons, List.singleton_append, escapeTemplateDelimiters, hrest]
      rfl
  | case2 first second rest hpair ih =>
    change escapeTemplateDelimiters (first ++ (second :: rest).flatten) =
      first ++ (Doubled.escape isBrace [92] (second :: rest)).flatten
    rw [← ih h.2.2]
    by_cases hbrace : isBrace first = true
    · rcases hbehind : (second :: rest).flatten with _ | ⟨byte, behind⟩
      · rw [List.flatten_cons, List.append_eq_nil_iff] at hbehind
        exact absurd hbehind.1 h.2.2.1
      · -- a byte that begins the text behind and is the same brace would be a piece of its own
        have hother : ∀ brace : Byte, brace.toNat < 0x80 → first = [brace] → byte ≠ brace := by
          rintro brace hlow rfl rfl
          have hhead : byte ∈ second := by
            cases second with
            | nil => exact absurd rfl h.2.2.1
            | cons head tail =>
              rw [List.flatten_cons, List.cons_append] at hbehind
              rw [(List.cons.inj hbehind).1]
              exact List.mem_cons_self
          have hsecond := Decoded.ascii h.2.2 hhead hlow
          exact hpair ⟨hsecond.symm, hbrace⟩
        rcases (isBrace_iff first).mp hbrace with rfl | rfl
        · have hbyte := hother 123 (by decide) rfl
          rw [List.singleton_append, escapeTemplateDelimiters, if_neg (by simp [hbyte]),
            if_neg (by simp)]
          rfl
        · have hbyte := hother 125 (by decide) rfl
          rw [List.singleton_append, escapeTemplateDelimiters, if_neg (by simp),
            if_neg (by simp [hbyte])]
          rfl
    · rw [Bool.not_eq_true] at hbrace
      exact escape_free (not_brace_of_piece h hbrace) _
  | case3 pieces hshort =>
    rcases pieces with _ | ⟨first, _ | ⟨second, pieces⟩⟩
    · rfl
    · rw [List.flatten_cons, List.flatten_nil, List.append_nil]
      rcases first with _ | ⟨byte, _ | ⟨other, middle⟩⟩
      · rfl
      · rfl
      · have hbrace : isBrace (byte :: other :: middle) = false := by simp [isBrace]
        have hfree := escape_free (not_brace_of_piece h hbrace) []
        rw [List.append_nil] at hfree
        rw [hfree]
        simp [escapeTemplateDelimiters]
    · exact absurd rfl (hshort first second pieces)

/-- The escaped text is read piece by piece, with the masks between the pieces of the value. -/
theorem Decoded.escape (h : Decoded pieces) :
    Decoded (Doubled.escape isBrace [92] pieces) ∧
      continued (Doubled.escape isBrace [92] pieces).flatten ≤ continued pieces.flatten := by
  fun_induction Doubled.escape isBrace [92] pieces with
  | case1 first second rest hpair ih =>
    obtain ⟨rfl, hbrace⟩ := hpair
    obtain ⟨hrest, -⟩ := ih h.2.2.2.2
    constructor
    · rcases (isBrace_iff first).mp hbrace with rfl | rfl
      · exact (decoded_ascii (by decide)).mpr ((decoded_ascii (by decide)).mpr
          ((decoded_ascii (by decide)).mpr ((decoded_ascii (by decide)).mpr hrest)))
      · exact (decoded_ascii (by decide)).mpr ((decoded_ascii (by decide)).mpr
          ((decoded_ascii (by decide)).mpr ((decoded_ascii (by decide)).mpr hrest)))
    · rw [List.flatten_cons, List.singleton_append, continued_cons, if_neg (by decide)]
      omega
  | case2 first second rest hpair ih =>
    obtain ⟨hrest, hcontinued⟩ := ih h.2.2
    refine ⟨⟨h.1, decodeNextUtf8_shorter h.1 h.2.1 hcontinued, hrest⟩, ?_⟩
    rw [List.flatten_cons, List.flatten_cons]
    unfold continued at hcontinued ⊢
    rw [List.takeWhile_append, List.takeWhile_append]
    split
    · rw [List.length_append, List.length_append]
      omega
    · exact le_refl _
  | case3 pieces hshort => exact ⟨h, le_refl _⟩

/-- Two braces stand in a row in a text exactly when they do so among its pieces. -/
theorem infix_flatten_iff (h : Decoded pieces) {brace : Byte}
    (hlow : brace.toNat < 0x80) :
    [brace, brace] <:+: pieces.flatten ↔ [[brace], [brace]] <:+: pieces := by
  constructor
  · intro hinfix
    induction pieces with
    | nil => simp at hinfix
    | cons piece pieces ih =>
      rw [List.infix_cons_iff]
      by_cases hmem : brace ∈ piece
      · obtain rfl := h.ascii hmem hlow
        rw [List.flatten_cons, List.singleton_append, List.infix_cons_iff] at hinfix
        rcases hinfix with hprefixed | hinfix
        · left
          rw [List.cons_prefix_cons] at hprefixed ⊢
          refine ⟨rfl, ?_⟩
          cases pieces with
          | nil => simp at hprefixed
          | cons second rest =>
            have hhead : brace ∈ second := by
              cases second with
              | nil => exact absurd rfl h.2.2.1
              | cons head tail =>
                rw [List.flatten_cons, List.cons_append, List.cons_prefix_cons] at hprefixed
                rw [← hprefixed.2.1]
                exact List.mem_cons_self
            rw [Decoded.ascii h.2.2 hhead hlow]
            exact ⟨rest, rfl⟩
        · exact .inr (ih h.2.2 hinfix)
      · right
        apply ih h.2.2
        rw [List.flatten_cons] at hinfix
        clear h
        induction piece with
        | nil => exact hinfix
        | cons byte piece ihPiece =>
          rw [List.mem_cons, not_or] at hmem
          rw [List.cons_append, List.infix_cons_iff, List.cons_prefix_cons] at hinfix
          rcases hinfix with ⟨hfirst, -⟩ | hinfix
          · exact absurd hfirst hmem.1
          · exact ihPiece hinfix hmem.2
  · rintro ⟨front, behind, rfl⟩
    refine ⟨front.flatten, behind.flatten, ?_⟩
    simp

/-! ## Valid texts -/

theorem mem_escape
    (h : piece ∈ Doubled.escape isBrace [92] pieces) : piece ∈ pieces ∨ piece = [92] := by
  fun_induction Doubled.escape isBrace [92] pieces with
  | case1 first second rest hpair ih =>
    simp only [List.mem_cons] at h ⊢
    rcases h with rfl | rfl | rfl | rfl | hrest
    · exact .inr rfl
    · exact .inl (.inl rfl)
    · exact .inr rfl
    · exact .inl (.inr (.inl rfl))
    · rcases ih hrest with hmem | hmask
      · exact .inl (.inr (.inr hmem))
      · exact .inr hmask
  | case2 first second rest hpair ih =>
    rw [List.mem_cons] at h ⊢
    rcases h with rfl | hrest
    · exact .inl (.inl rfl)
    · rcases ih hrest with hmem | hmask
      · exact .inl (.inr hmem)
      · exact .inr hmask
  | case3 pieces hshort => exact .inl h

/-- The decoder reads a character as one piece, whatever stands behind it. -/
theorem decodeNextUtf8_encode (c : Char) (text : Bytes) :
    (decodeNextUtf8 (Utf8.encode c ++ text)).1 = (Utf8.encode c).length := by
  have hforms := Utf8.encodes_encode c
  generalize Utf8.encode c = piece at hforms
  cases hforms with
  | one a ha hc =>
    have hasked : asked a = 0 := by
      unfold asked
      rw [if_pos (by omega)]
    simp [decodeNextUtf8_width, hasked]
  | two a b ha hb hc hleast =>
    have hasked : asked a = 1 := by
      unfold asked
      rw [if_neg (by omega), if_pos (by omega)]
    have hb' := (isContinuationByte_iff b).mpr hb
    simp [decodeNextUtf8_width, hasked, continued_cons, hb']
  | three a b d ha hb hd hc hleast =>
    have hasked : asked a = 2 := by
      unfold asked
      rw [if_neg (by omega), if_neg (by omega), if_pos (by omega)]
    have hb' := (isContinuationByte_iff b).mpr hb
    have hd' := (isContinuationByte_iff d).mpr hd
    simp [decodeNextUtf8_width, hasked, continued_cons, hb', hd']
  | four a b d e ha hb hd he hc hleast =>
    have hasked : asked a = 3 := by
      unfold asked
      rw [if_neg (by omega), if_neg (by omega), if_neg (by omega), if_pos (by omega)]
    have hb' := (isContinuationByte_iff b).mpr hb
    have hd' := (isContinuationByte_iff d).mpr hd
    have he' := (isContinuationByte_iff e).mpr he
    simp [decodeNextUtf8_width, hasked, continued_cons, hb', hd', he']

theorem characters_encode (chars : List Char) :
    characters (chars.flatMap Utf8.encode) = chars.map Utf8.encode := by
  have hdecoded : Decoded (chars.map Utf8.encode) := by
    induction chars with
    | nil => exact trivial
    | cons c chars ih =>
      exact ⟨List.length_pos_iff.mp (Utf8.encode_length_pos c), decodeNextUtf8_encode c _, ih⟩
  have heq := hdecoded.characters_eq
  rwa [← List.flatMap_def] at heq

theorem valid_flatten (h : ∀ piece ∈ pieces, Utf8.Valid piece) :
    Utf8.Valid pieces.flatten := by
  induction pieces with
  | nil => exact Utf8.valid_nil
  | cons piece pieces ih =>
    rw [List.forall_mem_cons] at h
    exact h.1.append (ih h.2)

end Dasall.Llm.Prompt
