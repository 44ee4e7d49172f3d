import Dasall.Lib.Text
import Mathlib.Data.List.DropRight

/-!
# UTF-8

A text is valid when it is the encoding of some characters. The four forms of an encoding are
listed once, with the arithmetic of their bytes.
-/

open Dasall.Lib.Text

namespace Dasall.Lib.Utf8

def encode (c : Char) : Bytes := String.utf8EncodeChar c

/-- The bytes of a literal that is not ASCII. -/
def utf8 (s : String) : Bytes := s.toList.flatMap encode

def Valid (text : Bytes) : Prop := ∃ chars : List Char, text = chars.flatMap encode

/-- A statement about a byte is checked on every byte. -/
theorem byte_cases {motive : Byte → Prop} (h : ∀ n < 256, motive (UInt8.ofNat n)) (byte : Byte) :
    motive byte := by
  have hbyte := h byte.toNat byte.toNat_lt
  rwa [UInt8.ofNat_toNat] at hbyte

theorem valid_nil : Valid [] := ⟨[], rfl⟩

variable (c : Char) {first text second : Bytes}

theorem Valid.append (hfirst : Valid first) (hsecond : Valid second) :
    Valid (first ++ second) := by
  obtain ⟨chars, rfl⟩ := hfirst
  obtain ⟨others, rfl⟩ := hsecond
  exact ⟨chars ++ others, List.flatMap_append.symm⟩

theorem valid_encode : Valid (encode c) := ⟨[c], (List.flatMap_singleton encode c).symm⟩

/-- What holds of the empty text and survives a character in front holds of every valid text. -/
theorem Valid.induction {motive : Bytes → Prop} (hnil : motive [])
    (hcons : ∀ c text, motive text → motive (encode c ++ text)) {text : Bytes} (h : Valid text) :
    motive text := by
  obtain ⟨chars, rfl⟩ := h
  induction chars with
  | nil => exact hnil
  | cons c chars ih =>
    rw [List.flatMap_cons]
    exact hcons c _ ih

/-- The forms of an encoding, from one byte to four. -/
inductive Encodes (c : Char) : Bytes → Prop
  | one (a : Byte) (ha : a.toNat < 0x80) (hc : c.toNat = a.toNat) : Encodes c [a]
  | two (a b : Byte) (ha : 0xC0 ≤ a.toNat ∧ a.toNat < 0xE0) (hb : 0x80 ≤ b.toNat ∧ b.toNat < 0xC0)
    (hc : c.toNat = (a.toNat - 0xC0) * 64 + (b.toNat - 0x80)) (hleast : 0x80 ≤ c.toNat) :
    Encodes c [a, b]
  | three (a b d : Byte) (ha : 0xE0 ≤ a.toNat ∧ a.toNat < 0xF0)
    (hb : 0x80 ≤ b.toNat ∧ b.toNat < 0xC0) (hd : 0x80 ≤ d.toNat ∧ d.toNat < 0xC0)
    (hc : c.toNat = ((a.toNat - 0xE0) * 64 + (b.toNat - 0x80)) * 64 + (d.toNat - 0x80))
    (hleast : 0x800 ≤ c.toNat) : Encodes c [a, b, d]
  | four (a b d e : Byte) (ha : 0xF0 ≤ a.toNat ∧ a.toNat < 0xF8)
    (hb : 0x80 ≤ b.toNat ∧ b.toNat < 0xC0) (hd : 0x80 ≤ d.toNat ∧ d.toNat < 0xC0)
    (he : 0x80 ≤ e.toNat ∧ e.toNat < 0xC0)
    (hc : c.toNat = (((a.toNat - 0xF0) * 64 + (b.toNat - 0x80)) * 64 + (d.toNat - 0x80)) * 64 +
      (e.toNat - 0x80))
    (hleast : 0x10000 ≤ c.toNat) : Encodes c [a, b, d, e]

/-- A character is below the end of Unicode, and no surrogate. -/
theorem char_range :
    c.toNat ≤ 0x10FFFF ∧ ¬ (0xD800 ≤ c.toNat ∧ c.toNat ≤ 0xDFFF) := by
  have hvalid : c.toNat.isValidChar := c.valid
  rcases hvalid with hlow | ⟨hhigh, hend⟩
  · omega
  · omega

theorem encodes_encode : Encodes c (encode c) := by
  have hbyte : ∀ n < 256, (UInt8.ofNat n).toNat = n := fun n hn => UInt8.toNat_ofNat_of_lt' hn
  have hrange := char_range c
  have hc : c.val.toNat = c.toNat := rfl
  unfold encode String.utf8EncodeChar
  dsimp only
  rw [hc]
  split
  · refine .one _ ?_ ?_
    · rw [hbyte _ (by omega)]
      omega
    · rw [hbyte _ (by omega)]
  split
  · refine .two _ _ ?_ ?_ ?_ (by omega)
    · rw [hbyte _ (by omega)]
      omega
    · rw [hbyte _ (by omega)]
      omega
    · rw [hbyte _ (by omega), hbyte _ (by omega)]
      omega
  split
  · refine .three _ _ _ ?_ ?_ ?_ ?_ (by omega)
    · rw [hbyte _ (by omega)]
      omega
    · rw [hbyte _ (by omega)]
      omega
    · rw [hbyte _ (by omega)]
      omega
    · rw [hbyte _ (by omega), hbyte _ (by omega), hbyte _ (by omega)]
      omega
  · refine .four _ _ _ _ ?_ ?_ ?_ ?_ ?_ (by omega)
    · rw [hbyte _ (by omega)]
      omega
    · rw [hbyte _ (by omega)]
      omega
    · rw [hbyte _ (by omega)]
      omega
    · rw [hbyte _ (by omega)]
      omega
    · rw [hbyte _ (by omega), hbyte _ (by omega), hbyte _ (by omega), hbyte _ (by omega)]
      omega

theorem encode_length_pos : 0 < (encode c).length := by
  have h := encodes_encode c
  generalize encode c = text at h
  induction h <;> simp

/-- A character has one encoding. -/
theorem Encodes.unique {c : Char} {first second : Bytes} (hfirst : Encodes c first)
    (hsecond : Encodes c second) : first = second := by
  have hsame : ∀ a b : Byte, a.toNat = b.toNat → a = b := fun _ _ => UInt8.toNat_inj.mp
  induction hfirst with
  | one a ha hc =>
    induction hsecond with
    | one a' ha' hc' => rw [hsame a a' (by omega)]
    | two | three | four => omega
  | two a b ha hb hc hleast =>
    induction hsecond with
    | two a' b' ha' hb' hc' _ => rw [hsame a a' (by omega), hsame b b' (by omega)]
    | one | three | four => omega
  | three a b d ha hb hd hc hleast =>
    induction hsecond with
    | three a' b' d' ha' hb' hd' hc' _ =>
      rw [hsame a a' (by omega), hsame b b' (by omega), hsame d d' (by omega)]
    | one | two | four => omega
  | four a b d e ha hb hd he hc hleast =>
    induction hsecond with
    | four a' b' d' e' ha' hb' hd' he' hc' _ =>
      rw [hsame a a' (by omega), hsame b b' (by omega), hsame d d' (by omega),
        hsame e e' (by omega)]
    | one | two | three => omega

theorem Encodes.valid {c : Char} {text : Bytes} (h : Encodes c text) : Valid text := by
  rw [h.unique (encodes_encode c)]
  exact valid_encode c

theorem toNat_ofNat (n : Nat) (h : n.isValidChar) : (Char.ofNat n).toNat = n := by
  rw [Char.ofNat, dif_pos h]
  rfl

theorem encode_ascii (a : Byte) (h : a.toNat < 0x80) : encode (Char.ofNat a.toNat) = [a] := by
  have hchar : (Char.ofNat a.toNat).val.toNat = a.toNat :=
    toNat_ofNat a.toNat (Or.inl (by omega))
  unfold encode String.utf8EncodeChar
  dsimp only
  rw [hchar, if_pos (by omega), UInt8.ofNat_toNat]

theorem valid_ascii (text : Bytes) (h : ∀ a ∈ text, a.toNat < 0x80) : Valid text := by
  induction text with
  | nil => exact valid_nil
  | cons a text ih =>
    have hfirst : Valid [a] := by
      rw [← encode_ascii a (h a List.mem_cons_self)]
      exact valid_encode _
    exact hfirst.append (ih fun b hb => h b (List.mem_cons_of_mem _ hb))

def isAscii (a : Byte) : Bool := a.toNat < 0x80

/-- For literals, where the bytes can be run through. -/
theorem valid_of_all (text : Bytes) (h : text.all isAscii = true) : Valid text := by
  apply valid_ascii
  intro a ha
  have hlow := List.all_eq_true.mp h a ha
  simpa [isAscii] using hlow

/-!
## Character boundaries

A valid text can be cut where a character starts, and nowhere else. Texts that differ in their
ASCII characters only are valid together.
-/

def isContinuation (b : Byte) : Bool := 0x80 ≤ b.toNat && b.toNat < 0xC0

/-- The text is empty or starts with the first byte of a character. -/
def StartsCharacter (text : Bytes) : Prop := ∀ b ∈ text.head?, isContinuation b = false

instance (text : Bytes) : Decidable (StartsCharacter text) :=
  inferInstanceAs (Decidable (∀ b ∈ text.head?, isContinuation b = false))

/-- A character starts at the index, or the text ends there. -/
def OnBoundary (text : Bytes) (index : Nat) : Prop := StartsCharacter (text.drop index)

instance (text : Bytes) (index : Nat) : Decidable (OnBoundary text index) :=
  inferInstanceAs (Decidable (StartsCharacter (text.drop index)))

/-! ## The bytes of a character -/

/-- How many bytes the character has that the byte starts. -/
def leadLength (b : Byte) : Nat :=
  if b.toNat < 0x80 then 1 else if b.toNat < 0xE0 then 2 else if b.toNat < 0xF0 then 3 else 4

theorem encode_eq_cons :
    ∃ lead tail, encode c = lead :: tail ∧ isContinuation lead = false ∧
      (lead :: tail).length = leadLength lead ∧ ∀ b ∈ tail, isContinuation b = true := by
  have h := encodes_encode c
  generalize encode c = text at h
  cases h with
  | one a ha hc => exact ⟨a, [], rfl, by simp [isContinuation]; omega, by simp [leadLength, ha], by simp⟩
  | two a b ha hb hc hleast =>
    refine ⟨a, [b], rfl, by simp [isContinuation]; omega, ?_, by simp [isContinuation]; omega⟩
    simp only [leadLength, List.length_cons, List.length_nil]
    rw [if_neg (by omega), if_pos (by omega)]
  | three a b d ha hb hd hc hleast =>
    refine ⟨a, [b, d], rfl, by simp [isContinuation]; omega, ?_, by simp [isContinuation]; omega⟩
    simp only [leadLength, List.length_cons, List.length_nil]
    rw [if_neg (by omega), if_neg (by omega), if_pos (by omega)]
  | four a b d e ha hb hd he hc hleast =>
    refine ⟨a, [b, d, e], rfl, by simp [isContinuation]; omega, ?_, by simp [isContinuation]; omega⟩
    simp only [leadLength, List.length_cons, List.length_nil]
    rw [if_neg (by omega), if_neg (by omega), if_neg (by omega)]

/-- A character is ASCII, or none of its bytes is. -/
theorem encode_ascii_or :
    (∃ a : Byte, a.toNat < 0x80 ∧ encode c = [a]) ∨ ∀ b ∈ encode c, 0x80 ≤ b.toNat := by
  have h := encodes_encode c
  generalize encode c = text at h
  cases h with
  | one a ha hc => exact Or.inl ⟨a, ha, rfl⟩
  | two a b ha hb hc hleast =>
    right
    simp
    omega
  | three a b d ha hb hd hc hleast =>
    right
    simp
    omega
  | four a b d e ha hb hd he hc hleast =>
    right
    simp
    omega

theorem encode_append_inj {c d : Char} {first second : Bytes}
    (h : encode c ++ first = encode d ++ second) : encode c = encode d ∧ first = second := by
  obtain ⟨lead, tail, hc, -, hlength, -⟩ := encode_eq_cons c
  obtain ⟨lead', tail', hd, -, hlength', -⟩ := encode_eq_cons d
  rw [hc, hd] at h ⊢
  have hlead : lead = lead' := by
    rw [List.cons_append, List.cons_append] at h
    exact (List.cons.inj h).1
  subst hlead
  exact List.append_inj h (by rw [hlength, hlength'])

/-! ## Cutting -/

theorem valid_encode_append (text : Bytes) : Valid (encode c ++ text) ↔ Valid text := by
  constructor
  · rintro ⟨chars, h⟩
    cases chars with
    | nil =>
      have hpos := encode_length_pos c
      rw [List.flatMap_nil, List.append_eq_nil_iff] at h
      rw [h.1] at hpos
      cases hpos
    | cons d chars =>
      rw [List.flatMap_cons] at h
      exact ⟨chars, (encode_append_inj h).2⟩
  · exact (valid_encode c).append

theorem Valid.append_iff (h : Valid first) (second : Bytes) :
    Valid (first ++ second) ↔ Valid second := by
  obtain ⟨chars, rfl⟩ := h
  induction chars with
  | nil => rfl
  | cons c chars ih => rw [List.flatMap_cons, List.append_assoc, valid_encode_append, ih]

theorem Valid.starts (h : Valid text) : StartsCharacter text := by
  obtain ⟨chars, rfl⟩ := h
  cases chars with
  | nil => simp [StartsCharacter]
  | cons c chars =>
    obtain ⟨lead, tail, hc, hlead, -⟩ := encode_eq_cons c
    simp [StartsCharacter, hc, hlead]

/-- The part before the start of a character is valid. -/
theorem Valid.left (h : Valid (first ++ second))
    (hstarts : StartsCharacter second) : Valid first := by
  obtain ⟨chars, hchars⟩ := h
  induction chars generalizing first with
  | nil =>
    rw [List.flatMap_nil, List.append_eq_nil_iff] at hchars
    rw [hchars.1]
    exact valid_nil
  | cons c chars ih =>
    rw [List.flatMap_cons] at hchars
    rcases List.append_eq_append_iff.mp hchars with ⟨middle, hencode, hsecond⟩ | ⟨middle, hfirst, hrest⟩
    · -- The cut is inside the first character, or at one of its ends.
      cases middle with
      | nil =>
        rw [List.append_nil] at hencode
        rw [← hencode]
        exact valid_encode c
      | cons b middle =>
        cases first with
        | nil => exact valid_nil
        | cons a first =>
          obtain ⟨lead, tail, hc, -, -, htail⟩ := encode_eq_cons c
          rw [hc, List.cons_append] at hencode
          have hb : isContinuation b = true := by
            apply htail
            rw [(List.cons.inj hencode).2]
            simp
          have hnot := hstarts b (by simp [hsecond])
          rw [hb] at hnot
          cases hnot
    · rw [hfirst]
      exact (valid_encode c).append (ih hrest.symm)

theorem Valid.right (h : Valid (first ++ second))
    (hstarts : StartsCharacter second) : Valid second :=
  ((h.left hstarts).append_iff second).mp h

/-- A valid text can be cut at the starts of its characters only. -/
theorem Valid.left_iff (h : Valid (first ++ second)) :
    Valid first ↔ StartsCharacter second :=
  ⟨fun hfirst => ((hfirst.append_iff second).mp h).starts, h.left⟩

theorem Valid.take_iff (h : Valid text) (index : Nat) :
    Valid (text.take index) ↔ OnBoundary text index := by
  rw [← List.take_append_drop index text] at h
  exact h.left_iff

theorem Valid.drop_of_boundary (h : Valid text) {index : Nat}
    (hboundary : OnBoundary text index) : Valid (text.drop index) := by
  rw [← List.take_append_drop index text] at h
  exact h.right hboundary

/-! ## ASCII -/

theorem starts_ascii {a : Byte} (ha : a.toNat < 0x80) (text : Bytes) :
    StartsCharacter (a :: text) := by
  simp [StartsCharacter, isContinuation]
  omega

theorem valid_ascii_append (h : ∀ a ∈ first, a.toNat < 0x80) (second : Bytes) :
    Valid (first ++ second) ↔ Valid second :=
  (valid_ascii first h).append_iff second

/-- Both sides of an ASCII character are valid. -/
theorem Valid.around_ascii {a : Byte} (ha : a.toNat < 0x80)
    (h : Valid (first ++ a :: second)) : Valid first ∧ Valid second := by
  have hstarts := starts_ascii ha second
  refine ⟨h.left hstarts, ?_⟩
  have hsecond := h.right hstarts
  rwa [← List.singleton_append, valid_ascii_append (by simpa using ha)] at hsecond

theorem Valid.dropWhile (h : Valid text) {p : Byte → Bool}
    (hp : ∀ b, p b = true → b.toNat < 0x80) : Valid (text.dropWhile p) := by
  rw [← List.takeWhile_append_dropWhile (p := p) (l := text)] at h
  rwa [valid_ascii_append fun a ha => hp a (List.mem_takeWhile_imp ha)] at h

theorem Valid.rdropWhile (h : Valid text) {p : Byte → Bool}
    (hp : ∀ b, p b = true → b.toNat < 0x80) : Valid (text.rdropWhile p) := by
  rw [← List.rdropWhile_append_rtakeWhile (p := p) (l := text)] at h
  apply h.left
  intro b hb
  have hmem := List.mem_of_mem_head? hb
  have hlow := hp b (List.mem_rtakeWhile_imp hmem)
  simp [isContinuation]
  omega

theorem Valid.dropLast (h : Valid text) {a : Byte} (ha : a.toNat < 0x80)
    (hlast : text.getLast? = some a) : Valid text.dropLast := by
  rw [← List.dropLast_append_getLast? a hlast] at h
  exact (h.around_ascii ha).1

theorem valid_intercalate {separator : Bytes} (hseparator : Valid separator)
    (pieces : List Bytes) (h : ∀ piece ∈ pieces, Valid piece) :
    Valid (separator.intercalate pieces) := by
  induction pieces with
  | nil => exact valid_nil
  | cons piece pieces ih =>
    obtain ⟨hpiece, hpieces⟩ := List.forall_mem_cons.mp h
    cases pieces with
    | nil => simpa [List.intercalate] using hpiece
    | cons next pieces =>
      have hrest := ih hpieces
      simp only [List.intercalate, List.intersperse_cons_cons, List.flatten_cons] at hrest ⊢
      exact hpiece.append (hseparator.append hrest)

/-! ## Edits of ASCII characters -/

/-- The second text is the first with ASCII texts in the place of some of its ASCII characters. -/
inductive AsciiEdit : Bytes → Bytes → Prop
  | nil : AsciiEdit [] []
  | keep (b : Byte) {first second : Bytes} (hb : 0x80 ≤ b.toNat) (h : AsciiEdit first second) :
    AsciiEdit (b :: first) (b :: second)
  | replace (a : Byte) (written : Bytes) {first second : Bytes} (ha : a.toNat < 0x80)
    (hwritten : ∀ b ∈ written, b.toNat < 0x80) (h : AsciiEdit first second) :
    AsciiEdit (a :: first) (written ++ second)

theorem AsciiEdit.append_left {kept first edited : Bytes} (hkept : ∀ b ∈ kept, 0x80 ≤ b.toNat)
    (h : AsciiEdit (kept ++ first) edited) :
    ∃ second, edited = kept ++ second ∧ AsciiEdit first second := by
  induction kept generalizing edited with
  | nil => exact ⟨edited, rfl, h⟩
  | cons b kept ih =>
    obtain ⟨hb, hrest⟩ := List.forall_mem_cons.mp hkept
    cases h with
    | keep _ _ hedit =>
      obtain ⟨second, rfl, hsecond⟩ := ih hrest hedit
      exact ⟨second, rfl, hsecond⟩
    | replace _ _ ha => omega

theorem Valid.edit {edited : Bytes} (h : Valid text) (hedit : AsciiEdit text edited) :
    Valid edited := by
  obtain ⟨chars, rfl⟩ := h
  induction chars generalizing edited with
  | nil =>
    cases hedit
    exact valid_nil
  | cons c chars ih =>
    rw [List.flatMap_cons] at hedit
    rcases encode_ascii_or c with ⟨a, ha, hencode⟩ | hhigh
    · rw [hencode] at hedit
      cases hedit with
      | keep _ hb => omega
      | replace _ written _ hwritten hrest => exact (valid_ascii written hwritten).append (ih hrest)
    · obtain ⟨second, rfl, hsecond⟩ := hedit.append_left hhigh
      exact (valid_encode c).append (ih hsecond)

end Dasall.Lib.Utf8
