import Dasall.Lib.Hex
import Dasall.Lib.Utf8

/-!
# The grammar of JSON

The structure of a document over the tokens it is written with: blanks, strings and numbers. The
tokens of RFC 8259 are one choice of them.
-/

open Dasall.Lib.Text

namespace Dasall.Lib.Json

inductive Value
  | null
  | bool (value : Bool)
  | number (text : Bytes)
  | string (value : Bytes)
  | array (elements : List Value)
  | object (members : List (Bytes × Value))

structure Tokens where
  blank : Byte → Prop
  /-- What stands between the quotation marks, and its value. -/
  string : Bytes → Bytes → Prop
  number : Bytes → Prop

/-- The text is the rest behind some blanks. -/
def Tokens.Blanks (tokens : Tokens) (text rest : Bytes) : Prop :=
  ∃ gap, text = gap ++ rest ∧ ∀ byte ∈ gap, tokens.blank byte

/-- A value, or what stands behind the opening bracket of a container that is not empty. -/
inductive Part
  | value
  | elements
  | members

/-- A part is read off the front of the text, with its value, and the rest is left. -/
inductive Reads (tokens : Tokens) : Part → Bytes → Value → Bytes → Prop
  | null (rest : Bytes) : Reads tokens .value (str "null" ++ rest) .null rest
  | true (rest : Bytes) : Reads tokens .value (str "true" ++ rest) (.bool true) rest
  | false (rest : Bytes) : Reads tokens .value (str "false" ++ rest) (.bool false) rest
  | number (text rest : Bytes) (h : tokens.number text) :
      Reads tokens .value (text ++ rest) (.number text) rest
  | string (body value rest : Bytes) (h : tokens.string body value) :
      Reads tokens .value (34 :: (body ++ 34 :: rest)) (.string value) rest
  | emptyArray (text rest : Bytes) (hend : tokens.Blanks text (93 :: rest)) :
      Reads tokens .value (91 :: text) (.array []) rest
  | array (text : Bytes) (value : Value) (rest : Bytes) (h : Reads tokens .elements text value rest) :
      Reads tokens .value (91 :: text) value rest
  | emptyObject (text rest : Bytes) (hend : tokens.Blanks text (125 :: rest)) :
      Reads tokens .value (123 :: text) (.object []) rest
  | object (text : Bytes) (value : Value) (rest : Bytes) (h : Reads tokens .members text value rest) :
      Reads tokens .value (123 :: text) value rest
  | lastElement (text body : Bytes) (value : Value) (after rest : Bytes)
      (hgap : tokens.Blanks text body) (h : Reads tokens .value body value after)
      (hend : tokens.Blanks after (93 :: rest)) :
      Reads tokens .elements text (.array [value]) rest
  | element (text body : Bytes) (value : Value) (after more : Bytes) (values : List Value) (rest : Bytes)
      (hgap : tokens.Blanks text body) (h : Reads tokens .value body value after)
      (hcomma : tokens.Blanks after (44 :: more))
      (hmore : Reads tokens .elements more (.array values) rest) :
      Reads tokens .elements text (.array (value :: values)) rest
  | lastMember (text key name named valued body : Bytes) (value : Value) (after rest : Bytes)
      (hkey : tokens.Blanks text (34 :: (key ++ 34 :: named))) (hname : tokens.string key name)
      (hcolon : tokens.Blanks named (58 :: valued)) (hgap : tokens.Blanks valued body)
      (h : Reads tokens .value body value after) (hend : tokens.Blanks after (125 :: rest)) :
      Reads tokens .members text (.object [(name, value)]) rest
  | member (text key name named valued body : Bytes) (value : Value) (after more : Bytes)
      (members : List (Bytes × Value)) (rest : Bytes)
      (hkey : tokens.Blanks text (34 :: (key ++ 34 :: named))) (hname : tokens.string key name)
      (hcolon : tokens.Blanks named (58 :: valued)) (hgap : tokens.Blanks valued body)
      (h : Reads tokens .value body value after) (hcomma : tokens.Blanks after (44 :: more))
      (hmore : Reads tokens .members more (.object members) rest) :
      Reads tokens .members text (.object ((name, value) :: members)) rest

/-- The text is a document with the value. -/
def IsDocument (tokens : Tokens) (text : Bytes) (value : Value) : Prop :=
  ∃ body after, tokens.Blanks text body ∧ Reads tokens .value body value after ∧
    tokens.Blanks after []

/-! ## RFC 8259 -/

def shortEscapes : List (Byte × Byte) :=
  [(34, 34), (92, 92), (47, 47), (98, 8), (102, 12), (110, 10), (114, 13), (116, 9)]

/-- Four hexadecimal digits. -/
def codeUnit (digits : Bytes) (unit : Nat) : Prop :=
  ∃ a b c d, digits.map Hex.hexValue = [some a, some b, some c, some d] ∧
    unit = ((a * 16 + b) * 16 + c) * 16 + d

/-- What is written between quotation marks, and its value. A lone surrogate has none. -/
inductive Unescapes : Bytes → Bytes → Prop
  | nil : Unescapes [] []
  | plain {body value : Bytes} (byte : Byte) (hcontrol : 0x20 ≤ byte.toNat) (hquote : byte ≠ 34)
      (hescape : byte ≠ 92) (h : Unescapes body value) : Unescapes (byte :: body) (byte :: value)
  | short {body value : Bytes} (letter byte : Byte) (hletter : (letter, byte) ∈ shortEscapes)
      (h : Unescapes body value) : Unescapes (92 :: letter :: body) (byte :: value)
  | unicode {body value : Bytes} (digits : Bytes) (c : Char) (hunit : codeUnit digits c.toNat)
      (h : Unescapes body value) : Unescapes (92 :: 117 :: (digits ++ body)) (Utf8.encode c ++ value)
  | pair {body value : Bytes} (high low : Bytes) (upper lower : Nat) (c : Char)
      (hhigh : codeUnit high (0xD800 + upper)) (hlow : codeUnit low (0xDC00 + lower))
      (hlower : lower < 0x400) (hc : c.toNat = 0x10000 + upper * 0x400 + lower)
      (h : Unescapes body value) :
      Unescapes (92 :: 117 :: (high ++ 92 :: 117 :: (low ++ body))) (Utf8.encode c ++ value)

def Digits (text : Bytes) : Prop := text ≠ [] ∧ ∀ byte ∈ text, isDigit byte = true

def IsExponent (text : Bytes) : Prop :=
  ∃ letter sign digits, text = letter :: (sign ++ digits) ∧ (letter = 101 ∨ letter = 69) ∧
    (sign = [] ∨ sign = [43] ∨ sign = [45]) ∧ Digits digits

/-- A number that ends as the last argument says. -/
def IsNumber (ending : Bytes → Prop) (text : Bytes) : Prop :=
  ∃ sign whole fraction exponent, text = sign ++ whole ++ fraction ++ exponent ∧
    (sign = [] ∨ sign = [45]) ∧ Digits whole ∧ (whole.head? = some 48 → whole = [48]) ∧
    (fraction = [] ∨ ∃ digits, fraction = 46 :: digits ∧ Digits digits) ∧ ending exponent

def isBlank (byte : Byte) : Bool := byte = 32 || byte = 9 || byte = 10 || byte = 13

def rfc8259 : Tokens where
  blank byte := isBlank byte = true
  string := Unescapes
  number := IsNumber fun exponent => exponent = [] ∨ IsExponent exponent

/-- RFC 8259 without exponents. -/
def withoutExponents : Tokens where
  blank byte := isBlank byte = true
  string := Unescapes
  number := IsNumber (· = [])

/-! ## Facts -/

/-- Whatever the first tokens are may be written with the second ones. -/
structure Tokens.Within (first second : Tokens) : Prop where
  blank : ∀ byte, first.blank byte → second.blank byte
  string : ∀ body value, first.string body value → second.string body value
  number : ∀ text, first.number text → second.number text

theorem withoutExponents_within : withoutExponents.Within rfc8259 where
  blank _ h := h
  string _ _ h := h
  number := by
    rintro text ⟨sign, whole, fraction, exponent, htext, hsign, hwhole, hzero, hfraction, hend⟩
    exact ⟨sign, whole, fraction, exponent, htext, hsign, hwhole, hzero, hfraction, Or.inl hend⟩

variable {first second tokens : Tokens} {part : Part} {text rest body : Bytes} {value : Value}

theorem Tokens.Within.blanks (h : first.Within second) (hblanks : first.Blanks text rest) :
    second.Blanks text rest := by
  obtain ⟨gap, htext, hgap⟩ := hblanks
  exact ⟨gap, htext, fun byte hbyte => h.blank byte (hgap byte hbyte)⟩

theorem Reads.mono (h : first.Within second) (hreads : Reads first part text value rest) :
    Reads second part text value rest := by
  induction hreads with
  | null rest => exact .null rest
  | true rest => exact .true rest
  | false rest => exact .false rest
  | number text rest hnumber => exact .number text rest (h.number text hnumber)
  | string body value rest hstring => exact .string body value rest (h.string body value hstring)
  | emptyArray text rest hend => exact .emptyArray text rest (h.blanks hend)
  | array text value rest _ ih => exact .array text value rest ih
  | emptyObject text rest hend => exact .emptyObject text rest (h.blanks hend)
  | object text value rest _ ih => exact .object text value rest ih
  | lastElement text body value after rest hgap _ hend ih =>
    exact .lastElement text body value after rest (h.blanks hgap) ih (h.blanks hend)
  | element text body value after more values rest hgap _ hcomma _ ih ihmore =>
    exact .element text body value after more values rest (h.blanks hgap) ih (h.blanks hcomma) ihmore
  | lastMember text key name named valued body value after rest hkey hname hcolon hgap _ hend ih =>
    exact .lastMember text key name named valued body value after rest (h.blanks hkey)
      (h.string key name hname) (h.blanks hcolon) (h.blanks hgap) ih (h.blanks hend)
  | member text key name named valued body value after more members rest hkey hname hcolon hgap _
      hcomma _ ih ihmore =>
    exact .member text key name named valued body value after more members rest (h.blanks hkey)
      (h.string key name hname) (h.blanks hcolon) (h.blanks hgap) ih (h.blanks hcomma) ihmore

theorem IsDocument.mono (h : first.Within second) (hdocument : IsDocument first text value) :
    IsDocument second text value := by
  obtain ⟨body, after, hgap, hreads, hend⟩ := hdocument
  exact ⟨body, after, h.blanks hgap, hreads.mono h, h.blanks hend⟩

theorem Tokens.blanks_self (text : Bytes) : tokens.Blanks text text :=
  ⟨[], rfl, by simp⟩

theorem Tokens.Blanks.length_le (h : tokens.Blanks text rest) : rest.length ≤ text.length := by
  obtain ⟨gap, rfl, -⟩ := h
  rw [List.length_append]
  exact Nat.le_add_left _ _

theorem Tokens.Blanks.trans {middle : Bytes} (h : tokens.Blanks text middle)
    (hrest : tokens.Blanks middle rest) : tokens.Blanks text rest := by
  obtain ⟨gap, rfl, hgap⟩ := h
  obtain ⟨more, rfl, hmore⟩ := hrest
  refine ⟨gap ++ more, (List.append_assoc ..).symm, fun byte hbyte => ?_⟩
  exact (List.mem_append.mp hbyte).elim (hgap byte) (hmore byte)

/-- Blanks before the first element or member belong to it. -/
theorem Reads.elements_blanks (hgap : tokens.Blanks text body)
    (h : Reads tokens .elements body value rest) : Reads tokens .elements text value rest := by
  cases h with
  | lastElement _ first value after rest hfirst h hend =>
    exact .lastElement text first value after rest (hgap.trans hfirst) h hend
  | element _ first value after more values rest hfirst h hcomma hmore =>
    exact .element text first value after more values rest (hgap.trans hfirst) h hcomma
      hmore

theorem Reads.members_blanks (hgap : tokens.Blanks text body)
    (h : Reads tokens .members body value rest) : Reads tokens .members text value rest := by
  cases h with
  | lastMember _ key name named valued first value after rest hkey hname hcolon hfirst h hend =>
    exact .lastMember text key name named valued first value after rest
      (hgap.trans hkey) hname hcolon hfirst h hend
  | member _ key name named valued first value after more members rest hkey hname hcolon hfirst h
      hcomma hmore =>
    exact .member text key name named valued first value after more members rest
      (hgap.trans hkey) hname hcolon hfirst h hcomma hmore

/-- Where no number is empty, nothing is read from nothing. -/
theorem Reads.length_lt (hnumber : ¬ tokens.number []) (h : Reads tokens part text value rest) :
    rest.length < text.length := by
  induction h with
  | null rest =>
    simp [str]
    omega
  | true rest =>
    simp [str]
    omega
  | false rest =>
    simp [str]
    omega
  | number text rest h =>
    have hpos : 0 < text.length := List.length_pos_iff.mpr fun hempty => hnumber (hempty ▸ h)
    rw [List.length_append]
    omega
  | string body value rest h =>
    simp only [List.length_cons, List.length_append]
    omega
  | emptyArray text rest hend | emptyObject text rest hend =>
    have hle := hend.length_le
    simp only [List.length_cons] at hle ⊢
    omega
  | array text value rest _ ih | object text value rest _ ih =>
    rw [List.length_cons]
    omega
  | lastElement text body value after rest hgap _ hend ih =>
    have hbody := hgap.length_le
    have hrest := hend.length_le
    rw [List.length_cons] at hrest
    omega
  | element text body value after more values rest hgap _ hcomma _ ih ihmore =>
    have hbody := hgap.length_le
    have hrest := hcomma.length_le
    rw [List.length_cons] at hrest
    omega
  | lastMember text key name named valued body value after rest hkey hname hcolon hgap _ hend ih =>
    have hkeyLength := hkey.length_le
    have hcolonLength := hcolon.length_le
    have hbody := hgap.length_le
    have hrest := hend.length_le
    simp only [List.length_cons, List.length_append] at hkeyLength hcolonLength hrest
    omega
  | member text key name named valued body value after more members rest hkey hname hcolon hgap _
      hcomma _ ih ihmore =>
    have hkeyLength := hkey.length_le
    have hcolonLength := hcolon.length_le
    have hbody := hgap.length_le
    have hrest := hcomma.length_le
    simp only [List.length_cons, List.length_append] at hkeyLength hcolonLength hrest
    omega

end Dasall.Lib.Json
