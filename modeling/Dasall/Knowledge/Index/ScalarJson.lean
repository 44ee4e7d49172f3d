import Dasall.Lib.Hex
import Dasall.Lib.Separated
import Mathlib.Data.List.DropRight

/-!
# Flat JSON objects

The catalog and the ledger keep their records as JSON objects of strings and bare scalars, written
and read by hand. The reader keeps the first of two equal keys.
-/

open Dasall.Lib.Hex Dasall.Lib.Separated Dasall.Lib.Text

namespace Dasall.Knowledge.Index

/-- FNV-1a with 64 bits, in 16 hexadecimal digits. -/
def fnv1aHex (content : Bytes) : Bytes :=
  let hash : UInt64 := content.foldl (fun hash character =>
    (hash ^^^ character.toUInt64) * 1099511628211) 14695981039346656037
  (List.range 16).map fun digit => hexDigit (hash.toNat / 16 ^ (15 - digit) % 16)

/-! ## Strings -/

def escapeByte (character : Byte) : Bytes :=
  if character = 92 then [92, 92]
  else if character = 34 then [92, 34]
  else if character = 10 then [92, 110]
  else if character = 13 then [92, 114]
  else if character = 9 then [92, 116]
  else [character]

def escapeJsonString (value : Bytes) : Bytes := value.flatMap escapeByte

def unescape (character : Byte) : Option Byte :=
  if character = 92 then some 92
  else if character = 34 then some 34
  else if character = 110 then some 10
  else if character = 114 then some 13
  else if character = 116 then some 9
  else none

/-- A string after its opening quote, and what follows the closing one. -/
def parseQuotedBody : Bytes → Option (Bytes × Bytes)
  | [] => none
  | character :: rest =>
    if character = 34 then some ([], rest)
    else if character = 92 then
      match rest with
      | [] => none
      | escaped :: rest => do
        let value ← unescape escaped
        let (body, rest) ← parseQuotedBody rest
        some (value :: body, rest)
    else do
      let (body, rest) ← parseQuotedBody rest
      some (character :: body, rest)

def parseQuotedString : Bytes → Option (Bytes × Bytes)
  | 34 :: rest => parseQuotedBody rest
  | _ => none

def skipWhitespace (text : Bytes) : Bytes := text.dropWhile isSpace

/-! ## Objects -/

abbrev ScalarFields := List (Bytes × Bytes)

def ScalarFields.find (fields : ScalarFields) (key : Bytes) : Option Bytes := fields.lookup key

def isDelimiter (character : Byte) : Bool := character == 44 || character == 125

/-- A string, or what stands up to the next comma or closing brace. -/
def parseValue (text : Bytes) : Option (Bytes × Bytes) :=
  match text with
  | 34 :: rest => parseQuotedBody rest
  | text =>
    some ((text.takeWhile fun character => !isDelimiter character).rdropWhile isSpace,
      text.dropWhile fun character => !isDelimiter character)

/-- One `"key": value`. -/
def parseMember (text : Bytes) : Option ((Bytes × Bytes) × Bytes) := do
  let (key, rest) ← parseQuotedString (skipWhitespace text)
  match skipWhitespace rest with
  | 58 :: rest =>
    let (value, rest) ← parseValue (skipWhitespace rest)
    some ((key, value), rest)
  | _ => none

theorem parseQuotedBody_length {text body rest : Bytes}
    (h : parseQuotedBody text = some (body, rest)) : rest.length < text.length := by
  fun_induction parseQuotedBody text generalizing body rest with
  | case1 => cases h
  | case2 rest =>
    simp only [Option.some.injEq, Prod.mk.injEq] at h
    simp [← h.2]
  | case3 => cases h
  | case4 escaped tail _ ih =>
    simp only [Option.bind_eq_bind, Option.bind_eq_some_iff] at h
    obtain ⟨value, -, ⟨body', rest'⟩, hparse, h⟩ := h
    have hlength := ih hparse
    simp only [Option.some.injEq, Prod.mk.injEq] at h
    rw [← h.2]
    simp only [List.length_cons]
    omega
  | case5 character tail _ _ ih =>
    simp only [Option.bind_eq_bind, Option.bind_eq_some_iff] at h
    obtain ⟨⟨body', rest'⟩, hparse, h⟩ := h
    have hlength := ih hparse
    simp only [Option.some.injEq, Prod.mk.injEq] at h
    rw [← h.2]
    simp only [List.length_cons]
    omega

theorem skipWhitespace_length (text : Bytes) : (skipWhitespace text).length ≤ text.length :=
  (List.dropWhile_suffix isSpace).length_le

theorem parseValue_length {text value rest : Bytes} (h : parseValue text = some (value, rest)) :
    rest.length ≤ text.length := by
  unfold parseValue at h
  split at h
  · exact Nat.le_of_lt (Nat.lt_succ_of_lt (parseQuotedBody_length h))
  · simp only [Option.some.injEq, Prod.mk.injEq] at h
    rw [← h.2]
    exact (List.dropWhile_suffix _).length_le

theorem parseMember_length {text : Bytes} {member : Bytes × Bytes} {rest : Bytes}
    (h : parseMember text = some (member, rest)) : rest.length < text.length := by
  unfold parseMember parseQuotedString at h
  have htext := skipWhitespace_length text
  split at h
  next body hbody =>
    rw [hbody, List.length_cons] at htext
    simp only [Option.bind_eq_bind, Option.bind_eq_some_iff] at h
    obtain ⟨⟨key, afterKey⟩, hkey, h⟩ := h
    have hkeyLength := parseQuotedBody_length hkey
    have hskip := skipWhitespace_length afterKey
    split at h
    next afterColon hcolon =>
      rw [hcolon, List.length_cons] at hskip
      simp only [Option.bind_eq_some_iff] at h
      obtain ⟨⟨value, afterValue⟩, hvalue, h⟩ := h
      have hvalueLength := parseValue_length hvalue
      have hskip' := skipWhitespace_length afterColon
      simp only [Option.some.injEq, Prod.mk.injEq] at h
      rw [← h.2]
      omega
    next => cases h
  next => simp at h

/-- The members up to the closing brace, which only white space may follow. -/
def parseMembers (fields : ScalarFields) (text : Bytes) : Option ScalarFields :=
  match _hmember : parseMember text with
  | none => none
  | some (member, afterMember) =>
    match _hrest : skipWhitespace afterMember with
    | 125 :: rest => if (skipWhitespace rest).isEmpty then some (fields ++ [member]) else none
    | 44 :: rest => parseMembers (fields ++ [member]) rest
    | _ => none
termination_by text.length
decreasing_by
  have hlength := parseMember_length _hmember
  have hskip := skipWhitespace_length afterMember
  rw [_hrest, List.length_cons] at hskip
  omega

def parseScalarJsonObject (text : Bytes) : Option ScalarFields :=
  match skipWhitespace text with
  | 123 :: rest =>
    match skipWhitespace rest with
    | 125 :: rest => if (skipWhitespace rest).isEmpty then some [] else none
    | rest => parseMembers [] rest
  | _ => none

/-! ## Writing -/

/-- A value as it is written: a string in quotes, or a bare literal. -/
inductive Scalar
  | text (value : Bytes)
  | bare (literal : Bytes)

def Scalar.value : Scalar → Bytes
  | text value => value
  | bare literal => literal

def Scalar.render : Scalar → Bytes
  | text value => 34 :: escapeJsonString value ++ [34]
  | bare literal => literal

def renderMember (member : Bytes × Scalar) : Bytes :=
  34 :: member.1 ++ [34, 58] ++ member.2.render

def renderObject (members : List (Bytes × Scalar)) : Bytes :=
  123 :: join 44 (members.map renderMember) ++ [125]

/-! ## What was written reads back -/

/-- A field that is found is what the rest is read with. -/
theorem bind_found {α β : Type} {found : Option α} {a : α} {next : α → Option β} {b : β}
    (h : found = some a) (hnext : next a = some b) : found.bind next = some b := by
  rw [h, Option.bind_some, hnext]

theorem parseQuotedBody_close (rest : Bytes) : parseQuotedBody (34 :: rest) = some ([], rest) := by
  unfold parseQuotedBody
  rw [if_pos rfl]

theorem parseQuotedBody_other (character : Byte) (rest : Bytes) (hquote : character ≠ 34)
    (hbackslash : character ≠ 92) :
    parseQuotedBody (character :: rest) =
      (parseQuotedBody rest).map fun read => (character :: read.1, read.2) := by
  rw [parseQuotedBody.eq_def]
  simp only [hquote, hbackslash, if_false]
  cases parseQuotedBody rest <;> rfl

theorem parseQuotedBody_escaped (escaped value : Byte) (rest : Bytes)
    (h : unescape escaped = some value) :
    parseQuotedBody (92 :: escaped :: rest) =
      (parseQuotedBody rest).map fun read => (value :: read.1, read.2) := by
  rw [parseQuotedBody]
  simp only [h, Option.bind_eq_bind, Option.bind_some]
  cases parseQuotedBody rest <;> rfl

theorem parseQuotedBody_escapeByte (character : Byte) (rest : Bytes) :
    parseQuotedBody (escapeByte character ++ rest) =
      (parseQuotedBody rest).map fun read => (character :: read.1, read.2) := by
  unfold escapeByte
  split
  next h => exact parseQuotedBody_escaped 92 character rest (by rw [h]; rfl)
  next hbackslash =>
  split
  next h => exact parseQuotedBody_escaped 34 character rest (by rw [h]; rfl)
  next hquote =>
  split
  next h => exact parseQuotedBody_escaped 110 character rest (by rw [h]; rfl)
  split
  next h => exact parseQuotedBody_escaped 114 character rest (by rw [h]; rfl)
  split
  next h => exact parseQuotedBody_escaped 116 character rest (by rw [h]; rfl)
  next => exact parseQuotedBody_other character rest hquote hbackslash

theorem parseQuotedBody_escape (value rest : Bytes) :
    parseQuotedBody (escapeJsonString value ++ 34 :: rest) = some (value, rest) := by
  unfold escapeJsonString
  induction value with
  | nil => exact parseQuotedBody_close rest
  | cons character value ih =>
    rw [List.flatMap_cons, List.append_assoc, parseQuotedBody_escapeByte, ih]
    rfl

theorem escapeJsonString_plain (key : Bytes) (h : ∀ b ∈ key, escapeByte b = [b]) :
    escapeJsonString key = key := by
  unfold escapeJsonString
  rw [List.flatMap_congr h, List.flatMap_singleton']

/-- A literal that needs no quotes. -/
def BareLiteral (literal : Bytes) : Prop :=
  ∀ b ∈ literal, b ≠ 34 ∧ isDelimiter b = false ∧ isSpace b = false

instance (literal : Bytes) : Decidable (BareLiteral literal) := by
  unfold BareLiteral
  infer_instance

/-- A key that needs no escapes, and a bare value that needs no quotes. -/
def CleanMember (member : Bytes × Scalar) : Prop :=
  (∀ b ∈ member.1, escapeByte b = [b]) ∧ ∀ literal, member.2 = .bare literal → BareLiteral literal

theorem skipWhitespace_of_head (text : Bytes) (h : ∀ b ∈ text.head?, isSpace b = false) :
    skipWhitespace text = text := by
  unfold skipWhitespace
  cases text with
  | nil => rfl
  | cons b text => rw [List.dropWhile_cons_of_neg (by simpa using h)]

theorem delimiter_not_space (b : Byte) (h : isDelimiter b = true) : isSpace b = false ∧ b ≠ 34 := by
  simp only [isDelimiter, Bool.or_eq_true, beq_iff_eq] at h
  rcases h with rfl | rfl <;> decide

theorem parseValue_bare (literal rest : Bytes) (delimiter : Byte) (h : BareLiteral literal)
    (hdelimiter : isDelimiter delimiter = true) :
    parseValue (literal ++ delimiter :: rest) = some (literal, delimiter :: rest) := by
  have hbefore : ∀ b ∈ literal, (!isDelimiter b) = true := fun b hb => by simp [(h b hb).2.1]
  have htrim : literal.rdropWhile isSpace = literal := by
    rw [List.rdropWhile_eq_self_iff]
    intro hne
    simp [(h _ (List.getLast_mem hne)).2.2]
  have hquote : ∀ tail, literal ++ delimiter :: rest ≠ 34 :: tail := by
    intro tail heq
    cases literal with
    | nil => exact (delimiter_not_space delimiter hdelimiter).2 (List.cons.inj heq).1
    | cons b literal => exact (h b List.mem_cons_self).1 (List.cons.inj heq).1
  unfold parseValue
  split
  next tail heq => exact absurd heq (hquote tail)
  next =>
    rw [List.takeWhile_append_of_pos hbefore, List.dropWhile_append_of_pos hbefore,
      List.takeWhile_cons_of_neg (by simp [hdelimiter]),
      List.dropWhile_cons_of_neg (by simp [hdelimiter]), List.append_nil, htrim]

theorem parseValue_render (scalar : Scalar) (rest : Bytes) (delimiter : Byte)
    (h : ∀ literal, scalar = .bare literal → BareLiteral literal)
    (hdelimiter : isDelimiter delimiter = true) :
    parseValue (skipWhitespace (scalar.render ++ delimiter :: rest)) =
      some (scalar.value, delimiter :: rest) := by
  cases scalar with
  | text value =>
    have hskip : skipWhitespace ((Scalar.text value).render ++ delimiter :: rest) =
        34 :: (escapeJsonString value ++ 34 :: delimiter :: rest) := by
      rw [skipWhitespace_of_head _ (by simp [Scalar.render, isSpace])]
      simp [Scalar.render]
    rw [hskip]
    exact parseQuotedBody_escape value (delimiter :: rest)
  | bare literal =>
    have hliteral := h literal rfl
    have hskip : skipWhitespace (literal ++ delimiter :: rest) = literal ++ delimiter :: rest := by
      apply skipWhitespace_of_head
      cases literal with
      | nil => simpa using (delimiter_not_space delimiter hdelimiter).1
      | cons b literal => simpa using (hliteral b List.mem_cons_self).2.2
    unfold Scalar.render Scalar.value
    rw [hskip]
    exact parseValue_bare literal rest delimiter hliteral hdelimiter

variable (member : Bytes × Scalar)

theorem parseMember_render (rest : Bytes) (delimiter : Byte)
    (h : CleanMember member) (hdelimiter : isDelimiter delimiter = true) :
    parseMember (renderMember member ++ delimiter :: rest) =
      some ((member.1, member.2.value), delimiter :: rest) := by
  obtain ⟨hkey, hvalue⟩ := h
  have htext : renderMember member ++ delimiter :: rest =
      34 :: (escapeJsonString member.1 ++ 34 :: 58 :: (member.2.render ++ delimiter :: rest)) := by
    simp [renderMember, escapeJsonString_plain member.1 hkey]
  unfold parseMember
  rw [htext, skipWhitespace_of_head _ (by simp [isSpace])]
  simp only [parseQuotedString, parseQuotedBody_escape, Option.bind_eq_bind, Option.bind_some]
  rw [skipWhitespace_of_head _ (by simp [isSpace])]
  simp only [parseValue_render member.2 rest delimiter hvalue hdelimiter, Option.bind_some]

variable (fields : ScalarFields)

theorem parseMembers_last (text rest : Bytes) (member : Bytes × Bytes)
    (h : parseMember text = some (member, 125 :: rest)) (hrest : skipWhitespace rest = []) :
    parseMembers fields text = some (fields ++ [member]) := by
  have hskip : skipWhitespace (125 :: rest) = 125 :: rest :=
    skipWhitespace_of_head _ (by simp [isSpace])
  rw [parseMembers]
  split
  next hnone => simp [hnone] at h
  next member' after hsome =>
    obtain ⟨rfl, rfl⟩ : member' = member ∧ after = 125 :: rest := by simpa [hsome] using h
    split
    next rest' hbrace =>
      obtain rfl : rest = rest' := by simpa [hskip] using hbrace
      simp [hrest]
    next hcomma => simp [hskip] at hcomma
    next hbrace _ => exact absurd hskip (hbrace rest)

theorem parseMembers_next (text rest : Bytes) (member : Bytes × Bytes)
    (h : parseMember text = some (member, 44 :: rest)) :
    parseMembers fields text = parseMembers (fields ++ [member]) rest := by
  have hskip : skipWhitespace (44 :: rest) = 44 :: rest :=
    skipWhitespace_of_head _ (by simp [isSpace])
  rw [parseMembers]
  split
  next hnone => simp [hnone] at h
  next member' after hsome =>
    obtain ⟨rfl, rfl⟩ : member' = member ∧ after = 44 :: rest := by simpa [hsome] using h
    split
    next hbrace => simp [hskip] at hbrace
    next rest' hcomma =>
      obtain rfl : rest = rest' := by simpa [hskip] using hcomma
      rfl
    next _ hcomma => exact absurd hskip (hcomma rest)

theorem parseMembers_render (member : Bytes × Scalar)
    (members : List (Bytes × Scalar)) (rest : Bytes)
    (h : ∀ other ∈ member :: members, CleanMember other) (hrest : skipWhitespace rest = []) :
    parseMembers fields (join 44 ((member :: members).map renderMember) ++ 125 :: rest) =
      some (fields ++ (member :: members).map fun other => (other.1, other.2.value)) := by
  induction members generalizing fields member with
  | nil =>
    have hmember := parseMember_render member rest 125 (h member List.mem_cons_self) rfl
    simpa [join] using parseMembers_last fields _ rest _ hmember hrest
  | cons second members ih =>
    have hmember := parseMember_render member
      (join 44 ((second :: members).map renderMember) ++ 125 :: rest) 44
      (h member List.mem_cons_self) rfl
    rw [List.map_cons, List.map_cons, join_cons_cons, List.append_assoc, List.cons_append,
      ← List.map_cons, parseMembers_next fields _ _ _ hmember,
      ih _ second fun other hother => h other (List.mem_cons_of_mem _ hother)]
    simp

variable (members : List (Bytes × Scalar))

theorem parse_renderObject (rest : Bytes)
    (h : ∀ other ∈ member :: members, CleanMember other) (hrest : skipWhitespace rest = []) :
    parseScalarJsonObject (renderObject (member :: members) ++ rest) =
      some ((member :: members).map fun other => (other.1, other.2.value)) := by
  have hmembers := parseMembers_render [] member members rest h hrest
  -- The object is not empty: after the brace comes the quote of the first key.
  obtain ⟨tail, htail⟩ : ∃ tail,
      join 44 ((member :: members).map renderMember) ++ 125 :: rest = 34 :: tail := by
    cases members with
    | nil => exact ⟨_, by simp [join, renderMember]; rfl⟩
    | cons second members =>
      exact ⟨_, by rw [List.map_cons, List.map_cons, join_cons_cons]; simp [renderMember]; rfl⟩
  have htext : renderObject (member :: members) ++ rest = 123 :: 34 :: tail := by
    rw [← htail]
    simp [renderObject]
  rw [htail] at hmembers
  unfold parseScalarJsonObject
  rw [htext, skipWhitespace_of_head _ (by simp [isSpace])]
  simp only
  rw [skipWhitespace_of_head _ (by simp [isSpace])]
  exact hmembers

/-! ## Fields -/

def parseInt64Field (fields : ScalarFields) (key : Bytes) : Option Int64 := do
  let value ← fields.find key
  if value.isEmpty then none else stoll value

def parseSizeField (fields : ScalarFields) (key : Bytes) : Option UInt64 := do
  let value ← fields.find key
  if value.isEmpty then none else stoull value

def boolText (value : Bool) : Bytes := if value then str "true" else str "false"

def parseBoolField (fields : ScalarFields) (key : Bytes) : Option Bool := do
  let value ← fields.find key
  if value = str "true" then some true
  else if value = str "false" then some false
  else none

theorem bareLiteral_decimal (n : Nat) : BareLiteral (decimal n) := by
  intro b hb
  have hdigit := decimal_digits n b hb
  refine ⟨?_, ?_, digit_not_space b hdigit⟩
  · rintro rfl
    simp [isDigit] at hdigit
  · rw [Bool.eq_false_iff]
    intro hdelimiter
    simp only [isDelimiter, Bool.or_eq_true, beq_iff_eq] at hdelimiter
    rcases hdelimiter with rfl | rfl <;> simp [isDigit] at hdigit

theorem bareLiteral_intDecimal (i : Int) : BareLiteral (intDecimal i) := by
  unfold intDecimal
  split
  · intro b hb
    rcases List.mem_cons.mp hb with rfl | hb
    · decide
    · exact bareLiteral_decimal _ b hb
  · exact bareLiteral_decimal _

theorem bareLiteral_boolText (value : Bool) : BareLiteral (boolText value) := by
  cases value <;> decide

theorem intDecimal_ne_nil (i : Int) : intDecimal i ≠ [] := by
  unfold intDecimal
  split
  · simp
  · exact decimal_ne_nil _

variable (key : Bytes)

theorem parseInt64_intDecimal (i : Int64)
    (h : fields.find key = some (intDecimal i.toInt)) : parseInt64Field fields key = some i := by
  unfold parseInt64Field
  simp [h, intDecimal_ne_nil, stoll_intDecimal]

theorem parseSize_decimal (n : UInt64)
    (h : fields.find key = some (decimal n.toNat)) : parseSizeField fields key = some n := by
  unfold parseSizeField
  simp [h, decimal_ne_nil, stoull_decimal]

theorem parseBool_boolText (b : Bool)
    (h : fields.find key = some (boolText b)) : parseBoolField fields key = some b := by
  unfold parseBoolField
  cases b with
  | true => simp [h, boolText]
  | false =>
    have hne : str "false" ≠ str "true" := by decide
    simp [h, boolText, hne]

theorem cleanMember_text (key value : Bytes) (hkey : ∀ b ∈ key, escapeByte b = [b]) :
    CleanMember (key, .text value) := by
  refine ⟨hkey, ?_⟩
  intro literal h
  cases h

theorem cleanMember_bare (key literal : Bytes) (hkey : ∀ b ∈ key, escapeByte b = [b])
    (hliteral : BareLiteral literal) : CleanMember (key, .bare literal) := by
  refine ⟨hkey, ?_⟩
  intro literal' h
  obtain rfl : literal = literal' := by simpa using h
  exact hliteral

/-! ## One line -/

/-- The lines of a file, each with its line break. -/
def linesOf (lines : List Bytes) : Bytes := lines.flatMap (· ++ [10])

theorem escapeByte_no_break (character : Byte) : 10 ∉ escapeByte character := by
  unfold escapeByte
  grind

theorem escapeJsonString_no_break (value : Bytes) : 10 ∉ escapeJsonString value := by
  unfold escapeJsonString
  intro h
  obtain ⟨character, -, hmem⟩ := List.mem_flatMap.mp h
  exact escapeByte_no_break character hmem

theorem renderMember_no_break (h : CleanMember member) :
    10 ∉ renderMember member := by
  obtain ⟨hkey, hvalue⟩ := h
  have hkey10 : 10 ∉ member.1 := by
    rw [← escapeJsonString_plain member.1 hkey]
    exact escapeJsonString_no_break _
  have hvalue10 : 10 ∉ member.2.render := by
    unfold Scalar.render
    split
    · simp [escapeJsonString_no_break]
    next literal hliteral =>
      intro h
      have hspace := (hvalue literal hliteral 10 h).2.2
      simp [isSpace] at hspace
  simp [renderMember, hkey10, hvalue10]

theorem join_no_break (pieces : List Bytes) (h : ∀ piece ∈ pieces, 10 ∉ piece) :
    10 ∉ join 44 pieces := by
  match pieces with
  | [] => simp [join]
  | [piece] => simpa [join] using h
  | first :: second :: rest =>
    rw [join_cons_cons, List.mem_append, List.mem_cons, not_or, not_or]
    obtain ⟨hfirst, hrest⟩ := List.forall_mem_cons.mp h
    exact ⟨hfirst, by decide, join_no_break (second :: rest) hrest⟩

theorem renderObject_no_break
    (h : ∀ member ∈ members, CleanMember member) : 10 ∉ renderObject members := by
  have hjoin := join_no_break (members.map renderMember) (by
    intro piece hpiece
    obtain ⟨member, hmember, rfl⟩ := List.mem_map.mp hpiece
    exact renderMember_no_break member (h member hmember))
  simp [renderObject, hjoin]

theorem renderObject_getLast :
    (renderObject members).getLast? = some 125 := by
  simp [renderObject, List.getLast?_cons]

end Dasall.Knowledge.Index
