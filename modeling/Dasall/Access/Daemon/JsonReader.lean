import Dasall.Lib.Text

/-!
# The JSON reader

It reads strings, booleans, integers and objects. A function takes what is left of the input and
returns its value with what is left after it. The depth of objects is bounded by the length of
the input, which is the fuel.
-/

open Dasall.Lib.Text

namespace Dasall.Access.Daemon

/-- An object lists its members in the order of the text; no key stands in it twice. -/
inductive JsonValue
  | string (value : Bytes)
  | bool (value : Bool)
  | integer (value : Int32)
  | object (members : List (Bytes × JsonValue))

abbrev JsonObject := List (Bytes × JsonValue)

def isWhitespace (byte : Byte) : Bool := byte = 32 || byte = 9 || byte = 10 || byte = 13

def skipWhitespace (input : Bytes) : Bytes := input.dropWhile isWhitespace

def consume (expected : Byte) : Bytes → Option Bytes
  | [] => none
  | byte :: rest => if byte = expected then some rest else none

def matchLiteral (literal input : Bytes) : Option Bytes :=
  if literal.isPrefixOf input then some (input.drop literal.length) else none

/-! ## Strings -/

def hexDigit (digit : Byte) : Option Nat :=
  if 48 ≤ digit ∧ digit ≤ 57 then some (digit.toNat - 48)
  else if 97 ≤ digit ∧ digit ≤ 102 then some (digit.toNat - 97 + 10)
  else if 65 ≤ digit ∧ digit ≤ 70 then some (digit.toNat - 65 + 10)
  else none

def appendUtf8 (codePoint : Nat) : Bytes :=
  if codePoint ≤ 0x7F then [UInt8.ofNat codePoint]
  else if codePoint ≤ 0x7FF then
    [UInt8.ofNat (0xC0 ||| (codePoint >>> 6 &&& 0x1F)), UInt8.ofNat (0x80 ||| (codePoint &&& 0x3F))]
  else
    [UInt8.ofNat (0xE0 ||| (codePoint >>> 12 &&& 0x0F)),
      UInt8.ofNat (0x80 ||| (codePoint >>> 6 &&& 0x3F)), UInt8.ofNat (0x80 ||| (codePoint &&& 0x3F))]

/-- `parse_unicode_escape` on its four digits. Surrogates are refused. -/
def parseUnicodeEscape (first second third fourth : Byte) : Option Bytes := do
  let a ← hexDigit first
  let b ← hexDigit second
  let c ← hexDigit third
  let d ← hexDigit fourth
  let codePoint := ((a * 16 + b) * 16 + c) * 16 + d
  if 0xD800 ≤ codePoint ∧ codePoint ≤ 0xDFFF then none else some (appendUtf8 codePoint)

/-- The escapes of one letter. -/
def simpleEscape (escaped : Byte) : Option Byte :=
  if escaped = 34 then some 34
  else if escaped = 92 then some 92
  else if escaped = 47 then some 47
  else if escaped = 98 then some 8
  else if escaped = 102 then some 12
  else if escaped = 110 then some 10
  else if escaped = 114 then some 13
  else if escaped = 116 then some 9
  else none

/-- The text read so far stands before the rest of it. -/
def pushed (text : Bytes) (result : Option (Bytes × Bytes)) : Option (Bytes × Bytes) :=
  result.map fun read => (text ++ read.1, read.2)

/-- The loop of `parse_string`, behind the opening quote. -/
def parseStringLoop : Bytes → Option (Bytes × Bytes)
  | [] => none
  | current :: rest =>
    if current = 34 then some ([], rest)
    else if current = 92 then
      match rest with
      | [] => none
      | escaped :: rest =>
        if escaped = 117 then
          match rest with
          | first :: second :: third :: fourth :: rest =>
            match parseUnicodeEscape first second third fourth with
            | none => none
            | some text => pushed text (parseStringLoop rest)
          | _ => none
        else
          match simpleEscape escaped with
          | none => none
          | some byte => pushed [byte] (parseStringLoop rest)
    else if current < 0x20 then none
    else pushed [current] (parseStringLoop rest)

def parseString (input : Bytes) : Option (Bytes × Bytes) := (consume 34 input).bind parseStringLoop

/-! ## Integers -/

/-- `std::from_chars` into an `int`. -/
def int32OfDigits (negative : Bool) (digits : Bytes) : Option Int32 :=
  let value : Int := if negative then -(digitsValue digits) else digitsValue digits
  if -2 ^ 31 ≤ value ∧ value < 2 ^ 31 then some (Int32.ofInt value) else none

/-- `0` stands alone, and other numbers do not begin with it. -/
def parseDigits (negative : Bool) (input : Bytes) : Option (Int32 × Bytes) :=
  match input with
  | [] => none
  | first :: rest =>
    if first = 48 then
      match rest.head? with
      | some next => if isDigit next then none else some (0, rest)
      | none => some (0, rest)
    else if !isDigit first then none
    else
      (int32OfDigits negative (input.takeWhile isDigit)).map (·, input.dropWhile isDigit)

def parseInteger (input : Bytes) : Option (Int32 × Bytes) :=
  match input with
  | [] => none
  | first :: rest => if first = 45 then parseDigits true rest else parseDigits false input

/-! ## Values -/

/-- `parse_object`, which ends at once or goes on to its members. -/
def parseObject (parseMembers : Bytes → Option (JsonObject × Bytes)) (input : Bytes) :
    Option (JsonObject × Bytes) :=
  match consume 123 input with
  | none => none
  | some rest =>
    match consume 125 (skipWhitespace rest) with
    | some rest => some ([], rest)
    | none => parseMembers (skipWhitespace rest)

mutual

def parseValue : Nat → Bytes → Option (JsonValue × Bytes)
  | 0, _ => none
  | fuel + 1, input =>
    match skipWhitespace input with
    | [] => none
    | current :: rest =>
      if current = 34 then (parseString (current :: rest)).map fun read => (.string read.1, read.2)
      else if current = 123 then
        (parseObject (fun input => parseMembers fuel [] input) (current :: rest)).map fun read =>
          (.object read.1, read.2)
      else
        match matchLiteral (str "true") (current :: rest) with
        | some rest => some (.bool true, rest)
        | none =>
          match matchLiteral (str "false") (current :: rest) with
          | some rest => some (.bool false, rest)
          | none =>
            if current = 45 || isDigit current then
              (parseInteger (current :: rest)).map fun read => (.integer read.1, read.2)
            else none

/-- The loop over the members of an object, behind the brace that opens it. -/
def parseMembers : Nat → JsonObject → Bytes → Option (JsonObject × Bytes)
  | 0, _, _ => none
  | fuel + 1, out, input =>
    match parseString input with
    | none => none
    | some (key, input) =>
      match consume 58 (skipWhitespace input) with
      | none => none
      | some input =>
        match parseValue fuel input with
        | none => none
        | some (value, input) =>
          if key ∈ out.map Prod.fst then none
          else
            match consume 125 (skipWhitespace input) with
            | some rest => some (out ++ [(key, value)], rest)
            | none =>
              match consume 44 (skipWhitespace input) with
              | none => none
              | some rest => parseMembers fuel (out ++ [(key, value)]) (skipWhitespace rest)

end

/-- `parse_root_object`: an object, with nothing but blanks around it. -/
def parseRootObject (input : Bytes) : Option JsonObject :=
  match parseObject (parseMembers input.length []) (skipWhitespace input) with
  | none => none
  | some (members, rest) => if skipWhitespace rest = [] then some members else none

/-! ## What is left is shorter -/

variable (members : Bytes → Option (JsonObject × Bytes)) (fuel : Nat) (input : Bytes)
  (read : Bytes × Bytes) (out : JsonObject)

theorem consume_eq_some (expected : Byte) (input rest : Bytes) :
    consume expected input = some rest ↔ input = expected :: rest := by
  unfold consume
  split
  · simp
  · next byte left =>
    split
    · next hsame => simp [hsame]
    · next hother => simp [hother]

theorem pushed_eq_some (text : Bytes) (result : Option (Bytes × Bytes)) (read : Bytes × Bytes)
    (h : pushed text result = some read) :
    ∃ later, result = some (later, read.2) ∧ read.1 = text ++ later := by
  unfold pushed at h
  obtain ⟨before, hbefore, rfl⟩ := Option.map_eq_some_iff.mp h
  exact ⟨before.1, hbefore, rfl⟩

theorem parseValue_cases (read : JsonValue × Bytes)
    (h : parseValue (fuel + 1) input = some read) :
    (∃ text, read.1 = .string text ∧
      parseString (skipWhitespace input) = some (text, read.2)) ∨
    (∃ members, read.1 = .object members ∧
      parseObject (parseMembers fuel []) (skipWhitespace input) = some (members, read.2)) ∨
    (∃ value, read.1 = .bool value ∧
      ∃ literal, literal ≠ [] ∧ matchLiteral literal (skipWhitespace input) = some read.2) ∨
    ∃ value, read.1 = .integer value ∧
      parseInteger (skipWhitespace input) = some (value, read.2) := by
  unfold parseValue at h
  split at h
  · simp at h
  next current rest hinput =>
  rw [hinput]
  split at h
  · obtain ⟨text, htext, rfl⟩ := Option.map_eq_some_iff.mp h
    exact Or.inl ⟨text.1, rfl, htext⟩
  split at h
  · obtain ⟨members, hmembers, rfl⟩ := Option.map_eq_some_iff.mp h
    exact Or.inr (Or.inl ⟨members.1, rfl, hmembers⟩)
  split at h
  · next hliteral =>
    cases h
    exact Or.inr (Or.inr (Or.inl ⟨true, rfl, _, by decide, hliteral⟩))
  split at h
  · next hliteral =>
    cases h
    exact Or.inr (Or.inr (Or.inl ⟨false, rfl, _, by decide, hliteral⟩))
  split at h
  · obtain ⟨value, hvalue, rfl⟩ := Option.map_eq_some_iff.mp h
    exact Or.inr (Or.inr (Or.inr ⟨value.1, rfl, hvalue⟩))
  · simp at h

/-- One turn of the loop over the members: it ends behind a brace or goes on behind a comma. -/
theorem parseMembers_turn (input : Bytes)
    (read : JsonObject × Bytes) (h : parseMembers (fuel + 1) out input = some read) :
    ∃ key afterKey afterColon value afterValue, parseString input = some (key, afterKey) ∧
      skipWhitespace afterKey = 58 :: afterColon ∧
      parseValue fuel afterColon = some (value, afterValue) ∧ key ∉ out.map Prod.fst ∧
      (skipWhitespace afterValue = 125 :: read.2 ∧ read.1 = out ++ [(key, value)] ∨
        ∃ rest, skipWhitespace afterValue = 44 :: rest ∧
          parseMembers fuel (out ++ [(key, value)]) (skipWhitespace rest) = some read) := by
  unfold parseMembers at h
  split at h
  · simp at h
  next key afterKey hkey =>
  split at h
  · simp at h
  next afterColon hcolon =>
  split at h
  · simp at h
  next value afterValue hvalue =>
  split at h
  · simp at h
  next hnew =>
  rw [consume_eq_some] at hcolon
  refine ⟨key, afterKey, afterColon, value, afterValue, hkey, hcolon, hvalue, hnew, ?_⟩
  split at h
  · next rest hclose =>
    cases h
    exact Or.inl ⟨(consume_eq_some ..).mp hclose, rfl⟩
  split at h
  · simp at h
  next rest hcomma =>
  exact Or.inr ⟨rest, (consume_eq_some ..).mp hcomma, h⟩

/-! ## The fuel is enough -/

/-! ## No key stands in an object twice -/

/-- The keys of the value differ, if it is an object. -/
def JsonValue.Distinct : JsonValue → Prop
  | .object members => (members.map Prod.fst).Nodup
  | _ => True

/-- The keys differ, and so do those of every object among the members. -/
def DistinctMembers (members : JsonObject) : Prop :=
  (members.map Prod.fst).Nodup ∧ ∀ member ∈ members, member.2.Distinct

theorem parseObject_distinct (read : JsonObject × Bytes)
    (hmembers : ∀ input read, members input = some read → DistinctMembers read.1)
    (h : parseObject members input = some read) : DistinctMembers read.1 := by
  unfold parseObject at h
  split at h
  · simp at h
  split at h
  · cases h
    exact ⟨List.nodup_nil, fun member hmember => absurd hmember List.not_mem_nil⟩
  · exact hmembers _ _ h

theorem DistinctMembers.append {out : JsonObject} {key : Bytes} {value : JsonValue}
    (hout : DistinctMembers out) (hvalue : value.Distinct) (hnew : key ∉ out.map Prod.fst) :
    DistinctMembers (out ++ [(key, value)]) := by
  constructor
  · rw [List.map_append, List.map_singleton, List.nodup_append]
    refine ⟨hout.1, List.pairwise_singleton _ _, fun other hother same hsame heq => hnew ?_⟩
    rwa [heq, List.mem_singleton.mp hsame] at hother
  · intro member hmember
    rcases List.mem_append.mp hmember with hold | hlast
    · exact hout.2 member hold
    · rw [List.mem_singleton.mp hlast]
      exact hvalue

theorem parse_distinct :
    (∀ input read, parseValue fuel input = some read → read.1.Distinct) ∧
      ∀ out input read, DistinctMembers out → parseMembers fuel out input = some read →
        DistinctMembers read.1 := by
  induction fuel with
  | zero =>
    exact ⟨fun _ _ h => by simp [parseValue] at h, fun _ _ _ _ h => by simp [parseMembers] at h⟩
  | succ fuel ih =>
    constructor
    · intro input read h
      rcases parseValue_cases fuel input read h with ⟨text, hread, -⟩ | ⟨members, hread, hmembers⟩ |
        ⟨value, hread, -⟩ | ⟨value, hread, -⟩ <;> rw [hread]
      · exact trivial
      · refine (parseObject_distinct _ _ _ (fun input read hlater => ?_) hmembers).1
        exact ih.2 [] input read ⟨List.nodup_nil, by simp⟩ hlater
      · exact trivial
      · exact trivial
    · intro out input read hout h
      obtain ⟨key, afterKey, afterColon, value, afterValue, -, -, hvalue, hnew, hrest⟩ :=
        parseMembers_turn fuel out input read h
      have hlonger := hout.append (ih.1 _ _ hvalue) hnew
      rcases hrest with ⟨-, hread⟩ | ⟨rest, -, hlater⟩
      · rw [hread]
        exact hlonger
      · exact ih.2 _ _ _ hlonger hlater

theorem parseRootObject_distinct (root : JsonObject)
    (h : parseRootObject input = some root) : DistinctMembers root := by
  unfold parseRootObject at h
  split at h
  · simp at h
  next members rest hread =>
  split at h
  · cases h
    refine parseObject_distinct _ _ _ (fun text read hmembers => ?_) hread
    exact (parse_distinct input.length).2 [] text read ⟨List.nodup_nil, by simp⟩ hmembers
  · simp at h

end Dasall.Access.Daemon
