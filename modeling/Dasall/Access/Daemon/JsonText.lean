import Dasall.Access.Daemon.JsonReader

/-!
# JSON text

The text of a value without a blank in it, and that the reader reads it back: a string escape by
escape, an object member by member.
-/

open Dasall.Lib.Text

namespace Dasall.Access.Daemon

def kHex : Bytes := str "0123456789abcdef"

def escapeByte (current : Byte) : Bytes :=
  if current = 34 then [92, 34]
  else if current = 92 then [92, 92]
  else if current = 8 then [92, 98]
  else if current = 12 then [92, 102]
  else if current = 10 then [92, 110]
  else if current = 13 then [92, 114]
  else if current = 9 then [92, 116]
  else if current < 0x20 then
    [92, 117, 48, 48, kHex.getD (current.toNat >>> 4 &&& 0x0F) 0,
      kHex.getD (current.toNat &&& 0x0F) 0]
  else [current]

def escapeJsonString (input : Bytes) : Bytes := input.flatMap escapeByte

def quote (text : Bytes) : Bytes := 34 :: escapeJsonString text ++ [34]

def boolText (value : Bool) : Bytes := if value then str "true" else str "false"

mutual

def renderValue : JsonValue → Bytes
  | .string value => quote value
  | .bool value => boolText value
  | .integer value => intDecimal value.toInt
  | .object members => 123 :: renderMembers members ++ [125]

def renderMembers : List (Bytes × JsonValue) → Bytes
  | [] => []
  | member :: later => renderMember member ++ renderLater later

def renderLater : List (Bytes × JsonValue) → Bytes
  | [] => []
  | member :: later => 44 :: renderMember member ++ renderLater later

def renderMember : Bytes × JsonValue → Bytes
  | (key, value) => quote key ++ 58 :: renderValue value

end

/-! ## Strings -/

variable (current : Byte) (text : Bytes) (members : JsonObject) (member : Bytes × JsonValue)
  (value : Int32) (negative : Bool) (first : Byte) (fuel : Nat) (out : JsonObject) (rest : Bytes)

theorem parseUnicodeEscape_control (h : current < 0x20) :
    parseUnicodeEscape 48 48 (kHex.getD (current.toNat >>> 4 &&& 0x0F) 0)
      (kHex.getD (current.toNat &&& 0x0F) 0) = some [current] := by
  have htable : ∀ n < 32, parseUnicodeEscape 48 48 (kHex.getD (n >>> 4 &&& 0x0F) 0)
      (kHex.getD (n &&& 0x0F) 0) = some [UInt8.ofNat n] := by decide
  have hlow : current.toNat < 32 := UInt8.lt_iff_toNat_lt.mp h
  rw [htable current.toNat hlow, UInt8.ofNat_toNat]

theorem parseStringLoop_simpleEscape (escaped byte : Byte) (rest : Bytes)
    (h : simpleEscape escaped = some byte) (hletter : escaped ≠ 117) :
    parseStringLoop (92 :: escaped :: rest) = pushed [byte] (parseStringLoop rest) := by
  rw [parseStringLoop.eq_def]
  simp [h, hletter]

theorem parseStringLoop_escapeByte :
    parseStringLoop (escapeByte current ++ rest) = pushed [current] (parseStringLoop rest) := by
  unfold escapeByte
  split
  · next h => exact h ▸ parseStringLoop_simpleEscape 34 34 rest rfl (by decide)
  split
  · next h => exact h ▸ parseStringLoop_simpleEscape 92 92 rest rfl (by decide)
  split
  · next h => exact h ▸ parseStringLoop_simpleEscape 98 8 rest rfl (by decide)
  split
  · next h => exact h ▸ parseStringLoop_simpleEscape 102 12 rest rfl (by decide)
  split
  · next h => exact h ▸ parseStringLoop_simpleEscape 110 10 rest rfl (by decide)
  split
  · next h => exact h ▸ parseStringLoop_simpleEscape 114 13 rest rfl (by decide)
  split
  · next h => exact h ▸ parseStringLoop_simpleEscape 116 9 rest rfl (by decide)
  next hquote hbackslash _ _ _ _ _ =>
  split
  · next hcontrol =>
    have hread := parseUnicodeEscape_control current hcontrol
    rw [parseStringLoop.eq_def]
    simp only [List.cons_append, List.nil_append, hread]
    rfl
  · next hplain =>
    rw [List.singleton_append, parseStringLoop.eq_def]
    simp [hquote, hbackslash, hplain]

theorem parseStringLoop_escapeJsonString :
    parseStringLoop (escapeJsonString text ++ 34 :: rest) = some (text, rest) := by
  unfold escapeJsonString
  induction text with
  | nil =>
    rw [parseStringLoop.eq_def]
    simp
  | cons current text ih =>
    rw [List.flatMap_cons, List.append_assoc, parseStringLoop_escapeByte, ih]
    rfl

theorem parseString_quote :
    parseString (quote text ++ rest) = some (text, rest) := by
  unfold parseString quote
  simp [consume, parseStringLoop_escapeJsonString]

/-! ## Integers -/

theorem int32OfDigits_decimal
    (h : value.toInt = if negative then -(value.toInt.natAbs : Int) else value.toInt.natAbs) :
    int32OfDigits negative (decimal value.toInt.natAbs) = some value := by
  have hlow := Int32.le_toInt value
  have hhigh := Int32.toInt_lt value
  unfold int32OfDigits
  rw [digitsValue_decimal]
  dsimp only
  rw [← h, if_pos ⟨hlow, hhigh⟩, Int32.ofInt_toInt]

theorem decimal_head (n : Nat) (hpositive : 0 < n) :
    ∃ first rest, decimal n = first :: rest ∧ first ≠ 48 := by
  induction n using Nat.strong_induction_on with
  | _ n ih =>
    unfold decimal at ih ⊢
    rw [Nat.toDigits_eq_if (by omega)]
    split
    · next hdigit =>
      have htable : ∀ n < 10, 0 < n → UInt8.ofNat n.digitChar.toNat ≠ 48 := by decide
      exact ⟨_, [], rfl, htable n hdigit hpositive⟩
    · obtain ⟨first, rest, hfirst, hne⟩ := ih (n / 10) (by omega) (by omega)
      rw [List.map_append, hfirst]
      exact ⟨first, _, rfl, hne⟩

theorem parseDigits_decimal (value : Int32) (rest : Bytes)
    (h : value.toInt = if negative then -(value.toInt.natAbs : Int) else value.toInt.natAbs)
    (hrest : ∀ b ∈ rest.head?, isDigit b = false) :
    parseDigits negative (decimal value.toInt.natAbs ++ rest) = some (value, rest) := by
  have hread := int32OfDigits_decimal value negative h
  rcases Nat.eq_zero_or_pos value.toInt.natAbs with hzero | hpositive
  · have hvalue : value = 0 := by
      rw [← Int32.toInt_inj]
      exact Int.natAbs_eq_zero.mp hzero
    have hdecimal : decimal 0 = [48] := rfl
    rw [hzero, hdecimal, hvalue]
    unfold parseDigits
    cases rest with
    | nil => rfl
    | cons b rest => simp [hrest b rfl]
  · obtain ⟨first, tail, hdecimal, hfirst⟩ := decimal_head _ hpositive
    have hdigit : isDigit first = true :=
      decimal_digits value.toInt.natAbs first (by rw [hdecimal]; exact List.mem_cons_self)
    have htake := takeWhile_decimal value.toInt.natAbs rest hrest
    have hdrop : (decimal value.toInt.natAbs ++ rest).dropWhile isDigit = rest := by
      have hwhole := List.takeWhile_append_dropWhile (p := isDigit)
        (l := decimal value.toInt.natAbs ++ rest)
      rw [htake] at hwhole
      exact List.append_cancel_left hwhole
    unfold parseDigits
    rw [htake, hdrop, hread, hdecimal]
    simp [hfirst, hdigit]

theorem parseInteger_intDecimal (hrest : ∀ b ∈ rest.head?, isDigit b = false) :
    parseInteger (intDecimal value.toInt ++ rest) = some (value, rest) := by
  unfold intDecimal
  split
  · next hnegative =>
    have h := parseDigits_decimal true value rest (by simp only [if_true]; omega) hrest
    simpa [parseInteger] using h
  · next hpositive =>
    have h := parseDigits_decimal false value rest (by rw [if_neg Bool.false_ne_true]; omega) hrest
    obtain ⟨first, tail, hdecimal, hdigit⟩ := decimal_cons value.toInt.natAbs
    have hsign := (digit_not_sign first hdigit).1
    rw [hdecimal] at h ⊢
    simpa [parseInteger, hsign] using h

/-! ## Values -/

/-- The text of the value is read as the value, before any text that is no digit. -/
def Reads (value : JsonValue) : Prop :=
  ∀ fuel rest, (∀ b ∈ rest.head?, isDigit b = false) → (renderValue value).length ≤ fuel →
    parseValue fuel (renderValue value ++ rest) = some (value, rest)

theorem skipWhitespace_of_head (h : isWhitespace first = false) :
    skipWhitespace (first :: rest) = first :: rest := by
  simp [skipWhitespace, h]

theorem reads_string (value : Bytes) : Reads (.string value) := by
  intro fuel rest _ hfuel
  have hread := parseString_quote value rest
  unfold renderValue at hfuel ⊢
  unfold quote at hread hfuel ⊢
  cases fuel with
  | zero => simp at hfuel
  | succ fuel =>
    rw [List.cons_append, List.cons_append] at hread ⊢
    rw [parseValue, skipWhitespace_of_head _ _ rfl]
    simp only [if_true, hread]
    rfl

theorem reads_bool (value : Bool) : Reads (.bool value) := by
  intro fuel rest _ hfuel
  unfold renderValue at hfuel ⊢
  cases fuel with
  | zero => cases value <;> simp [boolText, str] at hfuel
  | succ fuel => cases value <;> rfl

theorem intDecimal_head (value : Int) :
    ∃ first rest, intDecimal value = first :: rest ∧ (first = 45 ∨ isDigit first = true) := by
  unfold intDecimal
  split
  · exact ⟨45, _, rfl, Or.inl rfl⟩
  · obtain ⟨first, rest, hdecimal, hdigit⟩ := decimal_cons value.natAbs
    exact ⟨first, rest, hdecimal, Or.inr hdigit⟩

theorem matchLiteral_of_head (expected first : Byte) (literal rest : Bytes)
    (h : first ≠ expected) : matchLiteral (expected :: literal) (first :: rest) = none := by
  simp [matchLiteral, h.symm]

theorem reads_integer : Reads (.integer value) := by
  intro fuel rest hrest hfuel
  have hread := parseInteger_intDecimal value rest hrest
  unfold renderValue at hfuel ⊢
  obtain ⟨first, tail, htext, hfirst⟩ := intDecimal_head value.toInt
  rw [htext, List.cons_append] at hread ⊢
  rw [htext, List.length_cons] at hfuel
  obtain ⟨fuel, rfl⟩ : ∃ less, fuel = less + 1 := ⟨fuel - 1, by omega⟩
  have hrange : first.toNat = 45 ∨ (48 ≤ first.toNat ∧ first.toNat ≤ 57) := by
    rcases hfirst with rfl | hdigit
    · exact Or.inl rfl
    · simpa [isDigit] using Or.inr hdigit
  have hother : ∀ byte : Byte, byte.toNat < 45 ∨ 57 < byte.toNat → first ≠ byte := by
    rintro byte hbyte rfl
    omega
  have hblank : isWhitespace first = false := by
    simp [isWhitespace, hother]
  have htrue : matchLiteral (str "true") (first :: (tail ++ rest)) = none :=
    matchLiteral_of_head _ _ _ _ (hother 116 (by decide))
  have hfalse : matchLiteral (str "false") (first :: (tail ++ rest)) = none :=
    matchLiteral_of_head _ _ _ _ (hother 102 (by decide))
  rw [parseValue, skipWhitespace_of_head _ _ hblank]
  simp [hother, hread, htrue, hfalse, hfirst]

/-! ## Objects -/

theorem renderMember_length :
    (renderMember member).length = (quote member.1).length + (renderValue member.2).length + 1 := by
  unfold renderMember
  rw [List.length_append, List.length_cons]
  omega

theorem renderMember_head :
    ∃ tail, renderMember member = 34 :: tail := by
  obtain ⟨key, value⟩ := member
  exact ⟨_, rfl⟩

theorem skipWhitespace_renderMember :
    skipWhitespace (renderMember member ++ rest) = renderMember member ++ rest := by
  obtain ⟨tail, htail⟩ := renderMember_head member
  rw [htail]
  exact skipWhitespace_of_head _ _ rfl

/-- One turn of the loop reads a member, up to the blank or the mark behind it. -/
theorem parseMembers_member (hreads : Reads member.2) (hrest : ∀ b ∈ rest.head?, isDigit b = false)
    (hnew : member.1 ∉ out.map Prod.fst) (hfuel : (renderMember member).length ≤ fuel + 1) :
    parseMembers (fuel + 1) out (renderMember member ++ rest) =
      match consume 125 (skipWhitespace rest) with
      | some rest => some (out ++ [member], rest)
      | none =>
        match consume 44 (skipWhitespace rest) with
        | none => none
        | some rest => parseMembers fuel (out ++ [member]) (skipWhitespace rest) := by
  obtain ⟨key, value⟩ := member
  have hlength := renderMember_length (key, value)
  have hvalue := hreads fuel rest hrest (by omega)
  have hkey := parseString_quote key (58 :: (renderValue value ++ rest))
  have hcolon : consume 58 (skipWhitespace (58 :: (renderValue value ++ rest))) =
      some (renderValue value ++ rest) := rfl
  unfold renderMember
  rw [List.append_assoc, List.cons_append, parseMembers]
  simp only [hkey, hcolon, hvalue]
  exact if_neg hnew

theorem key_not_mem (member : Bytes × JsonValue) (later : JsonObject)
    (hnodup : ((out ++ member :: later).map Prod.fst).Nodup) : member.1 ∉ out.map Prod.fst := by
  rw [List.map_append, List.nodup_append] at hnodup
  intro h
  exact hnodup.2.2 _ h _ (by simp) rfl

theorem parseMembers_render (later : JsonObject) (fuel : Nat)
    (out : JsonObject) (rest : Bytes) (hreads : ∀ entry ∈ member :: later, Reads entry.2)
    (hnodup : ((out ++ member :: later).map Prod.fst).Nodup)
    (hfuel : (renderMember member ++ renderLater later).length ≤ fuel) :
    parseMembers fuel out (renderMember member ++ (renderLater later ++ 125 :: rest)) =
      some (out ++ member :: later, rest) := by
  induction later generalizing member fuel out with
  | nil =>
    have hnew := key_not_mem out member _ hnodup
    rw [renderLater, List.append_nil] at hfuel
    have hlength := renderMember_length member
    obtain ⟨fuel, rfl⟩ : ∃ less, fuel = less + 1 := ⟨fuel - 1, by omega⟩
    have hdigit : ∀ b ∈ (125 :: rest).head?, isDigit b = false := by
      rintro b ⟨⟩
      rfl
    rw [renderLater, List.nil_append,
      parseMembers_member member fuel out _ (hreads _ List.mem_cons_self) hdigit hnew hfuel]
    rfl
  | cons second later ih =>
    have hnew := key_not_mem out member _ hnodup
    have hlength := renderMember_length member
    rw [renderLater, List.length_append, List.length_append, List.length_cons] at hfuel
    obtain ⟨fuel, rfl⟩ : ∃ less, fuel = less + 1 := ⟨fuel - 1, by omega⟩
    have hdigit : ∀ b ∈ (renderLater (second :: later) ++ 125 :: rest).head?,
        isDigit b = false := by
      rw [renderLater]
      rintro b ⟨⟩
      rfl
    have hlater := ih second fuel (out ++ [member])
      (fun entry hentry => hreads entry (List.mem_cons_of_mem _ hentry))
      (by simpa using hnodup) (by rw [List.length_append]; omega)
    rw [parseMembers_member member fuel out _ (hreads _ List.mem_cons_self) hdigit hnew (by omega)]
    rw [renderLater]
    have hbrace : consume 125 (skipWhitespace
        (44 :: renderMember second ++ renderLater later ++ 125 :: rest)) = none := rfl
    have hcomma : consume 44 (skipWhitespace
        (44 :: renderMember second ++ renderLater later ++ 125 :: rest)) =
          some (renderMember second ++ renderLater later ++ 125 :: rest) := rfl
    rw [hbrace, hcomma, List.append_assoc]
    dsimp only
    rw [skipWhitespace_renderMember, hlater, List.append_assoc]
    rfl

theorem renderValue_object :
    renderValue (.object members) = 123 :: (renderMembers members ++ [125]) := by
  rw [renderValue, List.cons_append]

theorem parseObject_render
    (hreads : ∀ entry ∈ members, Reads entry.2) (hnodup : (members.map Prod.fst).Nodup)
    (hfuel : (renderMembers members).length ≤ fuel) :
    parseObject (parseMembers fuel []) (renderValue (.object members) ++ rest) =
      some (members, rest) := by
  rw [renderValue_object]
  cases members with
  | nil => rfl
  | cons member later =>
    rw [renderMembers] at hfuel ⊢
    have hmembers := parseMembers_render member later fuel [] rest hreads hnodup hfuel
    have htext : 123 :: (renderMember member ++ renderLater later ++ [125]) ++ rest =
        123 :: (renderMember member ++ (renderLater later ++ 125 :: rest)) := by simp
    have hbrace : consume 125 (skipWhitespace
        (renderMember member ++ (renderLater later ++ 125 :: rest))) = none := by
      obtain ⟨tail, htail⟩ := renderMember_head member
      rw [skipWhitespace_renderMember, htail]
      rfl
    have hopen : ∀ text : Bytes, consume 123 (123 :: text) = some text := fun _ => rfl
    rw [htext, parseObject, hopen]
    dsimp only
    rw [hbrace, skipWhitespace_renderMember]
    exact hmembers

theorem reads_object (hreads : ∀ entry ∈ members, Reads entry.2)
    (hnodup : (members.map Prod.fst).Nodup) : Reads (.object members) := by
  intro fuel rest _ hfuel
  have htext := renderValue_object members
  have hlength := congrArg List.length htext
  simp only [List.length_cons, List.length_append, List.length_nil] at hlength
  obtain ⟨fuel, rfl⟩ : ∃ less, fuel = less + 1 := ⟨fuel - 1, by omega⟩
  have hread := parseObject_render members fuel rest hreads hnodup (by omega)
  rw [htext, List.cons_append] at hread ⊢
  rw [parseValue, skipWhitespace_of_head _ _ rfl]
  simp only [hread]
  rfl

theorem parseRootObject_render (hreads : ∀ entry ∈ members, Reads entry.2)
    (hnodup : (members.map Prod.fst).Nodup) :
    parseRootObject (renderValue (.object members)) = some members := by
  have htext := renderValue_object members
  have hlength := congrArg List.length htext
  simp only [List.length_cons, List.length_append, List.length_nil] at hlength
  have hread := parseObject_render members (renderValue (.object members)).length [] hreads hnodup
    (by omega)
  have hskip : skipWhitespace (renderValue (.object members)) = renderValue (.object members) := by
    rw [htext]
    exact skipWhitespace_of_head _ _ rfl
  rw [List.append_nil] at hread
  unfold parseRootObject
  rw [hskip, hread]
  rfl

end Dasall.Access.Daemon
