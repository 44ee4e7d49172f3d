import Dasall.Lib.Json

/-!
# The JSON validator

A recursive descent over the text, of which each function gives what it leaves. It follows the
structure of JSON with tokens of its own: any white space, a number with either sign and no
exponent, and a string in which a backslash takes the next byte with it.
-/

open Dasall.Lib.Text Dasall.Lib.Json

namespace Dasall.Apps.Cli

/-! ## The parser -/

def skipWs (text : Bytes) : Bytes := text.dropWhile isSpace

def parseLiteral (literal text : Bytes) : Option Bytes :=
  if literal.isPrefixOf (skipWs text) then some ((skipWs text).drop literal.length) else none

/-- The loop behind the opening quotation mark. -/
def stringEnd : Bytes → Option Bytes
  | [] => none
  | current :: rest =>
    if current = 92 then
      match rest with
      | [] => none
      | _ :: rest => stringEnd rest
    else if current = 34 then some rest
    else stringEnd rest

def parseString (text : Bytes) : Option Bytes :=
  match skipWs text with
  | [] => none
  | current :: rest => if current = 34 then stringEnd rest else none

def unsigned : Bytes → Bytes
  | [] => []
  | current :: rest => if current = 45 ∨ current = 43 then rest else current :: rest

def parseNumber (text : Bytes) : Option Bytes :=
  let digits := unsigned (skipWs text)
  let whole := digits.takeWhile isDigit
  let rest := digits.dropWhile isDigit
  if rest.head? = some 46 then
    let fraction := rest.tail.takeWhile isDigit
    if whole = [] ∧ fraction = [] then none else some (rest.tail.dropWhile isDigit)
  else if whole = [] then none
  else some rest

/-- An array or an object, with the loop over what it has in it. -/
def parseContainer (opening closing : Byte) (loop : Bytes → Option Bytes) (text : Bytes) :
    Option Bytes :=
  match skipWs text with
  | [] => none
  | current :: inside =>
    if current ≠ opening then none
    else if (skipWs inside).head? = some closing then some (skipWs inside).tail
    else loop (skipWs inside)

/-- What stands behind an element: a comma and the loop again, or the end of the container. -/
def parseNext (closing : Byte) (loop : Bytes → Option Bytes) (text : Bytes) : Option Bytes :=
  match skipWs text with
  | [] => none
  | current :: rest =>
    if current = 44 then loop rest else if current = closing then some rest else none

mutual

def parseValue : Nat → Bytes → Option Bytes
  | 0, _ => none
  | fuel + 1, text =>
    match (skipWs text).head? with
    | none => none
    | some current =>
      if current = 123 then parseContainer 123 125 (parseMembers fuel) text
      else if current = 91 then parseContainer 91 93 (parseElements fuel) text
      else if current = 34 then parseString text
      else if current = 116 then parseLiteral (str "true") text
      else if current = 102 then parseLiteral (str "false") text
      else if current = 110 then parseLiteral (str "null") text
      else parseNumber text

def parseElements : Nat → Bytes → Option Bytes
  | 0, _ => none
  | fuel + 1, text => (parseValue fuel text).bind (parseNext 93 (parseElements fuel))

def parseMembers : Nat → Bytes → Option Bytes
  | 0, _ => none
  | fuel + 1, text =>
    (parseString text).bind fun named =>
      match skipWs named with
      | [] => none
      | current :: valued =>
        if current = 58 then (parseValue fuel valued).bind (parseNext 125 (parseMembers fuel))
        else none

end

/-- A value needs two calls for each of its bytes at most. -/
def validateJsonString (input : Bytes) : Bool :=
  match parseValue (2 * input.length + 1) input with
  | none => false
  | some rest => skipWs rest = []

/-! ## The tokens -/

inductive QuotedBody : Bytes → Prop
  | nil : QuotedBody []
  | plain {body : Bytes} (byte : Byte) (hquote : byte ≠ 34) (hescape : byte ≠ 92)
      (h : QuotedBody body) : QuotedBody (byte :: body)
  | escape {body : Bytes} (byte : Byte) (h : QuotedBody body) : QuotedBody (92 :: byte :: body)

/-- A sign, digits and a point with digits, with a digit on one side of the point. -/
def IsLenientNumber (text : Bytes) : Prop :=
  ∃ sign whole fraction, text = sign ++ whole ++ fraction ∧ (sign = [] ∨ sign = [45] ∨ sign = [43]) ∧
    (∀ byte ∈ whole, isDigit byte = true) ∧
    (fraction = [] ∧ whole ≠ [] ∨ ∃ digits, fraction = 46 :: digits ∧
      (∀ byte ∈ digits, isDigit byte = true) ∧ (whole ≠ [] ∨ digits ≠ []))

def lenient : Tokens where
  blank byte := isSpace byte = true
  string body _ := QuotedBody body
  number := IsLenientNumber

variable {text rest body : Bytes} {part : Part} {value : Value} {opening closing : Byte}
  {loop : Bytes → Option Bytes}

theorem blanks_skipWs (text : Bytes) : lenient.Blanks text (skipWs text) :=
  ⟨text.takeWhile isSpace, (List.takeWhile_append_dropWhile ..).symm,
    fun _ hbyte => List.mem_takeWhile_imp hbyte⟩

/-- The text does not begin with white space. -/
def Begins (text : Bytes) : Prop := ∀ byte ∈ text.head?, isSpace byte = false

theorem skipWs_of_blanks (h : lenient.Blanks text rest) (hbegins : Begins rest) :
    skipWs text = rest := by
  obtain ⟨gap, rfl, hgap⟩ := h
  unfold skipWs
  rw [List.dropWhile_append_of_pos hgap]
  cases rest with
  | nil => rfl
  | cons byte rest => exact List.dropWhile_cons_of_neg (by simp [hbegins byte rfl])

theorem begins_cons {byte : Byte} (h : isSpace byte = false) (rest : Bytes) : Begins (byte :: rest) := by
  rintro _ ⟨⟩
  exact h

theorem stringEnd_spec (h : stringEnd text = some rest) :
    ∃ body, text = body ++ 34 :: rest ∧ QuotedBody body := by
  fun_induction stringEnd text with
  | case1 => cases h
  | case2 => cases h
  | case3 byte rest' ih =>
    obtain ⟨body, rfl, hbody⟩ := ih h
    exact ⟨92 :: byte :: body, rfl, .escape byte hbody⟩
  | case4 rest' hescape =>
    cases h
    exact ⟨[], rfl, .nil⟩
  | case5 current rest' hescape hquote ih =>
    obtain ⟨body, rfl, hbody⟩ := ih h
    exact ⟨current :: body, rfl, .plain current hquote hescape hbody⟩

theorem stringEnd_quoted (h : QuotedBody body) (rest : Bytes) :
    stringEnd (body ++ 34 :: rest) = some rest := by
  induction h with
  | nil =>
    rw [List.nil_append, stringEnd.eq_def]
    simp
  | plain byte hquote hescape _ ih =>
    rw [List.cons_append, stringEnd.eq_def]
    simp [hquote, hescape, ih]
  | escape byte _ ih =>
    rw [List.cons_append, List.cons_append, stringEnd.eq_def]
    simp [ih]

theorem parseString_spec (h : parseString text = some rest) :
    ∃ body, lenient.Blanks text (34 :: (body ++ 34 :: rest)) ∧ QuotedBody body := by
  have hblanks := blanks_skipWs text
  unfold parseString at h
  cases hskip : skipWs text with
  | nil =>
    rw [hskip] at h
    cases h
  | cons current inside =>
    rw [hskip] at h hblanks
    dsimp only at h
    split at h
    · next hquote =>
      obtain ⟨body, rfl, hbody⟩ := stringEnd_spec h
      rw [hquote] at hblanks
      exact ⟨body, hblanks, hbody⟩
    · cases h

theorem parseString_quoted (hskip : skipWs text = 34 :: (body ++ 34 :: rest))
    (hbody : QuotedBody body) : parseString text = some rest := by
  unfold parseString
  rw [hskip]
  exact stringEnd_quoted hbody rest

theorem unsigned_spec (text : Bytes) :
    ∃ sign, text = sign ++ unsigned text ∧ (sign = [] ∨ sign = [45] ∨ sign = [43]) := by
  cases text with
  | nil => exact ⟨[], rfl, Or.inl rfl⟩
  | cons current rest =>
    rw [unsigned]
    split
    · next hsign =>
      refine ⟨[current], rfl, Or.inr ?_⟩
      rcases hsign with rfl | rfl
      · exact Or.inl rfl
      · exact Or.inr rfl
    · exact ⟨[], rfl, Or.inl rfl⟩

theorem parseNumber_spec (h : parseNumber text = some rest) :
    ∃ number, skipWs text = number ++ rest ∧ IsLenientNumber number := by
  obtain ⟨sign, hsign, hsigns⟩ := unsigned_spec (skipWs text)
  unfold parseNumber at h
  dsimp only at h
  generalize unsigned (skipWs text) = digits at h hsign
  have hsplit : digits.takeWhile isDigit ++ digits.dropWhile isDigit = digits :=
    List.takeWhile_append_dropWhile ..
  have hwhole : ∀ byte ∈ digits.takeWhile isDigit, isDigit byte = true :=
    fun _ hbyte => List.mem_takeWhile_imp hbyte
  generalize digits.takeWhile isDigit = whole at h hsplit hwhole
  generalize digits.dropWhile isDigit = behind at h hsplit
  split at h
  · next hpoint =>
    split at h
    · cases h
    · next hdigit =>
      cases h
      obtain ⟨point, fraction, rfl⟩ := List.exists_cons_of_ne_nil
        (show behind ≠ [] from fun hempty => by simp [hempty] at hpoint)
      cases hpoint
      refine ⟨sign ++ whole ++ 46 :: fraction.takeWhile isDigit, ?_, sign, whole, _, rfl, hsigns, hwhole,
        Or.inr ⟨_, rfl, fun _ hbyte => List.mem_takeWhile_imp hbyte, ?_⟩⟩
      · rw [hsign, ← hsplit]
        simp
      · rw [not_and_or] at hdigit
        exact hdigit
  · split at h
    · cases h
    · next hdigit =>
      cases h
      refine ⟨sign ++ whole, ?_, sign, whole, [], (List.append_nil _).symm, hsigns, hwhole,
        Or.inl ⟨rfl, hdigit⟩⟩
      rw [hsign, ← hsplit, List.append_assoc]

/-- What may stand behind a value. -/
def Follows (rest : Bytes) : Prop :=
  ∀ byte ∈ rest.head?, isSpace byte = true ∨ byte = 44 ∨ byte = 93 ∨ byte = 125

theorem Follows.head (h : Follows rest) : ∀ byte ∈ rest.head?, isDigit byte = false ∧ byte ≠ 46 := by
  intro byte hbyte
  constructor
  · by_contra hdigit
    rw [Bool.not_eq_false] at hdigit
    rcases h byte hbyte with hspace | rfl | rfl | rfl
    · rw [digit_not_space byte hdigit] at hspace
      cases hspace
    all_goals cases hdigit
  · rintro rfl
    rcases h 46 hbyte with hspace | hcomma | hbracket | hbrace
    · cases hspace
    all_goals contradiction

theorem takeWhile_digits {digits : Bytes} (hdigits : ∀ byte ∈ digits, isDigit byte = true)
    (hrest : ∀ byte ∈ rest.head?, isDigit byte = false) :
    (digits ++ rest).takeWhile isDigit = digits ∧ (digits ++ rest).dropWhile isDigit = rest := by
  rw [List.takeWhile_append_of_pos hdigits, List.dropWhile_append_of_pos hdigits]
  cases rest with
  | nil => exact ⟨List.append_nil _, rfl⟩
  | cons byte rest =>
    have hbyte := hrest byte rfl
    simp [hbyte]

/-- The first byte of a number, which says that it is one. -/
theorem IsLenientNumber.head {number : Bytes} (h : IsLenientNumber number) :
    ∃ first more, number = first :: more ∧ isSpace first = false ∧
      first ∉ ([93, 123, 91, 34, 116, 102, 110] : Bytes) := by
  have hfirst : ∀ byte, isDigit byte = true → isSpace byte = false ∧
      byte ∉ ([93, 123, 91, 34, 116, 102, 110] : Bytes) := by
    intro byte hdigit
    refine ⟨digit_not_space byte hdigit, fun hmem => ?_⟩
    simp only [List.mem_cons, List.not_mem_nil, or_false] at hmem
    rcases hmem with rfl | rfl | rfl | rfl | rfl | rfl | rfl
    all_goals cases hdigit
  obtain ⟨sign, whole, fraction, rfl, hsign, hwhole, hdigit⟩ := h
  rcases hsign with rfl | rfl | rfl
  · cases whole with
    | nil =>
      rcases hdigit with ⟨-, hnone⟩ | ⟨digits, rfl, -, -⟩
      · exact absurd rfl hnone
      · exact ⟨46, digits, rfl, rfl, by decide⟩
    | cons byte whole => exact ⟨byte, whole ++ fraction, rfl, hfirst byte (hwhole byte List.mem_cons_self)⟩
  · exact ⟨45, whole ++ fraction, rfl, rfl, by decide⟩
  · exact ⟨43, whole ++ fraction, rfl, rfl, by decide⟩

theorem unsigned_signed {sign digits : Bytes} (hsign : sign = [] ∨ sign = [45] ∨ sign = [43])
    (hdigits : ∀ byte ∈ digits.head?, byte ≠ 45 ∧ byte ≠ 43) : unsigned (sign ++ digits) = digits := by
  rcases hsign with rfl | rfl | rfl
  · cases digits with
    | nil => rfl
    | cons byte digits =>
      have hbyte := hdigits byte rfl
      rw [List.nil_append, unsigned, if_neg (by simp [hbyte])]
  · rfl
  · rfl

theorem parseNumber_number {number : Bytes} (h : IsLenientNumber number) (hrest : Follows rest)
    (hskip : skipWs text = number ++ rest) : parseNumber text = some rest := by
  obtain ⟨sign, whole, fraction, rfl, hsign, hwhole, hdigit⟩ := h
  have hends := hrest.head
  have hpoint : ∀ byte ∈ (fraction ++ rest).head?, isDigit byte = false := by
    rcases hdigit with ⟨rfl, -⟩ | ⟨digits, rfl, -, -⟩
    · exact fun byte hbyte => (hends byte hbyte).1
    · rintro _ ⟨⟩
      rfl
  have hunsigned : unsigned (skipWs text) = whole ++ (fraction ++ rest) := by
    rw [hskip, List.append_assoc, List.append_assoc]
    refine unsigned_signed hsign fun byte hbyte => ?_
    have hsigns : isDigit 45 = false ∧ isDigit 43 = false := ⟨rfl, rfl⟩
    cases whole with
    | nil =>
      rcases hdigit with ⟨-, hnone⟩ | ⟨digits, rfl, -, -⟩
      · exact absurd rfl hnone
      · cases hbyte
        decide
    | cons first whole =>
      cases hbyte
      have hfirst := hwhole byte List.mem_cons_self
      refine ⟨fun heq => ?_, fun heq => ?_⟩
      · rw [heq, hsigns.1] at hfirst
        cases hfirst
      · rw [heq, hsigns.2] at hfirst
        cases hfirst
  obtain ⟨htake, hdrop⟩ := takeWhile_digits hwhole hpoint
  unfold parseNumber
  dsimp only
  rw [hunsigned, htake, hdrop]
  rcases hdigit with ⟨rfl, hsome⟩ | ⟨digits, rfl, hdigits, hsome⟩
  · rw [List.nil_append, if_neg (fun hhead : rest.head? = some 46 => (hends 46 hhead).2 rfl),
      if_neg hsome]
  · obtain ⟨htake', hdrop'⟩ := takeWhile_digits hdigits fun byte hbyte => (hends byte hbyte).1
    rw [List.cons_append, List.head?_cons, if_pos rfl, List.tail_cons, htake', hdrop', if_neg]
    rintro ⟨hnone, hnothing⟩
    exact hsome.elim (fun h => h hnone) fun h => h hnothing

/-! ## Values -/

theorem parseLiteral_spec {literal : Bytes} (h : parseLiteral literal text = some rest) :
    skipWs text = literal ++ rest := by
  unfold parseLiteral at h
  split at h
  · next hprefix =>
    cases h
    exact (List.prefix_iff_eq_append.mp (List.isPrefixOf_iff_prefix.mp hprefix)).symm
  · cases h

theorem parseLiteral_literal {literal : Bytes} (hskip : skipWs text = literal ++ rest) :
    parseLiteral literal text = some rest := by
  unfold parseLiteral
  rw [hskip, if_pos (List.isPrefixOf_iff_prefix.mpr ⟨rest, rfl⟩), List.drop_left]

/-- The parser of what stands behind the opening bracket reads as the grammar does. -/
structure Sound (fuel : Nat) : Prop where
  value : ∀ text rest, parseValue fuel text = some rest →
    ∃ body value, lenient.Blanks text body ∧ Reads lenient .value body value rest
  elements : ∀ text rest, parseElements fuel text = some rest →
    ∃ values, Reads lenient .elements text (.array values) rest
  members : ∀ text rest, parseMembers fuel text = some rest →
    ∃ members, Reads lenient .members text (.object members) rest

theorem parseContainer_spec (h : parseContainer opening closing loop text = some rest) :
    ∃ inside, lenient.Blanks text (opening :: inside) ∧
      (lenient.Blanks inside (closing :: rest) ∨
        ∃ body, lenient.Blanks inside body ∧ loop body = some rest) := by
  have hblanks := blanks_skipWs text
  unfold parseContainer at h
  split at h
  · cases h
  · next current inside hskip =>
    rw [hskip] at hblanks
    split at h
    · cases h
    · next hopening =>
      rw [not_not] at hopening
      rw [hopening] at hblanks
      refine ⟨inside, hblanks, ?_⟩
      have hinside := blanks_skipWs inside
      split at h
      · next hclosing =>
        obtain ⟨first, behind, hskip'⟩ := List.exists_cons_of_ne_nil
          (show skipWs inside ≠ [] from fun hempty => by simp [hempty] at hclosing)
        rw [hskip'] at hclosing hinside h
        cases hclosing
        cases h
        exact Or.inl hinside
      · exact Or.inr ⟨_, hinside, h⟩

theorem parseNext_spec (h : parseNext closing loop text = some rest) :
    lenient.Blanks text (closing :: rest) ∨
      ∃ more, lenient.Blanks text (44 :: more) ∧ loop more = some rest := by
  have hblanks := blanks_skipWs text
  unfold parseNext at h
  split at h
  · cases h
  · next current behind hskip =>
    rw [hskip] at hblanks
    split at h
    · next hcomma =>
      rw [hcomma] at hblanks
      exact Or.inr ⟨behind, hblanks, h⟩
    · split at h
      · next hclosing =>
        cases h
        rw [hclosing] at hblanks
        exact Or.inl hblanks
      · cases h

theorem parse_sound (fuel : Nat) : Sound fuel := by
  induction fuel with
  | zero =>
    refine ⟨fun text rest h => ?_, fun text rest h => ?_, fun text rest h => ?_⟩
    · rw [parseValue] at h
      cases h
    · rw [parseElements] at h
      cases h
    · rw [parseMembers] at h
      cases h
  | succ fuel ih =>
    refine ⟨fun text rest h => ?_, fun text rest h => ?_, fun text rest h => ?_⟩
    · have hblanks := blanks_skipWs text
      rw [parseValue] at h
      split at h
      · cases h
      · split at h
        · obtain ⟨inside, hinside, hend | ⟨body, hbody, hloop⟩⟩ := parseContainer_spec h
          · exact ⟨_, _, hinside, .emptyObject inside rest hend⟩
          · obtain ⟨members, hmembers⟩ := ih.members _ _ hloop
            exact ⟨_, _, hinside, .object inside _ rest (hmembers.members_blanks hbody)⟩
        split at h
        · obtain ⟨inside, hinside, hend | ⟨body, hbody, hloop⟩⟩ := parseContainer_spec h
          · exact ⟨_, _, hinside, .emptyArray inside rest hend⟩
          · obtain ⟨values, hvalues⟩ := ih.elements _ _ hloop
            exact ⟨_, _, hinside, .array inside _ rest (hvalues.elements_blanks hbody)⟩
        split at h
        · obtain ⟨body, hbody, hquoted⟩ := parseString_spec h
          exact ⟨_, _, hbody, .string body body rest hquoted⟩
        split at h
        · rw [parseLiteral_spec h] at hblanks
          exact ⟨_, _, hblanks, .true rest⟩
        split at h
        · rw [parseLiteral_spec h] at hblanks
          exact ⟨_, _, hblanks, .false rest⟩
        split at h
        · rw [parseLiteral_spec h] at hblanks
          exact ⟨_, _, hblanks, .null rest⟩
        obtain ⟨number, hskip, hnumber⟩ := parseNumber_spec h
        rw [hskip] at hblanks
        exact ⟨_, _, hblanks, .number number rest hnumber⟩
    · rw [parseElements] at h
      obtain ⟨after, hvalue, hnext⟩ := Option.bind_eq_some_iff.mp h
      obtain ⟨body, value, hbody, hreads⟩ := ih.value _ _ hvalue
      rcases parseNext_spec hnext with hend | ⟨more, hcomma, hloop⟩
      · exact ⟨_, .lastElement text body value after rest hbody hreads hend⟩
      · obtain ⟨values, hvalues⟩ := ih.elements _ _ hloop
        exact ⟨_, .element text body value after more values rest hbody hreads hcomma hvalues⟩
    · rw [parseMembers] at h
      obtain ⟨named, hstring, hmember⟩ := Option.bind_eq_some_iff.mp h
      obtain ⟨key, hkey, hquoted⟩ := parseString_spec hstring
      have hnamed := blanks_skipWs named
      split at hmember
      · cases hmember
      · next current valued hskip =>
        rw [hskip] at hnamed
        split at hmember
        · next hcolon =>
          rw [hcolon] at hnamed
          obtain ⟨after, hvalue, hnext⟩ := Option.bind_eq_some_iff.mp hmember
          obtain ⟨body, value, hbody, hreads⟩ := ih.value _ _ hvalue
          rcases parseNext_spec hnext with hend | ⟨more, hcomma, hloop⟩
          · exact ⟨_, .lastMember text key key named valued body value after rest hkey hquoted hnamed
              hbody hreads hend⟩
          · obtain ⟨members, hmembers⟩ := ih.members _ _ hloop
            exact ⟨_, .member text key key named valued body value after more members rest hkey hquoted
              hnamed hbody hreads hcomma hmembers⟩
        · cases hmember

/-- The parser reads what the grammar reads, given the fuel for its length. The first byte is not the
one that ends a container. -/
def Complete (part : Part) (text rest : Bytes) : Prop :=
  match part with
  | .value => (∀ byte ∈ text.head?, isSpace byte = false ∧ byte ≠ 93) ∧
      ∀ fuel before, 2 * text.length + 1 ≤ fuel → Follows rest → skipWs before = text →
        parseValue fuel before = some rest
  | .elements => (∀ byte ∈ (skipWs text).head?, byte ≠ 93) ∧
      ∀ fuel before, 2 * before.length + 2 ≤ fuel → skipWs before = skipWs text →
        parseElements fuel before = some rest
  | .members => (∀ byte ∈ (skipWs text).head?, byte ≠ 125) ∧
      ∀ fuel before, 2 * before.length + 2 ≤ fuel → skipWs before = skipWs text →
        parseMembers fuel before = some rest

theorem Follows.of_blanks (h : lenient.Blanks text (closing :: rest))
    (hclosing : closing = 44 ∨ closing = 93 ∨ closing = 125) : Follows text := by
  obtain ⟨gap, rfl, hgap⟩ := h
  cases gap with
  | nil =>
    rintro _ ⟨⟩
    exact Or.inr hclosing
  | cons byte gap =>
    rintro _ ⟨⟩
    exact Or.inl (hgap byte List.mem_cons_self)

theorem parseNext_end (loop : Bytes → Option Bytes)
    (h : lenient.Blanks text (closing :: rest)) (hspace : isSpace closing = false)
    (hcomma : closing ≠ 44) : parseNext closing loop text = some rest := by
  unfold parseNext
  rw [skipWs_of_blanks h (begins_cons hspace rest)]
  simp [hcomma]

theorem parseNext_comma (loop : Bytes → Option Bytes) {more : Bytes}
    (h : lenient.Blanks text (44 :: more)) : parseNext closing loop text = loop more := by
  unfold parseNext
  rw [skipWs_of_blanks h (begins_cons rfl more)]
  rfl

theorem not_lenientNumber_nil : ¬ lenient.number [] := by
  intro h
  obtain ⟨first, more, hnone, -⟩ := IsLenientNumber.head h
  cases hnone

/-- A value is told by its first byte. -/
theorem parseValue_head (fuel : Nat) {before : Bytes} {first : Byte} {more : Bytes}
    (h : skipWs before = first :: more) :
    parseValue (fuel + 1) before =
      if first = 123 then parseContainer 123 125 (parseMembers fuel) before
      else if first = 91 then parseContainer 91 93 (parseElements fuel) before
      else if first = 34 then parseString before
      else if first = 116 then parseLiteral (str "true") before
      else if first = 102 then parseLiteral (str "false") before
      else if first = 110 then parseLiteral (str "null") before
      else parseNumber before := by
  rw [parseValue, h]
  rfl

theorem parseContainer_empty (loop : Bytes → Option Bytes) {inside : Bytes}
    (hskip : skipWs text = opening :: inside) (h : lenient.Blanks inside (closing :: rest))
    (hspace : isSpace closing = false) :
    parseContainer opening closing loop text = some rest := by
  unfold parseContainer
  rw [hskip]
  simp [skipWs_of_blanks h (begins_cons hspace rest)]

theorem parseContainer_loop (loop : Bytes → Option Bytes) {inside : Bytes}
    (hskip : skipWs text = opening :: inside)
    (hhead : ∀ byte ∈ (skipWs inside).head?, byte ≠ closing) :
    parseContainer opening closing loop text = loop (skipWs inside) := by
  unfold parseContainer
  rw [hskip]
  have hother : (skipWs inside).head? ≠ some closing := fun hsame => hhead closing hsame rfl
  simp [hother]

theorem complete_value {first : Byte} {more : Bytes} (hspace : isSpace first = false)
    (hother : first ≠ 93)
    (h : ∀ fuel before, 2 * (first :: more).length ≤ fuel → Follows rest →
      skipWs before = first :: more → parseValue (fuel + 1) before = some rest) :
    Complete .value (first :: more) rest := by
  refine ⟨?_, fun fuel before hfuel hfollows hskip => ?_⟩
  · rintro _ ⟨⟩
    exact ⟨hspace, hother⟩
  · obtain ⟨fuel, rfl⟩ := Nat.exists_eq_add_one_of_ne_zero (show fuel ≠ 0 by omega)
    exact h fuel before (by omega) hfollows hskip

theorem skipWs_skipWs (text : Bytes) : skipWs (skipWs text) = skipWs text :=
  List.dropWhile_idempotent ..

theorem skipWs_length (text : Bytes) : (skipWs text).length ≤ text.length :=
  (blanks_skipWs text).length_le

theorem Complete.begins (h : Complete .value body rest) : Begins body :=
  fun byte hbyte => (h.1 byte hbyte).1

/-- The elements are read in the container, behind its blanks. -/
theorem Complete.inside {inside before : Bytes} (hskip : skipWs before = opening :: inside)
    (hhead : ∀ byte ∈ (skipWs inside).head?, byte ≠ closing)
    (hloop : (skipWs inside).length ≤ inside.length → loop (skipWs inside) = some rest) :
    parseContainer opening closing loop before = some rest :=
  (parseContainer_loop loop hskip hhead).trans (hloop (skipWs_length inside))

variable {fuel : Nat} {before key named valued after : Bytes}

theorem parseElements_element (hfuel : 2 * before.length + 2 ≤ fuel + 1) (hskip : skipWs before = body)
    (h : Complete .value body after) (hfollows : Follows after) :
    parseElements (fuel + 1) before = parseNext 93 (parseElements fuel) after := by
  have hlength := skipWs_length before
  rw [hskip] at hlength
  rw [parseElements, h.2 fuel before (by omega) hfollows hskip, Option.bind_some]

theorem member_length (hskip : skipWs before = 34 :: (key ++ 34 :: named))
    (hcolon : lenient.Blanks named (58 :: valued)) (hgap : lenient.Blanks valued body) :
    body.length < before.length := by
  have hlength := skipWs_length before
  have hnamed := hcolon.length_le
  have hvalued := hgap.length_le
  rw [hskip] at hlength
  simp only [List.length_cons, List.length_append] at hlength hnamed
  omega

theorem parseMembers_member (hfuel : 2 * before.length + 2 ≤ fuel + 1)
    (hskip : skipWs before = 34 :: (key ++ 34 :: named)) (hname : QuotedBody key)
    (hcolon : lenient.Blanks named (58 :: valued)) (hgap : lenient.Blanks valued body)
    (h : Complete .value body after) (hfollows : Follows after) :
    parseMembers (fuel + 1) before = parseNext 125 (parseMembers fuel) after := by
  have hlength := member_length hskip hcolon hgap
  have hvalue := h.2 fuel valued (by omega) hfollows (skipWs_of_blanks hgap h.begins)
  rw [parseMembers, parseString_quoted hskip hname, Option.bind_some,
    skipWs_of_blanks hcolon (begins_cons rfl _)]
  dsimp only
  rw [if_pos rfl, hvalue, Option.bind_some]

theorem parse_complete (h : Reads lenient part text value rest) : Complete part text rest := by
  have hnumbers := not_lenientNumber_nil
  induction h with
  | null rest | true rest | false rest =>
    exact complete_value rfl (by decide) fun fuel before _ _ hskip =>
      (parseValue_head fuel hskip).trans (parseLiteral_literal hskip)
  | number number rest hnumber =>
    obtain ⟨first, more, rfl, hspace, hother⟩ := IsLenientNumber.head hnumber
    simp only [List.mem_cons, List.not_mem_nil, or_false, not_or] at hother
    refine complete_value hspace hother.1 fun fuel before _ hfollows hskip => ?_
    rw [parseValue_head fuel hskip]
    simp only [hother, if_false]
    exact parseNumber_number hnumber hfollows hskip
  | string body value rest hbody =>
    exact complete_value rfl (by decide) fun fuel before _ _ hskip =>
      (parseValue_head fuel hskip).trans (parseString_quoted hskip hbody)
  | emptyArray inside rest hend | emptyObject inside rest hend =>
    exact complete_value rfl (by decide) fun fuel before _ _ hskip =>
      (parseValue_head fuel hskip).trans (parseContainer_empty _ hskip hend rfl)
  | array inside value rest hreads ih | object inside value rest hreads ih =>
    refine complete_value rfl (by decide) fun fuel before hfuel _ hskip =>
      (parseValue_head fuel hskip).trans (Complete.inside hskip ih.1 fun hlength => ?_)
    rw [List.length_cons] at hfuel
    exact ih.2 fuel _ (by omega) (skipWs_skipWs inside)
  | lastElement inside body value after rest hgap hreads hend ih =>
    have hbody := skipWs_of_blanks hgap ih.begins
    refine ⟨?_, fun fuel before hfuel hskip => ?_⟩
    · rw [hbody]
      exact fun byte hbyte => (ih.1 byte hbyte).2
    · obtain ⟨fuel, rfl⟩ := Nat.exists_eq_add_one_of_ne_zero (show fuel ≠ 0 by omega)
      rw [parseElements_element hfuel (hskip.trans hbody) ih (.of_blanks hend (Or.inr (Or.inl rfl)))]
      exact parseNext_end _ hend rfl (by decide)
  | element inside body value after more values rest hgap hreads hcomma hmore ih ihmore =>
    have hbody := skipWs_of_blanks hgap ih.begins
    refine ⟨?_, fun fuel before hfuel hskip => ?_⟩
    · rw [hbody]
      exact fun byte hbyte => (ih.1 byte hbyte).2
    · have hlength := skipWs_length before
      have hafter := hcomma.length_le
      have hshort := hreads.length_lt hnumbers
      rw [hskip, hbody] at hlength
      rw [List.length_cons] at hafter
      obtain ⟨fuel, rfl⟩ := Nat.exists_eq_add_one_of_ne_zero (show fuel ≠ 0 by omega)
      rw [parseElements_element hfuel (hskip.trans hbody) ih (.of_blanks hcomma (Or.inl rfl)),
        parseNext_comma _ hcomma]
      exact ihmore.2 fuel more (by omega) rfl
  | lastMember inside key name named valued body value after rest hkey hname hcolon hgap hreads hend ih =>
    have hquote := skipWs_of_blanks hkey (begins_cons rfl _)
    refine ⟨?_, fun fuel before hfuel hskip => ?_⟩
    · rw [hquote]
      rintro _ ⟨⟩
      decide
    · obtain ⟨fuel, rfl⟩ := Nat.exists_eq_add_one_of_ne_zero (show fuel ≠ 0 by omega)
      rw [parseMembers_member hfuel (hskip.trans hquote) hname hcolon hgap ih
        (.of_blanks hend (Or.inr (Or.inr rfl)))]
      exact parseNext_end _ hend rfl (by decide)
  | member inside key name named valued body value after more members rest hkey hname hcolon hgap
      hreads hcomma hmore ih ihmore =>
    have hquote := skipWs_of_blanks hkey (begins_cons rfl _)
    refine ⟨?_, fun fuel before hfuel hskip => ?_⟩
    · rw [hquote]
      rintro _ ⟨⟩
      decide
    · have hlength := member_length (hskip.trans hquote) hcolon hgap
      have hafter := hcomma.length_le
      have hshort := hreads.length_lt hnumbers
      rw [List.length_cons] at hafter
      obtain ⟨fuel, rfl⟩ := Nat.exists_eq_add_one_of_ne_zero (show fuel ≠ 0 by omega)
      rw [parseMembers_member hfuel (hskip.trans hquote) hname hcolon hgap ih
        (.of_blanks hcomma (Or.inl rfl)), parseNext_comma _ hcomma]
      exact ihmore.2 fuel more (by omega) rfl

/-- The validator accepts the documents of its own tokens. -/
theorem validateJsonString_iff (text : Bytes) :
    validateJsonString text = true ↔ ∃ value, IsDocument lenient text value := by
  unfold validateJsonString
  constructor
  · intro h
    split at h
    · cases h
    · next rest hrest =>
      obtain ⟨body, value, hbody, hreads⟩ := (parse_sound _).value _ _ hrest
      have hend := blanks_skipWs rest
      rw [decide_eq_true_eq.mp h] at hend
      exact ⟨value, body, rest, hbody, hreads, hend⟩
  · rintro ⟨value, body, rest, hbody, hreads, hend⟩
    have hcomplete := parse_complete hreads
    have hfollows : Follows rest := by
      obtain ⟨gap, rfl, hgap⟩ := hend
      intro byte hbyte
      rw [List.append_nil] at hbyte
      exact Or.inl (hgap byte (List.mem_of_mem_head? hbyte))
    have hlength := hbody.length_le
    have hskip : skipWs rest = [] := skipWs_of_blanks hend (by simp [Begins])
    rw [hcomplete.2 _ text (by omega) hfollows (skipWs_of_blanks hbody hcomplete.begins)]
    exact decide_eq_true_eq.mpr hskip

end Dasall.Apps.Cli
