import Dasall.Knowledge.Ingest.Chunker
import Dasall.Lib.Separated
import Dasall.Lib.Sort
import Mathlib

/-!
# Canonical YAML

The leaves of a document are collected in source order, sorted by their paths and written a line
each. `std::sort` promises an order only for a comparison that is a strict weak ordering.
-/

open Dasall.Lib.Text Dasall.Lib.Separated Dasall.Lib.Sort

namespace Dasall.Knowledge.Ingest

/-- A path and its value. -/
abbrev Leaf := Bytes × Bytes

/-! ## Leaf collection -/

def stripUtf8Bom (value : Bytes) : Bytes :=
  if [0xEF, 0xBB, 0xBF].isPrefixOf value then value.drop 3 else value

def normalizeNewlines : Bytes → Bytes
  | [] => []
  | 13 :: 10 :: rest => 10 :: normalizeNewlines rest
  | 13 :: rest => 10 :: normalizeNewlines rest
  | character :: rest => character :: normalizeNewlines rest

def normalizeText (value : Bytes) : Bytes := normalizeNewlines (stripUtf8Bom value)

/-- Space, tab and carriage return. -/
def trimRightCopy (value : Bytes) : Bytes := value.rdropWhile ([32, 9, 13].contains ·)

def stripWrappingQuotes (value : Bytes) : Bytes :=
  let wrappedIn (front back : Byte) : Bool :=
    2 ≤ value.length && value.head? = some front && value.getLast? = some back
  if wrappedIn 34 34 || wrappedIn 39 39 || wrappedIn 91 93 then (value.drop 1).dropLast else value

/-- A tab counts as four spaces. -/
def indentationWidth : Bytes → Nat
  | 32 :: rest => indentationWidth rest + 1
  | 9 :: rest => indentationWidth rest + 4
  | _ => 0

/-- The open keys have the innermost first, each with its indentation. -/
structure FlattenState where
  entries : List Leaf := []
  pathStack : List (Nat × Bytes) := []
  sequenceIndexes : List (Bytes × Nat) := []

def flattenLine (state : FlattenState) (rawLine : Bytes) : Option FlattenState :=
  let line := trimRightCopy rawLine
  let trimmed := trimCopy line
  if trimmed = [] ∨ trimmed.head? = some 35 then some state
  else
    let indent := indentationWidth line
    let pathStack := state.pathStack.dropWhile fun level => indent ≤ level.1
    let path := join 46 (pathStack.reverse.map (·.2))
    if (str "- ").isPrefixOf trimmed then
      let value := stripWrappingQuotes (trimCopy (trimmed.drop 2))
      if pathStack = [] ∨ value = [] then none
      else
        let index := (state.sequenceIndexes.lookup path).getD 0
        some
          { entries := state.entries ++ [(path ++ str "[" ++ decimal index ++ str "]", value)]
            pathStack
            sequenceIndexes := (path, index + 1) :: state.sequenceIndexes }
    else if 58 ∉ trimmed then none
    else
      let key := trimCopy (trimmed.takeWhile (· ≠ 58))
      let value := trimCopy ((trimmed.dropWhile (· ≠ 58)).drop 1)
      if key = [] then none
      else if value = [] then some { state with pathStack := (indent, key) :: pathStack }
      else
        let path := if path = [] then key else path ++ str "." ++ key
        some { state with entries := state.entries ++ [(path, stripWrappingQuotes value)], pathStack }

/-- `flatten_yaml_entries` up to its sort. -/
def collectLeaves (rawContent : Bytes) : Option (List Leaf) :=
  ((rawContent.splitOn 10).foldlM flattenLine {}).map (·.entries)

/-! ## The order of the paths -/

/-- `std::from_chars` into an `int` that is zero and stays zero when there is nothing to read or
too much. -/
def bracketIndex (text : Bytes) : Int :=
  let negative : Bool := text.head? = some 45
  let digits := (if negative then text.drop 1 else text).takeWhile isDigit
  let value : Int := if negative then -(digitsValue digits) else digitsValue digits
  if -2 ^ 31 ≤ value ∧ value < 2 ^ 31 then value else 0

def upToBracket (text : Bytes) : Bytes := text.takeWhile (· ≠ 93)

def behindBracket (text : Bytes) : Bytes := (text.dropWhile (· ≠ 93)).drop 1

/-- The loop over what is left of both paths. A `char` is signed. -/
def pathLessFrom (leftSize rightSize : Nat) : Nat → Bytes → Bytes → Bool
  | fuel + 1, l :: left, r :: right =>
    if l = 91 ∧ r = 91 ∧ 93 ∈ left ∧ 93 ∈ right then
      if bracketIndex (upToBracket left) ≠ bracketIndex (upToBracket right) then
        bracketIndex (upToBracket left) < bracketIndex (upToBracket right)
      else pathLessFrom leftSize rightSize fuel (behindBracket left) (behindBracket right)
    else if l ≠ r then l.toInt8 < r.toInt8
    else pathLessFrom leftSize rightSize fuel left right
  | _, _, _ => leftSize < rightSize

/-- Each turn of the loop reads at least one byte of the left path. -/
def pathLess (left right : Bytes) : Bool :=
  pathLessFrom left.length right.length left.length left right

def leafLess (left right : Leaf) : Bool := pathLess left.1 right.1

/-! ## Sorting and writing -/

/-- The comparison is a strict weak ordering of the elements of the list. -/
def StrictWeakOn {α : Type} (less : α → α → Bool) (l : List α) : Prop :=
  StrictWeak fun a b : {a // a ∈ l} => less a b

/-- What `std::sort` may leave of the list. Nothing is promised of the order when the comparison is
no strict weak ordering. -/
def Sorted {α : Type} (less : α → α → Bool) (l sorted : List α) : Prop :=
  sorted.Perm l ∧ (StrictWeakOn less l → sorted.Pairwise fun a b => less b a = false)

def leafLine (leaf : Leaf) : Bytes := leaf.1 ++ 61 :: leaf.2

/-- The text of `canonicalize_yaml`, which has none for no leaves. -/
def canonicalText (entries : List Leaf) : Option Bytes :=
  if entries = [] then none else some (join 10 (entries.map leafLine))

/-- The outcomes of `canonicalize_yaml`. -/
def CanonicalizesTo (rawContent : Bytes) (canonical : Option Bytes) : Prop :=
  match collectLeaves (normalizeText rawContent) with
  | none => canonical = none
  | some leaves => ∃ sorted, Sorted leafLess leaves sorted ∧ canonical = canonicalText sorted

/-- Every order of the leaves gives one text. -/
def OrderIndependent (leaves : List Leaf) : Prop :=
  ∀ other, other.Perm leaves → ∀ sorted sorted', Sorted leafLess leaves sorted →
    Sorted leafLess other sorted' → canonicalText sorted = canonicalText sorted'

/-! ## Paths of which one starts the other -/

theorem behindBracket_append (left rest : Bytes) (h : 93 ∈ left) :
    behindBracket (left ++ rest) = behindBracket left ++ rest := by
  unfold behindBracket
  have hfound : left.dropWhile (· ≠ 93) ≠ [] := by
    rw [ne_eq, List.dropWhile_eq_nil_iff, not_forall]
    exact ⟨93, by simp [h]⟩
  rw [List.dropWhile_append, if_neg (by simpa using hfound), List.drop_append_of_le_length]
  exact List.length_pos_iff.mpr hfound

theorem upToBracket_append (left rest : Bytes) (h : 93 ∈ left) :
    upToBracket (left ++ rest) = upToBracket left := by
  unfold upToBracket
  rw [List.takeWhile_append, if_neg]
  intro hall
  have hself := (List.takeWhile_prefix fun byte => decide (byte ≠ 93)).eq_of_length hall
  rw [List.takeWhile_eq_self_iff] at hself
  simpa using hself 93 h

variable (leftSize rightSize : Nat)

theorem pathLessFrom_append (rest : Bytes) (fuel : Nat) (left : Bytes) :
    pathLessFrom leftSize rightSize fuel left (left ++ rest) = decide (leftSize < rightSize) ∧
      pathLessFrom leftSize rightSize fuel (left ++ rest) left = decide (leftSize < rightSize) := by
  induction fuel generalizing left with
  | zero => exact ⟨by unfold pathLessFrom; rfl, by unfold pathLessFrom; rfl⟩
  | succ fuel ih =>
    cases left with
    | nil =>
      refine ⟨by unfold pathLessFrom; rfl, ?_⟩
      cases rest <;> · unfold pathLessFrom; rfl
    | cons l left =>
      rw [List.cons_append]
      unfold pathLessFrom
      by_cases hbracket : l = 91 ∧ 93 ∈ left
      · obtain ⟨rfl, hclosed⟩ := hbracket
        have hboth : 93 ∈ left ++ rest := List.mem_append_left _ hclosed
        simp only [hclosed, hboth, and_self, if_true, upToBracket_append left rest hclosed,
          behindBracket_append left rest hclosed, ne_eq, not_true_eq_false, if_false]
        exact ih (behindBracket left)
      · rw [if_neg (fun h => hbracket ⟨h.1, h.2.2.1⟩), if_neg (fun h => h rfl),
          if_neg (fun h => hbracket ⟨h.1, h.2.2.2⟩), if_neg (fun h => h rfl)]
        exact ih left

/-- Where one path starts the other, their sizes decide. -/
theorem pathLess_of_comparable {left right : Bytes} (h : left <+: right ∨ right <+: left) :
    pathLess left right = decide (left.length < right.length) := by
  rcases h with ⟨rest, rfl⟩ | ⟨rest, rfl⟩
  · exact (pathLessFrom_append _ _ rest _ left).1
  · exact (pathLessFrom_append _ _ rest _ right).2

/-- Two neighbours that can change places without a trace have such paths. -/
theorem comparable_of_swap {before after : List Leaf} {first second : Leaf}
    (h : canonicalText (before ++ first :: second :: after) =
      canonicalText (before ++ second :: first :: after)) :
    first.1 <+: second.1 ∨ second.1 <+: first.1 := by
  have hshape : ∃ front back, ∀ x y : Leaf, canonicalText (before ++ x :: y :: after) =
      some (front ++ (leafLine x ++ 10 :: leafLine y) ++ back) := by
    refine ⟨if before = [] then [] else join 10 (before.map leafLine) ++ [10],
      if after = [] then [] else 10 :: join 10 (after.map leafLine), fun x y => ?_⟩
    have hpair : join 10 ([x, y].map leafLine) = leafLine x ++ 10 :: leafLine y := by
      simp [join]
    have hback : join 10 ((x :: y :: after).map leafLine) = leafLine x ++ 10 :: leafLine y ++
        if after = [] then [] else 10 :: join 10 (after.map leafLine) := by
      split
      · rename_i hempty
        rw [hempty, hpair, List.append_nil]
      · rename_i hsome
        have hsplit : x :: y :: after = [x, y] ++ after := rfl
        rw [hsplit, List.map_append, join_append _ _ _ (by simp) (by simpa using hsome), hpair]
    unfold canonicalText
    rw [if_neg (List.append_ne_nil_of_right_ne_nil _ (List.cons_ne_nil _ _)), List.map_append]
    split
    · rename_i hempty
      rw [hempty, List.map_nil, List.nil_append, hback, List.nil_append]
    · rename_i hsome
      rw [join_append _ _ _ (by simpa using hsome) (by simp), hback]
      simp
  obtain ⟨front, back, hshape⟩ := hshape
  rw [hshape, hshape, Option.some.injEq, List.append_left_inj, List.append_right_inj] at h
  have hfirst : leafLine first <+: leafLine first ++ 10 :: leafLine second :=
    List.prefix_append _ _
  have hsecond : leafLine second <+: leafLine first ++ 10 :: leafLine second :=
    h ▸ List.prefix_append _ _
  have hfirstPath : first.1 <+: leafLine first ++ 10 :: leafLine second :=
    (List.prefix_append _ _).trans hfirst
  have hsecondPath : second.1 <+: leafLine first ++ 10 :: leafLine second :=
    (List.prefix_append _ _).trans hsecond
  exact List.prefix_or_prefix_of_prefix hfirstPath hsecondPath

/-! ## Orders of one list of leaves -/

section Orders

variable {α : Type} {less : α → α → Bool}

/-- In a sorted list with no tie between neighbours there are no ties. -/
theorem pairwise_of_neighbours (hless : StrictWeak less) :
    ∀ l : List α, l.Pairwise (fun a b => less b a = false) →
      (∀ before a b after, l = before ++ a :: b :: after → less a b = true) →
      l.Pairwise fun a b => less a b = true := by
  intro l
  induction l with
  | nil => exact fun _ _ => List.Pairwise.nil
  | cons first rest ih =>
    intro hsorted hneighbours
    have hrest : rest.Pairwise fun a b => less a b = true := by
      refine ih hsorted.of_cons fun before a b after hsplit => ?_
      exact hneighbours (first :: before) a b after (by rw [hsplit, List.cons_append])
    refine List.pairwise_cons.mpr ⟨fun last hlast => ?_, hrest⟩
    cases rest with
    | nil => cases hlast
    | cons second rest =>
      have hnext : less first second = true := hneighbours [] first second rest rfl
      rcases List.mem_cons.mp hlast with rfl | hbehind
      · exact hnext
      · -- a last element not behind the first would not be behind the second
        by_contra hnot
        rw [Bool.not_eq_true] at hnot
        have hback := (List.pairwise_cons.mp hsorted.of_cons).1 last hbehind
        rw [hless.trans _ _ _ hback hnot] at hnext
        cases hnext

/-- A strict weak ordering has a sorted order of the list, and with a tie between two elements
there is one with tied neighbours. -/
theorem exists_tied_neighbours {l : List α} (hless : StrictWeakOn less l) {a b : α} (ha : a ∈ l)
    (hb : b ∈ l) (hne : a ≠ b) (hab : less a b = false) (hba : less b a = false) :
    ∃ before x y after, (before ++ x :: y :: after).Perm l ∧
      (before ++ x :: y :: after).Pairwise (fun a b => less b a = false) ∧ less x y = false := by
  let sorted := sortBy (fun a b : {a // a ∈ l} => less a b) l.attach
  have hperm : sorted.Perm l.attach := List.perm_insertionSort _ _
  have hsorted : sorted.Pairwise fun a b : {a // a ∈ l} => less b a = false :=
    hless.pairwise l.attach
  by_contra hnone
  have hstrict : sorted.Pairwise fun a b : {a // a ∈ l} => less a b = true := by
    refine pairwise_of_neighbours hless sorted hsorted fun before x y after hsplit => ?_
    by_contra htied
    rw [Bool.not_eq_true] at htied
    refine hnone ⟨before.map (·.1), x, y, after.map (·.1), ?_, ?_, htied⟩
    · have hmap := hperm.map (·.1)
      rw [hsplit, List.attach_map_subtype_val] at hmap
      simpa using hmap
    · rw [hsplit] at hsorted
      have hmap := (List.pairwise_map (f := Subtype.val)
        (R := fun a b : α => less b a = false)).mpr hsorted
      simpa using hmap
  have hmemA : (⟨a, ha⟩ : {a // a ∈ l}) ∈ sorted := hperm.mem_iff.mpr (List.mem_attach l _)
  have hmemB : (⟨b, hb⟩ : {a // a ∈ l}) ∈ sorted := hperm.mem_iff.mpr (List.mem_attach l _)
  obtain ⟨i, hi, hati⟩ := List.getElem_of_mem hmemA
  obtain ⟨j, hj, hatj⟩ := List.getElem_of_mem hmemB
  rw [List.pairwise_iff_getElem] at hstrict
  rcases Nat.lt_trichotomy i j with hlt | rfl | hlt
  · have habove := hstrict i j hi hj hlt
    simp [hati, hatj, hab] at habove
  · exact hne (congrArg Subtype.val (hati.symm.trans hatj))
  · have habove := hstrict j i hj hi hlt
    simp [hati, hatj, hba] at habove

/-- Neighbours that are tied may change places. -/
theorem pairwise_swap {before after : List α} {x y : α} (hxy : less x y = false)
    (h : (before ++ x :: y :: after).Pairwise fun a b => less b a = false) :
    (before ++ y :: x :: after).Pairwise fun a b => less b a = false := by
  simp only [List.pairwise_append, List.pairwise_cons, List.mem_cons, forall_eq_or_imp] at h ⊢
  obtain ⟨hbefore, ⟨⟨-, hx⟩, hy, hafter⟩, hacross⟩ := h
  exact ⟨hbefore, ⟨⟨hxy, hy⟩, hx, hafter⟩, fun a ha =>
    ⟨(hacross a ha).2.1, (hacross a ha).1, (hacross a ha).2.2⟩⟩

end Orders

section Independence

variable {leaves : List Leaf}

/-- Leaves whose paths start one another are in the order of their sizes. -/
theorem strictWeakOn_of_comparable
    (h : ∀ first ∈ leaves, ∀ second ∈ leaves, first.1 <+: second.1 ∨ second.1 <+: first.1) :
    StrictWeakOn leafLess leaves := by
  have hsizes : (fun a b : {leaf // leaf ∈ leaves} => leafLess a b) =
      fun a b => decide (a.1.1.length < b.1.1.length) := by
    funext a b
    exact pathLess_of_comparable (h a a.2 b b.2)
  unfold StrictWeakOn
  rw [hsizes]
  exact Linear.ofLT.strictWeak fun leaf : {leaf // leaf ∈ leaves} => leaf.1.1.length

theorem orderIndependent_of_linear (hdistinct : (leaves.map (·.1)).Nodup)
    (h : Linear fun x y : {path // path ∈ leaves.map (·.1)} => pathLess x y) :
    OrderIndependent leaves := by
  intro other hother sorted sorted' hsorted hsorted'
  have hweak : ∀ order : List Leaf, order.Perm leaves → StrictWeakOn leafLess order := by
    intro order horder
    exact h.strictWeak fun leaf : {leaf // leaf ∈ order} =>
      ⟨leaf.1.1, List.mem_map_of_mem (horder.mem_iff.mp leaf.2)⟩
  have hsame : sorted = sorted' := by
    have hperm : sorted.Perm sorted' := hsorted.1.trans (hother.symm.trans hsorted'.1.symm)
    refine List.Perm.eq_of_pairwise (fun a b ha hb hab hba => ?_) (hsorted.2 (hweak _ .rfl))
      (hsorted'.2 (hweak _ hother)) hperm
    have hmemA := hsorted.1.mem_iff.mp ha
    have hmemB := hsorted.1.mem_iff.mp (hperm.mem_iff.mpr hb)
    have hpath := h.eq_of_tied (x := ⟨a.1, List.mem_map_of_mem hmemA⟩)
      (y := ⟨b.1, List.mem_map_of_mem hmemB⟩) hba hab
    exact List.inj_on_of_nodup_map hdistinct hmemA hmemB (congrArg Subtype.val hpath)
  rw [hsame]

/-- Where the paths are not in a linear order, two neighbours can change places. -/
theorem linear_of_orderIndependent (hdistinct : (leaves.map (·.1)).Nodup)
    (h : OrderIndependent leaves) :
    Linear fun x y : {path // path ∈ leaves.map (·.1)} => pathLess x y := by
  have hweak : StrictWeakOn leafLess leaves := by
    by_contra hweak
    have hclash := mt strictWeakOn_of_comparable hweak
    push Not at hclash
    obtain ⟨first, hfirst, second, hsecond, hnot⟩ := hclash
    have hne : first ≠ second := fun heq => hnot.1 (heq ▸ List.prefix_refl _)
    have hrest : (first :: second :: (leaves.erase first).erase second).Perm leaves :=
      ((List.perm_cons_erase ((List.mem_erase_of_ne hne.symm).mpr hsecond)).symm.cons first).trans
        (List.perm_cons_erase hfirst).symm
    have htext := h leaves .rfl _ _ ⟨hrest, fun hw => absurd hw hweak⟩
      ⟨(List.Perm.swap _ _ _).trans hrest, fun hw => absurd hw hweak⟩
    exact not_or.mpr hnot (@comparable_of_swap [] _ _ _ htext)
  have htotal : ∀ first ∈ leaves, ∀ second ∈ leaves, first.1 ≠ second.1 →
      leafLess first second = true ∨ leafLess second first = true := by
    intro first hfirst second hsecond hne
    by_contra hnone
    rw [not_or, Bool.not_eq_true, Bool.not_eq_true] at hnone
    obtain ⟨before, x, y, after, hperm, hsorted, htied⟩ :=
      exists_tied_neighbours hweak hfirst hsecond (fun heq => hne (congrArg Prod.fst heq)) hnone.1
        hnone.2
    have hswap : (before ++ y :: x :: after).Perm (before ++ x :: y :: after) :=
      (List.Perm.swap _ _ _).append_left before
    have htext := h leaves .rfl _ _ ⟨hperm, fun _ => hsorted⟩
      ⟨hswap.trans hperm, fun _ => pairwise_swap htied hsorted⟩
    have hcomparable := comparable_of_swap htext
    have hback : leafLess y x = false := by
      simp only [List.pairwise_append, List.pairwise_cons, List.mem_cons, forall_eq_or_imp]
        at hsorted
      exact hsorted.2.1.1.1
    have hpaths : x.1 ≠ y.1 := by
      have hnodup := (hperm.map (·.1)).nodup_iff.mpr hdistinct
      simp only [List.map_append, List.map_cons, List.nodup_append, List.nodup_cons,
        List.mem_cons, not_or] at hnodup
      exact hnodup.2.1.1.1
    rw [leafLess, pathLess_of_comparable hcomparable, decide_eq_false_iff_not] at htied
    rw [leafLess, pathLess_of_comparable hcomparable.symm, decide_eq_false_iff_not] at hback
    rcases hcomparable with hstarts | hstarts
    · exact hpaths (hstarts.eq_of_length (by omega))
    · exact hpaths (hstarts.eq_of_length (by omega)).symm
  have hleaf : ∀ path ∈ leaves.map (·.1), ∃ leaf ∈ leaves, leaf.1 = path := by
    simp only [List.mem_map, imp_self, implies_true]
  constructor
  · rintro ⟨x, hx⟩ ⟨y, hy⟩ hxy
    obtain ⟨first, hfirst, rfl⟩ := hleaf x hx
    obtain ⟨second, hsecond, rfl⟩ := hleaf y hy
    exact hweak.asymm ⟨first, hfirst⟩ ⟨second, hsecond⟩ hxy
  · rintro ⟨x, hx⟩ ⟨y, hy⟩ ⟨z, hz⟩ hxy hyz
    obtain ⟨first, hfirst, rfl⟩ := hleaf x hx
    obtain ⟨second, hsecond, rfl⟩ := hleaf y hy
    obtain ⟨third, hthird, rfl⟩ := hleaf z hz
    by_contra hnot
    rw [Bool.not_eq_true] at hnot
    have hback := hweak.asymm ⟨second, hsecond⟩ ⟨third, hthird⟩ hyz
    have hnone := hweak.trans ⟨second, hsecond⟩ ⟨third, hthird⟩ ⟨first, hfirst⟩ hback hnot
    exact absurd hxy (Bool.eq_false_iff.mp hnone)
  · rintro ⟨x, hx⟩ ⟨y, hy⟩ hne
    obtain ⟨first, hfirst, rfl⟩ := hleaf x hx
    obtain ⟨second, hsecond, rfl⟩ := hleaf y hy
    exact htotal first hfirst second hsecond fun heq => hne (Subtype.ext heq)

/-- What `path_less` compares in a path without brackets. -/
def signedBytes (path : Bytes) : List Int := path.map (·.toInt8.toInt)

theorem signed_inj {l r : Byte} : l.toInt8.toInt = r.toInt8.toInt ↔ l = r := by
  rw [Int8.toInt_inj]
  exact ⟨fun h => by rw [← UInt8.toUInt8_toInt8 l, h, UInt8.toUInt8_toInt8], congrArg _⟩

theorem pathLess_plain {left right : Bytes} (h : 91 ∉ left) :
    pathLess left right = decide (signedBytes left < signedBytes right) := by
  have hfrom : ∀ (left right : Bytes) (shared : Nat), 91 ∉ left →
      (pathLessFrom (shared + left.length) (shared + right.length) left.length left right ↔
        signedBytes left < signedBytes right) := by
    intro left
    induction left with
    | nil =>
      intro right shared _
      cases right <;> simp [pathLessFrom, signedBytes]
    | cons l left ih =>
      intro right shared h
      rw [List.mem_cons, not_or] at h
      cases right with
      | nil => simp [pathLessFrom, signedBytes]
      | cons r right =>
        have hrest := ih right (shared + 1) h.2
        have hhead : signedBytes (l :: left) < signedBytes (r :: right) ↔
            l.toInt8 < r.toInt8 ∨ l = r ∧ signedBytes left < signedBytes right := by
          rw [Int8.lt_iff_toInt_lt, ← signed_inj]
          exact List.cons_lt_cons_iff
        rw [List.length_cons, pathLessFrom, if_neg fun hbrackets => h.1 hbrackets.1.symm, hhead]
        by_cases heq : l = r
        · subst heq
          simpa [Nat.add_assoc, Nat.add_comm 1] using hrest
        · simp [heq]
  have hless := hfrom left right 0 h
  rw [Nat.zero_add, Nat.zero_add] at hless
  exact Bool.eq_iff_iff.mpr (hless.trans decide_eq_true_iff.symm)

theorem linear_of_plain (h : ∀ leaf ∈ leaves, 91 ∉ leaf.1) :
    Linear fun x y : {path // path ∈ leaves.map (·.1)} => pathLess x y := by
  have hkeys : Linear fun x y : List Int => decide (x < y) := Linear.ofLT
  have hplain (x : {path // path ∈ leaves.map (·.1)}) : (91 : Byte) ∉ x.1 := by
    obtain ⟨leaf, hleaf, hpath⟩ := List.mem_map.mp x.2
    rw [← hpath]
    exact h leaf hleaf
  have hless (x y : {path // path ∈ leaves.map (·.1)}) := @pathLess_plain x y (hplain x)
  simp only [hless]
  refine ⟨fun x y => hkeys.asymm _ _, fun x y z => hkeys.trans _ _ _, fun x y hne => ?_⟩
  exact hkeys.total _ _ fun hsame => hne (Subtype.ext
    (List.map_injective_iff.mpr (fun _ _ => signed_inj.mp) hsame))

def mappingLeaves : List Leaf := [(str "a", str "1"), (str "b.c", str "2")]

end Independence

/-! ## A cycle -/

/-- `[9]` is less than `[10]` by number, which is less than `[5` by its second byte, which is less
than `[9]` by its second byte. -/
def cyclicLeaves : List Leaf :=
  [(str "[9]", str "a"), (str "[10]", str "b"), (str "[5", str "c")]

example : collectLeaves (normalizeText (str "[9]: a\n[10]: b\n[5: c\n")) = some cyclicLeaves := by
  decide +kernel

end Dasall.Knowledge.Ingest
