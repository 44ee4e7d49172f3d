import Dasall.Lib.Separated
import Mathlib.Data.List.TakeWhile
import Mathlib.Data.List.Find
import Mathlib.Data.List.Infix

/-!
# Cutting a text at markers

A marker announces a value that runs to the next delimiter. A scan writes a mask over each marker
and what follows it. A word is a run of items that are not delimiters: a scan works word by word,
and scans for several markers, one after another, cut each word at its first marker.

A pass that replaces every occurrence writes the mask over the marker alone. Passes for several
patterns leave none of them behind.
-/

namespace Dasall.Lib.Markers

variable {α : Type} (delimiter : α → Bool)

/-! ## Words -/

/-- No delimiter: a word, or a part of one. -/
def Free (word : List α) : Prop := ∀ item ∈ word, delimiter item = false

instance (word : List α) : Decidable (Free delimiter word) :=
  inferInstanceAs (Decidable (∀ item ∈ word, delimiter item = false))

/-- A word that stands before `text` ends there. -/
def Boundary (text : List α) : Prop := ∀ item ∈ text.head?, delimiter item = true

/-- `rewrite` leaves the delimiters and rewrites each word with `onWord`. -/
structure Wordwise (rewrite onWord : List α → List α) : Prop where
  nil : rewrite [] = []
  delim : ∀ item text, delimiter item = true → rewrite (item :: text) = item :: rewrite text
  word : ∀ word text, Free delimiter word → Boundary delimiter text →
    rewrite (word ++ text) = onWord word ++ rewrite text
  free : ∀ word, Free delimiter word → Free delimiter (onWord word)

theorem boundary_cons (item : α) (text : List α) :
    Boundary delimiter (item :: text) ↔ delimiter item = true := by
  simp [Boundary]

theorem free_cons (item : α) (word : List α) :
    Free delimiter (item :: word) ↔ delimiter item = false ∧ Free delimiter word := by
  simp [Free]

/-- Every text is words and delimiters. -/
theorem words_induction {motive : List α → Prop} (nil : motive [])
    (delim : ∀ item text, delimiter item = true → motive text → motive (item :: text))
    (word : ∀ word text, word ≠ [] → Free delimiter word → Boundary delimiter text → motive text →
      motive (word ++ text)) (text : List α) : motive text := by
  induction hlength : text.length using Nat.strong_induction_on generalizing text with
  | _ length ih =>
    rcases text with _ | ⟨item, text⟩
    · exact nil
    · by_cases hitem : delimiter item = true
      · apply delim item text hitem
        apply ih text.length _ text rfl
        simp [← hlength]
      · rw [Bool.not_eq_true] at hitem
        have hsplit : (item :: text).takeWhile (!delimiter ·) ++
            (item :: text).dropWhile (!delimiter ·) = item :: text :=
          List.takeWhile_append_dropWhile
        have hne : (item :: text).takeWhile (!delimiter ·) ≠ [] := by simp [hitem]
        rw [← hsplit]
        refine word _ _ hne ?_ ?_ ?_
        · intro other hother
          simpa using List.mem_takeWhile_imp hother
        · intro other hother
          have := List.head?_dropWhile_not (fun item => !delimiter item) (item :: text)
          rw [Option.mem_def.mp hother] at this
          simpa using this
        · apply ih _ _ _ rfl
          have hshorter := congrArg List.length hsplit
          rw [List.length_append] at hshorter
          have hpos := List.length_pos_iff.mpr hne
          omega

theorem Wordwise.head {rewrite onWord : List α → List α}
    (h : Wordwise delimiter rewrite onWord) (text : List α) (htext : Boundary delimiter text) :
    (rewrite text).head? = text.head? := by
  rcases text with _ | ⟨item, text⟩
  · rw [h.nil]
  · rw [boundary_cons] at htext
    rw [h.delim item text htext, List.head?_cons, List.head?_cons]

theorem Wordwise.boundary {rewrite onWord : List α → List α}
    (h : Wordwise delimiter rewrite onWord) (text : List α) (htext : Boundary delimiter text) :
    Boundary delimiter (rewrite text) := by
  unfold Boundary
  rw [h.head delimiter text htext]
  exact htext

theorem Wordwise.comp {first second onFirst onSecond : List α → List α}
    (hfirst : Wordwise delimiter first onFirst) (hsecond : Wordwise delimiter second onSecond) :
    Wordwise delimiter (second ∘ first) (onSecond ∘ onFirst) where
  nil := by simp only [Function.comp_apply, hfirst.nil, hsecond.nil]
  delim item text hitem := by
    simp only [Function.comp_apply, hfirst.delim item text hitem, hsecond.delim item _ hitem]
  word word text hword htext := by
    simp only [Function.comp_apply, hfirst.word word text hword htext]
    exact hsecond.word _ _ (hfirst.free word hword) (hfirst.boundary delimiter text htext)
  free word hword := hsecond.free _ (hfirst.free word hword)

/-! ## The scan -/

variable [DecidableEq α]

/-- The place of the first occurrence, as `std::string::find` gives it. -/
def findFirst (pattern : List α) : List α → Option Nat
  | [] => if pattern.isEmpty then some 0 else none
  | item :: text =>
    if pattern.isPrefixOf (item :: text) then some 0 else (findFirst pattern text).map (· + 1)

/-- The first occurrence at `start` or after it. -/
def find (text pattern : List α) (start : Nat) : Option Nat :=
  if start ≤ text.length then (findFirst pattern (text.drop start)).map (start + ·) else none

structure Rule (α : Type) where
  marker : List α
  mask : List α
deriving DecidableEq

/-- One pass. While `masked`, it drops what comes up to the next delimiter. -/
def scan (rule : Rule α) : Bool → List α → List α
  | _, [] => []
  | masked, item :: text =>
    if masked && !delimiter item then scan rule true text
    else if rule.marker.isPrefixOf (item :: text) then rule.mask ++ scan rule true text
    else item :: scan rule false text

/-- The text with everything from the first marker on replaced by that marker's mask. -/
def cutFirst (rules : List (Rule α)) : List α → List α
  | [] => []
  | item :: text =>
    match rules.find? fun rule => rule.marker.isPrefixOf (item :: text) with
    | some rule => rule.mask
    | none => item :: cutFirst rules text

omit [DecidableEq α] in
theorem dropWhile_of_boundary (text : List α) (htext : Boundary delimiter text) :
    text.dropWhile (!delimiter ·) = text := by
  rcases text with _ | ⟨item, text⟩
  · rfl
  · rw [boundary_cons] at htext
    simp [htext]

variable (rule : Rule α)

theorem scan_masked (text : List α) :
    scan delimiter rule true text = scan delimiter rule false (text.dropWhile (!delimiter ·)) := by
  induction text with
  | nil => rfl
  | cons item text ih =>
    by_cases hitem : delimiter item = true
    · rw [List.dropWhile_cons_of_neg (by simp [hitem])]
      simp [scan, hitem]
    · rw [Bool.not_eq_true] at hitem
      rw [List.dropWhile_cons_of_pos (by simp [hitem]), ← ih]
      simp [scan, hitem]

theorem scan_masked_word (word text : List α) (hword : Free delimiter word)
    (htext : Boundary delimiter text) :
    scan delimiter rule true (word ++ text) = scan delimiter rule false text := by
  rw [scan_masked, List.dropWhile_append_of_pos, dropWhile_of_boundary delimiter text htext]
  intro item hitem
  simp [hword item hitem]

/-- A search and the scan agree: nothing is found, nothing is changed. -/
theorem scan_of_findFirst_none (text : List α)
    (h : findFirst rule.marker text = none) : scan delimiter rule false text = text := by
  induction text with
  | nil => rfl
  | cons item text ih =>
    unfold findFirst at h
    split at h
    · simp at h
    · next hprefix =>
      rw [Option.map_eq_none_iff] at h
      simp [scan, hprefix, ih h]

/-- The scan copies what stands before the first marker and goes on behind the value. -/
theorem scan_of_findFirst_some (hempty : rule.marker ≠ []) (text : List α)
    (place : Nat) (h : findFirst rule.marker text = some place) :
    rule.marker.isPrefixOf (text.drop place) = true ∧ place < text.length ∧
      scan delimiter rule false text =
        text.take place ++ rule.mask ++ scan delimiter rule true (text.drop (place + 1)) := by
  induction text generalizing place with
  | nil => simp [findFirst, hempty] at h
  | cons item text ih =>
    unfold findFirst at h
    split at h
    · next hprefix =>
      obtain rfl : 0 = place := by simpa using h
      simp [scan, hprefix]
    · next hprefix =>
      obtain ⟨before, hbefore, rfl⟩ := Option.map_eq_some_iff.mp h
      obtain ⟨hfound, hlt, hscan⟩ := ih before hbefore
      refine ⟨by simpa using hfound, by simpa using hlt, ?_⟩
      simp [scan, hprefix, hscan]

/-! ## The scan on a word -/

omit [DecidableEq α] in
theorem prefix_word_iff {pattern word text : List α} (hpattern : Free delimiter pattern)
    (htext : Boundary delimiter text) : pattern <+: word ++ text ↔ pattern <+: word := by
  constructor
  · intro h
    induction pattern generalizing word with
    | nil => exact List.nil_prefix
    | cons item pattern ih =>
      rw [free_cons] at hpattern
      rcases word with _ | ⟨other, word⟩
      · obtain ⟨rest, rfl⟩ := h
        rw [List.cons_append, boundary_cons, hpattern.1] at htext
        simp at htext
      · rw [List.cons_append, List.cons_prefix_cons] at h
        rw [List.cons_prefix_cons]
        exact ⟨h.1, ih hpattern.2 h.2⟩
  · intro h
    exact h.trans (List.prefix_append word text)

theorem scan_delimiter (rule : Rule α) (hmarker : ∀ item ∈ rule.marker.head?, delimiter item = false)
    (hempty : rule.marker ≠ []) (masked : Bool) (item : α) (text : List α)
    (hitem : delimiter item = true) :
    scan delimiter rule masked (item :: text) = item :: scan delimiter rule false text := by
  have hprefix : rule.marker.isPrefixOf (item :: text) = false := by
    obtain ⟨first, rest, hrule⟩ := List.exists_cons_of_ne_nil hempty
    have hfirst := hmarker first (by simp [hrule])
    have hne : first ≠ item := by
      rintro rfl
      simp [hfirst] at hitem
    simp [hrule, List.isPrefixOf, hne]
  simp [scan, hitem, hprefix]

/-- A scan for a marker without delimiters cuts each word at the marker. -/
theorem scan_wordwise (rule : Rule α) (hempty : rule.marker ≠ []) (hmarker : Free delimiter rule.marker)
    (hmask : Free delimiter rule.mask) :
    Wordwise delimiter (scan delimiter rule false) (cutFirst [rule]) where
  nil := rfl
  delim item text hitem := by
    apply scan_delimiter delimiter rule _ hempty false item text hitem
    intro first hfirst
    exact hmarker first (List.mem_of_mem_head? hfirst)
  word word text hword htext := by
    induction word with
    | nil => rfl
    | cons item word ih =>
      rw [free_cons] at hword
      have hsame : rule.marker.isPrefixOf (item :: (word ++ text)) =
          rule.marker.isPrefixOf (item :: word) := by
        rw [Bool.eq_iff_iff, List.isPrefixOf_iff_prefix, List.isPrefixOf_iff_prefix,
          ← List.cons_append, prefix_word_iff delimiter hmarker htext]
      by_cases hprefix : rule.marker.isPrefixOf (item :: word) = true
      · simp [scan, cutFirst, hsame, hprefix, scan_masked_word delimiter rule word text hword.2 htext]
      · simp [scan, cutFirst, hsame, hprefix, ih hword.2]
  free word hword := by
    induction word with
    | nil => exact hword
    | cons item word ih =>
      rw [free_cons] at hword
      unfold cutFirst
      split
      · next found hfound =>
        have := List.mem_of_find?_eq_some hfound
        rw [List.mem_singleton] at this
        rw [this]
        exact hmask
      · rw [free_cons]
        exact ⟨hword.1, ih hword.2⟩

omit [DecidableEq α] in

/-! ## Scans for several markers -/

variable (rules : List (Rule α))

/-- What stands at the front of a cut text stood there before, unless a mask begins in it. -/
theorem prefix_of_prefix_cutFirst (pattern text : List α)
    (hmask : ∀ rule ∈ rules, ∀ rest ∈ pattern.tails, rest ≠ [] → rest.isPrefixOf rule.mask = false)
    (h : pattern <+: cutFirst rules text) : pattern <+: text := by
  induction text generalizing pattern with
  | nil => exact h
  | cons item text ih =>
    rcases pattern with _ | ⟨first, pattern⟩
    · exact List.nil_prefix
    · unfold cutFirst at h
      split at h
      · next rule hfound =>
        have := hmask rule (List.mem_of_find?_eq_some hfound) (first :: pattern)
          (by simp) (by simp)
        rw [← List.isPrefixOf_iff_prefix, this] at h
        simp at h
      · rw [List.cons_prefix_cons] at h
        rw [List.cons_prefix_cons]
        refine ⟨h.1, ih pattern ?_ h.2⟩
        intro rule hrule rest hrest
        apply hmask rule hrule
        rw [List.mem_tails] at hrest ⊢
        exact hrest.trans (List.suffix_cons first pattern)

/-- Markers are not broken: what no marker begins in is copied. -/
theorem cutFirst_append (pattern text : List α)
    (hinside : ∀ rule ∈ rules, ∀ rest ∈ pattern.tails, rest ≠ [] →
      rule.marker.isPrefixOf rest = false ∧ rest.isPrefixOf rule.marker = false) :
    cutFirst rules (pattern ++ text) = pattern ++ cutFirst rules text := by
  induction pattern with
  | nil => rfl
  | cons item pattern ih =>
    have hnone : (rules.find? fun rule => rule.marker.isPrefixOf (item :: (pattern ++ text))) = none := by
      rw [List.find?_eq_none]
      intro rule hrule h
      obtain ⟨hleft, hright⟩ := hinside rule hrule (item :: pattern) (by simp) (by simp)
      rw [List.isPrefixOf_iff_prefix, ← List.cons_append] at h
      rcases List.prefix_or_prefix_of_prefix h (List.prefix_append _ _) with hle | hle
      · rw [← List.isPrefixOf_iff_prefix, hleft] at hle
        simp at hle
      · rw [← List.isPrefixOf_iff_prefix, hright] at hle
        simp at hle
    have hcut : cutFirst rules (item :: (pattern ++ text)) =
        item :: cutFirst rules (pattern ++ text) := by
      simp [cutFirst, hnone]
    rw [List.cons_append, hcut, List.cons_append, ih]
    intro rule hrule rest hrest
    apply hinside rule hrule
    rw [List.mem_tails] at hrest ⊢
    exact hrest.trans (List.suffix_cons item pattern)

/-! ## Texts that are cut alike -/

/-- Markers that do not run into each other or into a mask. -/
structure Apart (rules : List (Rule α)) : Prop where
  nonempty : ∀ rule ∈ rules, rule.marker ≠ []
  inside : ∀ rule ∈ rules, ∀ other ∈ rules, ∀ rest ∈ rule.marker.tail.tails, rest ≠ [] →
    other.marker.isPrefixOf rest = false ∧ rest.isPrefixOf other.marker = false
  across : ∀ rule ∈ rules, ∀ other ∈ rules, ∀ rest ∈ rule.marker.tail.tails, rest ≠ [] →
    rest.isPrefixOf other.mask = false

theorem cutFirst_cons_none (item : α) (text : List α)
    (h : (rules.find? fun rule => rule.marker.isPrefixOf (item :: text)) = none) :
    cutFirst rules (item :: text) = item :: cutFirst rules text := by
  simp [cutFirst, h]

theorem cutFirst_cons_some (item : α) (text : List α) (rule : Rule α)
    (h : (rules.find? fun rule => rule.marker.isPrefixOf (item :: text)) = some rule) :
    cutFirst rules (item :: text) = rule.mask := by
  simp [cutFirst, h]

/-- A cut neither makes nor breaks a marker that began before. -/
theorem isPrefixOf_cons_cutFirst (hapart : Apart rules) (rule : Rule α)
    (hrule : rule ∈ rules) (item : α) (text : List α) :
    rule.marker.isPrefixOf (item :: cutFirst rules text) = rule.marker.isPrefixOf (item :: text) := by
  obtain ⟨first, tail, hmarker⟩ := List.exists_cons_of_ne_nil (hapart.nonempty rule hrule)
  have hinside := hapart.inside rule hrule
  have hacross := hapart.across rule hrule
  rw [hmarker, List.tail_cons] at hinside hacross
  rw [hmarker, Bool.eq_iff_iff, List.isPrefixOf_iff_prefix, List.isPrefixOf_iff_prefix,
    List.cons_prefix_cons, List.cons_prefix_cons, and_congr_right_iff]
  rintro -
  constructor
  · exact prefix_of_prefix_cutFirst rules tail text hacross
  · rintro ⟨rest, rfl⟩
    rw [cutFirst_append rules tail rest hinside]
    exact List.prefix_append _ _

theorem find_cons_cutFirst (hapart : Apart rules) (item : α)
    (text : List α) :
    (rules.find? fun rule => rule.marker.isPrefixOf (item :: cutFirst rules text)) =
      rules.find? fun rule => rule.marker.isPrefixOf (item :: text) := by
  apply List.find?_congr
  intro rule hrule
  exact isPrefixOf_cons_cutFirst rules hapart rule hrule item text

theorem cutFirst_cutFirst (hapart : Apart rules)
    (hmask : ∀ rule ∈ rules, cutFirst rules rule.mask = rule.mask) (text : List α) :
    cutFirst rules (cutFirst rules text) = cutFirst rules text := by
  induction text with
  | nil => rfl
  | cons item text ih =>
    rcases hfound : rules.find? fun rule => rule.marker.isPrefixOf (item :: text) with _ | rule
    · rw [cutFirst_cons_none rules item text hfound, cutFirst_cons_none rules, ih]
      rw [find_cons_cutFirst rules hapart, hfound]
    · rw [cutFirst_cons_some rules item text rule hfound]
      exact hmask rule (List.mem_of_find?_eq_some hfound)

/-! ## The text before a marker -/

open Dasall.Lib.Separated

/-- The text before the first occurrence, or all of it. -/
def before (pattern text : List α) : List α :=
  match findFirst pattern text with
  | some place => text.take place
  | none => text

theorem before_cons (pattern : List α) (item : α) (text : List α) :
    before pattern (item :: text) =
      if pattern.isPrefixOf (item :: text) then [] else item :: before pattern text := by
  have hfind : findFirst pattern (item :: text) =
      if pattern.isPrefixOf (item :: text) then some 0
      else (findFirst pattern text).map (· + 1) := rfl
  unfold before
  rw [hfind]
  split_ifs with h
  · simp
  · rcases findFirst pattern text with _ | place <;> simp

/-- A text is cut at a separator and a key: what is left are the pieces before the first of them,
except the first, that begins with the key. -/
theorem splitOn_before (separator : α) (key text : List α) (hkey : separator ∉ key) :
    (before (separator :: key) text).splitOn separator =
      (text.splitOn separator).take 1 ++
        (text.splitOn separator).tail.takeWhile fun piece => !key.isPrefixOf piece := by
  induction text with
  | nil => simp [before, findFirst, List.splitOn_nil]
  | cons item text ih =>
    obtain ⟨rest, hrest⟩ := splitOn_eq_cons separator text
    have hkeyed := prefix_takeWhile_iff separator key text hkey
    generalize text.takeWhile (· ≠ separator) = first at hrest hkeyed
    rw [hrest, List.take_one, List.head?_cons, Option.toList_some, List.tail_cons] at ih
    have hsplit : (item :: text).splitOn separator =
        if item == separator then [] :: first :: rest else (item :: first) :: rest := by
      rw [List.splitOn_cons_eq_if_modifyHead, hrest]
      rfl
    rw [before_cons, hsplit]
    by_cases hitem : item = separator
    · subst hitem
      have hstarts : (item :: key).isPrefixOf (item :: text) = key.isPrefixOf first := by
        rw [Bool.eq_iff_iff, List.isPrefixOf_iff_prefix, List.isPrefixOf_iff_prefix, hkeyed,
          List.cons_prefix_cons]
        simp
      rw [hstarts, beq_self_eq_true, if_pos rfl, List.take_one, List.head?_cons,
        Option.toList_some, List.tail_cons]
      by_cases h : key.isPrefixOf first = true
      · rw [if_pos h, List.splitOn_nil, List.takeWhile_cons_of_neg (by simp [h]), List.append_nil]
      · rw [if_neg h, List.splitOn_cons_eq_if_modifyHead, beq_self_eq_true, if_pos rfl, ih,
          List.takeWhile_cons_of_pos (by simp [h])]
        rfl
    · have hstarts : ¬ (separator :: key).isPrefixOf (item :: text) = true := by
        rw [List.isPrefixOf_iff_prefix, List.cons_prefix_cons]
        exact fun h => hitem h.1.symm
      have hother : ¬ (item == separator) = true := by simpa using hitem
      rw [if_neg hstarts, if_neg hother, List.splitOn_cons_eq_if_modifyHead, if_neg hother, ih]
      rfl

/-! ## Replacing every occurrence -/

theorem findFirst_eq_none_iff (pattern text : List α) :
    findFirst pattern text = none ↔ ¬ pattern <:+: text := by
  induction text with
  | nil => simp [findFirst]
  | cons item text ih =>
    rw [List.infix_cons_iff, not_or, ← ih, ← List.isPrefixOf_iff_prefix]
    rw [findFirst]
    split
    · next h => simp [h]
    · next h => simp [h]

theorem prefix_append_cons {pattern : List α} {item : α} (hitem : item ∉ pattern)
    (first second : List α) : pattern <+: first ++ item :: second ↔ pattern <+: first := by
  apply prefix_word_iff (fun other => decide (other = item))
  · intro other hother
    rw [decide_eq_false_iff_not]
    rintro rfl
    exact hitem hother
  · rw [boundary_cons]
    exact decide_eq_true rfl

/-- An item that a pattern does not have keeps its occurrences apart. -/
theorem infix_append_cons {pattern : List α} {item : α} (hitem : item ∉ pattern)
    (first second : List α) :
    pattern <:+: first ++ item :: second ↔ pattern <:+: first ∨ pattern <:+: second := by
  induction first with
  | nil =>
    rw [List.nil_append, List.infix_cons_iff, ← List.nil_append (item :: second),
      prefix_append_cons hitem, List.prefix_nil, List.infix_nil]
  | cons other first ih =>
    rw [List.cons_append, List.infix_cons_iff, List.infix_cons_iff, ih, ← List.cons_append,
      prefix_append_cons hitem, or_assoc]

/-- One pass that writes `mask` for each occurrence of `pattern`, read through `view`. It leaves
out the next `skipped` items. -/
def replaceAll (view : α → α) (pattern mask : List α) : Nat → List α → List α
  | _, [] => []
  | skipped + 1, _ :: text => replaceAll view pattern mask skipped text
  | 0, item :: text =>
    if pattern.isPrefixOf ((item :: text).map view) then
      mask ++ replaceAll view pattern mask (pattern.length - 1) text
    else item :: replaceAll view pattern mask 0 text

/-- What a mask must have so that it never becomes a part of `pattern`. -/
structure Fenced (view : α → α) (mask pattern : List α) : Prop where
  nonempty : pattern ≠ []
  shown : mask ≠ []
  opening : ∀ item ∈ mask.head?, view item ∉ pattern
  closing : ∀ item ∈ mask.getLast?, view item ∉ pattern
  inner : ¬ pattern <:+: mask.map view

section
variable {view : α → α} {mask pattern : List α}

theorem replaceAll_skip (skipped : Nat) (text : List α) :
    replaceAll view pattern mask skipped text =
      replaceAll view pattern mask 0 (text.drop skipped) := by
  induction text generalizing skipped with
  | nil => simp [replaceAll]
  | cons item text ih =>
    cases skipped with
    | zero => rfl
    | succ skipped => rw [replaceAll, ih, List.drop_succ_cons]

/-- A search and the pass agree: nothing is found, nothing is changed. -/
theorem replaceAll_of_findFirst_none (text : List α) (h : findFirst pattern (text.map view) = none) :
    replaceAll view pattern mask 0 text = text := by
  induction text with
  | nil => rfl
  | cons item text ih =>
    rw [List.map_cons, findFirst] at h
    split at h
    · simp at h
    · next hprefix =>
      rw [Option.map_eq_none_iff] at h
      rw [replaceAll, List.map_cons, if_neg hprefix, ih h]

/-- The pass copies what stands before the first occurrence and goes on behind it. -/
theorem replaceAll_of_findFirst_some (hempty : pattern ≠ []) (text : List α) (place : Nat)
    (h : findFirst pattern (text.map view) = some place) :
    place + pattern.length ≤ text.length ∧
      replaceAll view pattern mask 0 text = text.take place ++ mask ++
        replaceAll view pattern mask 0 (text.drop (place + pattern.length)) := by
  induction text generalizing place with
  | nil => simp [findFirst, hempty] at h
  | cons item text ih =>
    have hpos := List.length_pos_iff.mpr hempty
    rw [List.map_cons, findFirst] at h
    split at h
    · next hprefix =>
      obtain rfl : 0 = place := by simpa using h
      have hlength := (List.isPrefixOf_iff_prefix.mp hprefix).length_le
      rw [List.length_cons, List.length_map] at hlength
      refine ⟨by simpa using hlength, ?_⟩
      have hdrop : (item :: text).drop (0 + pattern.length) = text.drop (pattern.length - 1) := by
        rw [Nat.zero_add]
        conv_lhs => rw [← Nat.sub_add_cancel hpos]
        rfl
      rw [replaceAll, List.map_cons, if_pos hprefix, replaceAll_skip, hdrop]
      rfl
    · next hprefix =>
      obtain ⟨before, hbefore, rfl⟩ := Option.map_eq_some_iff.mp h
      obtain ⟨hlength, hreplaced⟩ := ih before hbefore
      have hplace : before + 1 + pattern.length = before + pattern.length + 1 := by omega
      rw [replaceAll, List.map_cons, if_neg hprefix, hreplaced, hplace]
      refine ⟨?_, by simp⟩
      rw [List.length_cons]
      omega

/-- What starts a pattern in the result starts it in the text. -/
theorem prefix_of_prefix_replaceAll {other : List α} (hother : Fenced view mask other)
    (text wanted : List α) (hwanted : wanted <:+ other)
    (h : wanted <+: (replaceAll view pattern mask 0 text).map view) : wanted <+: text.map view := by
  induction text generalizing wanted with
  | nil => exact h
  | cons item text ih =>
    rcases wanted with _ | ⟨first, wanted⟩
    · exact List.nil_prefix
    · rw [replaceAll] at h
      split at h
      · obtain ⟨opening, inner, hmask⟩ := List.exists_cons_of_ne_nil hother.shown
        have hopening := hother.opening opening (by simp [hmask])
        rw [hmask, List.cons_append, List.map_cons, List.cons_prefix_cons] at h
        rw [← h.1] at hopening
        exact absurd (hwanted.subset List.mem_cons_self) hopening
      · rw [List.map_cons, List.cons_prefix_cons] at h
        rw [List.map_cons, List.cons_prefix_cons]
        refine ⟨h.1, ih wanted ?_ h.2⟩
        exact (List.suffix_cons first wanted).trans hwanted

/-- The mask keeps what follows it apart from what it hides. -/
theorem infix_masked (hfenced : Fenced view mask pattern) (text : List α)
    (h : pattern <:+: (mask ++ text).map view) : pattern <:+: text.map view := by
  obtain ⟨inner, closing, hmask⟩ := (List.eq_nil_or_concat' mask).resolve_left hfenced.shown
  have hclosing := hfenced.closing closing (by simp [hmask])
  rw [hmask, List.append_assoc, List.map_append, List.singleton_append, List.map_cons,
    infix_append_cons hclosing] at h
  rcases h with h | h
  · refine absurd ?_ hfenced.inner
    rw [hmask, List.map_append]
    exact h.trans List.infix_append_left
  · exact h

/-- A pass forms no pattern that was not there. -/
theorem replaceAll_forms_none {other : List α} (hother : Fenced view mask other) (skipped : Nat)
    (text : List α) (h : ¬ other <:+: text.map view) :
    ¬ other <:+: (replaceAll view pattern mask skipped text).map view := by
  induction text generalizing skipped with
  | nil => simpa [replaceAll] using h
  | cons item text ih =>
    rw [List.map_cons, List.infix_cons_iff, not_or] at h
    cases skipped with
    | succ skipped => exact ih skipped h.2
    | zero =>
      intro hfound
      have hstart : other <+: (replaceAll view pattern mask 0 (item :: text)).map view →
          other <+: (item :: text).map view :=
        prefix_of_prefix_replaceAll hother (item :: text) other List.suffix_rfl
      rw [replaceAll] at hfound hstart
      split at hfound
      · exact ih _ h.2 (infix_masked hother _ hfound)
      · next hprefix =>
        rw [if_neg hprefix] at hstart
        rw [List.map_cons, List.infix_cons_iff] at hfound
        rcases hfound with hfound | hfound
        · exact h.1 (hstart hfound)
        · exact ih 0 h.2 hfound

/-- After its pass a pattern is gone. -/
theorem replaceAll_removes (hfenced : Fenced view mask pattern) (skipped : Nat) (text : List α) :
    ¬ pattern <:+: (replaceAll view pattern mask skipped text).map view := by
  induction text generalizing skipped with
  | nil => simp [replaceAll, hfenced.nonempty]
  | cons item text ih =>
    cases skipped with
    | succ skipped => exact ih skipped
    | zero =>
      intro hfound
      have hstart : pattern <+: (replaceAll view pattern mask 0 (item :: text)).map view →
          pattern <+: (item :: text).map view :=
        prefix_of_prefix_replaceAll hfenced (item :: text) pattern List.suffix_rfl
      rw [replaceAll] at hfound hstart
      split at hfound
      · exact ih _ (infix_masked hfenced _ hfound)
      · next hprefix =>
        rw [if_neg hprefix] at hstart
        rw [List.map_cons, List.infix_cons_iff] at hfound
        rcases hfound with hfound | hfound
        · exact hprefix (List.isPrefixOf_iff_prefix.mpr (hstart hfound))
        · exact ih 0 hfound

/-- A pass works apart on the two sides of an item that the pattern does not have. -/
theorem replaceAll_append_cons (hempty : pattern ≠ []) (item : α) (hitem : view item ∉ pattern)
    (skipped : Nat) (first second : List α) (hskipped : skipped ≤ first.length) :
    replaceAll view pattern mask skipped (first ++ item :: second) =
      replaceAll view pattern mask skipped first ++ item :: replaceAll view pattern mask 0 second := by
  induction first generalizing skipped with
  | nil =>
    obtain rfl : skipped = 0 := by simpa using hskipped
    have hprefix : ¬ pattern.isPrefixOf ((item :: second).map view) = true := by
      rw [List.isPrefixOf_iff_prefix, List.map_cons, ← List.nil_append (view item :: _),
        prefix_append_cons hitem, List.prefix_nil]
      exact hempty
    have hhere : replaceAll view pattern mask 0 (item :: second) =
        item :: replaceAll view pattern mask 0 second := by
      rw [replaceAll, if_neg hprefix]
    exact hhere
  | cons other first ih =>
    cases skipped with
    | succ skipped => exact ih skipped (by simpa using hskipped)
    | zero =>
      have hsame : pattern.isPrefixOf ((other :: (first ++ item :: second)).map view) =
          pattern.isPrefixOf ((other :: first).map view) := by
        rw [Bool.eq_iff_iff, List.isPrefixOf_iff_prefix, List.isPrefixOf_iff_prefix,
          ← List.cons_append, List.map_append, List.map_cons (a := item), prefix_append_cons hitem]
      rw [List.cons_append, replaceAll, hsame, replaceAll]
      split
      · next hprefix =>
        have hlength := (List.isPrefixOf_iff_prefix.mp hprefix).length_le
        rw [List.length_map, List.length_cons] at hlength
        rw [ih _ (by omega), List.append_assoc]
      · rw [ih 0 (by omega), List.cons_append]

end

/-! ### Several patterns, one after another -/

def maskAll (view : α → α) (mask : List α) (patterns : List (List α)) (text : List α) : List α :=
  patterns.foldl (fun text pattern => replaceAll view pattern mask 0 text) text

section
variable {view : α → α} {mask : List α} {patterns : List (List α)}

theorem maskAll_forms_none {other : List α} (hother : Fenced view mask other) (text : List α)
    (h : ¬ other <:+: text.map view) : ¬ other <:+: (maskAll view mask patterns text).map view := by
  induction patterns generalizing text with
  | nil => exact h
  | cons pattern patterns ih => exact ih _ (replaceAll_forms_none hother 0 text h)

/-- No pattern is left, nor was one formed on the way. -/
theorem maskAll_removes (hfenced : ∀ pattern ∈ patterns, Fenced view mask pattern)
    (text pattern : List α) (h : pattern ∈ patterns) :
    ¬ pattern <:+: (maskAll view mask patterns text).map view := by
  induction patterns generalizing text with
  | nil => simp at h
  | cons first patterns ih =>
    rcases List.mem_cons.mp h with rfl | h
    · have hfirst := hfenced pattern List.mem_cons_self
      exact maskAll_forms_none hfirst (replaceAll view pattern mask 0 text)
        (replaceAll_removes hfirst 0 text)
    · exact ih (fun other hother => hfenced other (List.mem_cons_of_mem first hother)) _ h

theorem maskAll_of_absent (text : List α) (h : ∀ pattern ∈ patterns, ¬ pattern <:+: text.map view) :
    maskAll view mask patterns text = text := by
  induction patterns with
  | nil => rfl
  | cons first patterns ih =>
    have hfirst := h first List.mem_cons_self
    have hrest := ih fun pattern hpattern => h pattern (List.mem_cons_of_mem first hpattern)
    rw [← findFirst_eq_none_iff] at hfirst
    rw [maskAll, List.foldl_cons, replaceAll_of_findFirst_none text hfirst]
    exact hrest

theorem maskAll_maskAll (hfenced : ∀ pattern ∈ patterns, Fenced view mask pattern)
    (text : List α) :
    maskAll view mask patterns (maskAll view mask patterns text) = maskAll view mask patterns text :=
  maskAll_of_absent _ (maskAll_removes hfenced text)

theorem maskAll_append_cons (item : α)
    (hitem : ∀ pattern ∈ patterns, pattern ≠ [] ∧ view item ∉ pattern) (first second : List α) :
    maskAll view mask patterns (first ++ item :: second) =
      maskAll view mask patterns first ++ item :: maskAll view mask patterns second := by
  induction patterns generalizing first second with
  | nil => rfl
  | cons pattern patterns ih =>
    obtain ⟨hempty, hpattern⟩ := hitem pattern List.mem_cons_self
    have hrest := ih fun other hother => hitem other (List.mem_cons_of_mem pattern hother)
    rw [maskAll, List.foldl_cons, replaceAll_append_cons hempty item hpattern 0 first second (by omega)]
    exact hrest _ _

end

end Dasall.Lib.Markers
