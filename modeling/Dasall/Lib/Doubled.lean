import Mathlib.Data.List.Infix

/-!
# Escaping doubled marks

A mark that stands twice is a delimiter. An escape reads a list from the left and puts a mask in
front of both marks of each pair. The last mark of a run of odd length is no part of a pair and
stays as it is, behind the mark of a pair.
-/

namespace Dasall.Lib.Doubled

variable {α : Type} [DecidableEq α] (isMark : α → Bool) (mask : α)

def escape : List α → List α
  | first :: second :: rest =>
    if first = second ∧ isMark first then mask :: first :: mask :: second :: escape rest
    else first :: escape (second :: rest)
  | rest => rest

/-- How many pairs the escape finds. -/
def pairs : List α → Nat
  | first :: second :: rest =>
    if first = second ∧ isMark first then 1 + pairs rest else pairs (second :: rest)
  | _ => 0

theorem escape_length (items : List α) :
    (escape isMark mask items).length = items.length + 2 * pairs isMark items := by
  fun_induction escape isMark mask items with
  | case1 first second rest hpair ih =>
    rw [pairs, if_pos hpair]
    simp only [List.length_cons, ih]
    omega
  | case2 first second rest hpair ih =>
    rw [pairs, if_neg hpair]
    simp only [List.length_cons, ih]
    omega
  | case3 rest hshort =>
    have hpairs : pairs isMark rest = 0 := by
      unfold pairs
      split
      · exact absurd rfl (hshort _ _ _)
      · rfl
    omega

/-- What stands behind the list does not begin with the item that it ends with. -/
def Apart (front rest : List α) : Prop := ∀ item ∈ front.getLast?, rest.head? ≠ some item

omit [DecidableEq α] in
theorem apart_cons {first second : α} {front rest : List α}
    (h : Apart (first :: second :: front) rest) : Apart (second :: front) rest := by
  intro item hitem
  apply h item
  rwa [List.getLast?_cons_cons]

theorem escape_append (front rest : List α) (h : Apart front rest) :
    escape isMark mask (front ++ rest) = escape isMark mask front ++ escape isMark mask rest ∧
      pairs isMark (front ++ rest) = pairs isMark front + pairs isMark rest := by
  fun_induction escape isMark mask front with
  | case1 first second front hpair ih =>
    have happart : Apart front rest := by
      cases front with
      | nil =>
        intro item hitem
        cases hitem
      | cons third front => exact apart_cons (apart_cons h)
    obtain ⟨hescape, hpairs⟩ := ih happart
    constructor
    · rw [List.cons_append, List.cons_append, escape, if_pos hpair, hescape]
      rfl
    · rw [List.cons_append, List.cons_append, pairs, pairs, if_pos hpair, if_pos hpair, hpairs]
      omega
  | case2 first second front hpair ih =>
    obtain ⟨hescape, hpairs⟩ := ih (apart_cons h)
    constructor
    · rw [List.cons_append, List.cons_append, escape, if_neg hpair, ← List.cons_append, hescape]
      rfl
    · rw [List.cons_append, List.cons_append, pairs, pairs, if_neg hpair, if_neg hpair,
        ← List.cons_append, hpairs]
  | case3 front hshort =>
    rcases front with _ | ⟨first, _ | ⟨second, front⟩⟩
    · simp [pairs]
    · cases rest with
      | nil => simp [escape, pairs]
      | cons second rest =>
        have hdifferent : first ≠ second := by
          rintro rfl
          exact h first rfl rfl
        simp [escape, pairs, hdifferent]
    · exact absurd rfl (hshort first second front)

/-- A run of odd length, from three on, leaves the mark twice in a row. -/
theorem escape_run {mark : α} (hmark : isMark mark = true) (count : Nat) :
    ∃ front, escape isMark mask (List.replicate (2 * count + 3) mark) = front ++ [mark, mark] := by
  induction count with
  | zero => exact ⟨[mask, mark, mask], by simp [escape, List.replicate, hmark]⟩
  | succ count ih =>
    obtain ⟨front, hfront⟩ := ih
    refine ⟨mask :: mark :: mask :: mark :: front, ?_⟩
    have hmore : List.replicate (2 * (count + 1) + 3) mark =
        mark :: mark :: List.replicate (2 * count + 3) mark := rfl
    rw [hmore, escape, if_pos ⟨rfl, hmark⟩, hfront]
    rfl

theorem pairs_run {mark : α} (hmark : isMark mark = true) (count : Nat) :
    pairs isMark (List.replicate (2 * count + 3) mark) = count + 1 := by
  induction count with
  | zero => simp [pairs, List.replicate, hmark]
  | succ count ih =>
    have hmore : List.replicate (2 * (count + 1) + 3) mark =
        mark :: mark :: List.replicate (2 * count + 3) mark := rfl
    rw [hmore, pairs, if_pos ⟨rfl, hmark⟩, ih]
    omega

/-- A run of the mark of odd length, from three on, with no more of the mark on either side. -/
structure OddRun (items : List α) (mark : α) (front : List α) (count : Nat) (rest : List α) :
    Prop where
  eq : items = front ++ (List.replicate (2 * count + 3) mark ++ rest)
  before : front.getLast? ≠ some mark
  behind : rest.head? ≠ some mark

/-- How long the text is that is written up to the end of the run. -/
def writtenLength (front : List α) (count : Nat) : Nat :=
  front.length + 2 * pairs isMark front + 4 * count + 5

variable {isMark mask}

theorem escape_head {mark second : α} {rest written : List α} (hmask : mask ≠ mark)
    (h : escape isMark mask (second :: rest) = mark :: written) : second = mark := by
  cases rest with
  | nil => exact (List.cons.inj h).1
  | cons third rest =>
    rw [escape] at h
    split at h
    · exact absurd (List.cons.inj h).1 hmask
    · exact (List.cons.inj h).1

theorem OddRun.behind_pair {mark : α} {items before rest : List α} {count : Nat}
    (h : OddRun items mark before count rest) {first : α} (hfirst : isMark first = true) :
    ∃ before' count', OddRun (first :: first :: items) mark before' count' rest ∧
      writtenLength isMark before' count' = writtenLength isMark before count + 4 := by
  by_cases hextends : before = [] ∧ first = mark
  · obtain ⟨rfl, rfl⟩ := hextends
    refine ⟨[], count + 1, ⟨?_, by simp, h.behind⟩, ?_⟩
    · rw [h.eq]
      rfl
    · simp only [writtenLength]
      omega
  · refine ⟨first :: first :: before, count, ⟨?_, ?_, h.behind⟩, ?_⟩
    · rw [h.eq]
      rfl
    · cases before with
      | nil => simpa using hextends
      | cons second before =>
        rw [List.getLast?_cons_cons, List.getLast?_cons_cons]
        exact h.before
    · rw [writtenLength, writtenLength, pairs, if_pos ⟨rfl, hfirst⟩]
      simp only [List.length_cons]
      omega

theorem OddRun.behind_item {mark second : α} {items before rest : List α} {count : Nat}
    (h : OddRun (second :: items) mark before count rest) (hmark : isMark mark = true) {first : α}
    (hsingle : ¬ (first = second ∧ isMark first = true)) :
    ∃ before', OddRun (first :: second :: items) mark before' count rest ∧
      writtenLength isMark before' count = writtenLength isMark before count + 1 := by
  refine ⟨first :: before, ⟨?_, ?_, h.behind⟩, ?_⟩
  · rw [h.eq]
    rfl
  · cases before with
    | nil =>
      have hsecond : second = mark := (List.cons.inj h.eq).1
      simp only [List.getLast?_singleton, ne_eq, Option.some.injEq]
      rintro rfl
      exact hsingle ⟨hsecond.symm, hmark⟩
    | cons third before =>
      rw [List.getLast?_cons_cons]
      exact h.before
  · cases before with
    | nil =>
      simp [writtenLength, pairs]
      omega
    | cons third before =>
      obtain rfl : second = third := (List.cons.inj h.eq).1
      rw [writtenLength, writtenLength, pairs, if_neg hsingle]
      simp only [List.length_cons]
      omega

/-- Where the escape writes a mark twice in a row, a run of odd length ends. -/
theorem oddRun_of_escape {mark : α} (hmask : mask ≠ mark) (hmark : isMark mark = true)
    (items : List α) (front behind : List α)
    (h : escape isMark mask items = front ++ mark :: mark :: behind) :
    ∃ before count rest, OddRun items mark before count rest ∧
      writtenLength isMark before count = front.length + 2 := by
  fun_induction escape isMark mask items generalizing front with
  | case1 first second items hpair ih =>
    obtain ⟨rfl, hfirst⟩ := hpair
    rcases front with _ | ⟨a, _ | ⟨b, _ | ⟨c, _ | ⟨d, front⟩⟩⟩⟩
    · exact absurd (List.cons.inj h).1 hmask
    · exact absurd (List.cons.inj (List.cons.inj (List.cons.inj h).2).2).1 hmask
    · exact absurd (List.cons.inj (List.cons.inj (List.cons.inj h).2).2).1 hmask
    · -- the last mark of the pair, and a mark that is left over
      simp only [List.cons_append, List.nil_append, List.cons.injEq] at h
      obtain ⟨-, -, -, rfl, hrest⟩ := h
      cases items with
      | nil => cases hrest
      | cons second items =>
        obtain rfl := escape_head hmask hrest
        refine ⟨[], 0, items, ⟨rfl, by simp, ?_⟩, rfl⟩
        intro hmore
        cases items with
        | nil => cases hmore
        | cons third items =>
          obtain rfl := Option.some.inj hmore
          rw [escape, if_pos ⟨rfl, hmark⟩] at hrest
          exact hmask (List.cons.inj hrest).1
    · simp only [List.cons_append, List.cons.injEq] at h
      obtain ⟨-, -, -, -, hrest⟩ := h
      obtain ⟨before, count, rest, hrun, hlength⟩ := ih front hrest
      obtain ⟨before', count', hrun', hlength'⟩ := hrun.behind_pair hfirst
      refine ⟨before', count', rest, hrun', ?_⟩
      simp only [List.length_cons]
      omega
  | case2 first second items hpair ih =>
    cases front with
    | nil =>
      simp only [List.nil_append, List.cons.injEq] at h
      obtain ⟨rfl, hrest⟩ := h
      exact absurd ⟨(escape_head hmask hrest).symm, hmark⟩ hpair
    | cons a front =>
      simp only [List.cons_append, List.cons.injEq] at h
      obtain ⟨before, count, rest, hrun, hlength⟩ := ih front h.2
      obtain ⟨before', hrun', hlength'⟩ := hrun.behind_item hmark hpair
      refine ⟨before', count, rest, hrun', ?_⟩
      simp only [List.length_cons]
      omega
  | case3 items hshort =>
    have hlength := congrArg List.length h
    rw [List.length_append, List.length_cons, List.length_cons] at hlength
    rcases items with _ | ⟨first, _ | ⟨second, items⟩⟩
    · simp at hlength
    · simp only [List.length_cons, List.length_nil] at hlength
      omega
    · exact absurd rfl (hshort first second items)

theorem escape_of_oddRun {mark : α} (hmark : isMark mark = true) {items before rest : List α}
    {count : Nat} (h : OddRun items mark before count rest) :
    ∃ front, escape isMark mask items = front ++ mark :: mark :: escape isMark mask rest ∧
      front.length + 2 = writtenLength isMark before count := by
  obtain ⟨front, hfront⟩ := escape_run isMark mask hmark count
  have hrun : Apart (List.replicate (2 * count + 3) mark) rest := by
    intro item hitem
    rw [List.getLast?_replicate, if_neg (by omega)] at hitem
    obtain rfl := Option.some.inj hitem
    exact h.behind
  have hbefore : Apart before (List.replicate (2 * count + 3) mark ++ rest) := by
    rintro item hitem hhead
    obtain rfl := Option.some.inj hhead
    exact h.before hitem
  refine ⟨escape isMark mask before ++ front, ?_, ?_⟩
  · rw [h.eq, (escape_append isMark mask _ _ hbefore).1, (escape_append isMark mask _ _ hrun).1,
      hfront]
    simp
  · have hlength := congrArg List.length hfront
    rw [escape_length, pairs_run isMark hmark, List.length_replicate, List.length_append] at hlength
    rw [List.length_append, escape_length, writtenLength]
    simp only [List.length_cons, List.length_nil] at hlength
    omega

/-- The first `limit` items of what is written hold a mark twice in a row exactly when a run of odd
length ends among them. -/
theorem take_escape_infix_iff {mark : α} (hmask : mask ≠ mark) (hmark : isMark mark = true)
    (items : List α) (limit : Nat) :
    [mark, mark] <:+: (escape isMark mask items).take limit ↔
      ∃ before count rest, OddRun items mark before count rest ∧
        writtenLength isMark before count ≤ limit := by
  constructor
  · rintro ⟨front, behind, hinfix⟩
    have hall := List.take_append_drop limit (escape isMark mask items)
    rw [← hinfix] at hall
    have hwritten : escape isMark mask items =
        front ++ mark :: mark :: (behind ++ (escape isMark mask items).drop limit) :=
      hall.symm.trans (by simp)
    obtain ⟨before, count, rest, hrun, hlength⟩ :=
      oddRun_of_escape hmask hmark items front _ hwritten
    refine ⟨before, count, rest, hrun, ?_⟩
    have htake := List.length_take_le limit (escape isMark mask items)
    rw [← hinfix, List.length_append, List.length_append] at htake
    simp only [List.length_cons, List.length_nil] at htake
    omega
  · rintro ⟨before, count, rest, hrun, hlength⟩
    obtain ⟨front, hwritten, hfront⟩ := @escape_of_oddRun _ _ _ mask _ hmark _ _ _ _ hrun
    refine ⟨front, (escape isMark mask rest).take (limit - (front.length + 2)), ?_⟩
    have hsplit : front ++ mark :: mark :: escape isMark mask rest =
        (front ++ [mark, mark]) ++ escape isMark mask rest := by simp
    have hshort : (front ++ [mark, mark]).length ≤ limit := by
      simp only [List.length_append, List.length_cons, List.length_nil]
      omega
    rw [hwritten, hsplit, List.take_append, List.take_of_length_le hshort]
    simp

end Dasall.Lib.Doubled
