import Dasall.Lib.Separated
import Mathlib.Data.List.DropRight

/-!
# The words of a text

A word is a run of items that pass a test, each item rewritten. A scan that copies the items of words
and writes one separator for each run of others writes the words with the separator between them.
-/

open Dasall.Lib.Separated

namespace Dasall.Lib.Words

variable {α : Type} (inWord : α → Bool) (rewrite : α → α) (separator : α)

/-- The words, the first of which has begun with `current`. -/
def wordsFrom (current : List α) : List α → List (List α)
  | [] => if current.isEmpty then [] else [current]
  | item :: text =>
    if inWord item then wordsFrom (current ++ [rewrite item]) text
    else if current.isEmpty then wordsFrom [] text
    else current :: wordsFrom [] text

def words (text : List α) : List (List α) := wordsFrom inWord rewrite [] text

theorem wordsFrom_free (hfree : ∀ item, inWord item = true → rewrite item ≠ separator)
    (text current : List α) (hcurrent : separator ∉ current) :
    ∀ word ∈ wordsFrom inWord rewrite current text, separator ∉ word ∧ word ≠ [] := by
  induction text generalizing current with
  | nil =>
    unfold wordsFrom
    split
    · simp
    · next hne =>
      rw [List.isEmpty_iff] at hne
      simp [hcurrent, hne]
  | cons item text ih =>
    unfold wordsFrom
    split
    · next hword =>
      apply ih
      rw [List.mem_append, List.mem_singleton, not_or]
      exact ⟨hcurrent, (hfree item hword).symm⟩
    · split
      · exact ih [] (by simp)
      · next hne =>
        rw [List.isEmpty_iff] at hne
        rw [List.forall_mem_cons]
        exact ⟨⟨hcurrent, hne⟩, ih [] (by simp)⟩

variable [DecidableEq α]

def scanStep (written : List α) (item : α) : List α :=
  if inWord item then written ++ [rewrite item]
  else if !written.isEmpty && written.getLast? != some separator then written ++ [separator]
  else written

/-- What the scan has written is the words before, with the current word, which may be empty. -/
theorem foldl_scanStep (hfree : ∀ item, inWord item = true → rewrite item ≠ separator)
    (text : List α) (done : List (List α)) (current : List α) (hcurrent : separator ∉ current) :
    ∃ last, (last = [] ∨ last = [[]]) ∧
      text.foldl (scanStep inWord rewrite separator) (join separator (done ++ [current])) =
        join separator (done ++ wordsFrom inWord rewrite current text ++ last) := by
  induction text generalizing done current with
  | nil =>
    unfold wordsFrom
    split
    · next h =>
      rw [List.isEmpty_iff] at h
      exact ⟨[[]], .inr rfl, by simp [h]⟩
    · exact ⟨[], .inl rfl, by simp⟩
  | cons item text ih =>
    rw [List.foldl_cons]
    unfold wordsFrom
    split
    · next hword =>
      rw [scanStep, if_pos hword, ← join_extend]
      apply ih
      rw [List.mem_append, List.mem_singleton, not_or]
      exact ⟨hcurrent, (hfree item hword).symm⟩
    · next hword =>
      rw [scanStep, if_neg hword]
      by_cases hempty : current = []
      · -- Nothing is written: the text is empty or ends with the separator.
        have hsame : (!(join separator (done ++ [current])).isEmpty &&
            (join separator (done ++ [current])).getLast? != some separator) = false := by
          by_cases hdone : done = []
          · simp [hdone, hempty, join]
          · rw [join_append separator done _ hdone (by simp), hempty]
            simp [join]
        subst hempty
        rw [hsame, if_neg (by simp), if_pos List.isEmpty_nil]
        exact ih done [] (by simp)
      · have hlast : ∃ rest last, join separator (done ++ [current]) = rest ++ [last] ∧
            last ∈ current := by
          obtain ⟨rest, last, rfl⟩ := List.eq_nil_or_concat current |>.resolve_left hempty
          rw [List.concat_eq_append, join_extend]
          exact ⟨_, last, rfl, by simp⟩
        obtain ⟨rest, last, hjoin, hmem⟩ := hlast
        have hne : last ≠ separator := fun h => hcurrent (h ▸ hmem)
        have happend : (!(join separator (done ++ [current])).isEmpty &&
            (join separator (done ++ [current])).getLast? != some separator) = true := by
          simp [hjoin, hne]
        have hnext : join separator (done ++ [current]) ++ [separator] =
            join separator ((done ++ [current]) ++ [[]]) := by
          rw [join_append separator (done ++ [current]) _ (by simp) (by simp)]
          simp [join]
        rw [happend, if_pos rfl, if_neg (by simpa using hempty), hnext]
        obtain ⟨final, hfinal, h⟩ := ih (done ++ [current]) [] (by simp)
        exact ⟨final, hfinal, by rw [h]; simp⟩

/-- The scan without the separators at its end writes the words with separators between. -/
theorem scan_eq_join (hfree : ∀ item, inWord item = true → rewrite item ≠ separator)
    (text : List α) :
    (text.foldl (scanStep inWord rewrite separator) []).rdropWhile (· == separator) =
      join separator (words inWord rewrite text) := by
  obtain ⟨last, hlast, h⟩ := foldl_scanStep inWord rewrite separator hfree text [] [] (by simp)
  have hstart : join separator ([] ++ [([] : List α)]) = [] := by simp [join]
  rw [hstart, List.nil_append] at h
  have hwords := wordsFrom_free inWord rewrite separator hfree text [] (by simp)
  have hkeep : (join separator (words inWord rewrite text)).rdropWhile (· == separator) =
      join separator (words inWord rewrite text) := by
    rcases List.eq_nil_or_concat (words inWord rewrite text) with hnil | ⟨before, word, hconcat⟩
    · simp [hnil, join]
    · have hword := hwords word (by unfold words at hconcat; simp [hconcat])
      obtain ⟨rest, item, rfl⟩ := List.eq_nil_or_concat word |>.resolve_left hword.2
      rw [hconcat, List.concat_eq_append, List.concat_eq_append, join_extend,
        List.rdropWhile_concat_neg]
      have hitem : separator ≠ item := by
        intro heq
        apply hword.1
        simp [heq]
      simpa using hitem.symm
  rw [h]
  change (join separator (words inWord rewrite text ++ last)).rdropWhile _ = _
  rcases hlast with rfl | rfl
  · rw [List.append_nil]
    exact hkeep
  · by_cases hempty : words inWord rewrite text = []
    · simp [hempty, join]
    · rw [join_append separator _ _ hempty (by simp)]
      have hsingle : join separator [([] : List α)] = [] := by simp [join]
      rw [hsingle, List.rdropWhile_concat_pos _ _ _ (by simp)]
      exact hkeep

end Dasall.Lib.Words
