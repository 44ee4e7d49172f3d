import Mathlib.Data.List.Basic

/-!
# Lists written with a separator

`join` puts the separator between the pieces and nothing around them, so that no piece at all and
a single empty piece are written alike. `split` reads the empty text as no piece.
-/

namespace Dasall.Lib.Separated

variable {α : Type}

def join (separator : α) (pieces : List (List α)) : List α := [separator].intercalate pieces

variable (separator : α) (first pieces : List (List α)) {piece : List α} (text : List α)
  (second : List (List α))

theorem join_cons_cons (first second : List α) (rest : List (List α)) :
    join separator (first :: second :: rest) =
      first ++ separator :: join separator (second :: rest) := by
  simp [join, List.intercalate]

theorem join_append (hfirst : first ≠ [])
    (hsecond : second ≠ []) :
    join separator (first ++ second) = join separator first ++ separator :: join separator second := by
  induction first with
  | nil => exact absurd rfl hfirst
  | cons piece pieces ih =>
    match pieces, ih with
    | [], _ =>
      obtain ⟨next, rest, rfl⟩ := List.exists_cons_of_ne_nil hsecond
      rw [List.singleton_append, join_cons_cons]
      simp [join]
    | next :: rest, ih =>
      rw [List.cons_append, List.cons_append, join_cons_cons, join_cons_cons, ← List.cons_append,
        ih (List.cons_ne_nil _ _)]
      simp

/-- Another item at the end of the last piece. -/
theorem join_extend (piece : List α) (item : α) :
    join separator (pieces ++ [piece ++ [item]]) = join separator (pieces ++ [piece]) ++ [item] := by
  by_cases h : pieces = []
  · simp [h, join]
  · rw [join_append separator pieces _ h (by simp), join_append separator pieces _ h (by simp)]
    simp [join]

theorem join_eq_nil :
    join separator pieces = [] ↔ pieces = [] ∨ pieces = [[]] := by
  match pieces with
  | [] => simp [join]
  | [piece] => simp [join]
  | first :: second :: rest =>
    rw [join_cons_cons]
    simp

variable [DecidableEq α]

def split (separator : α) (text : List α) : List (List α) :=
  if text = [] then [] else text.splitOn separator

theorem not_mem_of_mem_splitOn :
    ∀ piece ∈ text.splitOn separator, separator ∉ piece := by
  induction text with
  | nil => simp [List.splitOn_nil]
  | cons a text ih =>
    rw [List.splitOn_cons_eq_if_modifyHead]
    split
    · simpa using ih
    next ha =>
      obtain ⟨first, rest, hsplit⟩ := List.exists_cons_of_ne_nil (List.splitOn_ne_nil separator text)
      rw [hsplit, List.forall_mem_cons] at ih
      rw [hsplit, List.modifyHead_cons, List.forall_mem_cons]
      refine ⟨?_, ih.2⟩
      rw [List.mem_cons, not_or]
      exact ⟨fun h => ha (by simp [h]), ih.1⟩

theorem not_mem_of_mem_split :
    ∀ piece ∈ split separator text, separator ∉ piece := by
  unfold split
  split
  · simp
  · exact not_mem_of_mem_splitOn separator text

theorem join_split : join separator (split separator text) = text := by
  unfold join split
  split
  next h => simp [h]
  next h => exact List.intercalate_splitOn separator

/-- Pieces without the separator are told apart by what is written. -/
theorem join_injective (hfirst : first ≠ [])
    (hsecond : second ≠ []) (hfree : ∀ piece ∈ first, separator ∉ piece)
    (hfree' : ∀ piece ∈ second, separator ∉ piece)
    (h : join separator first = join separator second) : first = second := by
  unfold join at h
  rw [← List.splitOn_intercalate separator hfree hfirst, h,
    List.splitOn_intercalate separator hfree' hsecond]

/-- The piece before the first separator. -/
theorem takeWhile_piece (rest : List α) (h : separator ∉ piece) :
    (piece ++ separator :: rest).takeWhile (· ≠ separator) = piece := by
  rw [List.takeWhile_append_of_pos]
  · simp
  · intro item hitem
    rw [decide_eq_true_eq]
    rintro rfl
    exact h hitem

theorem piece_unique {piece' rest rest' : List α} (h : separator ∉ piece)
    (h' : separator ∉ piece') (hsame : piece ++ separator :: rest = piece' ++ separator :: rest') :
    piece = piece' ∧ rest = rest' := by
  have hpiece : piece = piece' := by
    rw [← takeWhile_piece separator rest h, hsame, takeWhile_piece separator rest' h']
  subst hpiece
  exact ⟨rfl, (List.cons.inj (List.append_cancel_left hsame)).2⟩

/-- The pieces come back just when none holds the separator and they are not one empty piece. -/
theorem split_join_iff :
    split separator (join separator pieces) = pieces ↔
      pieces ≠ [[]] ∧ ∀ piece ∈ pieces, separator ∉ piece := by
  constructor
  · intro h
    refine ⟨?_, ?_⟩
    · rintro rfl
      simp [join, split] at h
    · rw [← h]
      exact not_mem_of_mem_split separator _
  · rintro ⟨hne, hfree⟩
    unfold split
    split
    next h =>
      rcases (join_eq_nil separator pieces).mp h with rfl | rfl
      · rfl
      · exact absurd rfl hne
    next h =>
      have hsome : pieces ≠ [] := by
        rintro rfl
        simp [join] at h
      exact List.splitOn_intercalate separator hfree hsome

theorem split_ne_single_nil : split separator text ≠ [[]] := by
  intro h
  have hjoin := join_split separator text
  rw [h] at hjoin
  have htext : text = [] := by simpa [join] using hjoin.symm
  simp [split, htext] at h

/-- The first piece is what stands before the first separator. -/
theorem splitOn_eq_cons :
    ∃ rest, text.splitOn separator = text.takeWhile (· ≠ separator) :: rest := by
  induction text with
  | nil => exact ⟨[], by simp [List.splitOn_nil]⟩
  | cons item text ih =>
    obtain ⟨rest, hrest⟩ := ih
    rw [List.splitOn_cons_eq_if_modifyHead, hrest]
    by_cases hitem : item = separator
    · simp [hitem]
    · simp [hitem]

/-- A key without the separator stands in front of a text just when it does of the first piece. -/
theorem prefix_takeWhile_iff (key text : List α) (hkey : separator ∉ key) :
    key <+: text.takeWhile (· ≠ separator) ↔ key <+: text := by
  constructor
  · intro h
    exact h.trans (List.takeWhile_prefix _)
  · rintro ⟨rest, rfl⟩
    rw [List.takeWhile_append_of_pos]
    · exact List.prefix_append _ _
    · intro item hitem
      rw [decide_eq_true_eq]
      rintro rfl
      exact hkey hitem

/-! ## Reading every piece -/

variable {β γ : Type}

theorem mapM_written (write : β → γ) (read : γ → Option β) (items : List β)
    (h : ∀ item ∈ items, read (write item) = some item) : (items.map write).mapM read = some items := by
  induction items with
  | nil => rfl
  | cons item items ih =>
    obtain ⟨hitem, hitems⟩ := List.forall_mem_cons.mp h
    simp [List.mapM_cons, hitem, ih hitems]

/-- Everything that was read comes from one of the pieces. -/
theorem mem_of_mapM (read : γ → Option β) (pieces : List γ) (items : List β)
    (h : pieces.mapM read = some items) : ∀ item ∈ items, ∃ piece ∈ pieces, read piece = some item := by
  induction pieces generalizing items with
  | nil =>
    simp only [List.mapM_nil, Option.pure_def, Option.some.injEq] at h
    simp [← h]
  | cons piece pieces ih =>
    simp only [List.mapM_cons, Option.bind_eq_bind, Option.pure_def, Option.bind_eq_some_iff,
      Option.some.injEq] at h
    obtain ⟨first, hfirst, rest, hrest, rfl⟩ := h
    rw [List.forall_mem_cons]
    refine ⟨⟨piece, List.mem_cons_self, hfirst⟩, fun item hitem => ?_⟩
    obtain ⟨source, hsource, hread⟩ := ih rest hrest item hitem
    exact ⟨source, List.mem_cons_of_mem _ hsource, hread⟩

end Dasall.Lib.Separated
