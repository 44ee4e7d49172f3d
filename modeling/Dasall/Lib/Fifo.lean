import Dasall.Lib.Run
import Mathlib.Data.List.Perm.Basic

/-!
# Lines

Items join a line at its end and leave it at its front, each with a fate. The two lists, of those
that were accepted and of those that left, account for the queue between them.
-/

namespace Dasall.Lib.Line

variable {α φ : Type}

/-- Those that left, and then those that wait, are those that were accepted. -/
def Sound (accepted : List α) (left : List (α × φ)) (queue : List α) : Prop :=
  accepted = left.map Prod.fst ++ queue

/-- The items that left with a fate, in the order they left. -/
def fated [DecidableEq φ] (fate : φ) (left : List (α × φ)) : List α :=
  (left.filter fun item => item.2 = fate).map Prod.fst

variable {accepted : List α} {left : List (α × φ)}

theorem Sound.join {queue : List α} (h : Sound accepted left queue) (item : α) :
    Sound (accepted ++ [item]) left (queue ++ [item]) := by
  unfold Sound at h ⊢
  rw [h, List.append_assoc]

theorem Sound.leave {out queue : List α} (h : Sound accepted left (out ++ queue)) (fate : φ) :
    Sound accepted (left ++ out.map fun item => (item, fate)) queue := by
  unfold Sound at h ⊢
  rw [h, List.map_append, List.map_map, List.append_assoc]
  congr 1
  exact congrArg (· ++ queue) (List.map_id out).symm

section
variable [DecidableEq φ]

theorem fated_append (fate : φ) (first second : List (α × φ)) :
    fated fate (first ++ second) = fated fate first ++ fated fate second := by
  simp [fated]

theorem fated_same (fate : φ) (out : List α) :
    fated fate (out.map fun item => (item, fate)) = out := by
  unfold fated
  rw [List.filter_eq_self.mpr (by simp), List.map_map]
  exact List.map_id out

theorem fated_other {fate other : φ} (hne : other ≠ fate) (out : List α) :
    fated fate (out.map fun item => (item, other)) = [] := by
  unfold fated
  rw [List.filter_eq_nil_iff.mpr (by simp [hne])]
  rfl

theorem fated_leave_other {fate other : φ} (hne : other ≠ fate) (left : List (α × φ)) (out : List α) :
    fated fate (left ++ out.map fun item => (item, other)) = fated fate left := by
  rw [fated_append, fated_other hne, List.append_nil]

/-- A machine counter of the items with a fate, when more of them leave. -/
theorem count_leave {counter : UInt64} {fate : φ}
    (h : counter = UInt64.ofNat (fated fate left).length) (out : List α) :
    counter + UInt64.ofNat out.length =
      UInt64.ofNat (fated fate (left ++ out.map fun item => (item, fate))).length := by
  rw [h, fated_append, fated_same, List.length_append, UInt64.ofNat_add]

theorem count_leave_other {counter : UInt64} {fate other : φ} (hne : other ≠ fate)
    (h : counter = UInt64.ofNat (fated fate left).length) (out : List α) :
    counter = UInt64.ofNat (fated fate (left ++ out.map fun item => (item, other))).length := by
  rw [fated_leave_other hne]
  exact h

theorem fated_sublist {queue : List α} (h : Sound accepted left queue) (fate : φ) :
    (fated fate left).Sublist accepted := by
  unfold Sound at h
  rw [h]
  exact (List.filter_sublist.map _).trans (List.sublist_append_left _ _)

theorem fated_cons (fate : φ) (item : α × φ) (left : List (α × φ)) :
    (fated fate (item :: left)).length =
      (if item.2 = fate then 1 else 0) + (fated fate left).length := by
  unfold fated
  split
  · next hsame => simp [hsame, Nat.add_comm]
  · next hother => simp [hother]

end

end Dasall.Lib.Line

/-!
## Queues that lose and duplicate nothing

Items wait in one queue for each class. An item leaves its queue in turn, out of turn, or
because it is dropped. The book says what became of every item that was accepted.
-/

namespace Dasall.Lib.Fifo

variable {κ α : Type} [DecidableEq κ]

structure Book (κ α : Type) where
  queue : κ → List α
  accepted : List α
  taken : List α
  inTurn : List α
  dropped : List α

/-- The items of one class, in the order of the list. -/
def ofClass (cls : α → κ) (c : κ) (items : List α) : List α := items.filter fun a => cls a = c

inductive Move (cls : α → κ) : Book κ α → Book κ α → Prop
  | accept (b : Book κ α) (a : α) :
    Move cls b { b with
      queue := Function.update b.queue (cls a) (b.queue (cls a) ++ [a])
      accepted := b.accepted ++ [a] }
  | drop (b : Book κ α) (c : κ) (oldest : α) (rest : List α) (h : b.queue c = oldest :: rest) :
    Move cls b { b with
      queue := Function.update b.queue c rest
      dropped := b.dropped ++ [oldest] }
  | turn (b : Book κ α) (c : κ) (a : α) (rest : List α) (h : b.queue c = a :: rest) :
    Move cls b { b with
      queue := Function.update b.queue c rest
      taken := b.taken ++ [a]
      inTurn := b.inTurn ++ [a] }
  | take (b : Book κ α) (c : κ) (front : List α) (a : α) (back : List α)
      (h : b.queue c = front ++ a :: back) :
    Move cls b { b with
      queue := Function.update b.queue c (front ++ back)
      taken := b.taken ++ [a] }

/-- Of one class, what is queued, taken and dropped is what was accepted, and what was taken
in turn came out, and what is queued will come out, in the order of acceptance. -/
structure SoundFor (cls : α → κ) (b : Book κ α) (c : κ) : Prop where
  classes : ∀ a ∈ b.queue c, cls a = c
  conserved : (b.queue c ++ ofClass cls c b.taken ++ ofClass cls c b.dropped).Perm
    (ofClass cls c b.accepted)
  order : (ofClass cls c b.inTurn ++ b.queue c).Sublist (ofClass cls c b.accepted)

def Sound (cls : α → κ) (b : Book κ α) : Prop := ∀ c, SoundFor cls b c

section
variable (cls : α → κ)

variable (b : Book κ α) (c : κ) (items front : List α) (b' : Book κ α) (a : α) (back : List α)

theorem ofClass_snoc_same (h : cls a = c) :
    ofClass cls c (items ++ [a]) = ofClass cls c items ++ [a] := by
  simp [ofClass, h]

theorem ofClass_snoc_other (h : cls a ≠ c) :
    ofClass cls c (items ++ [a]) = ofClass cls c items := by
  simp [ofClass, h]

theorem mem_ofClass :
    a ∈ ofClass cls c items ↔ a ∈ items ∧ cls a = c := by
  simp [ofClass]

/-! ## Rearrangements -/

theorem accept_perm (queue taken dropped : List α) (a : α) :
    (queue ++ [a] ++ taken ++ dropped).Perm (queue ++ taken ++ dropped ++ [a]) := by
  classical
  rw [List.perm_iff_count]
  intro x
  simp only [List.count_append]
  omega

theorem take_perm (taken dropped : List α) (a : α) :
    (front ++ back ++ (taken ++ [a]) ++ dropped).Perm
      (front ++ a :: back ++ taken ++ dropped) := by
  classical
  rw [List.perm_iff_count]
  intro x
  simp only [List.count_append, List.count_cons, List.count_nil]
  omega

theorem drop_perm (rest taken dropped : List α) (a : α) :
    (rest ++ taken ++ (dropped ++ [a])).Perm (a :: rest ++ taken ++ dropped) := by
  classical
  rw [List.perm_iff_count]
  intro x
  simp only [List.count_append, List.count_cons, List.count_nil]
  omega

/-! ## Moves keep the book sound -/

theorem accept_sound (h : Sound cls b) :
    Sound cls { b with
      queue := Function.update b.queue (cls a) (b.queue (cls a) ++ [a])
      accepted := b.accepted ++ [a] } := by
  intro c
  obtain ⟨hclasses, hconserved, horder⟩ := h c
  by_cases hc : cls a = c
  · subst hc
    constructor <;> simp only [Function.update_self, ofClass_snoc_same]
    · intro x hx
      rcases List.mem_append.mp hx with hx | hx
      · exact hclasses x hx
      · rw [List.mem_singleton.mp hx]
    · exact (accept_perm _ _ _ a).trans (hconserved.append_right [a])
    · rw [← List.append_assoc]
      exact horder.append_right [a]
  · constructor <;> simp only [Function.update_of_ne (Ne.symm hc), ofClass_snoc_other cls c _ a hc]
    · exact hclasses
    · exact hconserved
    · exact horder

theorem drop_sound (oldest : α) (rest : List α)
    (hqueue : b.queue c = oldest :: rest) (h : Sound cls b) :
    Sound cls { b with
      queue := Function.update b.queue c rest
      dropped := b.dropped ++ [oldest] } := by
  have hclass : cls oldest = c := (h c).classes oldest (by simp [hqueue])
  intro d
  obtain ⟨hclasses, hconserved, horder⟩ := h d
  by_cases hd : d = c
  · subst hd
    rw [hqueue] at hclasses hconserved horder
    constructor <;> simp only [Function.update_self, ofClass_snoc_same cls d _ oldest hclass]
    · exact fun x hx => hclasses x (List.mem_cons_of_mem _ hx)
    · exact (drop_perm _ _ _ oldest).trans hconserved
    · exact ((List.sublist_cons_self oldest rest).append_left _).trans horder
  · have hother : cls oldest ≠ d := fun h => hd (h.symm.trans hclass)
    constructor <;> simp only [Function.update_of_ne hd, ofClass_snoc_other cls d _ oldest hother]
    · exact hclasses
    · exact hconserved
    · exact horder

theorem take_sound (hqueue : b.queue c = front ++ a :: back) (h : Sound cls b) :
    Sound cls { b with
      queue := Function.update b.queue c (front ++ back)
      taken := b.taken ++ [a] } := by
  have hclass : cls a = c := (h c).classes a (by simp [hqueue])
  have hback : (front ++ back).Sublist (front ++ a :: back) :=
    (List.sublist_cons_self a back).append_left front
  intro d
  obtain ⟨hclasses, hconserved, horder⟩ := h d
  by_cases hd : d = c
  · subst hd
    rw [hqueue] at hclasses hconserved horder
    constructor <;> simp only [Function.update_self, ofClass_snoc_same cls d _ a hclass]
    · exact fun x hx => hclasses x (hback.subset hx)
    · exact (take_perm _ _ _ _ a).trans hconserved
    · exact (hback.append_left _).trans horder
  · have hother : cls a ≠ d := fun h => hd (h.symm.trans hclass)
    constructor <;> simp only [Function.update_of_ne hd, ofClass_snoc_other cls d _ a hother]
    · exact hclasses
    · exact hconserved
    · exact horder

/-- An item that leaves in turn also joins those that did. -/
theorem turn_sound (rest : List α)
    (hqueue : b.queue c = a :: rest) (h : Sound cls b) :
    Sound cls { b with
      queue := Function.update b.queue c rest
      taken := b.taken ++ [a]
      inTurn := b.inTurn ++ [a] } := by
  have hclass : cls a = c := (h c).classes a (by simp [hqueue])
  have htaken := take_sound cls b c [] a rest hqueue h
  intro d
  refine ⟨(htaken d).classes, (htaken d).conserved, ?_⟩
  have horder := (h d).order
  by_cases hd : d = c
  · subst hd
    simp only [Function.update_self, ofClass_snoc_same cls d _ a hclass, List.append_assoc]
    rw [hqueue] at horder
    exact horder
  · have hother : cls a ≠ d := fun h => hd (h.symm.trans hclass)
    simp only [Function.update_of_ne hd, ofClass_snoc_other cls d _ a hother]
    exact horder

theorem move_sound (hmove : Move cls b b') (h : Sound cls b) : Sound cls b' := by
  cases hmove with
  | accept a => exact accept_sound cls b a h
  | drop c oldest rest hqueue => exact drop_sound cls b c oldest rest hqueue h
  | turn c a rest hqueue => exact turn_sound cls b c a rest hqueue h
  | take c front a back hqueue => exact take_sound cls b c front a back hqueue h

theorem moves_sound (hmoves : Relation.ReflTransGen (Move cls) b b')
    (h : Sound cls b) : Sound cls b' := by
  induction hmoves with
  | refl => exact h
  | tail _ hmove ih => exact move_sound cls _ _ hmove ih

/-- Whatever was taken was accepted. -/
theorem taken_accepted (h : Sound cls b) : b.taken ⊆ b.accepted := by
  intro a ha
  have hmem : a ∈ ofClass cls (cls a) b.taken := (mem_ofClass cls ..).mpr ⟨ha, rfl⟩
  have hall := (h (cls a)).conserved.subset (List.mem_append_left _ (List.mem_append_right _ hmem))
  exact ((mem_ofClass cls ..).mp hall).1

end

end Dasall.Lib.Fifo
