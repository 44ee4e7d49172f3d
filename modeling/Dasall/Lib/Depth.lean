import Mathlib.Data.List.Chain

/-!
# The longest path by a memo

The depth of a node is one more than that of its deepest successor. Every depth is computed once and
looked up later. Where paths have a bounded length the recursion ends with the longest of them.
-/

namespace Dasall.Lib.Depth

variable {α : Type} [DecidableEq α]

abbrev Memo (α : Type) := α → Option Nat

/-- The depth of a node, with fuel for the levels of the recursion. -/
def depthFrom (successors : α → List α) : Nat → α → Memo α → Option (Nat × Memo α)
  | 0, _, _ => none
  | fuel + 1, node, memo =>
    match memo node with
    | some depth => some (depth, memo)
    | none =>
      ((successors node).foldlM (fun (state : Nat × Memo α) next =>
        (depthFrom successors fuel next state.2).map fun (depth, memo) =>
          (max state.1 (1 + depth), memo)) (1, memo)).map fun (depth, memo) =>
        (depth, Function.update memo node (some depth))

/-- The deepest of several nodes. The memo is shared. -/
def deepest (successors : α → List α) (fuel : Nat) : List α → Nat → Memo α → Option Nat
  | [], depth, _ => some depth
  | node :: nodes, depth, memo =>
    (depthFrom successors fuel node memo).bind fun (found, memo) =>
      deepest successors fuel nodes (max depth found) memo

/-! ## Paths -/

/-- A path that begins at a node. -/
def PathFrom (successors : α → List α) (node : α) (path : List α) : Prop :=
  path.head? = some node ∧ path.IsChain fun source target => target ∈ successors source

/-- How many nodes the longest path from a node has. -/
structure Longest (successors : α → List α) (node : α) (depth : Nat) : Prop where
  reached : ∃ path, PathFrom successors node path ∧ path.length = depth
  bound : ∀ path, PathFrom successors node path → path.length ≤ depth

def Sound (successors : α → List α) (memo : Memo α) : Prop :=
  ∀ node depth, memo node = some depth → Longest successors node depth

variable {successors : α → List α}

omit [DecidableEq α] in
theorem pathFrom_cons {node next : α} {path : List α} (hnext : next ∈ successors node)
    (h : PathFrom successors next path) : PathFrom successors node (node :: path) := by
  refine ⟨rfl, h.2.cons ?_⟩
  rintro first hfirst
  rw [h.1] at hfirst
  obtain rfl := Option.some.inj hfirst
  exact hnext

omit [DecidableEq α] in
/-- A path is its first node alone, or goes on from a successor. -/
theorem pathFrom_cases {node : α} {path : List α} (h : PathFrom successors node path) :
    path = [node] ∨ ∃ next ∈ successors node, ∃ rest, path = node :: rest ∧
      PathFrom successors next rest := by
  obtain ⟨hhead, hchain⟩ := h
  match path with
  | [first] =>
    obtain rfl := Option.some.inj hhead
    exact .inl rfl
  | first :: second :: rest =>
    obtain rfl := Option.some.inj hhead
    rw [List.isChain_cons_cons] at hchain
    exact .inr ⟨second, hchain.1, second :: rest, rfl, rfl, hchain.2⟩

/-! ## The recursion -/

/-- While the successors of a node are gone through: a path as long as the depth so far is there,
and none through a successor that has been seen is longer. -/
structure Deepened (successors : α → List α) (node : α) (seen : List α) (depth : Nat) : Prop where
  reached : ∃ path, PathFrom successors node path ∧ path.length = depth
  bound : ∀ next ∈ seen, ∀ path, PathFrom successors next path → path.length + 1 ≤ depth

omit [DecidableEq α] in
theorem foldlM_deepened {step : α → Memo α → Option (Nat × Memo α)} {node : α} (seen nexts : List α)
    (hstep : ∀ next ∈ nexts, ∀ memo, Sound successors memo →
      ∃ depth memo', step next memo = some (depth, memo') ∧ Longest successors next depth ∧
        Sound successors memo')
    (hnexts : ∀ next ∈ nexts, next ∈ successors node) (depth : Nat) (memo : Memo α)
    (hdepth : Deepened successors node seen depth) (hmemo : Sound successors memo) :
    ∃ depth' memo', nexts.foldlM (fun (state : Nat × Memo α) next =>
        (step next state.2).map fun (depth, memo) => (max state.1 (1 + depth), memo)) (depth, memo) =
          some (depth', memo') ∧
      Deepened successors node (seen ++ nexts) depth' ∧ Sound successors memo' := by
  induction nexts generalizing seen depth memo with
  | nil => exact ⟨depth, memo, rfl, by simpa using hdepth, hmemo⟩
  | cons next nexts ih =>
    rw [List.forall_mem_cons] at hstep hnexts
    obtain ⟨found, memo', hfound, hlongest, hmemo'⟩ := hstep.1 memo hmemo
    have hnext : Deepened successors node (seen ++ [next]) (max depth (1 + found)) := by
      constructor
      · by_cases hdeeper : 1 + found ≤ depth
        · rw [Nat.max_eq_left hdeeper]
          exact hdepth.reached
        · obtain ⟨path, hpath, hlength⟩ := hlongest.reached
          refine ⟨node :: path, pathFrom_cons hnexts.1 hpath, ?_⟩
          rw [Nat.max_eq_right (by omega), List.length_cons]
          omega
      · intro other hother path hpath
        rcases List.mem_append.mp hother with hold | hnew
        · have := hdepth.bound other hold path hpath
          omega
        · rw [List.mem_singleton] at hnew
          subst hnew
          have := hlongest.bound path hpath
          omega
    obtain ⟨depth', memo'', hfold, hdeep, hsound⟩ :=
      ih (seen ++ [next]) hstep.2 hnexts.2 _ memo' hnext hmemo'
    refine ⟨depth', memo'', ?_, by simpa using hdeep, hsound⟩
    rw [List.foldlM_cons, hfound]
    exact hfold

/-- The recursion ends when it has fuel for every path, and finds the longest. -/
theorem depthFrom_spec (fuel : Nat) (node : α) (memo : Memo α)
    (hbound : ∀ path, PathFrom successors node path → path.length ≤ fuel)
    (hmemo : Sound successors memo) :
    ∃ depth memo', depthFrom successors fuel node memo = some (depth, memo') ∧
      Longest successors node depth ∧ Sound successors memo' := by
  induction fuel generalizing node memo with
  | zero =>
    have := hbound [node] ⟨rfl, List.isChain_singleton node⟩
    simp at this
  | succ fuel ih =>
    unfold depthFrom
    cases hknown : memo node with
    | some depth => exact ⟨depth, memo, rfl, hmemo node depth hknown, hmemo⟩
    | none =>
      have hstep : ∀ next ∈ successors node, ∀ memo, Sound successors memo →
          ∃ depth memo', depthFrom successors fuel next memo = some (depth, memo') ∧
            Longest successors next depth ∧ Sound successors memo' := by
        intro next hnext memo hmemo
        apply ih next memo _ hmemo
        intro path hpath
        have := hbound (node :: path) (pathFrom_cons hnext hpath)
        rw [List.length_cons] at this
        omega
      have hstart : Deepened successors node [] 1 :=
        ⟨⟨[node], ⟨rfl, List.isChain_singleton node⟩, rfl⟩, by simp⟩
      obtain ⟨depth, memo', hfold, hdeep, hsound⟩ :=
        foldlM_deepened [] (successors node) hstep (fun _ hnext => hnext) 1 memo hstart hmemo
      have hlongest : Longest successors node depth := by
        refine ⟨hdeep.reached, ?_⟩
        intro path hpath
        rcases pathFrom_cases hpath with rfl | ⟨next, hnext, rest, rfl, hrest⟩
        · obtain ⟨longest, ⟨hhead, -⟩, rfl⟩ := hdeep.reached
          have hne : longest ≠ [] := by
            rintro rfl
            simp at hhead
          exact List.length_pos_iff.mpr hne
        · have := hdeep.bound next (by simpa using hnext) rest hrest
          simpa using this
      refine ⟨depth, Function.update memo' node (some depth), by simp [hfold], hlongest, ?_⟩
      intro other found hfound
      by_cases hother : other = node
      · subst hother
        rw [Function.update_self, Option.some.injEq] at hfound
        exact hfound ▸ hlongest
      · rw [Function.update_of_ne hother] at hfound
        exact hsound other found hfound

/-- What is found is no more than a bound exactly when no path is longer. -/
theorem deepest_spec (fuel : Nat) (nodes : List α)
    (hbound : ∀ node ∈ nodes, ∀ path, PathFrom successors node path → path.length ≤ fuel)
    (depth : Nat) (memo : Memo α) (hmemo : Sound successors memo) :
    ∃ found, deepest successors fuel nodes depth memo = some found ∧
      ∀ cap, found ≤ cap ↔ depth ≤ cap ∧ ∀ node ∈ nodes, ∀ path,
        PathFrom successors node path → path.length ≤ cap := by
  induction nodes generalizing depth memo with
  | nil => exact ⟨depth, rfl, by simp⟩
  | cons node nodes ih =>
    rw [List.forall_mem_cons] at hbound
    obtain ⟨first, memo', hfirst, hlongest, hmemo'⟩ := depthFrom_spec fuel node memo hbound.1 hmemo
    obtain ⟨found, hfound, hcap⟩ := ih hbound.2 (max depth first) memo' hmemo'
    refine ⟨found, by simp [deepest, hfirst, hfound], ?_⟩
    intro cap
    have hnode : first ≤ cap ↔ ∀ path, PathFrom successors node path → path.length ≤ cap := by
      constructor
      · intro hle path hpath
        exact (hlongest.bound path hpath).trans hle
      · intro hall
        obtain ⟨path, hpath, hlength⟩ := hlongest.reached
        exact hlength ▸ hall path hpath
    rw [hcap, Nat.max_le, List.forall_mem_cons, hnode, and_assoc]

end Dasall.Lib.Depth
