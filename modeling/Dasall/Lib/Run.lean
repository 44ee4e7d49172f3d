import Mathlib.Data.List.Induction

/-! # Traces, which grow at their end -/

namespace Dasall.Lib.Trace

variable {α : Type}

/-- Each element meets the condition with those before it. -/
def EachAfter (condition : List α → α → Prop) (trace : List α) : Prop :=
  ∀ before a after, trace = before ++ a :: after → condition before a

/-- Each element meets the condition with those after it. -/
def EachBefore (condition : α → List α → Prop) (trace : List α) : Prop :=
  ∀ before a after, trace = before ++ a :: after → condition a after

theorem eachAfter_nil (condition : List α → α → Prop) : EachAfter condition [] :=
  fun _ _ _ h => absurd h.symm (List.append_ne_nil_of_right_ne_nil _ (List.cons_ne_nil _ _))

theorem eachBefore_nil (condition : α → List α → Prop) : EachBefore condition [] :=
  fun _ _ _ h => absurd h.symm (List.append_ne_nil_of_right_ne_nil _ (List.cons_ne_nil _ _))

/-- An element of a longer trace is the last, or one of the trace before. -/
theorem snoc_split {trace before after : List α} {last a : α}
    (h : trace ++ [last] = before ++ a :: after) :
    (before = trace ∧ a = last ∧ after = []) ∨
      ∃ rest, after = rest ++ [last] ∧ trace = before ++ a :: rest := by
  induction after using List.reverseRecOn with
  | nil =>
    obtain ⟨rfl, hsame⟩ := List.append_inj' h rfl
    exact Or.inl ⟨rfl, (List.cons.inj hsame).1.symm, rfl⟩
  | append_singleton rest other _ =>
    rw [← List.cons_append, ← List.append_assoc] at h
    obtain ⟨rfl, hsame⟩ := List.append_inj' h rfl
    exact Or.inr ⟨rest, by rw [(List.cons.inj hsame).1], rfl⟩

theorem eachAfter_snoc (condition : List α → α → Prop) (trace : List α) (last : α) :
    EachAfter condition (trace ++ [last]) ↔ EachAfter condition trace ∧ condition trace last := by
  constructor
  · intro h
    refine ⟨fun before a after hsplit => ?_, h trace last [] rfl⟩
    exact h before a (after ++ [last]) (by simp [hsplit])
  · rintro ⟨hbefore, hlast⟩ before a after hsplit
    rcases snoc_split hsplit with ⟨rfl, rfl, -⟩ | ⟨rest, -, hrest⟩
    · exact hlast
    · exact hbefore before a rest hrest

theorem eachBefore_snoc (condition : α → List α → Prop) (trace : List α) (last : α) :
    EachBefore condition (trace ++ [last]) ↔
      EachBefore (fun a after => condition a (after ++ [last])) trace ∧ condition last [] := by
  constructor
  · intro h
    refine ⟨fun before a after hsplit => ?_, h trace last [] rfl⟩
    exact h before a (after ++ [last]) (by simp [hsplit])
  · rintro ⟨hbefore, hlast⟩ before a after hsplit
    rcases snoc_split hsplit with ⟨rfl, rfl, rfl⟩ | ⟨rest, rfl, hrest⟩
    · exact hlast
    · exact hbefore before a rest hrest

end Dasall.Lib.Trace

/-!
## Runs of a state machine

`run` feeds a list of inputs to a machine that answers each of them. The induction over
the inputs is done once here, for an invariant and for a simulation of two machines.
-/

namespace Dasall.Lib.Run

variable {σ τ ι ο : Type}

def run (step : σ → ι → σ × ο) (s : σ) : List ι → σ × List ο
  | [] => (s, [])
  | i :: is => ((run step (step s i).1 is).1, (step s i).2 :: (run step (step s i).1 is).2)

/-- The condition holds of each input in the state it meets. -/
def AllSteps (step : σ → ι → σ × ο) (condition : σ → ι → Prop) (s : σ) : List ι → Prop
  | [] => True
  | i :: is => condition s i ∧ AllSteps step condition (step s i).1 is

instance instDecidableAllSteps (step : σ → ι → σ × ο) (condition : σ → ι → Prop) [∀ s i, Decidable (condition s i)] :
    (s : σ) → (is : List ι) → Decidable (AllSteps step condition s is)
  | _, [] => isTrue trivial
  | s, i :: is =>
    have := instDecidableAllSteps step condition (step s i).1 is
    inferInstanceAs (Decidable (condition s i ∧ AllSteps step condition (step s i).1 is))

section
variable (step : σ → ι → σ × ο)

variable (condition : σ → ι → Prop) (invariant : σ → Prop) (first second : σ → ι → Prop) (s : σ)
  (i : ι) (is : List ι)

@[simp] theorem run_nil : run step s [] = (s, []) := rfl

theorem run_cons :
    run step s (i :: is) =
      ((run step (step s i).1 is).1, (step s i).2 :: (run step (step s i).1 is).2) := rfl

theorem run_append (xs ys : List ι) :
    run step s (xs ++ ys) =
      ((run step (run step s xs).1 ys).1,
        (run step s xs).2 ++ (run step (run step s xs).1 ys).2) := by
  induction xs generalizing s with
  | nil => rfl
  | cons x xs ih =>
    rw [List.cons_append, run_cons, run_cons, ih]
    rfl

theorem run_snoc (i : ι) :
    (run step s (is ++ [i])).1 = (step (run step s is).1 i).1 := by
  rw [run_append]
  rfl

theorem outputs_length : (run step s is).2.length = is.length := by
  induction is generalizing s with
  | nil => rfl
  | cons i is ih => rw [run_cons, List.length_cons, List.length_cons, ih]

/-- The answer to the input after a prefix of the run. -/
theorem answer_at (before : List ι) (i : ι) (after : List ι) :
    (run step s (before ++ i :: after)).2[before.length]? =
      some (step (run step s before).1 i).2 := by
  have hlength := outputs_length step s before
  simp only [run_append, run_cons]
  rw [List.getElem?_append_right (Nat.le_of_eq hlength), hlength, Nat.sub_self,
    List.getElem?_cons_zero]

theorem answer_last (i : ι) :
    (run step s (is ++ [i])).2.getLast? = some (step (run step s is).1 i).2 := by
  simp only [run_append, run_cons, run_nil, List.getLast?_append, List.getLast?_singleton,
    Option.some_or]

theorem allSteps_append (xs ys : List ι) :
    AllSteps step condition s (xs ++ ys) ↔
      AllSteps step condition s xs ∧ AllSteps step condition (run step s xs).1 ys := by
  induction xs generalizing s with
  | nil => simp [AllSteps]
  | cons x xs ih =>
    rw [List.cons_append, run_cons]
    simp only [AllSteps, ih, and_assoc]

/-- The condition of every step, with the run up to it. -/
theorem allSteps_iff_split :
    AllSteps step condition s is ↔
      ∀ before i after, is = before ++ i :: after → condition (run step s before).1 i := by
  constructor
  · rintro h before i after rfl
    exact ((allSteps_append step condition s before (i :: after)).mp h).2.1
  · intro h
    induction is generalizing s with
    | nil => trivial
    | cons i is ih =>
      refine ⟨h [] i is rfl, ih _ fun before j after hsplit => ?_⟩
      exact h (i :: before) j after (by rw [hsplit, List.cons_append])

theorem allSteps_of_forall (condition : ι → Prop) (s : σ) (is : List ι)
    (h : ∀ i ∈ is, condition i) : AllSteps step (fun _ i => condition i) s is := by
  induction is generalizing s with
  | nil => trivial
  | cons i is ih =>
    exact ⟨h i List.mem_cons_self, ih _ fun j hj => h j (List.mem_cons_of_mem _ hj)⟩

theorem allSteps_and :
    AllSteps step (fun s i => first s i ∧ second s i) s is ↔
      AllSteps step first s is ∧ AllSteps step second s is := by
  induction is generalizing s with
  | nil => simp [AllSteps]
  | cons i is ih =>
    simp only [AllSteps, ih]
    exact and_and_and_comm

theorem allSteps_true : AllSteps step (fun _ _ => True) s is :=
  allSteps_of_forall step (fun _ => True) s is fun _ _ => trivial

/-- A property holds after every prefix of the run when it holds at first and after each step. -/
theorem forall_take_iff (property : σ → Prop) (s : σ) (is : List ι) :
    (∀ k, property (run step s (is.take k)).1) ↔
      property s ∧ AllSteps step (fun s i => property (step s i).1) s is := by
  induction is generalizing s with
  | nil => simp [AllSteps]
  | cons i is ih =>
    constructor
    · intro h
      exact ⟨h 0, h 1, ((ih (step s i).1).mp fun k => h (k + 1)).2⟩
    · rintro ⟨hs, hi, his⟩ k
      cases k with
      | zero => exact hs
      | succ k => exact (ih (step s i).1).mpr ⟨hi, his⟩ k

/-- Two conditions that mean the same wherever the invariant holds, which the first keeps, hold
of the same runs. -/
theorem allSteps_iff (input : ι → Prop)
    (hiff : ∀ s i, invariant s → input i → (first s i ↔ second s i))
    (hkeep : ∀ s i, invariant s → first s i → invariant (step s i).1) (s : σ) (is : List ι)
    (hs : invariant s) (hinput : ∀ i ∈ is, input i) :
    AllSteps step first s is ↔ AllSteps step second s is := by
  induction is generalizing s with
  | nil => exact Iff.rfl
  | cons i is ih =>
    have hi := hiff s i hs (hinput i List.mem_cons_self)
    have his := fun j hj => hinput j (List.mem_cons_of_mem _ hj)
    constructor
    · rintro ⟨hfirst, hrest⟩
      exact ⟨hi.mp hfirst, (ih _ (hkeep s i hs hfirst) his).mp hrest⟩
    · rintro ⟨hsecond, hrest⟩
      have hfirst := hi.mpr hsecond
      exact ⟨hfirst, (ih _ (hkeep s i hs hfirst) his).mpr hrest⟩

/-- What every step that meets the condition preserves holds at the end of every run
whose steps meet it. -/
theorem invariant_of_allSteps
    (hstep : ∀ s i, invariant s → condition s i → invariant (step s i).1) (s : σ) (is : List ι)
    (hs : invariant s) (hsteps : AllSteps step condition s is) : invariant (run step s is).1 := by
  induction is generalizing s with
  | nil => exact hs
  | cons i is ih => exact ih _ (hstep s i hs hsteps.1) hsteps.2

/-- Wherever it holds in the run, it goes on to hold up to the first input that ends it. -/
def KeptUntil (holds : σ → Prop) (ends : ι → Prop) (s : σ) (is : List ι) : Prop :=
  ∀ before middle after, is = before ++ middle ++ after → holds (run step s before).1 →
    (∀ i ∈ middle, ¬ ends i) → holds (run step s (before ++ middle)).1

theorem keptUntil_iff (holds : σ → Prop) (ends : ι → Prop) (s : σ) (is : List ι) :
    KeptUntil step holds ends s is ↔
      AllSteps step (fun s i => holds s → ¬ ends i → holds (step s i).1) s is := by
  constructor
  · intro h
    rw [allSteps_iff_split]
    intro before i after hsplit hholds hends
    rw [← run_snoc]
    exact h before [i] after (by simp [hsplit]) hholds (by simpa using hends)
  · rintro h before middle after rfl hholds hends
    rw [allSteps_append, allSteps_append] at h
    rw [run_append]
    refine invariant_of_allSteps step (fun s i => (holds s → ¬ ends i → holds (step s i).1) ∧
      ¬ ends i) holds (fun s i hs hi => hi.1 hs hi.2) _ middle hholds ?_
    exact (allSteps_and step ..).mpr ⟨h.1.2, allSteps_of_forall step _ _ _ hends⟩

theorem invariant_run (hstep : ∀ s i, invariant s → invariant (step s i).1) (s : σ) (is : List ι)
    (hs : invariant s) : invariant (run step s is).1 :=
  invariant_of_allSteps step (fun _ _ => True) invariant (fun s i hs _ => hstep s i hs) s is hs
    (allSteps_true step s is)

/-- An invariant that ties the state to what an observer makes of the answers so far. -/
theorem invariant_observed {ω : Type} (observe : ω → ο → ω) (invariant : σ → ω → Prop)
    (hstep : ∀ s w i, invariant s w → invariant (step s i).1 (observe w (step s i).2)) (s : σ) (w : ω)
    (is : List ι) (h : invariant s w) :
    invariant (run step s is).1 ((run step s is).2.foldl observe w) := by
  induction is generalizing s w with
  | nil => exact h
  | cons i is ih =>
    rw [run_cons, List.foldl_cons]
    exact ih _ _ (hstep s w i h)

/-- An invariant of the state and of the answers so far, where the steps meet a condition. -/
theorem invariant_trace (invariant : σ → List ο → Prop)
    (hstep : ∀ s trace i, invariant s trace → condition s i →
      invariant (step s i).1 (trace ++ [(step s i).2])) (s : σ) (is : List ι) (trace : List ο)
    (hs : invariant s trace) (hsteps : AllSteps step condition s is) :
    invariant (run step s is).1 (trace ++ (run step s is).2) := by
  induction is generalizing s trace with
  | nil =>
    rw [run_nil, List.append_nil]
    exact hs
  | cons i is ih =>
    have hnext := ih _ _ (hstep s trace i hs hsteps.1) hsteps.2
    rw [List.append_assoc] at hnext
    exact hnext

/-- What held before a run and does not hold after it was ended by a step of the run. -/
theorem exists_step_ending (holds : σ → Prop) (s : σ) (is : List ι) (hs : holds s)
    (hend : ¬ holds (run step s is).1) :
    ∃ before i after, is = before ++ i :: after ∧ holds (run step s before).1 ∧
      ¬ holds (step (run step s before).1 i).1 := by
  induction is generalizing s with
  | nil => exact absurd hs hend
  | cons i is ih =>
    by_cases hnext : holds (step s i).1
    · obtain ⟨before, j, after, hsplit, hholds, hends⟩ := ih _ hnext hend
      exact ⟨i :: before, j, after, by rw [hsplit, List.cons_append], hholds, hends⟩
    · exact ⟨[], i, is, rfl, hs, hnext⟩

/-- Where every step from an invariant state answers well, all the answers of a run do. -/
theorem outputs_of_invariant (good : ο → Prop)
    (hstep : ∀ s i, invariant s → invariant (step s i).1 ∧ good (step s i).2) (s : σ) (is : List ι)
    (hs : invariant s) : ∀ o ∈ (run step s is).2, good o := by
  induction is generalizing s with
  | nil =>
    intro o ho
    cases ho
  | cons i is ih =>
    intro o ho
    rw [run_cons, List.mem_cons] at ho
    rcases ho with rfl | ho
    · exact (hstep s i hs).2
    · exact ih _ (hstep s i hs).1 o ho

/-- Where the answers that matter depend on the inputs alone, so does what all of them do. -/
theorem forall_outputs_iff (hstep : ∀ s i, invariant s → invariant (step s i).1)
    (good : ο → Prop) (input : ι → Prop) (hiff : ∀ s i, invariant s → (good (step s i).2 ↔ input i))
    (s : σ) (is : List ι) (hs : invariant s) :
    (∀ o ∈ (run step s is).2, good o) ↔ ∀ i ∈ is, input i := by
  induction is generalizing s with
  | nil => simp
  | cons i is ih =>
    rw [run_cons, List.forall_mem_cons, List.forall_mem_cons, hiff s i hs, ih _ (hstep s i hs)]

theorem pairwise_outputs_iff
    (hstep : ∀ s i, invariant s → invariant (step s i).1) (related : ο → ο → Prop)
    (inputs : ι → ι → Prop)
    (hiff : ∀ s t i j, invariant s → invariant t → (related (step s i).2 (step t j).2 ↔ inputs i j))
    (s : σ) (is : List ι) (hs : invariant s) :
    (run step s is).2.Pairwise related ↔ is.Pairwise inputs := by
  induction is generalizing s with
  | nil => simp
  | cons i is ih =>
    have hnext := hstep s i hs
    rw [run_cons, List.pairwise_cons, List.pairwise_cons, ih _ hnext]
    have hlater := forall_outputs_iff step invariant hstep (related (step s i).2) (inputs i)
      (fun t j ht => hiff s t i j hs ht) _ is hnext
    rw [hlater]

end

/-! ## The inputs that a machine takes up -/

/-- The inputs whose answers say that they were taken up, in order. -/
def acceptedInputs (step : σ → ι → σ × ο) (accepts : ο → Bool) (s : σ) : List ι → List ι
  | [] => []
  | i :: is =>
    if accepts (step s i).2 then i :: acceptedInputs step accepts (step s i).1 is
    else acceptedInputs step accepts (step s i).1 is

section
variable (step : σ → ι → σ × ο) (accepts : ο → Bool)

theorem acceptedInputs_snoc (s : σ) (is : List ι) (i : ι) :
    acceptedInputs step accepts s (is ++ [i]) =
      if accepts (step (run step s is).1 i).2 then acceptedInputs step accepts s is ++ [i]
      else acceptedInputs step accepts s is := by
  induction is generalizing s with
  | nil => rfl
  | cons j is ih =>
    rw [List.cons_append, run_cons]
    simp only [acceptedInputs, ih]
    split <;> split <;> simp_all

/-- Where refused inputs change nothing, a run that left its first state has a last input that
was taken up, and ends in the state which that input led to. -/
theorem last_accepted (hrefused : ∀ s i, accepts (step s i).2 = false → (step s i).1 = s) (s : σ)
    (is : List ι) (hleft : (run step s is).1 ≠ s) :
    ∃ before i, accepts (step (run step s before).1 i).2 = true ∧
      (run step s is).1 = (step (run step s before).1 i).1 ∧
      acceptedInputs step accepts s is = acceptedInputs step accepts s before ++ [i] := by
  induction is using List.reverseRecOn with
  | nil => exact absurd rfl hleft
  | append_singleton is i ih =>
    rw [run_snoc] at hleft ⊢
    rw [acceptedInputs_snoc]
    cases haccepts : accepts (step (run step s is).1 i).2 with
    | true => exact ⟨is, i, haccepts, rfl, if_pos rfl⟩
    | false =>
      rw [hrefused _ _ haccepts] at hleft ⊢
      exact ih hleft

end

/-- Two machines whose related states answer alike, and stay related, answer a whole run
alike. The condition is on the steps of the second machine. -/
theorem simulation (stepₛ : σ → ι → σ × ο) (stepₜ : τ → ι → τ × ο) (related : σ → τ → Prop)
    (condition : τ → ι → Prop)
    (hstep : ∀ s t i, related s t → condition t i →
      (stepₛ s i).2 = (stepₜ t i).2 ∧ related (stepₛ s i).1 (stepₜ t i).1)
    (s : σ) (t : τ) (is : List ι) (h : related s t) (hsteps : AllSteps stepₜ condition t is) :
    (run stepₛ s is).2 = (run stepₜ t is).2 ∧
      related (run stepₛ s is).1 (run stepₜ t is).1 := by
  induction is generalizing s t with
  | nil => exact ⟨rfl, h⟩
  | cons i is ih =>
    obtain ⟨hout, hnext⟩ := hstep s t i h hsteps.1
    obtain ⟨houts, hlast⟩ := ih _ _ hnext hsteps.2
    rw [run_cons, run_cons]
    exact ⟨by rw [hout, houts], hlast⟩

/-! ## Two runs side by side -/

/-- The machine that runs two copies on the same inputs. -/
def both (step : σ → ι → σ × ο) (s : σ × σ) (i : ι) : (σ × σ) × (ο × ο) :=
  (((step s.1 i).1, (step s.2 i).1), ((step s.1 i).2, (step s.2 i).2))

/-- The two runs give the same answers and end in states that `same` holds of. -/
def Agree (step : σ → ι → σ × ο) (same : σ → σ → Prop) (s t : σ) (is : List ι) : Prop :=
  (run step s is).2 = (run step t is).2 ∧ same (run step s is).1 (run step t is).1

/-- Related states agree all along a run exactly when every pair of steps meets the
condition: a pair that meets it stays related, a pair that does not comes apart. -/
theorem lockstep (step : σ → ι → σ × ο) (related same : σ → σ → Prop)
    (condition : σ × σ → ι → Prop) (input : ι → Prop)
    (hsame : ∀ s t, related s t → same s t)
    (hkeep : ∀ s t i, related s t → input i → condition (s, t) i →
      (step s i).2 = (step t i).2 ∧ related (step s i).1 (step t i).1)
    (hbreak : ∀ s t i, related s t → input i → ¬ condition (s, t) i →
      ¬ same (step s i).1 (step t i).1)
    (s t : σ) (is : List ι) (h : related s t) (hinput : ∀ i ∈ is, input i) :
    (∀ k, Agree step same s t (is.take k)) ↔ AllSteps (both step) condition (s, t) is := by
  induction is generalizing s t with
  | nil => exact iff_of_true (fun k => by simpa [Agree] using hsame s t h) trivial
  | cons i is ih =>
    have hi := hinput i List.mem_cons_self
    have his := fun j hj => hinput j (List.mem_cons_of_mem _ hj)
    constructor
    · intro hagree
      have hcond : condition (s, t) i := by
        by_contra hno
        exact hbreak s t i h hi hno (hagree 1).2
      obtain ⟨-, hnext⟩ := hkeep s t i h hi hcond
      refine ⟨hcond, (ih _ _ hnext his).mp fun k => ?_⟩
      obtain ⟨hout, hlast⟩ := hagree (k + 1)
      rw [List.take_succ_cons, run_cons, run_cons] at hout hlast
      exact ⟨(List.cons.inj hout).2, hlast⟩
    · rintro ⟨hcond, hrest⟩ k
      obtain ⟨hout, hnext⟩ := hkeep s t i h hi hcond
      cases k with
      | zero => simpa [Agree] using hsame s t h
      | succ k =>
        obtain ⟨houts, hlast⟩ := (ih _ _ hnext his).mpr hrest k
        rw [List.take_succ_cons, Agree, run_cons, run_cons]
        exact ⟨by rw [hout, houts], hlast⟩

end Dasall.Lib.Run
